import MayastorExtensions.Library.Assignments
import MayastorExtensions.Library.OffsetPages
import MayastorExtensions.Library.Outcome
import MayastorExtensions.Supportability.LogCollection
import MayastorExtensions.Supportability.Topology

/-!
# The dump of topologies

The clients of `collect/resources` read volumes, snapshots, pools and nodes from the REST service
and put together the topology of each, one for an identifier or all of a kind.  The system dump
writes every topology of the four kinds to a file of its own; an error of one kind is kept, and the
other kinds go on.

The answers of the REST service do not change while they are read.  The file system is the one of
the collection of logs.
-/

namespace MayastorExtensions.Supportability

open Assignments OffsetPages

/-! ## The REST service -/

/-- An answer with a status that is not a success, or no answer. -/
inductive RestError where
  | response (status : ℕ)
  | request
  deriving DecidableEq, Repr

inductive ResourceError where
  | ioError
  | restJsonError (error : RestError)
  | jsonError
  | uuidParseError
  | customError (message : String)
  deriving DecidableEq, Repr

/-- Checks whether resource type error is REST NotFound or not. -/
def notFoundRestJsonError : ResourceError → Except ResourceError Bool
  | .restJsonError (.response status) =>
    if status = 404 then .ok true else .error (.restJsonError (.response status))
  | error => .error error

structure PooledReplica extends Replica where
  pool : String
  deriving DecidableEq, Repr

/-- A volume, with the keys of its replicas in the order in which their hash map is walked, and what
is only printed. -/
structure Volume where
  uuid : String
  target : Option Nexus
  replicaTopology : List String
  details : String
  deriving DecidableEq, Repr

structure RebuildHistory where
  details : String
  deriving DecidableEq, Repr

structure VolumeSnapshot where
  uuid : String
  details : String
  deriving DecidableEq, Repr

/-- The answers of the REST service, and the identifier that a text is read as.  Lists by pages are
asked for with a number of entries and a token. -/
structure RestService where
  getVolumes : ℕ → ℕ → Except RestError (List Volume × Option ℕ)
  getVolume : String → Except RestError Volume
  getRebuildHistory : String → Except RestError RebuildHistory
  getVolumesSnapshots : ℕ → ℕ → Except RestError (List VolumeSnapshot × Option ℕ)
  getVolumesSnapshot : String → Except RestError VolumeSnapshot
  getReplica : String → Except RestError PooledReplica
  getPools : Except RestError (List Pool)
  getPool : String → Except RestError Pool
  getNodes : Except RestError (List Node)
  getNode : String → Except RestError Node
  getNodeBlockDevices : String → Except RestError (List BlockDevice)
  parseUuid : String → Option String

/-- A topology of a volume as it is printed. -/
structure VolumeRecord extends VolumeTopology where
  volume : Volume
  rebuildHistory : Option RebuildHistory
  deriving DecidableEq, Repr

/-- How a client can end without a topology. -/
inductive Failure where
  | returned (error : ResourceError)
  | panicked
  | unfinished
  deriving DecidableEq, Repr

/-- Defines maximum entries REST service can fetch at one network call. -/
def MAX_RESOURCE_ENTRIES : ℕ := 200

section Clients

variable (service : RestService)

/-- The answer of the service in the error type of the clients. -/
def answer {α : Type} (outcome : Except RestError α) : Except ResourceError α :=
  outcome.mapError .restJsonError

/-- The loop over the pages of a list. -/
def listAll {α : Type} (getPage : ℕ → ℕ → Except RestError (List α × Option ℕ)) (fuel : ℕ) :
    Except Failure (List α) :=
  match readPages (getPage MAX_RESOURCE_ENTRIES) fuel 0 [] with
  | none => .error .unfinished
  | some outcome => (answer outcome).mapError .returned

/-! ## Pools -/

def getPoolNodeInfo (pool : Pool) : Except ResourceError (Option Node) :=
  match pool.spec with
  | some spec => (answer (service.getNode spec.node)).map some
  | none => .ok none

def getPoolDisksInfo (pool : Pool) : Except ResourceError (Option (List BlockDevice)) :=
  match pool.spec with
  | some spec =>
    (answer (service.getNodeBlockDevices spec.node)).map fun devices ↦
      some (devices.filter (isItPoolDevice spec))
  | none => .ok none

/-- An error is logged, and what was asked for is left out. -/
def orLogged {α : Type} : Except ResourceError (Option α) → Option α
  | .ok info => info
  | .error _ => none

def poolTopology (pool : Pool) : PoolTopology where
  pool := pool
  nodeInfo := orLogged (getPoolNodeInfo service pool)
  deviceInfo := orLogged (getPoolDisksInfo service pool)

def getPoolTopologer (id : String) : Except ResourceError PoolTopology := do
  let pool ← answer (service.getPool id)
  pure (poolTopology service pool)

def getPoolsTopologer : Except Failure (List PoolTopology) := do
  let pools ← (answer service.getPools).mapError .returned
  pure (pools.map (poolTopology service))

/-! ## Nodes -/

def listNodeBlockDevices (id : String) : Except ResourceError (List BlockDevice) :=
  match service.getNodeBlockDevices id with
  | .ok devices => .ok devices
  | .error error => do
    let _ ← notFoundRestJsonError (.restJsonError error)
    pure []

/-- Only a node that is online is asked for its devices. -/
def nodeTopology (node : Node) (id : String) : Except ResourceError NodeTopology :=
  match node.state with
  | none => .ok ⟨node, none⟩
  | some state =>
    if state.status = .online then do
      let devices ← listNodeBlockDevices service id
      pure ⟨node, some devices⟩
    else .ok ⟨node, none⟩

def getNodeTopologer (id : String) : Except ResourceError NodeTopology := do
  let node ← answer (service.getNode id)
  nodeTopology service node id

/-- A cluster without nodes is an error. -/
def getNodesTopologer : Except Failure (List NodeTopology) := do
  let nodes ← (answer service.getNodes).mapError .returned
  let topologies ←
    (nodes.mapM fun node ↦ nodeTopology service node node.id).mapError Failure.returned
  if topologies.isEmpty then .error (.returned (.customError "No Node resources"))
  else .ok topologies

/-! ## Volumes -/

def getReplicaTopology (id : String) : Except ResourceError ReplicaTopology := do
  let replica ← answer (service.getReplica id)
  let poolTopology ← getPoolTopologer service replica.pool
  pure ⟨replica.toReplica, poolTopology⟩

/-- A replica that is not found is left out. -/
def replicaIfFound (id : String) : Except ResourceError (Option ReplicaTopology) :=
  match getReplicaTopology service id with
  | .ok topology => .ok (some topology)
  | .error error => do
    let _ ← notFoundRestJsonError error
    pure none

/-- What a key that is no identifier leads to depends on the caller. -/
def replicaOfKey (badKey : Failure) (key : String) : Except Failure (Option ReplicaTopology) :=
  match service.parseUuid key with
  | none => .error badKey
  | some uuid => (replicaIfFound service uuid).mapError .returned

def replicasTopology (badKey : Failure) (keys : List String) :
    Except Failure (List ReplicaTopology) := do
  let replicas ← keys.mapM (replicaOfKey service badKey)
  pure replicas.reduceOption

/-- A rebuild history that cannot be read is left out. -/
def volumeRecord (badKey : Failure) (volume : Volume) (id : String) :
    Except Failure VolumeRecord := do
  let replicas ← replicasTopology service badKey volume.replicaTopology
  pure
    { target := volume.target
      replicasTopology := replicas
      volume := volume
      rebuildHistory := (service.getRebuildHistory id).toOption }

def getVolumeTopologer (id : String) : Except Failure VolumeRecord := do
  let volume ← (answer (service.getVolume id)).mapError .returned
  volumeRecord service (.returned .uuidParseError) volume id

/-- The identifiers of replicas are unwrapped here. -/
def getVolumesTopologer (fuel : ℕ) : Except Failure (List VolumeRecord) := do
  let volumes ← listAll service.getVolumes fuel
  volumes.mapM fun volume ↦ volumeRecord service .panicked volume volume.uuid

/-! ## Snapshots -/

def getSnapshotTopologer (id : String) : Except ResourceError VolumeSnapshot :=
  answer (service.getVolumesSnapshot id)

def getSnapshotsTopologer (fuel : ℕ) : Except Failure (List VolumeSnapshot) :=
  listAll service.getVolumesSnapshots fuel

end Clients

/-! ## Files -/

/-- The texts of the topologies, where they can be serialised. -/
structure Serializer where
  volume : VolumeRecord → Option String
  snapshot : VolumeSnapshot → Option String
  pool : PoolTopology → Option String
  node : NodeTopology → Option String

section Files

variable (env : LogEnv) (json : Serializer)

/-- `dump_topology_info`, which the topologies of all kinds have. -/
def dumpTopologyInfo (dirPath : Path) (fileName : String) (text : Option String) :
    Collecting ResourceError Unit := do
  createDirectoryIfNotExist env .ioError dirPath
  createFile env .ioError (dirPath ++ [fileName])
  match text with
  | none => Storing.ofExcept (.error .jsonError)
  | some text =>
    let (taken, content) := writeAll (env.accepts (dirPath ++ [fileName])) text ""
    Storing.write (dirPath ++ [fileName]) (some content)
    Storing.ofExcept (if taken then .ok () else .error .ioError)

def topologyFileName (kind id : String) : String := kind ++ "-" ++ id ++ "-topology.json"

def dumpVolumeTopology (dirPath : Path) (record : VolumeRecord) : Collecting ResourceError Unit :=
  dumpTopologyInfo env dirPath (topologyFileName "volume" record.volume.uuid) (json.volume record)

def dumpSnapshotTopology (dirPath : Path) (snapshot : VolumeSnapshot) :
    Collecting ResourceError Unit :=
  dumpTopologyInfo env dirPath (topologyFileName "snapshot" snapshot.uuid) (json.snapshot snapshot)

def dumpPoolTopology (dirPath : Path) (topology : PoolTopology) : Collecting ResourceError Unit :=
  dumpTopologyInfo env dirPath (topologyFileName "pool" topology.pool.id) (json.pool topology)

def dumpNodeTopology (dirPath : Path) (topology : NodeTopology) : Collecting ResourceError Unit :=
  dumpTopologyInfo env dirPath (topologyFileName "node" topology.node.id) (json.node topology)

/-- The topologies of a list, up to the first error. -/
def dumpEach {α : Type} (dump : α → Collecting ResourceError Unit) :
    List α → Collecting ResourceError Unit
  | [] => pure ()
  | topology :: topologies => do
    dump topology
    dumpEach dump topologies

/-! ## The system dump -/

/-- One kind of resource: what was read of it, with the errors.  Only a panic, or a loop that does
not end, stops the dump. -/
def dumpKind {α : Type} (topologer : Except Failure (List α))
    (dump : α → Collecting ResourceError Unit) :
    Collecting Failure (List ResourceError × Option (List α)) :=
  match topologer with
  | .ok topologies => do
    match ← Storing.attempt (dumpEach dump topologies) with
    | .ok _ => pure ([], some topologies)
    | .error error => pure ([error], some topologies)
  | .error (.returned error) => pure ([error], none)
  | .error failure => Storing.ofExcept (.error failure)

def topologyDir (workingDir kind : String) : Path := [workingDir, "topology", kind]

/-- The topologies of `dump_system`, with the errors, which it keeps in a list of its own and does
not return, and the nodes that the collection of logs goes on with. -/
def dumpSystemTopologies (service : RestService) (fuel : ℕ) (workingDir : String) :
    Collecting Failure (List ResourceError × Option (List NodeTopology)) := do
  let (volumeErrors, _) ← dumpKind (getVolumesTopologer service fuel)
    (dumpVolumeTopology env json (topologyDir workingDir "volume"))
  let (snapshotErrors, _) ← dumpKind (getSnapshotsTopologer service fuel)
    (dumpSnapshotTopology env json (topologyDir workingDir "snapshot"))
  let (poolErrors, _) ← dumpKind (getPoolsTopologer service)
    (dumpPoolTopology env json (topologyDir workingDir "pool"))
  let (nodeErrors, nodeTopologer) ← dumpKind (getNodesTopologer service)
    (dumpNodeTopology env json (topologyDir workingDir "node"))
  pure (volumeErrors ++ snapshotErrors ++ poolErrors ++ nodeErrors, nodeTopologer)

end Files

/-! ## What is read -/

/-- An answer, or none because there is no such resource. -/
def Unblocked {α : Type} (outcome : Except RestError α) : Prop :=
  ∀ error, outcome = .error error → error = .response 404

/-- Neither the replica nor its pool is refused. -/
def ReplicaReadable (service : RestService) (uuid : String) : Prop :=
  Unblocked (service.getReplica uuid) ∧
    ∀ replica, service.getReplica uuid = .ok replica → Unblocked (service.getPool replica.pool)

def VolumeReadable (service : RestService) (volume : Volume) : Prop :=
  ∀ key ∈ volume.replicaTopology, ∀ uuid, service.parseUuid key = some uuid →
    ReplicaReadable service uuid

/-- The devices of an online node are not refused. -/
def NodeReadable (service : RestService) (node : Node) : Prop :=
  ∀ state, node.state = some state → state.status = .online →
    Unblocked (service.getNodeBlockDevices node.id)

def foundReplica (service : RestService) (key : String) : Option ReplicaTopology :=
  (service.parseUuid key).bind fun uuid ↦ (getReplicaTopology service uuid).toOption

/-- The topology of a volume: the replicas that are found, with their pools. -/
def readVolume (service : RestService) (volume : Volume) : VolumeRecord where
  target := volume.target
  replicasTopology := volume.replicaTopology.filterMap (foundReplica service)
  volume := volume
  rebuildHistory := (service.getRebuildHistory volume.uuid).toOption

/-- The topology of a node: its devices, as far as they are found, if it is online. -/
def readNode (service : RestService) (node : Node) : NodeTopology where
  node := node
  devices := (node.state.filter fun state ↦ state.status = .online).map fun _ ↦
    (service.getNodeBlockDevices node.id).toOption.getD []

@[simp] theorem readVolume_volume (service : RestService) (volume : Volume) :
    (readVolume service volume).volume = volume := rfl

@[simp] theorem readNode_node (service : RestService) (node : Node) :
    (readNode service node).node = node := rfl

@[simp] theorem poolTopology_pool (service : RestService) (pool : Pool) :
    (poolTopology service pool).pool = pool := rfl

/-- The keys of the replicas are identifiers. -/
def KeysParse (service : RestService) (volumes : List Volume) : Prop :=
  ∀ volume ∈ volumes, ∀ key ∈ volume.replicaTopology, (service.parseUuid key).isSome

/-- The service has these resources, and the keys of the replicas are identifiers. -/
structure Holds (service : RestService) (volumes : List Volume) (snapshots : List VolumeSnapshot)
    (pools : List Pool) (nodes : List Node) : Prop where
  listsVolumes : Lists (service.getVolumes MAX_RESOURCE_ENTRIES) volumes
  listsSnapshots : Lists (service.getVolumesSnapshots MAX_RESOURCE_ENTRIES) snapshots
  listsPools : service.getPools = .ok pools
  listsNodes : service.getNodes = .ok nodes
  keys : KeysParse service volumes

/-- An error that the client returns. -/
def Failure.IsReturned (failure : Failure) : Prop := ∃ error, failure = .returned error

section Reading

open Outcome (Settles)

variable {service : RestService} {volumes : List Volume} {snapshots : List VolumeSnapshot}
  {pools : List Pool} {nodes : List Node}

theorem unblocked_ok {α : Type} (value : α) : Unblocked (.ok value) :=
  fun _ h ↦ by cases h

theorem unblocked_error_iff {α : Type} {error : RestError} :
    Unblocked (.error error : Except RestError α) ↔ error = .response 404 :=
  ⟨fun h ↦ h error rfl, fun h _ heq ↦ (Except.error.inj heq) ▸ h⟩

/-- What is not found is ignored, and any other error is passed on. -/
theorem notFound_settles {α β : Type} (error : RestError) (result : β) :
    Settles (notFoundRestJsonError (.restJsonError error) >>= fun _ ↦ pure result)
      (Unblocked (.error error : Except RestError α)) result fun _ ↦ True := by
  rw [unblocked_error_iff]
  cases error with
  | request => exact .inr ⟨by simp, _, trivial, rfl⟩
  | response status =>
    by_cases hstatus : status = 404
    · rw [hstatus]
      exact .inl ⟨rfl, rfl⟩
    · refine .inr ⟨by simpa using hstatus, .restJsonError (.response status), trivial, ?_⟩
      simp only [notFoundRestJsonError, if_neg hstatus]
      rfl

theorem getReplicaTopology_of_ok {uuid : String} {replica : PooledReplica}
    (h : service.getReplica uuid = .ok replica) :
    getReplicaTopology service uuid = (answer (service.getPool replica.pool)).map fun pool ↦
      ⟨replica.toReplica, poolTopology service pool⟩ := by
  rw [getReplicaTopology, h]
  show (getPoolTopologer service replica.pool >>= _) = _
  rw [getPoolTopologer]
  cases service.getPool replica.pool <;> rfl

theorem replicaReadable_of_ok {uuid : String} {replica : PooledReplica}
    (h : service.getReplica uuid = .ok replica) :
    ReplicaReadable service uuid ↔ Unblocked (service.getPool replica.pool) := by
  rw [ReplicaReadable, h]
  constructor
  · exact fun hreadable ↦ hreadable.2 replica rfl
  · intro hpool
    exact ⟨unblocked_ok _, fun _ heq ↦ (Except.ok.inj heq) ▸ hpool⟩

theorem replicaIfFound_settles (uuid : String) :
    Settles (replicaIfFound service uuid) (ReplicaReadable service uuid)
      (getReplicaTopology service uuid).toOption fun _ ↦ True := by
  unfold replicaIfFound
  cases hreplica : service.getReplica uuid with
  | error error =>
    have hrefused : getReplicaTopology service uuid = .error (.restJsonError error) := by
      rw [getReplicaTopology, hreplica]
      rfl
    rw [hrefused]
    refine (@notFound_settles PooledReplica _ error none).congr ?_
    rw [ReplicaReadable, hreplica]
    exact (and_iff_left fun _ h ↦ by cases h).symm
  | ok replica =>
    rw [getReplicaTopology_of_ok hreplica, replicaReadable_of_ok hreplica]
    cases service.getPool replica.pool with
    | error error => exact @notFound_settles Pool _ error none
    | ok pool => exact .inl ⟨unblocked_ok _, rfl⟩

theorem volumeRecord_settles {volume : Volume} (badKey : Failure)
    (hkeys : ∀ key ∈ volume.replicaTopology, (service.parseUuid key).isSome) :
    Settles (volumeRecord service badKey volume volume.uuid) (VolumeReadable service volume)
      (readVolume service volume) Failure.IsReturned := by
  have hkey : ∀ key ∈ volume.replicaTopology, Settles (replicaOfKey service badKey key)
      (∀ uuid, service.parseUuid key = some uuid → ReplicaReadable service uuid)
      (foundReplica service key) Failure.IsReturned := by
    intro key hmem
    obtain ⟨uuid, huuid⟩ := Option.isSome_iff_exists.mp (hkeys key hmem)
    unfold replicaOfKey foundReplica
    rw [huuid]
    refine ((replicaIfFound_settles uuid).mapError fun error _ ↦ ⟨error, rfl⟩).congr ?_
    simp
  have hreplicas : Settles (replicasTopology service badKey volume.replicaTopology)
      (VolumeReadable service volume)
      (volume.replicaTopology.filterMap (foundReplica service)) Failure.IsReturned := by
    have hfound : volume.replicaTopology.filterMap (foundReplica service) =
        (volume.replicaTopology.map (foundReplica service)).reduceOption := by
      show _ = (volume.replicaTopology.map (foundReplica service)).filterMap id
      rw [List.filterMap_map, Function.id_comp]
    rw [hfound]
    exact (Settles.mapM hkey).bind_pure List.reduceOption
  exact hreplicas.bind_pure fun replicas ↦ VolumeRecord.mk ⟨volume.target, replicas⟩ volume
    (service.getRebuildHistory volume.uuid).toOption

theorem listNodeBlockDevices_settles (id : String) :
    Settles (listNodeBlockDevices service id) (Unblocked (service.getNodeBlockDevices id))
      ((service.getNodeBlockDevices id).toOption.getD []) fun _ ↦ True := by
  unfold listNodeBlockDevices
  cases service.getNodeBlockDevices id with
  | ok devices => exact .inl ⟨unblocked_ok _, rfl⟩
  | error error => exact notFound_settles error []

theorem nodeTopology_settles (node : Node) :
    Settles (nodeTopology service node node.id) (NodeReadable service node)
      (readNode service node) fun _ ↦ True := by
  unfold nodeTopology NodeReadable readNode
  cases node.state with
  | none => exact .inl ⟨fun _ h ↦ (by cases h), rfl⟩
  | some state =>
    by_cases honline : state.status = .online
    · simp only [Option.some.injEq, forall_eq', honline, forall_const, if_true, Option.filter_some,
        decide_true, Option.map_some]
      exact (listNodeBlockDevices_settles node.id).bind_pure
        fun devices ↦ NodeTopology.mk node (some devices)
    · exact .inl ⟨by simp [honline], by simp [honline]⟩

theorem listAll_eq {α : Type} {getPage : ℕ → ℕ → Except RestError (List α × Option ℕ)}
    {items : List α} {fuel : ℕ} (hlists : Lists (getPage MAX_RESOURCE_ENTRIES) items)
    (hfuel : items.length < fuel) : listAll getPage fuel = .ok items := by
  rw [listAll, readPages_eq hlists hfuel]
  rfl

theorem getVolumesTopologer_settles {fuel : ℕ}
    (hlists : Lists (service.getVolumes MAX_RESOURCE_ENTRIES) volumes)
    (hkeys : KeysParse service volumes) (hfuel : volumes.length < fuel) :
    Settles (getVolumesTopologer service fuel) (∀ volume ∈ volumes, VolumeReadable service volume)
      (volumes.map (readVolume service)) Failure.IsReturned := by
  rw [getVolumesTopologer, listAll_eq hlists hfuel]
  exact Settles.mapM fun volume hvolume ↦ volumeRecord_settles _ (hkeys volume hvolume)

theorem getNodesTopologer_settles (hholds : Holds service volumes snapshots pools nodes) :
    Settles (getNodesTopologer service) ((∀ node ∈ nodes, NodeReadable service node) ∧ nodes ≠ [])
      (nodes.map (readNode service)) Failure.IsReturned := by
  rw [getNodesTopologer, hholds.listsNodes]
  refine ((Settles.mapM fun node _ ↦ nodeTopology_settles node).mapError
    fun error _ ↦ ⟨error, rfl⟩).bind ?_
  cases nodes with
  | nil => exact .inr ⟨by simp, _, ⟨_, rfl⟩, rfl⟩
  | cons node nodes => exact .inl ⟨by simp, rfl⟩

end Reading

/-! ## One volume and all volumes -/

/-- The same topology, with its replicas in another order. -/
structure VolumeRecord.SameAs (record other : VolumeRecord) : Prop where
  target : record.target = other.target
  replicasTopology : record.replicasTopology.Perm other.replicasTopology
  uuid : record.volume.uuid = other.volume.uuid
  details : record.volume.details = other.volume.details
  rebuildHistory : record.rebuildHistory = other.rebuildHistory

/-- The volume is answered for alone as it is in the list; the order in which the map of its
replicas is walked may be another one. -/
def AnswersAlike (service : RestService) (volume : Volume) : Prop :=
  ∃ keys : List String, keys.Perm volume.replicaTopology ∧
    service.getVolume volume.uuid = .ok { volume with replicaTopology := keys }

section OneVolume

open Outcome (Settles)

variable {service : RestService} {volume : Volume}

theorem getVolumeTopologer_settles (halike : AnswersAlike service volume)
    (hkeys : ∀ key ∈ volume.replicaTopology, (service.parseUuid key).isSome) :
    ∃ record : VolumeRecord, record.SameAs (readVolume service volume) ∧
      Settles (getVolumeTopologer service volume.uuid) (VolumeReadable service volume) record
        Failure.IsReturned := by
  obtain ⟨keys, hperm, hanswer⟩ := halike
  have hmem : ∀ key, key ∈ keys ↔ key ∈ volume.replicaTopology := fun key ↦ hperm.mem_iff
  have hrecord := @volumeRecord_settles service { volume with replicaTopology := keys }
    (.returned .uuidParseError) fun key hkey ↦ hkeys key ((hmem key).mp hkey)
  refine ⟨readVolume service { volume with replicaTopology := keys },
    ⟨rfl, hperm.filterMap _, rfl, rfl, rfl⟩, ?_⟩
  rw [getVolumeTopologer, hanswer]
  refine hrecord.congr ?_
  simp only [VolumeReadable, hmem]

end OneVolume

/-- The client reads all volumes exactly if it reads each of them alone, and then each topology of
the list is the one that it reads for the volume alone, up to the order of the replicas. -/
theorem getVolumesTopologer_agrees {service : RestService} {volumes : List Volume} {fuel : ℕ}
    (hlists : Lists (service.getVolumes MAX_RESOURCE_ENTRIES) volumes)
    (hkeys : KeysParse service volumes) (hfuel : volumes.length < fuel)
    (halike : ∀ volume ∈ volumes, AnswersAlike service volume) :
    ((getVolumesTopologer service fuel).isOk ↔
      ∀ volume ∈ volumes, (getVolumeTopologer service volume.uuid).isOk) ∧
    ∀ records, getVolumesTopologer service fuel = .ok records →
      List.Forall₂ (fun volume record ↦
        ∃ alone, getVolumeTopologer service volume.uuid = .ok alone ∧ alone.SameAs record)
          volumes records := by
  have hall := getVolumesTopologer_settles hlists hkeys hfuel
  have hone := fun volume hvolume ↦
    getVolumeTopologer_settles (halike volume hvolume) (hkeys volume hvolume)
  constructor
  · rw [hall.isOk_iff]
    refine forall₂_congr fun volume hvolume ↦ ?_
    obtain ⟨record, -, hsettles⟩ := hone volume hvolume
    exact hsettles.isOk_iff.symm
  · intro records hrecords
    have hreadable := hall.isOk_iff.mp (by rw [hrecords]; rfl)
    have heq := hall.eq_ok hreadable
    rw [hrecords] at heq
    rw [Except.ok.inj heq, List.forall₂_map_right_iff, List.forall₂_same]
    intro volume hvolume
    obtain ⟨record, hsame, hsettles⟩ := hone volume hvolume
    exact ⟨record, hsettles.eq_ok (hreadable volume hvolume), hsame⟩

/-! ## What is written -/

/-- Every topology can be serialised. -/
structure Serializer.Total (json : Serializer) : Prop where
  volume : ∀ record, (json.volume record).isSome
  snapshot : ∀ snapshot, (json.snapshot snapshot).isSome
  pool : ∀ topology, (json.pool topology).isSome
  node : ∀ topology, (json.node topology).isSome

/-- A topology to write: the identifier its file is named after, and its text. -/
abbrev Entry := String × Option String

/-- All entries of a kind, or none. -/
noncomputable def entriesIf (condition : Prop) (entries : List Entry) : List Entry :=
  open Classical in
  if condition then entries else []

def topologyFile (workingDir kind id : String) : Path :=
  topologyDir workingDir kind ++ [topologyFileName kind id]

/-- The writes of the kinds, one after the other. -/
def tableWrites (workingDir : String) (table : List (String × List Entry)) :
    List (Path × Option String) :=
  table.flatMap fun kind ↦ kind.2.map fun entry ↦ (topologyFile workingDir kind.1 entry.1, entry.2)

section Writing

open Outcome (Settles)

variable {env : LogEnv}

theorem dumpTopologyInfo_writes (hwritable : env.Writable) (dirPath : Path)
    (fileName : String) {text : Option String} (htext : text.isSome) :
    Writes (dumpTopologyInfo env dirPath fileName text) (.ok ())
      [(dirPath ++ [fileName], text)] := by
  obtain ⟨content, rfl⟩ := Option.isSome_iff_exists.mp htext
  have hdirectory := @createDirectoryIfNotExist_writes env _ ResourceError.ioError dirPath
  rw [if_pos (hwritable.directories dirPath)] at hdirectory
  have hcreate : Writes (createFile env ResourceError.ioError (dirPath ++ [fileName])) (.ok ())
      [(dirPath ++ [fileName], some "")] := by
    rw [createFile, if_pos (hwritable.files _)]
    exact Writes.write _ _
  have hwhole : writeAll (env.accepts (dirPath ++ [fileName])) content "" = (true, content) := by
    rw [writeAll, if_pos (hwritable.chunks _ _ _), String.empty_append]
  unfold dumpTopologyInfo
  simp only [hwhole]
  refine hdirectory.bind (Writes.overwrite (hcreate.bind ?_))
  exact Writes.bind_silent (Writes.write _ _) (Writes.ofExcept _)

theorem dumpEach_writes {α : Type} {dump : α → Collecting ResourceError Unit} {items : List α}
    {file : α → Path} {content : α → Option String}
    (h : ∀ item ∈ items, Writes (dump item) (.ok ()) [(file item, content item)]) :
    Writes (dumpEach dump items) (.ok ()) (items.map fun item ↦ (file item, content item)) := by
  induction items with
  | nil => exact Writes.pure ()
  | cons item items ih =>
    rw [List.forall_mem_cons] at h
    exact h.1.bind (ih h.2)

/-- A kind is written as a whole or not at all, and does not stop the dump. -/
theorem dumpKind_writes {α : Type} {topologer : Except Failure (List α)} {condition : Prop}
    {dump : α → Collecting ResourceError Unit} {items : List α} {workingDir kind : String}
    {id : α → String} {content : α → Option String}
    (h : Settles topologer condition items Failure.IsReturned)
    (hdump : ∀ item ∈ items,
      Writes (dump item) (.ok ()) [(topologyFile workingDir kind (id item), content item)]) :
    ∃ errors topologies, Writes (dumpKind topologer dump) (.ok (errors, topologies))
      ((entriesIf condition (items.map fun item ↦ (id item, content item))).map fun entry ↦
        (topologyFile workingDir kind entry.1, entry.2)) ∧
      (errors = [] ↔ condition) ∧ (condition → topologies = some items) := by
  rcases h with ⟨hholds, rfl⟩ | ⟨hfails, failure, ⟨error, rfl⟩, rfl⟩
  · refine ⟨[], some items, ?_, iff_of_true rfl hholds, fun _ ↦ rfl⟩
    rw [entriesIf, if_pos hholds, List.map_map]
    exact Writes.bind_silent (dumpEach_writes hdump).attempt (Writes.pure _)
  · refine ⟨[error], none, ?_, iff_of_false (by simp) hfails, fun hholds ↦ absurd hholds hfails⟩
    rw [entriesIf, if_neg hfails]
    exact Writes.pure _

theorem topologyFileName_inj {kind id id' : String}
    (h : topologyFileName kind id = topologyFileName kind id') : id = id' := by
  have hchars := congrArg String.toList h
  simp only [topologyFileName, String.toList_append, List.append_cancel_right_eq,
    List.append_cancel_left_eq] at hchars
  exact String.ext hchars

theorem topologyPath_inj {workingDir kind kind' name name' : String}
    (h : topologyDir workingDir kind ++ [name] = topologyDir workingDir kind' ++ [name']) :
    kind = kind' ∧ name = name' := by
  simpa [topologyDir] using h

end Writing

/-! ## The files of the four kinds -/

/-- In the directory of a kind, the entries are there and nothing else has changed. -/
structure Dumped (files files' : LogFiles) (workingDir kind : String) (entries : List Entry) :
    Prop where
  written : ∀ entry ∈ entries, files' (topologyFile workingDir kind entry.1) = entry.2
  others : ∀ name, (∀ entry ∈ entries, name ≠ topologyFileName kind entry.1) →
    files' (topologyDir workingDir kind ++ [name]) = files (topologyDir workingDir kind ++ [name])

/-- An identifier stands for one resource. -/
def Identifies {α : Type} (id : α → String) (items : List α) : Prop :=
  ∀ item ∈ items, ∀ other ∈ items, id item = id other → item = other

section Tables

variable {workingDir : String} {table : List (String × List Entry)}

theorem mem_tableWrites {write : Path × Option String} :
    write ∈ tableWrites workingDir table ↔ ∃ kind ∈ table, ∃ entry ∈ kind.2,
      (topologyFile workingDir kind.1 entry.1, entry.2) = write := by
  simp only [tableWrites, List.mem_flatMap, List.mem_map]

theorem entriesIf_agree {α : Type} {condition : Prop} {id : α → String}
    {content : α → Option String} {items : List α} (hid : Identifies id items) :
    Agree (entriesIf condition (items.map fun item ↦ (id item, content item))) := by
  intro entry hentry other hother hsame
  unfold entriesIf at hentry hother
  split at hentry
  next hholds =>
    rw [if_pos hholds] at hother
    obtain ⟨item, hitem, rfl⟩ := List.mem_map.mp hentry
    obtain ⟨item', hitem', rfl⟩ := List.mem_map.mp hother
    rw [hid item hitem item' hitem' hsame]
  next => exact absurd hentry List.not_mem_nil

variable (hkinds : (table.map Prod.fst).Nodup) (hentries : ∀ kind ∈ table, Agree kind.2)

include hkinds hentries

theorem tableWrites_agree : Agree (tableWrites workingDir table) := by
  intro write hwrite other hother hpath
  obtain ⟨kind, hkind, entry, hentry, rfl⟩ := mem_tableWrites.mp hwrite
  obtain ⟨kind', hkind', entry', hentry', rfl⟩ := mem_tableWrites.mp hother
  obtain ⟨hname, hfile⟩ := topologyPath_inj hpath
  obtain rfl : kind = kind' := List.inj_on_of_nodup_map hkinds hkind hkind' hname
  exact hentries kind hkind entry hentry entry' hentry' (topologyFileName_inj hfile)

theorem dumped_of_mem {kind : String × List Entry} (hkind : kind ∈ table) (files : LogFiles) :
    Dumped files (assign (tableWrites workingDir table) files) workingDir kind.1 kind.2 where
  written entry hentry := by
    have hmem : (topologyFile workingDir kind.1 entry.1, entry.2) ∈ tableWrites workingDir table :=
      mem_tableWrites.mpr ⟨kind, hkind, entry, hentry, rfl⟩
    exact assign_of_mem (tableWrites_agree hkinds hentries) hmem files
  others name hname := by
    refine assign_of_forall_ne ?_ files
    intro write hwrite hpath
    obtain ⟨kind', hkind', entry, hentry, rfl⟩ := mem_tableWrites.mp hwrite
    obtain ⟨hsame, hfile⟩ := topologyPath_inj hpath
    obtain rfl : kind' = kind := List.inj_on_of_nodup_map hkinds hkind' hkind hsame
    exact hname entry hentry hfile.symm

end Tables

section System

variable {service : RestService} {env : LogEnv} {json : Serializer} {volumes : List Volume}
  {snapshots : List VolumeSnapshot} {pools : List Pool} {nodes : List Node}

/-- What the dump is to write. -/
noncomputable def systemTable (service : RestService) (json : Serializer) (volumes : List Volume)
    (snapshots : List VolumeSnapshot) (pools : List Pool) (nodes : List Node) :
    List (String × List Entry) :=
  [("volume", entriesIf (∀ volume ∈ volumes, VolumeReadable service volume)
      (volumes.map fun volume ↦ (volume.uuid, json.volume (readVolume service volume)))),
    ("snapshot", snapshots.map fun snapshot ↦ (snapshot.uuid, json.snapshot snapshot)),
    ("pool", pools.map fun pool ↦ (pool.id, json.pool (poolTopology service pool))),
    ("node", entriesIf ((∀ node ∈ nodes, NodeReadable service node) ∧ nodes ≠ [])
      (nodes.map fun node ↦ (node.id, json.node (readNode service node))))]

theorem entriesIf_true (entries : List Entry) : entriesIf True entries = entries :=
  if_pos trivial

theorem dumpSystemTopologies_writes {fuel : ℕ}
    (hholds : Holds service volumes snapshots pools nodes) (hwritable : env.Writable)
    (hjson : json.Total) (hvolumes : volumes.length < fuel)
    (hsnapshots : snapshots.length < fuel) (workingDir : String) :
    ∃ errors nodeTopologer, Writes (dumpSystemTopologies env json service fuel workingDir)
        (.ok (errors, nodeTopologer))
        (tableWrites workingDir (systemTable service json volumes snapshots pools nodes)) ∧
      (errors = [] ↔ (∀ volume ∈ volumes, VolumeReadable service volume) ∧
        (∀ node ∈ nodes, NodeReadable service node) ∧ nodes ≠ []) ∧
      ((∀ node ∈ nodes, NodeReadable service node) ∧ nodes ≠ [] →
        nodeTopologer = some (nodes.map (readNode service))) := by
  have hpools : getPoolsTopologer service = .ok (pools.map (poolTopology service)) := by
    rw [getPoolsTopologer, hholds.listsPools]
    rfl
  obtain ⟨volumeErrors, volumeTopologer, hvolume, hvolumeErrors, -⟩ :=
    dumpKind_writes (getVolumesTopologer_settles hholds.listsVolumes hholds.keys hvolumes)
      fun record _ ↦
      dumpTopologyInfo_writes hwritable (topologyDir workingDir "volume")
        (topologyFileName "volume" record.volume.uuid) (hjson.volume record)
  obtain ⟨snapshotErrors, snapshotTopologer, hsnapshot, hsnapshotErrors, -⟩ :=
    dumpKind_writes (.inl ⟨trivial, listAll_eq hholds.listsSnapshots hsnapshots⟩) fun snapshot _ ↦
      dumpTopologyInfo_writes hwritable (topologyDir workingDir "snapshot")
        (topologyFileName "snapshot" snapshot.uuid) (hjson.snapshot snapshot)
  obtain ⟨poolErrors, poolTopologer, hpool, hpoolErrors, -⟩ :=
    dumpKind_writes (.inl ⟨trivial, hpools⟩) fun topology _ ↦
      dumpTopologyInfo_writes hwritable (topologyDir workingDir "pool")
        (topologyFileName "pool" topology.pool.id) (hjson.pool topology)
  obtain ⟨nodeErrors, nodeTopologer, hnode, hnodeErrors, hnodes⟩ :=
    dumpKind_writes (getNodesTopologer_settles hholds) fun topology _ ↦
      dumpTopologyInfo_writes hwritable (topologyDir workingDir "node")
        (topologyFileName "node" topology.node.id) (hjson.node topology)
  refine ⟨volumeErrors ++ snapshotErrors ++ poolErrors ++ nodeErrors, nodeTopologer, ?_, ?_, hnodes⟩
  · have hdump : Writes (dumpSystemTopologies env json service fuel workingDir) _ _ :=
      hvolume.bind (hsnapshot.bind (hpool.bind (hnode.bind_silent (Writes.pure _))))
    simpa [tableWrites, systemTable, entriesIf_true, Function.comp_def] using hdump
  · simp only [List.append_eq_nil_iff, hvolumeErrors, hsnapshotErrors, hpoolErrors, hnodeErrors,
      and_true]

end System

/-- The dump of the topologies of a system comes to an end with, in the directory of each kind, one
file for each resource of the service, with the topology as it stands in the service, and changes no
other file.  A replica, or its pool, that is refused for another reason than that it is not found
leaves out all volumes, and devices of an online node that are refused, or no nodes at all, leave
out all nodes; the other kinds are there in any case.  The list of errors is empty exactly if
nothing is left out. -/
theorem dumpSystemTopologies_files {service : RestService} {env : LogEnv} {json : Serializer}
    {volumes : List Volume} {snapshots : List VolumeSnapshot} {pools : List Pool}
    {nodes : List Node} {fuel : ℕ} (hholds : Holds service volumes snapshots pools nodes)
    (hwritable : env.Writable) (hjson : json.Total) (hvolumes : volumes.length < fuel)
    (hsnapshots : snapshots.length < fuel) (hvolumeIds : Identifies Volume.uuid volumes)
    (hsnapshotIds : Identifies VolumeSnapshot.uuid snapshots) (hpoolIds : Identifies Pool.id pools)
    (hnodeIds : Identifies Node.id nodes) (workingDir : String) (files : LogFiles) :
    ∃ errors nodeTopologer files', dumpSystemTopologies env json service fuel workingDir files =
        (.ok (errors, nodeTopologer), files') ∧
      (errors = [] ↔ (∀ volume ∈ volumes, VolumeReadable service volume) ∧
        (∀ node ∈ nodes, NodeReadable service node) ∧ nodes ≠ []) ∧
      ((∀ node ∈ nodes, NodeReadable service node) ∧ nodes ≠ [] →
        nodeTopologer = some (nodes.map (readNode service))) ∧
      Dumped files files' workingDir "volume"
        (entriesIf (∀ volume ∈ volumes, VolumeReadable service volume)
          (volumes.map fun volume ↦ (volume.uuid, json.volume (readVolume service volume)))) ∧
      Dumped files files' workingDir "snapshot"
        (snapshots.map fun snapshot ↦ (snapshot.uuid, json.snapshot snapshot)) ∧
      Dumped files files' workingDir "pool"
        (pools.map fun pool ↦ (pool.id, json.pool (poolTopology service pool))) ∧
      Dumped files files' workingDir "node"
        (entriesIf ((∀ node ∈ nodes, NodeReadable service node) ∧ nodes ≠ [])
          (nodes.map fun node ↦ (node.id, json.node (readNode service node)))) ∧
      ∀ path, (∀ kind name, path ≠ topologyDir workingDir kind ++ [name]) →
        files' path = files path := by
  obtain ⟨errors, nodeTopologer, hwrites, herrors, hnodes⟩ :=
    dumpSystemTopologies_writes hholds hwritable hjson hvolumes hsnapshots workingDir
  have hkinds : ((systemTable service json volumes snapshots pools nodes).map Prod.fst).Nodup := by
    simp [systemTable]
  have hentries : ∀ kind ∈ systemTable service json volumes snapshots pools nodes,
      Agree kind.2 := by
    simp only [systemTable, List.forall_mem_cons, List.not_mem_nil, false_imp_iff, implies_true,
      and_true]
    refine ⟨entriesIf_agree hvolumeIds, ?_, ?_, entriesIf_agree hnodeIds⟩
    · rw [← entriesIf_true (snapshots.map _)]
      exact entriesIf_agree hsnapshotIds
    · rw [← entriesIf_true (pools.map _)]
      exact entriesIf_agree hpoolIds
  have hdumped : ∀ kind ∈ systemTable service json volumes snapshots pools nodes, Dumped files _
      workingDir kind.1 kind.2 := fun kind hkind ↦ dumped_of_mem hkinds hentries hkind files
  simp only [systemTable, List.forall_mem_cons, List.not_mem_nil, false_imp_iff, implies_true,
    and_true] at hdumped
  obtain ⟨hvolume, hsnapshot, hpool, hnode⟩ := hdumped
  refine ⟨errors, nodeTopologer, _, hwrites files, herrors, hnodes, hvolume, hsnapshot, hpool,
    hnode, ?_⟩
  intro path hpath
  refine assign_of_forall_ne ?_ files
  intro write hwrite hsame
  obtain ⟨kind, -, entry, -, rfl⟩ := mem_tableWrites.mp hwrite
  exact hpath kind.1 _ hsame.symm

/-- A volume with a replica on `p1` and one that is not found, and nodes without known devices. -/
def smallService : RestService where
  getVolumes := fun entries token ↦
    .ok (fullPage entries [⟨"v1", none, ["r1", "r2"], "4GiB"⟩] token)
  getVolume := fun _ ↦ .ok ⟨"v1", none, ["r2", "r1"], "4GiB"⟩
  getRebuildHistory := fun _ ↦ .error (.response 404)
  getVolumesSnapshots := fun entries token ↦ .ok (fullPage entries [⟨"s1", "of v1"⟩] token)
  getVolumesSnapshot := fun _ ↦ .ok ⟨"s1", "of v1"⟩
  getReplica := fun uuid ↦
    if uuid = "r1" then .ok ⟨⟨"n1", .online⟩, "p1"⟩ else .error (.response 404)
  getPools := .ok [⟨"p1", some ⟨"n1", ["/dev/sda"]⟩, none⟩]
  getPool := fun _ ↦ .ok ⟨"p1", some ⟨"n1", ["/dev/sda"]⟩, none⟩
  getNodes := .ok [⟨"n1", some ⟨"n1"⟩, some ⟨"n1", .online⟩⟩]
  getNode := fun _ ↦ .ok ⟨"n1", some ⟨"n1"⟩, some ⟨"n1", .online⟩⟩
  getNodeBlockDevices := fun _ ↦ .error (.response 404)
  parseUuid := some

def smallSerializer : Serializer where
  volume := fun record ↦ some (record.volume.uuid ++ " on " ++ ", ".intercalate
    (record.replicasTopology.map fun replica ↦ replica.poolTopology.pool.id))
  snapshot := fun snapshot ↦ some snapshot.details
  pool := fun topology ↦ some topology.pool.id
  node := fun topology ↦ some topology.node.id

theorem identifies_singleton {α : Type} (id : α → String) (item : α) : Identifies id [item] := by
  intro first hfirst second hsecond _
  rw [List.mem_singleton.mp hfirst, List.mem_singleton.mp hsecond]

theorem smallService_holds :
    Holds smallService [⟨"v1", none, ["r1", "r2"], "4GiB"⟩] [⟨"s1", "of v1"⟩]
      [⟨"p1", some ⟨"n1", ["/dev/sda"]⟩, none⟩]
      [⟨"n1", some ⟨"n1"⟩, some ⟨"n1", .online⟩⟩] where
  listsVolumes := ⟨_, pages_fullPage (by decide) _, fun _ ↦ rfl⟩
  listsSnapshots := ⟨_, pages_fullPage (by decide) _, fun _ ↦ rfl⟩
  listsPools := rfl
  listsNodes := rfl
  keys _ _ _ _ := rfl

theorem smallService_readable (volume : Volume) : VolumeReadable smallService volume := by
  intro key _ uuid _
  refine ⟨?_, fun replica _ ↦ unblocked_ok _⟩
  simp only [smallService]
  split
  · exact unblocked_ok _
  · exact unblocked_error_iff.mpr rfl

theorem dumpSystemTopologies_files_small :
    ∃ errors nodeTopologer files', dumpSystemTopologies restartedEnv smallSerializer smallService 2
        "dump" (fun _ ↦ none) = (.ok (errors, nodeTopologer), files') ∧
      files' ["dump", "topology", "volume", "volume-v1-topology.json"] = some "v1 on p1" := by
  obtain ⟨errors, nodeTopologer, files', hrun, -, -, hvolume, -⟩ :=
    @dumpSystemTopologies_files _ restartedEnv smallSerializer _ _ _ _ 2 smallService_holds
      ⟨fun _ ↦ rfl, fun _ ↦ rfl, fun _ _ _ ↦ rfl⟩
      ⟨fun _ ↦ rfl, fun _ ↦ rfl, fun _ ↦ rfl, fun _ ↦ rfl⟩ (by decide) (by decide)
      (identifies_singleton _ _) (identifies_singleton _ _) (identifies_singleton _ _)
      (identifies_singleton _ _) "dump" fun _ ↦ none
  refine ⟨errors, nodeTopologer, files', hrun, ?_⟩
  rw [entriesIf, if_pos fun volume _ ↦ smallService_readable volume] at hvolume
  refine (hvolume.written _ (List.mem_singleton_self _)).trans ?_
  decide +kernel

theorem getVolumesTopologer_agrees_small :
    ∃ alone, getVolumeTopologer smallService "v1" = .ok alone ∧
      alone.replicasTopology.Perm
        (readVolume smallService ⟨"v1", none, ["r1", "r2"], "4GiB"⟩).replicasTopology := by
  have halike : ∀ volume ∈ [(⟨"v1", none, ["r1", "r2"], "4GiB"⟩ : Volume)],
      AnswersAlike smallService volume := by
    intro volume hvolume
    rw [List.mem_singleton.mp hvolume]
    exact ⟨["r2", "r1"], List.Perm.swap _ _ _, rfl⟩
  have hrecords : getVolumesTopologer smallService 2 =
      .ok [readVolume smallService ⟨"v1", none, ["r1", "r2"], "4GiB"⟩] := by
    decide +kernel
  obtain ⟨hfirst, -⟩ := List.forall₂_cons.mp
    ((getVolumesTopologer_agrees smallService_holds.listsVolumes smallService_holds.keys
      (by decide) halike).2 _ hrecords)
  obtain ⟨alone, halone, hsame⟩ := hfirst
  exact ⟨alone, halone, hsame.replicasTopology⟩

end MayastorExtensions.Supportability
