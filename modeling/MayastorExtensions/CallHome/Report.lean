import MayastorExtensions.CallHome.EventStats
import MayastorExtensions.CallHome.ManagedDisks
import MayastorExtensions.CallHome.Percentile
import MayastorExtensions.KubeClient
import MayastorExtensions.Library.Outcome

/-!
# The report

`generate_report` of `main.rs` asks the Kubernetes API for the nodes of the cluster and the control
plane for storage nodes, block devices, pools, volumes and replicas, and puts the figures of
`collector/report_models.rs` together.  The answers of the control plane are parameters, each the
last one after the retries; a failed request leaves its part of the report out.  The Kubernetes
nodes are counted page by page, and both node counts are cast to a byte on their way into the
report.
-/

namespace MayastorExtensions.CallHome

open KubeClient Paging

/-! ## Figures -/

namespace Openapi

inductive VolumeStatus where
  | unknown
  | online
  | degraded
  | faulted
  | shutdown
  deriving DecidableEq, Repr

/-- The parts of a volume that the report reads. -/
structure Volume where
  size : UInt64
  numReplicas : UInt8
  status : VolumeStatus
  deriving DecidableEq, Repr

end Openapi

structure Pools where
  count : UInt64
  maxSizeInBytes : UInt64
  minSizeInBytes : UInt64
  meanSizeInBytes : UInt64
  capacityPercentilesInBytes : Percentiles
  created : UInt32
  deleted : UInt32
  totalCapacityInBytes : UInt64

def getPoolsSizeVector (pools : List Openapi.Pool) : List UInt64 :=
  pools.filterMap fun pool ↦ pool.state.map Openapi.PoolState.capacity

def Pools.new (pools : List Openapi.Pool) (eventData : EventData) : Except Panic Pools := do
  let poolsSizeVector := getPoolsSizeVector pools
  let capacityPercentilesInBytes ← Percentiles.new poolsSizeVector
  pure
    { count := .ofNat poolsSizeVector.length
      maxSizeInBytes := getMaxValue poolsSizeVector
      minSizeInBytes := getMinValue poolsSizeVector
      meanSizeInBytes := getMeanValue poolsSizeVector
      capacityPercentilesInBytes
      created := eventData.poolCreated
      deleted := eventData.poolDeleted
      totalCapacityInBytes := poolsSizeVector.sum }

/-- Volumes by their number of replicas, from one to five or more. -/
structure VolumeReplicaCounts where
  oneReplica : UInt32
  twoReplicas : UInt32
  threeReplicas : UInt32
  fourReplicas : UInt32
  fiveOrMoreReplicas : UInt32

def VolumeReplicaCounts.new (volumes : List Openapi.Volume) : VolumeReplicaCounts where
  oneReplica := .ofNat (volumes.filter fun volume ↦ volume.numReplicas = 1).length
  twoReplicas := .ofNat (volumes.filter fun volume ↦ volume.numReplicas = 2).length
  threeReplicas := .ofNat (volumes.filter fun volume ↦ volume.numReplicas = 3).length
  fourReplicas := .ofNat (volumes.filter fun volume ↦ volume.numReplicas = 4).length
  fiveOrMoreReplicas := .ofNat (volumes.filter fun volume ↦ 5 ≤ volume.numReplicas).length

/-- Volumes by their status. -/
structure VolumeStateCounts where
  unknown : UInt64
  online : UInt64
  degraded : UInt64
  faulted : UInt64
  shutdown : UInt64

def VolumeStateCounts.new (volumes : List Openapi.Volume) : VolumeStateCounts :=
  let count (status : Openapi.VolumeStatus) : UInt64 :=
    .ofNat (volumes.filter fun volume ↦ volume.status = status).length
  { unknown := count .unknown
    online := count .online
    degraded := count .degraded
    faulted := count .faulted
    shutdown := count .shutdown }

structure Volumes where
  count : UInt64
  minSizeInBytes : UInt64
  meanSizeInBytes : UInt64
  maxSizeInBytes : UInt64
  capacityPercentilesInBytes : Percentiles
  created : UInt32
  deleted : UInt32
  volumeReplicaCounts : VolumeReplicaCounts
  volumeStateCounts : VolumeStateCounts

def Volumes.new (volumes : List Openapi.Volume) (eventData : EventData) :
    Except Panic Volumes := do
  let volumesSizeVector := volumes.map Openapi.Volume.size
  let capacityPercentilesInBytes ← Percentiles.new volumesSizeVector
  pure
    { count := .ofNat volumesSizeVector.length
      maxSizeInBytes := getMaxValue volumesSizeVector
      minSizeInBytes := getMinValue volumesSizeVector
      meanSizeInBytes := getMeanValue volumesSizeVector
      capacityPercentilesInBytes
      created := eventData.volumeCreated
      deleted := eventData.volumeDeleted
      volumeReplicaCounts := .new volumes
      volumeStateCounts := .new volumes }

structure Replicas where
  count : UInt64
  countPerVolumePercentiles : Percentiles

/-- Without volumes the percentiles stay at their default. -/
def Replicas.new (replicaCount : ℕ) (volumes : Option (List Openapi.Volume)) :
    Except Panic Replicas := do
  let countPerVolumePercentiles ← match volumes with
    | some volumes => Percentiles.new (volumes.map fun volume ↦ volume.numReplicas.toUInt64)
    | none => pure ⟨0, 0, 0⟩
  pure { count := .ofNat replicaCount, countPerVolumePercentiles }

/-- Counters of nexus events, under the names of the report. -/
structure NexusEvents where
  created : UInt32
  deleted : UInt32
  rebuildStarted : UInt32
  rebuildEnded : UInt32

def NexusEvents.new (eventData : EventData) : NexusEvents where
  created := eventData.nexusCreated
  deleted := eventData.nexusDeleted
  rebuildStarted := eventData.rebuildStarted
  rebuildEnded := eventData.rebuildEnded

structure LogEntry where
  timestamp : String
  level : String
  file : String
  line : UInt32
  message : String

def LogEntry.text (log : LogEntry) : String :=
  "[" ++ log.timestamp ++ " " ++ log.level ++ " " ++ log.file ++ ":" ++ toString log.line ++ "] " ++
    log.message

structure Report where
  k8sClusterId : String
  k8sNodeCount : Option UInt8
  productName : String
  productVersion : String
  deployNamespace : String
  storageNodeCount : Option UInt8
  pools : Option Pools
  volumes : Option Volumes
  replicas : Option Replicas
  nexus : NexusEvents
  storageNodes : Table String NodeInfo
  mayastorManagedDisks : Table String DiskTypeInfo
  storageMedia : StorageMedia
  logs : List String

/-! ## Counting the nodes -/

/-- The name of the product in train case. -/
def productTrain : String := "Mayastor"

/-- The name in the environment, if there is one, in train case as the `heck` crate makes it. -/
def product (toTrainCase : String → String) (callhomeProductName : Option String) : String :=
  match callhomeProductName.filter fun name ↦ name ≠ "" with
  | some name => toTrainCase name
  | none => productTrain

/-- The page size of the node listing. -/
def nodeListParams : ListParams := { limit := some 500 }

/-- The loop of `get_node_len`: the nodes of page after page are counted, until a page has no
token. -/
def getNodeLen {Node : Type} (list : Option String → Except KubeError (ObjectList Node)) :
    ℕ → Option String → ℕ → Option (Except KubeError ℕ)
  | 0, _, _ => none
  | fuel + 1, token, nodesCount =>
    match list token with
    | .error error => some (.error error)
    | .ok nodeList =>
      let nodesCount := nodesCount + nodeList.items.length
      match nodeList.continue_ with
      | some next => getNodeLen list fuel (some next) nodesCount
      | none => some (.ok nodesCount)

/-- What the report is made from.  `eventStats` is `none` without an aggregator. -/
structure Sources (Node : Type) where
  toTrainCase : String → String
  callhomeProductName : Option String
  k8sClusterId : String
  deployNamespace : String
  productVersion : String
  eventStats : Option (Except String (List Sample))
  kubeNodes : Api KubeError Node
  nodes : Except String (List String)
  nodeBlockDevices : String → Except String (List BlockDevice)
  pools : Except String (List Openapi.Pool)
  volumes : Except String (List Openapi.Volume)
  replicas : Except String (List Openapi.Replica)
  logs : List LogEntry

namespace Sources

variable {Node : Type} (sources : Sources Node)

/-- The devices of the nodes whose devices could be listed. -/
def nodeDisks : NodeDisks :=
  match sources.nodes with
  | .ok nodes =>
    nodes.foldl (fun nodeDisks node ↦
      match sources.nodeBlockDevices node with
      | .ok devices => nodeDisks.update node [] (· ++ devices)
      | .error _ => nodeDisks) .empty
  | .error _ => .empty

/-- The devices that count as storage media. -/
def validDisks : List BlockDevice :=
  (sources.nodeDisks.entries.flatMap Prod.snd).filter fun device ↦
    0 < device.size && device.devtype ≠ "partition" &&
      !("/devices/virtual/".toList <+: device.devpath.toList : Bool)

def reportPools (eventData : EventData) : Except Panic (Option Pools) :=
  match sources.pools with
  | .ok pools => some <$> Pools.new pools eventData
  | .error _ => .ok none

def reportVolumes (eventData : EventData) : Except Panic (Option Volumes) :=
  match sources.volumes with
  | .ok volumes => some <$> Volumes.new volumes eventData
  | .error _ => .ok none

def reportReplicas : Except Panic (Option Replicas) :=
  match sources.replicas with
  | .ok replicas => some <$> Replicas.new replicas.length sources.volumes.toOption
  | .error _ => .ok none

/-- Collecting the valid disks is the only step that a too long vector can end. -/
def reportStorageMedia : Except Panic StorageMedia :=
  if h : sources.validDisks.length < 2 ^ 64 then .ok (StorageMedia.new ⟨sources.validDisks, h⟩)
  else .error .capacityOverflow

/-- The report, once the Kubernetes nodes have been counted. -/
def report (k8sNodeCount : Except KubeError ℕ) : Except Panic Report := do
  let eventData := generateEventData sources.eventStats
  let pools ← sources.reportPools eventData
  let volumes ← sources.reportVolumes eventData
  let replicas ← sources.reportReplicas
  let storageMedia ← sources.reportStorageMedia
  pure
    { k8sClusterId := sources.k8sClusterId
      k8sNodeCount := match k8sNodeCount with
        | .ok k8sNodeCount => some (.ofNat k8sNodeCount)
        | .error _ => none
      productName := product sources.toTrainCase sources.callhomeProductName
      productVersion := sources.productVersion
      deployNamespace := sources.deployNamespace
      storageNodeCount := match sources.nodes with
        | .ok nodes => some (.ofNat nodes.length)
        | .error _ => none
      pools, volumes, replicas
      nexus := .new eventData
      storageNodes := match sources.pools, sources.replicas with
        | .ok pools, .ok replicas => (StorageNodes.new replicas pools sources.nodeDisks).nodes
        | _, _ => .empty
      mayastorManagedDisks := match sources.pools with
        | .ok pools => (MayastorManagedDisks.new pools sources.nodeDisks).diskTypes
        | .error _ => .empty
      storageMedia
      logs := sources.logs.map LogEntry.text }

/-- `generate_report`; `none` is a node listing that is not done yet. -/
def generateReport (fuel : ℕ) : Option (Except Panic Report) :=
  (getNodeLen (sources.kubeNodes.list nodeListParams) fuel none 0).map sources.report

end Sources

/-! ## Node counts -/

section NodeCounts

variable {Node : Type}

/-- The loop that keeps the nodes it counts. -/
def nodesClient (Node : Type) : Client Node Node KubeError KubeError :=
  ⟨some, fun _ ↦ false, .error⟩

/-- Counting the nodes is listing them and taking the length. -/
theorem getNodeLen_eq (list : Option String → Except KubeError (ObjectList Node)) (fuel : ℕ)
    (token : Option String) (collected : List Node) :
    getNodeLen list fuel token collected.length =
      ((nodesClient Node).collect list fuel token collected).map (Except.map List.length) := by
  induction fuel generalizing token collected with
  | zero => rfl
  | succ fuel ih =>
    rw [getNodeLen, Client.collect]
    cases list token with
    | error error => rfl
    | ok nodeList =>
      have hlength : collected.length + nodeList.items.length =
          (collected ++ nodeList.items.filterMap (nodesClient Node).select).length := by
        rw [nodesClient, List.filterMap_some, List.length_append]
      dsimp only
      rw [hlength]
      cases nodeList.continue_ with
      | none => rfl
      | some next => exact ih (some next) _

/-- The count that is returned is the number of nodes on all pages. -/
theorem eq_ok_of_getNodeLen {listing : Listing Node KubeError} {fuel : ℕ}
    {result : Except KubeError ℕ} (h : getNodeLen listing.list fuel none 0 = some result) :
    result = .ok listing.items.length := by
  have heq := getNodeLen_eq listing.list fuel none []
  rw [List.length_nil, h] at heq
  obtain ⟨nodes, hnodes, rfl⟩ := Option.map_eq_some_iff.mp heq.symm
  rw [eq_ok_of_collect (fun _ ↦ rfl) hnodes, nodesClient, List.filterMap_some]
  rfl

/-- A listing that ends without a token is counted with a request for each page. -/
theorem getNodeLen_of_ends {listing : Listing Node KubeError}
    (hends : listing.last.continue_ = none) {fuel : ℕ} (hfuel : listing.pageCount ≤ fuel) :
    getNodeLen listing.list fuel none 0 = some (.ok listing.items.length) := by
  have hlist : (nodesClient Node).collect listing.list fuel none [] = some (.ok listing.items) :=
    (reads_iff_of_never_stops (fun _ ↦ rfl) rfl List.filterMap_some).mpr hends fuel hfuel
  have heq := getNodeLen_eq listing.list fuel none []
  rw [hlist] at heq
  exact heq

/-- The node counts of a report; every other part of it is computed without them. -/
theorem Sources.report_counts {sources : Sources Node} {k8sNodeCount : Except KubeError ℕ}
    {report : Report} (h : sources.report k8sNodeCount = .ok report) :
    report.k8sNodeCount = k8sNodeCount.toOption.map UInt8.ofNat ∧
      report.storageNodeCount =
        sources.nodes.toOption.map fun nodes ↦ UInt8.ofNat nodes.length := by
  obtain ⟨pools, -, h⟩ := Outcome.bind_eq_ok h
  obtain ⟨volumes, -, h⟩ := Outcome.bind_eq_ok h
  obtain ⟨replicas, -, h⟩ := Outcome.bind_eq_ok h
  obtain ⟨storageMedia, -, h⟩ := Outcome.bind_eq_ok h
  obtain rfl := Except.ok.inj h
  constructor
  · cases k8sNodeCount <;> rfl
  · cases sources.nodes <;> rfl

theorem Pools.exists_new (pools : List Openapi.Pool) (eventData : EventData) :
    ∃ figures, Pools.new pools eventData = .ok figures := by
  obtain ⟨percentiles, hpercentiles⟩ := exists_percentiles (getPoolsSizeVector pools)
  simp only [Pools.new, hpercentiles]
  exact ⟨_, rfl⟩

theorem Volumes.exists_new (volumes : List Openapi.Volume) (eventData : EventData) :
    ∃ figures, Volumes.new volumes eventData = .ok figures := by
  obtain ⟨percentiles, hpercentiles⟩ := exists_percentiles (volumes.map Openapi.Volume.size)
  simp only [Volumes.new, hpercentiles]
  exact ⟨_, rfl⟩

theorem Replicas.exists_new (replicaCount : ℕ) (volumes : Option (List Openapi.Volume)) :
    ∃ figures, Replicas.new replicaCount volumes = .ok figures := by
  cases volumes with
  | none => exact ⟨_, rfl⟩
  | some volumes =>
    obtain ⟨percentiles, hpercentiles⟩ :=
      exists_percentiles (volumes.map fun volume ↦ volume.numReplicas.toUInt64)
    simp only [Replicas.new, hpercentiles]
    exact ⟨_, rfl⟩

/-- No figure of the report panics; only a vector of all devices that does not fit can keep the
report from being made. -/
theorem Sources.exists_report (sources : Sources Node)
    (hfits : sources.validDisks.length < 2 ^ 64) (k8sNodeCount : Except KubeError ℕ) :
    ∃ report, sources.report k8sNodeCount = .ok report := by
  obtain ⟨pools, hpools⟩ :
      ∃ pools, sources.reportPools (generateEventData sources.eventStats) = .ok pools := by
    rw [reportPools]
    cases sources.pools with
    | error error => exact ⟨none, rfl⟩
    | ok pools =>
      obtain ⟨figures, hfigures⟩ := Pools.exists_new pools (generateEventData sources.eventStats)
      exact ⟨some figures, congrArg (some <$> ·) hfigures⟩
  obtain ⟨volumes, hvolumes⟩ :
      ∃ volumes, sources.reportVolumes (generateEventData sources.eventStats) = .ok volumes := by
    rw [reportVolumes]
    cases sources.volumes with
    | error error => exact ⟨none, rfl⟩
    | ok volumes =>
      obtain ⟨figures, hfigures⟩ :=
        Volumes.exists_new volumes (generateEventData sources.eventStats)
      exact ⟨some figures, congrArg (some <$> ·) hfigures⟩
  obtain ⟨replicas, hreplicas⟩ : ∃ replicas, sources.reportReplicas = .ok replicas := by
    rw [reportReplicas]
    cases sources.replicas with
    | error error => exact ⟨none, rfl⟩
    | ok replicas =>
      obtain ⟨figures, hfigures⟩ := Replicas.exists_new replicas.length sources.volumes.toOption
      exact ⟨some figures, congrArg (some <$> ·) hfigures⟩
  have hstorageMedia : sources.reportStorageMedia = .ok (StorageMedia.new ⟨_, hfits⟩) :=
    dif_pos hfits
  simp only [Sources.report, hpools, hvolumes, hreplicas, hstorageMedia]
  exact ⟨_, rfl⟩

theorem toNat_ofNat_eq_iff (count : ℕ) : (UInt8.ofNat count).toNat = count ↔ count < 256 := by
  rw [UInt8.toNat_ofNat']
  exact Nat.mod_eq_iff_lt (by decide)

/-- A listing that ends without a token is counted, and the report is made. -/
theorem Sources.exists_generateReport {sources : Sources Node} {listing : Listing Node KubeError}
    (hlist : sources.kubeNodes.list nodeListParams = listing.list)
    (hends : listing.last.continue_ = none) (hfits : sources.validDisks.length < 2 ^ 64) {fuel : ℕ}
    (hfuel : listing.pageCount ≤ fuel) :
    ∃ report, sources.generateReport fuel = some (.ok report) := by
  obtain ⟨report, hreport⟩ := sources.exists_report hfits (.ok listing.items.length)
  refine ⟨report, ?_⟩
  rw [generateReport, hlist, getNodeLen_of_ends hends hfuel, Option.map_some, hreport]

/-- A finished listing leads to a report, and both node counts of a report are exact exactly if both
fit into a byte, however the Kubernetes nodes are split into pages. -/
theorem nodeCounts_exact_iff (sources : Sources Node) (listing : Listing Node KubeError)
    (hlist : sources.kubeNodes.list nodeListParams = listing.list) (nodes : List String)
    (hnodes : sources.nodes = .ok nodes) :
    (listing.last.continue_ = none → sources.validDisks.length < 2 ^ 64 →
      ∀ fuel, listing.pageCount ≤ fuel →
        ∃ report, sources.generateReport fuel = some (.ok report)) ∧
    ∀ fuel report, sources.generateReport fuel = some (.ok report) →
      ((report.k8sNodeCount.map UInt8.toNat = some listing.items.length ∧
        report.storageNodeCount.map UInt8.toNat = some nodes.length) ↔
        listing.items.length < 256 ∧ nodes.length < 256) := by
  refine ⟨fun hends hfits fuel hfuel ↦ Sources.exists_generateReport hlist hends hfits hfuel, ?_⟩
  intro fuel report hreport
  rw [Sources.generateReport, hlist] at hreport
  obtain ⟨k8sNodeCount, hcount, hreport⟩ := Option.map_eq_some_iff.mp hreport
  obtain ⟨hkube, hstorage⟩ := Sources.report_counts hreport
  rw [hkube, hstorage, hnodes, eq_ok_of_getNodeLen hcount]
  simp only [Except.toOption, Option.map_some, Option.some.injEq, toNat_ofNat_eq_iff]

/-- A cluster with some nodes on two pages, and two storage nodes. -/
def clusterOf (first second : ℕ) : Sources Unit where
  toTrainCase := id
  callhomeProductName := none
  k8sClusterId := "cluster"
  deployNamespace := "mayastor"
  productVersion := "2.6.0"
  eventStats := none
  kubeNodes := fun params ↦
    if params.continueToken = some "next" then .ok ⟨List.replicate second (), none⟩
    else .ok ⟨List.replicate first (), some "next"⟩
  nodes := .ok ["node-1", "node-2"]
  nodeBlockDevices := fun _ ↦ .ok []
  pools := .ok []
  volumes := .ok []
  replicas := .ok []
  logs := []

def nodePages (first second : ℕ) : Listing Unit KubeError where
  list := (clusterOf first second).kubeNodes.list nodeListParams
  front := [(List.replicate first (), "next")]
  last := ⟨List.replicate second (), none⟩
  follows := ⟨rfl, rfl⟩
  tokens := by simp
  ends := .inl rfl
  restarts := rfl

theorem nodeCounts_exact_twoPages :
    ∃ report, (clusterOf 2 1).generateReport 2 = some (.ok report) ∧
      report.k8sNodeCount.map UInt8.toNat = some 3 ∧
      report.storageNodeCount.map UInt8.toNat = some 2 := by
  obtain ⟨hmade, hexact⟩ :=
    nodeCounts_exact_iff (clusterOf 2 1) (nodePages 2 1) rfl ["node-1", "node-2"] rfl
  obtain ⟨report, hreport⟩ := hmade rfl (Nat.two_pow_pos 64) 2 (Nat.le_refl 2)
  exact ⟨report, hreport, (hexact 2 report hreport).mpr (by decide)⟩

/-- A cluster of 512 nodes is reported as one without nodes. -/
theorem nodeCounts_wrapped :
    ∃ report, (clusterOf 500 12).generateReport 2 = some (.ok report) ∧
      (nodePages 500 12).items.length = 512 ∧ report.k8sNodeCount.map UInt8.toNat = some 0 := by
  have hlength : (nodePages 500 12).items.length = 512 := by
    simp only [Listing.items, nodePages, List.flatMap_cons, List.flatMap_nil, List.append_nil,
      List.length_append, List.length_replicate]
  obtain ⟨report, hreport⟩ : ∃ report, (clusterOf 500 12).generateReport 2 = some (.ok report) :=
    @Sources.exists_generateReport Unit (clusterOf 500 12) (nodePages 500 12) rfl rfl
      (Nat.two_pow_pos 64) 2 (Nat.le_refl 2)
  have hmade := hreport
  rw [Sources.generateReport] at hmade
  obtain ⟨k8sNodeCount, hcount, hmade⟩ := Option.map_eq_some_iff.mp hmade
  have hnodes := @eq_ok_of_getNodeLen Unit (nodePages 500 12) 2 k8sNodeCount hcount
  rw [hlength] at hnodes
  refine ⟨report, hreport, hlength, ?_⟩
  rw [(Sources.report_counts hmade).1, hnodes]
  decide

end NodeCounts

end MayastorExtensions.CallHome
