import Mathlib.Data.Finset.Lattice.Basic
import Mathlib.Data.Finset.Image

/-!
# Topologies and the services behind them

The support tool collects the logs of the services that host a resource: of all of them, or of the
unhealthy ones only.  `collect/resources` computes the two sets by separate code for nodes, pools,
replicas and volumes.
-/

namespace MayastorExtensions.Supportability

/-! ## Storage objects -/

/-- The state of a node, a pool, a replica or a target: the code tells `Online` from the rest. -/
inductive Status where
  | online
  | other
  deriving DecidableEq, Repr

structure NodeSpec where
  id : String
  deriving DecidableEq, Repr

structure NodeState where
  id : String
  status : Status
  deriving DecidableEq, Repr

structure Node where
  id : String
  spec : Option NodeSpec
  state : Option NodeState
  deriving DecidableEq, Repr

structure BlockDevice where
  devname : String
  devpath : String
  devlinks : List String
  deriving DecidableEq, Repr

structure PoolSpec where
  node : String
  disks : List String
  deriving DecidableEq, Repr

structure PoolState where
  node : String
  status : Status
  deriving DecidableEq, Repr

structure Pool where
  id : String
  spec : Option PoolSpec
  state : Option PoolState
  deriving DecidableEq, Repr

structure Replica where
  node : String
  state : Status
  deriving DecidableEq, Repr

structure Nexus where
  node : String
  state : Status
  deriving DecidableEq, Repr

/-! ## Resource information -/

/-- What identifies a service whose logs are collected. -/
structure ResourceInformation where
  containerName : String
  hostName : String
  labelSelector : List String
  deriving DecidableEq, Repr

/-- The resources that a container is known for. -/
inductive ResourceKind where
  | node
  | pool
  | nexus
  | replica
  | device
  deriving DecidableEq, Repr

def dataPlaneContainerName : String := "io-engine"

def mayastorDaemonsetLabel : String := "app=io-engine"

/-- All of them are hosted by the data plane. -/
def resourceToContainerName : ResourceKind → String
  | .node => dataPlaneContainerName
  | .pool => dataPlaneContainerName
  | .nexus => dataPlaneContainerName
  | .replica => dataPlaneContainerName
  | .device => dataPlaneContainerName

/-- The service that hosts a resource of the given kind on a host. -/
def resourceInfo (kind : ResourceKind) (hostName : String) : ResourceInformation where
  containerName := resourceToContainerName kind
  hostName := hostName
  labelSelector := [mayastorDaemonsetLabel]

theorem resourceInfo_inj {kind kind' : ResourceKind} {host host' : String} :
    resourceInfo kind host = resourceInfo kind' host' ↔ host = host' := by
  constructor
  · exact congrArg ResourceInformation.hostName
  · rintro rfl
    cases kind <;> cases kind' <;> rfl

/-- The sets of the elements of a list, taken together. -/
def extendAll {α : Type} (resources : α → Finset ResourceInformation) (elements : List α) :
    Finset ResourceInformation :=
  elements.foldl (fun acc element ↦ acc ∪ resources element) ∅

theorem mem_extendAll {α : Type} {resources : α → Finset ResourceInformation} {elements : List α}
    {info : ResourceInformation} :
    info ∈ extendAll resources elements ↔ ∃ element ∈ elements, info ∈ resources element := by
  have hfold : ∀ acc, info ∈ elements.foldl (fun acc element ↦ acc ∪ resources element) acc ↔
      info ∈ acc ∨ ∃ element ∈ elements, info ∈ resources element := by
    induction elements with
    | nil => simp
    | cons head tail ih =>
      intro acc
      rw [List.foldl_cons, ih, Finset.mem_union]
      simp [or_assoc]
  simpa [extendAll] using hfold ∅

/-! ## Topologies -/

/-- The services behind a topology. -/
class Topologer (α : Type) where
  getUnhealthyResourceInfo : α → Finset ResourceInformation
  getAllResourceInfo : α → Finset ResourceInformation

export Topologer (getUnhealthyResourceInfo getAllResourceInfo)

/-- A list of topologies is a topology. -/
instance {α : Type} [Topologer α] : Topologer (List α) where
  getUnhealthyResourceInfo := extendAll getUnhealthyResourceInfo
  getAllResourceInfo := extendAll getAllResourceInfo

structure NodeTopology where
  node : Node
  devices : Option (List BlockDevice)
  deriving DecidableEq, Repr

/-- Block devices have no state yet. -/
def isDeviceNotOnline (_device : BlockDevice) : Bool := false

namespace NodeTopology

def getDeviceNodeInfo (topology : NodeTopology) (predicate : BlockDevice → Bool) :
    Finset ResourceInformation :=
  match topology.devices with
  | some devices =>
    ((devices.filter predicate).map fun _ ↦ resourceInfo .device topology.node.id).toFinset
  | none => ∅

/-- The host of a node that is not online; a node without a state is not online. -/
def unhealthyNodeInfo (node : Node) : Finset ResourceInformation :=
  match node.state with
  | some state => if state.status ≠ .online then {resourceInfo .node state.id} else ∅
  | none =>
    match node.spec with
    | some spec => {resourceInfo .node spec.id}
    | none => ∅

instance : Topologer NodeTopology where
  getUnhealthyResourceInfo topology :=
    unhealthyNodeInfo topology.node ∪ topology.getDeviceNodeInfo isDeviceNotOnline
  getAllResourceInfo topology :=
    match topology.node.spec with
    | some spec => {resourceInfo .node spec.id}
    | none => ∅

end NodeTopology

structure PoolTopology where
  pool : Pool
  nodeInfo : Option Node
  deviceInfo : Option (List BlockDevice)
  deriving DecidableEq, Repr

/-- The devices of a pool topology are those of the node that the pool names as its disks. -/
def isItPoolDevice (poolSpec : PoolSpec) (device : BlockDevice) : Bool :=
  poolSpec.disks.any fun disk ↦ disk ∈ device.devpath :: device.devname :: device.devlinks

def isPoolNotOnline (status : Status) : Bool := status ≠ .online

namespace PoolTopology

def getPoolInfo (topology : PoolTopology) (predicate : Status → Bool) :
    Finset ResourceInformation :=
  match topology.pool.state with
  | some state => if predicate state.status then {resourceInfo .pool state.node} else ∅
  | none =>
    match topology.pool.spec with
    | some spec => {resourceInfo .pool spec.node}
    | none => ∅

/-- The host of the pool's node, if the node is known and not online. -/
def unhealthyNode (topology : PoolTopology) : Finset ResourceInformation :=
  match topology.nodeInfo with
  | some node => NodeTopology.unhealthyNodeInfo node
  | none => ∅

instance : Topologer PoolTopology where
  getUnhealthyResourceInfo topology :=
    topology.unhealthyNode ∪ topology.getPoolInfo isPoolNotOnline
  getAllResourceInfo topology := topology.getPoolInfo fun _ ↦ true

end PoolTopology

structure ReplicaTopology where
  replica : Replica
  poolTopology : PoolTopology
  deriving DecidableEq, Repr

namespace ReplicaTopology

/-- The replica's own host is looked at only where its pool and node are healthy. -/
def getUnhealthyResources (topology : ReplicaTopology) : Finset ResourceInformation :=
  let resources := getUnhealthyResourceInfo topology.poolTopology
  if resources ≠ ∅ then resources
  else if topology.replica.state ≠ .online then {resourceInfo .replica topology.replica.node}
  else ∅

def getAllResources (topology : ReplicaTopology) : Finset ResourceInformation :=
  {resourceInfo .replica topology.replica.node}

end ReplicaTopology

structure VolumeTopology where
  target : Option Nexus
  replicasTopology : List ReplicaTopology
  deriving DecidableEq, Repr

namespace VolumeTopology

/-- The host of a target that is not online. -/
def unhealthyTarget (topology : VolumeTopology) : Finset ResourceInformation :=
  match topology.target with
  | some nexus => if nexus.state ≠ .online then {resourceInfo .nexus nexus.node} else ∅
  | none => ∅

/-- The information about the target is put together for all resources too, but it is not added to
them. -/
instance : Topologer VolumeTopology where
  getUnhealthyResourceInfo topology :=
    extendAll ReplicaTopology.getUnhealthyResources topology.replicasTopology ∪
      topology.unhealthyTarget
  getAllResourceInfo topology :=
    extendAll ReplicaTopology.getAllResources topology.replicasTopology

end VolumeTopology

/-- The topologies that the tool collects: of one resource or of all resources of a kind. -/
inductive Topology where
  | node (topology : NodeTopology)
  | nodes (topologies : List NodeTopology)
  | pool (topology : PoolTopology)
  | pools (topologies : List PoolTopology)
  | volume (topology : VolumeTopology)
  | volumes (topologies : List VolumeTopology)
  deriving DecidableEq, Repr

instance : Topologer Topology where
  getUnhealthyResourceInfo
    | .node topology => getUnhealthyResourceInfo topology
    | .nodes topologies => getUnhealthyResourceInfo topologies
    | .pool topology => getUnhealthyResourceInfo topology
    | .pools topologies => getUnhealthyResourceInfo topologies
    | .volume topology => getUnhealthyResourceInfo topology
    | .volumes topologies => getUnhealthyResourceInfo topologies
  getAllResourceInfo
    | .node topology => getAllResourceInfo topology
    | .nodes topologies => getAllResourceInfo topologies
    | .pool topology => getAllResourceInfo topology
    | .pools topologies => getAllResourceInfo topologies
    | .volume topology => getAllResourceInfo topology
    | .volumes topologies => getAllResourceInfo topologies

/-! ## Hosts -/

/-- The names by which a node is known. -/
def Node.hosts (node : Node) : List String :=
  node.id :: ((node.state.map NodeState.id).toList ++ (node.spec.map NodeSpec.id).toList)

/-- The host of a node that is not online. -/
def Node.offlineHost (node : Node) : Option String :=
  match node.state with
  | some state => if state.status ≠ .online then some state.id else none
  | none => node.spec.map NodeSpec.id

/-- The names by which the host of a pool is known. -/
def PoolTopology.hosts (topology : PoolTopology) : List String :=
  (topology.pool.state.map PoolState.node).toList ++
    (topology.pool.spec.map PoolSpec.node).toList ++ (topology.nodeInfo.map Node.hosts).getD []

/-- The host of a pool, from its state or else from its spec. -/
def PoolTopology.host (topology : PoolTopology) : Option String :=
  (topology.pool.state.map PoolState.node).or (topology.pool.spec.map PoolSpec.node)

/-- The names of a node agree. -/
def NodeTopology.Agrees (topology : NodeTopology) : Prop :=
  ∀ host ∈ topology.node.hosts, host = topology.node.id

/-- The names of the host of a pool agree. -/
def PoolTopology.Agrees (topology : PoolTopology) : Prop :=
  ∀ host ∈ topology.hosts, ∀ host' ∈ topology.hosts, host = host'

/-- The replicas, their pools and the nodes of these are on the same hosts. -/
def VolumeTopology.Agrees (topology : VolumeTopology) : Prop :=
  ∀ replica ∈ topology.replicasTopology, ∀ host ∈ replica.poolTopology.hosts,
    host = replica.replica.node

/-- The hosts of a topology agree. -/
def Topology.Agrees : Topology → Prop
  | .node topology => topology.Agrees
  | .nodes topologies => ∀ topology ∈ topologies, topology.Agrees
  | .pool topology => topology.Agrees
  | .pools topologies => ∀ topology ∈ topologies, topology.Agrees
  | .volume topology => topology.Agrees
  | .volumes topologies => ∀ topology ∈ topologies, topology.Agrees

/-! ## When nothing is missed -/

/-- Every node whose state is not online is the node of a spec. -/
def NodesCovered (topologies : List NodeTopology) : Prop :=
  ∀ topology ∈ topologies, ∀ state ∈ topology.node.state, state.status ≠ .online →
    ∃ other ∈ topologies, ∃ spec ∈ other.node.spec, spec.id = state.id

/-- Every node of a pool that is not online is the host of a pool with a state or a spec. -/
def PoolsCovered (topologies : List PoolTopology) : Prop :=
  ∀ topology ∈ topologies, ∀ node ∈ topology.nodeInfo, ∀ host ∈ node.offlineHost,
    ∃ other ∈ topologies, other.host = some host

/-- Every target that is not online is on the node of a replica. -/
def VolumesCovered (topologies : List VolumeTopology) : Prop :=
  ∀ topology ∈ topologies, ∀ nexus ∈ topology.target, nexus.state ≠ .online →
    ∃ other ∈ topologies, ∃ replica ∈ other.replicasTopology, replica.replica.node = nexus.node

def Topology.Covered : Topology → Prop
  | .node topology => NodesCovered [topology]
  | .nodes topologies => NodesCovered topologies
  | .pool topology => PoolsCovered [topology]
  | .pools topologies => PoolsCovered topologies
  | .volume topology => VolumesCovered [topology]
  | .volumes topologies => VolumesCovered topologies

/-- The unhealthy resources are among all resources. -/
def NothingMissed {α : Type} [Topologer α] (topology : α) : Prop :=
  getUnhealthyResourceInfo topology ⊆ getAllResourceInfo topology

section Lists

variable {α : Type} [Topologer α]

theorem nothingMissed_list (topologies : List α) :
    NothingMissed topologies ↔ ∀ topology ∈ topologies, ∀ info ∈ getUnhealthyResourceInfo topology,
      ∃ other ∈ topologies, info ∈ getAllResourceInfo other := by
  constructor
  · intro hsubset topology hmem info hinfo
    exact mem_extendAll.mp (hsubset (mem_extendAll.mpr ⟨topology, hmem, hinfo⟩))
  · intro hcovered info hinfo
    obtain ⟨topology, hmem, hunhealthy⟩ := mem_extendAll.mp hinfo
    exact mem_extendAll.mpr (hcovered topology hmem info hunhealthy)

/-- One topology is a list of one. -/
theorem nothingMissed_singleton (topology : α) :
    NothingMissed [topology] ↔ NothingMissed topology := by
  rw [nothingMissed_list]
  simp [NothingMissed, Finset.subset_iff]

end Lists

/-! ## Nodes -/

theorem mem_unhealthyNodeInfo {node : Node} {info : ResourceInformation} :
    info ∈ NodeTopology.unhealthyNodeInfo node ↔
      ∃ host ∈ node.offlineHost, info = resourceInfo .node host := by
  unfold NodeTopology.unhealthyNodeInfo Node.offlineHost
  cases node.state with
  | none => cases node.spec <;> simp
  | some state => by_cases hstatus : state.status = .online <;> simp [hstatus]

theorem mem_unhealthy_node {topology : NodeTopology} {info : ResourceInformation} :
    info ∈ getUnhealthyResourceInfo topology ↔
      ∃ host ∈ topology.node.offlineHost, info = resourceInfo .node host := by
  have hdevices : topology.getDeviceNodeInfo isDeviceNotOnline = ∅ := by
    unfold NodeTopology.getDeviceNodeInfo
    cases topology.devices with
    | none => rfl
    | some devices => simp [isDeviceNotOnline]
  rw [← mem_unhealthyNodeInfo]
  simp [getUnhealthyResourceInfo, hdevices]

theorem mem_all_node {topology : NodeTopology} {info : ResourceInformation} :
    info ∈ getAllResourceInfo topology ↔
      ∃ spec ∈ topology.node.spec, info = resourceInfo .node spec.id := by
  simp only [getAllResourceInfo]
  cases topology.node.spec <;> simp

theorem nothingMissed_nodes (topologies : List NodeTopology) :
    NothingMissed topologies ↔ NodesCovered topologies := by
  rw [nothingMissed_list]
  constructor
  · intro hall topology hmem state hstate hstatus
    have hhost : topology.node.offlineHost = some state.id := by
      rw [Node.offlineHost, hstate]
      exact if_pos hstatus
    obtain ⟨other, hother, hinfo⟩ :=
      hall topology hmem _ (mem_unhealthy_node.mpr ⟨state.id, hhost, rfl⟩)
    obtain ⟨spec, hspec, heq⟩ := mem_all_node.mp hinfo
    exact ⟨other, hother, spec, hspec, (resourceInfo_inj.mp heq).symm⟩
  · intro hcovered topology hmem info hinfo
    obtain ⟨host, hhost, rfl⟩ := mem_unhealthy_node.mp hinfo
    rw [Node.offlineHost] at hhost
    split at hhost
    next state hstate =>
      split at hhost
      next hstatus =>
        obtain ⟨other, hother, spec, hspec, heq⟩ := hcovered topology hmem state hstate hstatus
        cases hhost
        exact ⟨other, hother, mem_all_node.mpr ⟨spec, hspec, by rw [heq]⟩⟩
      next => cases hhost
    next =>
      obtain ⟨spec, hspec, rfl⟩ := Option.map_eq_some_iff.mp hhost
      exact ⟨topology, hmem, mem_all_node.mpr ⟨spec, hspec, rfl⟩⟩

/-! ## Pools -/

theorem mem_all_pool {topology : PoolTopology} {info : ResourceInformation} :
    info ∈ getAllResourceInfo topology ↔
      ∃ host ∈ topology.host, info = resourceInfo .pool host := by
  simp only [getAllResourceInfo, PoolTopology.getPoolInfo, PoolTopology.host]
  cases topology.pool.state with
  | some state => simp
  | none => cases topology.pool.spec <;> simp

/-- The host of an unhealthy pool is always among all. -/
theorem getPoolInfo_subset {topology : PoolTopology} {info : ResourceInformation}
    (h : info ∈ topology.getPoolInfo isPoolNotOnline) : info ∈ getAllResourceInfo topology := by
  revert h
  simp only [getAllResourceInfo, PoolTopology.getPoolInfo]
  cases topology.pool.state with
  | none => exact id
  | some state =>
    dsimp only
    split
    · exact id
    · intro h
      exact absurd h (Finset.notMem_empty _)

theorem mem_unhealthyNode {topology : PoolTopology} {info : ResourceInformation} :
    info ∈ topology.unhealthyNode ↔ ∃ node ∈ topology.nodeInfo, ∃ host ∈ node.offlineHost,
      info = resourceInfo .node host := by
  unfold PoolTopology.unhealthyNode
  cases topology.nodeInfo with
  | none => simp
  | some node =>
    rw [mem_unhealthyNodeInfo]
    simp

theorem nothingMissed_pools (topologies : List PoolTopology) :
    NothingMissed topologies ↔ PoolsCovered topologies := by
  rw [nothingMissed_list]
  constructor
  · intro hall topology hmem node hnode host hhost
    have hinfo : resourceInfo .node host ∈ getUnhealthyResourceInfo topology :=
      Finset.mem_union_left _ (mem_unhealthyNode.mpr ⟨node, hnode, host, hhost, rfl⟩)
    obtain ⟨other, hother, hall⟩ := hall topology hmem _ hinfo
    obtain ⟨host', hhost', heq⟩ := mem_all_pool.mp hall
    rw [resourceInfo_inj.mp heq]
    exact ⟨other, hother, hhost'⟩
  · intro hcovered topology hmem info hinfo
    rcases Finset.mem_union.mp hinfo with hnodeInfo | hpool
    · obtain ⟨node, hnode, host, hhost, rfl⟩ := mem_unhealthyNode.mp hnodeInfo
      obtain ⟨other, hother, hcover⟩ := hcovered topology hmem node hnode host hhost
      exact ⟨other, hother, mem_all_pool.mpr ⟨host, hcover, resourceInfo_inj.mpr rfl⟩⟩
    · exact ⟨topology, hmem, getPoolInfo_subset hpool⟩

/-! ## Volumes -/

/-- The unhealthy hosts of a pool are hosts it is known by. -/
theorem host_of_unhealthy_pool {topology : PoolTopology} {info : ResourceInformation}
    (h : info ∈ getUnhealthyResourceInfo topology) :
    ∃ host ∈ topology.hosts, info = resourceInfo .replica host := by
  rcases Finset.mem_union.mp h with hnodeInfo | hpool
  · obtain ⟨node, hnode, host, hhost, rfl⟩ := mem_unhealthyNode.mp hnodeInfo
    refine ⟨host, ?_, resourceInfo_inj.mpr rfl⟩
    have hknown : host ∈ node.hosts := by
      rw [Node.offlineHost] at hhost
      rw [Node.hosts]
      cases hstate : node.state with
      | none =>
        rw [hstate] at hhost
        obtain ⟨spec, hspec, rfl⟩ := Option.map_eq_some_iff.mp hhost
        simp [hspec]
      | some state =>
        rw [hstate] at hhost
        have hid : state.id = host :=
          Option.some.inj (Option.ite_none_right_eq_some.mp hhost).2
        simp [hid]
    rw [Option.mem_def] at hnode
    simp [PoolTopology.hosts, hnode, hknown]
  · obtain ⟨host, hhost, rfl⟩ := mem_all_pool.mp (getPoolInfo_subset hpool)
    refine ⟨host, ?_, resourceInfo_inj.mpr rfl⟩
    rw [Option.mem_def, PoolTopology.host, Option.or_eq_some_iff] at hhost
    rw [PoolTopology.hosts]
    rcases hhost with hstate | ⟨-, hspec⟩
    · simp [hstate]
    · simp [hspec]

/-- Where the hosts agree, an unhealthy replica is looked for on its own node. -/
theorem replica_unhealthy_subset {topology : ReplicaTopology}
    (h : ∀ host ∈ topology.poolTopology.hosts, host = topology.replica.node)
    {info : ResourceInformation} (hinfo : info ∈ topology.getUnhealthyResources) :
    info ∈ topology.getAllResources := by
  rw [ReplicaTopology.getAllResources, Finset.mem_singleton]
  simp only [ReplicaTopology.getUnhealthyResources] at hinfo
  split at hinfo
  next =>
    obtain ⟨host, hhost, rfl⟩ := host_of_unhealthy_pool hinfo
    rw [h host hhost]
  next =>
    split at hinfo
    next => exact Finset.mem_singleton.mp hinfo
    next => exact absurd hinfo (Finset.notMem_empty _)

theorem mem_all_volume {topology : VolumeTopology} {info : ResourceInformation} :
    info ∈ getAllResourceInfo topology ↔
      ∃ replica ∈ topology.replicasTopology, info = resourceInfo .replica replica.replica.node := by
  simp only [getAllResourceInfo]
  rw [mem_extendAll]
  simp [ReplicaTopology.getAllResources]

theorem mem_unhealthyTarget {topology : VolumeTopology} {info : ResourceInformation} :
    info ∈ topology.unhealthyTarget ↔ ∃ nexus ∈ topology.target, nexus.state ≠ .online ∧
      info = resourceInfo .nexus nexus.node := by
  unfold VolumeTopology.unhealthyTarget
  cases topology.target with
  | none => simp
  | some nexus => by_cases hstate : nexus.state = .online <;> simp [hstate]

theorem nothingMissed_volumes {topologies : List VolumeTopology}
    (hagrees : ∀ topology ∈ topologies, topology.Agrees) :
    NothingMissed topologies ↔ VolumesCovered topologies := by
  rw [nothingMissed_list]
  constructor
  · intro hall topology hmem nexus hnexus hstate
    have hinfo : resourceInfo .nexus nexus.node ∈ getUnhealthyResourceInfo topology :=
      Finset.mem_union_right _ (mem_unhealthyTarget.mpr ⟨nexus, hnexus, hstate, rfl⟩)
    obtain ⟨other, hother, hall⟩ := hall topology hmem _ hinfo
    obtain ⟨replica, hreplica, heq⟩ := mem_all_volume.mp hall
    exact ⟨other, hother, replica, hreplica, (resourceInfo_inj.mp heq).symm⟩
  · intro hcovered topology hmem info hinfo
    rcases Finset.mem_union.mp hinfo with hreplicas | htarget
    · obtain ⟨replica, hreplica, hunhealthy⟩ := mem_extendAll.mp hreplicas
      have hown := replica_unhealthy_subset (hagrees topology hmem replica hreplica) hunhealthy
      exact ⟨topology, hmem, mem_extendAll.mpr ⟨replica, hreplica, hown⟩⟩
    · obtain ⟨nexus, hnexus, hstate, rfl⟩ := mem_unhealthyTarget.mp htarget
      obtain ⟨other, hother, replica, hreplica, hnode⟩ :=
        hcovered topology hmem nexus hnexus hstate
      exact ⟨other, hother, mem_all_volume.mpr ⟨replica, hreplica, resourceInfo_inj.mpr hnode.symm⟩⟩

/-! ## Topologies of every kind -/

/-- Where the hosts of a topology agree, the unhealthy resources are among all resources if and only
if the topology is covered: every unhealthy target is on the node of a replica, every unhealthy node
of a pool is the host of a pool with a state or a spec, and every unhealthy node has a spec. -/
theorem nothingMissed_iff_covered {topology : Topology} (hagrees : topology.Agrees) :
    NothingMissed topology ↔ topology.Covered := by
  cases topology with
  | node topology => exact (nothingMissed_singleton topology).symm.trans (nothingMissed_nodes _)
  | nodes topologies => exact nothingMissed_nodes topologies
  | pool topology => exact (nothingMissed_singleton topology).symm.trans (nothingMissed_pools _)
  | pools topologies => exact nothingMissed_pools topologies
  | volume topology =>
    refine (nothingMissed_singleton topology).symm.trans (nothingMissed_volumes ?_)
    intro other hother
    rw [List.mem_singleton.mp hother]
    exact hagrees
  | volumes topologies => exact nothingMissed_volumes hagrees

/-- A volume whose target is on the given node and whose only replica is on `n1`. -/
def volumeWithTargetOn (node : String) : Topology :=
  .volume
    { target := some ⟨node, .other⟩
      replicasTopology :=
        [{ replica := ⟨"n1", .online⟩
           poolTopology :=
             { pool := ⟨"p1", some ⟨"n1", []⟩, some ⟨"n1", .online⟩⟩
               nodeInfo := some ⟨"n1", some ⟨"n1"⟩, some ⟨"n1", .online⟩⟩
               deviceInfo := none } }] }

theorem volumeWithTargetOn_agrees (node : String) : (volumeWithTargetOn node).Agrees := by
  intro replica hreplica
  rw [List.mem_singleton.mp hreplica]
  decide

theorem nothingMissed_local_target :
    (volumeWithTargetOn "n1").Agrees ∧ NothingMissed (volumeWithTargetOn "n1") := by
  refine ⟨volumeWithTargetOn_agrees "n1", ?_⟩
  rw [nothingMissed_iff_covered (volumeWithTargetOn_agrees "n1")]
  intro topology hmem nexus hnexus _
  rw [List.mem_singleton.mp hmem] at hnexus
  cases hnexus
  exact ⟨_, List.mem_cons_self, _, List.mem_cons_self, rfl⟩

/-- The node of a target that is not online is visited for the unhealthy resources only. -/
theorem missed_remote_target :
    (volumeWithTargetOn "n2").Agrees ∧ ¬NothingMissed (volumeWithTargetOn "n2") :=
  ⟨volumeWithTargetOn_agrees "n2", by unfold NothingMissed; decide⟩

end MayastorExtensions.Supportability
