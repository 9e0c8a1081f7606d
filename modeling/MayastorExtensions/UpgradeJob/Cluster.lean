import MayastorExtensions.Library.OffsetPages
import MayastorExtensions.Library.Yaml
import MayastorExtensions.UpgradeJob.Common

/-!
# The cluster the upgrade-job runs against

The state behind the Kubernetes API, the storage REST API and the helm release, the requests the
job makes to them, and the moves the cluster makes on its own: Pods come, go and change their
status, new revisions are rolled out, volumes are published, and the control plane completes
drains.  A Pod remembers the chart
it was started from, which no request of the job reads.
-/

namespace MayastorExtensions.UpgradeJob

open Scheduled

/-! ## Kubernetes objects -/

structure PodCondition where
  type_ : String
  status : String
  deriving DecidableEq, Repr

structure PodStatus where
  conditions : Option (List PodCondition)
  deriving DecidableEq, Repr

structure PodSpec where
  nodeName : Option String
  deriving DecidableEq, Repr

structure Pod where
  name : String
  app : Option App
  revisionHash : Option String
  spec : Option PodSpec
  status : Option PodStatus
  chart : String
  deriving DecidableEq, Repr

/-- What the label and field selectors of a list request accept. -/
def PodSelector.accepts (selector : PodSelector) (pod : Pod) : Bool :=
  pod.app = some selector.app &&
    (match selector.revision with
      | .any => true
      | .is hash => pod.revisionHash = some hash
      | .isNot hash => pod.revisionHash ≠ some hash) &&
    (match selector.nodeName with
      | none => true
      | some node => (pod.spec.bind PodSpec.nodeName) = some node)

structure ControllerRevision where
  name : String
  app : Option App
  revision : ℤ
  revisionHash : Option String
  deriving DecidableEq, Repr

/-- A Kubernetes node; `anaDisabled` says whether it carries the label of nodes that cannot do
NVMe ANA. -/
structure KubeNode where
  name : String
  anaDisabled : Bool
  deriving DecidableEq, Repr

/-! ## Storage objects -/

inductive CordonDrainState where
  | cordonedstate (cordonlabels : List String)
  | drainingstate (cordonlabels drainlabels : List String)
  | drainedstate (cordonlabels drainlabels : List String)
  deriving DecidableEq, Repr

structure NodeSpec where
  cordondrainstate : Option CordonDrainState
  deriving DecidableEq, Repr

inductive VolumeStatus where
  | unknown
  | online
  | degraded
  | faulted
  | shutdown
  deriving DecidableEq, Repr

structure Child where
  uri : String
  rebuildProgress : Option ℕ
  deriving DecidableEq, Repr

structure Nexus where
  node : String
  children : List Child
  deriving DecidableEq, Repr

structure ReplicaTopology where
  node : Option String
  deriving DecidableEq, Repr

/-- The replicas are listed in the order of their ids. -/
structure VolumeState where
  status : VolumeStatus
  target : Option Nexus
  replicaTopology : List (String × ReplicaTopology)
  deriving DecidableEq, Repr

structure VolumeTarget where
  node : String
  frontendNodes : Option (List String)
  deriving DecidableEq, Repr

structure VolumeSpec where
  uuid : String
  target : Option VolumeTarget
  deriving DecidableEq, Repr

/-- A volume of the REST API; `rest` stands for the remaining fields, which only equality
reads. -/
structure Volume where
  spec : VolumeSpec
  state : VolumeState
  rest : String
  deriving DecidableEq, Repr

/-! ## The cluster -/

/-- One element of `helm list`. -/
structure HelmReleaseElement where
  name : String
  chart : String
  deriving DecidableEq, Repr

/-- What the requests read and change, and how the REST service cuts the list of volumes into
pages. -/
structure Cluster where
  release : HelmReleaseElement
  values : Yaml.Tree
  pods : List Pod
  controllerRevisions : List ControllerRevision
  kubeNodes : List KubeNode
  crds : List String
  nodes : List String
  nodeSpec : String → Option NodeSpec
  volumes : List Volume
  paging : OffsetPages.Paging Volume

/-- A cluster with nothing in it. -/
instance : Inhabited Cluster where
  default :=
    { release := ⟨"", ""⟩, values := .map [], pods := [], controllerRevisions := [],
      kubeNodes := [], crds := [], nodes := [], nodeSpec := fun _ ↦ none, volumes := [],
      paging := .full Volume }

namespace Cluster

/-- The cordon and drain state of a storage node. -/
def cordonDrain (cluster : Cluster) (node : String) : Option CordonDrainState :=
  (cluster.nodeSpec node).bind NodeSpec.cordondrainstate

theorem cordonDrain_of_nodeSpec {cluster : Cluster} {node : String} {spec : NodeSpec}
    (h : cluster.nodeSpec node = some spec) : cluster.cordonDrain node = spec.cordondrainstate := by
  simp [cordonDrain, h]

/-- Change the cordon and drain state of a storage node. -/
def alterNode (node : String) (change : Option CordonDrainState → Option CordonDrainState)
    (cluster : Cluster) : Cluster :=
  { cluster with
    nodeSpec := Function.update cluster.nodeSpec node
      ((cluster.nodeSpec node).map fun spec ↦ ⟨change spec.cordondrainstate⟩) }

/-- The control plane places new targets only on nodes that are neither cordoned nor draining nor
drained. -/
def acceptsTargets (cluster : Cluster) (node : String) : Bool :=
  (cluster.cordonDrain node).isNone

/-- The nodes that carry the label of nodes without ANA. -/
def anaDisabledNodes (cluster : Cluster) : List KubeNode :=
  cluster.kubeNodes.filter KubeNode.anaDisabled

def podsMatching (cluster : Cluster) (selector : PodSelector) : List Pod :=
  cluster.pods.filter selector.accepts

end Cluster

/-! ## Cordon and drain in the control plane -/

namespace CordonDrainState

/-- The drain labels of a node that is draining or drained. -/
def drainlabels : Option CordonDrainState → List String
  | some (.drainingstate _ labels) | some (.drainedstate _ labels) => labels
  | _ => []

/-- Add a cordon label, in whatever state the node is. -/
def cordon (label : String) : Option CordonDrainState → Option CordonDrainState
  | none => some (.cordonedstate [label])
  | some (.cordonedstate cordoned) => some (.cordonedstate (label :: cordoned))
  | some (.drainingstate cordoned drained) => some (.drainingstate (label :: cordoned) drained)
  | some (.drainedstate cordoned drained) => some (.drainedstate (label :: cordoned) drained)

/-- The state that fits the labels that are left. -/
def settle (leave : List String → List String → CordonDrainState) :
    List String → List String → Option CordonDrainState
  | [], [] => none
  | cordoned, [] => some (.cordonedstate cordoned)
  | cordoned, drained => some (leave cordoned drained)

/-- Remove a label from the cordon and the drain labels. -/
def uncordon (label : String) : Option CordonDrainState → Option CordonDrainState
  | none => none
  | some (.cordonedstate cordoned) =>
    settle .drainingstate (cordoned.filter (· ≠ label)) []
  | some (.drainingstate cordoned drained) =>
    settle .drainingstate (cordoned.filter (· ≠ label)) (drained.filter (· ≠ label))
  | some (.drainedstate cordoned drained) =>
    settle .drainedstate (cordoned.filter (· ≠ label)) (drained.filter (· ≠ label))

/-- Add a drain label; the node starts draining. -/
def drain (label : String) : Option CordonDrainState → Option CordonDrainState
  | none => some (.drainingstate [] [label])
  | some (.cordonedstate cordoned) => some (.drainingstate cordoned [label])
  | some (.drainingstate cordoned drained) | some (.drainedstate cordoned drained) =>
    some (.drainingstate cordoned (label :: drained))

/-- The control plane has moved the last target off a draining node. -/
def completeDrain : Option CordonDrainState → Option CordonDrainState
  | some (.drainingstate cordoned drained) => some (.drainedstate cordoned drained)
  | state => state

end CordonDrainState

/-! ## Moves of the cluster -/

/-- What happens in the cluster without the job. -/
inductive Move where
  | completeDrain (node : String)
  | setPods (pods : List Pod)
  | setControllerRevisions (revisions : List ControllerRevision)
  | publish (position : ℕ) (target : VolumeTarget)
  | setVolumes (volumes : List Volume)

/-- A Pod that was there before keeps the chart it was started from; a new one is started from
the chart of the release. -/
def startedFrom (cluster : Cluster) (pod : Pod) : Pod :=
  match cluster.pods.find? fun old ↦ old.name = pod.name ∧ old.app = pod.app with
  | some old => { pod with chart := old.chart }
  | none => { pod with chart := cluster.release.chart }

/-- A volume with its target published. -/
def Volume.publish (target : VolumeTarget) (volume : Volume) : Volume :=
  { volume with spec := { volume.spec with target := some target } }

instance : Interferes Cluster Move where
  move
    | .completeDrain node, cluster => cluster.alterNode node CordonDrainState.completeDrain
    | .setPods pods, cluster => { cluster with pods := pods.map (startedFrom cluster) }
    | .setControllerRevisions revisions, cluster =>
      { cluster with controllerRevisions := revisions }
    | .publish position target, cluster =>
      if cluster.acceptsTargets target.node then
        { cluster with volumes := cluster.volumes.modify position (Volume.publish target) }
      else cluster
    | .setVolumes volumes, cluster => { cluster with volumes := volumes }

/-- A move completes the drain of a node, or it only touches Pods, revisions and volumes. -/
theorem move_cases (step : Move) (cluster : Cluster) :
    (∃ node, step = .completeDrain node ∧ Interferes.move step cluster =
        cluster.alterNode node CordonDrainState.completeDrain) ∨
      ∃ pods revisions volumes, Interferes.move step cluster = { cluster with
        pods := pods, controllerRevisions := revisions, volumes := volumes } := by
  cases step with
  | completeDrain node => exact .inl ⟨node, rfl, rfl⟩
  | setPods pods => exact .inr ⟨pods.map (startedFrom cluster), _, _, rfl⟩
  | setControllerRevisions revisions => exact .inr ⟨_, revisions, _, rfl⟩
  | setVolumes volumes => exact .inr ⟨_, _, volumes, rfl⟩
  | publish position target =>
    right
    simp only [Interferes.move]
    split
    · exact ⟨_, _, cluster.volumes.modify position (Volume.publish target), rfl⟩
    · exact ⟨_, _, _, rfl⟩

@[simp]
theorem move_kubeNodes (step : Move) (cluster : Cluster) :
    (Interferes.move step cluster).kubeNodes = cluster.kubeNodes := by
  obtain ⟨node, -, hmove⟩ | ⟨pods, revisions, volumes, hmove⟩ := move_cases step cluster
  · rw [hmove]
    rfl
  · rw [hmove]

theorem after_kubeNodes (moves : List Move) (cluster : Cluster) :
    (after moves cluster).kubeNodes = cluster.kubeNodes := by
  apply after_invariant fun current : Cluster ↦ current.kubeNodes = cluster.kubeNodes
  · intro step _ current h
    rw [move_kubeNodes, h]
  · rfl

theorem after_anaDisabledNodes (moves : List Move) (cluster : Cluster) :
    (after moves cluster).anaDisabledNodes = cluster.anaDisabledNodes := by
  rw [Cluster.anaDisabledNodes, after_kubeNodes, Cluster.anaDisabledNodes]

/-! ## Requests -/

/-- The requests of the job, its events, and its entry into the data-plane upgrade. -/
inductive Call where
  | helmList
  | helmGetValues
  | helmUpgrade (dryRun : Bool)
  | generateValues
  | listCrds
  | listControllerRevisions (app : App)
  | listPods (selector : PodSelector)
  | deletePod (name node : String)
  | listNodesMetadata
  | getNodes
  | getNode (node : String)
  | putNodeCordon (node label : String)
  | deleteNodeCordon (node label : String)
  | putNodeDrain (node label : String)
  | getVolumes (startingToken : ℕ)
  | publish (event : Event)
  | enterDataPlane (partialRebuild : Bool)
  deriving DecidableEq, Repr

/-- The entry into the data-plane upgrade, with the toggle of partial rebuild. -/
def Call.entersDataPlane : Call → Option Bool
  | .enterDataPlane partialRebuild => some partialRebuild
  | _ => none

/-- A computation of the job. -/
abbrev Job (α : Type) := Program Cluster Move Call Error α

/-- One remembered request of the job. -/
abbrev JobEntry := Entry Cluster Move Call

/-- The environment of the job: anything the cluster may do. -/
def anyTick : Tick Move → Prop := fun _ ↦ True

/-- `KubeClient::list_pods`. -/
def listPods (namespace_ : String) (selector : PodSelector) : Job (List Pod) :=
  Program.query (.listPods selector) (.listPodsWithLabelAndField selector namespace_)
    fun cluster ↦ cluster.podsMatching selector

/-- `KubeClient::list_nodes_metadata` with the label of nodes without ANA. -/
def listAnaDisabledNodes : Job (List KubeNode) :=
  Program.query .listNodesMetadata .listNodesWithLabelAndField Cluster.anaDisabledNodes

/-- `nodes_api().get_nodes`. -/
def getNodes : Job (List String) :=
  Program.query .getNodes .listStorageNodes Cluster.nodes

/-- `nodes_api().get_node` followed by the access to its spec. -/
def getNodeSpec (node : String) : Job NodeSpec := do
  let found ← Program.query (.getNode node) (.getStorageNode node) fun cluster ↦
    if node ∈ cluster.nodes then some (cluster.nodeSpec node) else none
  match found with
  | none => Program.fail (.getStorageNode node)
  | some none => Program.fail (.emptyStorageNodeSpec node)
  | some (some spec) => pure spec

def putNodeCordon (node label : String) : Job Unit :=
  Program.request (.putNodeCordon node label) (.cordonStorageNode node)
    (Cluster.alterNode node (CordonDrainState.cordon label)) fun _ ↦ ()

def deleteNodeCordon (node label : String) : Job Unit :=
  Program.request (.deleteNodeCordon node label) (.storageNodeUncordon node)
    (Cluster.alterNode node (CordonDrainState.uncordon label)) fun _ ↦ ()

def putNodeDrain (node label : String) : Job Unit :=
  Program.request (.putNodeDrain node label) (.drainStorageNode node)
    (Cluster.alterNode node (CordonDrainState.drain label)) fun _ ↦ ()

/-- The number of volumes per request. -/
def maxEntries : ℕ := 200

/-- One page of volumes: its entries and the token of the next page, if there is one. -/
def Cluster.volumesPage (cluster : Cluster) (startingToken : ℕ) : List Volume × Option ℕ :=
  cluster.paging.page maxEntries cluster.volumes startingToken

theorem volumesPage_pages (cluster : Cluster) :
    OffsetPages.Pages cluster.volumes cluster.volumesPage :=
  cluster.paging.pages maxEntries (by decide) cluster.volumes

/-- A page goes on where the pages before it ended. -/
theorem volumesPage_append (keep : Volume → Bool) (cluster : Cluster) (startingToken : ℕ) :
    (cluster.volumes.take startingToken).filter keep ++
        (cluster.volumesPage startingToken).1.filter keep =
      (cluster.volumes.take
        (startingToken + (cluster.volumesPage startingToken).1.length)).filter keep := by
  rw [← List.filter_append, (volumesPage_pages cluster).take_append]

theorem volumesPage_last {cluster : Cluster} {startingToken : ℕ}
    (h : (cluster.volumesPage startingToken).2 = none) :
    cluster.volumes.take (startingToken + (cluster.volumesPage startingToken).1.length) =
      cluster.volumes :=
  (volumesPage_pages cluster).take_of_last h

theorem volumesPage_next {cluster : Cluster} {startingToken next : ℕ}
    (h : (cluster.volumesPage startingToken).2 = some next) :
    next = startingToken + (cluster.volumesPage startingToken).1.length ∧ startingToken < next ∧
      next ≤ cluster.volumes.length :=
  (volumesPage_pages cluster).next_bounds h

/-- `volumes_api().get_volumes`. -/
def getVolumes (startingToken : ℕ) : Job (List Volume × Option ℕ) :=
  Program.query (.getVolumes startingToken) .listStorageVolumes fun cluster ↦
    cluster.volumesPage startingToken

end MayastorExtensions.UpgradeJob
