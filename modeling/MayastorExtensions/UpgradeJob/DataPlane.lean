import MayastorExtensions.UpgradeJob.Rebuild

/-!
# The data-plane upgrade

`upgrade/data_plane.rs` and the node and Pod helpers of `upgrade/utils.rs`: the io-engine Pods
are restarted one node at a time, after the node's rebuilds have finished and, where that is safe,
after the node has been drained.
-/

namespace MayastorExtensions.UpgradeJob

open Scheduled

/-! ## Readiness of Pods -/

/-- The scan over the conditions of one Pod: the first condition of type `Ready` decides, and a
scan that meets none falls through. -/
def readyScan : List PodCondition → Bool
  | [] => true
  | condition :: rest =>
    if condition.type_ = "Ready" then condition.status = "True" else readyScan rest

def allPodsAreReady : List Pod → Bool
  | [] => true
  | pod :: rest =>
    match pod.status.bind PodStatus.conditions with
    | some conditions => if readyScan conditions then allPodsAreReady rest else false
    | none => false

def controlPlaneIsRunning (namespace_ : String) : Job Bool := do
  let coreIsReady := allPodsAreReady (← listPods namespace_ { app := .agentCore })
  let restIsReady := allPodsAreReady (← listPods namespace_ { app := .apiRest })
  let etcdIsReady := allPodsAreReady (← listPods namespace_ { app := .etcd })
  pure (coreIsReady && restIsReady && etcdIsReady)

def verifyControlPlaneIsRunning (namespace_ : String) : Job Unit :=
  Program.loop (fun _ : Unit ↦ do
    if ← controlPlaneIsRunning namespace_ then pure (.inr ()) else pure (.inl ())) ()

/-- The io-engine Pods of the latest revision on a node. -/
def latestPodSelector (node latestHash : String) : PodSelector :=
  { app := .ioEngine, revision := .is latestHash, nodeName := some node }

def dataPlanePodIsRunning (node namespace_ latestHash : String) : Job Bool := do
  let podList ← listPods namespace_ (latestPodSelector node latestHash)
  if podList.isEmpty then pure false
  else if podList.length ≠ 1 then Program.fail (.tooManyIoEnginePods node)
  else pure (allPodsAreReady podList)

def verifyDataPlanePodIsRunning (node namespace_ latestHash : String) : Job Unit :=
  Program.loop (fun _ : Unit ↦ do
    if ← dataPlanePodIsRunning node namespace_ latestHash then pure (.inr ())
    else pure (.inl ())) ()

/-- The Pod goes away, and a new one comes, when the cluster gets to it. -/
def deleteDataPlanePod (nodeName : String) (pod : Pod) : Job Unit :=
  Program.query (.deletePod pod.name nodeName) (.podDelete pod.name nodeName) fun _ ↦ ()

/-- The node a Pod is scheduled to. -/
def podNodeName (namespace_ : String) (pod : Pod) : Except Error String :=
  match pod.spec with
  | none => .error (.emptyPodSpec pod.name namespace_)
  | some spec =>
    match spec.nodeName with
    | none => .error (.emptyPodNodeName pod.name namespace_)
    | some nodeName => .ok nodeName

/-! ## Cordon and drain -/

def cordonStorageNode (nodeId cordonLabel : String) : Job Unit := do
  let spec ← getNodeSpec nodeId
  match spec.cordondrainstate with
  | some (.cordonedstate cordonlabels) =>
    if cordonLabel ∈ cordonlabels then pure () else putNodeCordon nodeId cordonLabel
  | _ => putNodeCordon nodeId cordonLabel

def uncordonStorageNode (nodeId cordonLabel : String) : Job Unit := do
  let spec ← getNodeSpec nodeId
  match spec.cordondrainstate with
  | some (.cordonedstate cordonlabels) =>
    if cordonLabel ∈ cordonlabels then deleteNodeCordon nodeId cordonLabel else pure ()
  | _ => pure ()

/-- Remove the upgrade's drain label from a drained node. -/
def uncordonDrainedStorageNode (nodeId : String) : Job Unit :=
  Program.loop (fun _ : Unit ↦ do
    let spec ← getNodeSpec nodeId
    match spec.cordondrainstate with
    | some (.drainedstate _ drainlabels) =>
      if drainForUpgrade ∈ drainlabels then do
        deleteNodeCordon nodeId drainForUpgrade
        pure (.inl ())
      else pure (.inr ())
    | _ => pure (.inr ())) ()

/-- Drain a node and wait until it is drained. -/
def drainStorageNode (nodeId : String) : Job Unit :=
  Program.loop (fun _ : Unit ↦ do
    let spec ← getNodeSpec nodeId
    match spec.cordondrainstate with
    | some (.drainingstate _ drainlabels) =>
      if drainForUpgrade ∈ drainlabels then pure (.inl ())
      else do
        putNodeDrain nodeId drainForUpgrade
        pure (.inl ())
    | some (.drainedstate _ drainlabels) =>
      if drainForUpgrade ∈ drainlabels then pure (.inr ())
      else do
        putNodeDrain nodeId drainForUpgrade
        pure (.inl ())
    | _ => do
      putNodeDrain nodeId drainForUpgrade
      pure (.inl ())) ()

/-- Collect the frontend nodes of one volume, if its target is on the node. -/
def collectFrontendNodes (nodeName : String) (acc : List String) (volume : Volume) : List String :=
  match volume.spec.target with
  | some target =>
    if target.node = nodeName then
      match target.frontendNodes with
      | some nodes => acc ++ nodes
      | none => acc
    else acc
  | none => acc

/-- The frontend nodes of the volumes whose target is on a node. -/
def frontendNodes (nodeName : String) (volumes : List Volume) : List String :=
  volumes.foldl (collectFrontendNodes nodeName) []

def frontendNodesAnaCheck (nodeName : String) (anaDisabledNodes : List KubeNode) : Job Bool := do
  let volumes ← listAllVolumes
  pure !(anaDisabledNodes.any fun node ↦ (frontendNodes nodeName volumes).contains node.name)

def isNodeDrainable (haIsEnabled : Bool) (nodeName : String) : Job Bool := do
  if !haIsEnabled then pure false
  else do
    let anaDisabledNodes ← listAnaDisabledNodes
    if anaDisabledNodes.isEmpty then pure true
    else do
      cordonStorageNode nodeName cordonAnaCheck
      let result ← Program.attempt (frontendNodesAnaCheck nodeName anaDisabledNodes)
      uncordonStorageNode nodeName cordonAnaCheck
      Program.ofExcept result

/-! ## The rolling restart -/

/-- The arguments of `upgrade_data_plane`; `restClient` is the outcome of parsing the REST
endpoint. -/
structure DataPlaneArgs where
  namespace_ : String
  restClient : Except Error Unit
  latestIoEngineCtrlRevHash : String
  haIsEnabled : Bool
  yetToUpgradeIoEngineLabel : PodSelector
  yetToUpgradeIoEnginePods : List Pod

/-- Drain the node before its restart, if that is safe. -/
def drainIfDrainable (haIsEnabled : Bool) (nodeName : String) : Job Unit := do
  if ← isNodeDrainable haIsEnabled nodeName then drainStorageNode nodeName else pure ()

/-- The body of the rolling loop: one io-engine Pod. -/
def upgradeDataPlanePod (args : DataPlaneArgs) (pod : Pod) : Job Unit := do
  verifyControlPlaneIsRunning args.namespace_
  let nodeName ← Program.ofExcept (podNodeName args.namespace_ pod)
  waitForRebuild nodeName
  drainIfDrainable args.haIsEnabled nodeName
  deleteDataPlanePod nodeName pod
  verifyDataPlanePodIsRunning nodeName args.namespace_ args.latestIoEngineCtrlRevHash
  uncordonDrainedStorageNode nodeName

/-- The rolling loop: restart what is left to upgrade until nothing is. -/
def rollDataPlane (args : DataPlaneArgs) : Job Unit :=
  Program.loop (fun _ : Unit ↦ do
    let podList ← listPods args.namespace_ args.yetToUpgradeIoEngineLabel
    if podList.isEmpty then pure (.inr ())
    else do
      Program.forEach (upgradeDataPlanePod args) podList
      pure (.inl ())) ()

def upgradeDataPlane (args : DataPlaneArgs) : Job Unit := do
  if args.yetToUpgradeIoEnginePods.isEmpty then pure ()
  else do
    Program.ofExcept args.restClient
    let storageNodes ← getNodes
    Program.forEach uncordonDrainedStorageNode storageNodes
    rollDataPlane args

/-! ## What the parts keep -/

/-- The requests that the decision about a drain and the drain are made of. -/
def Call.ofDrain : Call → Bool
  | .listNodesMetadata | .getVolumes _ | .getNode _ | .putNodeCordon _ _ | .deleteNodeCordon _ _
  | .putNodeDrain _ _ => true
  | _ => false

/-- The requests that the data-plane upgrade makes. -/
def Call.ofDataPlane : Call → Bool
  | .listPods _ | .deletePod _ _ | .getNodes => true
  | call => call.ofDrain

theorem Call.ofDataPlane_of_ofDrain {call : Call} (h : call.ofDrain = true) :
    call.ofDataPlane = true := by
  cases call <;> first | rfl | exact h

theorem Call.entersDataPlane_of_ofDataPlane {call : Call} (h : call.ofDataPlane = true) :
    call.entersDataPlane = none := by
  cases call <;> first | rfl | cases h

section Keeps

variable {rely : Tick Move → Prop} {kept : Assertion Cluster Move Call}

theorem listPods_keeps {namespace_ : String} {selector : PodSelector}
    (h : Unmoved rely kept (.listPods selector)) : Keeps rely kept (listPods namespace_ selector) :=
  Keeps.query h

theorem getNodeSpec_keeps {node : String} (h : Unmoved rely kept (.getNode node)) :
    Keeps rely kept (getNodeSpec node) := by
  refine Keeps.bind (Keeps.query h) ?_
  rintro (_ | _ | spec)
  · exact Keeps.fail
  · exact Keeps.fail
  · exact Keeps.pure

/-- The spec a node is found with is the one it has then. -/
theorem getNodeSpec_spec {node : String} (h : Unmoved rely kept (.getNode node)) :
    Triple rely kept (getNodeSpec node)
      (fun spec cluster trace ↦ kept cluster trace ∧ node ∈ cluster.nodes ∧
        cluster.nodeSpec node = some spec)
      kept := by
  refine Triple.bind (fun found cluster trace ↦ kept cluster trace ∧
      found = if node ∈ cluster.nodes then some (cluster.nodeSpec node) else none)
    (Triple.query (fun _ _ hkept ↦ hkept) ?_ h) ?_
  · intro state trace moves hrely hkept
    exact ⟨h state trace moves .served hrely hkept, rfl⟩
  · rintro (_ | _ | spec)
    · exact Triple.fail fun _ _ hkept ↦ hkept.1
    · exact Triple.fail fun _ _ hkept ↦ hkept.1
    · refine Triple.pure ?_
      rintro cluster trace ⟨hkept, hfound⟩
      split at hfound
      next hnode => exact ⟨hkept, hnode, (Option.some.inj hfound).symm⟩
      next => cases hfound

theorem pageVolumes_keeps {keep : Volume → Bool}
    (h : ∀ startingToken, Unmoved rely kept (.getVolumes startingToken)) :
    Keeps rely kept (pageVolumes keep) := by
  refine Keeps.loop fun position ↦ Keeps.bind (Keeps.query (h _)) ?_
  rintro ⟨entries, _ | startingToken⟩
  · exact Keeps.pure
  · exact Keeps.pure

theorem rebuildResult_keeps {nodeName : String} {staleVolumes : List Volume}
    (h : ∀ startingToken, Unmoved rely kept (.getVolumes startingToken)) :
    Keeps rely kept (rebuildResult nodeName staleVolumes) := by
  refine Keeps.loop fun stale ↦ Keeps.bind
    (Keeps.bind (pageVolumes_keeps h) fun _ ↦ Keeps.pure) fun unhealthyVolumes ↦
      Keeps.ite Keeps.pure ?_
  cases rebuildPass nodeName unhealthyVolumes [] stale with
  | rebuilding stale' => exact Keeps.pure
  | finished volumeOverNodes stale' => exact Keeps.ite Keeps.pure Keeps.pure

theorem waitForRebuild_keeps {nodeName : String}
    (h : ∀ startingToken, Unmoved rely kept (.getVolumes startingToken)) :
    Keeps rely kept (waitForRebuild nodeName) :=
  Keeps.loop fun _ ↦ Keeps.bind (rebuildResult_keeps h) fun _ ↦ Keeps.ite Keeps.pure Keeps.pure

theorem cordonStorageNode_keeps {node label : String} (hget : Unmoved rely kept (.getNode node))
    (hput : Keeps rely kept (putNodeCordon node label)) :
    Keeps rely kept (cordonStorageNode node label) := by
  refine Keeps.bind (getNodeSpec_keeps hget) ?_
  rintro ⟨_ | cordoned | _ | _⟩
  · exact hput
  · exact Keeps.ite Keeps.pure hput
  · exact hput
  · exact hput

theorem uncordonStorageNode_keeps {node label : String} (hget : Unmoved rely kept (.getNode node))
    (hdelete : Keeps rely kept (deleteNodeCordon node label)) :
    Keeps rely kept (uncordonStorageNode node label) := by
  refine Keeps.bind (getNodeSpec_keeps hget) ?_
  rintro ⟨_ | cordoned | _ | _⟩
  · exact Keeps.pure
  · exact Keeps.ite hdelete Keeps.pure
  · exact Keeps.pure
  · exact Keeps.pure

theorem isNodeDrainable_keeps {haIsEnabled : Bool} {node : String}
    (hnodes : Unmoved rely kept .listNodesMetadata)
    (hvolumes : ∀ startingToken, Unmoved rely kept (.getVolumes startingToken))
    (hcordon : Keeps rely kept (cordonStorageNode node cordonAnaCheck))
    (huncordon : Keeps rely kept (uncordonStorageNode node cordonAnaCheck)) :
    Keeps rely kept (isNodeDrainable haIsEnabled node) := by
  have hcheck : ∀ anaDisabledNodes,
      Keeps rely kept (frontendNodesAnaCheck node anaDisabledNodes) := fun _ ↦
    Keeps.bind (pageVolumes_keeps hvolumes) fun _ ↦ Keeps.pure
  refine Keeps.ite Keeps.pure (Keeps.bind (Keeps.query hnodes) fun anaDisabledNodes ↦ ?_)
  refine Keeps.ite Keeps.pure (Keeps.bind hcordon fun _ ↦ ?_)
  exact Keeps.bind (Keeps.attempt (hcheck anaDisabledNodes)) fun _ ↦
    Keeps.bind huncordon fun _ ↦ Keeps.ofExcept

theorem uncordonDrainedStorageNode_keeps {node : String}
    (hget : Unmoved rely kept (.getNode node))
    (hdelete : Keeps rely kept (deleteNodeCordon node drainForUpgrade)) :
    Keeps rely kept (uncordonDrainedStorageNode node) := by
  refine Keeps.loop fun _ ↦ Keeps.bind (getNodeSpec_keeps hget) ?_
  rintro ⟨_ | _ | _ | ⟨cordoned, drained⟩⟩
  · exact Keeps.pure
  · exact Keeps.pure
  · exact Keeps.pure
  · exact Keeps.ite (Keeps.bind hdelete fun _ ↦ Keeps.pure) Keeps.pure

theorem drainStorageNode_keeps {node : String} (hget : Unmoved rely kept (.getNode node))
    (hput : Keeps rely kept (putNodeDrain node drainForUpgrade)) :
    Keeps rely kept (drainStorageNode node) := by
  have hdrain : Keeps rely kept
      (do putNodeDrain node drainForUpgrade; pure (.inl ()) : Job (Unit ⊕ Unit)) :=
    Keeps.bind hput fun _ ↦ Keeps.pure
  refine Keeps.loop fun _ ↦ Keeps.bind (getNodeSpec_keeps hget) ?_
  rintro ⟨_ | _ | ⟨cordoned, drained⟩ | ⟨cordoned, drained⟩⟩
  · exact hdrain
  · exact hdrain
  · exact Keeps.ite Keeps.pure hdrain
  · exact Keeps.ite Keeps.pure hdrain

theorem verifyControlPlaneIsRunning_keeps {namespace_ : String}
    (h : ∀ app, Unmoved rely kept (.listPods { app := app })) :
    Keeps rely kept (verifyControlPlaneIsRunning namespace_) :=
  Keeps.loop fun _ ↦ Keeps.bind
    (Keeps.bind (listPods_keeps (h _)) fun _ ↦ Keeps.bind (listPods_keeps (h _)) fun _ ↦
      Keeps.bind (listPods_keeps (h _)) fun _ ↦ Keeps.pure)
    fun _ ↦ Keeps.ite Keeps.pure Keeps.pure

theorem verifyDataPlanePodIsRunning_keeps {node namespace_ latestHash : String}
    (h : Unmoved rely kept (.listPods (latestPodSelector node latestHash))) :
    Keeps rely kept (verifyDataPlanePodIsRunning node namespace_ latestHash) :=
  Keeps.loop fun _ ↦ Keeps.bind
    (Keeps.bind (listPods_keeps h) fun _ ↦
      Keeps.ite Keeps.pure (Keeps.ite Keeps.fail Keeps.pure))
    fun _ ↦ Keeps.ite Keeps.pure Keeps.pure

theorem drainIfDrainable_keeps {haIsEnabled : Bool} {node : String}
    (hcall : ∀ call : Call, call.ofDrain = true → Unmoved rely kept call)
    (halter : ∀ node change cluster trace, kept cluster trace →
      kept (Cluster.alterNode node change cluster) trace) :
    Keeps rely kept (drainIfDrainable haIsEnabled node) := by
  have hget := hcall (.getNode node) rfl
  have hcordon : Keeps rely kept (putNodeCordon node cordonAnaCheck) :=
    Keeps.request (hcall _ rfl) (halter node _)
  have huncordon : Keeps rely kept (deleteNodeCordon node cordonAnaCheck) :=
    Keeps.request (hcall _ rfl) (halter node _)
  have hdrain : Keeps rely kept (putNodeDrain node drainForUpgrade) :=
    Keeps.request (hcall _ rfl) (halter node _)
  refine Keeps.bind (isNodeDrainable_keeps (hcall _ rfl) (fun _ ↦ hcall _ rfl)
    (cordonStorageNode_keeps hget hcordon) (uncordonStorageNode_keeps hget huncordon))
    fun drainable ↦ ?_
  exact Keeps.ite (drainStorageNode_keeps hget hdrain) Keeps.pure

section Requests

variable {args : DataPlaneArgs}
  (hcall : ∀ call : Call, call.ofDataPlane = true → Unmoved rely kept call)
  (halter : ∀ node change cluster trace, kept cluster trace →
    kept (Cluster.alterNode node change cluster) trace)

include hcall halter

theorem uncordonDrained_keeps (node : String) :
    Keeps rely kept (uncordonDrainedStorageNode node) :=
  uncordonDrainedStorageNode_keeps (hcall _ rfl) (Keeps.request (hcall _ rfl) (halter node _))

theorem upgradeDataPlanePod_keeps (pod : Pod) : Keeps rely kept (upgradeDataPlanePod args pod) := by
  refine Keeps.bind (verifyControlPlaneIsRunning_keeps fun _ ↦ hcall _ rfl) fun _ ↦ ?_
  refine Keeps.bind Keeps.ofExcept fun node ↦ ?_
  refine Keeps.bind (waitForRebuild_keeps fun _ ↦ hcall _ rfl) fun _ ↦ ?_
  refine Keeps.bind (drainIfDrainable_keeps
    (fun call hdrain ↦ hcall call (Call.ofDataPlane_of_ofDrain hdrain)) halter) fun _ ↦ ?_
  refine Keeps.bind (Keeps.query (hcall _ rfl)) fun _ ↦ ?_
  refine Keeps.bind (verifyDataPlanePodIsRunning_keeps (hcall _ rfl)) fun _ ↦ ?_
  exact uncordonDrained_keeps hcall halter node

/-- The data-plane upgrade keeps what its own requests and a change of a node's state keep. -/
theorem upgradeDataPlane_keeps : Keeps rely kept (upgradeDataPlane args) := by
  refine Keeps.ite Keeps.pure (Keeps.bind Keeps.ofExcept fun _ ↦ ?_)
  refine Keeps.bind (Keeps.query (hcall _ rfl)) fun storageNodes ↦ ?_
  refine Keeps.bind (Keeps.forEach (uncordonDrained_keeps hcall halter)) fun _ ↦ ?_
  refine Keeps.loop fun _ ↦ Keeps.bind (listPods_keeps (hcall _ rfl)) fun podList ↦ ?_
  exact Keeps.ite Keeps.pure
    (Keeps.bind (Keeps.forEach (upgradeDataPlanePod_keeps hcall halter)) fun _ ↦ Keeps.pure)

end Requests

end Keeps

end MayastorExtensions.UpgradeJob
