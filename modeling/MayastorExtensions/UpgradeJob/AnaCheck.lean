import MayastorExtensions.UpgradeJob.DataPlane
import MayastorExtensions.UpgradeJob.RebuildProgress

/-!
# What the check of the frontend nodes leaves behind

`is_node_drainable` cordons the node while it looks at the frontend nodes and lifts the cordon
afterwards.  The cordon label is added in every state of the node, but it is looked for and removed
only where the node is cordoned and nothing else, so that a node which was draining or drained
before keeps the label of the check.
-/

namespace MayastorExtensions.UpgradeJob

open Scheduled

/-- The labels of the cordons and drains of a node. -/
def CordonDrainState.labels : Option CordonDrainState → List String
  | none => []
  | some (.cordonedstate cordoned) => cordoned
  | some (.drainingstate cordoned drained) | some (.drainedstate cordoned drained) =>
    cordoned ++ drained

/-- Only reading the volumes has failed, if anything has. -/
def Reliable (trace : List JobEntry) : Prop :=
  ∀ entry ∈ trace, entry.verdict = .served ∨ ∃ startingToken, entry.call = .getVolumes startingToken

theorem Reliable.of_append {trace : List JobEntry} {entry : JobEntry}
    (h : Reliable (trace ++ [entry])) : Reliable trace :=
  fun other hother ↦ h other (List.mem_append_left _ hother)

/-- The control plane completes no drain of the node. -/
def undrained (node : String) (tick : Tick Move) : Prop :=
  .completeDrain node ∉ tick.moves

theorem undrained_of_mem_undisturbed {node : String} {count : ℕ} :
    ∀ tick ∈ undisturbed count, undrained node tick := by
  intro tick htick
  rw [undrained, moves_of_mem_undisturbed htick]
  exact List.not_mem_nil

section Found

variable {node : String} {kubeNodes : List KubeNode} {prior state : Option CordonDrainState}

/-- As long as nothing but reading the volumes has failed, the node is there in the given state. -/
def found (node : String) (kubeNodes : List KubeNode) (state : Option CordonDrainState) :
    Assertion Cluster Move Call := fun cluster trace ↦
  cluster.kubeNodes = kubeNodes ∧
    (Reliable trace → node ∈ cluster.nodes ∧ cluster.nodeSpec node = some ⟨state⟩)

/-- Something other than reading the volumes has failed. -/
def broken (kubeNodes : List KubeNode) : Assertion Cluster Move Call := fun cluster trace ↦
  cluster.kubeNodes = kubeNodes ∧ ¬Reliable trace

/-- After a failure nothing is claimed about the node. -/
theorem found_of_broken {cluster : Cluster} {trace : List JobEntry}
    (h : broken kubeNodes cluster trace) : found node kubeNodes state cluster trace :=
  ⟨h.1, fun hreliable ↦ absurd hreliable h.2⟩

theorem nodeSpec_alterNode_self {cluster : Cluster}
    {change : Option CordonDrainState → Option CordonDrainState}
    (h : cluster.nodeSpec node = some ⟨state⟩) :
    (cluster.alterNode node change).nodeSpec node = some ⟨change state⟩ := by
  simp [Cluster.alterNode, h]

/-- The moves of a tick leave the node as it is. -/
theorem after_undrained {moves : List Move} {verdict : Verdict} {cluster : Cluster}
    (h : undrained node ⟨moves, verdict⟩) :
    (after moves cluster).kubeNodes = cluster.kubeNodes ∧
      (after moves cluster).nodes = cluster.nodes ∧
      (after moves cluster).nodeSpec node = cluster.nodeSpec node := by
  refine after_invariant (fun current : Cluster ↦ current.kubeNodes = cluster.kubeNodes ∧
    current.nodes = cluster.nodes ∧ current.nodeSpec node = cluster.nodeSpec node) ?_
    ⟨rfl, rfl, rfl⟩
  intro step hstep current hcurrent
  obtain ⟨other, rfl, hmove⟩ | ⟨pods, revisions, volumes, hmove⟩ := move_cases step current
  · have hne : node ≠ other := by
      rintro rfl
      exact h hstep
    rw [hmove]
    refine ⟨hcurrent.1, hcurrent.2.1, ?_⟩
    simpa [Cluster.alterNode, Function.update_of_ne hne] using hcurrent.2.2
  · rw [hmove]
    exact hcurrent

theorem found_unmoved (call : Call) :
    Unmoved (undrained node) (found node kubeNodes state) call := by
  intro cluster trace moves verdict hrely hfound
  obtain ⟨hkube, hnodes, hspec⟩ := @after_undrained _ _ _ cluster hrely
  refine ⟨hkube.trans hfound.1, fun hreliable ↦ ?_⟩
  rw [hnodes, hspec]
  exact hfound.2 hreliable.of_append

theorem broken_unmoved (call : Call) : Unmoved (undrained node) (broken kubeNodes) call := by
  intro cluster trace moves verdict hrely hbroken
  exact ⟨(after_undrained hrely).1.trans hbroken.1, fun hreliable ↦ hbroken.2 hreliable.of_append⟩

/-- A failed request other than for volumes. -/
theorem broken_of_failed {trace : List JobEntry} {call : Call} {moves : List Move}
    {cluster seen : Cluster} {verdict : Verdict} (hkube : cluster.kubeNodes = kubeNodes)
    (hverdict : verdict ≠ .served) (hcall : ∀ startingToken, call ≠ .getVolumes startingToken) :
    broken kubeNodes cluster (trace ++ [⟨call, moves, seen, verdict⟩]) := by
  refine ⟨hkube, fun hreliable ↦ ?_⟩
  rcases hreliable _ (List.mem_append_right _ (List.mem_singleton.mpr rfl)) with
    hserved | ⟨startingToken, hpage⟩
  · exact hverdict hserved
  · exact hcall startingToken hpage

/-! ## The requests of the check -/

/-- A request that changes the state of the node. -/
theorem alterNode_ends {call : Call} {error : Error}
    {change : Option CordonDrainState → Option CordonDrainState}
    (hcall : ∀ startingToken, call ≠ .getVolumes startingToken) :
    Ends (undrained node) (found node kubeNodes state)
      (Program.request call error (Cluster.alterNode node change) fun _ ↦ () : Job Unit)
      fun result ↦ match result with
        | .ok _ => found node kubeNodes (change state)
        | .error _ => broken kubeNodes := by
  refine Ends.request ?_ ?_ ?_
  · intro cluster trace moves hrely hfound
    have hstill := found_unmoved call cluster trace moves .served hrely hfound
    refine ⟨hstill.1, fun hreliable ↦ ?_⟩
    obtain ⟨hmem, hspec⟩ := hstill.2 hreliable
    exact ⟨hmem, nodeSpec_alterNode_self hspec⟩
  · intro cluster trace moves hrely hfound
    exact broken_of_failed ((after_undrained hrely).1.trans hfound.1) (by decide) hcall
  · intro cluster trace moves hrely hfound
    exact broken_of_failed ((after_undrained hrely).1.trans hfound.1) (by decide) hcall

theorem alterNode_broken {call : Call} {error : Error}
    {change : Option CordonDrainState → Option CordonDrainState} :
    Keeps (undrained node) (broken kubeNodes)
      (Program.request call error (Cluster.alterNode node change) fun _ ↦ () : Job Unit) :=
  Keeps.request (broken_unmoved call) fun _ _ h ↦ h

theorem frontendNodesAnaCheck_found {anaDisabledNodes : List KubeNode} :
    Keeps (undrained node) (found node kubeNodes state)
      (frontendNodesAnaCheck node anaDisabledNodes) :=
  Keeps.bind (pageVolumes_keeps fun _ ↦ found_unmoved _) fun _ ↦ Keeps.pure

/-- Reading the node and going on with what it is found to be. -/
theorem getNodeSpec_bind_ends {α : Type} {next : NodeSpec → Job α}
    {ended : Except Error α → Assertion Cluster Move Call}
    (hnext : Ends (undrained node) (found node kubeNodes state) (next ⟨state⟩) ended)
    (hkeeps : ∀ spec, Keeps (undrained node) (broken kubeNodes) (next spec))
    (hended : ∀ result cluster trace, broken kubeNodes cluster trace → ended result cluster trace) :
    Ends (undrained node) (found node kubeNodes state) (getNodeSpec node >>= next) ended := by
  have hlost : ∀ spec, Ends (undrained node) (broken kubeNodes) (next spec) ended := fun spec ↦
    (Ends.of_triple (hkeeps spec)).weaken (fun _ _ h ↦ h) hended
  refine Ends.bind (fun result cluster trace ↦ match result with
      | .ok spec => (spec = ⟨state⟩ ∧ found node kubeNodes state cluster trace) ∨
          broken kubeNodes cluster trace
      | .error _ => broken kubeNodes cluster trace) ?_ ?_ fun _ _ _ h ↦ hended _ _ _ h
  · refine Ends.bind (fun result cluster trace ↦ match result with
        | .ok reply => (reply = some (some ⟨state⟩) ∧ found node kubeNodes state cluster trace) ∨
            broken kubeNodes cluster trace
        | .error _ => broken kubeNodes cluster trace) (Ends.request ?_ ?_ ?_) ?_ fun _ _ _ h ↦ h
    · intro cluster trace moves hrely hfound
      have hstill := found_unmoved (.getNode node) cluster trace moves .served hrely hfound
      by_cases hreliable : Reliable
          (trace ++ [⟨.getNode node, moves, after moves cluster, .served⟩])
      · obtain ⟨hmem, hspec⟩ := hstill.2 hreliable
        exact .inl ⟨by rw [if_pos hmem, hspec], hstill⟩
      · exact .inr ⟨hstill.1, hreliable⟩
    · intro cluster trace moves hrely hfound
      exact broken_of_failed ((after_undrained hrely).1.trans hfound.1) (by decide) fun _ ↦ by simp
    · intro cluster trace moves hrely hfound
      exact broken_of_failed ((after_undrained hrely).1.trans hfound.1) (by decide) fun _ ↦ by simp
    · rintro (_ | _ | spec)
      · exact Ends.fail fun _ _ h ↦ h.resolve_left (by simp)
      · exact Ends.fail fun _ _ h ↦ h.resolve_left (by simp)
      · exact Ends.pure fun _ _ h ↦ by simpa using h
  · intro spec m hrely hm
    rcases hm with ⟨rfl, hfound⟩ | hbroken
    · exact hnext m hrely hfound
    · exact hlost spec m hrely hbroken

theorem cordonStorageNode_ends {label : String} (hlabel : label ∉ CordonDrainState.labels state) :
    Ends (undrained node) (found node kubeNodes state) (cordonStorageNode node label)
      fun result ↦ match result with
        | .ok _ => found node kubeNodes (CordonDrainState.cordon label state)
        | .error _ => broken kubeNodes := by
  have hput := @alterNode_ends node kubeNodes state (.putNodeCordon node label)
    (.cordonStorageNode node) (CordonDrainState.cordon label) fun _ ↦ by simp
  refine getNodeSpec_bind_ends ?_ ?_ ?_
  · cases state with
    | none => exact hput
    | some state =>
      cases state with
      | cordonedstate cordoned =>
        have hmissing : label ∉ cordoned := hlabel
        dsimp only
        rw [if_neg hmissing]
        exact hput
      | drainingstate cordoned drained => exact hput
      | drainedstate cordoned drained => exact hput
  · rintro ⟨_ | cordoned | _ | _⟩
    · exact alterNode_broken
    · exact Keeps.ite Keeps.pure alterNode_broken
    · exact alterNode_broken
    · exact alterNode_broken
  · rintro (_ | _) cluster trace hbroken
    · exact hbroken
    · exact found_of_broken hbroken

/-- What the uncordon of the check makes of a state: it sees cordons only. -/
def uncordonSeen (label : String) : Option CordonDrainState → Option CordonDrainState
  | some (.cordonedstate cordoned) =>
    if label ∈ cordoned then CordonDrainState.uncordon label (some (.cordonedstate cordoned))
    else some (.cordonedstate cordoned)
  | state => state

theorem uncordonStorageNode_ends {label : String} :
    Ends (undrained node) (found node kubeNodes state) (uncordonStorageNode node label)
      fun result ↦ match result with
        | .ok _ => found node kubeNodes (uncordonSeen label state)
        | .error _ => broken kubeNodes := by
  have hdelete := @alterNode_ends node kubeNodes state (.deleteNodeCordon node label)
    (.storageNodeUncordon node) (CordonDrainState.uncordon label) fun _ ↦ by simp
  refine getNodeSpec_bind_ends ?_ ?_ ?_
  · cases state with
    | none => exact Ends.pure fun _ _ h ↦ h
    | some state =>
      cases state with
      | cordonedstate cordoned =>
        dsimp only [uncordonSeen]
        split
        · exact hdelete
        · exact Ends.pure fun _ _ h ↦ h
      | drainingstate cordoned drained => exact Ends.pure fun _ _ h ↦ h
      | drainedstate cordoned drained => exact Ends.pure fun _ _ h ↦ h
  · rintro ⟨_ | cordoned | _ | _⟩
    · exact Keeps.pure
    · exact Keeps.ite alterNode_broken Keeps.pure
    · exact Keeps.pure
    · exact Keeps.pure
  · rintro (_ | _) cluster trace hbroken
    · exact hbroken
    · exact found_of_broken hbroken

/-! ## The check as a whole -/

/-- The check runs: HA is enabled and there is a node without ANA. -/
def checkRuns (haIsEnabled : Bool) (kubeNodes : List KubeNode) : Bool :=
  haIsEnabled && kubeNodes.any KubeNode.anaDisabled

/-- The state in which the check leaves a node. -/
def leftBehind (haIsEnabled : Bool) (kubeNodes : List KubeNode) (prior : Option CordonDrainState) :
    Option CordonDrainState :=
  if checkRuns haIsEnabled kubeNodes then
    uncordonSeen cordonAnaCheck (CordonDrainState.cordon cordonAnaCheck prior)
  else prior

theorem isNodeDrainable_ends {haIsEnabled : Bool}
    (hlabel : cordonAnaCheck ∉ CordonDrainState.labels prior) :
    Ends (undrained node) (found node kubeNodes prior) (isNodeDrainable haIsEnabled node)
      fun _ ↦ found node kubeNodes (leftBehind haIsEnabled kubeNodes prior) := by
  cases haIsEnabled with
  | false => exact Ends.pure fun _ _ h ↦ h
  | true =>
    refine Ends.bind (fun result cluster trace ↦ match result with
        | .ok nodes => nodes = kubeNodes.filter KubeNode.anaDisabled ∧
            found node kubeNodes prior cluster trace
        | .error _ => broken kubeNodes cluster trace) (Ends.request ?_ ?_ ?_) ?_
      fun _ _ _ h ↦ found_of_broken h
    · intro cluster trace moves hrely hfound
      have hstill := found_unmoved .listNodesMetadata cluster trace moves .served hrely hfound
      exact ⟨congrArg (List.filter KubeNode.anaDisabled) hstill.1, hstill⟩
    · intro cluster trace moves hrely hfound
      exact broken_of_failed ((after_undrained hrely).1.trans hfound.1) (by decide) fun _ ↦ by simp
    · intro cluster trace moves hrely hfound
      exact broken_of_failed ((after_undrained hrely).1.trans hfound.1) (by decide) fun _ ↦ by simp
    · intro nodes
      refine Ends.assume ?_
      rintro rfl
      by_cases hnone : (kubeNodes.filter KubeNode.anaDisabled).isEmpty
      · have hskipped : leftBehind true kubeNodes prior = prior := by
          rw [leftBehind, if_neg]
          simpa [checkRuns] using hnone
        rw [if_pos hnone, hskipped]
        exact Ends.pure fun _ _ h ↦ h
      · have hruns : leftBehind true kubeNodes prior =
            uncordonSeen cordonAnaCheck (CordonDrainState.cordon cordonAnaCheck prior) := by
          rw [leftBehind, if_pos]
          simpa [checkRuns] using hnone
        rw [if_neg hnone, hruns]
        refine Ends.bind _ (cordonStorageNode_ends hlabel) ?_ fun _ _ _ h ↦ found_of_broken h
        intro _
        refine Ends.bind _ (Ends.attempt (Ends.of_triple frontendNodesAnaCheck_found)) ?_ ?_
        · intro result
          have huncordon := @uncordonStorageNode_ends node kubeNodes
            (CordonDrainState.cordon cordonAnaCheck prior) cordonAnaCheck
          refine Ends.bind _ (huncordon.weaken ?_ fun _ _ _ h ↦ h) ?_
            fun _ _ _ h ↦ found_of_broken h
          · rintro cluster trace ⟨_, -, hfound⟩
            exact hfound
          · intro _
            cases result with
            | ok value => exact Ends.pure fun _ _ h ↦ h
            | error error => exact Ends.fail fun _ _ h ↦ h
        · rintro error cluster trace ⟨_, heq, -⟩
          cases heq

end Found

/-- The label is gone again exactly where the node was free or cordoned. -/
theorem leftBehind_eq_iff {haIsEnabled : Bool} {kubeNodes : List KubeNode}
    {prior : Option CordonDrainState} (hlabel : cordonAnaCheck ∉ CordonDrainState.labels prior) :
    leftBehind haIsEnabled kubeNodes prior = prior ↔
      checkRuns haIsEnabled kubeNodes = false ∨ prior = none ∨
        ∃ first rest, prior = some (.cordonedstate (first :: rest)) := by
  unfold leftBehind
  cases checkRuns haIsEnabled kubeNodes with
  | false => simp
  | true =>
    cases prior with
    | none => simp [CordonDrainState.cordon, uncordonSeen, CordonDrainState.uncordon,
        CordonDrainState.settle]
    | some state =>
      cases state with
      | cordonedstate cordoned =>
        have hkept : cordoned.filter (· ≠ cordonAnaCheck) = cordoned := by
          rw [List.filter_eq_self]
          intro label hmem
          have hne : label ≠ cordonAnaCheck := by
            rintro rfl
            exact hlabel hmem
          simpa using hne
        have hrestored : uncordonSeen cordonAnaCheck (CordonDrainState.cordon cordonAnaCheck
            (some (.cordonedstate cordoned))) =
          CordonDrainState.settle .drainingstate cordoned [] := by
          simpa [CordonDrainState.cordon, uncordonSeen, CordonDrainState.uncordon] using
            congrArg (CordonDrainState.settle .drainingstate · []) hkept
        rw [if_pos rfl, hrestored]
        cases cordoned <;> simp [CordonDrainState.settle]
      | drainingstate cordoned drained => simp [CordonDrainState.cordon, uncordonSeen]
      | drainedstate cordoned drained => simp [CordonDrainState.cordon, uncordonSeen]

/-! ## Undisturbed checks -/

theorem getNodeSpec_serves {cluster : Cluster} {node : String} {spec : NodeSpec}
    (hmem : node ∈ cluster.nodes) (hspec : cluster.nodeSpec node = some spec) :
    Serves 1 (getNodeSpec node) cluster (.ok spec) cluster := by
  refine Serves.query_bind ?_
  rw [if_pos hmem, hspec]
  exact Serves.pure spec

/-- The node is there, in whatever state. -/
def present (node : String) (cluster : Cluster) : Prop :=
  node ∈ cluster.nodes ∧ ∃ spec, cluster.nodeSpec node = some spec

theorem present_alterNode {cluster : Cluster} {node : String}
    {change : Option CordonDrainState → Option CordonDrainState} (h : present node cluster) :
    present node (cluster.alterNode node change) := by
  obtain ⟨hmem, spec, hspec⟩ := h
  exact ⟨hmem, _, nodeSpec_alterNode_self hspec⟩

/-- A step that reads the node and changes its state, or not, is served. -/
theorem readThenAlter_serves {cluster : Cluster} {node : String} {next : NodeSpec → Job Unit}
    {call : Call} {error : Error} {change : Option CordonDrainState → Option CordonDrainState}
    (h : present node cluster)
    (hnext : ∀ spec, next spec = pure () ∨
      next spec = Program.request call error (Cluster.alterNode node change) fun _ ↦ ()) :
    ∃ cluster', Serves 2 (getNodeSpec node >>= next) cluster (.ok ()) cluster' ∧
      present node cluster' := by
  obtain ⟨hmem, spec, hspec⟩ := h
  rcases hnext spec with hpure | hrequest
  · refine ⟨cluster, ?_, hmem, spec, hspec⟩
    have hdone : Serves 1 (getNodeSpec node >>= next) cluster (.ok ()) cluster := by
      apply (getNodeSpec_serves hmem hspec).bind
      rw [hpure]
      exact Serves.pure ()
    exact hdone.mono (by omega)
  · refine ⟨cluster.alterNode node change, ?_, present_alterNode ⟨hmem, spec, hspec⟩⟩
    apply (getNodeSpec_serves hmem hspec).bind
    rw [hrequest]
    exact Serves.request call error (Cluster.alterNode node change) fun _ ↦ ()

theorem cordonStorageNode_serves {cluster : Cluster} {node label : String}
    (h : present node cluster) :
    ∃ cluster', Serves 2 (cordonStorageNode node label) cluster (.ok ()) cluster' ∧
      present node cluster' := by
  apply readThenAlter_serves h
  rintro ⟨_ | cordoned | _ | _⟩
  · exact .inr rfl
  · dsimp only
    split
    · exact .inl rfl
    · exact .inr rfl
  · exact .inr rfl
  · exact .inr rfl

theorem uncordonStorageNode_serves {cluster : Cluster} {node label : String}
    (h : present node cluster) :
    ∃ cluster', Serves 2 (uncordonStorageNode node label) cluster (.ok ()) cluster' ∧
      present node cluster' := by
  apply readThenAlter_serves h
  rintro ⟨_ | cordoned | _ | _⟩
  · exact .inl rfl
  · dsimp only
    split
    · exact .inr rfl
    · exact .inl rfl
  · exact .inl rfl
  · exact .inl rfl

/-- Undisturbed, the check of a node that is there returns. -/
theorem isNodeDrainable_serves {cluster : Cluster} {node : String} (haIsEnabled : Bool)
    (h : present node cluster) :
    ∃ cost drainable cluster',
      Serves cost (isNodeDrainable haIsEnabled node) cluster (.ok drainable) cluster' := by
  cases haIsEnabled with
  | false => exact ⟨0, false, cluster, Serves.pure false⟩
  | true =>
    by_cases hnone : cluster.anaDisabledNodes.isEmpty
    · refine ⟨0 + 1, true, cluster, Serves.query_bind ?_⟩
      rw [if_pos hnone]
      exact Serves.pure true
    · obtain ⟨cordoned, hcordon, hpresent⟩ := @cordonStorageNode_serves _ _ cordonAnaCheck h
      obtain ⟨cost, -, hpages⟩ := pageVolumes_serves (fun _ ↦ true) cordoned
      obtain ⟨final, huncordon, -⟩ := @uncordonStorageNode_serves _ _ cordonAnaCheck hpresent
      have hcheck : ∃ drainable, Serves (0 + cost)
          (frontendNodesAnaCheck node cluster.anaDisabledNodes) cordoned (.ok drainable) cordoned :=
        ⟨_, hpages.bind (Serves.pure _)⟩
      obtain ⟨drainable, hcheck⟩ := hcheck
      refine ⟨0 + 2 + (0 + cost) + 2 + 1, drainable, final, Serves.query_bind ?_⟩
      rw [if_neg hnone]
      apply hcordon.bind
      apply hcheck.attempt.bind
      apply huncordon.bind
      exact Serves.pure _

/-- The run of an undisturbed check has seen no failure. -/
theorem isNodeDrainable_reliable {cluster : Cluster} {node : String} {haIsEnabled : Bool}
    {count : ℕ} :
    Reliable (isNodeDrainable haIsEnabled node ⟨cluster, undisturbed count, []⟩).2.trace := by
  have hunmoved : ∀ call : Call, Unmoved (fun tick : Tick Move ↦ tick.verdict = .served)
      (fun (_ : Cluster) trace ↦ Reliable trace) call := by
    intro call state trace moves verdict hserved hreliable entry hentry
    rcases List.mem_append.mp hentry with hbefore | hlast
    · exact hreliable entry hbefore
    · rw [List.mem_singleton.mp hlast]
      exact .inl hserved
  have halter : ∀ call error change, Keeps (fun tick : Tick Move ↦ tick.verdict = .served)
      (fun (_ : Cluster) trace ↦ Reliable trace)
      (Program.request call error (Cluster.alterNode node change) fun _ ↦ () : Job Unit) :=
    fun call error change ↦ Keeps.request (hunmoved call) fun _ _ h ↦ h
  have hkeeps := @isNodeDrainable_keeps _ _ haIsEnabled node (hunmoved _) (fun _ ↦ hunmoved _)
    (cordonStorageNode_keeps (hunmoved _) (halter _ _ _))
    (uncordonStorageNode_keeps (hunmoved _) (halter _ _ _))
  apply hkeeps.apply_any (fun _ ↦ verdict_of_mem_undisturbed)
  intro entry hentry
  exact absurd hentry List.not_mem_nil

/-! ## The state before and after the check -/

/-- Every run of the check that comes to an end, and in which no request but reading the volumes
fails, ends with the node in the state it was in before.  Meanwhile the control plane completes no
drain of the node. -/
def Restores (haIsEnabled : Bool) (node : String) (cluster : Cluster) : Prop :=
  ∀ schedule (result : Except Error Bool) m, (∀ tick ∈ schedule, undrained node tick) →
    isNodeDrainable haIsEnabled node ⟨cluster, schedule, []⟩ = (result.mapError Stop.failed, m) →
    Reliable m.trace → m.state.nodeSpec node = cluster.nodeSpec node

section Restores

variable {haIsEnabled : Bool} {node : String} {cluster : Cluster} {prior : Option CordonDrainState}

theorem isNodeDrainable_leaves (hmem : node ∈ cluster.nodes)
    (hspec : cluster.nodeSpec node = some ⟨prior⟩)
    (hlabel : cordonAnaCheck ∉ CordonDrainState.labels prior) {schedule : List (Tick Move)}
    {result : Except Error Bool} {m : Machine Cluster Move Call}
    (hundrained : ∀ tick ∈ schedule, undrained node tick)
    (hrun : isNodeDrainable haIsEnabled node ⟨cluster, schedule, []⟩ =
      (result.mapError Stop.failed, m))
    (hreliable : Reliable m.trace) :
    m.state.nodeSpec node = some ⟨leftBehind haIsEnabled cluster.kubeNodes prior⟩ := by
  have hfound := (isNodeDrainable_ends hlabel).apply hrun hundrained ⟨rfl, fun _ ↦ ⟨hmem, hspec⟩⟩
  exact (hfound.2 hreliable).2

/-- Without the label of the check on it before, the node is left as it was found if and only if the
check is skipped or the node was free or only cordoned. -/
theorem isNodeDrainable_restores_iff (hmem : node ∈ cluster.nodes)
    (hspec : cluster.nodeSpec node = some ⟨prior⟩)
    (hlabel : cordonAnaCheck ∉ CordonDrainState.labels prior) :
    Restores haIsEnabled node cluster ↔
      checkRuns haIsEnabled cluster.kubeNodes = false ∨ prior = none ∨
        ∃ first rest, prior = some (.cordonedstate (first :: rest)) := by
  rw [← leftBehind_eq_iff hlabel]
  constructor
  · intro hrestores
    -- The undisturbed run comes to an end, so it restores the state and leaves what it leaves.
    obtain ⟨cost, drainable, cluster', hserves⟩ :=
      isNodeDrainable_serves haIsEnabled ⟨hmem, _, hspec⟩
    obtain ⟨left, trace, -, hrun⟩ := hserves cost [] (Nat.le_refl _)
    have hreliable := @isNodeDrainable_reliable cluster node haIsEnabled cost
    rw [hrun] at hreliable
    have hundrained := @undrained_of_mem_undisturbed node cost
    have hspecs : some (NodeSpec.mk (leftBehind haIsEnabled cluster.kubeNodes prior)) =
        some (NodeSpec.mk prior) :=
      calc _ = cluster'.nodeSpec node :=
            (isNodeDrainable_leaves hmem hspec hlabel hundrained hrun hreliable).symm
        _ = cluster.nodeSpec node := hrestores _ _ _ hundrained hrun hreliable
        _ = some ⟨prior⟩ := hspec
    exact congrArg NodeSpec.cordondrainstate (Option.some.inj hspecs)
  · intro hrestored schedule result m hundrained hrun hreliable
    rw [isNodeDrainable_leaves hmem hspec hlabel hundrained hrun hreliable, hrestored, hspec]

end Restores

/-- A cluster with a node without ANA and the storage node `n1` in the given state. -/
def clusterWithoutAna (state : CordonDrainState) : Cluster :=
  { (default : Cluster) with
    kubeNodes := [⟨"k1", true⟩]
    nodes := ["n1"]
    nodeSpec := fun _ ↦ some ⟨some state⟩ }

theorem isNodeDrainable_restores_cordoned :
    cordonAnaCheck ∉ CordonDrainState.labels (some (.cordonedstate ["maintenance"])) ∧
      Restores true "n1" (clusterWithoutAna (.cordonedstate ["maintenance"])) := by
  refine ⟨by decide, ?_⟩
  rw [isNodeDrainable_restores_iff List.mem_cons_self rfl (by decide)]
  exact .inr (.inr ⟨"maintenance", [], rfl⟩)

/-- A node that was drained before keeps the cordon of the check, although every request was
served. -/
theorem isNodeDrainable_leaves_label :
    ¬Restores true "n1" (clusterWithoutAna (.drainedstate [] ["maintenance"])) := by
  intro hrestores
  have hreliable := @isNodeDrainable_reliable
    (clusterWithoutAna (.drainedstate [] ["maintenance"])) "n1" true 5
  have hspec := hrestores (undisturbed 5) (.ok true) _ undrained_of_mem_undisturbed rfl hreliable
  exact absurd hspec (by decide)

end MayastorExtensions.UpgradeJob
