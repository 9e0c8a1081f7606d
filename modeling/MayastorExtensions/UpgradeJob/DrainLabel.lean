import MayastorExtensions.UpgradeJob.DataPlane

/-!
# The drain label

The data-plane upgrade puts the label `drain_for_upgrade()` on a node before it restarts the node's
io-engine, and takes it off in two places: at the start of an attempt, for what earlier attempts
left behind, and after the restart.  Both places act on nodes that are drained and pass over nodes
that are still draining, and the first is reached only if there is something left to upgrade.

An attempt that returns leaves no label behind if it starts with no labelled node when nothing is
left to upgrade, and otherwise with a node draining only where it goes on with the drain: HA is
enabled, every node can do ANA, and a Pod on the node is left to upgrade.
-/

namespace MayastorExtensions.UpgradeJob

open Scheduled

/-! ## Labelled nodes -/

/-- The node is draining under the upgrade's label. -/
def DrainingForUpgrade : Option CordonDrainState → Prop
  | some (.drainingstate _ labels) => drainForUpgrade ∈ labels
  | _ => False

/-- The node carries the upgrade's drain label, draining or drained. -/
def LabelledForUpgrade (state : Option CordonDrainState) : Prop :=
  drainForUpgrade ∈ CordonDrainState.drainlabels state

instance (state : Option CordonDrainState) : Decidable (LabelledForUpgrade state) :=
  inferInstanceAs (Decidable (_ ∈ _))

instance : DecidablePred DrainingForUpgrade
  | some (.drainingstate _ labels) => inferInstanceAs (Decidable (_ ∈ labels))
  | none | some (.cordonedstate _) | some (.drainedstate _ _) => inferInstanceAs (Decidable False)

/-- Bounds on the storage nodes that carry the label, and on those that drain under it. -/
def LabelsWithin (labelled draining : String → Prop) (cluster : Cluster) : Prop :=
  ∀ node ∈ cluster.nodes,
    (LabelledForUpgrade (cluster.cordonDrain node) → labelled node) ∧
      (DrainingForUpgrade (cluster.cordonDrain node) → draining node)

/-- A change of one node's state that neither adds the label nor starts a drain. -/
structure Releasing (change : Option CordonDrainState → Option CordonDrainState) : Prop where
  labelled : ∀ state, LabelledForUpgrade (change state) → LabelledForUpgrade state
  draining : ∀ state, DrainingForUpgrade (change state) → DrainingForUpgrade state

/-- Altering a node reaches the cordon and drain state of that node alone. -/
theorem cordonDrain_alterNode_of_ne {node other : String} (h : other ≠ node)
    (change : Option CordonDrainState → Option CordonDrainState) (cluster : Cluster) :
    (cluster.alterNode node change).cordonDrain other = cluster.cordonDrain other := by
  simp [Cluster.cordonDrain, Cluster.alterNode, Function.update_of_ne h]

/-- The state of an altered node, unless the node has no spec. -/
theorem cordonDrain_alterNode_self (node : String)
    (change : Option CordonDrainState → Option CordonDrainState) (cluster : Cluster) :
    (cluster.alterNode node change).cordonDrain node = change (cluster.cordonDrain node) ∨
      (cluster.alterNode node change).cordonDrain node = none := by
  cases hspec : cluster.nodeSpec node with
  | none => right; simp [Cluster.cordonDrain, Cluster.alterNode, hspec]
  | some spec => left; simp [Cluster.cordonDrain, Cluster.alterNode, hspec]

theorem not_labelled_none : ¬LabelledForUpgrade none := List.not_mem_nil

/-- A releasing change keeps the labels within their bounds. -/
theorem Releasing.labelsWithin {change : Option CordonDrainState → Option CordonDrainState}
    (h : Releasing change) {labelled draining : String → Prop} {cluster : Cluster}
    (hwithin : LabelsWithin labelled draining cluster) (node : String) :
    LabelsWithin labelled draining (cluster.alterNode node change) := by
  intro other hother
  obtain ⟨hlabelled, hdraining⟩ := hwithin other hother
  by_cases heq : other = node
  · subst heq
    rcases cordonDrain_alterNode_self other change cluster with hstate | hstate
    · rw [hstate]
      exact ⟨fun hnew ↦ hlabelled (h.labelled _ hnew), fun hnew ↦ hdraining (h.draining _ hnew)⟩
    · rw [hstate]
      exact ⟨fun hnew ↦ absurd hnew not_labelled_none, False.elim⟩
  · rw [cordonDrain_alterNode_of_ne heq]
    exact ⟨hlabelled, hdraining⟩

/-- A node that may be labelled and draining may be changed in any way. -/
theorem LabelsWithin.alterNode {labelled draining : String → Prop} {cluster : Cluster}
    (hwithin : LabelsWithin labelled draining cluster) {node : String} (hlabelled : labelled node)
    (hdraining : draining node) (change : Option CordonDrainState → Option CordonDrainState) :
    LabelsWithin labelled draining (cluster.alterNode node change) := by
  intro other hother
  by_cases heq : other = node
  · rw [heq]
    exact ⟨fun _ ↦ hlabelled, fun _ ↦ hdraining⟩
  · rw [cordonDrain_alterNode_of_ne heq]
    exact hwithin other hother

theorem LabelsWithin.mono {labelled draining labelled' draining' : String → Prop}
    {cluster : Cluster} (hwithin : LabelsWithin labelled draining cluster)
    (hlabelled : ∀ node ∈ cluster.nodes, LabelledForUpgrade (cluster.cordonDrain node) →
      labelled node → labelled' node)
    (hdraining : ∀ node ∈ cluster.nodes, DrainingForUpgrade (cluster.cordonDrain node) →
      draining node → draining' node) :
    LabelsWithin labelled' draining' cluster := by
  intro node hnode
  obtain ⟨hold, hold'⟩ := hwithin node hnode
  exact ⟨fun h ↦ hlabelled node hnode h (hold h), fun h ↦ hdraining node hnode h (hold' h)⟩

/-! ## Cordons and drains -/

theorem releasing_completeDrain : Releasing CordonDrainState.completeDrain where
  labelled := by
    rintro (_ | _ | _ | _) h <;> exact h
  draining := by
    rintro (_ | _ | _ | _) h <;> exact h.elim

theorem releasing_cordon (label : String) : Releasing (CordonDrainState.cordon label) where
  labelled := by
    rintro (_ | _ | _ | _) h <;> exact h
  draining := by
    rintro (_ | _ | _ | _) h <;> exact h

theorem drainlabels_settle (leave : List String → List String → CordonDrainState)
    (hleave : ∀ cordoned drained,
      CordonDrainState.drainlabels (some (leave cordoned drained)) = drained)
    (cordoned drained : List String) :
    CordonDrainState.drainlabels (CordonDrainState.settle leave cordoned drained) = drained := by
  cases drained with
  | nil => cases cordoned <;> rfl
  | cons label rest => cases cordoned <;> exact hleave _ _

theorem not_draining_settle_drained (cordoned drained : List String) :
    ¬DrainingForUpgrade (CordonDrainState.settle .drainedstate cordoned drained) := by
  cases drained <;> cases cordoned <;> exact id

theorem draining_settle_draining {cordoned drained : List String}
    (h : DrainingForUpgrade (CordonDrainState.settle .drainingstate cordoned drained)) :
    drainForUpgrade ∈ drained := by
  cases drained with
  | nil => cases cordoned <;> exact h.elim
  | cons label rest => cases cordoned <;> exact h

theorem releasing_uncordon (label : String) : Releasing (CordonDrainState.uncordon label) where
  labelled := by
    rintro (_ | cordoned | ⟨cordoned, drained⟩ | ⟨cordoned, drained⟩) h
    · exact h
    · rw [LabelledForUpgrade, CordonDrainState.uncordon,
        drainlabels_settle _ fun _ _ ↦ rfl] at h
      exact absurd h List.not_mem_nil
    · rw [LabelledForUpgrade, CordonDrainState.uncordon,
        drainlabels_settle _ fun _ _ ↦ rfl] at h
      exact List.mem_of_mem_filter h
    · rw [LabelledForUpgrade, CordonDrainState.uncordon,
        drainlabels_settle _ fun _ _ ↦ rfl] at h
      exact List.mem_of_mem_filter h
  draining := by
    rintro (_ | cordoned | ⟨cordoned, drained⟩ | ⟨cordoned, drained⟩) h
    · exact h
    · exact absurd (draining_settle_draining h) List.not_mem_nil
    · exact List.mem_of_mem_filter (draining_settle_draining h)
    · exact (not_draining_settle_drained _ _ h).elim

/-! ## What the cluster does on its own -/

theorem labelsWithin_after {labelled draining : String → Prop} {cluster : Cluster}
    (hwithin : LabelsWithin labelled draining cluster) (moves : List Move) :
    LabelsWithin labelled draining (after moves cluster) := by
  apply after_invariant (LabelsWithin labelled draining) _ hwithin
  intro step _ current hcurrent
  obtain ⟨node, -, hmove⟩ | ⟨pods, revisions, volumes, hmove⟩ := move_cases step current
  · rw [hmove]
    exact releasing_completeDrain.labelsWithin hcurrent node
  · rw [hmove]
    exact hcurrent

/-- The bounds as an assertion about the state; if the node of every Pod is to be drained for
certain, all nodes of the cluster can do ANA. -/
def labels (certain : Prop) (labelled draining : String → Prop) : Assertion Cluster Move Call :=
  fun cluster _ ↦ (certain → cluster.anaDisabledNodes = []) ∧ LabelsWithin labelled draining cluster

section Bounds

variable {certain : Prop} {labelled draining : String → Prop}

theorem labels_unmoved (call : Call) : Unmoved anyTick (labels certain labelled draining) call := by
  rintro cluster trace moves verdict _ ⟨hana, hwithin⟩
  refine ⟨fun h ↦ ?_, labelsWithin_after hwithin moves⟩
  rw [after_anaDisabledNodes]
  exact hana h

/-- Wider bounds hold as well. -/
theorem labels.mono {labelled' draining' : String → Prop} {cluster : Cluster}
    {trace : List JobEntry} (h : labels certain labelled draining cluster trace)
    (hlabelled : ∀ node, labelled node → labelled' node)
    (hdraining : ∀ node, draining node → draining' node) :
    labels certain labelled' draining' cluster trace :=
  ⟨h.1, h.2.mono (fun node _ _ ↦ hlabelled node) fun node _ _ ↦ hdraining node⟩

theorem Releasing.labels {change : Option CordonDrainState → Option CordonDrainState}
    (h : Releasing change) {cluster : Cluster} {trace : List JobEntry}
    (hlabels : labels certain labelled draining cluster trace) (node : String) :
    labels certain labelled draining (cluster.alterNode node change) trace :=
  ⟨hlabels.1, h.labelsWithin hlabels.2 node⟩

/-! ## The parts of the data-plane upgrade -/

/-- The spec that was read shows the state of the node. -/
theorem getNodeSpec_labels (node : String) :
    Triple anyTick (labels certain labelled draining) (getNodeSpec node)
      (fun spec cluster trace ↦ labels certain labelled draining cluster trace ∧
        node ∈ cluster.nodes ∧ cluster.cordonDrain node = spec.cordondrainstate)
      (fun _ _ ↦ True) :=
  (getNodeSpec_spec (labels_unmoved _)).weaken (fun _ _ h ↦ h)
    (fun _ _ _ h ↦ ⟨h.1, h.2.1, Cluster.cordonDrain_of_nodeSpec h.2.2⟩) fun _ _ _ ↦ trivial

/-- On a drained node the label is removed; a node ends up without it unless it is draining. -/
theorem uncordonDrainedStorageNode_labels (node : String) :
    Triple anyTick (labels certain labelled draining) (uncordonDrainedStorageNode node)
      (fun _ ↦
        labels certain (fun other ↦ labelled other ∧ (other = node → draining node)) draining)
      (fun _ _ ↦ True) := by
  refine Triple.loop (fun _ ↦ labels certain labelled draining) (fun _ _ h ↦ h) ?_
    (fun _ _ _ _ ↦ trivial)
  intro _
  refine Triple.bind _ (getNodeSpec_labels node) ?_
  intro spec
  have hgone : (LabelledForUpgrade spec.cordondrainstate →
      DrainingForUpgrade spec.cordondrainstate) → ∀ cluster trace,
      labels certain labelled draining cluster trace ∧ node ∈ cluster.nodes ∧
        cluster.cordonDrain node = spec.cordondrainstate →
      labels certain (fun other ↦ labelled other ∧ (other = node → draining node)) draining
        cluster trace := by
    rintro hspec cluster trace ⟨⟨hana, hwithin⟩, hnode, hstate⟩
    refine ⟨hana, hwithin.mono (fun other _ hlabelled hallowed ↦ ⟨hallowed, ?_⟩) fun _ _ _ ↦ id⟩
    rintro rfl
    rw [hstate] at hlabelled
    exact (hwithin other hnode).2 (hstate ▸ hspec hlabelled)
  obtain ⟨state⟩ := spec
  rcases state with _ | cordoned | ⟨cordoned, drained⟩ | ⟨cordoned, drained⟩
  · exact Triple.pure (hgone fun h ↦ absurd h not_labelled_none)
  · exact Triple.pure (hgone fun h ↦ absurd h List.not_mem_nil)
  · exact Triple.pure (hgone id)
  · dsimp only
    split
    next hlabel =>
      refine Triple.bind (fun _ ↦ labels certain labelled draining) ?_ fun _ ↦
        Triple.pure fun _ _ h ↦ h
      exact (Keeps.request (labels_unmoved _)
        fun _ _ h ↦ (releasing_uncordon _).labels h node).weaken (fun _ _ h ↦ h.1)
          (fun _ _ _ h ↦ h) fun _ _ _ ↦ trivial
    next hlabel => exact Triple.pure (hgone fun h ↦ absurd h hlabel)

/-- The node is drained when the drain returns, and no other node has been labelled. -/
theorem drainStorageNode_labels (node : String) :
    Triple anyTick (labels certain labelled draining) (drainStorageNode node)
      (fun _ ↦ labels certain (fun other ↦ labelled other ∨ other = node)
        fun other ↦ draining other ∧ other ≠ node)
      (fun _ _ ↦ True) := by
  refine Triple.loop (fun _ ↦ labels certain (fun other ↦ labelled other ∨ other = node)
      fun other ↦ draining other ∨ other = node)
    (fun cluster _ h ↦ h.mono (fun _ ↦ .inl) fun _ ↦ .inl) ?_ (fun _ _ _ _ ↦ trivial)
  intro _
  refine Triple.bind _ (getNodeSpec_labels node) ?_
  intro spec
  have hput : Triple anyTick (fun cluster trace ↦
      labels certain (fun other ↦ labelled other ∨ other = node)
          (fun other ↦ draining other ∨ other = node) cluster trace ∧
        node ∈ cluster.nodes ∧ cluster.cordonDrain node = spec.cordondrainstate)
      (do putNodeDrain node drainForUpgrade; pure (.inl ()) : Job (Unit ⊕ Unit))
      (fun result ↦ Sum.elim
        (fun _ ↦ labels certain (fun other ↦ labelled other ∨ other = node)
          fun other ↦ draining other ∨ other = node)
        (fun _ ↦ labels certain (fun other ↦ labelled other ∨ other = node)
          fun other ↦ draining other ∧ other ≠ node) result)
      (fun _ _ ↦ True) := by
    refine Triple.bind (fun _ ↦ labels certain (fun other ↦ labelled other ∨ other = node)
      fun other ↦ draining other ∨ other = node) ?_ fun _ ↦ Triple.pure fun _ _ h ↦ h
    have hkeeps : Keeps anyTick (labels certain (fun other ↦ labelled other ∨ other = node)
        fun other ↦ draining other ∨ other = node) (putNodeDrain node drainForUpgrade) :=
      Keeps.request (labels_unmoved _)
        fun _ _ h ↦ ⟨h.1, LabelsWithin.alterNode h.2 (.inr rfl) (.inr rfl) _⟩
    exact hkeeps.weaken (fun _ _ h ↦ h.1) (fun _ _ _ h ↦ h) fun _ _ _ ↦ trivial
  obtain ⟨state⟩ := spec
  rcases state with _ | cordoned | ⟨cordoned, drained⟩ | ⟨cordoned, drained⟩
  · exact hput
  · exact hput
  · dsimp only
    split
    next => exact Triple.pure fun _ _ h ↦ h.1
    next => exact hput
  · dsimp only
    split
    next =>
      refine Triple.pure ?_
      rintro cluster trace ⟨⟨hana, hwithin⟩, -, hstate⟩
      refine ⟨hana, hwithin.mono (fun _ _ _ ↦ id) fun other _ hdraining hallowed ↦ ?_⟩
      have hother : other ≠ node := by
        rintro rfl
        rw [hstate] at hdraining
        exact hdraining
      exact ⟨hallowed.resolve_right hother, hother⟩
    next => exact hput

/-- The check keeps the bounds, and it finds the node drainable where that is certain. -/
theorem isNodeDrainable_labels {haIsEnabled : Bool} (hha : certain → haIsEnabled = true)
    (node : String) :
    Triple anyTick (labels certain labelled draining) (isNodeDrainable haIsEnabled node)
      (fun drainable cluster trace ↦ (certain → drainable = true) ∧
        labels certain labelled draining cluster trace)
      (fun _ _ ↦ True) := by
  by_cases hcertain : certain
  · have hlisting : Triple anyTick (labels certain labelled draining) listAnaDisabledNodes
        (fun anaDisabledNodes cluster trace ↦ anaDisabledNodes = [] ∧
          labels certain labelled draining cluster trace) (fun _ _ ↦ True) := by
      refine Triple.query (fun _ _ _ ↦ trivial) ?_ fun _ _ _ _ _ _ ↦ trivial
      intro cluster trace moves hrely h
      have hafter := labels_unmoved .listNodesMetadata cluster trace moves .served hrely h
      exact ⟨hafter.1 hcertain, hafter⟩
    rw [hha hcertain]
    refine Triple.bind _ hlisting fun anaDisabledNodes ↦ Triple.assume fun hnone ↦ ?_
    rw [hnone]
    exact Triple.pure fun _ _ h ↦ ⟨fun _ ↦ rfl, h⟩
  · have hkeeps : Keeps anyTick (labels certain labelled draining)
        (isNodeDrainable haIsEnabled node) := by
      apply isNodeDrainable_keeps (labels_unmoved _) fun _ ↦ labels_unmoved _
      · apply cordonStorageNode_keeps (labels_unmoved _)
        exact Keeps.request (labels_unmoved _) fun _ _ h ↦ (releasing_cordon _).labels h node
      · apply uncordonStorageNode_keeps (labels_unmoved _)
        exact Keeps.request (labels_unmoved _) fun _ _ h ↦ (releasing_uncordon _).labels h node
    exact hkeeps.weaken (fun _ _ h ↦ h) (fun _ _ _ h ↦ ⟨fun h' ↦ absurd h' hcertain, h⟩)
      fun _ _ _ ↦ trivial

/-- A node that may be draining when its drain is decided is drained afterwards. -/
theorem drainIfDrainable_labels {haIsEnabled : Bool} (hha : certain → haIsEnabled = true)
    (hcertain : ∀ node, draining node → certain) (node : String) :
    Triple anyTick (labels certain labelled draining) (drainIfDrainable haIsEnabled node)
      (fun _ ↦ labels certain (fun other ↦ labelled other ∨ other = node)
        fun other ↦ draining other ∧ other ≠ node)
      (fun _ _ ↦ True) := by
  refine Triple.bind _ (isNodeDrainable_labels hha node) fun drainable ↦
    Triple.assume fun hdrainable ↦ ?_
  split
  · exact drainStorageNode_labels node
  next hnot =>
    refine Triple.pure fun _ _ h ↦ h.mono (fun _ ↦ .inl) fun other hallowed ↦ ?_
    exact absurd (hdrainable (hcertain other hallowed)) hnot

end Bounds

/-! ## What is left to upgrade -/

def Pod.IsOn (pod : Pod) (node : String) : Prop :=
  pod.spec.bind PodSpec.nodeName = some node

instance (pod : Pod) (node : String) : Decidable (pod.IsOn node) :=
  inferInstanceAs (Decidable (_ = _))

theorem isOn_iff_of_podNodeName {namespace_ node : String} {pod : Pod}
    (h : podNodeName namespace_ pod = .ok node) (other : String) :
    pod.IsOn other ↔ other = node := by
  unfold podNodeName at h
  unfold Pod.IsOn
  cases hspec : pod.spec with
  | none => simp [hspec] at h
  | some spec =>
    cases hnode : spec.nodeName with
    | none => simp [hspec, hnode] at h
    | some nodeName =>
      simp only [hspec, hnode, Except.ok.injEq] at h
      simp [hnode, h, eq_comm]

/-- The nodes that an earlier attempt left draining, as far as one of the Pods is on them. -/
def Remaining (left : String → Prop) (pods : List Pod) (node : String) : Prop :=
  left node ∧ ∃ pod ∈ pods, pod.IsOn node

theorem not_remaining_nil (left : String → Prop) (node : String) : ¬Remaining left [] node := by
  rintro ⟨-, pod, hpod, -⟩
  exact absurd hpod List.not_mem_nil

theorem Remaining.of_cons {left : String → Prop} {pod : Pod} {pods : List Pod}
    {namespace_ node other : String} (h : Remaining left (pod :: pods) other)
    (hpod : podNodeName namespace_ pod = .ok node) (hother : other ≠ node) :
    Remaining left pods other := by
  obtain ⟨hleft, found, hfound, hon⟩ := h
  rcases List.mem_cons.mp hfound with rfl | hrest
  · exact absurd ((isOn_iff_of_podNodeName hpod other).mp hon) hother
  · exact ⟨hleft, found, hrest, hon⟩

/-- The first listing of the Pods that are left to upgrade. -/
def firstListing (args : DataPlaneArgs) (trace : List JobEntry) : Option JobEntry :=
  trace.find? fun entry ↦ entry.call = .listPods args.yetToUpgradeIoEngineLabel

theorem firstListing_concat (args : DataPlaneArgs) (trace : List JobEntry) (entry : JobEntry) :
    firstListing args (trace ++ [entry]) = (firstListing args trace).or
      (if entry.call = .listPods args.yetToUpgradeIoEngineLabel then some entry else none) := by
  rw [firstListing, List.find?_append, List.find?_singleton]
  simp [firstListing]

/-- If the Pods that are left to upgrade have been listed, one of them was on the node then. -/
def UpgradesNode (args : DataPlaneArgs) (node : String) (trace : List JobEntry) : Prop :=
  ∀ entry ∈ firstListing args trace,
    ∃ pod ∈ entry.seen.podsMatching args.yetToUpgradeIoEngineLabel, pod.IsOn node

instance (args : DataPlaneArgs) (node : String) (trace : List JobEntry) :
    Decidable (UpgradesNode args node trace) :=
  inferInstanceAs (Decidable (∀ entry ∈ firstListing args trace, _))

/-- A node that an earlier attempt left draining is not among those to upgrade. -/
def Misses (args : DataPlaneArgs) (left : String → Prop) : Assertion Cluster Move Call :=
  fun _ trace ↦ ∃ node, left node ∧ ¬UpgradesNode args node trace

/-- The Pods that are left to upgrade have not been listed. -/
def Unlisted (args : DataPlaneArgs) : Assertion Cluster Move Call :=
  fun _ trace ↦ firstListing args trace = none

section Attempt

variable {args : DataPlaneArgs} {certain : Prop} {left : String → Prop}

theorem misses_unmoved (call : Call) : Unmoved anyTick (Misses args left) call := by
  rintro cluster trace moves verdict _ ⟨node, hleft, hnot⟩
  refine ⟨node, hleft, fun hupgrades ↦ hnot fun entry hentry ↦ hupgrades entry ?_⟩
  rw [Option.mem_def] at hentry ⊢
  rw [firstListing_concat, hentry, Option.some_or]

theorem unlisted_unmoved {call : Call} (h : call ≠ .listPods args.yetToUpgradeIoEngineLabel) :
    Unmoved anyTick (Unlisted args) call := by
  intro cluster trace moves verdict _ hunlisted
  rw [Unlisted] at hunlisted ⊢
  rw [firstListing_concat, hunlisted, Option.none_or, if_neg h]

/-- The restart of one Pod: its node is without a label afterwards. -/
theorem upgradeDataPlanePod_labels (hha : certain → args.haIsEnabled = true)
    (hcertain : ∀ node, left node → certain) (pod : Pod) (pods : List Pod) :
    Triple anyTick
      (labels certain (Remaining left (pod :: pods)) (Remaining left (pod :: pods)))
      (upgradeDataPlanePod args pod)
      (fun _ ↦ labels certain (Remaining left pods) (Remaining left pods)) (fun _ _ ↦ True) := by
  refine Triple.bind _
    (verifyControlPlaneIsRunning_keeps fun _ ↦ labels_unmoved _).returning fun _ ↦ ?_
  refine Triple.bind (fun node cluster trace ↦ podNodeName args.namespace_ pod = .ok node ∧
    labels certain (Remaining left (pod :: pods)) (Remaining left (pod :: pods)) cluster trace)
    (Triple.ofExcept (fun _ hnode _ _ h ↦ ⟨hnode, h⟩) fun _ _ _ ↦ trivial) fun node ↦
      Triple.assume fun hnode ↦ ?_
  refine Triple.bind _ (waitForRebuild_keeps fun _ ↦ labels_unmoved _).returning fun _ ↦ ?_
  refine Triple.bind _
    (drainIfDrainable_labels hha (fun other h ↦ hcertain other h.1) node) fun _ ↦ ?_
  refine Triple.bind _ (Keeps.query (labels_unmoved _)).returning fun _ ↦ ?_
  refine Triple.bind _ (verifyDataPlanePodIsRunning_keeps (labels_unmoved _)).returning fun _ ↦ ?_
  refine (uncordonDrainedStorageNode_labels node).weaken (fun _ _ h ↦ h) ?_ fun _ _ h ↦ h
  intro _ cluster _ h
  refine h.mono (fun other hallowed ↦ ?_) fun other hallowed ↦
    hallowed.1.of_cons hnode hallowed.2
  have hother : other ≠ node := fun heq ↦ (hallowed.2 heq).2 rfl
  exact (hallowed.1.resolve_right hother).of_cons hnode hother

/-- The first listing finds a Pod on every node that is draining, or misses one of them. -/
theorem listPods_labels :
    Triple anyTick (fun cluster trace ↦ labels certain left left cluster trace ∧
        Unlisted args cluster trace)
      (listPods args.namespace_ args.yetToUpgradeIoEngineLabel)
      (fun podList cluster trace ↦ Misses args left cluster trace ∨
        labels certain (Remaining left podList) (Remaining left podList) cluster trace)
      (fun _ _ ↦ True) := by
  refine Triple.query (fun _ _ _ ↦ trivial) ?_ fun _ _ _ _ _ _ ↦ trivial
  rintro cluster trace moves hrely ⟨hlabels, hunlisted⟩
  rw [Classical.or_iff_not_imp_left]
  intro hfound
  have hremaining : ∀ node, left node → Remaining left
      ((after moves cluster).podsMatching args.yetToUpgradeIoEngineLabel) node := by
    intro node hleft
    refine ⟨hleft, ?_⟩
    by_contra hnone
    refine hfound ⟨node, hleft, fun hupgrades ↦ hnone (hupgrades
      ⟨.listPods args.yetToUpgradeIoEngineLabel, moves, after moves cluster, .served⟩ ?_)⟩
    rw [Option.mem_def, firstListing_concat, hunlisted, Option.none_or, if_pos rfl]
  have hafter := labels_unmoved (.listPods args.yetToUpgradeIoEngineLabel) cluster trace moves
    .served hrely hlabels
  exact hafter.mono hremaining hremaining

/-- The rolling loop ends without a label, unless its first listing misses a node that is
draining. -/
theorem rollDataPlane_labels (hha : certain → args.haIsEnabled = true)
    (hcertain : ∀ node, left node → certain) :
    Triple anyTick (fun cluster trace ↦ labels certain left left cluster trace ∧
        Unlisted args cluster trace)
      (rollDataPlane args)
      (fun _ cluster trace ↦ Misses args left cluster trace ∨
        labels certain (fun _ ↦ False) (fun _ ↦ False) cluster trace)
      (fun _ _ ↦ True) := by
  -- in the first round nothing has been listed, and later no node is labelled between rounds
  refine Triple.loop (fun _ cluster trace ↦
      (labels certain left left cluster trace ∧ Unlisted args cluster trace) ∨
        Misses args left cluster trace ∨
          labels certain (fun _ ↦ False) (fun _ ↦ False) cluster trace)
    (fun _ _ h ↦ .inl h) ?_ (fun _ _ _ _ ↦ trivial)
  intro _
  have hnone : ∀ cluster trace, Misses args left cluster trace ∨
        labels certain (Remaining left []) (Remaining left []) cluster trace →
      Misses args left cluster trace ∨
        labels certain (fun _ ↦ False) (fun _ ↦ False) cluster trace := fun _ _ h ↦
    h.imp_right fun hlabels ↦ hlabels.mono (not_remaining_nil left) (not_remaining_nil left)
  have hlater : Triple anyTick (fun cluster trace ↦ Misses args left cluster trace ∨
        labels certain (fun _ ↦ False) (fun _ ↦ False) cluster trace)
      (listPods args.namespace_ args.yetToUpgradeIoEngineLabel)
      (fun podList cluster trace ↦ Misses args left cluster trace ∨
        labels certain (Remaining left podList) (Remaining left podList) cluster trace)
      (fun _ _ ↦ True) := by
    refine (Triple.or (listPods_keeps (misses_unmoved _))
      (listPods_keeps (labels_unmoved _))).weaken (fun _ _ h ↦ h) ?_ fun _ _ _ ↦ trivial
    intro podList cluster trace h
    exact h.imp_right fun hlabels ↦ hlabels.mono (fun _ ↦ False.elim) fun _ ↦ False.elim
  have hlisting := (Triple.or (@listPods_labels args certain left) hlater).weaken
    (fun _ _ h ↦ h) (fun _ _ _ h ↦ h.elim id id) fun _ _ _ ↦ trivial
  refine Triple.bind _ hlisting fun podList ↦ ?_
  split
  next hempty =>
    rw [List.isEmpty_iff.mp hempty]
    exact Triple.pure hnone
  next =>
    refine Triple.bind _ (Triple.forEach (fun remaining cluster trace ↦
      Misses args left cluster trace ∨
        labels certain (Remaining left remaining) (Remaining left remaining) cluster trace)
      podList fun pod rest ↦ ?_) fun _ ↦ Triple.pure fun _ _ h ↦ .inr (hnone _ _ h)
    have hkeeps : Keeps anyTick (Misses args left) (upgradeDataPlanePod args pod) :=
      upgradeDataPlanePod_keeps (fun call _ ↦ misses_unmoved call) (fun _ _ _ _ h ↦ h) pod
    exact (Triple.or hkeeps (upgradeDataPlanePod_labels hha hcertain pod rest)).returning

/-- One attempt: it returns without a label if none is there when nothing is to be upgraded, unless
its first listing misses a node that is draining. -/
theorem upgradeDataPlane_labels (hha : certain → args.haIsEnabled = true)
    (hcertain : ∀ node, left node → certain) :
    Triple anyTick
      (fun cluster trace ↦
        labels certain (fun _ ↦ args.yetToUpgradeIoEnginePods ≠ []) left cluster trace ∧
          Unlisted args cluster trace)
      (upgradeDataPlane args)
      (fun _ cluster trace ↦ Misses args left cluster trace ∨
        ∀ node ∈ cluster.nodes, ¬LabelledForUpgrade (cluster.cordonDrain node))
      (fun _ _ ↦ True) := by
  unfold upgradeDataPlane
  split
  next hempty =>
    refine Triple.pure fun _ _ h ↦ .inr fun node hnode hlabelled ↦ ?_
    exact (h.1.2 node hnode).1 hlabelled (List.isEmpty_iff.mp hempty)
  next =>
    refine Triple.bind (fun _ cluster trace ↦
        labels certain (fun _ ↦ True) left cluster trace ∧ Unlisted args cluster trace)
      (Triple.ofExcept (fun _ _ _ _ h ↦ ⟨h.1.mono (fun _ _ ↦ trivial) fun _ ↦ id, h.2⟩)
        fun _ _ _ ↦ trivial) fun _ ↦ ?_
    refine Triple.bind (fun storageNodes cluster trace ↦
        labels certain (fun node ↦ node ∈ storageNodes ∨ left node) left cluster trace ∧
          Unlisted args cluster trace)
      (Triple.query (fun _ _ _ ↦ trivial) ?_ fun _ _ _ _ _ _ ↦ trivial) fun storageNodes ↦ ?_
    · rintro cluster trace moves hrely ⟨hlabels, hunlisted⟩
      have hafter := labels_unmoved .getNodes cluster trace moves .served hrely hlabels
      exact ⟨⟨hafter.1, hafter.2.mono (fun node hnode _ _ ↦ .inl hnode) fun _ _ _ ↦ id⟩,
        unlisted_unmoved (by simp) cluster trace moves .served hrely hunlisted⟩
    · refine Triple.bind _ (Triple.forEach (fun remaining cluster trace ↦
          labels certain (fun node ↦ node ∈ remaining ∨ left node) left cluster trace ∧
            Unlisted args cluster trace) storageNodes fun node remaining ↦ ?_) fun _ ↦ ?_
      · have hunlisted : Keeps anyTick (Unlisted args) (uncordonDrainedStorageNode node) :=
          uncordonDrainedStorageNode_keeps (unlisted_unmoved (by simp))
            (Keeps.request (unlisted_unmoved (by simp)) fun _ _ h ↦ h)
        refine (Triple.and (uncordonDrainedStorageNode_labels node) hunlisted).weaken
          (fun _ _ h ↦ h) ?_ fun _ _ _ ↦ trivial
        rintro _ cluster trace ⟨hlabels, hkept⟩
        refine ⟨hlabels.mono (fun other hallowed ↦ ?_) fun _ ↦ id, hkept⟩
        rcases hallowed.1 with hmem | hleft
        · rcases List.mem_cons.mp hmem with heq | hrest
          · exact .inr (heq ▸ hallowed.2 heq)
          · exact .inl hrest
        · exact .inr hleft
      · refine (rollDataPlane_labels hha hcertain).weaken ?_ ?_ fun _ _ h ↦ h
        · rintro cluster trace ⟨hlabels, hunlisted⟩
          exact ⟨hlabels.mono (fun _ hallowed ↦ hallowed.resolve_left List.not_mem_nil) fun _ ↦ id,
            hunlisted⟩
        · exact fun _ cluster trace h ↦
            h.imp_right fun hlabels node hnode hlabelled ↦ (hlabels.2 node hnode).1 hlabelled

end Attempt

/-! ## Series of attempts -/

/-- The attempt goes on with the drain of the node that an earlier one began: HA is enabled, every
node of the cluster can do ANA, and when the Pods that are left to upgrade are first listed there is
one on the node. -/
def Redrains (run : Run Cluster Move Call Error DataPlaneArgs Unit) (node : String) : Prop :=
  run.input.haIsEnabled = true ∧ run.start.anaDisabledNodes = [] ∧
    UpgradesNode run.input node run.final.trace

instance (run : Run Cluster Move Call Error DataPlaneArgs Unit) (node : String) :
    Decidable (Redrains run node) :=
  inferInstanceAs (Decidable (_ ∧ _ ∧ _))

/-- A storage node that is draining under the label. -/
def LeftDraining (cluster : Cluster) (node : String) : Prop :=
  node ∈ cluster.nodes ∧ DrainingForUpgrade (cluster.cordonDrain node)

/-- In a series of attempts, each stopped at any point by an error or a crash, which goes on with
the drain of every node that is draining under the label when an attempt starts, and in which no
attempt starts with a labelled node and nothing to upgrade: whenever an attempt returns, no storage
node carries the label. -/
theorem restarts_upgradeDataPlane_unlabelled {starts : List (Start Move DataPlaneArgs)}
    {cluster : Cluster}
    (hstarts : ∀ run ∈ restarts upgradeDataPlane starts cluster, ∀ node ∈ run.start.nodes,
      (DrainingForUpgrade (run.start.cordonDrain node) → Redrains run node) ∧
        (run.input.yetToUpgradeIoEnginePods = [] →
          ¬LabelledForUpgrade (run.start.cordonDrain node))) :
    ∀ run ∈ restarts upgradeDataPlane starts cluster, run.result = .ok () →
      ∀ node ∈ run.final.state.nodes,
        ¬LabelledForUpgrade (run.final.state.cordonDrain node) := by
  intro run hrun hok
  obtain ⟨start, -, -, hrun'⟩ := restarts_mem hrun
  rw [hok] at hrun'
  have hredrains : ∀ node, LeftDraining run.start node → Redrains run node := fun node hleft ↦
    (hstarts run hrun node hleft.1).1 hleft.2
  have hbefore : labels (∃ node, LeftDraining run.start node)
      (fun _ ↦ run.input.yetToUpgradeIoEnginePods ≠ []) (LeftDraining run.start) run.start [] := by
    refine ⟨fun ⟨node, hleft⟩ ↦ (hredrains node hleft).2.1, fun node hnode ↦ ⟨?_, ?_⟩⟩
    · exact fun hlabel hpods ↦ (hstarts run hrun node hnode).2 hpods hlabel
    · exact fun hdraining ↦ ⟨hnode, hdraining⟩
  have hattempt := @upgradeDataPlane_labels run.input (∃ node, LeftDraining run.start node)
    (LeftDraining run.start) (fun ⟨node, hleft⟩ ↦ (hredrains node hleft).1)
    fun node hleft ↦ ⟨node, hleft⟩
  have hafter := hattempt.apply_ok hrun' (fun _ _ ↦ trivial) ⟨hbefore, rfl⟩
  rcases hafter with ⟨node, hleft, hmisses⟩ | hunlabelled
  · exact absurd (hredrains node hleft).2.2 hmisses
  · exact hunlabelled

/-- One storage node with an io-engine Pod of the old revision. -/
def oneNode : Cluster :=
  { (default : Cluster) with
    pods := [⟨"io-engine-old", some .ioEngine, some "old", some ⟨some "n1"⟩, none, ""⟩],
    nodes := ["n1"], nodeSpec := fun node ↦ if node = "n1" then some ⟨none⟩ else none }

/-- The Pod of the new revision, ready. -/
def restartedPod : Pod :=
  ⟨"io-engine-new", some .ioEngine, some "new", some ⟨some "n1"⟩,
    some ⟨some [⟨"Ready", "True"⟩]⟩, ""⟩

/-- The arguments of an attempt on that cluster, with the Pods it has found to be restarted. -/
def oneNodeArgs (pods : List Pod) : DataPlaneArgs where
  namespace_ := "mayastor"
  restClient := .ok ()
  latestIoEngineCtrlRevHash := "new"
  haIsEnabled := true
  yetToUpgradeIoEngineLabel := { app := .ioEngine, revision := .isNot "new" }
  yetToUpgradeIoEnginePods := pods

/-- The requests of an attempt up to the point where the node is drained. -/
def untilDrained : List (Tick Move) :=
  List.replicate 12 ⟨[], .served⟩ ++ [⟨[.completeDrain "n1"], .served⟩]

/-- The first attempt stops with the node draining, and the second goes on with the drain and stops
with the node drained; the third removes what they left, drains and restarts, and removes the label
again. -/
def retriedStarts : List (Start Move DataPlaneArgs) :=
  [⟨[], oneNodeArgs oneNode.pods, List.replicate 10 ⟨[], .served⟩⟩,
    ⟨[], oneNodeArgs oneNode.pods,
      List.replicate 8 ⟨[], .served⟩ ++ [⟨[.completeDrain "n1"], .served⟩]⟩,
    ⟨[], oneNodeArgs oneNode.pods, untilDrained ++
      [⟨[.completeDrain "n1"], .served⟩, ⟨[], .served⟩, ⟨[.setPods [restartedPod]], .served⟩] ++
      List.replicate 6 ⟨[], .served⟩⟩]

theorem restarts_upgradeDataPlane_unlabelled_retried :
    ((restarts upgradeDataPlane retriedStarts oneNode).map Run.result =
        [.error .crashed, .error .crashed, .ok ()]) ∧
      ∀ run ∈ restarts upgradeDataPlane retriedStarts oneNode, run.result = .ok () →
        ∀ node ∈ run.final.state.nodes,
          ¬LabelledForUpgrade (run.final.state.cordonDrain node) := by
  refine ⟨by decide +kernel, restarts_upgradeDataPlane_unlabelled ?_⟩
  decide +kernel

/-- The first attempt stops after the restart and before the label is removed; the second finds
nothing to upgrade. -/
def leakingStarts : List (Start Move DataPlaneArgs) :=
  [⟨[], oneNodeArgs oneNode.pods, untilDrained ++
      [⟨[], .served⟩, ⟨[.setPods [restartedPod]], .served⟩]⟩,
    ⟨[], oneNodeArgs [], []⟩]

theorem restarts_upgradeDataPlane_leaks_label :
    ∃ run ∈ restarts upgradeDataPlane leakingStarts oneNode, run.result = .ok () ∧
      ∃ node ∈ run.final.state.nodes,
        LabelledForUpgrade (run.final.state.cordonDrain node) := by
  decide +kernel

end MayastorExtensions.UpgradeJob
