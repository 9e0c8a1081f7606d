import MayastorExtensions.UpgradeJob.DataPlane

/-!
# The drain decision

A node may be drained if no volume target on it has a frontend node without ANA.  The job decides
that under a temporary cordon, which keeps new targets away from the node while the volumes are
listed page by page, and then lifts the cordon before it issues the drain.  The decision is sound
when the last page is read, and it still is at the drain request unless an unsafe target has been
published on the node in between.
-/

namespace MayastorExtensions.UpgradeJob

open Scheduled

/-! ## Unsafe targets -/

/-- One of the frontend nodes of the target cannot do ANA. -/
def VolumeTarget.Incapable (kubeNodes : List KubeNode) (target : VolumeTarget) : Prop :=
  ∃ frontends ∈ target.frontendNodes, ∃ kubeNode ∈ kubeNodes,
    kubeNode.anaDisabled = true ∧ kubeNode.name ∈ frontends

/-- The volume has its target on the node, with a frontend node that cannot do ANA. -/
def UnsafeOn (kubeNodes : List KubeNode) (node : String) (volume : Volume) : Prop :=
  ∃ target ∈ volume.spec.target, target.node = node ∧ target.Incapable kubeNodes

instance (kubeNodes : List KubeNode) (target : VolumeTarget) :
    Decidable (target.Incapable kubeNodes) :=
  inferInstanceAs (Decidable (∃ frontends ∈ target.frontendNodes, _))

instance (kubeNodes : List KubeNode) (node : String) (volume : Volume) :
    Decidable (UnsafeOn kubeNodes node volume) :=
  inferInstanceAs (Decidable (∃ target ∈ volume.spec.target, _))

/-- No volume is unsafe on the node. -/
def SafeToDrain (kubeNodes : List KubeNode) (node : String) (volumes : List Volume) : Prop :=
  ∀ volume ∈ volumes, ¬UnsafeOn kubeNodes node volume

/-- Before the request no target that has a frontend without ANA is published on the node.  What a
cordon or a drain of the node turns away, or what names no volume, is not published. -/
def Harmless (kubeNodes : List KubeNode) (node : String) (entry : JobEntry) : Prop :=
  entry.seen.acceptsTargets node = true → ∀ position < entry.seen.volumes.length, ∀ target,
    Move.publish position target ∈ entry.moves → target.node = node → ¬target.Incapable kubeNodes

/-- Volumes change by publication alone. -/
def publishing : Tick Move → Prop := fun tick ↦
  ∀ volumes, Move.setVolumes volumes ∉ tick.moves

theorem mem_foldl_collectFrontendNodes (node name : String) (volumes : List Volume)
    (acc : List String) :
    name ∈ volumes.foldl (collectFrontendNodes node) acc ↔
      name ∈ acc ∨ ∃ volume ∈ volumes, ∃ target ∈ volume.spec.target, target.node = node ∧
        ∃ frontends ∈ target.frontendNodes, name ∈ frontends := by
  induction volumes generalizing acc with
  | nil => simp
  | cons volume rest ih =>
    rw [List.foldl_cons, ih]
    cases htarget : volume.spec.target with
    | none => simp [collectFrontendNodes, htarget]
    | some target =>
      by_cases hnode : target.node = node
      · cases hfrontends : target.frontendNodes with
        | none => simp [collectFrontendNodes, htarget, hnode, hfrontends]
        | some frontends => simp [collectFrontendNodes, htarget, hnode, hfrontends, or_assoc]
      · simp [collectFrontendNodes, htarget, hnode]

/-- The names the check compares with are those of the frontend nodes of targets on the node. -/
theorem mem_frontendNodes {node name : String} {volumes : List Volume} :
    name ∈ frontendNodes node volumes ↔
      ∃ volume ∈ volumes, ∃ target ∈ volume.spec.target, target.node = node ∧
        ∃ frontends ∈ target.frontendNodes, name ∈ frontends := by
  rw [frontendNodes, mem_foldl_collectFrontendNodes]
  simp

/-- A listing that passes the check has no unsafe volume. -/
theorem safeToDrain_of_check {kubeNodes : List KubeNode} {node : String} {volumes : List Volume}
    (h : ((kubeNodes.filter KubeNode.anaDisabled).any fun kubeNode ↦
      (frontendNodes node volumes).contains kubeNode.name) = false) :
    SafeToDrain kubeNodes node volumes := by
  rintro volume hvolume ⟨target, htarget, hnode, frontends, hfrontends, kubeNode, hmem, hana, hname⟩
  have hdisabled : kubeNode ∈ kubeNodes.filter KubeNode.anaDisabled :=
    List.mem_filter.mpr ⟨hmem, hana⟩
  have hcontains : kubeNode.name ∈ frontendNodes node volumes :=
    mem_frontendNodes.mpr ⟨volume, hvolume, target, htarget, hnode, frontends, hfrontends, hname⟩
  rw [List.any_eq_false] at h
  exact h kubeNode hdisabled (by simpa using hcontains)

/-- Without nodes that cannot do ANA every drain is safe. -/
theorem safeToDrain_of_no_anaDisabled {kubeNodes : List KubeNode}
    (h : kubeNodes.filter KubeNode.anaDisabled = []) (node : String) (volumes : List Volume) :
    SafeToDrain kubeNodes node volumes := by
  rintro volume _ ⟨target, _, _, frontends, _, kubeNode, hmem, hana, _⟩
  have hdisabled : kubeNode ∈ kubeNodes.filter KubeNode.anaDisabled :=
    List.mem_filter.mpr ⟨hmem, hana⟩
  rw [h] at hdisabled
  exact List.not_mem_nil hdisabled

/-! ## What moves do to the volumes -/

theorem completeDrain_eq_none_iff (state : Option CordonDrainState) :
    CordonDrainState.completeDrain state = none ↔ state = none := by
  rcases state with _ | _ | _ | _ <;> simp [CordonDrainState.completeDrain]

/-- No move takes a node out of its cordon or drain, or into one. -/
theorem move_acceptsTargets (step : Move) (cluster : Cluster) (node : String) :
    (Interferes.move step cluster).acceptsTargets node = cluster.acceptsTargets node := by
  obtain ⟨other, -, hmove⟩ | ⟨pods, revisions, volumes, hmove⟩ := move_cases step cluster
  · rw [hmove, Bool.eq_iff_iff]
    by_cases heq : node = other
    · subst heq
      cases hspec : cluster.nodeSpec node with
      | none => simp [Cluster.acceptsTargets, Cluster.cordonDrain, Cluster.alterNode, hspec]
      | some spec =>
        simp [Cluster.acceptsTargets, Cluster.cordonDrain, Cluster.alterNode, hspec,
          completeDrain_eq_none_iff]
    · simp [Cluster.acceptsTargets, Cluster.cordonDrain, Cluster.alterNode,
        Function.update_of_ne heq]
  · rw [hmove]
    rfl

theorem after_acceptsTargets (moves : List Move) (cluster : Cluster) (node : String) :
    (after moves cluster).acceptsTargets node = cluster.acceptsTargets node := by
  apply after_invariant fun current : Cluster ↦
    current.acceptsTargets node = cluster.acceptsTargets node
  · intro step _ current h
    rw [move_acceptsTargets, h]
  · rfl

theorem move_volumes_length {step : Move} (hstep : ∀ volumes, step ≠ .setVolumes volumes)
    (cluster : Cluster) :
    (Interferes.move step cluster).volumes.length = cluster.volumes.length := by
  cases step with
  | completeDrain node => rfl
  | setPods pods => rfl
  | setControllerRevisions revisions => rfl
  | setVolumes volumes => exact absurd rfl (hstep volumes)
  | publish position target =>
    simp only [Interferes.move]
    split
    · exact List.length_modify _ _ _
    · rfl

theorem after_volumes_length {moves : List Move}
    (hpublishing : ∀ volumes, Move.setVolumes volumes ∉ moves) (cluster : Cluster) :
    (after moves cluster).volumes.length = cluster.volumes.length := by
  apply after_invariant fun current : Cluster ↦
    current.volumes.length = cluster.volumes.length
  · intro step hstep current h
    rw [move_volumes_length (fun volumes hset ↦ hpublishing volumes (hset ▸ hstep)), h]
  · rfl

/-- Publishing a target that is safe on the node leaves the volumes safe. -/
theorem safeToDrain_modify_publish {kubeNodes : List KubeNode} {node : String}
    {target : VolumeTarget} {volumes : List Volume} {position : ℕ}
    (htarget : position < volumes.length → target.node = node → ¬target.Incapable kubeNodes)
    (h : SafeToDrain kubeNodes node volumes) :
    SafeToDrain kubeNodes node (volumes.modify position (Volume.publish target)) := by
  intro volume hvolume hunsafe
  obtain ⟨index, hindex⟩ := List.mem_iff_getElem?.mp hvolume
  rw [List.getElem?_modify, Option.map_eq_map, Option.map_eq_some_iff] at hindex
  obtain ⟨old, hold, hnew⟩ := hindex
  by_cases hposition : position = index
  · rw [if_pos hposition] at hnew
    subst hnew
    obtain ⟨published, hpublished, hnode, hincapable⟩ := hunsafe
    obtain rfl : target = published := by
      simpa [Volume.publish] using hpublished
    obtain ⟨hinside, -⟩ := List.getElem?_eq_some_iff.mp hold
    exact htarget (hposition ▸ hinside) hnode hincapable
  · rw [if_neg hposition] at hnew
    subst hnew
    exact h old (List.mem_of_getElem? hold) hunsafe

/-- Moves that publish nothing unsafe on the node leave it safe to drain. -/
theorem safeToDrain_after {kubeNodes : List KubeNode} {node : String} {moves : List Move}
    (hpublishing : ∀ volumes, Move.setVolumes volumes ∉ moves) {cluster : Cluster} {call : Call}
    {verdict : Verdict}
    (hharmless : Harmless kubeNodes node ⟨call, moves, after moves cluster, verdict⟩)
    (h : SafeToDrain kubeNodes node cluster.volumes) :
    SafeToDrain kubeNodes node (after moves cluster).volumes := by
  -- every move finds the cordon and the number of volumes that the request finds
  have hinvariant : SafeToDrain kubeNodes node (after moves cluster).volumes ∧
      (after moves cluster).acceptsTargets node = cluster.acceptsTargets node ∧
        (after moves cluster).volumes.length = cluster.volumes.length := by
    apply after_invariant (fun current : Cluster ↦ SafeToDrain kubeNodes node current.volumes ∧
      current.acceptsTargets node = cluster.acceptsTargets node ∧
        current.volumes.length = cluster.volumes.length) _ ⟨h, rfl, rfl⟩
    rintro step hstep current ⟨hsafe, haccepts, hlength⟩
    refine ⟨?_, (move_acceptsTargets step current node).trans haccepts,
      (move_volumes_length (fun volumes hset ↦ hpublishing volumes (hset ▸ hstep)) current).trans
        hlength⟩
    cases step with
    | completeDrain other => exact hsafe
    | setPods pods => exact hsafe
    | setControllerRevisions revisions => exact hsafe
    | setVolumes volumes => exact absurd hstep (hpublishing volumes)
    | publish position target =>
      simp only [Interferes.move]
      split
      next htaken =>
        refine safeToDrain_modify_publish (fun hinside hnode ↦ ?_) hsafe
        refine hharmless ?_ position ?_ target hstep hnode
        · rw [after_acceptsTargets, ← haccepts, ← hnode]
          exact htaken
        · rw [after_volumes_length hpublishing, ← hlength]
          exact hinside
      next => exact hsafe
  exact hinvariant.1

/-! ## The cordon -/

/-- The node takes no new targets. -/
def Held (node : String) (cluster : Cluster) : Prop :=
  cluster.acceptsTargets node = false

theorem held_iff {node : String} {cluster : Cluster} :
    Held node cluster ↔ cluster.cordonDrain node ≠ none := by
  simp [Held, Cluster.acceptsTargets, Option.isNone_eq_false_iff, Option.isSome_iff_ne_none]

/-- A change that leaves a cordoned, draining or drained node so, holds what is held. -/
theorem Held.alterNode {node : String} {cluster : Cluster} (h : Held node cluster)
    {change : Option CordonDrainState → Option CordonDrainState}
    (hchange : ∀ state, state ≠ none → change state ≠ none) (altered : String) :
    Held node (cluster.alterNode altered change) := by
  rw [held_iff] at h ⊢
  by_cases heq : node = altered
  · subst heq
    cases hspec : cluster.nodeSpec node with
    | none => simp [Cluster.cordonDrain, hspec] at h
    | some spec =>
      have hstate : spec.cordondrainstate ≠ none := by
        rwa [Cluster.cordonDrain_of_nodeSpec hspec] at h
      simpa [Cluster.cordonDrain, Cluster.alterNode, hspec] using hchange _ hstate
  · simpa [Cluster.cordonDrain, Cluster.alterNode, Function.update_of_ne heq] using h

theorem completeDrain_ne_none {state : Option CordonDrainState} (h : state ≠ none) :
    CordonDrainState.completeDrain state ≠ none := by
  rcases state with _ | _ | _ | _
  · exact absurd rfl h
  all_goals simp [CordonDrainState.completeDrain]

/-- While the node is held, it stays held and every prefix of the volumes that is safe stays
safe. -/
theorem held_after {kubeNodes : List KubeNode} {node : String} {moves : List Move}
    (hpublishing : ∀ volumes, Move.setVolumes volumes ∉ moves) {cluster : Cluster} {count : ℕ}
    (hheld : Held node cluster) (hsafe : SafeToDrain kubeNodes node (cluster.volumes.take count)) :
    Held node (after moves cluster) ∧
      SafeToDrain kubeNodes node ((after moves cluster).volumes.take count) := by
  apply after_invariant (fun current : Cluster ↦ Held node current ∧
    SafeToDrain kubeNodes node (current.volumes.take count)) _ ⟨hheld, hsafe⟩
  rintro step hstep current ⟨hcurrent, hprefix⟩
  cases step with
  | completeDrain other =>
    exact ⟨hcurrent.alterNode (fun _ ↦ completeDrain_ne_none) other, hprefix⟩
  | setPods pods => exact ⟨hcurrent, hprefix⟩
  | setControllerRevisions revisions => exact ⟨hcurrent, hprefix⟩
  | setVolumes volumes => exact absurd hstep (hpublishing volumes)
  | publish position target =>
    simp only [Interferes.move]
    split
    next haccepts =>
      refine ⟨hcurrent, ?_⟩
      rw [List.take_modify]
      refine safeToDrain_modify_publish (fun _ hnode ↦ ?_) hprefix
      rw [hnode, hcurrent] at haccepts
      exact absurd haccepts (by decide)
    next => exact ⟨hcurrent, hprefix⟩

/-! ## Drain requests in a trace -/

def Call.isListing : Call → Bool
  | .getVolumes _ => true
  | _ => false

/-- The requests since the last page of volumes was read, the latest first. -/
def sinceListing (trace : List JobEntry) : List JobEntry :=
  trace.reverse.takeWhile fun entry ↦ !entry.call.isListing

theorem sinceListing_concat (trace : List JobEntry) (entry : JobEntry) :
    sinceListing (trace ++ [entry]) =
      if entry.call.isListing then [] else entry :: sinceListing trace := by
  cases hlisting : entry.call.isListing <;> simp [sinceListing, hlisting]

theorem mem_sinceListing {trace : List JobEntry} {entry : JobEntry}
    (h : entry ∈ sinceListing trace) : entry ∈ trace ∧ entry.call.isListing = false := by
  constructor
  · exact List.mem_reverse.mp ((List.takeWhile_sublist _).subset h)
  · have hall := List.all_eq_true.mp List.all_takeWhile entry h
    simpa using hall

/-- Every drain is requested with no unsafe target on the node. -/
def DrainsAreSafe (kubeNodes : List KubeNode) (trace : List JobEntry) : Prop :=
  ∀ entry ∈ trace, ∀ node label, entry.call = .putNodeDrain node label →
    SafeToDrain kubeNodes node entry.seen.volumes

/-- Between the last page of volumes and a drain request, no unsafe target is published on the
node. -/
def Undisturbed (kubeNodes : List KubeNode) (trace : List JobEntry) : Prop :=
  ∀ before request rest node label, trace = before ++ request :: rest →
    request.call = .putNodeDrain node label →
      ∀ entry ∈ request :: sinceListing before, Harmless kubeNodes node entry

section Trace

/-- The move publishes nothing in a cluster of the cordons and drains of this one. -/
def Move.publishesNothing (cluster : Cluster) : Move → Bool
  | .publish _ target => !cluster.acceptsTargets target.node
  | _ => true

/-- A trace is undisturbed if targets are published only before pages of volumes are read. -/
theorem undisturbed_of_moves {kubeNodes : List KubeNode} {trace : List JobEntry}
    (h : ∀ entry ∈ trace, entry.call.isListing = false →
      ∀ step ∈ entry.moves, step.publishesNothing entry.seen = true) :
    Undisturbed kubeNodes trace := by
  intro before request rest node label hsplit hcall entry hentry haccepts position _ target hmove
    hnode
  have hmem : entry ∈ trace ∧ entry.call.isListing = false := by
    rw [hsplit]
    rcases List.mem_cons.mp hentry with rfl | hsince
    · exact ⟨List.mem_append_right _ List.mem_cons_self, by rw [hcall]; rfl⟩
    · exact ⟨List.mem_append_left _ (mem_sinceListing hsince).1, (mem_sinceListing hsince).2⟩
  have hrefused : (!entry.seen.acceptsTargets target.node) = true :=
    h entry hmem.1 hmem.2 _ hmove
  rw [hnode, haccepts] at hrefused
  exact absurd hrefused (by decide)

variable {kubeNodes : List KubeNode} {trace : List JobEntry} {entry : JobEntry}

theorem Undisturbed.of_concat (h : Undisturbed kubeNodes (trace ++ [entry])) :
    Undisturbed kubeNodes trace := by
  intro before request rest node label hsplit
  apply h before request (rest ++ [entry]) node label
  simp [hsplit]

theorem DrainsAreSafe.concat (h : DrainsAreSafe kubeNodes trace)
    (hentry : ∀ node label, entry.call = .putNodeDrain node label →
      SafeToDrain kubeNodes node entry.seen.volumes) :
    DrainsAreSafe kubeNodes (trace ++ [entry]) := by
  intro request hrequest
  rcases List.mem_append.mp hrequest with hold | hnew
  · exact h request hold
  · rw [List.mem_singleton.mp hnew]
    exact hentry

end Trace

/-! ## The decision and the drain -/

/-- Undisturbed drains have been safe so far. -/
def drains (kubeNodes : List KubeNode) : Assertion Cluster Move Call := fun cluster trace ↦
  cluster.kubeNodes = kubeNodes ∧
    (Undisturbed kubeNodes trace → DrainsAreSafe kubeNodes trace)

/-- The node is safe to drain unless an unsafe target has been published since the last page of
volumes was read. -/
def Cleared (kubeNodes : List KubeNode) (node : String) : Assertion Cluster Move Call :=
  fun cluster trace ↦ (∀ entry ∈ sinceListing trace, Harmless kubeNodes node entry) →
    SafeToDrain kubeNodes node cluster.volumes

/-- The drains so far, and a decision about the next one. -/
def decided (kubeNodes : List KubeNode) (node : String) (drainable : Prop) :
    Assertion Cluster Move Call := fun cluster trace ↦
  drains kubeNodes cluster trace ∧ (drainable → Cleared kubeNodes node cluster trace)

/-- The drains so far, with the node under the cordon of the check. -/
def cordoned (kubeNodes : List KubeNode) (node : String) : Assertion Cluster Move Call :=
  fun cluster trace ↦ drains kubeNodes cluster trace ∧ Held node cluster

section Decision

variable {kubeNodes : List KubeNode} {node : String} {drainable : Prop}

theorem drains_unmoved {call : Call} (hcall : ∀ node label, call ≠ .putNodeDrain node label) :
    Unmoved publishing (drains kubeNodes) call := by
  rintro cluster trace moves verdict _ ⟨hnodes, hsafe⟩
  refine ⟨by rw [after_kubeNodes, hnodes], fun hundisturbed ↦ ?_⟩
  apply (hsafe hundisturbed.of_concat).concat
  intro node label h
  exact absurd h (hcall node label)

theorem Cleared.after {cluster : Cluster} {trace : List JobEntry} {moves : List Move}
    (h : Cleared kubeNodes node cluster trace)
    (hpublishing : ∀ volumes, Move.setVolumes volumes ∉ moves) {call : Call}
    (hcall : call.isListing = false) (verdict : Verdict) :
    Cleared kubeNodes node (after moves cluster)
      (trace ++ [⟨call, moves, Scheduled.after moves cluster, verdict⟩]) := by
  intro hharmless
  rw [sinceListing_concat] at hharmless
  simp only [hcall, Bool.false_eq_true, if_false] at hharmless
  apply safeToDrain_after hpublishing (hharmless _ List.mem_cons_self)
  exact h fun entry hentry ↦ hharmless entry (List.mem_cons_of_mem _ hentry)

theorem decided_unmoved {call : Call} (hcall : ∀ node label, call ≠ .putNodeDrain node label)
    (hlisting : call.isListing = false) :
    Unmoved publishing (decided kubeNodes node drainable) call := by
  rintro cluster trace moves verdict hrely ⟨hdrains, hcleared⟩
  refine ⟨drains_unmoved hcall cluster trace moves verdict hrely hdrains, fun hdrainable ↦ ?_⟩
  exact (hcleared hdrainable).after hrely hlisting verdict

/-- A drain request on a cleared node is safe if it is undisturbed. -/
theorem putNodeDrain_decided {label : String} :
    Keeps publishing (decided kubeNodes node True) (putNodeDrain node label) := by
  refine Keeps.request ?_ fun _ _ h ↦ h
  rintro cluster trace moves verdict hrely ⟨⟨hnodes, hsafe⟩, hcleared⟩
  have hcleared' : Cleared kubeNodes node (Scheduled.after moves cluster) (trace ++
      [⟨.putNodeDrain node label, moves, Scheduled.after moves cluster, verdict⟩]) :=
    (hcleared trivial).after hrely rfl verdict
  refine ⟨⟨by rw [after_kubeNodes, hnodes], fun hundisturbed ↦ ?_⟩, fun _ ↦ hcleared'⟩
  apply (hsafe hundisturbed.of_concat).concat
  rintro other otherLabel ⟨rfl, rfl⟩
  apply hcleared'
  rw [sinceListing_concat]
  exact hundisturbed trace _ [] node label rfl rfl

theorem held_unmoved {call : Call} (hcall : ∀ node label, call ≠ .putNodeDrain node label) :
    Unmoved publishing (cordoned kubeNodes node) call := by
  rintro cluster trace moves verdict hrely ⟨hdrains, hheld⟩
  refine ⟨drains_unmoved hcall cluster trace moves verdict hrely hdrains, ?_⟩
  have hnone : SafeToDrain kubeNodes node (cluster.volumes.take 0) := by
    intro volume hvolume
    simp at hvolume
  exact (held_after hrely hheld hnone).1

/-- A node that has a spec keeps one. -/
theorem nodeSpec_isSome_after {cluster : Cluster} (h : (cluster.nodeSpec node).isSome = true)
    (moves : List Move) : ((after moves cluster).nodeSpec node).isSome = true := by
  apply after_invariant (fun current : Cluster ↦ (current.nodeSpec node).isSome = true) _ h
  intro step _ current hcurrent
  obtain ⟨other, -, hmove⟩ | ⟨pods, revisions, volumes, hmove⟩ := move_cases step current
  · rw [hmove]
    by_cases heq : node = other
    · subst heq
      simpa [Cluster.alterNode] using hcurrent
    · simpa [Cluster.alterNode, Function.update_of_ne heq] using hcurrent
  · rw [hmove]
    exact hcurrent

theorem held_cordon {cluster : Cluster} (h : (cluster.nodeSpec node).isSome = true)
    (label : String) :
    Held node (cluster.alterNode node (CordonDrainState.cordon label)) := by
  obtain ⟨⟨state⟩, hspec⟩ := Option.isSome_iff_exists.mp h
  rw [held_iff]
  rcases state with _ | _ | _ | _ <;>
    simp [Cluster.cordonDrain, Cluster.alterNode, hspec, CordonDrainState.cordon]

/-- After the cordon the node is held. -/
theorem cordonStorageNode_held {label : String} :
    Triple publishing (drains kubeNodes) (cordonStorageNode node label)
      (fun _ ↦ cordoned kubeNodes node) (drains kubeNodes) := by
  have hget : Unmoved publishing (drains kubeNodes) (.getNode node) :=
    drains_unmoved fun _ _ h ↦ by cases h
  have hmoved : Unmoved publishing (drains kubeNodes) (.putNodeCordon node label) :=
    drains_unmoved fun _ _ h ↦ by cases h
  have hput : Triple publishing
      (fun cluster trace ↦ drains kubeNodes cluster trace ∧ (cluster.nodeSpec node).isSome = true)
      (putNodeCordon node label) (fun _ ↦ cordoned kubeNodes node) (drains kubeNodes) := by
    apply Triple.request
    · exact fun _ _ h ↦ h.1
    · intro cluster trace moves hrely h
      exact ⟨hmoved cluster trace moves .served hrely h.1,
        held_cordon (nodeSpec_isSome_after h.2 moves) label⟩
    · intro cluster trace moves hrely h
      exact hmoved cluster trace moves .refused hrely h.1
    · intro cluster trace moves hrely h
      exact hmoved cluster trace moves .lost hrely h.1
  refine Triple.bind _ (getNodeSpec_spec hget) fun spec ↦ ?_
  have hother : Triple publishing (fun cluster trace ↦ drains kubeNodes cluster trace ∧
      node ∈ cluster.nodes ∧ cluster.nodeSpec node = some spec)
      (putNodeCordon node label) (fun _ ↦ cordoned kubeNodes node) (drains kubeNodes) :=
    hput.weaken (fun _ _ h ↦ ⟨h.1, Option.isSome_of_eq_some h.2.2⟩) (fun _ _ _ h ↦ h)
      fun _ _ h ↦ h
  obtain ⟨_ | labels | _ | _⟩ := spec
  · exact hother
  · dsimp only
    split
    · refine Triple.pure fun cluster trace h ↦ ⟨h.1, ?_⟩
      rw [held_iff, Cluster.cordonDrain_of_nodeSpec h.2.2]
      exact Option.some_ne_none _
    · exact hother
  · exact hother
  · exact hother

/-- If what was listed is safe, so are the volumes up to the end of the page. -/
theorem safeToDrain_page {cluster : Cluster} {volumes : List Volume} {startingToken : ℕ}
    (hbefore : SafeToDrain kubeNodes node volumes →
      SafeToDrain kubeNodes node (cluster.volumes.take startingToken))
    (hsafe : SafeToDrain kubeNodes node
      (volumes ++ (cluster.volumesPage startingToken).1.filter fun _ ↦ true)) :
    SafeToDrain kubeNodes node (cluster.volumes.take
      (startingToken + (cluster.volumesPage startingToken).1.length)) := by
  intro volume hvolume
  rw [← (volumesPage_pages cluster).take_append] at hvolume
  rcases List.mem_append.mp hvolume with hold | hnew
  · apply hbefore _ volume hold
    exact fun listed hlisted ↦ hsafe listed (List.mem_append_left _ hlisted)
  · apply hsafe volume (List.mem_append_right _ _)
    simpa using hnew

/-- A listing under the cordon: if what was listed is safe, so is the node. -/
theorem listAllVolumes_cordoned :
    Triple publishing (cordoned kubeNodes node) listAllVolumes
      (fun volumes cluster trace ↦ drains kubeNodes cluster trace ∧
        (SafeToDrain kubeNodes node volumes → SafeToDrain kubeNodes node cluster.volumes))
      (drains kubeNodes) := by
  have hmoved : ∀ startingToken,
      Unmoved publishing (cordoned kubeNodes node) (.getVolumes startingToken) := fun _ ↦
    held_unmoved fun _ _ h ↦ by cases h
  unfold listAllVolumes pageVolumes
  refine Triple.loop (fun (position : List Volume × ℕ) cluster trace ↦
      cordoned kubeNodes node cluster trace ∧
        (SafeToDrain kubeNodes node position.1 →
          SafeToDrain kubeNodes node (cluster.volumes.take position.2))) ?_ ?_
    (fun _ _ _ h ↦ h.1.1)
  · intro cluster trace h
    refine ⟨h, fun _ volume hvolume ↦ ?_⟩
    simp at hvolume
  · intro position
    refine Triple.bind (fun page cluster trace ↦ cordoned kubeNodes node cluster trace ∧
        page = cluster.volumesPage position.2 ∧
        (SafeToDrain kubeNodes node position.1 →
          SafeToDrain kubeNodes node (cluster.volumes.take position.2)))
      (Triple.query (fun _ _ h ↦ h.1.1) ?_ ?_) ?_
    · intro cluster trace moves hrely h
      refine ⟨hmoved position.2 cluster trace moves .served hrely h.1, rfl, fun hsafe ↦ ?_⟩
      exact (held_after hrely h.1.2 (h.2 hsafe)).2
    · intro cluster trace moves verdict hrely h
      exact (hmoved position.2 cluster trace moves verdict hrely h.1).1
    · rintro ⟨entries, next⟩
      cases next with
      | some startingToken =>
        refine Triple.pure ?_
        rintro cluster trace ⟨hcordoned, heq, hprefix⟩
        have hentries : entries = (cluster.volumesPage position.2).1 := congrArg Prod.fst heq
        have hnext : (cluster.volumesPage position.2).2 = some startingToken :=
          (congrArg Prod.snd heq).symm
        refine ⟨hcordoned, ?_⟩
        rw [hentries, (volumesPage_next hnext).1]
        exact safeToDrain_page hprefix
      | none =>
        refine Triple.pure ?_
        rintro cluster trace ⟨hcordoned, heq, hprefix⟩
        have hentries : entries = (cluster.volumesPage position.2).1 := congrArg Prod.fst heq
        have hlast : (cluster.volumesPage position.2).2 = none := (congrArg Prod.snd heq).symm
        refine ⟨hcordoned.1, fun hsafe ↦ ?_⟩
        rw [hentries] at hsafe
        rw [← volumesPage_last hlast]
        exact safeToDrain_page hprefix hsafe

/-- The check under the cordon: a node that passes it is cleared. -/
theorem frontendNodesAnaCheck_decided :
    Triple publishing (cordoned kubeNodes node)
      (Program.attempt (frontendNodesAnaCheck node (kubeNodes.filter KubeNode.anaDisabled)))
      (fun result ↦ decided kubeNodes node (result = .ok true)) (drains kubeNodes) := by
  apply Triple.attempt
  have hfailed : ∀ cluster trace, drains kubeNodes cluster trace →
      (∀ error : Error, decided kubeNodes node ((.error error : Except Error Bool) = .ok true)
        cluster trace) ∧ drains kubeNodes cluster trace :=
    fun _ _ h ↦ ⟨fun error ↦ ⟨h, fun heq ↦ by cases heq⟩, h⟩
  refine Triple.bind _ (listAllVolumes_cordoned.weaken (fun _ _ h ↦ h) (fun _ _ _ h ↦ h)
    hfailed) fun volumes ↦ Triple.pure fun cluster trace h ↦ ⟨h.1, ?_⟩
  intro hdrainable _
  apply h.2
  apply safeToDrain_of_check
  injection hdrainable with hany
  simpa using hany

/-- The decision is sound: a node found drainable is cleared. -/
theorem isNodeDrainable_decided (haIsEnabled : Bool) :
    Triple publishing (drains kubeNodes) (isNodeDrainable haIsEnabled node)
      (fun result ↦ decided kubeNodes node (result = true)) (drains kubeNodes) := by
  have huncordon : ∀ result : Except Error Bool,
      Keeps publishing (decided kubeNodes node (result = .ok true))
        (uncordonStorageNode node cordonAnaCheck) := fun result ↦
    uncordonStorageNode_keeps (decided_unmoved (fun _ _ h ↦ by cases h) rfl)
      (Keeps.request (decided_unmoved (fun _ _ h ↦ by cases h) rfl) fun _ _ h ↦ h)
  unfold isNodeDrainable
  split
  · exact Triple.pure fun _ _ h ↦ ⟨h, fun heq ↦ by cases heq⟩
  · have hnodes : Unmoved publishing (drains kubeNodes) .listNodesMetadata :=
      drains_unmoved fun _ _ h ↦ by cases h
    refine Triple.bind (fun anaDisabledNodes cluster trace ↦
        anaDisabledNodes = kubeNodes.filter KubeNode.anaDisabled ∧ drains kubeNodes cluster trace)
      (Triple.query (fun _ _ h ↦ h) ?_ hnodes) ?_
    · intro cluster trace moves hrely h
      have hdrains := hnodes cluster trace moves .served hrely h
      exact ⟨by rw [Cluster.anaDisabledNodes, hdrains.1], hdrains⟩
    · refine fun anaDisabledNodes ↦ Triple.assume fun hdisabled ↦ ?_
      rw [hdisabled]
      split
      next hempty =>
        refine Triple.pure fun cluster trace h ↦ ⟨h, fun _ _ ↦ ?_⟩
        exact safeToDrain_of_no_anaDisabled (List.isEmpty_iff.mp hempty) node _
      next =>
        refine Triple.bind _ cordonStorageNode_held fun _ ↦ ?_
        refine Triple.bind _ frontendNodesAnaCheck_decided fun result ↦ ?_
        refine Triple.bind _ ((huncordon result).weaken (fun _ _ h ↦ h) (fun _ _ _ h ↦ h)
          fun _ _ h ↦ h.1) fun _ ↦ ?_
        refine Triple.ofExcept (fun value heq cluster trace h ↦ ?_) fun _ _ h ↦ h.1
        exact ⟨h.1, fun hvalue ↦ h.2 (by rw [heq, hvalue])⟩

theorem drainIfDrainable_drains (haIsEnabled : Bool) :
    Keeps publishing (drains kubeNodes) (drainIfDrainable haIsEnabled node) := by
  have hdrain : Keeps publishing (decided kubeNodes node True) (drainStorageNode node) :=
    drainStorageNode_keeps (decided_unmoved (fun _ _ h ↦ by cases h) rfl) putNodeDrain_decided
  refine Triple.bind _ (isNodeDrainable_decided haIsEnabled) fun drainable ↦ ?_
  split
  next hdrainable =>
    exact hdrain.weaken (fun _ _ h ↦ ⟨h.1, fun _ ↦ h.2 hdrainable⟩) (fun _ _ _ h ↦ h.1)
      fun _ _ h ↦ h.1
  next => exact Triple.pure fun _ _ h ↦ h.1

end Decision

/-! ## Runs -/

theorem upgradeDataPlane_drains (kubeNodes : List KubeNode) (args : DataPlaneArgs) :
    Keeps publishing (drains kubeNodes) (upgradeDataPlane args) := by
  have huncordon : ∀ node, Keeps publishing (drains kubeNodes) (uncordonDrainedStorageNode node) :=
    fun node ↦ uncordonDrainedStorageNode_keeps (drains_unmoved fun _ _ h ↦ by cases h)
      (Keeps.request (drains_unmoved fun _ _ h ↦ by cases h) fun _ _ h ↦ h)
  have hpod : ∀ pod, Keeps publishing (drains kubeNodes) (upgradeDataPlanePod args pod) := by
    intro pod
    refine Keeps.bind (verifyControlPlaneIsRunning_keeps fun _ ↦
      drains_unmoved fun _ _ h ↦ by cases h) fun _ ↦ ?_
    refine Keeps.bind Keeps.ofExcept fun node ↦ ?_
    refine Keeps.bind (waitForRebuild_keeps fun _ ↦ drains_unmoved fun _ _ h ↦ by cases h)
      fun _ ↦ ?_
    refine Keeps.bind (drainIfDrainable_drains args.haIsEnabled) fun _ ↦ ?_
    refine Keeps.bind (Keeps.query (drains_unmoved fun _ _ h ↦ by cases h)) fun _ ↦ ?_
    refine Keeps.bind (verifyDataPlanePodIsRunning_keeps
      (drains_unmoved fun _ _ h ↦ by cases h)) fun _ ↦ ?_
    exact huncordon node
  have hroll : Keeps publishing (drains kubeNodes) (rollDataPlane args) :=
    Keeps.loop fun _ ↦ Keeps.bind (listPods_keeps (drains_unmoved fun _ _ h ↦ by cases h))
      fun podList ↦ Keeps.ite Keeps.pure (Keeps.bind (Keeps.forEach hpod) fun _ ↦ Keeps.pure)
  refine Keeps.ite Keeps.pure (Keeps.bind Keeps.ofExcept fun _ ↦ ?_)
  refine Keeps.bind (Keeps.query (drains_unmoved fun _ _ h ↦ by cases h)) fun storageNodes ↦ ?_
  exact Keeps.bind (Keeps.forEach huncordon) fun _ ↦ hroll

/-- In every interleaving of the data-plane upgrade with a control plane that publishes targets on
nodes that are neither cordoned nor draining nor drained, as long as no unsafe target is published
on a node between the listing that cleared it and its drain request: no drain is requested for a
node that has the target of a volume with a frontend node without ANA. -/
theorem upgradeDataPlane_drains_safely {args : DataPlaneArgs} {cluster : Cluster}
    {schedule : List (Tick Move)} (hpublishing : ∀ tick ∈ schedule, publishing tick)
    (hundisturbed : Undisturbed cluster.kubeNodes
      (upgradeDataPlane args ⟨cluster, schedule, []⟩).2.trace) :
    DrainsAreSafe cluster.kubeNodes (upgradeDataPlane args ⟨cluster, schedule, []⟩).2.trace := by
  have hempty : drains cluster.kubeNodes cluster [] :=
    ⟨rfl, fun _ entry hentry ↦ absurd hentry List.not_mem_nil⟩
  have hrun : drains cluster.kubeNodes _ _ :=
    (upgradeDataPlane_drains cluster.kubeNodes args).apply_any (m := ⟨cluster, schedule, []⟩)
      hpublishing hempty
  exact hrun.2 hundisturbed

/-- One storage node, one volume without a target, and one Kubernetes node without ANA. -/
def oneVolume : Cluster :=
  { (default : Cluster) with
    pods := [⟨"io-engine-old", some .ioEngine, some "old", some ⟨some "n1"⟩, none, ""⟩],
    kubeNodes := [⟨"k1", true⟩], nodes := ["n1"], nodeSpec := fun _ ↦ some ⟨none⟩,
    volumes := [⟨⟨"v1", none⟩, ⟨.online, none, []⟩, ""⟩] }

def oneVolumeArgs : DataPlaneArgs where
  namespace_ := "mayastor"
  restClient := .ok ()
  latestIoEngineCtrlRevHash := "new"
  haIsEnabled := true
  yetToUpgradeIoEngineLabel := { app := .ioEngine, revision := .isNot "new" }
  yetToUpgradeIoEnginePods := oneVolume.pods

/-- The requests of an attempt up to the drain; another client tries to publish the volume on the
node before the request at the given position. -/
def publishBefore (position : ℕ) : List (Tick Move) :=
  (List.replicate 15 ⟨[], .served⟩).set position ⟨[.publish 0 ⟨"n1", some ["k1"]⟩], .served⟩

theorem publishBefore_publishing (position : ℕ) :
    ∀ tick ∈ publishBefore position, publishing tick := by
  intro tick htick volumes
  rcases List.mem_or_eq_of_mem_set htick with hold | rfl
  · rw [List.eq_of_mem_replicate hold]
    exact List.not_mem_nil
  · simp

/-- Until the cordon is lifted it turns the publication away. -/
theorem upgradeDataPlane_drains_safely_cordoned :
    Call.putNodeDrain "n1" drainForUpgrade ∈ (upgradeDataPlane oneVolumeArgs
        ⟨oneVolume, publishBefore 12, []⟩).2.trace.map Entry.call ∧
      DrainsAreSafe oneVolume.kubeNodes (upgradeDataPlane oneVolumeArgs
        ⟨oneVolume, publishBefore 12, []⟩).2.trace := by
  have hmoves : ∀ entry ∈ (upgradeDataPlane oneVolumeArgs
      ⟨oneVolume, publishBefore 12, []⟩).2.trace, entry.call.isListing = false →
        ∀ step ∈ entry.moves, step.publishesNothing entry.seen = true := by
    decide +kernel
  exact ⟨by decide +kernel, upgradeDataPlane_drains_safely (publishBefore_publishing 12)
    (undisturbed_of_moves hmoves)⟩

/-- After the cordon has been lifted the publication succeeds, and the drain follows. -/
theorem upgradeDataPlane_drains_unsafely :
    (∀ tick ∈ publishBefore 13, publishing tick) ∧
      ¬DrainsAreSafe oneVolume.kubeNodes (upgradeDataPlane oneVolumeArgs
        ⟨oneVolume, publishBefore 13, []⟩).2.trace := by
  have hunsafe : ∃ entry ∈ (upgradeDataPlane oneVolumeArgs
      ⟨oneVolume, publishBefore 13, []⟩).2.trace,
      entry.call = .putNodeDrain "n1" drainForUpgrade ∧
        ∃ volume ∈ entry.seen.volumes, UnsafeOn oneVolume.kubeNodes "n1" volume := by
    decide +kernel
  refine ⟨publishBefore_publishing 13, fun hsafe ↦ ?_⟩
  obtain ⟨entry, hentry, hcall, volume, hvolume, hvolume'⟩ := hunsafe
  exact hsafe entry hentry "n1" drainForUpgrade hcall volume hvolume hvolume'

end MayastorExtensions.UpgradeJob
