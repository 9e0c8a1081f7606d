import MayastorExtensions.Library.Segment
import MayastorExtensions.UpgradeJob.RollingRestart

/-!
# What precedes a restart

The rolling loop deletes an io-engine Pod only at the end of a chain of observations: a listing
showed the Pod as not of the latest revision, the control plane was found running, the volumes were
found without a rebuild in progress, and the node was found drained unless it may not be drained.
The chain is rebuilt for every Pod, so that nothing observed before one deletion serves for the
next.
-/

namespace MayastorExtensions.UpgradeJob

open Scheduled

/-! ## Observations -/

/-- The request is a listing of the Pods of an application that found all of them ready. -/
def FindsReady (app : App) (entry : JobEntry) : Prop :=
  entry.call = .listPods { app := app } ∧ entry.verdict = .served ∧
    allPodsAreReady (entry.seen.podsMatching { app := app }) = true

/-- The requests end with one look at the three parts of the control plane, all of them ready. -/
def SeesControlPlane (requests : List JobEntry) : Prop :=
  ∃ earlier core rest etcd, requests = earlier ++ [core, rest, etcd] ∧
    FindsReady .agentCore core ∧ FindsReady .apiRest rest ∧ FindsReady .etcd etcd

/-- In the last listing of volumes that was read to its end, no faulted or degraded volume has a
rebuild in progress. -/
def SeesQuiet (requests : List JobEntry) : Prop :=
  ∃ listing, lastCompleteListing requests = some listing ∧ Quiet listing

/-- The request found the node drained, with the label of the upgrade. -/
def FindsDrained (node : String) (entry : JobEntry) : Prop :=
  entry.call = .getNode node ∧ entry.verdict = .served ∧
    ∃ cordoned drained, entry.seen.cordonDrain node = some (.drainedstate cordoned drained) ∧
      drainForUpgrade ∈ drained

/-- The last listing of volumes has a target on the node that is used from a node without ANA. -/
def SeesAnaConflict (node : String) (requests : List JobEntry) : Prop :=
  ∃ entry ∈ requests, entry.call = .listNodesMetadata ∧ entry.verdict = .served ∧
    ∃ listing, lastCompleteListing requests = some listing ∧
      ∃ kubeNode ∈ entry.seen.anaDisabledNodes, kubeNode.name ∈ frontendNodes node listing

/-- With HA enabled the node was found drained, unless a volume forbids the drain. -/
def SeesDrained (haIsEnabled : Bool) (node : String) (requests : List JobEntry) : Prop :=
  haIsEnabled = true →
    SeesAnaConflict node requests ∨ ∃ entry ∈ requests, FindsDrained node entry

/-- None of the requests deletes a Pod. -/
def NoDeletion (requests : List JobEntry) : Prop :=
  ∀ entry ∈ requests, ∀ node, ¬Deletes node entry

/-- A listing of what is left to upgrade showed the Pod. -/
def Listed (args : DataPlaneArgs) (pod : Pod) (requests : List JobEntry) : Prop :=
  ∃ entry ∈ requests, entry.call = .listPods args.yetToUpgradeIoEngineLabel ∧
    entry.verdict = .served ∧ pod ∈ entry.seen.podsMatching args.yetToUpgradeIoEngineLabel

/-- What the requests before the deletion of a Pod have shown. -/
structure GateOpened (args : DataPlaneArgs) (name node : String) (before : List JobEntry) :
    Prop where
  listed : ∃ pod, Listed args pod before ∧ pod.name = name ∧
    podNodeName args.namespace_ pod = .ok node
  checked : ∃ earlier controlPlane rebuilds drains,
    before = earlier ++ controlPlane ++ rebuilds ++ drains ∧
      SeesControlPlane controlPlane ∧ SeesQuiet rebuilds ∧
        SeesDrained args.haIsEnabled node drains ∧
          NoDeletion (controlPlane ++ rebuilds ++ drains)

/-- At every deletion the gate was open for the Pod that is deleted. -/
def RestartsGated (args : DataPlaneArgs) (trace : List JobEntry) : Prop :=
  ∀ before deletion rest name node, trace = before ++ deletion :: rest →
    deletion.call = .deletePod name node → GateOpened args name node before

/-! ## Traces -/

section Trace

variable {args : DataPlaneArgs} {trace since : List JobEntry}

theorem NoDeletion.append (h : NoDeletion trace) (hsince : NoDeletion since) :
    NoDeletion (trace ++ since) := by
  intro entry hentry
  rcases List.mem_append.mp hentry with hold | hnew
  · exact h entry hold
  · exact hsince entry hnew

theorem noDeletion_nil : NoDeletion [] :=
  fun _ hentry ↦ absurd hentry List.not_mem_nil

theorem noDeletion_unmoved {call : Call} (hcall : ∀ name node, call ≠ .deletePod name node) :
    Unmoved anyTick (fun _ ↦ NoDeletion) call := by
  intro cluster trace moves verdict _ h
  apply h.append
  intro entry hentry node
  obtain rfl := List.mem_singleton.mp hentry
  rintro ⟨name, hname⟩
  exact hcall name node hname

theorem Listed.append {pod : Pod} (h : Listed args pod trace) :
    Listed args pod (trace ++ since) := by
  obtain ⟨entry, hentry, hlisted⟩ := h
  exact ⟨entry, List.mem_append_left _ hentry, hlisted⟩

/-- Requests that delete nothing leave the gate's record as it is. -/
theorem RestartsGated.append (h : RestartsGated args trace) (hsince : NoDeletion since) :
    RestartsGated args (trace ++ since) := by
  induction since using List.reverseRecOn with
  | nil => simpa using h
  | append_singleton since entry ih =>
    have hearlier : RestartsGated args (trace ++ since) :=
      ih fun other hother ↦ hsince other (List.mem_append_left _ hother)
    intro before deletion rest name node hsplit hcall
    rw [← List.append_assoc] at hsplit
    rcases split_concat hsplit with ⟨_, rfl⟩ | ⟨rest', _, htrace⟩
    · exact absurd ⟨name, hcall⟩ (hsince deletion (List.mem_append_right _ List.mem_cons_self) node)
    · exact hearlier before deletion rest' name node htrace hcall

/-- A deletion behind an open gate. -/
theorem RestartsGated.concat (h : RestartsGated args trace) {entry : JobEntry}
    (hentry : ∀ name node, entry.call = .deletePod name node → GateOpened args name node trace) :
    RestartsGated args (trace ++ [entry]) := by
  intro before deletion rest name node hsplit hcall
  rcases split_concat hsplit with ⟨rfl, rfl⟩ | ⟨rest', _, htrace⟩
  · exact hentry name node hcall
  · exact h before deletion rest' name node htrace hcall

end Trace

/-! ## The programs only append -/

section Appends

theorem listPods_appends {namespace_ : String} {selector : PodSelector} :
    Appends (listPods namespace_ selector) :=
  Appends.query

theorem getNodeSpec_appends {node : String} : Appends (getNodeSpec node) := by
  refine Appends.bind Appends.query ?_
  rintro (_ | _ | spec)
  · exact Appends.fail
  · exact Appends.fail
  · exact Appends.pure

theorem pageVolumes_appends {keep : Volume → Bool} : Appends (pageVolumes keep) := by
  refine Appends.loop fun position ↦ Appends.bind Appends.query ?_
  rintro ⟨entries, _ | startingToken⟩
  · exact Appends.pure
  · exact Appends.pure

theorem verifyControlPlaneIsRunning_appends {namespace_ : String} :
    Appends (verifyControlPlaneIsRunning namespace_) :=
  Appends.loop fun _ ↦ Appends.bind
    (Appends.bind listPods_appends fun _ ↦ Appends.bind listPods_appends fun _ ↦
      Appends.bind listPods_appends fun _ ↦ Appends.pure)
    fun _ ↦ Appends.ite Appends.pure Appends.pure

theorem rebuildResult_appends {nodeName : String} {staleVolumes : List Volume} :
    Appends (rebuildResult nodeName staleVolumes) := by
  refine Appends.loop fun stale ↦ Appends.bind
    (Appends.bind pageVolumes_appends fun _ ↦ Appends.pure) fun unhealthyVolumes ↦
      Appends.ite Appends.pure ?_
  cases rebuildPass nodeName unhealthyVolumes [] stale with
  | rebuilding stale' => exact Appends.pure
  | finished volumeOverNodes stale' => exact Appends.ite Appends.pure Appends.pure

theorem waitForRebuild_appends {nodeName : String} : Appends (waitForRebuild nodeName) :=
  Appends.loop fun _ ↦ Appends.bind rebuildResult_appends fun _ ↦
    Appends.ite Appends.pure Appends.pure

theorem cordonStorageNode_appends {node label : String} :
    Appends (cordonStorageNode node label) := by
  refine Appends.bind getNodeSpec_appends ?_
  rintro ⟨_ | cordoned | _ | _⟩
  · exact Appends.request
  · exact Appends.ite Appends.pure Appends.request
  · exact Appends.request
  · exact Appends.request

theorem uncordonStorageNode_appends {node label : String} :
    Appends (uncordonStorageNode node label) := by
  refine Appends.bind getNodeSpec_appends ?_
  rintro ⟨_ | cordoned | _ | _⟩
  · exact Appends.pure
  · exact Appends.ite Appends.request Appends.pure
  · exact Appends.pure
  · exact Appends.pure

theorem isNodeDrainable_appends {haIsEnabled : Bool} {node : String} :
    Appends (isNodeDrainable haIsEnabled node) := by
  refine Appends.ite Appends.pure (Appends.bind Appends.query fun anaDisabledNodes ↦ ?_)
  refine Appends.ite Appends.pure (Appends.bind cordonStorageNode_appends fun _ ↦ ?_)
  exact Appends.bind (Appends.attempt (Appends.bind pageVolumes_appends fun _ ↦ Appends.pure))
    fun _ ↦ Appends.bind uncordonStorageNode_appends fun _ ↦ Appends.ofExcept

theorem drainStorageNode_appends {node : String} : Appends (drainStorageNode node) := by
  have hdrain : Appends
      (do putNodeDrain node drainForUpgrade; pure (.inl ()) : Job (Unit ⊕ Unit)) :=
    Appends.bind Appends.request fun _ ↦ Appends.pure
  refine Appends.loop fun _ ↦ Appends.bind getNodeSpec_appends ?_
  rintro ⟨_ | _ | ⟨cordoned, drained⟩ | ⟨cordoned, drained⟩⟩
  · exact hdrain
  · exact hdrain
  · exact Appends.ite Appends.pure hdrain
  · exact Appends.ite Appends.pure hdrain

theorem drainIfDrainable_appends {haIsEnabled : Bool} {node : String} :
    Appends (drainIfDrainable haIsEnabled node) :=
  Appends.bind isNodeDrainable_appends fun _ ↦ Appends.ite drainStorageNode_appends Appends.pure

theorem verifyDataPlanePodIsRunning_appends {node namespace_ latestHash : String} :
    Appends (verifyDataPlanePodIsRunning node namespace_ latestHash) :=
  Appends.loop fun _ ↦ Appends.bind
    (Appends.bind listPods_appends fun _ ↦
      Appends.ite Appends.pure (Appends.ite Appends.fail Appends.pure))
    fun _ ↦ Appends.ite Appends.pure Appends.pure

theorem uncordonDrainedStorageNode_appends {node : String} :
    Appends (uncordonDrainedStorageNode node) := by
  refine Appends.loop fun _ ↦ Appends.bind getNodeSpec_appends ?_
  rintro ⟨_ | _ | _ | ⟨cordoned, drained⟩⟩
  · exact Appends.pure
  · exact Appends.pure
  · exact Appends.pure
  · exact Appends.ite (Appends.bind Appends.request fun _ ↦ Appends.pure) Appends.pure

theorem upgradeDataPlanePod_appends {args : DataPlaneArgs} {pod : Pod} :
    Appends (upgradeDataPlanePod args pod) := by
  refine Appends.bind verifyControlPlaneIsRunning_appends fun _ ↦ ?_
  refine Appends.bind Appends.ofExcept fun node ↦ ?_
  refine Appends.bind waitForRebuild_appends fun _ ↦ ?_
  refine Appends.bind drainIfDrainable_appends fun _ ↦ ?_
  refine Appends.bind Appends.query fun _ ↦ ?_
  refine Appends.bind verifyDataPlanePodIsRunning_appends fun _ ↦ ?_
  exact uncordonDrainedStorageNode_appends

end Appends

/-! ## What the checks have seen -/

section Sees

theorem controlPlaneIsRunning_sees (namespace_ : String) :
    Triple anyTick (fun _ _ ↦ True) (controlPlaneIsRunning namespace_)
      (fun running _ trace ↦ running = true → SeesControlPlane trace) fun _ _ ↦ True := by
  refine Triple.bind _ (Triple.query_last) fun corePods ↦ ?_
  refine Triple.bind _ (Triple.query_last) fun restPods ↦ ?_
  refine Triple.bind _ (Triple.query_last) fun etcdPods ↦ Triple.pure ?_
  rintro _ _ ⟨_, etcd, rfl, ⟨_, rest, rfl, ⟨earlier, core, rfl, -, hcore⟩, hrest⟩, hetcd⟩ hready
  rw [Bool.and_eq_true, Bool.and_eq_true, hcore.2.2, hrest.2.2, hetcd.2.2] at hready
  refine ⟨earlier, core, rest, etcd, by simp, ?_, ?_, ?_⟩
  · exact ⟨hcore.1, hcore.2.1, hready.1.1⟩
  · exact ⟨hrest.1, hrest.2.1, hready.1.2⟩
  · exact ⟨hetcd.1, hetcd.2.1, hready.2⟩

theorem verifyControlPlaneIsRunning_sees (namespace_ : String) :
    Triple anyTick (fun _ _ ↦ True) (verifyControlPlaneIsRunning namespace_)
      (fun _ _ trace ↦ SeesControlPlane trace) fun _ _ ↦ True := by
  refine Triple.loop (fun _ _ _ ↦ True) (fun _ _ _ ↦ trivial) ?_ fun _ _ _ _ ↦ trivial
  intro _
  refine Triple.bind _ (controlPlaneIsRunning_sees namespace_) fun running ↦ ?_
  split
  next hrunning => exact Triple.pure fun _ _ h ↦ h hrunning
  next => exact Triple.pure fun _ _ _ ↦ trivial

/-- The spec that a node is found with is the one in the last entry. -/
theorem getNodeSpec_last (node : String) :
    Triple anyTick (fun _ _ ↦ True) (getNodeSpec node)
      (fun spec _ trace ↦ ∃ entry ∈ trace, entry.call = .getNode node ∧
        entry.verdict = .served ∧ entry.seen.cordonDrain node = spec.cordondrainstate)
      fun _ _ ↦ True := by
  refine Triple.bind _ (Triple.query_last) ?_
  rintro (_ | _ | spec)
  · exact Triple.fail fun _ _ _ ↦ trivial
  · exact Triple.fail fun _ _ _ ↦ trivial
  · refine Triple.pure ?_
    rintro _ _ ⟨earlier, entry, rfl, -, hcall, hverdict, hspec⟩
    refine ⟨entry, List.mem_append_right _ List.mem_cons_self, hcall, hverdict, ?_⟩
    dsimp only at hspec
    split at hspec
    next => exact Cluster.cordonDrain_of_nodeSpec (Option.some.inj hspec).symm
    next => cases hspec

/-- The drain returns only after the node was found drained. -/
theorem drainStorageNode_sees (node : String) :
    Triple anyTick (fun _ _ ↦ True) (drainStorageNode node)
      (fun _ _ trace ↦ ∃ entry ∈ trace, FindsDrained node entry) fun _ _ ↦ True := by
  have hdrain : ∀ before : Assertion Cluster Move Call, Triple anyTick before
      (do putNodeDrain node drainForUpgrade; pure (.inl ()) : Job (Unit ⊕ Unit))
      (fun result ↦ Sum.elim (fun _ _ _ ↦ True)
        (fun _ _ trace ↦ ∃ entry ∈ trace, FindsDrained node entry) result) fun _ _ ↦ True :=
    fun before ↦ Triple.bind (fun _ _ _ ↦ True)
      (Triple.request (fun _ _ _ ↦ trivial) (fun _ _ _ _ _ ↦ trivial) (fun _ _ _ _ _ ↦ trivial)
        fun _ _ _ _ _ ↦ trivial) fun _ ↦ Triple.pure fun _ _ _ ↦ trivial
  refine Triple.loop (fun _ _ _ ↦ True) (fun _ _ _ ↦ trivial) ?_ fun _ _ _ _ ↦ trivial
  intro _
  refine Triple.bind _ (getNodeSpec_last node) ?_
  rintro ⟨_ | _ | ⟨cordoned, drained⟩ | ⟨cordoned, drained⟩⟩
  · exact hdrain _
  · exact hdrain _
  · dsimp only
    split
    · exact Triple.pure fun _ _ _ ↦ trivial
    · exact hdrain _
  · dsimp only
    split
    next hlabel =>
      refine Triple.pure ?_
      rintro _ trace ⟨entry, hentry, hcall, hverdict, hstate⟩
      exact ⟨entry, hentry, hcall, hverdict, cordoned, drained, hstate, hlabel⟩
    next => exact hdrain _

/-- The nodes without ANA are those that a request has found. -/
def ListsAnaDisabled (anaDisabledNodes : List KubeNode) (requests : List JobEntry) : Prop :=
  ∃ entry ∈ requests, entry.call = .listNodesMetadata ∧ entry.verdict = .served ∧
    anaDisabledNodes = entry.seen.anaDisabledNodes

theorem listsAnaDisabled_unmoved {anaDisabledNodes : List KubeNode} {call : Call} :
    Unmoved anyTick (fun _ ↦ ListsAnaDisabled anaDisabledNodes) call := by
  rintro cluster trace moves verdict _ ⟨entry, hentry, hlists⟩
  exact ⟨entry, List.mem_append_left _ hentry, hlists⟩

/-- Only a listing of volumes changes which listing was the last. -/
theorem seesAnaConflict_unmoved {node : String} {call : Call}
    (hcall : ∀ startingToken, call ≠ .getVolumes startingToken) :
    Unmoved anyTick (fun _ ↦ SeesAnaConflict node) call := by
  rintro cluster trace moves verdict _ ⟨entry, hentry, hnodes, hverdict, listing, hlisting, hused⟩
  refine ⟨entry, List.mem_append_left _ hentry, hnodes, hverdict, listing, ?_, hused⟩
  rw [lastCompleteListing, listingProgress_concat]
  unfold listingStep
  split
  next startingToken hvolumes _ => exact absurd hvolumes (hcall startingToken)
  next => exact hlisting

/-- The ANA check fails only on a listing with a conflict. -/
theorem frontendNodesAnaCheck_sees (node : String) (anaDisabledNodes : List KubeNode) :
    Triple anyTick (fun _ ↦ ListsAnaDisabled anaDisabledNodes)
      (frontendNodesAnaCheck node anaDisabledNodes)
      (fun passed _ trace ↦ passed = false → SeesAnaConflict node trace) fun _ _ ↦ True := by
  have hlists : Keeps anyTick (fun _ ↦ ListsAnaDisabled anaDisabledNodes) listAllVolumes :=
    pageVolumes_keeps fun _ ↦ listsAnaDisabled_unmoved
  have hlist := hlists.and (pageVolumes_spec fun _ ↦ true)
  refine Triple.bind _ (hlist.weaken (fun _ _ h ↦ ⟨h, trivial⟩) (fun _ _ _ h ↦ h)
    fun _ _ _ ↦ trivial) fun volumes ↦ Triple.pure ?_
  rintro _ trace ⟨⟨entry, hentry, hnodes, hverdict, rfl⟩, listing, hlisting, rfl⟩ hfailed
  rw [List.filter_true, Bool.not_eq_false', List.any_eq_true] at hfailed
  obtain ⟨kubeNode, hkubeNode, hused⟩ := hfailed
  refine ⟨entry, hentry, hnodes, hverdict, listing, hlisting, kubeNode, hkubeNode, ?_⟩
  exact List.contains_iff_mem.mp hused

/-- The check between cordon and uncordon. -/
theorem anaCheck_sees (node : String) (anaDisabledNodes : List KubeNode) :
    Triple anyTick (fun _ ↦ ListsAnaDisabled anaDisabledNodes)
      (do
        let result ← Program.attempt (frontendNodesAnaCheck node anaDisabledNodes)
        uncordonStorageNode node cordonAnaCheck
        Program.ofExcept result : Job Bool)
      (fun drainable _ trace ↦ drainable = false → SeesAnaConflict node trace)
      fun _ _ ↦ True := by
  refine Triple.bind (fun result _ trace ↦ result = .ok false → SeesAnaConflict node trace)
    (Triple.attempt ((frontendNodesAnaCheck_sees node anaDisabledNodes).weaken (fun _ _ h ↦ h)
      ?_ ?_)) fun result ↦ ?_
  · intro passed _ trace h hfailed
    exact h (Except.ok.inj hfailed)
  · exact fun _ _ _ ↦ ⟨fun _ hfailed ↦ (by cases hfailed), trivial⟩
  · by_cases hfailed : result = .ok false
    · have huncordon : Keeps anyTick (fun _ ↦ SeesAnaConflict node)
          (uncordonStorageNode node cordonAnaCheck) :=
        uncordonStorageNode_keeps (seesAnaConflict_unmoved fun _ h ↦ by cases h)
          (Keeps.request (seesAnaConflict_unmoved fun _ h ↦ by cases h) fun _ _ h ↦ h)
      refine Triple.bind _ (huncordon.weaken (fun _ _ h ↦ h hfailed) (fun _ _ _ h ↦ h)
        fun _ _ _ ↦ trivial) fun _ ↦ ?_
      exact Triple.ofExcept (fun _ _ _ _ h _ ↦ h) fun _ _ _ ↦ trivial
    · have huncordon : Keeps anyTick (fun _ _ ↦ True)
          (uncordonStorageNode node cordonAnaCheck) :=
        uncordonStorageNode_keeps (fun _ _ _ _ _ _ ↦ trivial)
          (Keeps.request (fun _ _ _ _ _ _ ↦ trivial) fun _ _ h ↦ h)
      refine Triple.bind _ (huncordon.weaken (fun _ _ _ ↦ trivial) (fun _ _ _ h ↦ h)
        fun _ _ _ ↦ trivial) fun _ ↦ ?_
      refine Triple.ofExcept ?_ fun _ _ _ ↦ trivial
      rintro drainable hresult _ _ _ rfl
      exact absurd hresult hfailed

/-- A node that may not be drained although HA is enabled has a volume that says so. -/
theorem isNodeDrainable_sees (haIsEnabled : Bool) (node : String) :
    Triple anyTick (fun _ _ ↦ True) (isNodeDrainable haIsEnabled node)
      (fun drainable _ trace ↦ drainable = false → haIsEnabled = true →
        SeesAnaConflict node trace)
      fun _ _ ↦ True := by
  unfold isNodeDrainable
  split
  next hdisabled =>
    refine Triple.pure fun _ _ _ _ henabled ↦ ?_
    rw [henabled] at hdisabled
    cases hdisabled
  next =>
    refine Triple.bind (fun anaDisabledNodes _ ↦ ListsAnaDisabled anaDisabledNodes) ?_
      fun anaDisabledNodes ↦ ?_
    · refine Triple.query_last.weaken (fun _ _ h ↦ h) ?_ fun _ _ h ↦ h
      rintro _ _ _ ⟨earlier, entry, rfl, -, hlists⟩
      exact ⟨entry, List.mem_append_right _ List.mem_cons_self, hlists⟩
    · split
      · exact Triple.pure fun _ _ _ hdrainable ↦ by cases hdrainable
      · have hcordon : Keeps anyTick (fun _ ↦ ListsAnaDisabled anaDisabledNodes)
            (cordonStorageNode node cordonAnaCheck) :=
          cordonStorageNode_keeps listsAnaDisabled_unmoved
            (Keeps.request listsAnaDisabled_unmoved fun _ _ h ↦ h)
        refine Triple.bind _ hcordon.returning fun _ ↦ ?_
        exact (anaCheck_sees node anaDisabledNodes).weaken (fun _ _ h ↦ h)
          (fun _ _ _ h hdrainable _ ↦ h hdrainable) fun _ _ h ↦ h

theorem drainIfDrainable_sees (haIsEnabled : Bool) (node : String) :
    Triple anyTick (fun _ _ ↦ True) (drainIfDrainable haIsEnabled node)
      (fun _ _ trace ↦ SeesDrained haIsEnabled node trace) fun _ _ ↦ True := by
  refine Triple.bind _ (isNodeDrainable_sees haIsEnabled node) fun drainable ↦ ?_
  cases drainable with
  | true =>
    exact (drainStorageNode_sees node).weaken (fun _ _ _ ↦ trivial) (fun _ _ _ h _ ↦ .inr h)
      fun _ _ h ↦ h
  | false => exact Triple.pure fun _ _ h henabled ↦ .inl (h rfl henabled)

end Sees

/-! ## The rolling loop -/

section Gate

variable {args : DataPlaneArgs}

theorem drainIfDrainable_noDeletion (haIsEnabled : Bool) (node : String) :
    Keeps anyTick (fun _ ↦ NoDeletion) (drainIfDrainable haIsEnabled node) :=
  drainIfDrainable_keeps
    (fun call hcall ↦ noDeletion_unmoved fun _ _ h ↦ by simp [h, Call.ofDrain] at hcall)
    fun _ _ _ _ h ↦ h

/-- A program that deletes nothing keeps the gate's record. -/
theorem restartsGated_unmoved {call : Call} (hcall : ∀ name node, call ≠ .deletePod name node) :
    Unmoved anyTick (fun _ ↦ RestartsGated args) call := by
  intro cluster trace moves verdict _ h
  exact h.concat fun name node hname ↦ absurd hname (hcall name node)

/-- The checks before the deletion open the gate for the Pod they are made for. -/
theorem gateOpened_of_checks {pod : Pod} {node : String}
    {earlier controlPlane rebuilds drains : List JobEntry} (hlisted : Listed args pod earlier)
    (hnode : podNodeName args.namespace_ pod = .ok node) (hcontrol : SeesControlPlane controlPlane)
    (hquiet : SeesQuiet rebuilds) (hdrained : SeesDrained args.haIsEnabled node drains)
    (hkept : NoDeletion (controlPlane ++ rebuilds ++ drains)) :
    GateOpened args pod.name node (earlier ++ controlPlane ++ rebuilds ++ drains) where
  listed := ⟨pod, hlisted.append.append.append, rfl, hnode⟩
  checked := ⟨earlier, controlPlane, rebuilds, drains, rfl, hcontrol, hquiet, hdrained, hkept⟩

/-- One check before the deletion: what it has seen is the last segment of the trace, and a check
that fails leaves the gate's record as it was. -/
theorem check_gated {α : Type} {check : Job α} {seen : α → Assertion Cluster Move Call}
    {past : List JobEntry → Prop} (hpast : ∀ trace, past trace → RestartsGated args trace)
    (happends : Appends check) (hsees : Triple anyTick (fun _ _ ↦ True) check seen fun _ _ ↦ True)
    (hkeeps : Keeps anyTick (fun _ ↦ NoDeletion) check) :
    Triple anyTick (fun _ ↦ past) check
      (fun value cluster trace ↦ ∃ earlier since, trace = earlier ++ since ∧ past earlier ∧
        seen value cluster since ∧ NoDeletion since)
      fun _ ↦ RestartsGated args := by
  refine (Triple.kept_segment happends hsees hkeeps noDeletion_nil past).weaken (fun _ _ h ↦ h)
    (fun _ _ _ h ↦ h) ?_
  rintro _ _ ⟨earlier, since, rfl, hearlier, hsince⟩
  exact (hpast earlier hearlier).append hsince

/-- The restart of one Pod that a listing has shown. -/
theorem upgradeDataPlanePod_gated (pod : Pod) :
    Triple anyTick (fun _ trace ↦ RestartsGated args trace ∧ Listed args pod trace)
      (upgradeDataPlanePod args pod) (fun _ _ ↦ RestartsGated args)
      (fun _ ↦ RestartsGated args) := by
  let started (trace : List JobEntry) : Prop := RestartsGated args trace ∧ Listed args pod trace
  let running (trace : List JobEntry) : Prop := ∃ earlier controlPlane,
    trace = earlier ++ controlPlane ∧ started earlier ∧ SeesControlPlane controlPlane ∧
      NoDeletion controlPlane
  let rebuilt (trace : List JobEntry) : Prop := ∃ earlier rebuilds,
    trace = earlier ++ rebuilds ∧ running earlier ∧ SeesQuiet rebuilds ∧ NoDeletion rebuilds
  have hrunning : ∀ trace, running trace → RestartsGated args trace := by
    rintro _ ⟨earlier, controlPlane, rfl, hstarted, -, hkept⟩
    exact hstarted.1.append hkept
  have hrebuilt : ∀ trace, rebuilt trace → RestartsGated args trace := by
    rintro _ ⟨earlier, rebuilds, rfl, hearlier, -, hkept⟩
    exact (hrunning earlier hearlier).append hkept
  refine Triple.bind (fun _ _ ↦ running) (check_gated (fun _ h ↦ h.1)
    verifyControlPlaneIsRunning_appends (verifyControlPlaneIsRunning_sees args.namespace_)
    (verifyControlPlaneIsRunning_keeps fun _ ↦ noDeletion_unmoved fun _ _ h ↦ by cases h))
    fun _ ↦ ?_
  refine Triple.bind (fun node _ trace ↦ podNodeName args.namespace_ pod = .ok node ∧
    running trace) (Triple.ofExcept (fun _ hnode _ _ h ↦ ⟨hnode, h⟩) fun _ ↦ hrunning)
    fun node ↦ Triple.assume fun hnode ↦ ?_
  refine Triple.bind (fun _ _ ↦ rebuilt) (check_gated hrunning waitForRebuild_appends
    (waitForRebuild_spec node)
    (waitForRebuild_keeps fun _ ↦ noDeletion_unmoved fun _ _ h ↦ by cases h)) fun _ ↦ ?_
  refine Triple.bind _ (check_gated hrebuilt drainIfDrainable_appends
    (drainIfDrainable_sees args.haIsEnabled node)
    (drainIfDrainable_noDeletion args.haIsEnabled node)) fun _ ↦ ?_
  -- The gate is open: the deletion is recorded behind the three checks.
  have hopen : ∀ trace, (∃ earlier drains, trace = earlier ++ drains ∧ rebuilt earlier ∧
      SeesDrained args.haIsEnabled node drains ∧ NoDeletion drains) →
        RestartsGated args trace ∧ GateOpened args pod.name node trace := by
    rintro _ ⟨_, drains, rfl, ⟨_, rebuilds, rfl, ⟨earlier, controlPlane, rfl, hstarted, hcontrol,
      hcontrolKept⟩, hquiet, hquietKept⟩, hdrained, hdrainedKept⟩
    have hkept := (hcontrolKept.append hquietKept).append hdrainedKept
    refine ⟨?_, gateOpened_of_checks hstarted.2 hnode hcontrol hquiet hdrained hkept⟩
    exact ((hstarted.1.append hcontrolKept).append hquietKept).append hdrainedKept
  have hdelete : ∀ cluster trace moves verdict, RestartsGated args trace ∧
      GateOpened args pod.name node trace → RestartsGated args
        (trace ++ [⟨.deletePod pod.name node, moves, cluster, verdict⟩]) := by
    rintro cluster trace moves verdict ⟨hgated, hgate⟩
    apply hgated.concat
    rintro _ _ hcall
    cases hcall
    exact hgate
  refine Triple.bind (fun _ _ ↦ RestartsGated args) (Triple.query ?_ ?_ ?_) fun _ ↦ ?_
  · exact fun _ trace h ↦ (hopen trace h).1
  · exact fun _ trace moves _ h ↦ hdelete _ trace moves .served (hopen trace h)
  · exact fun _ trace moves verdict _ h ↦ hdelete _ trace moves verdict (hopen trace h)
  refine Triple.bind _ (verifyDataPlanePodIsRunning_keeps
    (restartsGated_unmoved fun _ _ h ↦ by cases h)) fun _ ↦ ?_
  exact uncordonDrainedStorageNode_keeps (restartsGated_unmoved fun _ _ h ↦ by cases h)
    (Keeps.request (restartsGated_unmoved fun _ _ h ↦ by cases h) fun _ _ h ↦ h)

/-- One round of the rolling loop: every Pod of the round is one that the round's listing has
shown. -/
theorem rollDataPlane_gated :
    Triple anyTick (fun _ ↦ RestartsGated args) (rollDataPlane args)
      (fun _ _ ↦ RestartsGated args) fun _ ↦ RestartsGated args := by
  refine Triple.loop (fun _ _ ↦ RestartsGated args) (fun _ _ h ↦ h) ?_ fun _ _ _ h ↦ h
  intro _
  have hlist : Triple anyTick (fun _ ↦ RestartsGated args)
      (listPods args.namespace_ args.yetToUpgradeIoEngineLabel)
      (fun podList _ trace ↦ RestartsGated args trace ∧ ∀ pod ∈ podList, Listed args pod trace)
      fun _ ↦ RestartsGated args := by
    have hkept : Keeps anyTick (fun _ ↦ RestartsGated args)
        (listPods args.namespace_ args.yetToUpgradeIoEngineLabel) :=
      listPods_keeps (restartsGated_unmoved fun _ _ h ↦ by cases h)
    refine (hkept.and (Triple.query_last)).weaken (fun _ _ h ↦ ⟨h, trivial⟩) ?_ fun _ _ h ↦ h.1
    rintro podList _ trace ⟨hgated, earlier, entry, rfl, -, hcall, hverdict, rfl⟩
    exact ⟨hgated, fun pod hpod ↦
      ⟨entry, List.mem_append_right _ List.mem_cons_self, hcall, hverdict, hpod⟩⟩
  refine Triple.bind _ hlist fun podList ↦ ?_
  split
  · exact Triple.pure fun _ _ h ↦ h.1
  · refine Triple.bind _ (Triple.forEach (fun remaining _ trace ↦ RestartsGated args trace ∧
      ∀ pod ∈ remaining, Listed args pod trace) podList fun pod rest ↦ ?_) fun _ ↦ ?_
    · have hrest : Keeps anyTick (fun _ trace ↦ ∀ other ∈ rest, Listed args other trace)
          (upgradeDataPlanePod args pod) :=
        upgradeDataPlanePod_appends.keeps (fun _ ↦ trivial)
          fun _ _ h other hother ↦ (h other hother).append
      refine ((upgradeDataPlanePod_gated pod).and hrest).weaken ?_ (fun _ _ _ h ↦ h)
        fun _ _ h ↦ h.1
      rintro _ trace ⟨hgated, hlisted⟩
      exact ⟨⟨hgated, hlisted pod List.mem_cons_self⟩,
        fun other hother ↦ hlisted other (List.mem_cons_of_mem _ hother)⟩
    · exact Triple.pure fun _ _ h ↦ h.1

end Gate

/-- In every run of the data-plane upgrade, whatever the cluster does and wherever the run stops: an
io-engine Pod is deleted only after a listing showed it as left to upgrade on its node, and after
checks made since the previous deletion found first the control plane running, then no faulted or
degraded volume with a rebuild in progress, and then, with HA enabled, the node drained unless a
volume with its target there is used from a node without ANA. -/
theorem upgradeDataPlane_restarts_gated (args : DataPlaneArgs) (cluster : Cluster)
    (schedule : List (Tick Move)) :
    RestartsGated args (upgradeDataPlane args ⟨cluster, schedule, []⟩).2.trace := by
  have hkeeps : Keeps anyTick (fun _ ↦ RestartsGated args) (upgradeDataPlane args) := by
    refine Keeps.ite Keeps.pure (Keeps.bind Keeps.ofExcept fun _ ↦ ?_)
    refine Keeps.bind (Keeps.query (restartsGated_unmoved fun _ _ h ↦ by cases h))
      fun storageNodes ↦ ?_
    refine Keeps.bind (Keeps.forEach fun node ↦ ?_) fun _ ↦ rollDataPlane_gated
    exact uncordonDrainedStorageNode_keeps (restartsGated_unmoved fun _ _ h ↦ by cases h)
      (Keeps.request (restartsGated_unmoved fun _ _ h ↦ by cases h) fun _ _ h ↦ h)
  have hempty : RestartsGated args [] := by
    intro before deletion rest name node hsplit
    simp at hsplit
  exact Triple.apply_any hkeeps (m := ⟨cluster, schedule, []⟩) (fun _ _ ↦ trivial) hempty

end MayastorExtensions.UpgradeJob
