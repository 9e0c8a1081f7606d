import MayastorExtensions.UpgradeJob.DataPlane

/-!
# One node at a time

The rolling loop deletes the io-engine Pod of a node and waits for its replacement before it goes
on to the next node.  What it waits for is `all_pods_are_ready`, a scan over the conditions of the
Pod that a condition of type `Ready` decides.  A list of conditions without one passes the scan, so
that the wait proves the replacement ready only if its status reports `Ready` whenever it reports
conditions at all.
-/

namespace MayastorExtensions.UpgradeJob

open Scheduled

/-! ## The scan -/

/-- The conditions contain one of type `Ready`. -/
def MentionsReady (conditions : List PodCondition) : Prop :=
  ∃ condition ∈ conditions, condition.type_ = "Ready"

/-- The conditions contain one of type `Ready` with status `True`. -/
def SaysReady (conditions : List PodCondition) : Prop :=
  ∃ condition ∈ conditions, condition.type_ = "Ready" ∧ condition.status = "True"

instance : DecidablePred MentionsReady := fun conditions ↦
  inferInstanceAs (Decidable (∃ condition ∈ conditions, _))

instance : DecidablePred SaysReady := fun conditions ↦
  inferInstanceAs (Decidable (∃ condition ∈ conditions, _))

/-- What passes the scan says that the Pod is ready or does not mention it. -/
theorem saysReady_of_readyScan {conditions : List PodCondition} (h : readyScan conditions = true)
    (hmentions : MentionsReady conditions) : SaysReady conditions := by
  induction conditions with
  | nil =>
    obtain ⟨condition, hcondition, _⟩ := hmentions
    exact absurd hcondition List.not_mem_nil
  | cons condition rest ih =>
    by_cases htype : condition.type_ = "Ready"
    · have hstatus : condition.status = "True" := by simpa [readyScan, htype] using h
      exact ⟨condition, List.mem_cons_self, htype, hstatus⟩
    · have hscan : readyScan rest = true := by simpa [readyScan, htype] using h
      have hrest : MentionsReady rest := by
        obtain ⟨other, hother, hready⟩ := hmentions
        rcases List.mem_cons.mp hother with rfl | hmem
        · exact absurd hready htype
        · exact ⟨other, hmem, hready⟩
      obtain ⟨other, hother, hready⟩ := ih hscan hrest
      exact ⟨other, List.mem_cons_of_mem _ hother, hready⟩

/-- The list of conditions in the status of a Pod. -/
def Pod.conditions (pod : Pod) : Option (List PodCondition) :=
  pod.status.bind PodStatus.conditions

theorem saysReady_of_allPodsAreReady {pod : Pod} (h : allPodsAreReady [pod] = true)
    (hmentions : ∀ conditions, pod.conditions = some conditions → MentionsReady conditions) :
    ∃ conditions ∈ pod.conditions, SaysReady conditions := by
  cases hconditions : pod.conditions with
  | none =>
    have hnone : pod.status.bind PodStatus.conditions = none := hconditions
    simp [allPodsAreReady, hnone] at h
  | some conditions =>
    have hsome : pod.status.bind PodStatus.conditions = some conditions := hconditions
    have hscan : readyScan conditions = true := by
      simpa [allPodsAreReady, hsome] using h
    exact ⟨conditions, rfl, saysReady_of_readyScan hscan (hmentions conditions hconditions)⟩

/-! ## Deletions and observations -/

/-- The request deletes an io-engine Pod on the node. -/
def Deletes (node : String) (entry : JobEntry) : Prop :=
  ∃ name, entry.call = .deletePod name node

/-- The request is a listing that found exactly one Pod of the latest revision on the node, and
that Pod says that it is ready. -/
def ObservesReady (latestHash node : String) (entry : JobEntry) : Prop :=
  entry.call = .listPods (latestPodSelector node latestHash) ∧ entry.verdict = .served ∧
    (entry.seen.podsMatching (latestPodSelector node latestHash)).length = 1 ∧
      ∃ pod ∈ entry.seen.podsMatching (latestPodSelector node latestHash),
        ∃ conditions ∈ pod.conditions, SaysReady conditions

instance (latestHash node : String) : DecidablePred (ObservesReady latestHash node) := fun _ ↦
  inferInstanceAs (Decidable (_ ∧ _ ∧ _ ∧ _))

/-- Since every deletion on the node, the node has been observed with a ready Pod. -/
def Restored (latestHash node : String) (trace : List JobEntry) : Prop :=
  ∀ before deletion since, trace = before ++ deletion :: since → Deletes node deletion →
    ∃ entry ∈ since, ObservesReady latestHash node entry

/-- At every deletion, all nodes with an earlier deletion have been restored. -/
def OneNodeAtATime (latestHash : String) (trace : List JobEntry) : Prop :=
  ∀ before deletion rest node, trace = before ++ deletion :: rest → Deletes node deletion →
    ∀ other, Restored latestHash other before

/-- Every Pod of the latest revision that the job finds on a node mentions readiness once its
status has conditions. -/
def ReadinessReported (latestHash : String) (trace : List JobEntry) : Prop :=
  ∀ entry ∈ trace, ∀ node, entry.call = .listPods (latestPodSelector node latestHash) →
    ∀ pod ∈ entry.seen.podsMatching (latestPodSelector node latestHash),
      ∀ conditions, pod.conditions = some conditions → MentionsReady conditions

section Trace

variable {latestHash node : String} {trace : List JobEntry} {entry : JobEntry}

theorem Restored.concat (h : Restored latestHash node trace) (hentry : ¬Deletes node entry) :
    Restored latestHash node (trace ++ [entry]) := by
  intro before deletion since hsplit hdeletes
  rcases split_concat hsplit with ⟨_, rfl⟩ | ⟨since', rfl, htrace⟩
  · exact absurd hdeletes hentry
  · obtain ⟨observation, hmem, hready⟩ := h before deletion since' htrace hdeletes
    exact ⟨observation, List.mem_append_left _ hmem, hready⟩

/-- An observation restores the node. -/
theorem ObservesReady.restored (h : ObservesReady latestHash node entry) :
    Restored latestHash node (trace ++ [entry]) := by
  intro before deletion since hsplit hdeletes
  rcases split_concat hsplit with ⟨_, rfl⟩ | ⟨since', rfl, _⟩
  · obtain ⟨name, hname⟩ := hdeletes
    rw [h.1] at hname
    cases hname
  · exact ⟨entry, List.mem_append_right _ List.mem_cons_self, h⟩

theorem OneNodeAtATime.concat (h : OneNodeAtATime latestHash trace)
    (hentry : ∀ node, Deletes node entry → ∀ other, Restored latestHash other trace) :
    OneNodeAtATime latestHash (trace ++ [entry]) := by
  intro before deletion rest node hsplit hdeletes
  rcases split_concat hsplit with ⟨rfl, rfl⟩ | ⟨rest', _, htrace⟩
  · exact hentry node hdeletes
  · exact h before deletion rest' node htrace hdeletes

/-- Where a trace has a request at a position, it splits there. -/
theorem split_at_call {entries : List JobEntry} {position : ℕ} {call : Call}
    (h : (entries.map Entry.call)[position]? = some call) :
    ∃ entry, entry.call = call ∧
      entries = entries.take position ++ entry :: entries.drop (position + 1) := by
  rw [List.getElem?_map, Option.map_eq_some_iff] at h
  obtain ⟨entry, hentry, hcall⟩ := h
  obtain ⟨hbound, hget⟩ := List.getElem?_eq_some_iff.mp hentry
  refine ⟨entry, hcall, ?_⟩
  rw [← hget, ← List.drop_eq_getElem_cons hbound, List.take_append_drop]

/-- Between two deletions of a trace there is an observation that restores the first node. -/
theorem OneNodeAtATime.between {entries : List JobEntry} (h : OneNodeAtATime latestHash entries)
    {first second : ℕ} (hlt : first < second) {name otherName other : String}
    (hfirst : (entries.map Entry.call)[first]? = some (.deletePod name node))
    (hsecond : (entries.map Entry.call)[second]? = some (.deletePod otherName other)) :
    ∃ entry ∈ (entries.take second).drop (first + 1), ObservesReady latestHash node entry := by
  obtain ⟨later, hlater, hsplit⟩ := split_at_call hsecond
  have htake : ((entries.take second).map Entry.call)[first]? = some (.deletePod name node) := by
    rw [List.map_take, List.getElem?_take_of_lt hlt, hfirst]
  obtain ⟨earlier, hearlier, hsplit'⟩ := split_at_call htake
  exact h _ _ _ other hsplit ⟨otherName, hlater⟩ node _ _ _ hsplit' ⟨name, hearlier⟩

theorem ReadinessReported.of_concat (h : ReadinessReported latestHash (trace ++ [entry])) :
    ReadinessReported latestHash trace :=
  fun earlier hearlier ↦ h earlier (List.mem_append_left _ hearlier)

end Trace

/-! ## The rolling loop -/

/-- As long as readiness is reported, the deletions so far were one node at a time and every node
but the pending ones is restored. -/
def rolling (latestHash : String) (pending : String → Prop) : Assertion Cluster Move Call :=
  fun _ trace ↦ ReadinessReported latestHash trace →
    OneNodeAtATime latestHash trace ∧
      ∀ node, ¬pending node → Restored latestHash node trace

section Rolling

variable {latestHash : String} {pending : String → Prop}

theorem rolling_mono {pending' : String → Prop} {cluster : Cluster} {trace : List JobEntry}
    (h : rolling latestHash pending cluster trace)
    (hpending : ∀ node, pending node → pending' node) :
    rolling latestHash pending' cluster trace := by
  intro hreported
  obtain ⟨hone, hrestored⟩ := h hreported
  exact ⟨hone, fun node hnode ↦ hrestored node fun hold ↦ hnode (hpending node hold)⟩

/-- A request that deletes nothing changes nothing. -/
theorem rolling_unmoved {call : Call} (hcall : ∀ name node, call ≠ .deletePod name node) :
    Unmoved anyTick (rolling latestHash pending) call := by
  intro cluster trace moves verdict _ h hreported
  have hentry : ∀ node, ¬Deletes node ⟨call, moves, after moves cluster, verdict⟩ := by
    rintro node ⟨name, hname⟩
    exact hcall name node hname
  obtain ⟨hone, hrestored⟩ := h hreported.of_concat
  refine ⟨hone.concat fun node hdeletes ↦ absurd hdeletes (hentry node), ?_⟩
  intro node hnode
  exact (hrestored node hnode).concat (hentry node)

/-- A program that deletes nothing, with the node whose Pod it runs between. -/
theorem rolling_weaken {α : Type} {program : Job α}
    (h : Keeps anyTick (rolling latestHash pending) program) :
    Triple anyTick (rolling latestHash pending) program (fun _ ↦ rolling latestHash pending)
      (rolling latestHash fun _ ↦ True) :=
  h.weaken (fun _ _ h ↦ h) (fun _ _ _ h ↦ h) fun _ _ h ↦ rolling_mono h fun _ _ ↦ trivial

theorem drainIfDrainable_rolling (haIsEnabled : Bool) (node : String) :
    Keeps anyTick (rolling latestHash pending) (drainIfDrainable haIsEnabled node) := by
  have hget : Unmoved anyTick (rolling latestHash pending) (.getNode node) :=
    rolling_unmoved fun _ _ h ↦ by cases h
  have hcordon : Keeps anyTick (rolling latestHash pending) (putNodeCordon node cordonAnaCheck) :=
    Keeps.request (rolling_unmoved fun _ _ h ↦ by cases h) fun _ _ h ↦ h
  have huncordon : Keeps anyTick (rolling latestHash pending)
      (deleteNodeCordon node cordonAnaCheck) :=
    Keeps.request (rolling_unmoved fun _ _ h ↦ by cases h) fun _ _ h ↦ h
  have hdrain : Keeps anyTick (rolling latestHash pending) (putNodeDrain node drainForUpgrade) :=
    Keeps.request (rolling_unmoved fun _ _ h ↦ by cases h) fun _ _ h ↦ h
  refine Keeps.bind (isNodeDrainable_keeps (rolling_unmoved fun _ _ h ↦ by cases h)
    (fun _ ↦ rolling_unmoved fun _ _ h ↦ by cases h) (cordonStorageNode_keeps hget hcordon)
    (uncordonStorageNode_keeps hget huncordon)) fun drainable ↦ ?_
  exact Keeps.ite (drainStorageNode_keeps hget hdrain) Keeps.pure

theorem uncordonDrainedStorageNode_rolling (node : String) :
    Keeps anyTick (rolling latestHash pending) (uncordonDrainedStorageNode node) :=
  uncordonDrainedStorageNode_keeps (rolling_unmoved fun _ _ h ↦ by cases h)
    (Keeps.request (rolling_unmoved fun _ _ h ↦ by cases h) fun _ _ h ↦ h)

theorem deleteDataPlanePod_rolling (node : String) (pod : Pod) :
    Triple anyTick (rolling latestHash fun _ ↦ False) (deleteDataPlanePod node pod)
      (fun _ ↦ rolling latestHash fun other ↦ other = node)
      (rolling latestHash fun _ ↦ True) := by
  have hdelete : ∀ cluster trace moves verdict,
      rolling latestHash (fun _ ↦ False) cluster trace →
        rolling latestHash (fun other ↦ other = node) (after moves cluster)
          (trace ++ [⟨.deletePod pod.name node, moves, after moves cluster, verdict⟩]) := by
    intro cluster trace moves verdict h hreported
    obtain ⟨hone, hrestored⟩ := h hreported.of_concat
    refine ⟨hone.concat fun _ _ other ↦ hrestored other id, ?_⟩
    intro other hother
    apply (hrestored other id).concat
    rintro ⟨name, hname⟩
    injection hname with _ hnode
    exact hother hnode.symm
  refine Triple.query (fun _ _ h ↦ rolling_mono h fun _ _ ↦ trivial) ?_ ?_
  · intro cluster trace moves _ h
    exact hdelete cluster trace moves .served h
  · intro cluster trace moves verdict _ h
    exact rolling_mono (hdelete cluster trace moves verdict h) fun _ _ ↦ trivial

/-- A listing that shows a single Pod of the latest revision, ready, is an observation. -/
theorem observesReady_of_listed {node : String} {podList : List Pod} {entry : JobEntry}
    (hcall : entry.call = .listPods (latestPodSelector node latestHash))
    (hserved : entry.verdict = .served)
    (hlisted : podList = entry.seen.podsMatching (latestPodSelector node latestHash))
    (hlength : podList.length = 1) (hready : allPodsAreReady podList = true)
    (hmentions : ∀ pod ∈ podList, ∀ conditions, pod.conditions = some conditions →
      MentionsReady conditions) :
    ObservesReady latestHash node entry := by
  obtain ⟨pod, hpod⟩ := List.length_eq_one_iff.mp hlength
  rw [hpod] at hready hlisted hmentions
  have hsays := saysReady_of_allPodsAreReady hready (hmentions pod List.mem_cons_self)
  refine ⟨hcall, hserved, ?_, pod, ?_, hsays⟩
  · simp [← hlisted]
  · simp [← hlisted]

/-- After such a listing no node is pending. -/
theorem rolling_of_listed {node : String} {podList : List Pod} {cluster : Cluster}
    {earlier : List JobEntry} {entry : JobEntry}
    (h : rolling latestHash (fun other ↦ other = node) cluster (earlier ++ [entry]))
    (hcall : entry.call = .listPods (latestPodSelector node latestHash))
    (hserved : entry.verdict = .served)
    (hlisted : podList = entry.seen.podsMatching (latestPodSelector node latestHash))
    (hlength : podList.length = 1) (hready : allPodsAreReady podList = true) :
    rolling latestHash (fun _ ↦ False) cluster (earlier ++ [entry]) := by
  intro hreported
  obtain ⟨hone, hrestored⟩ := h hreported
  have hmentions : ∀ pod ∈ podList, ∀ conditions, pod.conditions = some conditions →
      MentionsReady conditions := by
    rw [hlisted]
    exact hreported entry (List.mem_append_right _ List.mem_cons_self) node hcall
  refine ⟨hone, fun other _ ↦ ?_⟩
  by_cases hother : other = node
  · rw [hother]
    exact (observesReady_of_listed hcall hserved hlisted hlength hready hmentions).restored
  · exact hrestored other hother

/-- The wait returns only after an observation that restores the node. -/
theorem verifyDataPlanePodIsRunning_rolling (node namespace_ : String) :
    Triple anyTick (rolling latestHash fun other ↦ other = node)
      (verifyDataPlanePodIsRunning node namespace_ latestHash)
      (fun _ ↦ rolling latestHash fun _ ↦ False) (rolling latestHash fun _ ↦ True) := by
  have hlist : ∀ cluster trace moves verdict,
      rolling latestHash (fun other ↦ other = node) cluster trace →
        rolling latestHash (fun other ↦ other = node) (after moves cluster) (trace ++
          [⟨.listPods (latestPodSelector node latestHash), moves, after moves cluster, verdict⟩]) :=
    fun cluster trace moves verdict ↦
      rolling_unmoved (fun _ _ h ↦ by cases h) cluster trace moves verdict trivial
  refine Triple.loop (fun _ ↦ rolling latestHash fun other ↦ other = node) (fun _ _ h ↦ h) ?_
    (fun _ _ _ h ↦ rolling_mono h fun _ _ ↦ trivial)
  intro _
  refine Triple.bind (fun running cluster trace ↦
    rolling latestHash (fun other ↦ running = false ∧ other = node) cluster trace) ?_ ?_
  · refine Triple.bind (fun podList cluster trace ↦
        rolling latestHash (fun other ↦ other = node) cluster trace ∧
          ∃ earlier moves seen, trace = earlier ++
              [⟨.listPods (latestPodSelector node latestHash), moves, seen, .served⟩] ∧
            podList = seen.podsMatching (latestPodSelector node latestHash))
      (Triple.query (fun _ _ h ↦ rolling_mono h fun _ _ ↦ trivial) ?_ ?_) ?_
    · intro cluster trace moves _ h
      exact ⟨hlist cluster trace moves .served h, trace, moves, after moves cluster, rfl, rfl⟩
    · intro cluster trace moves verdict _ h
      exact rolling_mono (hlist cluster trace moves verdict h) fun _ _ ↦ trivial
    · intro podList
      split
      next => exact Triple.pure fun _ _ h ↦ rolling_mono h.1 fun _ hnode ↦ ⟨rfl, hnode⟩
      next =>
        split
        next => exact Triple.fail fun _ _ h ↦ rolling_mono h.1 fun _ _ ↦ trivial
        next hlength =>
          refine Triple.pure ?_
          rintro cluster trace ⟨hrolling, earlier, moves, seen, htrace, hlisted⟩
          cases hready : allPodsAreReady podList with
          | false => exact rolling_mono hrolling fun _ hnode ↦ ⟨rfl, hnode⟩
          | true =>
            rw [htrace] at hrolling ⊢
            exact rolling_mono
              (rolling_of_listed hrolling rfl rfl hlisted (not_not.mp hlength) hready)
              fun _ hnode ↦ hnode.elim
  · intro running
    split
    next hrunning =>
      exact Triple.pure fun _ _ h ↦ rolling_mono h fun _ hnode ↦ by simp [hrunning] at hnode
    next => exact Triple.pure fun _ _ h ↦ rolling_mono h fun _ hnode ↦ hnode.2

/-- The restart of one Pod starts and ends with every node restored. -/
theorem upgradeDataPlanePod_rolling (args : DataPlaneArgs) (pod : Pod) :
    Triple anyTick (rolling args.latestIoEngineCtrlRevHash fun _ ↦ False)
      (upgradeDataPlanePod args pod)
      (fun _ ↦ rolling args.latestIoEngineCtrlRevHash fun _ ↦ False)
      (rolling args.latestIoEngineCtrlRevHash fun _ ↦ True) := by
  refine Triple.bind _ (rolling_weaken (verifyControlPlaneIsRunning_keeps fun _ ↦
    rolling_unmoved fun _ _ h ↦ by cases h)) fun _ ↦ ?_
  refine Triple.bind _ (rolling_weaken Keeps.ofExcept) fun node ↦ ?_
  refine Triple.bind _ (rolling_weaken (waitForRebuild_keeps fun _ ↦
    rolling_unmoved fun _ _ h ↦ by cases h)) fun _ ↦ ?_
  refine Triple.bind _ (rolling_weaken (drainIfDrainable_rolling args.haIsEnabled node)) fun _ ↦ ?_
  refine Triple.bind _ (deleteDataPlanePod_rolling node pod) fun _ ↦ ?_
  refine Triple.bind _ (verifyDataPlanePodIsRunning_rolling node args.namespace_) fun _ ↦ ?_
  exact rolling_weaken (uncordonDrainedStorageNode_rolling node)

theorem upgradeDataPlane_rolling (args : DataPlaneArgs) :
    Triple anyTick (rolling args.latestIoEngineCtrlRevHash fun _ ↦ False) (upgradeDataPlane args)
      (fun _ ↦ rolling args.latestIoEngineCtrlRevHash fun _ ↦ False)
      (rolling args.latestIoEngineCtrlRevHash fun _ ↦ True) := by
  have hroll : Triple anyTick (rolling args.latestIoEngineCtrlRevHash fun _ ↦ False)
      (rollDataPlane args) (fun _ ↦ rolling args.latestIoEngineCtrlRevHash fun _ ↦ False)
      (rolling args.latestIoEngineCtrlRevHash fun _ ↦ True) := by
    refine Triple.loop (fun _ ↦ rolling args.latestIoEngineCtrlRevHash fun _ ↦ False)
      (fun _ _ h ↦ h) ?_ (fun _ _ _ h ↦ rolling_mono h fun _ _ ↦ trivial)
    intro _
    refine Triple.bind _ (rolling_weaken (listPods_keeps
      (rolling_unmoved fun _ _ h ↦ by cases h))) fun podList ↦ ?_
    split
    · exact Triple.pure fun _ _ h ↦ h
    · refine Triple.bind _ (Triple.forEach
        (fun _ ↦ rolling args.latestIoEngineCtrlRevHash fun _ ↦ False) podList
        fun pod _ ↦ upgradeDataPlanePod_rolling args pod) fun _ ↦ ?_
      exact Triple.pure fun _ _ h ↦ h
  unfold upgradeDataPlane
  split
  · exact Triple.pure fun _ _ h ↦ h
  · refine Triple.bind _ (rolling_weaken Keeps.ofExcept) fun _ ↦ ?_
    refine Triple.bind _ (rolling_weaken (Keeps.query
      (rolling_unmoved fun _ _ h ↦ by cases h))) fun storageNodes ↦ ?_
    refine Triple.bind _ (rolling_weaken (Keeps.forEach
      uncordonDrainedStorageNode_rolling)) fun _ ↦ ?_
    exact hroll

end Rolling

/-- In every run of the data-plane upgrade in which the Pods of the latest revision mention
readiness once they have conditions: whenever the job deletes an io-engine Pod, every node on which
it has deleted one before has since been observed with exactly one Pod of the latest revision, and
that Pod ready. -/
theorem upgradeDataPlane_oneNodeAtATime {args : DataPlaneArgs} {cluster : Cluster}
    {schedule : List (Tick Move)}
    (hreported : ReadinessReported args.latestIoEngineCtrlRevHash
      (upgradeDataPlane args ⟨cluster, schedule, []⟩).2.trace) :
    OneNodeAtATime args.latestIoEngineCtrlRevHash
      (upgradeDataPlane args ⟨cluster, schedule, []⟩).2.trace := by
  have hspec := (upgradeDataPlane_rolling args).weaken (fun _ _ h ↦ h)
    (fun _ _ _ h ↦ rolling_mono h fun _ _ ↦ trivial) fun _ _ h ↦ h
  have hempty : rolling args.latestIoEngineCtrlRevHash (fun _ ↦ False) cluster [] := by
    refine fun _ ↦ ⟨?_, fun node _ ↦ ?_⟩
    · intro before deletion rest node hsplit
      simp at hsplit
    · intro before deletion rest hsplit
      simp at hsplit
  have hafter : rolling args.latestIoEngineCtrlRevHash (fun _ ↦ True) _ _ :=
    hspec.apply_any (m := ⟨cluster, schedule, []⟩) (fun _ _ ↦ trivial) hempty
  exact (hafter hreported).1

/-- An io-engine Pod on a node. -/
def ioEnginePod (name node hash : String) (status : Option PodStatus) : Pod :=
  ⟨name, some .ioEngine, some hash, some ⟨some node⟩, status, ""⟩

/-- Two storage nodes with io-engine Pods of the old revision. -/
def twoNodes : Cluster :=
  { (default : Cluster) with
    pods := [ioEnginePod "old-1" "n1" "old" none, ioEnginePod "old-2" "n2" "old" none],
    nodes := ["n1", "n2"], nodeSpec := fun _ ↦ some ⟨none⟩ }

def twoNodesArgs : DataPlaneArgs where
  namespace_ := "mayastor"
  restClient := .ok ()
  latestIoEngineCtrlRevHash := "new"
  haIsEnabled := false
  yetToUpgradeIoEngineLabel := { app := .ioEngine, revision := .isNot "new" }
  yetToUpgradeIoEnginePods := twoNodes.pods

/-- Both nodes are visited; the first replacement appears with the given conditions. -/
def twoNodesSchedule (conditions : List PodCondition) : List (Tick Move) :=
  List.replicate 9 ⟨[], .served⟩ ++
    [⟨[.setPods [ioEnginePod "new-1" "n1" "new" (some ⟨some conditions⟩),
      ioEnginePod "old-2" "n2" "old" none]], .served⟩] ++ List.replicate 6 ⟨[], .served⟩

theorem upgradeDataPlane_oneNodeAtATime_twoNodes :
    Call.deletePod "old-2" "n2" ∈ (upgradeDataPlane twoNodesArgs
        ⟨twoNodes, twoNodesSchedule [⟨"Ready", "True"⟩], []⟩).2.trace.map Entry.call ∧
      OneNodeAtATime twoNodesArgs.latestIoEngineCtrlRevHash (upgradeDataPlane twoNodesArgs
        ⟨twoNodes, twoNodesSchedule [⟨"Ready", "True"⟩], []⟩).2.trace := by
  have hpods : ∀ entry ∈ (upgradeDataPlane twoNodesArgs
      ⟨twoNodes, twoNodesSchedule [⟨"Ready", "True"⟩], []⟩).2.trace,
      ∀ pod ∈ entry.seen.pods, ∀ conditions ∈ pod.conditions, MentionsReady conditions := by
    decide +kernel
  have hreported : ReadinessReported twoNodesArgs.latestIoEngineCtrlRevHash
      (upgradeDataPlane twoNodesArgs
        ⟨twoNodes, twoNodesSchedule [⟨"Ready", "True"⟩], []⟩).2.trace := by
    intro entry hentry node _ pod hpod conditions hconditions
    exact hpods entry hentry pod (List.mem_of_mem_filter hpod) conditions hconditions
  exact ⟨by decide +kernel, upgradeDataPlane_oneNodeAtATime hreported⟩

/-- A replacement that has been scheduled, and reports no more than that, passes the scan. -/
theorem upgradeDataPlane_two_nodes_at_a_time :
    ¬OneNodeAtATime twoNodesArgs.latestIoEngineCtrlRevHash (upgradeDataPlane twoNodesArgs
      ⟨twoNodes, twoNodesSchedule [⟨"PodScheduled", "True"⟩], []⟩).2.trace := by
  intro h
  have hfirst : ((upgradeDataPlane twoNodesArgs ⟨twoNodes,
      twoNodesSchedule [⟨"PodScheduled", "True"⟩], []⟩).2.trace.map Entry.call)[8]? =
        some (.deletePod "old-1" "n1") := by
    decide +kernel
  have hsecond : ((upgradeDataPlane twoNodesArgs ⟨twoNodes,
      twoNodesSchedule [⟨"PodScheduled", "True"⟩], []⟩).2.trace.map Entry.call)[15]? =
        some (.deletePod "old-2" "n2") := by
    decide +kernel
  have hbetween := h.between (by decide) hfirst hsecond
  revert hbetween
  decide +kernel

end MayastorExtensions.UpgradeJob
