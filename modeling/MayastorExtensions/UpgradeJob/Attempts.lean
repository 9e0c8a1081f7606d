import MayastorExtensions.UpgradeJob.PartialRebuildGuard
import MayastorExtensions.UpgradeJob.RestartGate

/-!
# The order of an attempt and what its success means

An attempt of the upgrade-job goes through three phases: it looks at the release and prepares the
values, it has helm upgrade the release, and it restarts the data plane.  The version of the release
is what separates the phases.  Helm is asked only while the release is not at the chart of the job,
nodes and Pods are touched only once it is, and a restarted job finds out from the release alone
where the attempt before it has stopped.
-/

namespace MayastorExtensions.UpgradeJob

open Scheduled Semver Yaml

/-! ## The release and the chart of the job -/

/-- The release has the version of the chart of the job. -/
def AtTarget (args : CliArgs) (cluster : Cluster) : Prop :=
  ∃ chart, chartFromYamlFile args.coreChartDir = .ok chart ∧
    versionFromReleaseChart cluster.release.chart = .ok chart.version

theorem atTarget_of_release {args : CliArgs} {start cluster : Cluster}
    (hsame : cluster.release = start.release) (h : AtTarget args start) :
    AtTarget args cluster := by
  obtain ⟨chart, hchart, hversion⟩ := h
  exact ⟨chart, hchart, by rw [hsame, hversion]⟩

/-- The cluster does not touch the release on its own. -/
theorem after_release (moves : List Move) (cluster : Cluster) :
    (after moves cluster).release = cluster.release :=
  (after_sameRelease ⟨rfl, rfl, rfl⟩).1

theorem after_atTarget {args : CliArgs} {moves : List Move} {cluster : Cluster} :
    AtTarget args (after moves cluster) ↔ AtTarget args cluster :=
  ⟨atTarget_of_release (after_release moves cluster).symm,
    atTarget_of_release (after_release moves cluster)⟩

/-- The upgrader asks helm for an upgrade. -/
def HelmUpgrader.upgrades : HelmUpgrader → Bool
  | .core upgrader => !upgrader.alreadyUpgraded
  | .umbrella _ _ => false

/-- The upgrader decides on the chart of the job and the version it has found. -/
theorem plan_upgrades {args : CliArgs} {start : Cluster} {upgrader : HelmUpgrader}
    (h : args.plan start = .ok upgrader) :
    ∃ chart, chartFromYamlFile args.coreChartDir = .ok chart ∧
      upgrader.upgrades = !decide (chart.version = upgrader.sourceVersion) := by
  obtain ⟨releaseName, hname, h⟩ := Outcome.bind_eq_ok h
  obtain ⟨namespace_, -, h⟩ := Outcome.bind_eq_ok h
  obtain ⟨chartDir, hdir, h⟩ := Outcome.bind_eq_ok h
  cases hdir
  obtain ⟨release, -, h⟩ := Outcome.bind_eq_ok h
  obtain ⟨sourceVersion, -, h⟩ := Outcome.bind_eq_ok h
  obtain ⟨sourceTree, -, h⟩ := Outcome.bind_eq_ok h
  obtain ⟨chart, hchart, h⟩ := Outcome.bind_eq_ok h
  refine ⟨chart, hchart, ?_⟩
  split_ifs at h with _ hversion
  · cases h
    simp [HelmUpgrader.upgrades, HelmUpgrader.sourceVersion, hversion]
  · obtain ⟨_, -, h⟩ := Outcome.bind_eq_ok h
    obtain ⟨target, -, h⟩ := Outcome.bind_eq_ok h
    obtain ⟨source, -, h⟩ := Outcome.bind_eq_ok h
    obtain ⟨upgradeValues, -, h⟩ := Outcome.bind_eq_ok h
    cases h
    rfl

/-- Helm is asked exactly where the release is not at the chart of the job. -/
theorem atTarget_iff {args : CliArgs} {start : Cluster} {upgrader : HelmUpgrader}
    (h : args.plan start = .ok upgrader) : AtTarget args start ↔ upgrader.upgrades = false := by
  obtain ⟨chart, hchart, hupgrades⟩ := plan_upgrades h
  have hsource := (plan_spec h).1
  rw [hupgrades, Bool.not_eq_false', decide_eq_true_eq]
  constructor
  · rintro ⟨chart', hchart', hversion⟩
    rw [hchart'] at hchart
    cases hchart
    rw [hsource] at hversion
    exact (Except.ok.inj hversion).symm
  · intro hversion
    exact ⟨chart, hchart, by rw [hsource, hversion]⟩

/-- The helm upgrade brings the release to the chart of the job. -/
theorem install_atTarget {args : CliArgs} {start : Cluster} {upgrader : CoreHelmUpgrader}
    (h : args.plan start = .ok (.core upgrader)) (cluster : Cluster) :
    AtTarget args (upgrader.install cluster) := by
  have hchart := (plan_spec h).2 upgrader rfl
  exact ⟨upgrader.chart, hchart,
    versionFromReleaseChart_coreChart (parse_of_chartFromYamlFile hchart)⟩

/-! ## The order of the requests -/

/-- The request makes helm change the release, as far as it can be told from its verdict. -/
def Installs (entry : JobEntry) : Prop :=
  entry.call = .helmUpgrade false ∧ entry.verdict ≠ .refused

/-- The request is one of helm, a dry run or not. -/
def AsksHelm (entry : JobEntry) : Prop :=
  ∃ dryRun, entry.call = .helmUpgrade dryRun

/-- The request changes a storage node or deletes a Pod. -/
def Call.disturbs : Call → Bool
  | .deletePod _ _ | .putNodeCordon _ _ | .deleteNodeCordon _ _ | .putNodeDrain _ _ => true
  | _ => false

/-- What has to come before a request. -/
structure InOrder (args : CliArgs) (start : Cluster) (before : List JobEntry) (entry : JobEntry) :
    Prop where
  /-- Helm is asked while the release is not at the chart of the job. -/
  helm : AsksHelm entry → ¬AtTarget args start ∧ ∀ earlier ∈ before, ¬Installs earlier
  /-- The upgrade was tried out before. -/
  dryRun : entry.call = .helmUpgrade false →
    ∃ earlier ∈ before, earlier.call = .helmUpgrade true ∧ earlier.verdict = .served
  /-- The data plane is entered with the release at the chart of the job. -/
  enters : ∀ partialRebuild, entry.call = .enterDataPlane partialRebuild →
    args.skipDataPlaneRestart = false ∧ AtTarget args entry.seen
  /-- Nodes and Pods are touched in the data-plane upgrade. -/
  disturbs : entry.call.disturbs = true → AtTarget args entry.seen ∧
    ∃ earlier ∈ before, ∃ partialRebuild, earlier.call = .enterDataPlane partialRebuild

/-- Every request of the trace has been made in its turn. -/
def Ordered (args : CliArgs) (start : Cluster) (trace : List JobEntry) : Prop :=
  ∀ before entry rest, trace = before ++ entry :: rest → InOrder args start before entry

/-- The requests so far are in order, and the release is at the chart of the job if it was at the
start or if helm was made to change it. -/
def Proceeds (args : CliArgs) (start cluster : Cluster) (trace : List JobEntry) : Prop :=
  Ordered args start trace ∧
    (AtTarget args start ∨ (∃ entry ∈ trace, Installs entry) → AtTarget args cluster)

section Order

variable {args : CliArgs} {start cluster : Cluster} {trace : List JobEntry} {entry : JobEntry}

theorem Ordered.concat (h : Ordered args start trace) (hentry : InOrder args start trace entry) :
    Ordered args start (trace ++ [entry]) := by
  intro before chosen rest hsplit
  rcases split_concat hsplit with ⟨rfl, rfl⟩ | ⟨rest', _, htrace⟩
  · exact hentry
  · exact h before chosen rest' htrace

/-- A request that is neither one of helm's nor one to the data plane is in order anywhere. -/
theorem inOrder_of_plain (hhelm : ∀ dryRun, entry.call ≠ .helmUpgrade dryRun)
    (henters : entry.call.entersDataPlane = none) (hdisturbs : entry.call.disturbs = false) :
    InOrder args start trace entry where
  helm := fun ⟨dryRun, hcall⟩ ↦ absurd hcall (hhelm dryRun)
  dryRun := fun hcall ↦ absurd hcall (hhelm false)
  enters := fun partialRebuild hcall ↦ by simp [hcall, Call.entersDataPlane] at henters
  disturbs := fun hcall ↦ by simp [hcall] at hdisturbs

/-- A request in order that installs nothing. -/
theorem Proceeds.concat (h : Proceeds args start cluster trace)
    (hentry : InOrder args start trace entry) (hinstalls : ¬Installs entry) :
    Proceeds args start cluster (trace ++ [entry]) := by
  refine ⟨h.1.concat hentry, ?_⟩
  rintro (hstart | ⟨chosen, hchosen, hinstalled⟩)
  · exact h.2 (.inl hstart)
  · rcases List.mem_append.mp hchosen with hold | hnew
    · exact h.2 (.inr ⟨chosen, hold, hinstalled⟩)
    · obtain rfl := List.mem_singleton.mp hnew
      exact absurd hinstalled hinstalls

theorem Proceeds.of_release {cluster' : Cluster} (h : Proceeds args start cluster trace)
    (hsame : cluster'.release = cluster.release) : Proceeds args start cluster' trace :=
  ⟨h.1, fun hcause ↦ atTarget_of_release hsame (h.2 hcause)⟩

theorem proceeds_unmoved {call : Call} (hhelm : ∀ dryRun, call ≠ .helmUpgrade dryRun)
    (henters : call.entersDataPlane = none) (hdisturbs : call.disturbs = false) :
    Unmoved anyTick (Proceeds args start) call := by
  intro cluster trace moves verdict _ h
  exact (h.of_release (after_release moves cluster)).concat
    (inOrder_of_plain hhelm henters hdisturbs) fun hinstalls ↦ hhelm false hinstalls.1

end Order

/-! ## The phases -/

/-- The job has only looked at the release. -/
def Looking (args : CliArgs) (start cluster : Cluster) (trace : List JobEntry) : Prop :=
  SameRelease start cluster ∧ Proceeds args start cluster trace ∧
    ∀ entry ∈ trace, ¬Installs entry

/-- A helm upgrade that is planned has been tried out. -/
def Tried (args : CliArgs) (start : Cluster) (upgrader : HelmUpgrader) (cluster : Cluster)
    (trace : List JobEntry) : Prop :=
  Looking args start cluster trace ∧ (upgrader.upgrades = true →
    ∃ entry ∈ trace, entry.call = .helmUpgrade true ∧ entry.verdict = .served)

/-- The release is at the chart of the job. -/
def Upgraded (args : CliArgs) (start cluster : Cluster) (trace : List JobEntry) : Prop :=
  Proceeds args start cluster trace ∧ AtTarget args cluster

/-- The data-plane upgrade has been entered. -/
def Entered (args : CliArgs) (start cluster : Cluster) (trace : List JobEntry) : Prop :=
  Upgraded args start cluster trace ∧
    ∃ entry ∈ trace, ∃ partialRebuild, entry.call = .enterDataPlane partialRebuild

section Phases

variable {args : CliArgs} {start : Cluster} {upgrader : HelmUpgrader} {channelOpen : Bool}

theorem looking_unmoved {call : Call} (hhelm : ∀ dryRun, call ≠ .helmUpgrade dryRun)
    (henters : call.entersDataPlane = none) (hdisturbs : call.disturbs = false) :
    Unmoved anyTick (Looking args start) call := by
  rintro cluster trace moves verdict hrely ⟨hsame, hproceeds, hinstalls⟩
  refine ⟨after_sameRelease hsame,
    proceeds_unmoved hhelm henters hdisturbs cluster trace moves verdict hrely hproceeds, ?_⟩
  intro entry hentry
  rcases List.mem_append.mp hentry with hold | hnew
  · exact hinstalls entry hold
  · obtain rfl := List.mem_singleton.mp hnew
    exact fun hinstalled ↦ hhelm false hinstalled.1

/-- What a request keeps that only adds to the trace and leaves the release alone. -/
theorem tried_unmoved {call : Call} (hhelm : ∀ dryRun, call ≠ .helmUpgrade dryRun)
    (henters : call.entersDataPlane = none) (hdisturbs : call.disturbs = false) :
    Unmoved anyTick (Tried args start upgrader) call := by
  rintro cluster trace moves verdict hrely ⟨hlooking, htried⟩
  refine ⟨looking_unmoved hhelm henters hdisturbs cluster trace moves verdict hrely hlooking, ?_⟩
  intro hupgrades
  obtain ⟨entry, hentry, hdry⟩ := htried hupgrades
  exact ⟨entry, List.mem_append_left _ hentry, hdry⟩

theorem upgraded_unmoved {call : Call} (hhelm : ∀ dryRun, call ≠ .helmUpgrade dryRun)
    (henters : call.entersDataPlane = none) (hdisturbs : call.disturbs = false) :
    Unmoved anyTick (Upgraded args start) call := by
  rintro cluster trace moves verdict hrely ⟨hproceeds, htarget⟩
  exact ⟨proceeds_unmoved hhelm henters hdisturbs cluster trace moves verdict hrely hproceeds,
    after_atTarget.mpr htarget⟩

/-- In the data-plane upgrade, nodes and Pods may be touched too. -/
theorem entered_unmoved {call : Call} (hhelm : ∀ dryRun, call ≠ .helmUpgrade dryRun)
    (henters : call.entersDataPlane = none) : Unmoved anyTick (Entered args start) call := by
  rintro cluster trace moves verdict _ ⟨⟨hproceeds, htarget⟩, entered, hentered, hcall⟩
  have hseen : AtTarget args (after moves cluster) := after_atTarget.mpr htarget
  have hproceeds' := hproceeds.of_release (after_release moves cluster)
  have horder : InOrder args start trace ⟨call, moves, after moves cluster, verdict⟩ :=
    { helm := fun ⟨dryRun, hask⟩ ↦ absurd hask (hhelm dryRun)
      dryRun := fun hask ↦ absurd hask (hhelm false)
      enters := fun partialRebuild hask ↦ by
        have hask' : call = .enterDataPlane partialRebuild := hask
        rw [hask'] at henters
        cases henters
      disturbs := fun _ ↦ ⟨hseen, entered, hentered, hcall⟩ }
  exact ⟨⟨hproceeds'.concat horder fun hinstalls ↦ hhelm false hinstalls.1, hseen⟩,
    entered, List.mem_append_left _ hentered, hcall⟩

/-- The builder only reads. -/
theorem buildUpgrader_keeps {kept : Assertion Cluster Move Call}
    (hcall : ∀ call : Call, call ∈ [.helmList, .helmGetValues, .generateValues, .listCrds] →
      Unmoved anyTick kept call) : Keeps anyTick kept args.buildUpgrader := by
  refine Keeps.bind Keeps.ofExcept fun releaseName ↦ Keeps.bind Keeps.ofExcept fun namespace_ ↦ ?_
  refine Keeps.bind Keeps.ofExcept fun chartDir ↦ ?_
  refine Keeps.bind (Keeps.bind (Keeps.query (hcall _ (by decide))) fun _ ↦ Keeps.ofExcept)
    fun release ↦ ?_
  refine Keeps.bind Keeps.ofExcept fun sourceVersion ↦ ?_
  refine Keeps.bind (Keeps.query (hcall _ (by decide))) fun sourceTree ↦ ?_
  refine Keeps.bind Keeps.ofExcept fun chart ↦ ?_
  refine Keeps.ite (Keeps.ite Keeps.pure Keeps.fail) (Keeps.ite ?_ Keeps.fail)
  refine Keeps.bind Keeps.ofExcept fun _ ↦ Keeps.bind Keeps.ofExcept fun target ↦ ?_
  refine Keeps.bind Keeps.ofExcept fun source ↦ ?_
  refine Keeps.bind (Keeps.bind (Keeps.query (hcall _ (by decide))) fun _ ↦ ?_) fun _ ↦ Keeps.pure
  refine Keeps.bind Keeps.ofExcept fun merged ↦ ?_
  exact Keeps.bind (Keeps.query (hcall _ (by decide))) fun _ ↦ Keeps.ofExcept

theorem buildUpgrader_looking :
    Triple anyTick (Looking args start) args.buildUpgrader
      (fun upgrader cluster trace ↦ args.plan start = .ok upgrader ∧
        Looking args start cluster trace)
      (Proceeds args start) := by
  have hplan : Computes anyTick (fun cluster _ ↦ SameRelease start cluster) args.buildUpgrader
      (args.plan start) :=
    @build_computes start (fun cluster _ ↦ SameRelease start cluster)
      (fun _ _ _ _ _ _ _ hsame ↦ after_sameRelease hsame) (fun _ _ hsame ↦ hsame) args.outside
      args.helmUpgraderBuilder
  have hlooking : Keeps anyTick (Looking args start) args.buildUpgrader := by
    refine buildUpgrader_keeps fun call hcall ↦ ?_
    simp only [List.mem_cons, List.not_mem_nil, or_false] at hcall
    rcases hcall with rfl | rfl | rfl | rfl <;> exact looking_unmoved (fun _ h ↦ by cases h) rfl rfl
  refine (Triple.and hplan hlooking).weaken (fun _ _ h ↦ ⟨h.1, h⟩) ?_ fun _ _ h ↦ h.2.2.1
  exact fun _ _ _ h ↦ ⟨h.1.1, h.2⟩

/-- A request of helm is in order while the job has only looked. -/
theorem Looking.inOrder_helm (hplan : args.plan start = .ok upgrader)
    (hupgrades : upgrader.upgrades = true) {cluster : Cluster} {trace : List JobEntry}
    (h : Looking args start cluster trace) {entry : JobEntry} {dryRun : Bool}
    (hcall : entry.call = .helmUpgrade dryRun)
    (hdry : dryRun = false → ∃ earlier ∈ trace, earlier.call = .helmUpgrade true ∧
      earlier.verdict = .served) : InOrder args start trace entry where
  helm := by
    intro _
    refine ⟨fun htarget ↦ ?_, h.2.2⟩
    rw [atTarget_iff hplan, hupgrades] at htarget
    cases htarget
  dryRun := by
    intro hreal
    rw [hcall] at hreal
    exact hdry (Call.helmUpgrade.inj hreal)
  enters := by
    intro partialRebuild henters
    rw [hcall] at henters
    cases henters
  disturbs := by
    intro hdisturbs
    rw [hcall] at hdisturbs
    cases hdisturbs

/-- The dry run tries out what the run is going to do. -/
theorem dryRun_tried (hplan : args.plan start = .ok upgrader) :
    Triple anyTick (Looking args start) (upgrader.dryRun args.outside)
      (fun runHelmUpgrade cluster trace ↦ runHelmUpgrade = upgrader.run args.outside ∧
        Tried args start upgrader cluster trace)
      (Proceeds args start) := by
  cases upgrader with
  | umbrella sourceVersion targetVersion =>
    exact Triple.pure fun _ _ h ↦ ⟨rfl, h, fun hupgrades ↦ by cases hupgrades⟩
  | core core =>
    unfold HelmUpgrader.dryRun
    dsimp only
    split
    next halready =>
      refine Triple.pure fun _ _ h ↦ ⟨rfl, h, fun hupgrades ↦ ?_⟩
      simp [HelmUpgrader.upgrades, halready] at hupgrades
    next halready =>
      have hupgrades : (HelmUpgrader.core core).upgrades = true := by
        simp [HelmUpgrader.upgrades, halready]
      have hask : ∀ cluster trace moves verdict, Looking args start cluster trace →
          Looking args start (after moves cluster)
            (trace ++ [⟨.helmUpgrade true, moves, after moves cluster, verdict⟩]) := by
        intro cluster trace moves verdict h
        have horder : InOrder args start trace
            ⟨.helmUpgrade true, moves, after moves cluster, verdict⟩ :=
          h.inOrder_helm hplan hupgrades rfl fun hreal ↦ by cases hreal
        have hinstalls : ¬Installs ⟨.helmUpgrade true, moves, after moves cluster, verdict⟩ := by
          rintro ⟨hcall, -⟩
          cases hcall
        refine ⟨after_sameRelease h.1,
          (h.2.1.of_release (after_release moves cluster)).concat horder hinstalls, ?_⟩
        intro entry hentry
        rcases List.mem_append.mp hentry with hold | hnew
        · exact h.2.2 entry hold
        · obtain rfl := List.mem_singleton.mp hnew
          exact hinstalls
      refine Triple.bind (fun _ ↦ Tried args start (.core core))
        (Triple.request (fun _ _ h ↦ h.2.1) ?_ ?_ ?_) fun _ ↦ Triple.pure fun _ _ h ↦ ⟨rfl, h⟩
      · intro cluster trace moves _ h
        refine ⟨hask cluster trace moves .served h, fun _ ↦ ?_⟩
        exact ⟨_, List.mem_append_right _ List.mem_cons_self, rfl, rfl⟩
      · exact fun cluster trace moves _ h ↦ (hask cluster trace moves .refused h).2.1
      · exact fun cluster trace moves _ h ↦ (hask cluster trace moves .lost h).2.1

/-- The run leaves the release at the chart of the job. -/
theorem run_upgraded (hplan : args.plan start = .ok upgrader) :
    Triple anyTick (Tried args start upgrader) (upgrader.run args.outside)
      (fun _ ↦ Upgraded args start) (Proceeds args start) := by
  have hread : ∀ decode : Tree → Option CoreValues, Keeps anyTick (Upgraded args start)
      (do
        let finalValues ← getValuesAsYaml
        Program.ofExcept (valuesFromSlice decode finalValues) : Job CoreValues) := fun decode ↦
    Keeps.bind (Keeps.query (upgraded_unmoved (fun _ h ↦ by cases h) rfl rfl))
      fun _ ↦ Keeps.ofExcept
  have hready : upgrader.upgrades = false → ∀ cluster trace,
      Tried args start upgrader cluster trace → Upgraded args start cluster trace := by
    intro hupgrades cluster trace h
    refine ⟨h.1.2.1, h.1.2.1.2 (.inl ?_)⟩
    rw [atTarget_iff hplan, hupgrades]
  cases upgrader with
  | umbrella sourceVersion targetVersion =>
    exact (hread _).weaken (hready rfl) (fun _ _ _ h ↦ h) fun _ _ h ↦ h.1
  | core core =>
    unfold HelmUpgrader.run
    dsimp only
    split
    next halready =>
      refine Triple.pure (hready ?_)
      simp [HelmUpgrader.upgrades, halready]
    next halready =>
      have hupgrades : (HelmUpgrader.core core).upgrades = true := by
        simp [HelmUpgrader.upgrades, halready]
      have horder : ∀ cluster trace moves verdict, Tried args start (.core core) cluster trace →
          Ordered args start
            (trace ++ [⟨.helmUpgrade false, moves, after moves cluster, verdict⟩]) := by
        intro cluster trace moves verdict h
        exact h.1.2.1.1.concat (h.1.inOrder_helm hplan hupgrades rfl fun _ ↦ h.2 hupgrades)
      have hinstall : ∀ cluster trace moves verdict, Tried args start (.core core) cluster trace →
          Upgraded args start (core.install (after moves cluster))
            (trace ++ [⟨.helmUpgrade false, moves, after moves cluster, verdict⟩]) := by
        intro cluster trace moves verdict h
        have htarget := install_atTarget hplan (after moves cluster)
        exact ⟨⟨horder cluster trace moves verdict h, fun _ ↦ htarget⟩, htarget⟩
      refine Triple.bind (fun _ ↦ Upgraded args start)
        (Triple.request (fun _ _ h ↦ h.1.2.1) ?_ ?_ ?_) fun _ ↦
          (hread _).weaken (fun _ _ h ↦ h) (fun _ _ _ h ↦ h) fun _ _ h ↦ h.1
      · exact fun cluster trace moves _ h ↦ hinstall cluster trace moves .served h
      · intro cluster trace moves _ h
        refine ⟨horder cluster trace moves .refused h, ?_⟩
        rintro (hstart | ⟨entry, hentry, hinstalled⟩)
        · exact after_atTarget.mpr (h.1.2.1.2 (.inl hstart))
        · rcases List.mem_append.mp hentry with hold | hnew
          · exact absurd hinstalled (h.1.2.2 entry hold)
          · obtain rfl := List.mem_singleton.mp hnew
            exact absurd rfl hinstalled.2
      · exact fun cluster trace moves _ h ↦ (hinstall cluster trace moves .lost h).1

theorem upgradeControlPlane_upgraded (hplan : args.plan start = .ok upgrader) :
    Triple anyTick (Looking args start) (upgradeControlPlane channelOpen args upgrader)
      (fun _ ↦ Upgraded args start) (Proceeds args start) := by
  have hpublish : ∀ event, Unmoved anyTick (Proceeds args start) (.publish event) :=
    fun _ ↦ proceeds_unmoved (fun _ h ↦ by cases h) rfl rfl
  have hevent : ∀ event, Triple anyTick (Tried args start upgrader) (publish channelOpen event)
      (fun _ ↦ Tried args start upgrader) (Proceeds args start) := fun event ↦
    (publish_keeps (tried_unmoved (fun _ h ↦ by cases h) rfl rfl)).weaken (fun _ _ h ↦ h)
      (fun _ _ _ h ↦ h) fun _ _ h ↦ h.1.2.1
  refine Triple.bind _ (reporting_spec (dryRun_tried hplan) hpublish) ?_
  intro runHelmUpgrade
  refine Triple.assume ?_
  rintro rfl
  refine Triple.bind _ (hevent _) fun _ ↦ Triple.bind _ (hevent _) fun _ ↦ ?_
  refine Triple.bind _ (reporting_spec (run_upgraded hplan) hpublish) fun finalValues ↦ ?_
  refine Triple.bind _ ((publish_keeps (upgraded_unmoved (fun _ h ↦ by cases h) rfl rfl)).weaken
    (fun _ _ h ↦ h) (fun _ _ _ h ↦ h) fun _ _ h ↦ h.1) fun _ ↦ ?_
  exact Triple.pure fun _ _ h ↦ h

/-- The data-plane upgrade leaves the release where it is. -/
theorem upgradeDataPlane_entered {dataPlaneArgs : DataPlaneArgs} :
    Keeps anyTick (Entered args start) (upgradeDataPlane dataPlaneArgs) := by
  refine upgradeDataPlane_keeps ?_ ?_
  · intro call hcall
    apply entered_unmoved
    · rintro dryRun rfl
      cases hcall
    · cases call <;> first | rfl | cases hcall
  · rintro node change cluster trace ⟨⟨hproceeds, htarget⟩, hentered⟩
    exact ⟨⟨hproceeds.of_release rfl, atTarget_of_release rfl htarget⟩, hentered⟩

theorem restartDataPlane_upgraded {versions : EventVersions} {finalValues : CoreValues}
    {latestHash : String} {pods : List Pod} (hskip : args.skipDataPlaneRestart = false) :
    Keeps anyTick (Upgraded args start)
      (restartDataPlane channelOpen args versions finalValues latestHash pods) := by
  have hpublish : ∀ event, Unmoved anyTick (Upgraded args start) (.publish event) :=
    fun _ ↦ upgraded_unmoved (fun _ h ↦ by cases h) rfl rfl
  refine Keeps.bind (publish_keeps (hpublish _)) fun _ ↦ ?_
  refine Triple.bind (fun _ ↦ Entered args start) (Triple.record ?_) fun _ ↦ ?_
  · rintro cluster trace ⟨hproceeds, htarget⟩
    refine ⟨⟨hproceeds.concat ?_ ?_, htarget⟩, _, List.mem_append_right _ List.mem_cons_self,
      _, rfl⟩
    · exact
        { helm := fun ⟨_, hask⟩ ↦ by cases hask
          dryRun := fun hask ↦ by cases hask
          enters := fun _ _ ↦ ⟨hskip, htarget⟩
          disturbs := fun hdisturbs ↦ by cases hdisturbs }
    · rintro ⟨hcall, -⟩
      cases hcall
  · refine Triple.bind (fun _ ↦ Upgraded args start) (reporting_spec
      (upgradeDataPlane_entered.weaken (fun _ _ h ↦ h) (fun _ _ _ h ↦ h.1) fun _ _ h ↦ h.1)
      hpublish) fun _ ↦ publish_keeps (hpublish _)

theorem dataPlaneStage_upgraded {finalValues : CoreValues} :
    Keeps anyTick (Upgraded args start)
      (dataPlaneStage channelOpen args upgrader finalValues) := by
  unfold dataPlaneStage
  cases hskip : args.skipDataPlaneRestart with
  | true => exact Keeps.pure
  | false =>
    have hread : ∀ call : Call, (∀ dryRun, call ≠ .helmUpgrade dryRun) →
        call.entersDataPlane = none → call.disturbs = false →
          Unmoved anyTick (Upgraded args start) call := fun _ ↦ upgraded_unmoved
    refine Keeps.bind (Keeps.bind Keeps.ofExcept fun _ ↦ ?_)
      fun found ↦ restartDataPlane_upgraded hskip
    refine Keeps.bind (latestControllerRevisionHash_keeps
      (hread _ (fun _ h ↦ by cases h) rfl rfl)) fun latestHash ↦ ?_
    exact Keeps.bind (listPods_keeps (hread _ (fun _ h ↦ by cases h) rfl rfl)) fun _ ↦ Keeps.pure

theorem upgradeProduct_upgraded :
    Triple anyTick (Looking args start) (upgradeProduct channelOpen args)
      (fun _ ↦ Upgraded args start) (Proceeds args start) := by
  refine Triple.bind _ buildUpgrader_looking fun upgrader ↦ Triple.assume fun hplan ↦ ?_
  refine Triple.bind _ (upgradeControlPlane_upgraded hplan) fun finalValues ↦ ?_
  refine Triple.bind (fun _ ↦ Upgraded args start) ((dataPlaneStage_upgraded).weaken
    (fun _ _ h ↦ h) (fun _ _ _ h ↦ h) fun _ _ h ↦ h.1) fun _ ↦ ?_
  exact (publish_keeps (upgraded_unmoved (fun _ h ↦ by cases h) rfl rfl)).weaken (fun _ _ h ↦ h)
    (fun _ _ _ h ↦ h) fun _ _ h ↦ h.1

end Phases

/-- A fresh attempt has only looked. -/
theorem looking_fresh (args : CliArgs) (start : Cluster) : Looking args start start [] := by
  refine ⟨⟨rfl, rfl, rfl⟩, ⟨?_, ?_⟩, ?_⟩
  · intro before entry rest hsplit
    simp at hsplit
  · rintro (hstart | ⟨entry, hentry, -⟩)
    · exact hstart
    · exact absurd hentry List.not_mem_nil
  · exact fun entry hentry ↦ absurd hentry List.not_mem_nil

/-- What every attempt has done when it ends, one way or the other. -/
theorem upgradeProduct_proceeds (channelOpen : Bool) (args : CliArgs) (cluster : Cluster)
    (schedule : List (Tick Move)) :
    Proceeds args cluster (upgradeProduct channelOpen args ⟨cluster, schedule, []⟩).2.state
      (upgradeProduct channelOpen args ⟨cluster, schedule, []⟩).2.trace := by
  have hspec := (@upgradeProduct_upgraded args cluster channelOpen).weaken (fun _ _ h ↦ h)
    (fun _ _ _ h ↦ h.1) fun _ _ h ↦ h
  exact hspec.apply_any (m := ⟨cluster, schedule, []⟩) (fun _ _ ↦ trivial)
    (looking_fresh args cluster)

/-- In every attempt, whatever the cluster does and wherever the attempt stops: helm is asked only
if the release was not at the chart of the job when the attempt started, and not after helm was made
to change it; the upgrade itself is asked for only after a dry run that succeeded; and the data
plane is entered, and then nodes cordoned or drained and Pods deleted, only with the release at the
chart of the job. -/
theorem upgradeProduct_ordered (channelOpen : Bool) (args : CliArgs) (cluster : Cluster)
    (schedule : List (Tick Move)) :
    Ordered args cluster (upgradeProduct channelOpen args ⟨cluster, schedule, []⟩).2.trace :=
  (upgradeProduct_proceeds channelOpen args cluster schedule).1

/-! ## Restarted attempts -/

section Restarts

variable {args : CliArgs} {channelOpen : Bool} {start cluster : Cluster} {trace : List JobEntry}

/-- With the release at the chart of the job, helm is left alone. -/
theorem Ordered.not_asksHelm (h : Ordered args start trace) (htarget : AtTarget args start)
    {entry : JobEntry} (hentry : entry ∈ trace) : ¬AsksHelm entry := by
  intro hasks
  obtain ⟨before, rest, hsplit⟩ := List.append_of_mem hentry
  exact ((h before entry rest hsplit).helm hasks).1 htarget

/-- Within an attempt, helm is not asked again after it was made to change the release. -/
theorem Ordered.pairwise (h : Ordered args start trace) :
    trace.Pairwise fun earlier later ↦ Installs earlier → ¬AsksHelm later := by
  induction trace using List.reverseRecOn with
  | nil => exact List.Pairwise.nil
  | append_singleton trace last ih =>
    have hearlier : Ordered args start trace := by
      intro before entry rest hsplit
      exact h before entry (rest ++ [last]) (by rw [hsplit]; simp)
    refine List.pairwise_append.mpr ⟨ih hearlier, List.pairwise_singleton _ _, ?_⟩
    intro earlier hmem later hlater hinstalls hasks
    obtain rfl := List.mem_singleton.mp hlater
    exact ((h trace later [] rfl).helm hasks).2 earlier hmem hinstalls

/-- Attempts that start with the release at the chart of the job never ask helm. -/
theorem restarts_not_asksHelm (htarget : AtTarget args cluster) (starts : List (Start Move Unit))
    {run : Run Cluster Move Call Error Unit Unit}
    (hrun : run ∈ restarts (fun _ ↦ upgradeProduct channelOpen args) starts cluster)
    {entry : JobEntry} (hentry : entry ∈ run.final.trace) : ¬AsksHelm entry := by
  induction starts generalizing cluster with
  | nil => exact absurd hrun List.not_mem_nil
  | cons first rest ih =>
    have hstart : AtTarget args (after first.moves cluster) := after_atTarget.mpr htarget
    have hproceeds := upgradeProduct_proceeds channelOpen args (after first.moves cluster)
      first.schedule
    rcases List.mem_cons.mp hrun with rfl | hlater
    · exact hproceeds.1.not_asksHelm hstart hentry
    · exact ih (hproceeds.2 (.inl hstart)) hlater

end Restarts

/-- In every series of attempts of one job, each restarted on what the one before it has left
behind: once helm was made to change the release, in whichever attempt and even if its answer was
lost, no attempt asks helm again, neither for the upgrade nor for a dry run. -/
theorem attempts_install_once (channelOpen : Bool) (args : CliArgs) (cluster : Cluster)
    (starts : List (Start Move Unit)) :
    ((restarts (fun _ ↦ upgradeProduct channelOpen args) starts cluster).flatMap
      fun run ↦ run.final.trace).Pairwise fun earlier later ↦
        Installs earlier → ¬AsksHelm later := by
  induction starts generalizing cluster with
  | nil => exact List.Pairwise.nil
  | cons first rest ih =>
    have hproceeds := upgradeProduct_proceeds channelOpen args (after first.moves cluster)
      first.schedule
    rw [restarts, List.flatMap_cons]
    refine List.pairwise_append.mpr ⟨hproceeds.1.pairwise, ih _, ?_⟩
    intro earlier hearlier later hlater hinstalls
    obtain ⟨run, hrun, hentry⟩ := List.mem_flatMap.mp hlater
    have htarget := hproceeds.2 (.inr ⟨earlier, hearlier, hinstalls⟩)
    exact restarts_not_asksHelm htarget rest hrun hentry

/-! ## What success means -/

/-- The hash of the newest revision of the io-engine. -/
def Cluster.latestIoEngineHash (cluster : Cluster) : Option String :=
  (latestRevision (cluster.controllerRevisions.filter fun revision ↦
    revision.app = some .ioEngine)).bind ControllerRevision.revisionHash

/-- The newest revision was looked up and has this hash. -/
def KnowsLatest (latestHash : String) (trace : List JobEntry) : Prop :=
  ∃ entry ∈ trace, entry.call = .listControllerRevisions .ioEngine ∧ entry.verdict = .served ∧
    entry.seen.latestIoEngineHash = some latestHash

/-- The request is a listing of the io-engine Pods of other revisions that found none. -/
def FindsNoneOutdated (latestHash : String) (entry : JobEntry) : Prop :=
  entry.call = .listPods (yetToUpgradeSelector latestHash) ∧ entry.verdict = .served ∧
    entry.seen.podsMatching (yetToUpgradeSelector latestHash) = []

/-- An event or the entry into the data plane, which nobody outside the job sees as a request. -/
def Call.isRecord : Call → Bool
  | .publish _ | .enterDataPlane _ => true
  | _ => false

/-- The last request of the trace found every io-engine Pod at the newest revision. -/
def EndsUpToDate (trace : List JobEntry) : Prop :=
  ∃ latestHash before listing records, trace = before ++ listing :: records ∧
    KnowsLatest latestHash before ∧ FindsNoneOutdated latestHash listing ∧
      ∀ entry ∈ records, entry.call.isRecord = true

section Success

variable {latestHash : String} {channelOpen : Bool} {args : CliArgs}

theorem KnowsLatest.append {trace since : List JobEntry} (h : KnowsLatest latestHash trace) :
    KnowsLatest latestHash (trace ++ since) := by
  obtain ⟨entry, hentry, hlatest⟩ := h
  exact ⟨entry, List.mem_append_left _ hentry, hlatest⟩

theorem EndsUpToDate.concat {trace : List JobEntry} {entry : JobEntry} (h : EndsUpToDate trace)
    (hentry : entry.call.isRecord = true) : EndsUpToDate (trace ++ [entry]) := by
  obtain ⟨latestHash, before, listing, records, rfl, hknows, hnone, hrecords⟩ := h
  refine ⟨latestHash, before, listing, records ++ [entry], by simp, hknows, hnone, ?_⟩
  intro other hother
  rcases List.mem_append.mp hother with hold | hnew
  · exact hrecords other hold
  · obtain rfl := List.mem_singleton.mp hnew
    exact hentry

theorem latestControllerRevisionHash_knows (namespace_ : String) :
    Triple anyTick (fun _ _ ↦ True) (latestControllerRevisionHash namespace_)
      (fun latestHash _ ↦ KnowsLatest latestHash) fun _ _ ↦ True := by
  refine Triple.bind _ Triple.query_last fun revisions ↦ ?_
  cases hlatest : latestRevision revisions with
  | none => exact Triple.fail fun _ _ _ ↦ trivial
  | some latest =>
    cases hhash : latest.revisionHash with
    | none => simpa only [hhash] using Triple.fail fun _ _ _ ↦ trivial
    | some hash =>
      simp only [hhash]
      refine Triple.pure ?_
      rintro _ _ ⟨earlier, entry, rfl, -, hcall, hverdict, rfl⟩
      refine ⟨entry, List.mem_append_right _ List.mem_cons_self, hcall, hverdict, ?_⟩
      rw [Cluster.latestIoEngineHash, hlatest, Option.bind_some, hhash]

theorem prepareDataPlane_knows (sourceVersion : Version) (finalValues : CoreValues) :
    Triple anyTick (fun _ _ ↦ True) (prepareDataPlane args sourceVersion finalValues)
      (fun found _ trace ↦ KnowsLatest found.1 trace ∧ (found.2 = [] → EndsUpToDate trace))
      fun _ _ ↦ True := by
  refine Triple.bind _ (Triple.unspecified fun _ ↦ trivial) fun _ ↦ ?_
  refine Triple.bind _ (latestControllerRevisionHash_knows args.namespace_) fun latestHash ↦ ?_
  refine Triple.bind _ Triple.query_last fun pods ↦ Triple.pure ?_
  rintro _ _ ⟨earlier, listing, rfl, hknows, hcall, hverdict, hpods⟩
  refine ⟨hknows.append, fun hempty ↦ ?_⟩
  refine ⟨latestHash, earlier, listing, [], rfl, hknows, ⟨hcall, hverdict, ?_⟩, ?_⟩
  · exact hpods.symm.trans hempty
  · exact fun entry hentry ↦ absurd hentry List.not_mem_nil

/-- The rolling loop ends with a listing that found nothing left to restart. -/
theorem rollDataPlane_ends (dataPlaneArgs : DataPlaneArgs) :
    Triple anyTick (fun _ _ ↦ True) (rollDataPlane dataPlaneArgs)
      (fun _ _ trace ↦ ∃ earlier listing, trace = earlier ++ [listing] ∧
        Answers (.listPods dataPlaneArgs.yetToUpgradeIoEngineLabel)
          (fun cluster ↦ cluster.podsMatching dataPlaneArgs.yetToUpgradeIoEngineLabel) [] listing)
      fun _ _ ↦ True := by
  refine Triple.loop (fun _ _ _ ↦ True) (fun _ _ h ↦ h) ?_ fun _ _ _ h ↦ h
  intro _
  refine Triple.bind _ Triple.query_last fun podList ↦ ?_
  split
  next hempty =>
    refine Triple.pure ?_
    rintro _ _ ⟨earlier, listing, rfl, -, hlisting⟩
    rw [List.isEmpty_iff.mp hempty] at hlisting
    exact ⟨earlier, listing, rfl, hlisting⟩
  next =>
    exact Triple.bind _ (Triple.unspecified fun _ ↦ trivial) fun _ ↦ Triple.pure fun _ _ h ↦ h

/-- A data-plane upgrade that returns leaves no Pod of another revision than the newest. -/
theorem upgradeDataPlane_endsUpToDate {dataPlaneArgs : DataPlaneArgs}
    (hlabel : dataPlaneArgs.yetToUpgradeIoEngineLabel = yetToUpgradeSelector latestHash) :
    Triple anyTick (fun _ trace ↦ KnowsLatest latestHash trace ∧
        (dataPlaneArgs.yetToUpgradeIoEnginePods = [] → EndsUpToDate trace))
      (upgradeDataPlane dataPlaneArgs) (fun _ _ ↦ EndsUpToDate) fun _ _ ↦ True := by
  have hknows : Keeps anyTick (fun _ ↦ KnowsLatest latestHash) (rollDataPlane dataPlaneArgs) := by
    refine Keeps.loop fun _ ↦ Keeps.bind (listPods_keeps fun _ _ _ _ _ h ↦ h.append) ?_
    intro podList
    refine Keeps.ite Keeps.pure (Keeps.bind (Keeps.forEach fun pod ↦ ?_) fun _ ↦ Keeps.pure)
    exact upgradeDataPlanePod_appends.keeps (fun _ ↦ trivial) fun _ _ h ↦ h.append
  unfold upgradeDataPlane
  split
  next hempty => exact Triple.pure fun _ _ h ↦ h.2 (List.isEmpty_iff.mp hempty)
  next =>
    have hprepare : ∀ {α : Type} {program : Job α}, Appends program →
        Triple anyTick (fun _ ↦ KnowsLatest latestHash) program
          (fun _ _ ↦ KnowsLatest latestHash) fun _ _ ↦ True := fun happends ↦
      (happends.keeps (fun _ ↦ trivial) fun _ _ h ↦ h.append).returning
    refine Triple.bind _ ((hprepare Appends.ofExcept).weaken (fun _ _ h ↦ h.1) (fun _ _ _ h ↦ h)
      fun _ _ h ↦ h) fun _ ↦ ?_
    refine Triple.bind _ (hprepare Appends.query) fun storageNodes ↦ ?_
    refine Triple.bind _ (hprepare (Appends.forEach fun _ ↦ uncordonDrainedStorageNode_appends))
      fun _ ↦ ?_
    refine (hknows.and (rollDataPlane_ends dataPlaneArgs)).weaken (fun _ _ h ↦ ⟨h, trivial⟩) ?_
      fun _ _ _ ↦ trivial
    rintro _ _ _ ⟨⟨entry, hentry, hrevisions⟩, earlier, listing, rfl, hcall, hverdict, hnone⟩
    rw [hlabel] at hcall hnone
    rcases List.mem_append.mp hentry with hold | hnew
    · refine ⟨latestHash, earlier, listing, [], rfl, ⟨entry, hold, hrevisions⟩,
        ⟨hcall, hverdict, hnone.symm⟩, ?_⟩
      exact fun other hother ↦ absurd hother List.not_mem_nil
    · obtain rfl := List.mem_singleton.mp hnew
      rw [hcall] at hrevisions
      cases hrevisions.1

theorem endsUpToDate_unmoved (event : Event) :
    Unmoved anyTick (fun _ ↦ EndsUpToDate) (.publish event) :=
  fun _ _ _ _ _ h ↦ h.concat rfl

/-- The events of the data plane come behind the listing. -/
theorem restartDataPlane_endsUpToDate {versions : EventVersions} {finalValues : CoreValues}
    {pods : List Pod} :
    Triple anyTick (fun _ trace ↦ KnowsLatest latestHash trace ∧ (pods = [] → EndsUpToDate trace))
      (restartDataPlane channelOpen args versions finalValues latestHash pods)
      (fun _ _ ↦ EndsUpToDate) fun _ _ ↦ True := by
  have hevent : ∀ event, Unmoved anyTick (fun _ trace ↦ KnowsLatest latestHash trace ∧
      (pods = [] → EndsUpToDate trace)) (.publish event) :=
    fun event _ _ _ _ _ h ↦ ⟨h.1.append, fun hempty ↦ (h.2 hempty).concat rfl⟩
  refine Triple.bind _ (publish_keeps (hevent _)).returning fun _ ↦ ?_
  refine Triple.bind (fun _ _ trace ↦ KnowsLatest latestHash trace ∧
    (pods = [] → EndsUpToDate trace)) (Triple.record ?_) fun _ ↦ ?_
  · exact fun _ _ h ↦ ⟨h.1.append, fun hempty ↦ (h.2 hempty).concat rfl⟩
  have hspec := @upgradeDataPlane_endsUpToDate latestHash
    { namespace_ := args.namespace_, restClient := args.restClient,
      latestIoEngineCtrlRevHash := latestHash, haIsEnabled := finalValues.agents.haEnabled,
      yetToUpgradeIoEngineLabel := yetToUpgradeSelector latestHash,
      yetToUpgradeIoEnginePods := pods } rfl
  refine Triple.bind _ (reporting_spec hspec fun _ _ _ _ _ _ _ ↦ trivial) fun _ ↦ ?_
  exact (publish_keeps (endsUpToDate_unmoved _)).returning

theorem upgradeProduct_endsUpToDate (hskip : args.skipDataPlaneRestart = false) :
    Triple anyTick (fun _ _ ↦ True) (upgradeProduct channelOpen args) (fun _ _ ↦ EndsUpToDate)
      fun _ _ ↦ True := by
  refine Triple.bind _ (Triple.unspecified fun _ ↦ trivial) fun upgrader ↦ ?_
  refine Triple.bind _ (Triple.unspecified fun _ ↦ trivial) fun finalValues ↦ ?_
  refine Triple.bind (fun _ _ ↦ EndsUpToDate) ?_ fun _ ↦
    (publish_keeps (endsUpToDate_unmoved _)).returning
  unfold dataPlaneStage
  rw [hskip]
  exact Triple.bind _ (prepareDataPlane_knows upgrader.sourceVersion finalValues) fun found ↦
    restartDataPlane_endsUpToDate

end Success

/-- An attempt that returns has the release at the chart of the job and, unless the restart of the
data plane is skipped, has made as its last request a listing that found every io-engine Pod at the
newest revision it had looked up. -/
theorem upgradeProduct_complete {channelOpen : Bool} {args : CliArgs} {cluster : Cluster}
    {schedule : List (Tick Move)} {m : Machine Cluster Move Call}
    (h : upgradeProduct channelOpen args ⟨cluster, schedule, []⟩ = (.ok (), m)) :
    AtTarget args m.state ∧ (args.skipDataPlaneRestart = false → EndsUpToDate m.trace) := by
  have hupgraded := (@upgradeProduct_upgraded args cluster channelOpen).apply_ok h
    (fun _ _ ↦ trivial) (looking_fresh args cluster)
  refine ⟨hupgraded.2, fun hskip ↦ ?_⟩
  exact (upgradeProduct_endsUpToDate hskip).apply_ok h (fun _ _ ↦ trivial) trivial

/-- The node is drained, and the Pod is replaced once it is deleted. -/
def replacedSchedule : List (Tick Move) :=
  undisturbed 19 ++
    [⟨[.completeDrain "n1"], .served⟩, ⟨[], .served⟩,
      ⟨[.setPods [ioEnginePod "io-engine-2" "n1" "new" (some ⟨some [⟨"Ready", "True"⟩]⟩)]],
        .served⟩] ++
      undisturbed 4

theorem upgradeProduct_complete_replaced :
    ∃ m, upgradeProduct true upgradeArgs ⟨installedCluster "2.1.0", replacedSchedule, []⟩ =
        (.ok (), m) ∧
      Call.deletePod "io-engine-1" "n1" ∈ m.trace.map Entry.call ∧
        AtTarget upgradeArgs m.state ∧ EndsUpToDate m.trace := by
  have hok : (upgradeProduct true upgradeArgs
      ⟨installedCluster "2.1.0", replacedSchedule, []⟩).1 = .ok () := by
    decide +kernel
  have hdeletes : Call.deletePod "io-engine-1" "n1" ∈ (upgradeProduct true upgradeArgs
      ⟨installedCluster "2.1.0", replacedSchedule, []⟩).2.trace.map Entry.call := by
    decide +kernel
  cases hrun : upgradeProduct true upgradeArgs
      ⟨installedCluster "2.1.0", replacedSchedule, []⟩ with
  | mk result m =>
    rw [hrun] at hok hdeletes
    obtain rfl : result = _ := hok
    obtain ⟨htarget, hends⟩ := upgradeProduct_complete hrun
    exact ⟨m, rfl, hdeletes, htarget, hends rfl⟩

end MayastorExtensions.UpgradeJob
