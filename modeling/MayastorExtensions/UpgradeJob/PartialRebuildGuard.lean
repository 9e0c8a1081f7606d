import MayastorExtensions.UpgradeJob.Product

/-!
# The partial-rebuild check across restarts

The check compares the version of the helm release, not that of the Pods.  The release moves on
with the helm upgrade while the io-engine Pods stay, so an attempt that starts after an earlier one
got past the helm upgrade compares the target with itself.  As long as no attempt finds Pods older
than the release, nothing enters the data-plane upgrade with partial rebuild enabled while an
io-engine Pod of an affected version is running.
-/

namespace MayastorExtensions.UpgradeJob

open Scheduled Semver Yaml

/-! ## Affected versions -/

/-- The chart has one of the versions that need partial rebuild to be disabled. -/
def chartInExtents (chart : String) : Bool :=
  match versionFromReleaseChart chart with
  | .ok version => partialRebuildDisableRequired version
  | .error _ => false

theorem chartInExtents_of_version {chart : String} {version : Version}
    (h : versionFromReleaseChart chart = .ok version) :
    chartInExtents chart = partialRebuildDisableRequired version := by
  simp [chartInExtents, h]

/-- No io-engine Pod runs an affected version. -/
def NoPodInExtents (cluster : Cluster) : Prop :=
  ∀ pod ∈ cluster.pods, pod.app = some .ioEngine → chartInExtents pod.chart = false

instance (cluster : Cluster) : Decidable (NoPodInExtents cluster) :=
  inferInstanceAs (Decidable (∀ pod ∈ cluster.pods, _))

/-- Neither the Pods nor the release, from which new Pods are started, have an affected version. -/
def Unaffected (cluster : Cluster) : Prop :=
  NoPodInExtents cluster ∧ chartInExtents cluster.release.chart = false

instance (cluster : Cluster) : Decidable (Unaffected cluster) :=
  inferInstanceAs (Decidable (_ ∧ _))

theorem startedFrom_unaffected {cluster : Cluster} (h : Unaffected cluster) {pod : Pod}
    (happ : pod.app = some .ioEngine) : chartInExtents (startedFrom cluster pod).chart = false := by
  unfold startedFrom
  split
  next old hold =>
    have hfound := List.find?_some hold
    simp only [decide_eq_true_eq] at hfound
    exact h.1 old (List.mem_of_find?_eq_some hold) (hfound.2.trans happ)
  next => exact h.2

theorem startedFrom_app (cluster : Cluster) (pod : Pod) :
    (startedFrom cluster pod).app = pod.app := by
  unfold startedFrom
  split <;> rfl

theorem move_unaffected (step : Move) {cluster : Cluster} (h : Unaffected cluster) :
    Unaffected (Interferes.move step cluster) := by
  cases step with
  | completeDrain node => exact h
  | setControllerRevisions revisions => exact h
  | setVolumes volumes => exact h
  | publish position target =>
    simp only [Interferes.move]
    split
    · exact h
    · exact h
  | setPods pods =>
    refine ⟨?_, h.2⟩
    intro pod hpod happ
    obtain ⟨given, -, rfl⟩ := List.mem_map.mp hpod
    rw [startedFrom_app] at happ
    exact startedFrom_unaffected h happ

theorem after_unaffected {moves : List Move} {cluster : Cluster} (h : Unaffected cluster) :
    Unaffected (after moves cluster) :=
  after_invariant Unaffected (fun step _ _ hcurrent ↦ move_unaffected step hcurrent) h

/-! ## The upgrade that an attempt carries out -/

def CliArgs.plan (args : CliArgs) (start : Cluster) : Except Error HelmUpgrader :=
  args.helmUpgraderBuilder.plan args.outside start

/-- The values that the run of an upgrader ends with. -/
def HelmUpgrader.finalValues (outside : Outside) (start : Cluster) :
    HelmUpgrader → Option CoreValues
  | .core upgrader =>
    if upgrader.alreadyUpgraded then some upgrader.sourceValues
    else CoreValues.decode outside.codec (upgrader.helmArgs upgrader.upgradeValues)
  | .umbrella _ _ => UmbrellaValues.decode outside.codec start.values

/-- The source version is the release's, and the core chart is the one in the chart directory. -/
theorem plan_spec {args : CliArgs} {start : Cluster} {upgrader : HelmUpgrader}
    (h : args.plan start = .ok upgrader) :
    versionFromReleaseChart start.release.chart = .ok upgrader.sourceVersion ∧
      ∀ core, upgrader = .core core → chartFromYamlFile args.coreChartDir = .ok core.chart := by
  obtain ⟨releaseName, hname, h⟩ := Outcome.bind_eq_ok h
  obtain ⟨namespace_, -, h⟩ := Outcome.bind_eq_ok h
  obtain ⟨chartDir, hdir, h⟩ := Outcome.bind_eq_ok h
  cases hdir
  obtain ⟨release, hrelease, h⟩ := Outcome.bind_eq_ok h
  obtain ⟨sourceVersion, hsource, h⟩ := Outcome.bind_eq_ok h
  obtain ⟨sourceTree, -, h⟩ := Outcome.bind_eq_ok h
  obtain ⟨chart, hchart, h⟩ := Outcome.bind_eq_ok h
  have hsame : release = start.release := by
    unfold findRelease at hrelease
    split at hrelease
    next found hfound =>
      cases hrelease
      exact List.mem_singleton.mp (List.mem_of_find?_eq_some hfound)
    next => cases hrelease
  subst hsame
  split_ifs at h
  · cases h
    refine ⟨hsource, ?_⟩
    intro core hcore
    cases hcore
  · obtain ⟨_, -, h⟩ := Outcome.bind_eq_ok h
    obtain ⟨target, -, h⟩ := Outcome.bind_eq_ok h
    obtain ⟨source, -, h⟩ := Outcome.bind_eq_ok h
    obtain ⟨upgradeValues, -, h⟩ := Outcome.bind_eq_ok h
    cases h
    refine ⟨hsource, ?_⟩
    intro core hcore
    cases hcore
    exact hchart

theorem parse_of_chartFromYamlFile {dir : ChartDir} {chart : Chart}
    (h : chartFromYamlFile dir = .ok chart) :
    Version.parse chart.versionText = some chart.version := by
  unfold chartFromYamlFile at h
  split at h
  next => cases h
  next tree _ =>
    split at h
    next => cases h
    next found hfound =>
      cases h
      simp only [Chart.decode, Option.bind_eq_bind, Option.bind_eq_some_iff,
        Option.some.injEq] at hfound
      obtain ⟨entries, -, name, -, versionText, -, version, hversion, rfl⟩ := hfound
      exact hversion

/-! ## What an attempt does with the toggle -/

/-- The data-plane upgrade may be entered with this value of the toggle: it is the one in the final
values, and the check has let it pass. -/
def Admitted (args : CliArgs) (start : Cluster) (partialRebuild : Bool) : Prop :=
  args.skipDataPlaneRestart = false ∧
    ∃ upgrader finalValues, args.plan start = .ok upgrader ∧
      upgrader.finalValues args.outside start = some finalValues ∧
      finalValues.agents.partialRebuildEnabled = partialRebuild ∧
      partialRebuildCheck upgrader.sourceVersion partialRebuild = .ok ()

/-- The chart of the job has an affected version. -/
def targetInExtents (args : CliArgs) : Bool :=
  match chartFromYamlFile args.coreChartDir with
  | .ok chart => partialRebuildDisableRequired chart.version
  | .error _ => false

/-- The attempt starts on an unaffected cluster and upgrades to an unaffected chart. -/
def UnaffectedStart (args : CliArgs) (start : Cluster) : Prop :=
  Unaffected start ∧ targetInExtents args = false

/-- Every entry so far was admitted, and what was unaffected at the start has stayed so. -/
def Watched (args : CliArgs) (start cluster : Cluster) (trace : List JobEntry) : Prop :=
  (UnaffectedStart args start → Unaffected cluster) ∧
    ∀ entry ∈ trace, ∀ partialRebuild, entry.call.entersDataPlane = some partialRebuild →
      Admitted args start partialRebuild ∧ (UnaffectedStart args start → Unaffected entry.seen)

section Watched

variable {args : CliArgs} {start : Cluster}

/-- Other requests than the entry change nothing about it. -/
theorem watched_unmoved {call : Call} (h : call.entersDataPlane = none) :
    Unmoved anyTick (Watched args start) call := by
  intro cluster trace moves verdict _ hwatched
  refine ⟨fun hstart ↦ after_unaffected (hwatched.1 hstart), ?_⟩
  intro entry hentry partialRebuild hcall
  rcases List.mem_append.mp hentry with hold | hnew
  · exact hwatched.2 entry hold partialRebuild hcall
  · obtain rfl := List.mem_singleton.mp hnew
    rw [h] at hcall
    cases hcall

/-- The same while the release is still that of the start. -/
theorem watched_sameRelease_unmoved {call : Call} (h : call.entersDataPlane = none) :
    Unmoved anyTick
      (fun cluster trace ↦ SameRelease start cluster ∧ Watched args start cluster trace) call :=
  fun cluster trace moves verdict hrely hwatched ↦
    ⟨after_sameRelease hwatched.1,
      watched_unmoved h cluster trace moves verdict hrely hwatched.2⟩

/-- The helm upgrade installs a chart that new Pods may be started from. -/
theorem install_watched {upgrader : CoreHelmUpgrader}
    (hplan : args.plan start = .ok (.core upgrader))
    {cluster : Cluster} {trace : List JobEntry} (h : Watched args start cluster trace) :
    Watched args start (upgrader.install cluster) trace := by
  refine ⟨?_, h.2⟩
  intro hstart
  refine ⟨(h.1 hstart).1, ?_⟩
  have hchart := (plan_spec hplan).2 upgrader rfl
  have hversion := versionFromReleaseChart_coreChart (parse_of_chartFromYamlFile hchart)
  have htarget : partialRebuildDisableRequired upgrader.chart.version = false := by
    simpa [targetInExtents, hchart] using hstart.2
  exact (chartInExtents_of_version hversion).trans htarget

theorem buildUpgrader_watched :
    Triple anyTick
      (fun cluster trace ↦ SameRelease start cluster ∧ Watched args start cluster trace)
      args.buildUpgrader
      (fun upgrader cluster trace ↦ args.plan start = .ok upgrader ∧
        SameRelease start cluster ∧ Watched args start cluster trace)
      (Watched args start) :=
  (build_computes (fun _ h ↦ watched_sameRelease_unmoved h) (fun _ _ h ↦ h.1) args.outside
    args.helmUpgraderBuilder).weaken (fun _ _ h ↦ h) (fun _ _ _ h ↦ h) fun _ _ h ↦ h.2

/-- The dry run only looks, and returns the run of the upgrader. -/
theorem dryRun_watched (upgrader : HelmUpgrader) :
    Triple anyTick
      (fun cluster trace ↦ SameRelease start cluster ∧ Watched args start cluster trace)
      (upgrader.dryRun args.outside)
      (fun runHelmUpgrade cluster trace ↦ runHelmUpgrade = upgrader.run args.outside ∧
        SameRelease start cluster ∧ Watched args start cluster trace)
      (Watched args start) := by
  have hreturn : Triple anyTick
      (fun cluster trace ↦ SameRelease start cluster ∧ Watched args start cluster trace)
      (pure (upgrader.run args.outside) : Job (Job CoreValues))
      (fun runHelmUpgrade cluster trace ↦ runHelmUpgrade = upgrader.run args.outside ∧
        SameRelease start cluster ∧ Watched args start cluster trace)
      (Watched args start) := Triple.pure fun _ _ h ↦ ⟨rfl, h⟩
  cases upgrader with
  | umbrella sourceVersion targetVersion => exact hreturn
  | core upgrader =>
    unfold HelmUpgrader.dryRun
    dsimp only
    split
    · exact hreturn
    · have hdry : Keeps anyTick
          (fun cluster trace ↦ SameRelease start cluster ∧ Watched args start cluster trace)
          (upgrader.upgrade true) :=
        Keeps.request (watched_sameRelease_unmoved rfl) fun _ _ h ↦ h
      exact Triple.bind _ (hdry.weaken (fun _ _ h ↦ h) (fun _ _ _ h ↦ h) fun _ _ h ↦ h.2)
        fun _ ↦ hreturn

/-- Values that are read from a known tree. -/
theorem valuesFromSlice_watched {decode : Tree → Option CoreValues} {tree : Tree} :
    Triple anyTick
      (fun cluster trace ↦ cluster.values = tree ∧ Watched args start cluster trace)
      (do
        let finalValues ← getValuesAsYaml
        Program.ofExcept (valuesFromSlice decode finalValues) : Job CoreValues)
      (fun finalValues cluster trace ↦ decode tree = some finalValues ∧
        Watched args start cluster trace)
      (Watched args start) := by
  have hread : Unmoved anyTick (Watched args start) .helmGetValues := watched_unmoved rfl
  refine Triple.bind (fun found cluster trace ↦ found = tree ∧ Watched args start cluster trace)
    (Triple.query (fun _ _ h ↦ h.2) ?_ ?_) ?_
  · intro cluster trace moves hrely h
    have hvalues : (after moves cluster).values = cluster.values :=
      (after_sameRelease ⟨rfl, rfl, rfl⟩).2.1
    exact ⟨hvalues.trans h.1, hread cluster trace moves .served hrely h.2⟩
  · intro cluster trace moves verdict hrely h
    exact hread cluster trace moves verdict hrely h.2
  · intro found
    refine Triple.assume ?_
    rintro rfl
    refine Triple.ofExcept ?_ fun _ _ h ↦ h
    intro finalValues hfinal cluster trace h
    unfold valuesFromSlice at hfinal
    split at hfinal
    next => cases hfinal
    next values hvalues =>
      cases hfinal
      exact ⟨hvalues, h⟩

/-- The run of the upgrader ends with its final values. -/
theorem run_watched {upgrader : HelmUpgrader} (hplan : args.plan start = .ok upgrader) :
    Triple anyTick
      (fun cluster trace ↦ SameRelease start cluster ∧ Watched args start cluster trace)
      (upgrader.run args.outside)
      (fun finalValues cluster trace ↦
        upgrader.finalValues args.outside start = some finalValues ∧
          Watched args start cluster trace)
      (Watched args start) := by
  cases upgrader with
  | umbrella sourceVersion targetVersion =>
    exact valuesFromSlice_watched.weaken (fun _ _ h ↦ ⟨h.1.2.1, h.2⟩) (fun _ _ _ h ↦ h)
      fun _ _ h ↦ h
  | core upgrader =>
    unfold HelmUpgrader.run HelmUpgrader.finalValues
    dsimp only
    split
    · exact Triple.pure fun _ _ h ↦ ⟨rfl, h.2⟩
    · refine Triple.bind (fun _ cluster trace ↦
          cluster.values = upgrader.helmArgs upgrader.upgradeValues ∧
            Watched args start cluster trace) ?_ fun _ ↦ valuesFromSlice_watched
      have hupgrade : Unmoved anyTick (Watched args start) (.helmUpgrade false) :=
        watched_unmoved rfl
      refine Triple.request (fun _ _ h ↦ h.2) ?_ ?_ ?_
      · intro cluster trace moves hrely h
        exact ⟨rfl, install_watched hplan (hupgrade cluster trace moves .served hrely h.2)⟩
      · intro cluster trace moves hrely h
        exact hupgrade cluster trace moves .refused hrely h.2
      · intro cluster trace moves hrely h
        exact install_watched hplan (hupgrade cluster trace moves .lost hrely h.2)

theorem upgradeControlPlane_watched {channelOpen : Bool} {upgrader : HelmUpgrader}
    (hplan : args.plan start = .ok upgrader) :
    Triple anyTick
      (fun cluster trace ↦ SameRelease start cluster ∧ Watched args start cluster trace)
      (upgradeControlPlane channelOpen args upgrader)
      (fun finalValues cluster trace ↦
        upgrader.finalValues args.outside start = some finalValues ∧
          Watched args start cluster trace)
      (Watched args start) := by
  have hpublish : ∀ event, Unmoved anyTick (Watched args start) (.publish event) :=
    fun _ ↦ watched_unmoved rfl
  have hevent : ∀ event, Triple anyTick
      (fun cluster trace ↦ SameRelease start cluster ∧ Watched args start cluster trace)
      (publish channelOpen event)
      (fun _ cluster trace ↦ SameRelease start cluster ∧ Watched args start cluster trace)
      (Watched args start) := fun event ↦
    (publish_keeps (watched_sameRelease_unmoved rfl)).weaken (fun _ _ h ↦ h) (fun _ _ _ h ↦ h)
      fun _ _ h ↦ h.2
  refine Triple.bind _ (reporting_spec (dryRun_watched upgrader) hpublish) ?_
  intro runHelmUpgrade
  refine Triple.assume ?_
  rintro rfl
  refine Triple.bind _ (hevent _) fun _ ↦ Triple.bind _ (hevent _) fun _ ↦ ?_
  refine Triple.bind _ (reporting_spec (run_watched hplan) hpublish) ?_
  intro finalValues
  refine Triple.assume ?_
  intro hfinal
  refine Triple.bind _ (publish_keeps (hpublish _)) fun _ ↦ ?_
  exact Triple.pure fun _ _ h ↦ ⟨hfinal, h⟩

/-- Between the two planes the check is passed. -/
theorem prepareDataPlane_watched (sourceVersion : Version) (finalValues : CoreValues) :
    Triple anyTick (Watched args start) (prepareDataPlane args sourceVersion finalValues)
      (fun _ cluster trace ↦
        partialRebuildCheck sourceVersion finalValues.agents.partialRebuildEnabled = .ok () ∧
          Watched args start cluster trace)
      (Watched args start) := by
  refine Triple.bind (fun _ cluster trace ↦
    partialRebuildCheck sourceVersion finalValues.agents.partialRebuildEnabled = .ok () ∧
      Watched args start cluster trace)
    (Triple.ofExcept (fun _ hcheck _ _ h ↦ ⟨hcheck, h⟩) fun _ _ h ↦ h) ?_
  intro _
  refine Triple.assume ?_
  intro hcheck
  refine Triple.bind _ (latestControllerRevisionHash_keeps (watched_unmoved rfl))
    fun latestHash ↦ ?_
  refine Triple.bind _ (listPods_keeps (watched_unmoved rfl)) fun pods ↦ ?_
  exact Triple.pure fun _ _ h ↦ ⟨hcheck, h⟩

/-- Entering the data-plane upgrade with an admitted toggle. -/
theorem restartDataPlane_watched {channelOpen : Bool} {versions : EventVersions}
    {finalValues : CoreValues} {latestHash : String} {pods : List Pod}
    (h : Admitted args start finalValues.agents.partialRebuildEnabled) :
    Keeps anyTick (Watched args start)
      (restartDataPlane channelOpen args versions finalValues latestHash pods) := by
  have hpublish : ∀ event, Unmoved anyTick (Watched args start) (.publish event) :=
    fun _ ↦ watched_unmoved rfl
  apply Keeps.bind (publish_keeps (hpublish _))
  intro _
  refine Keeps.bind (Triple.record ?_) fun _ ↦ ?_
  · intro cluster trace hwatched
    refine ⟨hwatched.1, ?_⟩
    intro entry hentry partialRebuild hcall
    rcases List.mem_append.mp hentry with hold | hnew
    · exact hwatched.2 entry hold partialRebuild hcall
    · obtain rfl := List.mem_singleton.mp hnew
      cases hcall
      exact ⟨h, hwatched.1⟩
  · have hcall : ∀ call : Call, call.ofDataPlane = true →
        Unmoved anyTick (Watched args start) call := fun call h ↦
      watched_unmoved (Call.entersDataPlane_of_ofDataPlane h)
    refine Keeps.bind (reporting_spec (upgradeDataPlane_keeps hcall ?_) hpublish) fun _ ↦
      publish_keeps (hpublish _)
    intro node change cluster trace hwatched
    exact hwatched

/-- The data plane is entered with the toggle that the check has let pass. -/
theorem dataPlaneStage_watched {channelOpen : Bool} {upgrader : HelmUpgrader}
    {finalValues : CoreValues} (hplan : args.plan start = .ok upgrader)
    (hfinal : upgrader.finalValues args.outside start = some finalValues) :
    Keeps anyTick (Watched args start) (dataPlaneStage channelOpen args upgrader finalValues) := by
  unfold dataPlaneStage
  cases hskip : args.skipDataPlaneRestart with
  | true => exact Keeps.pure
  | false =>
    refine Triple.bind _ (prepareDataPlane_watched upgrader.sourceVersion finalValues) ?_
    intro found
    refine Triple.assume ?_
    intro hcheck
    exact restartDataPlane_watched ⟨hskip, upgrader, finalValues, hplan, hfinal, rfl, hcheck⟩

theorem upgradeProduct_watched {channelOpen : Bool} :
    Triple anyTick
      (fun cluster trace ↦ SameRelease start cluster ∧ Watched args start cluster trace)
      (upgradeProduct channelOpen args) (fun _ ↦ Watched args start) (Watched args start) := by
  refine Triple.bind _ buildUpgrader_watched ?_
  intro upgrader
  refine Triple.assume ?_
  intro hplan
  refine Triple.bind _ (upgradeControlPlane_watched hplan) ?_
  intro finalValues
  refine Triple.assume ?_
  intro hfinal
  refine Triple.bind _ (dataPlaneStage_watched hplan hfinal) fun _ ↦ ?_
  exact publish_keeps (watched_unmoved rfl)

end Watched

/-! ## Series of attempts -/

/-- The check sees what it is about: the restart is skipped, or the release itself has an affected
version, or nothing has one, or partial rebuild is disabled in the final values. -/
def CheckCovers (args : CliArgs) (start : Cluster) : Prop :=
  args.skipDataPlaneRestart = true ∨ chartInExtents start.release.chart = true ∨
    UnaffectedStart args start ∨
    ∀ upgrader finalValues, args.plan start = .ok upgrader →
      upgrader.finalValues args.outside start = some finalValues →
      finalValues.agents.partialRebuildEnabled = false

/-- An entry with partial rebuild enabled that the check covers. -/
theorem noPodInExtents_of_covers {args : CliArgs} {start cluster : Cluster} {trace : List JobEntry}
    (hcovers : CheckCovers args start) (hwatched : Watched args start cluster trace)
    {entry : JobEntry} (hentry : entry ∈ trace) (hcall : entry.call = .enterDataPlane true) :
    NoPodInExtents entry.seen := by
  have henters : entry.call.entersDataPlane = some true := by rw [hcall]; rfl
  obtain ⟨⟨hskip, upgrader, finalValues, hplan, hfinal, henabled, hcheck⟩, hseen⟩ :=
    hwatched.2 entry hentry true henters
  rcases hcovers with hskipped | hrelease | hstart | hdisabled
  · rw [hskip] at hskipped
    cases hskipped
  · -- The check compares the version of the release, so it has not passed.
    rw [chartInExtents_of_version (plan_spec hplan).1] at hrelease
    simp [partialRebuildCheck, hrelease] at hcheck
  · exact (hseen hstart).1
  · rw [hdisabled upgrader finalValues hplan hfinal] at henabled
    cases henabled

/-- In every series of attempts whose check covers what each of them finds, the data-plane upgrade
is never entered with partial rebuild enabled while an io-engine Pod runs an affected version. -/
theorem restarts_upgradeProduct_guarded {channelOpen : Bool} {starts : List (Start Move CliArgs)}
    {cluster : Cluster}
    (hcovers : ∀ run ∈ restarts (upgradeProduct channelOpen) starts cluster,
      CheckCovers run.input run.start) :
    ∀ run ∈ restarts (upgradeProduct channelOpen) starts cluster, ∀ entry ∈ run.final.trace,
      entry.call = .enterDataPlane true → NoPodInExtents entry.seen := by
  intro run hrun entry hentry hcall
  obtain ⟨start, -, -, hprogram⟩ := restarts_mem hrun
  have hstart : SameRelease run.start run.start ∧ Watched run.input run.start run.start [] := by
    refine ⟨⟨rfl, rfl, rfl⟩, fun h ↦ h.1, ?_⟩
    intro entry hentry
    cases hentry
  have hwatched := (@upgradeProduct_watched run.input run.start channelOpen).apply_any
    (m := ⟨run.start, start.schedule, []⟩) (fun _ _ ↦ trivial) hstart
  rw [hprogram] at hwatched
  exact noPodInExtents_of_covers (hcovers run hrun) hwatched hentry hcall

/-- The first attempt stops after the helm upgrade, the second restarts the data plane. -/
def interruptedStarts : List (Start Move CliArgs) :=
  [⟨[], upgradeArgs, undisturbed 7⟩, ⟨[], upgradeArgs, undisturbed 6⟩]

theorem restarts_upgradeProduct_guarded_twoDotOne :
    (∃ run ∈ restarts (upgradeProduct true) interruptedStarts (installedCluster "2.1.0"),
        ∃ entry ∈ run.final.trace, entry.call = .enterDataPlane true) ∧
      ∀ run ∈ restarts (upgradeProduct true) interruptedStarts (installedCluster "2.1.0"),
        ∀ entry ∈ run.final.trace, entry.call = .enterDataPlane true →
          NoPodInExtents entry.seen := by
  refine ⟨by decide +kernel, restarts_upgradeProduct_guarded ?_⟩
  have hunaffected : ∀ run ∈ restarts (upgradeProduct true) interruptedStarts
      (installedCluster "2.1.0"), Unaffected run.start ∧ targetInExtents run.input = false := by
    decide +kernel
  intro run hrun
  exact .inr (.inr (.inl (hunaffected run hrun)))

/-- An attempt that the check has stopped leaves the release at the target version; the next one
compares that and lets the old Pods through. -/
theorem restarts_upgradeProduct_unguarded :
    ¬∀ (starts : List (Start Move CliArgs)) (cluster : Cluster),
      (∀ run ∈ (restarts (upgradeProduct true) starts cluster).dropLast, run.result ≠ .ok ()) →
      ∀ run ∈ restarts (upgradeProduct true) starts cluster, ∀ entry ∈ run.final.trace,
        entry.call = .enterDataPlane true → NoPodInExtents entry.seen := by
  intro hclaim
  have hfailed : ∀ run ∈ (restarts (upgradeProduct true) interruptedStarts
      (installedCluster "2.5.0")).dropLast, run.result ≠ .ok () := by
    decide +kernel
  have hentered : ∃ run ∈ restarts (upgradeProduct true) interruptedStarts
      (installedCluster "2.5.0"), ∃ entry ∈ run.final.trace,
        entry.call = .enterDataPlane true ∧ ¬NoPodInExtents entry.seen := by
    decide +kernel
  obtain ⟨run, hrun, entry, hentry, hcall, hpod⟩ := hentered
  exact hpod (hclaim _ _ hfailed run hrun entry hentry hcall)

end MayastorExtensions.UpgradeJob
