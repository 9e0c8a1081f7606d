import MayastorExtensions.UpgradeJob.Product

/-!
# Which failures of an attempt are reported

The plugin shows the latest event, so an attempt that fails should end with an event that says so.
The stages that publish their errors are put together by one rule each; the building of the helm
upgrader and the steps between the two planes send no events at all, so that their errors leave the
last event as it was.  An attempt is therefore reported exactly when it does not fail in one of the
two.
-/

namespace MayastorExtensions.UpgradeJob

open Scheduled Semver Yaml

/-! ## The last event -/

/-- The event that a call sends. -/
def Call.event : Call → Option Event
  | .publish event => some event
  | _ => none

/-- The last event of a trace. -/
def lastEvent (trace : List JobEntry) : Option Event :=
  (trace.filterMap fun entry ↦ entry.call.event).getLast?

/-- The last event says that the upgrade has failed. -/
def ReportsFailure (trace : List JobEntry) : Prop :=
  ∃ event, lastEvent trace = some event ∧
    (event.action = EventAction.failed.toString ∨
      event.action = EventAction.validationFailed.toString)

theorem lastEvent_concat_publish (trace : List JobEntry) (entry : JobEntry) {event : Event}
    (h : entry.call.event = some event) : lastEvent (trace ++ [entry]) = some event := by
  simp [lastEvent, h]

theorem lastEvent_concat_other (trace : List JobEntry) (entry : JobEntry)
    (h : entry.call.event = none) : lastEvent (trace ++ [entry]) = lastEvent trace := by
  simp [lastEvent, h]

/-! ## Stages that report their errors -/

/-- With the channel open, a program that returns an error has reported it. -/
def Reports {α : Type} (program : Job α) : Prop :=
  ∀ m error m', program m = (.error (.failed error), m') → ReportsFailure m'.trace

theorem Reports.bind {α β : Type} {program : Job α} {next : α → Job β} (h : Reports program)
    (hnext : ∀ value, Reports (next value)) : Reports (program >>= next) := by
  intro m error m' hrun
  cases hprogram : program m with
  | mk result m₁ =>
    cases result with
    | ok value =>
      rw [Program.bind_of_ok hprogram] at hrun
      exact hnext value m₁ error m' hrun
    | error stop =>
      rw [Program.bind_of_error hprogram] at hrun
      cases hrun
      exact h m error m' hprogram

theorem Reports.pure {α : Type} (value : α) : Reports (pure value : Job α) := by
  intro m error m' hrun
  cases hrun

theorem Reports.publish (event : Event) : Reports (publish true event) := by
  intro m error m' hrun
  cases hrun

theorem Reports.record (call : Call) : Reports (Program.record call : Job Unit) := by
  intro m error m' hrun
  cases hrun

/-- The error of a reporting step is the last event. -/
theorem Reports.reporting {α : Type} {versions : EventVersions} {validationError : Bool}
    {step : Job α} : Reports (reporting true versions validationError step) := by
  intro m error m' hrun
  rw [UpgradeJob.reporting, Program.bind_apply, Program.attempt] at hrun
  cases hstep : step m with
  | mk result m₁ =>
    rw [hstep] at hrun
    cases result with
    | ok value => cases hrun
    | error stop =>
      cases stop with
      | crashed => cases hrun
      | failed error' =>
        cases hrun
        refine ⟨_, lastEvent_concat_publish m₁.trace _ rfl, ?_⟩
        cases validationError
        · exact .inl rfl
        · exact .inr rfl

theorem upgradeControlPlane_reports (args : CliArgs) (upgrader : HelmUpgrader) :
    Reports (upgradeControlPlane true args upgrader) := by
  apply Reports.bind Reports.reporting
  intro runHelmUpgrade
  apply Reports.bind (Reports.publish _)
  intro _
  apply Reports.bind (Reports.publish _)
  intro _
  apply Reports.bind Reports.reporting
  intro finalValues
  apply Reports.bind (Reports.publish _)
  intro _
  exact Reports.pure finalValues

theorem restartDataPlane_reports (args : CliArgs) (versions : EventVersions)
    (finalValues : CoreValues) (latestHash : String) (pods : List Pod) :
    Reports (restartDataPlane true args versions finalValues latestHash pods) := by
  apply Reports.bind (Reports.publish _)
  intro _
  apply Reports.bind (Reports.record _)
  intro _
  apply Reports.bind Reports.reporting
  intro _
  exact Reports.publish _

/-- The event that the control plane leaves behind is not a failure. -/
theorem upgradeControlPlane_lastEvent {args : CliArgs} {upgrader : HelmUpgrader}
    {m m' : Machine Cluster Move Call} {finalValues : CoreValues}
    (h : upgradeControlPlane true args upgrader m = (.ok finalValues, m')) :
    ∃ event, lastEvent m'.trace = some event ∧ event.action = EventAction.upgradedCP.toString := by
  obtain ⟨runHelmUpgrade, m₁, -, h⟩ := Program.bind_eq_ok h
  obtain ⟨_, m₂, -, h⟩ := Program.bind_eq_ok h
  obtain ⟨_, m₃, -, h⟩ := Program.bind_eq_ok h
  obtain ⟨values, m₄, -, h⟩ := Program.bind_eq_ok h
  cases h
  exact ⟨_, lastEvent_concat_publish m₄.trace _ rfl, rfl⟩

/-! ## Stages that send no events -/

section Silent

variable {last : Option Event}

/-- A program that leaves the last event as it is. -/
def Silent {α : Type} (last : Option Event) (program : Job α) : Prop :=
  Keeps anyTick (fun _ trace ↦ lastEvent trace = last) program

theorem silent_unmoved {call : Call} (h : call.event = none) :
    Unmoved anyTick (fun (_ : Cluster) trace ↦ lastEvent trace = last) call := by
  intro state trace moves verdict _ hlast
  rw [lastEvent_concat_other trace _ h]
  exact hlast

theorem releaseInfo_silent (namespace_ releaseName : String) :
    Silent last (releaseInfo namespace_ releaseName) := by
  apply Keeps.bind (Keeps.query (silent_unmoved rfl))
  intro releases
  exact Keeps.ofExcept

theorem generateUpgradeValues_silent {input : ValuesInput} {sourceTree targetTree : Tree} :
    Silent last (generateUpgradeValues input sourceTree targetTree) := by
  apply Keeps.bind (Keeps.query (silent_unmoved rfl))
  intro _
  apply Keeps.bind Keeps.ofExcept
  intro merged
  apply Keeps.bind (Keeps.query (silent_unmoved rfl))
  intro crds
  exact Keeps.ofExcept

theorem buildCore_silent {outside : Outside} {builder : HelmUpgraderBuilder} {chartDir : ChartDir}
    {chart : Chart} {sourceVersion : Version} {sourceTree : Tree} :
    Silent last (builder.buildCore outside chartDir chart sourceVersion sourceTree) := by
  apply Keeps.bind Keeps.ofExcept
  intro _
  apply Keeps.bind Keeps.ofExcept
  intro target
  apply Keeps.bind Keeps.ofExcept
  intro source
  apply Keeps.bind generateUpgradeValues_silent
  intro upgradeValues
  exact Keeps.pure

theorem buildUpgrader_silent (args : CliArgs) : Silent last args.buildUpgrader := by
  apply Keeps.bind Keeps.ofExcept
  intro releaseName
  apply Keeps.bind Keeps.ofExcept
  intro namespace_
  apply Keeps.bind Keeps.ofExcept
  intro chartDir
  apply Keeps.bind (releaseInfo_silent namespace_ releaseName)
  intro release
  apply Keeps.bind Keeps.ofExcept
  intro sourceVersion
  apply Keeps.bind (Keeps.query (silent_unmoved rfl))
  intro sourceTree
  apply Keeps.bind Keeps.ofExcept
  intro chart
  exact Keeps.ite (Keeps.ite Keeps.pure Keeps.fail)
    (Keeps.ite buildCore_silent Keeps.fail)

theorem prepareDataPlane_silent (args : CliArgs) (sourceVersion : Version)
    (finalValues : CoreValues) : Silent last (prepareDataPlane args sourceVersion finalValues) := by
  apply Keeps.bind Keeps.ofExcept
  intro _
  apply Keeps.bind (latestControllerRevisionHash_keeps (silent_unmoved rfl))
  intro latestHash
  apply Keeps.bind (listPods_keeps (silent_unmoved rfl))
  intro pods
  exact Keeps.pure

/-- Whatever a silent program returns, the last event is the one from before. -/
theorem Silent.lastEvent_eq {α : Type} {program : Job α} {m : Machine Cluster Move Call}
    (h : Silent (lastEvent m.trace) program) :
    lastEvent (program m).2.trace = lastEvent m.trace := by
  unfold Silent Keeps at h
  exact h.apply_any (fun _ _ ↦ trivial) rfl

end Silent

/-! ## Reported attempts -/

/-- The attempt fails while the helm upgrader is built, or after the control plane has been
upgraded, in the partial-rebuild check, the lookup of the controller revision or the listing of the
Pods. -/
def FailsSilently (args : CliArgs) (m : Machine Cluster Move Call) : Prop :=
  (∃ error m', args.buildUpgrader m = (.error (.failed error), m')) ∨
    ∃ upgrader m₁ finalValues m₂ error m',
      args.buildUpgrader m = (.ok upgrader, m₁) ∧
      upgradeControlPlane true args upgrader m₁ = (.ok finalValues, m₂) ∧
      args.skipDataPlaneRestart = false ∧
      prepareDataPlane args upgrader.sourceVersion finalValues m₂ = (.error (.failed error), m')

/-- A silent failure is one whose last event, if there is one, is not a failure. -/
theorem FailsSilently.exists_unreported {args : CliArgs} {cluster : Cluster}
    {schedule : List (Tick Move)} (h : FailsSilently args ⟨cluster, schedule, []⟩) :
    ∃ error m', upgradeProduct true args ⟨cluster, schedule, []⟩ = (.error (.failed error), m') ∧
      ¬ReportsFailure m'.trace := by
  rcases h with ⟨error, m', hbuild⟩ | ⟨upgrader, m₁, finalValues, m₂, error, m', hbuild, hcontrol,
    hskip, hprepare⟩
  · refine ⟨error, m', Program.bind_of_error hbuild, ?_⟩
    have hlast := (buildUpgrader_silent args).lastEvent_eq (m := ⟨cluster, schedule, []⟩)
    rw [hbuild] at hlast
    rintro ⟨event, hevent, -⟩
    rw [hlast] at hevent
    cases hevent
  · have hstage : dataPlaneStage true args upgrader finalValues m₂ =
        (.error (.failed error), m') := by
      rw [dataPlaneStage, hskip]
      exact Program.bind_of_error hprepare
    refine ⟨error, m', ?_, ?_⟩
    · rw [upgradeProduct, Program.bind_of_ok hbuild, Program.bind_of_ok hcontrol,
        Program.bind_of_error hstage]
    · obtain ⟨upgraded, hupgraded, haction⟩ := upgradeControlPlane_lastEvent hcontrol
      have hlast := (prepareDataPlane_silent args upgrader.sourceVersion finalValues).lastEvent_eq
        (m := m₂)
      rw [hprepare, hupgraded] at hlast
      rintro ⟨event, hevent, hfailure⟩
      obtain rfl := Option.some.inj (hlast.symm.trans hevent)
      rw [haction] at hfailure
      exact absurd hfailure (by decide)

/-- Beyond the silent steps every error of the data-plane stage is reported. -/
theorem dataPlaneStage_reports {args : CliArgs} {upgrader : HelmUpgrader}
    {finalValues : CoreValues} {m m' : Machine Cluster Move Call} {error : Error}
    (h : dataPlaneStage true args upgrader finalValues m = (.error (.failed error), m')) :
    ReportsFailure m'.trace ∨ args.skipDataPlaneRestart = false ∧
      prepareDataPlane args upgrader.sourceVersion finalValues m =
        (.error (.failed error), m') := by
  cases hskip : args.skipDataPlaneRestart with
  | true =>
    rw [dataPlaneStage, hskip] at h
    cases h
  | false =>
    rw [dataPlaneStage, hskip] at h
    cases hprepare : prepareDataPlane args upgrader.sourceVersion finalValues m with
    | mk result m₁ =>
      cases result with
      | error stop =>
        have hstop := Program.bind_of_error hprepare |>.symm.trans h
        cases hstop
        exact .inr ⟨rfl, rfl⟩
      | ok found =>
        have hrest := Program.bind_of_ok hprepare |>.symm.trans h
        exact .inl (restartDataPlane_reports _ _ _ _ _ m₁ error m' hrest)

/-- A failed attempt has reported its failure exactly when it did not fail silently. -/
theorem upgradeProduct_reports_iff (args : CliArgs) (cluster : Cluster)
    (schedule : List (Tick Move)) :
    (∀ error m', upgradeProduct true args ⟨cluster, schedule, []⟩ = (.error (.failed error), m') →
        ReportsFailure m'.trace) ↔
      ¬FailsSilently args ⟨cluster, schedule, []⟩ := by
  constructor
  · intro hreports hsilent
    obtain ⟨error, m', hrun, hunreported⟩ := hsilent.exists_unreported
    exact hunreported (hreports error m' hrun)
  · intro hsilent error m' hrun
    cases hbuild : args.buildUpgrader ⟨cluster, schedule, []⟩ with
    | mk result m₁ =>
      cases result with
      | error stop =>
        rw [upgradeProduct, Program.bind_of_error hbuild] at hrun
        cases hrun
        exact absurd (.inl ⟨error, m', hbuild⟩) hsilent
      | ok upgrader =>
        rw [upgradeProduct, Program.bind_of_ok hbuild] at hrun
        cases hcontrol : upgradeControlPlane true args upgrader m₁ with
        | mk result m₂ =>
          cases result with
          | error stop =>
            rw [Program.bind_of_error hcontrol] at hrun
            cases hrun
            exact upgradeControlPlane_reports args upgrader m₁ error m' hcontrol
          | ok finalValues =>
            rw [Program.bind_of_ok hcontrol] at hrun
            cases hstage : dataPlaneStage true args upgrader finalValues m₂ with
            | mk result m₃ =>
              cases result with
              | ok _ =>
                rw [Program.bind_of_ok hstage] at hrun
                cases hrun
              | error stop =>
                rw [Program.bind_of_error hstage] at hrun
                cases hrun
                rcases dataPlaneStage_reports hstage with hreported | ⟨hskip, hprepare⟩
                · exact hreported
                · exact absurd (.inr ⟨upgrader, m₁, finalValues, m₂, error, m', hbuild, hcontrol,
                    hskip, hprepare⟩) hsilent

/-- The partial-rebuild check stops the attempt, and the last event says that the control plane has
been upgraded. -/
theorem upgradeProduct_fails_unreported :
    ¬∀ (args : CliArgs) (cluster : Cluster) (schedule : List (Tick Move)) (error : Error)
      (m' : Machine Cluster Move Call),
      upgradeProduct true args ⟨cluster, schedule, []⟩ = (.error (.failed error), m') →
        ReportsFailure m'.trace := by
  intro hclaim
  have hstop : (upgradeProduct true upgradeArgs ⟨installedCluster "2.5.0", undisturbed 7, []⟩).1 =
      .error (.failed (.partialRebuildNotAllowed "mayastor" "2.2.0" "2.5.0")) := by
    decide +kernel
  have hlast : (lastEvent (upgradeProduct true upgradeArgs
      ⟨installedCluster "2.5.0", undisturbed 7, []⟩).2.trace).map Event.action =
        some EventAction.upgradedCP.toString := by
    decide +kernel
  cases hrun : upgradeProduct true upgradeArgs ⟨installedCluster "2.5.0", undisturbed 7, []⟩ with
  | mk result m' =>
    rw [hrun] at hstop hlast
    obtain rfl : result = _ := hstop
    obtain ⟨event, hevent, hfailure⟩ := hclaim _ _ _ _ m' hrun
    simp only [hevent, Option.map_some, Option.some.injEq] at hlast
    rw [hlast] at hfailure
    exact absurd hfailure (by decide)

end MayastorExtensions.UpgradeJob
