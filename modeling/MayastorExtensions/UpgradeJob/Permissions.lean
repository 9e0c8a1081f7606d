import MayastorExtensions.Plugin.UpgradeRole
import MayastorExtensions.UpgradeJob.Attempts

/-!
# What the job is permitted to do

The requests that the job itself makes to the API server are answered under the account that the
plugin has made for it.  The role of that account covers all of them but one: it says nothing about
ControllerRevisions, which the job lists between the two planes to find out what the newest revision
of the io-engine is.  Where the role is enforced, an attempt gets no further than that.
-/

namespace MayastorExtensions.UpgradeJob

open Rbac Scheduled Semver Yaml

/-! ## Requests and grants -/

/-- What the API server is asked for.  The storage REST API asks nobody, the requests that helm
makes are its own, and events are created by the worker they are sent to. -/
def Call.attributes : Call → Option Attributes
  | .listCrds => some ⟨"list", "apiextensions.k8s.io", "customresourcedefinitions"⟩
  | .listControllerRevisions _ => some ⟨"list", "apps", "controllerrevisions"⟩
  | .listPods _ => some ⟨"list", "", "pods"⟩
  | .deletePod _ _ => some ⟨"delete", "", "pods"⟩
  | .listNodesMetadata => some ⟨"list", "", "nodes"⟩
  | .publish _ => some ⟨"create", "events.k8s.io", "events"⟩
  | .helmList | .helmGetValues | .helmUpgrade _ | .generateValues | .getNodes | .getNode _
  | .putNodeCordon _ _ | .deleteNodeCordon _ _ | .putNodeDrain _ _ | .getVolumes _
  | .enterDataPlane _ => none

/-- What the account of the job may do: what the role and the binding of its release grant, and
what anything else in the cluster does. -/
def granted (versionTag : Option String) (args : CliArgs) (kube : Plugin.Kube)
    (others : Attributes → Bool) (request : Attributes) : Bool :=
  (kube.grants versionTag args.namespace_ args.releaseName).authorizes
      (Plugin.jobAccount versionTag args.namespace_ args.releaseName) request ||
    others request

/-- The request needs something that is not granted. -/
def Call.Lacks (allowed : Attributes → Bool) (call : Call) : Prop :=
  ∃ request, call.attributes = some request ∧ allowed request = false

/-- The API server refuses what is not granted. -/
def Enforced (allowed : Attributes → Bool) (entry : JobEntry) : Prop :=
  entry.call.Lacks allowed → entry.verdict = .refused

section Grants

variable {versionTag : Option String} {args : CliArgs} {kube : Plugin.Kube}
  {others : Attributes → Bool}

/-- With the role and the binding in place, the rules of the role decide. -/
theorem granted_eq (hkube : Plugin.ObjectsPresent (kube.has versionTag args.releaseName))
    (request : Attributes) :
    granted versionTag args kube others request =
      ((Plugin.upgradeJobClusterRole "").allows request || others request) := by
  rw [granted, Plugin.Kube.grants, if_pos (hkube .clusterRole), if_pos (hkube .clusterRoleBinding),
    Plugin.authorizes_jobAccount]
  rfl

/-- The rules cover every request but the listing of ControllerRevisions. -/
theorem allows_of_attributes {call : Call} {request : Attributes}
    (hcall : call.attributes = some request) :
    (Plugin.upgradeJobClusterRole "").allows request = true ∨
      ∃ app, call = .listControllerRevisions app := by
  cases call <;> simp only [Call.attributes, Option.some.injEq, reduceCtorEq] at hcall
  case listControllerRevisions app => exact .inr ⟨app, rfl⟩
  all_goals
    subst hcall
    exact .inl (by decide)

/-- What is lacking is the listing of ControllerRevisions, if anything is. -/
theorem lacks_iff (hkube : Plugin.ObjectsPresent (kube.has versionTag args.releaseName))
    (hothers : others ⟨"list", "apps", "controllerrevisions"⟩ = false) {call : Call} :
    call.Lacks (granted versionTag args kube others) ↔
      ∃ app, call = .listControllerRevisions app := by
  constructor
  · rintro ⟨request, hcall, hlacks⟩
    rw [granted_eq hkube, Bool.or_eq_false_iff] at hlacks
    refine (allows_of_attributes hcall).resolve_left ?_
    rw [hlacks.1]
    exact Bool.false_ne_true
  · rintro ⟨app, rfl⟩
    refine ⟨_, rfl, ?_⟩
    rw [granted_eq hkube, hothers]
    decide

end Grants

/-! ## Up to the listing of ControllerRevisions -/

/-- The requests of the control-plane stage, and the events. -/
def Call.ofControlPlane : Call → Bool
  | .helmList | .helmGetValues | .helmUpgrade _ | .generateValues | .listCrds | .publish _ => true
  | _ => false

/-- Nothing was asked for beyond the control plane. -/
def ControlPlaneOnly (trace : List JobEntry) : Prop :=
  ∀ entry ∈ trace, entry.call.ofControlPlane = true

/-- The trace ends with the listing of ControllerRevisions, made with the release at the chart of
the job. -/
def EndsAtListing (args : CliArgs) (trace : List JobEntry) : Prop :=
  ∃ earlier listing, trace = earlier ++ [listing] ∧ ControlPlaneOnly earlier ∧
    listing.call = .listControllerRevisions .ioEngine ∧ AtTarget args listing.seen

/-- The ControllerRevisions were listed. -/
def RevisionsListed (trace : List JobEntry) : Prop :=
  ∃ entry ∈ trace, entry.call = .listControllerRevisions .ioEngine ∧ entry.verdict = .served

/-- How far an attempt that stops may have come. -/
def Halted (args : CliArgs) (trace : List JobEntry) : Prop :=
  ControlPlaneOnly trace ∨ EndsAtListing args trace ∨ RevisionsListed trace

section Listing

variable {args : CliArgs} {start : Cluster} {upgrader : HelmUpgrader} {channelOpen : Bool}

theorem RevisionsListed.append {trace since : List JobEntry} (h : RevisionsListed trace) :
    RevisionsListed (trace ++ since) := by
  obtain ⟨entry, hentry, hlisted⟩ := h
  exact ⟨entry, List.mem_append_left _ hentry, hlisted⟩

theorem revisionsListed_unmoved (call : Call) :
    Unmoved anyTick (fun _ ↦ RevisionsListed) call :=
  fun _ _ _ _ _ h ↦ h.append

theorem controlPlaneOnly_unmoved {call : Call} (hcall : call.ofControlPlane = true) :
    Unmoved anyTick (fun _ ↦ ControlPlaneOnly) call := by
  intro cluster trace moves verdict _ h entry hentry
  rcases List.mem_append.mp hentry with hold | hnew
  · exact h entry hold
  · obtain rfl := List.mem_singleton.mp hnew
    exact hcall

theorem buildUpgrader_controlPlaneOnly :
    Keeps anyTick (fun _ ↦ ControlPlaneOnly) args.buildUpgrader := by
  refine buildUpgrader_keeps fun call hcall ↦ controlPlaneOnly_unmoved ?_
  simp only [List.mem_cons, List.not_mem_nil, or_false] at hcall
  rcases hcall with rfl | rfl | rfl | rfl <;> rfl

theorem run_controlPlaneOnly :
    Keeps anyTick (fun _ ↦ ControlPlaneOnly) (upgrader.run args.outside) := by
  have hread : ∀ decode : Tree → Option CoreValues, Keeps anyTick (fun _ ↦ ControlPlaneOnly)
      (do
        let finalValues ← getValuesAsYaml
        Program.ofExcept (valuesFromSlice decode finalValues) : Job CoreValues) := fun decode ↦
    Keeps.bind (Keeps.query (controlPlaneOnly_unmoved rfl)) fun _ ↦ Keeps.ofExcept
  cases upgrader with
  | umbrella sourceVersion targetVersion => exact hread _
  | core core =>
    refine Keeps.ite Keeps.pure (Keeps.bind ?_ fun _ ↦ hread _)
    exact Keeps.request (controlPlaneOnly_unmoved rfl) fun _ _ h ↦ h

theorem dryRun_controlPlaneOnly :
    Triple anyTick (fun _ ↦ ControlPlaneOnly) (upgrader.dryRun args.outside)
      (fun runHelmUpgrade _ trace ↦ runHelmUpgrade = upgrader.run args.outside ∧
        ControlPlaneOnly trace)
      fun _ ↦ ControlPlaneOnly := by
  cases upgrader with
  | umbrella sourceVersion targetVersion => exact Triple.pure fun _ _ h ↦ ⟨rfl, h⟩
  | core core =>
    unfold HelmUpgrader.dryRun
    dsimp only
    split
    next => exact Triple.pure fun _ _ h ↦ ⟨rfl, h⟩
    next =>
      refine Triple.bind _ (Keeps.request (controlPlaneOnly_unmoved rfl) fun _ _ h ↦ h) fun _ ↦ ?_
      exact Triple.pure fun _ _ h ↦ ⟨rfl, h⟩

theorem upgradeControlPlane_controlPlaneOnly :
    Keeps anyTick (fun _ ↦ ControlPlaneOnly) (upgradeControlPlane channelOpen args upgrader) := by
  have hpublish : ∀ event, Unmoved anyTick (fun _ ↦ ControlPlaneOnly) (.publish event) :=
    fun _ ↦ controlPlaneOnly_unmoved rfl
  refine Triple.bind _ (reporting_spec dryRun_controlPlaneOnly hpublish) fun runHelmUpgrade ↦ ?_
  refine Triple.assume ?_
  rintro rfl
  refine Keeps.bind (publish_keeps (hpublish _)) fun _ ↦ ?_
  refine Keeps.bind (publish_keeps (hpublish _)) fun _ ↦ ?_
  refine Keeps.bind (reporting_spec run_controlPlaneOnly hpublish) fun finalValues ↦ ?_
  exact Keeps.bind (publish_keeps (hpublish _)) fun _ ↦ Keeps.pure

/-- The listing is served, or it is where the attempt ends. -/
theorem latestControllerRevisionHash_halted :
    Triple anyTick (fun cluster trace ↦ AtTarget args cluster ∧ ControlPlaneOnly trace)
      (latestControllerRevisionHash args.namespace_) (fun _ _ ↦ RevisionsListed)
      (fun _ ↦ Halted args) := by
  refine Triple.bind (fun _ _ ↦ RevisionsListed) (Triple.query (fun _ _ h ↦ .inl h.2) ?_ ?_)
    fun revisions ↦ ?_
  · intro cluster trace moves _ h
    exact ⟨_, List.mem_append_right _ List.mem_cons_self, rfl, rfl⟩
  · intro cluster trace moves verdict _ h
    exact .inr (.inl ⟨trace, _, rfl, h.2, rfl, after_atTarget.mpr h.1⟩)
  · cases latestRevision revisions with
    | none => exact Triple.fail fun _ _ h ↦ .inr (.inr h)
    | some latest =>
      cases hhash : latest.revisionHash with
      | none => simpa only [hhash] using Triple.fail fun _ _ h ↦ .inr (.inr h)
      | some hash =>
        simp only [hhash]
        exact Triple.pure fun _ _ h ↦ h

theorem restartDataPlane_revisionsListed {versions : EventVersions} {finalValues : CoreValues}
    {latestHash : String} {pods : List Pod} :
    Keeps anyTick (fun _ ↦ RevisionsListed)
      (restartDataPlane channelOpen args versions finalValues latestHash pods) := by
  have hpublish : ∀ event, Unmoved anyTick (fun _ ↦ RevisionsListed) (.publish event) :=
    fun _ ↦ revisionsListed_unmoved _
  refine Keeps.bind (publish_keeps (hpublish _)) fun _ ↦ ?_
  refine Triple.bind (fun _ _ ↦ RevisionsListed) (Triple.record fun _ _ h ↦ h.append) fun _ ↦ ?_
  refine Keeps.bind (reporting_spec ?_ hpublish) fun _ ↦ publish_keeps (hpublish _)
  exact upgradeDataPlane_keeps (fun call _ ↦ revisionsListed_unmoved call)
    fun _ _ _ _ h ↦ h

/-- The data plane is entered with the ControllerRevisions listed, unless it is skipped. -/
theorem dataPlaneStage_halted {finalValues : CoreValues} :
    Triple anyTick (fun cluster trace ↦ AtTarget args cluster ∧ ControlPlaneOnly trace)
      (dataPlaneStage channelOpen args upgrader finalValues)
      (fun _ _ trace ↦ (args.skipDataPlaneRestart = true ∧ ControlPlaneOnly trace) ∨
        RevisionsListed trace)
      (fun _ ↦ Halted args) := by
  unfold dataPlaneStage
  cases hskip : args.skipDataPlaneRestart with
  | true => exact Triple.pure fun _ _ h ↦ .inl ⟨rfl, h.2⟩
  | false =>
    have hpods : ∀ latestHash, Keeps anyTick (fun _ ↦ RevisionsListed)
        (do
          let pods ← listPods args.namespace_ (yetToUpgradeSelector latestHash)
          pure (latestHash, pods) : Job (String × List Pod)) := fun _ ↦
      Keeps.bind (listPods_keeps (revisionsListed_unmoved _)) fun _ ↦ Keeps.pure
    refine Triple.bind (fun _ _ ↦ RevisionsListed) ?_ fun found ↦
      restartDataPlane_revisionsListed.weaken (fun _ _ h ↦ h) (fun _ _ _ h ↦ .inr h)
        fun _ _ h ↦ .inr (.inr h)
    refine Triple.bind _ (Triple.ofExcept (fun _ _ _ _ h ↦ h) fun _ _ h ↦ .inl h.2) fun _ ↦ ?_
    refine Triple.bind _ latestControllerRevisionHash_halted fun latestHash ↦ ?_
    exact (hpods latestHash).weaken (fun _ _ h ↦ h) (fun _ _ _ h ↦ h) fun _ _ h ↦ .inr (.inr h)

theorem upgradeProduct_halted :
    Triple anyTick
      (fun cluster trace ↦ Looking args start cluster trace ∧ ControlPlaneOnly trace)
      (upgradeProduct channelOpen args)
      (fun _ _ trace ↦ (args.skipDataPlaneRestart = true ∧ ControlPlaneOnly trace) ∨
        RevisionsListed trace)
      (fun _ ↦ Halted args) := by
  refine Triple.bind (fun upgrader cluster trace ↦ args.plan start = .ok upgrader ∧
      Looking args start cluster trace ∧ ControlPlaneOnly trace)
    ((buildUpgrader_looking.and buildUpgrader_controlPlaneOnly).weaken (fun _ _ h ↦ h)
      (fun _ _ _ h ↦ ⟨h.1.1, h.1.2, h.2⟩) fun _ _ h ↦ .inl h.2) fun upgrader ↦ ?_
  refine Triple.assume fun hplan ↦ ?_
  refine Triple.bind (fun _ cluster trace ↦ AtTarget args cluster ∧ ControlPlaneOnly trace)
    (((upgradeControlPlane_upgraded hplan).and upgradeControlPlane_controlPlaneOnly).weaken
      (fun _ _ h ↦ h) (fun _ _ _ h ↦ ⟨h.1.2, h.2⟩) fun _ _ h ↦ .inl h.2) fun finalValues ↦ ?_
  refine Triple.bind _ dataPlaneStage_halted fun _ ↦ ?_
  have hevent : ∀ event, Unmoved anyTick (fun _ trace ↦
      (args.skipDataPlaneRestart = true ∧ ControlPlaneOnly trace) ∨ RevisionsListed trace)
      (.publish event) := by
    rintro event cluster trace moves verdict hrely (⟨hskip, honly⟩ | hlisted)
    · exact .inl ⟨hskip,
        controlPlaneOnly_unmoved rfl cluster trace moves verdict hrely honly⟩
    · exact .inr hlisted.append
  refine (publish_keeps (hevent _)).weaken (fun _ _ h ↦ h) (fun _ _ _ h ↦ h) ?_
  rintro _ _ (⟨-, honly⟩ | hlisted)
  · exact .inl honly
  · exact .inr (.inr hlisted)

end Listing

/-! ## Attempts under the role -/

/-- What an attempt has come to that stops without the revisions: its requests are those of the
control plane, and the last one may be the listing. -/
theorem Halted.at_entry {args : CliArgs} {trace before rest : List JobEntry} {entry : JobEntry}
    (h : Halted args trace) (hunlisted : ¬RevisionsListed trace)
    (hsplit : trace = before ++ entry :: rest) :
    entry.call.ofControlPlane = true ∨
      (entry.call = .listControllerRevisions .ioEngine ∧ AtTarget args entry.seen ∧
        rest = []) := by
  rcases h with honly | ⟨earlier, listing, htrace, honly, hcall, htarget⟩ | hlisted
  · refine .inl (honly entry ?_)
    rw [hsplit]
    exact List.mem_append_right _ List.mem_cons_self
  · rcases split_concat (htrace.symm.trans hsplit) with ⟨rfl, rfl⟩ | ⟨rest', -, hearlier⟩
    · refine .inr ⟨hcall, htarget, ?_⟩
      simpa using htrace.symm.trans hsplit
    · refine .inl (honly entry ?_)
      rw [hearlier]
      exact List.mem_append_right _ List.mem_cons_self
  · exact absurd hlisted hunlisted

/-- A served listing is none that the role was enforced on. -/
theorem not_revisionsListed {versionTag : Option String} {args : CliArgs} {kube : Plugin.Kube}
    {others : Attributes → Bool} {trace : List JobEntry}
    (hkube : Plugin.ObjectsPresent (kube.has versionTag args.releaseName))
    (hothers : others ⟨"list", "apps", "controllerrevisions"⟩ = false)
    (henforced : ∀ entry ∈ trace, Enforced (granted versionTag args kube others) entry) :
    ¬RevisionsListed trace := by
  rintro ⟨entry, hentry, hcall, hverdict⟩
  have hrefused := henforced entry hentry ((lacks_iff hkube hothers).mpr ⟨_, hcall⟩)
  rw [hverdict] at hrefused
  cases hrefused

/-- In every series of attempts whose requests are answered under the role that the plugin creates,
in a cluster that does not grant the listing of ControllerRevisions by other means: no attempt
enters the data-plane upgrade, changes a storage node or deletes a Pod, and none returns unless the
restart of the data plane is skipped.  The only request that the account is not granted is that
listing; it is made with the release already at the chart of the job, and the attempt ends with
it. -/
theorem attempts_end_at_listing {versionTag : Option String} {channelOpen : Bool} {args : CliArgs}
    {kube : Plugin.Kube} {others : Attributes → Bool} {cluster : Cluster}
    (hkube : Plugin.ObjectsPresent (kube.has versionTag args.releaseName))
    (hothers : others ⟨"list", "apps", "controllerrevisions"⟩ = false)
    (starts : List (Start Move Unit)) {run : Run Cluster Move Call Error Unit Unit}
    (hrun : run ∈ restarts (fun _ ↦ upgradeProduct channelOpen args) starts cluster)
    (henforced : ∀ entry ∈ run.final.trace,
      Enforced (granted versionTag args kube others) entry) :
    (∀ entry ∈ run.final.trace, entry.call.disturbs = false ∧ entry.call.entersDataPlane = none) ∧
      (run.result = .ok () → args.skipDataPlaneRestart = true) ∧
        ∀ before entry rest, run.final.trace = before ++ entry :: rest →
          entry.call.Lacks (granted versionTag args kube others) →
            entry.call = .listControllerRevisions .ioEngine ∧ AtTarget args entry.seen ∧
              rest = [] := by
  obtain ⟨start, -, -, hprogram⟩ := restarts_mem hrun
  have hunlisted := not_revisionsListed hkube hothers henforced
  have hfresh : Looking args run.start run.start [] ∧ ControlPlaneOnly [] :=
    ⟨looking_fresh args run.start, fun entry hentry ↦ absurd hentry List.not_mem_nil⟩
  have hspec := @upgradeProduct_halted args run.start channelOpen
  have hhalted : Halted args run.final.trace := by
    have hkeeps : Triple anyTick
        (fun cluster trace ↦ Looking args run.start cluster trace ∧ ControlPlaneOnly trace)
        (upgradeProduct channelOpen args) (fun _ _ ↦ Halted args) fun _ ↦ Halted args :=
      hspec.weaken (fun _ _ h ↦ h) (fun _ _ _ h ↦ h.imp And.right .inr) fun _ _ h ↦ h
    have hany := hkeeps.apply_any (m := ⟨run.start, start.schedule, []⟩) (fun _ _ ↦ trivial) hfresh
    rwa [hprogram] at hany
  refine ⟨?_, ?_, ?_⟩
  · intro entry hentry
    obtain ⟨before, rest, hsplit⟩ := List.append_of_mem hentry
    rcases hhalted.at_entry hunlisted hsplit with hcontrol | ⟨hcall, -⟩
    · revert hcontrol
      cases entry.call <;> simp [Call.ofControlPlane, Call.disturbs, Call.entersDataPlane]
    · rw [hcall]
      exact ⟨rfl, rfl⟩
  · intro hok
    rw [hok] at hprogram
    rcases hspec.apply_ok hprogram (fun _ _ ↦ trivial) hfresh with ⟨hskip, -⟩ | hlisted
    · exact hskip
    · exact absurd hlisted hunlisted
  · intro before entry rest hsplit hlacks
    obtain ⟨app, hcall⟩ := (lacks_iff hkube hothers).mp hlacks
    rcases hhalted.at_entry hunlisted hsplit with hcontrol | hlisting
    · rw [hcall] at hcontrol
      cases hcontrol
    · exact hlisting

/-- An attempt that is refused the listing. -/
def refusedAttempt : Run Cluster Move Call Error Unit Unit :=
  let outcome := upgradeProduct true upgradeArgs
    ⟨installedCluster "2.1.0", undisturbed 7 ++ [⟨[], .refused⟩], []⟩
  ⟨(), installedCluster "2.1.0", outcome.1, outcome.2⟩

/-- The control plane is upgraded, and the io-engine Pod is left alone. -/
theorem attempts_end_at_listing_refused :
    refusedAttempt.result = .error (.failed (.listCtrlRevsWithLabelAndField .ioEngine "openebs")) ∧
      Call.helmUpgrade false ∈ refusedAttempt.final.trace.map Entry.call ∧
        ∀ entry ∈ refusedAttempt.final.trace,
          entry.call.disturbs = false ∧ entry.call.entersDataPlane = none := by
  have hkube : Plugin.ObjectsPresent
      (Plugin.creation.final.state.has none upgradeArgs.releaseName) := by
    intro kind
    cases kind <;> decide +kernel
  have hrun : refusedAttempt ∈ restarts (fun _ ↦ upgradeProduct true upgradeArgs)
      [⟨[], (), undisturbed 7 ++ [⟨[], .refused⟩]⟩] (installedCluster "2.1.0") :=
    List.mem_cons_self
  have hrefused : ∀ entry ∈ refusedAttempt.final.trace,
      (∃ app, entry.call = .listControllerRevisions app) → entry.verdict = .refused := by
    have hlast : (refusedAttempt.final.trace.all fun entry ↦ match entry.call with
        | .listControllerRevisions _ => entry.verdict == .refused
        | _ => true) = true := by decide +kernel
    rintro entry hentry ⟨app, hcall⟩
    have hverdict := List.all_eq_true.mp hlast entry hentry
    simpa [hcall] using hverdict
  refine ⟨by decide +kernel, by decide +kernel, ?_⟩
  exact (@attempts_end_at_listing none true upgradeArgs Plugin.creation.final.state
    (fun _ ↦ false) _ hkube rfl _ _ hrun fun entry hentry hlacks ↦
      hrefused entry hentry ((lacks_iff hkube rfl).mp hlacks)).1

end MayastorExtensions.UpgradeJob
