import MayastorExtensions.UpgradeJob.DataPlane
import MayastorExtensions.UpgradeJob.Helm.Upgrade

/-!
# One attempt of the upgrade-job

`upgrade_product` of `upgrade.rs`: the helm upgrade, the partial-rebuild check and the restart of
the data plane, with the events that are sent on the way.  A failure of the dry run, of the helm
upgrade or of the data-plane upgrade is reported by an event; the failures before the dry run and
between the two planes are not.
-/

namespace MayastorExtensions.UpgradeJob

open Scheduled Semver Yaml

/-! ## Events -/

/-- The versions that the notes of the events carry. -/
structure EventVersions where
  source : String
  target : String

/-- Send an event to the worker; a closed channel is an error. -/
def publish (channelOpen : Bool) (event : Event) : Job Unit :=
  if channelOpen then Program.record (.publish event) else Program.fail .eventChannelSend

/-- The event of a message and an action. -/
def upgradeEvent (type_ : EventType) (versions : EventVersions) (message : Message)
    (action : EventAction) : Event :=
  ⟨type_, upgradeEventReason, ⟨versions.source, versions.target, message⟩, action.toString⟩

def publishNormal (channelOpen : Bool) (versions : EventVersions) (note : String)
    (action : EventAction) : Job Unit :=
  publish channelOpen (upgradeEvent .normal versions (.text note) action)

def publishWarning (channelOpen : Bool) (versions : EventVersions) (note : Message)
    (action : EventAction) : Job Unit :=
  publish channelOpen (upgradeEvent .warning versions note action)

/-- A failure to send this event is only logged. -/
def publishUnrecoverable (channelOpen : Bool) (versions : EventVersions) (error : Error)
    (validationError : Bool) : Job Unit := do
  let _ ← Program.attempt (publishWarning channelOpen versions (.failedToUpgrade error)
    (if validationError then .validationFailed else .failed))
  pure ()

/-- A step whose error is published before it is returned. -/
def reporting {α : Type} (channelOpen : Bool) (versions : EventVersions) (validationError : Bool)
    (step : Job α) : Job α := do
  match ← Program.attempt step with
  | .ok value => pure value
  | .error error => do
    publishUnrecoverable channelOpen versions error validationError
    Program.fail error

/-! ## Revisions and the partial-rebuild check -/

/-- The revision with the highest number. -/
def latestRevision : List ControllerRevision → Option ControllerRevision
  | [] => none
  | first :: rest =>
    some (rest.foldl (fun latest other ↦ if latest.revision < other.revision then other else latest)
      first)

def latestControllerRevisionHash (namespace_ : String) : Job String := do
  let revisions ← Program.query (.listControllerRevisions .ioEngine)
    (.listCtrlRevsWithLabelAndField .ioEngine namespace_) fun cluster ↦
      cluster.controllerRevisions.filter fun revision ↦ revision.app = some .ioEngine
  match latestRevision revisions with
  | none => Program.fail (.controllerRevisionListEmpty namespace_ .ioEngine)
  | some latest =>
    match latest.revisionHash with
    | none => Program.fail (.controllerRevisionDoesntHaveHashLabel latest.name namespace_
        DS_CONTROLLER_REVISION_HASH_LABEL_KEY)
    | some hash => pure hash

/-- The versions whose io-engine needs partial rebuild to be disabled. -/
def partialRebuildDisableRequired (version : Version) : Bool :=
  PARTIAL_REBUILD_DISABLE_EXTENTS.1 ≤ version && version ≤ PARTIAL_REBUILD_DISABLE_EXTENTS.2

def partialRebuildCheck (sourceVersion : Version) (partialRebuildIsEnabled : Bool) :
    Except Error Unit :=
  if partialRebuildDisableRequired sourceVersion && partialRebuildIsEnabled then
    .error (.partialRebuildNotAllowed CORE_CHART_NAME
      PARTIAL_REBUILD_DISABLE_EXTENTS.1.toString PARTIAL_REBUILD_DISABLE_EXTENTS.2.toString)
  else .ok ()

/-! ## The attempt -/

/-- The arguments of the job; `restClient` is the outcome of parsing the REST endpoint. -/
structure CliArgs where
  namespace_ : String
  releaseName : String
  restClient : Except Error Unit
  coreChartDir : ChartDir
  skipDataPlaneRestart : Bool
  skipUpgradePathValidation : Bool
  helmArgs : Tree → Tree
  outside : Outside

namespace CliArgs

def helmUpgraderBuilder (args : CliArgs) : HelmUpgraderBuilder where
  releaseName := some args.releaseName
  namespace_ := some args.namespace_
  coreChartDir := some args.coreChartDir
  skipUpgradePathValidation := args.skipUpgradePathValidation
  helmArgs := args.helmArgs

def buildUpgrader (args : CliArgs) : Job HelmUpgrader :=
  args.helmUpgraderBuilder.build args.outside

end CliArgs

def HelmUpgrader.versions (upgrader : HelmUpgrader) : EventVersions :=
  ⟨upgrader.sourceVersion.toString, upgrader.targetVersion.toString⟩

/-- From the dry run to the event that the control plane is upgraded. -/
def upgradeControlPlane (channelOpen : Bool) (args : CliArgs) (upgrader : HelmUpgrader) :
    Job CoreValues := do
  let runHelmUpgrade ← reporting channelOpen upgrader.versions true (upgrader.dryRun args.outside)
  publishNormal channelOpen upgrader.versions ("Starting " ++ productTrain ++ " upgrade...")
    .upgradingCP
  publishNormal channelOpen upgrader.versions ("Upgrading " ++ productTrain ++ " control-plane")
    .upgradingCP
  let finalValues ← reporting channelOpen upgrader.versions false runHelmUpgrade
  publishNormal channelOpen upgrader.versions ("Upgraded " ++ productTrain ++ " control-plane")
    .upgradedCP
  pure finalValues

/-- The io-engine Pods of another revision than the given one. -/
def yetToUpgradeSelector (latestHash : String) : PodSelector :=
  { app := .ioEngine, revision := .isNot latestHash }

/-- What happens between the two planes: the partial-rebuild check and the lookup of the Pods to
restart. -/
def prepareDataPlane (args : CliArgs) (sourceVersion : Version) (finalValues : CoreValues) :
    Job (String × List Pod) := do
  Program.ofExcept (partialRebuildCheck sourceVersion finalValues.agents.partialRebuildEnabled)
  let latestHash ← latestControllerRevisionHash args.namespace_
  let pods ← listPods args.namespace_ (yetToUpgradeSelector latestHash)
  pure (latestHash, pods)

/-- The data-plane upgrade with its events; the trace remembers when it is entered. -/
def restartDataPlane (channelOpen : Bool) (args : CliArgs) (versions : EventVersions)
    (finalValues : CoreValues) (latestHash : String) (pods : List Pod) : Job Unit := do
  publishNormal channelOpen versions ("Upgrading " ++ productTrain ++ " data-plane") .upgradingDP
  Program.record (.enterDataPlane finalValues.agents.partialRebuildEnabled)
  reporting channelOpen versions false (upgradeDataPlane
    { namespace_ := args.namespace_, restClient := args.restClient,
      latestIoEngineCtrlRevHash := latestHash, haIsEnabled := finalValues.agents.haEnabled,
      yetToUpgradeIoEngineLabel := yetToUpgradeSelector latestHash,
      yetToUpgradeIoEnginePods := pods })
  publishNormal channelOpen versions ("Upgraded " ++ productTrain ++ " data-plane") .upgradedDP

/-- The data plane, unless the restart is skipped. -/
def dataPlaneStage (channelOpen : Bool) (args : CliArgs) (upgrader : HelmUpgrader)
    (finalValues : CoreValues) : Job Unit := do
  if args.skipDataPlaneRestart then pure ()
  else do
    let (latestHash, pods) ← prepareDataPlane args upgrader.sourceVersion finalValues
    restartDataPlane channelOpen args upgrader.versions finalValues latestHash pods

def upgradeProduct (channelOpen : Bool) (args : CliArgs) : Job Unit := do
  let upgrader ← args.buildUpgrader
  let finalValues ← upgradeControlPlane channelOpen args upgrader
  dataPlaneStage channelOpen args upgrader finalValues
  publishNormal channelOpen upgrader.versions ("Successfully upgraded " ++ productTrain) .successful

/-! ## Rules for the parts -/

section Rules

variable {α : Type} {channelOpen : Bool} {versions : EventVersions}
  {before stopped kept : Assertion Cluster Move Call} {returned : α → Assertion Cluster Move Call}

theorem publish_keeps {event : Event} (h : Unmoved anyTick kept (.publish event)) :
    Keeps anyTick kept (publish channelOpen event) := by
  refine Keeps.ite ?_ Keeps.fail
  apply Triple.record
  intro cluster trace hkept
  exact h cluster trace [] .served trivial hkept

theorem publishUnrecoverable_keeps {error : Error} {validationError : Bool}
    (h : ∀ event, Unmoved anyTick kept (.publish event)) :
    Keeps anyTick kept (publishUnrecoverable channelOpen versions error validationError) := by
  apply Keeps.bind (Keeps.attempt (publish_keeps (h _)))
  intro _
  exact Keeps.pure

theorem latestControllerRevisionHash_keeps {namespace_ : String}
    (h : Unmoved anyTick kept (.listControllerRevisions .ioEngine)) :
    Keeps anyTick kept (latestControllerRevisionHash namespace_) := by
  apply Keeps.bind (Keeps.query h)
  intro revisions
  cases latestRevision revisions with
  | none => exact Keeps.fail
  | some latest =>
    cases hhash : latest.revisionHash with
    | none => simpa only [hhash] using Keeps.fail
    | some hash => simpa only [hhash] using Keeps.pure

/-- Reporting an error adds an event to what the step has left behind. -/
theorem reporting_spec {validationError : Bool} {step : Job α}
    (hstep : Triple anyTick before step returned stopped)
    (h : ∀ event, Unmoved anyTick stopped (.publish event)) :
    Triple anyTick before (reporting channelOpen versions validationError step) returned
      stopped := by
  refine Triple.bind (fun result cluster trace ↦ match result with
      | .ok value => returned value cluster trace
      | .error _ => stopped cluster trace)
    (Triple.attempt (hstep.weaken (fun _ _ h ↦ h) (fun _ _ _ h ↦ h) ?_)) ?_
  · intro cluster trace hstopped
    exact ⟨fun _ ↦ hstopped, hstopped⟩
  · intro result
    cases result with
    | ok value => exact Triple.pure fun _ _ h ↦ h
    | error error =>
      apply Triple.bind (fun _ ↦ stopped) (publishUnrecoverable_keeps h)
      intro _
      exact Triple.fail fun _ _ h ↦ h

end Rules

/-! ## A concrete installation -/

/-- The job that upgrades to the core chart 2.6.0. -/
def upgradeArgs : CliArgs where
  namespace_ := "openebs"
  releaseName := "mayastor"
  restClient := .ok ()
  coreChartDir :=
    { path := "/chart"
      chartYaml := some (.map [("name", .str "mayastor"), ("version", .str "2.6.0")])
      valuesYaml := some (chartValues (.str "v2.6.0")) }
  skipDataPlaneRestart := false
  skipUpgradePathValidation := false
  helmArgs := id
  outside := ⟨⟨some, fun _ ↦ some none, fun _ ↦ none⟩, false⟩

/-- An installation with one io-engine Pod and partial rebuild enabled. -/
def installedCluster (version : String) : Cluster where
  release := ⟨"mayastor", coreChart version⟩
  values := chartValues (.str ("v" ++ version))
  pods := [⟨"io-engine-1", some .ioEngine, some "old", some ⟨some "n1"⟩, none, coreChart version⟩]
  controllerRevisions := [⟨"io-engine-new", some .ioEngine, 2, some "new"⟩]
  kubeNodes := []
  crds := []
  nodes := ["n1"]
  nodeSpec := fun _ ↦ some ⟨none⟩
  volumes := []
  paging := .full Volume

end MayastorExtensions.UpgradeJob
