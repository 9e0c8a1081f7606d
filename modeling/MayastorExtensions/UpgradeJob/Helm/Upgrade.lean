import MayastorExtensions.UpgradeJob.Cluster
import MayastorExtensions.UpgradeJob.Helm.Values

/-!
# The helm upgrade

`helm/upgrade.rs` with the parts of `helm/client.rs` and `upgrade/path.rs` it is made of.  The
builder reads the installed release and the chart of the job and decides between the umbrella
chart, which it only inspects, and the core chart, for which it prepares the values.  The dry run
returns the run that carries out the upgrade.
-/

namespace MayastorExtensions.UpgradeJob

open Scheduled Semver Yaml

/-! ## Charts and their versions -/

/-- The directory of the core chart; a file that cannot be read is missing. -/
structure ChartDir where
  path : String
  chartYaml : Option Tree
  valuesYaml : Option Tree

/-- The version in a `Chart.yaml`, as it is written and as it is read. -/
structure Chart where
  name : String
  versionText : String
  version : Version

def Chart.decode (tree : Tree) : Option Chart := do
  let entries ← Decode.fields tree
  let name ← Decode.field "name" Decode.text entries
  let versionText ← Decode.field "version" Decode.text entries
  let version ← Version.parse versionText
  some ⟨name, versionText, version⟩

/-- As `version_from_chart_yaml_file`, with the chart the version is from. -/
def chartFromYamlFile (dir : ChartDir) : Except Error Chart :=
  match dir.chartYaml with
  | none => .error (.readingFile (dir.path ++ "/Chart.yaml"))
  | some tree =>
    match Chart.decode tree with
    | none => .error (.yamlParseFromFile (dir.path ++ "/Chart.yaml"))
    | some chart => .ok chart

/-- The version is what follows the first dash of the release's chart. -/
def versionFromReleaseChart (chartName : String) : Except Error Version :=
  match Version.splitOnce '-' chartName.toList with
  | none => .error (.helmChartNameSplit chartName '-')
  | some (_, version) =>
    match Version.parse (String.ofList version) with
    | none => .error (.semverParse (String.ofList version))
    | some version => .ok version

/-- What helm reports as the chart of a release of the core chart; the name in the `Chart.yaml` of
the job has been validated to be the core chart's. -/
def coreChart (versionText : String) : String :=
  CORE_CHART_NAME ++ "-" ++ versionText

/-- The version is what follows the name of a chart that has no dash. -/
theorem versionFromReleaseChart_append {name : String} (hdash : '-' ∉ name.toList)
    (versionText : String) :
    versionFromReleaseChart (name ++ "-" ++ versionText) =
      match Version.parse versionText with
      | none => .error (.semverParse versionText)
      | some version => .ok version := by
  have hchars : (name ++ "-" ++ versionText).toList =
      name.toList ++ '-' :: versionText.toList := by
    simp
  rw [versionFromReleaseChart, hchars, splitOnce_append hdash]
  simp only [String.ofList_toList]

/-- A release of the core chart reports the chart's version. -/
theorem versionFromReleaseChart_coreChart {versionText : String} {version : Version}
    (h : Version.parse versionText = some version) :
    versionFromReleaseChart (coreChart versionText) = .ok version := by
  have hdash : '-' ∉ CORE_CHART_NAME.toList := by decide
  rw [coreChart, versionFromReleaseChart_append hdash, h]

/-- Matches `[0-9]+`. -/
def isNumber (text : List Char) : Bool :=
  !text.isEmpty && text.all Char.isDigit

/-- Matches `[0-9]+\.[0-9]+\.[0-9]+`. -/
def isRelease (text : List Char) : Bool :=
  match text.splitOn '.' with
  | [major, minor, patch] => isNumber major && isNumber minor && isNumber patch
  | _ => false

/-- Matches `[a-zA-Z0-9]+(\.[0-9]+)?`. -/
def isPreReleasePart (text : List Char) : Bool :=
  match text.splitOn '.' with
  | [name] => !name.isEmpty && name.all Char.isAlphanum
  | [name, number] => !name.isEmpty && name.all Char.isAlphanum && isNumber number
  | _ => false

/-- Matches `^(openebs-[0-9]+\.[0-9]+\.[0-9]+)$`. -/
def matchesUmbrellaChart (chart : String) : Bool :=
  match chart.toList.splitOn '-' with
  | [name, release] => name = UMBRELLA_CHART_NAME.toList && isRelease release
  | _ => false

/-- Matches `^(mayastor-[0-9]+\.[0-9]+\.[0-9]+(-[a-zA-Z0-9]+(\.[0-9]+)?)*)$`. -/
def matchesCoreChart (chart : String) : Bool :=
  match chart.toList.splitOn '-' with
  | name :: release :: preRelease =>
    name = CORE_CHART_NAME.toList && isRelease release && preRelease.all isPreReleasePart
  | _ => false

def unsupportedVersions : List Version := [⟨0, 0, 0, [], []⟩]

def isValidForCoreChart (version : Version) : Bool :=
  !unsupportedVersions.contains version

/-! ## The helm client -/

/-- The release of a list with the name that is looked for. -/
def findRelease (namespace_ releaseName : String) (releases : List HelmReleaseElement) :
    Except Error HelmReleaseElement :=
  match releases.find? fun release ↦ release.name = releaseName with
  | some release => .ok release
  | none => .error (.helmRelease releaseName namespace_)

/-- The method `HelmReleaseClient::release_info`. -/
def releaseInfo (namespace_ releaseName : String) : Job HelmReleaseElement := do
  let releases ← Program.query .helmList .helmListCommand fun cluster ↦ [cluster.release]
  Program.ofExcept (findRelease namespace_ releaseName releases)

/-- The method `HelmReleaseClient::get_values_as_yaml`. -/
def getValuesAsYaml : Job Tree :=
  Program.query .helmGetValues .helmGetValuesCommand Cluster.values

/-! ## Upgraders -/

/-- The conversions and the hash map order that the values depend on. -/
structure Outside where
  codec : Codec
  jaegerFirst : Bool

/-- `helmArgs` is what `--set` and `--set-file` make of the values of the `-f` option. -/
structure CoreHelmUpgrader where
  alreadyUpgraded : Bool
  chart : Chart
  helmArgs : Tree → Tree
  sourceVersion : Version
  sourceValues : CoreValues
  upgradeValues : Tree

inductive HelmUpgrader where
  | core (upgrader : CoreHelmUpgrader)
  | umbrella (sourceVersion targetVersion : Version)

namespace HelmUpgrader

def sourceVersion : HelmUpgrader → Version
  | core upgrader => upgrader.sourceVersion
  | umbrella sourceVersion _ => sourceVersion

def targetVersion : HelmUpgrader → Version
  | core upgrader => upgrader.chart.version
  | umbrella _ targetVersion => targetVersion

end HelmUpgrader

structure HelmUpgraderBuilder where
  releaseName : Option String
  namespace_ : Option String
  coreChartDir : Option ChartDir
  skipUpgradePathValidation : Bool
  helmArgs : Tree → Tree

/-- The values of the target chart. -/
def targetValues (codec : Codec) (dir : ChartDir) : Except Error (Tree × CoreValues) :=
  match dir.valuesYaml with
  | none => .error (.readingFile (dir.path ++ "/values.yaml"))
  | some tree =>
    match CoreValues.decode codec tree with
    | none => .error (.yamlParseFromFile (dir.path ++ "/values.yaml"))
    | some values => .ok (tree, values)

/-- Values that were read from the release. -/
def valuesFromSlice (decode : Tree → Option CoreValues) (tree : Tree) : Except Error CoreValues :=
  match decode tree with
  | none => .error .yamlParseFromSlice
  | some values => .ok values

/-- Rollbacks are forbidden and some versions are unsupported, unless the flag says to skip. -/
def validateUpgradePath (skip : Bool) (sourceVersion targetVersion : Version) :
    Except Error Unit :=
  if skip then .ok ()
  else if ¬sourceVersion ≤ targetVersion then
    .error (.rollbackForbidden sourceVersion.toString targetVersion.toString)
  else if !isValidForCoreChart sourceVersion then .error .invalidUpgradePath
  else .ok ()

/-- A mandatory option of the builder. -/
def mandatory {α : Type} (error : Error) : Option α → Except Error α
  | none => .error error
  | some value => .ok value

/-- The values for the upgrade of the core chart: merge and edits, with the lookup of the CRDs in
between. -/
def generateUpgradeValues (input : ValuesInput) (sourceTree targetTree : Tree) : Job Tree := do
  Program.query .generateValues .yqCommandExec fun _ ↦ ()
  let merged ← Program.ofExcept (applyEdits (mergeFiles sourceTree targetTree) input.chartEdits)
  let crds ← Program.query .listCrds .listCrds Cluster.crds
  Program.ofExcept (applyEdits merged (safeCrdInstall input.jaegerFirst crds))

namespace HelmUpgraderBuilder

/-- The upgrader of the core chart. -/
def buildCore (outside : Outside) (builder : HelmUpgraderBuilder) (chartDir : ChartDir)
    (chart : Chart) (sourceVersion : Version) (sourceTree : Tree) : Job HelmUpgrader := do
  Program.ofExcept
    (validateUpgradePath builder.skipUpgradePathValidation sourceVersion chart.version)
  let (targetTree, target) ← Program.ofExcept (targetValues outside.codec chartDir)
  let source ← Program.ofExcept (valuesFromSlice (CoreValues.decode outside.codec) sourceTree)
  let upgradeValues ← generateUpgradeValues
    { codec := outside.codec, jaegerFirst := outside.jaegerFirst, crds := [], sourceVersion,
      targetVersion := chart.version, source, target } sourceTree targetTree
  pure (.core
    { alreadyUpgraded := chart.version = sourceVersion, chart, helmArgs := builder.helmArgs,
      sourceVersion, sourceValues := source, upgradeValues })

def build (outside : Outside) (builder : HelmUpgraderBuilder) : Job HelmUpgrader := do
  let releaseName ← Program.ofExcept
    (mandatory .helmUpgradeOptionReleaseNameAbsent builder.releaseName)
  let namespace_ ← Program.ofExcept
    (mandatory .helmUpgradeOptionNamespaceAbsent builder.namespace_)
  let chartDir ← Program.ofExcept
    (mandatory (.noInputHelmChartDir CORE_CHART_NAME) builder.coreChartDir)
  let release ← releaseInfo namespace_ releaseName
  let sourceVersion ← Program.ofExcept (versionFromReleaseChart release.chart)
  let sourceTree ← getValuesAsYaml
  let chart ← Program.ofExcept (chartFromYamlFile chartDir)
  if matchesUmbrellaChart release.chart then
    if chart.version = sourceVersion then pure (.umbrella sourceVersion chart.version)
    else Program.fail .umbrellaChartNotUpgraded
  else if matchesCoreChart release.chart then
    buildCore outside builder chartDir chart sourceVersion sourceTree
  else Program.fail (.notAKnownHelmChart release.chart)

end HelmUpgraderBuilder

/-! ## Running the upgrade -/

/-- The release after `helm upgrade`; the Pods of the data plane are not restarted by it. -/
def CoreHelmUpgrader.install (upgrader : CoreHelmUpgrader) (cluster : Cluster) : Cluster :=
  { cluster with
    release := { cluster.release with chart := coreChart upgrader.chart.versionText }
    values := upgrader.helmArgs upgrader.upgradeValues }

/-- The method `HelmReleaseClient::upgrade`, with `--dry-run` or without. -/
def CoreHelmUpgrader.upgrade (upgrader : CoreHelmUpgrader) (dryRun : Bool) : Job Unit :=
  Program.request (.helmUpgrade dryRun) .helmUpgradeCommand
    (fun cluster ↦ if dryRun then cluster else upgrader.install cluster) fun _ ↦ ()

/-- The run that a dry run returns. -/
def HelmUpgrader.run (outside : Outside) : HelmUpgrader → Job CoreValues
  | .core upgrader =>
    if upgrader.alreadyUpgraded then pure upgrader.sourceValues
    else do
      upgrader.upgrade false
      let finalValues ← getValuesAsYaml
      Program.ofExcept (valuesFromSlice (CoreValues.decode outside.codec) finalValues)
  | .umbrella _ _ => do
    let finalValues ← getValuesAsYaml
    Program.ofExcept (valuesFromSlice (UmbrellaValues.decode outside.codec) finalValues)

/-- Run `helm upgrade --dry-run` where there is something to upgrade, and return the run. -/
def HelmUpgrader.dryRun (outside : Outside) (upgrader : HelmUpgrader) : Job (Job CoreValues) :=
  match upgrader with
  | .core coreUpgrader =>
    if coreUpgrader.alreadyUpgraded then pure (upgrader.run outside)
    else do
      coreUpgrader.upgrade true
      pure (upgrader.run outside)
  | .umbrella _ _ => pure (upgrader.run outside)

/-! ## What the builder computes

The release, its values and the CRDs do not change while the job only looks at them, so what the
builder returns is a function of the cluster it started on. -/

/-- The release is as it was at the start. -/
def SameRelease (start cluster : Cluster) : Prop :=
  cluster.release = start.release ∧ cluster.values = start.values ∧ cluster.crds = start.crds

theorem move_sameRelease (step : Move) {start cluster : Cluster} (h : SameRelease start cluster) :
    SameRelease start (Interferes.move step cluster) := by
  obtain ⟨node, -, hmove⟩ | ⟨pods, revisions, volumes, hmove⟩ := move_cases step cluster
  · rw [hmove]
    exact h
  · rw [hmove]
    exact h

theorem after_sameRelease {moves : List Move} {start cluster : Cluster}
    (h : SameRelease start cluster) : SameRelease start (after moves cluster) :=
  after_invariant (SameRelease start) (fun step _ _ hcurrent ↦ move_sameRelease step hcurrent) h

/-- The values of the core chart, with the CRDs of the cluster. -/
def planValues (input : ValuesInput) (sourceTree targetTree : Tree) (cluster : Cluster) :
    Except Error Tree :=
  generateValuesYamlFile { input with crds := cluster.crds } sourceTree targetTree

namespace HelmUpgraderBuilder

/-- The upgrader of the core chart, as a function of the cluster. -/
def planCore (outside : Outside) (builder : HelmUpgraderBuilder) (chartDir : ChartDir)
    (chart : Chart) (sourceVersion : Version) (sourceTree : Tree) (cluster : Cluster) :
    Except Error HelmUpgrader := do
  validateUpgradePath builder.skipUpgradePathValidation sourceVersion chart.version
  let (targetTree, target) ← targetValues outside.codec chartDir
  let source ← valuesFromSlice (CoreValues.decode outside.codec) sourceTree
  let upgradeValues ← planValues
    { codec := outside.codec, jaegerFirst := outside.jaegerFirst, crds := [], sourceVersion,
      targetVersion := chart.version, source, target } sourceTree targetTree cluster
  .ok (.core
    { alreadyUpgraded := chart.version = sourceVersion, chart, helmArgs := builder.helmArgs,
      sourceVersion, sourceValues := source, upgradeValues })

/-- The upgrader, as a function of the cluster. -/
def plan (outside : Outside) (builder : HelmUpgraderBuilder) (cluster : Cluster) :
    Except Error HelmUpgrader := do
  let releaseName ← mandatory .helmUpgradeOptionReleaseNameAbsent builder.releaseName
  let namespace_ ← mandatory .helmUpgradeOptionNamespaceAbsent builder.namespace_
  let chartDir ← mandatory (.noInputHelmChartDir CORE_CHART_NAME) builder.coreChartDir
  let release ← findRelease namespace_ releaseName [cluster.release]
  let sourceVersion ← versionFromReleaseChart release.chart
  let sourceTree ← .ok cluster.values
  let chart ← chartFromYamlFile chartDir
  if matchesUmbrellaChart release.chart then
    if chart.version = sourceVersion then .ok (.umbrella sourceVersion chart.version)
    else .error .umbrellaChartNotUpgraded
  else if matchesCoreChart release.chart then
    planCore outside builder chartDir chart sourceVersion sourceTree cluster
  else .error (.notAKnownHelmChart release.chart)

end HelmUpgraderBuilder

section Computes

variable {start : Cluster} {kept : Assertion Cluster Move Call}
  (hcall : ∀ call : Call, call.entersDataPlane = none → Unmoved anyTick kept call)
  (hsame : ∀ cluster trace, kept cluster trace → SameRelease start cluster)

include hcall hsame

theorem releaseInfo_computes (namespace_ releaseName : String) :
    Computes anyTick kept (releaseInfo namespace_ releaseName)
      (findRelease namespace_ releaseName [start.release]) := by
  change Computes _ _ _ ((.ok [start.release] : Except Error _) >>= findRelease _ _)
  refine Computes.bind (Computes.query (hcall _ rfl) ?_) ?_
  · intro cluster trace h
    rw [(hsame cluster trace h).1]
  · intro releases
    exact Computes.ofExcept

theorem getValuesAsYaml_computes :
    Computes anyTick kept getValuesAsYaml (.ok start.values) :=
  Computes.query (hcall _ rfl) fun _ _ h ↦ (hsame _ _ h).2.1

/-- The two runs of edits, with the lookup of the CRDs in between, are one. -/
theorem generateUpgradeValues_computes (input : ValuesInput) (sourceTree targetTree : Tree) :
    Computes anyTick kept (generateUpgradeValues input sourceTree targetTree)
      (planValues input sourceTree targetTree start) := by
  have hplan : planValues input sourceTree targetTree start =
      ((.ok () : Except Error Unit) >>= fun _ ↦
        applyEdits (mergeFiles sourceTree targetTree) input.chartEdits >>= fun merged ↦
          (.ok start.crds : Except Error _) >>= fun crds ↦
            applyEdits merged (safeCrdInstall input.jaegerFirst crds)) :=
    applyEdits_append _ _ _
  rw [hplan]
  refine Computes.bind (Computes.query (hcall _ rfl) fun _ _ _ ↦ rfl) ?_
  intro _
  refine Computes.bind Computes.ofExcept ?_
  intro merged
  refine Computes.bind (Computes.query (hcall _ rfl) fun _ _ h ↦ (hsame _ _ h).2.2) ?_
  intro crds
  exact Computes.ofExcept

theorem buildCore_computes (outside : Outside) (builder : HelmUpgraderBuilder)
    (chartDir : ChartDir) (chart : Chart) (sourceVersion : Version) (sourceTree : Tree) :
    Computes anyTick kept
      (builder.buildCore outside chartDir chart sourceVersion sourceTree)
      (builder.planCore outside chartDir chart sourceVersion sourceTree start) := by
  refine Computes.bind Computes.ofExcept ?_
  intro _
  refine Computes.bind Computes.ofExcept ?_
  intro target
  refine Computes.bind Computes.ofExcept ?_
  intro source
  refine Computes.bind (generateUpgradeValues_computes hcall hsame _ _ _) ?_
  intro upgradeValues
  exact Computes.pure

/-- The builder returns the upgrader that the cluster at the start determines. -/
theorem build_computes (outside : Outside) (builder : HelmUpgraderBuilder) :
    Computes anyTick kept (builder.build outside)
      (builder.plan outside start) := by
  refine Computes.bind Computes.ofExcept ?_
  intro releaseName
  refine Computes.bind Computes.ofExcept ?_
  intro namespace_
  refine Computes.bind Computes.ofExcept ?_
  intro chartDir
  refine Computes.bind (releaseInfo_computes hcall hsame _ _) ?_
  intro release
  refine Computes.bind Computes.ofExcept ?_
  intro sourceVersion
  refine Computes.bind (getValuesAsYaml_computes hcall hsame) ?_
  intro sourceTree
  refine Computes.bind Computes.ofExcept ?_
  intro chart
  refine Computes.ite (Computes.ite Computes.pure Computes.fail) ?_
  exact Computes.ite (buildCore_computes hcall hsame _ _ _ _ _ _) Computes.fail

end Computes

end MayastorExtensions.UpgradeJob
