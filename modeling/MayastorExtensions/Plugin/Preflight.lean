import MayastorExtensions.Library.OffsetPages
import MayastorExtensions.Library.Outcome
import MayastorExtensions.Plugin.UpgradeResources
import MayastorExtensions.UpgradeJob.Helm.Upgrade

/-!
# Checks before an upgrade

`plugin/preflight_validations.rs`: before the plugin creates anything it checks the upgrade path,
looks for rebuilds in progress, for cordoned nodes and for volumes with a single replica.  Each of
the four can be switched off.  The checks read the version labels of the api-rest Deployment, and
nodes and volumes from the REST API, the latter in pages.

The check of the path is made a second time by the upgrade-job, on the versions of the helm release
and of its own chart.
-/

namespace MayastorExtensions.Plugin

open Scheduled Semver

/-! ## What the checks read -/

/-- The variants of `CordonDrainState`. -/
inductive CordonDrain where
  | cordonedstate
  | drainingstate
  | drainedstate
  deriving DecidableEq, Repr

/-- A storage node; `spec` is its cordon and drain state, where it has a spec. -/
structure StorageNode where
  id : String
  spec : Option (Option CordonDrain)
  deriving DecidableEq, Repr

/-- A volume; `target` are the rebuild progresses of the children of its target. -/
structure Volume where
  uuid : String
  numReplicas : ℕ
  target : Option (List (Option ℕ))
  deriving DecidableEq, Repr

structure PersistentVolumeClaim where
  uid : Option String
  name : Option String
  deriving DecidableEq, Repr

/-- What the installation has, and how its REST service cuts the list of volumes into pages. -/
structure Site where
  deployments : List Deployment
  nodes : List StorageNode
  volumes : List Volume
  paging : OffsetPages.Paging Volume
  claims : List PersistentVolumeClaim

/-- Anything may change between two requests. -/
instance siteInterferes : Interferes Site Site where
  move next _ := next

/-- The messages to the user that the checks end with. -/
inductive Prompt where
  | upgradeWarning
  | rebuildWarning
  | cordonedNodeWarning
  | singleReplicaVolumeWarning
  | upgradePathNotValid
  | upgradeToUnsupportedVersion
  | stableToUnstableUpgrade
  | higherToLowerSemverUpgrade
  deriving DecidableEq, Repr

/-- The requests of the checks, and what they print. -/
inductive CheckCall where
  | buildConfiguration
  | tryDefault
  | listDeployments
  | getNodes
  | getVolumes (startingToken : ℕ)
  | listClaims
  | print (prompt : Prompt) (data : String)
  deriving DecidableEq, Repr

inductive CheckError where
  | openapiClientConfiguration
  | k8sClient
  | listDeploymantsWithLabel (label namespace_ : String)
  | noDeploymentPresent
  | semverParse (versionString : String)
  | notAValidSourceForUpgrade
  | invalidUpgradePath
  | listVolumes
  | volumeRebuildInProgress
  | listStorageNodes
  | nodeSpecNotPresent (node : String)
  | nodesInCordonedState
  | listPVC
  | singleReplicaVolumeErr
  deriving DecidableEq, Repr

/-- A computation of the checks. -/
abbrev Check (α : Type) := Program Site Site CheckCall CheckError α

/-- Print a message and return an error. -/
def refuse (prompt : Prompt) (data : String) (error : CheckError) : Check Unit := do
  Program.record (.print prompt data)
  Program.fail error

/-! ## The upgrade path -/

def helmReleaseVersionKey : String := "openebs.io/version"

def UPGRADE_TO_DEVELOP_BRANCH : String := "develop"

/-- The version label of the first Deployment of a list. -/
def sourceVersion : List Deployment → Except CheckError String
  | [] => .error .noDeploymentPresent
  | deployment :: _ =>
    match deployment.labels.bind fun labels ↦ labels.lookup helmReleaseVersionKey with
    | none => .error .noDeploymentPresent
    | some version => .ok version

def getSourceVersion (ns : String) : Check String := do
  Program.query .tryDefault .k8sClient fun _ ↦ ()
  let deployments ← Program.query .listDeployments
    (.listDeploymantsWithLabel API_REST_LABEL_SELECTOR ns) Site.deployments
  Program.ofExcept (sourceVersion deployments)

def stripVPrefix (version : String) : String :=
  match version.toList with
  | 'v' :: rest => String.ofList rest
  | _ => version

/-- The version of the build, if its tag is one. -/
def selfVersion (versionTag : Option String) : Option Version :=
  match versionTag with
  | some tag => if tag = "" then none else Version.parse (stripVPrefix tag)
  | none => none

/-- The text contains the other one. -/
def containsText (text part : String) : Bool :=
  part.toList <:+: text.toList

/-- The lines of the versions that cannot be upgraded. -/
def invalidSourceList : String :=
  String.join (UpgradeJob.unsupportedVersions.map fun version ↦ version.toString ++ "\n")

def selfIsStable (versionTag : Option String) : Bool :=
  match selfVersion versionTag with
  | some version => version.pre.isEmpty
  | none => false

/-- What is said against an upgrade from a source version, if anything is. -/
def pathRefusal (versionTag : Option String) (allowUnstable : Bool) (source : Version) :
    Option (Prompt × String × CheckError) :=
  if UpgradeJob.unsupportedVersions.contains source then
    some (.upgradePathNotValid, invalidSourceList, .notAValidSourceForUpgrade)
  else if containsText (getImageVersionTag versionTag) UPGRADE_TO_DEVELOP_BRANCH then
    some (.upgradeToUnsupportedVersion, "", .invalidUpgradePath)
  else if !allowUnstable && (source.pre.isEmpty && !selfIsStable versionTag) then
    some (.stableToUnstableUpgrade, "", .invalidUpgradePath)
  else
    match selfVersion versionTag with
    | some version =>
      if version < source then some (.higherToLowerSemverUpgrade, "", .invalidUpgradePath) else none
    | none => none

def upgradePathValidation (versionTag : Option String) (ns : String) (allowUnstable : Bool) :
    Check Unit := do
  let text ← getSourceVersion ns
  match Version.parse text with
  | none => Program.fail (.semverParse text)
  | some source =>
    match pathRefusal versionTag allowUnstable source with
    | some (prompt, data, error) => refuse prompt data error
    | none => pure ()

/-! ## Rebuilds, nodes and replicas -/

/-- The number of volumes per request. -/
def maxEntries : ℕ := 200

def getVolumes (startingToken : ℕ) : Check (List Volume × Option ℕ) :=
  Program.query (.getVolumes startingToken) .listVolumes fun site ↦
    site.paging.page maxEntries site.volumes startingToken

/-- A child of the volume's target is being rebuilt. -/
def Volume.isRebuilding (volume : Volume) : Bool :=
  match volume.target with
  | some children => children.any Option.isSome
  | none => false

def isRebuildInProgress : Check Bool :=
  OffsetPages.visitPages getVolumes
    (fun _ volume ↦ if volume.isRebuilding then .error true else .ok ()) (fun _ ↦ false) ()

def rebuildInProgressValidation : Check Unit := do
  if ← isRebuildInProgress then refuse .rebuildWarning "" .volumeRebuildInProgress else pure ()

/-- The ids of the cordoned nodes; every node has to have a spec. -/
def cordonedNodes : List StorageNode → Except CheckError (List String)
  | [] => .ok []
  | node :: rest =>
    match node.spec with
    | none => .error (.nodeSpecNotPresent node.id)
    | some state => do
      let cordoned ← cordonedNodes rest
      .ok (if state = some .cordonedstate then node.id :: cordoned else cordoned)

def alreadyCordonedNodesValidation : Check Unit := do
  let nodes ← Program.query .getNodes .listStorageNodes Site.nodes
  let cordonedNodesList ← Program.ofExcept (cordonedNodes nodes)
  if cordonedNodesList.isEmpty then pure ()
  else refuse .cordonedNodeWarning ("\n".intercalate cordonedNodesList) .nodesInCordonedState

def SINGLE_REPLICA_VOLUME : ℕ := 1

/-- The names of the claims with one of the given ids. -/
def pvcFromUuid (uuids : List String) (claims : List PersistentVolumeClaim) : List String :=
  claims.filterMap fun claim ↦
    match claim.uid with
    | some uid => if uid ∈ uuids then claim.name else none
    | none => none

def getPvcFromUuid (uuids : List String) : Check (List String) := do
  Program.query .tryDefault .k8sClient fun _ ↦ ()
  let claims ← Program.query .listClaims .listPVC Site.claims
  pure (pvcFromUuid uuids claims)

def singleVolumeReplicaValidation : Check Unit := do
  let volumes ← OffsetPages.visitPages getVolumes
    (fun ids volume ↦ .ok
      (if volume.numReplicas = SINGLE_REPLICA_VOLUME then ids ++ [volume.uuid] else ids)) id []
  if volumes.isEmpty then pure ()
  else do
    let claims ← getPvcFromUuid volumes
    refuse .singleReplicaVolumeWarning ("\n".intercalate claims) .singleReplicaVolumeErr

/-! ## All checks -/

/-- The switches of the checks among the arguments of an upgrade. -/
structure PreflightArgs where
  allowUnstable : Bool
  skipUpgradePathValidationForUnsupportedVersion : Bool
  skipReplicaRebuild : Bool
  skipCordonedNodeValidation : Bool
  skipSingleReplicaVolumeValidation : Bool

/-- Run a check that is not switched off. -/
def unlessSkipped (skip : Bool) (check : Check Unit) : Check Unit :=
  if skip then pure () else check

def preflightCheck (versionTag : Option String) (ns : String) (args : PreflightArgs) :
    Check Unit := do
  Program.record (.print .upgradeWarning "")
  Program.query .buildConfiguration .openapiClientConfiguration fun _ ↦ ()
  unlessSkipped args.skipUpgradePathValidationForUnsupportedVersion
    (upgradePathValidation versionTag ns args.allowUnstable)
  unlessSkipped args.skipReplicaRebuild rebuildInProgressValidation
  unlessSkipped args.skipCordonedNodeValidation alreadyCordonedNodesValidation
  unlessSkipped args.skipSingleReplicaVolumeValidation singleVolumeReplicaValidation

/-! ## What is accepted -/

/-- The path from a source version to the version of the build is accepted. -/
structure PathAccepted (versionTag : Option String) (allowUnstable : Bool) (source : Version) :
    Prop where
  supported : source ∉ UpgradeJob.unsupportedVersions
  released : ¬UPGRADE_TO_DEVELOP_BRANCH.toList <:+: (getImageVersionTag versionTag).toList
  stable : allowUnstable = true ∨ source.pre ≠ [] ∨
    ∃ version, selfVersion versionTag = some version ∧ version.pre = []
  upward : ∀ version, selfVersion versionTag = some version → source ≤ version

/-- The installation passes the checks that are not switched off. -/
structure Acceptable (versionTag : Option String) (args : PreflightArgs) (site : Site) :
    Prop where
  path : args.skipUpgradePathValidationForUnsupportedVersion = false →
    ∃ text source, sourceVersion site.deployments = .ok text ∧ Version.parse text = some source ∧
      PathAccepted versionTag args.allowUnstable source
  rebuilds : args.skipReplicaRebuild = false →
    ∀ volume ∈ site.volumes, ∀ children, volume.target = some children →
      ∀ progress ∈ children, progress = none
  nodes : args.skipCordonedNodeValidation = false →
    ∀ node ∈ site.nodes, ∃ state, node.spec = some state ∧ state ≠ some .cordonedstate
  replicas : args.skipSingleReplicaVolumeValidation = false →
    ∀ volume ∈ site.volumes, volume.numReplicas ≠ SINGLE_REPLICA_VOLUME

section Decides

variable {site : Site} {condition : Prop}

theorem refuse_decides {prompt : Prompt} {data : String} {error : CheckError} (h : ¬condition) :
    Decides (refuse prompt data error) site condition :=
  Decides.bind (Serves.record _) (Decides.fail h)

theorem unlessSkipped_decides {skip : Bool} {check : Check Unit}
    (h : Decides check site condition) :
    Decides (unlessSkipped skip check) site (skip = false → condition) := by
  cases skip with
  | true => exact Decides.pure fun hskip ↦ by cases hskip
  | false => exact h.congr ⟨fun hcondition _ ↦ hcondition, fun himp ↦ himp rfl⟩

theorem getVolumes_serves (startingToken : ℕ) :
    Serves 1 (getVolumes startingToken) site
      (.ok (site.paging.page maxEntries site.volumes startingToken)) site :=
  Serves.query _ _ _

theorem getSourceVersion_serves (ns : String) :
    Serves 2 (getSourceVersion ns) site (sourceVersion site.deployments) site := by
  refine Serves.query_bind (Serves.query_bind ?_)
  cases sourceVersion site.deployments with
  | ok text => exact Serves.pure text
  | error error => exact Serves.fail error

/-- A stable installation goes to a stable build, unless that is allowed. -/
theorem stable_iff {versionTag : Option String} {allowUnstable : Bool} {source : Version} :
    (!allowUnstable && (source.pre.isEmpty && !selfIsStable versionTag)) = false ↔
      (allowUnstable = true ∨ source.pre ≠ [] ∨
        ∃ version, selfVersion versionTag = some version ∧ version.pre = []) := by
  have hself : selfIsStable versionTag = true ↔
      ∃ version, selfVersion versionTag = some version ∧ version.pre = [] := by
    unfold selfIsStable
    cases selfVersion versionTag with
    | none => simp
    | some version => simp
  rw [← hself]
  cases allowUnstable with
  | true => simp
  | false => simp [imp_iff_not_or]

/-- Nothing is said against exactly the accepted paths. -/
theorem pathRefusal_eq_none_iff {versionTag : Option String} {allowUnstable : Bool}
    {source : Version} :
    pathRefusal versionTag allowUnstable source = none ↔
      PathAccepted versionTag allowUnstable source := by
  unfold pathRefusal
  split
  next hunsupported =>
    refine iff_of_false (fun hnone ↦ by cases hnone) fun haccepted ↦ haccepted.supported ?_
    exact List.contains_iff_mem.mp hunsupported
  next hsupported =>
    have hsupported' : source ∉ UpgradeJob.unsupportedVersions := fun hmem ↦
      hsupported (List.contains_iff_mem.mpr hmem)
    split
    next hdevelop =>
      refine iff_of_false (fun hnone ↦ by cases hnone) fun haccepted ↦ haccepted.released ?_
      simpa [containsText] using hdevelop
    next hreleased =>
      have hreleased' : ¬UPGRADE_TO_DEVELOP_BRANCH.toList <:+:
          (getImageVersionTag versionTag).toList := by
        simpa [containsText] using hreleased
      split
      next hunstable =>
        refine iff_of_false (fun hnone ↦ by cases hnone) fun haccepted ↦ ?_
        rw [stable_iff.mpr haccepted.stable] at hunstable
        cases hunstable
      next hstable =>
        have hstable' := stable_iff.mp (Bool.not_eq_true _ ▸ hstable)
        cases hself : selfVersion versionTag with
        | none =>
          refine iff_of_true rfl ⟨hsupported', hreleased', hstable', ?_⟩
          intro version hversion
          rw [hself] at hversion
          cases hversion
        | some version =>
          dsimp only
          split
          next hlower =>
            refine iff_of_false (fun hnone ↦ by cases hnone) fun haccepted ↦ ?_
            exact Version.not_lt.mpr (haccepted.upward version hself) hlower
          next hupward =>
            refine iff_of_true rfl ⟨hsupported', hreleased', hstable', ?_⟩
            intro other hother
            rw [hself] at hother
            obtain rfl := Option.some.inj hother
            exact Version.not_lt.mp hupward

theorem upgradePathValidation_decides (versionTag : Option String) (ns : String)
    (allowUnstable : Bool) :
    Decides (upgradePathValidation versionTag ns allowUnstable) site
      (∃ text source, sourceVersion site.deployments = .ok text ∧
        Version.parse text = some source ∧ PathAccepted versionTag allowUnstable source) := by
  have hread := @getSourceVersion_serves site ns
  cases hsource : sourceVersion site.deployments with
  | error error =>
    rw [hsource] at hread
    refine Decides.bind_error hread ?_
    rintro ⟨text, source, htext, -⟩
    cases htext
  | ok text =>
    rw [hsource] at hread
    refine Decides.bind hread ?_
    cases hparse : Version.parse text with
    | none =>
      refine Decides.fail ?_
      rintro ⟨other, source, hother, hparse', -⟩
      cases hother
      rw [hparse] at hparse'
      cases hparse'
    | some source =>
      have hcondition : (∃ other source', (.ok text : Except CheckError String) = .ok other ∧
          Version.parse other = some source' ∧ PathAccepted versionTag allowUnstable source') ↔
            PathAccepted versionTag allowUnstable source := by
        constructor
        · rintro ⟨other, source', hother, hparse', haccepted⟩
          cases hother
          rw [hparse] at hparse'
          cases hparse'
          exact haccepted
        · exact fun haccepted ↦ ⟨text, source, rfl, hparse, haccepted⟩
      refine Decides.congr ?_ hcondition.symm
      cases hrefusal : pathRefusal versionTag allowUnstable source with
      | none =>
        simp only [hrefusal]
        exact Decides.pure (pathRefusal_eq_none_iff.mp hrefusal)
      | some refusal =>
        simp only [hrefusal]
        refine refuse_decides fun haccepted ↦ ?_
        rw [pathRefusal_eq_none_iff.mpr haccepted] at hrefusal
        cases hrefusal

/-- Visiting the volumes finds a rebuild exactly if one of them has it. -/
theorem visitAll_isRebuilding (volumes : List Volume) :
    OffsetPages.visitAll
      (fun _ volume ↦ if volume.isRebuilding then .error true else .ok ()) (fun _ ↦ false) ()
        volumes = volumes.any Volume.isRebuilding := by
  induction volumes with
  | nil => rfl
  | cons volume rest ih =>
    rw [OffsetPages.visitAll, List.foldlM_cons, List.any_cons]
    cases hrebuilding : volume.isRebuilding with
    | true => rfl
    | false => exact ih

theorem isRebuilding_eq_false_iff {volume : Volume} :
    volume.isRebuilding = false ↔ ∀ children, volume.target = some children →
      ∀ progress ∈ children, progress = none := by
  unfold Volume.isRebuilding
  cases volume.target with
  | none => simp
  | some children => simp [List.any_eq_false]

theorem rebuildInProgressValidation_decides :
    Decides rebuildInProgressValidation site (∀ volume ∈ site.volumes, ∀ children,
      volume.target = some children → ∀ progress ∈ children, progress = none) := by
  have hpages := site.paging.pages maxEntries (by decide) site.volumes
  obtain ⟨cost, hserves⟩ := OffsetPages.visitPages_serves hpages getVolumes_serves ()
  rw [visitAll_isRebuilding] at hserves
  refine Decides.bind hserves ?_
  cases hany : site.volumes.any Volume.isRebuilding with
  | true =>
    refine refuse_decides fun hnone ↦ ?_
    obtain ⟨volume, hvolume, hrebuilding⟩ := List.any_eq_true.mp hany
    rw [isRebuilding_eq_false_iff.mpr (hnone volume hvolume)] at hrebuilding
    cases hrebuilding
  | false =>
    refine Decides.pure fun volume hvolume ↦ isRebuilding_eq_false_iff.mp ?_
    exact Bool.eq_false_iff.mpr (List.any_eq_false.mp hany volume hvolume)

/-- No node is cordoned exactly if every node has a spec and none says so. -/
theorem cordonedNodes_eq_nil_iff (nodes : List StorageNode) :
    cordonedNodes nodes = .ok [] ↔
      ∀ node ∈ nodes, ∃ state, node.spec = some state ∧ state ≠ some .cordonedstate := by
  induction nodes with
  | nil => simp [cordonedNodes]
  | cons node rest ih =>
    rw [List.forall_mem_cons, ← ih, cordonedNodes]
    cases hspec : node.spec with
    | none => simp
    | some state =>
      cases hrest : cordonedNodes rest with
      | error error => simp [Bind.bind, Except.bind]
      | ok cordoned =>
        by_cases hstate : state = some .cordonedstate
        · simp [Bind.bind, Except.bind, hstate]
        · simp [Bind.bind, Except.bind, hstate]

theorem alreadyCordonedNodesValidation_decides :
    Decides alreadyCordonedNodesValidation site
      (∀ node ∈ site.nodes, ∃ state, node.spec = some state ∧ state ≠ some .cordonedstate) := by
  refine Decides.bind (Serves.query _ _ _) ?_
  rw [← cordonedNodes_eq_nil_iff]
  cases cordonedNodes site.nodes with
  | error error => exact Decides.bind_error (Serves.fail error) fun hok ↦ by cases hok
  | ok cordoned =>
    refine Decides.bind (Serves.pure cordoned) ?_
    cases cordoned with
    | nil => exact Decides.pure rfl
    | cons first others => exact refuse_decides fun hok ↦ by cases hok

/-- Visiting the volumes collects those with a single replica. -/
theorem visitAll_singleReplica (volumes : List Volume) (ids : List String) :
    OffsetPages.visitAll
      (fun ids volume ↦ .ok
        (if volume.numReplicas = SINGLE_REPLICA_VOLUME then ids ++ [volume.uuid] else ids)) id ids
        volumes =
      ids ++ (volumes.filter fun volume ↦ volume.numReplicas = SINGLE_REPLICA_VOLUME).map
        Volume.uuid := by
  induction volumes generalizing ids with
  | nil => simp [OffsetPages.visitAll, Pure.pure, Except.pure]
  | cons volume rest ih =>
    rw [OffsetPages.visitAll, List.foldlM_cons]
    by_cases hsingle : volume.numReplicas = SINGLE_REPLICA_VOLUME
    · have hrest := ih (ids ++ [volume.uuid])
      simpa [OffsetPages.visitAll, hsingle, Bind.bind, Except.bind] using hrest
    · have hrest := ih ids
      simpa [OffsetPages.visitAll, hsingle, Bind.bind, Except.bind] using hrest

theorem singleVolumeReplicaValidation_decides :
    Decides singleVolumeReplicaValidation site
      (∀ volume ∈ site.volumes, volume.numReplicas ≠ SINGLE_REPLICA_VOLUME) := by
  have hpages := site.paging.pages maxEntries (by decide) site.volumes
  obtain ⟨cost, hserves⟩ := OffsetPages.visitPages_serves hpages getVolumes_serves []
  rw [visitAll_singleReplica, List.nil_append] at hserves
  refine Decides.bind hserves ?_
  cases hsingle : site.volumes.filter fun volume ↦
      volume.numReplicas = SINGLE_REPLICA_VOLUME with
  | nil =>
    refine Decides.pure fun volume hvolume hone ↦ ?_
    have hnot := List.filter_eq_nil_iff.mp hsingle volume hvolume
    exact hnot (by simpa using hone)
  | cons volume others =>
    have hclaims : Serves 2 (getPvcFromUuid ((volume :: others).map Volume.uuid)) site
        (.ok (pvcFromUuid ((volume :: others).map Volume.uuid) site.claims)) site :=
      Serves.query_bind (Serves.query_bind (Serves.pure _))
    refine Decides.bind hclaims (refuse_decides fun hnone ↦ ?_)
    have hmem : volume ∈ site.volumes.filter fun volume ↦
        volume.numReplicas = SINGLE_REPLICA_VOLUME := by
      rw [hsingle]
      exact List.mem_cons_self
    obtain ⟨hvolume, hone⟩ := List.mem_filter.mp hmem
    exact hnone volume hvolume (by simpa using hone)

end Decides

/-- On an installation that does not change and answers every request, the checks end, and they
return without an error exactly if every check that is not switched off is passed: the path is
accepted, no volume has a child with a rebuild in progress, every node has a spec and none is
cordoned, and no volume has a single replica.  Volumes count on whichever page they are listed. -/
theorem preflightCheck_accepts_iff (versionTag : Option String) (ns : String)
    (args : PreflightArgs) (site : Site) :
    Decides (preflightCheck versionTag ns args) site (Acceptable versionTag args site) := by
  refine Decides.bind (Serves.record _) (Decides.bind (Serves.query _ _ _) ?_)
  refine Decides.congr (Decides.and
    (unlessSkipped_decides (upgradePathValidation_decides versionTag ns args.allowUnstable))
    (Decides.and (unlessSkipped_decides rebuildInProgressValidation_decides)
      (Decides.and (unlessSkipped_decides alreadyCordonedNodesValidation_decides)
        (unlessSkipped_decides singleVolumeReplicaValidation_decides)))) ⟨?_, ?_⟩
  · rintro ⟨hpath, hrebuilds, hnodes, hreplicas⟩
    exact ⟨hpath, hrebuilds, hnodes, hreplicas⟩
  · rintro ⟨hpath, hrebuilds, hnodes, hreplicas⟩
    exact ⟨hpath, hrebuilds, hnodes, hreplicas⟩

/-! ## The second check of the path -/

/-- The upgrade-job accepts a path that leads upward from a supported version. -/
theorem validateUpgradePath_ok_iff {source target : Version} :
    UpgradeJob.validateUpgradePath false source target = .ok () ↔
      source ∉ UpgradeJob.unsupportedVersions ∧ source ≤ target := by
  unfold UpgradeJob.validateUpgradePath UpgradeJob.isValidForCoreChart
  rw [if_neg Bool.false_ne_true]
  split
  next hrollback => simp [hrollback]
  next hupward =>
    have hupward' : source ≤ target := not_not.mp hupward
    by_cases hunsupported : source ∈ UpgradeJob.unsupportedVersions
    · simp [hunsupported]
    · simp [hunsupported, hupward']

/-- The plugin and the upgrade-job judge a path alike: with the version of the build as the target,
the plugin's check lets exactly those paths through that the upgrade-job's does, apart from builds
of a development branch and from the step from a stable version to an unstable one. -/
theorem pathRefusal_eq_none_iff_job {versionTag : Option String} {allowUnstable : Bool}
    {source target : Version} (htarget : selfVersion versionTag = some target) :
    pathRefusal versionTag allowUnstable source = none ↔
      UpgradeJob.validateUpgradePath false source target = .ok () ∧
        ¬UPGRADE_TO_DEVELOP_BRANCH.toList <:+: (getImageVersionTag versionTag).toList ∧
          (allowUnstable = true ∨ source.pre ≠ [] ∨ target.pre = []) := by
  rw [pathRefusal_eq_none_iff, validateUpgradePath_ok_iff]
  constructor
  · intro haccepted
    refine ⟨⟨haccepted.supported, haccepted.upward target htarget⟩, haccepted.released, ?_⟩
    rcases haccepted.stable with hallow | hsource | ⟨version, hversion, hstable⟩
    · exact .inl hallow
    · exact .inr (.inl hsource)
    · rw [htarget] at hversion
      obtain rfl := Option.some.inj hversion
      exact .inr (.inr hstable)
  · rintro ⟨⟨hsupported, hupward⟩, hreleased, hstable⟩
    refine ⟨hsupported, hreleased, ?_, ?_⟩
    · rcases hstable with hallow | hsource | hself
      · exact .inl hallow
      · exact .inr (.inl hsource)
      · exact .inr (.inr ⟨target, htarget, hself⟩)
    · intro version hversion
      rw [htarget] at hversion
      obtain rfl := Option.some.inj hversion
      exact hupward

theorem pathRefusal_eq_none_iff_job_release :
    selfVersion (some "v2.7.0") = some ⟨2, 7, 0, [], []⟩ ∧
      (pathRefusal (some "v2.7.0") false ⟨2, 6, 1, [], []⟩ = none ↔
        UpgradeJob.validateUpgradePath false ⟨2, 6, 1, [], []⟩ ⟨2, 7, 0, [], []⟩ = .ok () ∧
          ¬UPGRADE_TO_DEVELOP_BRANCH.toList <:+: (getImageVersionTag (some "v2.7.0")).toList ∧
            (false = true ∨ (⟨2, 6, 1, [], []⟩ : Version).pre ≠ [] ∨
              (⟨2, 7, 0, [], []⟩ : Version).pre = [])) := by
  have htarget : selfVersion (some "v2.7.0") = some ⟨2, 7, 0, [], []⟩ := by decide +kernel
  exact ⟨htarget, pathRefusal_eq_none_iff_job htarget⟩

end MayastorExtensions.Plugin
