import Mathlib.Logic.Function.Basic
import MayastorExtensions.Library.Scheduled

/-!
# Upgrade resources

The plugin creates five Kubernetes objects for an upgrade and deletes them again
(`plugin/upgrade.rs`): a ServiceAccount, a ClusterRole, a ClusterRoleBinding, a ConfigMap and the
Job.  Each is looked up first, so that creation and deletion can be repeated after a failure.  The
command that deletes them asks for the state of the Job before it starts, and without an answer it
does not start, whether it is forced or not.
-/

namespace MayastorExtensions.Plugin

open Scheduled

/-! ## Objects -/

/-- The kinds of the objects that are told apart by name alone. -/
inductive Kind where
  | serviceAccount
  | clusterRole
  | clusterRoleBinding
  deriving DecidableEq, Repr

structure Container where
  image : Option String
  imagePullPolicy : Option String

structure PodSpec where
  containers : List Container
  imagePullSecrets : Option (List String)

/-- The parts of the api-rest Deployment that the plugin reads; `spec` is `.spec` and the inner
option `.spec.template.spec`. -/
structure Deployment where
  labels : Option (List (String × String))
  spec : Option (Option PodSpec)

structure JobStatus where
  succeeded : Option Int
  deriving DecidableEq, Repr

/-- The upgrade Job: what its container runs with, and its status. -/
structure Job where
  image : String
  args : List String
  imagePullSecrets : Option (List String)
  imagePullPolicy : Option String
  status : Option JobStatus
  deriving DecidableEq, Repr

/-- The Kubernetes objects under their names. -/
structure Kube where
  deployments : List Deployment
  objects : Kind → String → Bool
  configMaps : String → Option (List (String × String))
  jobs : String → Option Job

inductive Error where
  | k8sClientGeneration
  | k8sClient
  | listDeploymantsWithLabel (label namespace_ : String)
  | noDeploymentPresent
  | get (kind : Kind) (name : String)
  | create (kind : Kind) (name : String)
  | delete (kind : Kind) (name : String)
  | getUpgradeConfigMap (name : String)
  | upgradeConfigMapCreate (name : String)
  | upgradeConfigMapDelete (name : String)
  | getUpgradeJob (name : String)
  | upgradeJobCreate (name : String)
  | upgradeJobDelete (name : String)
  | upgradeJobStatusNotPresent (name : String)
  | upgradeJobNotPresent (name namespace_ : String)
  | referenceDeploymentNoSpec
  | referenceDeploymentNoPodTemplateSpec
  | referenceDeploymentNoContainers
  | referenceDeploymentNoImage
  | referenceDeploymentInvalidImage
  | invalidSetFileArguments (arguments : String)
  | readFromFile (filepath : String)
  | specifiedKeyNotPresent
  deriving DecidableEq, Repr

/-! ## Requests -/

/-- The requests of the plugin, clients included. -/
inductive Call where
  | tryDefault
  | listDeployments
  | getOpt (kind : Kind) (name : String)
  | create (kind : Kind) (name : String)
  | delete (kind : Kind) (name : String)
  | getOptConfigMap (name : String)
  | createConfigMap (name : String)
  | deleteConfigMap (name : String)
  | getOptJob (name : String)
  | createJob (name : String)
  | deleteJob (name : String)
  deriving DecidableEq, Repr

/-- The Job controller writes the status of the Job. -/
inductive Move where
  | setStatus (name : String) (status : Option JobStatus)

instance : Interferes Kube Move where
  move
    | .setStatus name status, kube =>
      { kube with
        jobs := Function.update kube.jobs name
          ((kube.jobs name).map fun job ↦ { job with status := status }) }

/-- A computation of the plugin. -/
abbrev Command (α : Type) := Program Kube Move Call Error α

namespace Kube

def setObject (kind : Kind) (name : String) (present : Bool) (kube : Kube) : Kube :=
  { kube with
    objects := Function.update kube.objects kind
      (Function.update (kube.objects kind) name present) }

def setConfigMap (name : String) (data : Option (List (String × String))) (kube : Kube) : Kube :=
  { kube with configMaps := Function.update kube.configMaps name data }

def setJob (name : String) (job : Option Job) (kube : Kube) : Kube :=
  { kube with jobs := Function.update kube.jobs name job }

end Kube

/-! ## Names -/

def productName : String := "mayastor"

def DEFAULT_RELEASE_NAME : String := productName

def helmReleaseNameKey : String := "openebs.io/release"

def API_REST_LABEL_SELECTOR : String := "app=api-rest"

def DEFAULT_IMAGE_REGISTRY : String := "docker.io"

def UPGRADE_JOB_IMAGE_REPO : String := "openebs"

def upgradeJobImg : String := productName ++ "-upgrade-job"

def UPGRADE_JOB_IMAGE_TAG : String := "develop"

def UPGRADE_JOB_NAME_SUFFIX : String := "upgrade"

def UPGRADE_CONFIG_MAP_NAME_SUFFIX : String := "upgrade-config-map"

def UPGRADE_CONFIG_MAP_MOUNT_PATH : String := "/upgrade-config-map"

/-- The suffixes of the names of the objects of the three kinds. -/
def Kind.nameSuffix : Kind → String
  | .serviceAccount => "upgrade-service-account"
  | .clusterRole => "upgrade-role"
  | .clusterRoleBinding => "upgrade-role-binding"

section Command

/- The version tag of the build, if it has one. -/
variable (versionTag : Option String)

def getImageVersionTag : String := versionTag.getD UPGRADE_JOB_IMAGE_TAG

def upgradeObjSuffix : String :=
  String.ofList ((getImageVersionTag versionTag).toList.map fun c ↦ if c = '.' then '-' else c)

def upgradeNameConcat (releaseName componentName : String) : String :=
  releaseName ++ "-" ++ componentName ++ "-" ++ upgradeObjSuffix versionTag

def upgradeImageConcat (imageRegistry imageRepo imageName imageTag : String) : String :=
  imageRegistry ++ "/" ++ imageRepo ++ "/" ++ imageName ++ ":" ++ imageTag

/-! ## The reference Deployment -/

def getDeploymentForRest (ns : String) : Command Deployment := do
  Program.query .tryDefault .k8sClient fun _ ↦ ()
  let deployments ← Program.query .listDeployments
    (.listDeploymantsWithLabel API_REST_LABEL_SELECTOR ns) Kube.deployments
  match deployments with
  | [] => Program.fail .noDeploymentPresent
  | deployment :: _ => pure deployment

/-- The release name in the labels of a Deployment. -/
def Deployment.releaseName (deployment : Deployment) : String :=
  match deployment.labels with
  | some labels => (labels.lookup helmReleaseNameKey).getD DEFAULT_RELEASE_NAME
  | none => DEFAULT_RELEASE_NAME

def getReleaseName (ns : String) : Command String := do
  let deployment ← getDeploymentForRest ns
  pure deployment.releaseName

structure ImageProperties where
  pullSecrets : Option (List String)
  registry : String
  pullPolicy : Option String

/-- A string cut at every occurrence of a character. -/
def split (delimiter : Char) (text : String) : List String :=
  (text.toList.splitOn delimiter).map String.ofList

theorem length_split (delimiter : Char) (text : String) :
    (split delimiter text).length = text.toList.count delimiter + 1 := by
  rw [split, List.length_map]
  induction text.toList with
  | nil => simp
  | cons head rest ih =>
    rw [List.splitOn_cons_eq_if_modifyHead, List.count_cons]
    split <;> simp [ih]

def ImageProperties.tryFrom (d : Deployment) : Except Error ImageProperties :=
  match d.spec with
  | none => .error .referenceDeploymentNoSpec
  | some none => .error .referenceDeploymentNoPodTemplateSpec
  | some (some podSpec) =>
    match podSpec.containers with
    | [] => .error .referenceDeploymentNoContainers
    | container :: _ =>
      match container.image with
      | none => .error .referenceDeploymentNoImage
      | some image =>
        match split '/' image with
        | [] | [_] => .error .referenceDeploymentInvalidImage
        | [first, _, _] => .ok ⟨podSpec.imagePullSecrets, first, container.imagePullPolicy⟩
        | _ => .ok ⟨podSpec.imagePullSecrets, DEFAULT_IMAGE_REGISTRY, container.imagePullPolicy⟩

/-! ## Files of the command line -/

/-- The arguments of an upgrade, with the file system they refer to. -/
structure UpgradeArgs where
  registry : Option String
  skipDataPlaneRestart : Bool
  skipUpgradePathValidationForUnsupportedVersion : Bool
  set : List String
  setFile : List String
  readToString : String → Option String

def UpgradeArgs.new : UpgradeArgs := ⟨none, false, false, [], [], fun _ ↦ none⟩

/-- The data of the ConfigMap and the index of every file, from the given index on. -/
def configMapData (readToString : String → Option String) :
    ℕ → List String → Except Error (List (String × String) × List (String × String))
  | _, [] => .ok ([], [])
  | index, file :: rest =>
    match split '=' file with
    | [_, filepath] =>
      match readToString filepath with
      | none => .error (.readFromFile filepath)
      | some values => do
        let (data, map) ← configMapData readToString (index + 1) rest
        .ok ((toString index, values) :: data, (filepath, toString index) :: map)
    | _ => .error (.invalidSetFileArguments file)

def createConfigMapData (args : UpgradeArgs) :
    Except Error (List (String × String) × List (String × String)) :=
  configMapData args.readToString 1 args.setFile

/-- The last index that was inserted for a path, as in a map that is overwritten. -/
def mappedFile (map : List (String × String)) (filepath : String) : Option String :=
  map.reverse.lookup filepath

def createHelmSetFileArgs (args : UpgradeArgs) (setFileMap : Option (List (String × String))) :
    Except Error (Option String) :=
  if args.setFile.isEmpty then .ok none
  else do
    let setFileArgs ← args.setFile.mapM fun file ↦
      match split '=' file with
      | [key, filepath] =>
        match setFileMap.bind fun map ↦ mappedFile map filepath with
        | none => .error .specifiedKeyNotPresent
        | some mapped => .ok (key ++ "=" ++ UPGRADE_CONFIG_MAP_MOUNT_PATH ++ "/" ++ mapped)
      | _ => .error (.invalidSetFileArguments file)
    .ok (some (",".intercalate setFileArgs))

/-! ## The five objects -/

inductive Actions where
  | create
  | delete
  deriving DecidableEq

/-- Create or delete an object that is told apart by its name. -/
def objectActions (kind : Kind) (releaseName : String) (action : Actions) : Command Unit := do
  let name := upgradeNameConcat versionTag releaseName kind.nameSuffix
  let found ← Program.query (.getOpt kind name) (.get kind name) fun kube ↦ kube.objects kind name
  match found, action with
  | true, .create => pure ()
  | true, .delete =>
    Program.request (.delete kind name) (.delete kind name) (Kube.setObject kind name false)
      fun _ ↦ ()
  | false, .create =>
    Program.request (.create kind name) (.create kind name) (Kube.setObject kind name true)
      fun _ ↦ ()
  | false, .delete => pure ()

def serviceAccountActions : String → Actions → Command Unit :=
  objectActions versionTag .serviceAccount

def clusterRoleActions : String → Actions → Command Unit :=
  objectActions versionTag .clusterRole

def clusterRoleBindingActions : String → Actions → Command Unit :=
  objectActions versionTag .clusterRoleBinding

def deleteConfigMap (name : String) : Command Unit :=
  Program.request (.deleteConfigMap name) (.upgradeConfigMapDelete name)
    (Kube.setConfigMap name none) fun _ ↦ ()

def createConfigMap (name : String) (data : List (String × String)) : Command Unit :=
  Program.request (.createConfigMap name) (.upgradeConfigMapCreate name)
    (Kube.setConfigMap name (some data)) fun _ ↦ ()

/-- Create or delete the ConfigMap; an existing one is replaced on creation. -/
def configMapActions (releaseName : String) (action : Actions) (args : UpgradeArgs) :
    Command (List (String × String)) := do
  let name := upgradeNameConcat versionTag releaseName UPGRADE_CONFIG_MAP_NAME_SUFFIX
  let data ← Program.ofExcept (createConfigMapData args)
  let found ← Program.query (.getOptConfigMap name) (.getUpgradeConfigMap name) fun kube ↦
    (kube.configMaps name).isSome
  match found, action with
  | true, .create => do
    deleteConfigMap name
    createConfigMap name data.1
    pure data.2
  | true, .delete => do
    deleteConfigMap name
    pure data.2
  | false, .create => do
    createConfigMap name data.1
    pure data.2
  | false, .delete => pure data.2

/-- The Job of `objects::upgrade_job`.  The API server gives it an empty status. -/
def upgradeJob (ns upgradeImage releaseName : String) (args : UpgradeArgs) (setFile : String)
    (imagePullSecrets : Option (List String)) (imagePullPolicy : Option String) : Job where
  image := upgradeImage
  args :=
    ["--rest-endpoint=http://" ++ releaseName ++ "-api-rest:8081",
      "--namespace=" ++ ns,
      "--release-name=" ++ releaseName,
      "--helm-args-set=" ++ ",".intercalate args.set,
      "--helm-args-set-file=" ++ setFile] ++
    (if args.skipDataPlaneRestart then ["--skip-data-plane-restart"] else []) ++
    (if args.skipUpgradePathValidationForUnsupportedVersion then
      ["--skip-upgrade-path-validation"] else [])
  imagePullSecrets := imagePullSecrets
  imagePullPolicy := imagePullPolicy
  status := some ⟨none⟩

/-- Create or delete the Job. -/
def jobActions (ns releaseName : String) (action : Actions) (args : UpgradeArgs)
    (setFileMap : Option (List (String × String))) : Command Unit := do
  let name := upgradeNameConcat versionTag releaseName UPGRADE_JOB_NAME_SUFFIX
  let found ← Program.query (.getOptJob name) (.getUpgradeJob name) fun kube ↦
    (kube.jobs name).isSome
  match found, action with
  | true, .create => pure ()
  | true, .delete =>
    Program.request (.deleteJob name) (.upgradeJobDelete name) (Kube.setJob name none) fun _ ↦ ()
  | false, .create => do
    let restDeployment ← getDeploymentForRest ns
    let img ← Program.ofExcept (ImageProperties.tryFrom restDeployment)
    let setFile ← Program.ofExcept (createHelmSetFileArgs args setFileMap)
    let image := upgradeImageConcat (args.registry.getD img.registry) UPGRADE_JOB_IMAGE_REPO
      upgradeJobImg (getImageVersionTag versionTag)
    Program.request (.createJob name) (.upgradeJobCreate name)
      (Kube.setJob name (some (upgradeJob ns image releaseName args (setFile.getD "")
        img.pullSecrets img.pullPolicy))) fun _ ↦ ()
  | false, .delete => pure ()

/-! ## Creation and deletion -/

/-- The clients, and the release name the objects are named after. -/
def newUpgradeResources (ns : String) : Command String := do
  Program.query .tryDefault .k8sClientGeneration fun _ ↦ ()
  getReleaseName ns

def createUpgradeResources (ns : String) (args : UpgradeArgs) : Command Unit := do
  let releaseName ← newUpgradeResources ns
  serviceAccountActions versionTag releaseName .create
  clusterRoleActions versionTag releaseName .create
  clusterRoleBindingActions versionTag releaseName .create
  let setFileMap ← configMapActions versionTag releaseName .create args
  jobActions versionTag ns releaseName .create args (some setFileMap)

def deleteUpgradeResources (ns : String) : Command Unit := do
  let releaseName ← newUpgradeResources ns
  let args := UpgradeArgs.new
  jobActions versionTag ns releaseName .delete args none
  let _ ← configMapActions versionTag releaseName .delete args
  clusterRoleBindingActions versionTag releaseName .delete
  clusterRoleActions versionTag releaseName .delete
  serviceAccountActions versionTag releaseName .delete

def isUpgradeJobCompleted (ns : String) : Command Bool := do
  let releaseName ← newUpgradeResources ns
  let name := upgradeNameConcat versionTag releaseName UPGRADE_JOB_NAME_SUFFIX
  let optionJob ← Program.query (.getOptJob name) (.getUpgradeJob name) fun kube ↦ kube.jobs name
  match optionJob with
  | some job =>
    match job.status with
    | none => Program.fail (.upgradeJobStatusNotPresent name)
    | some status => pure (status.succeeded = some 1)
  | none => Program.fail (.upgradeJobNotPresent name ns)

/-- `DeleteUpgradeArgs::delete`. -/
def deleteUpgrade (force : Bool) (ns : String) : Command Unit := do
  let jobCompleted ← isUpgradeJobCompleted versionTag ns
  if jobCompleted || force then deleteUpgradeResources versionTag ns else pure ()

/-! ## Undisturbed deletion -/

/-- The objects of the three kinds, the ConfigMap and the Job of a release are gone. -/
def Kube.Cleaned (kube : Kube) (releaseName : String) : Prop :=
  (∀ kind : Kind, kube.objects kind (upgradeNameConcat versionTag releaseName kind.nameSuffix) =
      false) ∧
    kube.configMaps (upgradeNameConcat versionTag releaseName UPGRADE_CONFIG_MAP_NAME_SUFFIX) =
      none ∧
    kube.jobs (upgradeNameConcat versionTag releaseName UPGRADE_JOB_NAME_SUFFIX) = none

theorem setObject_of_absent {kube : Kube} {kind : Kind} {name : String}
    (h : kube.objects kind name = false) : kube.setObject kind name false = kube := by
  have hinner : Function.update (kube.objects kind) name false = kube.objects kind := by
    rw [← h, Function.update_eq_self]
  simp [Kube.setObject, hinner]

theorem setConfigMap_of_absent {kube : Kube} {name : String} (h : kube.configMaps name = none) :
    kube.setConfigMap name none = kube := by
  simp [Kube.setConfigMap, ← h]

theorem setJob_of_absent {kube : Kube} {name : String} (h : kube.jobs name = none) :
    kube.setJob name none = kube := by
  simp [Kube.setJob, ← h]

theorem getDeploymentForRest_serves {kube : Kube} {deployment : Deployment} (ns : String)
    (h : kube.deployments.head? = some deployment) :
    Serves 2 (getDeploymentForRest ns) kube (.ok deployment) kube := by
  obtain ⟨rest, hrest⟩ := List.head?_eq_some_iff.mp h
  refine Serves.query_bind (Serves.query_bind ?_)
  rw [hrest]
  exact Serves.pure deployment

theorem newUpgradeResources_serves {kube : Kube} {deployment : Deployment} (ns : String)
    (h : kube.deployments.head? = some deployment) :
    Serves 3 (newUpgradeResources ns) kube (.ok deployment.releaseName) kube :=
  Serves.query_bind ((getDeploymentForRest_serves ns h).bind (Serves.pure _))

/-- Without a Deployment there is no release name. -/
theorem newUpgradeResources_fails {kube : Kube} (ns : String)
    (h : kube.deployments.head? = none) :
    Serves 3 (newUpgradeResources ns) kube (.error .noDeploymentPresent) kube := by
  have hdeployment :
      Serves 2 (getDeploymentForRest ns) kube (.error .noDeploymentPresent) kube := by
    refine Serves.query_bind (Serves.query_bind ?_)
    rw [List.head?_eq_none_iff.mp h]
    exact Serves.fail _
  exact Serves.query_bind hdeployment.bind_error

theorem objectActions_delete_serves (kube : Kube) (kind : Kind) (releaseName : String) :
    Serves 2 (objectActions versionTag kind releaseName .delete) kube (.ok ())
      (kube.setObject kind (upgradeNameConcat versionTag releaseName kind.nameSuffix) false) := by
  refine Serves.query_bind ?_
  cases hfound : kube.objects kind (upgradeNameConcat versionTag releaseName kind.nameSuffix) with
  | true => exact Serves.request _ _ _ _
  | false =>
    rw [setObject_of_absent hfound]
    exact (Serves.pure ()).mono (Nat.zero_le 1)

theorem configMapActions_delete_serves (kube : Kube) (releaseName : String) :
    Serves 2 (configMapActions versionTag releaseName .delete UpgradeArgs.new) kube (.ok [])
      (kube.setConfigMap
        (upgradeNameConcat versionTag releaseName UPGRADE_CONFIG_MAP_NAME_SUFFIX) none) := by
  refine (Serves.pure _).bind (Serves.query_bind ?_)
  cases hfound : kube.configMaps
      (upgradeNameConcat versionTag releaseName UPGRADE_CONFIG_MAP_NAME_SUFFIX) with
  | some data => exact (Serves.request _ _ _ _).bind (Serves.pure _)
  | none =>
    rw [setConfigMap_of_absent hfound]
    exact (Serves.pure _).mono (Nat.zero_le 1)

theorem jobActions_delete_serves (kube : Kube) (ns releaseName : String) :
    Serves 2 (jobActions versionTag ns releaseName .delete UpgradeArgs.new none) kube (.ok ())
      (kube.setJob (upgradeNameConcat versionTag releaseName UPGRADE_JOB_NAME_SUFFIX) none) := by
  refine Serves.query_bind ?_
  cases hfound : kube.jobs (upgradeNameConcat versionTag releaseName UPGRADE_JOB_NAME_SUFFIX) with
  | some job => exact Serves.request _ _ _ _
  | none =>
    rw [setJob_of_absent hfound]
    exact (Serves.pure ()).mono (Nat.zero_le 1)

/-- The cluster without the upgrade objects of a release. -/
def Kube.withoutUpgrade (releaseName : String) (kube : Kube) : Kube :=
  (((((kube.setJob (upgradeNameConcat versionTag releaseName UPGRADE_JOB_NAME_SUFFIX) none)
    ).setConfigMap (upgradeNameConcat versionTag releaseName UPGRADE_CONFIG_MAP_NAME_SUFFIX) none
    ).setObject .clusterRoleBinding
      (upgradeNameConcat versionTag releaseName Kind.clusterRoleBinding.nameSuffix) false
    ).setObject .clusterRole
      (upgradeNameConcat versionTag releaseName Kind.clusterRole.nameSuffix) false
    ).setObject .serviceAccount
      (upgradeNameConcat versionTag releaseName Kind.serviceAccount.nameSuffix) false

theorem withoutUpgrade_cleaned (releaseName : String) (kube : Kube) :
    (kube.withoutUpgrade versionTag releaseName).Cleaned versionTag releaseName := by
  refine ⟨fun kind ↦ ?_, ?_, ?_⟩
  · cases kind <;> simp [Kube.withoutUpgrade, Kube.setObject]
  · simp [Kube.withoutUpgrade, Kube.setObject, Kube.setConfigMap]
  · simp [Kube.withoutUpgrade, Kube.setObject, Kube.setConfigMap, Kube.setJob]

/-- Undisturbed, the deletion removes whatever is there. -/
theorem deleteUpgradeResources_serves {kube : Kube} {deployment : Deployment} (ns : String)
    (h : kube.deployments.head? = some deployment) :
    Serves 13 (deleteUpgradeResources versionTag ns) kube (.ok ())
      (kube.withoutUpgrade versionTag deployment.releaseName) :=
  (newUpgradeResources_serves ns h).bind
    ((jobActions_delete_serves versionTag kube ns _).bind
      ((configMapActions_delete_serves versionTag _ _).bind
        ((objectActions_delete_serves versionTag _ .clusterRoleBinding _).bind
          ((objectActions_delete_serves versionTag _ .clusterRole _).bind
            (objectActions_delete_serves versionTag _ .serviceAccount _)))))

/-! ## The forced deletion -/

/-- The upgrade Job is there and has a status. -/
def Kube.JobReports (kube : Kube) : Prop :=
  ∃ deployment, kube.deployments.head? = some deployment ∧
    ∃ job, kube.jobs (upgradeNameConcat versionTag deployment.releaseName
      UPGRADE_JOB_NAME_SUFFIX) = some job ∧ job.status ≠ none

theorem isUpgradeJobCompleted_serves {kube : Kube} (ns : String)
    (h : kube.JobReports versionTag) :
    ∃ completed, Serves 4 (isUpgradeJobCompleted versionTag ns) kube (.ok completed) kube := by
  obtain ⟨deployment, hdeployment, job, hjob, hstatus⟩ := h
  obtain ⟨status, hsome⟩ := Option.ne_none_iff_exists'.mp hstatus
  refine ⟨decide (status.succeeded = some 1), ?_⟩
  refine (newUpgradeResources_serves ns hdeployment).bind (Serves.query_bind ?_)
  simp only [hjob, hsome]
  exact Serves.pure _

/-- Without a Job that has a status there is no answer. -/
theorem isUpgradeJobCompleted_fails {kube : Kube} (ns : String)
    (h : ¬kube.JobReports versionTag) :
    ∃ error, Serves 4 (isUpgradeJobCompleted versionTag ns) kube (.error error) kube := by
  cases hdeployment : kube.deployments.head? with
  | none =>
    exact ⟨_, (newUpgradeResources_fails ns hdeployment).bind_error.mono (by decide)⟩
  | some deployment =>
    cases hjob : kube.jobs
        (upgradeNameConcat versionTag deployment.releaseName UPGRADE_JOB_NAME_SUFFIX) with
    | none =>
      refine ⟨.upgradeJobNotPresent
        (upgradeNameConcat versionTag deployment.releaseName UPGRADE_JOB_NAME_SUFFIX) ns,
        (newUpgradeResources_serves ns hdeployment).bind (Serves.query_bind ?_)⟩
      simp only [hjob]
      exact Serves.fail _
    | some job =>
      have hstatus : job.status = none := by
        by_contra hsome
        exact h ⟨deployment, hdeployment, job, hjob, hsome⟩
      refine ⟨.upgradeJobStatusNotPresent
        (upgradeNameConcat versionTag deployment.releaseName UPGRADE_JOB_NAME_SUFFIX),
        (newUpgradeResources_serves ns hdeployment).bind (Serves.query_bind ?_)⟩
      simp only [hjob, hstatus]
      exact Serves.fail _

/-- A forced deletion in which no request fails returns without an error and leaves none of the
five objects, if and only if the Job exists and has a status. -/
theorem deleteUpgrade_forced_cleans_iff (ns : String) (kube : Kube) (spare : ℕ) :
    ((deleteUpgrade versionTag true ns ⟨kube, undisturbed (17 + spare), []⟩).1 = .ok () ∧
      ∀ deployment, kube.deployments.head? = some deployment →
        (deleteUpgrade versionTag true ns
          ⟨kube, undisturbed (17 + spare), []⟩).2.state.Cleaned versionTag
            deployment.releaseName) ↔
      kube.JobReports versionTag := by
  constructor
  · rintro ⟨hok, -⟩
    by_contra hreports
    obtain ⟨error, hfails⟩ := isUpgradeJobCompleted_fails versionTag ns hreports
    have hdelete : Serves 4 (deleteUpgrade versionTag true ns) kube (.error error) kube :=
      hfails.bind_error
    obtain ⟨left, trace, -, hrun⟩ := hdelete (17 + spare) [] (by omega)
    rw [hrun] at hok
    cases hok
  · intro hreports
    obtain ⟨completed, hcompleted⟩ := isUpgradeJobCompleted_serves versionTag ns hreports
    obtain ⟨deployment, hdeployment, -⟩ := hreports
    have hdelete : Serves 17 (deleteUpgrade versionTag true ns) kube (.ok ())
        (kube.withoutUpgrade versionTag deployment.releaseName) := by
      refine hcompleted.bind ?_
      rw [Bool.or_true, if_pos rfl]
      exact deleteUpgradeResources_serves versionTag ns hdeployment
    obtain ⟨left, trace, -, hrun⟩ := hdelete (17 + spare) [] (by omega)
    rw [hrun]
    refine ⟨rfl, fun other hother ↦ ?_⟩
    rw [hdeployment] at hother
    obtain rfl := Option.some.inj hother
    exact withoutUpgrade_cleaned versionTag _ kube

end Command

/-! ## Reachable states -/

/-- The two operations on the upgrade objects. -/
inductive Operation where
  | create (args : UpgradeArgs)
  | delete

/-- One operation in the namespace of the installation. -/
def Operation.run (versionTag : Option String) (ns : String) : Operation → Command Unit
  | .create args => createUpgradeResources versionTag ns args
  | .delete => deleteUpgradeResources versionTag ns

/-- An installation without upgrade objects. -/
def installed : Kube where
  deployments := [⟨none, some (some ⟨[⟨some "docker.io/openebs/mayastor-api-rest:v2.5.0", none⟩],
    none⟩)⟩]
  objects := fun _ _ ↦ false
  configMaps := fun _ ↦ none
  jobs := fun _ ↦ none

/-- The objects are created; their deletion stops at the ConfigMap, with the Job gone. -/
def interruptedDeletion : List (Start Move Operation) :=
  [⟨[], .create UpgradeArgs.new, undisturbed 15⟩,
    ⟨[], .delete, undisturbed 6 ++ [⟨[], .refused⟩]⟩]

/-- A forced deletion of what the interrupted one has left fails on the missing Job, and the
ServiceAccount is still there. -/
theorem deleteUpgrade_forced_stuck :
    ∃ run ∈ restarts (Operation.run none "mayastor") interruptedDeletion installed,
      (deleteUpgrade none true "mayastor" ⟨run.final.state, undisturbed 17, []⟩).1 =
          .error (.failed (.upgradeJobNotPresent "mayastor-upgrade-develop" "mayastor")) ∧
        (deleteUpgrade none true "mayastor"
          ⟨run.final.state, undisturbed 17, []⟩).2.state.objects .serviceAccount
            "mayastor-upgrade-service-account-develop" = true := by
  decide +kernel

end MayastorExtensions.Plugin
