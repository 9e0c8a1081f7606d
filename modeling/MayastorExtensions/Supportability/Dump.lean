import Mathlib.Data.List.Basic

/-!
# Dumps of resources

`execute_resource_dump` collects topologies, logs, Kubernetes resources and the etcd content of a
resource into a temporary directory, copies the directory into an archive and deletes it.  The
branches of the command share two dumpers, `SystemDumper` and `ResourceDumper`, which handle errors
in different ways: some collect them, some return the first one, some drop them.

A stage succeeds or fails as a given pattern says; the state is whether the temporary directory
exists.
-/

namespace MayastorExtensions.Supportability

/-! ## Stages -/

inductive TopologyKind where
  | volume
  | snapshot
  | pool
  | node
  deriving DecidableEq, Repr

/-- What a dump asks other services for, and the copy of an existing directory into the archive. -/
inductive Stage where
  | getTopologer (kind : TopologyKind)
  | dumpTopologyInfo (kind : TopologyKind)
  | controlPlaneLoggingServices
  | dataPlaneLoggingServices
  | upgradeLoggingServices
  | callhomeLoggingServices
  | natsLoggingServices
  | fetchAndDumpLogs
  | dumpK8sResources
  | etcdDump
  | copyToArchive
  deriving DecidableEq, Repr

inductive DumpError where
  | failed (stage : Stage)
  | missingDirectory
  | etcdNotConfigured
  | multipleErrors (errors : List DumpError)

/-- A step of a dump; the state says whether the temporary directory exists. -/
def Dump (α : Type) := Bool → Except DumpError α × Bool

namespace Dump

instance : Monad Dump where
  pure value := fun directory ↦ (.ok value, directory)
  bind program next := fun directory ↦
    match program directory with
    | (.ok value, directory') => next value directory'
    | (.error error, directory') => (.error error, directory')

def fail {α : Type} (error : DumpError) : Dump α := fun directory ↦ (.error error, directory)

/-- Push the error of a step on a list and go on. -/
def collect (program : Dump Unit) : Dump (List DumpError) := fun directory ↦
  match program directory with
  | (.ok _, directory') => (.ok [], directory')
  | (.error error, directory') => (.ok [error], directory')

/-- Return the collected errors, if there are any. -/
def report (errors : List DumpError) : Dump Unit :=
  if errors.isEmpty then pure () else fail (.multipleErrors errors)

/-- Deleting a directory that exists succeeds. -/
def deleteTemporaryDirectory : Dump Unit := fun directory ↦
  if directory then (.ok (), false) else (.error .missingDirectory, false)

end Dump

open Dump

section Dumpers

variable (succeeds : Stage → Bool)

def stage (called : Stage) : Dump Unit := fun directory ↦
  (if succeeds called then .ok () else .error (.failed called), directory)

/-- Copying a directory that does not exist fails. -/
def copyToArchive : Dump Unit := fun directory ↦
  if directory then stage succeeds .copyToArchive directory else (.error .missingDirectory, false)

/-- `fill_archive_and_delete_tmp`, which both dumpers have. -/
def fillArchiveAndDeleteTmp : Dump Unit := do
  copyToArchive succeeds
  deleteTemporaryDirectory

/-! ## The system dumper -/

def collectAndDumpLokiLogs : Dump Unit := do
  stage succeeds .controlPlaneLoggingServices
  stage succeeds .dataPlaneLoggingServices
  stage succeeds .upgradeLoggingServices
  stage succeeds .callhomeLoggingServices
  stage succeeds .natsLoggingServices
  stage succeeds .fetchAndDumpLogs

/-- Dump the topologies of one kind. -/
def dumpTopologies (kind : TopologyKind) : Dump Unit := do
  stage succeeds (.getTopologer kind)
  stage succeeds (.dumpTopologyInfo kind)

/-- The etcd content, where an etcd client could be made. -/
def dumpConfiguredEtcd (etcdConfigured : Bool) : Dump Unit :=
  if etcdConfigured then stage succeeds .etcdDump else pure ()

/-- The logs, unless their collection is disabled. -/
def dumpEnabledLogs (disableLogCollection : Bool) : Dump Unit :=
  if disableLogCollection then pure () else collectAndDumpLokiLogs succeeds

/-- The errors are collected and then dropped. -/
def dumpSystem (disableLogCollection etcdConfigured : Bool) : Dump Unit := do
  let volumes ← collect (dumpTopologies succeeds .volume)
  let snapshots ← collect (dumpTopologies succeeds .snapshot)
  let pools ← collect (dumpTopologies succeeds .pool)
  let nodes ← collect (dumpTopologies succeeds .node)
  let logs ← collect (dumpEnabledLogs succeeds disableLogCollection)
  let k8s ← collect (stage succeeds .dumpK8sResources)
  let etcd ← collect (dumpConfiguredEtcd succeeds etcdConfigured)
  let _errors := volumes ++ snapshots ++ pools ++ nodes ++ logs ++ k8s ++ etcd
  pure ()

/-! ## The resource dumper -/

/-- The directory is archived and deleted here already. -/
def dumpInfo (kind : TopologyKind) (etcdConfigured : Bool) : Dump Unit := do
  let services ← collect (stage succeeds .controlPlaneLoggingServices)
  let topology ← collect (stage succeeds (.dumpTopologyInfo kind))
  let logs ← collect (stage succeeds .fetchAndDumpLogs)
  let k8s ← collect (stage succeeds .dumpK8sResources)
  let etcd ← collect (dumpConfiguredEtcd succeeds etcdConfigured)
  let archive ← collect (copyToArchive succeeds)
  let _ ← collect deleteTemporaryDirectory
  report (services ++ topology ++ logs ++ k8s ++ etcd ++ archive)

/-- The etcd content, which needs an etcd client here. -/
def dumpRequiredEtcd (etcdConfigured : Bool) : Dump Unit :=
  if etcdConfigured then stage succeeds .etcdDump else fail .etcdNotConfigured

/-- The first error ends the dump, and the directory stays. -/
def dumpEtcd (stdout etcdConfigured : Bool) : Dump Unit := do
  dumpRequiredEtcd succeeds etcdConfigured
  if stdout then pure ()
  else do
    copyToArchive succeeds
    let _ ← collect deleteTemporaryDirectory
    pure ()

/-! ## The command -/

/-- The resources of the command line. -/
inductive Resource where
  | loki
  | system (disableLogCollection : Bool)
  | volumes
  | volume
  | pools
  | pool
  | nodes
  | node
  | etcd (stdout : Bool)
  deriving DecidableEq, Repr

/-- The branch of a resource with a topology of its own. -/
def dumpTopologyResource (kind : TopologyKind) (etcdConfigured : Bool) : Dump Unit := do
  let info ← collect (dumpInfo succeeds kind etcdConfigured)
  let archive ← collect (fillArchiveAndDeleteTmp succeeds)
  report (info ++ archive)

/-- `execute_resource_dump`, from where the dumper has been constructed. -/
def executeResourceDump (etcdConfigured : Bool) : Resource → Dump Unit
  | .loki => do
    -- Only the node topology that was found matters, not the error.
    let _ ← collect (stage succeeds (.getTopologer .node))
    collectAndDumpLokiLogs succeeds
    let archive ← collect (fillArchiveAndDeleteTmp succeeds)
    report archive
  | .system disableLogCollection => do
    let system ← collect (dumpSystem succeeds disableLogCollection etcdConfigured)
    let archive ← collect (fillArchiveAndDeleteTmp succeeds)
    report (system ++ archive)
  | .volumes => dumpTopologyResource succeeds .volume etcdConfigured
  | .volume => dumpTopologyResource succeeds .volume etcdConfigured
  | .pools => dumpTopologyResource succeeds .pool etcdConfigured
  | .pool => dumpTopologyResource succeeds .pool etcdConfigured
  | .nodes => dumpTopologyResource succeeds .node etcdConfigured
  | .node => dumpTopologyResource succeeds .node etcdConfigured
  | .etcd stdout => do
    let etcd ← collect (dumpEtcd succeeds stdout etcdConfigured)
    report etcd

end Dumpers

/-- Whether the dumper of a resource has made a temporary directory. -/
def Resource.hasDirectory : Resource → Bool
  | .etcd stdout => !stdout
  | _ => true

/-! ## The stages of a resource -/

/-- The stages of the log collection. -/
def logStages : List Stage :=
  [.controlPlaneLoggingServices, .dataPlaneLoggingServices, .upgradeLoggingServices,
    .callhomeLoggingServices, .natsLoggingServices, .fetchAndDumpLogs]

def etcdStages (etcdConfigured : Bool) : List Stage :=
  if etcdConfigured then [.etcdDump] else []

def topologyResourceStages (kind : TopologyKind) (etcdConfigured : Bool) : List Stage :=
  [.controlPlaneLoggingServices, .dumpTopologyInfo kind, .fetchAndDumpLogs, .dumpK8sResources] ++
    etcdStages etcdConfigured ++ [.copyToArchive]

/-- The stages that make up the dump of a resource. -/
def Resource.stages (etcdConfigured : Bool) : Resource → List Stage
  | .loki => .getTopologer .node :: logStages ++ [.copyToArchive]
  | .system disableLogCollection =>
    [.getTopologer .volume, .dumpTopologyInfo .volume, .getTopologer .snapshot,
      .dumpTopologyInfo .snapshot, .getTopologer .pool, .dumpTopologyInfo .pool,
      .getTopologer .node, .dumpTopologyInfo .node] ++
      (if disableLogCollection then [] else logStages) ++ [.dumpK8sResources] ++
      etcdStages etcdConfigured ++ [.copyToArchive]
  | .volumes | .volume => topologyResourceStages .volume etcdConfigured
  | .pools | .pool => topologyResourceStages .pool etcdConfigured
  | .nodes | .node => topologyResourceStages .node etcdConfigured
  | .etcd stdout => .etcdDump :: if stdout then [] else [.copyToArchive]

/-- A stage of the dump fails; the etcd dump fails without an etcd client too. -/
def Resource.stageFails (succeeds : Stage → Bool) (etcdConfigured : Bool) (resource : Resource) :
    Bool :=
  !(resource.stages etcdConfigured).all succeeds ||
    (!etcdConfigured && (resource = .etcd true || resource = .etcd false))

/-- The command fails exactly where a stage fails, and leaves no temporary directory behind. -/
def Meets (succeeds : Stage → Bool) (etcdConfigured : Bool) (resource : Resource) : Prop :=
  let outcome := executeResourceDump succeeds etcdConfigured resource resource.hasDirectory
  (outcome.1.isOk = false ↔ resource.stageFails succeeds etcdConfigured) ∧ outcome.2 = false

/-! ## What the steps do -/

theorem Dump.bind_apply {α β : Type} (program : Dump α) (next : α → Dump β) (directory : Bool) :
    (program >>= next) directory =
      match program directory with
      | (.ok value, directory') => next value directory'
      | (.error error, directory') => (.error error, directory') := rfl

theorem Dump.bind_of_ok {α β : Type} {program : Dump α} {next : α → Dump β} {value : α}
    {directory directory' : Bool} (h : program directory = (.ok value, directory')) :
    (program >>= next) directory = next value directory' := by
  rw [bind_apply, h]

/-- The step leaves the directory alone and fails exactly where one of its stages does. -/
def Runs (succeeds : Stage → Bool) (stages : List Stage) (program : Dump Unit) : Prop :=
  ∀ directory, (program directory).2 = directory ∧
    (program directory).1.isOk = stages.all succeeds

section Steps

variable {succeeds : Stage → Bool} {stages : List Stage} {program : Dump Unit}

theorem Runs.pure : Runs succeeds [] (Pure.pure ()) := fun _ ↦ ⟨rfl, rfl⟩

theorem Runs.stage (called : Stage) : Runs succeeds [called] (stage succeeds called) := by
  intro directory
  refine ⟨rfl, ?_⟩
  rw [Supportability.stage]
  cases hcalled : succeeds called <;> simp [Except.isOk, Except.toBool, hcalled]

/-- What a step that runs stages comes to. -/
theorem Runs.exists_eq (h : Runs succeeds stages program) (directory : Bool) :
    ∃ result, program directory = (result, directory) ∧ result.isOk = stages.all succeeds := by
  obtain ⟨hdirectory, hok⟩ := h directory
  exact ⟨(program directory).1, Prod.ext rfl hdirectory, hok⟩

theorem Runs.ok (h : Runs succeeds stages program) (hall : stages.all succeeds) (directory : Bool) :
    program directory = (.ok (), directory) := by
  obtain ⟨result, hrun, hok⟩ := h.exists_eq directory
  rw [hall] at hok
  cases result with
  | ok value => exact hrun
  | error error => cases hok

theorem Runs.error (h : Runs succeeds stages program) (hall : stages.all succeeds = false)
    (directory : Bool) : ∃ error, program directory = (.error error, directory) := by
  obtain ⟨result, hrun, hok⟩ := h.exists_eq directory
  rw [hall] at hok
  cases result with
  | ok value => cases hok
  | error error => exact ⟨error, hrun⟩

theorem Runs.bind {stages' : List Stage} {next : Unit → Dump Unit}
    (h : Runs succeeds stages program) (hnext : Runs succeeds stages' (next ())) :
    Runs succeeds (stages ++ stages') (program >>= next) := by
  intro directory
  rw [List.all_append]
  cases hall : stages.all succeeds with
  | true =>
    rw [bind_of_ok (h.ok hall directory), Bool.true_and]
    exact hnext directory
  | false =>
    obtain ⟨error, herror⟩ := h.error hall directory
    rw [bind_apply, herror]
    exact ⟨rfl, rfl⟩

/-- Once its error is collected, a step goes on, with the directory it has left. -/
theorem collect_eq (program : Dump Unit) (directory : Bool) :
    ∃ errors, Dump.collect program directory = (.ok errors, (program directory).2) := by
  rw [Dump.collect]
  cases program directory with
  | mk result directory' =>
    cases result with
    | ok value => exact ⟨[], rfl⟩
    | error error => exact ⟨[error], rfl⟩

theorem Runs.collect (h : Runs succeeds stages program) (directory : Bool) :
    ∃ errors, Dump.collect program directory = (.ok errors, directory) := by
  have hcollect := collect_eq program directory
  rwa [(h directory).1] at hcollect

theorem collectAndDumpLokiLogs_runs :
    Runs succeeds logStages (collectAndDumpLokiLogs succeeds) :=
  (Runs.stage _).bind ((Runs.stage _).bind ((Runs.stage _).bind ((Runs.stage _).bind
    ((Runs.stage _).bind (Runs.stage _)))))

theorem dumpEnabledLogs_runs (disableLogCollection : Bool) :
    Runs succeeds (if disableLogCollection then [] else logStages)
      (dumpEnabledLogs succeeds disableLogCollection) := by
  cases disableLogCollection with
  | true => exact Runs.pure
  | false => exact collectAndDumpLokiLogs_runs

theorem dumpTopologies_runs (kind : TopologyKind) :
    Runs succeeds [.getTopologer kind, .dumpTopologyInfo kind] (dumpTopologies succeeds kind) :=
  (Runs.stage _).bind (Runs.stage _)

theorem dumpConfiguredEtcd_runs (etcdConfigured : Bool) :
    Runs succeeds (etcdStages etcdConfigured) (dumpConfiguredEtcd succeeds etcdConfigured) := by
  cases etcdConfigured with
  | false => exact Runs.pure
  | true => exact Runs.stage _

/-- What filling the archive and deleting the directory come to, once the error is reported. -/
theorem collect_fillArchiveAndDeleteTmp :
    ((Dump.collect (fillArchiveAndDeleteTmp succeeds) >>= report) true).1.isOk =
        succeeds .copyToArchive ∧
      ((Dump.collect (fillArchiveAndDeleteTmp succeeds) >>= report) true).2 =
        !succeeds .copyToArchive := by
  rw [bind_apply, Dump.collect, fillArchiveAndDeleteTmp, bind_apply, copyToArchive, if_pos rfl,
    stage]
  cases succeeds .copyToArchive <;> exact ⟨rfl, rfl⟩

/-- Whatever fails, the system dump goes on to its end and says that all is well. -/
theorem dumpSystem_eq (disableLogCollection etcdConfigured directory : Bool) :
    dumpSystem succeeds disableLogCollection etcdConfigured directory = (.ok (), directory) := by
  obtain ⟨volumes, hvolumes⟩ := (dumpTopologies_runs .volume).collect directory
  obtain ⟨snapshots, hsnapshots⟩ := (dumpTopologies_runs .snapshot).collect directory
  obtain ⟨pools, hpools⟩ := (dumpTopologies_runs .pool).collect directory
  obtain ⟨nodes, hnodes⟩ := (dumpTopologies_runs .node).collect directory
  obtain ⟨logs, hlogs⟩ := (dumpEnabledLogs_runs disableLogCollection).collect directory
  obtain ⟨k8s, hk8s⟩ := (Runs.stage .dumpK8sResources).collect directory
  obtain ⟨etcd, hetcd⟩ := (dumpConfiguredEtcd_runs etcdConfigured).collect directory
  rw [dumpSystem, bind_of_ok hvolumes, bind_of_ok hsnapshots, bind_of_ok hpools, bind_of_ok hnodes,
    bind_of_ok hlogs, bind_of_ok hk8s, bind_of_ok hetcd]
  rfl

/-- The dump of a resource leaves no directory, whatever it comes to. -/
theorem dumpInfo_directory (kind : TopologyKind) (etcdConfigured : Bool) :
    (dumpInfo succeeds kind etcdConfigured true).2 = false := by
  obtain ⟨services, hservices⟩ := (Runs.stage .controlPlaneLoggingServices).collect true
  obtain ⟨topology, htopology⟩ := (Runs.stage (.dumpTopologyInfo kind)).collect true
  obtain ⟨logs, hlogs⟩ := (Runs.stage .fetchAndDumpLogs).collect true
  obtain ⟨k8s, hk8s⟩ := (Runs.stage .dumpK8sResources).collect true
  obtain ⟨etcd, hetcd⟩ := (dumpConfiguredEtcd_runs etcdConfigured).collect true
  obtain ⟨archive, harchive⟩ : ∃ archive,
      Dump.collect (copyToArchive succeeds) true = (.ok archive, true) :=
    (Runs.stage .copyToArchive).collect true
  have hdelete : Dump.collect deleteTemporaryDirectory true = (.ok [], false) := rfl
  rw [dumpInfo, bind_of_ok hservices, bind_of_ok htopology, bind_of_ok hlogs, bind_of_ok hk8s,
    bind_of_ok hetcd, bind_of_ok harchive, bind_of_ok hdelete, report]
  split <;> rfl

/-! ## What the branches come to -/

/-- The system dump fails where the copy does, and only then leaves the directory. -/
theorem executeResourceDump_system (disableLogCollection etcdConfigured : Bool) :
    (executeResourceDump succeeds etcdConfigured (.system disableLogCollection) true).1.isOk =
        succeeds .copyToArchive ∧
      (executeResourceDump succeeds etcdConfigured (.system disableLogCollection) true).2 =
        !succeeds .copyToArchive := by
  have hsystem : Dump.collect (dumpSystem succeeds disableLogCollection etcdConfigured) true =
      (.ok [], true) := by
    rw [Dump.collect, dumpSystem_eq]
  rw [executeResourceDump, bind_of_ok hsystem]
  exact collect_fillArchiveAndDeleteTmp

/-- A resource with a topology of its own is archived twice, and the second time there is no
directory. -/
theorem dumpTopologyResource_fails (kind : TopologyKind) (etcdConfigured : Bool) :
    (dumpTopologyResource succeeds kind etcdConfigured true).1.isOk = false ∧
      (dumpTopologyResource succeeds kind etcdConfigured true).2 = false := by
  obtain ⟨info, hinfo⟩ := collect_eq (dumpInfo succeeds kind etcdConfigured) true
  rw [dumpInfo_directory] at hinfo
  have harchive : Dump.collect (fillArchiveAndDeleteTmp succeeds) false =
      (.ok [.missingDirectory], false) := rfl
  rw [dumpTopologyResource, bind_of_ok hinfo, bind_of_ok harchive, report, if_neg (by simp)]
  exact ⟨rfl, rfl⟩

/-- The log dump ends at the first error of the logs, and the error of the topology is lost. -/
theorem executeResourceDump_loki (etcdConfigured : Bool) :
    (executeResourceDump succeeds etcdConfigured .loki true).1.isOk =
        (logStages.all succeeds && succeeds .copyToArchive) ∧
      (executeResourceDump succeeds etcdConfigured .loki true).2 =
        !(logStages.all succeeds && succeeds .copyToArchive) := by
  obtain ⟨topology, htopology⟩ := (Runs.stage (.getTopologer .node)).collect true
  rw [executeResourceDump, bind_of_ok htopology]
  cases hlogs : logStages.all succeeds with
  | false =>
    obtain ⟨error, herror⟩ := collectAndDumpLokiLogs_runs.error hlogs true
    rw [bind_apply, herror]
    exact ⟨rfl, rfl⟩
  | true =>
    rw [bind_of_ok (collectAndDumpLokiLogs_runs.ok hlogs true), Bool.true_and]
    exact collect_fillArchiveAndDeleteTmp

theorem dumpRequiredEtcd_ok {etcdConfigured : Bool}
    (h : (etcdConfigured && succeeds .etcdDump) = true)
    (directory : Bool) :
    dumpRequiredEtcd succeeds etcdConfigured directory = (.ok (), directory) := by
  obtain ⟨rfl, hetcd⟩ := Bool.and_eq_true_iff.mp h
  simp [dumpRequiredEtcd, stage, hetcd]

theorem dumpRequiredEtcd_error {etcdConfigured : Bool}
    (h : (etcdConfigured && succeeds .etcdDump) = false) (directory : Bool) :
    ∃ error, dumpRequiredEtcd succeeds etcdConfigured directory = (.error error, directory) := by
  cases etcdConfigured with
  | false => exact ⟨.etcdNotConfigured, rfl⟩
  | true => exact (Runs.stage .etcdDump).error (by simpa using h) directory

/-- The etcd dump ends at the first error, with the directory in place. -/
theorem executeResourceDump_etcd (etcdConfigured : Bool) :
    (executeResourceDump succeeds etcdConfigured (.etcd false) true).1.isOk =
        (etcdConfigured && succeeds .etcdDump && succeeds .copyToArchive) ∧
      (executeResourceDump succeeds etcdConfigured (.etcd false) true).2 =
        !(etcdConfigured && succeeds .etcdDump && succeeds .copyToArchive) := by
  rw [executeResourceDump, bind_apply, Dump.collect, dumpEtcd, bind_apply]
  cases hrequired : etcdConfigured && succeeds .etcdDump with
  | false =>
    obtain ⟨error, herror⟩ := dumpRequiredEtcd_error hrequired true
    rw [herror]
    exact ⟨rfl, rfl⟩
  | true =>
    rw [dumpRequiredEtcd_ok hrequired]
    dsimp only
    rw [if_neg (by simp), bind_apply, copyToArchive, if_pos rfl, stage]
    cases succeeds .copyToArchive <;> exact ⟨rfl, rfl⟩

theorem executeResourceDump_etcd_stdout (etcdConfigured : Bool) :
    (executeResourceDump succeeds etcdConfigured (.etcd true) false).1.isOk =
        (etcdConfigured && succeeds .etcdDump) ∧
      (executeResourceDump succeeds etcdConfigured (.etcd true) false).2 = false := by
  rw [executeResourceDump, bind_apply, Dump.collect, dumpEtcd, bind_apply]
  cases hrequired : etcdConfigured && succeeds .etcdDump with
  | false =>
    obtain ⟨error, herror⟩ := dumpRequiredEtcd_error hrequired false
    rw [herror]
    exact ⟨rfl, rfl⟩
  | true =>
    rw [dumpRequiredEtcd_ok hrequired]
    exact ⟨rfl, rfl⟩

end Steps

/-! ## Where the command keeps its promise -/

/-- The resources that are dumped with a topology of their own need a stage that fails; of the
others none may fail, unless there is no directory. -/
def Resource.meetsWhen (succeeds : Stage → Bool) (etcdConfigured : Bool) (resource : Resource) :
    Prop :=
  match resource with
  | .loki | .system _ | .etcd false => resource.stageFails succeeds etcdConfigured = false
  | .volumes | .volume | .pools | .pool | .nodes | .node =>
    resource.stageFails succeeds etcdConfigured = true
  | .etcd true => True

/-- A branch that leaves the directory exactly where it fails. -/
theorem meets_iff_of_leaves {ok fails : Bool} (h : fails = false → ok = true) :
    ((ok = false ↔ fails = true) ∧ (!ok) = false) ↔ fails = false := by
  revert h
  cases ok <;> cases fails <;> decide

/-- The command fails exactly where a stage fails, and leaves no directory, if and only if no stage
fails (for the logs, the system and etcd) or one fails (for volumes, pools and nodes, which are
archived twice). -/
theorem executeResourceDump_meets_iff (succeeds : Stage → Bool) (etcdConfigured : Bool)
    (resource : Resource) :
    Meets succeeds etcdConfigured resource ↔ resource.meetsWhen succeeds etcdConfigured := by
  have htopology : ∀ kind, executeResourceDump succeeds etcdConfigured resource =
      dumpTopologyResource succeeds kind etcdConfigured → resource.hasDirectory = true →
      (Meets succeeds etcdConfigured resource ↔
        resource.stageFails succeeds etcdConfigured = true) := by
    intro kind hbranch hdirectory
    obtain ⟨hfails, hgone⟩ := @dumpTopologyResource_fails succeeds kind etcdConfigured
    simp [Meets, hbranch, hdirectory, hfails, hgone]
  cases resource with
  | loki =>
    obtain ⟨hok, hdirectory⟩ := @executeResourceDump_loki succeeds etcdConfigured
    simp only [Meets, Resource.hasDirectory, hok, hdirectory]
    apply meets_iff_of_leaves
    intro hfails
    simp only [Resource.stageFails, Resource.stages, List.cons_append, List.all_cons,
      List.all_append] at hfails
    simp_all
  | system disableLogCollection =>
    obtain ⟨hok, hdirectory⟩ :=
      @executeResourceDump_system succeeds disableLogCollection etcdConfigured
    simp only [Meets, Resource.hasDirectory, hok, hdirectory]
    apply meets_iff_of_leaves
    intro hfails
    simp only [Resource.stageFails, Resource.stages, List.all_append] at hfails
    simp_all
  | volumes => exact htopology .volume rfl rfl
  | volume => exact htopology .volume rfl rfl
  | pools => exact htopology .pool rfl rfl
  | pool => exact htopology .pool rfl rfl
  | nodes => exact htopology .node rfl rfl
  | node => exact htopology .node rfl rfl
  | etcd stdout =>
    cases stdout with
    | false =>
      obtain ⟨hok, hdirectory⟩ := @executeResourceDump_etcd succeeds etcdConfigured
      simp only [Meets, Resource.hasDirectory, Bool.not_false, hok, hdirectory]
      apply meets_iff_of_leaves
      intro hfails
      simp_all [Resource.stageFails, Resource.stages]
    | true =>
      obtain ⟨hok, hdirectory⟩ := @executeResourceDump_etcd_stdout succeeds etcdConfigured
      have hfails : (Resource.etcd true).stageFails succeeds etcdConfigured =
          !(etcdConfigured && succeeds .etcdDump) := by
        cases etcdConfigured <;> simp [Resource.stageFails, Resource.stages]
      simp only [Meets, Resource.hasDirectory, Bool.not_true, hok, hdirectory, hfails,
        Resource.meetsWhen, iff_true, and_true]
      cases etcdConfigured && succeeds .etcdDump <;> decide

/-- Everything but the dump of the Kubernetes resources succeeds. -/
def withoutK8sResources (called : Stage) : Bool := called ≠ .dumpK8sResources

/-- A system dump without the Kubernetes resources is reported as complete. -/
theorem executeResourceDump_hides_failure :
    ¬Meets withoutK8sResources true (.system false) := by
  rintro ⟨houtcome, -⟩
  exact absurd (houtcome.mpr (by decide)) (by decide)

end MayastorExtensions.Supportability
