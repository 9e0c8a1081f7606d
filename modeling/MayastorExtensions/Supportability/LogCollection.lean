import Mathlib.Data.Finset.Union
import MayastorExtensions.Library.Assignments
import MayastorExtensions.Library.Outcome
import MayastorExtensions.KubeClient
import MayastorExtensions.Supportability.LokiDump
import MayastorExtensions.Supportability.Topology

/-!
# The collection of logs

`collect_and_dump_loki_logs` of the system dump and what it calls in `logs/mod.rs` and
`logs/k8s_log.rs`.  The containers whose logs are collected come from the Pods with the logging
label, in five groups of services, and from the nodes of the product.  Each of them gets a file with
its historical logs from Loki, and for each of its running Pods a file with the current logs, and
one with the logs before the last restart.

The set of containers is a hash set, which has no order of its own: the order in which it is walked
is a parameter.  So are the answers of the API server and of Loki, and which files and directories
can be created.  Directories are not tracked.
-/

namespace MayastorExtensions.Supportability

open Assignments KubeClient

/-! ## Resources -/

/-- Contains fields to identify cluster resources. -/
structure LogResource where
  containerName : String
  hostName : Option String
  labelSelector : String
  serviceType : String
  deriving DecidableEq, Repr

structure PodSpec where
  nodeName : Option String
  containers : List String
  deriving DecidableEq, Repr

structure ContainerStatus where
  name : String
  restartCount : ℤ
  deriving DecidableEq, Repr

structure Pod where
  name : Option String
  labels : Option (List (String × String))
  spec : Option PodSpec
  containerStatuses : Option (List ContainerStatus)
  deriving DecidableEq, Repr

/-- A node of the Kubernetes cluster, which always has a name. -/
structure KubeNode where
  name : String
  labels : Option (List (String × String))
  deriving DecidableEq, Repr

inductive K8sLoggerError where
  | k8sResourceError (error : K8sResourceError)
  | resourceError (error : String)
  | ioError
  deriving DecidableEq, Repr

inductive LogError where
  | loki (error : LokiError)
  | k8sResource (error : K8sResourceError)
  | k8sLogger (error : K8sLoggerError)
  | ioError
  | multipleErrors (errors : List LogError)

abbrev Path := List String

/-- The file system: the content of each file. -/
abbrev LogFiles := Path → Option String

/-- A step of the collection. -/
abbrev Collecting (ε α : Type) := Storing Path (Option String) ε α

/-- What the collection finds outside: the dump of a resource by the Loki client if there is one,
the answers of the API server, the log streams by Pod, container and whether the logs before the
last restart are meant, and the file system.  A chunk is written to a file depending on what the
file has already. -/
structure LogEnv where
  historic : Option (LogResource → LogDump)
  nodes : Except K8sResourceError (List KubeNode)
  node : String → Except K8sResourceError KubeNode
  labelledNodes : String → Except K8sResourceError (List KubeNode)
  getPods : String → String → Except K8sResourceError (List Pod)
  logStream : String → String → Bool → Except KubeError (List (Except String String))
  createsDirectory : Path → Bool
  createsFile : Path → Bool
  accepts : Path → String → String → Bool

def KUBERNETES_HOST_LABEL_KEY : String := "kubernetes.io/hostname"

def RUNNING_FIELD_SELECTOR : String := "status.phase=Running"

def NODE_NAME_FIELD_SELECTOR : String := "spec.nodeName"

def loggingLabelSelector : String := "openebs.io/logging=true"

def MAYASTOR_SERVICE : String := "io-engine"

def CONTROL_PLANE_SERVICES : List String :=
  ["agent-core", "csi-controller", "jaeger-operator", "jaeger", "operator-diskpool", "api-rest",
    "csi-node", "etcd", "agent-ha-node"]

def DATA_PLANE_SERVICES : List String := [MAYASTOR_SERVICE]

def UPGRADE_JOB_SERVICE : List String := ["upgrade"]

def CALLHOME_JOB_SERVICE : List String := ["obs-callhome"]

def NATS_JOB_SERVICE : List String := ["nats"]

def HOST_NAME_REQUIRED_SERVICES : List String :=
  [MAYASTOR_SERVICE, "etcd", "csi-node", "agent-ha-node", "nats"]

/-! ## The API server -/

def invalidK8sResourceValue (message : String) : K8sResourceError := .customError message

/-- `{:?}` of an optional name. -/
def debugName : Option String → String
  | none => "None"
  | some name => "Some(\"" ++ name ++ "\")"

/-- The node with the given name; of two with one name a map keeps the later. -/
def findNode (nodes : List KubeNode) (name : String) : Option KubeNode :=
  nodes.reverse.find? fun node ↦ node.name = name

def getHostname (env : LogEnv) (nodeName : String) : Except K8sResourceError String := do
  let node ← env.node nodeName
  match node.labels with
  | none => .error (.customError ("No labels available on node '" ++ nodeName ++ "'"))
  | some labels =>
    match labels.lookup KUBERNETES_HOST_LABEL_KEY with
    | none => .error (.customError ("Node '" ++ KUBERNETES_HOST_LABEL_KEY ++
        "' label not found on node " ++ nodeName))
    | some hostName => .ok hostName

def getNodename (env : LogEnv) (hostName : String) : Except K8sResourceError String := do
  let nodes ← env.labelledNodes (KUBERNETES_HOST_LABEL_KEY ++ "=" ++ hostName)
  match nodes.head? with
  | none => .error (.customError ("No node found for hostname " ++ hostName))
  | some node => .ok node.name

/-! ## The containers whose logs are collected -/

/-- The service that the labels of a Pod name. -/
def serviceName (pod : Pod) : String :=
  ((pod.labels.getD []).lookup "app").getD ""

def isHostNameRequired (service : String) : Bool := service ∈ HOST_NAME_REQUIRED_SERVICES

/-- The host that a Pod is on. -/
def podHostname (nodes : List KubeNode) (pod : Pod) : Except K8sResourceError String :=
  match pod.spec with
  | none => .error (invalidK8sResourceValue
      ("Pod spec not found in pod " ++ debugName pod.name ++ " resource"))
  | some spec =>
    match spec.nodeName with
    | none => .error (invalidK8sResourceValue "Node name not found in running pod resource")
    | some nodeName =>
      match findNode nodes nodeName with
      | none => .error (invalidK8sResourceValue ("Unable to find node: " ++ nodeName ++ " object"))
      | some node =>
        match node.labels with
        | none => .error (invalidK8sResourceValue ("No labels found in node " ++ nodeName))
        | some labels =>
          match labels.lookup KUBERNETES_HOST_LABEL_KEY with
          | none => .error (invalidK8sResourceValue ("Hostname not found for node " ++ nodeName))
          | some hostName => .ok hostName

/-- The host that the logs of a Pod are collected for, if its service runs on every host. -/
def resourceHost (nodes : List KubeNode) (pod : Pod) : Except K8sResourceError (Option String) :=
  if isHostNameRequired (serviceName pod) then (podHostname nodes pod).map some else .ok none

/-- What is collected of one Pod. -/
def podResources (nodes : List KubeNode) (pod : Pod) :
    Except K8sResourceError (Finset LogResource) :=
  match pod.labels with
  | none => .error (invalidK8sResourceValue ("No labels found in pod " ++ debugName pod.name))
  | some _ =>
    match resourceHost nodes pod with
    | .error error => .error error
    | .ok hostName =>
      match pod.spec with
      | none => .error (invalidK8sResourceValue "Pod sepc not found")
      | some spec =>
        .ok (spec.containers.map fun container ↦
          (⟨container, hostName, "app=" ++ serviceName pod, serviceName pod⟩ :
            LogResource)).toFinset

/-- The Pods one after the other, from what was collected before. -/
def addPods (nodes : List KubeNode) :
    Finset LogResource → List Pod → Except K8sResourceError (Finset LogResource)
  | resources, [] => .ok resources
  | resources, pod :: pods => do
    let more ← podResources nodes pod
    addPods nodes (resources ∪ more) pods

def getLoggingResources (env : LogEnv) (pods : List Pod) :
    Except K8sResourceError (Finset LogResource) := do
  let nodes ← env.nodes
  addPods nodes ∅ pods

/-- The containers of a group of services; each group asks for the Pods again. -/
def getLoggingServices (services : List String) (env : LogEnv) :
    Except K8sResourceError (Finset LogResource) := do
  let pods ← env.getPods loggingLabelSelector ""
  getLoggingResources env (pods.filter fun pod ↦ serviceName pod ∈ services)

def getControlPlaneLoggingServices := getLoggingServices CONTROL_PLANE_SERVICES

def getDataPlaneLoggingServices := getLoggingServices DATA_PLANE_SERVICES

def getUpgradeLoggingServices := getLoggingServices UPGRADE_JOB_SERVICE

def getCallhomeLoggingServices := getLoggingServices CALLHOME_JOB_SERVICE

def getNatsLoggingServices := getLoggingServices NATS_JOB_SERVICE

/-- The service on a node, which may be known when its Pod is not. -/
def nodeResource (info : ResourceInformation) : LogResource where
  containerName := info.containerName
  hostName := some info.hostName
  labelSelector := ",".intercalate info.labelSelector
  serviceType := MAYASTOR_SERVICE

def nodeResources : Option (List NodeTopology) → Finset LogResource
  | none => ∅
  | some topologer => (getAllResourceInfo topologer).image nodeResource

/-- All containers whose logs are collected. -/
def collectedResources (env : LogEnv) (nodeTopologer : Option (List NodeTopology)) :
    Except K8sResourceError (Finset LogResource) := do
  let controlPlane ← getControlPlaneLoggingServices env
  let dataPlane ← getDataPlaneLoggingServices env
  let upgrade ← getUpgradeLoggingServices env
  let callhome ← getCallhomeLoggingServices env
  let nats ← getNatsLoggingServices env
  .ok (controlPlane ∪ dataPlane ∪ upgrade ∪ callhome ∪ nats ∪ nodeResources nodeTopologer)

/-! ## Files -/

/-- No of times we want to retry fetching from logs stream. -/
def MAX_POLLING_RETRIES : ℕ := 2

/-- What a writer has taken after one more chunk, and whether it took the chunk. -/
def writeAll (accepts : String → String → Bool) (chunk written : String) : Bool × String :=
  if accepts written chunk then (true, written ++ chunk) else (false, written)

/-- The lines of a stream, from the number of failed reads and what the writer has taken.  The end
of a line is written even if the line was not. -/
def writeLogsStream (accepts : String → String → Bool) :
    List (Except String String) → ℕ → String → Except K8sLoggerError Unit × String
  | [], _, written => (.ok (), written)
  | .ok data :: rest, retries, written =>
    let line := writeAll accepts data written
    let end_ := writeAll accepts "\n" line.2
    if line.1 && end_.1 then writeLogsStream accepts rest retries end_.2
    else (.error .ioError, end_.2)
  | .error error :: rest, retries, written =>
    if MAX_POLLING_RETRIES < retries then (.error (.resourceError error), written)
    else writeLogsStream accepts rest (retries + 1) written

section Dumps

variable (env : LogEnv)

def createDirectoryIfNotExist {ε : Type} (error : ε) (path : Path) : Collecting ε Unit :=
  Storing.ofExcept (if env.createsDirectory path then .ok () else .error error)

/-- `File::create`, which empties a file that is there. -/
def createFile {ε : Type} (error : ε) (path : Path) : Collecting ε Unit :=
  if env.createsFile path then Storing.write path (some "") else Storing.ofExcept (.error error)

/-- The file of a container. -/
def containerFileName (podRestarted : Bool) (containerName : String) : String :=
  if podRestarted then "previous_" ++ containerName ++ ".log" else containerName ++ ".log"

def createContainerLogFile (podRestarted : Bool) (podName containerName : String)
    (podDir : Path) : Collecting K8sLoggerError Unit := do
  let containerFile := podDir ++ [containerFileName podRestarted containerName]
  createFile env .ioError containerFile
  match env.logStream podName containerName podRestarted with
  | .error error => Storing.ofExcept (.error (.k8sResourceError (.clientError error)))
  | .ok stream =>
    let (outcome, content) := writeLogsStream (env.accepts containerFile) stream 0 ""
    Storing.write containerFile (some content)
    Storing.ofExcept outcome

/-- Whether a container was restarted; of two statuses for one name a map keeps the later. -/
def containerRestarted (pod : Pod) (containerName : String) : Bool :=
  (((pod.containerStatuses.getD []).reverse.find? fun status ↦ status.name = containerName).map
    fun status ↦ decide (0 < status.restartCount)).getD false

/-- The containers of a Pod, one after the other. -/
def createContainerLogs (pod : Pod) (podName : String) (podDir : Path) :
    List String → Collecting K8sLoggerError Unit
  | [] => pure ()
  | containerName :: containers => do
    if containerRestarted pod containerName then
      createContainerLogFile env true podName containerName podDir
    createContainerLogFile env false podName containerName podDir
    createContainerLogs pod podName podDir containers

/-- The names that the directory of a Pod is made of. -/
def podIdentity (pod : Pod) : Except K8sLoggerError (String × String) :=
  match pod.name with
  | none => .error (.k8sResourceError (.customError "pod.name is invalid"))
  | some podName =>
    match pod.spec with
    | none => .error (.k8sResourceError (.customError "pod.spec is invalid"))
    | some spec =>
      match spec.nodeName with
      | none => .error (.k8sResourceError (.customError "pod.spec.node_name is invalid"))
      | some nodeName =>
        match getHostname env nodeName with
        | .error error => .error (.k8sResourceError error)
        | .ok hostName => .ok (hostName, podName)

def createPodLogs (pod : Pod) (containers : List String) (serviceDir : Path) :
    Collecting K8sLoggerError Unit := do
  let (hostName, podName) ← Storing.ofExcept (podIdentity env pod)
  let podDir := serviceDir ++ [hostName ++ "_" ++ podName]
  createDirectoryIfNotExist env .ioError podDir
  createContainerLogs env pod podName podDir containers

/-- The Pods, one after the other; one that fails is left behind. -/
def createAllPodLogs (containers : List String) (serviceDir : Path) :
    List Pod → Collecting K8sLoggerError Unit
  | [] => pure ()
  | pod :: pods => do
    let _ ← (Storing.attempt (createPodLogs env pod containers serviceDir) :
      Collecting K8sLoggerError (Except K8sLoggerError Unit))
    createAllPodLogs containers serviceDir pods

/-- The running Pods of a service, on one host or on all. -/
def runningPods (labelSelector : String) (hostName : Option String) :
    Except K8sResourceError (List Pod) := do
  let fieldSelector ← match hostName with
    | none => .ok RUNNING_FIELD_SELECTOR
    | some name => do
      let nodeName ← getNodename env name
      .ok (RUNNING_FIELD_SELECTOR ++ "," ++ NODE_NAME_FIELD_SELECTOR ++ "=" ++ nodeName)
  env.getPods labelSelector fieldSelector

def dumpPodLogs (labelSelector : String) (serviceDir : Path) (hostName : Option String)
    (containers : List String) : Collecting K8sLoggerError Unit := do
  let pods ← Storing.ofExcept ((runningPods env labelSelector hostName).mapError .k8sResourceError)
  createAllPodLogs env containers serviceDir pods

/-- The file with the historical logs. -/
def lokiFileName (resource : LogResource) : String :=
  match resource.hostName with
  | some hostName => hostName ++ "-loki-" ++ resource.containerName ++ ".log"
  | none => "loki-" ++ resource.containerName ++ ".log"

/-- The dump of the Loki client, with its file; a dump that wrote nothing before it failed removes
the file. -/
def dumpHistoricLogs (dump : LogDump) (filePath : Path) : Collecting LokiError Unit := do
  createFile env .ioError filePath
  if dump.removed then Storing.write filePath none
  else Storing.write filePath (some (String.join (dump.lines.map (· ++ "\n"))))
  Storing.ofExcept dump.result

def serviceDir (workingDir : String) (resource : LogResource) : Path :=
  [workingDir, "logs", resource.serviceType]

/-- The error of a dump is kept and does not stop the collection. -/
def keepError {ε : Type} (error : ε → LogError) (dump : Collecting ε Unit) :
    Collecting LogError (List LogError) := do
  match ← Storing.attempt dump with
  | .ok _ => pure []
  | .error source => pure [error source]

/-- The historical logs of a resource, if there is a Loki client. -/
def dumpHistoric (workingDir : String) (resource : LogResource) :
    Collecting LogError (List LogError) :=
  match env.historic with
  | none => pure []
  | some historic =>
    keepError .loki (dumpHistoricLogs env (historic resource)
      (serviceDir workingDir resource ++ [lokiFileName resource]))

/-- The errors of the two dumps of one resource. -/
def dumpResource (workingDir : String) (resource : LogResource) :
    Collecting LogError (List LogError) := do
  createDirectoryIfNotExist env .ioError (serviceDir workingDir resource)
  let historicErrors ← dumpHistoric env workingDir resource
  let podErrors ← keepError .k8sLogger (dumpPodLogs env resource.labelSelector
    (serviceDir workingDir resource) resource.hostName [resource.containerName])
  pure (historicErrors ++ podErrors)

/-- The resources, one after the other, from the errors so far. -/
def dumpResources (workingDir : String) :
    List LogResource → List LogError → Collecting LogError (List LogError)
  | [], errors => pure errors
  | resource :: resources, errors => do
    let more ← dumpResource env workingDir resource
    dumpResources workingDir resources (errors ++ more)

/-- The resources in the order in which the set is walked. -/
def fetchAndDumpLogs (workingDir : String) (resources : List LogResource) :
    Collecting LogError Unit := do
  let errors ← dumpResources env workingDir resources []
  if errors.isEmpty then pure () else Storing.ofExcept (.error (.multipleErrors errors))

/-- The order in which a hash set is walked, each element once. -/
structure HashOrder where
  walk : Finset LogResource → List LogResource
  nodup : ∀ set, (walk set).Nodup
  complete : ∀ set, (walk set).toFinset = set

def collectAndDumpLogs (order : HashOrder) (workingDir : String)
    (nodeTopologer : Option (List NodeTopology)) : Collecting LogError Unit := do
  let resources ← Storing.ofExcept
    ((collectedResources env nodeTopologer).mapError .k8sResource)
  fetchAndDumpLogs env workingDir (order.walk resources)

end Dumps

/-! ## What a stream leaves in a file -/

/-- The lines of a stream up to the failed read after the given number of them. -/
def linesBefore : ℕ → List (Except String String) → List String
  | _, [] => []
  | failures, .ok line :: rest => line :: linesBefore failures rest
  | 0, .error _ :: _ => []
  | failures + 1, .error _ :: rest => linesBefore failures rest

def failedReads (stream : List (Except String String)) : ℕ :=
  stream.countP fun read ↦ !read.isOk

/-- The lines as a file has them. -/
def fileText (lines : List String) : String := String.join (lines.map (· ++ "\n"))

theorem fileText_cons (line : String) (lines : List String) :
    fileText (line :: lines) = line ++ "\n" ++ fileText lines := by
  simp [fileText]

/-- A writer that takes everything gets the lines before the read that is one too many. -/
theorem writeLogsStream_snd {accepts : String → String → Bool}
    (haccepts : ∀ written chunk, accepts written chunk) {failures : ℕ}
    (stream : List (Except String String)) {retries : ℕ}
    (hretries : retries + failures = MAX_POLLING_RETRIES + 1) (written : String) :
    (writeLogsStream accepts stream retries written).2 =
      written ++ fileText (linesBefore failures stream) := by
  induction stream generalizing failures retries written with
  | nil => simp [writeLogsStream, linesBefore, fileText]
  | cons read rest ih =>
    cases read with
    | ok line =>
      simp only [writeLogsStream, writeAll, haccepts, if_true, Bool.and_self, linesBefore,
        fileText_cons]
      rw [ih hretries, String.append_assoc, String.append_assoc, String.append_assoc]
    | error error =>
      cases failures with
      | zero =>
        have hmany : MAX_POLLING_RETRIES < retries := by omega
        simp [writeLogsStream, hmany, linesBefore, fileText]
      | succ failures =>
        have hfew : ¬MAX_POLLING_RETRIES < retries := by omega
        rw [writeLogsStream, if_neg hfew, linesBefore]
        exact ih (by omega) written

/-- A stream with no more failed reads than are put up with ends the dump without an error. -/
theorem writeLogsStream_fst {accepts : String → String → Bool}
    (haccepts : ∀ written chunk, accepts written chunk) {stream : List (Except String String)}
    {retries : ℕ} (hretries : retries + failedReads stream ≤ MAX_POLLING_RETRIES + 1)
    (written : String) : (writeLogsStream accepts stream retries written).1 = .ok () := by
  induction stream generalizing retries written with
  | nil => rfl
  | cons read rest ih =>
    cases read with
    | ok line =>
      have hrest : retries + failedReads rest ≤ MAX_POLLING_RETRIES + 1 := by
        simpa [failedReads, Except.isOk, Except.toBool] using hretries
      simp only [writeLogsStream, writeAll, haccepts, if_true, Bool.and_self]
      exact ih hrest _
    | error error =>
      have hmore : retries + (failedReads rest + 1) ≤ MAX_POLLING_RETRIES + 1 := by
        simpa [failedReads, Except.isOk, Except.toBool] using hretries
      have hfew : ¬MAX_POLLING_RETRIES < retries := by omega
      rw [writeLogsStream, if_neg hfew]
      exact ih (by omega) written

/-- Such a stream is read to its end. -/
theorem linesBefore_eq {failures : ℕ} {stream : List (Except String String)}
    (h : failedReads stream ≤ failures) :
    linesBefore failures stream = stream.filterMap Except.toOption := by
  induction stream generalizing failures with
  | nil => cases failures <;> rfl
  | cons read rest ih =>
    cases read with
    | ok line =>
      have hrest : failedReads rest ≤ failures := by
        simpa [failedReads, Except.isOk, Except.toBool] using h
      simp [linesBefore, ih hrest, Except.toOption]
    | error error =>
      have hmore : failedReads rest + 1 ≤ failures := by
        simpa [failedReads, Except.isOk, Except.toBool] using h
      obtain ⟨spare, rfl⟩ := Nat.exists_eq_add_of_le' (Nat.le_trans (Nat.le_add_left 1 _) hmore)
      exact ih (Nat.le_of_succ_le_succ hmore)

/-! ## What the collection writes -/

section Files

variable (env : LogEnv)

/-- What the file of a container has at the end, and how its dump ends. -/
def containerDump (file : Path) (podName containerName : String) (previous : Bool) :
    Except K8sLoggerError Unit × String :=
  match env.logStream podName containerName previous with
  | .error error => (.error (.k8sResourceError (.clientError error)), "")
  | .ok stream => writeLogsStream (env.accepts file) stream 0 ""

def containerWrites (podName containerName : String) (podDir : Path) (previous : Bool) :
    List (Path × Option String) :=
  let file := podDir ++ [containerFileName previous containerName]
  if env.createsFile file then
    [(file, some (containerDump env file podName containerName previous).2)]
  else []

/-- The dump of a container is carried through. -/
def ContainerDumped (podName containerName : String) (podDir : Path) (previous : Bool) : Prop :=
  env.createsFile (podDir ++ [containerFileName previous containerName]) ∧
    (containerDump env (podDir ++ [containerFileName previous containerName]) podName
      containerName previous).1 = .ok ()

instance (podName containerName : String) (podDir : Path) (previous : Bool) :
    Decidable (ContainerDumped env podName containerName podDir previous) :=
  decidable_of_iff (env.createsFile (podDir ++ [containerFileName previous containerName]) = true ∧
    (containerDump env (podDir ++ [containerFileName previous containerName]) podName
      containerName previous).1.isOk) (by
    unfold ContainerDumped
    cases (containerDump env (podDir ++ [containerFileName previous containerName]) podName
      containerName previous).1 <;> simp [Except.isOk, Except.toBool])

/-- The logs before the last restart come first, and the current ones only if these were read. -/
def podContainerWrites (pod : Pod) (podName containerName : String) (podDir : Path) :
    List (Path × Option String) :=
  if containerRestarted pod containerName then
    containerWrites env podName containerName podDir true ++
      if ContainerDumped env podName containerName podDir true then
        containerWrites env podName containerName podDir false
      else []
  else containerWrites env podName containerName podDir false

def podWrites (containerName : String) (directory : Path) (pod : Pod) :
    List (Path × Option String) :=
  match podIdentity env pod with
  | .error _ => []
  | .ok (hostName, podName) =>
    let podDir := directory ++ [hostName ++ "_" ++ podName]
    if env.createsDirectory podDir then podContainerWrites env pod podName containerName podDir
    else []

def historicText (dump : LogDump) : Option String :=
  if dump.removed then none else some (fileText dump.lines)

def historicWrites (workingDir : String) (resource : LogResource) : List (Path × Option String) :=
  match env.historic with
  | none => []
  | some historic =>
    let file := serviceDir workingDir resource ++ [lokiFileName resource]
    if env.createsFile file then [(file, historicText (historic resource))] else []

def resourceWrites (workingDir : String) (resource : LogResource) : List (Path × Option String) :=
  historicWrites env workingDir resource ++
    match runningPods env resource.labelSelector resource.hostName with
    | .error _ => []
    | .ok pods =>
      pods.flatMap (podWrites env resource.containerName (serviceDir workingDir resource))

/-- The dump of the historical logs of a resource, if there is a Loki client, and how it ends. -/
def historicOutcome (workingDir : String) (resource : LogResource) : Except LokiError Unit :=
  match env.historic with
  | none => .ok ()
  | some historic =>
    if env.createsFile (serviceDir workingDir resource ++ [lokiFileName resource]) then
      (historic resource).result
    else .error .ioError

/-- The error of an outcome, if it is one. -/
def errorOf {ε : Type} (error : ε → LogError) : Except ε Unit → List LogError
  | .ok _ => []
  | .error source => [error source]

def podsOutcome (resource : LogResource) : Except K8sLoggerError Unit :=
  match runningPods env resource.labelSelector resource.hostName with
  | .ok _ => .ok ()
  | .error error => .error (.k8sResourceError error)

def resourceErrors (workingDir : String) (resource : LogResource) : List LogError :=
  errorOf .loki (historicOutcome env workingDir resource) ++
    errorOf .k8sLogger (podsOutcome env resource)

variable {env}

theorem createContainerLogFile_writes (previous : Bool) (podName containerName : String)
    (podDir : Path) :
    ∃ outcome, Writes (createContainerLogFile env previous podName containerName podDir) outcome
      (containerWrites env podName containerName podDir previous) ∧
        (outcome = .ok () ↔ ContainerDumped env podName containerName podDir previous) := by
  unfold createContainerLogFile containerWrites ContainerDumped createFile containerDump
  by_cases hcreates : env.createsFile (podDir ++ [containerFileName previous containerName])
  · simp only [hcreates, if_true, true_and]
    cases env.logStream podName containerName previous with
    | error error =>
      exact ⟨_, Writes.bind (Writes.write _ _) (Writes.ofExcept _), Iff.rfl⟩
    | ok stream =>
      refine ⟨_, Writes.overwrite (Writes.bind (Writes.write _ _)
        (Writes.bind (Writes.write _ _) (Writes.ofExcept _))), Iff.rfl⟩
  · simp only [hcreates]
    exact ⟨_, Writes.bind_error (Writes.ofExcept _), by simp⟩

theorem createContainerLogs_writes (pod : Pod) (podName containerName : String) (podDir : Path) :
    ∃ outcome, Writes (createContainerLogs env pod podName podDir [containerName]) outcome
      (podContainerWrites env pod podName containerName podDir) := by
  obtain ⟨current, hcurrent, hcurrentOk⟩ :=
    @createContainerLogFile_writes env false podName containerName podDir
  have hlast : ∃ outcome, Writes (do
      createContainerLogFile env false podName containerName podDir
      createContainerLogs env pod podName podDir []) outcome
        (containerWrites env podName containerName podDir false) := by
    cases current with
    | error error => exact ⟨_, Writes.bind_error hcurrent⟩
    | ok value =>
      exact ⟨_, Writes.bind_silent hcurrent (Writes.pure ())⟩
  obtain ⟨last, hlast⟩ := hlast
  unfold createContainerLogs podContainerWrites
  by_cases hrestarted : containerRestarted pod containerName
  · simp only [hrestarted, if_true]
    obtain ⟨previous, hprevious, hpreviousOk⟩ :=
      @createContainerLogFile_writes env true podName containerName podDir
    by_cases hdumped : ContainerDumped env podName containerName podDir true
    · rw [if_pos hdumped]
      rw [hpreviousOk.mpr hdumped] at hprevious
      exact ⟨_, Writes.bind hprevious hlast⟩
    · rw [if_neg hdumped, List.append_nil]
      cases previous with
      | ok value => exact absurd (hpreviousOk.mp rfl) hdumped
      | error error => exact ⟨_, Writes.bind_error hprevious⟩
  · simp only [hrestarted]
    exact ⟨last, hlast⟩

theorem createDirectoryIfNotExist_writes {ε : Type} (error : ε) (path : Path) :
    Writes (createDirectoryIfNotExist env error path)
      (if env.createsDirectory path then .ok () else .error error) [] :=
  Writes.ofExcept _

theorem createPodLogs_writes (containerName : String) (directory : Path) (pod : Pod) :
    ∃ outcome, Writes (createPodLogs env pod [containerName] directory) outcome
      (podWrites env containerName directory pod) := by
  unfold createPodLogs podWrites
  cases podIdentity env pod with
  | error error => exact ⟨_, Writes.bind_error (Writes.ofExcept _)⟩
  | ok identity =>
    obtain ⟨hostName, podName⟩ := identity
    have hcreate := @createDirectoryIfNotExist_writes env _ K8sLoggerError.ioError
      (directory ++ [hostName ++ "_" ++ podName])
    obtain ⟨outcome, houtcome⟩ := @createContainerLogs_writes env pod podName containerName
      (directory ++ [hostName ++ "_" ++ podName])
    by_cases hcreates : env.createsDirectory (directory ++ [hostName ++ "_" ++ podName])
    · rw [if_pos hcreates] at hcreate
      simp only [hcreates, if_true]
      exact ⟨outcome, Writes.bind (Writes.ofExcept _) (Writes.bind hcreate houtcome)⟩
    · rw [if_neg hcreates] at hcreate
      simp only [hcreates]
      exact ⟨_, Writes.bind (Writes.ofExcept _) (Writes.bind_error hcreate)⟩

theorem createAllPodLogs_writes (containerName : String) (directory : Path) (pods : List Pod) :
    Writes (createAllPodLogs env [containerName] directory pods) (.ok ())
      (pods.flatMap (podWrites env containerName directory)) := by
  induction pods with
  | nil => exact Writes.pure ()
  | cons pod pods ih =>
    obtain ⟨outcome, houtcome⟩ := @createPodLogs_writes env containerName directory pod
    rw [List.flatMap_cons]
    exact Writes.bind (Writes.attempt houtcome) ih

theorem dumpHistoricLogs_writes (dump : LogDump) (file : Path) :
    Writes (dumpHistoricLogs env dump file)
      (if env.createsFile file then dump.result else .error .ioError)
      (if env.createsFile file then [(file, historicText dump)] else []) := by
  unfold dumpHistoricLogs createFile historicText
  by_cases hcreates : env.createsFile file
  · simp only [hcreates, if_true]
    cases dump.removed with
    | true =>
      exact Writes.overwrite (Writes.bind (Writes.write _ _)
        (Writes.bind (Writes.write _ _) (Writes.ofExcept _)))
    | false =>
      exact Writes.overwrite (Writes.bind (Writes.write _ _)
        (Writes.bind (Writes.write _ _) (Writes.ofExcept _)))
  · simp only [hcreates]
    exact Writes.bind_error (Writes.ofExcept _)

theorem dumpPodLogs_writes (resource : LogResource) (directory : Path) :
    Writes (dumpPodLogs env resource.labelSelector directory resource.hostName
        [resource.containerName]) (podsOutcome env resource)
      (match runningPods env resource.labelSelector resource.hostName with
        | .error _ => []
        | .ok pods => pods.flatMap (podWrites env resource.containerName directory)) := by
  unfold dumpPodLogs podsOutcome
  cases runningPods env resource.labelSelector resource.hostName with
  | error error => exact Writes.bind_error (Writes.ofExcept _)
  | ok pods => exact Writes.bind (Writes.ofExcept _) (createAllPodLogs_writes _ _ _)

theorem keepError_writes {ε : Type} {error : ε → LogError} {dump : Collecting ε Unit}
    {outcome : Except ε Unit} {writes : List (Path × Option String)}
    (h : Writes dump outcome writes) :
    Writes (keepError error dump) (.ok (errorOf error outcome)) writes := by
  refine Writes.bind_silent (Writes.attempt h) ?_
  cases outcome with
  | ok value => exact Writes.pure _
  | error source => exact Writes.pure _

theorem dumpHistoric_writes (workingDir : String) (resource : LogResource) :
    Writes (dumpHistoric env workingDir resource)
      (.ok (errorOf .loki (historicOutcome env workingDir resource)))
      (historicWrites env workingDir resource) := by
  unfold dumpHistoric historicOutcome historicWrites
  cases env.historic with
  | none => exact Writes.pure _
  | some historic => exact keepError_writes (dumpHistoricLogs_writes _ _)

theorem dumpResource_writes {workingDir : String} {resource : LogResource}
    (hcreates : env.createsDirectory (serviceDir workingDir resource)) :
    Writes (dumpResource env workingDir resource) (.ok (resourceErrors env workingDir resource))
      (resourceWrites env workingDir resource) := by
  have hcreate := @createDirectoryIfNotExist_writes env _ LogError.ioError
    (serviceDir workingDir resource)
  rw [if_pos hcreates] at hcreate
  rw [← List.nil_append (resourceWrites env workingDir resource)]
  refine Writes.bind hcreate (Writes.bind (dumpHistoric_writes workingDir resource) ?_)
  exact Writes.bind_silent (keepError_writes (dumpPodLogs_writes resource _)) (Writes.pure _)

theorem dumpResources_writes {workingDir : String} {resources : List LogResource}
    (hcreates : ∀ resource ∈ resources, env.createsDirectory (serviceDir workingDir resource))
    (errors : List LogError) :
    Writes (dumpResources env workingDir resources errors)
      (.ok (errors ++ resources.flatMap (resourceErrors env workingDir)))
      (resources.flatMap (resourceWrites env workingDir)) := by
  induction resources generalizing errors with
  | nil =>
    rw [List.flatMap_nil, List.append_nil]
    exact Writes.pure errors
  | cons resource resources ih =>
    rw [List.forall_mem_cons] at hcreates
    rw [List.flatMap_cons, List.flatMap_cons, ← List.append_assoc]
    exact Writes.bind (dumpResource_writes hcreates.1) (ih hcreates.2 _)

theorem fetchAndDumpLogs_writes {workingDir : String} {resources : List LogResource}
    (hcreates : ∀ resource ∈ resources, env.createsDirectory (serviceDir workingDir resource)) :
    ∃ outcome, Writes (fetchAndDumpLogs env workingDir resources) outcome
      (resources.flatMap (resourceWrites env workingDir)) ∧
        (outcome = .ok () ↔
          ∀ resource ∈ resources, resourceErrors env workingDir resource = []) := by
  have hdump := dumpResources_writes hcreates []
  rw [List.nil_append] at hdump
  by_cases hnone : resources.flatMap (resourceErrors env workingDir) = []
  · refine ⟨.ok (), Writes.bind_silent hdump ?_, ?_⟩
    · rw [hnone]
      exact Writes.pure ()
    · exact iff_of_true rfl (List.flatMap_eq_nil_iff.mp hnone)
  · refine ⟨.error (.multipleErrors (resources.flatMap (resourceErrors env workingDir))),
      Writes.bind_silent hdump ?_, ?_⟩
    · rw [if_neg (by simpa using hnone)]
      exact Writes.ofExcept _
    · refine iff_of_false (by simp) fun hall ↦ hnone (List.flatMap_eq_nil_iff.mpr hall)

/-- A directory that cannot be created ends the collection. -/
theorem dumpResources_stops {workingDir : String} {resources : List LogResource}
    (h : ∃ resource ∈ resources, ¬env.createsDirectory (serviceDir workingDir resource))
    (errors : List LogError) :
    ∃ writes, Writes (dumpResources env workingDir resources errors) (.error .ioError) writes := by
  induction resources generalizing errors with
  | nil =>
    obtain ⟨resource, hresource, -⟩ := h
    exact absurd hresource List.not_mem_nil
  | cons resource resources ih =>
    by_cases hcreates : env.createsDirectory (serviceDir workingDir resource)
    · obtain ⟨other, hother, hrefuses⟩ := h
      obtain rfl | hlater := List.mem_cons.mp hother
      · exact absurd hcreates hrefuses
      · obtain ⟨writes, hwrites⟩ := ih ⟨other, hlater, hrefuses⟩
          (errors ++ resourceErrors env workingDir resource)
        exact ⟨_, Writes.bind (dumpResource_writes hcreates) hwrites⟩
    · have hcreate := @createDirectoryIfNotExist_writes env _ LogError.ioError
        (serviceDir workingDir resource)
      rw [if_neg hcreates] at hcreate
      exact ⟨_, Writes.bind_error (Writes.bind_error hcreate)⟩

/-- For every order of the resources: the collection fails if and only if a directory of a service
cannot be created, or one of the dumps fails. -/
theorem fetchAndDumpLogs_ok_iff {workingDir : String} {resources : List LogResource}
    (files : LogFiles) :
    (fetchAndDumpLogs env workingDir resources files).1 = .ok () ↔
      ∀ resource ∈ resources, env.createsDirectory (serviceDir workingDir resource) ∧
        resourceErrors env workingDir resource = [] := by
  by_cases hcreates : ∀ resource ∈ resources,
      env.createsDirectory (serviceDir workingDir resource)
  · obtain ⟨outcome, hwrites, houtcome⟩ := fetchAndDumpLogs_writes hcreates
    rw [hwrites files, houtcome]
    exact forall₂_congr fun resource hresource ↦ (and_iff_right (hcreates resource hresource)).symm
  · refine iff_of_false ?_ fun hall ↦ hcreates fun resource hresource ↦ (hall resource hresource).1
    push Not at hcreates
    obtain ⟨resource, hresource, hrefuses⟩ := hcreates
    obtain ⟨writes, hwrites⟩ := dumpResources_stops ⟨resource, hresource, hrefuses⟩ []
    have hstops : Writes (fetchAndDumpLogs env workingDir resources) (.error .ioError) writes :=
      Writes.bind_error hwrites
    rw [hstops files]
    simp

end Files

/-! ## The files of a collection -/

def podDirectory (workingDir : String) (resource : LogResource) (hostName podName : String) :
    Path :=
  serviceDir workingDir resource ++ [hostName ++ "_" ++ podName]

/-- The files that the collection writes for a resource, with what they have at the end: the
historical logs, and for each of the running Pods the current logs and, after a restart, the logs
before it.  If these cannot be read, the current ones are not tried. -/
inductive LogFile (env : LogEnv) (workingDir : String) (resource : LogResource) :
    Path → Option String → Prop
  | historic {historic : LogResource → LogDump} (hhistoric : env.historic = some historic)
      (hcreates : env.createsFile (serviceDir workingDir resource ++ [lokiFileName resource])) :
      LogFile env workingDir resource (serviceDir workingDir resource ++ [lokiFileName resource])
        (historicText (historic resource))
  | container {pods : List Pod} {pod : Pod} {hostName podName : String} {previous : Bool}
      (hpods : runningPods env resource.labelSelector resource.hostName = .ok pods)
      (hpod : pod ∈ pods) (hidentity : podIdentity env pod = .ok (hostName, podName))
      (hdirectory : env.createsDirectory (podDirectory workingDir resource hostName podName))
      (hrestarted : previous → containerRestarted pod resource.containerName)
      (hreached : ¬previous → containerRestarted pod resource.containerName →
        ContainerDumped env podName resource.containerName
          (podDirectory workingDir resource hostName podName) true)
      (hcreates : env.createsFile (podDirectory workingDir resource hostName podName ++
        [containerFileName previous resource.containerName])) :
      LogFile env workingDir resource
        (podDirectory workingDir resource hostName podName ++
          [containerFileName previous resource.containerName])
        (some (containerDump env (podDirectory workingDir resource hostName podName ++
          [containerFileName previous resource.containerName]) podName resource.containerName
            previous).2)

section Names

variable {env : LogEnv} {workingDir : String} {resource : LogResource} {path : Path}
  {content : Option String}

theorem mem_containerWrites {podName containerName : String} {podDir : Path} {previous : Bool}
    {write : Path × Option String} :
    write ∈ containerWrites env podName containerName podDir previous ↔
      env.createsFile (podDir ++ [containerFileName previous containerName]) ∧
        write = (podDir ++ [containerFileName previous containerName],
          some (containerDump env (podDir ++ [containerFileName previous containerName]) podName
            containerName previous).2) := by
  unfold containerWrites
  by_cases hcreates : env.createsFile (podDir ++ [containerFileName previous containerName])
  · simp [hcreates]
  · simp [hcreates]

theorem mem_podContainerWrites {pod : Pod} {podName containerName : String} {podDir : Path}
    {write : Path × Option String} :
    write ∈ podContainerWrites env pod podName containerName podDir ↔
      ∃ previous : Bool, (previous → containerRestarted pod containerName) ∧
        (¬previous → containerRestarted pod containerName →
          ContainerDumped env podName containerName podDir true) ∧
            write ∈ containerWrites env podName containerName podDir previous := by
  unfold podContainerWrites
  by_cases hrestarted : containerRestarted pod containerName
  · by_cases hdumped : ContainerDumped env podName containerName podDir true
    · simp [hrestarted, hdumped, or_comm]
    · simp [hrestarted, hdumped]
  · simp [hrestarted]

theorem logFile_of_mem_podWrites {pods : List Pod} {pod : Pod} {write : Path × Option String}
    (hpods : runningPods env resource.labelSelector resource.hostName = .ok pods)
    (hpod : pod ∈ pods)
    (hwrite : write ∈ podWrites env resource.containerName (serviceDir workingDir resource) pod) :
    LogFile env workingDir resource write.1 write.2 := by
  unfold podWrites at hwrite
  cases hidentity : podIdentity env pod with
  | error error =>
    rw [hidentity] at hwrite
    exact absurd hwrite List.not_mem_nil
  | ok identity =>
    obtain ⟨hostName, podName⟩ := identity
    rw [hidentity] at hwrite
    dsimp only at hwrite
    split at hwrite
    next hdirectory =>
      obtain ⟨previous, hrestarted, hreached, hmem⟩ := mem_podContainerWrites.mp hwrite
      obtain ⟨hcreates, rfl⟩ := mem_containerWrites.mp hmem
      exact .container hpods hpod hidentity hdirectory hrestarted hreached hcreates
    next => exact absurd hwrite List.not_mem_nil

theorem LogFile.mem_resourceWrites (hfile : LogFile env workingDir resource path content) :
    (path, content) ∈ resourceWrites env workingDir resource := by
  induction hfile with
  | historic hhistoric hcreates =>
    refine List.mem_append_left _ ?_
    unfold historicWrites
    rw [hhistoric]
    dsimp only
    rw [if_pos hcreates]
    exact List.mem_singleton_self _
  | container hpods hpod hidentity hdirectory hrestarted hreached hcreates =>
    refine List.mem_append_right _ ?_
    rw [hpods]
    refine List.mem_flatMap.mpr ⟨_, hpod, ?_⟩
    unfold podWrites
    rw [hidentity]
    dsimp only
    rw [podDirectory] at hdirectory
    rw [if_pos hdirectory]
    exact mem_podContainerWrites.mpr ⟨_, hrestarted, hreached,
      mem_containerWrites.mpr ⟨hcreates, rfl⟩⟩

/-- The writes of the collection are the files it is to leave behind. -/
theorem mem_resourceWrites_iff {write : Path × Option String} :
    write ∈ resourceWrites env workingDir resource ↔
      LogFile env workingDir resource write.1 write.2 := by
  constructor
  · intro hwrite
    rcases List.mem_append.mp hwrite with hhistoric | hpod
    · unfold historicWrites at hhistoric
      split at hhistoric
      next => exact absurd hhistoric List.not_mem_nil
      next historic hsome =>
        dsimp only at hhistoric
        split at hhistoric
        next hcreates =>
          obtain rfl := List.mem_singleton.mp hhistoric
          exact .historic hsome hcreates
        next => exact absurd hhistoric List.not_mem_nil
    · split at hpod
      next => exact absurd hpod List.not_mem_nil
      next pods hpods =>
        obtain ⟨pod, hmem, hwrites⟩ := List.mem_flatMap.mp hpod
        exact logFile_of_mem_podWrites hpods hmem hwrites
  · exact fun hfile ↦ hfile.mem_resourceWrites

/-- A name with a part behind the last underscore. -/
theorem underscore_inj {first first' last last' : String} (hlast : '_' ∉ last.toList)
    (hlast' : '_' ∉ last'.toList) (h : first ++ "_" ++ last = first' ++ "_" ++ last') :
    first = first' ∧ last = last' := by
  have hchars : first.toList ++ '_' :: last.toList = first'.toList ++ '_' :: last'.toList := by
    simpa [String.toList_append] using congrArg String.toList h
  -- the longer of the two last parts would have the underscore of the other
  rcases List.append_eq_append_iff.mp hchars with
    ⟨between, hfirst, hrest⟩ | ⟨between, hfirst, hrest⟩
  · rcases List.cons_eq_append_iff.mp hrest with ⟨rfl, heq⟩ | ⟨more, rfl, heq⟩
    · refine ⟨String.ext ?_, String.ext (List.cons.inj heq.symm).2⟩
      rw [hfirst, List.append_nil]
    · exact absurd (heq ▸ List.mem_append_right more List.mem_cons_self) hlast
  · rcases List.cons_eq_append_iff.mp hrest with ⟨rfl, heq⟩ | ⟨more, rfl, heq⟩
    · refine ⟨String.ext ?_, String.ext (List.cons.inj heq).2⟩
      rw [hfirst, List.append_nil]
    · exact absurd (heq ▸ List.mem_append_right more List.mem_cons_self) hlast'

theorem containerFileName_inj {previous previous' : Bool} {name name' : String}
    (hname : '_' ∉ name.toList) (hname' : '_' ∉ name'.toList)
    (h : containerFileName previous name = containerFileName previous' name') :
    previous = previous' ∧ name = name' := by
  have hchars := congrArg String.toList h
  cases previous <;> cases previous' <;>
    simp only [containerFileName, if_true, Bool.false_eq_true, if_false, String.toList_append,
      List.append_cancel_right_eq] at hchars
  · exact ⟨rfl, String.ext hchars⟩
  · exact absurd (hchars ▸ List.mem_append_left _ (by decide)) hname
  · exact absurd (hchars ▸ List.mem_append_left _ (by decide)) hname'
  · exact ⟨rfl, String.ext (List.append_cancel_left hchars)⟩

/-- The files of containers can be told apart: Pods and containers have names without an underscore,
as Kubernetes demands. -/
structure ContainerNames (env : LogEnv) (resources : Finset LogResource) : Prop where
  containers : ∀ resource ∈ resources, '_' ∉ resource.containerName.toList
  pods : ∀ resource ∈ resources, ∀ pods,
    runningPods env resource.labelSelector resource.hostName = .ok pods →
      ∀ pod ∈ pods, ∀ name, pod.name = some name → '_' ∉ name.toList

/-- No two files of the collection have the same path: neither those of containers, nor the files
for the historical logs, whose name no two resources of a service share. -/
structure DistinctNames (env : LogEnv) (resources : Finset LogResource) : Prop extends
    ContainerNames env resources where
  historic : ∀ resource ∈ resources, ∀ other ∈ resources,
    resource.serviceType = other.serviceType → lokiFileName resource = lokiFileName other →
      resource = other

theorem podName_of_podIdentity {pod : Pod} {hostName podName : String}
    (h : podIdentity env pod = .ok (hostName, podName)) : pod.name = some podName := by
  unfold podIdentity at h
  cases hname : pod.name with
  | none => simp [hname] at h
  | some name =>
    simp only [hname] at h
    repeat' split at h
    all_goals cases h
    rfl

/-- What the file of a container is named after, and what it has. -/
def ContainerFile (env : LogEnv) (workingDir : String) (resource : LogResource) (path : Path)
    (content : Option String) : Prop :=
  ∃ pods pod hostName podName previous,
    runningPods env resource.labelSelector resource.hostName = .ok pods ∧ pod ∈ pods ∧
      pod.name = some podName ∧
        path = [workingDir, "logs", resource.serviceType, hostName ++ "_" ++ podName,
          containerFileName previous resource.containerName] ∧
        content = some (containerDump env path podName resource.containerName previous).2

/-- What a file is named after, and what it has. -/
theorem LogFile.named (hfile : LogFile env workingDir resource path content) :
    (∃ historic, env.historic = some historic ∧
      path = [workingDir, "logs", resource.serviceType, lokiFileName resource] ∧
        content = historicText (historic resource)) ∨
    ContainerFile env workingDir resource path content := by
  induction hfile with
  | historic hhistoric hcreates => exact .inl ⟨_, hhistoric, rfl, rfl⟩
  | container hpods hpod hidentity hdirectory hrestarted hreached hcreates =>
    exact .inr ⟨_, _, _, _, _, hpods, hpod, podName_of_podIdentity hidentity, rfl, rfl⟩

/-- No other file has the path of the file of a container. -/
theorem ContainerFile.content_eq {resources : Finset LogResource}
    (hnames : ContainerNames env resources) {other : LogResource} {content' : Option String}
    (hresource : resource ∈ resources) (hother : other ∈ resources)
    (hfile : ContainerFile env workingDir resource path content)
    (hfile' : LogFile env workingDir other path content') : content = content' := by
  obtain ⟨pods, pod, hostName, podName, previous, hpods, hpod, hname, hpath, rfl⟩ := hfile
  rcases hfile'.named with ⟨historic', hhistoric', hpath', rfl⟩ |
    ⟨pods', pod', hostName', podName', previous', hpods', hpod', hname', hpath', rfl⟩
  · rw [hpath] at hpath'
    simp at hpath'
  · have hsame := hpath.symm.trans hpath'
    simp only [List.cons.injEq, and_true, true_and] at hsame
    obtain ⟨-, hdirectory, hfileName⟩ := hsame
    have hpodName := (underscore_inj (hnames.pods resource hresource pods hpods pod hpod _ hname)
      (hnames.pods other hother pods' hpods' pod' hpod' _ hname') hdirectory).2
    obtain ⟨hprevious, hcontainer⟩ := containerFileName_inj
      (hnames.containers resource hresource) (hnames.containers other hother) hfileName
    rw [hpodName, hprevious, hcontainer]

/-- Files of one path have one content. -/
theorem LogFile.content_eq {resources : Finset LogResource} (hnames : DistinctNames env resources)
    {other : LogResource} {content' : Option String} (hresource : resource ∈ resources)
    (hother : other ∈ resources) (hfile : LogFile env workingDir resource path content)
    (hfile' : LogFile env workingDir other path content') : content = content' := by
  rcases hfile.named with ⟨historic, hhistoric, hpath, rfl⟩ | hcontainer
  · rcases hfile'.named with ⟨historic', hhistoric', hpath', rfl⟩ | hcontainer'
    · rw [hhistoric] at hhistoric'
      obtain rfl := Option.some.inj hhistoric'
      rw [hpath] at hpath'
      simp only [List.cons.injEq, and_true, true_and] at hpath'
      rw [hnames.historic resource hresource other hother hpath'.1 hpath'.2]
    · exact (hcontainer'.content_eq hnames.toContainerNames hother hresource hfile).symm
  · exact hcontainer.content_eq hnames.toContainerNames hresource hother hfile'

section Walk

variable {resources : Finset LogResource} {order : List LogResource}
  (horder : order.toFinset = resources)
  (hcreates : ∀ resource ∈ resources, env.createsDirectory (serviceDir workingDir resource))

include horder hcreates

/-- The writes of the collection are the files of its resources. -/
theorem fetchAndDumpLogs_eq_assign :
    ∃ writes : List (Path × Option String),
      (∀ files, (fetchAndDumpLogs env workingDir order files).2 = assign writes files) ∧
      ∀ write, write ∈ writes ↔
        ∃ resource ∈ resources, LogFile env workingDir resource write.1 write.2 := by
  have hmem : ∀ resource, resource ∈ order ↔ resource ∈ resources := by
    intro resource
    rw [← horder, List.mem_toFinset]
  have hdirectories : ∀ resource ∈ order, env.createsDirectory (serviceDir workingDir resource) :=
    fun resource hresource ↦ hcreates resource ((hmem resource).mp hresource)
  obtain ⟨outcome, hwrites, -⟩ := fetchAndDumpLogs_writes hdirectories
  refine ⟨_, fun files ↦ congrArg Prod.snd (hwrites files), fun write ↦ ?_⟩
  simp only [List.mem_flatMap, hmem, mem_resourceWrites_iff]

/-- A file is left with its content if no other resource has another content for its path. -/
theorem fetchAndDumpLogs_file (hresource : resource ∈ resources)
    (hfile : LogFile env workingDir resource path content)
    (hsame : ∀ other ∈ resources, ∀ content', LogFile env workingDir other path content' →
      content' = content) (files : LogFiles) :
    (fetchAndDumpLogs env workingDir order files).2 path = content := by
  obtain ⟨writes, hwrites, hmem⟩ := fetchAndDumpLogs_eq_assign horder hcreates
  rw [hwrites]
  refine assign_eq_of_mem ?_ ((hmem (path, content)).mpr ⟨resource, hresource, hfile⟩) files
  intro write hwrite hpath
  obtain ⟨other, hother, hfile'⟩ := (hmem write).mp hwrite
  rw [hpath] at hfile'
  exact hsame other hother _ hfile'

/-- In whichever order the resources are walked, every file is left with its content, and no other
file is touched. -/
theorem fetchAndDumpLogs_files (hnames : DistinctNames env resources) (files : LogFiles) :
    (∀ resource ∈ resources, ∀ path content, LogFile env workingDir resource path content →
      (fetchAndDumpLogs env workingDir order files).2 path = content) ∧
    ∀ path, (∀ resource ∈ resources, ∀ content, ¬LogFile env workingDir resource path content) →
      (fetchAndDumpLogs env workingDir order files).2 path = files path := by
  constructor
  · intro resource hresource path content hfile
    refine fetchAndDumpLogs_file horder hcreates hresource hfile ?_ files
    exact fun other hother content' hfile' ↦ hfile'.content_eq hnames hother hresource hfile
  · intro path hnone
    obtain ⟨writes, hwrites, hmem⟩ := fetchAndDumpLogs_eq_assign horder hcreates
    rw [hwrites]
    refine assign_of_forall_ne (fun write hwrite hpath ↦ ?_) files
    obtain ⟨resource, hresource, hfile⟩ := (hmem write).mp hwrite
    rw [hpath] at hfile
    exact hnone resource hresource _ hfile

end Walk

end Names

/-! ## Which logs are collected -/

/-- The services of the five groups. -/
def loggedServices : List String :=
  CONTROL_PLANE_SERVICES ++ DATA_PLANE_SERVICES ++ UPGRADE_JOB_SERVICE ++ CALLHOME_JOB_SERVICE ++
    NATS_JOB_SERVICE

/-- What there is to collect: the containers of the Pods of a logged service, with their host where
it matters, and the data plane of every node. -/
inductive Logged (nodes : List KubeNode) (pods : List Pod) (topologies : List NodeTopology) :
    LogResource → Prop
  | container {pod : Pod} {spec : PodSpec} {container : String} {hostName : Option String}
      (hpod : pod ∈ pods) (hservice : serviceName pod ∈ loggedServices)
      (hhost : resourceHost nodes pod = .ok hostName) (hspec : pod.spec = some spec)
      (hcontainer : container ∈ spec.containers) :
      Logged nodes pods topologies
        ⟨container, hostName, "app=" ++ serviceName pod, serviceName pod⟩
  | node {topology : NodeTopology} {spec : NodeSpec} (htopology : topology ∈ topologies)
      (hspec : topology.node.spec = some spec) :
      Logged nodes pods topologies
        ⟨dataPlaneContainerName, some spec.id, mayastorDaemonsetLabel, MAYASTOR_SERVICE⟩

/-- A Pod whose containers can be told. -/
def Tellable (nodes : List KubeNode) (pod : Pod) : Prop :=
  pod.spec.isSome ∧ (resourceHost nodes pod).isOk

section Resources

variable {env : LogEnv} {nodes : List KubeNode} {pods : List Pod} {services : List String}

theorem labels_of_service {pod : Pod} (hempty : "" ∉ services)
    (hservice : serviceName pod ∈ services) : ∃ labels, pod.labels = some labels := by
  cases hlabels : pod.labels with
  | none =>
    have hname : serviceName pod = "" := by simp [serviceName, hlabels]
    exact absurd (hname ▸ hservice) hempty
  | some labels => exact ⟨labels, rfl⟩

/-- The containers of a Pod. -/
def Contains (nodes : List KubeNode) (pod : Pod) (resource : LogResource) : Prop :=
  ∃ spec hostName container, pod.spec = some spec ∧ resourceHost nodes pod = .ok hostName ∧
    container ∈ spec.containers ∧
      resource = ⟨container, hostName, "app=" ++ serviceName pod, serviceName pod⟩

/-- A Pod with labels fails the collection exactly if its containers cannot be told. -/
theorem podResources_cases {pod : Pod} {labels : List (String × String)}
    (hlabels : pod.labels = some labels) :
    (¬Tellable nodes pod ∧ ∃ error, podResources nodes pod = .error error) ∨
      Tellable nodes pod ∧ ∃ found, podResources nodes pod = .ok found ∧
        ∀ resource, resource ∈ found ↔ Contains nodes pod resource := by
  unfold podResources Tellable Contains
  rw [hlabels]
  cases hhost : resourceHost nodes pod with
  | error error => exact .inl ⟨fun htellable ↦ (by cases htellable.2), error, rfl⟩
  | ok hostName =>
    cases hspec : pod.spec with
    | none => exact .inl ⟨fun htellable ↦ (by cases htellable.1), _, rfl⟩
    | some spec =>
      refine .inr ⟨⟨rfl, rfl⟩, _, rfl, fun resource ↦ ?_⟩
      simp [eq_comm]

/-- The Pods of a group, one after the other. -/
theorem addPods_eq_ok_iff (hlabels : ∀ pod ∈ pods, ∃ labels, pod.labels = some labels)
    (resources found : Finset LogResource) :
    addPods nodes resources pods = .ok found ↔ (∀ pod ∈ pods, Tellable nodes pod) ∧
      ∀ resource, resource ∈ found ↔
        resource ∈ resources ∨ ∃ pod ∈ pods, Contains nodes pod resource := by
  induction pods generalizing resources with
  | nil =>
    simp only [addPods, Except.ok.injEq, List.not_mem_nil, false_and, exists_false, or_false,
      false_imp_iff, implies_true, true_and]
    exact ⟨fun h resource ↦ by rw [h], fun h ↦ (Finset.ext h).symm⟩
  | cons pod pods ih =>
    rw [List.forall_mem_cons] at hlabels
    obtain ⟨⟨labels, hpod⟩, hrest⟩ := hlabels
    rcases @podResources_cases nodes pod labels hpod with
      ⟨hnot, error, herror⟩ | ⟨htellable, more, hmore, hcontains⟩
    · have hfails : addPods nodes resources (pod :: pods) = .error error := by
        rw [addPods, herror]
        rfl
      rw [hfails]
      exact iff_of_false (by simp) fun h ↦ hnot (h.1 pod List.mem_cons_self)
    · have hgoes : addPods nodes resources (pod :: pods) =
          addPods nodes (resources ∪ more) pods := by
        rw [addPods, hmore]
        rfl
      rw [hgoes, ih hrest]
      simp [htellable, hcontains, or_assoc]

theorem getLoggingServices_eq_ok_iff (hempty : "" ∉ services) (found : Finset LogResource) :
    getLoggingServices services env = .ok found ↔
      ∃ pods nodes, env.getPods loggingLabelSelector "" = .ok pods ∧ env.nodes = .ok nodes ∧
        (∀ pod ∈ pods, serviceName pod ∈ services → Tellable nodes pod) ∧
          ∀ resource, resource ∈ found ↔
            ∃ pod ∈ pods, serviceName pod ∈ services ∧ Contains nodes pod resource := by
  unfold getLoggingServices getLoggingResources
  cases hpods : env.getPods loggingLabelSelector "" with
  | error error => exact iff_of_false (by simp [Bind.bind, Except.bind]) (by simp)
  | ok pods =>
    cases hnodes : env.nodes with
    | error error => exact iff_of_false (by simp [Bind.bind, Except.bind]) (by simp)
    | ok nodes =>
      have hlabels : ∀ pod ∈ pods.filter fun pod ↦ serviceName pod ∈ services,
          ∃ labels, pod.labels = some labels := by
        intro pod hpod
        exact labels_of_service hempty (of_decide_eq_true (List.mem_filter.mp hpod).2)
      have hadd := @addPods_eq_ok_iff nodes _ hlabels ∅ found
      simp only [List.mem_filter, decide_eq_true_eq, and_imp, Finset.notMem_empty, false_or,
        and_assoc] at hadd
      simpa [Bind.bind, Except.bind] using hadd

theorem exists_addPods (hlabels : ∀ pod ∈ pods, ∃ labels, pod.labels = some labels)
    (htellable : ∀ pod ∈ pods, Tellable nodes pod) (resources : Finset LogResource) :
    ∃ found, addPods nodes resources pods = .ok found := by
  induction pods generalizing resources with
  | nil => exact ⟨resources, rfl⟩
  | cons pod pods ih =>
    rw [List.forall_mem_cons] at hlabels htellable
    obtain ⟨⟨labels, hpod⟩, hrest⟩ := hlabels
    rcases @podResources_cases nodes pod labels hpod with ⟨hnot, -⟩ | ⟨-, more, hmore, -⟩
    · exact absurd htellable.1 hnot
    · obtain ⟨found, hfound⟩ := ih hrest htellable.2 (resources ∪ more)
      refine ⟨found, ?_⟩
      rw [addPods, hmore]
      exact hfound

theorem exists_getLoggingServices (hempty : "" ∉ services)
    (hpods : env.getPods loggingLabelSelector "" = .ok pods) (hnodes : env.nodes = .ok nodes)
    (htellable : ∀ pod ∈ pods, serviceName pod ∈ services → Tellable nodes pod) :
    ∃ found, getLoggingServices services env = .ok found := by
  have hfilter : ∀ pod ∈ pods.filter fun pod ↦ serviceName pod ∈ services,
      pod ∈ pods ∧ serviceName pod ∈ services := by
    intro pod hpod
    obtain ⟨hmem, hservice⟩ := List.mem_filter.mp hpod
    exact ⟨hmem, of_decide_eq_true hservice⟩
  obtain ⟨found, hfound⟩ := @exists_addPods nodes _
    (fun pod hpod ↦ labels_of_service hempty (hfilter pod hpod).2)
    (fun pod hpod ↦ htellable pod (hfilter pod hpod).1 (hfilter pod hpod).2) ∅
  refine ⟨found, ?_⟩
  rw [getLoggingServices, hpods]
  show getLoggingResources env _ = _
  rw [getLoggingResources, hnodes]
  exact hfound

/-- What a group of services asks for and what it contributes. -/
theorem getLoggingServices_spec {found : Finset LogResource} (hempty : "" ∉ services)
    (hpods : env.getPods loggingLabelSelector "" = .ok pods) (hnodes : env.nodes = .ok nodes)
    (h : getLoggingServices services env = .ok found) :
    (∀ pod ∈ pods, serviceName pod ∈ services → Tellable nodes pod) ∧
      ∀ resource, resource ∈ found ↔
        ∃ pod ∈ pods, serviceName pod ∈ services ∧ Contains nodes pod resource := by
  obtain ⟨pods', nodes', hpods', hnodes', hspec⟩ := (getLoggingServices_eq_ok_iff hempty _).mp h
  rw [hpods] at hpods'
  rw [hnodes] at hnodes'
  obtain rfl := Except.ok.inj hpods'
  obtain rfl := Except.ok.inj hnodes'
  exact hspec

theorem mem_nodeResources {nodeTopologer : Option (List NodeTopology)} {resource : LogResource} :
    resource ∈ nodeResources nodeTopologer ↔
      ∃ topology ∈ nodeTopologer.getD [], ∃ spec, topology.node.spec = some spec ∧
        resource = ⟨dataPlaneContainerName, some spec.id, mayastorDaemonsetLabel,
          MAYASTOR_SERVICE⟩ := by
  cases nodeTopologer with
  | none => simp [nodeResources]
  | some topologies =>
    rw [nodeResources, Finset.mem_image, Option.getD_some]
    constructor
    · rintro ⟨info, hinfo, rfl⟩
      obtain ⟨topology, htopology, hinfo⟩ := mem_extendAll.mp hinfo
      cases hspec : topology.node.spec with
      | none => simp [getAllResourceInfo, hspec] at hinfo
      | some spec =>
        simp only [getAllResourceInfo, hspec, Finset.mem_singleton] at hinfo
        exact ⟨topology, htopology, spec, hspec, by rw [hinfo]; rfl⟩
    · rintro ⟨topology, htopology, spec, hspec, rfl⟩
      refine ⟨resourceInfo .node spec.id, mem_extendAll.mpr ⟨topology, htopology, ?_⟩, rfl⟩
      simp [getAllResourceInfo, hspec]

theorem logged_iff {nodeTopologer : Option (List NodeTopology)} {resource : LogResource} :
    Logged nodes pods (nodeTopologer.getD []) resource ↔
      (∃ pod ∈ pods, serviceName pod ∈ loggedServices ∧ Contains nodes pod resource) ∨
        resource ∈ nodeResources nodeTopologer := by
  rw [mem_nodeResources]
  constructor
  · intro hlogged
    cases hlogged with
    | container hpod hservice hhost hspec hcontainer =>
      exact .inl ⟨_, hpod, hservice, _, _, _, hspec, hhost, hcontainer, rfl⟩
    | node htopology hspec => exact .inr ⟨_, htopology, _, hspec, rfl⟩
  · rintro (⟨pod, hpod, hservice, spec, hostName, container, hspec, hhost, hcontainer, rfl⟩ |
      ⟨topology, htopology, spec, hspec, rfl⟩)
    · exact .container hpod hservice hhost hspec hcontainer
    · exact .node htopology hspec

/-- The groups together are the logged services. -/
theorem mem_groups_iff {controlPlane dataPlane upgrade callhome nats : Finset LogResource}
    (hpods : env.getPods loggingLabelSelector "" = .ok pods) (hnodes : env.nodes = .ok nodes)
    (hcontrolPlane : getControlPlaneLoggingServices env = .ok controlPlane)
    (hdataPlane : getDataPlaneLoggingServices env = .ok dataPlane)
    (hupgrade : getUpgradeLoggingServices env = .ok upgrade)
    (hcallhome : getCallhomeLoggingServices env = .ok callhome)
    (hnats : getNatsLoggingServices env = .ok nats)
    {nodeTopologer : Option (List NodeTopology)} (resource : LogResource) :
    resource ∈ controlPlane ∪ dataPlane ∪ upgrade ∪ callhome ∪ nats ∪
        nodeResources nodeTopologer ↔
      Logged nodes pods (nodeTopologer.getD []) resource := by
  rw [logged_iff]
  simp only [Finset.mem_union, loggedServices, List.mem_append,
    (getLoggingServices_spec (by decide) hpods hnodes hcontrolPlane).2,
    (getLoggingServices_spec (by decide) hpods hnodes hdataPlane).2,
    (getLoggingServices_spec (by decide) hpods hnodes hupgrade).2,
    (getLoggingServices_spec (by decide) hpods hnodes hcallhome).2,
    (getLoggingServices_spec (by decide) hpods hnodes hnats).2, or_and_right, and_or_left,
    exists_or]

end Resources

/-- The set of resources is told exactly if the Pods and the nodes are listed and the containers of
every Pod of a logged service can be told, and then it is what there is to collect. -/
theorem collectedResources_eq_ok_iff (env : LogEnv) (nodeTopologer : Option (List NodeTopology))
    (found : Finset LogResource) :
    collectedResources env nodeTopologer = .ok found ↔
      ∃ pods nodes, env.getPods loggingLabelSelector "" = .ok pods ∧ env.nodes = .ok nodes ∧
        (∀ pod ∈ pods, serviceName pod ∈ loggedServices → Tellable nodes pod) ∧
          ∀ resource, resource ∈ found ↔ Logged nodes pods (nodeTopologer.getD []) resource := by
  constructor
  · intro h
    obtain ⟨controlPlane, hcontrolPlane, h⟩ := Outcome.bind_eq_ok h
    obtain ⟨dataPlane, hdataPlane, h⟩ := Outcome.bind_eq_ok h
    obtain ⟨upgrade, hupgrade, h⟩ := Outcome.bind_eq_ok h
    obtain ⟨callhome, hcallhome, h⟩ := Outcome.bind_eq_ok h
    obtain ⟨nats, hnats, h⟩ := Outcome.bind_eq_ok h
    obtain rfl := Except.ok.inj h
    obtain ⟨pods, nodes, hpods, hnodes, -, -⟩ :=
      (getLoggingServices_eq_ok_iff (by decide) _).mp hcontrolPlane
    refine ⟨pods, nodes, hpods, hnodes, ?_, mem_groups_iff hpods hnodes hcontrolPlane hdataPlane
      hupgrade hcallhome hnats⟩
    intro pod hpod hservice
    simp only [loggedServices, List.mem_append] at hservice
    rcases hservice with (((hservice | hservice) | hservice) | hservice) | hservice
    · exact (getLoggingServices_spec (by decide) hpods hnodes hcontrolPlane).1 pod hpod hservice
    · exact (getLoggingServices_spec (by decide) hpods hnodes hdataPlane).1 pod hpod hservice
    · exact (getLoggingServices_spec (by decide) hpods hnodes hupgrade).1 pod hpod hservice
    · exact (getLoggingServices_spec (by decide) hpods hnodes hcallhome).1 pod hpod hservice
    · exact (getLoggingServices_spec (by decide) hpods hnodes hnats).1 pod hpod hservice
  · rintro ⟨pods, nodes, hpods, hnodes, htellable, hfound⟩
    have hgroup : ∀ services, "" ∉ services → services ⊆ loggedServices →
        ∃ found, getLoggingServices services env = .ok found :=
      fun services hempty hsubset ↦ exists_getLoggingServices hempty hpods hnodes
        fun pod hpod hservice ↦ htellable pod hpod (hsubset hservice)
    obtain ⟨controlPlane, hcontrolPlane⟩ := hgroup CONTROL_PLANE_SERVICES (by decide) (by decide)
    obtain ⟨dataPlane, hdataPlane⟩ := hgroup DATA_PLANE_SERVICES (by decide) (by decide)
    obtain ⟨upgrade, hupgrade⟩ := hgroup UPGRADE_JOB_SERVICE (by decide) (by decide)
    obtain ⟨callhome, hcallhome⟩ := hgroup CALLHOME_JOB_SERVICE (by decide) (by decide)
    obtain ⟨nats, hnats⟩ := hgroup NATS_JOB_SERVICE (by decide) (by decide)
    have hset : found = controlPlane ∪ dataPlane ∪ upgrade ∪ callhome ∪ nats ∪
        nodeResources nodeTopologer := by
      ext resource
      rw [hfound, mem_groups_iff hpods hnodes hcontrolPlane hdataPlane hupgrade hcallhome hnats]
    rw [hset, collectedResources, getControlPlaneLoggingServices, hcontrolPlane,
      getDataPlaneLoggingServices, hdataPlane, getUpgradeLoggingServices, hupgrade,
      getCallhomeLoggingServices, hcallhome, getNatsLoggingServices, hnats]
    rfl

/-! ## The whole collection -/

section Collection

variable {env : LogEnv} {order : HashOrder} {workingDir : String}
  {nodeTopologer : Option (List NodeTopology)} {resources : Finset LogResource}

theorem collectAndDumpLogs_of_ok
    (h : collectedResources env nodeTopologer = .ok resources) (files : LogFiles) :
    collectAndDumpLogs env order workingDir nodeTopologer files =
      fetchAndDumpLogs env workingDir (order.walk resources) files := by
  simp only [collectAndDumpLogs, h]
  rfl

theorem resourceErrors_eq_nil_iff {resource : LogResource} :
    resourceErrors env workingDir resource = [] ↔
      historicOutcome env workingDir resource = .ok () ∧
        ∃ pods, runningPods env resource.labelSelector resource.hostName = .ok pods := by
  unfold resourceErrors podsOutcome
  rw [List.append_eq_nil_iff]
  cases historicOutcome env workingDir resource <;>
    cases runningPods env resource.labelSelector resource.hostName <;> simp [errorOf]

end Collection

/-- In whichever order the set is walked, the collection returns without an error exactly if the set
of resources is told and for each of them the directory of its service can be created, the dump of
its historical logs succeeds, and its running Pods are listed.  Logs of a Pod that cannot be read do
not fail it. -/
theorem collectAndDumpLogs_ok_iff (env : LogEnv) (order : HashOrder) (workingDir : String)
    (nodeTopologer : Option (List NodeTopology)) (files : LogFiles) :
    (collectAndDumpLogs env order workingDir nodeTopologer files).1 = .ok () ↔
      ∃ resources, collectedResources env nodeTopologer = .ok resources ∧
        ∀ resource ∈ resources, env.createsDirectory (serviceDir workingDir resource) ∧
          historicOutcome env workingDir resource = .ok () ∧
            ∃ pods, runningPods env resource.labelSelector resource.hostName = .ok pods := by
  cases hresources : collectedResources env nodeTopologer with
  | error error =>
    have hfails : collectAndDumpLogs env order workingDir nodeTopologer files =
        (.error (.k8sResource error), files) := by
      simp only [collectAndDumpLogs, hresources]
      rfl
    rw [hfails]
    simp
  | ok resources =>
    rw [collectAndDumpLogs_of_ok hresources, fetchAndDumpLogs_ok_iff]
    simp only [← List.mem_toFinset, order.complete, resourceErrors_eq_nil_iff, Except.ok.injEq,
      exists_eq_left']

/-- In whichever order the set is walked, and whichever dumps fail: every file is left with the
content that its resource, Pod and container give it, and no other file is touched. -/
theorem collectAndDumpLogs_files {env : LogEnv} {order : HashOrder} {workingDir : String}
    {nodeTopologer : Option (List NodeTopology)} {resources : Finset LogResource}
    (hresources : collectedResources env nodeTopologer = .ok resources)
    (hnames : DistinctNames env resources)
    (hcreates : ∀ resource ∈ resources, env.createsDirectory (serviceDir workingDir resource))
    (files : LogFiles) :
    (∀ resource ∈ resources, ∀ path content, LogFile env workingDir resource path content →
      (collectAndDumpLogs env order workingDir nodeTopologer files).2 path = content) ∧
    ∀ path, (∀ resource ∈ resources, ∀ content, ¬LogFile env workingDir resource path content) →
      (collectAndDumpLogs env order workingDir nodeTopologer files).2 path = files path := by
  rw [collectAndDumpLogs_of_ok hresources]
  exact fetchAndDumpLogs_files (order.complete resources) hcreates hnames files

/-- The only Pod of an installation with one node: the data plane, after a restart of one of its two
containers. -/
def ioEnginePod : Pod where
  name := some "io-engine-x2n4q"
  labels := some [("app", "io-engine")]
  spec := some ⟨some "worker-1", ["io-engine", "metrics-exporter"]⟩
  containerStatuses := some [⟨"io-engine", 1⟩, ⟨"metrics-exporter", 0⟩]

def workerNode : KubeNode := ⟨"worker-1", some [(KUBERNETES_HOST_LABEL_KEY, "w1")]⟩

/-- Everything is answered, but one read of the logs fails. -/
def restartedEnv : LogEnv where
  historic := some fun resource ↦ ⟨.ok (), ["history of " ++ resource.containerName], false, []⟩
  nodes := .ok [workerNode]
  node := fun _ ↦ .ok workerNode
  labelledNodes := fun _ ↦ .ok [workerNode]
  getPods := fun _ _ ↦ .ok [ioEnginePod]
  logStream := fun _ containerName previous ↦
    if containerName = "metrics-exporter" then .ok [.ok "serving"]
    else .ok (if previous then [.ok "first start"] else [.ok "start", .error "reset", .ok "ready"])
  createsDirectory := fun _ ↦ true
  createsFile := fun _ ↦ true
  accepts := fun _ _ _ ↦ true

def ioEngineResource : LogResource := ⟨"io-engine", some "w1", "app=io-engine", "io-engine"⟩

def exporterResource : LogResource :=
  ⟨"metrics-exporter", some "w1", "app=io-engine", "io-engine"⟩

def restartedResources : Finset LogResource := {ioEngineResource, exporterResource}

/-- Some order. -/
noncomputable def someOrder : HashOrder where
  walk := Finset.toList
  nodup := Finset.nodup_toList
  complete := Finset.toList_toFinset

/-- The other way round. -/
noncomputable def reversedOrder : HashOrder where
  walk := fun resources ↦ resources.toList.reverse
  nodup := fun resources ↦ List.nodup_reverse.mpr resources.nodup_toList
  complete := fun resources ↦ by rw [List.toFinset_reverse, Finset.toList_toFinset]

theorem restartedEnv_resources : collectedResources restartedEnv none = .ok restartedResources := by
  decide +kernel

theorem restartedEnv_pods : ∀ resource ∈ restartedResources,
    runningPods restartedEnv resource.labelSelector resource.hostName = .ok [ioEnginePod] := by
  decide +kernel

theorem restartedEnv_names : DistinctNames restartedEnv restartedResources where
  containers := by decide +kernel
  pods := by
    intro resource hresource pods hpods pod hpod name hname
    rw [restartedEnv_pods resource hresource] at hpods
    obtain rfl := Except.ok.inj hpods
    obtain rfl := List.mem_singleton.mp hpod
    obtain rfl := Option.some.inj hname
    decide +kernel
  historic := by decide +kernel

/-- The files of the two containers. -/
def restartedFiles : List (Path × Option String) :=
  [(["dump", "logs", "io-engine", "w1-loki-io-engine.log"], some "history of io-engine\n"),
    (["dump", "logs", "io-engine", "w1_io-engine-x2n4q", "previous_io-engine.log"],
      some "first start\n"),
    (["dump", "logs", "io-engine", "w1_io-engine-x2n4q", "io-engine.log"], some "start\nready\n"),
    (["dump", "logs", "io-engine", "w1-loki-metrics-exporter.log"],
      some "history of metrics-exporter\n"),
    (["dump", "logs", "io-engine", "w1_io-engine-x2n4q", "metrics-exporter.log"],
      some "serving\n")]

theorem restartedFiles_eq : resourceWrites restartedEnv "dump" ioEngineResource ++
    resourceWrites restartedEnv "dump" exporterResource = restartedFiles := by
  decide +kernel

theorem mem_restartedFiles {file : Path × Option String} :
    file ∈ restartedFiles ↔
      ∃ resource ∈ restartedResources, LogFile restartedEnv "dump" resource file.1 file.2 := by
  simp only [← restartedFiles_eq, List.mem_append, mem_resourceWrites_iff, restartedResources,
    Finset.mem_insert, Finset.mem_singleton, exists_eq_or_imp, exists_eq_left]

theorem collectAndDumpLogs_files_restarted :
    ((∀ file ∈ restartedFiles,
        (collectAndDumpLogs restartedEnv someOrder "dump" none fun _ ↦ none).2 file.1 = file.2) ∧
      ∀ path, path ∉ restartedFiles.map Prod.fst →
        (collectAndDumpLogs restartedEnv someOrder "dump" none fun _ ↦ none).2 path = none) ∧
    (∀ file ∈ restartedFiles,
        (collectAndDumpLogs restartedEnv reversedOrder "dump" none fun _ ↦ none).2 file.1 =
          file.2) ∧
      ∀ path, path ∉ restartedFiles.map Prod.fst →
        (collectAndDumpLogs restartedEnv reversedOrder "dump" none fun _ ↦ none).2 path = none := by
  have hfiles : ∀ order : HashOrder,
      (∀ file ∈ restartedFiles,
        (collectAndDumpLogs restartedEnv order "dump" none fun _ ↦ none).2 file.1 = file.2) ∧
      ∀ path, path ∉ restartedFiles.map Prod.fst →
        (collectAndDumpLogs restartedEnv order "dump" none fun _ ↦ none).2 path = none := by
    intro order
    obtain ⟨hwritten, hothers⟩ := @collectAndDumpLogs_files _ order "dump" _ _
      restartedEnv_resources restartedEnv_names (fun _ _ ↦ rfl) fun _ ↦ none
    constructor
    · intro file hfile
      obtain ⟨resource, hresource, hlog⟩ := mem_restartedFiles.mp hfile
      exact hwritten resource hresource file.1 file.2 hlog
    · intro path hpath
      refine hothers path fun resource hresource content hlog ↦ hpath ?_
      have hfile : (path, content) ∈ restartedFiles :=
        mem_restartedFiles.mpr ⟨resource, hresource, hlog⟩
      exact List.mem_map_of_mem hfile
  exact ⟨hfiles someOrder, hfiles reversedOrder⟩

/-- A file system that does as it is told. -/
structure LogEnv.Writable (env : LogEnv) : Prop where
  directories : ∀ path, env.createsDirectory path
  files : ∀ path, env.createsFile path
  chunks : ∀ path written chunk, env.accepts path written chunk

/-- On a file system that does as it is told, and in whichever order the set is walked: of every
running Pod of a resource, the current logs of the container are in its file up to the fourth read
that failed, and all of them if there is no fourth; and so are, after a restart, the logs before it.
Logs before a restart that cannot be read are the only reason for a Pod not to have its current
logs. -/
theorem collectAndDumpLogs_complete {env : LogEnv} {order : HashOrder} {workingDir : String}
    {nodeTopologer : Option (List NodeTopology)} {resources : Finset LogResource}
    (hresources : collectedResources env nodeTopologer = .ok resources)
    (hnames : ContainerNames env resources) (hwritable : env.Writable) {resource : LogResource}
    (hresource : resource ∈ resources) {pods : List Pod}
    (hpods : runningPods env resource.labelSelector resource.hostName = .ok pods) {pod : Pod}
    (hpod : pod ∈ pods) {hostName podName : String}
    (hidentity : podIdentity env pod = .ok (hostName, podName)) {previous : Bool}
    {stream : List (Except String String)}
    (hstream : env.logStream podName resource.containerName previous = .ok stream)
    (hrestarted : previous → containerRestarted pod resource.containerName)
    (hbefore : ¬previous → containerRestarted pod resource.containerName →
      ∃ earlier, env.logStream podName resource.containerName true = .ok earlier ∧
        failedReads earlier ≤ MAX_POLLING_RETRIES + 1) (files : LogFiles) :
    (collectAndDumpLogs env order workingDir nodeTopologer files).2
        (podDirectory workingDir resource hostName podName ++
          [containerFileName previous resource.containerName]) =
      some (fileText (linesBefore (MAX_POLLING_RETRIES + 1) stream)) ∧
    (failedReads stream ≤ MAX_POLLING_RETRIES + 1 →
      linesBefore (MAX_POLLING_RETRIES + 1) stream = stream.filterMap Except.toOption) := by
  have hdumped : ¬previous → containerRestarted pod resource.containerName →
      ContainerDumped env podName resource.containerName
        (podDirectory workingDir resource hostName podName) true := by
    intro hcurrent hrestart
    obtain ⟨earlier, hearlier, hfew⟩ := hbefore hcurrent hrestart
    refine ⟨hwritable.files _, ?_⟩
    rw [containerDump, hearlier]
    exact writeLogsStream_fst (hwritable.chunks _) (by omega) ""
  have hfile := LogFile.container hpods hpod hidentity (hwritable.directories _) hrestarted hdumped
    (hwritable.files _)
  have hnamed : ContainerFile env workingDir resource (podDirectory workingDir resource hostName
      podName ++ [containerFileName previous resource.containerName]) _ :=
    ⟨_, _, _, _, _, hpods, hpod, podName_of_podIdentity hidentity, rfl, rfl⟩
  have hcontent := writeLogsStream_snd (hwritable.chunks (podDirectory workingDir resource hostName
    podName ++ [containerFileName previous resource.containerName])) stream
      (Nat.zero_add (MAX_POLLING_RETRIES + 1)) ""
  rw [String.empty_append] at hcontent
  rw [containerDump, hstream, hcontent] at hfile hnamed
  rw [collectAndDumpLogs_of_ok hresources]
  refine ⟨?_, linesBefore_eq⟩
  refine fetchAndDumpLogs_file (order.complete resources) (fun _ _ ↦ hwritable.directories _)
    hresource hfile ?_ files
  exact fun other hother content' hfile' ↦
    (hnamed.content_eq hnames hresource hother hfile').symm

theorem collectAndDumpLogs_complete_restarted :
    (collectAndDumpLogs restartedEnv someOrder "dump" none fun _ ↦ none).2
      ["dump", "logs", "io-engine", "w1_io-engine-x2n4q", "io-engine.log"] =
        some "start\nready\n" :=
  (@collectAndDumpLogs_complete _ someOrder "dump" _ _ restartedEnv_resources
    restartedEnv_names.toContainerNames ⟨fun _ ↦ rfl, fun _ ↦ rfl, fun _ _ _ ↦ rfl⟩
    ioEngineResource (by decide +kernel) _ (restartedEnv_pods ioEngineResource (by decide +kernel))
    _ (List.mem_singleton_self _) _ _
    (by decide +kernel : podIdentity restartedEnv ioEnginePod = .ok ("w1", "io-engine-x2n4q"))
    false _ rfl (fun h ↦ (by cases h)) (fun _ _ ↦ ⟨_, rfl, by decide⟩) fun _ ↦ none).1

end MayastorExtensions.Supportability
