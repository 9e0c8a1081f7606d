import Mathlib.Data.List.Forall2
import Mathlib.Order.Basic
import MayastorExtensions.KubeClient
import MayastorExtensions.Library.ComparisonSort

/-!
# Kubernetes resources of the support bundle

`dump_k8s_resources` of `k8s_resources/k8s_resource_dump.rs` writes the events, workloads, pools,
snapshots and Pods of the namespace into the bundle, one stage after another.  A stage that fails is
noted and the next one goes on; a panic ends the whole dump.  The events are sorted first, by a time
that is taken from one of three optional fields.

What the API server answers, the texts of the serializers and the outcomes of the file system are
parameters.
-/

namespace MayastorExtensions.Supportability

open KubeClient ComparisonSort

/-! ## Events -/

/-- An unwrapped `None`. -/
inductive Panic where
  | unwrapNone
  deriving DecidableEq, Repr

def unwrap {α : Type} : Option α → Except Panic α
  | some value => .ok value
  | none => .error .unwrapNone

/-- An instant, in nanoseconds since the epoch. -/
abbrev DateTime := ℤ

/-- A time with a precision of seconds. -/
structure Time where
  time : DateTime
  deriving DecidableEq, Repr

/-- A time with a precision of microseconds. -/
structure MicroTime where
  time : DateTime
  deriving DecidableEq, Repr

theorem MicroTime.time_injective : Function.Injective MicroTime.time := by
  rintro ⟨left⟩ ⟨right⟩ rfl
  rfl

instance microTimeLinearOrder : LinearOrder MicroTime :=
  LinearOrder.lift' MicroTime.time MicroTime.time_injective

structure EventSeries where
  lastObservedTime : Option MicroTime
  deriving DecidableEq, Repr

/-- An event; `rest` are the fields that its time does not depend on. -/
structure Event (Rest : Type) where
  series : Option EventSeries
  lastTimestamp : Option Time
  eventTime : Option MicroTime
  rest : Rest

section Events

variable {Rest : Type}

/-- The sort key of an event. -/
def eventTime (event : Event Rest) : Except Panic MicroTime :=
  match event.series with
  | some series => unwrap series.lastObservedTime
  | none =>
    match event.lastTimestamp with
    | some lastTimestamp => .ok ⟨lastTimestamp.time⟩
    | none => unwrap event.eventTime

/-- The time of an event: the first of the three that is there. -/
def Event.time? (event : Event Rest) : Option MicroTime :=
  (event.series.bind EventSeries.lastObservedTime).or
    ((event.lastTimestamp.map fun lastTimestamp ↦ ⟨lastTimestamp.time⟩).or event.eventTime)

/-- A series has its last observation; without a series there is one of the other times. -/
def Event.Timed (event : Event Rest) : Prop :=
  match event.series with
  | some series => series.lastObservedTime.isSome
  | none => event.lastTimestamp.isSome ∨ event.eventTime.isSome

/-- The key is there exactly for the events with the right time. -/
theorem isOk_eventTime_iff (event : Event Rest) : (eventTime event).isOk ↔ event.Timed := by
  obtain ⟨series, lastTimestamp, time, rest⟩ := event
  rcases series with _ | ⟨_ | lastObservedTime⟩
  · cases lastTimestamp with
    | some lastTimestamp => exact iff_of_true rfl (.inl rfl)
    | none => cases time with
      | some time => exact iff_of_true rfl (.inr rfl)
      | none => exact iff_of_false Bool.false_ne_true (by simp [Event.Timed])
  · exact iff_of_false Bool.false_ne_true (by simp [Event.Timed])
  · exact iff_of_true rfl rfl

/-- The key is the time of the event. -/
theorem time?_of_eventTime {event : Event Rest} {time : MicroTime}
    (h : eventTime event = .ok time) : event.time? = some time := by
  obtain ⟨series, lastTimestamp, eventTime, rest⟩ := event
  rcases series with _ | ⟨_ | lastObservedTime⟩
  · cases lastTimestamp with
    | some lastTimestamp => exact congrArg some (Except.ok.inj h)
    | none => cases eventTime with
      | some eventTime => exact congrArg some (Except.ok.inj h)
      | none => cases h
  · cases h
  · exact congrArg some (Except.ok.inj h)

/-- The events that have a time are in the order of it. -/
def Chronological (events : List (Event Rest)) : Prop :=
  events.Pairwise fun left right ↦
    ∀ leftTime ∈ left.time?, ∀ rightTime ∈ right.time?, leftTime ≤ rightTime

/-- Sorting the events, where it succeeds. -/
theorem chronological_of_sortUnstableByKey {sort : UnstableSort} {events sorted : List (Event Rest)}
    (h : sortUnstableByKey sort eventTime events = .ok sorted) :
    sorted.Perm events ∧ Chronological sorted := by
  obtain ⟨hperm, hsorted⟩ := perm_and_sorted_of_sortUnstableByKey h
  refine ⟨hperm, ?_⟩
  rcases exists_sortUnstableByKey_iff.mp ⟨sorted, h⟩ with hshort | hkeys
  · apply pairwise_of_short
    rwa [hperm.length_eq]
  · refine hsorted.imp_of_mem fun {left right} hleft hright hle leftTime hleftTime rightTime
      hrightTime ↦ ?_
    obtain ⟨leftKey, hleftKey⟩ := Outcome.exists_ok (hkeys left (hperm.mem_iff.mp hleft))
    obtain ⟨rightKey, hrightKey⟩ := Outcome.exists_ok (hkeys right (hperm.mem_iff.mp hright))
    obtain rfl := Option.some.inj ((time?_of_eventTime hleftKey).symm.trans hleftTime)
    obtain rfl := Option.some.inj ((time?_of_eventTime hrightKey).symm.trans hrightTime)
    exact hle leftKey rightKey hleftKey hrightKey

/-- The events are sorted exactly if all of them have the right time, or there is at most one. -/
theorem exists_sorted_events_iff {sort : UnstableSort} {events : List (Event Rest)} :
    (∃ sorted, sortUnstableByKey sort eventTime events = .ok sorted) ↔
      events.length < 2 ∨ ∀ event ∈ events, event.Timed := by
  simp only [exists_sortUnstableByKey_iff, isOk_eventTime_iff]

end Events

/-! ## Stages -/

inductive K8sResourceDumperError where
  | k8sResourceError (error : K8sResourceError)
  | ioError (error : String)
  | yamlSerializationError (error : String)
  | jsonSerializationError (error : String)
  | multipleErrors (errors : List K8sResourceDumperError)

/-- The files that have been written, each with its content. -/
abbrev Files := List (String × String)

/-- A step of the dump, which adds files and may panic. -/
def Dumping (α : Type) := Files → Except Panic α × Files

namespace Dumping

instance : Monad Dumping where
  pure value := fun files ↦ (.ok value, files)
  bind program next := fun files ↦
    match program files with
    | (.ok value, files') => next value files'
    | (.error panic, files') => (.error panic, files')

/-- A computation that touches no file. -/
def lift {α : Type} (outcome : Except Panic α) : Dumping α := fun files ↦ (outcome, files)

end Dumping

/-- A stage of the dump ends with or without an error. -/
abbrev DumpStage := Dumping (Except K8sResourceDumperError Unit)

/-- An object of the API server; `rest` is everything but its name. -/
structure Named (Rest : Type) where
  name : Option String
  rest : Rest

/-- What the API server answers to the requests of the dump. -/
structure ClientSet (Rest : Type) where
  getEvents : Except K8sResourceError (List (Event Rest))
  getDaemonsets : Except K8sResourceError (List (Named Rest))
  getDeployments : Except K8sResourceError (List (Named Rest))
  getStatefulsets : Except K8sResourceError (List (Named Rest))
  listPools : Except K8sResourceError (List (Named Rest))
  listVolumesnapshotClasses : Except K8sResourceError (List DynamicObject)
  listVolumesnapshotcontents : Except K8sResourceError (List DynamicObject)
  getPods : Except K8sResourceError (List Rest)

/-- The serializers, and what the file system answers. -/
structure Outputs (Rest : Type) where
  createDirectoryIfNotExist : String → Except String Unit
  writeAll : String → String → Except String Unit
  eventsJson : List (Event Rest) → Except String String
  appYaml : Named Rest → Except String String
  poolsYaml : List (Named Rest) → Except String String
  objectsYaml : List DynamicObject → Except String String
  podsYaml : List Rest → Except String String

def push (path name : String) : String := path ++ "/" ++ name

section Stages

variable {Rest : Type} (outputs : Outputs Rest)

def createFileAndWrite (filePath fileName content : String) : Dumping (Except String Unit) :=
  fun files ↦
    match outputs.writeAll (push filePath fileName) content with
    | .ok _ => (.ok (.ok ()), files ++ [(push filePath fileName, content)])
    | .error error => (.ok (.error error), files)

/-- Write what was serialized into a file of its own. -/
def writeResource (filePath fileName : String) (serialized : Except K8sResourceDumperError String) :
    DumpStage :=
  match serialized with
  | .error error => pure (.error error)
  | .ok content => do
    let written ← createFileAndWrite outputs filePath fileName content
    pure (written.mapError .ioError)

/-- Go on with what the API server answered. -/
def onAnswer {α : Type} (answer : Except K8sResourceError α) (next : α → DumpStage) : DumpStage :=
  match answer with
  | .ok value => next value
  | .error error => pure (.error (.k8sResourceError error))

/-- One file for each workload.  What cannot be serialized or written is skipped, but not without
asking for its name. -/
def createAppConfigurations (dirPath : String) : List (Named Rest) → DumpStage
  | [] => pure (.ok ())
  | app :: apps => do
    let name ← Dumping.lift (unwrap app.name)
    match outputs.appYaml app with
    | .ok serialized =>
      let _written ← createFileAndWrite outputs dirPath (name ++ ".yaml") serialized
      createAppConfigurations dirPath apps
    | .error _ => createAppConfigurations dirPath apps

def writeEvents (rootDir : String) (events : List (Event Rest)) : DumpStage :=
  writeResource outputs rootDir "k8s_events.json"
    ((outputs.eventsJson events).mapError .jsonSerializationError)

def getK8sEvents (sort : UnstableSort) (rootDir : String)
    (answer : Except K8sResourceError (List (Event Rest))) : DumpStage :=
  onAnswer answer fun events ↦ do
    let sorted ← Dumping.lift (sortUnstableByKey sort eventTime events)
    writeEvents outputs rootDir sorted

def getK8sDaemonsets (configurationsPath : String)
    (answer : Except K8sResourceError (List (Named Rest))) : DumpStage :=
  onAnswer answer (createAppConfigurations outputs configurationsPath)

def getK8sDeployments (configurationsPath : String)
    (answer : Except K8sResourceError (List (Named Rest))) : DumpStage :=
  onAnswer answer (createAppConfigurations outputs configurationsPath)

def getK8sStatefulsets (configurationsPath : String)
    (answer : Except K8sResourceError (List (Named Rest))) : DumpStage :=
  onAnswer answer (createAppConfigurations outputs configurationsPath)

/-- The pools with one of the names. -/
def filterPools (names : List String) : List (Named Rest) → Except Panic (List (Named Rest))
  | [] => .ok []
  | pool :: pools => do
    let name ← unwrap pool.name
    let kept ← filterPools names pools
    pure (if name ∈ names then pool :: kept else kept)

def filteredPools (requiredPools : Option (List String)) (diskPools : List (Named Rest)) :
    Except Panic (List (Named Rest)) :=
  match requiredPools with
  | some names => filterPools names diskPools
  | none => .ok diskPools

def getK8sDiskpools (rootDir : String) (requiredPools : Option (List String))
    (answer : Except K8sResourceError (List (Named Rest))) : DumpStage :=
  onAnswer answer fun diskPools ↦ do
    let filtered ← Dumping.lift (filteredPools requiredPools diskPools)
    writeResource outputs rootDir "k8s_disk_pools.yaml"
      ((outputs.poolsYaml filtered).mapError .yamlSerializationError)

def getK8sVsClasses (rootDir : String) (answer : Except K8sResourceError (List DynamicObject)) :
    DumpStage :=
  onAnswer answer fun vscs ↦
    writeResource outputs rootDir "volume_snapshot_classes.yaml"
      ((outputs.objectsYaml vscs).mapError .yamlSerializationError)

def getK8sVsnapshotContents (rootDir : String)
    (answer : Except K8sResourceError (List DynamicObject)) : DumpStage :=
  onAnswer answer fun vscs ↦
    writeResource outputs rootDir "volume_snapshot_contents.yaml"
      ((outputs.objectsYaml vscs).mapError .yamlSerializationError)

def getK8sPodConfigurations (rootDir : String) (answer : Except K8sResourceError (List Rest)) :
    DumpStage :=
  onAnswer answer fun pods ↦
    writeResource outputs rootDir "pods.yaml"
      ((outputs.podsYaml pods).mapError .yamlSerializationError)

/-- The errors of the stages, which all run. -/
def collectErrors : List DumpStage → Dumping (List K8sResourceDumperError)
  | [] => pure []
  | stage :: stages => do
    let outcome ← stage
    let errors ← collectErrors stages
    match outcome with
    | .ok _ => pure errors
    | .error error => pure (error :: errors)

def dumpStages (sort : UnstableSort) (client : ClientSet Rest)
    (rootDir configurationsPath : String) (requiredPools : Option (List String)) :
    List DumpStage :=
  [getK8sEvents outputs sort rootDir client.getEvents,
    getK8sDaemonsets outputs configurationsPath client.getDaemonsets,
    getK8sDeployments outputs configurationsPath client.getDeployments,
    getK8sStatefulsets outputs configurationsPath client.getStatefulsets,
    getK8sDiskpools outputs rootDir requiredPools client.listPools,
    getK8sVsClasses outputs rootDir client.listVolumesnapshotClasses,
    getK8sVsnapshotContents outputs rootDir client.listVolumesnapshotcontents,
    getK8sPodConfigurations outputs rootDir client.getPods]

def createDirectories (rootDir configurationsPath : String) : Except String Unit := do
  outputs.createDirectoryIfNotExist rootDir
  outputs.createDirectoryIfNotExist configurationsPath

def dumpK8sResources (sort : UnstableSort) (client : ClientSet Rest) (rootPath : String)
    (requiredPools : Option (List String)) : DumpStage :=
  let rootDir := push rootPath "k8s_resources"
  let configurationsPath := push rootDir "configurations"
  match createDirectories outputs rootDir configurationsPath with
  | .error error => pure (.error (.ioError error))
  | .ok _ => do
    let errors ← collectErrors
      (dumpStages outputs sort client rootDir configurationsPath requiredPools)
    pure (if errors.isEmpty then .ok () else .error (.multipleErrors errors))

end Stages

/-! ## Which stages panic -/

/-- The step returns exactly under a condition, whatever has been written before. -/
def ReturnsIff {α : Type} (program : Dumping α) (condition : Prop) : Prop :=
  ∀ files, (program files).1.isOk ↔ condition

section Returns

variable {α β : Type}

theorem ReturnsIff.congr {program : Dumping α} {condition condition' : Prop}
    (h : ReturnsIff program condition) (hiff : condition ↔ condition') :
    ReturnsIff program condition' :=
  fun files ↦ (h files).trans hiff

theorem returnsIff_pure (value : α) : ReturnsIff (pure value) True :=
  fun _ ↦ iff_of_true rfl trivial

theorem returnsIff_lift (outcome : Except Panic α) :
    ReturnsIff (Dumping.lift outcome) outcome.isOk :=
  fun _ ↦ Iff.rfl

theorem ReturnsIff.bind {program : Dumping α} {next : α → Dumping β} {condition condition' : Prop}
    (h : ReturnsIff program condition) (hnext : ∀ value, ReturnsIff (next value) condition') :
    ReturnsIff (program >>= next) (condition ∧ condition') := by
  intro files
  have hfirst := h files
  change ((match program files with
    | (.ok value, files') => next value files'
    | (.error panic, files') => (.error panic, files')) : Except Panic β × Files).1.isOk ↔ _
  rcases hprogram : program files with ⟨outcome, files'⟩
  rw [hprogram] at hfirst
  cases outcome with
  | ok value => rw [and_iff_right (hfirst.mp rfl), ← hnext value files']
  | error panic =>
    exact iff_of_false Bool.false_ne_true fun hboth ↦ Bool.false_ne_true (hfirst.mpr hboth.1)

theorem isOk_unwrap (value : Option α) : (unwrap value).isOk = value.isSome := by
  cases value <;> rfl

variable {Rest : Type} {outputs : Outputs Rest}

theorem returnsIff_createFileAndWrite (filePath fileName content : String) :
    ReturnsIff (createFileAndWrite outputs filePath fileName content) True := by
  intro files
  unfold createFileAndWrite
  split
  · exact iff_of_true rfl trivial
  · exact iff_of_true rfl trivial

theorem returnsIff_writeResource (filePath fileName : String)
    (serialized : Except K8sResourceDumperError String) :
    ReturnsIff (writeResource outputs filePath fileName serialized) True := by
  cases serialized with
  | error error => exact returnsIff_pure _
  | ok content =>
    exact ((returnsIff_createFileAndWrite filePath fileName content).bind
      fun written ↦ returnsIff_pure _).congr (and_self_iff)

theorem returnsIff_onAnswer {answer : Except K8sResourceError α} {next : α → DumpStage}
    {condition : α → Prop} (hnext : ∀ value, ReturnsIff (next value) (condition value)) :
    ReturnsIff (onAnswer answer next) (∀ value, answer = .ok value → condition value) := by
  cases answer with
  | error error => exact (returnsIff_pure _).congr (iff_of_true trivial fun _ h ↦ by cases h)
  | ok value => exact (hnext value).congr (by simp)

/-- A workload without a name ends the dump. -/
theorem returnsIff_createAppConfigurations (dirPath : String) (apps : List (Named Rest)) :
    ReturnsIff (createAppConfigurations outputs dirPath apps)
      (∀ app ∈ apps, app.name.isSome) := by
  induction apps with
  | nil => exact (returnsIff_pure _).congr (by simp)
  | cons app apps ih =>
    have hrest (name : String) : ReturnsIff (match outputs.appYaml app with
        | .ok serialized => do
          let _written ← createFileAndWrite outputs dirPath (name ++ ".yaml") serialized
          createAppConfigurations outputs dirPath apps
        | .error _ => createAppConfigurations outputs dirPath apps)
        (∀ app ∈ apps, app.name.isSome) := by
      cases outputs.appYaml app with
      | error error => exact ih
      | ok serialized =>
        exact ((returnsIff_createFileAndWrite dirPath (name ++ ".yaml") serialized).bind
          fun _ ↦ ih).congr (iff_of_eq (true_and _))
    refine ((returnsIff_lift (unwrap app.name)).bind hrest).congr ?_
    rw [isOk_unwrap, List.forall_mem_cons]

theorem isOk_filterPools_iff (names : List String) (pools : List (Named Rest)) :
    (filterPools names pools).isOk ↔ ∀ pool ∈ pools, pool.name.isSome := by
  induction pools with
  | nil => simp [filterPools, Except.isOk, Except.toBool]
  | cons pool pools ih =>
    rw [List.forall_mem_cons, ← ih, filterPools]
    cases pool.name with
    | none => exact iff_of_false Bool.false_ne_true (by simp)
    | some name =>
      rw [Option.isSome_some, and_iff_right rfl]
      cases filterPools names pools with
      | error panic => exact Iff.rfl
      | ok kept => exact Iff.rfl

theorem returnsIff_getK8sEvents (sort : UnstableSort) (rootDir : String)
    (answer : Except K8sResourceError (List (Event Rest))) :
    ReturnsIff (getK8sEvents outputs sort rootDir answer)
      (∀ events, answer = .ok events → events.length < 2 ∨ ∀ event ∈ events, event.Timed) := by
  refine returnsIff_onAnswer fun events ↦ ?_
  refine ((returnsIff_lift _).bind fun sorted ↦ returnsIff_writeResource _ _ _).congr ?_
  rw [and_iff_left trivial, ← @exists_sorted_events_iff _ sort]
  exact ⟨Outcome.exists_ok, fun ⟨sorted, hsorted⟩ ↦ by rw [hsorted]; rfl⟩

theorem returnsIff_getK8sDiskpools (rootDir : String) (requiredPools : Option (List String))
    (answer : Except K8sResourceError (List (Named Rest))) :
    ReturnsIff (getK8sDiskpools outputs rootDir requiredPools answer)
      (∀ pools, answer = .ok pools → requiredPools.isSome → ∀ pool ∈ pools, pool.name.isSome) := by
  refine returnsIff_onAnswer fun pools ↦ ?_
  refine ((returnsIff_lift _).bind fun filtered ↦ returnsIff_writeResource _ _ _).congr ?_
  rw [and_iff_left trivial]
  cases requiredPools with
  | none => exact iff_of_true rfl fun hnone ↦ absurd hnone Bool.false_ne_true
  | some names =>
    rw [filteredPools, isOk_filterPools_iff]
    exact ⟨fun hnamed _ ↦ hnamed, fun hnamed ↦ hnamed rfl⟩

theorem returnsIff_appStage (dirPath : String)
    (answer : Except K8sResourceError (List (Named Rest))) :
    ReturnsIff (onAnswer answer (createAppConfigurations outputs dirPath))
      (∀ apps, answer = .ok apps → ∀ app ∈ apps, app.name.isSome) :=
  returnsIff_onAnswer fun apps ↦ returnsIff_createAppConfigurations dirPath apps

theorem returnsIff_writeStage (filePath fileName : String) (answer : Except K8sResourceError α)
    (serialize : α → Except K8sResourceDumperError String) :
    ReturnsIff (onAnswer answer fun value ↦
      writeResource outputs filePath fileName (serialize value)) True :=
  (returnsIff_onAnswer fun value ↦ returnsIff_writeResource _ _ _).congr (by simp)

/-- The dump of all stages returns exactly if every stage does. -/
theorem returnsIff_collectErrors {stages : List DumpStage} {conditions : List Prop}
    (h : List.Forall₂ ReturnsIff stages conditions) :
    ReturnsIff (collectErrors stages) (∀ condition ∈ conditions, condition) := by
  induction h with
  | nil => exact (returnsIff_pure _).congr (by simp)
  | cons hstage _ ih =>
    refine (hstage.bind fun outcome ↦ ih.bind fun errors ↦ ?_).congr
      (by rw [and_true, List.forall_mem_cons])
    cases outcome with
    | ok _ => exact returnsIff_pure _
    | error error => exact returnsIff_pure _

/-- The answers of the API server that keep the dump going. -/
structure ClientSet.Calm (client : ClientSet Rest) (requiredPools : Option (List String)) :
    Prop where
  events : ∀ events, client.getEvents = .ok events →
    events.length < 2 ∨ ∀ event ∈ events, event.Timed
  daemonsets : ∀ apps, client.getDaemonsets = .ok apps → ∀ app ∈ apps, app.name.isSome
  deployments : ∀ apps, client.getDeployments = .ok apps → ∀ app ∈ apps, app.name.isSome
  statefulsets : ∀ apps, client.getStatefulsets = .ok apps → ∀ app ∈ apps, app.name.isSome
  pools : ∀ pools, client.listPools = .ok pools → requiredPools.isSome →
    ∀ pool ∈ pools, pool.name.isSome

theorem returnsIff_dumpStages (sort : UnstableSort) (client : ClientSet Rest)
    (rootDir configurationsPath : String) (requiredPools : Option (List String)) :
    ReturnsIff (collectErrors
      (dumpStages outputs sort client rootDir configurationsPath requiredPools))
      (client.Calm requiredPools) := by
  have hstages : List.Forall₂ ReturnsIff
      (dumpStages outputs sort client rootDir configurationsPath requiredPools) _ :=
    .cons (returnsIff_getK8sEvents sort rootDir client.getEvents) <|
    .cons (returnsIff_appStage configurationsPath client.getDaemonsets) <|
    .cons (returnsIff_appStage configurationsPath client.getDeployments) <|
    .cons (returnsIff_appStage configurationsPath client.getStatefulsets) <|
    .cons (returnsIff_getK8sDiskpools rootDir requiredPools client.listPools) <|
    .cons (returnsIff_writeStage rootDir _ client.listVolumesnapshotClasses _) <|
    .cons (returnsIff_writeStage rootDir _ client.listVolumesnapshotcontents _) <|
    .cons (returnsIff_writeStage rootDir _ client.getPods _) .nil
  refine (returnsIff_collectErrors hstages).congr ?_
  simp only [List.forall_mem_cons]
  constructor
  · intro ⟨hevents, hdaemonsets, hdeployments, hstatefulsets, hpools, _⟩
    exact ⟨hevents, hdaemonsets, hdeployments, hstatefulsets, hpools⟩
  · intro hcalm
    exact ⟨hcalm.events, hcalm.daemonsets, hcalm.deployments, hcalm.statefulsets, hcalm.pools,
      trivial, trivial, trivial, List.forall_mem_nil _⟩

/-- Once the directories are there, the dump returns exactly if no answer makes it panic. -/
theorem returnsIff_dumpK8sResources (sort : UnstableSort) (client : ClientSet Rest)
    (rootPath : String) (requiredPools : Option (List String))
    (hcreated : createDirectories outputs (push rootPath "k8s_resources")
      (push (push rootPath "k8s_resources") "configurations") = .ok ()) :
    ReturnsIff (dumpK8sResources outputs sort client rootPath requiredPools)
      (client.Calm requiredPools) := by
  simp only [dumpK8sResources, hcreated]
  exact ((returnsIff_dumpStages sort client _ _ requiredPools).bind
    fun errors ↦ returnsIff_pure _).congr (iff_of_eq (and_true _))

end Returns

/-! ## What a sort of the events leads to -/

section SortedEvents

variable {Rest : Type} {outputs : Outputs Rest} {sort : UnstableSort}
  {events sorted : List (Event Rest)}

/-- Sorted events are written. -/
theorem getK8sEvents_of_ok (rootDir : String)
    (h : sortUnstableByKey sort eventTime events = .ok sorted) :
    getK8sEvents outputs sort rootDir (.ok events) = writeEvents outputs rootDir sorted := by
  funext files
  simp only [getK8sEvents, onAnswer, h]
  rfl

/-- A key that is missing ends the stage before anything is written. -/
theorem getK8sEvents_of_untimed (rootDir : String)
    (h : ¬ (events.length < 2 ∨ ∀ event ∈ events, event.Timed)) (files : Files) :
    getK8sEvents outputs sort rootDir (.ok events) files = (.error .unwrapNone, files) := by
  rw [← @exists_sorted_events_iff _ sort] at h
  cases hsort : sortUnstableByKey sort eventTime events with
  | ok sorted => exact absurd ⟨sorted, hsort⟩ h
  | error panic =>
    simp only [getK8sEvents, onAnswer, hsort]
    rfl

/-- The events are written as a file, all of them and in the order of their times. -/
structure EventsDumped (outputs : Outputs Rest) (sort : UnstableSort) (rootDir : String)
    (events : List (Event Rest)) : Prop where
  returns : ∀ files, (getK8sEvents outputs sort rootDir (.ok events) files).1.isOk
  writes : ∃ sorted, sorted.Perm events ∧ Chronological sorted ∧
    getK8sEvents outputs sort rootDir (.ok events) = writeEvents outputs rootDir sorted

/-- The events are dumped exactly if every one of them has the time that it is sorted by, or there
are fewer than two. -/
theorem eventsDumped_iff (outputs : Outputs Rest) (sort : UnstableSort) (rootDir : String)
    (events : List (Event Rest)) :
    EventsDumped outputs sort rootDir events ↔
      events.length < 2 ∨ ∀ event ∈ events, event.Timed := by
  have hreturns := @returnsIff_getK8sEvents _ outputs sort rootDir (.ok events)
  constructor
  · intro hdumped
    exact (hreturns []).mp (hdumped.returns []) events rfl
  · intro htimed
    obtain ⟨sorted, hsorted⟩ := (@exists_sorted_events_iff _ sort _).mpr htimed
    obtain ⟨hperm, hchronological⟩ := chronological_of_sortUnstableByKey hsorted
    refine ⟨fun files ↦ ?_, sorted, hperm, hchronological, getK8sEvents_of_ok rootDir hsorted⟩
    apply (hreturns files).mpr
    intro events' hevents
    cases hevents
    exact htimed

/-- An event of a series whose last observation is not recorded. -/
def unobserved : Event String := ⟨some ⟨none⟩, some ⟨5⟩, none, "BackOff"⟩

def pulled : Event String := ⟨none, some ⟨3⟩, none, "Pulled"⟩

/-- Serializers and a file system that accept everything. -/
def plainOutputs : Outputs String where
  createDirectoryIfNotExist _ := .ok ()
  writeAll _ _ := .ok ()
  eventsJson events := .ok (" ".intercalate (events.map Event.rest))
  appYaml app := .ok app.rest
  poolsYaml pools := .ok (" ".intercalate (pools.map Named.rest))
  objectsYaml _ := .ok ""
  podsYaml pods := .ok (" ".intercalate pods)

/-- A single series without its last observation keeps all events from being written. -/
theorem not_eventsDumped_unobserved :
    ¬ EventsDumped plainOutputs insertionSort "bundle" [unobserved, pulled] := by
  intro hdumped
  exact absurd (hdumped.returns []) (by decide)

/-- Events without the time that they are sorted by end the dump before any file is written. -/
theorem dumpK8sResources_of_untimed {client : ClientSet Rest} {rootPath : String}
    (requiredPools : Option (List String)) (hanswer : client.getEvents = .ok events)
    (huntimed : ¬ (events.length < 2 ∨ ∀ event ∈ events, event.Timed))
    (hcreated : createDirectories outputs (push rootPath "k8s_resources")
      (push (push rootPath "k8s_resources") "configurations") = .ok ()) (files : Files) :
    dumpK8sResources outputs sort client rootPath requiredPools files =
      (.error .unwrapNone, files) := by
  have hevents := @getK8sEvents_of_untimed _ outputs sort _ (push rootPath "k8s_resources") huntimed
    files
  rw [← hanswer] at hevents
  simp only [dumpK8sResources, hcreated, dumpStages, collectErrors, bind, hevents]

/-- Page by page or at once, the events that the API server lists are the ones that are sorted. -/
theorem getEvents_getK8sEvents {eventsApi : Api KubeError (Event Rest)}
    {listing : Paging.Listing (Event Rest) KubeError}
    (hlist : eventsApi.list (selectingAll "" "" 100) = listing.list) {fuel : ℕ}
    (hfuel : listing.pageCount ≤ fuel) (rootDir : String) :
    (getEvents eventsApi "" "" fuel).map (getK8sEvents outputs sort rootDir) =
      some (getK8sEvents outputs sort rootDir (.ok listing.items)) := by
  have hread : getEvents eventsApi "" "" fuel = some (.ok listing.items) :=
    Paging.reads_of_stops_empty (fun _ ↦ String.isEmpty_iff) hlist List.filterMap_some fuel hfuel
  rw [hread, Option.map_some]

end SortedEvents

end MayastorExtensions.Supportability
