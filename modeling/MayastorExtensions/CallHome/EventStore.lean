import MayastorExtensions.CallHome.EventStats
import MayastorExtensions.Library.Scheduled

/-!
# The event store

The stats service keeps its counters in a ConfigMap.  One task counts events in the cache, another
writes the cache to the ConfigMap at every update period, and a restarted service reads the cache
back.  `store/events_store.rs` ends the writing task at the first write that fails, and nothing
starts it again before the next restart of the service.

The ledger below says what the store is for: at every tick at which the writes are accepted
everything received so far becomes durable, and a restart goes back to what is durable.
-/

namespace MayastorExtensions.CallHome

open Scheduled (Verdict)

/-! ## The ConfigMap -/

/-- The key of the counters in the ConfigMap. -/
def eventStatsData : String := "stats"

/-- The label of the ConfigMap. -/
def eventStoreLabelKey : String := "app"
def eventStore : String := "event-store"

structure ConfigMap where
  labels : List (String × String)
  data : Option (List (String × String))

/-- The serialised form of the counters, which reads back as it was written. -/
structure Codec where
  encode : EventSet → String
  decode : String → Option EventSet
  decode_encode : ∀ events, decode (encode events) = some events

inductive StoreError where
  | getEventStoreConfigMap
  | createConfigMap
  | referenceConfigMapNoData
  | referencedKeyNotPresent (key : String)
  | eventSerdeDeserialization (event : String)
  deriving DecidableEq, Repr

variable (codec : Codec)

def EventSet.fromEventStore (initData : ConfigMap) : Except StoreError EventSet :=
  match initData.data with
  | none => .error .referenceConfigMapNoData
  | some data =>
    match data.lookup eventStatsData with
    | none => .error (.referencedKeyNotPresent eventStatsData)
    | some value =>
      match codec.decode value with
      | none => .error (.eventSerdeDeserialization value)
      | some events => .ok events

def initConfigMapData : List (String × String) := [(eventStatsData, codec.encode {})]

def updateConfigMap (cache : EventSet) : List (String × String) :=
  [(eventStatsData, codec.encode cache)]

/-- The ConfigMap that `create_configmap` asks for. -/
def createdConfigMap : ConfigMap where
  labels := [(eventStoreLabelKey, eventStore)]
  data := some (initConfigMapData codec)

/-- A server-side apply sets the given keys and leaves the others; it creates what is not there. -/
def applyData (given : List (String × String)) : Option ConfigMap → ConfigMap
  | none => ⟨[], some given⟩
  | some configMap =>
    let others := (configMap.data.getD []).filter fun entry ↦ (given.lookup entry.1).isNone
    { configMap with data := some (given ++ others) }

/-! ## The service -/

/-- What the Kubernetes API answers while the service starts: to the lookup of the ConfigMap, to
its creation, and to the client of the writing task. -/
structure StartCalls where
  reads : Bool
  creates : Bool
  connects : Bool
  deriving DecidableEq, Repr

/-- A running service; `persisting` says whether the task that writes the ConfigMap is. -/
structure Process where
  cache : EventSet
  persisting : Bool

/-- The ConfigMap in the cluster and the service. -/
structure Service where
  configMap : Option ConfigMap := none
  process : Option Process := none

/-- An event comes in, the update period has passed and the write gets its verdict, or the service
is started again. -/
inductive Step where
  | event (message : EventMessage)
  | tick (verdict : Verdict)
  | restart (calls : StartCalls)
  deriving DecidableEq, Repr

/-- `initialize`: the ConfigMap that is there, or a new one. -/
def initializeStore (calls : StartCalls) (configMap : Option ConfigMap) :
    Except StoreError ConfigMap :=
  if calls.reads then
    match configMap with
    | some existing => .ok existing
    | none => if calls.creates then .ok (createdConfigMap codec) else .error .createConfigMap
  else .error .getEventStoreConfigMap

/-- One round of `update_config_map_data`: a write that fails ends the task, also when only the
reply to it was lost. -/
def Process.persist (process : Process) (verdict : Verdict) (configMap : Option ConfigMap) :
    Service :=
  let written := some (applyData (updateConfigMap codec process.cache) configMap)
  match verdict with
  | .served => ⟨written, some process⟩
  | .refused => ⟨configMap, some { process with persisting := false }⟩
  | .lost => ⟨written, some { process with persisting := false }⟩

namespace Service

def step (service : Service) : Step → Service
  | .event message =>
    let receive (process : Process) : Process :=
      { process with cache := process.cache.incCounter message }
    { service with process := service.process.map receive }
  | .tick verdict =>
    match service.process with
    | some process =>
      if process.persisting then process.persist codec verdict service.configMap else service
    | none => service
  | .restart calls =>
    match initializeStore codec calls service.configMap with
    | .error _ => { service with process := none }
    | .ok configMap =>
      match EventSet.fromEventStore codec configMap with
      | .error _ => ⟨some configMap, none⟩
      | .ok cache => ⟨some configMap, some ⟨cache, calls.connects⟩⟩

/-- A run of the service from a cluster without a ConfigMap. -/
def run (steps : List Step) : Service :=
  steps.foldl (step codec) {}

/-- The counters in the cache of a running service. -/
def cached (service : Service) : Option EventSet :=
  service.process.map Process.cache

/-- The counters a restart would read. -/
def stored (service : Service) : Option (Except StoreError EventSet) :=
  service.configMap.map (EventSet.fromEventStore codec)

end Service

/-! ## What the store is for -/

/-- The events a running service has received and those that are durable, if there is a store. -/
structure Ledger where
  received : Option (List EventMessage) := none
  durable : Option (List EventMessage) := none
  deriving DecidableEq, Repr

namespace Ledger

/-- Writes that are accepted make everything received durable, whatever happened to the writes
before; a restart goes back to what is durable. -/
def step (ledger : Ledger) : Step → Ledger
  | .event message => { ledger with received := ledger.received.map (· ++ [message]) }
  | .tick .refused => ledger
  | .tick _ => { ledger with durable := ledger.received.or ledger.durable }
  | .restart calls =>
    if calls.reads then
      match ledger.durable with
      | some durable => ⟨some durable, some durable⟩
      | none => if calls.creates then ⟨some [], some []⟩ else ⟨none, none⟩
    else { ledger with received := none }

def run (steps : List Step) : Ledger :=
  steps.foldl step {}

end Ledger

/-- The counters of a list of events. -/
def counted (messages : List EventMessage) : EventSet :=
  storeEvents messages {}

/-- The cache holds the events received and the ConfigMap the durable ones. -/
def Refines (service : Service) (ledger : Ledger) : Prop :=
  service.cached = ledger.received.map counted ∧
    service.stored codec = ledger.durable.map fun messages ↦ .ok (counted messages)

/-! ## Runs without a lost write -/

/-- Whether no write has failed since the service was started, and its client was built. -/
def aliveAfter (alive : Bool) : Step → Bool
  | .event _ => alive
  | .tick verdict => alive && verdict = .served
  | .restart calls => calls.connects

/-- Writes are accepted only as long as none has failed. -/
def permitted (alive : Bool) : Step → Bool
  | .tick .served | .tick .lost => alive
  | _ => true

/-- After a write that failed, or a client that could not be built, no write is accepted before the
next restart. -/
def unbroken : Bool → List Step → Bool
  | _, [] => true
  | alive, step :: rest => permitted alive step && unbroken (aliveAfter alive step) rest

/-- The writing task runs as long as no write has failed. -/
def Persists (alive : Bool) (service : Service) : Prop :=
  alive → ∀ process ∈ service.process, process.persisting

section Steps

variable {codec} {service : Service} {ledger : Ledger} {alive : Bool}

theorem counted_append (messages : List EventMessage) (message : EventMessage) :
    counted (messages ++ [message]) = (counted messages).incCounter message := by
  simp [counted, storeEvents]

theorem fromEventStore_applyData (cache : EventSet) (configMap : Option ConfigMap) :
    EventSet.fromEventStore codec (applyData (updateConfigMap codec cache) configMap) =
      .ok cache := by
  have hdata : ∃ others, (applyData (updateConfigMap codec cache) configMap).data =
      some ((eventStatsData, codec.encode cache) :: others) := by
    cases configMap with
    | none => exact ⟨_, rfl⟩
    | some configMap => exact ⟨_, rfl⟩
  obtain ⟨others, hdata⟩ := hdata
  simp [EventSet.fromEventStore, hdata, codec.decode_encode]

theorem fromEventStore_created :
    EventSet.fromEventStore codec (createdConfigMap codec) = .ok (counted []) := by
  have hread : EventSet.fromEventStore codec (createdConfigMap codec) = .ok {} := by
    simp [EventSet.fromEventStore, createdConfigMap, initConfigMapData, codec.decode_encode]
  exact hread

theorem Refines.event (h : Refines codec service ledger) (message : EventMessage) :
    Refines codec (service.step codec (.event message)) (ledger.step (.event message)) := by
  refine ⟨?_, h.2⟩
  calc (service.step codec (.event message)).cached
      = service.cached.map (·.incCounter message) := by
        simp only [Service.cached, Service.step, Option.map_map]
        rfl
    _ = (ledger.received.map counted).map (·.incCounter message) := by rw [h.1]
    _ = (ledger.received.map (· ++ [message])).map counted := by
        rw [Option.map_map, Option.map_map]
        congr 1
        funext messages
        exact (counted_append messages message).symm

/-- A write puts the cache into the store. -/
theorem Refines.persist {process : Process} {messages : List EventMessage}
    (hprocess : process.cache = counted messages) (configMap : Option ConfigMap)
    (persisting : Bool) :
    Refines codec
      ⟨some (applyData (updateConfigMap codec process.cache) configMap),
        some { process with persisting := persisting }⟩
      ⟨some messages, some messages⟩ := by
  constructor
  · exact congrArg some hprocess
  · rw [Service.stored, Option.map_some, fromEventStore_applyData, hprocess]
    rfl

theorem step_tick {process : Process} (h : process.persisting) {configMap : Option ConfigMap}
    {verdict : Verdict} :
    Service.step codec ⟨configMap, some process⟩ (.tick verdict) =
      process.persist codec verdict configMap :=
  if_pos h

theorem Refines.tick (h : Refines codec service ledger) (halive : Persists alive service)
    {verdict : Verdict} (hpermitted : permitted alive (.tick verdict)) :
    Refines codec (service.step codec (.tick verdict)) (ledger.step (.tick verdict)) := by
  obtain ⟨configMap, process⟩ := service
  obtain ⟨received, durable⟩ := ledger
  cases process with
  | none =>
    have hnone : received = none := by simpa [Service.cached] using h.1.symm
    subst hnone
    cases verdict <;> exact h
  | some process =>
    obtain ⟨messages, rfl, hprocess⟩ : ∃ messages, received = some messages ∧
        process.cache = counted messages := by
      obtain ⟨messages, hmessages, hcounted⟩ := Option.map_eq_some_iff.mp h.1.symm
      exact ⟨messages, hmessages, hcounted.symm⟩
    cases verdict with
    | refused =>
      refine ⟨?_, ?_⟩
      · simp only [Service.step]
        split <;> exact h.1
      · simp only [Service.step]
        split <;> exact h.2
    | served =>
      have hpersisting : process.persisting := halive hpermitted process rfl
      rw [step_tick hpersisting]
      exact Refines.persist hprocess configMap process.persisting
    | lost =>
      have hpersisting : process.persisting := halive hpermitted process rfl
      rw [step_tick hpersisting]
      exact Refines.persist hprocess configMap false

theorem Refines.restart (h : Refines codec service ledger) (calls : StartCalls) :
    Refines codec (service.step codec (.restart calls)) (ledger.step (.restart calls)) := by
  obtain ⟨configMap, process⟩ := service
  obtain ⟨received, durable⟩ := ledger
  cases hreads : calls.reads with
  | false =>
    simp only [Service.step, initializeStore, Ledger.step, hreads]
    exact ⟨rfl, h.2⟩
  | true =>
    cases durable with
    | none =>
      have hnone : configMap = none := by simpa [Service.stored] using h.2
      subst hnone
      cases hcreates : calls.creates with
      | false =>
        simp only [Service.step, initializeStore, Ledger.step, hreads, hcreates]
        exact ⟨rfl, rfl⟩
      | true =>
        simp only [Service.step, initializeStore, Ledger.step, hreads, hcreates, if_true,
          fromEventStore_created]
        exact ⟨rfl, congrArg some fromEventStore_created⟩
    | some messages =>
      obtain ⟨existing, rfl, hexisting⟩ : ∃ existing, configMap = some existing ∧
          EventSet.fromEventStore codec existing = .ok (counted messages) :=
        Option.map_eq_some_iff.mp h.2
      simp only [Service.step, initializeStore, Ledger.step, hreads, if_true, hexisting]
      exact ⟨rfl, congrArg some hexisting⟩

theorem Persists.step (h : Persists alive service) (step : Step) :
    Persists (aliveAfter alive step) (service.step codec step) := by
  obtain ⟨configMap, process⟩ := service
  intro halive current hcurrent
  cases step with
  | event message =>
    obtain ⟨before, hbefore, rfl⟩ := Option.map_eq_some_iff.mp hcurrent
    exact h halive before hbefore
  | tick verdict =>
    obtain ⟨hbefore, rfl⟩ : alive ∧ verdict = .served := by simpa [aliveAfter] using halive
    cases process with
    | none => cases hcurrent
    | some process =>
      have hpersisting : process.persisting := h hbefore process rfl
      rw [step_tick hpersisting] at hcurrent
      cases hcurrent
      exact hpersisting
  | restart calls =>
    have hconnects : calls.connects := halive
    simp only [Service.step] at hcurrent
    split at hcurrent
    next => cases hcurrent
    next =>
      split at hcurrent
      next => cases hcurrent
      next =>
        cases hcurrent
        exact hconnects

theorem Refines.step (h : Refines codec service ledger) (halive : Persists alive service)
    {step : Step} (hpermitted : permitted alive step) :
    Refines codec (service.step codec step) (ledger.step step) := by
  cases step with
  | event message => exact h.event message
  | tick verdict => exact h.tick halive hpermitted
  | restart calls => exact h.restart calls

theorem Refines.steps {steps : List Step} (h : Refines codec service ledger)
    (halive : Persists alive service) (hunbroken : unbroken alive steps) :
    Refines codec (steps.foldl (Service.step codec) service) (steps.foldl Ledger.step ledger) := by
  induction steps generalizing service ledger alive with
  | nil => exact h
  | cons step rest ih =>
    obtain ⟨hpermitted, hrest⟩ : permitted alive step ∧ unbroken (aliveAfter alive step) rest := by
      simpa [unbroken] using hunbroken
    exact ih (h.step halive hpermitted) (halive.step step) hrest

end Steps

/-- In every run in which no write is accepted after one that failed, before the service is started
again, the service keeps what the ledger keeps: writes that are accepted make the cache durable, and
a restart loses what was received after the last of them and nothing else. -/
theorem run_refines {steps : List Step} (h : unbroken true steps) :
    Refines codec (Service.run codec steps) (Ledger.run steps) := by
  refine Refines.steps ⟨rfl, rfl⟩ ?_ h
  intro _ process hprocess
  cases hprocess

/-! ## The text of the counters -/

/-- The numbers in a text, with the one that is being read. -/
def numbersFrom : Option ℕ → List Char → List ℕ
  | pending, [] => pending.toList
  | pending, char :: rest =>
    if char.isDigit then
      numbersFrom (some (10 * pending.getD 0 + (char.toNat - '0'.toNat))) rest
    else pending.toList ++ numbersFrom none rest

/-- A text without digits. -/
def Plain (text : List Char) : Prop :=
  ∀ char ∈ text, char.isDigit = false

instance (text : List Char) : Decidable (Plain text) :=
  inferInstanceAs (Decidable (∀ char ∈ text, char.isDigit = false))

theorem numbersFrom_plain {text : List Char} (h : Plain text) (rest : List Char) :
    numbersFrom none (text ++ rest) = numbersFrom none rest := by
  induction text with
  | nil => rfl
  | cons char tail ih =>
    have hchar := h char List.mem_cons_self
    have htail : Plain tail := fun other hother ↦ h other (List.mem_cons_of_mem _ hother)
    rw [List.cons_append, numbersFrom, if_neg (by simp [hchar]), ih htail]
    rfl

theorem numbersFrom_digits {digits rest : List Char} (h : ∀ char ∈ digits, char.isDigit)
    (hrest : ∀ char ∈ rest.head?, char.isDigit = false) (pending : ℕ) :
    numbersFrom (some pending) (digits ++ rest) =
      Nat.ofDigitChars 10 digits pending :: numbersFrom none rest := by
  induction digits generalizing pending with
  | nil =>
    cases rest with
    | nil => rfl
    | cons char tail =>
      have hchar := hrest char rfl
      simp [numbersFrom, hchar]
  | cons char tail ih =>
    have hchar := h char List.mem_cons_self
    rw [List.cons_append, numbersFrom, if_pos hchar,
      ih fun other hother ↦ h other (List.mem_cons_of_mem _ hother), Nat.ofDigitChars_cons]
    rfl

/-- A number that ends where its digits end is read as it was written. -/
theorem numbersFrom_toDigits {rest : List Char}
    (hrest : ∀ char ∈ rest.head?, char.isDigit = false) (number : ℕ) :
    numbersFrom none (Nat.toDigits 10 number ++ rest) = number :: numbersFrom none rest := by
  have hdigits : ∀ char ∈ Nat.toDigits 10 number, char.isDigit := fun char hchar ↦
    Nat.isDigit_of_mem_toDigits (by decide) (by decide) hchar
  have hvalue := @Nat.ofDigitChars_ten_toDigits number
  cases hlist : Nat.toDigits 10 number with
  | nil => exact absurd hlist Nat.toDigits_ne_nil
  | cons first tail =>
    rw [hlist] at hdigits hvalue
    rw [List.cons_append, numbersFrom, if_pos (hdigits first List.mem_cons_self),
      numbersFrom_digits (fun char hchar ↦ hdigits char (List.mem_cons_of_mem _ hchar)) hrest,
      ← hvalue, Nat.ofDigitChars_cons]
    rfl

/-- Counters, each after the text that leads up to it, and the closing braces. -/
def fieldsText : List (List Char × UInt32) → List Char
  | [] => "\x7d\x7d".toList
  | field :: rest => field.1 ++ (Nat.toDigits 10 field.2.toNat ++ fieldsText rest)

theorem fieldsText_head {fields : List (List Char × UInt32)}
    (h : ∀ field ∈ fields, Plain field.1 ∧ field.1 ≠ []) :
    ∀ char ∈ (fieldsText fields).head?, char.isDigit = false := by
  cases fields with
  | nil =>
    intro char hchar
    cases hchar
    rfl
  | cons field rest =>
    obtain ⟨hplain, hne⟩ := h field List.mem_cons_self
    obtain ⟨first, tail, hkey⟩ := List.exists_cons_of_ne_nil hne
    intro char hchar
    rw [fieldsText, hkey] at hchar
    cases hchar
    exact hplain first (by simp [hkey])

theorem numbersFrom_fieldsText {fields : List (List Char × UInt32)}
    (h : ∀ field ∈ fields, Plain field.1 ∧ field.1 ≠ []) :
    numbersFrom none (fieldsText fields) = fields.map fun field ↦ field.2.toNat := by
  induction fields with
  | nil => decide
  | cons field rest ih =>
    have hrest : ∀ other ∈ rest, Plain other.1 ∧ other.1 ≠ [] := fun other hother ↦
      h other (List.mem_cons_of_mem _ hother)
    rw [fieldsText, numbersFrom_plain (h field List.mem_cons_self).1,
      numbersFrom_toDigits (fieldsText_head hrest), ih hrest]
    rfl

/-- The fields in the order in which they are written. -/
def EventSet.jsonFields (events : EventSet) : List (List Char × UInt32) :=
  [("\x7b\"pool\":\x7b\"pool_created\":".toList, events.pool.poolCreated),
    (",\"pool_deleted\":".toList, events.pool.poolDeleted),
    ("\x7d,\"volume\":\x7b\"volume_created\":".toList, events.volume.volumeCreated),
    (",\"volume_deleted\":".toList, events.volume.volumeDeleted),
    ("\x7d,\"nexus\":\x7b\"nexus_created\":".toList, events.nexus.nexusCreated),
    (",\"nexus_deleted\":".toList, events.nexus.nexusDeleted),
    (",\"rebuild_started\":".toList, events.nexus.rebuildStarted),
    (",\"rebuild_ended\":".toList, events.nexus.rebuildEnded)]

/-- The counters of a text as it is written. -/
def EventSet.ofNumbers : List ℕ → Option EventSet
  | [poolCreated, poolDeleted, volumeCreated, volumeDeleted, nexusCreated, nexusDeleted,
      rebuildStarted, rebuildEnded] =>
    some
      { pool := ⟨.ofNat poolCreated, .ofNat poolDeleted⟩
        volume := ⟨.ofNat volumeCreated, .ofNat volumeDeleted⟩
        nexus := ⟨.ofNat nexusCreated, .ofNat nexusDeleted, .ofNat rebuildStarted,
          .ofNat rebuildEnded⟩ }
  | _ => none

/-- The counters as compact JSON. -/
def compactJson : Codec where
  encode events := String.ofList (fieldsText events.jsonFields)
  decode text := EventSet.ofNumbers (numbersFrom none text.toList)
  decode_encode := by
    intro events
    have hkeys : events.jsonFields.map Prod.fst = (EventSet.jsonFields {}).map Prod.fst := rfl
    have hplain : ∀ key ∈ (EventSet.jsonFields {}).map Prod.fst, Plain key ∧ key ≠ [] := by
      simp [EventSet.jsonFields, Plain]
    have hfields : ∀ field ∈ events.jsonFields, Plain field.1 ∧ field.1 ≠ [] := by
      intro field hfield
      apply hplain
      rw [← hkeys]
      exact List.mem_map_of_mem hfield
    rw [String.toList_ofList, numbersFrom_fieldsText hfields]
    simp [EventSet.jsonFields, EventSet.ofNumbers]

/-! ## Two runs -/

/-- A service that starts as it should. -/
def started : Step := .restart ⟨true, true, true⟩

/-- The events before and after the last write, around a write that fails and the restart. -/
def interruptedRun : List Step :=
  [started, .event ⟨.pool, .create⟩, .tick .served, .event ⟨.pool, .create⟩, .tick .refused,
    started]

theorem run_refines_interrupted :
    unbroken true interruptedRun ∧
      Refines compactJson (Service.run compactJson interruptedRun) (Ledger.run interruptedRun) :=
  ⟨by decide, run_refines compactJson (by decide)⟩

/-- One write fails and the next is accepted, without a restart between them. -/
def recoveredRun : List Step :=
  [started, .event ⟨.pool, .create⟩, .tick .refused, .event ⟨.pool, .create⟩, .tick .served]

theorem step_started :
    Service.step codec {} started = ⟨some (createdConfigMap codec), some ⟨counted [], true⟩⟩ := by
  simp [Service.step, started, initializeStore, fromEventStore_created]

/-- The write that fails ends the task, and the next one finds no task. -/
theorem run_recovered :
    Service.run codec recoveredRun = ⟨some (createdConfigMap codec),
      some ⟨counted [⟨.pool, .create⟩, ⟨.pool, .create⟩], false⟩⟩ := by
  rw [Service.run, recoveredRun, List.foldl_cons, step_started]
  rfl

/-- The write that is accepted after one that failed does not happen, and both events are lost. -/
theorem run_loses_events :
    ¬∀ steps : List Step,
      Refines compactJson (Service.run compactJson steps) (Ledger.run steps) := by
  intro hclaim
  have hstored := (hclaim recoveredRun).2
  rw [run_recovered, Service.stored, Option.map_some, fromEventStore_created] at hstored
  exact absurd (Except.ok.inj (Option.some.inj hstored)) (by decide)

end MayastorExtensions.CallHome
