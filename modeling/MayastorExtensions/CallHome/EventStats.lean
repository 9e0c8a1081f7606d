import Mathlib.Data.List.Perm.Basic
import Mathlib.Data.List.Sort

/-!
# Event statistics, from the bus to the report

The stats service counts the events of the message bus and exposes the counters as metrics; the
call-home binary scrapes the metrics, looks the counters up by metric name and action label and puts
them into its report.  Names and labels are written by `exporter/events_collector.rs` and read by
`collector/report_models.rs`.  The text format in between is a parameter: it hands on the metrics it
is given, in any order.
-/

namespace MayastorExtensions.CallHome

/-! ## Counting events -/

/-- The category of a bus event; the counters know three. -/
inductive EventCategory where
  | pool
  | volume
  | nexus
  | other
  deriving DecidableEq, Repr

/-- The action of a bus event; the counters know four. -/
inductive EventAction where
  | create
  | delete
  | rebuildBegin
  | rebuildEnd
  | other
  deriving DecidableEq, Repr

structure EventMessage where
  category : EventCategory
  action : EventAction
  deriving DecidableEq, Repr

structure Pool where
  poolCreated : UInt32 := 0
  poolDeleted : UInt32 := 0
  deriving DecidableEq, Repr

structure Volume where
  volumeCreated : UInt32 := 0
  volumeDeleted : UInt32 := 0
  deriving DecidableEq, Repr

structure Nexus where
  nexusCreated : UInt32 := 0
  nexusDeleted : UInt32 := 0
  rebuildStarted : UInt32 := 0
  rebuildEnded : UInt32 := 0
  deriving DecidableEq, Repr

structure EventSet where
  pool : Pool := {}
  volume : Volume := {}
  nexus : Nexus := {}
  deriving DecidableEq, Repr

def Pool.updateCounter (pool : Pool) : EventAction → Pool
  | .create => { pool with poolCreated := pool.poolCreated + 1 }
  | .delete => { pool with poolDeleted := pool.poolDeleted + 1 }
  | _ => pool

def Volume.updateCounter (volume : Volume) : EventAction → Volume
  | .create => { volume with volumeCreated := volume.volumeCreated + 1 }
  | .delete => { volume with volumeDeleted := volume.volumeDeleted + 1 }
  | _ => volume

def Nexus.updateCounter (nexus : Nexus) : EventAction → Nexus
  | .create => { nexus with nexusCreated := nexus.nexusCreated + 1 }
  | .delete => { nexus with nexusDeleted := nexus.nexusDeleted + 1 }
  | .rebuildBegin => { nexus with rebuildStarted := nexus.rebuildStarted + 1 }
  | .rebuildEnd => { nexus with rebuildEnded := nexus.rebuildEnded + 1 }
  | .other => nexus

def EventSet.incCounter (events : EventSet) (message : EventMessage) : EventSet :=
  match message.category with
  | .pool => { events with pool := events.pool.updateCounter message.action }
  | .volume => { events with volume := events.volume.updateCounter message.action }
  | .nexus => { events with nexus := events.nexus.updateCounter message.action }
  | .other => events

/-- What `store_events` makes of the cache when the given messages come in. -/
def storeEvents (messages : List EventMessage) (events : EventSet) : EventSet :=
  messages.foldl EventSet.incCounter events

/-! ## Exposing the counters -/

/-- The label of the metrics and its values. -/
def actionLabel : String := "action"
def createdLabel : String := "created"
def deletedLabel : String := "deleted"
def rebuildStartedLabel : String := "rebuild_started"
def rebuildEndedLabel : String := "rebuild_ended"

inductive Metrics where
  | pool
  | volume
  | nexus
  | unknown
  deriving DecidableEq, Repr

def Metrics.toString : Metrics → String
  | .pool => "pool"
  | .volume => "volume"
  | .nexus => "nexus"
  | .unknown => ""

/-- A family of counters that differ in the values of their labels. -/
structure CounterVec where
  name : String
  help : String
  variableLabels : List String

/-- One counter with its labels, as the registry gathers it. -/
structure Metric where
  name : String
  help : String
  labels : List (String × String)
  value : ℕ
  deriving DecidableEq, Repr

/-- `get_metric_with_label_values`, increased by the counter; it fails where the number of label
values is not the number of labels. -/
def CounterVec.metric (vec : CounterVec) (labelValues : List String) (counter : UInt32) :
    Option Metric :=
  if labelValues.length = vec.variableLabels.length then
    some ⟨vec.name, vec.help, vec.variableLabels.zip labelValues, counter.toNat⟩
  else none

/-- The metrics of one family; the first that fails leaves nothing of it. -/
def CounterVec.collect (vec : CounterVec) (counters : List (String × UInt32)) : List Metric :=
  (counters.mapM fun counter ↦ vec.metric [counter.1] counter.2).getD []

namespace StatsCollector

def volumes : CounterVec := ⟨Metrics.volume.toString, "Volume stats", [actionLabel]⟩

def pools : CounterVec := ⟨Metrics.pool.toString, "Pool stats", [actionLabel]⟩

def nexus : CounterVec := ⟨Metrics.nexus.toString, "Nexus stats", [actionLabel]⟩

def volumeMetrics (events : EventSet) : List Metric :=
  volumes.collect [(createdLabel, events.volume.volumeCreated),
    (deletedLabel, events.volume.volumeDeleted)]

def poolMetrics (events : EventSet) : List Metric :=
  pools.collect [(createdLabel, events.pool.poolCreated), (deletedLabel, events.pool.poolDeleted)]

def nexusMetrics (events : EventSet) : List Metric :=
  nexus.collect [(createdLabel, events.nexus.nexusCreated),
    (deletedLabel, events.nexus.nexusDeleted), (rebuildStartedLabel, events.nexus.rebuildStarted),
    (rebuildEndedLabel, events.nexus.rebuildEnded)]

def collect (events : EventSet) : List Metric :=
  volumeMetrics events ++ poolMetrics events ++ nexusMetrics events

end StatsCollector

/-! ## Reading the counters back -/

/-- The value of a scraped sample; of the others only the kind matters. -/
inductive Value where
  | counter (value : ℕ)
  | other
  deriving DecidableEq, Repr

structure Sample where
  metric : String
  labels : List (String × String)
  value : Value
  deriving DecidableEq, Repr

inductive Resource where
  | unknown
  | pool
  | volume
  | nexus
  deriving DecidableEq, Repr

inductive Action where
  | unknown
  | created
  | deleted
  | rebuildStarted
  | rebuildEnded
  deriving DecidableEq, Repr

def Resource.ofString (name : String) : Resource :=
  if name = "pool" then .pool
  else if name = "volume" then .volume
  else .unknown

def Action.ofString (label : String) : Action :=
  if label = "created" then .created
  else if label = "deleted" then .deleted
  else if label = "rebuild_started" then .rebuildStarted
  else if label = "rebuild_ended" then .rebuildEnded
  else .unknown

namespace Sample

def action (sample : Sample) : Action :=
  Action.ofString ((sample.labels.lookup actionLabel).getD "")

def resource (sample : Sample) : Resource :=
  Resource.ofString sample.metric

/-- The conversion of a float to a machine integer saturates. -/
def counterValue (sample : Sample) : UInt32 :=
  match sample.value with
  | .counter value => UInt32.ofNatClamp value
  | .other => 0

def tryCounter (resource : Resource) (action : Action) (sample : Sample) : Option UInt32 :=
  if sample.resource = resource ∧ sample.action = action then some sample.counterValue else none

end Sample

structure EventData where
  volumeCreated : UInt32 := 0
  volumeDeleted : UInt32 := 0
  poolCreated : UInt32 := 0
  poolDeleted : UInt32 := 0
  nexusCreated : UInt32 := 0
  nexusDeleted : UInt32 := 0
  rebuildStarted : UInt32 := 0
  rebuildEnded : UInt32 := 0
  deriving DecidableEq, Repr

/-- `make_counter`: the first sample of the resource and the action, and zero without one. -/
def makeCounter (resource : Resource) (action : Action) (record : List Sample) : UInt32 :=
  (record.findSome? (Sample.tryCounter resource action)).getD 0

/-- The event data of `generate_report`: `none` is a service without an aggregator, and an error is
one that could not be scraped. -/
def generateEventData {ε : Type} : Option (Except ε (List Sample)) → EventData
  | some (.ok record) =>
    { volumeCreated := makeCounter .volume .created record
      volumeDeleted := makeCounter .volume .deleted record
      poolCreated := makeCounter .pool .created record
      poolDeleted := makeCounter .pool .deleted record
      nexusCreated := makeCounter .nexus .created record
      nexusDeleted := makeCounter .nexus .deleted record
      rebuildStarted := makeCounter .nexus .rebuildStarted record
      rebuildEnded := makeCounter .nexus .rebuildEnded record }
  | some (.error _) => {}
  | none => {}

/-! ## The counters of the report -/

/-- The counters of a report. -/
inductive Counter where
  | volumeCreated
  | volumeDeleted
  | poolCreated
  | poolDeleted
  | nexusCreated
  | nexusDeleted
  | rebuildStarted
  | rebuildEnded
  deriving DecidableEq, Repr

namespace Counter

/-- The counters in the order of the collector. -/
def all : List Counter :=
  [.volumeCreated, .volumeDeleted, .poolCreated, .poolDeleted, .nexusCreated, .nexusDeleted,
    .rebuildStarted, .rebuildEnded]

/-- The event that a counter counts. -/
def event : Counter → EventMessage
  | .volumeCreated => ⟨.volume, .create⟩
  | .volumeDeleted => ⟨.volume, .delete⟩
  | .poolCreated => ⟨.pool, .create⟩
  | .poolDeleted => ⟨.pool, .delete⟩
  | .nexusCreated => ⟨.nexus, .create⟩
  | .nexusDeleted => ⟨.nexus, .delete⟩
  | .rebuildStarted => ⟨.nexus, .rebuildBegin⟩
  | .rebuildEnded => ⟨.nexus, .rebuildEnd⟩

/-- The metric name of a counter. -/
def metricName : Counter → String
  | .volumeCreated | .volumeDeleted => "volume"
  | .poolCreated | .poolDeleted => "pool"
  | _ => "nexus"

/-- The action label of a counter. -/
def label : Counter → String
  | .volumeCreated | .poolCreated | .nexusCreated => "created"
  | .volumeDeleted | .poolDeleted | .nexusDeleted => "deleted"
  | .rebuildStarted => "rebuild_started"
  | .rebuildEnded => "rebuild_ended"

/-- The resource a counter is looked up by. -/
def resource : Counter → Resource
  | .volumeCreated | .volumeDeleted => .volume
  | .poolCreated | .poolDeleted => .pool
  | _ => .nexus

/-- The action a counter is looked up by. -/
def action : Counter → Action
  | .volumeCreated | .poolCreated | .nexusCreated => .created
  | .volumeDeleted | .poolDeleted | .nexusDeleted => .deleted
  | .rebuildStarted => .rebuildStarted
  | .rebuildEnded => .rebuildEnded

/-- The counter in the cache. -/
def cached (events : EventSet) : Counter → UInt32
  | .volumeCreated => events.volume.volumeCreated
  | .volumeDeleted => events.volume.volumeDeleted
  | .poolCreated => events.pool.poolCreated
  | .poolDeleted => events.pool.poolDeleted
  | .nexusCreated => events.nexus.nexusCreated
  | .nexusDeleted => events.nexus.nexusDeleted
  | .rebuildStarted => events.nexus.rebuildStarted
  | .rebuildEnded => events.nexus.rebuildEnded

/-- The counter in the report. -/
def reported (data : EventData) : Counter → UInt32
  | .volumeCreated => data.volumeCreated
  | .volumeDeleted => data.volumeDeleted
  | .poolCreated => data.poolCreated
  | .poolDeleted => data.poolDeleted
  | .nexusCreated => data.nexusCreated
  | .nexusDeleted => data.nexusDeleted
  | .rebuildStarted => data.rebuildStarted
  | .rebuildEnded => data.rebuildEnded

theorem mem_all (counter : Counter) : counter ∈ all := by
  cases counter <;> decide

theorem reported_generate {ε : Type} (counter : Counter) (record : List Sample) :
    counter.reported (generateEventData (some (.ok record : Except ε (List Sample)))) =
      makeCounter counter.resource counter.action record := by
  cases counter <;> rfl

/-- A counter that is not one of the nexus is identified by its metric name and label. -/
theorem lookup_iff {counter other : Counter} (h : counter.resource ≠ .nexus) :
    (Resource.ofString other.metricName = counter.resource ∧
      Action.ofString other.label = counter.action) ↔ other = counter := by
  revert h
  cases counter <;> cases other <;> decide

end Counter

/-! ## Counting -/

theorem incCounter_cached (events : EventSet) (message : EventMessage) (counter : Counter) :
    counter.cached (events.incCounter message) =
      if message = counter.event then counter.cached events + 1 else counter.cached events := by
  obtain ⟨category, action⟩ := message
  cases category <;> cases action <;> cases counter <;> rfl

/-- The cache counts modulo the size of its counters. -/
theorem storeEvents_cached (messages : List EventMessage) (events : EventSet) (counter : Counter) :
    counter.cached (storeEvents messages events) =
      counter.cached events + UInt32.ofNat (messages.count counter.event) := by
  induction messages generalizing events with
  | nil => simp [storeEvents]
  | cons message rest ih =>
    have hstep : storeEvents (message :: rest) events =
        storeEvents rest (events.incCounter message) := rfl
    rw [hstep, ih, incCounter_cached, List.count_cons]
    by_cases hevent : message = counter.event
    · simp only [hevent, beq_self_eq_true, if_true]
      calc counter.cached events + 1 + UInt32.ofNat (rest.count counter.event)
          = counter.cached events + (UInt32.ofNat (rest.count counter.event) + 1) := by ac_rfl
        _ = counter.cached events + UInt32.ofNat (rest.count counter.event + 1) := by
          rw [UInt32.ofNat_add]
          rfl
    · simp [hevent]

/-- Below the size of the counters the cache counts exactly. -/
theorem storeEvents_count {messages : List EventMessage} {counter : Counter}
    (h : messages.count counter.event < UInt32.size) :
    (counter.cached (storeEvents messages {})).toNat = messages.count counter.event := by
  have hzero : counter.cached {} = 0 := by cases counter <;> rfl
  rw [storeEvents_cached, hzero, UInt32.zero_add]
  exact UInt32.toNat_ofNat_of_lt h

/-! ## Scraping -/

/-- A metric as the scrape hands it on. -/
def Metric.sample (metric : Metric) : Sample :=
  ⟨metric.name, metric.labels, .counter metric.value⟩

/-- The text format hands on every metric with its name, its labels and a value below `2 ^ 32`, in
any order. -/
def Faithful (scrape : List Metric → List Sample) : Prop :=
  ∀ metrics : List Metric, (metrics.map fun metric ↦ (metric.name, metric.labels)).Nodup →
    (∀ metric ∈ metrics, metric.value < UInt32.size) →
      (scrape metrics).Perm (metrics.map Metric.sample)

/-- The sample of a counter. -/
def Counter.sample (events : EventSet) (counter : Counter) : Sample :=
  ⟨counter.metricName, [(actionLabel, counter.label)], .counter (counter.cached events).toNat⟩

theorem collect_map_sample (events : EventSet) :
    (StatsCollector.collect events).map Metric.sample =
      Counter.all.map (Counter.sample events) := rfl

theorem scrape_collect {scrape : List Metric → List Sample} (h : Faithful scrape)
    (events : EventSet) :
    (scrape (StatsCollector.collect events)).Perm (Counter.all.map (Counter.sample events)) := by
  rw [← collect_map_sample]
  apply h
  · have hnames : (StatsCollector.collect events).map (fun metric ↦ (metric.name, metric.labels)) =
        Counter.all.map fun counter ↦ (counter.metricName, [(actionLabel, counter.label)]) := rfl
    rw [hnames]
    decide
  · intro metric hmetric
    have hsample : metric.sample ∈ Counter.all.map (Counter.sample events) := by
      rw [← collect_map_sample]
      exact List.mem_map_of_mem hmetric
    obtain ⟨counter, -, hcounter⟩ := List.mem_map.mp hsample
    have hvalue : (counter.cached events).toNat = metric.value := by
      have := congrArg Sample.value hcounter
      simpa [Counter.sample, Metric.sample] using this
    rw [← hvalue]
    exact UInt32.toNat_lt_size _

theorem tryCounter_sample (events : EventSet) (counter other : Counter) :
    Sample.tryCounter counter.resource counter.action (other.sample events) =
      if Resource.ofString other.metricName = counter.resource ∧
          Action.ofString other.label = counter.action then
        some (other.cached events)
      else none := by
  have hvalue : (other.sample events).counterValue = other.cached events := by
    apply UInt32.toNat_inj.mp
    exact UInt32.toNat_ofNatClamp_of_lt (UInt32.toNat_lt_size _)
  rw [Sample.tryCounter, hvalue]
  rfl

/-- A search that only one element answers finds its answer, in any order. -/
theorem findSome?_of_unique {α β : Type} {search : α → Option β} {list : List α} {answer : β}
    (hsome : ∃ element ∈ list, search element = some answer)
    (hunique : ∀ element ∈ list, ∀ value, search element = some value → value = answer) :
    list.findSome? search = some answer := by
  obtain ⟨element, hmem, helement⟩ := hsome
  cases hfound : list.findSome? search with
  | none =>
    rw [List.findSome?_eq_none_iff] at hfound
    rw [hfound element hmem] at helement
    cases helement
  | some value =>
    obtain ⟨other, hother, hvalue⟩ := List.exists_of_findSome?_eq_some hfound
    rw [hunique other hother value hvalue]

/-- Counters of volumes and pools come through. -/
theorem makeCounter_scraped {scrape : List Metric → List Sample} (h : Faithful scrape)
    (events : EventSet) {counter : Counter} (hresource : counter.resource ≠ .nexus) :
    makeCounter counter.resource counter.action (scrape (StatsCollector.collect events)) =
      counter.cached events := by
  have hperm := scrape_collect h events
  have hfound : (scrape (StatsCollector.collect events)).findSome?
      (Sample.tryCounter counter.resource counter.action) = some (counter.cached events) := by
    apply findSome?_of_unique
    · refine ⟨counter.sample events, ?_, ?_⟩
      · rw [hperm.mem_iff]
        exact List.mem_map_of_mem counter.mem_all
      · rw [tryCounter_sample, if_pos ((Counter.lookup_iff hresource).mpr rfl)]
    · intro sample hsample value hvalue
      rw [hperm.mem_iff] at hsample
      obtain ⟨other, -, rfl⟩ := List.mem_map.mp hsample
      rw [tryCounter_sample] at hvalue
      split at hvalue
      next hlookup =>
        rw [(Counter.lookup_iff hresource).mp hlookup] at hvalue
        exact (Option.some.inj hvalue).symm
      next => cases hvalue
  rw [makeCounter, hfound]
  rfl

/-- No metric name is read as the nexus. -/
theorem Resource.ofString_ne_nexus (name : String) : Resource.ofString name ≠ .nexus := by
  unfold Resource.ofString
  split
  · decide
  · split <;> decide

/-- Counters of the nexus are not found in any scrape. -/
theorem makeCounter_nexus (action : Action) (record : List Sample) :
    makeCounter .nexus action record = 0 := by
  have hnone : record.findSome? (Sample.tryCounter .nexus action) = none := by
    rw [List.findSome?_eq_none_iff]
    intro sample _
    apply if_neg
    intro hmatch
    exact Resource.ofString_ne_nexus sample.metric hmatch.1
  rw [makeCounter, hnone]
  rfl

/-! ## From the bus to the report -/

/-- Every counter of the report is the number of its events. -/
def Reported (messages : List EventMessage) (data : EventData) : Prop :=
  ∀ counter : Counter, (counter.reported data).toNat = messages.count counter.event

/-- The report that is generated after the given messages. -/
def reportAfter (scrape : List Metric → List Sample) (messages : List EventMessage) : EventData :=
  let record : Except Unit (List Sample) :=
    .ok (scrape (StatsCollector.collect (storeEvents messages {})))
  generateEventData (some record)

theorem Counter.event_nexus_iff (counter : Counter) :
    counter.event.category = .nexus ↔ counter.resource = .nexus := by
  cases counter <;> decide

/-- The events of the nexus that are counted. -/
theorem exists_counter_of_nexus {message : EventMessage} (hcategory : message.category = .nexus)
    (haction : message.action ≠ .other) : ∃ counter : Counter, counter.event = message := by
  obtain ⟨category, action⟩ := message
  cases hcategory
  cases action with
  | create => exact ⟨.nexusCreated, rfl⟩
  | delete => exact ⟨.nexusDeleted, rfl⟩
  | rebuildBegin => exact ⟨.rebuildStarted, rfl⟩
  | rebuildEnd => exact ⟨.rebuildEnded, rfl⟩
  | other => exact absurd rfl haction

/-- As long as no counter overflows, the counters of the report are the numbers of events if and
only if there was no event of a nexus that is counted. -/
theorem reportAfter_reported_iff {scrape : List Metric → List Sample} (hscrape : Faithful scrape)
    {messages : List EventMessage}
    (hcounts : ∀ counter : Counter, messages.count counter.event < UInt32.size) :
    Reported messages (reportAfter scrape messages) ↔
      ∀ message ∈ messages, message.category = .nexus → message.action = .other := by
  constructor
  · intro hreported message hmem hcategory
    by_contra haction
    obtain ⟨counter, rfl⟩ := exists_counter_of_nexus hcategory haction
    have hresource : counter.resource = .nexus := counter.event_nexus_iff.mp hcategory
    have hzero : messages.count counter.event = 0 := by
      rw [← hreported counter, reportAfter, Counter.reported_generate, hresource,
        makeCounter_nexus]
      rfl
    exact absurd hmem (List.count_eq_zero.mp hzero)
  · intro hmessages counter
    rw [reportAfter, Counter.reported_generate]
    by_cases hresource : counter.resource = .nexus
    · have habsent : counter.event ∉ messages := by
        intro hmem
        have haction := hmessages _ hmem (counter.event_nexus_iff.mpr hresource)
        revert haction
        cases counter <;> decide
      rw [hresource, makeCounter_nexus, List.count_eq_zero.mpr habsent]
      rfl
    · rw [makeCounter_scraped hscrape _ hresource]
      exact storeEvents_count (hcounts counter)

/-- A scrape that lists the metrics by name, as the registry gathers them. -/
def scrapeSorted (metrics : List Metric) : List Sample :=
  (metrics.insertionSort fun left right ↦ left.name ≤ right.name).map Metric.sample

theorem scrapeSorted_faithful : Faithful scrapeSorted := by
  intro metrics _ _
  exact (List.perm_insertionSort _ metrics).map _

theorem reportAfter_reported_pool :
    Reported [⟨.pool, .create⟩, ⟨.pool, .create⟩, ⟨.pool, .delete⟩]
      (reportAfter scrapeSorted [⟨.pool, .create⟩, ⟨.pool, .create⟩, ⟨.pool, .delete⟩]) := by
  rw [reportAfter_reported_iff scrapeSorted_faithful]
  · decide
  · intro counter
    exact Nat.lt_of_le_of_lt List.count_le_length (by decide)

/-- The creation of one nexus is not in the report. -/
theorem reportAfter_misses_nexus :
    Faithful scrapeSorted ∧
      (∀ counter : Counter,
        [(⟨.nexus, .create⟩ : EventMessage)].count counter.event < UInt32.size) ∧
      ¬Reported [⟨.nexus, .create⟩] (reportAfter scrapeSorted [⟨.nexus, .create⟩]) := by
  refine ⟨scrapeSorted_faithful, ?_, ?_⟩
  · intro counter
    exact Nat.lt_of_le_of_lt List.count_le_length (by decide)
  · intro hreported
    have hone := hreported .nexusCreated
    have hresource : Counter.nexusCreated.resource = .nexus := rfl
    rw [reportAfter, Counter.reported_generate, hresource, makeCounter_nexus] at hone
    exact absurd hone (by decide)

end MayastorExtensions.CallHome
