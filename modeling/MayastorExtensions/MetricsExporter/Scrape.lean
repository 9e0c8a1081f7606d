import MayastorExtensions.MetricsExporter.IoStats

/-!
# Scrapes of the metrics exporter

A scrape asks the io-engine for its pools and for the statistics of pools, nexuses and replicas, one
request after the other, and stores each answer in the one cache of the process; a request that
fails empties its part of the cache.  After the fourth answer the collectors read the whole cache,
and what they read is the report.

The handlers of several scrapes run on one worker.  They take turns where they wait for an answer
and nowhere else, so an answer comes together with everything up to the next request, or up to the
report.  A handler also goes away where it waits, if its client closes the connection, and where a
conversion panics, which is outside of the lock of the cache.
-/

namespace MayastorExtensions.MetricsExporter

/-! ## Pools -/

/-- A pool as the io-engine lists it; the state is an enumeration on the wire. -/
structure Pool where
  name : String
  used : UInt64
  capacity : UInt64
  state : Int32
  committed : UInt64
  deriving DecidableEq, Repr

structure PoolInfo where
  name : String
  used : UInt64
  capacity : UInt64
  state : UInt64
  committed : UInt64
  deriving DecidableEq, Repr

/-- The state is widened with its sign. -/
def PoolInfo.ofPool (value : Pool) : PoolInfo where
  name := value.name
  used := value.used
  capacity := value.capacity
  state := value.state.toInt64.toUInt64
  committed := value.committed

def listPools (response : Except String (List Pool)) : Except ExporterError (List PoolInfo) :=
  match response with
  | .ok pools => .ok (pools.map PoolInfo.ofPool)
  | .error error => .error (.grpcResponseError error)

/-! ## The cache -/

/-- The parts of the cache, in the order in which a scrape asks for them. -/
inductive Resource where
  | pools
  | poolStats
  | nexusStats
  | replicaStats
  deriving DecidableEq, Repr

namespace Resource

abbrev Message : Resource → Type
  | pools => Pool
  | poolStats => IoStats
  | nexusStats => IoStats
  | replicaStats => ReplicaIoStats

abbrev Record : Resource → Type
  | pools => PoolInfo
  | poolStats => PoolIoStat
  | nexusStats => NexusIoStat
  | replicaStats => ReplicaIoStat

/-- What the client makes of the answer to a request. -/
def fetch : (resource : Resource) → Except String (List resource.Message) →
    Except Panic (Except ExporterError (List resource.Record))
  | pools, response => .ok (listPools response)
  | poolStats, response => getPoolIostat response
  | nexusStats, response => getNexusIostat response
  | replicaStats, response => getReplicaIostat response

/-- What is asked for next. -/
def next : Resource → Option Resource
  | pools => some poolStats
  | poolStats => some nexusStats
  | nexusStats => some replicaStats
  | replicaStats => none

end Resource

/-- The data of the cache, empty at first. -/
structure Data where
  pools : List PoolInfo := []
  poolStats : List PoolIoStat := []
  nexusStats : List NexusIoStat := []
  replicaStats : List ReplicaIoStat := []
  deriving DecidableEq, Repr

namespace Data

def get (data : Data) : (resource : Resource) → List resource.Record
  | .pools => data.pools
  | .poolStats => data.poolStats
  | .nexusStats => data.nexusStats
  | .replicaStats => data.replicaStats

def set (data : Data) : (resource : Resource) → List resource.Record → Data
  | .pools, val => { data with pools := val }
  | .poolStats, val => { data with poolStats := val }
  | .nexusStats, val => { data with nexusStats := val }
  | .replicaStats, val => { data with replicaStats := val }

def invalidate (data : Data) (resource : Resource) : Data := data.set resource []

@[simp]
theorem get_set_self (data : Data) (resource : Resource) (val : List resource.Record) :
    (data.set resource val).get resource = val := by
  cases resource <;> rfl

theorem get_set_of_ne (data : Data) {resource other : Resource} (hne : other ≠ resource)
    (val : List resource.Record) : (data.set resource val).get other = data.get other := by
  cases resource <;> cases other <;> first | rfl | exact absurd rfl hne

end Data

/-- The four functions that store an answer differ in the part of the cache only. -/
def storeData (resource : Resource) (response : Except String (List resource.Message))
    (data : Data) : Except Panic Data := do
  match ← resource.fetch response with
  | .ok records => pure (data.set resource records)
  | .error _ => pure (data.invalidate resource)

def storePoolInfoData := storeData .pools

def storePoolStatsData := storeData .poolStats

def storeNexusStatsData := storeData .nexusStats

def storeReplicaStatsData := storeData .replicaStats

/-! ## The collectors -/

/-- A value of a report.  A gauge is set to the number as an `f64`, which rounds the numbers above
2^53. -/
structure Sample where
  metric : String
  labels : List (String × String)
  value : UInt64
  deriving DecidableEq, Repr

/-- A collector: for each record the values of its gauges, one after the other. -/
def collect {α : Type} (gauges : List (String × (α → UInt64)))
    (labels : α → List (String × String)) (records : List α) : List Sample :=
  records.flatMap fun record ↦ gauges.map fun gauge ↦ ⟨gauge.1, labels record, gauge.2 record⟩

theorem mem_collect {α : Type} {gauges : List (String × (α → UInt64))}
    {labels : α → List (String × String)} {records : List α} {sample : Sample} :
    sample ∈ collect gauges labels records ↔ ∃ record ∈ records, sample.labels = labels record ∧
      (sample.metric, sample.value) ∈ gauges.map fun gauge ↦ (gauge.1, gauge.2 record) := by
  simp only [collect, List.mem_flatMap, List.mem_map, Prod.mk.injEq]
  constructor
  · rintro ⟨record, hrecord, gauge, hgauge, rfl⟩
    exact ⟨record, hrecord, rfl, gauge, hgauge, rfl, rfl⟩
  · rintro ⟨record, hrecord, hlabels, gauge, hgauge, hmetric, hvalue⟩
    refine ⟨record, hrecord, gauge, hgauge, ?_⟩
    rw [hmetric, ← hlabels, hvalue]

section Collectors

variable (node : String) (data : Data)

def poolCapacityCollector : List Sample :=
  collect [("diskpool_total_size_bytes", PoolInfo.capacity),
    ("diskpool_used_size_bytes", PoolInfo.used),
    ("diskpool_committed_size_bytes", PoolInfo.committed)]
    (fun pool ↦ [("node", node), ("name", pool.name)]) data.pools

def poolStatusCollector : List Sample :=
  collect [("diskpool_status", PoolInfo.state)]
    (fun pool ↦ [("node", node), ("name", pool.name)]) data.pools

def poolIoStatsCollector : List Sample :=
  collect [("diskpool_bytes_read", PoolIoStat.bytesRead),
    ("diskpool_num_read_ops", PoolIoStat.numReadOps),
    ("diskpool_bytes_written", PoolIoStat.bytesWritten),
    ("diskpool_num_write_ops", PoolIoStat.numWriteOps),
    ("diskpool_read_latency_us", PoolIoStat.readLatencyUs),
    ("diskpool_write_latency_us", PoolIoStat.writeLatencyUs)]
    (fun pool ↦ [("node", node), ("name", pool.name)]) data.poolStats

def nexusIoStatsCollector : List Sample :=
  collect [("volume_bytes_read", NexusIoStat.bytesRead),
    ("volume_num_read_ops", NexusIoStat.numReadOps),
    ("volume_bytes_written", NexusIoStat.bytesWritten),
    ("volume_num_write_ops", NexusIoStat.numWriteOps),
    ("volume_read_latency_us", NexusIoStat.readLatencyUs),
    ("volume_write_latency_us", NexusIoStat.writeLatencyUs)]
    (fun nexus ↦ [("node", node), ("pv_name", "pvc-" ++ nexus.name)]) data.nexusStats

def replicaIoStatsCollector : List Sample :=
  collect [("replica_bytes_read", ReplicaIoStat.bytesRead),
    ("replica_num_read_ops", ReplicaIoStat.numReadOps),
    ("replica_bytes_written", ReplicaIoStat.bytesWritten),
    ("replica_num_write_ops", ReplicaIoStat.numWriteOps),
    ("replica_read_latency_us", ReplicaIoStat.readLatencyUs),
    ("replica_write_latency_us", ReplicaIoStat.writeLatencyUs)]
    (fun replica ↦ [("node", node), ("name", replica.name),
      ("pv_name", "pvc-" ++ replica.entityId)]) data.replicaStats

end Collectors

/-- What all collectors read from the cache; without the name of the node they report nothing.  The
registry groups the samples by metric and sorts them; which samples there are does not depend on
that. -/
def gather (nodeName : Option String) (data : Data) : List Sample :=
  match nodeName with
  | none => []
  | some node =>
    poolCapacityCollector node data ++ poolStatusCollector node data ++
      poolIoStatsCollector node data ++ nexusIoStatsCollector node data ++
        replicaIoStatsCollector node data

/-- The samples of a report: a record of each kind is reported under its own metrics, with the node
and the name that it is known by, and nothing else is reported. -/
theorem mem_gather {nodeName : Option String} {data : Data} {sample : Sample} :
    sample ∈ gather nodeName data ↔ ∃ node, nodeName = some node ∧
      ((∃ pool ∈ data.pools, sample.labels = [("node", node), ("name", pool.name)] ∧
          (sample.metric, sample.value) ∈ [("diskpool_total_size_bytes", pool.capacity),
            ("diskpool_used_size_bytes", pool.used),
            ("diskpool_committed_size_bytes", pool.committed), ("diskpool_status", pool.state)]) ∨
        (∃ stat ∈ data.poolStats, sample.labels = [("node", node), ("name", stat.name)] ∧
          (sample.metric, sample.value) ∈ [("diskpool_bytes_read", stat.bytesRead),
            ("diskpool_num_read_ops", stat.numReadOps),
            ("diskpool_bytes_written", stat.bytesWritten),
            ("diskpool_num_write_ops", stat.numWriteOps),
            ("diskpool_read_latency_us", stat.readLatencyUs),
            ("diskpool_write_latency_us", stat.writeLatencyUs)]) ∨
        (∃ stat ∈ data.nexusStats,
          sample.labels = [("node", node), ("pv_name", "pvc-" ++ stat.name)] ∧
          (sample.metric, sample.value) ∈ [("volume_bytes_read", stat.bytesRead),
            ("volume_num_read_ops", stat.numReadOps), ("volume_bytes_written", stat.bytesWritten),
            ("volume_num_write_ops", stat.numWriteOps),
            ("volume_read_latency_us", stat.readLatencyUs),
            ("volume_write_latency_us", stat.writeLatencyUs)]) ∨
        ∃ stat ∈ data.replicaStats, sample.labels = [("node", node), ("name", stat.name),
            ("pv_name", "pvc-" ++ stat.entityId)] ∧
          (sample.metric, sample.value) ∈ [("replica_bytes_read", stat.bytesRead),
            ("replica_num_read_ops", stat.numReadOps),
            ("replica_bytes_written", stat.bytesWritten),
            ("replica_num_write_ops", stat.numWriteOps),
            ("replica_read_latency_us", stat.readLatencyUs),
            ("replica_write_latency_us", stat.writeLatencyUs)]) := by
  cases nodeName with
  | none => simp [gather]
  | some node =>
    -- the capacities and the status of a pool come from two collectors
    have hpools : sample ∈ poolCapacityCollector node data ++ poolStatusCollector node data ↔
        ∃ pool ∈ data.pools, sample.labels = [("node", node), ("name", pool.name)] ∧
          (sample.metric, sample.value) ∈ [("diskpool_total_size_bytes", pool.capacity),
            ("diskpool_used_size_bytes", pool.used),
            ("diskpool_committed_size_bytes", pool.committed),
            ("diskpool_status", pool.state)] := by
      rw [List.mem_append, poolCapacityCollector, poolStatusCollector, mem_collect, mem_collect,
        ← exists_or]
      refine exists_congr fun pool ↦ ?_
      rw [← and_or_left, ← and_or_left, ← List.mem_append]
      rfl
    simp only [gather, List.append_assoc]
    rw [← List.append_assoc, List.mem_append, hpools, List.mem_append, List.mem_append,
      poolIoStatsCollector, nexusIoStatsCollector, replicaIoStatsCollector, mem_collect,
      mem_collect, mem_collect]
    simp only [Option.some.injEq, exists_eq_left', List.map_cons, List.map_nil]

/-! ## Handlers -/

/-- The cache, and for each handler that is waiting what it waits for. -/
structure Exporter where
  data : Data := {}
  waiting : ℕ → Option Resource := fun _ ↦ none

namespace Exporter

/-- What a handler waits for from now on, if it is still there. -/
def await (exporter : Exporter) (handler : ℕ) (resource : Option Resource) : Exporter :=
  { exporter with waiting := Function.update exporter.waiting handler resource }

theorem waiting_await_self (exporter : Exporter) (handler : ℕ) (resource : Option Resource) :
    (exporter.await handler resource).waiting handler = resource := by
  simp [await]

theorem waiting_await_of_ne (exporter : Exporter) {handler other : ℕ} (hne : other ≠ handler)
    (resource : Option Resource) :
    (exporter.await handler resource).waiting other = exporter.waiting other := by
  simp [await, hne]

end Exporter

/-- What can happen next: a scrape starts, a handler gets the answer to its request, or a client
goes away. -/
inductive Event where
  | scrape (handler : ℕ)
  | answer (handler : ℕ) (resource : Resource) (response : Except String (List resource.Message))
  | disconnect (handler : ℕ)

/-- What follows an event, with the report of the handler if it has come to its end; an event that
cannot happen is `none`. -/
def step (nodeName : Option String) (exporter : Exporter) :
    Event → Option (Exporter × Option (List Sample))
  | .scrape handler =>
    match exporter.waiting handler with
    | some _ => none
    | none => some (exporter.await handler (some .pools), none)
  | .disconnect handler =>
    match exporter.waiting handler with
    | none => none
    | some _ => some (exporter.await handler none, none)
  | .answer handler resource response =>
    if exporter.waiting handler = some resource then
      match storeData resource response exporter.data with
      | .error _ => some (exporter.await handler none, none)
      | .ok data =>
        let exporter' : Exporter := { exporter.await handler resource.next with data }
        match resource.next with
        | some _ => some (exporter', none)
        | none => some (exporter', some (gather nodeName data))
    else none

/-- The exporter after events, without their reports. -/
def run (nodeName : Option String) : Exporter → List Event → Option Exporter
  | exporter, [] => some exporter
  | exporter, event :: events => do
    let (exporter', _) ← step nodeName exporter event
    run nodeName exporter' events

/-! ## The latest answers -/

/-- What an answer puts into a part of the cache: its records, nothing if the request failed, and no
change if its conversion panicked. -/
def stored (resource : Resource) (response : Except String (List resource.Message)) :
    Option (List resource.Record) :=
  match resource.fetch response with
  | .ok (.ok records) => some records
  | .ok (.error _) => some []
  | .error _ => none

/-- What an event puts into a part of the cache. -/
def Event.stored (resource : Resource) : Event → Option (List resource.Record)
  | .answer _ answered response =>
    if h : answered = resource then MetricsExporter.stored resource (h ▸ response) else none
  | _ => none

/-- What the latest of the answers that put something there has put into a part of the cache. -/
def latest (resource : Resource) (events : List Event) : Option (List resource.Record) :=
  (events.reverse.findSome? (Event.stored resource))

/-- Whether a scrape asks for one part of the cache before another. -/
def Resource.position : Resource → ℕ
  | .pools => 0
  | .poolStats => 1
  | .nexusStats => 2
  | .replicaStats => 3

section Latest

variable {resource : Resource} {events : List Event}

theorem latest_append (more : List Event) :
    latest resource (events ++ more) = (latest resource more).or (latest resource events) := by
  rw [latest, List.reverse_append, List.findSome?_append]
  rfl

theorem latest_concat (event : Event) :
    latest resource (events ++ [event]) = (event.stored resource).or (latest resource events) := by
  have hone : latest resource [event] = event.stored resource := by
    cases h : event.stored resource <;> simp [latest, h]
  rw [latest_append, hone]

theorem stored_answer (handler : ℕ) (response : Except String (List resource.Message)) :
    Event.stored resource (.answer handler resource response) = stored resource response := by
  simp [Event.stored]

theorem stored_answer_of_ne {other : Resource} (hne : resource ≠ other) (handler : ℕ)
    (response : Except String (List resource.Message)) :
    Event.stored other (.answer handler resource response) = none := by
  simp [Event.stored, hne]

theorem storeData_of_stored {response : Except String (List resource.Message)}
    {records : List resource.Record} (h : stored resource response = some records) (data : Data) :
    storeData resource response data = .ok (data.set resource records) := by
  unfold stored at h
  unfold storeData
  cases hfetch : resource.fetch response with
  | error panic =>
    rw [hfetch] at h
    cases h
  | ok outcome =>
    rw [hfetch] at h
    cases outcome with
    | error error =>
      obtain rfl := Option.some.inj h
      rfl
    | ok found =>
      obtain rfl := Option.some.inj h
      rfl

theorem storeData_of_panic {response : Except String (List resource.Message)}
    (h : stored resource response = none) (data : Data) :
    ∃ panic, storeData resource response data = .error panic := by
  unfold stored at h
  unfold storeData
  cases hfetch : resource.fetch response with
  | error panic => exact ⟨panic, rfl⟩
  | ok outcome =>
    rw [hfetch] at h
    cases outcome <;> cases h

end Latest

/-! ## What the cache has -/

/-- The cache has the latest answers. -/
def HasLatest (events : List Event) (data : Data) : Prop :=
  ∀ resource, data.get resource = (latest resource events).getD []

/-- Since the latest scrape of a handler has started, everything it has asked for before was
answered. -/
def Served (events : List Event) (handler : ℕ) (resource : Resource) : Prop :=
  ∃ before after, events = before ++ .scrape handler :: after ∧ .scrape handler ∉ after ∧
    ∀ earlier : Resource, earlier.position < resource.position →
      (latest earlier after).isSome

structure Consistent (events : List Event) (exporter : Exporter) : Prop where
  cache : HasLatest events exporter.data
  served : ∀ handler resource, exporter.waiting handler = some resource →
    Served events handler resource

section Steps

variable {nodeName : Option String} {exporter exporter' : Exporter} {event : Event}
  {events : List Event} {report : Option (List Sample)}

/-- Everything that an event can do. -/
theorem step_cases (h : step nodeName exporter event = some (exporter', report)) :
    (∃ handler, event = .scrape handler ∧ report = none ∧
      exporter' = exporter.await handler (some .pools)) ∨
    (∃ handler, (∀ other, event ≠ .scrape other) ∧ (∀ resource, event.stored resource = none) ∧
      report = none ∧ exporter' = exporter.await handler none) ∨
    ∃ handler resource response records, event = .answer handler resource response ∧
      exporter.waiting handler = some resource ∧ stored resource response = some records ∧
        exporter' = ⟨exporter.data.set resource records,
          (exporter.await handler resource.next).waiting⟩ ∧
        report = match resource.next with
          | some _ => none
          | none => some (gather nodeName (exporter.data.set resource records)) := by
  cases event with
  | scrape handler =>
    cases hwaiting : exporter.waiting handler with
    | some resource => simp [step, hwaiting] at h
    | none =>
      simp only [step, hwaiting, Option.some.injEq, Prod.mk.injEq] at h
      exact .inl ⟨handler, rfl, h.2.symm, h.1.symm⟩
  | disconnect handler =>
    cases hwaiting : exporter.waiting handler with
    | none => simp [step, hwaiting] at h
    | some resource =>
      simp only [step, hwaiting, Option.some.injEq, Prod.mk.injEq] at h
      exact .inr (.inl ⟨handler, fun _ ↦ Event.noConfusion, fun _ ↦ rfl, h.2.symm, h.1.symm⟩)
  | answer handler resource response =>
    by_cases hwaiting : exporter.waiting handler = some resource
    · simp only [step, hwaiting, if_true] at h
      cases hstored : stored resource response with
      | none =>
        obtain ⟨panic, hpanic⟩ := storeData_of_panic hstored exporter.data
        rw [hpanic] at h
        simp only [Option.some.injEq, Prod.mk.injEq] at h
        refine .inr (.inl ⟨handler, fun _ ↦ Event.noConfusion, fun other ↦ ?_, h.2.symm,
          h.1.symm⟩)
        by_cases hsame : resource = other
        · subst hsame
          rw [stored_answer, hstored]
        · exact stored_answer_of_ne hsame handler response
      | some records =>
        rw [storeData_of_stored hstored] at h
        refine .inr (.inr ⟨handler, resource, response, records, rfl, hwaiting, hstored, ?_⟩)
        cases hnext : resource.next with
        | none =>
          simp only [hnext, Option.some.injEq, Prod.mk.injEq] at h
          exact ⟨h.1.symm, h.2.symm⟩
        | some next =>
          simp only [hnext, Option.some.injEq, Prod.mk.injEq] at h
          exact ⟨h.1.symm, h.2.symm⟩
    · simp [step, hwaiting] at h

theorem HasLatest.of_silent {data : Data} (h : HasLatest events data)
    (hsilent : ∀ resource, event.stored resource = none) : HasLatest (events ++ [event]) data := by
  intro resource
  rw [latest_concat, hsilent resource, Option.none_or]
  exact h resource

theorem HasLatest.answer {data : Data} (h : HasLatest events data) {handler : ℕ}
    {resource : Resource} {response : Except String (List resource.Message)}
    {records : List resource.Record} (hstored : stored resource response = some records) :
    HasLatest (events ++ [.answer handler resource response]) (data.set resource records) := by
  intro other
  rw [latest_concat]
  by_cases hsame : resource = other
  · subst hsame
    rw [stored_answer, hstored, Data.get_set_self]
    rfl
  · rw [stored_answer_of_ne hsame, Option.none_or, Data.get_set_of_ne _ (Ne.symm hsame)]
    exact h other

theorem Served.concat {handler : ℕ} {resource : Resource} (h : Served events handler resource)
    (hevent : event ≠ .scrape handler) : Served (events ++ [event]) handler resource := by
  obtain ⟨before, after, rfl, hlatest, hearlier⟩ := h
  refine ⟨before, after ++ [event], by simp, by simp [hlatest, hevent.symm],
    fun earlier hposition ↦ ?_⟩
  rw [latest_concat, Option.isSome_or, hearlier earlier hposition, Bool.or_true]

/-- The answer that a handler was waiting for. -/
theorem Served.next {handler : ℕ} {resource : Resource} (h : Served events handler resource)
    {response : Except String (List resource.Message)} {records : List resource.Record}
    (hstored : stored resource response = some records) :
    ∃ before after, events = before ++ .scrape handler :: after ∧ .scrape handler ∉ after ∧
      ∀ earlier : Resource, earlier.position ≤ resource.position →
        (latest earlier (after ++ [.answer handler resource response])).isSome := by
  obtain ⟨before, after, rfl, hlatest, hearlier⟩ := h
  refine ⟨before, after, rfl, hlatest, fun earlier hposition ↦ ?_⟩
  rw [latest_concat, Option.isSome_or]
  by_cases hsame : resource = earlier
  · subst hsame
    rw [stored_answer, hstored]
    rfl
  · have hne : earlier.position ≠ resource.position := by
      cases earlier <;> cases resource <;> first | exact absurd rfl hsame | decide
    rw [hearlier earlier (by omega), Bool.or_true]

theorem position_next {resource next : Resource} (h : resource.next = some next) :
    next.position = resource.position + 1 := by
  cases resource <;> cases h <;> rfl

theorem position_le_of_last {resource : Resource} (h : resource.next = none) (other : Resource) :
    other.position ≤ resource.position := by
  cases resource <;> cases h
  cases other <;> decide

/-- Every event leaves the exporter consistent. -/
theorem Consistent.step (hconsistent : Consistent events exporter)
    (h : step nodeName exporter event = some (exporter', report)) :
    Consistent (events ++ [event]) exporter' := by
  rcases step_cases h with ⟨handler, rfl, -, rfl⟩ | ⟨handler, hother, hsilent, -, rfl⟩ |
    ⟨handler, resource, response, records, rfl, hwaiting, hstored, rfl, -⟩
  · refine ⟨hconsistent.cache.of_silent fun _ ↦ rfl, fun other resource hwaits ↦ ?_⟩
    by_cases hsame : other = handler
    · subst hsame
      rw [Exporter.waiting_await_self] at hwaits
      obtain rfl := Option.some.inj hwaits
      exact ⟨events, [], rfl, List.not_mem_nil,
        fun earlier hposition ↦ absurd hposition (Nat.not_lt_zero _)⟩
    · rw [exporter.waiting_await_of_ne hsame] at hwaits
      exact (hconsistent.served other resource hwaits).concat fun h ↦ by cases h; exact hsame rfl
  · refine ⟨hconsistent.cache.of_silent hsilent, fun other resource hwaits ↦ ?_⟩
    by_cases hsame : other = handler
    · subst hsame
      rw [Exporter.waiting_await_self] at hwaits
      cases hwaits
    · rw [exporter.waiting_await_of_ne hsame] at hwaits
      exact (hconsistent.served other resource hwaits).concat (hother other)
  · refine ⟨hconsistent.cache.answer hstored, fun other next hwaits ↦ ?_⟩
    by_cases hsame : other = handler
    · subst hsame
      rw [Exporter.waiting_await_self] at hwaits
      obtain ⟨before, after, rfl, hlatest, hearlier⟩ :=
        (hconsistent.served other resource hwaiting).next hstored
      refine ⟨before, after ++ [.answer other resource response], by simp, by simp [hlatest],
        fun earlier hposition ↦ hearlier earlier ?_⟩
      have := position_next hwaits
      omega
    · rw [exporter.waiting_await_of_ne hsame] at hwaits
      exact (hconsistent.served other next hwaits).concat Event.noConfusion

/-- So do any number of events. -/
theorem Consistent.run {past : List Event} (hconsistent : Consistent past exporter)
    (h : run nodeName exporter events = some exporter') :
    Consistent (past ++ events) exporter' := by
  induction events generalizing past exporter with
  | nil =>
    obtain rfl := Option.some.inj h
    rwa [List.append_nil]
  | cons event events ih =>
    rw [MetricsExporter.run] at h
    obtain ⟨⟨middle, report⟩, hstep, hrest⟩ := Option.bind_eq_some_iff.mp h
    have hall := ih (hconsistent.step hstep) hrest
    rwa [List.append_assoc] at hall

theorem consistent_initial : Consistent [] {} where
  cache := fun resource ↦ by cases resource <;> rfl
  served := fun handler resource h ↦ by cases h

end Steps

/-- In every order of events, with any number of scrapes at once: a report consists of what the
latest answers of the io-engine have put into the four parts of the cache, and all four came after
the scrape of its handler had started, the latest one under that number.  A part whose latest
request failed is empty. -/
theorem metricsHandler_reports_latest {nodeName : Option String} {events : List Event}
    {exporter exporter' : Exporter} {handler : ℕ} {resource : Resource}
    {response : Except String (List resource.Message)} {report : List Sample}
    (hrun : run nodeName {} events = some exporter)
    (hstep : step nodeName exporter (.answer handler resource response) =
      some (exporter', some report)) :
    ∃ before after, events = before ++ .scrape handler :: after ∧ .scrape handler ∉ after ∧
      ∃ data : Data, report = gather nodeName data ∧ ∀ part,
        latest part (after ++ [.answer handler resource response]) = some (data.get part) := by
  have hconsistent : Consistent events exporter := consistent_initial.run hrun
  have hafter := hconsistent.step hstep
  rcases step_cases hstep with ⟨_, hevent, -⟩ | ⟨_, -, -, hreport, -⟩ |
    ⟨handler', resource', response', records, hevent, hwaiting, hstored, rfl, hreport⟩
  · cases hevent
  · cases hreport
  · cases hevent
    obtain ⟨before, after, rfl, hlatest, hearlier⟩ :=
      (hconsistent.served handler resource hwaiting).next hstored
    cases hnext : resource.next with
    | some next =>
      rw [hnext] at hreport
      cases hreport
    | none =>
      rw [hnext] at hreport
      refine ⟨before, after, rfl, hlatest, _, Option.some.inj hreport, fun part ↦ ?_⟩
      obtain ⟨found, hfound⟩ := Option.isSome_iff_exists.mp
        (hearlier part (position_le_of_last hnext part))
      have hcache := hafter.cache part
      have hsplit : before ++ .scrape handler :: after ++ [.answer handler resource response] =
          (before ++ [.scrape handler]) ++ (after ++ [.answer handler resource response]) := by
        simp
      rw [hsplit, latest_append, hfound] at hcache
      rw [hfound]
      exact congrArg some hcache.symm

/-- Two scrapes at once; the request of the second one for the pools fails. -/
def twoScrapes : List Event :=
  [.scrape 1, .answer 1 .pools (.ok [⟨"pool-1", 10, 100, 1, 20⟩]), .scrape 2,
    .answer 2 .pools (.error "unavailable"), .answer 1 .poolStats (.ok []),
    .answer 1 .nexusStats (.ok [])]

theorem metricsHandler_reports_latest_twoScrapes :
    ∃ exporter exporter' report, run (some "node-1") {} twoScrapes = some exporter ∧
      step (some "node-1") exporter (.answer 1 .replicaStats (.ok [])) =
        some (exporter', some report) ∧
      ∃ before after, twoScrapes = before ++ .scrape 1 :: after ∧ .scrape 1 ∉ after ∧
        ∃ data : Data, report = gather (some "node-1") data ∧ ∀ part,
          latest part (after ++ [.answer 1 .replicaStats (.ok [])]) = some (data.get part) := by
  obtain ⟨exporter, hrun⟩ : ∃ exporter, run (some "node-1") {} twoScrapes = some exporter :=
    ⟨_, rfl⟩
  obtain ⟨exporter', report, hstep⟩ : ∃ exporter' report,
      step (some "node-1") exporter (.answer 1 .replicaStats (.ok [])) =
        some (exporter', some report) := by
    cases hrun
    exact ⟨_, _, rfl⟩
  exact ⟨exporter, exporter', report, hrun, hstep, metricsHandler_reports_latest hrun hstep⟩

end MayastorExtensions.MetricsExporter
