import Mathlib.Algebra.Ring.Nat
import MayastorExtensions.Library.Outcome

/-!
# Latencies of the io-engine statistics

The exporter turns every statistics message of the io-engine into the record that its collectors
read, `client/pool_stat.rs`, `client/nexus_stat.rs` and `client/replica_stat.rs`.  The messages
count latencies in ticks; `ticks_to_time` of `client/mod.rs` widens to 128 bits, divides by the
tick rate and narrows back to 64 bits.  A panic is an outcome of its own here: it ends the whole
metrics response, not only the record it happens in.
-/

namespace MayastorExtensions.MetricsExporter

/-! ## The conversions -/

/-- The panic of an integer division. -/
inductive Panic where
  | divideByZero
  deriving DecidableEq, Repr

inductive ExporterError where
  | grpcResponseError (message : String)
  deriving DecidableEq, Repr

/-- A statistics message as the wire format carries it; an unset number reads as 0. -/
structure IoStats where
  name : String
  numReadOps : UInt64
  bytesRead : UInt64
  numWriteOps : UInt64
  bytesWritten : UInt64
  readLatencyTicks : UInt64
  writeLatencyTicks : UInt64
  tickRate : UInt64
  deriving DecidableEq, Repr

/-- The statistics message of a replica. -/
structure ReplicaIoStats where
  entityId : Option String
  stats : Option IoStats
  deriving DecidableEq, Repr

structure PoolIoStat where
  name : String
  bytesRead : UInt64
  numReadOps : UInt64
  bytesWritten : UInt64
  numWriteOps : UInt64
  readLatencyUs : UInt64
  writeLatencyUs : UInt64
  deriving DecidableEq, Repr

structure NexusIoStat where
  name : String
  bytesRead : UInt64
  numReadOps : UInt64
  bytesWritten : UInt64
  numWriteOps : UInt64
  readLatencyUs : UInt64
  writeLatencyUs : UInt64
  deriving DecidableEq, Repr

structure ReplicaIoStat where
  name : String
  entityId : String
  bytesRead : UInt64
  numReadOps : UInt64
  bytesWritten : UInt64
  numWriteOps : UInt64
  readLatencyUs : UInt64
  writeLatencyUs : UInt64
  deriving DecidableEq, Repr

/-- The widening cast `as u128`. -/
def asU128 (value : UInt64) : BitVec 128 :=
  value.toBitVec.setWidth 128

/-- The narrowing cast `as u64`, which drops the upper half. -/
def asU64 (value : BitVec 128) : UInt64 :=
  .ofBitVec (value.setWidth 64)

/-- Ticks in microseconds. -/
def ticksToTime (tick tickRate : UInt64) : Except Panic UInt64 :=
  if asU128 tickRate = 0 then .error .divideByZero
  else .ok (asU64 (asU128 tick * 1000000 / asU128 tickRate))

/-- Both latencies of a message, the read latency first; the three conversions share this. -/
def IoStats.latencies (value : IoStats) : Except Panic (UInt64 × UInt64) := do
  let readLatencyUs ← ticksToTime value.readLatencyTicks value.tickRate
  let writeLatencyUs ← ticksToTime value.writeLatencyTicks value.tickRate
  pure (readLatencyUs, writeLatencyUs)

def PoolIoStat.ofIoStats (value : IoStats) : Except Panic PoolIoStat := do
  let (readLatencyUs, writeLatencyUs) ← value.latencies
  pure
    { name := value.name
      bytesRead := value.bytesRead
      numReadOps := value.numReadOps
      bytesWritten := value.bytesWritten
      numWriteOps := value.numWriteOps
      readLatencyUs, writeLatencyUs }

def NexusIoStat.ofIoStats (value : IoStats) : Except Panic NexusIoStat := do
  let (readLatencyUs, writeLatencyUs) ← value.latencies
  pure
    { name := value.name
      bytesRead := value.bytesRead
      numReadOps := value.numReadOps
      bytesWritten := value.bytesWritten
      numWriteOps := value.numWriteOps
      readLatencyUs, writeLatencyUs }

/-- The missing parts of a replica's message are found before its latencies are computed. -/
def ReplicaIoStat.tryFrom (value : ReplicaIoStats) :
    Except Panic (Except ExporterError ReplicaIoStat) :=
  match value.stats with
  | none => .ok (.error (.grpcResponseError "Stats is None for replica stats"))
  | some stats =>
    match value.entityId with
    | none => .ok (.error (.grpcResponseError "entity_id is not set for replica stat"))
    | some id => do
      let (readLatencyUs, writeLatencyUs) ← stats.latencies
      pure (.ok
        { name := stats.name
          entityId := id
          bytesRead := stats.bytesRead
          numReadOps := stats.numReadOps
          bytesWritten := stats.bytesWritten
          numWriteOps := stats.numWriteOps
          readLatencyUs, writeLatencyUs })

/-! ## What the shared helper computes -/

/-- The latency in microseconds as an unbounded number. -/
def microseconds (tick tickRate : UInt64) : ℕ :=
  tick.toNat * 1000000 / tickRate.toNat

theorem toNat_asU128 (value : UInt64) : (asU128 value).toNat = value.toNat := by
  have := value.toNat_lt
  simp only [asU128, BitVec.toNat_setWidth, UInt64.toNat_toBitVec]
  omega

theorem toNat_asU64 (value : BitVec 128) : (asU64 value).toNat = value.toNat % 2 ^ 64 := by
  simp [asU64]

theorem asU128_eq_zero (value : UInt64) : asU128 value = 0 ↔ value = 0 := by
  rw [← BitVec.toNat_inj, ← UInt64.toNat_inj, toNat_asU128]
  simp

/-- The widened product and quotient are exact; only the cast back to 64 bits can lose digits. -/
theorem toNat_wide_quotient (tick tickRate : UInt64) :
    (asU128 tick * 1000000 / asU128 tickRate).toNat = microseconds tick tickRate := by
  have hfits : tick.toNat * 1000000 < 2 ^ 128 := by
    have := tick.toNat_lt
    omega
  rw [BitVec.toNat_udiv, BitVec.toNat_mul, toNat_asU128, toNat_asU128]
  simp only [BitVec.toNat_ofNat, BitVec.ofNat_eq_ofNat, microseconds]
  rw [Nat.mod_eq_of_lt (a := 1000000) (by decide), Nat.mod_eq_of_lt hfits]

theorem ticksToTime_zero (tick : UInt64) : ticksToTime tick 0 = .error .divideByZero := by
  rw [ticksToTime, if_pos ((asU128_eq_zero 0).mpr rfl)]

theorem ticksToTime_of_ne_zero (tick : UInt64) {tickRate : UInt64} (hrate : tickRate ≠ 0) :
    ∃ time, ticksToTime tick tickRate = .ok time ∧
      time.toNat = microseconds tick tickRate % 2 ^ 64 := by
  refine ⟨asU64 (asU128 tick * 1000000 / asU128 tickRate), ?_, ?_⟩
  · rw [ticksToTime, if_neg (by rwa [asU128_eq_zero])]
  · rw [toNat_asU64, toNat_wide_quotient]

/-! ## The three conversions together -/

/-- What a latency is to be: the exact number of microseconds if 64 bits hold it, and anything but
the number that wrapping leaves if they do not; at an unset rate any number is accepted. -/
def LatencyExact (tick tickRate time : UInt64) : Prop :=
  0 < tickRate →
    (microseconds tick tickRate < 2 ^ 64 → time.toNat = microseconds tick tickRate) ∧
    (2 ^ 64 ≤ microseconds tick tickRate → time.toNat ≠ microseconds tick tickRate % 2 ^ 64)

/-- Both latencies of a message as they are to be. -/
def LatenciesExact (value : IoStats) (readLatencyUs writeLatencyUs : UInt64) : Prop :=
  LatencyExact value.readLatencyTicks value.tickRate readLatencyUs ∧
  LatencyExact value.writeLatencyTicks value.tickRate writeLatencyUs

/-- No conversion of the message panics, and the latencies of each record that is built are as they
are to be.  A replica's message carries the statistics beside an entity id that may be unset. -/
structure ConversionsExact (value : IoStats) : Prop where
  pool : ∃ stat, PoolIoStat.ofIoStats value = .ok stat ∧
    LatenciesExact value stat.readLatencyUs stat.writeLatencyUs
  nexus : ∃ stat, NexusIoStat.ofIoStats value = .ok stat ∧
    LatenciesExact value stat.readLatencyUs stat.writeLatencyUs
  replica : ∀ id, ∃ stat, ReplicaIoStat.tryFrom ⟨some id, some value⟩ = .ok (.ok stat) ∧
    LatenciesExact value stat.readLatencyUs stat.writeLatencyUs
  replicaUnset : ∃ error, ReplicaIoStat.tryFrom ⟨none, some value⟩ = .ok (.error error)

/-- The tick rate is set and both latencies fit in 64 bits. -/
def IoStats.InRange (value : IoStats) : Prop :=
  value.tickRate ≠ 0 ∧
  microseconds value.readLatencyTicks value.tickRate < 2 ^ 64 ∧
  microseconds value.writeLatencyTicks value.tickRate < 2 ^ 64

/-- The narrowing cast wraps, so it must not drop anything. -/
theorem latencyExact_iff {tick tickRate time : UInt64} (hrate : tickRate ≠ 0)
    (htime : time.toNat = microseconds tick tickRate % 2 ^ 64) :
    LatencyExact tick tickRate time ↔ microseconds tick tickRate < 2 ^ 64 := by
  have hpos : 0 < tickRate := UInt64.pos_iff_ne_zero.mpr hrate
  constructor
  · intro hexact
    by_contra hwide
    exact (hexact hpos).2 (not_lt.mp hwide) htime
  · intro hfits _
    refine ⟨fun _ ↦ ?_, fun hwide ↦ absurd hfits (not_lt.mpr hwide)⟩
    rw [htime, Nat.mod_eq_of_lt hfits]

theorem latencies_zero {value : IoStats} (hrate : value.tickRate = 0) :
    value.latencies = .error .divideByZero := by
  rw [IoStats.latencies, hrate, ticksToTime_zero]
  rfl

theorem latencies_of_ne_zero {value : IoStats} (hrate : value.tickRate ≠ 0) :
    ∃ readLatencyUs writeLatencyUs, value.latencies = .ok (readLatencyUs, writeLatencyUs) ∧
      (LatenciesExact value readLatencyUs writeLatencyUs ↔ value.InRange) := by
  obtain ⟨readLatencyUs, hread, hreadNat⟩ := ticksToTime_of_ne_zero value.readLatencyTicks hrate
  obtain ⟨writeLatencyUs, hwrite, hwriteNat⟩ := ticksToTime_of_ne_zero value.writeLatencyTicks hrate
  refine ⟨readLatencyUs, writeLatencyUs, ?_, ?_⟩
  · rw [IoStats.latencies, hread, hwrite]
    rfl
  · rw [LatenciesExact, latencyExact_iff hrate hreadNat, latencyExact_iff hrate hwriteNat,
      IoStats.InRange, and_iff_right hrate]

/-- Building the records of the pool, the nexus and the replica from one message is total and exact
exactly if the rate is set and both latencies fit. -/
theorem conversionsExact_iff (value : IoStats) : ConversionsExact value ↔ value.InRange := by
  constructor
  · intro hexact
    obtain ⟨stat, hstat, hlatencies⟩ := hexact.pool
    have hrate : value.tickRate ≠ 0 := by
      intro hzero
      rw [PoolIoStat.ofIoStats, latencies_zero hzero] at hstat
      cases hstat
    obtain ⟨readLatencyUs, writeLatencyUs, hok, hiff⟩ := latencies_of_ne_zero hrate
    rw [PoolIoStat.ofIoStats, hok] at hstat
    cases hstat
    exact hiff.mp hlatencies
  · intro hrange
    obtain ⟨readLatencyUs, writeLatencyUs, hok, hiff⟩ := latencies_of_ne_zero hrange.1
    have hlatencies := hiff.mpr hrange
    exact
      { pool := ⟨_, by rw [PoolIoStat.ofIoStats, hok]; rfl, hlatencies⟩
        nexus := ⟨_, by rw [NexusIoStat.ofIoStats, hok]; rfl, hlatencies⟩
        replica := fun id ↦ ⟨_, by simp only [ReplicaIoStat.tryFrom, hok]; rfl, hlatencies⟩
        replicaUnset := ⟨_, rfl⟩ }

/-- The io-engine left the tick rate unset. -/
def unsetRate : IoStats :=
  { name := "pool-1", numReadOps := 1, bytesRead := 512, numWriteOps := 0, bytesWritten := 0,
    readLatencyTicks := 1, writeLatencyTicks := 0, tickRate := 0 }

theorem not_conversionsExact_unsetRate : ¬ ConversionsExact unsetRate := by
  intro hexact
  obtain ⟨stat, hstat, -⟩ := hexact.pool
  rw [PoolIoStat.ofIoStats, latencies_zero rfl] at hstat
  cases hstat

/-! ## A whole response -/

/-- `get_pool_iostat`: the records of all messages of a response, or the error of the call. -/
def getPoolIostat (response : Except String (List IoStats)) :
    Except Panic (Except ExporterError (List PoolIoStat)) :=
  match response with
  | .ok stats => .ok <$> stats.mapM PoolIoStat.ofIoStats
  | .error error => .ok (.error (.grpcResponseError error))

def getNexusIostat (response : Except String (List IoStats)) :
    Except Panic (Except ExporterError (List NexusIoStat)) :=
  match response with
  | .ok stats => .ok <$> stats.mapM NexusIoStat.ofIoStats
  | .error error => .ok (.error (.grpcResponseError error))

/-- The records of a replica response; messages with a missing part are left out. -/
def getReplicaIostat (response : Except String (List ReplicaIoStats)) :
    Except Panic (Except ExporterError (List ReplicaIoStat)) :=
  match response with
  | .ok stats => (fun built ↦ .ok (built.filterMap Except.toOption)) <$>
      stats.mapM ReplicaIoStat.tryFrom
  | .error error => .ok (.error (.grpcResponseError error))

theorem isOk_latencies (value : IoStats) : value.latencies.isOk ↔ value.tickRate ≠ 0 := by
  by_cases hrate : value.tickRate = 0
  · rw [latencies_zero hrate]
    simp [Except.isOk, Except.toBool, hrate]
  · obtain ⟨readLatencyUs, writeLatencyUs, hok, -⟩ := latencies_of_ne_zero hrate
    rw [hok]
    exact ⟨fun _ ↦ hrate, fun _ ↦ rfl⟩

/-- Messages that are converted by way of their latencies, whatever the records are. -/
theorem isOk_mapM_latencies {α : Type} {convert : IoStats → Except Panic α}
    (hconvert : ∀ value, (convert value).isOk = value.latencies.isOk) (stats : List IoStats) :
    (stats.mapM convert).isOk ↔ ∀ value ∈ stats, value.tickRate ≠ 0 := by
  simp only [Outcome.isOk_mapM_iff, hconvert, isOk_latencies]

/-- A metrics response survives exactly if every message of it has its tick rate set. -/
theorem isOk_getIostat (stats : List IoStats) :
    ((getPoolIostat (.ok stats)).isOk ↔ ∀ value ∈ stats, value.tickRate ≠ 0) ∧
      ((getNexusIostat (.ok stats)).isOk ↔ ∀ value ∈ stats, value.tickRate ≠ 0) := by
  simp only [getPoolIostat, getNexusIostat, Outcome.isOk_map]
  exact ⟨isOk_mapM_latencies (fun _ ↦ Outcome.isOk_map _ _) stats,
    isOk_mapM_latencies (fun _ ↦ Outcome.isOk_map _ _) stats⟩

/-- A replica without an entity id is left out before its rate is looked at. -/
theorem isOk_tryFrom (value : ReplicaIoStats) :
    (ReplicaIoStat.tryFrom value).isOk ↔
      value.entityId.isSome → ∀ stats ∈ value.stats, stats.tickRate ≠ 0 := by
  rcases value with ⟨_ | id, _ | stats⟩
  · exact ⟨fun _ _ ↦ by simp, fun _ ↦ rfl⟩
  · exact ⟨fun _ hset ↦ by simp at hset, fun _ ↦ rfl⟩
  · exact ⟨fun _ _ ↦ by simp, fun _ ↦ rfl⟩
  · have hconvert : (ReplicaIoStat.tryFrom ⟨some id, some stats⟩).isOk = stats.latencies.isOk :=
      Outcome.isOk_map _ _
    simp [hconvert, isOk_latencies]

theorem isOk_getReplicaIostat (stats : List ReplicaIoStats) :
    (getReplicaIostat (.ok stats)).isOk ↔
      ∀ value ∈ stats, value.entityId.isSome → ∀ stats ∈ value.stats, stats.tickRate ≠ 0 := by
  simp only [getReplicaIostat, Outcome.isOk_map, Outcome.isOk_mapM_iff, isOk_tryFrom]

end MayastorExtensions.MetricsExporter
