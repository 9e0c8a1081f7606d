import Mathlib.Data.List.Nodup
import Mathlib.Data.String.Basic
import MayastorExtensions.Library.Page
import MayastorExtensions.Library.Scheduled

/-!
# The dump of etcd

`EtcdStore::dump` reads the store page by page and writes its rows.  Every page starts at the last
key that was written, and the first row of every page but the first is dropped, as the row that has
been written already.  Other clients change the store between two reads.
-/

namespace MayastorExtensions.Supportability

open Scheduled Page

/-! ## The store -/

/-- The entries of the store, in ascending order of their keys. -/
structure Store (ν : Type) where
  entries : List (String × ν)
  ascending : entries.Pairwise fun left right ↦ left.1 < right.1

/-- What other clients do to the store. -/
inductive Change (ν : Type) where
  | insert (key : String) (value : ν)
  | delete (key : String)

namespace Store

variable {ν : Type}

def keys (store : Store ν) : List String :=
  store.entries.map Prod.fst

def insert (key : String) (value : ν) (store : Store ν) : Store ν where
  entries := store.entries.filter (fun entry ↦ entry.1 < key) ++
    (key, value) :: store.entries.filter fun entry ↦ key < entry.1
  ascending := by
    refine List.pairwise_append.mpr ⟨store.ascending.filter _, ?_, ?_⟩
    · refine List.pairwise_cons.mpr ⟨?_, store.ascending.filter _⟩
      intro entry hentry
      simpa using (List.mem_filter.mp hentry).2
    · intro left hleft right hright
      have hbelow : left.1 < key := by simpa using (List.mem_filter.mp hleft).2
      rcases List.mem_cons.mp hright with rfl | habove
      · exact hbelow
      · have : key < right.1 := by simpa using (List.mem_filter.mp habove).2
        exact hbelow.trans this

def delete (key : String) (store : Store ν) : Store ν where
  entries := store.entries.filter fun entry ↦ entry.1 ≠ key
  ascending := store.ascending.filter _

/-- The first entries from a key on. -/
def getValuesPagedAll (store : Store ν) (key : String) (limit : ℕ) : List (String × ν) :=
  page Prod.fst limit key store.entries

end Store

instance {ν : Type} : Interferes (Store ν) (Change ν) where
  move
    | .insert key value => Store.insert key value
    | .delete key => Store.delete key

/-! ## The dump -/

/-- A read of a page, with the key it starts from and whether it is the first, and a row that is
written; `createFile` is the file the rows go to. -/
inductive EtcdCall where
  | createFile
  | getValuesPagedAll (key : String) (first : Bool)
  | write (key : String) (text : String)
  deriving DecidableEq, Repr

inductive EtcdError where
  | ioError
  | etcd
  deriving DecidableEq, Repr

section Dump

variable {ν : Type} (pretty : ν → String) (limit : ℕ)

/-- A row as it is written, to a file or to the standard output. -/
def rowText (row : String × ν) : String :=
  row.1 ++ ":\n" ++ pretty row.2 ++ "\n\n"

/-- The rows of a page that are written. -/
def newRows (first : Bool) (dump : List (String × ν)) : List (String × ν) :=
  if first then dump else dump.tail

/-- One round of the loop, from the key the page starts at and whether it is the first. -/
def dumpRound (cursor : String × Bool) :
    Program (Store ν) (Change ν) EtcdCall EtcdError ((String × Bool) ⊕ Unit) := do
  let dump ← Program.query (.getValuesPagedAll cursor.1 cursor.2) .etcd fun store ↦
    store.getValuesPagedAll cursor.1 limit
  let rows := newRows cursor.2 dump
  Program.forEach (fun row ↦ Program.record (.write row.1 (rowText pretty row))) rows
  match rows.getLast? with
  | some row => pure (.inl (row.1, false))
  | none => pure (.inr ())

/-- The file the rows go to, unless they go to the standard output. -/
def createDumpFile (stdout : Bool) : Program (Store ν) (Change ν) EtcdCall EtcdError Unit :=
  if stdout then pure () else Program.query .createFile .ioError fun _ ↦ ()

def etcdStoreDump (keyPrefix : String) (stdout : Bool) :
    Program (Store ν) (Change ν) EtcdCall EtcdError Unit := do
  createDumpFile stdout
  Program.loop (dumpRound pretty limit) (keyPrefix, true)

end Dump

/-! ## What was written -/

/-- The key of a row that is written. -/
def EtcdCall.writtenKey : EtcdCall → Option String
  | .write key _ => some key
  | _ => none

section Trace

variable {ν : Type}

/-- The keys of the rows, in the order in which they were written. -/
def writtenKeys (trace : List (Entry (Store ν) (Change ν) EtcdCall)) : List String :=
  trace.filterMap fun entry ↦ entry.call.writtenKey

/-- The key was in the store whenever a page was read. -/
def PresentThroughout (key : String) (trace : List (Entry (Store ν) (Change ν) EtcdCall)) : Prop :=
  ∀ entry ∈ trace, ∀ start first, entry.call = .getValuesPagedAll start first →
    key ∈ entry.seen.keys

/-- Whenever a further page was read, the key it starts from was still in the store, or nothing
after it was. -/
def Retained (trace : List (Entry (Store ν) (Change ν) EtcdCall)) : Prop :=
  ∀ entry ∈ trace, ∀ start, entry.call = .getValuesPagedAll start false →
    start ∈ entry.seen.keys ∨ ∀ key ∈ entry.seen.keys, key ≤ start

/-- The rows were written in ascending order, and every key from the start on that was in the store
all the time is one of them. -/
structure Complete (keyPrefix : String) (trace : List (Entry (Store ν) (Change ν) EtcdCall)) :
    Prop where
  ascending : (writtenKeys trace).Pairwise (· < ·)
  written : ∀ key, keyPrefix ≤ key → PresentThroughout key trace →
    (writtenKeys trace).count key = 1

/-- The keys that are still to be written when a page is read from the cursor. -/
def Follows (cursor : String × Bool) (key : String) : Prop :=
  if cursor.2 then cursor.1 ≤ key else cursor.1 < key

instance (cursor : String × Bool) (key : String) : Decidable (Follows cursor key) :=
  inferInstanceAs (Decidable (if cursor.2 then cursor.1 ≤ key else cursor.1 < key))

/-- What has been written before a page is read from the cursor. -/
structure Scanned (keyPrefix : String) (cursor : String × Bool)
    (trace : List (Entry (Store ν) (Change ν) EtcdCall)) : Prop where
  ascending : (writtenKeys trace).Pairwise (· < ·)
  passed : ∀ key ∈ writtenKeys trace, ¬Follows cursor key
  written : Retained trace → ∀ key, keyPrefix ≤ key → ¬Follows cursor key →
    PresentThroughout key trace → key ∈ writtenKeys trace

end Trace

/-! ## One page -/

section Page

variable {ν : Type} {store : Store ν} {limit : ℕ} {cursor : String × Bool} {key : String}

theorem Store.mem_keys : key ∈ store.keys ↔ ∃ value, (key, value) ∈ store.entries := by
  simp [Store.keys]

theorem page_ascending :
    (store.getValuesPagedAll cursor.1 limit).Pairwise fun left right ↦ left.1 < right.1 :=
  store.ascending.sublist page_sublist

theorem newRows_ascending :
    (newRows cursor.2 (store.getValuesPagedAll cursor.1 limit)).Pairwise
      fun left right ↦ left.1 < right.1 := by
  unfold newRows
  split
  · exact page_ascending
  · exact page_ascending.tail

/-- The rows of a page have not been written before. -/
theorem follows_of_mem_newRows {row : String × ν}
    (h : row ∈ newRows cursor.2 (store.getValuesPagedAll cursor.1 limit)) :
    Follows cursor row.1 := by
  unfold newRows at h
  unfold Follows
  split at h
  next hfirst =>
    rw [if_pos hfirst]
    exact le_of_mem_page h
  next hfirst =>
    rw [if_neg hfirst]
    have hsorted := @page_ascending _ store limit cursor
    cases hpage : store.getValuesPagedAll cursor.1 limit with
    | nil =>
      rw [hpage] at h
      exact absurd h List.not_mem_nil
    | cons head tail =>
      rw [hpage] at h hsorted
      have hhead : cursor.1 ≤ head.1 := by
        apply le_of_mem_page
        rw [Store.getValuesPagedAll] at hpage
        rw [hpage]
        exact List.mem_cons_self
      exact lt_of_le_of_lt hhead ((List.pairwise_cons.mp hsorted).1 row h)

/-- Every entry up to the last row is on the page, and without rows every entry is. -/
theorem mem_page_of_last {value : ν} (hlimit : 2 ≤ limit)
    (hmem : (key, value) ∈ store.entries) (hstart : cursor.1 ≤ key)
    (hlast : ∀ row ∈ (newRows cursor.2 (store.getValuesPagedAll cursor.1 limit)).getLast?,
      key ≤ row.1) :
    (key, value) ∈ store.getValuesPagedAll cursor.1 limit := by
  cases hrows : (newRows cursor.2 (store.getValuesPagedAll cursor.1 limit)).getLast? with
  | none =>
    have hempty := List.getLast?_eq_none_iff.mp hrows
    apply mem_page_of_short ?_ hmem hstart
    have hlength : (store.getValuesPagedAll cursor.1 limit).length ≤ 1 := by
      unfold newRows at hempty
      split at hempty
      · simp [hempty]
      · have := congrArg List.length hempty
        simp only [List.length_tail, List.length_nil] at this
        omega
    exact Nat.lt_of_le_of_lt hlength hlimit
  | some row =>
    have hrow : row ∈ store.getValuesPagedAll cursor.1 limit := by
      have hmemRows := List.mem_of_getLast? hrows
      unfold newRows at hmemRows
      split at hmemRows
      · exact hmemRows
      · exact List.mem_of_mem_tail hmemRows
    exact mem_page_of_not_after store.ascending hrow hmem hstart (not_lt.mpr (hlast row hrows))

/-- On a further page, an entry after the key it starts from is dropped only where that key is
gone. -/
theorem mem_tail_of_retained {value : ν} (hafter : cursor.1 < key)
    (hmem : (key, value) ∈ store.getValuesPagedAll cursor.1 limit)
    (hretained : cursor.1 ∈ store.keys ∨ ∀ other ∈ store.keys, other ≤ cursor.1) :
    (key, value) ∈ (store.getValuesPagedAll cursor.1 limit).tail := by
  have hsorted := @page_ascending _ store limit cursor
  have hentry : (key, value) ∈ store.entries := page_sublist.subset hmem
  have hkept : cursor.1 ∈ store.keys := by
    refine hretained.resolve_right fun hnone ↦ ?_
    exact absurd (hnone key (Store.mem_keys.mpr ⟨value, hentry⟩)) (not_le.mpr hafter)
  obtain ⟨kept, hkept⟩ := Store.mem_keys.mp hkept
  have hkeptPage : (cursor.1, kept) ∈ store.getValuesPagedAll cursor.1 limit :=
    mem_page_of_not_after store.ascending hmem hkept le_rfl (not_lt.mpr hafter.le)
  cases hpage : store.getValuesPagedAll cursor.1 limit with
  | nil =>
    rw [hpage] at hmem
    exact absurd hmem List.not_mem_nil
  | cons head tail =>
    rw [hpage] at hmem hkeptPage hsorted
    rcases List.mem_cons.mp hmem with hhead | htail
    · -- The key the page starts from would have to come after its first row.
      rcases List.mem_cons.mp hkeptPage with hsame | hlater
      · rw [← hsame] at hhead
        exact absurd (congrArg Prod.fst hhead) hafter.ne'
      · have hlt := (List.pairwise_cons.mp hsorted).1 _ hlater
        rw [← hhead] at hlt
        exact absurd hlt hafter.asymm
    · exact htail

/-- The rows of a page have every key that they should have. -/
theorem mem_newRows (hlimit : 2 ≤ limit) (hmem : key ∈ store.keys)
    (hstart : Follows cursor key)
    (hretained : cursor.2 = false → cursor.1 ∈ store.keys ∨ ∀ other ∈ store.keys, other ≤ cursor.1)
    (hlast : ∀ row ∈ (newRows cursor.2 (store.getValuesPagedAll cursor.1 limit)).getLast?,
      key ≤ row.1) :
    key ∈ (newRows cursor.2 (store.getValuesPagedAll cursor.1 limit)).map Prod.fst := by
  obtain ⟨value, hentry⟩ := Store.mem_keys.mp hmem
  unfold Follows at hstart
  have hle : cursor.1 ≤ key := by
    split at hstart
    · exact hstart
    · exact hstart.le
  have hpage := mem_page_of_last hlimit hentry hle hlast
  refine List.mem_map.mpr ⟨(key, value), ?_, rfl⟩
  unfold newRows
  split
  next => exact hpage
  next hfirst =>
    rw [if_neg hfirst] at hstart
    exact mem_tail_of_retained hstart hpage (hretained (by simpa using hfirst))

/-- The last row is not before any other row. -/
theorem le_last_of_mem_newRows {row last : String × ν}
    (hlast : (newRows cursor.2 (store.getValuesPagedAll cursor.1 limit)).getLast? = some last)
    (h : row ∈ newRows cursor.2 (store.getValuesPagedAll cursor.1 limit)) : row.1 ≤ last.1 := by
  have hsorted := @newRows_ascending _ store limit cursor
  obtain ⟨before, hrows⟩ := List.getLast?_eq_some_iff.mp hlast
  rw [hrows] at h hsorted
  rcases List.mem_append.mp h with hbefore | hsame
  · exact ((List.pairwise_append.mp hsorted).2.2 row hbefore last (List.mem_singleton_self _)).le
  · rw [List.mem_singleton.mp hsame]

end Page

/-! ## One round -/

section Round

variable {ν : Type} {pretty : ν → String} {limit : ℕ} {cursor : String × Bool} {keyPrefix : String}
  {trace : List (Entry (Store ν) (Change ν) EtcdCall)} {moves : List (Change ν)} {store : Store ν}

/-- The trace of a round that read a page. -/
def roundTrace (pretty : ν → String) (limit : ℕ) (cursor : String × Bool)
    (moves : List (Change ν)) (store : Store ν) : List (Entry (Store ν) (Change ν) EtcdCall) :=
  ⟨.getValuesPagedAll cursor.1 cursor.2, moves, store, .served⟩ ::
    (newRows cursor.2 (store.getValuesPagedAll cursor.1 limit)).map fun row ↦
      ⟨.write row.1 (rowText pretty row), [], store, .served⟩

theorem writtenKeys_round :
    writtenKeys (trace ++ roundTrace pretty limit cursor moves store) =
      writtenKeys trace ++
        (newRows cursor.2 (store.getValuesPagedAll cursor.1 limit)).map Prod.fst := by
  simp [writtenKeys, roundTrace, EtcdCall.writtenKey, List.filterMap_map]

theorem presentThroughout_round {key : String} :
    PresentThroughout key (trace ++ roundTrace pretty limit cursor moves store) ↔
      PresentThroughout key trace ∧ key ∈ store.keys := by
  unfold PresentThroughout roundTrace
  simp only [List.forall_mem_append, List.forall_mem_cons, List.forall_mem_map]
  constructor
  · intro h
    exact ⟨h.1, h.2.1 _ _ rfl⟩
  · intro h
    refine ⟨h.1, fun _ _ _ ↦ h.2, ?_⟩
    intro row _ start first hcall
    cases hcall

theorem retained_round :
    Retained (trace ++ roundTrace pretty limit cursor moves store) ↔ Retained trace ∧
      (cursor.2 = false → cursor.1 ∈ store.keys ∨ ∀ key ∈ store.keys, key ≤ cursor.1) := by
  unfold Retained roundTrace
  simp only [List.forall_mem_append, List.forall_mem_cons, List.forall_mem_map]
  constructor
  · intro h
    refine ⟨h.1, fun hfirst ↦ h.2.1 _ ?_⟩
    rw [hfirst]
  · intro h
    refine ⟨h.1, ?_, ?_⟩
    · intro start hcall
      injection hcall with hstart hfirst
      rw [← hstart]
      exact h.2 hfirst
    · intro row _ start hcall
      cases hcall

/-- What was written before comes before the rows of the page. -/
theorem Scanned.lt_of_mem_newRows (h : Scanned keyPrefix cursor trace) {key : String}
    (hkey : key ∈ writtenKeys trace) {row : String × ν}
    (hrow : row ∈ newRows cursor.2 (store.getValuesPagedAll cursor.1 limit)) : key < row.1 := by
  have hpassed := h.passed key hkey
  have hfollows := follows_of_mem_newRows hrow
  unfold Follows at hpassed hfollows
  split at hpassed
  next hfirst =>
    rw [if_pos hfirst] at hfollows
    exact lt_of_lt_of_le (not_le.mp hpassed) hfollows
  next hfirst =>
    rw [if_neg hfirst] at hfollows
    exact lt_of_le_of_lt (not_lt.mp hpassed) hfollows

theorem Scanned.round_ascending (h : Scanned keyPrefix cursor trace) :
    (writtenKeys (trace ++ roundTrace pretty limit cursor moves store)).Pairwise (· < ·) := by
  rw [writtenKeys_round]
  refine List.pairwise_append.mpr ⟨h.ascending, List.pairwise_map.mpr newRows_ascending, ?_⟩
  intro left hleft right hright
  obtain ⟨row, hrow, rfl⟩ := List.mem_map.mp hright
  exact h.lt_of_mem_newRows hleft hrow

/-- After a round, a key that was there all the time has been written, unless it comes after the
last row. -/
theorem Scanned.round_written (h : Scanned keyPrefix cursor trace) (hlimit : 2 ≤ limit)
    (hretained : Retained (trace ++ roundTrace pretty limit cursor moves store)) {key : String}
    (hfrom : keyPrefix ≤ key)
    (hlast : ∀ row ∈ (newRows cursor.2 (store.getValuesPagedAll cursor.1 limit)).getLast?,
      key ≤ row.1)
    (hpresent : PresentThroughout key (trace ++ roundTrace pretty limit cursor moves store)) :
    key ∈ writtenKeys (trace ++ roundTrace pretty limit cursor moves store) := by
  rw [retained_round] at hretained
  rw [presentThroughout_round] at hpresent
  rw [writtenKeys_round, List.mem_append]
  by_cases hfollows : Follows cursor key
  · exact .inr (mem_newRows hlimit hpresent.2 hfollows hretained.2 hlast)
  · exact .inl (h.written hretained.1 key hfrom hfollows hpresent.1)

/-- A round that wrote rows leads to the round that starts from the last of them. -/
theorem Scanned.next (h : Scanned keyPrefix cursor trace) (hlimit : 2 ≤ limit) {last : String × ν}
    (hlast : (newRows cursor.2 (store.getValuesPagedAll cursor.1 limit)).getLast? = some last) :
    Scanned keyPrefix (last.1, false)
      (trace ++ roundTrace pretty limit cursor moves store) where
  ascending := h.round_ascending
  passed := by
    intro key hkey
    refine not_lt.mpr ?_
    rw [writtenKeys_round] at hkey
    rcases List.mem_append.mp hkey with hbefore | hnew
    · exact (h.lt_of_mem_newRows hbefore (List.mem_of_getLast? hlast)).le
    · obtain ⟨row, hrow, rfl⟩ := List.mem_map.mp hnew
      exact le_last_of_mem_newRows hlast hrow
  written := by
    intro hretained key hfrom hpassed
    refine h.round_written hlimit hretained hfrom ?_
    intro row hrow
    rw [hlast, Option.mem_some] at hrow
    rw [← hrow]
    exact not_lt.mp hpassed

/-- A round without rows ends a complete dump. -/
theorem Scanned.complete (h : Scanned keyPrefix cursor trace) (hlimit : 2 ≤ limit)
    (hrows : (newRows cursor.2 (store.getValuesPagedAll cursor.1 limit)).getLast? = none)
    (hretained : Retained (trace ++ roundTrace pretty limit cursor moves store)) :
    Complete keyPrefix (trace ++ roundTrace pretty limit cursor moves store) where
  ascending := h.round_ascending
  written := by
    intro key hfrom hpresent
    have hmem := h.round_written hlimit hretained hfrom (by simp [hrows]) hpresent
    exact List.count_eq_one_of_mem (h.round_ascending.imp fun hlt ↦ hlt.ne) hmem

/-- Where the loop goes from the rows of a page. -/
def afterRows (rows : List (String × ν)) : (String × Bool) ⊕ Unit :=
  match rows.getLast? with
  | some row => .inl (row.1, false)
  | none => .inr ()

theorem dumpRound_served {tick : Tick (Change ν)} (htick : tick.verdict = .served)
    {rest : List (Tick (Change ν))} :
    dumpRound pretty limit cursor ⟨store, tick :: rest, trace⟩ =
      (.ok (afterRows (newRows cursor.2
          ((after tick.moves store).getValuesPagedAll cursor.1 limit))),
        ⟨after tick.moves store, rest,
          trace ++ roundTrace pretty limit cursor tick.moves (after tick.moves store)⟩) := by
  have hread : (Program.query (.getValuesPagedAll cursor.1 cursor.2) .etcd fun store ↦
      store.getValuesPagedAll cursor.1 limit :
        Program (Store ν) (Change ν) EtcdCall EtcdError (List (String × ν)))
      ⟨store, tick :: rest, trace⟩ =
        (.ok ((after tick.moves store).getValuesPagedAll cursor.1 limit),
          ⟨after tick.moves store, rest, trace ++ [⟨.getValuesPagedAll cursor.1 cursor.2,
            tick.moves, after tick.moves store, .served⟩]⟩) := by
    simp only [Program.query, Program.request, htick, id_eq]
  rw [dumpRound, Program.bind_of_ok hread, Program.bind_of_ok (Program.forEach_record_apply _ _ _),
    List.append_assoc]
  unfold afterRows
  split
  next row hlast => rw [hlast]; rfl
  next hlast => rw [hlast]; rfl

end Round

/-! ## The whole dump -/

section Run

variable {ν : Type} {pretty : ν → String} {limit : ℕ}

/-- The entries that are still to be written when a page is read from the cursor. -/
def remaining (store : Store ν) (cursor : String × Bool) : List (String × ν) :=
  store.entries.filter fun entry ↦ Follows cursor entry.1

/-- A round that wrote rows leaves less to write, if nothing else changes the store. -/
theorem remaining_lt {store : Store ν} {cursor : String × Bool} {last : String × ν}
    (hlast : (newRows cursor.2 (store.getValuesPagedAll cursor.1 limit)).getLast? = some last) :
    (remaining store (last.1, false)).length < (remaining store cursor).length := by
  have hmem := List.mem_of_getLast? hlast
  have hfollows := follows_of_mem_newRows hmem
  have hentry : last ∈ store.entries := by
    unfold newRows at hmem
    split at hmem
    · exact page_sublist.subset hmem
    · exact page_sublist.subset (List.mem_of_mem_tail hmem)
  apply length_filter_lt hentry
  · intro entry hlater
    rw [decide_eq_true_eq] at hlater ⊢
    have hlt : last.1 < entry.1 := hlater
    unfold Follows at hfollows ⊢
    split at hfollows
    next hfirst =>
      rw [if_pos hfirst]
      exact hfollows.trans hlt.le
    next hfirst =>
      rw [if_neg hfirst]
      exact hfollows.trans hlt
  · exact decide_eq_true hfollows
  · simp [Follows]

section Loop

variable {store : Store ν} {cursor : String × Bool} {tick : Tick (Change ν)}
  {rest : List (Tick (Change ν))} {trace : List (Entry (Store ν) (Change ν) EtcdCall)}

/-- A page without rows ends the dump. -/
theorem loop_of_no_rows (htick : tick.verdict = .served)
    (hrows : (newRows cursor.2
      ((after tick.moves store).getValuesPagedAll cursor.1 limit)).getLast? = none) :
    Program.loop (dumpRound pretty limit) cursor ⟨store, tick :: rest, trace⟩ =
      (.ok (), ⟨after tick.moves store, rest,
        trace ++ roundTrace pretty limit cursor tick.moves (after tick.moves store)⟩) := by
  have hround := @dumpRound_served _ pretty limit cursor trace store tick htick rest
  rw [afterRows, hrows] at hround
  exact Program.loop_of_done hround

/-- After the rows of a page the dump goes on from the last of them. -/
theorem loop_of_rows (htick : tick.verdict = .served) {last : String × ν}
    (hrows : (newRows cursor.2
      ((after tick.moves store).getValuesPagedAll cursor.1 limit)).getLast? = some last) :
    Program.loop (dumpRound pretty limit) cursor ⟨store, tick :: rest, trace⟩ =
      Program.loop (dumpRound pretty limit) (last.1, false) ⟨after tick.moves store, rest,
        trace ++ roundTrace pretty limit cursor tick.moves (after tick.moves store)⟩ := by
  have hround := @dumpRound_served _ pretty limit cursor trace store tick htick rest
  rw [afterRows, hrows] at hround
  exact Program.loop_of_next hround rfl

/-- Once the other clients are done, every page leaves less to write. -/
theorem loop_undisturbed {count : ℕ} (h : (remaining store cursor).length < count) :
    ∃ m, Program.loop (dumpRound pretty limit) cursor ⟨store, undisturbed count, trace⟩ =
      (.ok (), m) := by
  induction count generalizing cursor trace with
  | zero => exact absurd h (Nat.not_lt_zero _)
  | succ count ih =>
    cases hrows : (newRows cursor.2 (store.getValuesPagedAll cursor.1 limit)).getLast? with
    | none => exact ⟨_, loop_of_no_rows rfl hrows⟩
    | some last =>
      have hless := remaining_lt hrows
      have hleft : (remaining store (last.1, false)).length < count := by omega
      obtain ⟨m, hrun⟩ := @ih (last.1, false)
        (trace ++ roundTrace pretty limit cursor [] store) hleft
      exact ⟨m, (loop_of_rows rfl hrows).trans hrun⟩

/-- The other clients change the store finitely often. -/
theorem loop_returns {ticks : List (Tick (Change ν))}
    (hserved : ∀ tick ∈ ticks, tick.verdict = .served) :
    ∃ enough, ∀ count trace, enough ≤ count →
      ∃ m, Program.loop (dumpRound pretty limit) cursor ⟨store, ticks ++ undisturbed count, trace⟩ =
        (.ok (), m) := by
  induction ticks generalizing store cursor with
  | nil => exact ⟨_, fun count trace hcount ↦ loop_undisturbed hcount⟩
  | cons tick ticks ih =>
    have htick := hserved tick List.mem_cons_self
    cases hrows : (newRows cursor.2
        ((after tick.moves store).getValuesPagedAll cursor.1 limit)).getLast? with
    | none => exact ⟨0, fun count trace _ ↦ ⟨_, loop_of_no_rows htick hrows⟩⟩
    | some last =>
      obtain ⟨enough, hnext⟩ := @ih (after tick.moves store) (last.1, false)
        fun tick h ↦ hserved tick (List.mem_cons_of_mem _ h)
      refine ⟨enough, fun count trace hcount ↦ ?_⟩
      rw [List.cons_append, loop_of_rows htick hrows]
      exact hnext count _ hcount

end Loop

theorem dumpRound_spec {keyPrefix : String} (hlimit : 2 ≤ limit) (cursor : String × Bool) :
    Triple (fun _ ↦ True) (fun _ trace ↦ Scanned keyPrefix cursor trace)
      (dumpRound pretty limit cursor : Program (Store ν) (Change ν) EtcdCall EtcdError _)
      (Sum.elim (fun next _ trace ↦ Scanned keyPrefix next trace)
        fun _ _ trace ↦ (writtenKeys trace).Pairwise (· < ·) ∧
          (Retained trace → Complete keyPrefix trace))
      (fun _ _ ↦ True) := by
  refine Triple.bind (fun dump store trace' ↦ dump = store.getValuesPagedAll cursor.1 limit ∧
    ∃ trace moves, Scanned keyPrefix cursor trace ∧ trace' =
      trace ++ [⟨.getValuesPagedAll cursor.1 cursor.2, moves, store, .served⟩]) ?_ ?_
  · refine Triple.query (fun _ _ _ ↦ trivial) ?_ fun _ _ _ _ _ _ ↦ trivial
    intro store trace moves _ hscanned
    exact ⟨rfl, trace, moves, hscanned, rfl⟩
  · intro dump
    refine Triple.bind (fun _ store trace' ↦ dump = store.getValuesPagedAll cursor.1 limit ∧
      ∃ trace moves, Scanned keyPrefix cursor trace ∧
        trace' = trace ++ roundTrace pretty limit cursor moves store) ?_ ?_
    · apply Triple.forEach_record
      rintro store _ ⟨rfl, trace, moves, hscanned, rfl⟩
      refine ⟨rfl, trace, moves, hscanned, ?_⟩
      rw [List.append_assoc]
      rfl
    · intro _
      split
      next last hlast =>
        apply Triple.pure
        rintro store _ ⟨rfl, trace, moves, hscanned, rfl⟩
        exact hscanned.next hlimit hlast
      next hlast =>
        apply Triple.pure
        rintro store _ ⟨rfl, trace, moves, hscanned, rfl⟩
        exact ⟨hscanned.round_ascending, hscanned.complete hlimit hlast⟩

/-- Nothing has been written before the first page. -/
theorem Scanned.start {keyPrefix : String} {trace : List (Entry (Store ν) (Change ν) EtcdCall)}
    (h : writtenKeys trace = []) : Scanned keyPrefix (keyPrefix, true) trace where
  ascending := by
    rw [h]
    exact List.Pairwise.nil
  passed := by simp [h]
  written := fun _ _ hfrom hpassed ↦ absurd hfrom hpassed

theorem createDumpFile_spec {stdout : Bool} :
    Triple (fun _ ↦ True) (fun _ trace ↦ trace = [])
      (createDumpFile stdout : Program (Store ν) (Change ν) EtcdCall EtcdError _)
      (fun _ _ trace ↦ writtenKeys trace = []) (fun _ _ ↦ True) := by
  unfold createDumpFile
  split
  · apply Triple.pure
    rintro _ _ rfl
    rfl
  · refine Triple.query (fun _ _ _ ↦ trivial) ?_ fun _ _ _ _ _ _ ↦ trivial
    rintro _ _ _ _ rfl
    rfl

theorem etcdStoreDump_spec {keyPrefix : String} {stdout : Bool} (hlimit : 2 ≤ limit) :
    Triple (fun _ ↦ True) (fun _ trace ↦ trace = [])
      (etcdStoreDump pretty limit keyPrefix stdout :
        Program (Store ν) (Change ν) EtcdCall EtcdError _)
      (fun _ _ trace ↦ (writtenKeys trace).Pairwise (· < ·) ∧
        (Retained trace → Complete keyPrefix trace)) (fun _ _ ↦ True) := by
  refine Triple.bind _ createDumpFile_spec fun _ ↦ ?_
  exact Triple.loop (fun cursor _ trace ↦ Scanned keyPrefix cursor trace)
    (fun _ _ h ↦ Scanned.start h) (fun cursor ↦ dumpRound_spec hlimit cursor)
    fun _ _ _ _ ↦ trivial

theorem etcdStoreDump_returns {keyPrefix : String} {stdout : Bool} {store : Store ν}
    {ticks : List (Tick (Change ν))} (hserved : ∀ tick ∈ ticks, tick.verdict = .served) :
    ∃ enough, ∀ count, enough ≤ count → ∃ m,
      etcdStoreDump pretty limit keyPrefix stdout ⟨store, ticks ++ undisturbed count, []⟩ =
        (.ok (), m) := by
  cases stdout with
  | true =>
    obtain ⟨enough, hloop⟩ := @loop_returns _ pretty limit store (keyPrefix, true) ticks hserved
    exact ⟨enough, fun count hcount ↦ hloop count [] hcount⟩
  | false =>
    -- The first tick goes to the creation of the file.
    cases ticks with
    | nil =>
      refine ⟨(remaining store (keyPrefix, true)).length + 2, fun count hcount ↦ ?_⟩
      obtain ⟨left, rfl⟩ : ∃ left, count = left + 1 := ⟨count - 1, by omega⟩
      have hless : (remaining store (keyPrefix, true)).length < left := by omega
      exact loop_undisturbed hless
    | cons tick ticks =>
      have htick := hserved tick List.mem_cons_self
      obtain ⟨enough, hloop⟩ := @loop_returns _ pretty limit (after tick.moves store)
        (keyPrefix, true) ticks fun tick h ↦ hserved tick (List.mem_cons_of_mem _ h)
      refine ⟨enough, fun count hcount ↦ ?_⟩
      have hcreate : (createDumpFile false : Program (Store ν) (Change ν) EtcdCall EtcdError _)
          ⟨store, tick :: (ticks ++ undisturbed count), []⟩ =
            (.ok (), ⟨after tick.moves store, ticks ++ undisturbed count,
              [⟨.createFile, tick.moves, after tick.moves store, .served⟩]⟩) := by
        simp [createDumpFile, Program.query, Program.request, htick]
      rw [etcdStoreDump, List.cons_append, Program.bind_of_ok hcreate]
      exact hloop count _ hcount

/-- Whatever other clients do to the store, the dump ends and has written its rows in ascending
order; and it is complete if every further page finds the key it starts from still in the store, or
nothing after it. -/
theorem etcdStoreDump_complete (pretty : ν → String) (hlimit : 2 ≤ limit) (keyPrefix : String)
    (stdout : Bool) (store : Store ν) (ticks : List (Tick (Change ν)))
    (hserved : ∀ tick ∈ ticks, tick.verdict = .served) :
    ∃ enough, ∀ count, enough ≤ count → ∃ m,
      etcdStoreDump pretty limit keyPrefix stdout ⟨store, ticks ++ undisturbed count, []⟩ =
        (.ok (), m) ∧ (writtenKeys m.trace).Pairwise (· < ·) ∧
          (Retained m.trace → Complete keyPrefix m.trace) := by
  obtain ⟨enough, hreturns⟩ := @etcdStoreDump_returns _ pretty limit keyPrefix stdout store ticks
    hserved
  refine ⟨enough, fun count hcount ↦ ?_⟩
  obtain ⟨m, hrun⟩ := hreturns count hcount
  exact ⟨m, hrun, (etcdStoreDump_spec hlimit).apply_ok hrun (fun _ _ ↦ trivial) rfl⟩

/-- Three keys. -/
def threeKeys : Store Unit where
  entries := [("a", ()), ("b", ()), ("c", ())]
  ascending := by decide

/-- The first key is deleted and a fourth one inserted before the second of four pages is read. -/
def changedBetween : List (Tick (Change Unit)) :=
  [⟨[], .served⟩, ⟨[], .served⟩, ⟨[.delete "a", .insert "d" ()], .served⟩, ⟨[], .served⟩,
    ⟨[], .served⟩]

/-- The dump of three keys, of which the first goes and a fourth comes between the pages. -/
def changedDump (count : ℕ) :
    Except (Stop EtcdError) Unit × Machine (Store Unit) (Change Unit) EtcdCall :=
  etcdStoreDump (fun _ : Unit ↦ "null") 2 "a" false
    ⟨threeKeys, changedBetween ++ undisturbed count, []⟩

/-- The store from the second page on. -/
def changedKeys : Store Unit :=
  (threeKeys.delete "a").insert "d" ()

/-- What happens in it: one round for each of four pages. -/
def changedTrace : List (Entry (Store Unit) (Change Unit) EtcdCall) :=
  [⟨.createFile, [], threeKeys, .served⟩] ++
    roundTrace (fun _ ↦ "null") 2 ("a", true) [] threeKeys ++
    roundTrace (fun _ ↦ "null") 2 ("b", false) [.delete "a", .insert "d" ()] changedKeys ++
    roundTrace (fun _ ↦ "null") 2 ("c", false) [] changedKeys ++
    roundTrace (fun _ ↦ "null") 2 ("d", false) [] changedKeys

theorem changedDump_trace (count : ℕ) : (changedDump count).2.trace = changedTrace := by
  have hloop : ∀ rest, (Program.loop (dumpRound (fun _ : Unit ↦ "null") 2) ("a", true)
      ⟨threeKeys, changedBetween.tail ++ rest, [⟨.createFile, [], threeKeys, .served⟩]⟩).2.trace =
        changedTrace := by
    intro rest
    simp only [changedBetween, List.tail_cons, List.cons_append, List.nil_append]
    rw [loop_of_rows rfl (show _ = some ("b", ()) by decide),
      loop_of_rows rfl (show _ = some ("c", ()) by decide),
      loop_of_rows rfl (show _ = some ("d", ()) by decide), loop_of_no_rows rfl (by decide)]
    rfl
  exact hloop (undisturbed count)

/-- A further page starts from a key of the store. -/
def startsInStore (entry : Entry (Store Unit) (Change Unit) EtcdCall) : Bool :=
  match entry.call with
  | .getValuesPagedAll start false => entry.seen.keys.contains start
  | _ => true

theorem etcdStoreDump_complete_threeKeys :
    ∃ count m, changedDump count = (.ok (), m) ∧ writtenKeys m.trace = ["a", "b", "c", "d"] ∧
      Retained m.trace ∧ Complete "a" m.trace := by
  obtain ⟨count, hreturns⟩ := etcdStoreDump_complete (fun _ : Unit ↦ "null") (le_refl 2) "a" false
    threeKeys changedBetween (by decide)
  obtain ⟨m, hrun, -, hcomplete⟩ := hreturns count le_rfl
  have htrace : m.trace = changedTrace := by
    rw [← changedDump_trace count, changedDump, hrun]
  have hpages : ∀ entry ∈ changedTrace, startsInStore entry := by decide
  have hretained : Retained m.trace := by
    rw [htrace]
    intro entry hentry start hcall
    have hpage := hpages entry hentry
    rw [startsInStore, hcall] at hpage
    exact .inl (List.contains_iff_mem.mp hpage)
  refine ⟨count, m, hrun, ?_, hretained, hcomplete hretained⟩
  rw [htrace]
  decide

/-- The last key of the first page is deleted before the second page is read. -/
def deletedBetween : List (Tick (Change Unit)) :=
  [⟨[], .served⟩, ⟨[.delete "b"], .served⟩]

def skippingDump : Except (Stop EtcdError) Unit × Machine (Store Unit) (Change Unit) EtcdCall :=
  etcdStoreDump (fun _ : Unit ↦ "null") 2 "a" true ⟨threeKeys, deletedBetween, []⟩

/-- The key after the deleted one is there all the time and is never written. -/
theorem etcdStoreDump_skips_key :
    skippingDump.1 = .ok () ∧ PresentThroughout "c" skippingDump.2.trace ∧
      writtenKeys skippingDump.2.trace = ["a", "b"] ∧ ¬Complete "a" skippingDump.2.trace := by
  have hseen : ∀ entry ∈ skippingDump.2.trace, "c" ∈ entry.seen.keys := by decide
  have hpresent : PresentThroughout "c" skippingDump.2.trace :=
    fun entry hentry _ _ _ ↦ hseen entry hentry
  have hkeys : writtenKeys skippingDump.2.trace = ["a", "b"] := by decide
  refine ⟨rfl, hpresent, hkeys, fun hcomplete ↦ ?_⟩
  have hwritten := hcomplete.written "c" (by decide) hpresent
  rw [hkeys] at hwritten
  exact absurd hwritten (by decide)

end Run

end MayastorExtensions.Supportability
