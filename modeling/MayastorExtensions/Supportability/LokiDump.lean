import Mathlib.Data.List.Dedup
import Mathlib.Data.List.Pairwise
import Mathlib.Data.List.Perm.Subperm
import MayastorExtensions.Library.Semver

/-!
# The dump of historical logs

`LokiClient::fetch_and_dump_logs` polls Loki for the logs of a service and writes them to a file.
A poll asks for a limited number of entries from a start time on; the next poll starts one
millisecond after the last entry of the last stream of the answer, although the answer holds a
slice of the entries of all streams.
-/

namespace MayastorExtensions.Supportability

open Semver

/-! ## Responses -/

inductive LokiError where
  | request
  | response (text : String)
  | tower
  | serde
  | hyper
  | ioError
  deriving DecidableEq, Repr

structure StreamMetaData where
  hostName : String
  podName : String
  containerName : String
  deriving DecidableEq, Repr

/-- One stream of an answer; a row has the time of an entry and its line, but may be malformed. -/
structure StreamContent where
  streamMetadata : StreamMetaData
  values : List (List String)
  deriving DecidableEq, Repr

structure LokiResponse where
  status : String
  result : List StreamContent
  deriving DecidableEq, Repr

/-- `str::parse::<u128>`: decimal digits after an optional plus sign. -/
def parseSinceTime (text : String) : Option ℕ :=
  let digits := match text.toList with
    | '+' :: rest => rest
    | chars => chars
  if digits.isEmpty || !digits.all Char.isDigit then none
  else if digitsValue digits < Nat.pow 2 128 then some (digitsValue digits) else none

/-- The time of the last entry of the last stream, in nanoseconds. -/
def LokiResponse.getLastStreamUnixTime (response : LokiResponse) : ℕ :=
  match response.result.getLast? with
  | some lastStream =>
    (parseSinceTime ((lastStream.values.getLast?.getD []).head?.getD "0")).getD 0
  | none => 0

/-- The lines of an answer, stream by stream. -/
def LokiResponse.logs (response : LokiResponse) : List String :=
  response.result.flatMap fun stream ↦
    (stream.values.map fun value ↦ value[1]?.getD "").filter fun line ↦ !line.isEmpty

/-! ## Polling -/

inductive LogDirection where
  | forward
  deriving DecidableEq, Repr

/-- The parameters of a query. -/
structure LokiRequest where
  query : String
  limit : ℕ
  direction : LogDirection
  start : ℕ
  deriving DecidableEq, Repr

structure LokiPoll where
  query : String
  limit : ℕ
  direction : LogDirection
  since : ℕ
  nextStartEpochTimestamp : ℕ
  deriving DecidableEq, Repr

/-- The request of the next poll; both branches of the source start at the same time. -/
def LokiPoll.request (poller : LokiPoll) : LokiRequest :=
  let startTime := if poller.nextStartEpochTimestamp ≠ 0 then poller.since else poller.since
  ⟨poller.query, poller.limit, poller.direction, startTime⟩

/-- One millisecond. -/
def pollGap : ℕ := 1000000

def LokiPoll.pollNext (loki : LokiRequest → Except LokiError LokiResponse) (poller : LokiPoll) :
    Except LokiError (Option (List String)) × LokiPoll :=
  match loki poller.request with
  | .error error => (.error error, poller)
  | .ok response =>
    if response.status = "success" ∧ response.result.isEmpty then (.ok none, poller)
    else if response.getLastStreamUnixTime = 0 then (.ok none, poller)
    else
      (.ok (some response.logs),
        { poller with since := response.getLastStreamUnixTime + pollGap })

/-! ## The dump -/

/-- `char::is_whitespace`. -/
def isWhitespace (c : Char) : Bool :=
  (0x9 ≤ c.toNat && c.toNat ≤ 0xd) || c.toNat = 0x20 || c.toNat = 0x85 || c.toNat = 0xa0 ||
    c.toNat = 0x1680 || (0x2000 ≤ c.toNat && c.toNat ≤ 0x200a) || c.toNat = 0x2028 ||
    c.toNat = 0x2029 || c.toNat = 0x202f || c.toNat = 0x205f || c.toNat = 0x3000

def trimEnd (line : String) : String :=
  String.ofList (line.toList.reverse.dropWhile isWhitespace).reverse

/-- What a dump leaves behind: its result, the lines it wrote, whether it removed the file, and the
requests whose answers were written. -/
structure LogDump where
  result : Except LokiError Unit
  lines : List String
  removed : Bool
  requests : List LokiRequest

/-- A dump that wrote the answer to a request first. -/
def LogDump.cons (request : LokiRequest) (lines : List String) (dump : LogDump) : LogDump :=
  { dump with lines := lines ++ dump.lines, requests := request :: dump.requests }

/-- The loop, from a poller and whether something has been written; the requests are answered by
`loki` in the order in which they are made.  Without fuel it is still polling. -/
def pollLoop (loki : ℕ → LokiRequest → Except LokiError LokiResponse) :
    ℕ → LokiPoll → Bool → Option LogDump
  | 0, _, _ => none
  | fuel + 1, poller, isWritten =>
    match poller.pollNext (loki 0) with
    | (.ok (some result), poller') =>
      (pollLoop (fun index ↦ loki (index + 1)) fuel poller' true).map
        (LogDump.cons poller.request (result.map trimEnd))
    | (.ok none, _) => some ⟨.ok (), [], false, []⟩
    | (.error error, _) => some ⟨.error error, [], !isWritten, []⟩

/-- One pair of a label selector as a filter; without an equals sign the source panics. -/
def labelFilter (keyValuePair : String) : Option String :=
  match keyValuePair.splitOn "=" with
  | key :: value :: _ =>
    some (((key ++ "=\"" ++ value ++ "\",").replace "." "_").replace "/" "_")
  | _ => none

def labelFilters (labelSelector : String) : Option String :=
  ((labelSelector.splitOn ",").mapM labelFilter).map fun filters ↦
    String.ofList (String.join filters).toList.dropLast

/-- The query for the logs of a container, on one host or on all. -/
def logQuery (labelFilters containerName : String) : Option String → String
  | some hostName =>
    "\x7b" ++ labelFilters ++ ",container=\"" ++ containerName ++ "\",hostname=~\"" ++ hostName ++
      ".*\"\x7d"
  | none => "\x7b" ++ labelFilters ++ ",container=\"" ++ containerName ++ "\"\x7d"

structure LokiClient where
  since : ℕ
  direction : LogDirection
  limit : ℕ
  deriving DecidableEq, Repr

/-- The poller of a client for a query. -/
def LokiClient.poller (client : LokiClient) (query : String) : LokiPoll :=
  ⟨query, client.limit, client.direction, client.since, 0⟩

/-- The logs of a container that a label selector selects; `none` is a panic, and the fuel bounds
the number of polls. -/
def LokiClient.fetchAndDumpLogs (client : LokiClient) (labelSelector containerName : String)
    (hostName : Option String) (loki : ℕ → LokiRequest → Except LokiError LokiResponse)
    (fuel : ℕ) : Option (Option LogDump) :=
  (labelFilters labelSelector).map fun filters ↦
    pollLoop loki fuel (client.poller (logQuery filters containerName hostName)) false

/-! ## What Loki has and how it answers -/

/-- An entry of a stream.  The position tells entries of a stream apart that are otherwise equal,
and times are small enough for the next start to be a `u128`. -/
structure LogEntry where
  stream : ℕ
  position : ℕ
  timestamp : ℕ
  line : String
  line_ne : line ≠ ""
  timestamp_lt : timestamp + pollGap < Nat.pow 2 128
  deriving DecidableEq

/-- A finite set of entries, listed in the order of their times, and the labels of the streams. -/
structure LokiContent where
  metadata : ℕ → StreamMetaData
  entries : List LogEntry
  ascending : entries.Pairwise fun left right ↦ left.timestamp ≤ right.timestamp
  nodup : entries.Nodup

/-- The entries from a start time on. -/
def LokiContent.matching (content : LokiContent) (start : ℕ) : List LogEntry :=
  content.entries.filter fun entry ↦ start ≤ entry.timestamp

theorem LokiContent.le_of_mem_matching {content : LokiContent} {start : ℕ} {entry : LogEntry}
    (h : entry ∈ content.matching start) : start ≤ entry.timestamp := by
  simpa using (List.mem_filter.mp h).2

/-- The entries of one stream in an answer. -/
structure StreamSlice where
  stream : ℕ
  entries : List LogEntry

/-- The entries of an answer, stream by stream. -/
def answerEntries (answer : List StreamSlice) : List LogEntry :=
  answer.flatMap StreamSlice.entries

/-- The answer has the earliest entries from the start on, as many as the limit allows, grouped by
stream, ascending within a stream, the streams in any order. -/
structure Answers (content : LokiContent) (limit start : ℕ) (answer : List StreamSlice) : Prop where
  slice_ne : ∀ slice ∈ answer, slice.entries ≠ []
  slice_stream : ∀ slice ∈ answer, ∀ entry ∈ slice.entries, entry.stream = slice.stream
  slice_ascending : ∀ slice ∈ answer,
    slice.entries.Pairwise fun left right ↦ left.timestamp ≤ right.timestamp
  streams_nodup : (answer.map StreamSlice.stream).Nodup
  nodup : (answerEntries answer).Nodup
  matching : ∀ entry ∈ answerEntries answer, entry ∈ content.matching start
  length : (answerEntries answer).length = min limit (content.matching start).length
  earliest : ∀ entry ∈ answerEntries answer, ∀ other ∈ content.matching start,
    other ∉ answerEntries answer → entry.timestamp ≤ other.timestamp

/-- A slice as a stream of the response. -/
def StreamSlice.content (metadata : ℕ → StreamMetaData) (slice : StreamSlice) : StreamContent where
  streamMetadata := metadata slice.stream
  values := slice.entries.map fun entry ↦ [entry.timestamp.repr, entry.line]

/-- Loki answers the requests in the order in which they are made; the same request may be answered
in another order of the streams, or with other entries of the same time, when it is made again. -/
structure Loki (content : LokiContent) where
  answer : ℕ → LokiRequest → List StreamSlice
  answers : ∀ index request, Answers content request.limit request.start (answer index request)

namespace Loki

variable {content : LokiContent}

def respond (loki : Loki content) (index : ℕ) (request : LokiRequest) :
    Except LokiError LokiResponse :=
  .ok ⟨"success", (loki.answer index request).map (StreamSlice.content content.metadata)⟩

/-- Loki after its first answer. -/
def tail (loki : Loki content) : Loki content where
  answer := fun index ↦ loki.answer (index + 1)
  answers := fun index ↦ loki.answers (index + 1)

/-- The entries of the answers to a series of requests. -/
def entriesOf (loki : Loki content) : List LokiRequest → List LogEntry
  | [] => []
  | request :: rest => answerEntries (loki.answer 0 request) ++ loki.tail.entriesOf rest

end Loki

/-- However Loki answers, the loop ends, has written the lines of the answers, and every entry from
the start on was in one of them exactly once. -/
def DumpsOnce (content : LokiContent) (poller : LokiPoll) : Prop :=
  ∀ loki : Loki content, ∃ fuel dump, pollLoop loki.respond fuel poller false = some dump ∧
    dump.result = .ok () ∧
    dump.lines = (loki.entriesOf dump.requests).map (fun entry ↦ trimEnd entry.line) ∧
    ∀ entry ∈ content.matching poller.since, (loki.entriesOf dump.requests).count entry = 1

/-! ## Where the dump is right -/

/-- An entry of a page that no later entry of the page shares the stream with. -/
def LastOfStream (page : List LogEntry) (last : LogEntry) : Prop :=
  last ∈ page ∧ ∀ entry ∈ page, entry.stream = last.stream → entry.timestamp ≤ last.timestamp

instance (page : List LogEntry) (last : LogEntry) : Decidable (LastOfStream page last) :=
  inferInstanceAs (Decidable (_ ∧ _))

/-- The entries are cut into pages.  The last entry of every stream on a page is not at time zero,
less than a millisecond before every other entry of the page, and at least a millisecond before
everything after the page. -/
def PagesSeparated (limit : ℕ) (entries : List LogEntry) : Prop :=
  ∀ index last, LastOfStream ((entries.drop (index * limit)).take limit) last →
    0 < last.timestamp ∧
    (∀ entry ∈ (entries.drop (index * limit)).take limit,
      entry.timestamp < last.timestamp + pollGap) ∧
    ∀ entry ∈ entries.drop ((index + 1) * limit), last.timestamp + pollGap ≤ entry.timestamp

/-! ## One poll -/

theorem parseSinceTime_repr {time : ℕ} (h : time < Nat.pow 2 128) :
    parseSinceTime time.repr = some time := by
  have hdigits := all_isDigit_repr time
  have hvalue := digitsValue_repr time
  have hempty : time.repr.toList.isEmpty = false := by
    rw [Nat.toList_repr]
    simp
  unfold parseSinceTime
  split
  next rest htext =>
    rw [htext] at hdigits
    simp [Char.isDigit] at hdigits
  next =>
    simp only [hdigits, hvalue, hempty, Bool.not_true, Bool.or_self, Bool.false_eq_true, if_false,
      if_pos h]

/-- The time of the last entry of the last stream of an answer. -/
def lastTime (answer : List StreamSlice) : ℕ :=
  ((answer.getLast?.bind fun slice ↦ slice.entries.getLast?).map LogEntry.timestamp).getD 0

theorem lastTime_nil : lastTime [] = 0 := rfl

theorem ne_nil_of_lastTime {answer : List StreamSlice} (h : lastTime answer ≠ 0) : answer ≠ [] := by
  intro hnil
  rw [hnil] at h
  exact h lastTime_nil

theorem getLastStreamUnixTime_eq (metadata : ℕ → StreamMetaData) (answer : List StreamSlice) :
    LokiResponse.getLastStreamUnixTime ⟨"success", answer.map (StreamSlice.content metadata)⟩ =
      lastTime answer := by
  unfold LokiResponse.getLastStreamUnixTime lastTime
  rw [List.getLast?_map]
  cases answer.getLast? with
  | none => rfl
  | some slice =>
    simp only [Option.map_some, Option.bind_some, StreamSlice.content, List.getLast?_map]
    cases slice.entries.getLast? with
    | none => decide
    | some last =>
      have hbound : last.timestamp < Nat.pow 2 128 :=
        Nat.lt_of_le_of_lt (Nat.le_add_right _ _) last.timestamp_lt
      simp only [Option.map_some, Option.getD_some, List.head?_cons, parseSinceTime_repr hbound]

theorem logs_eq (metadata : ℕ → StreamMetaData) (answer : List StreamSlice) :
    LokiResponse.logs ⟨"success", answer.map (StreamSlice.content metadata)⟩ =
      (answerEntries answer).map LogEntry.line := by
  unfold LokiResponse.logs answerEntries
  rw [List.flatMap_map, List.map_flatMap]
  congr 1
  funext slice
  rw [StreamSlice.content, List.map_map]
  apply List.filter_eq_self.mpr
  intro line hline
  obtain ⟨entry, _, rfl⟩ := List.mem_map.mp hline
  simpa using entry.line_ne

section Loop

variable {content : LokiContent} {loki : Loki content} {poller : LokiPoll}

/-- An answer without a last time ends the polling, any other answer is returned. -/
theorem pollNext_respond (index : ℕ) :
    poller.pollNext (loki.respond index) =
      if lastTime (loki.answer index poller.request) = 0 then (.ok none, poller)
      else (.ok (some ((answerEntries (loki.answer index poller.request)).map LogEntry.line)),
        { poller with since := lastTime (loki.answer index poller.request) + pollGap }) := by
  simp only [LokiPoll.pollNext, Loki.respond, getLastStreamUnixTime_eq, logs_eq, true_and,
    List.isEmpty_iff, List.map_eq_nil_iff]
  split
  next hnil => rw [hnil, lastTime_nil, if_pos rfl]
  next => rfl

/-- A server that answers leaves no use for the knowledge whether something was written. -/
theorem pollLoop_isWritten (fuel : ℕ) (isWritten : Bool) :
    pollLoop loki.respond fuel poller isWritten = pollLoop loki.respond fuel poller false := by
  cases fuel with
  | zero => rfl
  | succ fuel =>
    simp only [pollLoop, pollNext_respond]
    split
    · rfl
    · rfl
    next error hpoll =>
      split at hpoll
      · cases hpoll
      · cases hpoll

theorem pollLoop_of_lastTime_eq (fuel : ℕ)
    (h : lastTime (loki.answer 0 poller.request) = 0) :
    pollLoop loki.respond (fuel + 1) poller false = some ⟨.ok (), [], false, []⟩ := by
  simp only [pollLoop, pollNext_respond, if_pos h]

/-- The poller after an answer. -/
def LokiPoll.next (poller : LokiPoll) (answer : List StreamSlice) : LokiPoll :=
  { poller with since := lastTime answer + pollGap }

theorem pollLoop_of_lastTime_ne (fuel : ℕ)
    (h : lastTime (loki.answer 0 poller.request) ≠ 0) :
    pollLoop loki.respond (fuel + 1) poller false =
      (pollLoop loki.tail.respond fuel (poller.next (loki.answer 0 poller.request)) false).map
        (LogDump.cons poller.request ((answerEntries (loki.answer 0 poller.request)).map
          fun entry ↦ trimEnd entry.line)) := by
  simp only [pollLoop, pollNext_respond, if_neg h, List.map_map]
  have hwritten := @pollLoop_isWritten _ loki.tail (poller.next (loki.answer 0 poller.request))
    fuel true
  rw [← hwritten]
  rfl

/-- A loop that ended stopped at once or went on after its first answer. -/
theorem pollLoop_cases {fuel : ℕ} {dump : LogDump}
    (h : pollLoop loki.respond fuel poller false = some dump) :
    (lastTime (loki.answer 0 poller.request) = 0 ∧ dump = ⟨.ok (), [], false, []⟩) ∨
      (lastTime (loki.answer 0 poller.request) ≠ 0 ∧ ∃ dump', ∃ fuel' < fuel,
        pollLoop loki.tail.respond fuel' (poller.next (loki.answer 0 poller.request)) false =
          some dump' ∧
        dump = dump'.cons poller.request ((answerEntries (loki.answer 0 poller.request)).map
          fun entry ↦ trimEnd entry.line)) := by
  cases fuel with
  | zero => exact absurd h (by simp [pollLoop])
  | succ fuel =>
    by_cases hlast : lastTime (loki.answer 0 poller.request) = 0
    · rw [pollLoop_of_lastTime_eq fuel hlast] at h
      exact .inl ⟨hlast, (Option.some.inj h).symm⟩
    · rw [pollLoop_of_lastTime_ne fuel hlast] at h
      obtain ⟨dump', hdump', hdump⟩ := Option.map_eq_some_iff.mp h
      exact .inr ⟨hlast, dump', fuel, Nat.lt_succ_self _, hdump', hdump.symm⟩

end Loop

/-! ## One answer -/

namespace Answers

variable {content : LokiContent} {limit start : ℕ} {answer : List StreamSlice}

theorem eq_nil (h : Answers content limit start answer) (hempty : answerEntries answer = []) :
    answer = [] := by
  cases answer with
  | nil => rfl
  | cons slice rest =>
    refine absurd ?_ (h.slice_ne slice List.mem_cons_self)
    exact (List.append_eq_nil_iff.mp hempty).1

/-- The last time of an answer is that of the last entry of some stream. -/
theorem exists_lastOfStream (h : Answers content limit start answer) (hne : answer ≠ []) :
    ∃ last, LastOfStream (answerEntries answer) last ∧ lastTime answer = last.timestamp := by
  have hslice := List.getLast?_eq_some_getLast hne
  have hmem := List.getLast_mem hne
  have hlast := List.getLast?_eq_some_getLast (h.slice_ne _ hmem)
  have hlastMem := List.getLast_mem (h.slice_ne _ hmem)
  refine ⟨(answer.getLast hne).entries.getLast (h.slice_ne _ hmem), ⟨?_, ?_⟩, ?_⟩
  · exact List.mem_flatMap.mpr ⟨_, hmem, hlastMem⟩
  · intro entry hentry hstream
    obtain ⟨slice, hslice, hentrySlice⟩ := List.mem_flatMap.mp hentry
    have hsame : slice = answer.getLast hne := by
      apply List.inj_on_of_nodup_map h.streams_nodup hslice hmem
      rw [← h.slice_stream slice hslice entry hentrySlice, hstream]
      exact h.slice_stream _ hmem _ hlastMem
    rw [hsame] at hentrySlice
    exact (h.slice_ascending _ hmem).rel_getLast_of_rel_getLast_getLast hentrySlice (Nat.le_refl _)
  · rw [lastTime, hslice, Option.bind_some, hlast]
    rfl

theorem start_le_lastTime (h : Answers content limit start answer) (hne : answer ≠ []) :
    start ≤ lastTime answer := by
  obtain ⟨last, hlast, htime⟩ := h.exists_lastOfStream hne
  rw [htime]
  exact LokiContent.le_of_mem_matching (h.matching last hlast.1)

/-- Where the earliest entries are before all the others, an answer has exactly these. -/
theorem perm_of_below (h : Answers content limit start answer) {page rest : List LogEntry}
    (hmatching : content.matching start = page ++ rest)
    (hlength : page.length = min limit (content.matching start).length)
    (hbelow : ∀ entry ∈ page, ∀ other ∈ rest, entry.timestamp < other.timestamp) :
    (answerEntries answer).Perm page := by
  have hnodup : (page ++ rest).Nodup := hmatching ▸ content.nodup.filter _
  have hsubset : answerEntries answer ⊆ page := by
    intro entry hentry
    by_contra hnot
    -- As many entries as the page has, one of them not of the page: one of the page is missing.
    have hmissing : ∃ other ∈ page, other ∉ answerEntries answer := by
      by_contra hall
      push Not at hall
      have hsubperm : (entry :: page).Subperm (answerEntries answer) := by
        apply List.subperm_of_subset
        · exact List.nodup_cons.mpr ⟨hnot, (List.nodup_append.mp hnodup).1⟩
        · exact List.cons_subset.mpr ⟨hentry, hall⟩
      have hle := hsubperm.length_le
      rw [List.length_cons, h.length, hlength] at hle
      omega
    obtain ⟨other, hother, habsent⟩ := hmissing
    have hrest : entry ∈ rest := by
      have hmem := h.matching entry hentry
      rw [hmatching, List.mem_append] at hmem
      exact hmem.resolve_left hnot
    have hearliest := h.earliest entry hentry other
      (hmatching ▸ List.mem_append_left _ hother) habsent
    exact absurd (hbelow other hother entry hrest) (Nat.not_lt.mpr hearliest)
  have hsubperm := List.subperm_of_subset h.nodup hsubset
  exact hsubperm.perm_of_length_le (Nat.le_of_eq (hlength.trans h.length.symm))

end Answers

/-! ## Pages of the entries -/

namespace PagesSeparated

variable {limit : ℕ} {entries : List LogEntry}

/-- The condition on the first page, and on those after it. -/
theorem iff_first : PagesSeparated limit entries ↔
    (∀ last, LastOfStream (entries.take limit) last → 0 < last.timestamp ∧
      (∀ entry ∈ entries.take limit, entry.timestamp < last.timestamp + pollGap) ∧
      ∀ entry ∈ entries.drop limit, last.timestamp + pollGap ≤ entry.timestamp) ∧
    PagesSeparated limit (entries.drop limit) := by
  have hindex : ∀ count, (entries.drop limit).drop (count * limit) =
      entries.drop ((count + 1) * limit) := by
    intro count
    rw [List.drop_drop, Nat.add_mul, Nat.one_mul, Nat.add_comm]
  constructor
  · intro h
    refine ⟨fun last ↦ ?_, fun index last ↦ ?_⟩
    · have hfirst := h 0 last
      rwa [Nat.zero_mul, Nat.zero_add, Nat.one_mul, List.drop_zero] at hfirst
    · rw [hindex, hindex]
      exact h (index + 1) last
  · intro h index last
    cases index with
    | zero =>
      rw [Nat.zero_mul, Nat.zero_add, Nat.one_mul, List.drop_zero]
      exact h.1 last
    | succ index =>
      have hnext := h.2 index last
      rwa [hindex, hindex] at hnext

end PagesSeparated

section Content

variable {content : LokiContent} {limit start : ℕ}

theorem LokiContent.matching_ascending :
    (content.matching start).Pairwise fun left right ↦ left.timestamp ≤ right.timestamp :=
  content.ascending.filter _

theorem LokiContent.matching_nodup : (content.matching start).Nodup :=
  content.nodup.filter _

/-- A later start leaves a part of what there is from an earlier one on. -/
theorem LokiContent.matching_filter {later : ℕ} (h : start ≤ later) :
    content.matching later =
      (content.matching start).filter fun entry ↦ later ≤ entry.timestamp := by
  unfold LokiContent.matching
  rw [List.filter_filter]
  apply List.filter_congr
  intro entry _
  rw [← Bool.decide_and, decide_eq_decide]
  omega

/-- The last entry of a page is the last of its stream, and no entry is after it. -/
theorem exists_lastOfStream_take (hne : (content.matching start).take limit ≠ []) :
    ∃ last, LastOfStream ((content.matching start).take limit) last ∧
      ∀ entry ∈ (content.matching start).take limit, entry.timestamp ≤ last.timestamp := by
  have hascending := @LokiContent.matching_ascending content start
  have hle : ∀ entry ∈ (content.matching start).take limit,
      entry.timestamp ≤ (((content.matching start).take limit).getLast hne).timestamp := by
    intro entry hentry
    exact (hascending.sublist (List.take_sublist _ _)).rel_getLast_of_rel_getLast_getLast hentry
      (Nat.le_refl _)
  exact ⟨_, ⟨List.getLast_mem hne, fun entry hentry _ ↦ hle entry hentry⟩, hle⟩

/-- Where the pages are separated, the next poll starts with the next page. -/
theorem matching_next {last : LogEntry} (hstart : start ≤ last.timestamp)
    (hpage : ∀ entry ∈ (content.matching start).take limit,
      entry.timestamp < last.timestamp + pollGap)
    (hrest : ∀ entry ∈ (content.matching start).drop limit,
      last.timestamp + pollGap ≤ entry.timestamp) :
    content.matching (last.timestamp + pollGap) = (content.matching start).drop limit := by
  rw [LokiContent.matching_filter (Nat.le_add_right_of_le hstart)]
  nth_rewrite 1 [← List.take_append_drop limit (content.matching start)]
  have hnone : ((content.matching start).take limit).filter
      (fun entry ↦ decide (last.timestamp + pollGap ≤ entry.timestamp)) = [] := by
    apply List.filter_eq_nil_iff.mpr
    intro entry hentry
    simpa using hpage entry hentry
  have hall : ((content.matching start).drop limit).filter
      (fun entry ↦ decide (last.timestamp + pollGap ≤ entry.timestamp)) =
        (content.matching start).drop limit := by
    apply List.filter_eq_self.mpr
    intro entry hentry
    simpa using hrest entry hentry
  rw [List.filter_append, hnone, hall, List.nil_append]

end Content

/-! ## Whole dumps -/

section Dump

variable {content : LokiContent} {loki : Loki content} {poller : LokiPoll} {fuel : ℕ}
  {dump : LogDump}

@[simp]
theorem LokiPoll.request_start : poller.request.start = poller.since := by
  simp [LokiPoll.request]

theorem Loki.answers_request :
    Answers content poller.limit poller.since (loki.answer 0 poller.request) := by
  have h := loki.answers 0 poller.request
  rwa [LokiPoll.request_start] at h

/-- A dump that ended returned no error and wrote the lines of the answers. -/
theorem pollLoop_lines (h : pollLoop loki.respond fuel poller false = some dump) :
    dump.result = .ok () ∧
      dump.lines = (loki.entriesOf dump.requests).map fun entry ↦ trimEnd entry.line := by
  induction fuel using Nat.strongRecOn generalizing loki poller dump with
  | ind fuel ih =>
    rcases pollLoop_cases h with ⟨_, rfl⟩ | ⟨_, dump', fuel', hfuel, hdump', rfl⟩
    · exact ⟨rfl, rfl⟩
    · obtain ⟨hresult, hlines⟩ := ih fuel' hfuel hdump'
      refine ⟨hresult, ?_⟩
      rw [LogDump.cons, Loki.entriesOf, List.map_append, ← hlines]

/-- What a dump writes is not older than its start. -/
theorem since_le_of_mem_entriesOf (h : pollLoop loki.respond fuel poller false = some dump)
    {entry : LogEntry} (hentry : entry ∈ loki.entriesOf dump.requests) :
    poller.since ≤ entry.timestamp := by
  induction fuel using Nat.strongRecOn generalizing loki poller dump with
  | ind fuel ih =>
    rcases pollLoop_cases h with ⟨_, rfl⟩ | ⟨hlast, dump', fuel', hfuel, hdump', rfl⟩
    · exact absurd hentry List.not_mem_nil
    · rw [LogDump.cons, Loki.entriesOf, List.mem_append] at hentry
      rcases hentry with hfirst | hlater
      · exact LokiContent.le_of_mem_matching (Loki.answers_request.matching entry hfirst)
      · calc
          poller.since ≤ lastTime (loki.answer 0 poller.request) :=
            Loki.answers_request.start_le_lastTime (ne_nil_of_lastTime hlast)
          _ ≤ lastTime (loki.answer 0 poller.request) + pollGap := Nat.le_add_right _ _
          _ ≤ entry.timestamp := ih fuel' hfuel hdump' hlater

/-- Where the pages are separated, an answer is the first page, and the next poll starts with the
second. -/
theorem Answers.first_page {limit start : ℕ} {answer : List StreamSlice}
    (hanswers : Answers content limit start answer) (hlimit : 1 ≤ limit)
    (hempty : content.matching start ≠ [])
    (h : PagesSeparated limit (content.matching start)) :
    (answerEntries answer).Perm ((content.matching start).take limit) ∧ lastTime answer ≠ 0 ∧
      content.matching (lastTime answer + pollGap) = (content.matching start).drop limit := by
  have hfirst := (PagesSeparated.iff_first.mp h).1
  have hpage : (content.matching start).take limit ≠ [] := by
    rw [ne_eq, List.take_eq_nil_iff, not_or]
    exact ⟨by omega, hempty⟩
  have hperm : (answerEntries answer).Perm ((content.matching start).take limit) := by
    obtain ⟨newest, hnewest, hle⟩ := exists_lastOfStream_take hpage
    apply hanswers.perm_of_below (List.take_append_drop _ _).symm List.length_take
    intro entry hentry other hother
    have hgap := (hfirst newest hnewest).2.2 other hother
    have hentry := hle entry hentry
    unfold pollGap at hgap
    omega
  have hanswer : answer ≠ [] := by
    intro hnil
    rw [hnil] at hperm
    exact hpage hperm.nil_eq.symm
  obtain ⟨last, hlast, htime⟩ := hanswers.exists_lastOfStream hanswer
  have hlastPage : LastOfStream ((content.matching start).take limit) last :=
    ⟨hperm.mem_iff.mp hlast.1, fun entry hentry ↦ hlast.2 entry (hperm.mem_iff.mpr hentry)⟩
  obtain ⟨hpositive, hbelow, habove⟩ := hfirst last hlastPage
  have hstart := hanswers.start_le_lastTime hanswer
  rw [htime] at hstart ⊢
  exact ⟨hperm, Nat.ne_of_gt hpositive, matching_next hstart hbelow habove⟩

/-- Where the pages are separated, every answer is the next page. -/
theorem pollLoop_separated (hlimit : 1 ≤ poller.limit)
    (h : PagesSeparated poller.limit (content.matching poller.since)) :
    ∃ fuel dump, pollLoop loki.respond fuel poller false = some dump ∧
      (loki.entriesOf dump.requests).Perm (content.matching poller.since) := by
  generalize hlength : (content.matching poller.since).length = length
  induction length using Nat.strongRecOn generalizing loki poller with
  | ind length ih =>
    have hanswers := @Loki.answers_request _ loki poller
    by_cases hempty : content.matching poller.since = []
    · have hnil : loki.answer 0 poller.request = [] := by
        apply hanswers.eq_nil
        rw [← List.length_eq_zero_iff, hanswers.length, hempty, List.length_nil, Nat.min_zero]
      refine ⟨1, _, pollLoop_of_lastTime_eq 0 (by rw [hnil, lastTime_nil]), ?_⟩
      rw [hempty]
      exact List.Perm.nil
    · obtain ⟨hperm, hne, hnext⟩ := hanswers.first_page hlimit hempty h
      have hshorter : ((content.matching poller.since).drop poller.limit).length < length := by
        have := List.length_pos_iff.mpr hempty
        rw [List.length_drop]
        omega
      have hrest := (PagesSeparated.iff_first.mp h).2
      rw [← hnext] at hrest
      obtain ⟨fuel, dump, hdump, hwritten⟩ := @ih _ hshorter loki.tail
        (poller.next (loki.answer 0 poller.request)) hlimit hrest (congrArg List.length hnext)
      have hrun := pollLoop_of_lastTime_ne fuel hne
      rw [hdump, Option.map_some] at hrun
      rw [LokiPoll.next, hnext] at hwritten
      have happend := hperm.append hwritten
      rw [List.take_append_drop] at happend
      exact ⟨fuel + 1, _, hrun, happend⟩

end Dump

/-! ## Answers with a stream of choice at the end -/

/-- The streams of a page, with the chosen one at the end. -/
def pageStreams (page : List LogEntry) (chosen : ℕ) : List ℕ :=
  (page.map LogEntry.stream).dedup.filter (fun stream ↦ stream ≠ chosen) ++
    if chosen ∈ page.map LogEntry.stream then [chosen] else []

/-- A page, grouped by stream. -/
def pageAnswer (page : List LogEntry) (chosen : ℕ) : List StreamSlice :=
  (pageStreams page chosen).map fun stream ↦
    ⟨stream, page.filter fun entry ↦ entry.stream = stream⟩

section PageAnswer

variable {page : List LogEntry} {chosen : ℕ}

theorem mem_pageStreams {stream : ℕ} :
    stream ∈ pageStreams page chosen ↔ ∃ entry ∈ page, entry.stream = stream := by
  unfold pageStreams
  by_cases hsame : stream = chosen
  · subst hsame
    simp
  · split <;> simp [hsame]

theorem pageStreams_nodup : (pageStreams page chosen).Nodup := by
  unfold pageStreams
  split
  · refine List.nodup_append.mpr ⟨(List.nodup_dedup _).filter _, List.nodup_singleton _, ?_⟩
    intro stream hstream other hother
    rw [List.mem_singleton.mp hother]
    simpa using (List.mem_filter.mp hstream).2
  · rw [List.append_nil]
    exact (List.nodup_dedup _).filter _

theorem mem_answerEntries_pageAnswer {entry : LogEntry} :
    entry ∈ answerEntries (pageAnswer page chosen) ↔ entry ∈ page := by
  unfold answerEntries pageAnswer
  rw [List.flatMap_map, List.mem_flatMap]
  constructor
  · rintro ⟨stream, _, hentry⟩
    exact (List.mem_filter.mp hentry).1
  · intro hentry
    refine ⟨entry.stream, mem_pageStreams.mpr ⟨entry, hentry, rfl⟩, ?_⟩
    simpa using hentry

theorem answerEntries_pageAnswer_nodup (h : page.Nodup) :
    (answerEntries (pageAnswer page chosen)).Nodup := by
  unfold answerEntries pageAnswer
  rw [List.flatMap_map, List.nodup_flatMap]
  refine ⟨fun stream _ ↦ h.filter _, ?_⟩
  apply pageStreams_nodup.imp
  intro left right hne entry hleft hright
  have hstream : entry.stream = left := by simpa using (List.mem_filter.mp hleft).2
  have hstream' : entry.stream = right := by simpa using (List.mem_filter.mp hright).2
  exact hne (hstream.symm.trans hstream')

/-- The chosen stream comes last, and its last entry gives the time. -/
theorem lastTime_pageAnswer {last : LogEntry}
    (hascending : page.Pairwise fun left right ↦ left.timestamp ≤ right.timestamp)
    (h : LastOfStream page last) : lastTime (pageAnswer page last.stream) = last.timestamp := by
  have hchosen : last.stream ∈ page.map LogEntry.stream := List.mem_map_of_mem h.1
  have hmem : last ∈ page.filter fun entry ↦ entry.stream = last.stream := by
    simpa using h.1
  have hne := List.ne_nil_of_mem hmem
  have hslice : (pageAnswer page last.stream).getLast? =
      some ⟨last.stream, page.filter fun entry ↦ entry.stream = last.stream⟩ := by
    rw [pageAnswer, pageStreams, if_pos hchosen, List.map_append, List.map_singleton,
      List.getLast?_concat]
  rw [lastTime, hslice, Option.bind_some, List.getLast?_eq_some_getLast hne, Option.map_some,
    Option.getD_some]
  apply Nat.le_antisymm
  · have hlast := List.mem_filter.mp (List.getLast_mem hne)
    exact h.2 _ hlast.1 (by simpa using hlast.2)
  · exact (hascending.filter _).rel_getLast_of_rel_getLast_getLast hmem (Nat.le_refl _)

end PageAnswer

theorem LokiContent.answers_pageAnswer (content : LokiContent) (limit start chosen : ℕ) :
    Answers content limit start (pageAnswer ((content.matching start).take limit) chosen) where
  slice_ne := by
    intro slice hslice
    obtain ⟨stream, hstream, rfl⟩ := List.mem_map.mp hslice
    obtain ⟨entry, hentry, hsame⟩ := mem_pageStreams.mp hstream
    apply List.ne_nil_of_mem (a := entry)
    simpa [hsame] using hentry
  slice_stream := by
    intro slice hslice entry hentry
    obtain ⟨stream, hstream, rfl⟩ := List.mem_map.mp hslice
    simpa using (List.mem_filter.mp hentry).2
  slice_ascending := by
    intro slice hslice
    obtain ⟨stream, hstream, rfl⟩ := List.mem_map.mp hslice
    exact (LokiContent.matching_ascending.sublist (List.take_sublist _ _)).filter _
  streams_nodup := by
    rw [pageAnswer, List.map_map]
    simpa [Function.comp_def] using pageStreams_nodup
  nodup := answerEntries_pageAnswer_nodup
    (LokiContent.matching_nodup.sublist (List.take_sublist _ _))
  matching := fun entry hentry ↦
    List.mem_of_mem_take (mem_answerEntries_pageAnswer.mp hentry)
  length := by
    have hpage := (@LokiContent.matching_nodup content start).sublist (List.take_sublist limit _)
    have hperm := (List.perm_ext_iff_of_nodup (answerEntries_pageAnswer_nodup hpage) hpage).mpr
      fun entry ↦ @mem_answerEntries_pageAnswer _ chosen entry
    rw [hperm.length_eq, List.length_take]
  earliest := by
    intro entry hentry other hother hnot
    rw [mem_answerEntries_pageAnswer] at hentry hnot
    rw [← List.take_append_drop limit (content.matching start), List.mem_append] at hother
    exact LokiContent.matching_ascending.rel_of_mem_take_of_mem_drop hentry
      (hother.resolve_left hnot)

namespace Loki

variable {content : LokiContent}

/-- Loki that answers every request with the first page. -/
def firstPages (content : LokiContent) : Loki content where
  answer := fun _ request ↦ pageAnswer ((content.matching request.start).take request.limit) 0
  answers := fun _ request ↦ content.answers_pageAnswer request.limit request.start 0

/-- Loki that answers the first request with the first page, the chosen stream last. -/
def choose (chosen : ℕ) (loki : Loki content) : Loki content where
  answer
    | 0, request =>
      pageAnswer ((content.matching request.start).take request.limit) chosen
    | index + 1, request => loki.answer index request
  answers
    | 0, request => content.answers_pageAnswer request.limit request.start chosen
    | index + 1, request => loki.answers index request

theorem choose_tail (chosen : ℕ) (loki : Loki content) : (loki.choose chosen).tail = loki := rfl

end Loki

section Necessary

variable {content : LokiContent} {poller : LokiPoll} {last : LogEntry}

/-- A right dump goes on after the last entry of any stream of the first page. -/
theorem DumpsOnce.after_last (h : DumpsOnce content poller)
    (hlast : LastOfStream ((content.matching poller.since).take poller.limit) last)
    (loki : Loki content) :
    0 < last.timestamp ∧ ∃ fuel dump,
      pollLoop loki.respond fuel { poller with since := last.timestamp + pollGap } false =
        some dump ∧
      (∀ entry ∈ (content.matching poller.since).take poller.limit,
        entry ∉ loki.entriesOf dump.requests) ∧
      ∀ entry ∈ (content.matching poller.since).drop poller.limit,
        (loki.entriesOf dump.requests).count entry = 1 := by
  obtain ⟨fuel, dump, hrun, -, -, hcount⟩ := h (loki.choose last.stream)
  have hanswer : (loki.choose last.stream).answer 0 poller.request =
      pageAnswer ((content.matching poller.since).take poller.limit) last.stream := by
    rw [← LokiPoll.request_start]
    rfl
  have htime := lastTime_pageAnswer
    (LokiContent.matching_ascending.sublist (List.take_sublist _ _)) hlast
  have hcases := pollLoop_cases hrun
  rw [hanswer, htime, Loki.choose_tail] at hcases
  rcases hcases with ⟨_, rfl⟩ | ⟨hne, dump', fuel', _, hrun', rfl⟩
  · have hone := hcount last (List.mem_of_mem_take hlast.1)
    exact absurd hone (by simp [Loki.entriesOf])
  · rw [LokiPoll.next, htime] at hrun'
    have hsplit : ∀ entry ∈ content.matching poller.since,
        (answerEntries (pageAnswer ((content.matching poller.since).take poller.limit)
          last.stream)).count entry + (loki.entriesOf dump'.requests).count entry = 1 := by
      intro entry hentry
      have hone := hcount entry hentry
      rwa [LogDump.cons, Loki.entriesOf, hanswer, Loki.choose_tail, List.count_append] at hone
    refine ⟨Nat.pos_of_ne_zero hne, fuel', dump', hrun', ?_, ?_⟩
    · intro entry hentry
      have hone := hsplit entry (List.mem_of_mem_take hentry)
      have hfirst := List.count_pos_iff.mpr
        ((@mem_answerEntries_pageAnswer _ last.stream entry).mpr hentry)
      rw [← List.count_eq_zero]
      omega
    · intro entry hentry
      have hone := hsplit entry (List.mem_of_mem_drop hentry)
      have hnodup := @LokiContent.matching_nodup content poller.since
      rw [← List.take_append_drop poller.limit (content.matching poller.since)] at hnodup
      have hnot : entry ∉ (content.matching poller.since).take poller.limit := fun hpage ↦
        (List.nodup_append.mp hnodup).2.2 entry hpage entry hentry rfl
      have hfirst := List.count_eq_zero.mpr
        (mt (@mem_answerEntries_pageAnswer _ last.stream entry).mp hnot)
      omega

/-- In a right dump nothing after the first page is skipped. -/
theorem DumpsOnce.gap_le (h : DumpsOnce content poller)
    (hlast : LastOfStream ((content.matching poller.since).take poller.limit) last)
    {entry : LogEntry} (hentry : entry ∈ (content.matching poller.since).drop poller.limit) :
    last.timestamp + pollGap ≤ entry.timestamp := by
  obtain ⟨_, fuel, dump, hrun, _, hcount⟩ := h.after_last hlast (Loki.firstPages content)
  have hmem : entry ∈ (Loki.firstPages content).entriesOf dump.requests := by
    rw [← List.count_pos_iff, hcount entry hentry]
    exact Nat.one_pos
  exact since_le_of_mem_entriesOf hrun hmem

/-- In a right dump nothing of the first page is written again. -/
theorem DumpsOnce.lt_gap (h : DumpsOnce content poller)
    (hlast : LastOfStream ((content.matching poller.since).take poller.limit) last)
    {entry : LogEntry} (hentry : entry ∈ (content.matching poller.since).take poller.limit) :
    entry.timestamp < last.timestamp + pollGap := by
  by_contra hnot
  obtain ⟨_, fuel, dump, hrun, habsent, _⟩ := h.after_last hlast (Loki.firstPages content)
  refine habsent entry hentry ?_
  -- The entry is among the first from the new start on, so the next answer has it again.
  have hstart := LokiContent.le_of_mem_matching (List.mem_of_mem_take hlast.1)
  have hagain : entry ∈ (content.matching (last.timestamp + pollGap)).take poller.limit := by
    rw [LokiContent.matching_filter (Nat.le_add_right_of_le hstart),
      ← List.take_append_drop poller.limit (content.matching poller.since), List.filter_append,
      List.take_append, List.take_of_length_le]
    · apply List.mem_append_left
      exact List.mem_filter.mpr ⟨hentry, by simpa using hnot⟩
    · exact Nat.le_trans (List.length_filter_le _ _) (List.length_take_le _ _)
  have hanswer : entry ∈ answerEntries ((Loki.firstPages content).answer 0
      (LokiPoll.request { poller with since := last.timestamp + pollGap })) := by
    apply mem_answerEntries_pageAnswer.mpr
    rwa [LokiPoll.request_start]
  rcases pollLoop_cases hrun with ⟨hzero, _⟩ | ⟨_, dump', fuel', _, _, rfl⟩
  · have hne : (Loki.firstPages content).answer 0
        (LokiPoll.request { poller with since := last.timestamp + pollGap }) ≠ [] := by
      intro hnil
      rw [hnil] at hanswer
      exact absurd hanswer List.not_mem_nil
    have hle := Loki.answers_request.start_le_lastTime hne
    rw [hzero] at hle
    exact absurd hle (by simp [pollGap])
  · rw [LogDump.cons, Loki.entriesOf]
    exact List.mem_append_left _ hanswer

theorem DumpsOnce.next (h : DumpsOnce content poller)
    (hlast : LastOfStream ((content.matching poller.since).take poller.limit) last)
    (hmatching : content.matching (last.timestamp + pollGap) =
      (content.matching poller.since).drop poller.limit) :
    DumpsOnce content { poller with since := last.timestamp + pollGap } := by
  intro loki
  obtain ⟨_, fuel, dump, hrun, _, hcount⟩ := h.after_last hlast loki
  obtain ⟨hresult, hlines⟩ := pollLoop_lines hrun
  rw [← hmatching] at hcount
  exact ⟨fuel, dump, hrun, hresult, hlines, hcount⟩

theorem DumpsOnce.pagesSeparated (hlimit : 1 ≤ poller.limit) (h : DumpsOnce content poller) :
    PagesSeparated poller.limit (content.matching poller.since) := by
  generalize hlength : (content.matching poller.since).length = length
  induction length using Nat.strongRecOn generalizing poller with
  | ind length ih =>
    rw [PagesSeparated.iff_first]
    refine ⟨fun last hlast ↦ ⟨(h.after_last hlast (Loki.firstPages content)).1,
      fun entry ↦ h.lt_gap hlast, fun entry ↦ h.gap_le hlast⟩, ?_⟩
    by_cases hempty : content.matching poller.since = []
    · rw [hempty, List.drop_nil]
      intro index last hlast
      rw [List.drop_nil, List.take_nil] at hlast
      exact absurd hlast.1 List.not_mem_nil
    · have hpage : (content.matching poller.since).take poller.limit ≠ [] := by
        rw [ne_eq, List.take_eq_nil_iff, not_or]
        exact ⟨by omega, hempty⟩
      obtain ⟨last, hlast, -⟩ := exists_lastOfStream_take hpage
      have hstart := LokiContent.le_of_mem_matching (List.mem_of_mem_take hlast.1)
      have hnext := matching_next hstart (fun entry ↦ h.lt_gap hlast) fun entry ↦ h.gap_le hlast
      have hshorter : ((content.matching poller.since).drop poller.limit).length < length := by
        have := List.length_pos_iff.mpr hempty
        rw [List.length_drop]
        omega
      rw [← hnext] at hshorter ⊢
      exact @ih _ hshorter { poller with since := last.timestamp + pollGap } hlimit
        (h.next hlast hnext) rfl

end Necessary

/-- The dump writes every entry exactly once, however Loki orders the streams, if and only if the
entries are separated by the pages. -/
theorem fetchAndDumpLogs_once_iff (content : LokiContent) (client : LokiClient) (query : String)
    (hlimit : 1 ≤ client.limit) :
    DumpsOnce content (client.poller query) ↔
      PagesSeparated client.limit (content.matching client.since) := by
  constructor
  · exact DumpsOnce.pagesSeparated hlimit
  · intro h loki
    obtain ⟨fuel, dump, hrun, hperm⟩ := @pollLoop_separated _ loki (client.poller query) hlimit h
    obtain ⟨hresult, hlines⟩ := pollLoop_lines hrun
    refine ⟨fuel, dump, hrun, hresult, hlines, ?_⟩
    intro entry hentry
    rw [hperm.count_eq]
    exact List.count_eq_one_of_mem LokiContent.matching_nodup hentry

def firstLine : LogEntry := ⟨0, 0, 1, "first", by decide, by decide⟩

def secondLine (timestamp : ℕ) (h : timestamp + pollGap < Nat.pow 2 128) : LogEntry :=
  ⟨0, 1, timestamp, "second", by decide, h⟩

/-- The second line is a millisecond after the first. -/
def slowLines : LokiContent where
  metadata := fun _ ↦ ⟨"node-1", "io-engine-x", "io-engine"⟩
  entries := [firstLine, secondLine 1000001 (by decide)]
  ascending := by decide
  nodup := by decide

/-- The second line is a nanosecond after the first. -/
def fastLines : LokiContent where
  metadata := fun _ ↦ ⟨"node-1", "io-engine-x", "io-engine"⟩
  entries := [firstLine, secondLine 2 (by decide)]
  ascending := by decide
  nodup := by decide

/-- A client that asks for one line at a time. -/
def oneByOne : LokiClient := ⟨0, .forward, 1⟩

theorem fetchAndDumpLogs_once_slowLines :
    1 ≤ oneByOne.limit ∧ DumpsOnce slowLines (oneByOne.poller "\x7b\x7d") := by
  refine ⟨by decide, (fetchAndDumpLogs_once_iff _ _ _ (by decide)).mpr ?_⟩
  have hmatching : slowLines.matching oneByOne.since =
    [firstLine, secondLine 1000001 (by decide)] := rfl
  rw [hmatching, PagesSeparated.iff_first, PagesSeparated.iff_first]
  refine ⟨?_, ?_, ?_⟩
  · rintro last ⟨hmem, -⟩
    obtain rfl := List.mem_singleton.mp hmem
    decide
  · rintro last ⟨hmem, -⟩
    obtain rfl := List.mem_singleton.mp hmem
    decide
  · intro index last hlast
    exact absurd hlast.1 (by simp [oneByOne])

/-- The second line is never written. -/
theorem fetchAndDumpLogs_skips_line :
    ¬DumpsOnce fastLines (oneByOne.poller "\x7b\x7d") ∧
      (pollLoop (Loki.firstPages fastLines).respond 2 (oneByOne.poller "\x7b\x7d") false).map
        LogDump.lines = some ["first"] := by
  constructor
  · intro h
    have hseparated := h.pagesSeparated (by decide)
    have hgap := (hseparated 0 firstLine (by decide)).2.2 (secondLine 2 (by decide)) (by decide)
    exact absurd hgap (by decide)
  · decide

end MayastorExtensions.Supportability
