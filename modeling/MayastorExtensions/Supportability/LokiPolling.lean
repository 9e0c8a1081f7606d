import MayastorExtensions.Library.Page
import MayastorExtensions.Supportability.LokiDump

/-!
# Polling comes to an end

The next poll starts after the time that is read from the last row of the last stream of an answer,
and a row that no time can be read from stops the polling.  So it is enough for a server never to
answer with an entry from before the start of the request: every page moves the start past the time
of an entry that was still to come, of which there are finitely many.
-/

namespace MayastorExtensions.Supportability

open Semver

/-! ## Servers -/

/-- The times of the entries that a server has, small enough for the next start to be a `u128`. -/
structure LogTimes where
  times : List ℕ
  times_lt : ∀ time ∈ times, time + pollGap < Nat.pow 2 128

/-- The times from a start on. -/
def LogTimes.remaining (content : LogTimes) (start : ℕ) : List ℕ :=
  content.times.filter fun time ↦ start ≤ time

/-- The time of a row, if it has one that can be read. -/
def rowTime (row : List String) : Option ℕ :=
  row.head?.bind parseSinceTime

/-- A server answers with entries from the start of the request on.  How it groups and orders them,
how many there are, rows without a time, streams without rows and failures are up to it. -/
structure LokiServer (content : LogTimes) where
  respond : ℕ → LokiRequest → Except LokiError LokiResponse
  from_start : ∀ index request response, respond index request = .ok response →
    ∀ stream ∈ response.result, ∀ row ∈ stream.values, ∀ time, rowTime row = some time →
      time ∈ content.remaining request.start

/-- The server after its first answer. -/
def LokiServer.tail {content : LogTimes} (server : LokiServer content) : LokiServer content where
  respond := fun index ↦ server.respond (index + 1)
  from_start := fun index ↦ server.from_start (index + 1)

section Server

variable {content : LokiContent}

/-- The times of the entries. -/
def LokiContent.logTimes (content : LokiContent) : LogTimes where
  times := content.entries.map LogEntry.timestamp
  times_lt := by
    intro time htime
    obtain ⟨entry, _, rfl⟩ := List.mem_map.mp htime
    exact entry.timestamp_lt

/-- A Loki that answers with the earliest entries is such a server. -/
def Loki.server (loki : Loki content) : LokiServer content.logTimes where
  respond := loki.respond
  from_start := by
    intro index request response hresponse stream hstream row hrow time htime
    cases hresponse
    obtain ⟨slice, hslice, rfl⟩ := List.mem_map.mp hstream
    obtain ⟨entry, hentry, rfl⟩ := List.mem_map.mp hrow
    have hmatching : entry ∈ content.matching request.start :=
      (loki.answers index request).matching entry (List.mem_flatMap.mpr ⟨slice, hslice, hentry⟩)
    have hbound : entry.timestamp < Nat.pow 2 128 :=
      Nat.lt_of_le_of_lt (Nat.le_add_right _ _) entry.timestamp_lt
    obtain rfl : entry.timestamp = time := by
      rw [rowTime, List.head?_cons, Option.bind_some, parseSinceTime_repr hbound] at htime
      exact Option.some.inj htime
    have hstart := LokiContent.le_of_mem_matching hmatching
    exact List.mem_filter.mpr
      ⟨List.mem_map_of_mem (List.mem_of_mem_filter hmatching), by simpa using hstart⟩

end Server

/-! ## One poll -/

/-- A time that is not zero was read from a row. -/
theorem exists_row_of_time {response : LokiResponse} (h : response.getLastStreamUnixTime ≠ 0) :
    ∃ stream ∈ response.result, ∃ row ∈ stream.values,
      rowTime row = some response.getLastStreamUnixTime := by
  unfold LokiResponse.getLastStreamUnixTime at h ⊢
  cases hstream : response.result.getLast? with
  | none => simp [hstream] at h
  | some stream =>
    simp only [hstream] at h ⊢
    cases hrow : stream.values.getLast? with
    | none =>
      rw [hrow] at h
      exact absurd (by decide) h
    | some row =>
      simp only [hrow, Option.getD_some] at h ⊢
      refine ⟨stream, List.mem_of_getLast? hstream, row, List.mem_of_getLast? hrow, ?_⟩
      -- The fall-back values for a row without a time are all read as zero.
      cases hhead : row.head? with
      | none =>
        rw [hhead] at h
        exact absurd (by decide) h
      | some text =>
        simp only [hhead, Option.getD_some] at h ⊢
        rw [rowTime, hhead, Option.bind_some]
        cases htime : parseSinceTime text with
        | none => simp [htime] at h
        | some time => rfl

/-- What a poll that returned a page did. -/
theorem pollNext_eq_page {loki : LokiRequest → Except LokiError LokiResponse}
    {poller poller' : LokiPoll} {page : List String}
    (h : poller.pollNext loki = (.ok (some page), poller')) :
    ∃ response, loki poller.request = .ok response ∧ response.getLastStreamUnixTime ≠ 0 ∧
      poller' = { poller with since := response.getLastStreamUnixTime + pollGap } := by
  unfold LokiPoll.pollNext at h
  split at h
  next => cases h
  next response hresponse =>
    split at h
    next => cases h
    next =>
      split at h
      next => cases h
      next htime =>
        cases h
        exact ⟨response, hresponse, htime, rfl⟩

section Poll

variable {content : LogTimes} {poller poller' : LokiPoll} {page : List String}

/-- The next start is after the time of an entry that was still to come. -/
theorem pollNext_passes (server : LokiServer content) (index : ℕ)
    (h : poller.pollNext (server.respond index) = (.ok (some page), poller')) :
    ∃ time ∈ content.remaining poller.since, poller'.since = time + pollGap := by
  obtain ⟨response, hresponse, htime, rfl⟩ := pollNext_eq_page h
  obtain ⟨stream, hstream, row, hrow, hread⟩ := exists_row_of_time htime
  refine ⟨response.getLastStreamUnixTime, ?_, rfl⟩
  have hremaining := server.from_start index _ response hresponse stream hstream row hrow _ hread
  rwa [LokiPoll.request_start] at hremaining

/-- A page moves the start on, and it stays a `u128`. -/
theorem pollNext_advances (server : LokiServer content) (index : ℕ)
    (h : poller.pollNext (server.respond index) = (.ok (some page), poller')) :
    poller.request.start < poller'.request.start ∧ poller'.request.start < Nat.pow 2 128 := by
  obtain ⟨time, htime, hnext⟩ := pollNext_passes server index h
  obtain ⟨hmem, hle⟩ := List.mem_filter.mp htime
  have hstart : poller.since ≤ time := by simpa using hle
  have hgap : 0 < pollGap := by decide
  rw [LokiPoll.request_start, LokiPoll.request_start, hnext]
  exact ⟨by omega, content.times_lt time hmem⟩

/-- Fewer times remain from a start after one of them on. -/
theorem remaining_length_lt {start time : ℕ} (htime : time ∈ content.remaining start) :
    (content.remaining (time + pollGap)).length < (content.remaining start).length := by
  obtain ⟨hmem, hle⟩ := List.mem_filter.mp htime
  have hstart : start ≤ time := by simpa using hle
  have hgap : 0 < pollGap := by decide
  apply Page.length_filter_lt hmem
  · intro other hlater
    rw [decide_eq_true_eq] at hlater ⊢
    omega
  · exact hle
  · rw [decide_eq_false_iff_not]
    omega

end Poll

/-! ## The loop -/

/-- The requests start later and later, from a start on. -/
def StartsAscend (start : ℕ) (requests : List LokiRequest) : Prop :=
  (∀ request ∈ requests, start ≤ request.start) ∧
    requests.Pairwise fun left right ↦ left.start < right.start

theorem StartsAscend.cons {start : ℕ} {request : LokiRequest} {requests : List LokiRequest}
    (h : StartsAscend start requests) (hrequest : request.start < start) :
    StartsAscend request.start (request :: requests) := by
  constructor
  · intro other hother
    rcases List.mem_cons.mp hother with rfl | hrest
    · exact Nat.le_refl _
    · exact Nat.le_trans (Nat.le_of_lt hrequest) (h.1 other hrest)
  · refine List.pairwise_cons.mpr ⟨?_, h.2⟩
    intro other hother
    exact Nat.lt_of_lt_of_le hrequest (h.1 other hother)

section Loop

variable {content : LogTimes}

/-- One poll for every time from the start on, and one more, are enough. -/
theorem pollLoop_ends {fuel : ℕ} (server : LokiServer content) (poller : LokiPoll)
    (isWritten : Bool) (hfuel : (content.remaining poller.since).length < fuel) :
    ∃ dump, pollLoop server.respond fuel poller isWritten = some dump ∧
      dump.requests.length ≤ (content.remaining poller.since).length ∧
      StartsAscend poller.request.start dump.requests := by
  induction fuel generalizing server poller isWritten with
  | zero => omega
  | succ fuel ih =>
    rw [pollLoop]
    split
    next page poller' hpoll =>
      obtain ⟨time, htime, hnext⟩ := pollNext_passes server 0 hpoll
      have hfewer := remaining_length_lt htime
      rw [← hnext] at hfewer
      obtain ⟨dump, hdump, hlength, hstarts⟩ := ih server.tail poller' true (by omega)
      refine ⟨_, congrArg (Option.map _) hdump, ?_, ?_⟩
      · rw [LogDump.cons, List.length_cons]
        omega
      · exact hstarts.cons (pollNext_advances server 0 hpoll).1
    next =>
      exact ⟨_, rfl, Nat.zero_le _, List.forall_mem_nil _, .nil⟩
    next =>
      exact ⟨_, rfl, Nat.zero_le _, List.forall_mem_nil _, .nil⟩

/-- A dump that does not write every entry once still ends. -/
theorem Loki.pollLoop_ends {content : LokiContent} (loki : Loki content) (poller : LokiPoll) :
    ∃ fuel dump, pollLoop loki.respond fuel poller false = some dump := by
  obtain ⟨dump, hdump, -, -⟩ :=
    Supportability.pollLoop_ends loki.server poller false (Nat.lt_succ_self _)
  exact ⟨_, dump, hdump⟩

/-- Whatever a server answers from the start of a request on, every poll that returns a page moves
the start on, and the dump of a log ends after as many polls as there are times, and one more.  A
label selector that is no selector makes it panic before the first poll. -/
theorem fetchAndDumpLogs_ends (content : LogTimes) (server : LokiServer content)
    (client : LokiClient) (labelSelector containerName : String) (hostName : Option String) :
    (∀ index poller page poller',
      LokiPoll.pollNext (server.respond index) poller = (.ok (some page), poller') →
        poller.request.start < poller'.request.start ∧
          poller'.request.start < Nat.pow 2 128) ∧
    (labelFilters labelSelector = none ∨ ∃ dump,
      client.fetchAndDumpLogs labelSelector containerName hostName server.respond
        (content.times.length + 1) = some (some dump) ∧
      dump.requests.length ≤ content.times.length ∧
      dump.requests.Pairwise fun left right ↦ left.start < right.start) := by
  refine ⟨fun index poller page poller' hpoll ↦ pollNext_advances server index hpoll, ?_⟩
  cases hfilters : labelFilters labelSelector with
  | none => exact .inl rfl
  | some filters =>
    have hremaining : (content.remaining client.since).length ≤ content.times.length :=
      List.length_filter_le _ _
    obtain ⟨dump, hdump, hlength, hstarts⟩ := @pollLoop_ends _ (content.times.length + 1) server
      (client.poller (logQuery filters containerName hostName)) false (Nat.lt_succ_of_le hremaining)
    refine .inr ⟨dump, ?_, Nat.le_trans hlength hremaining, hstarts.2⟩
    rw [LokiClient.fetchAndDumpLogs, hfilters, Option.map_some, hdump]

end Loop

end MayastorExtensions.Supportability
