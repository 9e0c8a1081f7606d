import Mathlib.Data.List.DropRight
import MayastorExtensions.CallHome.Report

/-!
# Errors in the reports

The call-home process keeps its own errors in a buffer, which a layer of the tracing subscriber
fills and `generate_report` puts into the report and empties.  The buffer has room for a hundred
entries and makes room for the next by dropping the oldest.

Errors are logged at any time, also while a report is put together.  A run of the process is a list
of what happens in it, one after the other: the lock of the buffer is held while an entry is added
and while a report takes the entries.
-/

namespace MayastorExtensions.CallHome

open KubeClient

/-! ## The layer -/

inductive Level where
  | trace
  | debug
  | info
  | warn
  | error
  deriving DecidableEq, Repr

def Level.text : Level → String
  | .trace => "TRACE"
  | .debug => "DEBUG"
  | .info => "INFO"
  | .warn => "WARN"
  | .error => "ERROR"

/-- An event of the tracing framework, with the time at which the layer gets it; the fields are
given with their debug texts. -/
structure TracingEvent where
  timestamp : String
  level : Level
  file : Option String
  line : Option UInt32
  fields : List (String × String)

/-- The text that a `LogVisitor` leaves behind. -/
def visitedFields (fields : List (String × String)) : String :=
  String.join (fields.map fun field ↦ field.1 ++ ": " ++ field.2 ++ ";")

def TracingEvent.logEntry (event : TracingEvent) : LogEntry where
  timestamp := event.timestamp
  level := event.level.text
  file := event.file.getD ""
  line := event.line.getD 0
  message := visitedFields event.fields

/-- The loop of `log_with_limit`; at the limit 0 it does not end. -/
def popWhileFull {α : Type} (limit : ℕ) : List α → Option (List α)
  | [] => if limit = 0 then none else some []
  | first :: rest =>
    if limit ≤ (first :: rest).length then popWhileFull limit rest else some (first :: rest)

def logWithLimit {α : Type} (logs : List α) (message : α) (limit : ℕ) : Option (List α) :=
  (popWhileFull limit logs).map (· ++ [message])

def ERR_LOG_BUF_CAPACITY : ℕ := 100

/-- Only errors are captured. -/
def onEvent (event : TracingEvent) (logs : List LogEntry) : Option (List LogEntry) :=
  if event.level = .error then logWithLimit logs event.logEntry ERR_LOG_BUF_CAPACITY
  else some logs

/-! ## Runs of the process -/

/-- What happens in the process: an event is logged, or `generate_report` comes to its end, with
what it got from the cluster. -/
inductive ProcessAction (Node : Type) where
  | event (event : TracingEvent)
  | report (k8sNodeCount : Except KubeError ℕ) (sources : Sources Node)

variable {Node : Type}

/-- The reports of a run, from what is in the buffer.  A panic in a report is the end of the
process. -/
def reports : List (ProcessAction Node) → List LogEntry → Option (List (Except Panic Report))
  | [], _ => some []
  | .event event :: rest, logs => do
    let logs' ← onEvent event logs
    reports rest logs'
  | .report k8sNodeCount sources :: rest, logs =>
    match { sources with logs }.report k8sNodeCount with
    | .error panic => some [.error panic]
    | .ok report => do
      let later ← reports rest []
      some (.ok report :: later)

/-! ## What the reports are to have -/

/-- The reports of a process that forgets no error until it is reported: each has the last hundred
of the errors since the report before it. -/
def expectedReports : List (ProcessAction Node) → List LogEntry → List (Except Panic Report)
  | [], _ => []
  | .event event :: rest, errors =>
    expectedReports rest (if event.level = .error then errors ++ [event.logEntry] else errors)
  | .report k8sNodeCount sources :: rest, errors =>
    match { sources with logs := errors.rtake ERR_LOG_BUF_CAPACITY }.report k8sNodeCount with
    | .error panic => [.error panic]
    | .ok report => .ok report :: expectedReports rest []

section Buffer

variable {α : Type}

/-- What is left has room for one more entry. -/
theorem popWhileFull_succ (limit : ℕ) (logs : List α) :
    popWhileFull (limit + 1) logs = some (logs.rtake limit) := by
  induction logs with
  | nil => simp [popWhileFull]
  | cons first rest ih =>
    rw [popWhileFull, ih]
    by_cases hfull : limit + 1 ≤ (first :: rest).length
    · have hdrop : (first :: rest).length - limit = rest.length - limit + 1 := by
        rw [List.length_cons] at hfull ⊢
        omega
      rw [if_pos hfull, List.rtake, List.rtake, hdrop, List.drop_succ_cons]
    · have hdrop : (first :: rest).length - limit = 0 := by omega
      rw [if_neg hfull, List.rtake, hdrop, List.drop_zero]

theorem rtake_rtake_succ (limit : ℕ) (errors : List α) :
    (errors.rtake (limit + 1)).rtake limit = errors.rtake limit := by
  rw [List.rtake, List.rtake, List.rtake, List.length_drop, List.drop_drop]
  congr 1
  omega

/-- A buffer with the last entries has them after one more. -/
theorem logWithLimit_rtake (limit : ℕ) (errors : List α) (entry : α) :
    logWithLimit (errors.rtake (limit + 1)) entry (limit + 1) =
      some ((errors ++ [entry]).rtake (limit + 1)) := by
  rw [logWithLimit, popWhileFull_succ, rtake_rtake_succ, List.rtake_concat_succ]
  rfl

end Buffer

theorem onEvent_rtake (event : TracingEvent) (errors : List LogEntry) :
    onEvent event (errors.rtake ERR_LOG_BUF_CAPACITY) =
      some ((if event.level = .error then errors ++ [event.logEntry] else errors).rtake
        ERR_LOG_BUF_CAPACITY) := by
  unfold onEvent
  split
  next => exact logWithLimit_rtake 99 errors event.logEntry
  next => rfl

/-- The buffer stands for the errors since the last report. -/
theorem reports_rtake (actions : List (ProcessAction Node)) (errors : List LogEntry) :
    reports actions (errors.rtake ERR_LOG_BUF_CAPACITY) =
      some (expectedReports actions errors) := by
  induction actions generalizing errors with
  | nil => rfl
  | cons action rest ih =>
    cases action with
    | event event =>
      rw [reports, onEvent_rtake]
      exact ih _
    | report k8sNodeCount sources =>
      rw [reports, expectedReports]
      cases { sources with logs := errors.rtake ERR_LOG_BUF_CAPACITY }.report k8sNodeCount with
      | error panic => rfl
      | ok report =>
        have hlater := ih []
        rw [List.rtake_nil] at hlater
        simp only [hlater]
        rfl

/-- In every run of the process, its reports are those of a process that forgets no error until it
is reported: each report has the errors logged since the one before it, in their order and none of
them twice, up to the last hundred, and logging always comes to an end. -/
theorem reports_eq_expectedReports (actions : List (ProcessAction Node)) :
    reports actions [] = some (expectedReports actions []) := by
  have h := reports_rtake actions []
  rwa [List.rtake_nil] at h

end MayastorExtensions.CallHome
