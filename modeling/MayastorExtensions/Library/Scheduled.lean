import Mathlib.Data.List.Basic

/-!
# Scheduled programs

A program that talks to services it does not own, run against an environment it does not
control.  Every request consumes one tick of a schedule; a tick carries the moves the environment
makes before the request arrives and the verdict on the request.  Quantifying over schedules
therefore quantifies over every interleaving, every failure and every crash point: a schedule
that ends early is a process that stopped there.

The trace records each request with the state it arrived in.  Triples relate the state and the
trace before a program to those after it, relative to a rely condition on ticks, and one rule per
program construct lets the proofs follow the text of the program.
-/

namespace MayastorExtensions.Scheduled

/-- The answer to one request.  A lost reply is an error for the caller although the request took
effect. -/
inductive Verdict where
  | served
  | refused
  | lost
  deriving DecidableEq, Repr

/-- One scheduled request: the environment moves first, then the verdict is given. -/
structure Tick (ι : Type) where
  moves : List ι
  verdict : Verdict

/-- Why a program did not return a value. -/
inductive Stop (ε : Type) where
  | failed (error : ε)
  | crashed
  deriving DecidableEq

/-- One request as the trace remembers it, with the state it arrived in. -/
structure Entry (σ ι o : Type) where
  call : o
  moves : List ι
  seen : σ
  verdict : Verdict

/-- The state of the services, the ticks still to come and the requests made so far. -/
structure Machine (σ ι o : Type) where
  state : σ
  schedule : List (Tick ι)
  trace : List (Entry σ ι o)

/-- What the environment's moves do to the state. -/
class Interferes (σ : Type) (ι : outParam Type) where
  move : ι → σ → σ

/-- The state a request finds once the moves of its tick have been made. -/
def after {σ ι : Type} [Interferes σ ι] (moves : List ι) (state : σ) : σ :=
  moves.foldl (fun current step ↦ Interferes.move step current) state

@[simp]
theorem after_cons {σ ι : Type} [Interferes σ ι] (step : ι) (moves : List ι) (state : σ) :
    after (step :: moves) state = after moves (Interferes.move step state) := rfl

/-- A property that every move keeps is kept by every tick. -/
theorem after_invariant {σ ι : Type} [Interferes σ ι] (property : σ → Prop) {moves : List ι}
    (hmove : ∀ step ∈ moves, ∀ state, property state → property (Interferes.move step state))
    {state : σ} (hstate : property state) : property (after moves state) := by
  induction moves generalizing state with
  | nil => exact hstate
  | cons step rest ih =>
    rw [after_cons]
    apply ih
    · intro next hnext
      exact hmove next (List.mem_cons_of_mem _ hnext)
    · exact hmove step List.mem_cons_self state hstate

/-- A program over a scheduled machine. -/
def Program (σ ι o ε α : Type) :=
  Machine σ ι o → Except (Stop ε) α × Machine σ ι o

namespace Program

variable {σ ι o ε α β : Type}

instance : Monad (Program σ ι o ε) where
  pure value := fun m ↦ (.ok value, m)
  bind program next := fun m ↦
    match program m with
    | (.ok value, m') => next value m'
    | (.error stop, m') => (.error stop, m')

theorem bind_apply (program : Program σ ι o ε α) (next : α → Program σ ι o ε β)
    (m : Machine σ ι o) :
    (program >>= next) m =
      match program m with
      | (.ok value, m') => next value m'
      | (.error stop, m') => (.error stop, m') := rfl

theorem bind_of_ok {program : Program σ ι o ε α} {next : α → Program σ ι o ε β}
    {m m' : Machine σ ι o} {value : α} (h : program m = (.ok value, m')) :
    (program >>= next) m = next value m' := by
  rw [bind_apply, h]

theorem bind_of_error {program : Program σ ι o ε α} {next : α → Program σ ι o ε β}
    {m m' : Machine σ ι o} {stop : Stop ε} (h : program m = (.error stop, m')) :
    (program >>= next) m = (.error stop, m') := by
  rw [bind_apply, h]

/-- A sequence that returned a value went through both of its parts. -/
theorem bind_eq_ok {program : Program σ ι o ε α} {next : α → Program σ ι o ε β}
    {m m'' : Machine σ ι o} {value : β} (h : (program >>= next) m = (.ok value, m'')) :
    ∃ between m', program m = (.ok between, m') ∧ next between m' = (.ok value, m'') := by
  cases hprogram : program m with
  | mk result m' =>
    cases result with
    | ok between => exact ⟨between, m', rfl, by rwa [bind_of_ok hprogram] at h⟩
    | error stop =>
      rw [bind_of_error hprogram] at h
      cases h

/-- Return an error to the caller. -/
def fail (error : ε) : Program σ ι o ε α := fun m ↦ (.error (.failed error), m)

/-- Hand an error of the inner program to the caller as a value; a crash stays a crash. -/
def attempt (program : Program σ ι o ε α) : Program σ ι o ε (Except ε α) := fun m ↦
  match program m with
  | (.ok value, m') => (.ok (.ok value), m')
  | (.error (.failed error), m') => (.ok (.error error), m')
  | (.error .crashed, m') => (.error .crashed, m')

/-- Lift a pure fallible computation. -/
def ofExcept : Except ε α → Program σ ι o ε α
  | .ok value => pure value
  | .error error => fail error

/-- Append an entry to the trace without talking to anyone. -/
def record (call : o) : Program σ ι o ε Unit := fun m ↦
  (.ok (), { m with trace := m.trace ++ [⟨call, [], m.state, .served⟩] })

/-- One request: the tick's moves happen, the request is recorded, and the verdict decides
between reply and error and whether the effect takes place. -/
def request [Interferes σ ι] (call : o) (error : ε) (effect : σ → σ) (reply : σ → α) :
    Program σ ι o ε α := fun m ↦
  match m.schedule with
  | [] => (.error .crashed, m)
  | tick :: rest =>
    let seen := after tick.moves m.state
    let trace := m.trace ++ [⟨call, tick.moves, seen, tick.verdict⟩]
    match tick.verdict with
    | .served => (.ok (reply seen), ⟨effect seen, rest, trace⟩)
    | .refused => (.error (.failed error), ⟨seen, rest, trace⟩)
    | .lost => (.error (.failed error), ⟨effect seen, rest, trace⟩)

/-- A request that changes nothing. -/
def query [Interferes σ ι] (call : o) (error : ε) (reply : σ → α) : Program σ ι o ε α :=
  request call error id reply

/-- Run the body until it produces a result. -/
def iterate (body : β → Program σ ι o ε (β ⊕ α)) : ℕ → β → Program σ ι o ε α
  | 0, _ => fun m ↦ (.error .crashed, m)
  | fuel + 1, current => do
    match ← body current with
    | .inl next => iterate body fuel next
    | .inr value => pure value

/-- An unbounded loop.  Every body below makes a request, so a loop can go round at most once for
each remaining tick before the schedule ends. -/
def loop (body : β → Program σ ι o ε (β ⊕ α)) (start : β) : Program σ ι o ε α := fun m ↦
  iterate body (m.schedule.length + 1) start m

/-- Run the body for every element in order, stopping at the first error. -/
def forEach (body : β → Program σ ι o ε Unit) : List β → Program σ ι o ε Unit
  | [] => pure ()
  | head :: tail => do
    body head
    forEach body tail

theorem forEach_record_apply (call : β → o) (elements : List β) (m : Machine σ ι o) :
    (forEach (fun element ↦ record (call element)) elements : Program σ ι o ε Unit) m =
      (.ok (), { m with
        trace := m.trace ++ elements.map fun element ↦ ⟨call element, [], m.state, .served⟩ }) := by
  induction elements generalizing m with
  | nil =>
    rw [List.map_nil, List.append_nil]
    rfl
  | cons head tail ih =>
    have hhead : (record (call head) : Program σ ι o ε Unit) m =
      (.ok (), { m with trace := m.trace ++ [⟨call head, [], m.state, .served⟩] }) := rfl
    rw [forEach, bind_of_ok hhead, ih]
    simp

/-- A round that ends the loop. -/
theorem loop_of_done {body : β → Program σ ι o ε (β ⊕ α)} {start : β} {value : α}
    {m m' : Machine σ ι o} (h : body start m = (.ok (.inr value), m')) :
    loop body start m = (.ok value, m') := by
  rw [loop, iterate, bind_of_ok h]
  rfl

/-- A round that goes on and makes one request. -/
theorem loop_of_next {body : β → Program σ ι o ε (β ⊕ α)} {start next : β} {m m' : Machine σ ι o}
    (h : body start m = (.ok (.inl next), m'))
    (hschedule : m.schedule.length = m'.schedule.length + 1) :
    loop body start m = loop body next m' := by
  rw [loop, iterate, bind_of_ok h, hschedule]
  rfl

end Program

/-- A split of a trace that ends in an entry is at that entry or before it. -/
theorem split_concat {α : Type} {trace before rest : List α} {last chosen : α}
    (h : trace ++ [last] = before ++ chosen :: rest) :
    (before = trace ∧ chosen = last) ∨
      ∃ rest', rest = rest' ++ [last] ∧ trace = before ++ chosen :: rest' := by
  rcases List.eq_nil_or_concat rest with rfl | ⟨rest', final, rfl⟩
  · have hlast := List.append_inj' h rfl
    simp only [List.cons.injEq, and_true] at hlast
    exact .inl ⟨hlast.1.symm, hlast.2.symm⟩
  · have hassoc : trace ++ [last] = (before ++ chosen :: rest') ++ [final] := by
      simpa using h
    have hlast := List.append_inj' hassoc rfl
    simp only [List.cons.injEq, and_true] at hlast
    exact .inr ⟨rest', by rw [hlast.2, List.concat_eq_append], hlast.1⟩

/-! ## Triples -/

/-- A property of the state together with the requests made so far. -/
abbrev Assertion (σ ι o : Type) := σ → List (Entry σ ι o) → Prop

/-- Under every schedule whose ticks meet the rely condition, a run that starts in `before` ends
in `returned` if it returns a value and in `stopped` otherwise. -/
def Triple {σ ι o ε α : Type} (rely : Tick ι → Prop) (before : Assertion σ ι o)
    (program : Program σ ι o ε α) (returned : α → Assertion σ ι o)
    (stopped : Assertion σ ι o) : Prop :=
  ∀ m : Machine σ ι o, (∀ tick ∈ m.schedule, rely tick) → before m.state m.trace →
    (∀ tick ∈ (program m).2.schedule, rely tick) ∧
      match (program m).1 with
      | .ok value => returned value (program m).2.state (program m).2.trace
      | .error _ => stopped (program m).2.state (program m).2.trace

namespace Triple

open Program

variable {σ ι o ε α β : Type} {rely : Tick ι → Prop} {before : Assertion σ ι o}
  {returned : α → Assertion σ ι o} {stopped : Assertion σ ι o}

/-- What a triple says about a run that returned a value. -/
theorem apply_ok {program : Program σ ι o ε α} (h : Triple rely before program returned stopped)
    {m m' : Machine σ ι o} {value : α} (hrun : program m = (.ok value, m'))
    (hrely : ∀ tick ∈ m.schedule, rely tick) (hbefore : before m.state m.trace) :
    returned value m'.state m'.trace := by
  have hm := (h m hrely hbefore).2
  rw [hrun] at hm
  exact hm

/-- A triple whose two postconditions agree describes the run however it ended. -/
theorem apply_any {program : Program σ ι o ε α} {always : Assertion σ ι o}
    (h : Triple rely before program (fun _ ↦ always) always) {m : Machine σ ι o}
    (hrely : ∀ tick ∈ m.schedule, rely tick) (hbefore : before m.state m.trace) :
    always (program m).2.state (program m).2.trace := by
  have hm := (h m hrely hbefore).2
  revert hm
  cases (program m).1 <;> exact id

theorem weaken {program : Program σ ι o ε α} {before' : Assertion σ ι o}
    {returned' : α → Assertion σ ι o} {stopped' : Assertion σ ι o}
    (h : Triple rely before program returned stopped)
    (hbefore : ∀ state trace, before' state trace → before state trace)
    (hreturned : ∀ value state trace, returned value state trace → returned' value state trace)
    (hstopped : ∀ state trace, stopped state trace → stopped' state trace) :
    Triple rely before' program returned' stopped' := by
  intro m hrely hm
  obtain ⟨hschedule, hresult⟩ := h m hrely (hbefore _ _ hm)
  refine ⟨hschedule, ?_⟩
  revert hresult
  cases (program m).1 with
  | ok value => exact hreturned value _ _
  | error stop => exact hstopped _ _

/-- Nothing is said about a run that stops. -/
theorem returning {program : Program σ ι o ε α}
    (h : Triple rely before program returned stopped) :
    Triple rely before program returned fun _ _ ↦ True :=
  h.weaken (fun _ _ h ↦ h) (fun _ _ _ h ↦ h) fun _ _ _ ↦ trivial

/-- What two triples say about one program. -/
theorem and {program : Program σ ι o ε α} {before' : Assertion σ ι o}
    {returned' : α → Assertion σ ι o} {stopped' : Assertion σ ι o}
    (h : Triple rely before program returned stopped)
    (h' : Triple rely before' program returned' stopped') :
    Triple rely (fun state trace ↦ before state trace ∧ before' state trace) program
      (fun value state trace ↦ returned value state trace ∧ returned' value state trace)
      (fun state trace ↦ stopped state trace ∧ stopped' state trace) := by
  intro m hrely hm
  obtain ⟨hschedule, hresult⟩ := h m hrely hm.1
  obtain ⟨-, hresult'⟩ := h' m hrely hm.2
  refine ⟨hschedule, ?_⟩
  revert hresult hresult'
  cases (program m).1 with
  | ok value => exact And.intro
  | error stop => exact And.intro

/-- What one of two triples says about a program. -/
theorem or {program : Program σ ι o ε α} {before' : Assertion σ ι o}
    {returned' : α → Assertion σ ι o} {stopped' : Assertion σ ι o}
    (h : Triple rely before program returned stopped)
    (h' : Triple rely before' program returned' stopped') :
    Triple rely (fun state trace ↦ before state trace ∨ before' state trace) program
      (fun value state trace ↦ returned value state trace ∨ returned' value state trace)
      (fun state trace ↦ stopped state trace ∨ stopped' state trace) := by
  rintro m hrely (hm | hm)
  · obtain ⟨hschedule, hresult⟩ := h m hrely hm
    refine ⟨hschedule, ?_⟩
    revert hresult
    cases (program m).1 with
    | ok value => exact Or.inl
    | error stop => exact Or.inl
  · obtain ⟨hschedule, hresult⟩ := h' m hrely hm
    refine ⟨hschedule, ?_⟩
    revert hresult
    cases (program m).1 with
    | ok value => exact Or.inr
    | error stop => exact Or.inr

/-- A fact in the precondition that is neither about the state nor about the trace. -/
theorem assume {program : Program σ ι o ε α} {fact : Prop}
    (h : fact → Triple rely before program returned stopped) :
    Triple rely (fun state trace ↦ fact ∧ before state trace) program returned stopped :=
  fun m hrely hm ↦ h hm.1 m hrely hm.2

theorem pure {value : α} (h : ∀ state trace, before state trace → returned value state trace) :
    Triple rely before (Pure.pure value : Program σ ι o ε α) returned stopped :=
  fun _ hrely hm ↦ ⟨hrely, h _ _ hm⟩

theorem fail {error : ε} (h : ∀ state trace, before state trace → stopped state trace) :
    Triple rely before (Program.fail error : Program σ ι o ε α) returned stopped :=
  fun _ hrely hm ↦ ⟨hrely, h _ _ hm⟩

theorem ofExcept {result : Except ε α}
    (hok : ∀ value, result = .ok value → ∀ state trace, before state trace →
      returned value state trace)
    (herror : ∀ state trace, before state trace → stopped state trace) :
    Triple rely before (Program.ofExcept result : Program σ ι o ε α) returned stopped := by
  cases result with
  | ok value => exact Triple.pure (hok value rfl)
  | error error => exact Triple.fail herror

/-- Sequencing, with the assertion that holds in between. -/
theorem bind {program : Program σ ι o ε α} {next : α → Program σ ι o ε β}
    {returned : β → Assertion σ ι o} (between : α → Assertion σ ι o)
    (hprogram : Triple rely before program between stopped)
    (hnext : ∀ value, Triple rely (between value) (next value) returned stopped) :
    Triple rely before (program >>= next) returned stopped := by
  intro m hrely hm
  obtain ⟨hschedule, hresult⟩ := hprogram m hrely hm
  rw [bind_apply]
  revert hschedule hresult
  cases program m with
  | mk result m' =>
    cases result with
    | ok value => exact fun hschedule hresult ↦ hnext value m' hschedule hresult
    | error stop => exact fun hschedule hresult ↦ ⟨hschedule, hresult⟩

theorem record {call : o} {returned : Unit → Assertion σ ι o}
    (h : ∀ state trace, before state trace →
      returned () state (trace ++ [⟨call, [], state, .served⟩])) :
    Triple rely before (Program.record call : Program σ ι o ε Unit) returned stopped :=
  fun _ hrely hm ↦ ⟨hrely, h _ _ hm⟩

/-- The request rule: one obligation for a process that stops here and one per verdict. -/
theorem request [Interferes σ ι] {call : o} {error : ε} {effect : σ → σ} {reply : σ → α}
    (hcrash : ∀ state trace, before state trace → stopped state trace)
    (hserved : ∀ state trace moves, rely ⟨moves, .served⟩ → before state trace →
      returned (reply (after moves state)) (effect (after moves state))
        (trace ++ [⟨call, moves, after moves state, .served⟩]))
    (hrefused : ∀ state trace moves, rely ⟨moves, .refused⟩ → before state trace →
      stopped (after moves state) (trace ++ [⟨call, moves, after moves state, .refused⟩]))
    (hlost : ∀ state trace moves, rely ⟨moves, .lost⟩ → before state trace →
      stopped (effect (after moves state))
        (trace ++ [⟨call, moves, after moves state, .lost⟩])) :
    Triple rely before (Program.request call error effect reply : Program σ ι o ε α)
      returned stopped := by
  rintro ⟨state, schedule, trace⟩ hrely hm
  cases schedule with
  | nil => exact ⟨hrely, hcrash _ _ hm⟩
  | cons tick rest =>
    obtain ⟨moves, verdict⟩ := tick
    have htick := hrely ⟨moves, verdict⟩ List.mem_cons_self
    have hrest : ∀ tick ∈ rest, rely tick := fun tick htick ↦
      hrely tick (List.mem_cons_of_mem _ htick)
    cases verdict with
    | served => exact ⟨hrest, hserved _ _ _ htick hm⟩
    | refused => exact ⟨hrest, hrefused _ _ _ htick hm⟩
    | lost => exact ⟨hrest, hlost _ _ _ htick hm⟩

/-- A query changes nothing but the trace. -/
theorem query [Interferes σ ι] {call : o} {error : ε} {reply : σ → α}
    (hcrash : ∀ state trace, before state trace → stopped state trace)
    (hserved : ∀ state trace moves, rely ⟨moves, .served⟩ → before state trace →
      returned (reply (after moves state)) (after moves state)
        (trace ++ [⟨call, moves, after moves state, .served⟩]))
    (hfailed : ∀ state trace moves verdict, rely ⟨moves, verdict⟩ → before state trace →
      stopped (after moves state) (trace ++ [⟨call, moves, after moves state, verdict⟩])) :
    Triple rely before (Program.query call error reply : Program σ ι o ε α) returned stopped :=
  Triple.request hcrash hserved (fun state trace moves ↦ hfailed state trace moves .refused)
    (fun state trace moves ↦ hfailed state trace moves .lost)

theorem iterate {body : β → Program σ ι o ε (β ⊕ α)} {invariant : β → Assertion σ ι o}
    (hbody : ∀ current, Triple rely (invariant current) (body current)
      (fun result ↦ Sum.elim invariant returned result) stopped)
    (hstopped : ∀ current state trace, invariant current state trace → stopped state trace)
    (fuel : ℕ) (start : β) :
    Triple rely (invariant start) (Program.iterate body fuel start) returned stopped := by
  induction fuel generalizing start with
  | zero => exact fun m hrely hm ↦ ⟨hrely, hstopped _ _ _ hm⟩
  | succ fuel ih =>
    refine Triple.bind _ (hbody start) fun result ↦ ?_
    cases result with
    | inl next => exact ih next
    | inr value => exact Triple.pure fun _ _ hvalue ↦ hvalue

/-- The loop rule: an invariant of the loop variable, the state and the trace. -/
theorem loop {body : β → Program σ ι o ε (β ⊕ α)} {start : β}
    (invariant : β → Assertion σ ι o)
    (hstart : ∀ state trace, before state trace → invariant start state trace)
    (hbody : ∀ current, Triple rely (invariant current) (body current)
      (fun result ↦ Sum.elim invariant returned result) stopped)
    (hstopped : ∀ current state trace, invariant current state trace → stopped state trace) :
    Triple rely before (Program.loop body start) returned stopped :=
  fun m hrely hm ↦
    Triple.iterate hbody hstopped (m.schedule.length + 1) start m hrely (hstart _ _ hm)

/-- The rule for a pass over a list: an invariant indexed by the elements still to come. -/
theorem forEach {body : β → Program σ ι o ε Unit} (invariant : List β → Assertion σ ι o)
    (elements : List β)
    (hbody : ∀ head tail, Triple rely (invariant (head :: tail)) (body head)
      (fun _ ↦ invariant tail) stopped) :
    Triple rely (invariant elements) (Program.forEach body elements)
      (fun _ ↦ invariant []) stopped := by
  induction elements with
  | nil => exact Triple.pure fun _ _ h ↦ h
  | cons head tail ih => exact Triple.bind _ (hbody head tail) fun _ ↦ ih

/-- Recording the elements of a list. -/
theorem forEach_record {call : β → o} {elements : List β} {returned : Unit → Assertion σ ι o}
    (h : ∀ state trace, before state trace → returned () state
      (trace ++ elements.map fun element ↦ ⟨call element, [], state, .served⟩)) :
    Triple rely before
      (Program.forEach (fun element ↦ Program.record (call element)) elements :
        Program σ ι o ε Unit)
      returned stopped := by
  intro m hrely hm
  rw [Program.forEach_record_apply]
  exact ⟨hrely, h _ _ hm⟩

theorem attempt {program : Program σ ι o ε α} {returned : Except ε α → Assertion σ ι o}
    (h : Triple rely before program (fun value ↦ returned (.ok value))
      (fun state trace ↦ (∀ error, returned (.error error) state trace) ∧ stopped state trace)) :
    Triple rely before (Program.attempt program) returned stopped := by
  intro m hrely hm
  obtain ⟨hschedule, hresult⟩ := h m hrely hm
  unfold Program.attempt
  revert hschedule hresult
  cases program m with
  | mk result m' =>
    cases result with
    | ok value => exact fun hschedule hresult ↦ ⟨hschedule, hresult⟩
    | error stop =>
      cases stop with
      | failed error => exact fun hschedule hresult ↦ ⟨hschedule, hresult.1 error⟩
      | crashed => exact fun hschedule hresult ↦ ⟨hschedule, hresult.2⟩

end Triple

/-! ## Outcomes other than a crash -/

/-- Under every schedule whose ticks meet the rely condition, a run that starts in `before` and does
not crash ends in `ended`, with a value or with an error. -/
def Ends {σ ι o ε α : Type} (rely : Tick ι → Prop) (before : Assertion σ ι o)
    (program : Program σ ι o ε α) (ended : Except ε α → Assertion σ ι o) : Prop :=
  ∀ m : Machine σ ι o, (∀ tick ∈ m.schedule, rely tick) → before m.state m.trace →
    (∀ tick ∈ (program m).2.schedule, rely tick) ∧
      match (program m).1 with
      | .ok value => ended (.ok value) (program m).2.state (program m).2.trace
      | .error (.failed error) => ended (.error error) (program m).2.state (program m).2.trace
      | .error .crashed => True

namespace Ends

variable {σ ι o ε α β : Type} {rely : Tick ι → Prop} {before : Assertion σ ι o}
  {ended : Except ε α → Assertion σ ι o}

/-- What a run that did not crash has come to. -/
theorem apply {program : Program σ ι o ε α} (h : Ends rely before program ended)
    {m m' : Machine σ ι o} {result : Except ε α}
    (hrun : program m = (result.mapError Stop.failed, m'))
    (hrely : ∀ tick ∈ m.schedule, rely tick) (hbefore : before m.state m.trace) :
    ended result m'.state m'.trace := by
  obtain ⟨-, hended⟩ := h m hrely hbefore
  rw [hrun] at hended
  cases result with
  | ok value => exact hended
  | error error => exact hended

/-- What holds however the program ends. -/
theorem of_triple {program : Program σ ι o ε α} {always : Assertion σ ι o}
    (h : Triple rely before program (fun _ ↦ always) always) :
    Ends rely before program fun _ ↦ always := by
  intro m hrely hm
  obtain ⟨hschedule, hresult⟩ := h m hrely hm
  refine ⟨hschedule, ?_⟩
  revert hresult
  cases (program m).1 with
  | ok value => exact fun hresult ↦ hresult
  | error stop =>
    cases stop with
    | failed error => exact fun hresult ↦ hresult
    | crashed => exact fun _ ↦ trivial

theorem weaken {program : Program σ ι o ε α} {before' : Assertion σ ι o}
    {ended' : Except ε α → Assertion σ ι o} (h : Ends rely before' program ended')
    (hbefore : ∀ state trace, before state trace → before' state trace)
    (hended : ∀ result state trace, ended' result state trace → ended result state trace) :
    Ends rely before program ended := by
  intro m hrely hm
  obtain ⟨hschedule, hresult⟩ := h m hrely (hbefore _ _ hm)
  refine ⟨hschedule, ?_⟩
  revert hresult
  cases (program m).1 with
  | ok value => exact hended _ _ _
  | error stop =>
    cases stop with
    | failed error => exact hended _ _ _
    | crashed => exact fun _ ↦ trivial

theorem assume {program : Program σ ι o ε α} {fact : Prop}
    (h : fact → Ends rely before program ended) :
    Ends rely (fun state trace ↦ fact ∧ before state trace) program ended :=
  fun m hrely hm ↦ h hm.1 m hrely hm.2

theorem pure {value : α} (h : ∀ state trace, before state trace → ended (.ok value) state trace) :
    Ends rely before (Pure.pure value : Program σ ι o ε α) ended :=
  fun _ hrely hm ↦ ⟨hrely, h _ _ hm⟩

theorem fail {error : ε}
    (h : ∀ state trace, before state trace → ended (.error error) state trace) :
    Ends rely before (Program.fail error : Program σ ι o ε α) ended :=
  fun _ hrely hm ↦ ⟨hrely, h _ _ hm⟩

theorem bind {program : Program σ ι o ε α} {next : α → Program σ ι o ε β}
    {ended : Except ε β → Assertion σ ι o} (between : Except ε α → Assertion σ ι o)
    (h : Ends rely before program between)
    (hnext : ∀ value, Ends rely (between (.ok value)) (next value) ended)
    (herror : ∀ error state trace, between (.error error) state trace →
      ended (.error error) state trace) : Ends rely before (program >>= next) ended := by
  intro m hrely hm
  obtain ⟨hschedule, hresult⟩ := h m hrely hm
  cases hprogram : program m with
  | mk result m' =>
    rw [hprogram] at hschedule hresult
    cases result with
    | ok value =>
      rw [Program.bind_of_ok hprogram]
      exact hnext value m' hschedule hresult
    | error stop =>
      rw [Program.bind_of_error hprogram]
      refine ⟨hschedule, ?_⟩
      cases stop with
      | failed error => exact herror _ _ _ hresult
      | crashed => trivial

theorem request [Interferes σ ι] {call : o} {error : ε} {effect : σ → σ} {reply : σ → α}
    (hserved : ∀ state trace moves, rely ⟨moves, .served⟩ → before state trace →
      ended (.ok (reply (after moves state))) (effect (after moves state))
        (trace ++ [⟨call, moves, after moves state, .served⟩]))
    (hrefused : ∀ state trace moves, rely ⟨moves, .refused⟩ → before state trace →
      ended (.error error) (after moves state)
        (trace ++ [⟨call, moves, after moves state, .refused⟩]))
    (hlost : ∀ state trace moves, rely ⟨moves, .lost⟩ → before state trace →
      ended (.error error) (effect (after moves state))
        (trace ++ [⟨call, moves, after moves state, .lost⟩])) :
    Ends rely before (Program.request call error effect reply : Program σ ι o ε α) ended := by
  rintro ⟨state, schedule, trace⟩ hrely hm
  cases schedule with
  | nil => exact ⟨hrely, trivial⟩
  | cons tick rest =>
    have hrest : ∀ later ∈ rest, rely later := fun later hlater ↦
      hrely later (List.mem_cons_of_mem _ hlater)
    have htick := hrely tick List.mem_cons_self
    obtain ⟨moves, verdict⟩ := tick
    cases verdict with
    | served => exact ⟨hrest, hserved _ _ _ htick hm⟩
    | refused => exact ⟨hrest, hrefused _ _ _ htick hm⟩
    | lost => exact ⟨hrest, hlost _ _ _ htick hm⟩

theorem attempt {program : Program σ ι o ε α} {inner : Except ε α → Assertion σ ι o}
    (h : Ends rely before program inner) :
    Ends rely before (Program.attempt program) fun result state trace ↦
      ∃ outcome, result = .ok outcome ∧ inner outcome state trace := by
  intro m hrely hm
  obtain ⟨hschedule, hresult⟩ := h m hrely hm
  unfold Program.attempt
  cases hprogram : program m with
  | mk result m' =>
    rw [hprogram] at hschedule hresult
    cases result with
    | ok value => exact ⟨hschedule, _, rfl, hresult⟩
    | error stop =>
      cases stop with
      | failed error => exact ⟨hschedule, _, rfl, hresult⟩
      | crashed => exact ⟨hschedule, trivial⟩

end Ends

/-! ## Programs that keep an assertion -/

/-- The program keeps an assertion, however it ends. -/
def Keeps {σ ι o ε α : Type} (rely : Tick ι → Prop) (kept : Assertion σ ι o)
    (program : Program σ ι o ε α) : Prop :=
  Triple rely kept program (fun _ ↦ kept) kept

/-- Making a request keeps an assertion, apart from what the request does. -/
def Unmoved {σ ι o : Type} [Interferes σ ι] (rely : Tick ι → Prop) (kept : Assertion σ ι o)
    (call : o) : Prop :=
  ∀ state trace moves verdict, rely ⟨moves, verdict⟩ → kept state trace →
    kept (after moves state) (trace ++ [⟨call, moves, after moves state, verdict⟩])

namespace Keeps

variable {σ ι o ε α β : Type} {rely : Tick ι → Prop} {kept : Assertion σ ι o}

theorem pure {value : α} : Keeps rely kept (Pure.pure value : Program σ ι o ε α) :=
  Triple.pure fun _ _ h ↦ h

theorem fail {error : ε} : Keeps rely kept (Program.fail error : Program σ ι o ε α) :=
  Triple.fail fun _ _ h ↦ h

theorem ofExcept {result : Except ε α} :
    Keeps rely kept (Program.ofExcept result : Program σ ι o ε α) :=
  Triple.ofExcept (fun _ _ _ _ h ↦ h) fun _ _ h ↦ h

theorem bind {program : Program σ ι o ε α} {next : α → Program σ ι o ε β}
    (hprogram : Keeps rely kept program) (hnext : ∀ value, Keeps rely kept (next value)) :
    Keeps rely kept (program >>= next) :=
  Triple.bind _ hprogram hnext

theorem query [Interferes σ ι] {call : o} {error : ε} {reply : σ → α}
    (h : Unmoved rely kept call) :
    Keeps rely kept (Program.query call error reply : Program σ ι o ε α) :=
  Triple.query (fun _ _ h ↦ h) (fun state trace moves ↦ h state trace moves .served) h

theorem request [Interferes σ ι] {call : o} {error : ε} {effect : σ → σ} {reply : σ → α}
    (h : Unmoved rely kept call)
    (heffect : ∀ state trace, kept state trace → kept (effect state) trace) :
    Keeps rely kept (Program.request call error effect reply : Program σ ι o ε α) :=
  Triple.request (fun _ _ h ↦ h)
    (fun state trace moves hrely hkept ↦ heffect _ _ (h state trace moves .served hrely hkept))
    (fun state trace moves ↦ h state trace moves .refused)
    (fun state trace moves hrely hkept ↦ heffect _ _ (h state trace moves .lost hrely hkept))

theorem loop {body : β → Program σ ι o ε (β ⊕ α)} {start : β}
    (hbody : ∀ current, Keeps rely kept (body current)) :
    Keeps rely kept (Program.loop body start) :=
  Triple.loop (fun _ ↦ kept) (fun _ _ h ↦ h)
    (fun current ↦ (hbody current).weaken (fun _ _ h ↦ h)
      (fun result _ _ h ↦ by cases result <;> exact h) fun _ _ h ↦ h)
    (fun _ _ _ h ↦ h)

theorem forEach {body : β → Program σ ι o ε Unit} {elements : List β}
    (hbody : ∀ element, Keeps rely kept (body element)) :
    Keeps rely kept (Program.forEach body elements) :=
  Triple.forEach (fun _ ↦ kept) elements fun head _ ↦ hbody head

theorem attempt {program : Program σ ι o ε α} (h : Keeps rely kept program) :
    Keeps rely kept (Program.attempt program) :=
  Triple.attempt (h.weaken (fun _ _ h ↦ h) (fun _ _ _ h ↦ h) fun _ _ h ↦ ⟨fun _ ↦ h, h⟩)

/-- Both branches of a decision keep the assertion. -/
theorem ite {condition : Prop} [Decidable condition] {first second : Program σ ι o ε α}
    (hfirst : Keeps rely kept first) (hsecond : Keeps rely kept second) :
    Keeps rely kept (if condition then first else second) := by
  split
  · exact hfirst
  · exact hsecond

end Keeps

/-! ## Programs that compute a value of the state -/

/-- If the program returns a value, it is the result of a computation that makes no requests. -/
def Computes {σ ι o ε α : Type} (rely : Tick ι → Prop) (kept : Assertion σ ι o)
    (program : Program σ ι o ε α) (result : Except ε α) : Prop :=
  Triple rely kept program (fun value state trace ↦ result = .ok value ∧ kept state trace) kept

namespace Computes

variable {σ ι o ε α β : Type} {rely : Tick ι → Prop} {kept : Assertion σ ι o}

theorem pure {value : α} :
    Computes rely kept (Pure.pure value : Program σ ι o ε α) (.ok value) :=
  Triple.pure fun _ _ h ↦ ⟨rfl, h⟩

theorem fail {error : ε} :
    Computes rely kept (Program.fail error : Program σ ι o ε α) (.error error) :=
  Triple.fail fun _ _ h ↦ h

theorem ofExcept {result : Except ε α} :
    Computes rely kept (Program.ofExcept result : Program σ ι o ε α) result :=
  Triple.ofExcept (fun _ hvalue _ _ h ↦ ⟨hvalue, h⟩) fun _ _ h ↦ h

/-- A query computes what it reads, if that is the same wherever the assertion holds. -/
theorem query [Interferes σ ι] {call : o} {error : ε} {reply : σ → α} {value : α}
    (h : Unmoved rely kept call) (hreply : ∀ state trace, kept state trace → reply state = value) :
    Computes rely kept (Program.query call error reply : Program σ ι o ε α) (.ok value) := by
  refine Triple.query (fun _ _ h ↦ h) ?_ h
  intro state trace moves hrely hkept
  have hkept' := h state trace moves .served hrely hkept
  exact ⟨congrArg Except.ok (hreply _ _ hkept').symm, hkept'⟩

theorem bind {program : Program σ ι o ε α} {next : α → Program σ ι o ε β} {result : Except ε α}
    {continuation : α → Except ε β} (hprogram : Computes rely kept program result)
    (hnext : ∀ value, Computes rely kept (next value) (continuation value)) :
    Computes rely kept (program >>= next) (result >>= continuation) := by
  refine Triple.bind _ hprogram fun value ↦ Triple.assume fun hvalue ↦ ?_
  rw [hvalue]
  exact hnext value

theorem ite {condition : Prop} [Decidable condition] {first second : Program σ ι o ε α}
    {result result' : Except ε α} (hfirst : Computes rely kept first result)
    (hsecond : Computes rely kept second result') :
    Computes rely kept (if condition then first else second)
      (if condition then result else result') := by
  split
  · exact hfirst
  · exact hsecond

end Computes

/-! ## Undisturbed runs -/

/-- Ticks on which nothing moves and every request is served. -/
def undisturbed {ι : Type} (count : ℕ) : List (Tick ι) := List.replicate count ⟨[], .served⟩

theorem moves_of_mem_undisturbed {ι : Type} {count : ℕ} {tick : Tick ι}
    (h : tick ∈ undisturbed count) : tick.moves = [] := by
  rw [List.eq_of_mem_replicate h]

theorem verdict_of_mem_undisturbed {ι : Type} {count : ℕ} {tick : Tick ι}
    (h : tick ∈ undisturbed count) : tick.verdict = .served := by
  rw [List.eq_of_mem_replicate h]

/-- With enough undisturbed ticks the program ends with the given result in the given state, and
uses no more of them than its cost. -/
def Serves {σ ι o ε α : Type} (cost : ℕ) (program : Program σ ι o ε α) (state : σ)
    (result : Except ε α) (state' : σ) : Prop :=
  ∀ (count : ℕ) (trace : List (Entry σ ι o)), cost ≤ count → ∃ left trace', count ≤ left + cost ∧
    program ⟨state, undisturbed count, trace⟩ =
      (result.mapError Stop.failed, ⟨state', undisturbed left, trace'⟩)

namespace Serves

variable {σ ι o ε α β : Type} {state state' state'' : σ}

theorem pure (value : α) :
    Serves 0 (Pure.pure value : Program σ ι o ε α) state (.ok value) state :=
  fun count trace _ ↦ ⟨count, trace, Nat.le_refl _, rfl⟩

theorem fail (error : ε) :
    Serves 0 (Program.fail error : Program σ ι o ε α) state (.error error) state :=
  fun count trace _ ↦ ⟨count, trace, Nat.le_refl _, rfl⟩

theorem request [Interferes σ ι] (call : o) (error : ε) (effect : σ → σ) (reply : σ → α) :
    Serves 1 (Program.request call error effect reply : Program σ ι o ε α) state
      (.ok (reply state)) (effect state) := by
  intro count trace hcount
  obtain ⟨left, rfl⟩ : ∃ left, count = left + 1 := ⟨count - 1, by omega⟩
  exact ⟨left, _, Nat.le_refl _, rfl⟩

theorem query [Interferes σ ι] (call : o) (error : ε) (reply : σ → α) :
    Serves 1 (Program.query call error reply : Program σ ι o ε α) state (.ok (reply state)) state :=
  Serves.request call error id reply

theorem record (call : o) :
    Serves 0 (Program.record call : Program σ ι o ε Unit) state (.ok ()) state :=
  fun count _ _ ↦ ⟨count, _, Nat.le_refl _, rfl⟩

theorem mono {cost cost' : ℕ} {program : Program σ ι o ε α} {result : Except ε α}
    (h : Serves cost program state result state') (hle : cost ≤ cost') :
    Serves cost' program state result state' := by
  intro count trace hcount
  obtain ⟨left, trace', hleft, hrun⟩ := h count trace (Nat.le_trans hle hcount)
  exact ⟨left, trace', by omega, hrun⟩

theorem bind {cost cost' : ℕ} {program : Program σ ι o ε α} {next : α → Program σ ι o ε β}
    {value : α} {result : Except ε β} (h : Serves cost program state (.ok value) state')
    (hnext : Serves cost' (next value) state' result state'') :
    Serves (cost' + cost) (program >>= next) state result state'' := by
  intro count trace hcount
  obtain ⟨left, trace', hleft, hrun⟩ := h count trace (by omega)
  obtain ⟨left', trace'', hleft', hrun'⟩ := hnext left trace' (by omega)
  refine ⟨left', trace'', by omega, ?_⟩
  rw [Program.bind_apply, hrun]
  exact hrun'

/-- A query hands on what it reads from the state. -/
theorem query_bind [Interferes σ ι] {cost : ℕ} {call : o} {error : ε} {reply : σ → α}
    {next : α → Program σ ι o ε β} {result : Except ε β}
    (hnext : Serves cost (next (reply state)) state result state') :
    Serves (cost + 1) (Program.query call error reply >>= next) state result state' :=
  (Serves.query call error reply).bind hnext

theorem bind_error {cost : ℕ} {program : Program σ ι o ε α} {next : α → Program σ ι o ε β}
    {error : ε} (h : Serves cost program state (.error error) state') :
    Serves cost (program >>= next) state (.error error) state' := by
  intro count trace hcount
  obtain ⟨left, trace', hleft, hrun⟩ := h count trace hcount
  refine ⟨left, trace', hleft, ?_⟩
  rw [Program.bind_apply, hrun]
  rfl

theorem attempt {cost : ℕ} {program : Program σ ι o ε α} {value : α}
    (h : Serves cost program state (.ok value) state') :
    Serves cost (Program.attempt program) state (.ok (.ok value)) state' := by
  intro count trace hcount
  obtain ⟨left, trace', hleft, hrun⟩ := h count trace hcount
  refine ⟨left, trace', hleft, ?_⟩
  rw [Program.attempt, hrun]
  rfl

/-- A round that ends the loop. -/
theorem iterate_done {cost : ℕ} {body : β → Program σ ι o ε (β ⊕ α)} {start : β} {value : α}
    (h : Serves cost (body start) state (.ok (.inr value)) state') {fuel : ℕ} (hfuel : 1 ≤ fuel) :
    Serves cost (Program.iterate body fuel start) state (.ok value) state' := by
  obtain ⟨rest, rfl⟩ : ∃ rest, fuel = rest + 1 := ⟨fuel - 1, by omega⟩
  rw [Program.iterate, ← Nat.zero_add cost]
  apply h.bind
  exact Serves.pure value

/-- A round that goes on, followed by the rounds after it. -/
theorem iterate_next {cost cost' : ℕ} {body : β → Program σ ι o ε (β ⊕ α)} {start next : β}
    {result : Except ε α} (h : Serves cost (body start) state (.ok (.inl next)) state')
    {fuel : ℕ} (hnext : Serves cost' (Program.iterate body fuel next) state' result state'') :
    Serves (cost' + cost) (Program.iterate body (fuel + 1) start) state result state'' := by
  rw [Program.iterate]
  apply h.bind
  exact hnext

/-- A loop that needs no more rounds than it costs. -/
theorem loop {cost rounds : ℕ} {body : β → Program σ ι o ε (β ⊕ α)} {start : β}
    {result : Except ε α}
    (h : ∀ fuel, rounds ≤ fuel → Serves cost (Program.iterate body fuel start) state result state')
    (hrounds : rounds ≤ cost) : Serves cost (Program.loop body start) state result state' := by
  intro count trace hcount
  have hlength : (undisturbed count : List (Tick ι)).length = count := List.length_replicate
  exact h ((undisturbed count : List (Tick ι)).length + 1) (by omega) count trace hcount

end Serves

/-- Undisturbed, the program ends without a change of the state, and it returns exactly if the
condition holds. -/
def Decides {σ ι o ε : Type} (program : Program σ ι o ε Unit) (state : σ) (condition : Prop) :
    Prop :=
  ∃ cost result, Serves cost program state result state ∧ (result = .ok () ↔ condition)

namespace Decides

variable {σ ι o ε α : Type} {state : σ} {condition condition' : Prop}

theorem pure (h : condition) : Decides (Pure.pure () : Program σ ι o ε Unit) state condition :=
  ⟨0, .ok (), Serves.pure (), iff_of_true rfl h⟩

theorem fail {error : ε} (h : ¬condition) :
    Decides (Program.fail error : Program σ ι o ε Unit) state condition :=
  ⟨0, .error error, Serves.fail error, iff_of_false (fun hok ↦ by cases hok) h⟩

/-- What comes after a program that returns decides. -/
theorem bind {cost : ℕ} {program : Program σ ι o ε α} {next : α → Program σ ι o ε Unit} {value : α}
    (h : Serves cost program state (.ok value) state)
    (hnext : Decides (next value) state condition) :
    Decides (program >>= next) state condition := by
  obtain ⟨cost', result, hserves, hresult⟩ := hnext
  exact ⟨cost' + cost, result, h.bind hserves, hresult⟩

/-- A program that fails decides against everything after it. -/
theorem bind_error {cost : ℕ} {program : Program σ ι o ε α} {next : α → Program σ ι o ε Unit}
    {error : ε} (h : Serves cost program state (.error error) state) (hcondition : ¬condition) :
    Decides (program >>= next) state condition :=
  ⟨cost, .error error, h.bind_error, iff_of_false (fun hok ↦ by cases hok) hcondition⟩

/-- One check after the other. -/
theorem and {first second : Program σ ι o ε Unit} (h : Decides first state condition)
    (h' : Decides second state condition') :
    Decides (do first; second) state (condition ∧ condition') := by
  obtain ⟨cost, result, hserves, hresult⟩ := h
  cases result with
  | ok value =>
    obtain ⟨cost', result', hserves', hresult'⟩ := h'
    refine ⟨cost' + cost, result', hserves.bind hserves', ?_⟩
    rw [hresult', and_iff_right (hresult.mp rfl)]
  | error error =>
    refine bind_error hserves fun hboth ↦ ?_
    cases hresult.mpr hboth.1

theorem congr {program : Program σ ι o ε Unit} (h : Decides program state condition)
    (hiff : condition ↔ condition') : Decides program state condition' := by
  obtain ⟨cost, result, hserves, hresult⟩ := h
  exact ⟨cost, result, hserves, hresult.trans hiff⟩

end Decides

/-! ## Restarted processes -/

/-- One start of a process: what happens before it, its input and its schedule. -/
structure Start (ι κ : Type) where
  moves : List ι
  input : κ
  schedule : List (Tick ι)

/-- One run of a process, from the state it found to the machine it left. -/
structure Run (σ ι o ε κ α : Type) where
  input : κ
  start : σ
  result : Except (Stop ε) α
  final : Machine σ ι o

/-- A process that is started again and again on what its previous runs left behind. -/
def restarts {σ ι o ε κ α : Type} [Interferes σ ι] (program : κ → Program σ ι o ε α) :
    List (Start ι κ) → σ → List (Run σ ι o ε κ α)
  | [], _ => []
  | first :: rest, state =>
    let start := after first.moves state
    let outcome := program first.input ⟨start, first.schedule, []⟩
    ⟨first.input, start, outcome.1, outcome.2⟩ :: restarts program rest outcome.2.state

/-- Every run of a series is a run of the program on a fresh trace. -/
theorem restarts_mem {σ ι o ε κ α : Type} [Interferes σ ι] {program : κ → Program σ ι o ε α}
    {starts : List (Start ι κ)} {state : σ} {run : Run σ ι o ε κ α}
    (h : run ∈ restarts program starts state) :
    ∃ start ∈ starts, start.input = run.input ∧
      program run.input ⟨run.start, start.schedule, []⟩ = (run.result, run.final) := by
  induction starts generalizing state with
  | nil => exact absurd h List.not_mem_nil
  | cons first rest ih =>
    rcases List.mem_cons.mp h with rfl | hrest
    · exact ⟨first, List.mem_cons_self, rfl, rfl⟩
    · obtain ⟨start, hstart, hrun⟩ := ih hrest
      exact ⟨start, List.mem_cons_of_mem _ hstart, hrun⟩

end MayastorExtensions.Scheduled
