import MayastorExtensions.Library.Scheduled

/-!
# Segments of a trace

A program only appends to the trace and never reads it.  What it does on an empty trace is
therefore what it appends to any other, and a specification of the program alone becomes one of
the segment that the program leaves behind a given past.
-/

namespace MayastorExtensions.Scheduled

open Program

variable {σ ι o ε α β : Type}

/-- A machine whose trace continues the given past. -/
def Machine.behind (past : List (Entry σ ι o)) (m : Machine σ ι o) : Machine σ ι o :=
  { m with trace := past ++ m.trace }

/-- A past in front of the trace stays there and changes nothing else. -/
def Appends (program : Program σ ι o ε α) : Prop :=
  ∀ past m, program (m.behind past) = ((program m).1, (program m).2.behind past)

namespace Appends

theorem pure {value : α} : Appends (Pure.pure value : Program σ ι o ε α) :=
  fun _ _ ↦ rfl

theorem fail {error : ε} : Appends (Program.fail error : Program σ ι o ε α) :=
  fun _ _ ↦ rfl

theorem ofExcept {result : Except ε α} :
    Appends (Program.ofExcept result : Program σ ι o ε α) := by
  cases result with
  | ok value => exact pure
  | error error => exact fail

theorem bind {program : Program σ ι o ε α} {next : α → Program σ ι o ε β}
    (hprogram : Appends program) (hnext : ∀ value, Appends (next value)) :
    Appends (program >>= next) := by
  intro past m
  rw [bind_apply, bind_apply, hprogram past m]
  cases program m with
  | mk result m' =>
    cases result with
    | ok value => exact hnext value past m'
    | error stop => rfl

theorem request [Interferes σ ι] {call : o} {error : ε} {effect : σ → σ} {reply : σ → α} :
    Appends (Program.request call error effect reply : Program σ ι o ε α) := by
  rintro past ⟨state, schedule, trace⟩
  cases schedule with
  | nil => rfl
  | cons tick rest =>
    obtain ⟨moves, verdict⟩ := tick
    cases verdict <;> simp [Program.request, Machine.behind]

theorem query [Interferes σ ι] {call : o} {error : ε} {reply : σ → α} :
    Appends (Program.query call error reply : Program σ ι o ε α) :=
  Appends.request

theorem iterate {body : β → Program σ ι o ε (β ⊕ α)} (hbody : ∀ current, Appends (body current))
    (fuel : ℕ) (start : β) : Appends (Program.iterate body fuel start) := by
  induction fuel generalizing start with
  | zero => exact fun _ _ ↦ rfl
  | succ fuel ih =>
    refine bind (hbody start) fun result ↦ ?_
    cases result with
    | inl next => exact ih next
    | inr value => exact pure

theorem loop {body : β → Program σ ι o ε (β ⊕ α)} {start : β}
    (hbody : ∀ current, Appends (body current)) : Appends (Program.loop body start) :=
  fun past m ↦ iterate hbody (m.schedule.length + 1) start past m

theorem forEach {body : β → Program σ ι o ε Unit} {elements : List β}
    (hbody : ∀ element, Appends (body element)) : Appends (Program.forEach body elements) := by
  induction elements with
  | nil => exact pure
  | cons head tail ih => exact bind (hbody head) fun _ ↦ ih

theorem attempt {program : Program σ ι o ε α} (h : Appends program) :
    Appends (Program.attempt program) := by
  intro past m
  rw [Program.attempt, Program.attempt, h past m]
  cases program m with
  | mk result m' =>
    cases result with
    | ok value => rfl
    | error stop => cases stop <;> rfl

theorem ite {condition : Prop} [Decidable condition] {first second : Program σ ι o ε α}
    (hfirst : Appends first) (hsecond : Appends second) :
    Appends (if condition then first else second) := by
  split
  · exact hfirst
  · exact hsecond

/-- What holds of a trace and all its continuations is kept. -/
theorem keeps {rely : Tick ι → Prop} (hrely : ∀ tick, rely tick)
    {kept : List (Entry σ ι o) → Prop} {program : Program σ ι o ε α} (h : Appends program)
    (hkept : ∀ past since, kept past → kept (past ++ since)) :
    Keeps rely (fun _ ↦ kept) program := by
  rintro ⟨state, schedule, trace⟩ _ htrace
  have hrun := h trace ⟨state, schedule, []⟩
  rw [Machine.behind, List.append_nil] at hrun
  have hafter : kept (program ⟨state, schedule, trace⟩).2.trace := by
    rw [hrun]
    exact hkept trace _ htrace
  refine ⟨fun tick _ ↦ hrely tick, ?_⟩
  cases (program ⟨state, schedule, trace⟩).1 with
  | ok value => exact hafter
  | error stop => exact hafter

end Appends

/-- What a program does on an empty trace describes the segment it appends to a past. -/
theorem Triple.segment {rely : Tick ι → Prop} {program : Program σ ι o ε α}
    {returned : α → Assertion σ ι o} {stopped : Assertion σ ι o} (happends : Appends program)
    (h : Triple rely (fun _ trace ↦ trace = []) program returned stopped)
    (past : List (Entry σ ι o) → Prop) :
    Triple rely (fun _ ↦ past) program
      (fun value state trace ↦ ∃ earlier since, trace = earlier ++ since ∧ past earlier ∧
        returned value state since)
      (fun state trace ↦ ∃ earlier since, trace = earlier ++ since ∧ past earlier ∧
        stopped state since) := by
  rintro ⟨state, schedule, trace⟩ hrely hpast
  have hrun := happends trace ⟨state, schedule, []⟩
  rw [Machine.behind, List.append_nil] at hrun
  obtain ⟨hschedule, hresult⟩ := h ⟨state, schedule, []⟩ hrely rfl
  rw [hrun]
  refine ⟨hschedule, ?_⟩
  revert hresult
  cases (program ⟨state, schedule, []⟩).1 with
  | ok value => exact fun hreturned ↦ ⟨trace, _, rfl, hpast, hreturned⟩
  | error stop => exact fun hstopped ↦ ⟨trace, _, rfl, hpast, hstopped⟩

/-- The request was served, and the value is what it read. -/
def Answers (call : o) (reply : σ → α) (value : α) (entry : Entry σ ι o) : Prop :=
  entry.call = call ∧ entry.verdict = .served ∧ value = reply entry.seen

/-- A query that was answered is the last entry of the trace. -/
theorem Triple.query_last [Interferes σ ι] {rely : Tick ι → Prop} {call : o} {error : ε}
    {reply : σ → α} {past : List (Entry σ ι o) → Prop} :
    Triple rely (fun _ ↦ past) (Program.query call error reply : Program σ ι o ε α)
      (fun value _ trace ↦ ∃ earlier entry, trace = earlier ++ [entry] ∧ past earlier ∧
        Answers call reply value entry)
      (fun _ _ ↦ True) :=
  Triple.query (fun _ _ _ ↦ trivial)
    (fun _ trace _ _ h ↦ ⟨trace, _, rfl, h, rfl, rfl, rfl⟩) fun _ _ _ _ _ _ ↦ trivial

/-- Against an unrestricted environment every program satisfies the empty specification. -/
theorem Triple.unspecified {rely : Tick ι → Prop} (hrely : ∀ tick, rely tick)
    {program : Program σ ι o ε α} {before : Assertion σ ι o} :
    Triple rely before program (fun _ _ _ ↦ True) fun _ _ ↦ True := by
  intro m _ _
  refine ⟨fun tick _ ↦ hrely tick, ?_⟩
  cases (program m).1 with
  | ok value => trivial
  | error stop => trivial

/-- The segment a program appends, with what the program keeps in it. -/
theorem Triple.kept_segment {rely : Tick ι → Prop} {program : Program σ ι o ε α}
    {returned : α → Assertion σ ι o} {kept : List (Entry σ ι o) → Prop}
    (happends : Appends program)
    (h : Triple rely (fun _ _ ↦ True) program returned fun _ _ ↦ True)
    (hkeeps : Keeps rely (fun _ ↦ kept) program) (hempty : kept [])
    (past : List (Entry σ ι o) → Prop) :
    Triple rely (fun _ ↦ past) program
      (fun value state trace ↦ ∃ earlier since, trace = earlier ++ since ∧ past earlier ∧
        returned value state since ∧ kept since)
      (fun _ trace ↦ ∃ earlier since, trace = earlier ++ since ∧ past earlier ∧ kept since) := by
  have hstart : Triple rely (fun _ trace ↦ trace = []) program
      (fun value state since ↦ returned value state since ∧ kept since)
      (fun _ since ↦ kept since) := by
    refine (h.and hkeeps).weaken ?_ (fun _ _ _ hboth ↦ hboth) fun _ _ hboth ↦ hboth.2
    rintro _ _ rfl
    exact ⟨trivial, hempty⟩
  exact hstart.segment happends past

/-! ## Programs with other requests and errors -/

/-- The same reason under another name for errors. -/
def Stop.map {ε ε' : Type} (error : ε → ε') : Stop ε → Stop ε'
  | .failed cause => .failed (error cause)
  | .crashed => .crashed

/-- The same entry under another name for requests. -/
def Entry.rename {o' : Type} (call : o → o') (entry : Entry σ ι o) : Entry σ ι o' :=
  ⟨call entry.call, entry.moves, entry.seen, entry.verdict⟩

/-- Run a program on the same services under other names for its requests and errors. -/
def Program.embed {o' ε' : Type} (call : o → o') (error : ε → ε') (program : Program σ ι o ε α) :
    Program σ ι o' ε' α := fun m ↦
  let outcome := program ⟨m.state, m.schedule, []⟩
  (outcome.1.mapError (Stop.map error),
    ⟨outcome.2.state, outcome.2.schedule, m.trace ++ outcome.2.trace.map (Entry.rename call)⟩)

/-- What a program does alone describes the segment that it appends under other names. -/
theorem Triple.embed {o' ε' : Type} {rely : Tick ι → Prop} {program : Program σ ι o ε α}
    {before : σ → Prop} {returned : α → Assertion σ ι o} {stopped : Assertion σ ι o}
    (call : o → o') (error : ε → ε')
    (h : Triple rely (fun state trace ↦ before state ∧ trace = []) program returned stopped)
    (past : List (Entry σ ι o') → Prop) :
    Triple rely (fun state trace ↦ before state ∧ past trace)
      (Program.embed call error program : Program σ ι o' ε' α)
      (fun value state trace ↦ ∃ earlier since, trace = earlier ++ since.map (Entry.rename call) ∧
        past earlier ∧ returned value state since)
      (fun state trace ↦ ∃ earlier since, trace = earlier ++ since.map (Entry.rename call) ∧
        past earlier ∧ stopped state since) := by
  rintro ⟨state, schedule, trace⟩ hrely ⟨hbefore, hpast⟩
  obtain ⟨hschedule, hresult⟩ := h ⟨state, schedule, []⟩ hrely ⟨hbefore, rfl⟩
  simp only [Program.embed]
  cases hprogram : program ⟨state, schedule, []⟩ with
  | mk result m =>
    rw [hprogram] at hschedule hresult
    refine ⟨hschedule, ?_⟩
    cases result with
    | ok value => exact ⟨trace, m.trace, rfl, hpast, hresult⟩
    | error stop => exact ⟨trace, m.trace, rfl, hpast, hresult⟩

end MayastorExtensions.Scheduled
