import Mathlib.Data.List.Basic

/-!
# Outcomes

Computations that end with a value or with an error: how a sequence that succeeded is taken apart,
and when the same computation succeeds on every item of a list.
-/

namespace MayastorExtensions.Outcome

variable {α β γ ε : Type}

/-- A sequence that succeeded went through both of its parts. -/
theorem bind_eq_ok {first : Except ε α} {next : α → Except ε β} {result : β}
    (h : (first >>= next) = .ok result) :
    ∃ value, first = .ok value ∧ next value = .ok result := by
  cases first with
  | error error => cases h
  | ok value => exact ⟨value, rfl, h⟩

theorem exists_ok {outcome : Except ε α} (h : outcome.isOk) : ∃ value, outcome = .ok value := by
  cases outcome with
  | error error => cases h
  | ok value => exact ⟨value, rfl⟩

theorem exists_values {ι : Type} {outcomes : ι → Except ε α}
    (h : ∀ index, (outcomes index).isOk) :
    ∃ values : ι → α, ∀ index, outcomes index = .ok (values index) := by
  choose values hvalues using fun index ↦ exists_ok (h index)
  exact ⟨values, hvalues⟩

theorem isOk_map (f : α → β) (outcome : Except ε α) : (f <$> outcome).isOk = outcome.isOk := by
  cases outcome <;> rfl

/-- One item that fails fails the whole list. -/
theorem isOk_mapM_iff (convert : α → Except ε β) (items : List α) :
    (items.mapM convert).isOk ↔ ∀ item ∈ items, (convert item).isOk := by
  induction items with
  | nil => exact ⟨fun _ _ hmem ↦ absurd hmem List.not_mem_nil, fun _ ↦ rfl⟩
  | cons item items ih =>
    rw [List.mapM_cons, List.forall_mem_cons, ← ih]
    cases convert item with
    | error error => simp [bind, Except.bind, Except.isOk, Except.toBool]
    | ok built =>
      cases items.mapM convert with
      | error error => simp [bind, Except.bind, Except.isOk, Except.toBool]
      | ok rest => simp [bind, Except.bind, pure, Except.pure, Except.isOk, Except.toBool]

theorem mapM_map_eq_ok {convert : β → Except ε γ} {view : α → β} (result : α → γ) {items : List α}
    (h : ∀ item ∈ items, convert (view item) = .ok (result item)) :
    (items.map view).mapM convert = .ok (items.map result) := by
  induction items with
  | nil => rfl
  | cons item items ih =>
    rw [List.forall_mem_cons] at h
    rw [List.map_cons, List.mapM_cons, h.1, ih h.2]
    rfl

/-! ## Outcomes under a condition -/

/-- The outcome is the result where the condition holds, and elsewhere an error of a kind. -/
def Settles (outcome : Except ε α) (condition : Prop) (result : α) (kind : ε → Prop) : Prop :=
  (condition ∧ outcome = .ok result) ∨ (¬condition ∧ ∃ error, kind error ∧ outcome = .error error)

namespace Settles

variable {ε' : Type} {outcome : Except ε α} {condition condition' : Prop} {result : α}
  {kind : ε → Prop}

theorem eq_ok (h : Settles outcome condition result kind) (hholds : condition) :
    outcome = .ok result := by
  rcases h with ⟨-, hresult⟩ | ⟨hfails, -⟩
  · exact hresult
  · exact absurd hholds hfails

theorem isOk_iff (h : Settles outcome condition result kind) : outcome.isOk ↔ condition := by
  rcases h with ⟨hholds, rfl⟩ | ⟨hfails, error, -, rfl⟩
  · exact iff_of_true rfl hholds
  · exact iff_of_false (by simp [Except.isOk, Except.toBool]) hfails

theorem congr (h : Settles outcome condition result kind) (hiff : condition ↔ condition') :
    Settles outcome condition' result kind := by
  rwa [← propext hiff]

theorem mapError {convert : ε → ε'} {kind' : ε' → Prop} (h : Settles outcome condition result kind)
    (hkind : ∀ error, kind error → kind' (convert error)) :
    Settles (outcome.mapError convert) condition result kind' := by
  rcases h with ⟨hholds, rfl⟩ | ⟨hfails, error, herror, rfl⟩
  · exact .inl ⟨hholds, rfl⟩
  · exact .inr ⟨hfails, convert error, hkind error herror, rfl⟩

theorem bind {next : α → Except ε β} {result' : β} (h : Settles outcome condition result kind)
    (hnext : Settles (next result) condition' result' kind) :
    Settles (outcome >>= next) (condition ∧ condition') result' kind := by
  rcases h with ⟨hholds, rfl⟩ | ⟨hfails, error, herror, rfl⟩
  · rcases hnext with ⟨hholds', hresult⟩ | ⟨hfails', hresult⟩
    · exact .inl ⟨⟨hholds, hholds'⟩, hresult⟩
    · exact .inr ⟨fun hboth ↦ hfails' hboth.2, hresult⟩
  · exact .inr ⟨fun hboth ↦ hfails hboth.1, error, herror, rfl⟩

theorem bind_pure (convert : α → β) (h : Settles outcome condition result kind) :
    Settles (outcome >>= fun value ↦ pure (convert value)) condition (convert result) kind := by
  rcases h with ⟨hholds, rfl⟩ | ⟨hfails, error, herror, rfl⟩
  · exact .inl ⟨hholds, rfl⟩
  · exact .inr ⟨hfails, error, herror, rfl⟩

/-- Over a list, the condition has to hold for every item. -/
theorem mapM {convert : α → Except ε β} {good : α → Prop} {result : α → β} {items : List α}
    (h : ∀ item ∈ items, Settles (convert item) (good item) (result item) kind) :
    Settles (items.mapM convert) (∀ item ∈ items, good item) (items.map result) kind := by
  induction items with
  | nil => exact .inl ⟨fun _ hmem ↦ absurd hmem List.not_mem_nil, rfl⟩
  | cons item items ih =>
    rw [List.forall_mem_cons] at h
    rw [List.mapM_cons, List.map_cons, List.forall_mem_cons]
    exact h.1.bind ((ih h.2).bind_pure fun rest ↦ result item :: rest)

end Settles

end MayastorExtensions.Outcome
