import Mathlib.Data.List.Basic
import Mathlib.Logic.Function.Basic

/-!
# Programs that only write

A program over a state of keys and values that writes and never reads.  What it returns and what it
writes do not depend on the state, so the program is described by its result and the list of its
writes.  As long as two writes to one key write the same value, the state that a list of writes
leaves behind depends on the writes in the list only, and not on their order.
-/

namespace MayastorExtensions.Assignments

variable {κ ν ε ε' α β : Type} [DecidableEq κ]

/-! ## Writes -/

/-- The values after writes, one after the other. -/
def assign (writes : List (κ × ν)) (values : κ → ν) : κ → ν :=
  writes.foldl (fun values write ↦ Function.update values write.1 write.2) values

/-- Writes to one key write the same value. -/
def Agree (writes : List (κ × ν)) : Prop :=
  ∀ write ∈ writes, ∀ other ∈ writes, write.1 = other.1 → write.2 = other.2

theorem assign_append (writes more : List (κ × ν)) (values : κ → ν) :
    assign (writes ++ more) values = assign more (assign writes values) :=
  List.foldl_append

/-- Keys that are not written keep their values. -/
theorem assign_of_forall_ne {writes : List (κ × ν)} {key : κ}
    (h : ∀ write ∈ writes, write.1 ≠ key) (values : κ → ν) :
    assign writes values key = values key := by
  induction writes generalizing values with
  | nil => rfl
  | cons write rest ih =>
    rw [List.forall_mem_cons] at h
    calc assign (write :: rest) values key
        = assign rest (Function.update values write.1 write.2) key := rfl
      _ = Function.update values write.1 write.2 key := ih h.2 _
      _ = values key := Function.update_of_ne h.1.symm _ _

/-- A value that is written can be read back if no other one is written to its key. -/
theorem assign_eq_of_mem {writes : List (κ × ν)} {key : κ} {value : ν}
    (hsame : ∀ write ∈ writes, write.1 = key → write.2 = value) (hmem : (key, value) ∈ writes)
    (values : κ → ν) : assign writes values key = value := by
  induction writes generalizing values with
  | nil => exact absurd hmem List.not_mem_nil
  | cons first rest ih =>
    rw [List.forall_mem_cons] at hsame
    by_cases hlater : (key, value) ∈ rest
    · exact ih hsame.2 hlater _
    · obtain rfl := (List.mem_cons.mp hmem).resolve_right hlater
      have hne : ∀ write ∈ rest, write.1 ≠ key := by
        intro write hwrite hkey
        have hwritten : write = (key, value) := Prod.ext hkey (hsame.2 write hwrite hkey)
        exact hlater (hwritten ▸ hwrite)
      calc assign ((key, value) :: rest) values key
          = assign rest (Function.update values key value) key := rfl
        _ = Function.update values key value key := assign_of_forall_ne hne _
        _ = value := Function.update_self _ _ _

/-- Among writes that agree, each one can be read back. -/
theorem assign_of_mem {writes : List (κ × ν)} {write : κ × ν} (hagree : Agree writes)
    (hwrite : write ∈ writes) (values : κ → ν) : assign writes values write.1 = write.2 :=
  assign_eq_of_mem (fun other hother hkey ↦ hagree other hother write hwrite hkey) hwrite values

/-! ## Programs -/

/-- A program over a state of keys and values, which may fail. -/
def Storing (κ ν ε α : Type) := (κ → ν) → Except ε α × (κ → ν)

namespace Storing

instance : Monad (Storing κ ν ε) where
  pure value := fun values ↦ (.ok value, values)
  bind program next := fun values ↦
    match program values with
    | (.ok value, values') => next value values'
    | (.error error, values') => (.error error, values')

def ofExcept (outcome : Except ε α) : Storing κ ν ε α := fun values ↦ (outcome, values)

def write (key : κ) (value : ν) : Storing κ ν ε Unit := fun values ↦
  (.ok (), Function.update values key value)

/-- Go on with the outcome, whatever it is. -/
def attempt (program : Storing κ ν ε α) : Storing κ ν ε' (Except ε α) := fun values ↦
  ((.ok (program values).1 : Except ε' (Except ε α)), (program values).2)

end Storing

/-- Whatever the state, the program has this outcome and makes these writes. -/
def Writes (program : Storing κ ν ε α) (outcome : Except ε α) (writes : List (κ × ν)) : Prop :=
  ∀ values, program values = (outcome, assign writes values)

namespace Writes

theorem pure (value : α) : Writes (Pure.pure value : Storing κ ν ε α) (.ok value) [] :=
  fun _ ↦ rfl

theorem ofExcept (outcome : Except ε α) :
    Writes (Storing.ofExcept outcome : Storing κ ν ε α) outcome [] :=
  fun _ ↦ rfl

theorem write (key : κ) (value : ν) :
    Writes (Storing.write key value : Storing κ ν ε Unit) (.ok ()) [(key, value)] :=
  fun _ ↦ rfl

variable {program : Storing κ ν ε α} {next : α → Storing κ ν ε β} {writes more : List (κ × ν)}

theorem bind {value : α} {outcome : Except ε β} (h : Writes program (.ok value) writes)
    (hnext : Writes (next value) outcome more) :
    Writes (program >>= next) outcome (writes ++ more) := by
  intro values
  calc (program >>= next) values
      = next value (assign writes values) := by simp only [Bind.bind, h values]
    _ = (outcome, assign more (assign writes values)) := hnext _
    _ = (outcome, assign (writes ++ more) values) := by rw [assign_append]

/-- What follows writes nothing. -/
theorem bind_silent {value : α} {outcome : Except ε β} (h : Writes program (.ok value) writes)
    (hnext : Writes (next value) outcome []) : Writes (program >>= next) outcome writes := by
  have hbind := h.bind hnext
  rwa [List.append_nil] at hbind

theorem bind_error {error : ε} (h : Writes program (.error error) writes) :
    Writes (program >>= next) (.error error) writes := by
  intro values
  simp only [Bind.bind, h values]

/-- A value that is written over does not count. -/
theorem overwrite {outcome : Except ε α} {key : κ} {old new : ν} {rest : List (κ × ν)}
    (h : Writes program outcome ((key, old) :: (key, new) :: rest)) :
    Writes program outcome ((key, new) :: rest) := by
  intro values
  rw [h values]
  simp only [assign, List.foldl_cons, Function.update_idem]

theorem attempt {outcome : Except ε α} (h : Writes program outcome writes) :
    Writes (Storing.attempt program : Storing κ ν ε' (Except ε α)) (.ok outcome) writes := by
  intro values
  simp only [Storing.attempt, h values]

end Writes

end MayastorExtensions.Assignments
