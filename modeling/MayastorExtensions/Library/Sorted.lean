import Mathlib.Data.List.Pairwise
import Mathlib.Order.Bounds.Basic

/-!
# The greatest entry of a list

Sorted either way, a list has its greatest entry at one of its ends.
-/

namespace MayastorExtensions.Sorted

variable {α : Type} [PartialOrder α] {entries : List α} {greatest : α}

/-- A descending list starts with its greatest entry. -/
theorem head?_eq_some_iff (hsorted : entries.Pairwise fun left right ↦ right ≤ left) :
    entries.head? = some greatest ↔ IsGreatest {entry | entry ∈ entries} greatest := by
  cases entries with
  | nil => simp [IsGreatest]
  | cons head rest =>
    have hhead : IsGreatest {entry | entry ∈ head :: rest} head := by
      refine ⟨List.mem_cons_self, ?_⟩
      intro other hother
      rcases List.mem_cons.mp hother with rfl | hrest
      · exact le_rfl
      · exact (List.pairwise_cons.mp hsorted).1 other hrest
    rw [List.head?_cons, Option.some.injEq]
    constructor
    · rintro rfl
      exact hhead
    · exact hhead.unique

/-- An ascending list ends with its greatest entry. -/
theorem getLast?_eq_some_iff (hsorted : entries.Pairwise fun left right ↦ left ≤ right) :
    entries.getLast? = some greatest ↔ IsGreatest {entry | entry ∈ entries} greatest := by
  rw [← List.head?_reverse, head?_eq_some_iff (List.pairwise_reverse.mpr hsorted)]
  simp only [List.mem_reverse]

end MayastorExtensions.Sorted
