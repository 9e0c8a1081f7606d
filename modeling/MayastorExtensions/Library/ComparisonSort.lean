import Mathlib.Data.List.FinRange
import Mathlib.Data.List.Pairwise
import Mathlib.Data.List.Sort
import Mathlib.Order.WithBot
import MayastorExtensions.Library.Outcome

/-!
# Sorting by comparisons

A sort that learns about its items by comparing them two at a time is a binary tree of comparisons.
The keys are computed whenever two items are compared, and computing a key can fail; the failure
ends the sort.  Which comparisons are made, and in which order items of equal keys come out, is left
to the algorithm.

An algorithm that sorts under every order has to compare every item: one that was never compared
could as well be the least as the greatest.  So a single key that fails ends the sort of any two or
more items.
-/

namespace MayastorExtensions.ComparisonSort

/-- What is done with some items until the answer is known. -/
inductive Comparisons (ι α : Type) where
  | done (answer : α)
  | compare (left right : ι) (less notLess : Comparisons ι α)

namespace Comparisons

variable {ι α β ε K : Type} [LinearOrder K]

/-- The answer for keys that are at hand. -/
def eval (keys : ι → K) : Comparisons ι α → α
  | done answer => answer
  | compare left right less notLess =>
    if keys left < keys right then less.eval keys else notLess.eval keys

/-- The answer for keys that are computed when they are needed. -/
def run (keys : ι → Except ε K) : Comparisons ι α → Except ε α
  | done answer => .ok answer
  | compare left right less notLess => do
    let leftKey ← keys left
    let rightKey ← keys right
    if leftKey < rightKey then less.run keys else notLess.run keys

theorem run_ok (keys : ι → K) (comparisons : Comparisons ι α) :
    comparisons.run (fun item ↦ (.ok (keys item) : Except ε K)) =
      .ok (comparisons.eval keys) := by
  induction comparisons with
  | done answer => rfl
  | compare left right less notLess ihLess ihNotLess =>
    change (if keys left < keys right then _ else _) = _
    rw [ihLess, ihNotLess, eval]
    split
    · rfl
    · rfl

/-- The answer only depends on the keys that could be computed. -/
theorem eval_eq_of_run {L : Type} [LinearOrder L] {keys : ι → Except ε K} {keys' : ι → L}
    (hagree : ∀ left right leftKey rightKey, keys left = .ok leftKey → keys right = .ok rightKey →
      (keys' left < keys' right ↔ leftKey < rightKey))
    {comparisons : Comparisons ι α} {answer : α} (h : comparisons.run keys = .ok answer) :
    comparisons.eval keys' = answer := by
  induction comparisons with
  | done answer' => exact Except.ok.inj h
  | compare left right less notLess ihLess ihNotLess =>
    obtain ⟨leftKey, hleft, h⟩ := Outcome.bind_eq_ok h
    obtain ⟨rightKey, hright, h⟩ := Outcome.bind_eq_ok h
    rw [eval, if_congr (hagree left right leftKey rightKey hleft hright) rfl rfl]
    split at h
    next hlt => rw [if_pos hlt, ihLess h]
    next hge => rw [if_neg hge, ihNotLess h]

end Comparisons

/-- An algorithm for every number of items.  It answers with their positions, sorted by key. -/
structure UnstableSort where
  comparisons : (n : ℕ) → Comparisons (Fin n) (List (Fin n))
  permutes : ∀ n (K : Type) [LinearOrder K] (keys : Fin n → K),
    ((comparisons n).eval keys).Perm (List.finRange n)
  sorts : ∀ n (K : Type) [LinearOrder K] (keys : Fin n → K),
    ((comparisons n).eval keys).Pairwise fun left right ↦ keys left ≤ keys right

/-! ## Every item is compared -/

section Untouched

variable {ε K : Type} {n : ℕ} {keys : Fin n → Except ε K} {item : Fin n}

/-- Keys that put one item at one end of the order, and the items without a key at the other. -/
def placed (keys : Fin n → Except ε K) (item : Fin n) (place opposite : WithBot (WithTop K))
    (other : Fin n) : WithBot (WithTop K) :=
  if other = item then place
  else match keys other with
    | .ok key => ((key : WithTop K) : WithBot (WithTop K))
    | .error _ => opposite

theorem placed_self (place opposite : WithBot (WithTop K)) :
    placed keys item place opposite item = place :=
  if_pos rfl

theorem placed_of_ok {place opposite : WithBot (WithTop K)} {error : ε}
    (hitem : keys item = .error error) {other : Fin n} {key : K} (hother : keys other = .ok key) :
    placed keys item place opposite other = ((key : WithTop K) : WithBot (WithTop K)) := by
  have hne : other ≠ item := by
    rintro rfl
    rw [hitem] at hother
    cases hother
  rw [placed, if_neg hne, hother]

variable [LinearOrder K]

theorem bot_lt_placed {other : Fin n} (hne : other ≠ item) : ⊥ < placed keys item ⊥ ⊤ other := by
  rw [placed, if_neg hne]
  cases keys other with
  | error error => exact bot_lt_top
  | ok key => exact WithBot.bot_lt_coe _

theorem placed_lt_top {other : Fin n} (hne : other ≠ item) : placed keys item ⊤ ⊥ other < ⊤ := by
  rw [placed, if_neg hne]
  cases keys other with
  | error error => exact bot_lt_top
  | ok key => exact WithBot.coe_lt_coe.mpr (WithTop.coe_lt_top key)

/-- Where the least place and the greatest one give the same order, the item has no neighbour. -/
theorem eq_iff_of_placed_le {left right : Fin n}
    (hlow : placed keys item ⊥ ⊤ left ≤ placed keys item ⊥ ⊤ right)
    (hhigh : placed keys item ⊤ ⊥ left ≤ placed keys item ⊤ ⊥ right) :
    left = item ↔ right = item := by
  constructor
  · rintro rfl
    by_contra hright
    rw [placed_self] at hhigh
    exact hhigh.not_gt (placed_lt_top hright)
  · rintro rfl
    by_contra hleft
    rw [placed_self] at hlow
    exact hlow.not_gt (bot_lt_placed hleft)

namespace UnstableSort

variable (sort : UnstableSort) {answer : List (Fin n)}

/-- If the key of an item was not computed, the answer is the same for every place of the item. -/
theorem eval_placed (h : (sort.comparisons n).run keys = .ok answer) {error : ε}
    (hitem : keys item = .error error) (place opposite : WithBot (WithTop K)) :
    (sort.comparisons n).eval (placed keys item place opposite) = answer := by
  refine Comparisons.eval_eq_of_run (fun left right leftKey rightKey hleft hright ↦ ?_) h
  rw [placed_of_ok hitem hleft, placed_of_ok hitem hright, WithBot.coe_lt_coe, WithTop.coe_lt_coe]

/-- An item whose key was not computed is the only one. -/
theorem eq_of_run (h : (sort.comparisons n).run keys = .ok answer) {error : ε}
    (hitem : keys item = .error error) (other : Fin n) : other = item := by
  have hlow := sort.sorts n _ (placed keys item ⊥ ⊤)
  have hhigh := sort.sorts n _ (placed keys item ⊤ ⊥)
  have hperm := sort.permutes n _ (placed keys item ⊥ ⊤)
  rw [sort.eval_placed h hitem] at hlow hhigh hperm
  have hmem (position : Fin n) : position ∈ answer := hperm.mem_iff.mpr (List.mem_finRange position)
  have hsymm : Std.Symm fun left right : Fin n ↦ (left = item ↔ right = item) :=
    ⟨fun _ _ hiff ↦ hiff.symm⟩
  have halone : answer.Pairwise fun left right ↦ (left = item ↔ right = item) :=
    (hlow.and hhigh).imp fun hplaced ↦ eq_iff_of_placed_le hplaced.1 hplaced.2
  have hrefl : ∀ position ∈ answer, position = item ↔ position = item := fun _ _ ↦ Iff.rfl
  exact (@List.Pairwise.forall_of_forall _ _ answer hsymm hrefl halone _ (hmem item) _
    (hmem other)).mp rfl

/-- Sorting two or more items computes all keys. -/
theorem isOk_of_run (h : (sort.comparisons n).run keys = .ok answer) (hn : 2 ≤ n) (item : Fin n) :
    (keys item).isOk := by
  cases hitem : keys item with
  | ok key => rfl
  | error error =>
    have hzero := sort.eq_of_run h hitem ⟨0, by omega⟩
    have hone := sort.eq_of_run h hitem ⟨1, by omega⟩
    have hsame := congrArg Fin.val (hzero.trans hone.symm)
    cases hsame

end UnstableSort

end Untouched

/-! ## Sorting a list -/

section Lists

variable {α ε K : Type} [LinearOrder K]

/-- Sort by a key that may fail.  Fewer than two items are left as they are. -/
def sortUnstableByKey (sort : UnstableSort) (key : α → Except ε K) (items : List α) :
    Except ε (List α) :=
  if items.length < 2 then .ok items
  else List.map items.get <$>
    (sort.comparisons items.length).run fun position ↦ key (items.get position)

variable {sort : UnstableSort} {key : α → Except ε K} {items : List α}

theorem sortUnstableByKey_of_ok (hlength : 2 ≤ items.length) {keys : Fin items.length → K}
    (hkeys : ∀ position, key (items.get position) = .ok (keys position)) :
    sortUnstableByKey sort key items =
      .ok (((sort.comparisons items.length).eval keys).map items.get) := by
  rw [sortUnstableByKey, if_neg (by omega), funext hkeys, Comparisons.run_ok]
  rfl

/-- A list is sorted exactly if no key fails or there is nothing to compare. -/
theorem exists_sortUnstableByKey_iff :
    (∃ sorted, sortUnstableByKey sort key items = .ok sorted) ↔
      items.length < 2 ∨ ∀ item ∈ items, (key item).isOk := by
  by_cases hshort : items.length < 2
  · exact iff_of_true ⟨items, if_pos hshort⟩ (.inl hshort)
  · rw [or_iff_right hshort]
    constructor
    · intro ⟨sorted, hsorted⟩ item hitem
      obtain ⟨position, rfl⟩ := List.mem_iff_get.mp hitem
      rw [sortUnstableByKey, if_neg hshort] at hsorted
      obtain ⟨answer, hanswer, _⟩ := Outcome.bind_eq_ok hsorted
      exact sort.isOk_of_run hanswer (by omega) position
    · intro hok
      obtain ⟨keys, hkeys⟩ := Outcome.exists_values fun position ↦
        hok (items.get position) (List.get_mem items position)
      exact ⟨_, sortUnstableByKey_of_ok (by omega) hkeys⟩

theorem pairwise_of_short {R : α → α → Prop} (hshort : items.length < 2) : items.Pairwise R := by
  rw [List.pairwise_iff_getElem]
  intro left right _ _ _
  omega

/-- The result holds the same items, in the order of their keys. -/
theorem perm_and_sorted_of_sortUnstableByKey {sorted : List α}
    (h : sortUnstableByKey sort key items = .ok sorted) :
    sorted.Perm items ∧ sorted.Pairwise fun left right ↦
      ∀ leftKey rightKey, key left = .ok leftKey → key right = .ok rightKey →
        leftKey ≤ rightKey := by
  by_cases hshort : items.length < 2
  · rw [sortUnstableByKey, if_pos hshort] at h
    obtain rfl := Except.ok.inj h
    exact ⟨.refl _, pairwise_of_short hshort⟩
  · have hok := (exists_sortUnstableByKey_iff.mp ⟨sorted, h⟩).resolve_left hshort
    obtain ⟨keys, hkeys⟩ := Outcome.exists_values fun position ↦
      hok (items.get position) (List.get_mem items position)
    rw [sortUnstableByKey_of_ok (by omega) hkeys] at h
    obtain rfl := Except.ok.inj h
    constructor
    · have hperm := (sort.permutes items.length K keys).map items.get
      rwa [List.map_get_finRange] at hperm
    · refine List.pairwise_map.mpr ((sort.sorts items.length K keys).imp ?_)
      intro left right hle leftKey rightKey hleft hright
      rw [hkeys] at hleft hright
      cases hleft
      cases hright
      exact hle

end Lists

/-! ## Insertion sort -/

namespace Comparisons

variable {ι α β K : Type} [LinearOrder K]

def bind : Comparisons ι α → (α → Comparisons ι β) → Comparisons ι β
  | done answer, next => next answer
  | compare left right less notLess, next =>
    compare left right (less.bind next) (notLess.bind next)

@[simp]
theorem eval_bind (keys : ι → K) (first : Comparisons ι α) (next : α → Comparisons ι β) :
    (first.bind next).eval keys = (next (first.eval keys)).eval keys := by
  induction first with
  | done answer => rfl
  | compare left right less notLess ihLess ihNotLess =>
    rw [bind, eval, eval, ihLess, ihNotLess]
    split
    · rfl
    · rfl

/-- Insert an item into a sorted list, behind what is less. -/
def insert (item : ι) : List ι → Comparisons ι (List ι)
  | [] => done [item]
  | other :: rest =>
    compare other item ((insert item rest).bind fun inserted ↦ done (other :: inserted))
      (done (item :: other :: rest))

def insertAll : List ι → Comparisons ι (List ι)
  | [] => done []
  | item :: rest => (insertAll rest).bind (insert item)

theorem eval_insert (keys : ι → K) (item : ι) (sorted : List ι) :
    (insert item sorted).eval keys =
      sorted.orderedInsert (fun left right ↦ keys left ≤ keys right) item := by
  induction sorted with
  | nil => rfl
  | cons other rest ih =>
    rw [insert, eval, List.orderedInsert_cons, eval_bind, ih]
    by_cases hlt : keys other < keys item
    · rw [if_pos hlt, if_neg (not_le.mpr hlt)]
      rfl
    · rw [if_neg hlt, if_pos (not_lt.mp hlt)]
      rfl

theorem eval_insertAll (keys : ι → K) (items : List ι) :
    (insertAll items).eval keys =
      items.insertionSort fun left right ↦ keys left ≤ keys right := by
  induction items with
  | nil => rfl
  | cons item rest ih => rw [insertAll, eval_bind, ih, eval_insert, List.insertionSort_cons]

end Comparisons

/-- Insertion from the end of the list, which sorts two items by a single comparison. -/
def insertionSort : UnstableSort where
  comparisons n := Comparisons.insertAll (List.finRange n)
  permutes n K _ keys := by
    rw [Comparisons.eval_insertAll]
    exact List.perm_insertionSort _ _
  sorts n K _ keys := by
    rw [Comparisons.eval_insertAll]
    exact List.pairwise_insertionSort _ _

end MayastorExtensions.ComparisonSort
