import Mathlib.Data.List.Basic
import Mathlib.Order.Lattice

/-!
# Pages of an ordered list

Reading a list in order by pages: a page holds the first entries from a key on.
-/

namespace MayastorExtensions.Page

variable {α κ : Type} [LinearOrder κ]

/-- The first entries whose keys are not below the start. -/
def page (key : α → κ) (limit : ℕ) (start : κ) (entries : List α) : List α :=
  (entries.filter fun entry ↦ start ≤ key entry).take limit

variable {key : α → κ} {limit : ℕ} {start : κ} {entries : List α}

theorem page_sublist : (page key limit start entries).Sublist entries :=
  (List.take_sublist _ _).trans List.filter_sublist

theorem le_of_mem_page {entry : α} (h : entry ∈ page key limit start entries) :
    start ≤ key entry := by
  have hfilter := List.mem_of_mem_take h
  simpa using (List.mem_filter.mp hfilter).2

/-- A page that is not full has everything from the start on. -/
theorem mem_page_of_short {entry : α} (hshort : (page key limit start entries).length < limit)
    (hmem : entry ∈ entries) (hstart : start ≤ key entry) :
    entry ∈ page key limit start entries := by
  have hall : page key limit start entries = entries.filter fun entry ↦ start ≤ key entry := by
    apply List.take_of_length_le
    rw [page, List.length_take] at hshort
    omega
  rw [hall, List.mem_filter]
  exact ⟨hmem, by simpa using hstart⟩

/-- What does not come after an entry of the page is on the page too. -/
theorem mem_page_of_not_after {related : α → α → Prop} (hsorted : entries.Pairwise related)
    {entry other : α} (hother : other ∈ page key limit start entries) (hmem : entry ∈ entries)
    (hstart : start ≤ key entry) (hafter : ¬related other entry) :
    entry ∈ page key limit start entries := by
  have hfilter : entry ∈ entries.filter fun entry ↦ start ≤ key entry :=
    List.mem_filter.mpr ⟨hmem, by simpa using hstart⟩
  rw [← List.take_append_drop limit (entries.filter _), List.mem_append] at hfilter
  rcases hfilter with htake | hdrop
  · exact htake
  · exact absurd ((hsorted.filter _).rel_of_mem_take_of_mem_drop hother hdrop) hafter

/-- Reading on leaves less to read, if an entry is passed. -/
theorem length_filter_lt {before after : α → Bool} {entry : α} (hmem : entry ∈ entries)
    (himp : ∀ other, after other = true → before other = true) (hbefore : before entry = true)
    (hafter : after entry = false) :
    (entries.filter after).length < (entries.filter before).length := by
  have hfilter : entries.filter after = (entries.filter before).filter after := by
    rw [List.filter_filter]
    apply List.filter_congr
    intro other _
    cases hother : after other with
    | false => rfl
    | true => rw [himp other hother, Bool.and_self]
  rw [hfilter]
  apply List.length_filter_lt_length_iff_exists.mpr
  exact ⟨entry, List.mem_filter.mpr ⟨hmem, hbefore⟩, by simp [hafter]⟩

end MayastorExtensions.Page
