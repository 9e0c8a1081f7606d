import Mathlib.Algebra.BigOperators.Group.List.Basic
import Mathlib.Data.List.Nodup
import Mathlib.Data.List.Perm.Basic

/-!
# Tables

Finite maps as lists of entries under distinct keys.  The order of the entries is of no concern: two
tables that give the same answers hold the same entries up to a permutation.

The operation that programs fill tables with is the update of an entry that is created on first
use.  A tally is a run of such updates over a list of items; what it holds under a key depends only
on the items of that key.
-/

namespace MayastorExtensions

variable {κ ν α : Type} [DecidableEq κ]

theorem mem_of_lookup {entries : List (κ × ν)} {key : κ} {value : ν}
    (h : entries.lookup key = some value) : (key, value) ∈ entries := by
  obtain ⟨front, back, rfl, -⟩ := List.lookup_eq_some_iff.mp h
  exact List.mem_append_right _ List.mem_cons_self

theorem lookup_of_mem {entries : List (κ × ν)} (hnodup : (entries.map Prod.fst).Nodup) {key : κ}
    {value : ν} (h : (key, value) ∈ entries) : entries.lookup key = some value := by
  cases hlookup : entries.lookup key with
  | none =>
    have := List.lookup_eq_none_iff.mp hlookup _ h
    simp at this
  | some other =>
    have hsame := List.inj_on_of_nodup_map hnodup (mem_of_lookup hlookup) h rfl
    exact congrArg some (Prod.ext_iff.mp hsame).2

/-- Entries under distinct keys. -/
structure Table (κ ν : Type) where
  entries : List (κ × ν)
  nodup : (entries.map Prod.fst).Nodup

namespace Table

def empty : Table κ ν := ⟨[], List.nodup_nil⟩

def get? (table : Table κ ν) (key : κ) : Option ν := table.entries.lookup key

@[simp]
theorem get?_empty (key : κ) : (empty : Table κ ν).get? key = none := rfl

theorem mem_entries_iff {table : Table κ ν} {key : κ} {value : ν} :
    (key, value) ∈ table.entries ↔ table.get? key = some value :=
  ⟨lookup_of_mem table.nodup, mem_of_lookup⟩

/-- Tables with the same answers hold the same entries. -/
theorem entries_perm {left right : Table κ ν} (h : ∀ key, left.get? key = right.get? key) :
    left.entries.Perm right.entries := by
  rw [List.perm_ext_iff_of_nodup left.nodup.of_map right.nodup.of_map]
  rintro ⟨key, value⟩
  rw [mem_entries_iff, mem_entries_iff, h key]

/-! ## Updates -/

/-- The entry of a key changed in place, or added at the end with a default. -/
def updateEntries (key : κ) (default : ν) (change : ν → ν) : List (κ × ν) → List (κ × ν)
  | [] => [(key, change default)]
  | (name, value) :: rest =>
    if name = key then (name, change value) :: rest
    else (name, value) :: updateEntries key default change rest

theorem keys_updateEntries (key : κ) (default : ν) (change : ν → ν) (entries : List (κ × ν)) :
    (updateEntries key default change entries).map Prod.fst =
      if key ∈ entries.map Prod.fst then entries.map Prod.fst
      else entries.map Prod.fst ++ [key] := by
  induction entries with
  | nil => rfl
  | cons entry rest ih =>
    obtain ⟨name, value⟩ := entry
    by_cases hname : name = key
    · simp [updateEntries, hname]
    · have hne : key ≠ name := Ne.symm hname
      rw [updateEntries, if_neg hname, List.map_cons, ih, List.map_cons]
      simp only [List.mem_cons, hne, false_or]
      split <;> simp

theorem lookup_updateEntries (key : κ) (default : ν) (change : ν → ν) (entries : List (κ × ν))
    (other : κ) :
    (updateEntries key default change entries).lookup other =
      if other = key then some (change ((entries.lookup key).getD default))
      else entries.lookup other := by
  induction entries with
  | nil =>
    by_cases hother : other = key
    · simp [updateEntries, hother]
    · simp [updateEntries, hother]
  | cons entry rest ih =>
    obtain ⟨name, value⟩ := entry
    by_cases hname : name = key
    · subst hname
      by_cases hother : other = name
      · simp [updateEntries, hother]
      · have hbeq : (other == name) = false := beq_eq_false_iff_ne.mpr hother
        simp [updateEntries, List.lookup_cons, hbeq, hother]
    · have hkey : (key == name) = false := beq_eq_false_iff_ne.mpr (Ne.symm hname)
      rw [updateEntries, if_neg hname, List.lookup_cons, ih, List.lookup_cons, List.lookup_cons,
        hkey]
      cases hbeq : other == name with
      | true =>
        have hne : other ≠ key := fun hother ↦ hname ((eq_of_beq hbeq).symm.trans hother)
        simp only [if_neg hne]
      | false => rfl

/-- `entry(key).or_insert(default)` followed by a change of the entry. -/
def update (table : Table κ ν) (key : κ) (default : ν) (change : ν → ν) : Table κ ν where
  entries := updateEntries key default change table.entries
  nodup := by
    rw [keys_updateEntries]
    split
    · exact table.nodup
    · rename_i hkey
      exact List.Nodup.append table.nodup (List.nodup_singleton key)
        (List.disjoint_singleton.mpr hkey)

theorem get?_update (table : Table κ ν) (key : κ) (default : ν) (change : ν → ν) (other : κ) :
    (table.update key default change).get? other =
      if other = key then some (change ((table.get? key).getD default)) else table.get? other :=
  lookup_updateEntries key default change table.entries other

theorem sum_updateEntries {M : Type} [AddCommMonoid M] (measure : ν → M) (key : κ)
    {default : ν} {change : ν → ν} {amount : M} {entries : List (κ × ν)}
    (hdefault : measure default = 0)
    (hchange : measure (change ((entries.lookup key).getD default)) =
      measure ((entries.lookup key).getD default) + amount) :
    ((updateEntries key default change entries).map fun entry ↦ measure entry.2).sum =
      (entries.map fun entry ↦ measure entry.2).sum + amount := by
  induction entries with
  | nil =>
    rw [List.lookup_nil, Option.getD_none, hdefault] at hchange
    simp [updateEntries, hchange]
  | cons entry rest ih =>
    obtain ⟨name, value⟩ := entry
    by_cases hname : name = key
    · subst hname
      rw [List.lookup_cons_self, Option.getD_some] at hchange
      simp only [updateEntries, if_true, List.map_cons, List.sum_cons, hchange]
      exact add_right_comm _ _ _
    · have hbeq : (key == name) = false := beq_eq_false_iff_ne.mpr (Ne.symm hname)
      simp only [List.lookup_cons, hbeq] at hchange
      simp only [updateEntries, if_neg hname, List.map_cons, List.sum_cons, ih hchange]
      exact (add_assoc _ _ _).symm

/-- A quantity that the change of the entry adds to grows by that amount in the whole table. -/
theorem sum_update {M : Type} [AddCommMonoid M] (measure : ν → M) (table : Table κ ν) (key : κ)
    {default : ν} {change : ν → ν} {amount : M} (hdefault : measure default = 0)
    (hchange : measure (change ((table.get? key).getD default)) =
      measure ((table.get? key).getD default) + amount) :
    ((table.update key default change).entries.map fun entry ↦ measure entry.2).sum =
      (table.entries.map fun entry ↦ measure entry.2).sum + amount :=
  sum_updateEntries measure key hdefault hchange

/-! ## Tallies -/

section Tally

variable (key : α → κ) (default : ν) (change : α → ν → ν)

/-- One update after another, each at the key of its item. -/
def tallyFrom (table : Table κ ν) (items : List α) : Table κ ν :=
  items.foldl (fun current item ↦ current.update (key item) default (change item)) table

def tally (items : List α) : Table κ ν := tallyFrom key default change empty items

/-- The changes of some items, one after another. -/
def changes (value : ν) (items : List α) : ν :=
  items.foldl (fun current item ↦ change item current) value

theorem get?_tallyFrom (table : Table κ ν) (items : List α) (other : κ) :
    (tallyFrom key default change table items).get? other =
      if ∀ item ∈ items, key item ≠ other then table.get? other
      else some (changes change ((table.get? other).getD default)
        (items.filter fun item ↦ key item = other)) := by
  induction items generalizing table with
  | nil => simp [tallyFrom]
  | cons item items ih =>
    rw [tallyFrom, List.foldl_cons, ← tallyFrom, ih, get?_update]
    by_cases hkey : key item = other
    · subst hkey
      by_cases hrest : ∀ later ∈ items, key later ≠ key item
      · have hnone : items.filter (fun later ↦ key later = key item) = [] := by
          simpa using hrest
        simp [hnone, changes]
      · simp [hrest, changes]
    · simp [hkey, Ne.symm hkey]

/-- Under a key, a tally holds the changes of the items of that key, in their order. -/
theorem get?_tally (items : List α) (other : κ) :
    (tally key default change items).get? other =
      if ∀ item ∈ items, key item ≠ other then none
      else some (changes change default (items.filter fun item ↦ key item = other)) :=
  get?_tallyFrom key default change empty items other

theorem sum_tally {M : Type} [AddCommMonoid M] (measure : ν → M) (amount : α → M)
    (hdefault : measure default = 0)
    (hchange : ∀ item value, measure (change item value) = measure value + amount item)
    (items : List α) :
    ((tally key default change items).entries.map fun entry ↦ measure entry.2).sum =
      (items.map amount).sum := by
  suffices hfrom : ∀ table : Table κ ν,
      ((tallyFrom key default change table items).entries.map fun entry ↦ measure entry.2).sum =
        (table.entries.map fun entry ↦ measure entry.2).sum + (items.map amount).sum by
    rw [tally, hfrom empty, empty, List.map_nil, List.sum_nil, zero_add]
  intro table
  induction items generalizing table with
  | nil => simp [tallyFrom]
  | cons item items ih =>
    rw [tallyFrom, List.foldl_cons, ← tallyFrom, ih,
      sum_update measure table (key item) hdefault (hchange item _), List.map_cons, List.sum_cons,
      add_assoc]

/-- The order of the items does not matter if their changes commute. -/
theorem get?_tally_perm
    (hcomm : ∀ item item' value,
      change item (change item' value) = change item' (change item value))
    {items items' : List α} (hperm : items.Perm items') (other : κ) :
    (tally key default change items).get? other = (tally key default change items').get? other := by
  have hchanges : changes change default (items.filter fun item ↦ key item = other) =
      changes change default (items'.filter fun item ↦ key item = other) := by
    apply (hperm.filter _).foldl_eq'
    intro item _ item' _ value
    exact hcomm item' item value
  rw [get?_tally, get?_tally, hchanges]
  simp only [hperm.mem_iff]

end Tally

end Table

end MayastorExtensions
