import MayastorExtensions.Library.Yaml
import MayastorExtensions.UpgradeJob.Common

/-!
# Edits of a values file

The commands of `helm/yaml/yq.rs`: the merge of two values files and the in-place edits, each of
them an alteration of the tree at one path.  A sequence of edits leaves the paths apart from all of
them alone, and decides the value at a path that it sets.
-/

namespace MayastorExtensions.UpgradeJob

open Semver Yaml

/-- A path of keys, as in `.image.repoTags.controlPlane`. -/
def yamlKey (names : List String) : Path :=
  names.map .key

/-! ## Values as they are printed into the command -/

/-- The magnitude of a run of digits, if there are any and they stay within a limit. -/
def isMagnitude (limit : ℕ) (digits : List Char) : Bool :=
  !digits.isEmpty && digits.all Char.isDigit && digitsValue digits ≤ limit

/-- What `str::parse::<i64>` accepts. -/
def parsesAsI64 (value : String) : Bool :=
  match value.toList with
  | '-' :: digits => isMagnitude (Nat.pow 2 63) digits
  | '+' :: digits => isMagnitude (Nat.pow 2 63 - 1) digits
  | digits => isMagnitude (Nat.pow 2 63 - 1) digits

/-- The type that `set_literal_value` gives a value: booleans, null and integers are recognized by
their text and are not quoted, anything else is passed as a string. -/
def literalTag (value : String) : Tag :=
  if value = "true" ∨ value = "false" then .bool
  else if value = "null" then .null
  else if parsesAsI64 value then .int
  else .str

/-- The node that `set_literal_value` assigns. -/
def literal (value : String) : Tree :=
  .scalar (literalTag value) value

/-! ## Edits -/

/-- The in-place commands of `YqV4`.  The object to append may be one whose conversion to JSON has
failed. -/
inductive Edit where
  | setLiteralValue (key : Path) (value : String)
  | deleteObject (key : Path)
  | appendToArray (key : Path) (value : Tree)
  | appendToObject (key : Path) (value : Except Error Tree)

namespace Edit

/-- The key that an edit is about. -/
def key : Edit → Path
  | setLiteralValue key _ | deleteObject key | appendToArray key _ | appendToObject key _ => key

/-- The outcome of a command of `yq`. -/
def outcome (error : Error) : Option Tree → Except Error Tree
  | none => .error error
  | some tree => .ok tree

def apply (tree : Tree) : Edit → Except Error Tree
  | setLiteralValue key value => outcome (.yqSetCommand key) (Tree.set key (literal value) tree)
  | deleteObject key => outcome (.yqDeleteObjectCommand key) (Tree.delete key tree)
  | appendToArray key value =>
    outcome (.yqAppendToArrayCommand key) (Tree.append key (.seq [value]) tree)
  | appendToObject key value => do
    outcome (.yqAppendToObjectCommand key) (Tree.append key (← value) tree)

theorem ok_of_outcome {error : Error} {found : Option Tree} {tree : Tree}
    (h : outcome error found = .ok tree) : found = some tree := by
  cases found with
  | none => cases h
  | some other => cases h; rfl

/-- Every edit is an alteration at its key. -/
theorem exists_alter {edit : Edit} {tree result : Tree} (h : edit.apply tree = .ok result) :
    ∃ create change, Tree.alter create change edit.key (some tree) = some (some result) := by
  cases edit with
  | setLiteralValue key value =>
    exact ⟨true, _, Option.join_eq_some_iff.mp (ok_of_outcome h)⟩
  | deleteObject key =>
    exact ⟨false, _, Option.join_eq_some_iff.mp (ok_of_outcome h)⟩
  | appendToArray key value =>
    exact ⟨true, _, Option.join_eq_some_iff.mp (ok_of_outcome h)⟩
  | appendToObject key value =>
    cases value with
    | error error => cases h
    | ok value => exact ⟨true, _, Option.join_eq_some_iff.mp (ok_of_outcome h)⟩

theorem get?_of_apart {edit : Edit} {tree result : Tree} {path : Path}
    (hapart : Tree.Apart edit.key path) (h : edit.apply tree = .ok result) :
    result.get? path = tree.get? path := by
  obtain ⟨create, change, halter⟩ := exists_alter h
  exact Tree.descend_alter_of_apart hapart halter

theorem passable_of_spares {edit : Edit} {tree result : Tree} {path : Path}
    (hspares : Tree.spares edit.key path) (hpassable : Tree.Passable path (some tree))
    (h : edit.apply tree = .ok result) : Tree.Passable path (some result) := by
  obtain ⟨create, change, halter⟩ := exists_alter h
  exact Tree.passable_alter hspares hpassable halter

/-- Setting a value that can be reached. -/
theorem get?_setLiteralValue {key : Path} {value : String} {tree result : Tree}
    (hopen : Tree.Open true key (some tree))
    (h : (setLiteralValue key value).apply tree = .ok result) :
    result.get? key = some (literal value) := by
  have halter := Option.join_eq_some_iff.mp (ok_of_outcome h)
  have hself := Tree.descend_alter_self hopen halter
  exact (Option.some.inj hself).symm

theorem exists_deleteObject {key : Path} {tree : Tree} (hne : key ≠ [])
    (hpassable : Tree.Passable key (some tree)) :
    ∃ result, (deleteObject key).apply tree = .ok result ∧ result.get? key = none := by
  obtain ⟨result, hdelete, hget⟩ := Tree.exists_delete hne hpassable
  exact ⟨result, by rw [apply, hdelete]; rfl, hget⟩

/-- Appending to a key that is not there makes an array. -/
theorem exists_appendToArray {key : Path} {tree value : Tree} (hne : key ≠ [])
    (hpassable : Tree.Passable key (some tree)) (habsent : tree.get? key = none) :
    ∃ result, (appendToArray key value).apply tree = .ok result ∧
      result.get? key = some (.seq [value]) := by
  have hadd : Tree.add (tree.get? key) (.seq [value]) = some (.seq [value]) := by
    rw [habsent]
    rfl
  obtain ⟨result, happend, hget⟩ := Tree.exists_append hne hpassable hadd
  exact ⟨result, by rw [apply, happend]; rfl, hget⟩

end Edit

/-- The edits of a file, one after the other. -/
def applyEdits (tree : Tree) (edits : List Edit) : Except Error Tree :=
  edits.foldlM Edit.apply tree

theorem applyEdits_cons {edit : Edit} {rest : List Edit} {tree result : Tree}
    (h : applyEdits tree (edit :: rest) = .ok result) :
    ∃ next, edit.apply tree = .ok next ∧ applyEdits next rest = .ok result := by
  rw [applyEdits, List.foldlM_cons] at h
  exact Outcome.bind_eq_ok h

theorem applyEdits_cons_of_ok {edit : Edit} {tree next : Tree} (h : edit.apply tree = .ok next)
    (rest : List Edit) : applyEdits tree (edit :: rest) = applyEdits next rest := by
  rw [applyEdits, List.foldlM_cons, h]
  rfl

theorem applyEdits_append (tree : Tree) (front back : List Edit) :
    applyEdits tree (front ++ back) = applyEdits tree front >>= fun next ↦ applyEdits next back :=
  List.foldlM_append

/-- The frame of a sequence of edits. -/
theorem applyEdits_get?_of_apart {edits : List Edit} {tree result : Tree} {path : Path}
    (hapart : ∀ edit ∈ edits, Tree.Apart edit.key path) (h : applyEdits tree edits = .ok result) :
    result.get? path = tree.get? path := by
  induction edits generalizing tree with
  | nil => cases h; rfl
  | cons edit rest ih =>
    obtain ⟨next, hnext, hrest⟩ := applyEdits_cons h
    calc
      result.get? path = next.get? path :=
        ih (fun other hother ↦ hapart other (List.mem_cons_of_mem edit hother)) hrest
      _ = tree.get? path := Edit.get?_of_apart (hapart edit List.mem_cons_self) hnext

/-- A key that is set to one value, and that no other edit comes near, has that value in the end,
wherever among the edits it is set. -/
theorem applyEdits_get?_of_mem {edits : List Edit} {tree result : Tree} {key : Path}
    {value : String} (hmem : .setLiteralValue key value ∈ edits)
    (hspares : ∀ edit ∈ edits, Tree.spares edit.key key)
    (hothers : ∀ edit ∈ edits, edit = .setLiteralValue key value ∨ Tree.Apart edit.key key)
    (hpassable : Tree.Passable key (some tree)) (h : applyEdits tree edits = .ok result) :
    result.get? key = some (literal value) := by
  induction edits generalizing tree with
  | nil => cases hmem
  | cons edit rest ih =>
    obtain ⟨next, hnext, hrest⟩ := applyEdits_cons h
    have hothers' := fun other hother ↦ hothers other (List.mem_cons_of_mem edit hother)
    by_cases hlater : .setLiteralValue key value ∈ rest
    · exact ih hlater (fun other hother ↦ hspares other (List.mem_cons_of_mem edit hother)) hothers'
        (Edit.passable_of_spares (hspares edit List.mem_cons_self) hpassable hnext) hrest
    · -- The last time the key is set: the remaining edits are apart from it.
      have hedit : edit = .setLiteralValue key value :=
        ((List.mem_cons.mp hmem).resolve_right hlater).symm
      subst hedit
      have hapart : ∀ other ∈ rest, Tree.Apart other.key key := by
        intro other hother
        refine (hothers' other hother).resolve_left ?_
        intro hsame
        exact hlater (hsame ▸ hother)
      rw [applyEdits_get?_of_apart hapart hrest]
      exact Edit.get?_setLiteralValue (Tree.open_of_passable hpassable) hnext

/-! ## Merge -/

/-- `merge_files`: the low priority file first, so that the high priority file wins. -/
def mergeFiles (highPriority lowPriority : Tree) : Tree :=
  [lowPriority, highPriority].foldl Tree.merge (.map [])

theorem mergeFiles_of_isMap {highPriority lowPriority : Tree} (hmap : lowPriority.isMap) :
    mergeFiles highPriority lowPriority = lowPriority.merge highPriority := by
  cases lowPriority with
  | scalar tag text => cases hmap
  | seq items => cases hmap
  | map entries =>
    have hempty : Tree.merge (.map []) (.map entries) = .map entries := by
      simp [Tree.merge, Tree.mergeEntries]
    simp only [mergeFiles, List.foldl_cons, List.foldl_nil, hempty]

end MayastorExtensions.UpgradeJob
