import Mathlib.Data.List.Basic
import Mathlib.Data.List.Infix

/-!
# YAML value trees

Trees of scalars, sequences and mappings, the paths into them, deep merge, and one operation that
alters a tree at a path: setting, removing and appending are instances of it.  The two laws the
edits of a values file rest on are proved for the general operation.  An alteration decides the
value at its own path, and it leaves every path alone that is neither above nor below its own.
-/

namespace MayastorExtensions.Yaml

/-- The type of a scalar. -/
inductive Tag where
  | str
  | int
  | float
  | bool
  | null
  deriving DecidableEq, Repr

/-- A scalar keeps the text it is written with, next to its type. -/
inductive Tree where
  | scalar (tag : Tag) (text : String)
  | seq (items : List Tree)
  | map (entries : List (String × Tree))
  deriving Repr

/-- One step of a path. -/
inductive Segment where
  | key (name : String)
  | index (position : ℕ)
  deriving DecidableEq, Repr

abbrev Path := List Segment

namespace Tree

def str (text : String) : Tree := .scalar .str text

/-- The value of a key that was created without being given one. -/
def null : Tree := .scalar .null "null"

/-- Mappings are the only nodes that a deep merge opens. -/
def isMap : Tree → Bool
  | .map _ => true
  | _ => false

/-! ## Reading -/

/-- The node one step below a node, if there is one. -/
def child : Option Tree → Segment → Option Tree
  | some (.map entries), .key name => entries.lookup name
  | some (.seq items), .index position => items[position]?
  | _, _ => none

/-- The node at a path below a node. -/
def descend : Path → Option Tree → Option Tree
  | [], node => node
  | segment :: rest, node => descend rest (child node segment)

/-- The node at a path of a tree. -/
def get? (tree : Tree) (path : Path) : Option Tree :=
  descend path (some tree)

@[simp]
theorem child_none (segment : Segment) : child none segment = none := by
  cases segment <;> rfl

@[simp]
theorem descend_none (path : Path) : descend path none = none := by
  induction path with
  | nil => rfl
  | cons segment rest ih => simp [descend, ih]

theorem descend_append (front back : Path) (node : Option Tree) :
    descend (front ++ back) node = descend back (descend front node) := by
  induction front generalizing node with
  | nil => rfl
  | cons segment rest ih => exact ih _

theorem get?_append (tree : Tree) (front back : Path) :
    tree.get? (front ++ back) = descend back (tree.get? front) :=
  descend_append front back _

/-! ## Deep merge -/

mutual

/-- Mappings are merged key by key; anything else on the right replaces what is on the left. -/
def merge : Tree → Tree → Tree
  | .map left, .map right =>
    .map (mergeEntries left right ++ right.filter fun entry ↦ (left.lookup entry.1).isNone)
  | _, right => right

/-- The left entries, each merged with the right entry of the same key. -/
def mergeEntries : List (String × Tree) → List (String × Tree) → List (String × Tree)
  | [], _ => []
  | (name, value) :: rest, right =>
    (name, match right.lookup name with
      | some other => merge value other
      | none => value) :: mergeEntries rest right

end

theorem lookup_cons_of_ne {name key : String} (h : name ≠ key) (value : Tree)
    (rest : List (String × Tree)) : ((key, value) :: rest).lookup name = rest.lookup name := by
  have hbeq : (name == key) = false := beq_eq_false_iff_ne.mpr h
  simp only [List.lookup_cons, hbeq]

/-- Keeping the entries whose key passes a test. -/
theorem lookup_filter (test : String → Bool) (entries : List (String × Tree)) (name : String) :
    (entries.filter fun entry ↦ test entry.1).lookup name =
      if test name then entries.lookup name else none := by
  induction entries with
  | nil => simp
  | cons entry rest ih =>
    obtain ⟨key, value⟩ := entry
    by_cases hkey : name = key
    · subst hkey
      cases htest : test name <;> simp [htest, ih]
    · rw [lookup_cons_of_ne hkey, ← ih, List.filter_cons]
      split
      · exact lookup_cons_of_ne hkey value _
      · rfl

theorem lookup_mergeEntries (left right : List (String × Tree)) (name : String) :
    (mergeEntries left right).lookup name =
      (left.lookup name).map fun value ↦
        match right.lookup name with
        | some other => merge value other
        | none => value := by
  induction left with
  | nil => rfl
  | cons entry rest ih =>
    obtain ⟨key, value⟩ := entry
    by_cases hkey : name = key
    · subst hkey
      simp [mergeEntries]
    · rw [mergeEntries, lookup_cons_of_ne hkey, lookup_cons_of_ne hkey, ih]

/-- The merge of two mappings, one key at a time: right wins, and keys of the left alone stay. -/
theorem child_merge_key (left right : List (String × Tree)) (name : String) :
    child (some (merge (.map left) (.map right))) (.key name) =
      match left.lookup name, right.lookup name with
      | some value, some other => some (merge value other)
      | some value, none => some value
      | none, other => other := by
  simp only [merge, child, List.lookup_append, lookup_mergeEntries,
    lookup_filter fun key ↦ (left.lookup key).isNone]
  cases left.lookup name with
  | none => simp
  | some value => cases right.lookup name <;> simp

/-- A node of the right tree that is no mapping survives the merge. -/
theorem get?_merge_of_right {left right value : Tree} {path : Path}
    (hvalue : value.isMap = false) (h : right.get? path = some value) :
    (merge left right).get? path = some value := by
  induction path generalizing left right with
  | nil =>
    obtain rfl : right = value := Option.some.inj h
    cases left <;> cases right <;> first | rfl | cases hvalue
  | cons segment rest ih =>
    have hnext : descend rest (child (some right) segment) = some value := h
    change descend rest (child (some (merge left right)) segment) = some value
    cases right with
    | scalar tag text => cases left <;> exact h
    | seq items => cases left <;> exact h
    | map entries =>
      cases segment with
      | index position => simp [child] at hnext
      | key name =>
        cases left with
        | scalar tag text => exact h
        | seq items => exact h
        | map others =>
          have hlookup : child (some (.map entries)) (.key name) = entries.lookup name := rfl
          rw [hlookup] at hnext
          rw [child_merge_key]
          cases hentry : entries.lookup name with
          | none => simp [hentry] at hnext
          | some found =>
            rw [hentry] at hnext
            cases others.lookup name with
            | none => exact hnext
            | some other => exact ih hnext

/-- Every node on the way to a path of keys is absent or a mapping. -/
def Clear : Path → Option Tree → Prop
  | [], _ => True
  | .key name :: rest, node =>
    (∀ tree, node = some tree → tree.isMap) ∧ Clear rest (child node (.key name))
  | .index _ :: _, _ => False

/-- The nodes that a key leads into: mappings, and null, which is taken for an empty one. -/
def opens : Tree → Bool
  | .map _ | .scalar .null _ => true
  | _ => false

/-- Every node on the way to a path of keys is absent, null or a mapping. -/
def Passable : Path → Option Tree → Prop
  | [], _ => True
  | .key name :: rest, node =>
    (∀ tree, node = some tree → tree.opens) ∧ Passable rest (child node (.key name))
  | .index _ :: _, _ => False

theorem opens_of_isMap {tree : Tree} (h : tree.isMap) : tree.opens := by
  cases tree with
  | map entries => rfl
  | scalar tag text => cases h
  | seq items => cases h

theorem passable_of_clear {path : Path} {node : Option Tree} (h : Clear path node) :
    Passable path node := by
  induction path generalizing node with
  | nil => exact h
  | cons segment rest ih =>
    cases segment with
    | index position => exact h
    | key name =>
      refine ⟨?_, ih h.2⟩
      intro tree htree
      exact opens_of_isMap (h.1 tree htree)

theorem passable_append {front back : Path} {node : Option Tree} (hfront : Passable front node)
    (hback : Passable back (descend front node)) : Passable (front ++ back) node := by
  induction front generalizing node with
  | nil => exact hback
  | cons segment rest ih =>
    cases segment with
    | index position => exact hfront
    | key name => exact ⟨hfront.1, ih hfront.2 hback⟩

/-- A way that is passable in both trees is passable in the merge. -/
theorem passable_merge {left right : Tree} {path : Path} (hleft : Passable path (some left))
    (hright : Passable path (some right)) : Passable path (some (merge left right)) := by
  induction path generalizing left right with
  | nil => exact hleft
  | cons segment rest ih =>
    cases segment with
    | index position => exact hleft
    | key name =>
      cases left with
      | scalar tag text => exact hright
      | seq items => exact hright
      | map others =>
        cases right with
        | scalar tag text => exact hright
        | seq items => exact hright
        | map entries =>
          refine ⟨fun tree htree ↦ (by cases htree; rfl), ?_⟩
          have hchildren := And.intro hleft.2 hright.2
          rw [child_merge_key]
          simp only [child] at hchildren
          cases hother : others.lookup name with
          | none => simpa [hother] using hchildren.2
          | some value =>
            cases hentry : entries.lookup name with
            | none => simpa [hother] using hchildren.1
            | some entry =>
              rw [hother, hentry] at hchildren
              exact ih hchildren.1 hchildren.2

/-! ## Altering a tree at a path -/

/-- Give a key a value, in its old place if it has one. -/
def setEntry (name : String) (value : Tree) : List (String × Tree) → List (String × Tree)
  | [] => [(name, value)]
  | (key, old) :: rest =>
    if name = key then (name, value) :: rest else (key, old) :: setEntry name value rest

/-- Give a key a value, or remove it. -/
def putEntry (entries : List (String × Tree)) (name : String) : Option Tree → List (String × Tree)
  | none => entries.filter fun entry ↦ entry.1 ≠ name
  | some value => setEntry name value entries

/-- The node with one of its children replaced or removed.  Sequences only grow at the end. -/
def put : Tree → Segment → Option Tree → Option Tree
  | .map entries, .key name, value => some (.map (putEntry entries name value))
  | .seq items, .index position, some value =>
    if position < items.length then some (.seq (items.set position value))
    else if position = items.length then some (.seq (items ++ [value]))
    else none
  | _, _, _ => none

/-- The node to descend into.  A missing or null node becomes an empty container when the
alteration creates what it needs; below any other scalar there is nothing to alter; a step of the
wrong kind is an error. -/
def container (create : Bool) : Option Tree → Segment → Option (Option Tree)
  | none, .key _ | some (.scalar .null _), .key _ =>
    some (if create then some (.map []) else none)
  | none, .index _ | some (.scalar .null _), .index _ =>
    some (if create then some (.seq []) else none)
  | some (.scalar _ _), _ => some none
  | some (.map entries), .key _ => some (some (.map entries))
  | some (.seq items), .index _ => some (some (.seq items))
  | some (.map _), .index _ | some (.seq _), .key _ => none

/-- Alter the node at a path with `change`, which sees the present node and may fail. -/
def alter (create : Bool) (change : Option Tree → Option (Option Tree)) :
    Path → Option Tree → Option (Option Tree)
  | [], node => change node
  | segment :: rest, node =>
    match container create node segment with
    | none => none
    | some none => some node
    | some (some parent) => do
      let value ← alter create change rest (child (some parent) segment)
      let altered ← put parent segment value
      some (some altered)

/-- Set the value at a path. -/
def set (path : Path) (value : Tree) (tree : Tree) : Option Tree :=
  (alter true (fun _ ↦ some (some value)) path (some tree)).join

/-- Remove what is at a path. -/
def delete (path : Path) (tree : Tree) : Option Tree :=
  (alter false (fun _ ↦ some none) path (some tree)).join

/-- The sum of two nodes: null is neutral, sequences are appended, mappings are merged one level
deep with the right entries winning. -/
def add : Option Tree → Tree → Option Tree
  | none, right | some (.scalar .null _), right => some right
  | some left, .scalar .null _ => some left
  | some (.seq left), .seq right => some (.seq (left ++ right))
  | some (.map left), .map right =>
    some (.map (right.foldl (fun entries entry ↦ putEntry entries entry.1 (some entry.2)) left))
  | _, _ => none

/-- Add a node to the one at a path. -/
def append (path : Path) (value : Tree) (tree : Tree) : Option Tree :=
  (alter true (fun node ↦ (add node value).map some) path (some tree)).join

/-! ## Laws -/

theorem lookup_setEntry (name : String) (value : Tree) (entries : List (String × Tree))
    (key : String) :
    (setEntry name value entries).lookup key =
      if key = name then some value else entries.lookup key := by
  induction entries with
  | nil =>
    by_cases hkey : key = name
    · simp [setEntry, hkey]
    · simp [setEntry, hkey, lookup_cons_of_ne hkey]
  | cons entry rest ih =>
    obtain ⟨other, old⟩ := entry
    by_cases hother : name = other
    · subst hother
      by_cases hkey : key = name
      · simp [setEntry, hkey]
      · simp [setEntry, hkey, lookup_cons_of_ne hkey]
    · rw [setEntry, if_neg hother]
      by_cases hkey : key = other
      · subst hkey
        simp [Ne.symm hother]
      · rw [lookup_cons_of_ne hkey, lookup_cons_of_ne hkey, ih]

theorem lookup_putEntry (entries : List (String × Tree)) (name : String) (value : Option Tree)
    (key : String) :
    (putEntry entries name value).lookup key =
      if key = name then value else entries.lookup key := by
  cases value with
  | none =>
    rw [putEntry, lookup_filter fun other ↦ decide (other ≠ name)]
    by_cases hkey : key = name <;> simp [hkey]
  | some value => exact lookup_setEntry name value entries key

/-- What putting a child can do: set an entry of a map, or an item of a sequence, or append one. -/
theorem put_cases {parent altered : Tree} {segment : Segment} {value : Option Tree}
    (h : put parent segment value = some altered) :
    (∃ entries name, parent = .map entries ∧ segment = .key name ∧
      altered = .map (putEntry entries name value)) ∨
    (∃ items position item, parent = .seq items ∧ segment = .index position ∧ value = some item ∧
      position < items.length ∧ altered = .seq (items.set position item)) ∨
    ∃ items item, parent = .seq items ∧ segment = .index items.length ∧ value = some item ∧
      altered = .seq (items ++ [item]) := by
  revert h
  fun_cases put parent segment value with
  | case1 entries name => exact fun h ↦ .inl ⟨entries, name, rfl, rfl, (Option.some.inj h).symm⟩
  | case2 items position item hlt =>
    exact fun h ↦ .inr (.inl ⟨items, position, item, rfl, rfl, rfl, hlt, (Option.some.inj h).symm⟩)
  | case3 items item hge =>
    exact fun h ↦ .inr (.inr ⟨items, item, rfl, rfl, rfl, (Option.some.inj h).symm⟩)
  | case4 => exact fun h ↦ by cases h
  | case5 => exact fun h ↦ by cases h

/-- The child that was put is the child that is read. -/
theorem child_put_self {parent altered : Tree} {segment : Segment} {value : Option Tree}
    (h : put parent segment value = some altered) : child (some altered) segment = value := by
  obtain ⟨entries, name, rfl, rfl, rfl⟩ | ⟨items, position, item, rfl, rfl, rfl, hlt, rfl⟩ |
    ⟨items, item, rfl, rfl, rfl, rfl⟩ := put_cases h
  · simp [child, lookup_putEntry]
  · simp [child, hlt]
  · simp [child]

/-- The other children stay. -/
theorem child_put_of_ne {parent altered : Tree} {segment other : Segment} {value : Option Tree}
    (hne : other ≠ segment) (h : put parent segment value = some altered) :
    child (some altered) other = child (some parent) other := by
  obtain ⟨entries, name, rfl, rfl, rfl⟩ | ⟨items, position, item, rfl, rfl, rfl, hlt, rfl⟩ |
    ⟨items, item, rfl, rfl, rfl, rfl⟩ := put_cases h
  · cases other with
    | index position => rfl
    | key key =>
      have hkey : key ≠ name := fun h ↦ hne (congrArg Segment.key h)
      simp [child, lookup_putEntry, hkey]
  · cases other with
    | key name => rfl
    | index position' =>
      have hposition : position ≠ position' := fun h ↦ hne (congrArg Segment.index h.symm)
      exact List.getElem?_set_ne hposition
  · cases other with
    | key name => rfl
    | index position' =>
      have hposition : position' ≠ items.length := fun h ↦ hne (congrArg Segment.index h)
      change (items ++ [item])[position']? = items[position']?
      rcases Nat.lt_or_ge position' items.length with hlt | hge
      · exact List.getElem?_append_left hlt
      · rw [List.getElem?_append_right hge, List.getElem?_eq_none hge, List.getElem?_eq_none]
        simp only [List.length_singleton]
        omega

/-- Opening a container shows the same children as before. -/
theorem child_container {create : Bool} {node : Option Tree} {segment : Segment} {parent : Tree}
    (h : container create node segment = some (some parent)) (other : Segment) :
    child (some parent) other = child node other := by
  unfold container at h
  split at h <;> (try cases create) <;> simp at h <;> subst h <;> cases other <;> rfl

/-- Two paths of which neither is above the other. -/
def Apart (left right : Path) : Prop :=
  ¬left <+: right ∧ ¬right <+: left

instance (left right : Path) : Decidable (Apart left right) :=
  inferInstanceAs (Decidable (_ ∧ _))

theorem Apart.cons_cons {segment : Segment} {left right : Path}
    (h : Apart (segment :: left) (segment :: right)) : Apart left right :=
  ⟨fun hprefix ↦ h.1 ((List.cons_prefix_cons).mpr ⟨rfl, hprefix⟩),
    fun hprefix ↦ h.2 ((List.cons_prefix_cons).mpr ⟨rfl, hprefix⟩)⟩

/-- What is apart from a path is apart from everything below it. -/
theorem Apart.append_left {left right : Path} (h : Apart left right) (below : Path) :
    Apart (left ++ below) right := by
  refine ⟨fun hprefix ↦ h.1 ((List.prefix_append left below).trans hprefix), fun hprefix ↦ ?_⟩
  rcases List.prefix_or_prefix_of_prefix hprefix (List.prefix_append left below) with hright | hleft
  · exact h.2 hright
  · exact h.1 hleft

/-- What an alteration does on its first step: below a scalar nothing, otherwise it alters the child
and puts it back. -/
theorem alter_cons_cases {create : Bool} {change : Option Tree → Option (Option Tree)}
    {segment : Segment} {rest : Path} {node altered : Option Tree}
    (h : alter create change (segment :: rest) node = some altered) :
    (container create node segment = some none ∧ altered = node) ∨
    ∃ parent value result, container create node segment = some (some parent) ∧
      alter create change rest (child node segment) = some value ∧
      put parent segment value = some result ∧ altered = some result := by
  rw [alter] at h
  split at h
  next => cases h
  next hcontainer => exact .inl ⟨hcontainer, (Option.some.inj h).symm⟩
  next parent hcontainer =>
    obtain ⟨value, hvalue, h⟩ := Option.bind_eq_some_iff.mp h
    obtain ⟨result, hput, h⟩ := Option.bind_eq_some_iff.mp h
    rw [child_container hcontainer] at hvalue
    exact .inr ⟨parent, value, result, hcontainer, hvalue, hput, (Option.some.inj h).symm⟩

/-- An alteration leaves the paths apart from its own alone. -/
theorem descend_alter_of_apart {create : Bool} {change : Option Tree → Option (Option Tree)}
    {path other : Path} (hapart : Apart path other) {node altered : Option Tree}
    (h : alter create change path node = some altered) :
    descend other altered = descend other node := by
  induction path generalizing other node altered with
  | nil => exact absurd List.nil_prefix hapart.1
  | cons segment rest ih =>
    cases other with
    | nil => exact absurd List.nil_prefix hapart.2
    | cons step others =>
      rcases alter_cons_cases h with
        ⟨_, rfl⟩ | ⟨parent, value, result, hcontainer, hvalue, hput, rfl⟩
      · rfl
      · change descend others (child (some result) step) = descend others (child node step)
        by_cases hstep : step = segment
        · subst hstep
          rw [child_put_self hput, ih hapart.cons_cons hvalue]
        · rw [child_put_of_ne hstep hput, child_container hcontainer]

/-- Nothing on the way to a path keeps an alteration from reaching it. -/
def Open (create : Bool) : Path → Option Tree → Prop
  | [], _ => True
  | segment :: rest, node =>
    (∃ parent, container create node segment = some (some parent)) ∧
      Open create rest (child node segment)

/-- An alteration decides the value at its own path. -/
theorem descend_alter_self {create : Bool} {change : Option Tree → Option (Option Tree)}
    {path : Path} {node altered : Option Tree} (hopen : Open create path node)
    (h : alter create change path node = some altered) :
    change (descend path node) = some (descend path altered) := by
  induction path generalizing node altered with
  | nil => exact h
  | cons segment rest ih =>
    obtain ⟨⟨parent, hcontainer⟩, hrest⟩ := hopen
    rcases alter_cons_cases h with ⟨hscalar, _⟩ | ⟨_, value, result, _, hvalue, hput, rfl⟩
    · rw [hcontainer] at hscalar
      cases hscalar
    · change change (descend rest (child node segment)) =
        some (descend rest (child (some result) segment))
      rw [child_put_self hput]
      exact ih hrest hvalue

/-- Below a scalar there is nothing to be read. -/
theorem child_of_container_none {node : Option Tree} {segment : Segment}
    (h : container true node segment = some none) : child node segment = none := by
  unfold container at h
  split at h <;> first | rfl | cases h

/-- An alteration that cannot reach its path leaves nothing there. -/
theorem descend_alter_of_not_open {change : Option Tree → Option (Option Tree)}
    {path : Path} {node altered : Option Tree} (hopen : ¬Open true path node)
    (h : alter true change path node = some altered) : descend path altered = none := by
  induction path generalizing node altered with
  | nil => exact absurd trivial hopen
  | cons segment rest ih =>
    change descend rest (child altered segment) = none
    rcases alter_cons_cases h with
      ⟨hcontainer, rfl⟩ | ⟨parent, value, result, hcontainer, hvalue, hput, rfl⟩
    · rw [child_of_container_none hcontainer, descend_none]
    · rw [child_put_self hput]
      exact ih (fun hrest ↦ hopen ⟨⟨parent, hcontainer⟩, hrest⟩) hvalue

theorem open_of_passable {path : Path} {node : Option Tree} (h : Passable path node) :
    Open true path node := by
  induction path generalizing node with
  | nil => exact h
  | cons segment rest ih =>
    cases segment with
    | index position => exact h.elim
    | key name =>
      refine ⟨?_, ih h.2⟩
      cases node with
      | none => exact ⟨_, rfl⟩
      | some tree =>
        have hopens := h.1 tree rfl
        cases tree with
        | scalar tag text => cases tag <;> first | exact ⟨_, rfl⟩ | cases hopens
        | seq items => cases hopens
        | map entries => exact ⟨_, rfl⟩

/-- An alteration at the first path puts nothing but mappings on the way to the second: it is not
above it, and where it branches off it does so by a key. -/
def spares : Path → Path → Bool
  | _, [] => true
  | [], _ :: _ => false
  | .index _ :: _, _ :: _ => false
  | .key name :: rest, segment :: others => segment ≠ .key name || spares rest others

/-- The node that comes of putting a child under a key. -/
theorem put_key_isMap {parent altered : Tree} {name : String} {value : Option Tree}
    (h : put parent (.key name) value = some altered) : altered.isMap := by
  cases parent with
  | scalar tag text => cases h
  | seq items => cases value <;> cases h
  | map entries => cases h; rfl

/-- An alteration keeps the way to a path passable that it spares. -/
theorem passable_alter {create : Bool} {change : Option Tree → Option (Option Tree)}
    {path other : Path} (hspares : spares path other) {node altered : Option Tree}
    (hpassable : Passable other node) (h : alter create change path node = some altered) :
    Passable other altered := by
  induction path generalizing other node altered with
  | nil =>
    cases other with
    | nil => trivial
    | cons step others => cases hspares
  | cons segment rest ih =>
    cases other with
    | nil => trivial
    | cons step others =>
      cases segment with
      | index position => cases hspares
      | key name =>
        cases step with
        | index position => exact hpassable
        | key key =>
          rcases alter_cons_cases h with
            ⟨_, rfl⟩ | ⟨parent, value, result, hcontainer, hvalue, hput, rfl⟩
          · exact hpassable
          · refine ⟨fun tree htree ↦ ?_, ?_⟩
            · obtain rfl := Option.some.inj htree
              exact opens_of_isMap (put_key_isMap hput)
            · by_cases hkey : key = name
              · subst hkey
                have hrest : spares rest others = true := by simpa [spares] using hspares
                rw [child_put_self hput]
                exact ih hrest hpassable.2 hvalue
              · have hne : Segment.key key ≠ .key name := fun h ↦ hkey (Segment.key.inj h)
                rw [child_put_of_ne hne hput, child_container hcontainer]
                exact hpassable.2

/-! ## Alterations that succeed -/

theorem alter_append (create : Bool) (change : Option Tree → Option (Option Tree))
    (front back : Path) (node : Option Tree) :
    alter create change (front ++ back) node =
      alter create (alter create change back) front node := by
  induction front generalizing node with
  | nil => rfl
  | cons segment rest ih =>
    simp only [List.cons_append, alter]
    cases container create node segment with
    | none => rfl
    | some found =>
      cases found with
      | none => rfl
      | some parent => simp only [ih]

/-- A key leads into what opens, unless there is nothing and nothing is created. -/
theorem container_of_opens {create : Bool} {node : Option Tree} {name : String}
    (h : ∀ tree, node = some tree → tree.opens) :
    (container create node (.key name) = some none ∧ child node (.key name) = none) ∨
      ∃ entries, container create node (.key name) = some (some (.map entries)) := by
  match node with
  | none => cases create <;> simp [container]
  | some (.map entries) => exact .inr ⟨entries, rfl⟩
  | some (.seq items) => cases h _ rfl
  | some (.scalar tag text) =>
    have hopens := h _ rfl
    cases tag with
    | null => cases create <;> simp [container, child]
    | str => cases hopens
    | int => cases hopens
    | float => cases hopens
    | bool => cases hopens

/-- An alteration by a change that succeeds. -/
theorem exists_alter {create : Bool} {change : Option Tree → Option (Option Tree)} {path : Path}
    {node value : Option Tree} (hpassable : Passable path node)
    (hchange : change (descend path node) = some value) :
    ∃ altered, alter create change path node = some altered := by
  induction path generalizing node value with
  | nil => exact ⟨value, hchange⟩
  | cons segment rest ih =>
    cases segment with
    | index position => cases hpassable
    | key name =>
      rcases @container_of_opens create node name hpassable.1 with ⟨hnone, _⟩ | ⟨entries, hmap⟩
      · exact ⟨node, by simp [alter, hnone]⟩
      · have hchild := child_container hmap (.key name)
        obtain ⟨altered, haltered⟩ := ih hpassable.2 hchange
        refine ⟨some (.map (putEntry entries name altered)), ?_⟩
        simp [alter, hmap, hchild, haltered, put]

/-- A tree stays a tree, unless it is altered as a whole. -/
theorem exists_of_alter {create : Bool} {change : Option Tree → Option (Option Tree)}
    {path : Path} {tree : Tree} {altered : Option Tree} (hne : path ≠ [])
    (h : alter create change path (some tree) = some altered) :
    ∃ result, altered = some result := by
  cases path with
  | nil => exact absurd rfl hne
  | cons segment rest =>
    rcases alter_cons_cases h with ⟨_, haltered⟩ | ⟨_, _, result, _, _, _, haltered⟩
    · exact ⟨tree, haltered⟩
    · exact ⟨result, haltered⟩

/-- Nothing is left of what is removed. -/
theorem descend_delete {path : Path} {node altered : Option Tree} (hpassable : Passable path node)
    (h : alter false (fun _ ↦ some none) path node = some altered) :
    descend path altered = none := by
  induction path generalizing node altered with
  | nil => exact (Option.some.inj h).symm
  | cons segment rest ih =>
    cases segment with
    | index position => cases hpassable
    | key name =>
      change descend rest (child altered (.key name)) = none
      rcases alter_cons_cases h with ⟨hnone, rfl⟩ | ⟨_, value, result, _, hvalue, hput, rfl⟩
      · rcases @container_of_opens false altered name hpassable.1 with
          ⟨_, hchild⟩ | ⟨entries, hmap⟩
        · rw [hchild, descend_none]
        · rw [hmap] at hnone
          cases hnone
      · rw [child_put_self hput]
        exact ih hpassable.2 hvalue

/-- Removing what can be reached. -/
theorem exists_delete {path : Path} {tree : Tree} (hne : path ≠ [])
    (hpassable : Passable path (some tree)) :
    ∃ result, delete path tree = some result ∧ result.get? path = none := by
  obtain ⟨altered, haltered⟩ := @exists_alter false (fun _ ↦ some none) path _ _ hpassable rfl
  obtain ⟨result, rfl⟩ := exists_of_alter hne haltered
  exact ⟨result, Option.join_eq_some_iff.mpr haltered, descend_delete hpassable haltered⟩

/-- Adding to what can be reached. -/
theorem exists_append {path : Path} {tree value sum : Tree} (hne : path ≠ [])
    (hpassable : Passable path (some tree)) (hadd : add (tree.get? path) value = some sum) :
    ∃ result, append path value tree = some result ∧ result.get? path = some sum := by
  have hchange : (add (descend path (some tree)) value).map some = some (some sum) := by
    rw [show descend path (some tree) = tree.get? path from rfl, hadd]
    rfl
  obtain ⟨altered, haltered⟩ :=
    @exists_alter true (fun node ↦ (add node value).map some) path _ _ hpassable hchange
  obtain ⟨result, rfl⟩ := exists_of_alter hne haltered
  have hself := descend_alter_self (open_of_passable hpassable) haltered
  rw [hchange] at hself
  exact ⟨result, Option.join_eq_some_iff.mpr haltered, (Option.some.inj hself).symm⟩

/-- Adding to an item of a sequence that can be reached. -/
theorem exists_append_item {path : Path} {tree value item sum : Tree} {items : List Tree}
    {position : ℕ} (hne : path ≠ []) (hpassable : Passable path (some tree))
    (hitems : tree.get? path = some (.seq items)) (hitem : items[position]? = some item)
    (hadd : add (some item) value = some sum) :
    ∃ result, append (path ++ [.index position]) value tree = some result ∧
      result.get? path = some (.seq (items.set position sum)) := by
  have hlt : position < items.length := (List.getElem?_eq_some_iff.mp hitem).1
  have hchange : alter true (fun node ↦ (add node value).map some) [.index position]
      (descend path (some tree)) = some (some (.seq (items.set position sum))) := by
    rw [show descend path (some tree) = tree.get? path from rfl, hitems]
    have hchild : child (some (.seq items)) (.index position) = some item := hitem
    have hput : put (.seq items) (.index position) (some sum) =
        some (.seq (items.set position sum)) := if_pos hlt
    simp only [alter, container, hchild, hadd, Option.map_some, Option.bind_eq_bind,
      Option.bind_some, hput]
  obtain ⟨altered, haltered⟩ := @exists_alter true
    (alter true (fun node ↦ (add node value).map some) [.index position]) path _ _ hpassable hchange
  obtain ⟨result, rfl⟩ := exists_of_alter hne haltered
  have hself := descend_alter_self (open_of_passable hpassable) haltered
  rw [hchange] at hself
  refine ⟨result, Option.join_eq_some_iff.mpr ?_, (Option.some.inj hself).symm⟩
  rw [alter_append]
  exact haltered

/-- The entries that are added win over those that are there. -/
theorem lookup_foldl_putEntry {right : List (String × Tree)} (hright : (right.map Prod.fst).Nodup)
    (left : List (String × Tree)) (name : String) :
    (right.foldl (fun entries entry ↦ putEntry entries entry.1 (some entry.2)) left).lookup name =
      (right.lookup name).or (left.lookup name) := by
  induction right generalizing left with
  | nil => rfl
  | cons entry rest ih =>
    obtain ⟨key, value⟩ := entry
    rw [List.map_cons, List.nodup_cons] at hright
    rw [List.foldl_cons, ih hright.2, lookup_putEntry]
    by_cases hname : name = key
    · subst hname
      have hkey : name ∉ rest.map Prod.fst := hright.1
      have habsent : rest.lookup name = none := by
        rw [List.lookup_eq_none_iff]
        intro other hother
        have hne : name ≠ other.1 := by
          intro heq
          rw [heq] at hkey
          exact hkey (List.mem_map_of_mem hother)
        simpa using hne
      simp [habsent]
    · rw [if_neg hname, lookup_cons_of_ne hname]

end Tree

end MayastorExtensions.Yaml
