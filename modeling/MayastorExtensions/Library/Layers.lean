import MayastorExtensions.Library.Yaml

/-!
# Layers of values

Values that are laid over one another by deep merges.  Trees are compared by what can be read from
them, since the order of the keys of a mapping has no meaning.  Deep merge is not associative: a
scalar between two mappings hides the lower one from the upper one only if it is merged with the
lower one first.  What holds in any case is that a layer below its own merge with another changes
nothing there.
-/

namespace MayastorExtensions.Yaml.Layers

open MayastorExtensions.Yaml.Tree

/-- The content of a mapping. -/
abbrev Entries := List (String × Tree)

/-! ## Reading -/

/-- What a reader sees of a node: of a mapping, that it is one. -/
def view : Option Tree → Option Tree
  | some (.map _) => some (.map [])
  | node => node

/-- Whatever the path, the same is read. -/
def Alike (left right : Option Tree) : Prop :=
  ∀ path, view (descend path left) = view (descend path right)

/-- A scalar or a sequence, which a merge does not open. -/
def closed : Option Tree → Bool
  | none => false
  | some tree => !tree.isMap

namespace Alike

theorem refl (node : Option Tree) : Alike node node := fun _ ↦ rfl

theorem symm {left right : Option Tree} (h : Alike left right) : Alike right left :=
  fun path ↦ (h path).symm

theorem trans {left middle right : Option Tree} (h : Alike left middle)
    (h' : Alike middle right) : Alike left right :=
  fun path ↦ (h path).trans (h' path)

theorem child {left right : Option Tree} (h : Alike left right) (segment : Segment) :
    Alike (Tree.child left segment) (Tree.child right segment) :=
  fun path ↦ h (segment :: path)

end Alike

/-- Nodes that are read alike are the same, or they are mappings. -/
theorem Alike.cases {left right : Option Tree} (halike : Alike left right) :
    (closed left ∧ left = right) ∨ (left = none ∧ right = none) ∨
      ∃ entries others, left = some (.map entries) ∧ right = some (.map others) := by
  have h : view left = view right := halike []
  cases left with
  | none =>
    cases right with
    | none => exact .inr (.inl ⟨rfl, rfl⟩)
    | some tree => cases tree <;> simp [view] at h
  | some tree =>
    cases tree with
    | map entries =>
      cases right with
      | none => simp [view] at h
      | some other =>
        cases other with
        | map others => exact .inr (.inr ⟨entries, others, rfl, rfl⟩)
        | scalar tag text => simp [view] at h
        | seq items => simp [view] at h
    | scalar tag text =>
      cases right with
      | none => simp [view] at h
      | some other =>
        cases other with
        | map others => simp [view] at h
        | scalar tag text => exact .inl ⟨rfl, h⟩
        | seq items => exact .inl ⟨rfl, h⟩
    | seq items =>
      cases right with
      | none => simp [view] at h
      | some other =>
        cases other with
        | map others => simp [view] at h
        | scalar tag text => exact .inl ⟨rfl, h⟩
        | seq items => exact .inl ⟨rfl, h⟩

/-- A relation that leads from mappings to the entries of the mappings, unless its nodes are read
alike anyway, holds of nodes that are read alike only. -/
theorem alike_of_relation {related : Option Tree → Option Tree → Prop}
    (hstep : ∀ left right, related left right → Alike left right ∨
      ∃ entries others, left = some (.map entries) ∧ right = some (.map others) ∧
        ∀ name, related (entries.lookup name) (others.lookup name))
    {left right : Option Tree} (h : related left right) : Alike left right := by
  intro path
  induction path generalizing left right with
  | nil =>
    rcases hstep left right h with halike | ⟨entries, others, rfl, rfl, -⟩
    · exact halike []
    · rfl
  | cons segment rest ih =>
    rcases hstep left right h with halike | ⟨entries, others, rfl, rfl, hentries⟩
    · exact halike (segment :: rest)
    · cases segment with
      | key name => exact ih (hentries name)
      | index position => rfl

/-! ## One node over another -/

def overlay : Option Tree → Option Tree → Option Tree
  | some lower, some upper => some (merge lower upper)
  | some lower, none => some lower
  | none, upper => upper

theorem overlay_none (lower : Option Tree) : overlay lower none = lower := by
  cases lower <;> rfl

theorem overlay_of_closed {upper : Option Tree} (h : closed upper) (lower : Option Tree) :
    overlay lower upper = upper := by
  cases upper with
  | none => cases h
  | some upper =>
    cases lower with
    | none => rfl
    | some lower =>
      cases upper with
      | map entries => cases h
      | scalar tag text => cases lower <;> rfl
      | seq items => cases lower <;> rfl

theorem overlay_map (lower : Option Tree) (entries : Entries) :
    ∃ merged, overlay lower (some (.map entries)) = some (.map merged) := by
  cases lower with
  | none => exact ⟨entries, rfl⟩
  | some lower => cases lower <;> exact ⟨_, rfl⟩

/-- The entries of two mappings, merged. -/
def layer (lower upper : Entries) : Entries :=
  mergeEntries lower upper ++ upper.filter fun entry ↦ (lower.lookup entry.1).isNone

theorem overlay_maps (lower upper : Entries) :
    overlay (some (.map lower)) (some (.map upper)) = some (.map (layer lower upper)) := rfl

theorem lookup_layer (lower upper : Entries) (name : String) :
    (layer lower upper).lookup name = overlay (lower.lookup name) (upper.lookup name) := by
  have hmerge := child_merge_key lower upper name
  change (layer lower upper).lookup name = _ at hmerge
  rw [hmerge]
  cases lower.lookup name <;> cases upper.lookup name <;> rfl

/-- Below a node that is not closed, the layers are merged key by key. -/
theorem child_overlay {upper : Option Tree} (h : closed upper = false) (lower : Option Tree)
    (name : String) :
    child (overlay lower upper) (.key name) =
      overlay (child lower (.key name)) (child upper (.key name)) := by
  cases upper with
  | none => rw [overlay_none, child_none, overlay_none]
  | some upper =>
    cases upper with
    | scalar tag text => cases h
    | seq items => cases h
    | map upper =>
      cases lower with
      | none => rfl
      | some lower =>
        cases lower with
        | scalar tag text => rfl
        | seq items => rfl
        | map lower => exact lookup_layer lower upper name

/-- Over any node, a mapping gives one whose entries are merged key by key. -/
theorem lookup_of_overlay_map {lower : Option Tree} {entries merged : Entries}
    (h : overlay lower (some (.map entries)) = some (.map merged)) (name : String) :
    merged.lookup name = overlay (child lower (.key name)) (entries.lookup name) := by
  have hchild := @child_overlay (some (.map entries)) rfl lower name
  rw [h] at hchild
  exact hchild

theorem overlay_self (node : Option Tree) : Alike (overlay node node) node := by
  refine @alike_of_relation (fun left right ↦ left = overlay right right) ?_ _ _ rfl
  rintro left right rfl
  cases right with
  | none => exact .inl (.refl _)
  | some tree =>
    cases tree with
    | scalar tag text => exact .inl (.refl _)
    | seq items => exact .inl (.refl _)
    | map entries =>
      exact .inr ⟨_, entries, overlay_maps entries entries, rfl, lookup_layer entries entries⟩

/-- Layers that are read alike give merges that are read alike. -/
theorem Alike.overlay {lower lower' upper upper' : Option Tree} (hlower : Alike lower lower')
    (hupper : Alike upper upper') :
    Alike (Layers.overlay lower upper) (Layers.overlay lower' upper') := by
  refine @alike_of_relation (fun left right ↦ ∃ lower lower' upper upper', Alike lower lower' ∧
    Alike upper upper' ∧ left = Layers.overlay lower upper ∧
      right = Layers.overlay lower' upper') ?_ _ _
    ⟨lower, lower', upper, upper', hlower, hupper, rfl, rfl⟩
  rintro left right ⟨lower, lower', upper, upper', hlower, hupper, rfl, rfl⟩
  rcases hupper.cases with ⟨hclosed, rfl⟩ | ⟨rfl, rfl⟩ | ⟨entries, others, rfl, rfl⟩
  · rw [overlay_of_closed hclosed, overlay_of_closed hclosed]
    exact .inl (.refl _)
  · rw [overlay_none, overlay_none]
    exact .inl hlower
  · obtain ⟨merged, hmerged⟩ := overlay_map lower entries
    obtain ⟨merged', hmerged'⟩ := overlay_map lower' others
    refine .inr ⟨merged, merged', hmerged, hmerged', fun name ↦
      ⟨_, _, _, _, hlower.child (.key name), hupper.child (.key name), ?_, ?_⟩⟩
    · exact lookup_of_overlay_map hmerged name
    · exact lookup_of_overlay_map hmerged' name

/-- A layer below its own merge with another changes nothing there. -/
theorem overlay_absorb (lower upper : Option Tree) :
    Alike (overlay lower (overlay lower upper)) (overlay lower upper) := by
  refine @alike_of_relation (fun left right ↦ ∃ lower upper,
    left = overlay lower (overlay lower upper) ∧ right = overlay lower upper) ?_ _ _
    ⟨lower, upper, rfl, rfl⟩
  rintro left right ⟨lower, upper, rfl, rfl⟩
  by_cases hclosed : closed upper
  · rw [overlay_of_closed hclosed lower, overlay_of_closed hclosed]
    exact .inl (.refl _)
  rw [Bool.not_eq_true] at hclosed
  cases upper with
  | none =>
    rw [overlay_none]
    exact .inl (overlay_self lower)
  | some tree =>
    cases tree with
    | scalar tag text => cases hclosed
    | seq items => cases hclosed
    | map entries =>
      obtain ⟨once, honce⟩ := overlay_map lower entries
      obtain ⟨twice, htwice⟩ := overlay_map lower once
      rw [honce]
      refine .inr ⟨twice, once, htwice, rfl, fun name ↦
        ⟨child lower (.key name), entries.lookup name, ?_, ?_⟩⟩
      · rw [lookup_of_overlay_map htwice, lookup_of_overlay_map honce]
      · exact lookup_of_overlay_map honce name

/-! ## Keys -/

/-- The path of the keys of nested mappings. -/
def keyPath (names : List String) : Path := names.map .key

/-- Nothing is said at the keys: they are not there, and nothing closes the way to them. -/
def Silent : List String → Option Tree → Prop
  | [], node => node = none
  | name :: names, node => closed node = false ∧ Silent names (child node (.key name))

theorem descend_overlay_of_silent {names : List String} {upper : Option Tree}
    (h : Silent names upper) (lower : Option Tree) :
    descend (keyPath names) (overlay lower upper) = descend (keyPath names) lower := by
  induction names generalizing lower upper with
  | nil =>
    rw [h, overlay_none]
  | cons name names ih =>
    change descend (keyPath names) (child (overlay lower upper) (.key name)) = _
    rw [child_overlay h.1]
    exact ih h.2 _

/-- There is nothing below a scalar, and no key below a sequence. -/
theorem closed_of_descend_closed {name : String} {names : List String} {node : Option Tree}
    (h : closed (descend (keyPath (name :: names)) node)) : closed node = false := by
  cases node with
  | none => rfl
  | some tree =>
    cases tree with
    | map entries => rfl
    | scalar tag text => simp [keyPath, descend, child, closed] at h
    | seq items => simp [keyPath, descend, child, closed] at h

/-- A scalar or a sequence of the upper layer is read through the merge. -/
theorem descend_overlay_of_closed {names : List String} {upper : Option Tree}
    (h : closed (descend (keyPath names) upper)) (lower : Option Tree) :
    descend (keyPath names) (overlay lower upper) = descend (keyPath names) upper := by
  induction names generalizing lower upper with
  | nil => exact overlay_of_closed h lower
  | cons name names ih =>
    change descend (keyPath names) (child (overlay lower upper) (.key name)) = _
    rw [child_overlay (closed_of_descend_closed h)]
    exact ih h _

theorem Alike.descend {left right : Option Tree} (h : Alike left right) (path : Path) :
    Alike (Tree.descend path left) (Tree.descend path right) := by
  intro rest
  rw [← descend_append, ← descend_append]
  exact h (path ++ rest)

/-! ## Mappings -/

/-- The entries of a node that is a mapping. -/
def table : Option Tree → Entries
  | some (.map entries) => entries
  | _ => []

theorem lookup_table (node : Option Tree) (name : String) :
    (table node).lookup name = child node (.key name) := by
  cases node with
  | none => rfl
  | some tree => cases tree <;> rfl

/-- Under every name, the entries are read alike. -/
def AlikeEntries (left right : Entries) : Prop :=
  ∀ name, Alike (left.lookup name) (right.lookup name)

theorem alike_map_iff {left right : Entries} :
    Alike (some (.map left)) (some (.map right)) ↔ AlikeEntries left right := by
  constructor
  · exact fun h name ↦ h.child (.key name)
  · intro h path
    cases path with
    | nil => rfl
    | cons segment rest =>
      cases segment with
      | key name => exact h name rest
      | index position => rfl

namespace AlikeEntries

theorem refl (entries : Entries) : AlikeEntries entries entries := fun _ ↦ .refl _

theorem trans {left middle right : Entries} (h : AlikeEntries left middle)
    (h' : AlikeEntries middle right) : AlikeEntries left right :=
  fun name ↦ (h name).trans (h' name)

theorem layer {lower lower' upper upper' : Entries} (hlower : AlikeEntries lower lower')
    (hupper : AlikeEntries upper upper') :
    AlikeEntries (Layers.layer lower upper) (Layers.layer lower' upper') := by
  intro name
  rw [lookup_layer, lookup_layer]
  exact (hlower name).overlay (hupper name)

end AlikeEntries

theorem Alike.table {left right : Option Tree} (h : Alike left right) :
    AlikeEntries (Layers.table left) (Layers.table right) := by
  intro name
  rw [lookup_table, lookup_table]
  exact h.child (.key name)

theorem layer_absorb (lower upper : Entries) :
    AlikeEntries (layer lower (layer lower upper)) (layer lower upper) := by
  intro name
  simp only [lookup_layer]
  exact overlay_absorb _ _

/-- Below a mapping, the entries of a node that is not closed are merged in key by key. -/
theorem descend_layer_table {entries : Entries} {node : Option Tree} {name : String}
    {names : List String} (hopen : closed node = false) :
    descend (keyPath (name :: names)) (some (.map (layer entries (table node)))) =
      descend (keyPath (name :: names)) (overlay (some (.map entries)) node) := by
  change descend (keyPath names) ((layer entries (table node)).lookup name) =
    descend (keyPath names) (child (overlay (some (.map entries)) node) (.key name))
  rw [child_overlay hopen, lookup_layer, lookup_table]
  rfl

end MayastorExtensions.Yaml.Layers
