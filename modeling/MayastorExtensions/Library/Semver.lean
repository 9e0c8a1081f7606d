import Mathlib.Data.List.Basic
import Mathlib.Data.List.Induction

/-!
# Semantic versions

Versions with their textual form and their order.  Pre-releases sort below the release they
precede, numeric identifiers sort below alphanumeric ones and among themselves by value, and build
metadata breaks the remaining ties.  The order is a lexicographic comparison of keys, so that
transitivity comes from the comparisons it is put together from.
-/

namespace MayastorExtensions.Semver

/-- A version; identifiers are kept as they are written. -/
structure Version where
  major : ℕ
  minor : ℕ
  patch : ℕ
  pre : List String := []
  build : List String := []
  deriving DecidableEq, Repr

/-! ## Order -/

/-- Identifiers that are not numbers. -/
def isAlphanumeric (identifier : String) : Bool :=
  !identifier.toList.all Char.isDigit

/-- The value of a string of digits. -/
def digitsValue (digits : List Char) : ℕ :=
  digits.foldl (fun value digit ↦ 10 * value + (digit.toNat - '0'.toNat)) 0

/-- The digits of a number have its value. -/
theorem digitsValue_repr (value : ℕ) : digitsValue value.repr.toList = value := by
  rw [digitsValue, ← Nat.ofDigitChars_eq_foldl, Nat.toList_repr, Nat.ofDigitChars_ten_toDigits]

theorem all_isDigit_repr (value : ℕ) : value.repr.toList.all Char.isDigit = true := by
  rw [Nat.toList_repr, List.all_eq_true]
  intro digit hdigit
  exact Nat.isDigit_of_mem_toDigits (by decide) (by decide) hdigit

/-- Only zero is written with a leading zero. -/
theorem length_repr_of_head {value : ℕ} (h : value.repr.toList.head? = some '0') :
    value.repr.toList.length = 1 := by
  rw [Nat.toList_repr] at h ⊢
  induction value using Nat.strongRecOn with
  | ind value ih =>
    by_cases hsmall : value < 10
    · rw [Nat.toDigits_of_lt_base hsmall]
      rfl
    · exfalso
      rw [Nat.toDigits_of_base_le (by decide) (by omega),
        List.head?_append_of_ne_nil _ Nat.toDigits_ne_nil] at h
      have hone := ih (value / 10) (by omega) h
      -- A shorter number with a leading zero would be zero itself.
      have hlt : value / 10 < 10 := by
        have := (Nat.length_toDigits_le_iff (by decide) (by decide)).mp (Nat.le_of_eq hone)
        simpa using this
      rw [Nat.toDigits_of_lt_base hlt, List.head?_cons, Option.some.injEq] at h
      have hdigit := congrArg Char.toNat h
      rw [Nat.toNat_digitChar_of_lt_ten hlt] at hdigit
      change 48 + value / 10 = 48 at hdigit
      omega

theorem digitsValue_concat (digits : List Char) (digit : Char) :
    digitsValue (digits ++ [digit]) = 10 * digitsValue digits + (digit.toNat - '0'.toNat) := by
  simp [digitsValue]

theorem digit_value {digit : Char} (h : digit.isDigit = true) :
    digit.toNat - '0'.toNat < 10 ∧ (digit.toNat - '0'.toNat).digitChar = digit := by
  have hrange : 48 ≤ digit.toNat ∧ digit.toNat ≤ 57 := Char.isDigit_iff_toNat.mp h
  have hlt : digit.toNat - '0'.toNat < 10 := by
    change digit.toNat - 48 < 10
    omega
  refine ⟨hlt, Char.toNat_inj.mp ?_⟩
  rw [Nat.toNat_digitChar_of_lt_ten hlt]
  change 48 + (digit.toNat - 48) = digit.toNat
  omega

/-- Digits without a leading zero are those of their value. -/
theorem repr_digitsValue {digits : List Char} (hne : digits ≠ [])
    (hdigits : digits.all Char.isDigit = true)
    (hzero : digits.head? = some '0' → digits.length = 1) :
    (digitsValue digits).repr.toList = digits := by
  rw [Nat.toList_repr]
  induction digits using List.reverseRecOn with
  | nil => exact absurd rfl hne
  | append_singleton init digit ih =>
    simp only [List.all_append, List.all_cons, List.all_nil, Bool.and_true,
      Bool.and_eq_true] at hdigits
    obtain ⟨hlt, hchar⟩ := digit_value hdigits.2
    rw [digitsValue_concat]
    by_cases hinit : init = []
    · subst hinit
      rw [show digitsValue [] = 0 from rfl, Nat.mul_zero, Nat.zero_add,
        Nat.toDigits_of_lt_base hlt, hchar, List.nil_append]
    · have hhead : init.head? ≠ some '0' := by
        intro hhead
        rw [← List.head?_append_of_ne_nil _ hinit] at hhead
        have hlength := hzero hhead
        rw [List.length_append, List.length_singleton] at hlength
        exact hinit (List.length_eq_zero_iff.mp (by omega))
      have hvalue := ih hinit hdigits.1 fun h ↦ absurd h hhead
      have hpos : 0 < digitsValue init := by
        apply Nat.pos_of_ne_zero
        intro hnone
        rw [hnone, Nat.toDigits_zero] at hvalue
        rw [← hvalue] at hhead
        exact hhead rfl
      rw [← Nat.toDigits_append_toDigits (by decide) hpos hlt, hvalue,
        Nat.toDigits_of_lt_base hlt, hchar]

/-- The value of a numeric identifier, and zero for the others. -/
def numericValue (identifier : String) : ℕ :=
  if isAlphanumeric identifier then 0 else digitsValue identifier.toList

/-- The length of a numeric identifier, which leading zeros of build metadata make count. -/
def numericLength (identifier : String) : ℕ :=
  if isAlphanumeric identifier then 0 else identifier.length

/-- The text of an alphanumeric identifier. -/
def alphanumericText (identifier : String) : String :=
  if isAlphanumeric identifier then identifier else ""

/-- Numbers come before other identifiers and are compared by value; other identifiers are
compared as text. -/
def identifierCmp : String → String → Ordering :=
  compareLex (compareOn isAlphanumeric) (compareLex (compareOn numericValue)
    (compareLex (compareOn numericLength) (compareOn alphanumericText)))

namespace Version

/-- Lexicographic order on release numbers, then pre-release, then build metadata. -/
def cmp : Version → Version → Ordering :=
  compareLex (compareOn major) (compareLex (compareOn minor) (compareLex (compareOn patch)
    (compareLex (compareOn fun version ↦ version.pre.isEmpty)
      (compareLex (fun left right ↦ List.compareLex identifierCmp left.pre right.pre)
        (fun left right ↦ List.compareLex identifierCmp left.build right.build)))))

instance : Std.TransCmp identifierCmp :=
  inferInstanceAs (Std.TransCmp (compareLex _ _))

instance {α β : Type} {order : β → β → Ordering} [Std.TransCmp order] (key : α → β) :
    Std.TransCmp fun left right : α ↦ order (key left) (key right) where
  eq_swap := Std.OrientedCmp.eq_swap
  isLE_trans := Std.TransCmp.isLE_trans

instance : Std.TransCmp cmp :=
  inferInstanceAs (Std.TransCmp (compareLex _ (compareLex _ (compareLex _ (compareLex _
    (compareLex (fun left right : Version ↦ List.compareLex identifierCmp left.pre right.pre)
      (fun left right : Version ↦ List.compareLex identifierCmp left.build right.build)))))))

instance : LT Version := ⟨fun left right ↦ cmp left right = .lt⟩

instance : LE Version := ⟨fun left right ↦ (cmp left right).isLE⟩

instance (left right : Version) : Decidable (left < right) :=
  inferInstanceAs (Decidable (cmp left right = .lt))

instance (left right : Version) : Decidable (left ≤ right) :=
  inferInstanceAs (Decidable ((cmp left right).isLE = true))

theorem le_of_lt {left right : Version} (h : left < right) : left ≤ right := by
  change (cmp left right).isLE
  rw [show cmp left right = .lt from h]
  rfl

theorem le_trans {first second third : Version} (h : first ≤ second) (h' : second ≤ third) :
    first ≤ third :=
  Std.TransCmp.isLE_trans h h'

theorem not_lt {left right : Version} : ¬left < right ↔ right ≤ left := by
  change ¬cmp left right = .lt ↔ (cmp right left).isLE
  rw [@Std.OrientedCmp.eq_swap _ cmp _ left right]
  cases cmp right left <;> decide

/-! ## Text -/

/-- A decimal number below `2 ^ 64` without leading zeros. -/
def parseNumber (digits : List Char) : Option ℕ :=
  if digits.isEmpty || !digits.all Char.isDigit then none
  else if digits.head? = some '0' && digits.length ≠ 1 then none
  else if digitsValue digits < Nat.pow 2 64 then some (digitsValue digits) else none

/-- The characters of pre-release and build identifiers. -/
def isIdentifierChar (c : Char) : Bool :=
  c.isAlphanum || c = '-'

/-- Dot-separated identifiers; numbers may carry leading zeros in build metadata only. -/
def parseIdentifiers (leadingZeros : Bool) (text : List Char) : Option (List String) :=
  (text.splitOn '.').mapM fun identifier ↦
    if identifier.isEmpty || !identifier.all isIdentifierChar then none
    else if !leadingZeros && identifier.all Char.isDigit && identifier.head? = some '0' &&
        identifier.length ≠ 1 then none
    else some (String.ofList identifier)

/-- The text before and after the first occurrence of a character. -/
def splitOnce (delimiter : Char) : List Char → Option (List Char × List Char)
  | [] => none
  | c :: rest =>
    if c = delimiter then some ([], rest)
    else (splitOnce delimiter rest).map fun parts ↦ (c :: parts.1, parts.2)

/-- `major.minor.patch[-pre][+build]`. -/
def parse (text : String) : Option Version := do
  let (front, build) ← match splitOnce '+' text.toList with
    | none => some (text.toList, [])
    | some (front, build) => (parseIdentifiers true build).map fun build ↦ (front, build)
  let (core, pre) ← match splitOnce '-' front with
    | none => some (front, [])
    | some (core, pre) => (parseIdentifiers false pre).map fun pre ↦ (core, pre)
  match core.splitOn '.' with
  | [major, minor, patch] => do
    some ⟨← parseNumber major, ← parseNumber minor, ← parseNumber patch, pre, build⟩
  | _ => none

/-- The text of a version. -/
protected def toString (version : Version) : String :=
  version.major.repr ++ "." ++ version.minor.repr ++ "." ++ version.patch.repr ++
    (if version.pre.isEmpty then "" else "-" ++ ".".intercalate version.pre) ++
    (if version.build.isEmpty then "" else "+" ++ ".".intercalate version.build)

end Version

/-- The first delimiter is the one that ends a text without that character. -/
theorem splitOnce_append {delimiter : Char} {front back : List Char}
    (h : delimiter ∉ front) :
    Version.splitOnce delimiter (front ++ delimiter :: back) = some (front, back) := by
  induction front with
  | nil => simp [Version.splitOnce]
  | cons c rest ih =>
    rw [List.mem_cons, not_or] at h
    simp [Version.splitOnce, Ne.symm h.1, ih h.2]

theorem splitOnce_eq_none {delimiter : Char} {text : List Char} (h : delimiter ∉ text) :
    Version.splitOnce delimiter text = none := by
  induction text with
  | nil => rfl
  | cons c rest ih =>
    rw [List.mem_cons, not_or] at h
    rw [Version.splitOnce, if_neg (Ne.symm h.1), ih h.2]
    rfl

/-- What stands between dots is a dot or a character of a part. -/
theorem mem_intercalate {separator c : Char} {parts : List (List Char)}
    (h : c ∈ [separator].intercalate parts) : c = separator ∨ ∃ part ∈ parts, c ∈ part := by
  induction parts with
  | nil => simp [List.intercalate] at h
  | cons part rest ih =>
    cases rest with
    | nil =>
      rw [List.intercalate_singleton] at h
      exact .inr ⟨part, List.mem_cons_self, h⟩
    | cons next rest =>
      rw [List.intercalate_cons_cons, List.mem_append, List.mem_append, List.mem_singleton] at h
      rcases h with (hpart | hseparator) | hrest
      · exact .inr ⟨part, List.mem_cons_self, hpart⟩
      · exact .inl hseparator
      · rcases ih hrest with hseparator | ⟨other, hother, hmem⟩
        · exact .inl hseparator
        · exact .inr ⟨other, List.mem_cons_of_mem _ hother, hmem⟩

example : Version.parse "2.0.0-rc.1" = some ⟨2, 0, 0, ["rc", "1"], []⟩ := by
  decide

example : (⟨2, 6, 0, ["rc", "1"], []⟩ : Version) < ⟨2, 6, 0, [], []⟩ := by
  decide

end MayastorExtensions.Semver
