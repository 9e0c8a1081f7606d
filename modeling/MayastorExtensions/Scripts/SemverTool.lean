import Mathlib.Data.List.DropRight
import Mathlib.Data.String.Basic
import MayastorExtensions.Library.Semver

/-!
# The semver tool

The scripts call a command line tool for everything they do with versions: `validate`, `get`,
`compare`, `diff` and `bump`.  The tool is not part of the repository, and the definitions of this
module are assumptions about it: it reads, orders and tells apart versions as the definition of
semantic versions has it, and `bump prerel` increments the number at the end of a pre-release.  The
number it starts from where there is none is a parameter.
-/

namespace MayastorExtensions.Scripts

open Semver

/-! ## Texts -/

/-- A number of a release: decimal digits without leading zeros. -/
def parseNatural (digits : List Char) : Option ℕ :=
  if digits.isEmpty || !digits.all Char.isDigit then none
  else if digits.head? = some '0' && digits.length ≠ 1 then none
  else some (digitsValue digits)

/-- A leading `v` is no part of the version. -/
def dropLeadingV : List Char → List Char
  | 'v' :: rest => rest
  | 'V' :: rest => rest
  | text => text

/-- The pre-release of the text before the build metadata. -/
def parseFront (front : List Char) : Option (List Char × List String) :=
  match Version.splitOnce '-' front with
  | none => some (front, [])
  | some (core, pre) => (Version.parseIdentifiers false pre).map fun pre ↦ (core, pre)

/-- The build metadata, and what stands before it. -/
def parseBuild (text : List Char) : Option (List Char × List String) :=
  match Version.splitOnce '+' text with
  | none => some (text, [])
  | some (front, build) => (Version.parseIdentifiers true build).map fun build ↦ (front, build)

/-- The three numbers of a release. -/
def parseRelease (core : List Char) : Option (ℕ × ℕ × ℕ) :=
  match core.splitOn '.' with
  | [major, minor, patch] => do
    some (← parseNatural major, ← parseNatural minor, ← parseNatural patch)
  | _ => none

/-- `semver validate`, with the parts that `semver get` returns. -/
def semverParse (text : String) : Option Version := do
  let (front, build) ← parseBuild (dropLeadingV text.toList)
  let (core, pre) ← parseFront front
  let (major, minor, patch) ← parseRelease core
  some ⟨major, minor, patch, pre, build⟩

/-! ## Order and difference -/

/-- A version without its build metadata, which `semver compare` does not look at. -/
def precedence (version : Version) : Version :=
  { version with build := [] }

def semverCompare (left right : Version) : Ordering :=
  Version.cmp (precedence left) (precedence right)

/-- The first version comes before the second. -/
def Older (left right : Version) : Prop :=
  semverCompare left right = .lt

instance (left right : Version) : Decidable (Older left right) :=
  inferInstanceAs (Decidable (_ = _))

inductive Difference where
  | none
  | major
  | minor
  | patch
  | prerelease
  | build
  deriving DecidableEq, Repr

protected def Difference.toString : Difference → String
  | .none => ""
  | .major => "major"
  | .minor => "minor"
  | .patch => "patch"
  | .prerelease => "prerelease"
  | .build => "build"

/-- `semver diff`: the most significant part in which two versions differ. -/
def semverDiff (left right : Version) : Difference :=
  if left.major ≠ right.major then .major
  else if left.minor ≠ right.minor then .minor
  else if left.patch ≠ right.patch then .patch
  else if left.pre ≠ right.pre then .prerelease
  else if left.build ≠ right.build then .build
  else .none

/-! ## Bumps -/

/-- An identifier without the digits at its end. -/
def stem (identifier : String) : List Char :=
  identifier.toList.rdropWhile Char.isDigit

/-- The digits at the end of an identifier. -/
def trailingDigits (identifier : String) : List Char :=
  identifier.toList.rtakeWhile Char.isDigit

/-- The number at the end of an identifier plus one, or the first number. -/
def bumpedNumber (firstNumber : ℕ) (identifier : String) : ℕ :=
  if trailingDigits identifier = [] then firstNumber
  else digitsValue (trailingDigits identifier) + 1

def bumpIdentifier (firstNumber : ℕ) (identifier : String) : String :=
  String.ofList (stem identifier ++ (bumpedNumber firstNumber identifier).repr.toList)

/-- `semver bump prerel` without a pre-release of its own. -/
def bumpPrerel (firstNumber : ℕ) (version : Version) : Version :=
  let pre := match version.pre.getLast? with
    | none => [firstNumber.repr]
    | some last => version.pre.dropLast ++ [bumpIdentifier firstNumber last]
  { version with pre := pre, build := [] }

/-- `semver bump patch`. -/
def bumpPatch (version : Version) : Version :=
  ⟨version.major, version.minor, version.patch + 1, [], []⟩

/-- `semver bump minor`. -/
def bumpMinor (version : Version) : Version :=
  ⟨version.major, version.minor + 1, 0, [], []⟩

/-- `semver bump major`. -/
def bumpMajor (version : Version) : Version :=
  ⟨version.major + 1, 0, 0, [], []⟩

/-- A version without pre-release and build metadata. -/
def releasePart (version : Version) : Version :=
  { version with pre := [], build := [] }

/-- `semver bump prerel` with a pre-release, which has to make a valid version. -/
def bumpPrerelTo (pre : String) (version : Version) : Option Version :=
  semverParse ((releasePart version).toString ++ "-" ++ pre)

/-! ## Series -/

/-- The identifiers of a pre-release without the number at their end: `alpha` of `alpha.1`, of
`alpha1` and of `alpha`. -/
def nonNumericPre (version : Version) : List String :=
  match version.pre.getLast? with
  | none => []
  | some last =>
    if stem last = [] then version.pre.dropLast
    else version.pre.dropLast ++ [String.ofList (stem last)]

/-- Pre-releases of one release with the same non-numeric part. -/
structure SameSeries (tag version : Version) : Prop where
  major : version.major = tag.major
  minor : version.minor = tag.minor
  patch : version.patch = tag.patch
  tag_pre : tag.pre ≠ []
  pre : version.pre ≠ []
  nonNumeric : nonNumericPre version = nonNumericPre tag

/-- The number at the end of the pre-release is an identifier of its own. -/
def NumericEnd (version : Version) : Prop :=
  stem (version.pre.getLastD "") = []

instance (version : Version) : Decidable (NumericEnd version) :=
  inferInstanceAs (Decidable (_ = _))

/-- The number at the end of the pre-release has no digits but nines and is glued to other
characters, as in `rc9`: the next one, `rc10`, comes before it. -/
def RunsOver (version : Version) : Prop :=
  let last := version.pre.getLastD ""
  stem last ≠ [] ∧ trailingDigits last ≠ [] ∧ ∀ digit ∈ trailingDigits last, digit = '9'

instance (version : Version) : Decidable (RunsOver version) :=
  inferInstanceAs (Decidable (_ ∧ _ ∧ _))

/-! ## Reading what was written -/

/-- What an identifier of a pre-release looks like. -/
structure WellFormedIdentifier (identifier : String) : Prop where
  ne : identifier.toList ≠ []
  chars : identifier.toList.all Version.isIdentifierChar = true
  zero : identifier.toList.all Char.isDigit = true → identifier.toList.head? = some '0' →
    identifier.toList.length = 1

def WellFormed (version : Version) : Prop :=
  ∀ identifier ∈ version.pre, WellFormedIdentifier identifier

/-- The check of one identifier of a pre-release. -/
def parseIdentifier (identifier : List Char) : Option String :=
  if identifier.isEmpty || !identifier.all Version.isIdentifierChar then none
  else if !false && identifier.all Char.isDigit && identifier.head? = some '0' &&
      identifier.length ≠ 1 then none
  else some (String.ofList identifier)

theorem parseIdentifiers_eq (text : List Char) :
    Version.parseIdentifiers false text = (text.splitOn '.').mapM parseIdentifier := rfl

theorem parseIdentifier_eq_some {text : List Char} {identifier : String}
    (h : parseIdentifier text = some identifier) :
    identifier.toList = text ∧ WellFormedIdentifier identifier := by
  unfold parseIdentifier at h
  split at h
  next => cases h
  next hchars =>
    split at h
    next => cases h
    next hzero =>
      have htext : identifier.toList = text := by
        rw [← Option.some.inj h, String.toList_ofList]
      have hvalid : text ≠ [] ∧ text.all Version.isIdentifierChar = true := by
        simpa using hchars
      have hcanonical : text.all Char.isDigit = true → text.head? = some '0' →
          text.length = 1 := by
        simpa using hzero
      rw [← htext] at hvalid hcanonical
      exact ⟨htext, ⟨hvalid.1, hvalid.2, hcanonical⟩⟩

theorem WellFormedIdentifier.parse {identifier : String} (h : WellFormedIdentifier identifier) :
    parseIdentifier identifier.toList = some identifier := by
  unfold parseIdentifier
  rw [if_neg, if_neg, String.ofList_toList]
  · simpa using h.zero
  · have hvalid := And.intro h.ne h.chars
    simpa using hvalid

/-- The identifiers of a pre-release are well formed. -/
theorem parseIdentifiers_wellFormed {text : List Char} {pre : List String}
    (h : Version.parseIdentifiers false text = some pre) :
    ∀ identifier ∈ pre, WellFormedIdentifier identifier := by
  rw [parseIdentifiers_eq] at h
  generalize text.splitOn '.' = texts at h
  induction texts generalizing pre with
  | nil =>
    cases h
    simp
  | cons text rest ih =>
    rw [List.mapM_cons] at h
    obtain ⟨first, hfirst, h⟩ := Option.bind_eq_some_iff.mp h
    obtain ⟨others, hothers, h⟩ := Option.bind_eq_some_iff.mp h
    cases h
    intro identifier hidentifier
    rcases List.mem_cons.mp hidentifier with rfl | hrest
    · exact (parseIdentifier_eq_some hfirst).2
    · exact ih hothers identifier hrest

/-- Well-formed identifiers are read as they are written. -/
theorem parseIdentifiers_intercalate {pre : List String} (hne : pre ≠ [])
    (h : ∀ identifier ∈ pre, WellFormedIdentifier identifier) :
    Version.parseIdentifiers false (".".intercalate pre).toList = some pre := by
  have hdots : ∀ text ∈ pre.map String.toList, '.' ∉ text := by
    intro text htext hdot
    obtain ⟨identifier, hidentifier, rfl⟩ := List.mem_map.mp htext
    have hchar := List.all_eq_true.mp (h identifier hidentifier).chars '.' hdot
    exact absurd hchar (by decide)
  have hsplit : ((".".intercalate pre).toList).splitOn '.' = pre.map String.toList := by
    rw [String.toList_intercalate]
    exact List.splitOn_intercalate '.' hdots (by simpa using hne)
  rw [parseIdentifiers_eq, hsplit]
  clear hne hdots hsplit
  induction pre with
  | nil => rfl
  | cons first rest ih =>
    rw [List.map_cons, List.mapM_cons, (h first List.mem_cons_self).parse,
      ih fun identifier hidentifier ↦ h identifier (List.mem_cons_of_mem _ hidentifier)]
    rfl

theorem parseNatural_repr (value : ℕ) : parseNatural value.repr.toList = some value := by
  unfold parseNatural
  rw [if_neg, if_neg, digitsValue_repr]
  · have hzero := @length_repr_of_head value
    simp only [Bool.and_eq_true, decide_eq_true_eq, not_and, ne_eq, Decidable.not_not]
    exact hzero
  · have hdigits := all_isDigit_repr value
    simp only [hdigits, Bool.not_true, Bool.or_false, List.isEmpty_iff]
    rw [Nat.toList_repr]
    exact Nat.toDigits_ne_nil

/-- Neither a delimiter nor a sign is a digit. -/
theorem not_mem_repr {value : ℕ} {c : Char} (h : c.isDigit = false) : c ∉ value.repr.toList := by
  intro hmem
  have hdigit := List.all_eq_true.mp (all_isDigit_repr value) c hmem
  rw [h] at hdigit
  cases hdigit

/-- The text of the release of a version. -/
def releaseText (version : Version) : String :=
  version.major.repr ++ "." ++ version.minor.repr ++ "." ++ version.patch.repr

theorem parseRelease_releaseText (version : Version) :
    parseRelease (releaseText version).toList =
      some (version.major, version.minor, version.patch) := by
  have hsplit : (releaseText version).toList.splitOn '.' =
      [version.major.repr.toList, version.minor.repr.toList, version.patch.repr.toList] := by
    have hinter : (releaseText version).toList = ['.'].intercalate
        [version.major.repr.toList, version.minor.repr.toList, version.patch.repr.toList] := by
      simp [releaseText, List.intercalate]
    rw [hinter]
    apply List.splitOn_intercalate
    · intro text htext
      simp only [List.mem_cons, List.not_mem_nil, or_false] at htext
      rcases htext with rfl | rfl | rfl <;> exact not_mem_repr (by decide)
    · simp
  rw [parseRelease, hsplit]
  simp only [parseNatural_repr]
  rfl

/-- The text of the pre-release of a version, with its sign. -/
def preText (version : Version) : String :=
  if version.pre.isEmpty then "" else "-" ++ ".".intercalate version.pre

theorem toString_eq {version : Version} (hbuild : version.build = []) :
    version.toString = releaseText version ++ preText version := by
  rw [Version.toString, hbuild, releaseText, preText]
  simp

theorem plus_not_mem_preText {version : Version} (h : WellFormed version) :
    '+' ∉ (preText version).toList := by
  unfold preText
  split
  · simp
  · rw [String.toList_append, String.toList_intercalate]
    intro hmem
    rcases List.mem_append.mp hmem with hsign | hpre
    · exact absurd hsign (by decide)
    · rcases mem_intercalate hpre with hdot | ⟨part, hpart, hplus⟩
      · exact absurd hdot (by decide)
      · obtain ⟨identifier, hidentifier, rfl⟩ := List.mem_map.mp hpart
        have hchar := List.all_eq_true.mp (h identifier hidentifier).chars '+' hplus
        exact absurd hchar (by decide)

theorem not_mem_releaseText {version : Version} {c : Char} (hdigit : c.isDigit = false)
    (hdot : c ≠ '.') : c ∉ (releaseText version).toList := by
  have hnumber : ∀ value : ℕ, c ∉ Nat.toDigits 10 value := by
    intro value
    rw [← Nat.toList_repr]
    exact not_mem_repr hdigit
  simp [releaseText, hdot, hnumber]

/-- A text that starts with a number has no leading `v`. -/
theorem dropLeadingV_repr (value : ℕ) (rest : List Char) :
    dropLeadingV (value.repr.toList ++ rest) = value.repr.toList ++ rest := by
  have hdigits := all_isDigit_repr value
  cases hrepr : value.repr.toList with
  | nil => exact absurd (Nat.toList_repr ▸ hrepr) Nat.toDigits_ne_nil
  | cons digit digits =>
    rw [hrepr, List.all_cons, Bool.and_eq_true] at hdigits
    unfold dropLeadingV
    split
    next heq =>
      cases heq
      exact absurd hdigits.1 (by decide)
    next heq =>
      cases heq
      exact absurd hdigits.1 (by decide)
    next => rfl

/-- A version without build metadata is read as it is written. -/
theorem semverParse_toString {version : Version} (h : WellFormed version)
    (hbuild : version.build = []) : semverParse version.toString = some version := by
  have hbuildText : parseBuild (dropLeadingV version.toString.toList) =
      some (version.toString.toList, []) := by
    have hplus : '+' ∉ version.toString.toList := by
      rw [toString_eq hbuild, String.toList_append, List.mem_append, not_or]
      exact ⟨not_mem_releaseText (by decide) (by decide), plus_not_mem_preText h⟩
    have hv : dropLeadingV version.toString.toList = version.toString.toList := by
      simp only [Version.toString, String.toList_append, List.append_assoc]
      exact dropLeadingV_repr _ _
    rw [hv, parseBuild, splitOnce_eq_none hplus]
  have hfront : parseFront version.toString.toList =
      some ((releaseText version).toList, version.pre) := by
    have hsign : '-' ∉ (releaseText version).toList := not_mem_releaseText (by decide) (by decide)
    rw [toString_eq hbuild, String.toList_append, parseFront, preText]
    by_cases hpre : version.pre = []
    · rw [hpre, List.isEmpty_nil, if_pos rfl, String.toList_empty, List.append_nil,
        splitOnce_eq_none hsign]
    · rw [if_neg (by simpa using hpre), String.toList_append, show "-".toList = ['-'] from rfl,
        List.singleton_append, splitOnce_append hsign]
      change (Version.parseIdentifiers false (".".intercalate version.pre).toList).map _ = _
      rw [parseIdentifiers_intercalate hpre h]
      rfl
  rw [semverParse, hbuildText]
  simp only [Option.bind_eq_bind, Option.bind_some, hfront, parseRelease_releaseText]
  rw [← hbuild]

theorem semverParse_wellFormed {text : String} {version : Version}
    (h : semverParse text = some version) : WellFormed version := by
  obtain ⟨⟨front, build⟩, _, h⟩ := Option.bind_eq_some_iff.mp h
  obtain ⟨⟨core, pre⟩, hfront, h⟩ := Option.bind_eq_some_iff.mp h
  obtain ⟨⟨major, minor, patch⟩, _, h⟩ := Option.bind_eq_some_iff.mp h
  cases h
  unfold parseFront at hfront
  split at hfront
  next =>
    cases hfront
    simp [WellFormed]
  next =>
    obtain ⟨identifiers, hidentifiers, hpre⟩ := Option.map_eq_some_iff.mp hfront
    cases hpre
    exact parseIdentifiers_wellFormed hidentifiers

/-! ## Bumped pre-releases -/

theorem getLastD_mem {version : Version} (h : version.pre ≠ []) :
    version.pre.getLastD "" ∈ version.pre := by
  rw [List.getLastD_eq_getLast?, List.getLast?_eq_some_getLast h]
  exact List.getLast_mem h

section Bump

variable {firstNumber : ℕ} {identifier : String} {tag version : Version}

theorem toList_bumpIdentifier : (bumpIdentifier firstNumber identifier).toList =
    stem identifier ++ (bumpedNumber firstNumber identifier).repr.toList := by
  rw [bumpIdentifier, String.toList_ofList]

theorem stem_append_digits {front digits : List Char} (h : digits.all Char.isDigit = true) :
    (front ++ digits).rdropWhile Char.isDigit = front.rdropWhile Char.isDigit := by
  unfold List.rdropWhile
  rw [List.reverse_append, List.dropWhile_append_of_pos]
  intro digit hdigit
  exact List.all_eq_true.mp h digit (List.mem_reverse.mp hdigit)

theorem stem_bumpIdentifier :
    stem (bumpIdentifier firstNumber identifier) = stem identifier := by
  rw [stem, toList_bumpIdentifier, stem_append_digits (all_isDigit_repr _), stem,
    List.rdropWhile_idempotent]

theorem WellFormedIdentifier.bump (h : WellFormedIdentifier identifier) :
    WellFormedIdentifier (bumpIdentifier firstNumber identifier) where
  ne := by
    rw [toList_bumpIdentifier, Nat.toList_repr]
    simp
  chars := by
    rw [toList_bumpIdentifier, List.all_append, Bool.and_eq_true, List.all_eq_true,
      List.all_eq_true]
    constructor
    · intro c hc
      have hmem := (List.rdropWhile_prefix _ _).subset hc
      exact List.all_eq_true.mp h.chars c hmem
    · intro c hc
      have hdigit := List.all_eq_true.mp (all_isDigit_repr _) c hc
      simp [Version.isIdentifierChar, Char.isAlphanum, hdigit]
  zero := by
    intro hdigits hzero
    have hstem : stem identifier = [] := by
      rw [← @stem_bumpIdentifier firstNumber, stem, List.rdropWhile_eq_nil_iff]
      exact List.all_eq_true.mp hdigits
    rw [toList_bumpIdentifier, hstem, List.nil_append] at hzero ⊢
    exact length_repr_of_head hzero

theorem bumpPrerel_pre (h : version.pre ≠ []) :
    (bumpPrerel firstNumber version).pre =
      version.pre.dropLast ++ [bumpIdentifier firstNumber (version.pre.getLastD "")] := by
  rw [bumpPrerel, List.getLast?_eq_some_getLast h, List.getLastD_eq_getLast?,
    List.getLast?_eq_some_getLast h]
  rfl

theorem WellFormed.bumpPrerel (h : WellFormed version) (hpre : version.pre ≠ []) :
    WellFormed (bumpPrerel firstNumber version) := by
  intro identifier hidentifier
  rw [bumpPrerel_pre hpre, List.mem_append, List.mem_singleton] at hidentifier
  rcases hidentifier with hfront | rfl
  · exact h identifier (List.dropLast_subset _ hfront)
  · exact (h _ (getLastD_mem hpre)).bump

theorem nonNumericPre_eq (h : version.pre ≠ []) :
    nonNumericPre version =
      if stem (version.pre.getLastD "") = [] then version.pre.dropLast
      else version.pre.dropLast ++ [String.ofList (stem (version.pre.getLastD ""))] := by
  rw [nonNumericPre, List.getLast?_eq_some_getLast h, List.getLastD_eq_getLast?,
    List.getLast?_eq_some_getLast h]
  rfl

/-- A bump stays in the series. -/
theorem nonNumericPre_bumpPrerel (h : version.pre ≠ []) :
    nonNumericPre (bumpPrerel firstNumber version) = nonNumericPre version := by
  have hbump : (bumpPrerel firstNumber version).pre ≠ [] := by
    rw [bumpPrerel_pre h]
    simp
  have hstem : stem ((bumpPrerel firstNumber version).pre.getLastD "") =
      stem (version.pre.getLastD "") := by
    rw [bumpPrerel_pre h, List.getLastD_concat, stem_bumpIdentifier]
  rw [nonNumericPre_eq hbump, nonNumericPre_eq h, hstem, bumpPrerel_pre h, List.dropLast_concat]

theorem SameSeries.bumpPrerel (h : SameSeries tag version) :
    SameSeries tag (bumpPrerel firstNumber version) where
  major := h.major
  minor := h.minor
  patch := h.patch
  tag_pre := h.tag_pre
  pre := by
    rw [bumpPrerel_pre h.pre]
    simp
  nonNumeric := (nonNumericPre_bumpPrerel h.pre).trans h.nonNumeric

/-- Next to a version with a number of its own, no version of the series is longer. -/
theorem SameSeries.length_le {other : Version} (h : SameSeries tag version)
    (hother : SameSeries tag other) (hend : NumericEnd version) :
    other.pre.length ≤ version.pre.dropLast.length + 1 := by
  have hlength : other.pre.length - 1 ≤ (nonNumericPre other).length := by
    rw [nonNumericPre_eq hother.pre]
    split <;> simp
  rw [hother.nonNumeric, ← h.nonNumeric, nonNumericPre_eq h.pre,
    if_pos (show stem (version.pre.getLastD "") = [] from hend)] at hlength
  omega

end Bump

/-! ## The bump comes next -/

section Order

variable {firstNumber : ℕ} {tag left right version : Version}

theorem compareLex_concat (front : List String) (left right : String) :
    List.compareLex identifierCmp (front ++ [left]) (front ++ [right]) =
      identifierCmp left right := by
  induction front with
  | nil =>
    rw [List.nil_append, List.nil_append, List.compareLex_cons_cons, List.compareLex_nil_nil,
      Ordering.then_eq]
  | cons identifier rest ih =>
    have hself : identifierCmp identifier identifier = .eq := Std.ReflCmp.compare_self
    rw [List.cons_append, List.cons_append, List.compareLex_cons_cons, hself, Ordering.eq_then, ih]

/-- If an identifier takes the next place, so does the list that ends with it, among the lists that
are not longer. -/
theorem compareLex_concat_lt_iff {last next : String} {front other : List String}
    (h : ∀ identifier ∈ other,
      identifierCmp identifier next = .lt ↔ identifierCmp last identifier ≠ .lt)
    (hlength : other.length ≤ front.length + 1) :
    List.compareLex identifierCmp other (front ++ [next]) = .lt ↔
      List.compareLex identifierCmp (front ++ [last]) other ≠ .lt := by
  induction front generalizing other with
  | nil =>
    cases other with
    | nil => simp [List.compareLex_nil_cons, List.compareLex_cons_nil]
    | cons identifier rest =>
      obtain rfl : rest = [] := List.length_eq_zero_iff.mp (by simpa using hlength)
      rw [List.nil_append, List.nil_append, List.compareLex_cons_cons, List.compareLex_cons_cons,
        List.compareLex_nil_nil, Ordering.then_eq, Ordering.then_eq]
      exact h identifier List.mem_cons_self
  | cons identifier rest ih =>
    cases other with
    | nil => simp [List.compareLex_nil_cons, List.compareLex_cons_nil]
    | cons first others =>
      have hrest := ih (fun identifier hmem ↦ h identifier (List.mem_cons_of_mem _ hmem))
        (by simpa using hlength)
      have hswap : identifierCmp identifier first = (identifierCmp first identifier).swap :=
        Std.OrientedCmp.eq_swap
      rw [List.cons_append, List.cons_append, List.compareLex_cons_cons, List.compareLex_cons_cons,
        hswap]
      cases identifierCmp first identifier with
      | lt => simp
      | gt => simp
      | eq => exact hrest

theorem pre_eq_concat (h : version.pre ≠ []) :
    version.pre = version.pre.dropLast ++ [version.pre.getLastD ""] := by
  rw [List.getLastD_eq_getLast?, List.getLast?_eq_some_getLast h]
  exact (List.dropLast_concat_getLast h).symm

/-- Versions of a series are ordered by their identifiers. -/
theorem semverCompare_of_sameSeries (hleft : SameSeries tag left) (hright : SameSeries tag right) :
    semverCompare left right = List.compareLex identifierCmp left.pre right.pre := by
  have hempty : left.pre.isEmpty = right.pre.isEmpty := by
    rw [List.isEmpty_eq_false_iff.mpr hleft.pre, List.isEmpty_eq_false_iff.mpr hright.pre]
  simp only [semverCompare, Version.cmp, precedence, compareLex, compareOn, hleft.major,
    hleft.minor, hleft.patch, hright.major, hright.minor, hright.patch, hempty,
    Std.ReflCmp.compare_self, Ordering.then_eq, Ordering.eq_then]

/-- A well-formed identifier of digits only. -/
theorem numeric_eq_repr {identifier : String} (h : WellFormedIdentifier identifier)
    (hdigits : identifier.toList.all Char.isDigit = true) :
    identifier = (digitsValue identifier.toList).repr := by
  rw [← String.toList_inj]
  exact (repr_digitsValue h.ne hdigits (h.zero hdigits)).symm

theorem isAlphanumeric_repr (value : ℕ) : isAlphanumeric value.repr = false := by
  rw [isAlphanumeric, all_isDigit_repr]
  rfl

theorem identifierCmp_repr (left right : ℕ) :
    identifierCmp left.repr right.repr = compare left right := by
  have hvalue : ∀ value : ℕ, numericValue value.repr = value := by
    intro value
    rw [numericValue, isAlphanumeric_repr, if_neg (by decide), digitsValue_repr]
  simp only [identifierCmp, compareLex, compareOn, isAlphanumeric_repr, hvalue,
    Std.ReflCmp.compare_self, Ordering.eq_then]
  cases hcompare : compare left right with
  | lt => rfl
  | gt => rfl
  | eq =>
    -- Equal numbers have equal texts.
    obtain rfl := Nat.compare_eq_eq.mp hcompare
    simp only [Std.ReflCmp.compare_self, Ordering.eq_then]

/-- Numbers come before other identifiers. -/
theorem identifierCmp_alphanumeric {number identifier : String}
    (hnumber : isAlphanumeric number = false) (h : isAlphanumeric identifier = true) :
    identifierCmp number identifier = .lt := by
  rw [identifierCmp, compareLex, compareOn, hnumber, h]
  rfl

/-- Between a number and the next one there is no identifier. -/
theorem identifierCmp_succ_iff {identifier : String} (h : WellFormedIdentifier identifier)
    (value : ℕ) : identifierCmp identifier (value + 1).repr = .lt ↔
      identifierCmp value.repr identifier ≠ .lt := by
  cases hkind : isAlphanumeric identifier with
  | true =>
    have hnext := identifierCmp_alphanumeric (isAlphanumeric_repr (value + 1)) hkind
    have hlast := identifierCmp_alphanumeric (isAlphanumeric_repr value) hkind
    rw [@Std.OrientedCmp.eq_swap _ identifierCmp, hnext, hlast]
    decide
  | false =>
    have hdigits : identifier.toList.all Char.isDigit = true := by
      simpa [isAlphanumeric] using hkind
    rw [numeric_eq_repr h hdigits, identifierCmp_repr, identifierCmp_repr, Nat.compare_eq_lt,
      Ne, Nat.compare_eq_lt]
    omega

theorem all_isDigit_of_stem {identifier : String} (h : stem identifier = []) :
    identifier.toList.all Char.isDigit = true := by
  rw [stem, List.rdropWhile_eq_nil_iff] at h
  exact List.all_eq_true.mpr h

theorem bumpIdentifier_of_stem {identifier : String} (hformed : WellFormedIdentifier identifier)
    (h : stem identifier = []) :
    bumpIdentifier firstNumber identifier = (digitsValue identifier.toList + 1).repr := by
  have htrailing : trailingDigits identifier = identifier.toList := by
    rw [trailingDigits, List.rtakeWhile_eq_self_iff]
    exact List.all_eq_true.mp (all_isDigit_of_stem h)
  rw [← String.toList_inj, toList_bumpIdentifier, h, List.nil_append, bumpedNumber, htrailing,
    if_neg hformed.ne]

/-- In a series, what is not newer than a version with a number of its own is older than its
bump. -/
theorem older_bumpPrerel_iff (hleft : SameSeries tag left) (hright : SameSeries tag right)
    (hend : NumericEnd right) (hleftFormed : WellFormed left) (hrightFormed : WellFormed right) :
    Older left (bumpPrerel firstNumber right) ↔ ¬Older right left := by
  have hlast := hrightFormed _ (getLastD_mem hright.pre)
  have hnumber := numeric_eq_repr hlast (all_isDigit_of_stem hend)
  rw [Older, Older, semverCompare_of_sameSeries hleft (SameSeries.bumpPrerel hright),
    semverCompare_of_sameSeries hright hleft, bumpPrerel_pre hright.pre,
    bumpIdentifier_of_stem hlast hend]
  have hcompare : List.compareLex identifierCmp right.pre left.pre =
      List.compareLex identifierCmp (right.pre.dropLast ++ [right.pre.getLastD ""]) left.pre := by
    rw [← pre_eq_concat hright.pre]
  rw [hcompare]
  apply compareLex_concat_lt_iff
  · intro identifier hidentifier
    have hnext := identifierCmp_succ_iff (hleftFormed identifier hidentifier)
      (digitsValue (right.pre.getLastD "").toList)
    rwa [← hnumber] at hnext
  · exact hright.length_le hleft hend

end Order

/-! ## Numbers glued to other characters -/

section Glued

variable {firstNumber : ℕ} {identifier : String} {version : Version}

theorem char_lt_of_toNat_lt {left right : Char} (h : left.toNat < right.toNat) : left < right :=
  UInt32.lt_iff_toNat_lt.mpr h

/-- A number that is not zero starts with a digit above zero. -/
theorem exists_repr_succ (value : ℕ) :
    ∃ first rest, (value + 1).repr.toList = first :: rest ∧ '0' < first := by
  have hdigits := all_isDigit_repr (value + 1)
  cases hrepr : (value + 1).repr.toList with
  | nil => exact absurd (Nat.toList_repr ▸ hrepr) Nat.toDigits_ne_nil
  | cons first rest =>
    refine ⟨first, rest, rfl, ?_⟩
    rw [hrepr, List.all_cons, Bool.and_eq_true] at hdigits
    have hrange : 48 ≤ first.toNat ∧ first.toNat ≤ 57 := Char.isDigit_iff_toNat.mp hdigits.1
    rcases Nat.lt_or_eq_of_le hrange.1 with habove | hzero
    · exact char_lt_of_toNat_lt habove
    · -- A single zero has the value zero.
      obtain rfl : first = '0' := Char.toNat_inj.mp hzero.symm
      have hlength := @length_repr_of_head (value + 1) (by rw [hrepr]; rfl)
      rw [hrepr, List.length_cons, Nat.add_eq_right, List.length_eq_zero_iff] at hlength
      have hvalue := digitsValue_repr (value + 1)
      rw [hrepr, hlength] at hvalue
      cases hvalue

/-- Unless all digits are nines, the next number has the greater digit where the two differ
first. -/
theorem exists_lt_digit {digits : List Char} (hdigits : digits.all Char.isDigit = true)
    (hnine : ∃ digit ∈ digits, digit ≠ '9') :
    ∃ front small great rest rest', digits = front ++ small :: rest ∧
      (digitsValue digits + 1).repr.toList = front ++ great :: rest' ∧ small < great := by
  induction digits using List.reverseRecOn with
  | nil =>
    obtain ⟨digit, hmem, _⟩ := hnine
    cases hmem
  | append_singleton init digit ih =>
    have hall := hdigits
    simp only [List.all_append, List.all_cons, List.all_nil, Bool.and_true,
      Bool.and_eq_true] at hall
    obtain ⟨hlt, hchar⟩ := digit_value hall.2
    by_cases hzero : (init ++ [digit]).head? = some '0'
    · -- The next number has no leading zero.
      obtain ⟨rest, hrest⟩ := List.head?_eq_some_iff.mp hzero
      obtain ⟨first, rest', hnext, hfirst⟩ := exists_repr_succ (digitsValue (init ++ [digit]))
      exact ⟨[], '0', first, rest, rest', hrest, hnext, hfirst⟩
    by_cases hlast : digit = '9'
    · have hinit : ∃ digit ∈ init, digit ≠ '9' := by
        obtain ⟨other, hmem, hother⟩ := hnine
        rcases List.mem_append.mp hmem with hfront | hback
        · exact ⟨other, hfront, hother⟩
        · exact absurd ((List.mem_singleton.mp hback).trans hlast) hother
      obtain ⟨front, small, great, rest, rest', hold, hnext, hless⟩ := ih hall.1 hinit
      refine ⟨front, small, great, rest ++ [digit], rest' ++ ['0'], ?_, ?_, hless⟩
      · rw [hold, List.append_assoc, List.cons_append]
      · have hvalue : digitsValue (init ++ [digit]) + 1 = 10 * (digitsValue init + 1) + 0 := by
          rw [digitsValue_concat, hlast]
          change 10 * digitsValue init + 9 + 1 = _
          omega
        rw [Nat.toList_repr] at hnext ⊢
        rw [hvalue, ← Nat.toDigits_append_toDigits (by decide) (by omega) (by decide), hnext,
          Nat.toDigits_zero, List.append_assoc, List.cons_append]
    · have hsucc : digit.toNat - '0'.toNat + 1 < 10 := by
        by_contra hnine'
        have hvalue : digit.toNat - '0'.toNat = 9 := by omega
        rw [hvalue] at hchar
        exact hlast hchar.symm
      have hless : digit < (digit.toNat - '0'.toNat + 1).digitChar := by
        apply char_lt_of_toNat_lt
        have hrange : 48 ≤ digit.toNat ∧ digit.toNat ≤ 57 := Char.isDigit_iff_toNat.mp hall.2
        rw [Nat.toNat_digitChar_of_lt_ten hsucc]
        change digit.toNat < 48 + (digit.toNat - 48 + 1)
        omega
      have hvalue : digitsValue (init ++ [digit]) + 1 =
          10 * digitsValue init + (digit.toNat - '0'.toNat + 1) := by
        rw [digitsValue_concat, Nat.add_assoc]
      by_cases hinit : init = []
      · subst hinit
        refine ⟨[], digit, (digit.toNat - '0'.toNat + 1).digitChar, [], [], rfl, ?_, hless⟩
        rw [hvalue, show digitsValue [] = 0 from rfl, Nat.mul_zero, Nat.zero_add, Nat.toList_repr,
          Nat.toDigits_of_lt_base hsucc, List.nil_append]
      · have hhead : init.head? ≠ some '0' := by
          rwa [List.head?_append_of_ne_nil _ hinit] at hzero
        have hfront := repr_digitsValue hinit hall.1 fun h ↦ absurd h hhead
        have hpos : 0 < digitsValue init := by
          apply Nat.pos_of_ne_zero
          intro hnone
          rw [hnone, Nat.toList_repr, Nat.toDigits_zero] at hfront
          rw [← hfront] at hhead
          exact hhead rfl
        refine ⟨init, digit, (digit.toNat - '0'.toNat + 1).digitChar, [], [], rfl, ?_, hless⟩
        rw [hvalue, Nat.toList_repr, ← Nat.toDigits_append_toDigits (by decide) hpos hsucc,
          ← Nat.toList_repr, hfront, Nat.toDigits_of_lt_base hsucc]

/-- Other identifiers are ordered as text. -/
theorem identifierCmp_of_lt {left right : String} (hleft : isAlphanumeric left = true)
    (hright : isAlphanumeric right = true) (h : left.toList < right.toList) :
    identifierCmp left right = .lt := by
  have hcompare : compare left right = .lt :=
    compareOfLessAndEq_eq_lt.mpr (String.lt_iff_toList_lt.mpr h)
  simp only [identifierCmp, compareLex, compareOn, numericValue, numericLength, alphanumericText,
    hleft, hright, if_true, Std.ReflCmp.compare_self, Ordering.eq_then, hcompare]

theorem isAlphanumeric_of_stem {identifier : String} (h : stem identifier ≠ []) :
    isAlphanumeric identifier = true := by
  rw [isAlphanumeric, Bool.not_eq_true', ← Bool.not_eq_true]
  intro hdigits
  rw [Ne, stem, List.rdropWhile_eq_nil_iff] at h
  exact h (List.all_eq_true.mp hdigits)

/-- The bump of an identifier comes after it, unless glued nines run over. -/
theorem identifierCmp_bumpIdentifier (h : WellFormedIdentifier identifier)
    (hnines : ¬(stem identifier ≠ [] ∧ trailingDigits identifier ≠ [] ∧
      ∀ digit ∈ trailingDigits identifier, digit = '9')) :
    identifierCmp identifier (bumpIdentifier firstNumber identifier) = .lt := by
  by_cases hstem : stem identifier = []
  · have hself : identifierCmp identifier identifier ≠ .lt := by
      rw [show identifierCmp identifier identifier = .eq from Std.ReflCmp.compare_self]
      decide
    have hnext := identifierCmp_succ_iff h (digitsValue identifier.toList)
    rw [← numeric_eq_repr h (all_isDigit_of_stem hstem)] at hnext
    rw [bumpIdentifier_of_stem h hstem]
    exact hnext.mpr hself
  · apply identifierCmp_of_lt (isAlphanumeric_of_stem hstem)
    · exact isAlphanumeric_of_stem (by rwa [stem_bumpIdentifier])
    have htext : identifier.toList = stem identifier ++ trailingDigits identifier := by
      simp [stem, trailingDigits, List.rdropWhile, List.rtakeWhile, ← List.reverse_append]
    rw [toList_bumpIdentifier, htext]
    apply List.append_left_lt
    rw [bumpedNumber]
    split
    next hnone =>
      rw [hnone]
      cases hrepr : firstNumber.repr.toList with
      | nil => exact absurd (Nat.toList_repr ▸ hrepr) Nat.toDigits_ne_nil
      | cons first rest => exact List.nil_lt_cons first rest
    next hsome =>
      have hdigits : (trailingDigits identifier).all Char.isDigit = true := by
        rw [List.all_eq_true]
        intro digit hdigit
        exact List.mem_rtakeWhile_imp hdigit
      have hnine : ∃ digit ∈ trailingDigits identifier, digit ≠ '9' := by
        by_contra hall
        refine hnines ⟨hstem, hsome, fun digit hdigit ↦ ?_⟩
        by_contra hdigit'
        exact hall ⟨digit, hdigit, hdigit'⟩
      obtain ⟨front, small, great, rest, rest', hold, hnew, hless⟩ :=
        exists_lt_digit hdigits hnine
      nth_rewrite 1 [hold]
      rw [hnew]
      exact List.append_left_lt (List.cons_lt_cons_iff.mpr (.inl hless))

/-- A pre-release is older than its bump, unless glued nines run over. -/
theorem older_bumpPrerel (hpre : version.pre ≠ []) (hformed : WellFormed version)
    (hnines : ¬RunsOver version) : Older version (bumpPrerel firstNumber version) := by
  have hseries : SameSeries version version := ⟨rfl, rfl, rfl, hpre, hpre, rfl⟩
  rw [Older, semverCompare_of_sameSeries hseries hseries.bumpPrerel, bumpPrerel_pre hpre]
  nth_rewrite 1 [pre_eq_concat hpre]
  rw [compareLex_concat]
  exact identifierCmp_bumpIdentifier (hformed _ (getLastD_mem hpre)) hnines

end Glued

theorem older_of_not_older {first second third : Version} (h : ¬Older second first)
    (h' : Older second third) : Older first third := by
  have hle : (Version.cmp (precedence first) (precedence second)).isLE := Version.not_lt.mp h
  exact @Std.TransCmp.lt_of_isLE_of_lt _ Version.cmp _ _ _ _ hle h'

end MayastorExtensions.Scripts
