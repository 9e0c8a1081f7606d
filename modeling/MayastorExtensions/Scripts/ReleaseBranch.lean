import Mathlib.Data.List.Infix
import MayastorExtensions.Library.Sorted
import MayastorExtensions.Scripts.PublishChart

/-!
# The chart version of a branch

The chart of a branch has a version that follows from the name of the branch.  The chart of
`helm-testing/develop` is meant to be ahead of all release branches: the version of the latest of
them is bumped.  The latest branch is the one whose name sorts last.
-/

namespace MayastorExtensions.Scripts

open Semver

/-! ## Texts of branch names -/

/-- Matches `[0-9]+`. -/
def isDigits (text : List Char) : Bool :=
  !text.isEmpty && text.all Char.isDigit

/-- Matches `[0-9.]+`. -/
def isDotted (text : List Char) : Bool :=
  !text.isEmpty && text.all fun char ↦ char.isDigit || char = '.'

/-- Matches `[0-9]+.` and then another pattern; the dot matches every character. -/
def digitsThen (pattern : List Char → Bool) (text : List Char) : Bool :=
  (List.range text.length).any fun length ↦
    isDigits (text.take length) && pattern (text.drop (length + 1))

/-- What follows the first occurrence of a text, as in `${text#*pattern}`. -/
def afterFirst (pattern : List Char) : List Char → Option (List Char)
  | [] => if pattern = [] then some [] else none
  | char :: text =>
    if pattern.isPrefixOf (char :: text) then some ((char :: text).drop pattern.length)
    else afterFirst pattern text

/-- `${text#*pattern}`: a text that does not have the pattern stays as it is. -/
def removeThrough (pattern : String) (text : String) : String :=
  String.ofList ((afterFirst pattern.toList text.toList).getD text.toList)

/-- `${text#pattern}` of a pattern without wildcards. -/
def removeStart (pattern : String) (text : String) : String :=
  if pattern.toList.isPrefixOf text.toList then
    String.ofList (text.toList.drop pattern.toList.length)
  else text

/-! ## The version of a branch -/

/-- The arguments for a branch; what is not given is empty. -/
structure BranchOptions where
  checkBranch : String
  dateTime : String
  latestReleaseBranch : String
  bumpMajorForMain : Bool

/-- Matches the glob `origin/release/*.*`. -/
def isReleaseRef (ref : String) : Bool :=
  "origin/release/".toList.isPrefixOf ref.toList &&
    (ref.toList.drop "origin/release/".toList.length).contains '.'

/-- The latest release branch that is known of the remote `origin`. -/
def latestReleaseBranch (options : BranchOptions) (refs : List String) : String :=
  if options.latestReleaseBranch ≠ "" then options.latestReleaseBranch
  else
    let latest := ((refs.filter isReleaseRef).insertionSort fun left right ↦ left ≤ right).getLast?
    removeThrough "origin/" (latest.getD "origin/release/0.0")

/-- The release branch that a helm testing branch is for, and its kind. -/
def helmTestingBranch (options : BranchOptions) (refs : List String) :
    Except PublishError (String × String) :=
  if options.checkBranch = "helm-testing/develop" then
    .ok (latestReleaseBranch options refs, "main")
  else if "helm-testing/release/".toList.isPrefixOf options.checkBranch.toList &&
      isDotted (options.checkBranch.toList.drop "helm-testing/release/".toList.length) then
    .ok (removeStart "helm-testing/" options.checkBranch, "release")
  else .error (.died ("Unknown helm-testing branch: " ++ options.checkBranch))

/-- Matches `release\/[0-9.]+$`. -/
def endsWithRelease (branch : String) : Bool :=
  branch.toList.tails.any fun tail ↦
    "release/".toList.isPrefixOf tail && isDotted (tail.drop "release/".toList.length)

/-- A release with all of its numbers. -/
def paddedRelease (text : String) : Option String :=
  if isDigits text.toList then some (text ++ ".0.0")
  else if digitsThen isDigits text.toList then some (text ++ ".0")
  else if digitsThen (digitsThen isDigits) text.toList then some text
  else none

/-- The text of the version of a release branch. -/
def releaseBranchVersion (branch : String) : Except PublishError String :=
  if !endsWithRelease branch then
    .error (.died ("'" ++ branch ++ "' is not a valid release branch"))
  else
    match paddedRelease (removeThrough "release/" branch) with
    | none => .error (.died ("'" ++ branch ++ "' is not a supported release"))
    | some text => .ok text

/-- What the semver tool makes of a text, or its failure. -/
def semverTool {α : Type} : Option α → Except PublishError α
  | none => .error .semver
  | some result => .ok result

/-- The pre-release of a helm testing chart. -/
def unstable (helmKind dateTime : String) : String :=
  "0-" ++ helmKind ++ "-unstable-" ++ dateTime ++ "-0"

/-- The branch `helm-testing/develop` is ahead of the latest release branch. -/
def bumpedLatest (options : BranchOptions) (latest : Version) : Version :=
  if options.checkBranch = "helm-testing/develop" then
    if options.bumpMajorForMain then bumpMajor latest else bumpMinor latest
  else latest

def helmTestingBranchVersion (options : BranchOptions) (refs : List String) :
    Except PublishError Version := do
  let (releaseBranch, helmKind) ← helmTestingBranch options refs
  let text ← releaseBranchVersion releaseBranch
  let latest ← semverTool (semverParse text)
  semverTool (bumpPrerelTo (unstable helmKind options.dateTime) (bumpedLatest options latest))

/-- The version of a release branch, with one or two zeros where that makes it valid. -/
def releaseV (checkBranch : String) : Except PublishError String :=
  let text := removeStart "release/" checkBranch
  if text = checkBranch then
    .error (.died ("Cannot determine Chart version from branch: " ++ checkBranch))
  else if (semverParse text).isSome then .ok text
  else if (semverParse (text ++ ".0")).isSome then .ok (text ++ ".0")
  else if (semverParse (text ++ ".0.0")).isSome then .ok (text ++ ".0.0")
  else .error (.died ("Cannot determine Chart version from branch: " ++ checkBranch))

def branchChartVersion (options : BranchOptions) (refs : List String) :
    Except PublishError String :=
  if options.checkBranch = "develop" then .ok "0.0.0"
  else if "helm-testing/".toList.isPrefixOf options.checkBranch.toList then
    (helmTestingBranchVersion options refs).map Version.toString
  else releaseV options.checkBranch

/-! ## Release branches -/

/-- A branch `release/X.Y`. -/
structure ReleaseBranch where
  major : ℕ
  minor : ℕ
  deriving DecidableEq, Repr

namespace ReleaseBranch

def text (branch : ReleaseBranch) : String :=
  branch.major.repr ++ "." ++ branch.minor.repr

/-- The name of the branch of the remote. -/
def ref (branch : ReleaseBranch) : String :=
  "origin/" ++ ("release/" ++ branch.text)

/-- The version `X.Y.0`. -/
def version (branch : ReleaseBranch) : Version :=
  ⟨branch.major, branch.minor, 0, [], []⟩

end ReleaseBranch

theorem afterFirst_append {pattern : List Char} (hne : pattern ≠ []) (rest : List Char) :
    afterFirst pattern (pattern ++ rest) = some rest := by
  cases pattern with
  | nil => exact absurd rfl hne
  | cons char pattern =>
    have hstart : (char :: pattern).isPrefixOf (char :: (pattern ++ rest)) = true :=
      List.isPrefixOf_iff_prefix.mpr (List.prefix_append (char :: pattern) rest)
    rw [List.cons_append, afterFirst, if_pos hstart, ← List.cons_append, List.drop_left]

theorem removeThrough_append {pattern : String} (hne : pattern.toList ≠ []) (rest : String) :
    removeThrough pattern (pattern ++ rest) = rest := by
  rw [removeThrough, String.toList_append, afterFirst_append hne, Option.getD_some,
    String.ofList_toList]

section Text

variable (branch : ReleaseBranch)

theorem ReleaseBranch.text_toList :
    branch.text.toList = branch.major.repr.toList ++ '.' :: branch.minor.repr.toList := by
  simp [text]

theorem isDigits_repr (value : ℕ) : isDigits value.repr.toList = true := by
  have hne : value.repr.toList ≠ [] := by
    rw [Nat.toList_repr]
    exact Nat.toDigits_ne_nil
  rw [isDigits, all_isDigit_repr, Bool.and_true, Bool.not_eq_true', List.isEmpty_eq_false_iff]
  exact hne

theorem isDotted_text : isDotted branch.text.toList = true := by
  have hdigits (value : ℕ) (char : Char) (h : char ∈ value.repr.toList) :
      (char.isDigit || char = '.') = true := by
    rw [List.all_eq_true.mp (all_isDigit_repr value) char h, Bool.true_or]
  rw [isDotted, branch.text_toList, Bool.and_eq_true]
  constructor
  · simp
  · rw [List.all_append, List.all_cons, Bool.and_eq_true, Bool.and_eq_true]
    exact ⟨List.all_eq_true.mpr (hdigits branch.major), by decide,
      List.all_eq_true.mpr (hdigits branch.minor)⟩

theorem paddedRelease_text : paddedRelease branch.text = some (branch.text ++ ".0") := by
  have hdot : isDigits branch.text.toList = false := by
    rw [isDigits, branch.text_toList, List.all_append, List.all_cons]
    simp [Char.isDigit]
  have hnumbers : digitsThen isDigits branch.text.toList = true := by
    rw [branch.text_toList, digitsThen, List.any_eq_true]
    refine ⟨branch.major.repr.toList.length, ?_, ?_⟩
    · simp
    · rw [List.take_left, isDigits_repr, Bool.true_and, ← List.drop_drop, List.drop_left]
      exact isDigits_repr branch.minor
  rw [paddedRelease, hdot, hnumbers]
  rfl

theorem version_toString : branch.version.toString = branch.text ++ ".0" := by
  have hzero : (0 : ℕ).repr = "0" := rfl
  simp [Version.toString, ReleaseBranch.version, ReleaseBranch.text, hzero, String.append_assoc]

theorem releaseBranchVersion_text :
    releaseBranchVersion ("release/" ++ branch.text) = .ok (branch.text ++ ".0") := by
  have hends : endsWithRelease ("release/" ++ branch.text) = true := by
    rw [endsWithRelease, List.any_eq_true]
    refine ⟨_, (List.mem_tails _ _).mpr List.suffix_rfl, ?_⟩
    rw [String.toList_append, List.drop_left, isDotted_text, Bool.and_true]
    exact List.isPrefixOf_iff_prefix.mpr (List.prefix_append _ _)
  have hne : "release/".toList ≠ [] := by decide
  rw [releaseBranchVersion, hends, removeThrough_append hne, paddedRelease_text]
  rfl

theorem semverParse_text : semverParse (branch.text ++ ".0") = some branch.version := by
  rw [← version_toString]
  exact semverParse_toString (List.forall_mem_nil _) rfl

/-- Branches of one name have the same numbers. -/
theorem ReleaseBranch.ref_injective {left right : ReleaseBranch} (h : left.ref = right.ref) :
    left = right := by
  have htext : left.text = right.text := by
    rw [← String.toList_inj] at h ⊢
    simpa [ref] using h
  have hversion : left.version = right.version := by
    rw [← Option.some_inj, ← semverParse_text, ← semverParse_text, htext]
  cases left
  cases right
  simpa [version] using hversion

theorem isReleaseRef_ref : isReleaseRef branch.ref = true := by
  have hchars : branch.ref.toList = "origin/release/".toList ++ branch.text.toList := by
    simp [ReleaseBranch.ref]
  rw [isReleaseRef, hchars, List.drop_left, Bool.and_eq_true]
  constructor
  · exact List.isPrefixOf_iff_prefix.mpr (List.prefix_append _ _)
  · rw [branch.text_toList]
    simp

end Text

/-! ## The latest branch -/

section Latest

variable {options : BranchOptions} {refs : List String} {last : ReleaseBranch}

/-- The release branches of the remote. -/
def releaseRefs (refs : List String) : Set String :=
  {ref | ref ∈ refs ∧ isReleaseRef ref}

theorem latest_eq_some_iff {ref : String} :
    ((refs.filter isReleaseRef).insertionSort fun left right ↦ left ≤ right).getLast? = some ref ↔
      IsGreatest (releaseRefs refs) ref := by
  rw [Sorted.getLast?_eq_some_iff (List.pairwise_insertionSort _ _)]
  simp only [releaseRefs, List.mem_insertionSort, List.mem_filter]

theorem exists_greatest {branch : ReleaseBranch} (h : branch.ref ∈ refs) :
    ∃ ref, IsGreatest (releaseRefs refs) ref := by
  have hmem : branch.ref ∈ (refs.filter isReleaseRef).insertionSort fun left right ↦ left ≤ right :=
    (List.mem_insertionSort _).mpr (List.mem_filter.mpr ⟨h, isReleaseRef_ref branch⟩)
  obtain ⟨ref, href⟩ := Option.isSome_iff_exists.mp (List.getLast?_isSome.mpr
    (List.ne_nil_of_mem hmem))
  exact ⟨ref, latest_eq_some_iff.mp href⟩

theorem latestReleaseBranch_eq (hoverride : options.latestReleaseBranch = "")
    (hlast : IsGreatest (releaseRefs refs) last.ref) :
    latestReleaseBranch options refs = "release/" ++ last.text := by
  have hne : "origin/".toList ≠ [] := by decide
  rw [latestReleaseBranch, if_neg (not_not.mpr hoverride), latest_eq_some_iff.mpr hlast]
  exact removeThrough_append hne _

end Latest

/-! ## Ahead of the release branches -/

/-- The date has no other characters than an identifier of a version. -/
def IsDateTime (dateTime : String) : Prop :=
  dateTime.toList.all Version.isIdentifierChar = true

instance (dateTime : String) : Decidable (IsDateTime dateTime) :=
  inferInstanceAs (Decidable (_ = _))

theorem wellFormed_unstable {helmKind dateTime : String}
    (hkind : helmKind.toList.all Version.isIdentifierChar = true) (hdate : IsDateTime dateTime) :
    WellFormedIdentifier (unstable helmKind dateTime) := by
  have hchars : (unstable helmKind dateTime).toList = '0' :: '-' :: (helmKind.toList ++
      ("-unstable-".toList ++ (dateTime.toList ++ "-0".toList))) := by
    simp [unstable]
  refine ⟨?_, ?_, ?_⟩
  · rw [hchars]
    exact List.cons_ne_nil _ _
  · have hunstable : "-unstable-".toList.all Version.isIdentifierChar = true := by decide
    have hend : "-0".toList.all Version.isIdentifierChar = true := by decide
    rw [hchars, List.all_cons, List.all_cons, List.all_append, List.all_append, List.all_append,
      hkind, hunstable, hdate, hend]
    decide
  · intro hdigits
    rw [hchars, List.all_cons, List.all_cons] at hdigits
    simp [Char.isDigit] at hdigits

/-- A release with a pre-release of one identifier. -/
def withPre (pre : String) (version : Version) : Version :=
  { version with pre := [pre], build := [] }

theorem semverParse_withPre {pre : String} (h : WellFormedIdentifier pre) (version : Version) :
    semverParse (withPre pre version).toString = some (withPre pre version) := by
  apply semverParse_toString _ rfl
  intro identifier hidentifier
  rwa [List.mem_singleton.mp hidentifier]

theorem bumpPrerelTo_eq {pre : String} (h : WellFormedIdentifier pre) (version : Version) :
    bumpPrerelTo pre version = some (withPre pre version) := by
  have htext : (releasePart version).toString ++ "-" ++ pre = (withPre pre version).toString := by
    simp [Version.toString, releasePart, withPre, String.append_assoc]
  rw [bumpPrerelTo, htext, semverParse_withPre h]

/-- Versions `X.Y.0` are ordered by their numbers. -/
theorem older_release_iff (major minor major' minor' : ℕ) :
    Older ⟨major, minor, 0, [], []⟩ ⟨major', minor', 0, [], []⟩ ↔
      major < major' ∨ major = major' ∧ minor < minor' := by
  change (compare major major').then ((compare minor minor').then .eq) = .lt ↔ _
  simp only [Ordering.then_eq_lt, Nat.compare_eq_lt, Nat.compare_eq_eq, reduceCtorEq, and_false,
    or_false]

/-- The chart of a branch has a version whose release is newer than every release branch. -/
def AheadOfReleases (options : BranchOptions) (refs : List String) : Prop :=
  ∃ text version, branchChartVersion options refs = .ok text ∧ semverParse text = some version ∧
    ∀ branch : ReleaseBranch, branch.ref ∈ refs → Older branch.version (releasePart version)

/-- The branch is not after another one; where the major version is bumped, only it counts. -/
def ReleaseBranch.NotAfter (bumpMajorForMain : Bool) (branch last : ReleaseBranch) : Prop :=
  if bumpMajorForMain then branch.major ≤ last.major
  else branch.major < last.major ∨ branch.major = last.major ∧ branch.minor ≤ last.minor

/-- No release branch is after the one whose name sorts last. -/
def LastIsLatest (bumpMajorForMain : Bool) (refs : List String) : Prop :=
  ∀ last branch : ReleaseBranch, IsGreatest (releaseRefs refs) last.ref → branch.ref ∈ refs →
    branch.NotAfter bumpMajorForMain last

section Develop

variable {options : BranchOptions} {refs : List String} {last : ReleaseBranch}

/-- The version of the development chart, from the branch whose name sorts last. -/
theorem branchChartVersion_develop (hbranch : options.checkBranch = "helm-testing/develop")
    (hoverride : options.latestReleaseBranch = "") (hdate : IsDateTime options.dateTime)
    (hlast : IsGreatest (releaseRefs refs) last.ref) :
    branchChartVersion options refs = .ok (withPre (unstable "main" options.dateTime)
      (bumpedLatest options last.version)).toString := by
  have hpre : WellFormedIdentifier (unstable "main" options.dateTime) :=
    wellFormed_unstable (by decide) hdate
  have hversion : helmTestingBranchVersion options refs = .ok (withPre
      (unstable "main" options.dateTime) (bumpedLatest options last.version)) := by
    rw [helmTestingBranchVersion, helmTestingBranch, if_pos hbranch,
      latestReleaseBranch_eq hoverride hlast]
    simp only [Bind.bind, Except.bind, releaseBranchVersion_text, semverParse_text, semverTool,
      bumpPrerelTo_eq hpre]
  have hdevelop : ¬options.checkBranch = "develop" := by
    rw [hbranch]
    decide
  have hstart : "helm-testing/".toList.isPrefixOf options.checkBranch.toList = true := by
    rw [hbranch]
    decide
  rw [branchChartVersion, if_neg hdevelop, if_pos hstart, hversion, Except.map]

/-- The development chart is ahead of the branches that are not after the one it was made from. -/
theorem older_bumpedLatest_iff (hbranch : options.checkBranch = "helm-testing/develop")
    (branch : ReleaseBranch) :
    Older branch.version (bumpedLatest options last.version) ↔
      branch.NotAfter options.bumpMajorForMain last := by
  rw [bumpedLatest, if_pos hbranch, ReleaseBranch.NotAfter]
  split
  · have holder := older_release_iff branch.major branch.minor (last.major + 1) 0
    refine holder.trans ?_
    omega
  · have holder := older_release_iff branch.major branch.minor last.major (last.minor + 1)
    refine holder.trans ?_
    omega

theorem aheadOfReleases_iff (hbranch : options.checkBranch = "helm-testing/develop")
    (hoverride : options.latestReleaseBranch = "") (hdate : IsDateTime options.dateTime)
    (hlast : IsGreatest (releaseRefs refs) last.ref) :
    AheadOfReleases options refs ↔ ∀ branch : ReleaseBranch, branch.ref ∈ refs →
      branch.NotAfter options.bumpMajorForMain last := by
  have htext := branchChartVersion_develop hbranch hoverride hdate hlast
  have hpre : WellFormedIdentifier (unstable "main" options.dateTime) :=
    wellFormed_unstable (by decide) hdate
  have hrelease : releasePart (withPre (unstable "main" options.dateTime)
      (bumpedLatest options last.version)) = bumpedLatest options last.version := by
    rw [bumpedLatest, if_pos hbranch]
    split
    · rfl
    · rfl
  unfold AheadOfReleases
  simp only [htext, Except.ok.injEq, exists_and_left, exists_eq_left', semverParse_withPre hpre,
    Option.some.injEq, hrelease, older_bumpedLatest_iff hbranch]

/-- The development chart is newer than every release branch if and only if none is after the
branch whose name sorts last. -/
theorem branchChartVersion_develop_iff (options : BranchOptions) (refs : List String)
    (hbranch : options.checkBranch = "helm-testing/develop")
    (hoverride : options.latestReleaseBranch = "") (hdate : IsDateTime options.dateTime)
    (hrefs : ∀ ref ∈ refs, isReleaseRef ref → ∃ branch : ReleaseBranch, branch.ref = ref)
    (hne : ∃ branch : ReleaseBranch, branch.ref ∈ refs) :
    AheadOfReleases options refs ↔ LastIsLatest options.bumpMajorForMain refs := by
  constructor
  · intro hahead last branch hlast
    exact (aheadOfReleases_iff hbranch hoverride hdate hlast).mp hahead branch
  · intro hlatest
    obtain ⟨branch, hbranchMem⟩ := hne
    obtain ⟨ref, hgreatest⟩ := exists_greatest hbranchMem
    obtain ⟨last, rfl⟩ := hrefs ref hgreatest.1.1 hgreatest.1.2
    exact (aheadOfReleases_iff hbranch hoverride hdate hgreatest).mpr fun branch hmem ↦
      hlatest last branch hgreatest hmem

end Develop

/-- The arguments for the development chart. -/
def developOptions : BranchOptions := ⟨"helm-testing/develop", "2023-03-30-13-07-40", "", false⟩

/-- The refs of a remote with two release branches. -/
def remoteRefs (first second : ReleaseBranch) : List String :=
  ["origin/develop", first.ref, second.ref]

theorem ref_mem_remoteRefs {first second branch : ReleaseBranch} :
    branch.ref ∈ remoteRefs first second ↔ branch = first ∨ branch = second := by
  have hdevelop : branch.ref ≠ "origin/develop" := by
    intro h
    have href := isReleaseRef_ref branch
    rw [h] at href
    exact absurd href (by decide)
  simp only [remoteRefs, List.mem_cons, hdevelop, List.not_mem_nil, or_false, false_or]
  exact ⟨Or.imp ReleaseBranch.ref_injective ReleaseBranch.ref_injective,
    Or.imp (congrArg _) (congrArg _)⟩

theorem isRelease_of_mem_remoteRefs {first second : ReleaseBranch} {ref : String}
    (hmem : ref ∈ remoteRefs first second) (href : isReleaseRef ref = true) :
    ∃ branch : ReleaseBranch, branch.ref = ref := by
  simp only [remoteRefs, List.mem_cons, List.not_mem_nil, or_false] at hmem
  rcases hmem with rfl | rfl | rfl
  · exact absurd href (by decide)
  · exact ⟨first, rfl⟩
  · exact ⟨second, rfl⟩

/-- Two branches with numbers of one digit. -/
theorem branchChartVersion_develop_eight_nine :
    AheadOfReleases developOptions (remoteRefs ⟨2, 8⟩ ⟨2, 9⟩) := by
  refine (branchChartVersion_develop_iff developOptions (remoteRefs ⟨2, 8⟩ ⟨2, 9⟩) rfl rfl
    (by decide) (fun ref ↦ isRelease_of_mem_remoteRefs)
    ⟨⟨2, 8⟩, ref_mem_remoteRefs.mpr (.inl rfl)⟩).mpr ?_
  intro last branch hlast hmem
  have hnine : (⟨2, 9⟩ : ReleaseBranch).ref ≤ last.ref :=
    hlast.2 ⟨ref_mem_remoteRefs.mpr (.inr rfl), isReleaseRef_ref _⟩
  rcases ref_mem_remoteRefs.mp hlast.1.1 with rfl | rfl
  · exact absurd hnine (by decide)
  · rcases ref_mem_remoteRefs.mp hmem with rfl | rfl
    · exact .inr ⟨rfl, by decide⟩
    · exact .inr ⟨rfl, by decide⟩

/-- The tenth minor release sorts before the ninth, and its version is computed again. -/
theorem branchChartVersion_develop_behind :
    branchChartVersion developOptions (remoteRefs ⟨2, 9⟩ ⟨2, 10⟩) =
      .ok "2.10.0-0-main-unstable-2023-03-30-13-07-40-0" ∧
    ¬AheadOfReleases developOptions (remoteRefs ⟨2, 9⟩ ⟨2, 10⟩) := by
  have hlast : IsGreatest (releaseRefs (remoteRefs ⟨2, 9⟩ ⟨2, 10⟩))
      (⟨2, 9⟩ : ReleaseBranch).ref := by
    refine ⟨⟨ref_mem_remoteRefs.mpr (.inl rfl), isReleaseRef_ref _⟩, ?_⟩
    rintro ref ⟨hmem, href⟩
    obtain ⟨branch, rfl⟩ := isRelease_of_mem_remoteRefs hmem href
    rcases ref_mem_remoteRefs.mp hmem with rfl | rfl
    · exact le_rfl
    · decide
  have hdate : IsDateTime developOptions.dateTime := by decide
  constructor
  · exact (branchChartVersion_develop rfl rfl hdate hlast).trans (congrArg _ (by decide))
  · intro hahead
    have hten := (aheadOfReleases_iff rfl rfl hdate hlast).mp hahead ⟨2, 10⟩
      (ref_mem_remoteRefs.mpr (.inr rfl))
    rcases hten with hmajor | ⟨_, hminor⟩
    · exact absurd hmajor (by decide)
    · exact absurd hminor (by decide)

end MayastorExtensions.Scripts
