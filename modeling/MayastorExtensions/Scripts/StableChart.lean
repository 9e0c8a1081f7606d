import Mathlib.Data.List.Infix
import MayastorExtensions.Library.Sorted
import MayastorExtensions.Scripts.PublishChart

/-!
# Publishing a stable chart

A stable tag is published under its own version, unless the index check finds that it is published
already.  The check looks for the tag twice: for lines that the tag matches as a whole, and for the
line that sorts last among those that it matches somewhere.  A dot of the tag matches any character,
and the second search is not anchored.
-/

namespace MayastorExtensions.Scripts

open Semver

/-! ## Searching for a stable tag -/

theorem commonPrefix_append (front back : List Char) :
    commonPrefix front (front ++ back) = front := by
  induction front with
  | nil => cases back <;> rfl
  | cons char front ih => rw [List.cons_append, commonPrefix, if_pos rfl, ih]

/-- The bump of a stable version appends a pre-release, so that the whole version is searched
for. -/
theorem versionPrefix_of_stable {tag : Version} (firstNumber : ℕ) (hpre : tag.pre = [])
    (hbuild : tag.build = []) : versionPrefix firstNumber tag = tag.toString.toList := by
  have hbump : (bumpPrerel firstNumber tag).toString =
      tag.toString ++ ("-" ++ firstNumber.repr) := by
    rw [toString_eq hbuild, toString_eq rfl]
    simp [bumpPrerel, releaseText, preText, hpre]
  rw [versionPrefix, hbump, String.toList_append, commonPrefix_append]

theorem matchesStart_self (text : List Char) : matchesStart text text = true := by
  induction text with
  | nil => rfl
  | cons char text ih => simp [matchesStart, ih]

theorem grep_self (text : List Char) : grep text text = true :=
  List.any_eq_true.mpr ⟨text, (List.mem_tails _ _).mpr List.suffix_rfl, matchesStart_self text⟩

/-- The line that sorts last among those that a pattern matches somewhere. -/
def SortsLast (pattern : List Char) (index : List String) (line : String) : Prop :=
  IsGreatest {other | other ∈ index ∧ grep pattern other.toList} line

theorem latestLine_eq_some_iff {pattern : List Char} {index : List String} {line : String} :
    latestLine pattern index = some line ↔ SortsLast pattern index line := by
  rw [latestLine, Sorted.head?_eq_some_iff (List.pairwise_insertionSort _ _)]
  simp only [SortsLast, List.mem_insertionSort, List.mem_filter]

/-- A published tag is matched, so that some line sorts last. -/
theorem exists_sortsLast {index : List String} {text : String} (h : text ∈ index) :
    ∃ line, SortsLast text.toList index line := by
  cases hlatest : latestLine text.toList index with
  | some line => exact ⟨line, latestLine_eq_some_iff.mp hlatest⟩
  | none =>
    have hmem : text ∈ (index.filter fun line ↦ grep text.toList line.toList).insertionSort
        fun left right ↦ right ≤ left :=
      List.mem_insertionSort _ |>.mpr (List.mem_filter.mpr ⟨h, grep_self text.toList⟩)
    rw [latestLine, List.head?_eq_none_iff] at hlatest
    rw [hlatest] at hmem
    exact absurd hmem List.not_mem_nil

/-- A line of the index that is a pre-release. -/
def IsPreRelease (line : String) : Prop :=
  ∃ version, semverParse line = some version ∧ version.pre ≠ []

/-! ## The index check -/

/-- The index is read and checked. -/
structure Options.Checks (options : Options) : Prop where
  ignoreIndexCheck : options.ignoreIndexCheck = false
  indexLtVersion : options.indexLtVersion = ""

theorem Options.checks_ofAppTag (appTag : String) : (Options.ofAppTag appTag).Checks :=
  ⟨rfl, rfl⟩

/-- The lines that a version matches as a whole. -/
def wholeMatches (tag : Version) (index : List String) : List String :=
  index.filter fun line ↦ grepLine tag.toString.toList line.toList

section IndexCheck

variable {firstNumber : ℕ} {options : Options} {tag : Version} {index : List String}

/-- A stable tag is refused where it is the only line that it matches as a whole, or where the last
of the lines that it matches somewhere is no pre-release. -/
def Refused (tag : Version) (index : List String) : Prop :=
  wholeMatches tag index = [tag.toString] ∨
    ∃ line, SortsLast tag.toString.toList index line ∧ ¬IsPreRelease line

/-- What the line that sorts last is checked for. -/
theorem latestIndex_error_iff (line : String) :
    (∃ error, (do
      let latest ← version "Latest index" line
      if latest.pre = [] then
        .error (.died ("A stable chart version " ++ latest.toString ++
          " is already in the index. What should I do?"))
      else .ok (some latest) : Except PublishError (Option Version)) = .error error) ↔
      ¬IsPreRelease line := by
  unfold version IsPreRelease
  cases hparse : semverParse line with
  | none => simp [Bind.bind, Except.bind]
  | some parsed =>
    by_cases hpre : parsed.pre = []
    · simp [Bind.bind, Except.bind, precedence, hpre]
    · simp [Bind.bind, Except.bind, precedence, hpre]

theorem indexCheck_error_iff (hchecks : options.Checks) (hpre : tag.pre = [])
    (hbuild : tag.build = []) :
    (∃ error, indexCheck firstNumber options tag index = .error error) ↔ Refused tag index := by
  have hindex : indexVersions options index = index := by
    rw [indexVersions, if_pos hchecks.indexLtVersion]
  unfold indexCheck Refused
  simp only [hindex, hchecks.ignoreIndexCheck, versionPrefix_of_stable firstNumber hpre hbuild,
    Bool.false_eq_true, if_false]
  by_cases hwhole : wholeMatches tag index = [tag.toString]
  · rw [if_pos ⟨hwhole, hpre⟩]
    exact iff_of_true ⟨_, rfl⟩ (.inl hwhole)
  · rw [if_neg fun h ↦ hwhole h.1, or_iff_right hwhole]
    cases hlatest : latestLine tag.toString.toList index with
    | none =>
      apply iff_of_false
      · rintro ⟨error, herror⟩
        cases herror
      · rintro ⟨line, hline, _⟩
        rw [latestLine_eq_some_iff.mpr hline] at hlatest
        cases hlatest
    | some line =>
      have hline := latestLine_eq_some_iff.mp hlatest
      rw [latestIndex_error_iff]
      constructor
      · intro hnot
        exact ⟨line, hline, hnot⟩
      · rintro ⟨other, hother, hnot⟩
        rwa [hline.unique hother]

/-- A published tag is refused if and only if the last of the lines that it matches is no
pre-release, or it is the only line that it matches as a whole. -/
theorem refused_of_published_iff (h : tag.toString ∈ index) :
    Refused tag index ↔
      ((∃ line, SortsLast tag.toString.toList index line ∧ IsPreRelease line) →
        wholeMatches tag index = [tag.toString]) := by
  constructor
  · rintro (hwhole | ⟨line, hline, hnot⟩) ⟨last, hlast, hlastPre⟩
    · exact hwhole
    · rw [hline.unique hlast] at hnot
      exact absurd hlastPre hnot
  · intro hwhole
    obtain ⟨line, hline⟩ := exists_sortsLast h
    by_cases hlinePre : IsPreRelease line
    · exact .inl (hwhole ⟨line, hline, hlinePre⟩)
    · exact .inr ⟨line, hline, hlinePre⟩

/-- A tag that is not published passes if and only if the last of the lines that it matches is a
pre-release, if there is one. -/
theorem passes_of_unpublished_iff (h : tag.toString ∉ index) :
    ¬Refused tag index ↔
      ∀ line, SortsLast tag.toString.toList index line → IsPreRelease line := by
  have hwhole : wholeMatches tag index ≠ [tag.toString] := by
    intro hwhole
    have hmem : tag.toString ∈ wholeMatches tag index := by simp [hwhole]
    exact h (List.mem_of_mem_filter hmem)
  rw [Refused, or_iff_right hwhole]
  push Not
  exact Iff.rfl

end IndexCheck

/-! ## Stable app tags -/

section AppTag

variable {firstNumber : ℕ} {text : String} {chart : ChartFile} {index : List String}
  {tag chartVersion chartAppVersion : Version}

/-- A published tag fails in the index check, any other is put out as both versions. -/
def RefusesPublished (firstNumber : ℕ) (text : String) (chart : ChartFile) (index : List String)
    (tag : Version) : Prop :=
  (tag.toString ∈ index → ∃ error,
    indexCheck firstNumber (Options.ofAppTag text) tag index = .error error ∧
      publishChartYaml firstNumber (Options.ofAppTag text) chart index = .error error) ∧
  (tag.toString ∉ index →
    publishChartYaml firstNumber (Options.ofAppTag text) chart index =
      .ok (some ⟨tag, tag, "v" ++ tag.toString, "IfNotPresent"⟩))

/-- If the last of the lines that the tag matches is a pre-release although the tag is published,
the tag is the only line that it matches as a whole.  If it is not published, then that last line
is a pre-release. -/
structure IndexTellsPublished (tag : Version) (index : List String) : Prop where
  published : tag.toString ∈ index →
    (∃ line, SortsLast tag.toString.toList index line ∧ IsPreRelease line) →
      wholeMatches tag index = [tag.toString]
  unpublished : tag.toString ∉ index →
    ∀ line, SortsLast tag.toString.toList index line → IsPreRelease line

theorem build_of_version (htag : version "The" text = .ok tag) : tag.build = [] := by
  obtain ⟨parsed, _, rfl⟩ := version_eq_ok htag
  rfl

section Stable

variable (htag : version "The" text = .ok tag) (hpre : tag.pre = [])
  (hchecks : PassesChecks (Options.ofAppTag text) chart tag chartVersion chartAppVersion)

include htag hpre hchecks

theorem publishChartYaml_error_iff :
    (∃ error, indexCheck firstNumber (Options.ofAppTag text) tag index = .error error ∧
      publishChartYaml firstNumber (Options.ofAppTag text) chart index = .error error) ↔
        Refused tag index := by
  rw [← indexCheck_error_iff (Options.checks_ofAppTag text) hpre (build_of_version htag),
    publishChartYaml_of_passesChecks (resolveAppTag_of_version htag) hchecks]
  apply exists_congr
  intro error
  rw [and_iff_left_iff_imp]
  intro herror
  rw [herror]
  rfl

theorem publishChartYaml_ok_iff :
    publishChartYaml firstNumber (Options.ofAppTag text) chart index =
      .ok (some ⟨tag, tag, "v" ++ tag.toString, "IfNotPresent"⟩) ↔ ¬Refused tag index := by
  rw [← @indexCheck_error_iff firstNumber _ _ _ (Options.checks_ofAppTag text) hpre
      (build_of_version htag),
    publishChartYaml_of_passesChecks (resolveAppTag_of_version htag) hchecks]
  cases indexCheck firstNumber (Options.ofAppTag text) tag index with
  | error error => simp [Except.map]
  | ok latest => simp [Except.map, outputYaml, newChartVersion, Options.ofAppTag, hpre]

end Stable

/-- A stable tag is refused exactly where it is published if and only if the index tells. -/
theorem publishChartYaml_stable_iff (firstNumber : ℕ) (text : String) (chart : ChartFile)
    (index : List String) (tag chartVersion chartAppVersion : Version)
    (htag : version "The" text = .ok tag) (hpre : tag.pre = [])
    (hchecks : PassesChecks (Options.ofAppTag text) chart tag chartVersion chartAppVersion) :
    RefusesPublished firstNumber text chart index tag ↔ IndexTellsPublished tag index := by
  rw [RefusesPublished, publishChartYaml_error_iff htag hpre hchecks,
    publishChartYaml_ok_iff htag hpre hchecks]
  constructor
  · rintro ⟨hpublished, hunpublished⟩
    exact ⟨fun h ↦ (refused_of_published_iff h).mp (hpublished h),
      fun h ↦ (passes_of_unpublished_iff h).mp (hunpublished h)⟩
  · rintro ⟨hpublished, hunpublished⟩
    exact ⟨fun h ↦ (refused_of_published_iff h).mpr (hpublished h),
      fun h ↦ (passes_of_unpublished_iff h).mpr (hunpublished h)⟩

end AppTag

/-- The stable version of the chart. -/
def twoDotZero : Version := ⟨2, 0, 0, [], []⟩

/-- A release after the stable version of the chart and a pre-release of it are published. -/
def laterReleased : List String := ["2.0.1", "2.0.0-a.0"]

theorem publishChartYaml_stable_new :
    RefusesPublished 1 "2.0.0" nextRelease laterReleased twoDotZero := by
  refine (publishChartYaml_stable_iff 1 "2.0.0" nextRelease laterReleased twoDotZero twoDotZero
    twoDotZero (by decide) rfl ⟨by decide, by decide, by decide, by decide, by decide, by decide,
      by decide⟩).mpr ⟨fun hpublished ↦ absurd hpublished (by decide), ?_⟩
  rintro - line ⟨⟨hmem, hmatch⟩, -⟩
  simp only [laterReleased, List.mem_cons, List.not_mem_nil, or_false] at hmem
  rcases hmem with rfl | rfl
  · exact absurd hmatch (by decide)
  · exact ⟨alpha 0, by decide, by decide⟩

/-- The first patch release is refused where the tenth is published. -/
theorem publishChartYaml_refuses_unpublished :
    publishChartYaml 1 (Options.ofAppTag "2.0.1") nextRelease ["2.0.10"] =
      .error (.died "A stable chart version 2.0.10 is already in the index. What should I do?") ∧
    ¬RefusesPublished 1 "2.0.1" nextRelease ["2.0.10"] ⟨2, 0, 1, [], []⟩ := by
  have hrun : publishChartYaml 1 (Options.ofAppTag "2.0.1") nextRelease ["2.0.10"] =
        .error (.died
          "A stable chart version 2.0.10 is already in the index. What should I do?") := by
    decide
  refine ⟨hrun, fun h ↦ ?_⟩
  have hok := h.2 (by decide)
  rw [hrun] at hok
  cases hok

/-! ## After a release -/

/-- The arguments of a run after a release. -/
def Options.ofReleased (released : String) : Options := ⟨"", released, "", false⟩

theorem Options.checks_ofReleased (released : String) : (Options.ofReleased released).Checks :=
  ⟨rfl, rfl⟩

section Released

variable {firstNumber : ℕ} {text : String} {chart : ChartFile} {index : List String}
  {tag released chartVersion chartAppVersion : Version}

/-- The tag of a run after a release is the next patch release. -/
theorem resolveAppTag_ofReleased_iff :
    resolveAppTag (Options.ofReleased text) = .ok tag ↔
      ∃ released, semverParse text = some released ∧ bumpPatch released = tag := by
  by_cases htext : text = ""
  · subst htext
    have hparse : semverParse "" = none := by decide
    simp [resolveAppTag, Options.ofReleased, hparse]
  · have hbumped (released : Version) :
        version "The" (bumpPatch released).toString = .ok (bumpPatch released) := by
      have hformed : WellFormed (bumpPatch released) := List.forall_mem_nil _
      rw [version, semverParse_toString hformed rfl]
      rfl
    have hset : (Options.ofReleased text).updateRel ≠ "" := htext
    have hnone : ¬(Options.ofReleased text).appTag ≠ "" := fun h ↦ h rfl
    rw [resolveAppTag, if_pos hset, if_neg hnone, Options.ofReleased]
    cases semverParse text with
    | none => simp
    | some released => simp [hbumped]

/-- Versions that differ in the patch are compared by it. -/
theorem semverCompare_of_diff_patch {left right : Version} (h : semverDiff left right = .patch) :
    left.major = right.major ∧ left.minor = right.minor ∧ left.patch ≠ right.patch ∧
      semverCompare left right = compare left.patch right.patch := by
  unfold semverDiff at h
  split_ifs at h with hmajor hminor hpatch
  have hsame : left.major = right.major ∧ left.minor = right.minor :=
    ⟨not_not.mp hmajor, not_not.mp hminor⟩
  refine ⟨hsame.1, hsame.2, hpatch, ?_⟩
  simp only [semverCompare, Version.cmp, compareLex, compareOn, precedence, hsame.1, hsame.2]
  cases hcompare : compare left.patch right.patch with
  | lt => simp
  | gt => simp
  | eq => exact absurd (Nat.compare_eq_eq.mp hcompare) hpatch
/-- The chart is bumped to a patch release that comes after it. -/
theorem newer_of_checkReleased (htext : text ≠ "")
    (h : checkReleased (Options.ofReleased text) chartVersion tag = .ok false) :
    chartVersion.toString ≠ tag.toString ∧ Older chartVersion tag ∧
      tag.major = chartVersion.major ∧ tag.minor = chartVersion.minor := by
  have hset : ¬(Options.ofReleased text).updateRel = "" := htext
  unfold checkReleased at h
  rw [if_neg hset] at h
  split_ifs at h with hzero hsame hcompare hdiff
  · cases h
  · obtain ⟨hmajor, hminor, hpatch, heq⟩ := semverCompare_of_diff_patch (not_not.mp hdiff)
    refine ⟨hsame, ?_, hmajor.symm, hminor.symm⟩
    rw [heq] at hcompare
    rw [Older, heq]
    cases hresult : compare chartVersion.patch tag.patch with
    | lt => rfl
    | eq => exact absurd (Nat.compare_eq_eq.mp hresult) hpatch
    | gt => exact absurd hresult hcompare

/-- The new versions are the patch release after a release, stable and newer than the chart, of its
major and minor version, and not published. -/
structure MovesForward (released chartVersion : Version) (index : List String) (output : Output) :
    Prop where
  version : output.version = bumpPatch released
  appVersion : output.appVersion = bumpPatch released
  stable : output.version.pre = []
  newer : Older chartVersion output.version
  major : output.version.major = chartVersion.major
  minor : output.version.minor = chartVersion.minor
  unpublished : output.version.toString ∉ index

/-- Whenever the chart is rewritten, it moves forward. -/
def OnlyMovesForward (firstNumber : ℕ) (text : String) (chart : ChartFile) (index : List String) :
    Prop :=
  ∀ output, publishChartYaml firstNumber (Options.ofReleased text) chart index = .ok (some output) →
    ∃ released chartVersion, semverParse text = some released ∧
      version "The" chart.version = .ok chartVersion ∧
      MovesForward released chartVersion index output

/-- If the chart passes the checks and the next patch release is published already, although the
last of the lines that it matches is a pre-release, it is the only line that it matches as a
whole. -/
def PublishedOnce (text : String) (chart : ChartFile) (index : List String) : Prop :=
  ∀ released chartVersion chartAppVersion, semverParse text = some released →
    PassesChecks (Options.ofReleased text) chart (bumpPatch released) chartVersion
      chartAppVersion →
    (bumpPatch released).toString ∈ index →
    (∃ line, SortsLast (bumpPatch released).toString.toList index line ∧ IsPreRelease line) →
      wholeMatches (bumpPatch released) index = [(bumpPatch released).toString]

/-- The run after a release, for a chart that passes the checks. -/
theorem publishChartYaml_ofReleased (hparse : semverParse text = some released)
    (hchecks : PassesChecks (Options.ofReleased text) chart (bumpPatch released) chartVersion
      chartAppVersion) :
    publishChartYaml firstNumber (Options.ofReleased text) chart index =
      (indexCheck firstNumber (Options.ofReleased text) (bumpPatch released) index).map fun _ ↦
        some ⟨bumpPatch released, bumpPatch released, "", ""⟩ := by
  have htext := ne_empty_of_semverParse hparse
  have hsame := (newer_of_checkReleased htext hchecks.released).1
  have hset : (Options.ofReleased text).updateRel ≠ "" := htext
  rw [publishChartYaml_of_passesChecks
    (resolveAppTag_ofReleased_iff.mpr ⟨released, hparse, rfl⟩) hchecks]
  simp only [outputYaml, if_pos (And.intro hset hsame)]

/-- The bump after a release only moves forward if and only if the index does not have the next
patch release more than once in front of a pre-release of it. -/
theorem publishChartYaml_released_iff (firstNumber : ℕ) (text : String) (chart : ChartFile)
    (index : List String) :
    OnlyMovesForward firstNumber text chart index ↔ PublishedOnce text chart index := by
  constructor
  · intro hforward released chartVersion chartAppVersion hparse hchecks hpublished
    rw [← refused_of_published_iff hpublished,
      ← @indexCheck_error_iff firstNumber _ _ _ (Options.checks_ofReleased text) rfl rfl]
    have hrun := @publishChartYaml_ofReleased firstNumber _ _ index _ _ _ hparse hchecks
    cases hindex : indexCheck firstNumber (Options.ofReleased text) (bumpPatch released) index with
    | error error => exact ⟨error, rfl⟩
    | ok latest =>
      rw [hindex] at hrun
      obtain ⟨_, _, _, _, hmoves⟩ := hforward _ hrun
      exact absurd hpublished hmoves.unpublished
  · intro honce output hrun
    obtain ⟨tag, chartVersion, chartAppVersion, latest, htag, hchecks, hindex, rfl⟩ :=
      exists_passesChecks hrun
    obtain ⟨released, hparse, rfl⟩ := resolveAppTag_ofReleased_iff.mp htag
    have htext := ne_empty_of_semverParse hparse
    obtain ⟨hsame, hnewer, hmajor, hminor⟩ := newer_of_checkReleased htext hchecks.released
    have hset : (Options.ofReleased text).updateRel ≠ "" := htext
    rw [outputYaml, if_pos ⟨hset, hsame⟩]
    refine ⟨released, chartVersion, hparse, hchecks.parsed, rfl, rfl, rfl, hnewer, hmajor, hminor,
      ?_⟩
    intro hpublished
    have hrefused := (refused_of_published_iff hpublished).mpr
      (honce released chartVersion chartAppVersion hparse hchecks hpublished)
    obtain ⟨error, herror⟩ := (@indexCheck_error_iff firstNumber _ _ _
      (Options.checks_ofReleased text) rfl rfl).mpr hrefused
    rw [herror] at hindex
    cases hindex

end Released

/-- The next patch release is listed twice, before a pre-release of it. -/
def listedTwice : List String := ["2.0.1", "2.0.1", "2.0.1-a.1"]

/-- The chart is bumped to a release that is published. -/
theorem publishChartYaml_released_republishes :
    publishChartYaml 1 (Options.ofReleased "2.0.0") nextRelease listedTwice =
      .ok (some ⟨⟨2, 0, 1, [], []⟩, ⟨2, 0, 1, [], []⟩, "", ""⟩) ∧
    ¬OnlyMovesForward 1 "2.0.0" nextRelease listedTwice := by
  have hrun : publishChartYaml 1 (Options.ofReleased "2.0.0") nextRelease listedTwice =
      .ok (some ⟨⟨2, 0, 1, [], []⟩, ⟨2, 0, 1, [], []⟩, "", ""⟩) := by
    decide
  refine ⟨hrun, fun h ↦ ?_⟩
  obtain ⟨_, _, _, _, hmoves⟩ := h _ hrun
  exact hmoves.unpublished (by decide)

end MayastorExtensions.Scripts
