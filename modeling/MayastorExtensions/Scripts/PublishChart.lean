import Mathlib.Data.List.Sort
import Mathlib.Data.String.Basic
import MayastorExtensions.Library.Outcome
import MayastorExtensions.Scripts.SemverTool

/-!
# Publishing the chart

`publish-chart-yaml.sh` chooses the version under which the chart is published.  For a pre-release
it looks for the latest version in the chart index that the tag continues: the lines of the index
that contain the text which the tag and its bump have in common are sorted as text, and the last of
them is bumped unless it is older than the tag.

The flows `--app-tag` and `--released` are modelled, without a branch to check.
-/

namespace MayastorExtensions.Scripts

open Semver

/-! ## Versions of the script -/

/-- The script stops with a message of its own, or with that of the semver tool. -/
inductive PublishError where
  | died (message : String)
  | semver
  deriving DecidableEq, Repr

/-- A valid version without a leading `v` and without build metadata. -/
def version (name text : String) : Except PublishError Version :=
  match semverParse text with
  | none => .error (.died (name ++ " version " ++ text ++ " is not a valid semver!"))
  | some parsed => .ok (precedence parsed)

/-- The arguments; what is not given is empty, and an empty `--override-index` disables the index
check. -/
structure Options where
  appTag : String
  updateRel : String
  indexLtVersion : String
  ignoreIndexCheck : Bool

/-- The versions in `Chart.yaml`, or those that override them. -/
structure ChartFile where
  version : String
  appVersion : String

def resolveAppTag (options : Options) : Except PublishError Version :=
  if options.updateRel ≠ "" then
    if options.appTag ≠ "" then
      .error (.died "Cannot specify --update-release and --app-tag together")
    else
      match semverParse options.updateRel with
      | none => .error .semver
      | some released => version "The" (bumpPatch released).toString
  else if options.appTag = "" then .error (.died "--app-tag not specified")
  else version "The" options.appTag

/-- At most the patch and the pre-release may differ. -/
def checkDifference (name : String) (left chartAppVersion : Version) : Except PublishError Unit :=
  let diff := semverDiff left chartAppVersion
  if diff ∈ [Difference.none, .patch, .prerelease] then .ok ()
  else .error (.died ("Difference(" ++ diff.toString ++ ") between " ++ name ++ "(" ++
    left.toString ++ ") CHART_APP_VERSION(" ++ chartAppVersion.toString ++ ") not allowed!"))

def checkStable (name : String) (stable : Version) : Except PublishError Unit :=
  if stable.pre = [] then .ok ()
  else .error (.died ("Script expects " ++ name ++ "(" ++ stable.toString ++
    ") to point to the future stable release"))

/-- After a release: whether the chart has been bumped already. -/
def checkReleased (options : Options) (chartVersion appTag : Version) :
    Except PublishError Bool :=
  if options.updateRel = "" then .ok false
  else if chartVersion.toString = "0.0.0" then
    .error (.died ("Must be used on a release branch only but $CHART_VERSION " ++
      chartVersion.toString ++ " "))
  else if chartVersion.toString = appTag.toString then .ok true
  else if semverCompare chartVersion appTag = .gt then
    .error (.died "Future version can't possibly be older than the current")
  else if semverDiff chartVersion appTag ≠ .patch then
    .error (.died "Only future patch releases are allowed!")
  else .ok false

/-! ## The index -/

/-- The longest text with which two texts start. -/
def commonPrefix : List Char → List Char → List Char
  | left :: lefts, right :: rights =>
    if left = right then left :: commonPrefix lefts rights else []
  | _, _ => []

/-- What the text of a version has in common with that of its bump. -/
def versionPrefix (firstNumber : ℕ) (appTag : Version) : List Char :=
  commonPrefix appTag.toString.toList (bumpPrerel firstNumber appTag).toString.toList

/-- A pattern matches at the start of a text; a dot matches every character. -/
def matchesStart : List Char → List Char → Bool
  | [], _ => true
  | _ :: _, [] => false
  | p :: pattern, c :: text => (p = '.' || p = c) && matchesStart pattern text

/-- `grep`: the pattern matches somewhere in the line. -/
def grep (pattern line : List Char) : Bool :=
  line.tails.any (matchesStart pattern)

/-- `grep -x`: the pattern matches the whole line. -/
def grepLine (pattern line : List Char) : Bool :=
  pattern.length = line.length && matchesStart pattern line

/-- The versions in the index, or the one that overrides them. -/
def indexVersions (options : Options) (index : List String) : List String :=
  if options.indexLtVersion = "" then index else [options.indexLtVersion]

/-- `grep`, `sort -r` and `head -n1`. -/
def latestLine (pattern : List Char) (lines : List String) : Option String :=
  ((lines.filter fun line ↦ grep pattern line.toList).insertionSort
    fun left right ↦ right ≤ left).head?

/-- The latest version in the index, if there is one. -/
def indexCheck (firstNumber : ℕ) (options : Options) (appTag : Version) (index : List String) :
    Except PublishError (Option Version) :=
  let lines := indexVersions options index
  let text := appTag.toString
  if options.ignoreIndexCheck then .ok none
  else if lines.filter (fun line ↦ grepLine text.toList line.toList) = [text] ∧ appTag.pre = [] then
    .error (.died ("A stable chart version " ++ text ++
      " matching the app tag is already in the index. What should I do?"))
  else
    match latestLine (versionPrefix firstNumber appTag) lines with
    | none => .ok none
    | some line => do
      let latest ← version "Latest index" line
      if latest.pre = [] then
        .error (.died ("A stable chart version " ++ latest.toString ++
          " is already in the index. What should I do?"))
      else .ok (some latest)

/-! ## The new version -/

def newChartVersion (firstNumber : ℕ) (appTag : Version) (latest : Option Version) : Version :=
  if appTag.pre = [] then appTag
  else
    match latest with
    | none => appTag
    | some latest =>
      if semverCompare latest appTag = .lt then appTag else bumpPrerel firstNumber latest

/-- What is written to the chart; a tag or pull policy that is not given is empty. -/
structure Output where
  version : Version
  appVersion : Version
  imageTag : String
  imagePullPolicy : String
  deriving DecidableEq, Repr

def outputYaml (firstNumber : ℕ) (options : Options) (chartVersion appTag : Version)
    (latest : Option Version) : Output :=
  if options.updateRel ≠ "" ∧ chartVersion.toString ≠ appTag.toString then
    ⟨appTag, appTag, "", ""⟩
  else
    ⟨newChartVersion firstNumber appTag latest, appTag, "v" ++ appTag.toString, "IfNotPresent"⟩

/-- The checks before the index and the output, from the parsed versions on. -/
def publishChecked (firstNumber : ℕ) (options : Options)
    (chartVersion chartAppVersion appTag : Version) (index : List String) :
    Except PublishError Output := do
  checkDifference "APP_TAG" appTag chartAppVersion
  checkStable "CHART_VERSION" chartVersion
  checkStable "CHART_APP_VERSION" chartAppVersion
  let latest ← indexCheck firstNumber options appTag index
  return outputYaml firstNumber options chartVersion appTag latest

/-- The whole script; without an output the chart is left unchanged. -/
def publishChartYaml (firstNumber : ℕ) (options : Options) (chart : ChartFile)
    (index : List String) : Except PublishError (Option Output) := do
  let chartVersion ← version "The" chart.version
  let chartAppVersion ← version "The" chart.appVersion
  let appTag ← resolveAppTag options
  checkDifference "CHART_VERSION" chartVersion chartAppVersion
  if ← checkReleased options chartVersion appTag then return none
  else some <$> publishChecked firstNumber options chartVersion chartAppVersion appTag index

/-! ## Fresh versions -/

/-- A published version of the series of the tag. -/
def InSeries (tag : Version) (index : List String) (published : Version) : Prop :=
  ∃ line ∈ index, semverParse line = some published ∧ SameSeries tag published

/-- The new version has not been published, and every published version of the series of the tag is
older. -/
def Fresh (index : List String) (tag new : Version) : Prop :=
  new.toString ∉ index ∧ ∀ published, InSeries tag index published → Older published new

/-- The version that is taken for the latest. -/
def latestVersion (firstNumber : ℕ) (index : List String) (tag : Version) : Option Version :=
  (latestLine (versionPrefix firstNumber tag) index).bind semverParse

/-- Where the script publishes the tag, every published version of its series is older.  Where it
counts on from the version that sorts last as a text, no published version of the series of the tag
or of that version is newer than it, and its number does not run over. -/
def FreshWhen (firstNumber : ℕ) (index : List String) (tag : Version) : Prop :=
  ((∀ latest, latestVersion firstNumber index tag = some latest → Older latest tag) ∧
      ∀ published, InSeries tag index published → Older published tag) ∨
    ∃ latest, latestVersion firstNumber index tag = some latest ∧ ¬Older latest tag ∧
      ¬RunsOver latest ∧ ∀ published,
        InSeries tag index published ∨ InSeries latest index published →
        ¬Older latest published

/-- The script counts on from versions of the series with a number of their own only. -/
def CountsInSeries (firstNumber : ℕ) (index : List String) (tag : Version) : Prop :=
  ∀ latest, latestVersion firstNumber index tag = some latest → ¬Older latest tag →
    SameSeries tag latest ∧ NumericEnd latest

def Options.ofAppTag (appTag : String) : Options := ⟨appTag, "", "", false⟩

section Fresh

variable {firstNumber : ℕ} {index : List String} {tag new : Version}

theorem latestLine_mem {pattern : List Char} {lines : List String} {line : String}
    (h : latestLine pattern lines = some line) : line ∈ lines := by
  have hmem := List.mem_of_head? h
  rw [List.mem_insertionSort] at hmem
  exact (List.mem_filter.mp hmem).1

theorem inSeries_latestVersion {latest : Version}
    (h : latestVersion firstNumber index tag = some latest) (hseries : SameSeries tag latest) :
    InSeries tag index latest := by
  obtain ⟨line, hline, hparse⟩ := Option.bind_eq_some_iff.mp h
  exact ⟨line, latestLine_mem hline, hparse, hseries⟩

theorem InSeries.wellFormed {published : Version} (h : InSeries tag index published) :
    WellFormed published := by
  obtain ⟨_, _, hparse, _⟩ := h
  exact semverParse_wellFormed hparse

theorem InSeries.sameSeries {published : Version} (h : InSeries tag index published) :
    SameSeries tag published := by
  obtain ⟨_, _, _, hseries⟩ := h
  exact hseries

theorem not_older_self (candidate : Version) : ¬Older candidate candidate := by
  have hself : Version.cmp (precedence candidate) (precedence candidate) = .eq :=
    Std.ReflCmp.compare_self
  rw [Older, semverCompare, hself]
  decide

theorem sameSeries_self (h : tag.pre ≠ []) : SameSeries tag tag :=
  ⟨rfl, rfl, rfl, h, h, rfl⟩

theorem SameSeries.trans {first second third : Version} (h : SameSeries first second)
    (h' : SameSeries second third) : SameSeries first third :=
  ⟨h'.major.trans h.major, h'.minor.trans h.minor, h'.patch.trans h.patch, h.tag_pre, h'.pre,
    h'.nonNumeric.trans h.nonNumeric⟩

/-- A version of the series that is newer than all published ones has not been published. -/
theorem fresh_iff (hseries : SameSeries tag new) (hformed : WellFormed new)
    (hbuild : new.build = []) :
    Fresh index tag new ↔ ∀ published, InSeries tag index published → Older published new := by
  refine ⟨And.right, fun h ↦ ⟨fun hpublished ↦ ?_, h⟩⟩
  have hself : InSeries tag index new :=
    ⟨new.toString, hpublished, semverParse_toString hformed hbuild, hseries⟩
  exact not_older_self new (h new hself)

/-- A bump that is newer than the series of the bumped version has not been published. -/
theorem bumpPrerel_not_mem {latest : Version} (hpre : latest.pre ≠ []) (hformed : WellFormed latest)
    (h : ∀ published, InSeries latest index published →
      Older published (bumpPrerel firstNumber latest)) :
    (bumpPrerel firstNumber latest).toString ∉ index := by
  have hfresh := (fresh_iff (sameSeries_self hpre).bumpPrerel
    (@WellFormed.bumpPrerel firstNumber latest hformed hpre) rfl).mpr h
  exact hfresh.1

theorem wellFormed_latestVersion {latest : Version}
    (h : latestVersion firstNumber index tag = some latest) : WellFormed latest := by
  obtain ⟨line, _, hparse⟩ := Option.bind_eq_some_iff.mp h
  exact semverParse_wellFormed hparse

/-- Where the tag itself is the new version. -/
theorem fresh_tag_iff (hpre : tag.pre ≠ []) (hformed : WellFormed tag) (hbuild : tag.build = [])
    (hlatest : ∀ latest, latestVersion firstNumber index tag = some latest → Older latest tag) :
    Fresh index tag tag ↔ FreshWhen firstNumber index tag := by
  rw [fresh_iff (sameSeries_self hpre) hformed hbuild]
  constructor
  · intro h
    exact .inl ⟨hlatest, h⟩
  · rintro (⟨_, h⟩ | ⟨latest, hsome, hnot, _⟩)
    · exact h
    · exact absurd (hlatest latest hsome) hnot

/-- Where a version is bumped that nothing is newer than. -/
theorem fresh_bump_of_not_older {latest : Version} (hpre : latest.pre ≠ [])
    (hformed : WellFormed latest) (hnines : ¬RunsOver latest)
    (h : ∀ published, InSeries tag index published ∨ InSeries latest index published →
      ¬Older latest published) : Fresh index tag (bumpPrerel firstNumber latest) := by
  have hnext : Older latest (bumpPrerel firstNumber latest) := older_bumpPrerel hpre hformed hnines
  have holder : ∀ published, InSeries tag index published ∨ InSeries latest index published →
      Older published (bumpPrerel firstNumber latest) :=
    fun published hpublished ↦ older_of_not_older (h published hpublished) hnext
  exact ⟨bumpPrerel_not_mem hpre hformed fun published hpublished ↦
    holder published (.inr hpublished),
      fun published hpublished ↦ holder published (.inl hpublished)⟩

/-- Where a version of the series with a number of its own is bumped. -/
theorem not_older_of_fresh_bump {latest : Version}
    (hsome : latestVersion firstNumber index tag = some latest) (hseries : SameSeries tag latest)
    (hend : NumericEnd latest) (h : Fresh index tag (bumpPrerel firstNumber latest)) :
    ¬RunsOver latest ∧ ∀ published, InSeries tag index published ∨ InSeries latest index published →
      ¬Older latest published := by
  refine ⟨fun hruns ↦ hruns.1 hend, ?_⟩
  intro published hpublished
  have hin : InSeries tag index published := by
    rcases hpublished with htag | ⟨line, hline, hparse, hlatest⟩
    · exact htag
    · exact ⟨line, hline, hparse, hseries.trans hlatest⟩
  exact (older_bumpPrerel_iff hin.sameSeries hseries hend hin.wellFormed
    (wellFormed_latestVersion hsome)).mp (h.2 published hin)

/-- The condition is enough for the choice of the new version to be right, and it is necessary
where the script counts on in the series. -/
theorem fresh_newChartVersion (hpre : tag.pre ≠ []) (hformed : WellFormed tag)
    (hbuild : tag.build = [])
    (hlatest : ∀ latest, latestVersion firstNumber index tag = some latest → latest.pre ≠ []) :
    let new :=
      newChartVersion firstNumber tag ((latestVersion firstNumber index tag).map precedence)
    (FreshWhen firstNumber index tag → Fresh index tag new) ∧
      (CountsInSeries firstNumber index tag → Fresh index tag new →
        FreshWhen firstNumber index tag) := by
  unfold newChartVersion
  rw [if_neg hpre]
  cases hsome : latestVersion firstNumber index tag with
  | none =>
    have htag := fresh_tag_iff hpre hformed hbuild fun latest hlatest ↦ by
      rw [hsome] at hlatest
      cases hlatest
    exact ⟨htag.mpr, fun _ ↦ htag.mp⟩
  | some latest =>
    change (_ → Fresh index tag (if Older latest tag then tag else bumpPrerel firstNumber latest)) ∧
      (_ → Fresh index tag (if Older latest tag then tag else bumpPrerel firstNumber latest) → _)
    by_cases hold : Older latest tag
    · rw [if_pos hold]
      have htag := fresh_tag_iff hpre hformed hbuild fun other hother ↦ by
        rw [hsome, Option.some.injEq] at hother
        exact hother ▸ hold
      exact ⟨htag.mpr, fun _ ↦ htag.mp⟩
    · rw [if_neg hold]
      constructor
      · rintro (⟨holder, _⟩ | ⟨other, hother, _, hnines, hnewest⟩)
        · exact absurd (holder latest hsome) hold
        · rw [hsome, Option.some.injEq] at hother
          subst hother
          exact fresh_bump_of_not_older (hlatest latest hsome) (wellFormed_latestVersion hsome)
            hnines hnewest
      · intro hcounts hfresh
        obtain ⟨hseries, hend⟩ := hcounts latest hsome hold
        exact .inr ⟨latest, hsome, hold, not_older_of_fresh_bump hsome hseries hend hfresh⟩

end Fresh

/-! ## Runs -/

/-- The versions of a chart pass the checks that are made for a tag before the index is read. -/
structure PassesChecks (options : Options) (chart : ChartFile)
    (tag chartVersion chartAppVersion : Version) : Prop where
  parsed : version "The" chart.version = .ok chartVersion
  appParsed : version "The" chart.appVersion = .ok chartAppVersion
  difference : checkDifference "CHART_VERSION" chartVersion chartAppVersion = .ok ()
  released : checkReleased options chartVersion tag = .ok false
  tagDifference : checkDifference "APP_TAG" tag chartAppVersion = .ok ()
  stable : checkStable "CHART_VERSION" chartVersion = .ok ()
  appStable : checkStable "CHART_APP_VERSION" chartAppVersion = .ok ()

section Checks

variable {firstNumber : ℕ} {options : Options} {chart : ChartFile} {index : List String}
  {tag chartVersion chartAppVersion : Version}

/-- After the checks the index decides. -/
theorem publishChartYaml_of_passesChecks (htag : resolveAppTag options = .ok tag)
    (h : PassesChecks options chart tag chartVersion chartAppVersion) :
    publishChartYaml firstNumber options chart index =
      (indexCheck firstNumber options tag index).map fun latest ↦
        some (outputYaml firstNumber options chartVersion tag latest) := by
  rw [publishChartYaml, h.parsed, h.appParsed, htag]
  change (checkDifference _ _ _ >>= _) = _
  rw [h.difference]
  change (checkReleased _ _ _ >>= _) = _
  rw [h.released]
  change some <$> publishChecked _ _ _ _ _ _ = _
  rw [publishChecked, h.tagDifference, h.stable, h.appStable]
  change some <$> (indexCheck _ _ _ _ >>= _) = _
  cases indexCheck firstNumber options tag index with
  | error error => rfl
  | ok latest => rfl

/-- What a run with an output went through. -/
theorem exists_passesChecks {output : Output}
    (hrun : publishChartYaml firstNumber options chart index = .ok (some output)) :
    ∃ tag chartVersion chartAppVersion latest, resolveAppTag options = .ok tag ∧
      PassesChecks options chart tag chartVersion chartAppVersion ∧
      indexCheck firstNumber options tag index = .ok latest ∧
      output = outputYaml firstNumber options chartVersion tag latest := by
  obtain ⟨chartVersion, hchartVersion, hrun⟩ := Outcome.bind_eq_ok hrun
  obtain ⟨chartAppVersion, hchartAppVersion, hrun⟩ := Outcome.bind_eq_ok hrun
  obtain ⟨tag, htag, hrun⟩ := Outcome.bind_eq_ok hrun
  obtain ⟨_, hdifference, hrun⟩ := Outcome.bind_eq_ok hrun
  obtain ⟨released, hreleased, hrun⟩ := Outcome.bind_eq_ok hrun
  cases released with
  | true => cases hrun
  | false =>
    cases hchecked : publishChecked firstNumber options chartVersion chartAppVersion tag index with
    | error error =>
      rw [if_neg (by decide), hchecked] at hrun
      cases hrun
    | ok checked =>
      rw [if_neg (by decide), hchecked] at hrun
      cases hrun
      obtain ⟨_, htagDifference, hchecked⟩ := Outcome.bind_eq_ok hchecked
      obtain ⟨_, hstable, hchecked⟩ := Outcome.bind_eq_ok hchecked
      obtain ⟨_, happStable, hchecked⟩ := Outcome.bind_eq_ok hchecked
      obtain ⟨latest, hlatest, hchecked⟩ := Outcome.bind_eq_ok hchecked
      cases hchecked
      exact ⟨tag, chartVersion, chartAppVersion, latest, htag, ⟨hchartVersion, hchartAppVersion,
        hdifference, hreleased, htagDifference, hstable, happStable⟩, hlatest, rfl⟩

end Checks

/-! ## Runs for an app tag -/

theorem version_eq_ok {name text : String} {tag : Version} (h : version name text = .ok tag) :
    ∃ parsed, semverParse text = some parsed ∧ tag = precedence parsed := by
  unfold version at h
  split at h
  next => cases h
  next parsed hparsed =>
    cases h
    exact ⟨parsed, hparsed, rfl⟩

theorem ne_empty_of_semverParse {text : String} {parsed : Version}
    (h : semverParse text = some parsed) : text ≠ "" := by
  rintro rfl
  have hnone : semverParse "" = none := by decide
  rw [hnone] at h
  cases h

section Run

variable {firstNumber : ℕ} {text : String} {chart : ChartFile} {index : List String}
  {tag : Version} {output : Output}

/-- The index check returns what was taken for the latest version, which is a pre-release. -/
theorem indexCheck_eq_ok {latest : Option Version} (hpre : tag.pre ≠ [])
    (h : indexCheck firstNumber (Options.ofAppTag text) tag index = .ok latest) :
    latest = (latestVersion firstNumber index tag).map precedence ∧
      ∀ found, latestVersion firstNumber index tag = some found → found.pre ≠ [] := by
  have hindex : indexVersions (Options.ofAppTag text) index = index := rfl
  have hcheck : ¬(Options.ofAppTag text).ignoreIndexCheck = true := Bool.false_ne_true
  unfold indexCheck at h
  rw [if_neg hcheck, if_neg fun hstable ↦ hpre hstable.2, hindex] at h
  unfold latestVersion
  cases hline : latestLine (versionPrefix firstNumber tag) index with
  | none =>
    rw [hline] at h
    cases h
    exact ⟨rfl, fun found hfound ↦ by cases hfound⟩
  | some line =>
    rw [hline] at h
    obtain ⟨found, hfound, h⟩ := Outcome.bind_eq_ok h
    obtain ⟨parsed, hparsed, rfl⟩ := version_eq_ok hfound
    split at h
    next => cases h
    next hpreRelease =>
      cases h
      rw [Option.bind_some, hparsed, Option.map_some]
      refine ⟨rfl, fun other hother ↦ ?_⟩
      rw [← Option.some.inj hother]
      exact hpreRelease

/-- The tag of a run for an app tag is its version. -/
theorem resolveAppTag_of_version (htag : version "The" text = .ok tag) :
    resolveAppTag (Options.ofAppTag text) = .ok tag := by
  have htext : text ≠ "" := by
    obtain ⟨parsed, hparse, _⟩ := version_eq_ok htag
    exact ne_empty_of_semverParse hparse
  rw [resolveAppTag, if_neg (by simp [Options.ofAppTag]), if_neg (by simpa [Options.ofAppTag])]
  exact htag

/-- What a run for an app tag went through. -/
theorem publishChartYaml_eq_ok (htag : version "The" text = .ok tag)
    (hrun : publishChartYaml firstNumber (Options.ofAppTag text) chart index = .ok (some output)) :
    ∃ latest, indexCheck firstNumber (Options.ofAppTag text) tag index = .ok latest ∧
      output.version = newChartVersion firstNumber tag latest := by
  obtain ⟨appTag, chartVersion, _, latest, happTag, _, hlatest, rfl⟩ := exists_passesChecks hrun
  rw [resolveAppTag_of_version htag] at happTag
  obtain rfl := Except.ok.inj happTag
  refine ⟨latest, hlatest, ?_⟩
  rw [outputYaml, if_neg fun h ↦ h.1 rfl]

/-- The version that the script puts out for a pre-release tag is fresh if what sorts last as a text
is the newest where it matters; and only then, if the script counts on in the series of the tag. -/
theorem publishChartYaml_fresh (firstNumber : ℕ) (text : String) (chart : ChartFile)
    (index : List String) (tag : Version) (output : Output)
    (htag : version "The" text = .ok tag) (hpre : tag.pre ≠ [])
    (hrun : publishChartYaml firstNumber (Options.ofAppTag text) chart index = .ok (some output)) :
    (FreshWhen firstNumber index tag → Fresh index tag output.version) ∧
      (CountsInSeries firstNumber index tag → Fresh index tag output.version →
        FreshWhen firstNumber index tag) := by
  obtain ⟨latest, hcheck, hversion⟩ := publishChartYaml_eq_ok htag hrun
  obtain ⟨parsed, hparsed, rfl⟩ := version_eq_ok htag
  have hformed := semverParse_wellFormed hparsed
  obtain ⟨rfl, hlatest⟩ := indexCheck_eq_ok hpre hcheck
  rw [hversion]
  exact fresh_newChartVersion hpre hformed rfl hlatest

/-- The chart of the next stable release. -/
def nextRelease : ChartFile := ⟨"2.0.0", "2.0.0"⟩

/-- The tag of a pre-release of it. -/
def alpha (number : ℕ) : Version := ⟨2, 0, 0, ["a", number.repr], []⟩

/-- A tag without a number, and the release candidates that count on from it. -/
def candidate : Version := ⟨2, 0, 0, ["rc"], []⟩

def candidateNumber (number : ℕ) : Version := ⟨2, 0, 0, ["rc", number.repr], []⟩

/-- The third release candidate is published, and the fourth is put out. -/
theorem publishChartYaml_fresh_candidate :
    Fresh ["2.0.0-rc.3"] candidate (candidateNumber 4) := by
  have hsome : latestVersion 1 ["2.0.0-rc.3"] candidate = some (candidateNumber 3) := by decide
  have hparse : semverParse "2.0.0-rc.3" = some (candidateNumber 3) := by decide
  refine (publishChartYaml_fresh 1 "2.0.0-rc" nextRelease ["2.0.0-rc.3"] candidate
    ⟨candidateNumber 4, candidate, "v2.0.0-rc", "IfNotPresent"⟩ (by decide) (by decide)
    (by decide)).1 (.inr ⟨candidateNumber 3, hsome, by decide, by decide, ?_⟩)
  intro published hpublished
  have hline : ∃ line ∈ ["2.0.0-rc.3"], semverParse line = some published := by
    rcases hpublished with ⟨line, hmem, hline, _⟩ | ⟨line, hmem, hline, _⟩
    · exact ⟨line, hmem, hline⟩
    · exact ⟨line, hmem, hline⟩
  obtain ⟨line, hmem, hline⟩ := hline
  rw [List.mem_singleton.mp hmem, hparse, Option.some.injEq] at hline
  rw [← hline]
  decide

/-- The tenth pre-release is older than the ninth as a text. -/
def crossedTen : List String := ["2.0.0-a.9", "2.0.0-a.10"]

/-- The ninth pre-release is tagged again and the tenth is published a second time. -/
theorem publishChartYaml_reuses_version :
    publishChartYaml 1 (Options.ofAppTag "2.0.0-a.9") nextRelease crossedTen =
      .ok (some ⟨alpha 10, alpha 9, "v2.0.0-a.9", "IfNotPresent"⟩) ∧
    (alpha 10).toString ∈ crossedTen ∧ ¬Fresh crossedTen (alpha 9) (alpha 10) := by
  have hmem : (alpha 10).toString ∈ crossedTen := by decide
  exact ⟨by decide, hmem, fun h ↦ h.1 hmem⟩

end Run

end MayastorExtensions.Scripts
