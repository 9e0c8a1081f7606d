import MayastorExtensions.UpgradeJob.Helm.Upgrade

/-!
# Releases of the umbrella chart

The umbrella chart is not upgraded by the job, so that its release has to be at the version that
the job is made for, `TO_UMBRELLA_SEMVER`.  The builder compares the version of the release with
that of the core chart instead, which has versions of its own.
-/

namespace MayastorExtensions.UpgradeJob

open Scheduled Semver Yaml

/-- The version of the umbrella chart that the job allows. -/
def TO_UMBRELLA_SEMVER : String := "4.0.1"

/-- The version that the run of an umbrella upgrader reports as verified. -/
def HelmUpgrader.verifiedVersion : HelmUpgrader → Option String
  | core _ => none
  | umbrella _ _ => some TO_UMBRELLA_SEMVER

/-- What helm reports as the chart of a release of the umbrella chart. -/
def umbrellaChart (release : String) : String :=
  UMBRELLA_CHART_NAME ++ "-" ++ release

/-! ## Release texts -/

theorem chars_of_isRelease {text : List Char} (h : isRelease text) {c : Char} (hc : c ∈ text) :
    c = '.' ∨ c.isDigit := by
  have htext := @List.intercalate_splitOn _ text _ _ '.'
  unfold isRelease at h
  split at h
  next major minor patch hsplit =>
    simp only [isNumber, Bool.and_eq_true] at h
    rw [hsplit] at htext
    rw [← htext] at hc
    rcases mem_intercalate hc with hdot | ⟨part, hpart, hmem⟩
    · exact .inl hdot
    · right
      simp only [List.mem_cons, List.not_mem_nil, or_false] at hpart
      rcases hpart with rfl | rfl | rfl
      · exact List.all_eq_true.mp h.1.1.2 c hmem
      · exact List.all_eq_true.mp h.1.2.2 c hmem
      · exact List.all_eq_true.mp h.2.2 c hmem
  next => cases h

/-- A sign is no part of a release. -/
theorem not_mem_of_isRelease {text : List Char} (h : isRelease text) {c : Char} (hdot : c ≠ '.')
    (hdigit : c.isDigit = false) : c ∉ text := by
  intro hc
  rcases chars_of_isRelease h hc with heq | htrue
  · exact hdot heq
  · rw [hdigit] at htrue
    cases htrue

theorem matchesUmbrellaChart_umbrellaChart {release : String} (h : isRelease release.toList) :
    matchesUmbrellaChart (umbrellaChart release) := by
  have hsplit : (umbrellaChart release).toList.splitOn '-' =
      [UMBRELLA_CHART_NAME.toList, release.toList] := by
    have hinter : (umbrellaChart release).toList =
        ['-'].intercalate [UMBRELLA_CHART_NAME.toList, release.toList] := by
      simp [umbrellaChart, List.intercalate]
    rw [hinter]
    apply List.splitOn_intercalate
    · intro part hpart
      simp only [List.mem_cons, List.not_mem_nil, or_false] at hpart
      rcases hpart with rfl | rfl
      · decide
      · exact not_mem_of_isRelease h (by decide) (by decide)
    · simp
  simp only [matchesUmbrellaChart, hsplit, h, decide_true, Bool.and_true]

/-! ## The decision of the builder -/

/-- The builder for a release, with the directory of a core chart. -/
def builderFor (releaseName namespace_ : String) (dir : ChartDir) (skip : Bool)
    (helmArgs : Tree → Tree) : HelmUpgraderBuilder where
  releaseName := some releaseName
  namespace_ := some namespace_
  coreChartDir := some dir
  skipUpgradePathValidation := skip
  helmArgs := helmArgs

/-- Two served requests, with anything that the cluster does before each of them. -/
def servedTwice (first second : List Move) (later : List (Tick Move)) : List (Tick Move) :=
  ⟨first, .served⟩ :: ⟨second, .served⟩ :: later

section Build

variable {release : String} {dir : ChartDir} {chart : Chart}

/-- A served lookup finds the release of the cluster, whatever has happened to it before. -/
theorem releaseInfo_served (first : List Move) (later : List (Tick Move)) (trace : List JobEntry)
    (cluster : Cluster) (namespace_ : String) :
    releaseInfo namespace_ cluster.release.name ⟨cluster, ⟨first, .served⟩ :: later, trace⟩ =
      (.ok cluster.release, ⟨after first cluster, later,
        trace ++ [⟨.helmList, first, after first cluster, .served⟩]⟩) := by
  have hsame : SameRelease cluster (after first cluster) := after_sameRelease ⟨rfl, rfl, rfl⟩
  have hfind : findRelease namespace_ cluster.release.name [(after first cluster).release] =
      .ok cluster.release := by
    rw [hsame.1]
    simp [findRelease]
  change Program.ofExcept (findRelease namespace_ cluster.release.name
    [(after first cluster).release]) _ = _
  rw [hfind]
  rfl

/-- The umbrella chart is accepted at the version of the core chart. -/
theorem build_umbrella_eq (outside : Outside) (skip : Bool) (helmArgs : Tree → Tree)
    (first second : List Move) (later : List (Tick Move)) (trace : List JobEntry)
    (cluster : Cluster) (namespace_ : String)
    (hchart : cluster.release.chart = umbrellaChart release)
    (hrelease : isRelease release.toList) (hdir : chartFromYamlFile dir = .ok chart) :
    ((builderFor cluster.release.name namespace_ dir skip helmArgs).build outside
      ⟨cluster, servedTwice first second later, trace⟩).1 =
        match Version.parse release with
        | none => .error (.failed (.semverParse release))
        | some version =>
          if chart.version = version then .ok (.umbrella version chart.version)
          else .error (.failed .umbrellaChartNotUpgraded) := by
  have hdash : '-' ∉ UMBRELLA_CHART_NAME.toList := by decide
  have hversion := versionFromReleaseChart_append hdash release
  rw [← umbrellaChart, ← hchart] at hversion
  have hmatches : matchesUmbrellaChart cluster.release.chart := by
    rw [hchart]
    exact matchesUmbrellaChart_umbrellaChart hrelease
  change (((releaseInfo namespace_ cluster.release.name >>= _ : Job HelmUpgrader)
    ⟨cluster, ⟨first, .served⟩ :: ⟨second, .served⟩ :: later, trace⟩).1) = _
  rw [Program.bind_of_ok (releaseInfo_served _ _ _ _ _), hversion]
  cases Version.parse release with
  | none => rfl
  | some version =>
    change ((Program.ofExcept (chartFromYamlFile dir) >>= _ : Job HelmUpgrader) _).1 = _
    rw [hdir]
    change ((if matchesUmbrellaChart cluster.release.chart then
      if chart.version = version then pure (.umbrella version chart.version)
      else Program.fail .umbrellaChartNotUpgraded else _ : Job HelmUpgrader) _).1 = _
    rw [if_pos hmatches]
    dsimp only
    split
    · rfl
    · rfl

/-- The allowed release is accepted, and reported as what it is; every other one is refused. -/
def DecidesOnRelease (release : String) (result : Except (Stop Error) HelmUpgrader) : Prop :=
  (release = TO_UMBRELLA_SEMVER → ∃ sourceVersion targetVersion,
    result = .ok (.umbrella sourceVersion targetVersion) ∧
      (HelmUpgrader.umbrella sourceVersion targetVersion).verifiedVersion = some release) ∧
  (release ≠ TO_UMBRELLA_SEMVER → result = .error (.failed .umbrellaChartNotUpgraded))

theorem decidesOnRelease_accepted_iff {sourceVersion targetVersion : Version} :
    DecidesOnRelease release (.ok (.umbrella sourceVersion targetVersion)) ↔
      release = TO_UMBRELLA_SEMVER := by
  constructor
  · rintro ⟨_, hrefused⟩
    by_contra hne
    cases hrefused hne
  · intro heq
    exact ⟨fun _ ↦ ⟨_, _, rfl, congrArg some heq.symm⟩, fun hne ↦ absurd heq hne⟩

theorem decidesOnRelease_refused_iff :
    DecidesOnRelease release (.error (.failed .umbrellaChartNotUpgraded)) ↔
      release ≠ TO_UMBRELLA_SEMVER := by
  constructor
  · rintro ⟨haccepted, _⟩ heq
    obtain ⟨_, _, hresult, _⟩ := haccepted heq
    cases hresult
  · intro hne
    exact ⟨fun heq ↦ absurd heq hne, fun _ ↦ rfl⟩

/-- What the core chart's version decides is what the release would. -/
def ComparableVersions (release : String) (coreVersion : Version) : Prop :=
  ∃ version, Version.parse release = some version ∧
    (release = TO_UMBRELLA_SEMVER ↔ coreVersion = version)

/-- The release of the umbrella chart is what decides if and only if it is a version and the core
chart has the same one exactly where it is the allowed one. -/
theorem build_umbrella_iff (outside : Outside) (skip : Bool) (helmArgs : Tree → Tree)
    (first second : List Move) (later : List (Tick Move)) (trace : List JobEntry)
    (cluster : Cluster) (release namespace_ : String) (dir : ChartDir) (chart : Chart)
    (hchart : cluster.release.chart = umbrellaChart release)
    (hrelease : isRelease release.toList) (hdir : chartFromYamlFile dir = .ok chart) :
    DecidesOnRelease release
        ((builderFor cluster.release.name namespace_ dir skip helmArgs).build outside
          ⟨cluster, servedTwice first second later, trace⟩).1 ↔
      ComparableVersions release chart.version := by
  rw [build_umbrella_eq outside skip helmArgs first second later trace cluster namespace_ hchart
    hrelease hdir]
  cases hparse : Version.parse release with
  | none =>
    -- A release that is no version is neither accepted nor refused for the reason there is.
    apply iff_of_false
    · rintro ⟨haccepted, hrefused⟩
      by_cases heq : release = TO_UMBRELLA_SEMVER
      · obtain ⟨_, _, hresult, _⟩ := haccepted heq
        cases hresult
      · cases hrefused heq
    · rintro ⟨version, hversion, _⟩
      rw [hparse] at hversion
      cases hversion
  | some version =>
    have hcomparable : ComparableVersions release chart.version ↔
        (release = TO_UMBRELLA_SEMVER ↔ chart.version = version) := by
      simp only [ComparableVersions, hparse, Option.some.injEq, exists_eq_left']
    rw [hcomparable]
    dsimp only
    by_cases hsame : chart.version = version
    · rw [if_pos hsame, decidesOnRelease_accepted_iff, iff_true_right hsame]
    · rw [if_neg hsame, decidesOnRelease_refused_iff, iff_false_right hsame]

end Build

/-- A cluster with a release of the umbrella chart. -/
def umbrellaCluster (release : String) : Cluster :=
  { (default : Cluster) with release := ⟨"openebs", umbrellaChart release⟩ }

/-- The directory of a core chart. -/
def coreChartDir (versionText : String) : ChartDir where
  path := "/chart"
  chartYaml := some (.map [("name", .str CORE_CHART_NAME), ("version", .str versionText)])
  valuesYaml := none

/-- Neither conversion is made for the umbrella chart. -/
def noConversions : Outside := ⟨⟨fun _ ↦ none, fun _ ↦ none, fun _ ↦ none⟩, true⟩

/-- A release that is not the allowed one is refused with a core chart of another version. -/
theorem build_umbrella_refuses :
    DecidesOnRelease "4.1.0" ((builderFor "openebs" "openebs" (coreChartDir "2.7.0") false id).build
      noConversions ⟨umbrellaCluster "4.1.0", servedTwice [] [] [], []⟩).1 :=
  (build_umbrella_iff noConversions false id [] [] [] [] (umbrellaCluster "4.1.0") "4.1.0" "openebs"
    (coreChartDir "2.7.0") ⟨CORE_CHART_NAME, "2.7.0", ⟨2, 7, 0, [], []⟩⟩ rfl (by decide) rfl).mpr
    ⟨⟨4, 1, 0, [], []⟩, by decide, by decide⟩

/-- The allowed release is refused with a core chart that has versions of its own. -/
theorem build_refuses_allowed_umbrella :
    ((builderFor "openebs" "openebs" (coreChartDir "2.7.0") false id).build noConversions
      ⟨umbrellaCluster TO_UMBRELLA_SEMVER, servedTwice [] [] [], []⟩).1 =
        .error (.failed .umbrellaChartNotUpgraded) ∧
    ¬DecidesOnRelease TO_UMBRELLA_SEMVER
      ((builderFor "openebs" "openebs" (coreChartDir "2.7.0") false id).build noConversions
        ⟨umbrellaCluster TO_UMBRELLA_SEMVER, servedTwice [] [] [], []⟩).1 := by
  have hrefused : ((builderFor "openebs" "openebs" (coreChartDir "2.7.0") false id).build
      noConversions ⟨umbrellaCluster TO_UMBRELLA_SEMVER, servedTwice [] [] [], []⟩).1 =
        .error (.failed .umbrellaChartNotUpgraded) := by
    have hchart : chartFromYamlFile (coreChartDir "2.7.0") =
        .ok ⟨CORE_CHART_NAME, "2.7.0", ⟨2, 7, 0, [], []⟩⟩ := rfl
    have hparse : Version.parse TO_UMBRELLA_SEMVER = some ⟨4, 0, 1, [], []⟩ := by decide
    have hbuild := build_umbrella_eq noConversions false id [] [] [] []
      (umbrellaCluster TO_UMBRELLA_SEMVER) "openebs" rfl (by decide) hchart
    rw [hparse] at hbuild
    exact hbuild
  refine ⟨hrefused, ?_⟩
  rw [hrefused, decidesOnRelease_refused_iff]
  exact not_not.mpr rfl

end MayastorExtensions.UpgradeJob
