import MayastorExtensions.UpgradeJob.Attempts

/-!
# The start of the job

Before an attempt, `main.rs` has the arguments of the job checked (`opts/validators.rs`): the
namespace and the storage REST API answer, helm is of version 3, the release is deployed, and the
chart directory has the files of a core chart.  The release is searched for in the output of
`helm list` with an expression that the name is put into as it is, while the attempt looks for the
release of exactly that name: what one of them accepts is compared with what the other finds.
-/

namespace MayastorExtensions.UpgradeJob

open Scheduled Semver Yaml

/-! ## The surroundings of the process -/

/-- The output of a command; a stream that is not UTF-8 has no text. -/
structure CommandOutput where
  success : Bool
  stdout : Option String
  stderr : Option String

inductive FileKind where
  | directory
  | file
  | other
  deriving DecidableEq, Repr

structure OwnerReference where
  kind : String
  name : String
  uid : String
  deriving DecidableEq, Repr

/-- What the process finds: the namespaces and the Pods that a request returns, whether the storage
nodes are listed, what running helm gives, what is known of a path, and the regex crate for
expressions that are not modelled. -/
structure Host where
  hasNamespace : String → Bool
  listsStorageNodes : Bool
  helm : List String → Option CommandOutput
  metadata : String → Option FileKind
  isMatch : String → String → Option Bool
  podOwners : String → String → Option (Option (List OwnerReference))

/-- The errors of the start; those that an attempt has too are the attempt's. -/
inductive StartupError where
  | attempt (error : Error)
  | getNamespace (namespace_ : String)
  | helmCommand (arguments : List String)
  | u8VectorToString
  | helmVersionCommand (arguments : List String) (stdErr : String)
  | helmVersion (version : String)
  | helmListCommand (arguments : List String) (stdErr : String)
  | regexCompile (expression : String)
  | validateDirPath (path : String)
  | notADirectory (path : String)
  | validateFilePath (path : String)
  | notAFile (path : String)
  | findingHelmChart (path : String)
  | getPod (podName podNamespace : String)
  | jobPodOwnerIsNotJob (podName podNamespace : String)
  | jobPodOwnerNotFound (podName podNamespace : String)
  | jobPodHasTooManyOwners (podName podNamespace : String)
  deriving DecidableEq, Repr

/-! ## Helm -/

def fromUtf8 : Option String → Except StartupError String
  | none => .error .u8VectorToString
  | some text => .ok text

/-- The standard output of a helm command that was successful. -/
def runHelm (host : Host) (arguments : List String) (failed : String → StartupError) :
    Except StartupError String :=
  match host.helm arguments with
  | none => .error (.helmCommand arguments)
  | some output => do
    let stdout ← fromUtf8 output.stdout
    if output.success then .ok stdout
    else do
      let stdErr ← fromUtf8 output.stderr
      .error (failed stdErr)

/-- Matches `^(v3\.[0-9]+\.[0-9])`. -/
def matchesHelmV3 (version : String) : Bool :=
  match version.toList with
  | 'v' :: '3' :: '.' :: rest =>
    match rest.takeWhile Char.isDigit, rest.dropWhile Char.isDigit with
    | _ :: _, '.' :: digit :: _ => digit.isDigit
    | _, _ => false
  | _ => false

def validateHelmv3InPath (host : Host) : Except StartupError Unit := do
  let arguments := ["version", "--short"]
  let stdout ← runHelm host arguments (.helmVersionCommand arguments)
  if matchesHelmV3 stdout then .ok () else .error (.helmVersion stdout)

/-- The characters of Kubernetes label values, of which the dot is the only one that means something
else than itself in an expression. -/
def isLabelChar (c : Char) : Bool :=
  c.isAlphanum || c = '-' || c = '_' || c = '.'

def isPlainName (name : String) : Bool :=
  name.toList.all isLabelChar

/-- A text starts with what a plain name matches as an expression; the dot matches everything but a
line break. -/
def matchesAt : List Char → List Char → Bool
  | [], _ => true
  | _ :: _, [] => false
  | c :: name, t :: text => ((c = '.' && t ≠ '\n') || c = t) && matchesAt name text

/-- What a plain name matches is somewhere in a text. -/
def occursIn (name : List Char) : List Char → Bool
  | [] => matchesAt name []
  | t :: text => matchesAt name (t :: text) || occursIn name text

/-- Whether `(\n)?{name}(\n)?` matches, as far as it compiles.  The line breaks are optional on both
sides, so that they decide nothing. -/
def matchesRelease (host : Host) (name text : String) : Option Bool :=
  if isPlainName name then some (occursIn name.toList text.toList)
  else host.isMatch ("(\\n)?" ++ name ++ "(\\n)?") text

def helmListArguments (namespace_ : String) : List String :=
  ["list", "-n", namespace_, "--deployed", "--short"]

def validateHelmRelease (host : Host) (name namespace_ : String) : Except StartupError Unit := do
  let arguments := helmListArguments namespace_
  let stdout ← runHelm host arguments (.helmListCommand arguments)
  match matchesRelease host name stdout with
  | none => .error (.regexCompile ("(\\n)?" ++ name ++ "(\\n)?"))
  | some true => .ok ()
  | some false => .error (.attempt (.helmRelease name namespace_))

/-! ## The chart directory -/

def ensureDirectory (host : Host) (path : String) : Except StartupError Unit :=
  match host.metadata path with
  | none => .error (.validateDirPath path)
  | some kind => if kind = .directory then .ok () else .error (.notADirectory path)

def ensureFile (host : Host) (path : String) : Except StartupError Unit :=
  match host.metadata path with
  | none => .error (.validateFilePath path)
  | some kind => if kind = .file then .ok () else .error (.notAFile path)

def ensureCoreChart (dir : ChartDir) (chart : Chart) : Except StartupError Unit :=
  if chart.name = CORE_CHART_NAME then .ok () else .error (.findingHelmChart dir.path)

/-- Also `validate_core_helm_chart_variant_in_dir`. -/
def validateHelmChartDir (host : Host) (dir : ChartDir) : Except StartupError Unit := do
  ensureDirectory host dir.path
  ensureFile host (dir.path ++ "/Chart.yaml")
  let chart ← (chartFromYamlFile dir).mapError .attempt
  ensureCoreChart dir chart
  ensureDirectory host (dir.path ++ "/charts")
  ensureFile host (dir.path ++ "/values.yaml")
  ensureFile host (dir.path ++ "/README.md")
  ensureDirectory host (dir.path ++ "/charts/crds")
  ensureDirectory host (dir.path ++ "/templates")

/-! ## The process -/

def validateNamespace (host : Host) (namespace_ : String) : Except StartupError Unit :=
  if host.hasNamespace namespace_ then .ok () else .error (.getNamespace namespace_)

def validateRestEndpoint (host : Host) (restClient : Except Error Unit) :
    Except StartupError Unit := do
  restClient.mapError .attempt
  if host.listsStorageNodes then .ok () else .error (.attempt .listStorageNodes)

/-- The checks of `parse_cli_args`. -/
def parseCliArgs (host : Host) (args : CliArgs) : Except StartupError Unit := do
  validateNamespace host args.namespace_
  validateRestEndpoint host args.restClient
  validateHelmv3InPath host
  validateHelmRelease host args.releaseName args.namespace_
  validateHelmChartDir host args.coreChartDir

/-- The owner that `EventRecorderBuilder::build` attaches the events to. -/
def eventOwner (host : Host) (podName namespace_ : String) : Except StartupError OwnerReference :=
  match host.podOwners podName namespace_ with
  | none => .error (.getPod podName namespace_)
  | some none | some (some []) => .error (.jobPodOwnerNotFound podName namespace_)
  | some (some [owner]) =>
    if owner.kind = "Job" then .ok owner else .error (.jobPodOwnerIsNotJob podName namespace_)
  | some (some (_ :: _ :: _)) => .error (.jobPodHasTooManyOwners podName namespace_)

/-- From `main` on: the checks, the event recorder and the attempt. -/
def jobProcess (host : Host) (podName : String) (channelOpen : Bool) (args : CliArgs)
    (m : Machine Cluster Move Call) :
    Except StartupError (Except (Stop Error) Unit × Machine Cluster Move Call) := do
  parseCliArgs host args
  let _ ← eventOwner host podName args.namespace_
  .ok (upgradeProduct channelOpen args m)

/-! ## Names in the output of helm -/

/-- What `helm list --short` writes: a line for each release. -/
def shortList (releases : List HelmReleaseElement) : String :=
  String.ofList (releases.flatMap fun release ↦ release.name.toList ++ ['\n'])

section Names

variable {name line : List Char}

/-- A match ends before the line break. -/
theorem matchesAt_line (hname : '\n' ∉ name) (line rest : List Char) :
    matchesAt name (line ++ '\n' :: rest) = matchesAt name line := by
  induction name generalizing line with
  | nil => rfl
  | cons c name ih =>
    rw [List.mem_cons, not_or] at hname
    cases line with
    | nil =>
      have hbreak : c ≠ '\n' := fun h ↦ hname.1 h.symm
      simp [matchesAt, hbreak]
    | cons t line => rw [List.cons_append, matchesAt, matchesAt, ih hname.2]

/-- A name occurs in a line or behind it. -/
theorem occursIn_line (hname : '\n' ∉ name) (line rest : List Char) :
    occursIn name (line ++ '\n' :: rest) = (occursIn name line || occursIn name rest) := by
  induction line with
  | nil =>
    have hfirst := matchesAt_line hname [] rest
    rw [List.nil_append] at hfirst ⊢
    rw [occursIn, occursIn, hfirst]
  | cons t line ih =>
    have hfirst := matchesAt_line hname (t :: line) rest
    rw [List.cons_append] at hfirst ⊢
    rw [occursIn, occursIn, hfirst, ih, Bool.or_assoc]

/-- The empty name occurs everywhere, any other in the name of a release. -/
theorem occursIn_shortList (hname : '\n' ∉ name) (releases : List HelmReleaseElement) :
    occursIn name (shortList releases).toList = true ↔
      name = [] ∨ ∃ release ∈ releases, occursIn name release.name.toList = true := by
  rw [shortList, String.toList_ofList]
  induction releases with
  | nil => cases name <;> simp [occursIn, matchesAt]
  | cons first rest ih =>
    rw [List.flatMap_cons, List.append_assoc, List.singleton_append, occursIn_line hname,
      Bool.or_eq_true, ih, List.exists_mem_cons_iff]
    exact or_left_comm

theorem matchesAt_self (name rest : List Char) : matchesAt name (name ++ rest) = true := by
  induction name with
  | nil => rfl
  | cons c name ih => simp [matchesAt, ih]

/-- A name occurs in itself. -/
theorem occursIn_self (name : List Char) : occursIn name name = true := by
  have hstart := matchesAt_self name []
  rw [List.append_nil] at hstart
  cases name with
  | nil => rfl
  | cons c name => rw [occursIn, hstart, Bool.true_or]

theorem not_mem_of_isPlainName {name : String} (h : isPlainName name = true) :
    '\n' ∉ name.toList := by
  intro hmem
  have hchar := List.all_eq_true.mp h _ hmem
  revert hchar
  decide

end Names

/-! ## The search and the lookup -/

section Search

variable {host : Host} {name namespace_ : String} {releases : List HelmReleaseElement}
  {stderr : Option String}

theorem validateHelmRelease_accepts_iff (hlists : host.helm (helmListArguments namespace_) =
      some ⟨true, some (shortList releases), stderr⟩)
    (hplain : isPlainName name = true) :
    validateHelmRelease host name namespace_ = .ok () ↔
      name = "" ∨ ∃ release ∈ releases, occursIn name.toList release.name.toList = true := by
  have hsearch := occursIn_shortList (not_mem_of_isPlainName hplain) releases
  rw [String.toList_eq_nil_iff] at hsearch
  have hstdout : runHelm host (helmListArguments namespace_)
      (.helmListCommand (helmListArguments namespace_)) = .ok (shortList releases) := by
    rw [runHelm, hlists]
    rfl
  rw [← hsearch, validateHelmRelease, hstdout]
  simp only [matchesRelease, hplain, if_true, bind, Except.bind]
  cases occursIn name.toList (shortList releases).toList <;> simp

/-- A process that gets past its start. -/
theorem jobProcess_eq_ok {podName : String} {channelOpen : Bool} {args : CliArgs}
    {m m' : Machine Cluster Move Call} {result : Except (Stop Error) Unit}
    (h : jobProcess host podName channelOpen args m = .ok (result, m')) :
    args.restClient = .ok () ∧
      validateHelmRelease host args.releaseName args.namespace_ = .ok () ∧
        (∃ chart, chartFromYamlFile args.coreChartDir = .ok chart ∧
          chart.name = CORE_CHART_NAME) ∧
          upgradeProduct channelOpen args m = (result, m') := by
  obtain ⟨_, hchecks, h⟩ := Outcome.bind_eq_ok h
  obtain ⟨_, -, h⟩ := Outcome.bind_eq_ok h
  obtain ⟨_, -, hchecks⟩ := Outcome.bind_eq_ok hchecks
  obtain ⟨_, hrest, hchecks⟩ := Outcome.bind_eq_ok hchecks
  obtain ⟨_, -, hchecks⟩ := Outcome.bind_eq_ok hchecks
  obtain ⟨_, hrelease, hdir⟩ := Outcome.bind_eq_ok hchecks
  refine ⟨?_, hrelease, ?_, Except.ok.inj h⟩
  · obtain ⟨_, hclient, -⟩ := Outcome.bind_eq_ok hrest
    cases hrestClient : args.restClient with
    | ok value => rfl
    | error error =>
      rw [hrestClient] at hclient
      cases hclient
  · obtain ⟨_, -, hdir⟩ := Outcome.bind_eq_ok hdir
    obtain ⟨_, -, hdir⟩ := Outcome.bind_eq_ok hdir
    obtain ⟨chart, hchart, hdir⟩ := Outcome.bind_eq_ok hdir
    obtain ⟨_, hname, -⟩ := Outcome.bind_eq_ok hdir
    refine ⟨chart, ?_, ?_⟩
    · cases hfile : chartFromYamlFile args.coreChartDir with
      | ok value =>
        rw [hfile] at hchart
        exact congrArg _ (Except.ok.inj hchart)
      | error error =>
        rw [hfile] at hchart
        cases hchart
    · by_contra hother
      rw [ensureCoreChart, if_neg hother] at hname
      cases hname

/-- An attempt for another name than the release's asks helm for its releases, and that is all. -/
theorem upgradeProduct_other_name {channelOpen : Bool} {args : CliArgs} {start : Cluster}
    (hname : args.releaseName ≠ start.release.name) :
    Triple anyTick
      (fun cluster trace ↦ cluster.release = start.release ∧
        ∀ entry ∈ trace, entry.call = .helmList)
      (upgradeProduct channelOpen args) (fun _ _ _ ↦ False)
      fun _ trace ↦ ∀ entry ∈ trace, entry.call = .helmList := by
  have hask : ∀ (trace : List JobEntry) (moves : List Move) (seen : Cluster) (verdict : Verdict),
      (∀ entry ∈ trace, entry.call = .helmList) →
        ∀ entry ∈ trace ++ [⟨.helmList, moves, seen, verdict⟩], entry.call = .helmList := by
    intro trace moves seen verdict h entry hentry
    rcases List.mem_append.mp hentry with hold | hnew
    · exact h entry hold
    · rw [List.mem_singleton.mp hnew]
  refine Triple.bind (fun _ _ _ ↦ False) ?_ fun upgrader _ _ hfalse ↦ hfalse.elim
  refine Triple.bind (fun releaseName cluster trace ↦ releaseName = args.releaseName ∧
      cluster.release = start.release ∧ ∀ entry ∈ trace, entry.call = .helmList)
    (Triple.ofExcept (fun _ hvalue _ _ h ↦ ⟨(Except.ok.inj hvalue).symm, h⟩) fun _ _ h ↦ h.2)
    fun releaseName ↦ Triple.assume ?_
  rintro rfl
  refine Triple.bind _ (Triple.ofExcept (fun _ _ _ _ h ↦ h) fun _ _ h ↦ h.2) fun namespace_ ↦ ?_
  refine Triple.bind _ (Triple.ofExcept (fun _ _ _ _ h ↦ h) fun _ _ h ↦ h.2) fun chartDir ↦ ?_
  refine Triple.bind (fun _ _ _ ↦ False) ?_ fun release _ _ hfalse ↦ hfalse.elim
  refine Triple.bind (fun found _ trace ↦ found = [start.release] ∧
      ∀ entry ∈ trace, entry.call = .helmList)
    (Triple.query (fun _ _ h ↦ h.2) ?_ fun _ trace moves verdict _ h ↦
      hask trace moves _ verdict h.2) fun found ↦ Triple.assume ?_
  · intro cluster trace moves _ h
    refine ⟨?_, hask trace moves _ .served h.2⟩
    rw [after_release, h.1]
  · rintro rfl
    have hmissing : findRelease namespace_ args.releaseName [start.release] =
        .error (.helmRelease args.releaseName namespace_) := by
      simp [findRelease, hname.symm]
    rw [hmissing]
    exact Triple.fail fun _ _ h ↦ h

end Search

/-- Whatever releases are deployed, the check accepts a name exactly if it occurs in the name of one
of them, with a dot for any character, or is empty: every release that an attempt would find passes
it, and a name that is only a part of a release's name passes it without being found. -/
theorem validateHelmRelease_covers_lookup {host : Host} {name namespace_ : String}
    {releases : List HelmReleaseElement} {stderr : Option String}
    (hlists : host.helm (helmListArguments namespace_) =
      some ⟨true, some (shortList releases), stderr⟩)
    (hplain : isPlainName name = true) :
    (validateHelmRelease host name namespace_ = .ok () ↔
        name = "" ∨ ∃ release ∈ releases, occursIn name.toList release.name.toList = true) ∧
      (∀ release, findRelease namespace_ name releases = .ok release →
        validateHelmRelease host name namespace_ = .ok ()) ∧
        (findRelease namespace_ name releases = .error (.helmRelease name namespace_) ↔
          ∀ release ∈ releases, release.name ≠ name) := by
  have haccepts := validateHelmRelease_accepts_iff hlists hplain
  refine ⟨haccepts, ?_, ?_⟩
  · intro release hfound
    refine haccepts.mpr (.inr ?_)
    unfold findRelease at hfound
    split at hfound
    next found hfind =>
      have hname : found.name = name := by simpa using List.find?_some hfind
      refine ⟨found, List.mem_of_find?_eq_some hfind, ?_⟩
      rw [hname]
      exact occursIn_self name.toList
    next => cases hfound
  · unfold findRelease
    split
    next found hfind =>
      have hname : found.name = name := by simpa using List.find?_some hfind
      constructor
      · intro hmissing
        cases hmissing
      · intro hnone
        exact absurd hname (hnone found (List.mem_of_find?_eq_some hfind))
    next hfind =>
      refine ⟨fun _ release hrelease ↦ ?_, fun _ ↦ rfl⟩
      simpa using List.find?_eq_none.mp hfind release hrelease

/-- A namespace with the release `mayastor-eu` and a chart directory that has everything. -/
def europeanHost : Host where
  hasNamespace := fun _ ↦ true
  listsStorageNodes := true
  helm := fun arguments ↦
    if arguments = ["version", "--short"] then some ⟨true, some "v3.14.2+gc309b6f", some ""⟩
    else some ⟨true, some (shortList [⟨"mayastor-eu", coreChart "2.1.0"⟩]), some ""⟩
  metadata := fun path ↦
    if path ∈ ["/chart/Chart.yaml", "/chart/values.yaml", "/chart/README.md"] then some .file
    else some .directory
  isMatch := fun _ _ ↦ none
  podOwners := fun _ _ ↦ some (some [⟨"Job", "mayastor-upgrade-develop", "1"⟩])

/-- The name `mayastor` is accepted, and there is no release of that name. -/
theorem validateHelmRelease_covers_lookup_european :
    validateHelmRelease europeanHost "mayastor" "openebs" = .ok () ∧
      findRelease "openebs" "mayastor" [⟨"mayastor-eu", coreChart "2.1.0"⟩] =
        .error (.helmRelease "mayastor" "openebs") := by
  have hcovers := @validateHelmRelease_covers_lookup europeanHost "mayastor" "openebs"
    [⟨"mayastor-eu", coreChart "2.1.0"⟩] (some "") rfl (by decide)
  exact ⟨hcovers.1.mpr (.inr ⟨_, List.mem_cons_self, by decide⟩),
    hcovers.2.2.mpr (by decide)⟩

/-- A process that gets past its start has a REST client and a core chart to install, and a name
that occurs in the name of the release.  If it is another name than the release's, the attempt fails
without having asked for anything but the list of releases. -/
theorem jobProcess_started {host : Host} {podName : String} {channelOpen : Bool} {args : CliArgs}
    {cluster : Cluster} {schedule : List (Tick Move)} {stderr : Option String}
    {result : Except (Stop Error) Unit} {m : Machine Cluster Move Call}
    (hlists : host.helm (helmListArguments args.namespace_) =
      some ⟨true, some (shortList [cluster.release]), stderr⟩)
    (hplain : isPlainName args.releaseName = true)
    (h : jobProcess host podName channelOpen args ⟨cluster, schedule, []⟩ = .ok (result, m)) :
    args.restClient = .ok () ∧
      (∃ chart, chartFromYamlFile args.coreChartDir = .ok chart ∧
        coreChart chart.versionText = chart.name ++ "-" ++ chart.versionText) ∧
        (args.releaseName = "" ∨
          occursIn args.releaseName.toList cluster.release.name.toList = true) ∧
          (args.releaseName ≠ cluster.release.name →
            result ≠ .ok () ∧ ∀ entry ∈ m.trace, entry.call = .helmList) := by
  obtain ⟨hrest, hrelease, ⟨chart, hchart, hname⟩, hattempt⟩ := jobProcess_eq_ok h
  refine ⟨hrest, ⟨chart, hchart, by rw [hname]; rfl⟩, ?_, ?_⟩
  · have haccepted := (validateHelmRelease_accepts_iff hlists hplain).mp hrelease
    simpa using haccepted
  · intro hother
    obtain ⟨-, hended⟩ := (@upgradeProduct_other_name channelOpen args cluster hother)
      ⟨cluster, schedule, []⟩ (fun _ _ ↦ trivial)
      ⟨rfl, fun entry hentry ↦ absurd hentry List.not_mem_nil⟩
    rw [hattempt] at hended
    cases result with
    | ok value => exact hended.elim
    | error stop =>
      refine ⟨?_, hended⟩
      intro hok
      cases hok

/-- The job for `mayastor` in a namespace with `mayastor-eu` starts, and stops at the list. -/
theorem jobProcess_started_european :
    ∃ m, jobProcess europeanHost "upgrade-pod" true upgradeArgs
        ⟨{ installedCluster "2.1.0" with release := ⟨"mayastor-eu", coreChart "2.1.0"⟩ },
          undisturbed 9, []⟩ =
          .ok (.error (.failed (.helmRelease "mayastor" "openebs")), m) ∧
      ∀ entry ∈ m.trace, entry.call = .helmList := by
  have hstarts : parseCliArgs europeanHost upgradeArgs = .ok () := by decide +kernel
  cases hrun : upgradeProduct true upgradeArgs
      ⟨{ installedCluster "2.1.0" with release := ⟨"mayastor-eu", coreChart "2.1.0"⟩ },
        undisturbed 9, []⟩ with
  | mk result m =>
    have hfailed : (upgradeProduct true upgradeArgs
        ⟨{ installedCluster "2.1.0" with release := ⟨"mayastor-eu", coreChart "2.1.0"⟩ },
          undisturbed 9, []⟩).1 = .error (.failed (.helmRelease "mayastor" "openebs")) := by
      decide +kernel
    rw [hrun] at hfailed
    obtain rfl : result = _ := hfailed
    have hprocess : jobProcess europeanHost "upgrade-pod" true upgradeArgs
        ⟨{ installedCluster "2.1.0" with release := ⟨"mayastor-eu", coreChart "2.1.0"⟩ },
          undisturbed 9, []⟩ = .ok (.error (.failed (.helmRelease "mayastor" "openebs")), m) := by
      rw [jobProcess, hstarts, hrun]
      rfl
    have hstarted := @jobProcess_started europeanHost "upgrade-pod" true upgradeArgs
      { installedCluster "2.1.0" with release := ⟨"mayastor-eu", coreChart "2.1.0"⟩ }
      (undisturbed 9) (some "") _ m rfl (by decide) hprocess
    exact ⟨m, hprocess, (hstarted.2.2.2 (by decide)).2⟩

end MayastorExtensions.UpgradeJob
