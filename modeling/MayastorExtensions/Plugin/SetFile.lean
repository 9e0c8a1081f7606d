import MayastorExtensions.Library.Outcome
import MayastorExtensions.Library.Table
import MayastorExtensions.Plugin.UpgradeResources

/-!
# Files of the set-file option

Every `--set-file` value names files whose contents are to become chart values.  The plugin reads
the files into a ConfigMap, one entry for each value of the option, and rewrites the option for the
upgrade job to the paths under which the ConfigMap is mounted there (`create_config_map_data` and
`create_helm_set_file_args` of `plugin/upgrade.rs`).  The option's help allows several pairs in one
value, separated by commas.
-/

namespace MayastorExtensions.Plugin

/-! ## Values of the option -/

/-- A text that holds neither an equals sign nor a comma. -/
def Plain (text : String) : Prop := '=' ∉ text.toList ∧ ',' ∉ text.toList

instance (text : String) : Decidable (Plain text) :=
  inferInstanceAs (Decidable ('=' ∉ text.toList ∧ ',' ∉ text.toList))

/-- One pair of a key and the path of a file. -/
structure SetFilePair where
  key : String
  path : String
  keyPlain : Plain key
  pathPlain : Plain path

def SetFilePair.text (pair : SetFilePair) : String := pair.key ++ "=" ++ pair.path

/-- A value of the option: one or more pairs. -/
structure SetFileValue where
  pairs : List SetFilePair
  nonempty : pairs ≠ []

def SetFileValue.text (value : SetFileValue) : String :=
  ",".intercalate (value.pairs.map SetFilePair.text)

theorem split_text (pair : SetFilePair) : split '=' pair.text = [pair.key, pair.path] := by
  have htext : pair.text.toList = pair.key.toList ++ '=' :: pair.path.toList := by
    simp [SetFilePair.text]
  rw [split, htext, List.splitOn_append_cons_self_of_not_mem pair.keyPlain.1,
    List.splitOn_eq_singleton pair.pathPlain.1]
  simp

theorem count_text_pair (pair : SetFilePair) : pair.text.toList.count '=' = 1 := by
  have hlength := length_split '=' pair.text
  rw [split_text] at hlength
  simpa using hlength.symm

theorem count_text (value : SetFileValue) : value.text.toList.count '=' = value.pairs.length := by
  rw [SetFileValue.text, String.toList_intercalate]
  induction value.pairs with
  | nil => simp
  | cons pair rest ih =>
    cases rest with
    | nil => simp [count_text_pair]
    | cons next rest =>
      rw [List.map_cons, List.map_cons, List.map_cons, List.map_cons] at *
      rw [List.intercalate_cons_cons, List.count_append, List.count_append, ih, count_text_pair]
      simp
      omega

/-! ## The ConfigMap -/

theorem toString_injective : Function.Injective (toString : ℕ → String) := by
  intro index index' h
  have hdigits : Nat.toDigits 10 index = Nat.toDigits 10 index' := by
    rw [← Nat.toList_repr, ← Nat.toList_repr]
    exact congrArg String.toList h
  rw [← @Nat.ofDigitChars_ten_toDigits index, hdigits, Nat.ofDigitChars_ten_toDigits]

section Files

variable {readToString : String → Option String} {pairs : List SetFilePair}

/-- Values of one pair each: the entries are numbered, and every path of the index leads to an entry
with the content of its file. -/
theorem configMapData_text (index : ℕ) (hread : ∀ pair ∈ pairs, (readToString pair.path).isSome) :
    ∃ data map, configMapData readToString index (pairs.map SetFilePair.text) = .ok (data, map) ∧
      data.map Prod.fst = (List.range' index pairs.length).map toString ∧
      map.map Prod.fst = pairs.map SetFilePair.path ∧
      ∀ entry ∈ map,
        ∃ content, readToString entry.1 = some content ∧ (entry.2, content) ∈ data := by
  induction pairs generalizing index with
  | nil => exact ⟨[], [], rfl, rfl, rfl, by simp⟩
  | cons pair pairs ih =>
    rw [List.forall_mem_cons] at hread
    obtain ⟨content, hcontent⟩ := Option.isSome_iff_exists.mp hread.1
    obtain ⟨data, map, hdata, hkeys, hpaths, hentries⟩ := ih (index + 1) hread.2
    refine ⟨(toString index, content) :: data, (pair.path, toString index) :: map, ?_, ?_, ?_, ?_⟩
    · simp [configMapData, split_text, hcontent, hdata]
      rfl
    · simp [hkeys, List.range'_succ]
    · simp [hpaths]
    · rw [List.forall_mem_cons]
      refine ⟨⟨content, hcontent, List.mem_cons_self⟩, fun entry hentry ↦ ?_⟩
      obtain ⟨other, hother, hmem⟩ := hentries entry hentry
      exact ⟨other, hother, List.mem_cons_of_mem _ hmem⟩

/-- A path that was given several times is mapped to its last entry; all of them hold the same
content. -/
theorem exists_mappedFile {data map : List (String × String)}
    (hnodup : (data.map Prod.fst).Nodup) (hpaths : map.map Prod.fst = pairs.map SetFilePair.path)
    (hentries : ∀ entry ∈ map,
      ∃ content, readToString entry.1 = some content ∧ (entry.2, content) ∈ data)
    {pair : SetFilePair} (hpair : pair ∈ pairs) :
    ∃ file, mappedFile map pair.path = some file ∧ data.lookup file = readToString pair.path := by
  have hmem : pair.path ∈ map.map Prod.fst := by
    rw [hpaths]
    exact List.mem_map_of_mem hpair
  obtain ⟨entry, hentry, hpath⟩ := List.mem_map.mp hmem
  have hsome : (map.reverse.lookup pair.path).isSome := by
    rw [List.lookup_isSome_iff]
    exact ⟨entry, List.mem_reverse.mpr hentry, by simp [hpath]⟩
  obtain ⟨file, hfile⟩ := Option.isSome_iff_exists.mp hsome
  obtain ⟨content, hcontent, hdata⟩ :=
    hentries _ (List.mem_reverse.mp (mem_of_lookup hfile))
  exact ⟨file, hfile, (lookup_of_mem hnodup hdata).trans hcontent.symm⟩

end Files

/-! ## From the values to the argument of the upgrade -/

/-- Every key is assigned, in order, a mounted file with the content of the key's path. -/
def Assigns (readToString : String → Option String) (data : List (String × String))
    (argument : String) (pairs : List SetFilePair) : Prop :=
  ∃ file : SetFilePair → String,
    (∀ pair ∈ pairs, data.lookup (file pair) = readToString pair.path) ∧
    argument = ",".intercalate (pairs.map fun pair ↦
      pair.key ++ "=" ++ UPGRADE_CONFIG_MAP_MOUNT_PATH ++ "/" ++ file pair)

/-- The ConfigMap and the argument are both produced, and together they carry the values over. -/
def SetFilesPreserved (args : UpgradeArgs) (values : List SetFileValue) : Prop :=
  ∃ data map argument, createConfigMapData args = .ok (data, map) ∧
    createHelmSetFileArgs args (some map) = .ok argument ∧
    Assigns args.readToString data (argument.getD "") (values.flatMap SetFileValue.pairs)

/-- With every path mapped, the argument lists the keys with the files they are mapped to. -/
theorem createHelmSetFileArgs_text {args : UpgradeArgs} {pairs : List SetFilePair}
    {map : List (String × String)} {file : SetFilePair → String}
    (hfiles : args.setFile = pairs.map SetFilePair.text)
    (hmapped : ∀ pair ∈ pairs, mappedFile map pair.path = some (file pair)) :
    ∃ argument, createHelmSetFileArgs args (some map) = .ok argument ∧
      argument.getD "" = ",".intercalate (pairs.map fun pair ↦
        pair.key ++ "=" ++ UPGRADE_CONFIG_MAP_MOUNT_PATH ++ "/" ++ file pair) := by
  rw [createHelmSetFileArgs, hfiles]
  by_cases hempty : pairs = []
  · exact ⟨none, by simp [hempty], by simp [hempty]⟩
  · rw [if_neg (by simpa using hempty), Outcome.mapM_map_eq_ok fun pair ↦
      pair.key ++ "=" ++ UPGRADE_CONFIG_MAP_MOUNT_PATH ++ "/" ++ file pair]
    · exact ⟨_, rfl, rfl⟩
    · intro pair hpair
      simp [split_text, hmapped pair hpair]

/-- Values of one pair each are carried over. -/
theorem setFilesPreserved_of_text {args : UpgradeArgs} {values : List SetFileValue}
    (hfiles : args.setFile = (values.flatMap SetFileValue.pairs).map SetFilePair.text)
    (hread : ∀ pair ∈ values.flatMap SetFileValue.pairs, (args.readToString pair.path).isSome) :
    SetFilesPreserved args values := by
  obtain ⟨data, map, hdata, hkeys, hpaths, hentries⟩ := configMapData_text 1 hread
  have hnodup : (data.map Prod.fst).Nodup := by
    rw [hkeys]
    exact List.Nodup.map toString_injective List.nodup_range'
  have hmapped (pair : SetFilePair) (hpair : pair ∈ values.flatMap SetFileValue.pairs) :
      mappedFile map pair.path = some ((mappedFile map pair.path).getD "") ∧
        data.lookup ((mappedFile map pair.path).getD "") = args.readToString pair.path := by
    obtain ⟨file, hfile, hlookup⟩ := exists_mappedFile hnodup hpaths hentries hpair
    rw [hfile]
    exact ⟨rfl, hlookup⟩
  obtain ⟨argument, hargument, htext⟩ :=
    createHelmSetFileArgs_text hfiles fun pair hpair ↦ (hmapped pair hpair).1
  refine ⟨data, map, argument, ?_, hargument, _, fun pair hpair ↦ (hmapped pair hpair).2, htext⟩
  rw [createConfigMapData, hfiles, hdata]

/-- The files are only read if every value has exactly one equals sign. -/
theorem count_of_configMapData_ok {readToString : String → Option String} {index : ℕ}
    {files : List String} {result : List (String × String) × List (String × String)}
    (h : configMapData readToString index files = .ok result) :
    ∀ file ∈ files, file.toList.count '=' = 1 := by
  induction files generalizing index result with
  | nil => simp
  | cons file rest ih =>
    rw [configMapData] at h
    split at h
    · rename_i key filepath hsplit
      have hcount := length_split '=' file
      rw [hsplit] at hcount
      split at h
      · cases h
      · cases hrest : configMapData readToString (index + 1) rest with
        | error error =>
          rw [hrest] at h
          cases h
        | ok later => exact List.forall_mem_cons.mpr ⟨by simpa using hcount.symm, ih hrest⟩
    · cases h

theorem flatMap_pairs_text {values : List SetFileValue}
    (h : ∀ value ∈ values, value.pairs.length = 1) :
    (values.flatMap SetFileValue.pairs).map SetFilePair.text = values.map SetFileValue.text := by
  induction values with
  | nil => rfl
  | cons value values ih =>
    rw [List.forall_mem_cons] at h
    obtain ⟨pair, hpair⟩ := List.length_eq_one_iff.mp h.1
    rw [List.flatMap_cons, List.map_append, ih h.2, List.map_cons, SetFileValue.text, hpair]
    simp

/-- With every file readable, the values of the option are carried over exactly if each of them
consists of a single pair. -/
theorem setFilesPreserved_iff (args : UpgradeArgs) (values : List SetFileValue)
    (hfiles : args.setFile = values.map SetFileValue.text)
    (hread : ∀ value ∈ values, ∀ pair ∈ value.pairs, (args.readToString pair.path).isSome) :
    SetFilesPreserved args values ↔ ∀ value ∈ values, value.pairs.length = 1 := by
  constructor
  · rintro ⟨data, map, argument, hdata, -, -⟩ value hvalue
    rw [createConfigMapData, hfiles] at hdata
    rw [← count_text]
    exact count_of_configMapData_ok hdata _ (List.mem_map_of_mem hvalue)
  · intro hsingle
    apply setFilesPreserved_of_text
    · rw [flatMap_pairs_text hsingle, hfiles]
    · intro pair hpair
      obtain ⟨value, hvalue, hmem⟩ := List.mem_flatMap.mp hpair
      exact hread value hvalue pair hmem

def nodePair : SetFilePair := ⟨"etcd.node", "/root/a", by decide +kernel, by decide +kernel⟩

def zonePair : SetFilePair := ⟨"etcd.zone", "/root/a", by decide +kernel, by decide +kernel⟩

/-- A command line with the given values on a host where every file can be read. -/
def setFileArgs (values : List SetFileValue) : UpgradeArgs :=
  { UpgradeArgs.new with
    setFile := values.map SetFileValue.text
    readToString := fun path ↦ some ("content of " ++ path) }

/-- Two values with the same path. -/
theorem setFilesPreserved_samePath :
    SetFilesPreserved (setFileArgs [⟨[nodePair], by simp⟩, ⟨[zonePair], by simp⟩])
      [⟨[nodePair], by simp⟩, ⟨[zonePair], by simp⟩] :=
  (setFilesPreserved_iff _ _ rfl fun _ _ _ _ ↦ rfl).mpr (by simp)

/-- One value with two pairs. -/
theorem not_setFilesPreserved_twoPairs :
    ¬ SetFilesPreserved (setFileArgs [⟨[nodePair, zonePair], by simp⟩])
      [⟨[nodePair, zonePair], by simp⟩] := by
  rintro ⟨data, map, argument, hdata, -, -⟩
  have hcount := count_of_configMapData_ok hdata _ List.mem_cons_self
  rw [count_text] at hcount
  cases hcount

end MayastorExtensions.Plugin
