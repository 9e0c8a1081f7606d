import MayastorExtensions.UpgradeJob.Helm.Values

/-!
# Chains of upgrades

The values that one upgrade produces are the source values of the next.  The special case of 2.6.x
moves three settings of the user to new keys and removes the old ones.  It runs for every source
version below 2.6.0, also for one whose values have been moved before, and then reads old keys that
are no longer there.  From source version 2.6.0 on the new keys are left alone.
-/

namespace MayastorExtensions.UpgradeJob

open Semver Yaml

/-! ## Chains -/

/-- One upgrade of a chain, up to the source it starts from. -/
structure ValuesStep where
  targetVersion : Version
  targetTree : Tree
  jaegerFirst : Bool
  crds : List String

/-- An upgrade that has produced its values. -/
structure UpgradedValues where
  sourceVersion : Version
  targetVersion : Version
  sourceTree : Tree
  result : Tree

/-- Deserialize both sets of values and generate the values of the upgrade. -/
def upgradeValues (codec : Codec) (sourceVersion : Version) (sourceTree : Tree)
    (step : ValuesStep) : Except Error Tree :=
  match CoreValues.decode codec step.targetTree, CoreValues.decode codec sourceTree with
  | none, _ => .error (.yamlParseFromFile "values.yaml")
  | some _, none => .error .yamlParseFromSlice
  | some target, some source =>
    generateValuesYamlFile
      { codec, jaegerFirst := step.jaegerFirst, crds := step.crds, sourceVersion,
        targetVersion := step.targetVersion, source, target } sourceTree step.targetTree

/-- The upgrades of a chain, one after the other. -/
def upgradeChain (codec : Codec) : Version → Tree → List ValuesStep →
    Except Error (List UpgradedValues)
  | _, _, [] => .ok []
  | version, tree, step :: rest => do
    let result ← upgradeValues codec version tree step
    let upgraded ← upgradeChain codec step.targetVersion result rest
    .ok (⟨version, step.targetVersion, tree, result⟩ :: upgraded)

/-- The versions of a chain rise from step to step. -/
def Rising : Version → List ValuesStep → Prop
  | _, [] => True
  | version, step :: rest => version < step.targetVersion ∧ Rising step.targetVersion rest

/-! ## Migrated settings -/

/-- The settings whose key changed in 2.6.0. -/
inductive Setting where
  | lokiAddress
  | logSilenceLevel
  | pluginMountPath
  deriving DecidableEq, Repr

namespace Setting

def oldKey : Setting → Path
  | lokiAddress => lokiAddressKey
  | logSilenceLevel => logSilenceLevelKey
  | pluginMountPath => pluginMounthPathKey

/-- The node that the new key is in.  It is never a mapping, so that a merge takes all of it from
one side. -/
def holder : Setting → Path
  | lokiAddress => clientsKey
  | logSilenceLevel => silenceLevelKey
  | pluginMountPath => pluginMountPathKey

/-- The way from there to the value. -/
def inside : Setting → Path
  | lokiAddress => [.index 0, .key "url"]
  | logSilenceLevel => []
  | pluginMountPath => []

def newKey (setting : Setting) : Path :=
  setting.holder ++ setting.inside

end Setting

/-- The text at a path, if there is a scalar. -/
def textAt (tree : Tree) (path : Path) : Option String :=
  (tree.get? path).bind Decode.text

/-- An upgrade from a version below 2.6.0 has moved the user's value to the new key. -/
def Migrated (setting : Setting) (value : String) (step : UpgradedValues) : Prop :=
  inWindow TWO_DOT_O_RC_ONE TWO_DOT_SIX step.sourceVersion ∧
    textAt step.sourceTree setting.oldKey = some value ∧
    textAt step.result setting.newKey = some value

/-! ## One step from 2.6.0 on -/

theorem inWindow_of_le {lower upper version : Version} (h : upper ≤ version) :
    inWindow lower upper version = false := by
  have hlt : ¬version < upper := Version.not_lt.mpr h
  simp [inWindow, hlt]

/-- The keys that are still edited: images and the CRD toggles. -/
def isImageOrCrd : Path → Bool
  | .key "csi" :: .key name :: _ => name = "image"
  | .key name :: _ => name = "image" || name = "crds"
  | _ => false

/-- From 2.6.0 on the special cases of older versions are over. -/
theorem edits_of_twoDotSix_le {input : ValuesInput} (h : TWO_DOT_SIX ≤ input.sourceVersion) :
    allKeys isImageOrCrd input.edits := by
  have hone := Version.le_trans (by decide : TWO_DOT_ONE ≤ TWO_DOT_SIX) h
  have hfour := Version.le_trans (by decide : TWO_DOT_FOUR ≤ TWO_DOT_SIX) h
  have hfive := Version.le_trans (by decide : TWO_DOT_FIVE ≤ TWO_DOT_SIX) h
  simp only [ValuesInput.edits, ValuesInput.chartEdits, logLevelEdits, eventingEdits,
    twoDotFiveEdits, twoDotSixEdits, inWindow_of_le hone, inWindow_of_le hfour,
    inWindow_of_le hfive, inWindow_of_le h, Bool.false_and, Bool.false_eq_true, if_false,
    List.nil_append, List.append_nil, allKeys_append]
  unfold repoTagEdits safeCrdInstall crdToggle
  dsimp only
  split_ifs <;> rfl

theorem apart_of_isImageOrCrd {key : Path} (h : isImageOrCrd key) (setting : Setting) :
    Tree.Apart key setting.holder := by
  unfold isImageOrCrd at h
  split at h
  next name rest =>
    obtain rfl : name = "image" := by simpa using h
    cases setting <;>
      simp [Tree.Apart, Setting.holder, clientsKey, silenceLevelKey, pluginMountPathKey, yamlKey]
  next name rest hcsi =>
    obtain rfl | rfl : name = "image" ∨ name = "crds" := by simpa using h
    all_goals
      cases setting <;>
        simp [Tree.Apart, Setting.holder, clientsKey, silenceLevelKey, pluginMountPathKey, yamlKey]
  next => cases h

/-- The node that a text was read through is no mapping. -/
theorem holder_of_textAt {tree : Tree} {setting : Setting} {value : String}
    (h : textAt tree setting.newKey = some value) :
    ∃ node, tree.get? setting.holder = some node ∧ node.isMap = false := by
  rw [textAt, Setting.newKey, Tree.get?_append] at h
  cases hnode : tree.get? setting.holder with
  | none => simp [hnode] at h
  | some node =>
    refine ⟨node, rfl, ?_⟩
    rw [hnode] at h
    cases node with
    | scalar tag text => rfl
    | seq items => rfl
    | map entries => cases setting <;> simp [Setting.inside, Tree.descend, Tree.child,
        Decode.text] at h

/-- An upgrade from 2.6.0 or later keeps the node of a migrated setting. -/
theorem upgradeValues_keeps {codec : Codec} {sourceVersion : Version} {sourceTree result : Tree}
    {step : ValuesStep} {setting : Setting} {value : String}
    (hsix : TWO_DOT_SIX ≤ sourceVersion)
    (h : upgradeValues codec sourceVersion sourceTree step = .ok result)
    (hvalue : textAt sourceTree setting.newKey = some value) :
    result.get? setting.newKey = sourceTree.get? setting.newKey := by
  unfold upgradeValues at h
  split at h
  next => cases h
  next => cases h
  next target source htarget hsource =>
    rw [generateValuesYamlFile,
      mergeFiles_of_isMap (CoreValues.images_of_decode htarget).1] at h
    obtain ⟨node, hnode, hmap⟩ := holder_of_textAt hvalue
    have hresult : result.get? setting.holder = some node := by
      rw [applyEdits_get?_of_apart ?_ h]
      · exact Tree.get?_merge_of_right hmap hnode
      · intro edit hedit
        exact apart_of_isImageOrCrd (List.all_eq_true.mp (edits_of_twoDotSix_le hsix) edit hedit)
          setting
    rw [Setting.newKey, Tree.get?_append, hresult, ← hnode, ← Tree.get?_append]

/-! ## Whole chains -/

theorem upgradeChain_cons {codec : Codec} {version : Version} {tree : Tree} {step : ValuesStep}
    {rest : List ValuesStep} {upgraded : List UpgradedValues}
    (h : upgradeChain codec version tree (step :: rest) = .ok upgraded) :
    ∃ result later, upgradeValues codec version tree step = .ok result ∧
      upgradeChain codec step.targetVersion result rest = .ok later ∧
      upgraded = ⟨version, step.targetVersion, tree, result⟩ :: later := by
  obtain ⟨result, hresult, h⟩ := Outcome.bind_eq_ok h
  obtain ⟨later, hlater, h⟩ := Outcome.bind_eq_ok h
  cases h
  exact ⟨result, later, hresult, hlater, rfl⟩

/-- From 2.6.0 on every step of a rising chain keeps a migrated setting. -/
theorem upgradeChain_keeps {codec : Codec} {version : Version} {tree : Tree}
    {steps : List ValuesStep} {upgraded : List UpgradedValues} {setting : Setting} {value : String}
    (hsix : TWO_DOT_SIX ≤ version) (hrising : Rising version steps)
    (h : upgradeChain codec version tree steps = .ok upgraded)
    (hvalue : textAt tree setting.newKey = some value) :
    ∀ step ∈ upgraded, step.result.get? setting.newKey = tree.get? setting.newKey := by
  induction steps generalizing version tree upgraded with
  | nil =>
    cases h
    intro step hstep
    cases hstep
  | cons step rest ih =>
    obtain ⟨result, later, hresult, hlater, rfl⟩ := upgradeChain_cons h
    have hkept := upgradeValues_keeps hsix hresult hvalue
    have hsix' := Version.le_trans hsix (Version.le_of_lt hrising.1)
    have hvalue' : textAt result setting.newKey = some value := by
      rw [textAt, hkept]
      exact hvalue
    intro other hother
    rcases List.mem_cons.mp hother with rfl | hother
    · exact hkept
    · rw [ih hsix' hrising.2 hlater hvalue' other hother, hkept]

/-- The rest of a chain is a chain from where a step has arrived. -/
theorem upgradeChain_split {codec : Codec} {version : Version} {tree : Tree}
    {steps : List ValuesStep} {before later : List UpgradedValues} {step : UpgradedValues}
    (hrising : Rising version steps)
    (h : upgradeChain codec version tree steps = .ok (before ++ step :: later)) :
    ∃ rest, Rising step.targetVersion rest ∧
      upgradeChain codec step.targetVersion step.result rest = .ok later := by
  induction before generalizing version tree steps with
  | nil =>
    cases steps with
    | nil => cases h
    | cons first rest =>
      obtain ⟨result, later', hresult, hlater, heq⟩ := upgradeChain_cons h
      obtain ⟨rfl, rfl⟩ := List.cons.inj heq
      exact ⟨rest, hrising.2, hlater⟩
  | cons earlier before ih =>
    cases steps with
    | nil => cases h
    | cons first rest =>
      obtain ⟨result, later', hresult, hlater, heq⟩ := upgradeChain_cons h
      obtain ⟨rfl, rfl⟩ := List.cons.inj heq
      exact ih hrising.2 hlater

/-- In every rising chain, a setting that an upgrade to 2.6.0 or later has migrated keeps the
node with the user's value through all later upgrades. -/
theorem upgradeChain_keeps_migrated {codec : Codec} {version : Version} {tree : Tree}
    {steps : List ValuesStep} {before later : List UpgradedValues} {migrating : UpgradedValues}
    {setting : Setting} {value : String} (hrising : Rising version steps)
    (h : upgradeChain codec version tree steps = .ok (before ++ migrating :: later))
    (hmigrated : Migrated setting value migrating)
    (hsix : TWO_DOT_SIX ≤ migrating.targetVersion) :
    ∃ node, Decode.text node = some value ∧
      ∀ step ∈ migrating :: later, step.result.get? setting.newKey = some node := by
  obtain ⟨rest, hrest, hlater⟩ := upgradeChain_split hrising h
  obtain ⟨node, hnode, htext⟩ := Option.bind_eq_some_iff.mp hmigrated.2.2
  refine ⟨node, htext, ?_⟩
  intro step hstep
  rcases List.mem_cons.mp hstep with rfl | hstep
  · exact hnode
  · rw [upgradeChain_keeps hsix hrest hlater hmigrated.2.2 step hstep, hnode]

/-- The settings of a user of 2.5.0, under the old keys. -/
def userSettings : Tree :=
  .map
    [("base", .map [("logSilenceLevel", .str "h2=warn")]),
      ("csi", .map [("node", .map [("pluginMounthPath", .str "/plugin")])]),
      ("loki-stack", .map [("promtail", .map [("config", .map
        [("lokiAddress", .str "http://loki:3100/push")])])])]

/-- Upgrades to charts that do not have those settings. -/
def userSteps (targets : List Version) : List ValuesStep :=
  targets.map fun target ↦ ⟨target, chartValues (.str target.toString), false, []⟩

/-- A chain of upgrades of the user's installation of 2.5.0. -/
def userChain (targets : List Version) : Except Error (List UpgradedValues) :=
  upgradeChain ⟨some, fun _ ↦ some none, fun _ ↦ none⟩ TWO_DOT_FIVE
    ((chartValues (.str "v2.5.0")).merge userSettings) (userSteps targets)

/-- What `Migrated` is about. -/
def observe (setting : Setting) (step : UpgradedValues) :
    Version × Version × Option String × Option String :=
  (step.sourceVersion, step.targetVersion, textAt step.sourceTree setting.oldKey,
    textAt step.result setting.newKey)

theorem exists_of_observe {setting : Setting} {outcome : Except Error (List UpgradedValues)}
    {left right : Version × Version × Option String × Option String}
    (h : outcome.toOption.map (List.map (observe setting)) = some [left, right]) :
    ∃ first second, outcome = .ok [first, second] ∧ observe setting first = left ∧
      observe setting second = right := by
  cases outcome with
  | error error => cases h
  | ok steps =>
    match steps, Option.some.inj h with
    | [first, second], heq =>
      simp only [List.map_cons, List.map_nil, List.cons.injEq, and_true] at heq
      exact ⟨first, second, rfl, heq.1, heq.2⟩

theorem upgradeChain_keeps_migrated_lokiAddress :
    ∃ first second, userChain [TWO_DOT_SIX, ⟨2, 7, 0, [], []⟩] = .ok [first, second] ∧
      Migrated .lokiAddress "http://loki:3100/push" first ∧
      ∃ node, Decode.text node = some "http://loki:3100/push" ∧
        ∀ step ∈ [first, second], step.result.get? Setting.lokiAddress.newKey = some node := by
  have hobserved : (userChain [TWO_DOT_SIX, ⟨2, 7, 0, [], []⟩]).toOption.map
      (List.map (observe .lokiAddress)) =
        some [(TWO_DOT_FIVE, TWO_DOT_SIX, some "http://loki:3100/push",
            some "http://loki:3100/push"),
          (TWO_DOT_SIX, ⟨2, 7, 0, [], []⟩, none, some "http://loki:3100/push")] := by
    decide +kernel
  obtain ⟨first, second, hchain, hfirst, -⟩ := exists_of_observe hobserved
  simp only [observe, Prod.mk.injEq] at hfirst
  have hmigrated : Migrated .lokiAddress "http://loki:3100/push" first := by
    refine ⟨?_, hfirst.2.2.1, hfirst.2.2.2⟩
    rw [hfirst.1]
    decide
  have hsix : TWO_DOT_SIX ≤ first.targetVersion := by
    rw [hfirst.2.1]
    decide
  have hrising : Rising TWO_DOT_FIVE (userSteps [TWO_DOT_SIX, ⟨2, 7, 0, [], []⟩]) :=
    ⟨by decide, by decide, trivial⟩
  have hsplit : userChain [TWO_DOT_SIX, ⟨2, 7, 0, [], []⟩] = .ok ([] ++ first :: [second]) := hchain
  refine ⟨first, second, hchain, hmigrated, ?_⟩
  exact upgradeChain_keeps_migrated hrising hsplit hmigrated hsix

/-- The upgrade from a pre-release of 2.6.0 reads the old key once more and finds nothing. -/
theorem upgradeChain_loses_migrated :
    ¬∀ (codec : Codec) (version : Version) (tree : Tree) (steps : List ValuesStep)
      (before later : List UpgradedValues) (migrating : UpgradedValues) (setting : Setting)
      (value : String), (∀ each : Setting, (textAt tree each.oldKey).isSome) →
      TWO_DOT_O_RC_ONE ≤ version → Rising version steps →
      upgradeChain codec version tree steps = .ok (before ++ migrating :: later) →
      Migrated setting value migrating →
      ∀ step ∈ later, textAt step.result setting.newKey = some value := by
  intro hclaim
  have hobserved : (userChain [⟨2, 6, 0, ["rc", "1"], []⟩, TWO_DOT_SIX]).toOption.map
      (List.map (observe .logSilenceLevel)) =
        some [(TWO_DOT_FIVE, ⟨2, 6, 0, ["rc", "1"], []⟩, some "h2=warn", some "h2=warn"),
          (⟨2, 6, 0, ["rc", "1"], []⟩, TWO_DOT_SIX, none, some "")] := by
    decide +kernel
  obtain ⟨first, second, hchain, hfirst, hsecond⟩ := exists_of_observe hobserved
  simp only [observe, Prod.mk.injEq] at hfirst hsecond
  have hmigrated : Migrated .logSilenceLevel "h2=warn" first := by
    refine ⟨?_, hfirst.2.2.1, hfirst.2.2.2⟩
    rw [hfirst.1]
    decide
  have hset : ∀ each : Setting,
      (textAt ((chartValues (.str "v2.5.0")).merge userSettings) each.oldKey).isSome := by
    intro each
    cases each <;> decide +kernel
  have hkept := hclaim _ TWO_DOT_FIVE _ (userSteps [⟨2, 6, 0, ["rc", "1"], []⟩, TWO_DOT_SIX]) []
    [second] first .logSilenceLevel "h2=warn" hset (by decide) ⟨by decide, by decide, trivial⟩
    hchain hmigrated second List.mem_cons_self
  rw [hsecond.2.2.2] at hkept
  exact absurd hkept (by decide)

end MayastorExtensions.UpgradeJob
