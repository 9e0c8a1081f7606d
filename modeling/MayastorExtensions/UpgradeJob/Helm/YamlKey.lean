import MayastorExtensions.UpgradeJob.Helm.Values

/-!
# Setting a value

`set_literal_value` prints a value and takes its type from the text: what reads as a boolean, as
null or as an integer is assigned as such, and everything else as a string.  The keys are texts in
dot notation, which `yq` reads as paths.
-/

namespace MayastorExtensions.UpgradeJob

open Semver Yaml

/-! ## Keys -/

/-- Matches `^(\..+)+$`: a dot and at least one more character, all on one line. -/
def isYamlKey : List Char → Bool
  | '.' :: rest => !rest.isEmpty && rest.all fun c ↦ c ≠ '\n'
  | _ => false

structure YamlKey where
  text : String
  valid : isYamlKey text.toList

/-- As `YamlKey::try_from`, without the error. -/
def YamlKey.tryFrom (value : String) : Option YamlKey :=
  if h : isYamlKey value.toList then some ⟨value, h⟩ else none

/-- A name, with the index that may follow it in brackets. -/
def readSegment (part : List Char) : Path :=
  let name := part.takeWhile fun c ↦ c ≠ '['
  let digits := (part.dropWhile fun c ↦ c ≠ '[').filter Char.isDigit
  .key (String.ofList name) :: if digits.isEmpty then [] else [.index (digitsValue digits)]

/-- The path of names and indices that a key in dot notation is. -/
def YamlKey.path (key : YamlKey) : Path :=
  ((key.text.toList.drop 1).splitOn '.').flatMap readSegment

example : (YamlKey.tryFrom ".loki-stack.promtail.config.clients[0]").map YamlKey.path =
    some (clientsKey ++ [.index 0]) := by
  decide

example : (YamlKey.tryFrom "image.tag").isNone := by
  decide

/-! ## The type of the node -/

/-- The texts that are not assigned as strings. -/
def readsAsLiteral (value : String) : Bool :=
  value ∈ ["true", "false", "null"] || parsesAsI64 value

theorem literalTag_eq_str_iff (value : String) :
    literalTag value = .str ↔ readsAsLiteral value = false := by
  unfold literalTag readsAsLiteral
  by_cases hbool : value = "true" ∨ value = "false"
  · rcases hbool with rfl | rfl <;> simp
  · rw [not_or] at hbool
    by_cases hnull : value = "null"
    · simp [hnull]
    · simp [hbool, hnull]

theorem literal_eq_str_iff (value : String) :
    literal value = .str value ↔ readsAsLiteral value = false := by
  rw [literal, Tree.str, Tree.scalar.injEq, and_iff_left rfl, literalTag_eq_str_iff]

/-- Whatever path `yq` reads a key as, the node at the key is the string that was set if and only
if no scalar is in the way to the key and the string reads neither as a boolean nor as null nor as
an integer. -/
theorem setLiteralValue_string_iff (yqPath : YamlKey → Path) (key : YamlKey) (value : String)
    (tree result : Tree) (h : (Edit.setLiteralValue (yqPath key) value).apply tree = .ok result) :
    result.get? (yqPath key) = some (.str value) ↔
      Tree.Open true (yqPath key) (some tree) ∧ readsAsLiteral value = false := by
  by_cases hopen : Tree.Open true (yqPath key) (some tree)
  · rw [Edit.get?_setLiteralValue hopen h, Option.some.injEq, literal_eq_str_iff,
      and_iff_right hopen]
  · have halter := Option.join_eq_some_iff.mp (Edit.ok_of_outcome h)
    have hnone : result.get? (yqPath key) = none := Tree.descend_alter_of_not_open hopen halter
    rw [hnone]
    simp [hopen]

/-- The key of the control plane's tag. -/
def controlPlaneKey : YamlKey :=
  ⟨".image.repoTags.controlPlane", by decide⟩

/-- Values in which that tag is set. -/
def repoTagTree (tag : Tree) : Tree :=
  .map [("image", .map [("repoTags", .map [("controlPlane", tag)])])]

theorem setLiteralValue_string_commit :
    (Edit.setLiteralValue controlPlaneKey.path "4f3a2b1").apply (repoTagTree (.str "")) =
        .ok (repoTagTree (.str "4f3a2b1")) ∧
      (repoTagTree (.str "4f3a2b1")).get? controlPlaneKey.path = some (.str "4f3a2b1") := by
  have happly : (Edit.setLiteralValue controlPlaneKey.path "4f3a2b1").apply
      (repoTagTree (.str "")) = .ok (repoTagTree (.str "4f3a2b1")) := rfl
  refine ⟨happly, (setLiteralValue_string_iff YamlKey.path _ _ _ _ happly).mpr ⟨?_, by decide⟩⟩
  exact ⟨⟨_, rfl⟩, ⟨_, rfl⟩, ⟨_, rfl⟩, trivial⟩

/-- The tag of a commit whose hash has only digits becomes a number. -/
theorem setLiteralValue_retypes_commit :
    ¬∀ (yqPath : YamlKey → Path) (key : YamlKey) (value : String) (tree result : Tree),
      (Edit.setLiteralValue (yqPath key) value).apply tree = .ok result →
        result.get? (yqPath key) = some (.str value) := by
  intro hclaim
  have happly : (Edit.setLiteralValue controlPlaneKey.path "4132771").apply
      (repoTagTree (.str "")) = .ok (repoTagTree (.scalar .int "4132771")) := rfl
  have hstring := hclaim YamlKey.path controlPlaneKey "4132771" _ _ happly
  cases hstring

end MayastorExtensions.UpgradeJob
