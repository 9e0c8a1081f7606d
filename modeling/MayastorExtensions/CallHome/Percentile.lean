import Mathlib.Data.List.Sort
import Mathlib.Data.Rat.Floor
import MayastorExtensions.Library.Interpolation

/-!
# Percentiles

The report gives the sizes of pools and volumes and the replica counts as percentiles, with the
exclusive method of `math.rs` and the wrappers of `collector/report_models.rs`.  Floating point is
replaced by rational numbers here; indices and subtractions that panic are kept as outcomes.
-/

namespace MayastorExtensions.CallHome

open Interpolation

/-- The panics of index arithmetic and of vectors that get too long. -/
inductive Panic where
  | subtractOverflow
  | indexOutOfBounds
  | capacityOverflow
  deriving DecidableEq, Repr

/-- `data[position]`. -/
def index (data : List UInt64) (position : ℕ) : Except Panic UInt64 :=
  match data[position]? with
  | some value => .ok value
  | none => .error .indexOutOfBounds

/-- Subtraction of `usize`. -/
def subtract (left right : ℕ) : Except Panic ℕ :=
  if right ≤ left then .ok (left - right) else .error .subtractOverflow

/-- The value at a position between two values directly ahead of and behind it. -/
def interpolate (lowerValue upperValue : UInt64) (pos : ℚ) : ℚ :=
  let fraction := pos - ⌊pos⌋
  lowerValue.toNat + fraction * (upperValue.toNat - lowerValue.toNat)

def percentileExclusive (sortedData : List UInt64) (percentile : ℚ) :
    Except Panic (Option ℚ) :=
  match sortedData.length with
  | 0 => .ok none
  | 1 => do
    let value ← index sortedData 0
    pure (some value.toNat)
  | len => do
    let pos : ℚ := (len + 1) * percentile / 100
    if pos ≤ 1 then
      let value ← index sortedData 0
      pure (some value.toNat)
    else if len ≤ pos then
      let value ← index sortedData (len - 1)
      pure (some value.toNat)
    else
      let lower ← subtract ⌊pos⌋₊ 1
      let upper ← subtract ⌈pos⌉₊ 1
      let lowerValue ← index sortedData lower
      let upperValue ← index sortedData upper
      pure (some (interpolate lowerValue upperValue pos))

/-- `f64::round`, half away from zero. -/
def roundHalfAway (value : ℚ) : ℤ :=
  if 0 ≤ value then ⌊value + 1 / 2⌋ else ⌈value - 1 / 2⌉

/-- The saturating cast `as u64`. -/
def saturate (value : ℤ) : UInt64 :=
  .ofNat (min value.toNat (Nat.pow 2 64 - 1))

/-- `sort_unstable`; equal numbers cannot be told apart. -/
def sortUnstable (values : List UInt64) : List UInt64 :=
  values.insertionSort (· ≤ ·)

def getPercentile (values : List UInt64) (percentile : ℕ) : Except Panic UInt64 := do
  let found ← percentileExclusive (sortUnstable values) percentile
  pure (saturate (roundHalfAway (found.getD 0)))

structure Percentiles where
  percentile50 : UInt64
  percentile75 : UInt64
  percentile90 : UInt64
  deriving DecidableEq, Repr

def Percentiles.new (values : List UInt64) : Except Panic Percentiles := do
  let percentile50 ← getPercentile values 50
  let percentile75 ← getPercentile values 75
  let percentile90 ← getPercentile values 90
  pure { percentile50, percentile75, percentile90 }

def getMaxValue (values : List UInt64) : UInt64 := values.max?.getD 0

def getMinValue (values : List UInt64) : UInt64 := values.min?.getD 0

/-- The mean as a running sum of fractions, cut to an integer at the end. -/
def getMeanValue (values : List UInt64) : UInt64 :=
  saturate ⌊values.foldl (fun (sum : ℚ) value ↦ sum + value.toNat / values.length) 0⌋

/-! ## The percentile as an interpolation -/

/-- The values of the data by position, counted from 1; before the first and after the last position
the outer values are repeated. -/
def sample (data : List UInt64) (position : ℕ) : ℚ :=
  ((data[min (position - 1) (data.length - 1)]?).getD 0).toNat

/-- The position of a percentile, moved onto the data. -/
def clampedPosition (data : List UInt64) (percentile : ℚ) : ℚ :=
  max 1 (min data.length ((data.length + 1) * percentile / 100))

section Data

variable {data : List UInt64}

theorem index_of_lt {position : ℕ} (h : position < data.length) :
    index data position = .ok data[position] := by
  rw [index, List.getElem?_eq_getElem h]

theorem sample_of_lt {position : ℕ} (hlt : position - 1 < data.length) :
    sample data position = data[position - 1].toNat := by
  have hmin : min (position - 1) (data.length - 1) = position - 1 := by omega
  rw [sample, hmin, List.getElem?_eq_getElem hlt, Option.getD_some]

theorem sample_mono (hsorted : data.Pairwise (· ≤ ·)) : Monotone (sample data) := by
  intro position position' hle
  cases data with
  | nil => simp [sample]
  | cons first rest =>
    have hlt : min (position - 1) ((first :: rest).length - 1) < (first :: rest).length := by
      rw [List.length_cons]
      omega
    have hlt' : min (position' - 1) ((first :: rest).length - 1) < (first :: rest).length := by
      rw [List.length_cons]
      omega
    rw [sample, sample, List.getElem?_eq_getElem hlt, List.getElem?_eq_getElem hlt',
      Option.getD_some, Option.getD_some, Nat.cast_le, ← UInt64.le_iff_toNat_le]
    rcases Nat.lt_or_ge (min (position - 1) ((first :: rest).length - 1))
      (min (position' - 1) ((first :: rest).length - 1)) with hbelow | habove
    · exact List.pairwise_iff_getElem.mp hsorted _ _ hlt hlt' hbelow
    · have hsame : min (position - 1) ((first :: rest).length - 1) =
          min (position' - 1) ((first :: rest).length - 1) := by omega
      simp only [hsame]
      exact UInt64.le_refl _

theorem one_le_clampedPosition (percentile : ℚ) : 1 ≤ clampedPosition data percentile :=
  le_max_left _ _

theorem clampedPosition_mono {percentile percentile' : ℚ} (h : percentile ≤ percentile') :
    clampedPosition data percentile ≤ clampedPosition data percentile' := by
  unfold clampedPosition
  gcongr

/-- The interpolation of the source, at a position inside the data. -/
theorem interpolate_eq_linear {pos : ℚ} (hone : 1 < pos)
    (hlower : ⌊pos⌋₊ - 1 < data.length) (hupper : ⌈pos⌉₊ - 1 < data.length) :
    interpolate data[⌊pos⌋₊ - 1] data[⌈pos⌉₊ - 1] pos = linear (sample data) pos := by
  have hfloor : (⌊pos⌋ : ℚ) = (⌊pos⌋₊ : ℚ) := by
    rw [← natCast_floor_eq_intCast_floor (by linarith)]
  rw [interpolate, linear, hfloor, sample_of_lt hlower, sample_of_lt hupper]

/-- On data that is not empty there is no panic, whatever the percentile, and the result is the
interpolated value at its position. -/
theorem percentileExclusive_eq (hne : data ≠ []) (percentile : ℚ) :
    percentileExclusive data percentile =
      .ok (some (linear (sample data) (clampedPosition data percentile))) := by
  have hlength : 0 < data.length := List.length_pos_iff.mpr hne
  have hfirst : linear (sample data) 1 = data[0].toNat := by
    have hnat := linear_natCast (sample data) 1
    rw [Nat.cast_one] at hnat
    rw [hnat, @sample_of_lt _ 1 hlength]
  have hlast : linear (sample data) data.length = data[data.length - 1].toNat := by
    rw [linear_natCast, sample_of_lt]
  unfold percentileExclusive
  split
  · omega
  · rename_i hone
    rw [clampedPosition, hone, Nat.cast_one, max_eq_left (min_le_left _ _), hfirst,
      index_of_lt hlength]
    rfl
  · rename_i _ hzero hone
    have hcast : (1 : ℚ) ≤ data.length := by exact_mod_cast hlength
    rw [clampedPosition]
    generalize (data.length + 1) * percentile / 100 = pos
    dsimp only
    split_ifs with hbefore hafter
    · rw [max_eq_left ((min_le_right _ _).trans hbefore), hfirst, index_of_lt hlength]
      rfl
    · rw [min_eq_left hafter, max_eq_right hcast, hlast, index_of_lt (by omega)]
      rfl
    · -- strictly between the first and the last position both neighbours exist
      have hinside : 1 < pos := not_le.mp hbefore
      have hbelow : pos < data.length := not_le.mp hafter
      have hfloor : 1 ≤ ⌊pos⌋₊ := Nat.le_floor (by exact_mod_cast hinside.le)
      have hceil : ⌈pos⌉₊ ≤ data.length := Nat.ceil_le.mpr hbelow.le
      have hordered : ⌊pos⌋₊ ≤ ⌈pos⌉₊ := Nat.floor_le_ceil pos
      rw [min_eq_right hbelow.le, max_eq_right hinside.le, subtract, if_pos hfloor, subtract,
        if_pos (hfloor.trans hordered)]
      have hlower : ⌊pos⌋₊ - 1 < data.length := by omega
      have hupper : ⌈pos⌉₊ - 1 < data.length := by omega
      rw [← interpolate_eq_linear hinside hlower hupper]
      simp only [index_of_lt hlower, index_of_lt hupper, bind, Except.bind]
      rfl

/-- The interpolated values do not fall as the percentile grows. -/
theorem linear_clampedPosition_mono (hsorted : data.Pairwise (· ≤ ·)) {percentile percentile' : ℚ}
    (h : percentile ≤ percentile') :
    linear (sample data) (clampedPosition data percentile) ≤
      linear (sample data) (clampedPosition data percentile') :=
  linear_mono (sample_mono hsorted) (zero_le_one.trans (one_le_clampedPosition percentile))
    (clampedPosition_mono h)

theorem exists_sample_eq (hne : data ≠ []) (position : ℕ) :
    ∃ value ∈ data, sample data position = value.toNat := by
  have hlength : 0 < data.length := List.length_pos_iff.mpr hne
  have hlt : min (position - 1) (data.length - 1) < data.length := by omega
  refine ⟨_, List.getElem_mem hlt, ?_⟩
  rw [sample, List.getElem?_eq_getElem hlt, Option.getD_some]

end Data

/-! ## Sorting and rounding -/

theorem max_eq_ite (left right : UInt64) : max left right = if left ≤ right then right else left :=
  rfl

/-- The greater of two numbers, in the terms that the facts on lists ask for. -/
instance uint64LawfulOrderMax : Std.LawfulOrderMax UInt64 where
  max_eq_or left right := by
    rw [max_eq_ite]
    split
    · exact .inr rfl
    · exact .inl rfl
  max_le_iff left right bound := by
    rw [max_eq_ite]
    split
    · rename_i hle
      exact ⟨fun h ↦ ⟨UInt64.le_trans hle h, h⟩, And.right⟩
    · rename_i hgt
      have hle : right ≤ left := UInt64.le_of_lt (UInt64.not_le.mp hgt)
      exact ⟨fun h ↦ ⟨h, UInt64.le_trans hle h⟩, And.left⟩

theorem sortUnstable_pairwise (values : List UInt64) : (sortUnstable values).Pairwise (· ≤ ·) :=
  List.pairwise_insertionSort _ values

theorem mem_sortUnstable {values : List UInt64} {value : UInt64} :
    value ∈ sortUnstable values ↔ value ∈ values :=
  List.mem_insertionSort _

theorem sortUnstable_perm {values values' : List UInt64} (hperm : values.Perm values') :
    sortUnstable values = sortUnstable values' := by
  apply List.Perm.eq_of_pairwise _ (sortUnstable_pairwise values) (sortUnstable_pairwise values')
  · exact ((List.perm_insertionSort _ values).trans hperm).trans
      (List.perm_insertionSort _ values').symm
  · intro value value' _ _ hle hge
    exact UInt64.le_antisymm hle hge

/-- The rounding and the cast of a percentile. -/
def rounded (value : ℚ) : UInt64 := saturate (roundHalfAway value)

theorem rounded_mono {value value' : ℚ} (hnonneg : 0 ≤ value) (h : value ≤ value') :
    rounded value ≤ rounded value' := by
  have hround : roundHalfAway value ≤ roundHalfAway value' := by
    rw [roundHalfAway, roundHalfAway, if_pos hnonneg, if_pos (hnonneg.trans h)]
    exact Int.floor_mono (by linarith)
  rw [UInt64.le_iff_toNat_le, rounded, rounded, saturate, saturate, UInt64.toNat_ofNat_of_lt',
    UInt64.toNat_ofNat_of_lt']
  · exact min_le_min_right _ (Int.toNat_le_toNat hround)
  · exact lt_of_le_of_lt (min_le_right _ _) (by decide)
  · exact lt_of_le_of_lt (min_le_right _ _) (by decide)

theorem rounded_toNat (value : UInt64) : rounded value.toNat = value := by
  have hround : roundHalfAway value.toNat = value.toNat := by
    rw [roundHalfAway, if_pos (Nat.cast_nonneg _), Int.floor_eq_iff]
    constructor <;> push_cast <;> linarith
  have hlt := value.toNat_lt
  have hmin : min value.toNat (Nat.pow 2 64 - 1) = value.toNat := by
    apply min_eq_left
    exact Nat.le_sub_one_of_lt hlt
  rw [rounded, hround, saturate, Int.toNat_natCast, hmin, UInt64.ofNat_toNat]

/-! ## The percentiles of a list -/

section Values

variable {values : List UInt64}

/-- The exact percentile of a list that is not empty. -/
def exactPercentile (values : List UInt64) (percentile : ℚ) : ℚ :=
  linear (sample (sortUnstable values)) (clampedPosition (sortUnstable values) percentile)

theorem sortUnstable_ne_nil (hne : values ≠ []) : sortUnstable values ≠ [] := by
  obtain ⟨value, hvalue⟩ := List.exists_mem_of_ne_nil values hne
  exact List.ne_nil_of_mem (mem_sortUnstable.mpr hvalue)

theorem getPercentile_nil (percentile : ℕ) : getPercentile [] percentile = .ok 0 := by
  have hzero : rounded 0 = 0 := by simpa using rounded_toNat 0
  exact congrArg Except.ok hzero

theorem getPercentile_eq (hne : values ≠ []) (percentile : ℕ) :
    getPercentile values percentile = .ok (rounded (exactPercentile values percentile)) := by
  rw [getPercentile, percentileExclusive_eq (sortUnstable_ne_nil hne)]
  rfl

theorem exactPercentile_nonneg (hne : values ≠ []) (percentile : ℚ) :
    0 ≤ exactPercentile values percentile := by
  obtain ⟨value, -, hsample⟩ := exists_sample_eq (sortUnstable_ne_nil hne)
    ⌊clampedPosition (sortUnstable values) percentile⌋₊
  calc
    (0 : ℚ) ≤ value.toNat := Nat.cast_nonneg _
    _ = sample (sortUnstable values) _ := hsample.symm
    _ ≤ exactPercentile values percentile := le_linear (sample_mono (sortUnstable_pairwise values))
      (zero_le_one.trans (one_le_clampedPosition percentile))

theorem rounded_exactPercentile_mono (hne : values ≠ []) {percentile percentile' : ℚ}
    (h : percentile ≤ percentile') :
    rounded (exactPercentile values percentile) ≤ rounded (exactPercentile values percentile') :=
  rounded_mono (exactPercentile_nonneg hne percentile)
    (linear_clampedPosition_mono (sortUnstable_pairwise values) h)

/-- A percentile lies between two values of the list, the ones next to its position. -/
theorem getMinValue_le (hne : values ≠ []) (percentile : ℚ) :
    getMinValue values ≤ rounded (exactPercentile values percentile) := by
  obtain ⟨least, hleast⟩ := Option.ne_none_iff_exists'.mp (mt List.min?_eq_none_iff.mp hne)
  obtain ⟨value, hvalue, hsample⟩ := exists_sample_eq (sortUnstable_ne_nil hne)
    ⌊clampedPosition (sortUnstable values) percentile⌋₊
  have hbelow : (value.toNat : ℚ) ≤ exactPercentile values percentile := by
    rw [← hsample]
    exact le_linear (sample_mono (sortUnstable_pairwise values))
      (zero_le_one.trans (one_le_clampedPosition percentile))
  have hle : least ≤ value := (List.min?_eq_some_iff.mp hleast).2 value (mem_sortUnstable.mp hvalue)
  rw [getMinValue, hleast, Option.getD_some]
  calc
    least ≤ value := hle
    _ = rounded value.toNat := (rounded_toNat value).symm
    _ ≤ rounded (exactPercentile values percentile) := rounded_mono (Nat.cast_nonneg _) hbelow

theorem le_getMaxValue (hne : values ≠ []) (percentile : ℚ) :
    rounded (exactPercentile values percentile) ≤ getMaxValue values := by
  obtain ⟨greatest, hgreatest⟩ := Option.ne_none_iff_exists'.mp (mt List.max?_eq_none_iff.mp hne)
  obtain ⟨value, hvalue, hsample⟩ := exists_sample_eq (sortUnstable_ne_nil hne)
    ⌈clampedPosition (sortUnstable values) percentile⌉₊
  have habove : exactPercentile values percentile ≤ value.toNat := by
    rw [← hsample]
    exact linear_le (sample_mono (sortUnstable_pairwise values)) _
  have hle : value ≤ greatest :=
    (List.max?_eq_some_iff.mp hgreatest).2 value (mem_sortUnstable.mp hvalue)
  rw [getMaxValue, hgreatest, Option.getD_some]
  calc
    rounded (exactPercentile values percentile) ≤ rounded value.toNat :=
      rounded_mono (exactPercentile_nonneg hne percentile) habove
    _ = value := rounded_toNat value
    _ ≤ greatest := hle

theorem percentiles_nil : Percentiles.new [] = .ok ⟨0, 0, 0⟩ := by
  rw [Percentiles.new, getPercentile_nil, getPercentile_nil, getPercentile_nil]
  rfl

theorem percentiles_eq (hne : values ≠ []) :
    Percentiles.new values = .ok
      ⟨rounded (exactPercentile values 50), rounded (exactPercentile values 75),
        rounded (exactPercentile values 90)⟩ := by
  rw [Percentiles.new, getPercentile_eq hne, getPercentile_eq hne, getPercentile_eq hne]
  rfl

theorem exists_percentiles (values : List UInt64) :
    ∃ percentiles, Percentiles.new values = .ok percentiles := by
  by_cases hne : values = []
  · rw [hne]
    exact ⟨_, percentiles_nil⟩
  · exact ⟨_, percentiles_eq hne⟩

end Values

/-- No percentile of a list makes the code panic; percentiles do not fall as the percentage grows,
do not depend on the order of the list, and lie between its least and its greatest value.  Those of
an empty list are 0. -/
theorem percentiles_ordered (values : List UInt64) :
    (∀ percentile : ℚ, ∃ found,
      percentileExclusive (sortUnstable values) percentile = .ok found) ∧
    (∀ percentile percentile' : ℚ, percentile ≤ percentile' → ∀ found found',
      percentileExclusive (sortUnstable values) percentile = .ok (some found) →
      percentileExclusive (sortUnstable values) percentile' = .ok (some found') →
      found ≤ found') ∧
    (∀ percentile percentile' : ℕ, percentile ≤ percentile' → ∃ value value',
      getPercentile values percentile = .ok value ∧
      getPercentile values percentile' = .ok value' ∧ value ≤ value') ∧
    (∀ values', values.Perm values' → ∀ percentile,
      getPercentile values percentile = getPercentile values' percentile) ∧
    ∃ percentiles, Percentiles.new values = .ok percentiles ∧
      (values ≠ [] →
        getMinValue values ≤ percentiles.percentile50 ∧
        percentiles.percentile50 ≤ percentiles.percentile75 ∧
        percentiles.percentile75 ≤ percentiles.percentile90 ∧
        percentiles.percentile90 ≤ getMaxValue values) ∧
      (values = [] → percentiles = ⟨0, 0, 0⟩) := by
  by_cases hempty : values = []
  · subst hempty
    refine ⟨fun _ ↦ ⟨_, rfl⟩, ?_, ?_, ?_, ⟨_, percentiles_nil, fun h ↦ absurd rfl h, fun _ ↦ rfl⟩⟩
    · intro percentile percentile' _ found found' hfound _
      cases hfound
    · intro percentile percentile' _
      exact ⟨0, 0, getPercentile_nil _, getPercentile_nil _, UInt64.le_refl 0⟩
    · intro values' hperm percentile
      rw [hperm.nil_eq]
  · have hsorted := sortUnstable_ne_nil hempty
    refine ⟨fun percentile ↦ ⟨_, percentileExclusive_eq hsorted percentile⟩, ?_, ?_, ?_,
      ⟨_, percentiles_eq hempty, fun _ ↦ ⟨?_, ?_, ?_, ?_⟩, fun h ↦ absurd h hempty⟩⟩
    · intro percentile percentile' hle found found' hfound hfound'
      rw [percentileExclusive_eq hsorted] at hfound hfound'
      cases hfound
      cases hfound'
      exact linear_clampedPosition_mono (sortUnstable_pairwise values) hle
    · intro percentile percentile' hle
      exact ⟨_, _, getPercentile_eq hempty _, getPercentile_eq hempty _,
        rounded_exactPercentile_mono hempty (by exact_mod_cast hle)⟩
    · intro values' hperm percentile
      rw [getPercentile, getPercentile, sortUnstable_perm hperm]
    · exact getMinValue_le hempty 50
    · exact rounded_exactPercentile_mono hempty (by norm_num)
    · exact rounded_exactPercentile_mono hempty (by norm_num)
    · exact le_getMaxValue hempty 90

end MayastorExtensions.CallHome
