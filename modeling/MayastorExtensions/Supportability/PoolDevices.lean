import Mathlib.Data.List.TakeWhile
import MayastorExtensions.CallHome.BlockDevices
import MayastorExtensions.Supportability.Topology

/-!
# Devices of a pool in the support bundle

The support tool lists, for every pool, the block devices that the pool names as its disks
(`collect/resources/pool.rs`).  It compares the disks of the pool with the names of a device as they
stand, where the call-home report first takes scheme and parameters off a disk.
-/

namespace MayastorExtensions.Supportability

open CallHome (schemeMark getDevicePath lastPiece)

/-! ## Bare paths -/

/-- A disk without scheme and parameters. -/
def Bare (disk : String) : Prop :=
  ¬ schemeMark <:+: disk.toList ∧ '?' ∉ disk.toList

instance (disk : String) : Decidable (Bare disk) :=
  inferInstanceAs (Decidable (¬ schemeMark <:+: disk.toList ∧ '?' ∉ disk.toList))

theorem length_lastPiece_le (text : List Char) : (lastPiece text).length ≤ text.length := by
  induction hlength : text.length using Nat.strong_induction_on generalizing text with
  | _ length ih =>
    subst hlength
    by_cases hmark : schemeMark <:+: text
    · obtain ⟨front, back, rfl⟩ := hmark
      have hback : back.length < (front ++ schemeMark ++ back).length := by
        simp [schemeMark]
        omega
      rw [CallHome.lastPiece_append]
      exact (ih _ hback back rfl).trans hback.le
    · rw [CallHome.lastPiece_of_absent hmark]

/-- Taking scheme and parameters off changes exactly the disks that have some. -/
theorem getDevicePath_eq_self_iff (disk : String) : getDevicePath disk = disk ↔ Bare disk := by
  rw [CallHome.getDevicePath_eq]
  constructor
  · intro h
    have hlist : (lastPiece disk.toList).takeWhile (· ≠ '?') = disk.toList := by
      rw [← String.toList_ofList (l := (lastPiece disk.toList).takeWhile (· ≠ '?')), h]
    have hmark : ¬ schemeMark <:+: disk.toList := by
      rintro ⟨front, back, hsplit⟩
      have hshort : (lastPiece disk.toList).length ≤ back.length := by
        rw [← hsplit, CallHome.lastPiece_append]
        exact length_lastPiece_le back
      have hlong : disk.toList.length ≤ (lastPiece disk.toList).length := by
        conv_lhs => rw [← hlist]
        exact (List.takeWhile_sublist _).length_le
      have htotal := congrArg List.length hsplit
      simp [schemeMark] at htotal
      omega
    refine ⟨hmark, fun hquestion ↦ ?_⟩
    rw [← hlist] at hquestion
    simpa using List.mem_takeWhile_imp hquestion
  · rintro ⟨hmark, hquestion⟩
    have hall : disk.toList.takeWhile (· ≠ '?') = disk.toList := by
      rw [List.takeWhile_eq_self_iff]
      intro character hcharacter
      rw [decide_eq_true_iff]
      rintro rfl
      exact hquestion hcharacter
    rw [CallHome.lastPiece_of_absent hmark, hall, String.ofList_toList]

/-! ## The two matchers -/

/-- All names of a device. -/
def BlockDevice.names (device : BlockDevice) : List String :=
  device.devpath :: device.devname :: device.devlinks

/-- The support tool accepts a device exactly if the path of some disk is a name of the device. -/
def MatchersAgree (poolSpec : PoolSpec) (device : BlockDevice) : Prop :=
  isItPoolDevice poolSpec device ↔ ∃ disk ∈ poolSpec.disks, getDevicePath disk ∈ device.names

theorem isItPoolDevice_iff (poolSpec : PoolSpec) (device : BlockDevice) :
    isItPoolDevice poolSpec device ↔ ∃ disk ∈ poolSpec.disks, disk ∈ device.names := by
  simp [isItPoolDevice, BlockDevice.names]

/-- A bare disk of the pool names the device. -/
def BareDiskNames (poolSpec : PoolSpec) (device : BlockDevice) : Prop :=
  ∃ disk ∈ poolSpec.disks, Bare disk ∧ disk ∈ device.names

/-- The disks with scheme or parameters have nothing to do with the device, neither as they stand
nor by their paths. -/
def OthersApart (poolSpec : PoolSpec) (device : BlockDevice) : Prop :=
  ∀ disk ∈ poolSpec.disks, ¬ Bare disk → disk ∉ device.names ∧ getDevicePath disk ∉ device.names

theorem BareDiskNames.matchersAgree {poolSpec : PoolSpec} {device : BlockDevice}
    (h : BareDiskNames poolSpec device) : MatchersAgree poolSpec device := by
  obtain ⟨disk, hdisk, hbare, hname⟩ := h
  have haccepted : isItPoolDevice poolSpec device :=
    (isItPoolDevice_iff poolSpec device).mpr ⟨disk, hdisk, hname⟩
  rw [← (getDevicePath_eq_self_iff disk).mpr hbare] at hname
  exact ⟨fun _ ↦ ⟨disk, hdisk, hname⟩, fun _ ↦ haccepted⟩

theorem OthersApart.matchersAgree {poolSpec : PoolSpec} {device : BlockDevice}
    (h : OthersApart poolSpec device) : MatchersAgree poolSpec device := by
  rw [MatchersAgree, isItPoolDevice_iff]
  refine exists_congr fun disk ↦ and_congr_right fun hdisk ↦ ?_
  by_cases hbare : Bare disk
  · rw [(getDevicePath_eq_self_iff disk).mpr hbare]
  · obtain ⟨hstands, hpath⟩ := h disk hdisk hbare
    exact ⟨fun hname ↦ absurd hname hstands, fun hname ↦ absurd hname hpath⟩

/-- The matchers agree on a device that a bare disk names, and on one that the other disks have
nothing to do with.  On a device whose own names are bare they agree on no other. -/
theorem matchersAgree_others (poolSpec : PoolSpec) (device : BlockDevice) :
    (BareDiskNames poolSpec device ∨ OthersApart poolSpec device →
        MatchersAgree poolSpec device) ∧
      ((∀ name ∈ device.names, Bare name) → MatchersAgree poolSpec device →
        BareDiskNames poolSpec device ∨ OthersApart poolSpec device) := by
  constructor
  · rintro (hbare | hothers)
    · exact hbare.matchersAgree
    · exact hothers.matchersAgree
  · intro hnames hagree
    by_cases hbare : BareDiskNames poolSpec device
    · exact .inl hbare
    · right
      intro disk hdisk hother
      refine ⟨fun hstands ↦ hother (hnames disk hstands), fun hpath ↦ hbare ?_⟩
      -- the report finds the device by this path, so the support tool has found it as it stands
      obtain ⟨found, hfound, hname⟩ :=
        (isItPoolDevice_iff poolSpec device).mp (hagree.mpr ⟨disk, hdisk, hpath⟩)
      exact ⟨found, hfound, hnames found hname, hname⟩

/-- A disk given as a URI, on the node of its device. -/
def uriPool : PoolSpec := ⟨"node-1", ["aio:///dev/sda?uuid=1"]⟩

def sdaDevice : BlockDevice := ⟨"/dev/sda", "/devices/pci0/sda", ["/dev/disk/by-id/a"]⟩

theorem matchersAgree_others_sda :
    MatchersAgree ⟨"node-1", ["/dev/disk/by-id/a", "aio:///dev/sda"]⟩ sdaDevice ∧
      MatchersAgree ⟨"node-1", ["aio:///dev/sdb?uuid=1"]⟩ sdaDevice ∧
      ¬ MatchersAgree uriPool sdaDevice := by
  have hnamed : BareDiskNames ⟨"node-1", ["/dev/disk/by-id/a", "aio:///dev/sda"]⟩ sdaDevice :=
    ⟨"/dev/disk/by-id/a", List.mem_cons_self, by decide +kernel, by decide⟩
  have hothers : OthersApart ⟨"node-1", ["aio:///dev/sdb?uuid=1"]⟩ sdaDevice := by
    unfold OthersApart
    decide +kernel
  have hnames : ∀ name ∈ sdaDevice.names, Bare name := by decide +kernel
  have hbare : ¬ BareDiskNames uriPool sdaDevice := by
    unfold BareDiskNames
    decide +kernel
  have hapart : ¬ OthersApart uriPool sdaDevice := by
    unfold OthersApart
    decide +kernel
  refine ⟨(matchersAgree_others _ _).1 (.inl hnamed), (matchersAgree_others _ _).1 (.inr hothers),
    fun hagree ↦ ?_⟩
  exact ((matchersAgree_others _ _).2 hnames hagree).elim hbare hapart

/-- The disk is not recognised, although the bare path would be. -/
theorem not_matchersAgree_uri :
    ¬ MatchersAgree uriPool sdaDevice ∧ MatchersAgree ⟨"node-1", ["/dev/sda"]⟩ sdaDevice := by
  have hpath : getDevicePath "aio:///dev/sda?uuid=1" = "/dev/sda" := by decide +kernel
  have hbare : getDevicePath "/dev/sda" = "/dev/sda" := by decide +kernel
  constructor
  · intro hagree
    have haccepted := hagree.mpr ⟨_, List.mem_cons_self, by rw [hpath]; decide⟩
    exact absurd haccepted (by decide +kernel)
  · refine ⟨fun _ ↦ ⟨_, List.mem_cons_self, by rw [hbare]; decide⟩, fun _ ↦ by decide +kernel⟩

end MayastorExtensions.Supportability
