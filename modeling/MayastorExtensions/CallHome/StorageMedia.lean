import Mathlib.Algebra.BigOperators.Ring.List
import Mathlib.Data.UInt
import MayastorExtensions.CallHome.BlockDevices
import MayastorExtensions.Library.Table

/-!
# Storage media

The report counts the storage devices of the cluster and their capacity, in total and by type
(`StorageMedia::new` of `collector/report_models.rs`).  The types are filled by one traversal of the
devices and the totals by another.  All sums are taken modulo 2^64.
-/

namespace MayastorExtensions.CallHome

/-- A vector, whose length always fits into a `usize`. -/
abbrev Vec (α : Type) := { items : List α // items.length < 2 ^ 64 }

/-- Count and capacity of a disk type. -/
structure DiskTypeInfo where
  count : UInt64 := 0
  capacityInBytes : UInt64 := 0
  deriving DecidableEq, Repr

structure StorageMedia where
  count : UInt64
  totalCapacityInBytes : UInt64
  diskTypes : Table String DiskTypeInfo

def BYTES_PER_SECTOR : UInt64 := 512

/-- The type of a device. -/
def BlockDevice.diskType (device : BlockDevice) : String := getDiskType (some device) none

/-- A device added to the figures of its type. -/
def DiskTypeInfo.addDevice (device : BlockDevice) (info : DiskTypeInfo) : DiskTypeInfo where
  count := info.count + 1
  capacityInBytes := info.capacityInBytes + device.size * BYTES_PER_SECTOR

def StorageMedia.new (disks : Vec BlockDevice) : StorageMedia where
  count := .ofNat disks.1.length
  totalCapacityInBytes := (disks.1.map BlockDevice.size).sum * BYTES_PER_SECTOR
  diskTypes := Table.tally BlockDevice.diskType {} DiskTypeInfo.addDevice disks.1

/-! ## Figures of a group of devices -/

/-- Count and capacity of a group of devices. -/
def groupInfo (devices : List BlockDevice) : DiskTypeInfo where
  count := .ofNat devices.length
  capacityInBytes := (devices.map BlockDevice.size).sum * BYTES_PER_SECTOR

theorem sum_ones {α : Type} (items : List α) :
    (items.map fun _ ↦ (1 : UInt64)).sum = .ofNat items.length := by
  induction items with
  | nil => rfl
  | cons item items ih =>
    rw [List.map_cons, List.sum_cons, ih, List.length_cons, UInt64.ofNat_add, add_comm]
    rfl

theorem sum_capacities (devices : List BlockDevice) :
    (devices.map fun device ↦ device.size * BYTES_PER_SECTOR).sum =
      (devices.map BlockDevice.size).sum * BYTES_PER_SECTOR :=
  List.sum_map_mul_right _ _ _

/-- The devices of a group, added one after another. -/
theorem changes_addDevice (info : DiskTypeInfo) (devices : List BlockDevice) :
    Table.changes DiskTypeInfo.addDevice info devices =
      ⟨info.count + (groupInfo devices).count,
        info.capacityInBytes + (groupInfo devices).capacityInBytes⟩ := by
  simp only [groupInfo, ← sum_ones devices, ← sum_capacities]
  induction devices generalizing info with
  | nil => simp [Table.changes]
  | cons device devices ih =>
    rw [Table.changes, List.foldl_cons, ← Table.changes, ih]
    simp [DiskTypeInfo.addDevice, add_assoc]

/-- The devices of a type. -/
def devicesOf (disks : List BlockDevice) (diskType : String) : List BlockDevice :=
  disks.filter fun device ↦ device.diskType = diskType

/-- The report has a type exactly if there is a device of it, with the figures of these devices. -/
theorem get?_diskTypes (disks : Vec BlockDevice) (diskType : String) :
    (StorageMedia.new disks).diskTypes.get? diskType =
      if devicesOf disks.1 diskType = [] then none
      else some (groupInfo (devicesOf disks.1 diskType)) := by
  have hnone :
      (∀ device ∈ disks.1, device.diskType ≠ diskType) ↔ devicesOf disks.1 diskType = [] := by
    simp [devicesOf, List.filter_eq_nil_iff]
  have hchanges := changes_addDevice {} (devicesOf disks.1 diskType)
  simp only [zero_add] at hchanges
  rw [StorageMedia.new, Table.get?_tally]
  simp only [hnone]
  rw [← devicesOf, hchanges]

theorem mem_diskTypes_iff {disks : Vec BlockDevice} {diskType : String} {info : DiskTypeInfo} :
    (diskType, info) ∈ (StorageMedia.new disks).diskTypes.entries ↔
      devicesOf disks.1 diskType ≠ [] ∧ info = groupInfo (devicesOf disks.1 diskType) := by
  rw [Table.mem_entries_iff, get?_diskTypes]
  by_cases hnone : devicesOf disks.1 diskType = []
  · simp [hnone]
  · simp [hnone, eq_comm]

theorem count_groupInfo_ne_zero {disks : Vec BlockDevice} {diskType : String}
    (h : devicesOf disks.1 diskType ≠ []) :
    (groupInfo (devicesOf disks.1 diskType)).count ≠ 0 := by
  have hlength : (devicesOf disks.1 diskType).length < 2 ^ 64 :=
    lt_of_le_of_lt (List.length_filter_le _ _) disks.2
  have hpos := List.length_pos_iff.mpr h
  intro hzero
  have hnat := congrArg UInt64.toNat hzero
  rw [groupInfo, UInt64.toNat_ofNat_of_lt' hlength] at hnat
  simp at hnat
  exact h hnat

theorem addDevice_comm (device device' : BlockDevice) (info : DiskTypeInfo) :
    DiskTypeInfo.addDevice device (DiskTypeInfo.addDevice device' info) =
      DiskTypeInfo.addDevice device' (DiskTypeInfo.addDevice device info) := by
  simp [DiskTypeInfo.addDevice, add_right_comm]

/-! ## Conservation -/

/-- Count and capacity of all media are the sums over the types, modulo 2^64; every device counts
for exactly one type, no type is empty, and the order of the devices does not matter. -/
theorem storageMedia_conserved (disks : Vec BlockDevice) :
    (StorageMedia.new disks).count =
      ((StorageMedia.new disks).diskTypes.entries.map fun entry ↦ entry.2.count).sum ∧
    (StorageMedia.new disks).totalCapacityInBytes =
      ((StorageMedia.new disks).diskTypes.entries.map fun entry ↦ entry.2.capacityInBytes).sum ∧
    (StorageMedia.new disks).totalCapacityInBytes = 512 * (disks.1.map BlockDevice.size).sum ∧
    (∀ device ∈ disks.1, ∃! diskType, device ∈ devicesOf disks.1 diskType ∧
      ∃ info, (diskType, info) ∈ (StorageMedia.new disks).diskTypes.entries) ∧
    (∀ entry ∈ (StorageMedia.new disks).diskTypes.entries,
      entry.2 = groupInfo (devicesOf disks.1 entry.1) ∧ entry.2.count ≠ 0) ∧
    ∀ disks' : Vec BlockDevice, disks.1.Perm disks'.1 →
      (StorageMedia.new disks).count = (StorageMedia.new disks').count ∧
      (StorageMedia.new disks).totalCapacityInBytes =
        (StorageMedia.new disks').totalCapacityInBytes ∧
      (StorageMedia.new disks).diskTypes.entries.Perm
        (StorageMedia.new disks').diskTypes.entries := by
  refine ⟨?_, ?_, mul_comm _ _, ?_, ?_, ?_⟩
  · calc
      (StorageMedia.new disks).count = (disks.1.map fun _ ↦ (1 : UInt64)).sum :=
        (sum_ones disks.1).symm
      _ = _ := (Table.sum_tally BlockDevice.diskType _ DiskTypeInfo.addDevice
        DiskTypeInfo.count _ rfl (fun _ _ ↦ rfl) disks.1).symm
  · calc
      (StorageMedia.new disks).totalCapacityInBytes =
          (disks.1.map fun device ↦ device.size * BYTES_PER_SECTOR).sum :=
        (sum_capacities disks.1).symm
      _ = _ := (Table.sum_tally BlockDevice.diskType _ DiskTypeInfo.addDevice
        DiskTypeInfo.capacityInBytes _ rfl (fun _ _ ↦ rfl) disks.1).symm
  · intro device hdevice
    have hmem : device ∈ devicesOf disks.1 device.diskType := by simp [devicesOf, hdevice]
    refine ⟨device.diskType, ⟨hmem, _, mem_diskTypes_iff.mpr ⟨List.ne_nil_of_mem hmem, rfl⟩⟩, ?_⟩
    rintro diskType ⟨hother, -⟩
    have htype := (List.mem_filter.mp hother).2
    exact (of_decide_eq_true htype).symm
  · rintro ⟨diskType, info⟩ hentry
    obtain ⟨hsome, rfl⟩ := mem_diskTypes_iff.mp hentry
    exact ⟨rfl, count_groupInfo_ne_zero hsome⟩
  · intro disks' hperm
    refine ⟨?_, ?_, Table.entries_perm fun diskType ↦ ?_⟩
    · simp only [StorageMedia.new, hperm.length_eq]
    · simp only [StorageMedia.new, (hperm.map BlockDevice.size).sum_eq]
    · exact Table.get?_tally_perm _ _ _ addDevice_comm hperm diskType

end MayastorExtensions.CallHome
