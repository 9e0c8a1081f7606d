import Mathlib.Data.List.Infix

/-!
# Block devices and pool disks

Pools name their disks as paths or URIs, and the control plane lists the block devices of every
node.  The report resolves the one to the other and sorts the devices into types; all of it is in
`collector/report_models.rs`.  The search takes the first device that has the path among its links
or somewhere in its name.
-/

namespace MayastorExtensions.CallHome

/-! ## Devices -/

structure Partition where
  name : String
  parent : String
  deriving DecidableEq, Repr

/-- The parts of a block device that the report reads. -/
structure BlockDevice where
  devname : String
  devpath : String
  devtype : String
  devlinks : List String
  size : UInt64
  connectionType : String
  isRotational : Option Bool
  partition : Option Partition
  deriving DecidableEq, Repr

/-- The pieces of a text between the occurrences of `://`. -/
def schemePieces : List Char → List (List Char)
  | [] => [[]]
  | ':' :: '/' :: '/' :: rest => [] :: schemePieces rest
  | head :: rest =>
    match schemePieces rest with
    | [] => [[head]]
    | piece :: pieces => (head :: piece) :: pieces

/-- `str::split("://")`. -/
def splitScheme (text : String) : List String :=
  (schemePieces text.toList).map String.ofList

/-- The path of an entry, without protocol and without what follows a question mark. -/
def getDevicePath (entry : String) : String :=
  let withoutProtocol := (splitScheme entry).getLast?.getD entry
  String.ofList (withoutProtocol.toList.takeWhile (· ≠ '?'))

def getScheme (disk : String) : Option String :=
  (splitScheme disk).head?

/-- The test of `get_bdev` on one device. -/
def BlockDevice.matchesPath (device : BlockDevice) (devicePath : String) : Bool :=
  devicePath ∈ device.devlinks || devicePath.toList <:+: device.devname.toList

def getBdev (disks : List BlockDevice) (poolDisk : String) : Option BlockDevice :=
  disks.find? fun device ↦ device.matchesPath (getDevicePath poolDisk)

/-- The type by the prefixes of the device name, in the order of the source. -/
def devnameTypes : List (String × String) :=
  [("/dev/sr", "Optical Drive"), ("/dev/fd", "Floppy Disk"), ("/dev/md", "RAID Device"),
    ("/dev/dm", "Device Mapper"), ("/dev/mapper", "Device Mapper"), ("/dev/xvd", "Amazon Disk"),
    ("/dev/mmcblk", "Memory Card"), ("/dev/mtd", "Embedded Storage"),
    ("/dev/tape", "Magnetic Tape"), ("/dev/loop", "Loop Device"),
    ("/dev/nbd", "Network Block Device"), ("/dev/ram", "RAM Disk")]

/-- The type by connection and rotation. -/
def connectionDiskType (connectionType : String) (isRotational : Option Bool) : String :=
  match connectionType, isRotational with
  | "usb", _ => "USB Disk"
  | "nvme", _ => "NVMe SSD"
  | "scsi", some true => "HDD"
  | "scsi", some false => "SSD"
  | "ata", some true => "HDD"
  | "ata", some false => "SSD"
  | _, _ => "Unknown"

def getDiskType (deviceOption : Option BlockDevice) (schemeOption : Option String) : String :=
  match deviceOption with
  | some device =>
    match devnameTypes.find? fun entry ↦ entry.1.toList <+: device.devname.toList with
    | some (_, diskType) => diskType
    | none => connectionDiskType device.connectionType device.isRotational
  | none =>
    match schemeOption with
    | some "pcie" => "NVMe SSD"
    | _ => "Unknown"

/-! ## The path of a pool disk -/

/-- The separator between scheme and path. -/
def schemeMark : List Char := [':', '/', '/']

theorem schemePieces_ne_nil (text : List Char) : schemePieces text ≠ [] := by
  fun_cases schemePieces text <;> simp

/-- A text that does not start with the separator gives its first character to the first piece. -/
theorem schemePieces_cons {head : Char} {rest : List Char}
    (h : ¬ schemeMark <+: head :: rest) :
    ∃ piece pieces, schemePieces rest = piece :: pieces ∧
      schemePieces (head :: rest) = (head :: piece) :: pieces := by
  obtain ⟨piece, pieces, hpieces⟩ := List.exists_cons_of_ne_nil (schemePieces_ne_nil rest)
  refine ⟨piece, pieces, hpieces, ?_⟩
  rw [schemePieces.eq_3 _ _ (by rintro later rfl rfl; exact h ⟨later, rfl⟩), hpieces]

theorem schemePieces_of_absent {text : List Char} (h : ¬ schemeMark <:+: text) :
    schemePieces text = [text] := by
  induction text with
  | nil => rfl
  | cons head rest ih =>
    have hrest : ¬ schemeMark <:+: rest := fun hoccurs ↦
      h (hoccurs.trans (List.suffix_cons _ _).isInfix)
    obtain ⟨piece, pieces, hpieces, hcons⟩ :=
      schemePieces_cons fun hstart : schemeMark <+: head :: rest ↦ h hstart.isInfix
    rw [ih hrest] at hpieces
    cases hpieces
    exact hcons

/-- An occurrence at the start of a text that goes on with another character than a slash lies in
the text. -/
theorem schemeMark_start {text rest : List Char} {next : Char} (hne : text ≠ [])
    (hnext : next ≠ '/') (h : schemeMark <+: text ++ next :: rest) : schemeMark <+: text := by
  match text, hne with
  | [first], _ =>
    simp only [schemeMark, List.cons_append, List.nil_append, List.cons_prefix_cons] at h
    exact absurd h.2.1.symm hnext
  | [first, second], _ =>
    simp only [schemeMark, List.cons_append, List.nil_append, List.cons_prefix_cons] at h
    exact absurd h.2.2.1.symm hnext
  | first :: second :: third :: later, _ =>
    simp only [schemeMark, List.cons_append, List.cons_prefix_cons] at h ⊢
    exact ⟨h.1, h.2.1, h.2.2.1, List.nil_prefix⟩

/-- Occurrences of the separator do not overlap, so the pieces on both sides of one are found
independently. -/
theorem schemePieces_append (front back : List Char) :
    schemePieces (front ++ schemeMark ++ back) = schemePieces front ++ schemePieces back := by
  fun_induction schemePieces front with
  | case1 => rfl
  | case2 rest ih => exact congrArg ([] :: ·) ih
  | case3 head rest hmark hnil ih => exact absurd hnil (schemePieces_ne_nil rest)
  | case4 head rest hmark piece pieces hpieces ih =>
    have hstart : ¬ schemeMark <+: head :: (rest ++ schemeMark ++ back) := by
      intro hstart
      rw [List.append_assoc] at hstart
      obtain ⟨later, hlater⟩ : schemeMark <+: head :: rest :=
        schemeMark_start (List.cons_ne_nil _ _) (by decide) hstart
      cases hlater
      exact hmark _ rfl rfl
    obtain ⟨first, others, hothers, hcons⟩ := schemePieces_cons hstart
    rw [ih, hpieces, List.cons_append] at hothers
    cases hothers
    exact hcons

/-- A question mark keeps the text in front of it and the first piece behind it together. -/
theorem schemePieces_question {path : List Char} (h : ¬ schemeMark <:+: path) (rest : List Char) :
    ∃ piece pieces, schemePieces rest = piece :: pieces ∧
      schemePieces (path ++ '?' :: rest) = (path ++ '?' :: piece) :: pieces := by
  induction path with
  | nil =>
    apply schemePieces_cons
    rintro ⟨later, hlater⟩
    cases hlater
  | cons head path ih =>
    have hpath : ¬ schemeMark <:+: path := fun hoccurs ↦
      h (hoccurs.trans (List.suffix_cons _ _).isInfix)
    obtain ⟨piece, pieces, hpieces, hquestion⟩ := ih hpath
    have hstart : ¬ schemeMark <+: head :: (path ++ '?' :: rest) := fun hstart ↦
      h (schemeMark_start (List.cons_ne_nil _ _) (by decide) hstart).isInfix
    obtain ⟨first, others, hothers, hcons⟩ := schemePieces_cons hstart
    rw [hquestion] at hothers
    cases hothers
    exact ⟨piece, pieces, hpieces, hcons⟩

/-- What follows the last separator. -/
def lastPiece (text : List Char) : List Char :=
  (schemePieces text).getLast (schemePieces_ne_nil text)

theorem getDevicePath_eq (entry : String) :
    getDevicePath entry = String.ofList ((lastPiece entry.toList).takeWhile (· ≠ '?')) := by
  simp [getDevicePath, splitScheme, lastPiece,
    List.getLast?_eq_some_getLast (schemePieces_ne_nil entry.toList)]

theorem lastPiece_append (front back : List Char) :
    lastPiece (front ++ schemeMark ++ back) = lastPiece back := by
  simp only [lastPiece, schemePieces_append]
  exact List.getLast_append_of_ne_nil _ (schemePieces_ne_nil back)

theorem lastPiece_of_absent {text : List Char} (h : ¬ schemeMark <:+: text) :
    lastPiece text = text := by
  simp [lastPiece, schemePieces_of_absent h]

theorem lastPiece_question {path : List Char} (h : ¬ schemeMark <:+: path) (rest : List Char) :
    lastPiece (path ++ '?' :: rest) =
      if schemeMark <:+: rest then lastPiece rest else path ++ '?' :: rest := by
  obtain ⟨piece, pieces, hpieces, hquestion⟩ := schemePieces_question h rest
  split
  · rename_i hrest
    obtain ⟨front, back, hrest⟩ := hrest
    have hne : pieces ≠ [] := by
      rintro rfl
      have hlength := congrArg List.length hpieces
      rw [← hrest, schemePieces_append, List.length_append] at hlength
      have hfront := List.length_pos_iff.mpr (schemePieces_ne_nil front)
      have hback := List.length_pos_iff.mpr (schemePieces_ne_nil back)
      simp only [List.length_singleton] at hlength
      omega
    simp only [lastPiece, hquestion, hpieces]
    rw [List.getLast_cons hne, List.getLast_cons hne]
  · rename_i hrest
    rw [schemePieces_of_absent hrest] at hpieces
    cases hpieces
    simp [lastPiece, hquestion]

/-- A disk of a pool: a path, with or without a scheme in front and parameters behind. -/
structure PoolDisk where
  scheme : Option String
  path : String
  parameters : Option String
  plain : ¬ schemeMark <:+: path.toList ∧ '?' ∉ path.toList

namespace PoolDisk

def text (disk : PoolDisk) : String :=
  (match disk.scheme with
    | some scheme => scheme ++ "://"
    | none => "") ++ disk.path ++
  match disk.parameters with
    | some parameters => "?" ++ parameters
    | none => ""

/-- What is looked up for a disk: its path, unless the parameters hold a separator of their own. -/
def searched (disk : PoolDisk) : String :=
  match disk.parameters with
  | some parameters =>
    if schemeMark <:+: parameters.toList then
      String.ofList ((lastPiece parameters.toList).takeWhile (· ≠ '?'))
    else disk.path
  | none => disk.path

theorem takeWhile_path (disk : PoolDisk) (rest : List Char) :
    (disk.path.toList ++ rest).takeWhile (· ≠ '?') =
      disk.path.toList ++ rest.takeWhile (· ≠ '?') := by
  apply List.takeWhile_append_of_pos
  intro character hcharacter
  rw [decide_eq_true_iff]
  rintro rfl
  exact disk.plain.2 hcharacter

/-- The scheme in front of the path is of no concern. -/
theorem lastPiece_text (disk : PoolDisk) :
    lastPiece disk.text.toList = lastPiece (disk.path.toList ++
      match disk.parameters with
      | some parameters => '?' :: parameters.toList
      | none => []) := by
  have hparameters : (match disk.parameters with
      | some parameters => "?" ++ parameters
      | none => "").toList = match disk.parameters with
      | some parameters => '?' :: parameters.toList
      | none => [] := by
    cases disk.parameters <;> simp
  rw [text, String.toList_append, String.toList_append, hparameters]
  cases disk.scheme with
  | none => simp
  | some scheme =>
    rw [String.toList_append, List.append_assoc, List.append_assoc, ← List.append_assoc]
    exact lastPiece_append _ _

theorem getDevicePath_text (disk : PoolDisk) : getDevicePath disk.text = disk.searched := by
  rw [getDevicePath_eq, lastPiece_text, searched]
  cases disk.parameters with
  | none =>
    have hpath := takeWhile_path disk []
    rw [List.append_nil, List.takeWhile_nil, List.append_nil] at hpath
    rw [List.append_nil, lastPiece_of_absent disk.plain.1, hpath, String.ofList_toList]
  | some parameters =>
    dsimp only
    rw [lastPiece_question disk.plain.1]
    split
    · rfl
    · rw [takeWhile_path, List.takeWhile_cons_of_neg (by simp), List.append_nil,
        String.ofList_toList]

end PoolDisk

/-! ## The device of a pool disk -/

/-- The device goes by the path. -/
def BlockDevice.Owns (device : BlockDevice) (path : String) : Prop :=
  device.devname = path ∨ path ∈ device.devlinks

instance (device : BlockDevice) (path : String) : Decidable (device.Owns path) :=
  inferInstanceAs (Decidable (device.devname = path ∨ path ∈ device.devlinks))

/-- The first match does not stand behind any other match. -/
theorem find?_at_or_before {α : Type} {test : α → Bool} {front back : List α} {item found : α}
    (hfind : (front ++ item :: back).find? test = some found) (htest : test item) :
    found = item ∨ found ∈ front := by
  rw [List.find?_append] at hfind
  cases hfront : front.find? test with
  | none =>
    rw [hfront, Option.none_or, List.find?_cons_of_pos htest] at hfind
    exact .inl (Option.some.inj hfind).symm
  | some first =>
    rw [hfront, Option.some_or] at hfind
    obtain rfl := Option.some.inj hfind
    exact .inr (List.mem_of_find?_eq_some hfront)

/-- A first match has a property exactly if some match has it, and every match without it comes
after one that has it. -/
theorem exists_find?_and_iff {α : Type} {test : α → Bool} {property : α → Prop} {items : List α} :
    (∃ item, items.find? test = some item ∧ property item) ↔
      (∃ item ∈ items, test item ∧ property item) ∧
      ∀ front item back, items = front ++ item :: back → test item →
        property item ∨ ∃ earlier ∈ front, test earlier ∧ property earlier := by
  constructor
  · intro ⟨found, hfind, hproperty⟩
    have htest := List.find?_some hfind
    refine ⟨⟨found, List.mem_of_find?_eq_some hfind, htest, hproperty⟩, ?_⟩
    intro front item back hsplit hitem
    rw [hsplit] at hfind
    rcases find?_at_or_before hfind hitem with rfl | hfront
    · exact .inl hproperty
    · exact .inr ⟨found, hfront, htest, hproperty⟩
  · intro ⟨⟨item, hitem, htest, _⟩, hfirst⟩
    obtain ⟨found, hfind⟩ :=
      Option.isSome_iff_exists.mp (List.find?_isSome.mpr ⟨item, hitem, htest⟩)
    obtain ⟨hmatch, front, back, hsplit, hfront⟩ := List.find?_eq_some_iff_append.mp hfind
    refine ⟨found, hfind, ?_⟩
    rcases hfirst front found back hsplit hmatch with hproperty | ⟨earlier, hearlier, hmatch', -⟩
    · exact hproperty
    · -- nothing in front of the first match passes the test
      have hfails := hfront earlier hearlier
      rw [hmatch'] at hfails
      cases hfails

theorem BlockDevice.matchesPath_iff {device : BlockDevice} {path : String} :
    device.matchesPath path ↔ path ∈ device.devlinks ∨ path.toList <:+: device.devname.toList := by
  simp [BlockDevice.matchesPath]

theorem BlockDevice.Owns.matchesPath {device : BlockDevice} {path : String}
    (h : device.Owns path) : device.matchesPath path := by
  rw [BlockDevice.matchesPath_iff]
  rcases h with rfl | hlink
  · exact .inr List.infix_rfl
  · exact .inl hlink

namespace PoolDisk

/-- The parameters hold a separator of their own. -/
def Nested (disk : PoolDisk) : Prop :=
  ∃ parameters ∈ disk.parameters, schemeMark <:+: parameters.toList

theorem searched_of_not_nested {disk : PoolDisk} (h : ¬ disk.Nested) :
    disk.searched = disk.path := by
  rw [searched]
  split
  · rename_i parameters hparameters
    rw [if_neg fun hmark ↦ h ⟨parameters, hparameters, hmark⟩]
  · rfl

/-- No device with a name that merely contains the path stands in front of all owners of the path.
For a disk with a separator in its parameters, the text behind the last of these leads to an owner,
and no other device that it leads to stands in front of all such owners. -/
def Unambiguous (disk : PoolDisk) (devices : List BlockDevice) : Prop :=
  (¬ disk.Nested → ∀ front device back, devices = front ++ device :: back →
    disk.path.toList <:+: device.devname.toList →
    device.Owns disk.path ∨ ∃ earlier ∈ front, earlier.Owns disk.path) ∧
  (disk.Nested →
    (∃ owner ∈ devices, owner.matchesPath disk.searched ∧ owner.Owns disk.path) ∧
    ∀ front device back, devices = front ++ device :: back → device.matchesPath disk.searched →
      device.Owns disk.path ∨
        ∃ earlier ∈ front, earlier.matchesPath disk.searched ∧ earlier.Owns disk.path)

end PoolDisk

/-- A disk whose path belongs to some device of the list resolves to an owner of the path exactly
if no other device gets in the way. -/
theorem getBdev_owner_iff (devices : List BlockDevice) (disk : PoolDisk)
    (howner : ∃ device ∈ devices, device.Owns disk.path) :
    (∃ device, getBdev devices disk.text = some device ∧ device.Owns disk.path) ↔
      disk.Unambiguous devices := by
  rw [getBdev, PoolDisk.getDevicePath_text, exists_find?_and_iff]
  by_cases hnested : disk.Nested
  · simp only [PoolDisk.Unambiguous, hnested, not_true_eq_false, false_implies, true_and,
      true_implies]
  · obtain ⟨owner, howner, howns⟩ := howner
    simp only [PoolDisk.Unambiguous, hnested, not_false_eq_true, true_implies, false_implies,
      and_true, PoolDisk.searched_of_not_nested hnested]
    constructor
    · rintro ⟨-, hfirst⟩ front device back hsplit hname
      have hmatch := BlockDevice.matchesPath_iff.mpr (.inr hname : _ ∈ device.devlinks ∨ _)
      rcases hfirst front device back hsplit hmatch with hdevice | ⟨earlier, hearlier, -, hfound⟩
      · exact .inl hdevice
      · exact .inr ⟨earlier, hearlier, hfound⟩
    · intro hfirst
      refine ⟨⟨owner, howner, howns.matchesPath, howns⟩, ?_⟩
      intro front device back hsplit hmatch
      rcases BlockDevice.matchesPath_iff.mp hmatch with hlink | hname
      · exact .inl (.inr hlink)
      · rcases hfirst front device back hsplit hname with hdevice | ⟨earlier, hearlier, hfound⟩
        · exact .inl hdevice
        · exact .inr ⟨earlier, hearlier, hfound.matchesPath, hfound⟩

/-- A disk and its first partition. -/
def sda : BlockDevice :=
  { devname := "/dev/sda", devpath := "/devices/pci0/sda", devtype := "disk",
    devlinks := ["/dev/disk/by-id/a"], size := 100, connectionType := "scsi",
    isRotational := some false, partition := none }

def sda1 : BlockDevice :=
  { sda with
    devname := "/dev/sda1"
    devpath := "/devices/pci0/sda/sda1"
    devtype := "partition"
    devlinks := []
    partition := some ⟨"data", "/dev/sda"⟩ }

def sdaDisk : PoolDisk := ⟨some "aio", "/dev/sda", some "uuid=1", by decide +kernel⟩

theorem sdaDisk_unambiguous : sdaDisk.Unambiguous [sda, sda1] :=
  (getBdev_owner_iff [sda, sda1] sdaDisk ⟨sda, by simp, by decide⟩).mp
    ⟨sda, by decide +kernel, by decide⟩

/-- With the partition listed first, the disk resolves to the partition. -/
theorem getBdev_not_owner :
    (∃ device ∈ [sda1, sda], device.Owns sdaDisk.path) ∧
      ¬ ∃ device, getBdev [sda1, sda] sdaDisk.text = some device ∧ device.Owns sdaDisk.path := by
  refine ⟨⟨sda, by simp, by decide⟩, ?_⟩
  rintro ⟨device, hfound, howns⟩
  have hpartition : getBdev [sda1, sda] sdaDisk.text = some sda1 := by decide +kernel
  rw [hpartition] at hfound
  cases hfound
  exact absurd howns (by decide)

end MayastorExtensions.CallHome
