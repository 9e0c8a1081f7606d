import Mathlib.Algebra.Order.BigOperators.Group.List
import Mathlib.Algebra.Order.Group.Nat
import Mathlib.Data.Finset.Card
import MayastorExtensions.CallHome.StorageMedia

/-!
# Disks that pools are built on

The report counts the disks under the pools twice: for every node (`StorageNodes::new`) and for
every disk type (`MayastorManagedDisks::new`), both in `collector/report_models.rs`.  Each loop
remembers the disks it has counted on a node, but under different keys.  The first uses the label of
a partition.  The second searches the devices of the node for a name that contains this label.
-/

namespace MayastorExtensions.CallHome

/-! ## The loops -/

namespace Openapi

structure Replica where
  pool : String
  size : UInt64
  deriving DecidableEq, Repr

structure PoolSpec where
  id : String
  node : String
  disks : List String
  deriving DecidableEq, Repr

structure PoolState where
  node : String
  disks : List String
  capacity : UInt64
  deriving DecidableEq, Repr

structure Pool where
  spec : Option PoolSpec
  state : Option PoolState
  deriving DecidableEq, Repr

end Openapi

/-- The devices of every node. -/
abbrev NodeDisks := Table String (List BlockDevice)

/-- The disks that were counted on every node. -/
abbrev CountedDisks := Table String (Finset String)

/-- The set of a node before an insertion, which decides whether the insertion is news. -/
def CountedDisks.on (counted : CountedDisks) (node : String) : Finset String :=
  (counted.get? node).getD ∅

def CountedDisks.mark (counted : CountedDisks) (node disk : String) : CountedDisks :=
  counted.update node ∅ (insert disk)

structure PoolInfo where
  replicas : UInt64
  replicasCapacityInBytes : UInt64
  deriving DecidableEq, Repr

def PoolInfo.new (poolId : String) (replicas : List Openapi.Replica) : PoolInfo :=
  let poolReplicas := replicas.filter fun replica ↦ replica.pool = poolId
  { replicas := .ofNat poolReplicas.length
    replicasCapacityInBytes := (poolReplicas.map Openapi.Replica.size).sum }

structure NodeInfo where
  pools : List PoolInfo := []
  mayastorManagedDisksCount : UInt64 := 0
  deriving DecidableEq, Repr

def NodeInfo.pushPool (poolInfo : PoolInfo) (info : NodeInfo) : NodeInfo :=
  { info with pools := info.pools ++ [poolInfo] }

def NodeInfo.countDisk (info : NodeInfo) : NodeInfo :=
  { info with mayastorManagedDisksCount := info.mayastorManagedDisksCount + 1 }

/-- The nodes of the report, and the disks that were counted. -/
structure StorageNodes where
  nodes : Table String NodeInfo := .empty
  countedNodeDisks : CountedDisks := .empty

/-- What `StorageNodes` tells disks apart by: the label of a partition, else the device name. -/
def BlockDevice.labelKey (bdev : BlockDevice) : String :=
  (bdev.partition.map Partition.name).getD bdev.devname

def StorageNodes.addDisk (disks : List BlockDevice) (node : String) (storageNodes : StorageNodes)
    (poolDisk : String) : StorageNodes :=
  match getBdev disks poolDisk with
  | none => storageNodes
  | some bdev =>
    { nodes :=
        if bdev.labelKey ∈ storageNodes.countedNodeDisks.on node then storageNodes.nodes
        else storageNodes.nodes.update node {} NodeInfo.countDisk
      countedNodeDisks := storageNodes.countedNodeDisks.mark node bdev.labelKey }

def StorageNodes.addPool (replicas : List Openapi.Replica) (nodeDisks : NodeDisks)
    (storageNodes : StorageNodes) (poolSpec : Openapi.PoolSpec) : StorageNodes :=
  let storageNodes :=
    { storageNodes with
      nodes := storageNodes.nodes.update poolSpec.node {}
        (NodeInfo.pushPool (PoolInfo.new poolSpec.id replicas)) }
  match nodeDisks.get? poolSpec.node with
  | some disks => poolSpec.disks.foldl (StorageNodes.addDisk disks poolSpec.node) storageNodes
  | none => storageNodes

def StorageNodes.new (replicas : List Openapi.Replica) (pools : List Openapi.Pool)
    (nodeDisks : NodeDisks) : StorageNodes :=
  (pools.filterMap Openapi.Pool.spec).foldl (StorageNodes.addPool replicas nodeDisks) {}

/-- The disk types of the report, and the disks that were counted. -/
structure MayastorManagedDisks where
  diskTypes : Table String DiskTypeInfo := .empty
  countedNodeDisks : CountedDisks := .empty

/-- The device that `MayastorManagedDisks` counts for a device: for a partition, the first device of
the node whose name contains the label. -/
def BlockDevice.parentBdev (disks : List BlockDevice) (bdev : BlockDevice) : BlockDevice :=
  (bdev.partition.bind fun parent ↦
    disks.find? fun bd ↦ parent.name.toList <:+: bd.devname.toList).getD bdev

/-- Capacity always, the count only for a disk that was not counted before. -/
def DiskTypeInfo.addPool (capacity : UInt64) (fresh : Bool) (info : DiskTypeInfo) :
    DiskTypeInfo where
  count := if fresh then info.count + 1 else info.count
  capacityInBytes := info.capacityInBytes + capacity

def MayastorManagedDisks.addPool (nodeDisks : NodeDisks) (mayastorDisks : MayastorManagedDisks)
    (poolState : Openapi.PoolState) : MayastorManagedDisks :=
  match nodeDisks.get? poolState.node with
  | none => mayastorDisks
  | some disks =>
    match poolState.disks.head? with
    | none => mayastorDisks
    | some poolDisk =>
      match getBdev disks poolDisk with
      | some bdev =>
        let parent := bdev.parentBdev disks
        let fresh := parent.devname ∉ mayastorDisks.countedNodeDisks.on poolState.node
        { diskTypes := mayastorDisks.diskTypes.update parent.diskType {}
            (DiskTypeInfo.addPool poolState.capacity fresh)
          countedNodeDisks := mayastorDisks.countedNodeDisks.mark poolState.node parent.devname }
      | none =>
        match getScheme poolDisk with
        | some scheme =>
          { mayastorDisks with
            diskTypes := mayastorDisks.diskTypes.update (getDiskType none (some scheme)) {}
              (DiskTypeInfo.addPool poolState.capacity true) }
        | none => mayastorDisks

def MayastorManagedDisks.new (pools : List Openapi.Pool) (nodeDisks : NodeDisks) :
    MayastorManagedDisks :=
  (pools.filterMap Openapi.Pool.state).foldl (MayastorManagedDisks.addPool nodeDisks) {}

/-! ## What has been counted

Both loops are followed by the set of the pairs of node and key that they have counted so far.
-/

/-- The remembered disks are those of the pairs. -/
def CountedDisks.Tracks (counted : CountedDisks) (pairs : Finset (String × String)) : Prop :=
  ∀ node disk, disk ∈ counted.on node ↔ (node, disk) ∈ pairs

theorem CountedDisks.Tracks.mark {counted : CountedDisks} {pairs : Finset (String × String)}
    (h : counted.Tracks pairs) (node disk : String) :
    (counted.mark node disk).Tracks (insert (node, disk) pairs) := by
  intro other key
  rw [CountedDisks.on, CountedDisks.mark, Table.get?_update, Finset.mem_insert, ← h other key]
  by_cases hnode : other = node
  · subst hnode
    simp [CountedDisks.on]
  · simp [hnode, CountedDisks.on]

/-- The pairs of one node. -/
def pairsOn (pairs : Finset (String × String)) (node : String) : Finset (String × String) :=
  pairs.filter fun pair ↦ pair.1 = node

theorem card_pairsOn_insert {pairs : Finset (String × String)} {node disk : String}
    (h : (node, disk) ∉ pairs) (other : String) :
    (pairsOn (insert (node, disk) pairs) other).card =
      (pairsOn pairs other).card + if other = node then 1 else 0 := by
  rw [pairsOn, Finset.filter_insert]
  by_cases hnode : other = node
  · subst hnode
    rw [if_pos rfl, if_pos rfl,
      Finset.card_insert_of_notMem fun hmem ↦ h (Finset.mem_filter.mp hmem).1]
    rfl
  · rw [if_neg (Ne.symm hnode), if_neg hnode]
    rfl

theorem card_pairsOn_le (pairs : Finset (String × String)) (node : String) :
    (pairsOn pairs node).card ≤ pairs.card :=
  Finset.card_le_card (Finset.filter_subset _ _)

theorem toNat_add_one {count : UInt64} (h : count.toNat + 1 < 2 ^ 64) :
    (count + 1).toNat = count.toNat + 1 := by
  rw [UInt64.toNat_add]
  exact Nat.mod_eq_of_lt h

namespace StorageNodes

/-- The count of a node; a node without an entry has none. -/
def countOn (storageNodes : StorageNodes) (node : String) : ℕ :=
  ((storageNodes.nodes.get? node).getD {}).mayastorManagedDisksCount.toNat

def total (storageNodes : StorageNodes) : ℕ :=
  (storageNodes.nodes.entries.map fun entry ↦ entry.2.mayastorManagedDisksCount.toNat).sum

/-- The counts are the numbers of pairs. -/
structure Counts (storageNodes : StorageNodes) (pairs : Finset (String × String)) : Prop where
  tracks : storageNodes.countedNodeDisks.Tracks pairs
  countOn : ∀ node, storageNodes.countOn node = (pairsOn pairs node).card
  total : storageNodes.total = pairs.card

variable {storageNodes : StorageNodes} {pairs : Finset (String × String)}

theorem countOn_update (nodes : Table String NodeInfo) (counted : CountedDisks) (node : String)
    (change : NodeInfo → NodeInfo) (other : String) :
    countOn ⟨nodes.update node {} change, counted⟩ other =
      if other = node then
        (change ((nodes.get? node).getD {})).mayastorManagedDisksCount.toNat
      else countOn ⟨nodes, counted⟩ other := by
  simp only [countOn, Table.get?_update]
  split <;> rfl

/-- A further pool on a node changes no count. -/
theorem Counts.pushPool (h : storageNodes.Counts pairs) (node : String) (poolInfo : PoolInfo) :
    Counts { storageNodes with
      nodes := storageNodes.nodes.update node {} (NodeInfo.pushPool poolInfo) } pairs where
  tracks := h.tracks
  countOn other := by
    rw [countOn_update, ← h.countOn other]
    split
    · rename_i hother
      subst hother
      rfl
    · rfl
  total := by
    have hsum : ((storageNodes.nodes.update node {} (NodeInfo.pushPool poolInfo)).entries.map
        fun entry ↦ entry.2.mayastorManagedDisksCount.toNat).sum = storageNodes.total + 0 :=
      Table.sum_update (fun info ↦ info.mayastorManagedDisksCount.toNat) storageNodes.nodes node
        rfl (add_zero _).symm
    exact hsum.trans h.total

/-- A disk of a pool is counted if its key is new on the node. -/
theorem Counts.addDisk (h : storageNodes.Counts pairs) {disks : List BlockDevice} {node : String}
    {poolDisk : String} {bdev : BlockDevice} (hbdev : getBdev disks poolDisk = some bdev)
    (hroom : (insert (node, bdev.labelKey) pairs).card < 2 ^ 64) :
    (storageNodes.addDisk disks node poolDisk).Counts (insert (node, bdev.labelKey) pairs) := by
  have htracks := h.tracks.mark node bdev.labelKey
  rw [StorageNodes.addDisk, hbdev]
  by_cases hseen : (node, bdev.labelKey) ∈ pairs
  · simp only [(h.tracks node bdev.labelKey).mpr hseen, if_true]
    rw [Finset.insert_eq_of_mem hseen] at htracks ⊢
    exact ⟨htracks, h.countOn, h.total⟩
  · have hfresh : bdev.labelKey ∉ storageNodes.countedNodeDisks.on node := fun hmem ↦
      hseen ((h.tracks node bdev.labelKey).mp hmem)
    rw [Finset.card_insert_of_notMem hseen] at hroom
    have hcount : (NodeInfo.countDisk
        ((storageNodes.nodes.get? node).getD {})).mayastorManagedDisksCount.toNat =
          storageNodes.countOn node + 1 := by
      apply toNat_add_one
      change storageNodes.countOn node + 1 < 2 ^ 64
      rw [h.countOn node]
      have hle := card_pairsOn_le pairs node
      omega
    simp only [hfresh, if_false]
    refine ⟨htracks, fun other ↦ ?_, ?_⟩
    · rw [countOn_update, card_pairsOn_insert hseen, ← h.countOn other]
      split
      · rename_i hother
        subst hother
        exact hcount
      · rfl
    · rw [Finset.card_insert_of_notMem hseen, ← h.total]
      exact Table.sum_update (fun info ↦ info.mayastorManagedDisksCount.toNat)
        storageNodes.nodes node rfl hcount

end StorageNodes

namespace MayastorManagedDisks

def total (mayastorDisks : MayastorManagedDisks) : ℕ :=
  (mayastorDisks.diskTypes.entries.map fun entry ↦ entry.2.count.toNat).sum

/-- The counts of all types add up to the number of pairs. -/
structure Counts (mayastorDisks : MayastorManagedDisks) (pairs : Finset (String × String)) :
    Prop where
  tracks : mayastorDisks.countedNodeDisks.Tracks pairs
  total : mayastorDisks.total = pairs.card

variable {mayastorDisks : MayastorManagedDisks} {pairs : Finset (String × String)}

theorem toNat_count_le_total (mayastorDisks : MayastorManagedDisks) (diskType : String) :
    ((mayastorDisks.diskTypes.get? diskType).getD {}).count.toNat ≤ mayastorDisks.total := by
  cases hinfo : mayastorDisks.diskTypes.get? diskType with
  | none => exact Nat.zero_le _
  | some info =>
    apply List.single_le_sum fun _ _ ↦ Nat.zero_le _
    exact List.mem_map.mpr ⟨_, Table.mem_entries_iff.mpr hinfo, rfl⟩

theorem total_update (mayastorDisks : MayastorManagedDisks) (counted : CountedDisks) (amount : ℕ)
    {diskType : String} {change : DiskTypeInfo → DiskTypeInfo}
    (hchange : (change ((mayastorDisks.diskTypes.get? diskType).getD {})).count.toNat =
      ((mayastorDisks.diskTypes.get? diskType).getD {}).count.toNat + amount) :
    total ⟨mayastorDisks.diskTypes.update diskType {} change, counted⟩ =
      mayastorDisks.total + amount := by
  unfold total
  exact Table.sum_update (fun info : DiskTypeInfo ↦ info.count.toNat) mayastorDisks.diskTypes
    diskType rfl hchange

/-- The disk of a pool is counted if the device that is found for it is new on the node. -/
theorem Counts.addPool (h : mayastorDisks.Counts pairs) {nodeDisks : NodeDisks}
    {node poolDisk : String} {capacity : UInt64} {disks : List BlockDevice} {bdev : BlockDevice}
    (hdisks : nodeDisks.get? node = some disks) (hbdev : getBdev disks poolDisk = some bdev)
    (hroom : (insert (node, (bdev.parentBdev disks).devname) pairs).card < 2 ^ 64) :
    (mayastorDisks.addPool nodeDisks ⟨node, [poolDisk], capacity⟩).Counts
      (insert (node, (bdev.parentBdev disks).devname) pairs) := by
  have htracks := h.tracks.mark node (bdev.parentBdev disks).devname
  simp only [MayastorManagedDisks.addPool, hdisks, List.head?_cons, hbdev]
  refine ⟨htracks, ?_⟩
  by_cases hseen : (node, (bdev.parentBdev disks).devname) ∈ pairs
  · have hmem := (h.tracks node (bdev.parentBdev disks).devname).mpr hseen
    rw [Finset.insert_eq_of_mem hseen, ← h.total]
    apply mayastorDisks.total_update _ 0
    simp [DiskTypeInfo.addPool, hmem]
  · have hfresh : (bdev.parentBdev disks).devname ∉ mayastorDisks.countedNodeDisks.on node :=
      fun hmem ↦ hseen ((h.tracks node _).mp hmem)
    rw [Finset.card_insert_of_notMem hseen] at hroom ⊢
    rw [← h.total] at hroom ⊢
    apply mayastorDisks.total_update _ 1
    simp only [DiskTypeInfo.addPool, hfresh, not_false_eq_true, decide_true, if_true]
    apply toNat_add_one
    have hle := mayastorDisks.toNat_count_le_total (bdev.parentBdev disks).diskType
    omega

end MayastorManagedDisks

/-! ## Pools of one disk -/

/-- A pool with a spec and a state that name the same node and the same single disk, which resolves
to a device of the node. -/
structure SingleDiskPool (nodeDisks : NodeDisks) where
  id : String
  node : String
  disk : String
  capacity : UInt64
  disks : List BlockDevice
  bdev : BlockDevice
  listed : nodeDisks.get? node = some disks
  resolved : getBdev disks disk = some bdev

namespace SingleDiskPool

variable {nodeDisks : NodeDisks}

def toPool (pool : SingleDiskPool nodeDisks) : Openapi.Pool :=
  ⟨some ⟨pool.id, pool.node, [pool.disk]⟩, some ⟨pool.node, [pool.disk], pool.capacity⟩⟩

/-- The physical disk under a pool: the device itself, or the parent of a partition. -/
def physicalDisk (pool : SingleDiskPool nodeDisks) : String :=
  (pool.bdev.partition.map Partition.parent).getD pool.bdev.devname

def labelKey (pool : SingleDiskPool nodeDisks) : String := pool.bdev.labelKey

/-- The device that is found for the pool by the label of its device. -/
def parentKey (pool : SingleDiskPool nodeDisks) : String :=
  (pool.bdev.parentBdev pool.disks).devname

end SingleDiskPool

/-- The pairs of node and key under some pools. -/
def disksUnder {nodeDisks : NodeDisks} (key : SingleDiskPool nodeDisks → String)
    (pools : List (SingleDiskPool nodeDisks)) : Finset (String × String) :=
  (pools.map fun pool ↦ (pool.node, key pool)).toFinset

/-- What one item adds to the pairs, all items add one after another. -/
theorem foldl_counts {σ α : Type} {step : σ → α → σ} {pair : α → String × String}
    {Counts : σ → Finset (String × String) → Prop}
    (hstep : ∀ state pairs item, Counts state pairs →
      (insert (pair item) pairs).card < 2 ^ 64 →
        Counts (step state item) (insert (pair item) pairs))
    {items : List α} {state : σ} {pairs : Finset (String × String)} (h : Counts state pairs)
    (hroom : (pairs ∪ (items.map pair).toFinset).card < 2 ^ 64) :
    Counts (items.foldl step state) (pairs ∪ (items.map pair).toFinset) := by
  induction items generalizing state pairs with
  | nil => simpa using h
  | cons item items ih =>
    have hpairs : pairs ∪ ((item :: items).map pair).toFinset =
        insert (pair item) pairs ∪ (items.map pair).toFinset := by
      rw [List.map_cons, List.toFinset_cons, Finset.union_insert, Finset.insert_union]
    rw [hpairs] at hroom ⊢
    refine ih (hstep state pairs item h ?_) hroom
    exact lt_of_le_of_lt (Finset.card_le_card Finset.subset_union_left) hroom

section Pools

variable {nodeDisks : NodeDisks}

theorem card_disksUnder_lt (key : SingleDiskPool nodeDisks → String)
    (pools : Vec (SingleDiskPool nodeDisks)) : (disksUnder key pools.1).card < 2 ^ 64 := by
  refine lt_of_le_of_lt (List.toFinset_card_le _) ?_
  rw [List.length_map]
  exact pools.2

/-- Per node, `StorageNodes` counts the distinct labels. -/
theorem storageNodes_counts (replicas : List Openapi.Replica)
    (pools : Vec (SingleDiskPool nodeDisks)) :
    (StorageNodes.new replicas (pools.1.map SingleDiskPool.toPool) nodeDisks).Counts
      (disksUnder SingleDiskPool.labelKey pools.1) := by
  have hempty : StorageNodes.Counts {} ∅ :=
    ⟨fun _ _ ↦ by simp [CountedDisks.on], fun _ ↦ rfl, rfl⟩
  have hroom := card_disksUnder_lt SingleDiskPool.labelKey pools
  rw [← Finset.empty_union (disksUnder _ _)] at hroom ⊢
  have hspecs : (pools.1.map SingleDiskPool.toPool).filterMap Openapi.Pool.spec =
      pools.1.map fun pool ↦ ⟨pool.id, pool.node, [pool.disk]⟩ := by
    rw [List.filterMap_map]
    exact congrFun List.filterMap_eq_map' _
  rw [StorageNodes.new, hspecs, List.foldl_map]
  refine foldl_counts (fun storageNodes pairs pool h hpairs ↦ ?_) hempty hroom
  rw [StorageNodes.addPool, pool.listed]
  exact (h.pushPool pool.node (PoolInfo.new pool.id replicas)).addDisk pool.resolved hpairs

/-- Over all types, `MayastorManagedDisks` counts the distinct devices found by label. -/
theorem mayastorManagedDisks_counts (pools : Vec (SingleDiskPool nodeDisks)) :
    (MayastorManagedDisks.new (pools.1.map SingleDiskPool.toPool) nodeDisks).Counts
      (disksUnder SingleDiskPool.parentKey pools.1) := by
  have hempty : MayastorManagedDisks.Counts {} ∅ := ⟨fun _ _ ↦ by simp [CountedDisks.on], rfl⟩
  have hroom := card_disksUnder_lt SingleDiskPool.parentKey pools
  rw [← Finset.empty_union (disksUnder _ _)] at hroom ⊢
  have hstates : (pools.1.map SingleDiskPool.toPool).filterMap Openapi.Pool.state =
      pools.1.map fun pool ↦ ⟨pool.node, [pool.disk], pool.capacity⟩ := by
    rw [List.filterMap_map]
    exact congrFun List.filterMap_eq_map' _
  rw [MayastorManagedDisks.new, hstates, List.foldl_map]
  refine foldl_counts (fun mayastorDisks pairs pool h hpairs ↦ ?_) hempty hroom
  exact h.addPool pool.listed pool.resolved hpairs

/-- Every node is reported with the number of its physical disks under pools, and the counts of all
nodes and of all disk types have the same sum. -/
def ManagedDisksCounted (replicas : List Openapi.Replica)
    (pools : Vec (SingleDiskPool nodeDisks)) : Prop :=
  (∀ node, (StorageNodes.new replicas (pools.1.map SingleDiskPool.toPool) nodeDisks).countOn node =
    (pairsOn (disksUnder SingleDiskPool.physicalDisk pools.1) node).card) ∧
  (StorageNodes.new replicas (pools.1.map SingleDiskPool.toPool) nodeDisks).total =
    (MayastorManagedDisks.new (pools.1.map SingleDiskPool.toPool) nodeDisks).total

/-- The disks are counted once per physical disk exactly if every node has as many labels under its
pools as physical disks, and all nodes together as many labels as devices found by label. -/
theorem managedDisksCounted_iff (replicas : List Openapi.Replica)
    (pools : Vec (SingleDiskPool nodeDisks)) :
    ManagedDisksCounted replicas pools ↔
      (∀ node, (pairsOn (disksUnder SingleDiskPool.labelKey pools.1) node).card =
        (pairsOn (disksUnder SingleDiskPool.physicalDisk pools.1) node).card) ∧
      (disksUnder SingleDiskPool.labelKey pools.1).card =
        (disksUnder SingleDiskPool.parentKey pools.1).card := by
  have hnodes := storageNodes_counts replicas pools
  have htypes := mayastorManagedDisks_counts pools
  rw [ManagedDisksCounted, hnodes.total, htypes.total]
  simp only [hnodes.countOn]

end Pools

/-- Two disks with two partitions each, which are labelled after their disk. -/
def labelledDisks : List BlockDevice :=
  [sda, { sda with devname := "/dev/sdb" },
    { sda1 with partition := some ⟨"sda", "/dev/sda"⟩ },
    { sda1 with devname := "/dev/sda2", partition := some ⟨"sda", "/dev/sda"⟩ },
    { sda1 with devname := "/dev/sdb1", partition := some ⟨"sdb", "/dev/sdb"⟩ },
    { sda1 with devname := "/dev/sdb2", partition := some ⟨"sdb", "/dev/sdb"⟩ }]

def labelledNode : NodeDisks := ⟨[("node-1", labelledDisks)], by simp⟩

/-- A pool on a partition of one of them. -/
def labelledPool (devname label parent : String)
    (h : getBdev labelledDisks devname =
      some { sda1 with devname := devname, partition := some ⟨label, parent⟩ }) :
    SingleDiskPool labelledNode :=
  { id := "pool-" ++ devname, node := "node-1", disk := devname, capacity := 10,
    disks := labelledDisks,
    bdev := { sda1 with devname := devname, partition := some ⟨label, parent⟩ }, listed := rfl,
    resolved := h }

def labelledPools : Vec (SingleDiskPool labelledNode) :=
  ⟨[labelledPool "/dev/sda1" "sda" "/dev/sda" (by decide +kernel),
    labelledPool "/dev/sda2" "sda" "/dev/sda" (by decide +kernel),
    labelledPool "/dev/sdb1" "sdb" "/dev/sdb" (by decide +kernel),
    labelledPool "/dev/sdb2" "sdb" "/dev/sdb" (by decide +kernel)], by decide⟩

/-- Four pools on two disks. -/
theorem managedDisksCounted_labelled : ManagedDisksCounted [] labelledPools := by
  rw [managedDisksCounted_iff]
  refine ⟨fun node ↦ ?_, by decide +kernel⟩
  have hlabels : disksUnder SingleDiskPool.labelKey labelledPools.1 =
      {("node-1", "sda"), ("node-1", "sdb")} := by decide +kernel
  have hphysical : disksUnder SingleDiskPool.physicalDisk labelledPools.1 =
      {("node-1", "/dev/sda"), ("node-1", "/dev/sdb")} := by decide +kernel
  rw [hlabels, hphysical]
  by_cases hnode : node = "node-1"
  · rw [hnode]
    decide +kernel
  · simp [pairsOn, Finset.filter_insert, Finset.filter_singleton, Ne.symm hnode]

/-- Two disks, each with one partition that has no label. -/
def unlabelledDisks : List BlockDevice :=
  [sda, { sda with devname := "/dev/sdb" },
    { sda1 with partition := some ⟨"", "/dev/sda"⟩ },
    { sda1 with devname := "/dev/sdb1", partition := some ⟨"", "/dev/sdb"⟩ }]

def unlabelledNode : NodeDisks := ⟨[("node-1", unlabelledDisks)], by simp⟩

/-- Pools on both partitions. -/
def partitionPools : Vec (SingleDiskPool unlabelledNode) :=
  ⟨[{ id := "pool-1", node := "node-1", disk := "/dev/sda1", capacity := 10,
      disks := unlabelledDisks, bdev := { sda1 with partition := some ⟨"", "/dev/sda"⟩ },
      listed := rfl, resolved := by decide +kernel },
    { id := "pool-2", node := "node-1", disk := "/dev/sdb1", capacity := 10,
      disks := unlabelledDisks,
      bdev := { sda1 with devname := "/dev/sdb1", partition := some ⟨"", "/dev/sdb"⟩ },
      listed := rfl, resolved := by decide +kernel }], by decide⟩

/-- Partitions without a label count as one disk, although they lie on two. -/
theorem not_managedDisksCounted_unlabelled : ¬ ManagedDisksCounted [] partitionPools := by
  rintro ⟨hnodes, -⟩
  have hnode := hnodes "node-1"
  rw [(storageNodes_counts [] partitionPools).countOn] at hnode
  exact absurd hnode (by decide +kernel)

end MayastorExtensions.CallHome
