/-
Whether a planned partition was created
(`platform/linux/storage/provisioning/PartitionTableOperations`).

After a crash the table tells whether the partition of a plan is there, whether its place is
still free, or that something else happened to the table.

* `regionsOverlap_iff` — the test on unsigned numbers is the one on intervals;
* `partition_creation_justified` — what an answer says about the table.
-/
import Mathlib
import BtrfsBackup.PreparationManager
import BtrfsBackup.StorageTopology

namespace BtrfsBackup.Provisioning

/-- `regions_overlap`. -/
def regionsOverlap (leftStart leftSize rightStart rightSize : UInt64) : Bool :=
  if leftSize = 0 ∨ rightSize = 0 then false
  else if leftStart ≤ rightStart then rightStart - leftStart < leftSize
  else leftStart - rightStart < rightSize

/-- The sectors of a region. -/
def sectors (start size : UInt64) : Set Nat := Set.Ico start.toNat (start.toNat + size.toNat)

theorem regionsOverlap_iff {leftStart leftSize rightStart rightSize} :
    regionsOverlap leftStart leftSize rightStart rightSize ↔
      (sectors leftStart leftSize ∩ sectors rightStart rightSize).Nonempty := by
  rw [sectors, sectors, Set.Ico_inter_Ico, Set.nonempty_Ico, regionsOverlap]
  simp only [← UInt64.toNat_inj, UInt64.toNat_zero]
  split_ifs with hempty hle
  · simp only [false_iff]
    omega
  · rw [decide_eq_true_iff, UInt64.lt_iff_toNat_lt, UInt64.toNat_sub_of_le _ _ hle]
    rw [UInt64.le_iff_toNat_le] at hle
    omega
  · rw [decide_eq_true_iff, UInt64.lt_iff_toNat_lt, UInt64.toNat_sub_of_le _ _
      (UInt64.le_of_lt (UInt64.not_le.mp hle))]
    rw [UInt64.le_iff_toNat_le] at hle
    omega

/-- An `fdisk_partition`, with what it has. -/
structure FdiskPartition where
  partno : Option UInt64
  start : Option UInt64
  size : Option UInt64

/-- `PlannedPartitionGeometry`, and what the loop reads of an entry of the table. -/
structure PartitionEntry where
  number : UInt64
  start : UInt64
  count : UInt64
  deriving DecidableEq

/-- The entries of a table; the loop passes over a partition without a number or a place. -/
def partitionEntries (table : List FdiskPartition) : List PartitionEntry :=
  table.filterMap fun partition => do
    return ⟨(← partition.partno) + 1, ← partition.start, ← partition.size⟩

/-- What `inspect_partition_creation` is asked. -/
structure CreationRequest where
  device : FsPath
  tableId : String
  sectorSize : UInt32
  freeStart : UInt64
  freeCount : UInt64
  geometry : PartitionEntry

/-- What it gets from the system. -/
structure CreationAnswers where
  /-- The partitions, once the device is open, locked and has the expected identity. -/
  partitions : Except Thrown (List FdiskPartition)
  freeSpaces : Except Thrown (List FdiskPartition)
  /-- `find_exact_partition`, in sectors of 512 bytes. -/
  findExactPartition : UInt64 → UInt64 → UInt64 → Except Thrown (Option String)
  released : Except Thrown Unit

namespace CreationRequest

open Preparation (PartitionCreationState)

variable (request : CreationRequest) (answers : CreationAnswers)

/-- An entry that is not the planned partition and is in its way. -/
def conflicts (entry : PartitionEntry) : Bool :=
  entry ≠ request.geometry ∧ (entry.number = request.geometry.number ∨
    regionsOverlap entry.start entry.count request.geometry.start request.geometry.count)

/-- One turn of the loop, on `exact_partition` and `conflict`. -/
def inspectEntry (flags : Bool × Bool) (entry : PartitionEntry) : Bool × Bool :=
  (flags.1 || entry = request.geometry, flags.2 || request.conflicts entry)

/-- `has_exact_free_region`. -/
def hasExactFreeRegion (regions : List FdiskPartition) : Bool :=
  regions.any fun region =>
    region.start = some request.freeStart ∧ region.size = some request.freeCount

/-- What the table says. -/
def classify (table : List FdiskPartition) : Except Thrown PartitionCreationState := do
  let (exact, conflict) := (partitionEntries table).foldl request.inspectEntry (false, false)
  if exact ∧ ¬ conflict then
    let ratio := (request.sectorSize / 512).toUInt64
    let { number, start, count } := request.geometry
    refuse (request.sectorSize % 512 ≠ 0 ∨ ratio = 0 ∨ start > (-1) / ratio ∨ count > (-1) / ratio)
      "partition table sector size is unsupported"
    match ← answers.findExactPartition number (start * ratio) (count * ratio) with
    | some partition => return .created partition
    | none => return .conflict
  else if conflict then return .conflict
  else if request.hasExactFreeRegion (← answers.freeSpaces) then return .notCreated
  else return .conflict

/-- `inspect_partition_creation`. -/
def inspect : Except Thrown PartitionCreationState := do
  let { device, tableId, sectorSize, freeStart, freeCount, geometry } := request
  refuse (!device.absolute ∨ device.lexicallyNormal ≠ device)
    "partition table device path is invalid"
  refuse (tableId = "" ∨ sectorSize = 0 ∨ freeCount = 0 ∨ freeStart > -1 - (freeCount - 1))
    "free-space partition request is incomplete"
  let freeEnd := freeStart + freeCount - 1
  refuse (geometry.number = 0 ∨ geometry.count = 0 ∨ geometry.start < freeStart ∨
      geometry.start > freeEnd ∨ geometry.count > freeEnd - geometry.start + 1)
    "planned partition geometry exceeds the selected free region"
  let result ← request.classify answers (← answers.partitions)
  answers.released
  return result

/-- The entry has another number and no sector of the planned partition. -/
def Apart (entry : PartitionEntry) : Prop :=
  entry.number ≠ request.geometry.number ∧ sectors entry.start entry.count ∩
    sectors request.geometry.start request.geometry.count = ∅

/-- What an answer says about the table. -/
def Justified : Except Thrown PartitionCreationState → Prop
  | .ok (.created _) => ∃ table, answers.partitions = .ok table ∧
      request.geometry ∈ partitionEntries table ∧
      ∀ entry ∈ partitionEntries table, entry ≠ request.geometry → request.Apart entry
  | .ok .notCreated => ∃ table, answers.partitions = .ok table ∧
      (∀ entry ∈ partitionEntries table, request.Apart entry) ∧
      ∃ regions, answers.freeSpaces = .ok regions ∧ ∃ region ∈ regions,
        region.start = some request.freeStart ∧ region.size = some request.freeCount
  | _ => True

variable {request answers}

theorem not_any_conflicts {entries : List PartitionEntry} : ¬ entries.any request.conflicts ↔
    ∀ entry ∈ entries, entry ≠ request.geometry → request.Apart entry := by
  simp only [List.any_eq_true, conflicts, decide_eq_true_eq, regionsOverlap_iff]
  push Not
  rfl

theorem foldl_inspectEntry (entries : List PartitionEntry) (flags : Bool × Bool) :
    entries.foldl request.inspectEntry flags =
      (flags.1 || request.geometry ∈ entries, flags.2 || entries.any request.conflicts) := by
  induction entries generalizing flags with
  | nil => simp
  | cons entry entries ih => simp [ih, inspectEntry, Bool.or_assoc, eq_comm]

theorem justified_classify {table} (htable : answers.partitions = .ok table) :
    request.Justified answers (request.classify answers table) := by
  simp only [classify, foldl_inspectEntry, Bool.false_or, decide_eq_true_eq]
  split_ifs with hexact hconflict
  · rcases refuse _ _ with _ | _
    · trivial
    · rcases answers.findExactPartition _ _ _ with _ | _ | partition
      · trivial
      · trivial
      · exact ⟨table, htable, hexact.1, not_any_conflicts.mp hexact.2⟩
  · trivial
  · -- the planned partition is not in the table either
    rw [not_and_not_right] at hexact
    rcases hregions : answers.freeSpaces with _ | regions
    · trivial
    · show request.Justified _ (if request.hasExactFreeRegion regions then _ else _)
      split_ifs with hfree
      · refine ⟨table, htable, fun entry hentry => ?_, regions, hregions, ?_⟩
        · refine not_any_conflicts.mp hconflict entry hentry ?_
          rintro rfl
          exact hconflict (hexact hentry)
        · simpa [hasExactFreeRegion] using hfree
      · trivial

/-- **An answer about the planned partition is right.** -/
theorem partition_creation_justified :
    (∀ leftStart leftSize rightStart rightSize,
      regionsOverlap leftStart leftSize rightStart rightSize ↔
        (sectors leftStart leftSize ∩ sectors rightStart rightSize).Nonempty) ∧
    ∀ request answers, Justified request answers (request.inspect answers) := by
  refine ⟨fun _ _ _ _ => regionsOverlap_iff, fun request answers => ?_⟩
  rcases hresult : request.inspect answers with _ | result
  · trivial
  · simp only [inspect, bind_eq_ok] at hresult
    obtain ⟨-, -, -, -, -, -, table, htable, state, hstate, -, -, hreturn⟩ := hresult
    rw [← hreturn]
    show request.Justified answers (.ok state)
    exact hstate ▸ justified_classify htable

end CreationRequest

end BtrfsBackup.Provisioning
