/-
Snapshots and snapshot inventories (`backup/model/SnapshotInventory`).

* `SnapshotUuid`, `ReceivedSnapshotUuid` — UUID texts in lower case, and
  `uuidMatches`, which never holds of an empty one;
* `parseSnapshotName` — a name is `<source>-<timestamp>` or
  `<source>-<timestamp>-<sequence>`;
* `keyLess` — oldest first: by timestamp, sequence and path, the order of
  `SnapshotInfo.key`;
* `listSnapshotInventoryAt` — the inventory of a directory.
-/
import BtrfsBackup.Core
import BtrfsBackup.RuntimeTime

namespace BtrfsBackup

open List

/-! ### UUIDs -/

/-- `normalized_uuid`. -/
def normalizedUuid (value : String) : String := String.ofList (value.toList.map Char.toLower)

variable {c : Char} {src : SourceId} {sequence : Nat} {s t : SnapshotInfo}

/-- An upper case letter becomes a lower case one. -/
theorem toLower_val (h : c.val ≥ 'A'.val ∧ c.val ≤ 'Z'.val) :
    c.toLower.val.toNat = c.val.toNat + 32 := by
  have hZ : 'Z'.val.toNat = 90 := rfl
  have hshift : ('a'.val - 'A'.val).toNat = 32 := rfl
  have h2 := UInt32.le_iff_toNat_le.mp h.2
  rw [Char.toLower, dif_pos h]
  simp only [UInt32.toNat_add]
  omega

theorem normalizedUuid_idem (value : String) :
    normalizedUuid (normalizedUuid value) = normalizedUuid value := by
  simp [normalizedUuid, Function.comp_def]

/-- `SnapshotUuid`: the UUID of a subvolume. -/
structure SnapshotUuid where
  value : String
  normalized : normalizedUuid value = value
  deriving DecidableEq

/-- `ReceivedSnapshotUuid`: the UUID a subvolume was received from. -/
structure ReceivedSnapshotUuid where
  value : String
  normalized : normalizedUuid value = value
  deriving DecidableEq

namespace SnapshotUuid

/-- The constructor of `SnapshotUuid`. -/
def ofString (value : String) : SnapshotUuid := ⟨normalizedUuid value, normalizedUuid_idem value⟩

/-- `SnapshotUuid::empty`. -/
def isEmpty (uuid : SnapshotUuid) : Bool := uuid.value == ""

/-- What `btrfs receive` records for a stream sent from this subvolume. -/
def toReceived (uuid : SnapshotUuid) : ReceivedSnapshotUuid := ⟨uuid.value, uuid.normalized⟩

end SnapshotUuid

namespace ReceivedSnapshotUuid

/-- The constructor of `ReceivedSnapshotUuid`. -/
def ofString (value : String) : ReceivedSnapshotUuid :=
  ⟨normalizedUuid value, normalizedUuid_idem value⟩

/-- `ReceivedSnapshotUuid::empty`. -/
def isEmpty (uuid : ReceivedSnapshotUuid) : Bool := uuid.value == ""

end ReceivedSnapshotUuid

/-- `uuid_matches`. -/
def uuidMatches (snapshot : SnapshotUuid) (received : ReceivedSnapshotUuid) : Bool :=
  !snapshot.isEmpty && !received.isEmpty && snapshot.value == received.value

theorem uuidMatches_iff {snap recv} :
    uuidMatches snap recv = true ↔ snap.isEmpty = false ∧ recv = snap.toReceived := by
  obtain ⟨s, hs⟩ := snap
  obtain ⟨r, hr⟩ := recv
  simp only [uuidMatches, SnapshotUuid.isEmpty, ReceivedSnapshotUuid.isEmpty,
    SnapshotUuid.toReceived, Bool.and_eq_true, Bool.not_eq_true', beq_eq_false_iff_ne, beq_iff_eq,
    ReceivedSnapshotUuid.mk.injEq, and_assoc]
  constructor
  · rintro ⟨h1, -, rfl⟩
    exact ⟨h1, rfl⟩
  · rintro ⟨h1, rfl⟩
    exact ⟨h1, h1, rfl⟩

/-- At most one UUID matches a received UUID. -/
theorem uuidMatches_unique {u v recv}
    (hu : uuidMatches u recv = true) (hv : uuidMatches v recv = true) : u = v := by
  have h := (uuidMatches_iff.mp hu).2.symm.trans (uuidMatches_iff.mp hv).2
  obtain ⟨u, _⟩ := u
  obtain ⟨v, _⟩ := v
  simp only [SnapshotUuid.toReceived, ReceivedSnapshotUuid.mk.injEq] at h
  subst h
  rfl

/-! ### Snapshots -/

inductive SnapshotSide where
  | local
  | remote
  deriving DecidableEq, Repr

/-- `SnapshotName`: what a snapshot's name says. -/
structure SnapshotName where
  sourceId : SourceId
  timestamp : RuntimeTimePoint
  sequence : Nat
  name : String
  deriving DecidableEq

/-- `SnapshotMetadata`: what Btrfs says about a directory. -/
structure SnapshotMetadata where
  isSubvolume : Bool
  readonly : Bool
  uuid : SnapshotUuid
  receivedUuid : ReceivedSnapshotUuid
  deriving DecidableEq

/-- `SnapshotInfo`: an entry of an inventory. -/
structure SnapshotInfo where
  side : SnapshotSide
  sourceId : SourceId
  name : String
  timestamp : RuntimeTimePoint
  sequence : Nat
  path : FsPath
  readonly : Bool
  uuid : SnapshotUuid
  receivedUuid : ReceivedSnapshotUuid
  deriving DecidableEq

/-- Is `stem` the start of `text`? -/
def startsWith (text stem : String) : Bool := stem.toList.isPrefixOf text.toList

/-- The sequence number after the timestamp: none at all, or `-` and two
digits that are not both zero. -/
def parseSequence (text : List Char) : Option Nat :=
  if text.length = 18 then some 0
  else if text[18]? != some '-' then none
  else
    match decimal (substr text 19 2) with
    | none => none
    | some sequence => if sequence = 0 then none else some sequence

/-- `parse_snapshot_name`. -/
def parseSnapshotName (name : String) (sourceId : SourceId) : Option SnapshotName :=
  let stem := sourceId.value ++ "-"
  let rest := name.toList.drop stem.length
  if !startsWith name stem then none
  else if rest.length ≠ 18 ∧ rest.length ≠ 21 then none
  else do
    let timestamp ← parseUtcTimestamp (String.ofList (substr rest 0 18))
    let sequence ← parseSequence rest
    some ⟨sourceId, timestamp, sequence, name⟩

variable {name : String} {parsed : SnapshotName}

/-- A parsed name names the source it was parsed for. -/
theorem parseSnapshotName_eq_some (h : parseSnapshotName name src = some parsed) :
    parsed.name = name ∧ parsed.sourceId = src ∧ startsWith name (src.value ++ "-") = true := by
  simp only [parseSnapshotName] at h
  split_ifs at h with h1 h2
  simp only [Option.bind_eq_bind, Option.bind_eq_some_iff, Option.some.injEq] at h
  obtain ⟨timestamp, -, sequence, -, rfl⟩ := h
  exact ⟨rfl, rfl, by simpa using h1⟩

/-! ### Snapshot names as file names -/

theorem isRunIdChar_of_isDigit (h : c.isDigit = true) : isRunIdChar c = true :=
  isRunIdChar_of_isIdentifierChar (isIdentifierChar_of_isDigit h)

variable {text : List Char}

theorem isDigit_of_decimal {n : Nat} (h : decimal text = some n) :
    ∀ c ∈ text, c.isDigit = true := by
  rw [decimal] at h
  split_ifs at h with h1
  exact all_eq_true.mp h1

/-- A compact timestamp consists of digits, dashes and the letters `T` and `Z`. -/
theorem chars_of_parseUtcTimestamp {time}
    (hlen : text.length = 18) (h : parseUtcTimestamp (String.ofList text) = some time) :
    ∀ c ∈ text, isRunIdChar c = true := by
  match text, hlen with
  | [y0, y1, y2, y3, c4, m0, m1, c7, d0, d1, c10, h0, h1, i0, i1, s0, s1, c17], _ =>
    simp [parseUtcTimestamp, substr, Option.bind_eq_some_iff] at h
    obtain ⟨⟨⟨⟨rfl, rfl⟩, rfl⟩, rfl⟩, year, hyear, month, hmonth, day, hday, hour, hhour,
      minute, hminute, second, hsecond, -⟩ := h
    have digits {field : List Char} {n : Nat} (hn : decimal field = some n) :
        ∀ c ∈ field, isRunIdChar c = true :=
      fun c hc => isRunIdChar_of_isDigit (isDigit_of_decimal hn c hc)
    -- the numbers and the punctuation between them, from left to right
    show ∀ c ∈ [y0, y1, y2, y3] ++ '-' :: ([m0, m1] ++ '-' :: ([d0, d1] ++ 'T' ::
      ([h0, h1] ++ ([i0, i1] ++ ([s0, s1] ++ ['Z']))))), isRunIdChar c = true
    refine forall_mem_append.mpr ⟨digits hyear, forall_mem_cons.mpr ⟨by decide, ?_⟩⟩
    refine forall_mem_append.mpr ⟨digits hmonth, forall_mem_cons.mpr ⟨by decide, ?_⟩⟩
    refine forall_mem_append.mpr ⟨digits hday, forall_mem_cons.mpr ⟨by decide, ?_⟩⟩
    refine forall_mem_append.mpr ⟨digits hhour, ?_⟩
    refine forall_mem_append.mpr ⟨digits hminute, ?_⟩
    exact forall_mem_append.mpr ⟨digits hsecond, forall_mem_singleton.mpr (by decide)⟩

/-- A sequence number is a dash and two digits. -/
theorem drop_of_parseSequence (hlen : text.length = 21) (h : parseSequence text = some sequence) :
    ∃ c19 c20 n, text.drop 18 = ['-', c19, c20] ∧ decimal [c19, c20] = some n := by
  match text, hlen with
  | [_, _, _, _, _, _, _, _, _, _, _, _, _, _, _, _, _, _, c18, c19, c20], _ =>
    simp only [parseSequence, substr] at h
    split_ifs at h with h1 h2
    · simp at h1
    · rcases hd : decimal [c19, c20] with _ | n
      · simp [hd] at h
      · refine ⟨c19, c20, n, ?_, hd⟩
        simpa using h2

theorem chars_of_parseSequence (hlen : text.length = 18 ∨ text.length = 21)
    (h : parseSequence text = some sequence) : ∀ c ∈ text.drop 18, isRunIdChar c = true := by
  rcases hlen with hlen | hlen
  · intro c hc
    rw [drop_eq_nil_of_le hlen.le] at hc
    cases hc
  · obtain ⟨c19, c20, n, hdrop, hn⟩ := drop_of_parseSequence hlen h
    rw [hdrop]
    intro c hc
    rcases mem_cons.mp hc with rfl | hc
    · decide
    · exact isRunIdChar_of_isDigit (isDigit_of_decimal hn c hc)

/-- A name that parses is the source, a dash, a timestamp and perhaps a sequence
number. -/
theorem parseSnapshotName_parts (h : parseSnapshotName name src = some parsed) :
    ∃ rest timestamp sequence, name.toList = src.value.toList ++ '-' :: rest ∧
      (rest.length = 18 ∨ rest.length = 21) ∧
      parseUtcTimestamp (String.ofList (rest.take 18)) = some timestamp ∧
      parseSequence rest = some sequence := by
  simp only [parseSnapshotName] at h
  split_ifs at h with h1 h2
  simp only [Option.bind_eq_bind, Option.bind_eq_some_iff] at h
  obtain ⟨timestamp, htimestamp, sequence, hseq, -⟩ := h
  refine ⟨name.toList.drop (src.value ++ "-").length, timestamp, sequence, ?_, by omega,
    htimestamp, hseq⟩
  obtain ⟨tail, htail⟩ := List.isPrefixOf_iff_prefix.mp (show
    (src.value ++ "-").toList.isPrefixOf name.toList = true by simpa [startsWith] using h1)
  rw [← htail, ← String.length_toList, drop_left, String.toList_append]
  simp

/-- A name parses for one source only. -/
theorem parseSnapshotName_source_unique {a b : SourceId}
    (ha : (parseSnapshotName name a).isSome = true)
    (hb : (parseSnapshotName name b).isSome = true) :
    a = b := by
  -- the last character tells whether there is a sequence number, hence how long the rest is
  have shape {c : SourceId} (hc : (parseSnapshotName name c).isSome = true) :
      ∃ rest, name.toList = c.value.toList ++ '-' :: rest ∧
        rest.length = if name.toList.getLast? = some 'Z' then 18 else 21 := by
    obtain ⟨parsed, hparsed⟩ := Option.isSome_iff_exists.mp hc
    obtain ⟨rest, timestamp, sequence, hname, hlen, htime, hseq⟩ :=
      parseSnapshotName_parts hparsed
    refine ⟨rest, hname, ?_⟩
    have hlast : name.toList.getLast? = rest.getLast? := by
      cases rest with
      | nil => simp at hlen
      | cons c rest => simp [hname, getLast?_append, getLast?_cons]
    rcases hlen with h18 | h21
    · have hz : rest.getLast? = some 'Z' := by
        rw [take_of_length_le h18.le] at htime
        by_contra hne
        simp [parseUtcTimestamp, hne] at htime
      rw [hlast, if_pos hz, h18]
    · obtain ⟨c19, c20, n, hdrop, hn⟩ := drop_of_parseSequence h21 hseq
      have hdigit : rest.getLast? = some c20 := by
        rw [← take_append_drop 18 rest, getLast?_append, hdrop]
        rfl
      have hne : c20 ≠ 'Z' := by
        rintro rfl
        exact absurd (isDigit_of_decimal hn 'Z' (by simp)) (by decide)
      rw [hlast, hdigit, if_neg (by simpa using hne), h21]
  obtain ⟨resta, hnamea, hla⟩ := shape ha
  obtain ⟨restb, hnameb, hlb⟩ := shape hb
  have hvalue := (append_inj' (hnamea.symm.trans hnameb) (by simp [hla, hlb])).1
  obtain ⟨a, _⟩ := a
  obtain ⟨b, _⟩ := b
  obtain rfl : a = b := String.toList_inj.mp hvalue
  rfl

/-- A name that parses is a plain file name. -/
theorem parseSnapshotName_isPlain
    (h : parseSnapshotName name src = some parsed) : IsPlain name := by
  obtain ⟨rest, timestamp, sequence, hname, hlen, htimestamp, hseq⟩ :=
    parseSnapshotName_parts h
  have hhead : ∀ c ∈ rest.take 18, isRunIdChar c = true := by
    refine chars_of_parseUtcTimestamp ?_ htimestamp
    rw [length_take]
    omega
  have htail := chars_of_parseSequence hlen hseq
  have hid := src.valid
  rw [identifierOk] at hid
  split at hid
  · cases hid
  · next c cs hvalue =>
    simp only [Bool.and_eq_true, all_eq_true] at hid
    have hcons : name.toList = c :: (cs ++ '-' :: rest) := by
      rw [hname, hvalue, cons_append]
    refine isPlain_of_head hcons hid.1.1 ?_
    intro d hd
    rcases mem_append.mp hd with hd | hd
    · exact isRunIdChar_of_isIdentifierChar (hid.1.2 d hd)
    rcases mem_cons.mp hd with rfl | hd
    · decide
    rw [← take_append_drop 18 rest] at hd
    rcases mem_append.mp hd with hd | hd
    · exact hhead d hd
    · exact htail d hd

/-! ### Order -/

/-- Oldest first: by timestamp, then by sequence, then by path. -/
def keyLess (left right : SnapshotInfo) : Bool :=
  if left.timestamp ≠ right.timestamp then
    left.timestamp.nanoseconds < right.timestamp.nanoseconds
  else if left.sequence ≠ right.sequence then left.sequence < right.sequence
  else left.path.string < right.path.string

/-- `std::sort` with a strict comparison. -/
def sortBy (less : SnapshotInfo → SnapshotInfo → Bool) (snapshots : List SnapshotInfo) :
    List SnapshotInfo :=
  snapshots.insertionSort fun left right => less right left = false

theorem mem_sortBy {less snaps snap} : snap ∈ sortBy less snaps ↔ snap ∈ snaps :=
  (perm_insertionSort _ snaps).mem_iff

/-- What `keyLess` compares. -/
def SnapshotInfo.key (snapshot : SnapshotInfo) : Int ×ₗ ℕ ×ₗ String :=
  toLex (snapshot.timestamp.nanoseconds, toLex (snapshot.sequence, snapshot.path.string))

theorem keyLess_iff {left right} : keyLess left right = true ↔ left.key < right.key := by
  rw [SnapshotInfo.key, SnapshotInfo.key, Prod.Lex.toLex_lt_toLex, Prod.Lex.toLex_lt_toLex, keyLess]
  by_cases htime : left.timestamp = right.timestamp
  · by_cases hseq : left.sequence = right.sequence
    · simp [htime, hseq]
    · simp [htime, hseq]
  · have hne : left.timestamp.nanoseconds ≠ right.timestamp.nanoseconds :=
      fun h => htime (RuntimeTimePoint.ext_nanoseconds h)
    simp [htime, hne]

theorem keyLess_eq_false_iff {left right} : keyLess left right = false ↔ right.key ≤ left.key := by
  rw [← Bool.not_eq_true, keyLess_iff, not_lt]

/-- Snapshots of one key are at one path. -/
theorem SnapshotInfo.path_eq_of_key_eq (h : s.key = t.key) : s.path = t.path := by
  have hpath : s.path.string = t.path.string := congrArg (fun k => (ofLex (ofLex k).2).2) h
  exact FsPath.string_injective hpath

/-- An older snapshot sorts first. -/
theorem SnapshotInfo.key_lt_of_timestamp
    (h : s.timestamp.nanoseconds < t.timestamp.nanoseconds) : s.key < t.key := by
  rw [key, key, Prod.Lex.toLex_lt_toLex]
  exact .inl h

/-- A sort by a comparison of keys puts the keys in order. -/
theorem sortBy_sorted {β : Type*} [LinearOrder β] (key : SnapshotInfo → β)
    {less} (hless : ∀ s t, less s t = false ↔ key t ≤ key s)
    (snaps : List SnapshotInfo) : (sortBy less snaps).Pairwise fun s t => key s ≤ key t := by
  have : Std.Total fun s t : SnapshotInfo => less t s = false :=
    ⟨fun s t => by simpa only [hless] using le_total (key s) (key t)⟩
  have : IsTrans SnapshotInfo fun s t => less t s = false :=
    ⟨fun s t u hst htu => by
      rw [hless] at hst htu ⊢
      exact hst.trans htu⟩
  have h := pairwise_insertionSort (fun s t : SnapshotInfo => less t s = false) snaps
  exact h.imp fun hst => (hless _ _).mp hst

theorem sortBy_keyLess_sorted (snaps : List SnapshotInfo) :
    (sortBy keyLess snaps).Pairwise fun s t => s.key ≤ t.key :=
  sortBy_sorted SnapshotInfo.key (fun _ _ => keyLess_eq_false_iff) snaps

/-- `metadata_sort_key_less`. -/
def metadataSortKeyLess : SnapshotInfo → SnapshotInfo → Bool := keyLess

/-! ### Inventories -/

/-- The type of a directory entry, symbolic links not followed. -/
inductive EntryStatus where
  /-- Its type could not be determined. -/
  | unknown
  | symlink
  | directory
  | other
  deriving DecidableEq, Repr

/-- A directory entry. -/
structure DirectoryEntry where
  filename : String
  status : EntryStatus
  deriving DecidableEq, Repr

/-- What is at the scanned path. -/
inductive ScanTarget where
  | missing
  | notDirectory
  | directory (entries : List DirectoryEntry)

section inventory

variable (scanDirectory reportedDirectory : FsPath) (sourceId : SourceId) (side : SnapshotSide)
  (metadataReader : FsPath → Option SnapshotMetadata)

/-- The inventory entry of a subvolume, if its name is one of the source. -/
def snapshotInfoOf (filename : String) (metadata : Option SnapshotMetadata) :
    Option SnapshotInfo := do
  let parsed ← parseSnapshotName filename sourceId
  let metadata ← metadata
  if !metadata.isSubvolume then none
  else
    some
      { side := side
        sourceId := parsed.sourceId
        name := parsed.name
        timestamp := parsed.timestamp
        sequence := parsed.sequence
        path := reportedDirectory / filename
        readonly := metadata.readonly
        uuid := metadata.uuid
        receivedUuid := metadata.receivedUuid }

/-- The loop of `list_snapshot_inventory_at`. -/
def inspectEntries : List DirectoryEntry → Except Thrown (List SnapshotInfo)
  | [] => .ok []
  | entry :: entries =>
    let entryPath : FsPath := scanDirectory / entry.filename
    match entry.status with
    | .unknown =>
      .error (validationError ("could not inspect snapshot inventory entry: " ++ entryPath.string))
    | .symlink =>
      .error (validationError ("symbolic link is forbidden in snapshot inventory: " ++
        (reportedDirectory / entry.filename : FsPath).string))
    | .other => inspectEntries entries
    | .directory => do
      let rest ← inspectEntries entries
      .ok ((snapshotInfoOf reportedDirectory sourceId side entry.filename
        (metadataReader entryPath)).toList ++ rest)

/-- `list_snapshot_inventory_at`. -/
def listSnapshotInventoryAt (target : ScanTarget) : Except Thrown (List SnapshotInfo) :=
  match target with
  | .missing => .ok []
  | .notDirectory =>
    .error (validationError
      ("snapshot inventory path is not a directory: " ++ reportedDirectory.string))
  | .directory entries => do
    let snapshots ←
      inspectEntries scanDirectory reportedDirectory sourceId side metadataReader entries
    .ok (sortBy metadataSortKeyLess snapshots)

end inventory

/-- A read-only snapshot of the source `a`, with the UUIDs of its time. -/
def Sample.snapshotAt (side : SnapshotSide) (path : String) (seconds : Int) : SnapshotInfo where
  side := side
  sourceId := ⟨"a", by decide⟩
  name := path
  timestamp := .wrap (seconds * 1000000000)
  sequence := 0
  path := .ofString path
  readonly := true
  uuid := .ofString ("1F" ++ toString seconds)
  receivedUuid := .ofString ("1f" ++ toString seconds)

end BtrfsBackup
