/-
Profiles (`config/domain/`).

The path types of a profile hold a path that `normalizedAbsolutePath` accepts
and normalises, so that a value of such a type is absolute and in normal form
(`AbsolutePath.isNormal`); a `SafeRelativePath` has plain file names only.
A normal form may still end with a separator.
-/
import BtrfsBackup.Core
import BtrfsBackup.Snapshot

namespace BtrfsBackup

/-! ### Path checks (`config/domain/Validation`) -/

/-- Does the text contain a line break? -/
def hasNewline (value : String) : Bool := value.toList.contains '\n' || value.toList.contains '\r'

/-- `normalized_absolute_path`. -/
def normalizedAbsolutePath (value name : String) : Except Thrown FsPath :=
  if value.toList.head? ≠ some '/' then
    .error (validationError (name ++ " must be an absolute path"))
  else if hasNewline value then .error (validationError (name ++ " contains a newline"))
  else if !(FsPath.ofString value).lexicallyNormal.absolute then
    .error (validationError (name ++ " is invalid"))
  else .ok (FsPath.ofString value).lexicallyNormal

/-- `normalized_relative_path`. -/
def normalizedRelativePath (value name : String) : Except Thrown FsPath :=
  if value = "" then .error (validationError (name ++ " must be a non-empty relative path"))
  else if hasNewline value then .error (validationError (name ++ " contains a newline"))
  else if (FsPath.ofString value).absolute then
    .error (validationError (name ++ " must be a safe relative path"))
  else if (FsPath.ofString value).elements.any fun item => item == "" || item == "." || item == ".."
  then .error (validationError (name ++ " must be a safe relative path"))
  else .ok (FsPath.ofString value).lexicallyNormal

variable {value name : String} {path : FsPath} {c : Char}

theorem ofString_absolute_iff :
    (FsPath.ofString value).absolute = true ↔ value.toList.head? = some '/' := by
  simp [FsPath.ofString]

/-- What is accepted is the normal form of the text. -/
theorem normalizedAbsolutePath_ok (h : normalizedAbsolutePath value name = .ok path) :
    (FsPath.ofString value).absolute = true ∧ path = (FsPath.ofString value).lexicallyNormal := by
  rw [normalizedAbsolutePath] at h
  split_ifs at h with h1 h2 h3
  refine ⟨ofString_absolute_iff.mpr (not_not.mp h1), ?_⟩
  simpa using h.symm

theorem normalizedAbsolutePath_isNormal
    (h : normalizedAbsolutePath value name = .ok path) : path.IsNormal := by
  obtain ⟨habs, rfl⟩ := normalizedAbsolutePath_ok h
  exact FsPath.lexicallyNormal_isNormal habs

/-! ### Path types -/

/-- A path as `normalizedAbsolutePath` returns it. -/
structure AbsolutePath where
  value : FsPath
  isNormal : value.IsNormal
  deriving DecidableEq

namespace AbsolutePath

/-- The common constructor of the absolute path types. -/
def ofString (value fieldName : String) : Except Thrown AbsolutePath :=
  match h : normalizedAbsolutePath value fieldName with
  | .ok path => .ok ⟨path, normalizedAbsolutePath_isNormal h⟩
  | .error e => .error e

theorem ofString_eq_ok {fieldName : String} {path : AbsolutePath} :
    ofString value fieldName = .ok path ↔
      normalizedAbsolutePath value fieldName = .ok path.value := by
  obtain ⟨path, hnorm⟩ := path
  unfold ofString
  split
  · next hread => simp [hread]
  · next hread => simp [hread]

/-- The path is spelled without a trailing separator. -/
def Unslashed (path : AbsolutePath) : Prop := path.value.trailing = false

instance (path : AbsolutePath) : Decidable path.Unslashed :=
  inferInstanceAs (Decidable (_ = _))

end AbsolutePath

abbrev RemoteSnapshotRoot := AbsolutePath

abbrev IncomingRoot := AbsolutePath

abbrev TargetMountPoint := AbsolutePath

abbrev SourceSubvolumePath := AbsolutePath

abbrev LocalSnapshotRoot := AbsolutePath

abbrev HookProgramPath := AbsolutePath

structure SafeRelativePath where
  value : FsPath
  relative : value.absolute = false
  nonempty : value.names ≠ []
  untrailed : value.trailing = false
  plain : ∀ name ∈ value.names, name ≠ "." ∧ name ≠ ".."
  deriving DecidableEq

/-- What is accepted as a relative path is left as it is. -/
theorem normalizedRelativePath_ok (h : normalizedRelativePath value name = .ok path) :
    path = FsPath.ofString value ∧ path.absolute = false ∧
    path.names ≠ [] ∧ path.trailing = false ∧ ∀ item ∈ path.names, item ≠ "." ∧ item ≠ ".." := by
  rw [normalizedRelativePath] at h
  split_ifs at h with hempty hnl habsolute hitems
  have hplain : ∀ item ∈ (FsPath.ofString value).elements,
      item ≠ "" ∧ item ≠ "." ∧ item ≠ ".." := by
    intro item hitem
    rw [List.any_eq_true] at hitems
    push Not at hitems
    simpa [not_or, and_assoc] using hitems item hitem
  have hnames : ∀ item ∈ (FsPath.ofString value).names, item ≠ "." ∧ item ≠ ".." :=
    fun item hitem => (hplain item (by simp [FsPath.elements, hitem])).2
  have hpath : path = FsPath.ofString value := by
    rw [FsPath.lexicallyNormal_of_plain hnames] at h
    exact (Except.ok.inj h).symm
  have hhead : value.toList.head? ≠ some '/' := fun hhead =>
    habsolute (ofString_absolute_iff.mpr hhead)
  subst hpath
  refine ⟨rfl, Bool.eq_false_iff.mpr habsolute, FsPath.namesOf_ne_nil hempty hhead, ?_, hnames⟩
  by_contra htrail
  have hmem : "" ∈ (FsPath.ofString value).elements := by
    simp [FsPath.elements, Bool.not_eq_false _ ▸ htrail]
  exact (hplain "" hmem).1 rfl

/-- The constructor of `SafeRelativePath`. -/
def SafeRelativePath.ofString (value : String) : Except Thrown SafeRelativePath :=
  match h : normalizedRelativePath value "repository relative path" with
  | .error e => .error e
  | .ok path =>
    if path.string ≠ value then
      .error (validationError
        "repository relative path must be canonical and contain no empty segments")
    else
      have hpath := normalizedRelativePath_ok h
      .ok ⟨path, hpath.2.1, hpath.2.2.1, hpath.2.2.2.1, hpath.2.2.2.2⟩

/-- `TargetDevicePath`: inside `/dev`. -/
structure TargetDevicePath extends AbsolutePath where
  insideDev : FsPath.pathIsWithin value (FsPath.ofString "/dev") = true
  deriving DecidableEq

/-- The constructor of `TargetDevicePath`. -/
def TargetDevicePath.ofString (value : String) : Except Thrown TargetDevicePath := do
  let path ← AbsolutePath.ofString value "target.device"
  if h : FsPath.pathIsWithin path.value (FsPath.ofString "/dev") = true then .ok ⟨path, h⟩
  else .error (validationError "target.device must point inside /dev")

abbrev KeyFilePath := AbsolutePath

/-! ### Identity of the target (`config/domain/TargetIdentity`) -/

/-- A hexadecimal digit. -/
def isHexDigit (c : Char) : Bool :=
  ('0' ≤ c && c ≤ '9') || ('A' ≤ c && c ≤ 'F') || ('a' ≤ c && c ≤ 'f')

/-- Does the character fit the place of the pattern, where `x` stands for a
hexadecimal digit? -/
def fitsUuidPlace (place c : Char) : Bool := if place = '-' then c == '-' else isHexDigit c

/-- `uuid_pattern`. -/
def uuidPatternOk (value : String) : Bool :=
  let places := "xxxxxxxx-xxxx-xxxx-xxxx-xxxxxxxxxxxx".toList
  value.toList.length == places.length &&
    (places.zip value.toList).all fun place => fitsUuidPlace place.1 place.2

theorem isHexDigit_iff : isHexDigit c = true ↔ (48 ≤ c.val.toNat ∧ c.val.toNat ≤ 57) ∨
    (65 ≤ c.val.toNat ∧ c.val.toNat ≤ 70) ∨ (97 ≤ c.val.toNat ∧ c.val.toNat ≤ 102) := by
  simp only [isHexDigit, Bool.or_eq_true, Bool.and_eq_true, decide_eq_true_eq, Char.le_def,
    UInt32.le_iff_toNat_le, or_assoc]
  exact Iff.rfl

theorem isHexDigit_toLower (h : isHexDigit c = true) : isHexDigit c.toLower = true := by
  by_cases hupper : c.val ≥ 'A'.val ∧ c.val ≤ 'Z'.val
  · have hA : 'A'.val.toNat = 65 := rfl
    have hZ : 'Z'.val.toNat = 90 := rfl
    have h1 := UInt32.le_iff_toNat_le.mp hupper.1
    have h2 := UInt32.le_iff_toNat_le.mp hupper.2
    rw [isHexDigit_iff] at h ⊢
    rw [toLower_val hupper]
    omega
  · rwa [Char.toLower, dif_neg hupper]

theorem fitsUuidPlace_toLower {place : Char} (h : fitsUuidPlace place c = true) :
    fitsUuidPlace place c.toLower = true := by
  unfold fitsUuidPlace at h ⊢
  split_ifs at h ⊢
  · rw [eq_of_beq h]
    decide
  · exact isHexDigit_toLower h

/-- The pattern does not see the case of the digits. -/
theorem uuidPatternOk_lower (h : uuidPatternOk value = true) :
    uuidPatternOk (normalizedUuid value) = true := by
  simp only [uuidPatternOk, Bool.and_eq_true, List.all_eq_true] at h ⊢
  obtain ⟨hlen, hplaces⟩ := h
  rw [normalizedUuid, String.toList_ofList]
  refine ⟨by simpa using hlen, ?_⟩
  rw [List.zip_map_right]
  intro entry hentry
  obtain ⟨⟨place, c⟩, hmem, rfl⟩ := List.mem_map.mp hentry
  exact fitsUuidPlace_toLower (hplaces (place, c) hmem)

/-- A UUID text in canonical form. -/
structure CanonicalUuid where
  value : String
  canonical : uuidPatternOk value = true
  deriving DecidableEq

/-- `canonical_uuid`. -/
def CanonicalUuid.ofString (value name : String) : Except Thrown CanonicalUuid :=
  if h : uuidPatternOk value = true then .ok ⟨normalizedUuid value, uuidPatternOk_lower h⟩
  else .error (validationError (name ++ " is not a canonical UUID"))

abbrev LuksUuid := CanonicalUuid

abbrev BtrfsUuid := CanonicalUuid

/-- `PartitionUuid`: may be empty. -/
abbrev PartitionUuid := Option CanonicalUuid

/-- The constructor of `PartitionUuid`. -/
def PartitionUuid.ofString (value : String) : Except Thrown PartitionUuid :=
  if value = "" then .ok none
  else (CanonicalUuid.ofString value "partition UUID").map some

@[ext]
structure MapperName where
  value : String
  valid : identifierOk value = true

instance : DecidableEq MapperName := fun _ _ => decidable_of_iff _ MapperName.ext_iff.symm

/-- The constructor of `MapperName`. -/
def MapperName.ofString (value : String) : Except Thrown MapperName :=
  (validateIdentifier value "mapper name").map fun ⟨h⟩ => ⟨value, h⟩

/-! ### Storage policy (`config/domain/StoragePolicy`) -/

/-- `RetentionCount::maximum`. -/
def retentionCountMaximum : Nat := 100000

/-- `RetentionCount`; zero keeps everything. -/
structure RetentionCount where
  value : Nat
  bounded : value ≤ retentionCountMaximum
  deriving DecidableEq

/-- The constructor of `RetentionCount`. -/
def RetentionCount.ofNat (value : Nat) : Except Thrown RetentionCount :=
  if h : value ≤ retentionCountMaximum then .ok ⟨value, h⟩
  else .error (validationError "retention count is outside the supported range")

/-- `ByteThreshold::maximum`. -/
def byteThresholdMaximum : Nat := 1000000000000000

structure ByteThreshold where
  value : Nat
  bounded : value ≤ byteThresholdMaximum
  deriving DecidableEq

/-- The constructor of `ByteThreshold`. -/
def ByteThreshold.ofNat (value : Nat) : Except Thrown ByteThreshold :=
  if h : value ≤ byteThresholdMaximum then .ok ⟨value, h⟩
  else .error (validationError "byte threshold is outside the supported range")

/-! ### Profiles -/

inductive TargetActivation where
  | askPassword
  | keyFile (keyFile : KeyFilePath)
  deriving DecidableEq

structure ProfileTarget where
  device : TargetDevicePath
  luksUuid : LuksUuid
  btrfsUuid : BtrfsUuid
  partitionUuid : PartitionUuid
  serial : String
  mapperName : MapperName
  mountPoint : TargetMountPoint
  activation : TargetActivation
  deriving DecidableEq

structure ProfilePaths where
  remoteRoot : RemoteSnapshotRoot
  incomingRoot : IncomingRoot
  deriving DecidableEq

structure ProfileSettings where
  dailyLimit : Bool
  incrementalRequired : Bool
  keepFailedLocalSnapshot : Bool
  autoEject : Bool
  remoteRetention : RetentionCount
  localRetention : RetentionCount
  minimumTargetFreeBytes : ByteThreshold
  minimumLocalFreeBytes : ByteThreshold
  deriving DecidableEq

structure ProfileHookCommand where
  program : HookProgramPath
  arguments : List String
  timeoutSeconds : Nat
  deriving DecidableEq

structure ProfileHooks where
  beforeSnapshot : List ProfileHookCommand
  afterSnapshot : List ProfileHookCommand
  deriving DecidableEq

structure ProfileSource where
  id : SourceId
  name : String
  enabled : Bool
  subvolume : SourceSubvolumePath
  localSnapshotDir : LocalSnapshotRoot
  remoteSubdir : SafeRelativePath
  remoteRetention : RetentionCount
  localRetention : RetentionCount
  deriving DecidableEq

structure Profile where
  configurationGeneration : String
  id : ProfileId
  name : String
  enabled : Bool
  target : ProfileTarget
  paths : ProfilePaths
  settings : ProfileSettings
  hooks : ProfileHooks
  sources : List ProfileSource
  deriving DecidableEq

end BtrfsBackup
