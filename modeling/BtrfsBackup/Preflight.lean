/-
The checks on the mounted target before a run
(`backup/planning/BackupPreflightValidation`, `backup/ports/IMountInspector`).

The target must be a Btrfs filesystem on the profile's mapping, mounted at the
profile's mount point with the required options, and both roots of the profile
must lie below that mount point once symbolic links are resolved.  Resolving a
path is the file system's business: it is the parameter `weaklyCanonical`.

* `validateBackupTargetMount` — the checks, with their messages;
* `validateBackupTargetMount_roots` — where no symbolic link is involved, the
  names of both roots start with those of the mount point.
-/
import BtrfsBackup.Profile

namespace BtrfsBackup

structure MountEntry where
  source : String
  target : String
  fstype : String
  root : String
  options : String
  mountId : Int
  deviceId : String
  filesystemUuid : String
  deriving DecidableEq, Repr

inductive TargetMountAccess where
  | read
  | readWrite
  deriving DecidableEq, Repr

/-! ### The mount table -/

/-- `strip_subvolume_suffix`: what precedes the first `[`. -/
def stripSubvolumeSuffix (source : String) : String :=
  String.ofList (source.toList.takeWhile (· ≠ '['))

/-- `mount_at`: the last entry mounted at `target`. -/
def mountAt (entries : List MountEntry) (target : FsPath) : Option MountEntry :=
  entries.reverse.find? fun entry =>
    decide ((FsPath.ofString entry.target).lexicallyNormal = target.lexicallyNormal)

/-- The normalised target of an entry. -/
def MountEntry.mountPoint (entry : MountEntry) : FsPath :=
  (FsPath.ofString entry.target).lexicallyNormal

/-- The loop of `mount_for_path`: the best entry so far, and the next one. -/
def betterMount (path : FsPath) (best : Option MountEntry) (entry : MountEntry) :
    Option MountEntry :=
  if entry.target = "" then best
  else if FsPath.pathIsWithin path entry.mountPoint then
    match best with
    | none => some entry
    | some other =>
      if other.mountPoint.string.utf8ByteSize ≤ entry.mountPoint.string.utf8ByteSize then some entry
      else best
  else best

/-- `mount_for_path`. -/
def mountForPath (entries : List MountEntry) (path : FsPath) : Option MountEntry :=
  entries.foldl (betterMount path.lexicallyNormal) none

/-- `paths_are_same_filesystem`. -/
def pathsAreSameFilesystem (entries : List MountEntry) (pathA pathB : FsPath) : Bool :=
  match mountForPath entries pathA, mountForPath entries pathB with
  | some mountA, some mountB =>
    if mountA.filesystemUuid ≠ "" ∧ mountB.filesystemUuid ≠ "" then
      mountA.filesystemUuid == mountB.filesystemUuid
    else mountA.deviceId != "" && mountA.deviceId == mountB.deviceId
  | _, _ => false

/-- `mount_uses_mapper`. -/
def mountUsesMapper (entries : List MountEntry) (mountpoint mapperPath : FsPath) : Bool :=
  match mountAt entries mountpoint with
  | none => false
  | some mount =>
    decide ((FsPath.ofString (stripSubvolumeSuffix mount.source)).lexicallyNormal =
      mapperPath.lexicallyNormal)

/-- `has_mount_option`: the option occurs between commas. -/
def hasMountOption (options option : String) : Bool :=
  decide (("," ++ option ++ ",").toList <:+: ("," ++ options ++ ",").toList)

/-- The options a target must be mounted with. -/
def requiredMountOptions : List String := ["nodev", "nosuid", "noexec", "nosymfollow"]

/-! ### Resolved paths -/

section resolved

-- `std::filesystem::weakly_canonical`; `none` is an error code
variable (weaklyCanonical : FsPath → Option FsPath)

/-- `resolved_path`. -/
def resolvedPath (path : FsPath) : FsPath :=
  match weaklyCanonical path with
  | none => path.lexicallyNormal
  | some resolved => resolved.lexicallyNormal

/-- `resolved_path_is_within`. -/
def resolvedPathIsWithin (candidate base : FsPath) : Bool :=
  FsPath.pathIsWithin (resolvedPath weaklyCanonical candidate) (resolvedPath weaklyCanonical base)

/-- `validate_backup_target_mount`. -/
def validateBackupTargetMount (profile : Profile) (mounts : List MountEntry)
    (access : TargetMountAccess) : Except Thrown MountEntry :=
  let mountPoint := profile.target.mountPoint.value
  let mapperPath : FsPath := FsPath.ofString "/dev/mapper" / profile.target.mapperName.value
  match mountAt mounts mountPoint with
  | none => .error (validationError ("Backup target is not mounted at " ++ mountPoint.string))
  | some targetMount =>
    if targetMount.fstype ≠ "btrfs" then
      .error (validationError
        ("Backup target is not a Btrfs filesystem: " ++ mountPoint.string))
    else if !mountUsesMapper mounts mountPoint mapperPath then
      .error (validationError ("The filesystem mounted at " ++ mountPoint.string ++ " is not " ++
        mapperPath.string))
    else if access = .readWrite ∧ hasMountOption targetMount.options "rw" = false then
      .error (validationError
        ("Backup target is not mounted read-write: " ++ mountPoint.string))
    else
      match requiredMountOptions.find? fun option => !hasMountOption targetMount.options option with
      | some option =>
        .error (validationError ("Backup target is missing required mount option " ++ option ++
          ": " ++ mountPoint.string))
      | none =>
        if targetMount.filesystemUuid = "" ∨
            targetMount.filesystemUuid.toLower ≠ profile.target.btrfsUuid.value then
          .error (validationError ("Btrfs UUID mismatch at " ++ mountPoint.string))
        else if !resolvedPathIsWithin weaklyCanonical profile.paths.remoteRoot.value mountPoint then
          .error (validationError ("REMOTE_ROOT escapes the backup mountpoint: " ++
            profile.paths.remoteRoot.value.string))
        else if
            !resolvedPathIsWithin weaklyCanonical profile.paths.incomingRoot.value mountPoint then
          .error (validationError ("INCOMING_ROOT escapes the backup mountpoint: " ++
            profile.paths.incomingRoot.value.string))
        else .ok targetMount

/-- The checks of one source in `validate_backup_mounts`. -/
def validateSourceMounts (profile : Profile) (mounts : List MountEntry) (source : ProfileSource) :
    Except Thrown Unit :=
  let subvolume := source.subvolume.value
  let localSnapshotDir := source.localSnapshotDir.value
  let mountPoint := profile.target.mountPoint.value
  if source.enabled = false then .ok ()
  else if pathsAreSameFilesystem mounts subvolume localSnapshotDir = false then
    .error (validationError
      ("LOCAL_SNAPSHOT_DIR must be on the same Btrfs filesystem as " ++ subvolume.string))
  else if pathsAreSameFilesystem mounts subvolume mountPoint then
    .error (validationError
      ("SOURCE_SUBVOLUME must not be on the backup target filesystem: " ++ subvolume.string))
  else if FsPath.pathIsWithin localSnapshotDir mountPoint then
    .error (validationError
      ("LOCAL_SNAPSHOT_DIR must not be inside the backup target: " ++ localSnapshotDir.string))
  else .ok ()

/-- `validate_backup_mounts`. -/
def validateBackupMounts (profile : Profile) (mounts : List MountEntry) :
    Except Thrown MountEntry := do
  let targetMount ← validateBackupTargetMount weaklyCanonical profile mounts .readWrite
  profile.sources.forM (validateSourceMounts profile mounts)
  return targetMount

end resolved

/-! ### Without symbolic links -/

/-- No symbolic link is met: resolving an absolute path changes at most its
spelling, never the names of its normal form. -/
def NoSymbolicLinks (weaklyCanonical : FsPath → Option FsPath) : Prop :=
  ∀ path resolved, path.absolute = true → weaklyCanonical path = some resolved →
    resolved.absolute = true ∧ resolved.lexicallyNormal.names = path.lexicallyNormal.names

section roots

variable {weaklyCanonical : FsPath → Option FsPath}

theorem resolvedPath_of_isNormal (hlinks : NoSymbolicLinks weaklyCanonical) {path : FsPath}
    (hpath : path.IsNormal) : (resolvedPath weaklyCanonical path).IsNormal ∧
      (resolvedPath weaklyCanonical path).names = path.names := by
  rw [resolvedPath]
  split
  · rw [FsPath.lexicallyNormal_of_isNormal hpath]
    exact ⟨hpath, rfl⟩
  · next resolved hresolved =>
    obtain ⟨habs, hnames⟩ := hlinks path resolved hpath.1 hresolved
    refine ⟨FsPath.lexicallyNormal_isNormal habs, ?_⟩
    rw [hnames, FsPath.lexicallyNormal_of_isNormal hpath]

theorem prefix_of_resolvedPathIsWithin (hlinks : NoSymbolicLinks weaklyCanonical)
    {cand base : FsPath} (hcand : cand.IsNormal) (hbase : base.IsNormal)
    (h : resolvedPathIsWithin weaklyCanonical cand base = true) : base.names <+: cand.names := by
  obtain ⟨hcandidateNormal, hcandidateNames⟩ := resolvedPath_of_isNormal hlinks hcand
  obtain ⟨hbaseNormal, hbaseNames⟩ := resolvedPath_of_isNormal hlinks hbase
  have hwithin := FsPath.prefix_of_pathIsWithin hcandidateNormal hbaseNormal h
  rwa [hcandidateNames, hbaseNames] at hwithin

section accepted

variable {prof : Profile} {mounts : List MountEntry} {access : TargetMountAccess}
  {mount : MountEntry}
  (h : validateBackupTargetMount weaklyCanonical prof mounts access = .ok mount)

include h

theorem validateBackupTargetMount_eq_ok :
    (mountAt mounts prof.target.mountPoint.value = some mount ∧ mount.filesystemUuid ≠ "") ∧
      resolvedPathIsWithin weaklyCanonical prof.paths.remoteRoot.value
        prof.target.mountPoint.value = true ∧
      resolvedPathIsWithin weaklyCanonical prof.paths.incomingRoot.value
        prof.target.mountPoint.value = true := by
  simp only [validateBackupTargetMount] at h
  split at h
  · cases h
  next hat =>
  split_ifs at h with _ _ _ huuid hrem hinc
  -- the options are looked for before the last three checks
  all_goals split at h
  all_goals try cases h
  simp only [Bool.not_eq_true', Bool.not_eq_false] at hrem hinc
  exact ⟨⟨hat, fun hempty => huuid (.inl hempty)⟩, hrem, hinc⟩

/-- The roots of a profile whose target passes the checks lie below the mount
point. -/
theorem validateBackupTargetMount_roots (hlinks : NoSymbolicLinks weaklyCanonical) :
    prof.target.mountPoint.value.names <+: prof.paths.remoteRoot.value.names ∧
      prof.target.mountPoint.value.names <+: prof.paths.incomingRoot.value.names := by
  obtain ⟨-, hrem, hinc⟩ := validateBackupTargetMount_eq_ok h
  exact ⟨prefix_of_resolvedPathIsWithin hlinks prof.paths.remoteRoot.isNormal
      prof.target.mountPoint.isNormal hrem,
    prefix_of_resolvedPathIsWithin hlinks prof.paths.incomingRoot.isNormal
      prof.target.mountPoint.isNormal hinc⟩

end accepted

end roots

end BtrfsBackup
