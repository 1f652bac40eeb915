/-
Sources and target on different file systems (`validate_backup_mounts`).

A path is on the deepest mount that contains it.  Two mounts are taken for the same file
system if their UUIDs are equal or, where one of them has none, their device ids.  The
subvolume of a source is compared in this way with its snapshot directory and with the
target, but the snapshot directory is not compared with the target.

* `mountForPath_spec` — which mount is found for a path;
* `validateBackupMounts_separate` — which accepted profiles are separate from the target.
-/
import BtrfsBackup.IncomingSeparation

namespace BtrfsBackup

open List

namespace FsPath

/-! ### The length of a path -/

theorem intercalate_prefix {sep : List Char} {xs ys : List (List Char)} (h : xs <+: ys) :
    sep.intercalate xs <+: sep.intercalate ys := by
  obtain ⟨rest, rfl⟩ := h
  rcases eq_or_ne xs [] with rfl | hxs
  · exact List.nil_prefix
  rcases eq_or_ne rest [] with rfl | hrest
  · rw [append_nil]
  rw [intercalate_append hxs hrest, append_assoc]
  exact prefix_append _ _

/-- An absolute path spelled without a trailing separator. -/
def Plain (p : FsPath) : Prop := p.absolute = true ∧ p.trailing = false

variable {p q : FsPath}

theorem Plain.eq (hp : p.Plain) (hq : q.Plain) (h : p.names = q.names) : p = q :=
  ext_fields (hp.1.trans hq.1.symm) h (hp.2.trans hq.2.symm)

/-- The text of a directory is shorter than that of what lies below it. -/
theorem size_of_prefix (hp : p.Plain) (hq : q.Plain) (h : p.names <+: q.names) :
    p.string.utf8ByteSize ≤ q.string.utf8ByteSize ∧
      (q.string.utf8ByteSize ≤ p.string.utf8ByteSize → p = q) := by
  have htexts : p.string.toList <+: q.string.toList := by
    rw [toList_string, toList_string, hp.1, hq.1, hp.2, hq.2]
    simpa using intercalate_prefix (h.map String.toList)
  obtain ⟨rest, hrest⟩ := htexts
  have htext : p.string ++ String.ofList rest = q.string := by
    rw [← String.toList_inj, ← hrest, String.toList_append, String.toList_ofList]
  rw [← htext, String.utf8ByteSize_append]
  refine ⟨Nat.le_add_right _ _, fun hle => string_injective ?_⟩
  have hempty : (String.ofList rest).utf8ByteSize = 0 := by omega
  rw [← htext, String.utf8ByteSize_eq_zero_iff.mp hempty, String.append_empty]

end FsPath

/-! ### The mount of a path -/

/-- The mount points are absolute and have no trailing separator. -/
def PlainMountPoints (mounts : List MountEntry) : Prop :=
  ∀ entry ∈ mounts, entry.target ≠ "" →
    (FsPath.ofString entry.target).absolute = true ∧ entry.mountPoint.trailing = false

/-- A mount contains a path. -/
def MountEntry.contains (path : FsPath) (entry : MountEntry) : Bool :=
  entry.target != "" && FsPath.pathIsWithin path.lexicallyNormal entry.mountPoint

/-- The number of names of a mount point. -/
def MountEntry.depth (entry : MountEntry) : Nat := entry.mountPoint.names.length

/-- The last of the deepest mounts that contain a path. -/
def deepestMount (mounts : List MountEntry) (path : FsPath) : Option MountEntry :=
  (mounts.reverse.filter (MountEntry.contains path)).argmax MountEntry.depth

section found

variable {mounts : List MountEntry} {path target : FsPath} {mount entry : MountEntry}

theorem contains_iff : entry.contains path = true ↔
    entry.target ≠ "" ∧ FsPath.pathIsWithin path.lexicallyNormal entry.mountPoint = true := by
  rw [MountEntry.contains, Bool.and_eq_true, bne_iff_ne]

section plain

variable (hmounts : PlainMountPoints mounts)

include hmounts

theorem prefix_of_contains (hpath : path.absolute = true)
    (h : entry ∈ mounts ∧ entry.contains path = true) :
    entry.mountPoint.Plain ∧ entry.mountPoint.names <+: path.lexicallyNormal.names := by
  obtain ⟨htgt, hwithin⟩ := contains_iff.mp h.2
  obtain ⟨habs, htrail⟩ := hmounts entry h.1 htgt
  have hnorm := FsPath.lexicallyNormal_isNormal habs
  exact ⟨⟨hnorm.1, htrail⟩,
    FsPath.prefix_of_pathIsWithin (FsPath.lexicallyNormal_isNormal hpath) hnorm hwithin⟩

/-- The longer of two mount points that contain a path is the deeper one. -/
theorem size_le_iff (hpath : path.absolute = true) (h : mount ∈ mounts ∧ mount.contains path = true)
    (h' : entry ∈ mounts ∧ entry.contains path = true) :
    mount.mountPoint.string.utf8ByteSize ≤ entry.mountPoint.string.utf8ByteSize ↔
      mount.depth ≤ entry.depth := by
  obtain ⟨hplain, hbelow⟩ := prefix_of_contains hmounts hpath h
  obtain ⟨hplain', hbelow'⟩ := prefix_of_contains hmounts hpath h'
  rcases List.prefix_or_prefix_of_prefix hbelow hbelow' with hle | hle
  · exact iff_of_true (FsPath.size_of_prefix hplain hplain' hle).1 hle.length_le
  · obtain ⟨-, heq⟩ := FsPath.size_of_prefix hplain' hplain hle
    refine ⟨fun hlonger => ?_, fun hdeeper => ?_⟩
    · rw [MountEntry.depth, MountEntry.depth, heq hlonger]
    · rw [hplain'.eq hplain (hle.eq_of_length_le hdeeper)]

theorem mountForPath_eq (hpath : path.absolute = true) :
    mountForPath mounts path = deepestMount mounts path := by
  induction mounts using List.reverseRecOn with
  | nil => rfl
  | append_singleton mounts entry ih =>
    have ih := ih fun other hother => hmounts other (mem_append_left _ hother)
    have hconcat : deepestMount (mounts ++ [entry]) path =
        ((entry :: mounts.reverse).filter (MountEntry.contains path)).argmax MountEntry.depth := by
      rw [deepestMount, reverse_append, reverse_singleton, singleton_append]
    rw [hconcat, mountForPath, List.foldl_append, ← mountForPath, ih, foldl_cons,
      foldl_nil, betterMount.eq_def]
    by_cases h : entry.contains path = true
    · obtain ⟨htgt, hwithin⟩ := contains_iff.mp h
      rw [filter_cons_of_pos h, argmax_cons, ← deepestMount, if_neg htgt, if_pos hwithin]
      cases hbest : deepestMount mounts path with
      | none => rfl
      | some best =>
        obtain ⟨hmem, hcontains⟩ := mem_filter.mp (argmax_mem hbest)
        have hsize := size_le_iff hmounts hpath
          ⟨mem_append_left _ (mem_reverse.mp hmem), hcontains⟩ ⟨by simp, h⟩
        simp only [hsize, ← not_lt, ite_not]
    · rw [filter_cons_of_neg h, ← deepestMount]
      split_ifs with htgt hwithin
      · rfl
      · exact absurd (contains_iff.mpr ⟨htgt, hwithin⟩) h
      · rfl

/-- The mount of a mount point is the last one there. -/
theorem mountForPath_of_mountAt (hpath : path.IsNormal) (h : mountAt mounts path = some mount) :
    mountForPath mounts path = some mount := by
  have hnorm := FsPath.lexicallyNormal_of_isNormal hpath
  obtain ⟨hat, later, earlier, hreverse, hlater⟩ := find?_eq_some_iff_append.mp h
  simp only [decide_eq_true_eq, Bool.not_eq_true', decide_eq_false_iff_not, hnorm] at hat hlater
  change mount.mountPoint = path at hat
  have hcontains : mount.contains path = true := by
    refine contains_iff.mpr ⟨fun hempty => ?_, ?_⟩
    · rw [← hat, MountEntry.mountPoint, hempty] at hpath
      exact absurd hpath.1 (by decide)
    · rw [hat, hnorm, FsPath.pathIsWithin, List.isPrefixOf_iff_prefix]
  have hmem : mount ∈ mounts := mem_reverse.mp (hreverse ▸ by simp)
  obtain ⟨hplain, -⟩ := prefix_of_contains hmounts hpath.1 ⟨hmem, hcontains⟩
  rw [mountForPath_eq hmounts hpath.1, deepestMount, argmax_eq_some_iff]
  -- every mount that contains the mount point is above it, or there
  have habove : ∀ entry ∈ mounts.reverse.filter (MountEntry.contains path),
      entry.mountPoint.Plain ∧ entry.mountPoint.names <+: mount.mountPoint.names := by
    intro entry hentry
    rw [mem_filter, mem_reverse] at hentry
    rw [hat]
    exact hnorm ▸ prefix_of_contains hmounts hpath.1 hentry
  refine ⟨mem_filter.mpr ⟨mem_reverse.mpr hmem, hcontains⟩,
    fun entry hentry => (habove entry hentry).2.length_le, fun entry hentry hdepth => ?_⟩
  obtain ⟨hplain', hnames⟩ := habove entry hentry
  have hnotLater : ∀ entry, entry.mountPoint = path →
      entry ∉ later.filter (MountEntry.contains path) := fun entry hentry hmem =>
    hlater entry (mem_of_mem_filter hmem) hentry
  have hthere := (hplain'.eq hplain (hnames.eq_of_length_le hdepth)).trans hat
  rw [hreverse, filter_append, filter_cons_of_pos hcontains,
    idxOf_append_of_notMem (hnotLater _ hat),
    idxOf_append_of_notMem (hnotLater _ hthere), idxOf_cons_self]
  exact Nat.le_add_right _ _

end plain

/-! ### Separation -/

/-- A path lies on a mount with that UUID. -/
def LiesOn (mounts : List MountEntry) (path : FsPath) (uuid : String) : Prop :=
  ∃ mount, mountForPath mounts path = some mount ∧ mount.filesystemUuid = uuid

theorem same_of_liesOn (h : mountForPath mounts target = some mount)
    (huuid : mount.filesystemUuid ≠ "") (hpath : LiesOn mounts path mount.filesystemUuid) :
    pathsAreSameFilesystem mounts path target = true := by
  obtain ⟨own, hown, heq⟩ := hpath
  simp [pathsAreSameFilesystem, hown, h, heq, huuid]

theorem liesOn_of_same (h : mountForPath mounts target = some mount)
    (huuid : mount.filesystemUuid ≠ "") (hsame : pathsAreSameFilesystem mounts path target = true) :
    LiesOn mounts path "" ∨ LiesOn mounts path mount.filesystemUuid := by
  cases hown : mountForPath mounts path with
  | none => simp [pathsAreSameFilesystem, hown] at hsame
  | some own =>
    rcases eq_or_ne own.filesystemUuid "" with hempty | hempty
    · exact .inl ⟨own, hown, hempty⟩
    · exact .inr ⟨own, hown, by simpa [pathsAreSameFilesystem, hown, h, huuid, hempty] using hsame⟩

/-- No path of an enabled source lies on a mount with the UUID of the target. -/
def Profile.SeparateFrom (profile : Profile) (mounts : List MountEntry) (uuid : String) : Prop :=
  ∀ source ∈ profile.sources, source.enabled = true →
    ¬ LiesOn mounts source.subvolume.value uuid ∧ ¬ LiesOn mounts source.localSnapshotDir.value uuid

theorem forM_eq_ok {α : Type} {check : α → Except Thrown Unit} : ∀ {l : List α} {value : Unit},
    l.forM check = .ok value → ∀ a ∈ l, check a = .ok ()
  | [], _, _ => nofun
  | b :: l, _, h => by
    obtain ⟨_, hb, hl⟩ := bind_eq_ok.mp h
    exact forall_mem_cons.mpr ⟨hb, forM_eq_ok hl⟩

/-- **The file systems of an accepted profile.**  A path is on the last of the deepest mounts
that contain it; and the sources are separate from the target if and only if no source has
its subvolume on a mount without a UUID and its snapshots on one with the target's. -/
theorem validateBackupMounts_separate {weaklyCanonical : FsPath → Option FsPath}
    {profile : Profile} {target : MountEntry} (hmounts : PlainMountPoints mounts)
    (h : validateBackupMounts weaklyCanonical profile mounts = .ok target) :
    (∀ path, path.absolute = true → mountForPath mounts path = deepestMount mounts path) ∧
      (profile.SeparateFrom mounts target.filesystemUuid ↔
        ∀ source ∈ profile.sources, source.enabled = true →
          LiesOn mounts source.subvolume.value "" →
            ¬ LiesOn mounts source.localSnapshotDir.value target.filesystemUuid) := by
  refine ⟨fun path => mountForPath_eq hmounts, fun h source hmem henabled _ =>
    (h source hmem henabled).2, fun hidentified source hmem henabled => ?_⟩
  obtain ⟨_, htarget, h⟩ := bind_eq_ok.mp h
  obtain ⟨_, hsources, h⟩ := bind_eq_ok.mp h
  cases h
  obtain ⟨⟨hat, huuid⟩, -⟩ := validateBackupTargetMount_eq_ok htarget
  have hfound := mountForPath_of_mountAt hmounts profile.target.mountPoint.isNormal hat
  have hsource := forM_eq_ok hsources source hmem
  simp only [validateSourceMounts, henabled, ite_error_eq_ok, Bool.not_eq_false,
    Bool.true_eq_false, if_false] at hsource
  have hsubvolume : ¬ LiesOn mounts source.subvolume.value target.filesystemUuid := fun hlies =>
    hsource.2.1 (same_of_liesOn hfound huuid hlies)
  refine ⟨hsubvolume, fun hlies => ?_⟩
  obtain ⟨own, hown, heq⟩ := id hlies
  rcases liesOn_of_same hown (heq ▸ huuid) hsource.1 with hempty | hequal
  · exact hidentified source hmem henabled hempty hlies
  · exact hsubvolume (heq ▸ hequal)

end found

namespace Sample

def rootMount (uuid : String) : MountEntry :=
  ⟨"/dev/sda2", "/", "btrfs", "/", "rw", 31, "0:31", uuid⟩

def snapshotsMount (uuid : String) : MountEntry :=
  ⟨"/dev/sda2", "/snapshots", "btrfs", "/snapshots", "rw", 32, "0:31", uuid⟩

theorem validateBackupMounts_separate_home :
    let mounts := [rootMount "1b2c", snapshotsMount "1b2c", targetMount]
    validateBackupMounts some documentProfile mounts = .ok targetMount ∧
      documentProfile.SeparateFrom mounts targetMount.filesystemUuid := by
  have hmounts : PlainMountPoints [rootMount "1b2c", snapshotsMount "1b2c", targetMount] := by
    unfold PlainMountPoints
    decide
  have haccepted : validateBackupMounts some documentProfile
      [rootMount "1b2c", snapshotsMount "1b2c", targetMount] = .ok targetMount := by
    decide +kernel
  refine ⟨haccepted, (validateBackupMounts_separate hmounts haccepted).2.mpr ?_⟩
  rintro source hsource - ⟨mount, hmount, hempty⟩
  have hroot : mount = rootMount "1b2c" := by
    rcases mem_pair.mp hsource with rfl | rfl <;>
      exact Option.some.inj (hmount.symm.trans (by decide +kernel))
  rw [hroot] at hempty
  exact absurd hempty (by decide)

/-- The subvolume has no UUID, so only device ids are compared, and the snapshots may lie on
the target. -/
theorem snapshots_on_target_accepted :
    let mounts := [rootMount "", snapshotsMount targetMount.filesystemUuid, targetMount]
    validateBackupMounts some documentProfile mounts = .ok targetMount ∧
      ¬ documentProfile.SeparateFrom mounts targetMount.filesystemUuid := by
  refine ⟨by decide +kernel, fun h => (h _ mem_cons_self rfl).2 ?_⟩
  exact ⟨snapshotsMount targetMount.filesystemUuid, by decide +kernel, rfl⟩

end Sample

end BtrfsBackup
