/-
When the profile of a prepared device can be installed.

The constructors of a profile's values and `normalize_profile` are the later rules; what a
request was accepted by are the earlier ones.

* `Installable` — what the values of a preparation must be like;
* `wizardProfile_eq_ok`, `wizardProfile_of_prepared` — the constructors;
* `writable_iff_installable` — the document of what they build;
* `provisioned_installable_iff` — the profile of an accepted request is built exactly
  when its values are installable.
-/
import BtrfsBackup.ProvisionedProfile

open OrderedJson

namespace BtrfsBackup

open List

variable {α : Type}

/-! ### What the constructors accept -/

/-- A text that the absolute path types accept. -/
structure PathText (value : String) : Prop where
  absolute : value.toList.head? = some '/'
  noNewline : hasNewline value = false

variable {value name : String} {path : FsPath}

theorem normalizedAbsolutePath_iff : normalizedAbsolutePath value name = .ok path ↔
      PathText value ∧ path = (FsPath.ofString value).lexicallyNormal := by
  unfold normalizedAbsolutePath
  simp only [ite_error_eq_ok, not_not, Except.ok.injEq, Bool.not_eq_true]
  constructor
  · rintro ⟨habs, hnl, -, rfl⟩
    exact ⟨⟨habs, hnl⟩, rfl⟩
  · rintro ⟨⟨habs, hnl⟩, rfl⟩
    have hnorm := FsPath.lexicallyNormal_isNormal (ofString_absolute_iff.mpr habs)
    exact ⟨habs, hnl, by simp [hnorm.1], rfl⟩

theorem AbsolutePath.ofString_iff {path} : AbsolutePath.ofString value name = .ok path ↔
    PathText value ∧ path.value = (FsPath.ofString value).lexicallyNormal :=
  AbsolutePath.ofString_eq_ok.trans normalizedAbsolutePath_iff

theorem PathText.isNormal (h : PathText value) : (FsPath.ofString value).lexicallyNormal.IsNormal :=
  FsPath.lexicallyNormal_isNormal (ofString_absolute_iff.mpr h.absolute)

theorem CanonicalUuid.ofString_iff {uuid} : CanonicalUuid.ofString value name = .ok uuid ↔
    uuidPatternOk value = true ∧ uuid.value = normalizedUuid value := by
  obtain ⟨text, hcan⟩ := uuid
  rw [CanonicalUuid.ofString, dite_ok_iff, eq_comm (a := text)]
  simp

/-- The partition may be without a UUID. -/
def partitionUuidOk (value : String) : Bool := value == "" || uuidPatternOk value

theorem PartitionUuid.ofString_iff :
    (∃ uuid, PartitionUuid.ofString value = .ok uuid) ↔ partitionUuidOk value = true := by
  unfold PartitionUuid.ofString partitionUuidOk
  by_cases hempty : value = ""
  · simp [hempty]
  · rw [if_neg hempty, show (value == "") = false from beq_false_of_ne hempty, Bool.false_or]
    constructor
    · rintro ⟨uuid, h⟩
      by_contra hpattern
      unfold CanonicalUuid.ofString at h
      rw [dif_neg hpattern] at h
      cases h
    · intro hpattern
      have huuid : CanonicalUuid.ofString value "partition UUID" =
          .ok ⟨normalizedUuid value, uuidPatternOk_lower hpattern⟩ :=
        CanonicalUuid.ofString_iff.mpr ⟨hpattern, rfl⟩
      rw [huuid]
      exact ⟨_, rfl⟩

/-- The constructor of a UUID leaves lower case. -/
theorem PartitionUuid.ofString_lower {uuid} (h : PartitionUuid.ofString value = .ok uuid) :
    ∀ canonical, uuid = some canonical → normalizedUuid canonical.value = canonical.value := by
  rintro canonical rfl
  unfold PartitionUuid.ofString at h
  split_ifs at h with hempty
  · cases h
  · cases hcan : CanonicalUuid.ofString value "partition UUID" with
    | error e =>
      rw [hcan] at h
      cases h
    | ok read =>
      rw [hcan] at h
      obtain rfl := Option.some.inj (Except.ok.inj h)
      obtain ⟨-, hvalue⟩ := CanonicalUuid.ofString_iff.mp hcan
      rw [hvalue, normalizedUuid_idem]

/-- A constructor that checks an identifier. -/
theorem validateIdentifier_map {f} {a : α} :
    (validateIdentifier value name).map f = .ok a ↔ ∃ h, f ⟨h⟩ = a := by
  unfold validateIdentifier
  by_cases h : identifierOk value = true
  · simp [Except.map, h]
  · simp [Except.map, h]

theorem MapperName.ofString_iff {mapper} :
    MapperName.ofString value = .ok mapper ↔ identifierOk value = true ∧ mapper.value = value := by
  obtain ⟨text, hvalid⟩ := mapper
  rw [MapperName.ofString, validateIdentifier_map, eq_comm (a := text)]
  simp

theorem SourceId.ofString_iff {id : SourceId} :
    SourceId.ofString value = .ok id ↔ identifierOk value = true ∧ id.value = value := by
  obtain ⟨text, hvalid⟩ := id
  rw [SourceId.ofString, validateIdentifier_map, eq_comm (a := text)]
  simp

theorem RetentionCount.ofNat_iff {value : Nat} {count} :
    RetentionCount.ofNat value = .ok count ↔ value ≤ retentionCountMaximum ∧
      count.value = value := by
  obtain ⟨num, hbounded⟩ := count
  rw [RetentionCount.ofNat, dite_ok_iff, eq_comm]
  simp

theorem ByteThreshold.ofNat_of_le {value : Nat} (h : value ≤ byteThresholdMaximum) :
    ByteThreshold.ofNat value = .ok ⟨value, h⟩ := by
  unfold ByteThreshold.ofNat
  rw [dif_pos h]

/-- What a relative path was read from is its text. -/
theorem SafeRelativePath.string_of_ofString {path}
    (h : SafeRelativePath.ofString value = .ok path) : path.value.string = value := by
  unfold SafeRelativePath.ofString at h
  split at h
  · cases h
  · split_ifs at h with hsame
    obtain rfl := Except.ok.inj h
    exact not_not.mp hsame

/-- An identifier is a relative path. -/
theorem SafeRelativePath.ofString_identifier (h : identifierOk value = true) :
    ∃ path, SafeRelativePath.ofString value = .ok path := by
  obtain ⟨hname, hdot, hdotdot⟩ := identifierOk_plain h
  have hread : FsPath.ofString value = ⟨false, [value], false, by simpa using hname, by simp⟩ :=
    FsPath.ext_fields (FsPath.ofString_name_absolute hname) (FsPath.namesOf_name hname)
      (FsPath.ofString_name_trailing hname)
  have hstring : (FsPath.ofString value).string = value := by
    rw [hread]
    simp [FsPath.string]
  let path : SafeRelativePath :=
    { value := FsPath.ofString value
      relative := by rw [hread]
      nonempty := by simp [hread]
      untrailed := by rw [hread]
      plain := by simp [hread, hdot, hdotdot] }
  have hpath : path.value.string = value := hstring
  have hback : SafeRelativePath.ofString path.value.string = .ok path := by
    apply SafeRelativePath.ofString_string
    rw [hpath]
    exact (textOk_of_identifierOk h).noNewline
  rw [hpath] at hback
  exact ⟨path, hback⟩

/-! ### Texts put together -/

theorem hasNewline_iff : hasNewline value = false ↔ '\n' ∉ value.toList ∧ '\r' ∉ value.toList := by
  simp [hasNewline]

variable {first second : String} {n : Nat}

theorem hasNewline_append : hasNewline (first ++ second) = false ↔
      hasNewline first = false ∧ hasNewline second = false := by
  simp only [hasNewline_iff, String.toList_append, mem_append, not_or]
  tauto

theorem TextOk.append {m : Nat} (h1 : TextOk first m)
    (h2 : TextOk second n) : TextOk (first ++ second) (m + n) := by
  refine ⟨?_, hasNewline_append.mpr ⟨h1.noNewline, h2.noNewline⟩, ?_⟩
  · rw [String.toList_append, mem_append]
    rintro (h | h)
    · exact h1.noNul h
    · exact h2.noNul h
  · have hfirst := h1.short
    have hsecond := h2.short
    rw [String.utf8ByteSize_append]
    omega

/-- What stands before a text of known size. -/
theorem TextOk.of_append
    (h : TextOk (first ++ second) (n + second.utf8ByteSize)) : TextOk first n := by
  refine ⟨fun hnul => h.noNul ?_, (hasNewline_append.mp h.noNewline).1, ?_⟩
  · rw [String.toList_append]
    exact mem_append_left _ hnul
  · have hshort := h.short
    rw [String.utf8ByteSize_append] at hshort
    omega

/-- The text of a path has no newline if its names have none. -/
theorem hasNewline_string
    (h : ∀ name ∈ path.names, hasNewline name = false) : hasNewline path.string = false := by
  have habsent : ∀ c : Char, c ≠ '/' → (∀ name ∈ path.names, c ∉ name.toList) →
      c ∉ path.string.toList := by
    intro c hsep hnames hc
    rcases FsPath.mem_string hc with rfl | ⟨name, hname, hmem⟩
    · exact hsep rfl
    · exact hnames name hname hmem
  simp only [hasNewline_iff] at h ⊢
  exact ⟨habsent '\n' (by decide) fun name hname => (h name hname).1,
    habsent '\r' (by decide) fun name hname => (h name hname).2⟩

/-- The names of a text have no newline if the text has none. -/
theorem hasNewline_names {text : String} (h : hasNewline text = false)
    (hname : name ∈ (FsPath.ofString text).names) : hasNewline name = false := by
  simp only [hasNewline_iff] at h ⊢
  exact ⟨fun hc => h.1 (FsPath.mem_of_mem_namesOf hname hc),
    fun hc => h.2 (FsPath.mem_of_mem_namesOf hname hc)⟩

namespace Provisioning

/-! ### The directories of the target -/

def mountPointPath (targetMountRoot : String) (id : ProfileId) : FsPath :=
  (FsPath.ofString targetMountRoot).lexicallyNormal / id.value

/-- The directories of the target that a profile names. -/
structure MountRootOk (targetMountRoot : String) (id : ProfileId) : Prop where
  root : PathText targetMountRoot
  /-- ten bytes are left for the name of a directory below the mount point -/
  mountPoint : TextOk (mountPointPath targetMountRoot id).string 4086

section mountPoint

variable {root : String} {id : ProfileId} {name : String}

theorem mountPointPath_string (hname : IsName name) :
    (mountPointPath root id / name : FsPath).string =
      (mountPointPath root id).string ++ "/" ++ name := by
  obtain ⟨-, hnames, htrail⟩ :=
    FsPath.div_name id.isPlain.1
  refine FsPath.string_div_name ?_ htrail hname
  rw [mountPointPath, hnames]
  simp

/-- A directory below the mount point, normalised. -/
theorem targetDirectory_normal (h : PathText root) (hname : IsPlain name) :
    (FsPath.ofString (FsPath.ofString root / id.value / name : FsPath).string).lexicallyNormal
      = mountPointPath root id / name := by
  have habs : (FsPath.ofString root).absolute = true :=
    ofString_absolute_iff.mpr h.absolute
  have hbelow : (FsPath.ofString root / id.value : FsPath).absolute = true := by
    rw [(FsPath.div_name id.isPlain.1).1]
    exact habs
  rw [FsPath.ofString_string, FsPath.lexicallyNormal_div_name hbelow hname.1 hname.2.1 hname.2.2,
    FsPath.lexicallyNormal_div_name habs id.isPlain.1 id.isPlain.2.1 id.isPlain.2.2]
  rfl

/-- The mount point itself. -/
theorem mountPointOf_iff : (∃ mountPoint, mountPointOf root id = .ok mountPoint) ↔ PathText root ∧
        hasNewline (mountPointPath root id).string = false := by
  unfold mountPointOf
  simp only [bind_eq_ok, normalizedAbsolutePath_iff]
  constructor
  · rintro ⟨mountPoint, _, ⟨hroot, rfl⟩, hmount⟩
    exact ⟨hroot, (AbsolutePath.ofString_iff.mp hmount).1.noNewline⟩
  · rintro ⟨hroot, hnl⟩
    let mountPoint : AbsolutePath :=
      ⟨mountPointPath root id,
        FsPath.div_name_isNormal hroot.isNormal id.isPlain.1 id.isPlain.2.1 id.isPlain.2.2⟩
    have hread : AbsolutePath.ofString mountPoint.value.string "target.mountPoint" =
        .ok mountPoint := AbsolutePath.ofString_string hnl
    exact ⟨mountPoint, _, ⟨hroot, rfl⟩, hread⟩

theorem startsWith_append_left {stem : String} :
    startsWith (stem ++ first) (stem ++ second) = startsWith first second := by
  rw [Bool.eq_iff_iff]
  simp only [startsWith, List.isPrefixOf_iff_prefix, String.toList_append,
    prefix_append_right_inj]

/-- The two directories below the mount point do not lie in each other. -/
theorem separateTexts_below (stem : String) :
    SeparateTexts (stem ++ "/" ++ "snapshots") (stem ++ "/" ++ ".incoming") := by
  refine ⟨?_, ?_, ?_⟩
  · intro h
    rw [← String.toList_inj] at h
    simp only [String.toList_append, append_cancel_left_eq] at h
    exact absurd h (by decide)
  · rw [String.append_assoc, String.append_assoc, String.append_assoc, startsWith_append_left]
    decide
  · rw [String.append_assoc, String.append_assoc, String.append_assoc, startsWith_append_left]
    decide

/-- The directories of the target can be written if the mount point leaves room for
their names. -/
theorem writablePaths_iff {paths}
    (hrem : paths.remoteRoot.value = mountPointPath root id / "snapshots")
    (hinc : paths.incomingRoot.value = mountPointPath root id / ".incoming") :
    WritablePaths paths ↔ TextOk (mountPointPath root id).string 4086 := by
  have hremoteText := (congrArg FsPath.string hrem).trans (mountPointPath_string (by decide))
  have hincText := (congrArg FsPath.string hinc).trans (mountPointPath_string (by decide))
  constructor
  · intro h
    have htext := h.remoteRoot
    rw [hremoteText, String.append_assoc] at htext
    exact TextOk.of_append htext
  · intro h
    refine ⟨?_, ?_, ?_⟩
    · have hname : TextOk ("/" ++ "snapshots") 10 := ⟨by decide, by decide, by decide⟩
      rw [hremoteText, String.append_assoc]
      exact h.append hname
    · have hname : TextOk ("/" ++ ".incoming") 10 := ⟨by decide, by decide, by decide⟩
      rw [hincText, String.append_assoc]
      exact h.append hname
    · rw [hremoteText, hincText]
      exact separateTexts_below _

end mountPoint

/-- An absolute path whose names have no newline. -/
structure OneLine (path : FsPath) : Prop where
  absolute : path.absolute = true
  names : ∀ name ∈ path.names, hasNewline name = false

theorem OneLine.div (h : OneLine path) (hname : IsName name)
    (hnl : hasNewline name = false) : OneLine (path / name) := by
  obtain ⟨habs, hnames, -⟩ := FsPath.div_name hname
  refine ⟨habs.trans h.absolute, ?_⟩
  intro item hitem
  rw [hnames] at hitem
  rcases mem_append.mp hitem with hitem | hitem
  · exact h.names item hitem
  · rw [mem_singleton.mp hitem]
    exact hnl

theorem OneLine.pathText (h : OneLine path) : PathText path.string := by
  refine ⟨?_, hasNewline_string h.names⟩
  rw [← ofString_absolute_iff, FsPath.ofString_string]
  exact h.absolute

theorem oneLine_of_pathText {text : String} (h : PathText text) : OneLine (FsPath.ofString text) :=
  ⟨ofString_absolute_iff.mpr h.absolute, fun _ => hasNewline_names h.noNewline⟩

variable {root : String} {β ε : Type} {as : List α} {a : α} {id : ProfileId}

/-- The paths of the target are accepted when they are below an accepted mount root. -/
theorem pathText_mountPoint (id : ProfileId) (h : PathText root) :
    PathText (FsPath.ofString root / id.value : FsPath).string :=
  ((oneLine_of_pathText h).div id.isPlain.1 (textOk_of_identifierOk id.valid).noNewline).pathText

theorem pathText_below (id : ProfileId) (name : String)
    (h : PathText root) (hname : IsName name) (hnl : hasNewline name = false) :
    PathText (FsPath.ofString root / id.value / name : FsPath).string :=
  (((oneLine_of_pathText h).div id.isPlain.1 (textOk_of_identifierOk id.valid).noNewline).div hname
    hnl).pathText

/-! ### The device of the target -/

theorem uuid_isPlain (h : uuidPatternOk value = true) : IsPlain value := by
  obtain ⟨hchars, hlen⟩ := uuidPatternOk_chars h
  have hshort : ∀ text : String, text.toList.length ≠ 36 → value ≠ text := by
    rintro text htext rfl
    exact htext hlen
  refine ⟨⟨hshort "" (by decide), ?_⟩, hshort "." (by decide), hshort ".." (by decide)⟩
  intro hsep
  exact absurd (hchars '/' hsep) (by decide)

section device

variable {luksUuid : String} (h : uuidPatternOk luksUuid = true)

include h

theorem ofString_byUuid :
    FsPath.ofString ("/dev/disk/by-uuid/" ++ luksUuid) =
      (FsPath.ofString "/dev/disk/by-uuid" / luksUuid : FsPath) := by
  have hstring : (FsPath.ofString "/dev/disk/by-uuid" / luksUuid : FsPath).string =
      "/dev/disk/by-uuid/" ++ luksUuid :=
    FsPath.string_div_name (by decide) (by decide) (uuid_isPlain h).1
  rw [← hstring, FsPath.ofString_string]

/-- The device is named by the UUID that it was formatted with. -/
theorem byUuid_isNormal : (FsPath.ofString ("/dev/disk/by-uuid/" ++ luksUuid)).IsNormal := by
  obtain ⟨hname, hdot, hdotdot⟩ := uuid_isPlain h
  rw [ofString_byUuid h]
  exact FsPath.div_name_isNormal ⟨by decide, by decide⟩ hname hdot hdotdot

theorem byUuid_textOk : TextOk ("/dev/disk/by-uuid/" ++ luksUuid) 4096 := by
  obtain ⟨hchars, hlen⟩ := uuidPatternOk_chars h
  have hdir : TextOk "/dev/disk/by-uuid/" 18 := ⟨by decide, by decide, by decide⟩
  have huuid : TextOk luksUuid 4078 := textOk_of_serialChars hchars (by omega)
  exact hdir.append huuid

theorem byUuid_string :
    (FsPath.ofString ("/dev/disk/by-uuid/" ++ luksUuid)).string =
      "/dev/disk/by-uuid/" ++ luksUuid := by
  rw [ofString_byUuid h]
  exact FsPath.string_div_name (by decide) (by decide) (uuid_isPlain h).1

theorem TargetDevicePath_byUuid : ∃ device : TargetDevicePath,
      TargetDevicePath.ofString ("/dev/disk/by-uuid/" ++ luksUuid) = .ok device ∧
        device.value.string = "/dev/disk/by-uuid/" ++ luksUuid := by
  have hnorm := byUuid_isNormal h
  have hinside : FsPath.pathIsWithin (FsPath.ofString ("/dev/disk/by-uuid/" ++ luksUuid))
      (FsPath.ofString "/dev") = true := by
    have hdev : (FsPath.ofString "/dev").IsNormal := ⟨by decide, by decide⟩
    rw [FsPath.pathIsWithin_iff hnorm hdev (by decide), ofString_byUuid h,
      (FsPath.div_name (uuid_isPlain h).1).2.1]
    exact List.IsPrefix.trans (by decide) (prefix_append _ _)
  let device : TargetDevicePath :=
    ⟨⟨FsPath.ofString ("/dev/disk/by-uuid/" ++ luksUuid), hnorm⟩, hinside⟩
  have hstring : device.value.string = "/dev/disk/by-uuid/" ++ luksUuid := byUuid_string h
  have hread : TargetDevicePath.ofString device.value.string = .ok device := by
    apply TargetDevicePath.ofString_string
    rw [hstring]
    exact (byUuid_textOk h).noNewline
  rw [hstring] at hread
  exact ⟨device, hread, hstring⟩

end device

/-! ### The sources -/

/-- What the constructors ask of a source. -/
structure SourceOk (answers : ProfileWizardAnswers) (source : ProfileWizardSourceAnswers) :
    Prop where
  id : identifierOk source.id = true
  remoteSubdir : ∃ path, SafeRelativePath.ofString source.remoteSubdir = .ok path
  subvolume : PathText source.subvolume
  localSnapshotDir : PathText source.localSnapshotDir
  remoteRetention : source.remoteRetention.getD answers.remoteRetention ≤ retentionCountMaximum
  localRetention : source.localRetention.getD answers.localRetention ≤ retentionCountMaximum

/-- The source of the profile is made of the answers. -/
structure BuiltSource (source : ProfileWizardSourceAnswers) (result : ProfileSource) : Prop where
  id : result.id.value = source.id
  name : result.name = if source.name = "" then source.id else source.name
  enabled : result.enabled = true
  subvolume : result.subvolume.value = (FsPath.ofString source.subvolume).lexicallyNormal
  localSnapshotDir :
    result.localSnapshotDir.value = (FsPath.ofString source.localSnapshotDir).lexicallyNormal
  remoteSubdir : result.remoteSubdir.value.string = source.remoteSubdir

section wizardSources

variable {answers : ProfileWizardAnswers} {srcs : List ProfileWizardSourceAnswers}

theorem wizardSources_eq_ok {used res} (h : wizardSources answers used srcs = .ok res) :
    (∀ src ∈ srcs, SourceOk answers src) ∧ List.Forall₂ BuiltSource srcs res := by
  induction srcs generalizing used res with
  | nil =>
    obtain rfl := Except.ok.inj h
    exact ⟨forall_mem_nil _, .nil⟩
  | cons src srcs ih =>
    simp only [wizardSources, bind_eq_ok, ite_error_eq_ok, AbsolutePath.ofString_iff,
      SourceId.ofString_iff, RetentionCount.ofNat_iff] at h
    obtain ⟨id, ⟨hid, hidValue⟩, remoteSubdir, hremSub, -, subvolume,
      ⟨hsub, hsubvolumeValue⟩, localDir, ⟨hlocal, hlocalDirValue⟩, remoteRetention,
      ⟨hremoteRetention, -⟩, localRetention, ⟨hlocalRetention, -⟩, rest, hrest, h⟩ := h
    obtain rfl := Except.ok.inj h
    obtain ⟨hsrcs, hbuilt⟩ := ih hrest
    have hsrc : SourceOk answers src :=
      ⟨hid, ⟨_, hremSub⟩, hsub, hlocal, hremoteRetention, hlocalRetention⟩
    refine ⟨forall_mem_cons.mpr ⟨hsrc, hsrcs⟩, .cons ?_ hbuilt⟩
    exact ⟨hidValue, rfl, rfl, hsubvolumeValue, hlocalDirValue,
      SafeRelativePath.string_of_ofString hremSub⟩

theorem wizardSources_of_ok {used} (h : ∀ src ∈ srcs, SourceOk answers src)
    (hids : (srcs.map (·.id)).Nodup) (hnew : ∀ src ∈ srcs, src.id ∉ used) :
    ∃ res, wizardSources answers used srcs = .ok res := by
  induction srcs generalizing used with
  | nil => exact ⟨[], rfl⟩
  | cons src srcs ih =>
    obtain ⟨hsrc, hsrcs⟩ := forall_mem_cons.mp h
    obtain ⟨hsourceNew, hsourcesNew⟩ := forall_mem_cons.mp hnew
    rw [map_cons, nodup_cons] at hids
    -- the name of this source is used from now on
    have hrest : ∃ res, wizardSources answers (src.id :: used) srcs = .ok res := by
      refine ih hsrcs hids.2 fun other hother hmem => ?_
      rcases mem_cons.mp hmem with heq | hmem
      · exact hids.1 (heq ▸ mem_map_of_mem hother)
      · exact hsourcesNew other hother hmem
    obtain ⟨rest, hrest⟩ := hrest
    obtain ⟨remoteSubdir, hremSub⟩ := hsrc.remoteSubdir
    simp only [wizardSources, bind_eq_ok, ite_error_eq_ok, AbsolutePath.ofString_iff,
      SourceId.ofString_iff, RetentionCount.ofNat_iff]
    exact ⟨_, ⟨src.id, hsrc.id⟩, ⟨hsrc.id, rfl⟩, remoteSubdir, hremSub, hsourceNew,
      ⟨_, hsrc.subvolume.isNormal⟩, ⟨hsrc.subvolume, rfl⟩,
      ⟨_, hsrc.localSnapshotDir.isNormal⟩, ⟨hsrc.localSnapshotDir, rfl⟩,
      ⟨_, hsrc.remoteRetention⟩, ⟨hsrc.remoteRetention, rfl⟩,
      ⟨_, hsrc.localRetention⟩, ⟨hsrc.localRetention, rfl⟩, rest, hrest, rfl⟩

end wizardSources

/-! ### Lists side by side -/

theorem exists_of_mem_left {R} {bs : List β}
    (h : List.Forall₂ R as bs) (ha : a ∈ as) : ∃ b ∈ bs, R a b := by
  induction h with
  | nil => cases ha
  | cons hhead _ ih =>
    rcases mem_cons.mp ha with rfl | ha
    · exact ⟨_, mem_cons_self, hhead⟩
    · obtain ⟨b, hb, hr⟩ := ih ha
      exact ⟨b, mem_cons_of_mem _ hb, hr⟩

theorem exists_of_mem_right {R} {bs : List β}
    (h : List.Forall₂ R as bs) {b : β} (hb : b ∈ bs) : ∃ a ∈ as, R a b :=
  exists_of_mem_left h.flip hb

theorem map_eq_of_forall₂ {γ : Type} {R} {bs : List β} {f : α → γ} {g : β → γ}
    (h : List.Forall₂ R as bs) (hfg : ∀ a b, R a b → f a = g b) : as.map f = bs.map g := by
  rw [← forall₂_eq_eq_eq, forall₂_map_left_iff, forall₂_map_right_iff]
  exact h.imp hfg

/-! ### The numbers of the sources -/

theorem sourceId_identifierOk : ∀ index < 128, identifierOk (sourceId index) = true := by
  decide +kernel

theorem sourceAnswers_ids (index : Nat) (srcs : List DevicePreparationSource) :
    (sourceAnswers index srcs).map (·.id) = (List.range' index srcs.length).map sourceId := by
  induction srcs generalizing index with
  | nil => rfl
  | cons src srcs ih =>
    rw [sourceAnswers, map_cons, ih, length_cons, range'_succ, map_cons]
    rfl

/-- The number at the end of an identifier of a source; zero for the first one. -/
def sourceNumber (id : String) : Nat :=
  (id.toList.drop 7).foldl (fun number digit => 10 * number + (digit.toNat - 48)) 0

theorem sourceNumber_sourceId : ∀ index < 128,
    sourceNumber (sourceId index) = if index = 0 then 0 else index + 1 := by
  decide +kernel

/-- As many sources as a profile may have are told apart by their numbers. -/
theorem sourceIds_nodup {count : Nat} (h : count ≤ 128) :
    ((List.range' 0 count).map sourceId).Nodup := by
  refine List.Nodup.map_on ?_ nodup_range'
  intro first hfirst second hsecond heq
  rw [mem_range'_1] at hfirst hsecond
  have hnumbers := congrArg sourceNumber heq
  rw [sourceNumber_sourceId _ (by omega), sourceNumber_sourceId _ (by omega)] at hnumbers
  split_ifs at hnumbers
  all_goals omega

/-- The answers are about the sources, each under a number of its own. -/
theorem sourceAnswers_forall₂ (index : Nat) (srcs : List DevicePreparationSource) :
    List.Forall₂ (fun src ans => ∃ num < index + srcs.length,
      ans = sourceAnswer num src) srcs (sourceAnswers index srcs) := by
  induction srcs generalizing index with
  | nil => exact .nil
  | cons src srcs ih =>
    refine .cons ⟨index, by simp, rfl⟩ ((ih (index + 1)).imp ?_)
    rintro other ans ⟨num, hnum, hans⟩
    refine ⟨num, ?_, hans⟩
    rw [length_cons]
    omega

theorem mem_sourceAnswers {index : Nat} {srcs ans} (h : ans ∈ sourceAnswers index srcs) :
    ∃ src ∈ srcs, ∃ num < index + srcs.length, ans = sourceAnswer num src :=
  exists_of_mem_right (sourceAnswers_forall₂ index srcs) h

/-! ### Sources that do not get in each other's way -/

theorem sparesAll_iff {seen : SeenSources} {srcs} : seen.SparesAll srcs ↔
      ((srcs.map (·.id.value)).Nodup ∧ ∀ src ∈ srcs, src.id.value ∉ seen.ids) ∧
      ((srcs.map (·.localSnapshotDir.value.string)).Nodup ∧
        ∀ src ∈ srcs, src.localSnapshotDir.value.string ∉ seen.localDirs) ∧
      ((srcs.map (·.remoteSubdir.value.string)).Nodup ∧
        ∀ src ∈ srcs, src.remoteSubdir.value.string ∉ seen.remoteSubdirs) := by
  induction srcs generalizing seen with
  | nil => simp [SeenSources.SparesAll]
  | cons src srcs ih =>
    have hspares : seen.Spares src ↔ src.id.value ∉ seen.ids ∧
        src.localSnapshotDir.value.string ∉ seen.localDirs ∧
        src.remoteSubdir.value.string ∉ seen.remoteSubdirs :=
      ⟨fun h => ⟨h.id, h.localDir, h.remoteSubdir⟩, fun h => ⟨h.1, h.2.1, h.2.2⟩⟩
    -- a new value: not seen before, and not among those that come
    have hpart : ∀ (part : ProfileSource → String) (old : List String),
        ((part src ∉ old) ∧ (srcs.map part).Nodup ∧
          ∀ other ∈ srcs, part other ∉ part src :: old) ↔
        ((src :: srcs).map part).Nodup ∧ ∀ other ∈ src :: srcs, part other ∉ old := by
      intro part old
      rw [forall_mem_cons]
      simp only [map_cons, nodup_cons, mem_cons, not_or, mem_map, not_exists,
        not_and]
      constructor
      · rintro ⟨hnew, hnodup, hrest⟩
        exact ⟨⟨fun other hother => (hrest other hother).1, hnodup⟩, hnew,
          fun other hother => (hrest other hother).2⟩
      · rintro ⟨⟨hne, hnodup⟩, hnew, hrest⟩
        exact ⟨hnew, hnodup, fun other hother => ⟨hne other hother, hrest other hother⟩⟩
    rw [SeenSources.SparesAll, ih, hspares, ← hpart (·.id.value), ← hpart
      (·.localSnapshotDir.value.string), ← hpart (·.remoteSubdir.value.string)]
    simp only [SeenSources.add]
    tauto

/-! ### What can be installed -/

/-- The text of a directory. -/
structure DirectoryText (value : String) : Prop where
  absolute : value.toList.head? = some '/'
  text : TextOk value 4096

theorem DirectoryText.pathText (h : DirectoryText value) : PathText value :=
  ⟨h.absolute, h.text.noNewline⟩

/-- What a source must be like. -/
structure InstallableSource (source : DevicePreparationSource) : Prop where
  name : TextOk source.name 160
  subvolume : DirectoryText source.subvolume
  localSnapshotDir : DirectoryText source.localSnapshotDir
  localRetention : source.localRetention ≤ retentionCountMaximum
  remoteRetention : source.remoteRetention ≤ retentionCountMaximum

/-- What a mount root, a request and the UUIDs of the prepared device must be like. -/
structure Installable (targetMountRoot : String) (accepted : AcceptedRequest)
    (luksUuid btrfsUuid partitionUuid : String) : Prop where
  mountRoot : MountRootOk targetMountRoot accepted.profileId
  /-- eleven characters are put in front of the name of the mapper -/
  mapperName : accepted.profileId.value.toList.length ≤ 53
  profileName : TextOk accepted.profileName 160
  profileNamed : accepted.profileName ≠ ""
  serial : serialOk accepted.device.chosen = true
  luksUuid : uuidPatternOk luksUuid = true
  btrfsUuid : uuidPatternOk btrfsUuid = true
  partitionUuid : partitionUuidOk partitionUuid = true
  count : accepted.sources.length ≤ 128
  sources : ∀ source ∈ accepted.sources, InstallableSource source
  localSnapshotDirs : (accepted.sources.map (·.localSnapshotDir)).Nodup

/-- The text of a path that was normalised. -/
def NormalText (value : String) : Prop := ∃ path : FsPath, value = path.lexicallyNormal.string

/-- What an accepted request is like. -/
structure Resolved (sources : List DevicePreparationSource) : Prop where
  nonempty : sources ≠ []
  subvolume : ∀ source ∈ sources, NormalText source.subvolume
  localSnapshotDir : ∀ source ∈ sources, NormalText source.localSnapshotDir

theorem lexicallyNormal_absolute (h : path.lexicallyNormal.absolute = true) :
    path.absolute = true := by
  unfold FsPath.lexicallyNormal at h
  split_ifs at h with hempty hdot
  · exact h
  · cases h
  · exact h

/-- Normalising such a text again leaves it. -/
theorem NormalText.lexicallyNormal (h : NormalText value) (habs : value.toList.head? = some '/') :
    (FsPath.ofString value).lexicallyNormal.string = value := by
  obtain ⟨path, rfl⟩ := h
  rw [← ofString_absolute_iff, FsPath.ofString_string] at habs
  rw [FsPath.ofString_string, FsPath.lexicallyNormal_idem (lexicallyNormal_absolute habs)]

theorem resolveProvisioningSource_normal {mounts}
    {cand} (h : resolveProvisioningSource mounts path id = .ok cand) :
    NormalText cand.path ∧ NormalText cand.localSnapshotRoot := by
  unfold resolveProvisioningSource at h
  split at h
  · cases h
  · obtain ⟨_, -, h⟩ := bind_eq_ok.mp h
    dsimp only at h
    split at h
    · cases h
    · obtain ⟨_, -, h⟩ := bind_eq_ok.mp h
      rw [ite_error_eq_ok] at h
      obtain rfl := Except.ok.inj h.2
      exact ⟨⟨_, rfl⟩, ⟨_, rfl⟩⟩

theorem mapError_eq_ok {δ : Type} {f : ε → δ} {x : Except ε α} :
    x.mapError f = .ok a ↔ x = .ok a := by
  cases x with
  | error e => simp [Except.mapError]
  | ok value => simp [Except.mapError]

theorem resolveRequestedSource_normal {mounts} {requested src : DevicePreparationSource}
    (h : resolveRequestedSource mounts id requested = .ok src) :
    NormalText src.subvolume ∧ NormalText src.localSnapshotDir := by
  unfold resolveRequestedSource at h
  obtain ⟨cand, hcand, h⟩ := bind_eq_ok.mp h
  rw [ite_error_eq_ok] at h
  obtain rfl := Except.ok.inj h.2
  exact resolveProvisioningSource_normal (mapError_eq_ok.mp hcand)

/-- What holds of the result of each call holds of what the loop collects. -/
theorem forall_mem_of_mapM {f : α → Except ε β} {P : β → Prop} (hf : ∀ a b, f a = .ok b → P b) :
    ∀ {as : List α} {bs : List β}, as.mapM f = .ok bs → bs.length = as.length ∧ ∀ b ∈ bs, P b := by
  intro as
  induction as with
  | nil =>
    intro bs h
    obtain rfl := Except.ok.inj (show Except.ok [] = Except.ok bs from h)
    exact ⟨rfl, forall_mem_nil _⟩
  | cons a as ih =>
    intro bs h
    rw [mapM_cons] at h
    obtain ⟨b, hb, h⟩ := bind_eq_ok.mp h
    obtain ⟨rest, hrest, h⟩ := bind_eq_ok.mp h
    obtain rfl := Except.ok.inj h
    obtain ⟨hlen, hall⟩ := ih hrest
    exact ⟨by simp [hlen], forall_mem_cons.mpr ⟨hf a b hb, hall⟩⟩

/-- The sources of an accepted request are resolved. -/
theorem acceptRequest_resolved {mounts request target accepted}
    (h : acceptRequest mounts request target = .ok accepted) : Resolved accepted.sources := by
  unfold acceptRequest at h
  obtain ⟨_, -, h⟩ := bind_eq_ok.mp h
  rw [ite_error_eq_ok] at h
  obtain ⟨hnonempty, h⟩ := h
  obtain ⟨id, -, h⟩ := bind_eq_ok.mp h
  obtain ⟨srcs, hsrcs, h⟩ := bind_eq_ok.mp h
  obtain rfl := Except.ok.inj h
  obtain ⟨hlen, hall⟩ :=
    forall_mem_of_mapM (fun _ _ => resolveRequestedSource_normal) hsrcs
  refine ⟨?_, fun src hsrc => (hall src hsrc).1, fun src hsrc => (hall src hsrc).2⟩
  rintro rfl
  rw [length_nil, eq_comm, length_eq_zero_iff] at hlen
  exact hnonempty (by rw [hlen]; rfl)

/-! ### The sources of the document -/

section documentSources

variable {srcs : List DevicePreparationSource} {results : List ProfileSource}

/-- A source can be written if its texts can. -/
theorem writableSource_iff {num : Nat} {src res} (hnum : num < 128)
    (hsub : (FsPath.ofString src.subvolume).lexicallyNormal.string = src.subvolume)
    (hlocal : (FsPath.ofString src.localSnapshotDir).lexicallyNormal.string = src.localSnapshotDir)
    (hbuilt : BuiltSource (sourceAnswer num src) res) : WritableSource res ↔
    TextOk src.name 160 ∧ TextOk src.subvolume 4096 ∧ TextOk src.localSnapshotDir 4096 := by
  have hid : identifierOk (sourceId num) = true := sourceId_identifierOk num hnum
  obtain ⟨hnul, hnl, hshort⟩ := textOk_of_identifierOk hid
  have hname : res.name = if src.name = "" then sourceId num else src.name :=
    hbuilt.name
  replace hsub := (congrArg FsPath.string hbuilt.subvolume).trans hsub
  replace hlocal := (congrArg FsPath.string hbuilt.localSnapshotDir).trans hlocal
  rw [← hsub, ← hlocal]
  constructor
  · intro h
    refine ⟨?_, h.subvolume, h.localSnapshotDir⟩
    by_cases hempty : src.name = ""
    · rw [hempty]
      exact ⟨by decide, by decide, by decide⟩
    · have htext := h.name
      rwa [hname, if_neg hempty] at htext
  · rintro ⟨htext, hsub, hlocal⟩
    refine ⟨?_, ?_, hsub, hlocal, ?_⟩
    · rw [hname]
      split_ifs
      · exact ⟨hnul, hnl, hshort.trans (by decide)⟩
      · exact htext
    · rw [hname]
      split_ifs with hempty
      · exact (identifierOk_chars hid).2.2
      · exact hempty
    · rw [hbuilt.remoteSubdir]
      exact ⟨hnul, hnl, hshort.trans (by decide)⟩

variable (hbuilt : List.Forall₂ BuiltSource (sourceAnswers 0 srcs) results)

include hbuilt

theorem results_length : results.length = srcs.length :=
  hbuilt.length_eq.symm.trans (sourceAnswers_forall₂ ..).length_eq.symm

/-- The local directories of the profile are those of the request. -/
theorem localSnapshotDirs_eq (hresolved : Resolved srcs)
    (hpaths : ∀ src ∈ srcs, PathText src.localSnapshotDir) :
    results.map (·.localSnapshotDir.value.string) = srcs.map (·.localSnapshotDir) := by
  have hnorm : ∀ directory ∈ srcs.map (·.localSnapshotDir),
      (FsPath.ofString directory).lexicallyNormal.string = directory := by
    intro directory hdir
    obtain ⟨src, hsrc, rfl⟩ := mem_map.mp hdir
    exact (hresolved.localSnapshotDir src hsrc).lexicallyNormal (hpaths src hsrc).absolute
  calc results.map (·.localSnapshotDir.value.string)
      = (sourceAnswers 0 srcs).map
          (fun ans => (FsPath.ofString ans.localSnapshotDir).lexicallyNormal.string) := by
        refine (map_eq_of_forall₂ hbuilt fun ans res h => ?_).symm
        rw [h.localSnapshotDir]
    _ = ((sourceAnswers 0 srcs).map (·.localSnapshotDir)).map
          (fun directory => (FsPath.ofString directory).lexicallyNormal.string) := by
        rw [map_map]
        rfl
    _ = (srcs.map (·.localSnapshotDir)).map
          (fun directory => (FsPath.ofString directory).lexicallyNormal.string) := by
        congr 1
        refine (map_eq_of_forall₂ (sourceAnswers_forall₂ 0 srcs) ?_).symm
        rintro src ans ⟨num, -, rfl⟩
        rfl
    _ = srcs.map (·.localSnapshotDir) := by
        rw [map_congr_left hnorm, map_id']

theorem resultIds_eq : results.map (·.id.value) = (List.range' 0 srcs.length).map sourceId := by
  rw [← sourceAnswers_ids]
  exact (map_eq_of_forall₂ hbuilt fun _ _ h => h.id.symm).symm

/-- A source lies in the directory of its own identifier. -/
theorem resultSubdirs_eq :
    results.map (·.remoteSubdir.value.string) = (List.range' 0 srcs.length).map sourceId := by
  rw [← sourceAnswers_ids]
  have hsubdirs : (sourceAnswers 0 srcs).map (·.remoteSubdir) =
      results.map (·.remoteSubdir.value.string) :=
    map_eq_of_forall₂ hbuilt fun _ _ h => h.remoteSubdir.symm
  rw [← hsubdirs]
  refine map_congr_left fun ans hans => ?_
  obtain ⟨src, -, num, -, rfl⟩ := mem_sourceAnswers hans
  rfl

theorem writableSources_of_installable (hresolved : Resolved srcs)
    (hcount : srcs.length ≤ 128) (hsrcs : ∀ src ∈ srcs, InstallableSource src)
    (hdirs : (srcs.map (·.localSnapshotDir)).Nodup) : WritableSources results := by
  have hlen := results_length hbuilt
  have hne : results ≠ [] := by
    rintro rfl
    exact hresolved.nonempty (length_eq_zero_iff.mp hlen.symm)
  refine ⟨hne, by omega, ?_, ?_, ?_⟩
  · intro res hres
    obtain ⟨ans, hans, hsrc⟩ := exists_of_mem_right hbuilt hres
    obtain ⟨src, hmem, num, hnum, rfl⟩ := mem_sourceAnswers hans
    obtain ⟨hname, hsub, hlocal, -, -⟩ := hsrcs src hmem
    exact (writableSource_iff (by omega)
      ((hresolved.subvolume src hmem).lexicallyNormal hsub.absolute)
      ((hresolved.localSnapshotDir src hmem).lexicallyNormal hlocal.absolute) hsrc).mpr
      ⟨hname, hsub.text, hlocal.text⟩
  · have hids := sourceIds_nodup hcount
    rw [sparesAll_iff, resultIds_eq hbuilt, resultSubdirs_eq hbuilt,
      localSnapshotDirs_eq hbuilt hresolved
        fun src hsrc => (hsrcs src hsrc).localSnapshotDir.pathText]
    exact ⟨⟨hids, fun _ _ => not_mem_nil⟩, ⟨hdirs, fun _ _ => not_mem_nil⟩,
      hids, fun _ _ => not_mem_nil⟩
  · obtain ⟨res, rest, rfl⟩ := exists_cons_of_ne_nil hne
    obtain ⟨ans, -, hsrc⟩ := exists_of_mem_right hbuilt mem_cons_self
    simp [hsrc.enabled]

theorem installable_of_writableSources {answers} (hresolved : Resolved srcs)
    (hok : ∀ ans ∈ sourceAnswers 0 srcs, SourceOk answers ans) (h : WritableSources results) :
    srcs.length ≤ 128 ∧ (∀ src ∈ srcs, InstallableSource src) ∧
      (srcs.map (·.localSnapshotDir)).Nodup := by
  have hlen := results_length hbuilt
  have hcount := h.count
  have hsrcs : ∀ src ∈ srcs, InstallableSource src := by
    intro src hsrc
    obtain ⟨_, hans, num, hnum, rfl⟩ :=
      exists_of_mem_left (sourceAnswers_forall₂ 0 srcs) hsrc
    have hsourceOk := hok _ hans
    obtain ⟨res, hres, hmade⟩ := exists_of_mem_left hbuilt hans
    obtain ⟨hname, hsub, hlocal⟩ := (writableSource_iff (by omega)
      ((hresolved.subvolume src hsrc).lexicallyNormal hsourceOk.subvolume.absolute)
      ((hresolved.localSnapshotDir src hsrc).lexicallyNormal
        hsourceOk.localSnapshotDir.absolute) hmade).mp (h.each res hres)
    exact ⟨hname, ⟨hsourceOk.subvolume.absolute, hsub⟩,
      ⟨hsourceOk.localSnapshotDir.absolute, hlocal⟩, hsourceOk.localRetention,
      hsourceOk.remoteRetention⟩
  have hdirs := (sparesAll_iff.mp h.apart).2.1.1
  rw [localSnapshotDirs_eq hbuilt hresolved
    fun src hsrc => (hsrcs src hsrc).localSnapshotDir.pathText] at hdirs
  exact ⟨by omega, hsrcs, hdirs⟩

end documentSources

/-! ### The profile -/

/-- Eleven characters in front of an identifier. -/
theorem mapperName_iff (id : ProfileId) :
    identifierOk ("backupdisk-" ++ id.value) = true ↔ id.value.toList.length ≤ 53 := by
  have hchars := (identifierOk_chars id.valid).1
  have hall : (id.value.toList.all isIdentifierChar) = true := all_eq_true.mpr hchars
  have htext : ("backupdisk-" ++ id.value).toList =
      'b' :: ("ackupdisk-".toList ++ id.value.toList) := by
    rw [String.toList_append]
    rfl
  unfold identifierOk
  rw [htext]
  simp only [all_append, hall, Bool.and_true, Bool.and_eq_true, decide_eq_true_eq,
    length_append]
  constructor
  · rintro ⟨-, hlen⟩
    have hfixed : "ackupdisk-".toList.length = 10 := by decide
    omega
  · intro hlen
    have hfixed : "ackupdisk-".toList.length = 10 := by decide
    exact ⟨by decide, by omega⟩

section wizardProfile

variable {root luksUuid btrfsUuid partitionUuid : String} {accepted : AcceptedRequest}
  {prof : Profile}

/-- What the constructors ask of a preparation besides the mount root. -/
structure Prepared (accepted : AcceptedRequest) (luksUuid btrfsUuid partitionUuid : String)
    (answers : ProfileWizardAnswers) : Prop where
  mapperName : accepted.profileId.value.toList.length ≤ 53
  luksUuid : uuidPatternOk luksUuid = true
  btrfsUuid : uuidPatternOk btrfsUuid = true
  partitionUuid : partitionUuidOk partitionUuid = true
  sources : ∀ answer ∈ sourceAnswers 0 accepted.sources, SourceOk answers answer

/-- The profile is made of what is known of the preparation. -/
structure Built (targetMountRoot : String) (accepted : AcceptedRequest) (luksUuid : String)
    (profile : Profile) : Prop where
  fresh : profile.Fresh
  id : profile.id = accepted.profileId
  name : profile.name = accepted.profileName
  device : profile.target.device.value.string = "/dev/disk/by-uuid/" ++ luksUuid
  serial : profile.target.serial = accepted.device.chosen
  activation : profile.target.activation = .askPassword
  remoteRoot : profile.paths.remoteRoot.value = (FsPath.ofString
    (FsPath.ofString targetMountRoot / accepted.profileId.value / "snapshots" :
      FsPath).string).lexicallyNormal
  incomingRoot : profile.paths.incomingRoot.value = (FsPath.ofString
    (FsPath.ofString targetMountRoot / accepted.profileId.value / ".incoming" :
      FsPath).string).lexicallyNormal
  sources : List.Forall₂ BuiltSource (sourceAnswers 0 accepted.sources) profile.sources

theorem wizardProfile_eq_ok
    (h : wizardProfile (provisionedAnswers root accepted luksUuid btrfsUuid
      partitionUuid) = .ok prof) :
    Prepared accepted luksUuid btrfsUuid partitionUuid
        (provisionedAnswers root accepted luksUuid btrfsUuid partitionUuid) ∧
      Built root accepted luksUuid prof := by
  unfold wizardProfile at h
  simp only [bind_eq_ok, CanonicalUuid.ofString_iff, MapperName.ofString_iff,
    AbsolutePath.ofString_iff] at h
  obtain ⟨id, hid, luks, ⟨hluks, hluksValue⟩, btrfs, ⟨hbtrfs, hbtrfsValue⟩, partition,
    hpartition, mapper, ⟨hmap, -⟩, remoteRoot, ⟨-, hremRoot⟩, incomingRoot,
    ⟨-, hincRoot⟩, device, hdevice, mountPoint, -, activation, hactivation, srcs,
    hsrcs, _, -, _, -, _, -, _, -, h⟩ := h
  obtain rfl := Except.ok.inj h
  obtain rfl := Except.ok.inj (accepted.profileId.ofString_value.symm.trans hid)
  obtain rfl := Except.ok.inj (show Except.ok .askPassword = Except.ok activation from hactivation)
  obtain ⟨hsourcesOk, hsourcesBuilt⟩ := wizardSources_eq_ok hsrcs
  obtain ⟨read, hread, hdeviceText⟩ := TargetDevicePath_byUuid hluks
  obtain rfl := Except.ok.inj (hread.symm.trans hdevice)
  refine ⟨⟨(mapperName_iff _).mp hmap, hluks, hbtrfs,
    PartitionUuid.ofString_iff.mp ⟨_, hpartition⟩, hsourcesOk⟩, ?_⟩
  -- the constructors leave the UUIDs in lower case
  have hlower : ∀ {uuid : CanonicalUuid} {text : String}, uuid.value = normalizedUuid text →
      normalizedUuid uuid.value = uuid.value := by
    intro uuid text htext
    rw [htext, normalizedUuid_idem]
  refine ⟨⟨rfl, rfl, hlower hluksValue, hlower hbtrfsValue,
    PartitionUuid.ofString_lower hpartition⟩, rfl, rfl, hdeviceText, rfl, rfl, hremRoot,
    hincRoot, hsourcesBuilt⟩

theorem wizardProfile_of_prepared (hroot : PathText root) (hcount : accepted.sources.length ≤ 128)
    (h : Prepared accepted luksUuid btrfsUuid partitionUuid
      (provisionedAnswers root accepted luksUuid btrfsUuid partitionUuid)) :
    ∃ prof, wizardProfile (provisionedAnswers root accepted luksUuid btrfsUuid
      partitionUuid) = .ok prof := by
  have hsrcs : ∃ res, wizardSources (provisionedAnswers root accepted luksUuid
      btrfsUuid partitionUuid) [] (sourceAnswers 0 accepted.sources) = .ok res := by
    refine wizardSources_of_ok h.sources ?_ fun _ _ => not_mem_nil
    rw [sourceAnswers_ids]
    exact sourceIds_nodup hcount
  obtain ⟨srcs, hsrcs⟩ := hsrcs
  obtain ⟨partition, hpartition⟩ := PartitionUuid.ofString_iff.mpr h.partitionUuid
  obtain ⟨device, hdevice, -⟩ := TargetDevicePath_byUuid h.luksUuid
  have hbelow : ∀ name, IsName name → hasNewline name = false → PathText
      (FsPath.ofString root / accepted.profileId.value / name : FsPath).string :=
    fun name => pathText_below accepted.profileId name hroot
  have hremRoot := hbelow "snapshots" (by decide) (by decide)
  have hincRoot := hbelow ".incoming" (by decide) (by decide)
  have hmount := pathText_mountPoint accepted.profileId hroot
  have hmap := (mapperName_iff accepted.profileId).mpr h.mapperName
  have hretention : 30 ≤ retentionCountMaximum := by decide
  have htargetFree : 5 * 1024 * 1024 * 1024 ≤ byteThresholdMaximum := by decide
  have hlocalFree : 1024 * 1024 * 1024 ≤ byteThresholdMaximum := by decide
  unfold wizardProfile
  simp only [bind_eq_ok, CanonicalUuid.ofString_iff, MapperName.ofString_iff,
    AbsolutePath.ofString_iff, RetentionCount.ofNat_iff]
  exact ⟨_, _, accepted.profileId.ofString_value,
    ⟨_, uuidPatternOk_lower h.luksUuid⟩, ⟨h.luksUuid, rfl⟩,
    ⟨_, uuidPatternOk_lower h.btrfsUuid⟩, ⟨h.btrfsUuid, rfl⟩, _, hpartition,
    ⟨_, hmap⟩, ⟨hmap, rfl⟩, ⟨_, hremRoot.isNormal⟩, ⟨hremRoot, rfl⟩,
    ⟨_, hincRoot.isNormal⟩, ⟨hincRoot, rfl⟩, _, hdevice,
    ⟨_, hmount.isNormal⟩, ⟨hmount, rfl⟩, _, rfl, _, hsrcs,
    -- the defaults of the settings
    ⟨_, hretention⟩, ⟨hretention, rfl⟩, ⟨_, hretention⟩, ⟨hretention, rfl⟩,
    _, ByteThreshold.ofNat_of_le htargetFree, _, ByteThreshold.ofNat_of_le hlocalFree, rfl⟩

/-! ### The document -/

/-- What the constructors build can be written if and only if the texts can. -/
theorem writable_iff (hroot : PathText root) (hluks : uuidPatternOk luksUuid = true)
    (hbuilt : Built root accepted luksUuid prof) : Writable prof ↔ TextOk accepted.profileName 160 ∧
    accepted.profileName ≠ "" ∧ serialOk accepted.device.chosen = true ∧
    TextOk (mountPointPath root accepted.profileId).string 4086 ∧ WritableSources prof.sources := by
  have hrem := hbuilt.remoteRoot
  have hinc := hbuilt.incomingRoot
  rw [targetDirectory_normal hroot (by decide)] at hrem hinc
  have hpaths := writablePaths_iff hrem hinc
  constructor
  · intro h
    have hname := h.name
    have hnamed := h.named
    have hserial := h.target.serial
    rw [hbuilt.name] at hname hnamed
    rw [hbuilt.serial] at hserial
    exact ⟨hname, hnamed, hserial, hpaths.mp h.paths, h.sources⟩
  · rintro ⟨hname, hnamed, hserial, hmount, hsrcs⟩
    refine ⟨hbuilt.name ▸ hname, hbuilt.name ▸ hnamed, ?_, hpaths.mpr hmount, hsrcs⟩
    refine ⟨?_, ?_, hbuilt.serial ▸ hserial, ?_⟩
    · rw [hbuilt.device]
      exact byUuid_textOk hluks
    · rw [hbuilt.device, Bool.or_eq_true]
      right
      rw [startsWith, List.isPrefixOf_iff_prefix, String.toList_append]
      exact List.IsPrefix.trans (by decide) (prefix_append _ _)
    · intro keyFile hkeyFile
      rw [hbuilt.activation] at hkeyFile
      cases hkeyFile

end wizardProfile

/-- **The profile of an accepted request is built exactly when its values are installable.**
The request was accepted with other values as well. -/
theorem provisioned_installable_iff (mounts : List MountEntry) (request : DevicePreparationRequest)
    (target : DevicePreparationTarget) (accepted : AcceptedRequest)
    (haccepted : acceptRequest mounts request target = .ok accepted)
    (targetMountRoot luksUuid btrfsUuid partitionUuid : String) :
    (∃ profile, ProvisionedProfileBuilder.build targetMountRoot accepted luksUuid btrfsUuid
        partitionUuid = .ok profile) ↔
      Installable targetMountRoot accepted luksUuid btrfsUuid partitionUuid := by
  have hresolved := acceptRequest_resolved haccepted
  constructor
  · rintro ⟨_, hbuild⟩
    obtain ⟨installed, hanswers, -⟩ := bind_eq_ok.mp hbuild
    obtain ⟨profile, hprofile, hdocument⟩ := bind_eq_ok.mp hanswers
    obtain ⟨hprepared, hbuilt⟩ := wizardProfile_eq_ok hprofile
    obtain ⟨hwritable, mountPoint, hmountPoint, -⟩ :=
      (profileFromJson_profileToJson hbuilt.fresh).mp hdocument
    have hroot : PathText targetMountRoot := (mountPointOf_iff.mp ⟨mountPoint, hmountPoint⟩).1
    obtain ⟨hname, hnamed, hserial, hmounted, hsources⟩ :=
      (writable_iff hroot hprepared.luksUuid hbuilt).mp hwritable
    obtain ⟨hcount, hinstallable, hdirs⟩ :=
      installable_of_writableSources hbuilt.sources hresolved hprepared.sources hsources
    exact ⟨⟨hroot, hmounted⟩, hprepared.mapperName, hname, hnamed, hserial, hprepared.luksUuid,
      hprepared.btrfsUuid, hprepared.partitionUuid, hcount, hinstallable, hdirs⟩
  · intro h
    have hprepared : Prepared accepted luksUuid btrfsUuid partitionUuid
        (provisionedAnswers targetMountRoot accepted luksUuid btrfsUuid partitionUuid) := by
      refine ⟨h.mapperName, h.luksUuid, h.btrfsUuid, h.partitionUuid, fun answer hanswer => ?_⟩
      obtain ⟨source, hsource, number, hnumber, rfl⟩ := mem_sourceAnswers hanswer
      have hcount := h.count
      have hid : identifierOk (sourceId number) = true := sourceId_identifierOk _ (by omega)
      have hinstallable := h.sources source hsource
      exact ⟨hid, SafeRelativePath.ofString_identifier hid, hinstallable.subvolume.pathText,
        hinstallable.localSnapshotDir.pathText, hinstallable.remoteRetention,
        hinstallable.localRetention⟩
    obtain ⟨profile, hprofile⟩ := wizardProfile_of_prepared h.mountRoot.root h.count hprepared
    obtain ⟨-, hbuilt⟩ := wizardProfile_eq_ok hprofile
    have hwritable : Writable profile := (writable_iff h.mountRoot.root h.luksUuid hbuilt).mpr
      ⟨h.profileName, h.profileNamed, h.serial, h.mountRoot.mountPoint,
        writableSources_of_installable hbuilt.sources hresolved h.count h.sources
          h.localSnapshotDirs⟩
    obtain ⟨mountPoint, hmountPoint⟩ :=
      mountPointOf_iff.mpr ⟨h.mountRoot.root, h.mountRoot.mountPoint.noNewline⟩
    rw [← hbuilt.id] at hmountPoint
    have hdocument := (profileFromJson_profileToJson hbuilt.fresh).mpr
      ⟨hwritable, mountPoint, hmountPoint, rfl⟩
    exact ⟨_, bind_ok (bind_ok hprofile hdocument) rfl⟩

namespace InstallationSample

def mounts : List MountEntry :=
  [⟨"/dev/sda2", "/home", "btrfs", "/", "rw,relatime", 30, "0:40", "fs-uuid"⟩]

/-- A disk with a serial number. -/
def disk (serial : String) : StorageDevice where
  candidateId := "disk-1"
  identity := ⟨"/dev/sdb", "8:16", "/sys/block/sdb", "", serial, serial, 2 ^ 40⟩
  displayName := "disk"
  transport := "usb"
  sizeBytes := 2 ^ 40
  logicalSectorSize := 512
  physicalSectorSize := 512
  removable := true
  readOnly := false
  hotplug := true
  systemDevice := false
  partitionTable := ⟨.gpt, "table"⟩
  filesystem := ⟨"", "", "", ""⟩
  regions := []
  mountPoints := []
  holders := []
  activeSwap := false
  blockers := []

/-- The whole disk is erased. -/
def target (serial : String) : DevicePreparationTarget where
  mode := .eraseWholeDevice
  device := disk serial
  partition := none
  freeRegion := none
  plannedPartitionGeometry := some ⟨2048, 2 ^ 30, 1⟩
  expectedInspection := none

def request (profileId : String) : DevicePreparationRequest where
  profileId := profileId
  profileName := "Laptop"
  planId := "plan-1"
  sourceCandidateId := ""
  sources := [⟨"source-1", "Home", "/home", "", "", "", 7, 30⟩]
  passphraseLabel := "passphrase"
  createAutomaticKey := true

/-- What is kept of the request. -/
def accepted (profileId : ProfileId) (serial : String) : AcceptedRequest where
  profileId := profileId
  profileName := "Laptop"
  device := ⟨serial, serial⟩
  sources := [⟨"source-1", "Home", "/home", "fs-uuid", "/home",
    "/home/.snapshots/btrfs-backup/" ++ profileId.value, 7, 30⟩]
  createAutomaticKey := true

def uuid : String := "0f0e0d0c-0b0a-4908-8706-050403020100"

theorem laptop_installed : acceptRequest mounts (request "laptop") (target "WD-12") =
        .ok (accepted ⟨"laptop", by decide⟩ "WD-12") ∧
      ∃ profile, ProvisionedProfileBuilder.build "/mnt/btrfs-backup"
        (accepted ⟨"laptop", by decide⟩ "WD-12") uuid uuid uuid = .ok profile := by
  have haccepted : acceptRequest mounts (request "laptop") (target "WD-12") =
      .ok (accepted ⟨"laptop", by decide⟩ "WD-12") := by decide +kernel
  refine ⟨haccepted, (provisioned_installable_iff _ _ _ _ haccepted _ _ _ _).mpr ?_⟩
  have hsource : InstallableSource ⟨"source-1", "Home", "/home", "fs-uuid", "/home",
      "/home/.snapshots/btrfs-backup/laptop", 7, 30⟩ :=
    ⟨⟨by decide, by decide, by decide⟩, ⟨by decide, by decide, by decide, by decide⟩,
      ⟨by decide, by decide, by decide, by decide⟩, by decide, by decide⟩
  exact ⟨⟨⟨by decide, by decide⟩, ⟨by decide +kernel, by decide +kernel, by decide +kernel⟩⟩,
    by decide, ⟨by decide, by decide, by decide⟩, by decide, by decide, by decide, by decide,
    by decide, by decide, fun source h => mem_singleton.mp h ▸ hsource, by decide⟩

/-- A profile identifier of fifty-four characters, of the sixty-four that are allowed. -/
def longId : String := "a23456789-b23456789-c23456789-d23456789-e23456789-f234"

/-- The request is accepted and the disk erased; then the name of the mapper is too long, or
the serial number, which has a space in it, is refused. -/
theorem accepted_not_installed : (acceptRequest mounts (request longId) (target "WD-12") =
        .ok (accepted ⟨longId, by decide⟩ "WD-12") ∧
      ProvisionedProfileBuilder.build "/mnt/btrfs-backup"
        (accepted ⟨longId, by decide⟩ "WD-12") uuid uuid uuid =
          .error (validationError "mapper name contains unsupported characters")) ∧
    (acceptRequest mounts (request "laptop") (target "WD 12") =
        .ok (accepted ⟨"laptop", by decide⟩ "WD 12") ∧
      ProvisionedProfileBuilder.build "/mnt/btrfs-backup"
        (accepted ⟨"laptop", by decide⟩ "WD 12") uuid uuid uuid =
          .error (validationError "target.serial contains unsupported characters")) := by
  decide +kernel

end InstallationSample

end Provisioning

end BtrfsBackup
