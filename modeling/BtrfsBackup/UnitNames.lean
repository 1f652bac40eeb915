/-
The names of the units of a target.

A target is activated by an instance of `btrfs-backup-target@.service`, and the mount unit that is
rendered for the profile requires that instance.  An eject, and the end of a run that has mounted
the target, stop it by the name that `target_activation_unit_name` makes.

* `targetActivationUnitName`, `targetDeviceUnitName` — names with the characters escaped;
* `targetMountUnit` — the settings of the mount unit, and `renderTargetMountUnit` its text;
* `unit_names_agree_iff` — when the two names are the same;
* `mount_unit_name_iff` — the names of mount units, by the rules of systemd and in the code.
-/
import BtrfsBackup.IncomingSeparation
import BtrfsBackup.BrowseBackend

namespace BtrfsBackup

open List

/-! ### Escaping -/

/-- What is written for a byte of a name. -/
def escapeUnitByte (value : Nat) : List Char :=
  if systemdUnitPlainChar value then [Char.ofNat value] else systemdHexEscape value

/-- What is written for a character: its bytes, escaped or not. -/
def escapeUnitChar (c : Char) : List Char :=
  ((String.utf8EncodeChar c).map UInt8.toNat).flatMap escapeUnitByte

/-- `target_activation_unit_name`: what `TargetService` stops when it ejects, and what the target
session of a run stops at its end or when it could not be prepared. -/
def targetActivationUnitName (profileId : String) : String :=
  "btrfs-backup-target@" ++ String.ofList (profileId.toList.flatMap escapeUnitChar) ++ ".service"

/-- `target_device_unit_name`. -/
def targetDeviceUnitName (device : FsPath) : String :=
  let path := device.lexicallyNormal.string.toList
  let relative := if path.head? = some '/' then path.tail else path
  let escaped := relative.flatMap fun c => if c = '/' then ['-'] else escapeUnitChar c
  (if escaped.isEmpty then "-" else String.ofList escaped) ++ ".device"

theorem one_le_length_escapeUnitChar (c : Char) : 1 ≤ (escapeUnitChar c).length := by
  have hbytes : 0 < (String.utf8EncodeChar c).length := by
    rw [String.length_utf8EncodeChar]
    exact c.utf8Size_pos
  obtain ⟨byte, rest, hcons⟩ := exists_cons_of_length_pos hbytes
  have hbyte : 1 ≤ (escapeUnitByte byte.toNat).length := by
    unfold escapeUnitByte
    split
    · exact le_rfl
    · exact Nat.le_add_left 1 3
  rw [escapeUnitChar, hcons, map_cons, flatMap_cons, length_append]
  omega

theorem length_le_escaped (text : List Char) :
    text.length ≤ (text.flatMap escapeUnitChar).length := by
  induction text with
  | nil => exact Nat.le_refl 0
  | cons c text ih =>
    have hone := one_le_length_escapeUnitChar c
    rw [flatMap_cons, length_append, length_cons]
    omega

/-- A hyphen is written as four characters, so the text gets longer. -/
theorem escaped_ne_of_hyphen {text : List Char} (h : '-' ∈ text) :
    text.flatMap escapeUnitChar ≠ text := by
  intro heq
  obtain ⟨pre, rest, rfl⟩ := append_of_mem h
  have hlen := congrArg List.length heq
  have hpre := length_le_escaped pre
  have hrest := length_le_escaped rest
  have hhyphen : (escapeUnitChar '-').length = 4 := by decide
  simp only [flatMap_append, flatMap_cons, length_append, length_cons] at hlen
  omega

/-- The other characters of an identifier are written as they are. -/
theorem escapeUnitChar_of_identifier {c : Char} (h : isIdentifierChar c = true) (hne : c ≠ '-') :
    escapeUnitChar c = [c] := by
  have hall : ∀ n < 128, isIdentifierChar (Char.ofNat n) = true → Char.ofNat n ≠ '-' →
      escapeUnitChar (Char.ofNat n) = [Char.ofNat n] := by
    decide +kernel
  have hascii : c.toNat < 128 := by
    have hle : ∀ d : Char, d.toNat < 128 → c ≤ d → c.toNat < 128 :=
      fun d hd hcd => lt_of_le_of_lt (UInt32.le_iff_toNat_le.mp hcd) hd
    simp only [isIdentifierChar, isAlnum, Bool.or_eq_true, Bool.and_eq_true, decide_eq_true_eq,
      beq_iff_eq] at h
    rcases h with ((((h | h) | h) | rfl) | rfl) | rfl
    · exact hle 'Z' (by decide) h.2
    · exact hle 'z' (by decide) h.2
    · exact hle '9' (by decide) h.2
    · decide
    · decide
    · decide
  have hcode : Char.ofNat c.toNat = c := Char.ofNat_toNat c
  rw [← hcode] at h hne ⊢
  exact hall c.toNat hascii h hne

/-! ### The mount unit -/

/-- The sections of a unit file with their settings. -/
abbrev UnitFile := List (String × List (String × String))

/-- The values of a setting that can be given more than once. -/
def UnitFile.values (file : UnitFile) (title key : String) : List String :=
  (file.filter (·.1 = title)).flatMap fun group =>
    (group.2.filter (·.1 = key)).map Prod.snd

/-- The text of a unit file. -/
def UnitFile.text (file : UnitFile) : String :=
  "\n".intercalate <| file.map fun group =>
    "[" ++ group.1 ++ "]\n" ++ String.join (group.2.map fun line => line.1 ++ "=" ++ line.2 ++ "\n")

/-- The settings that `render_target_mount_unit` writes. -/
def targetMountUnit (profile : Profile) : UnitFile :=
  let profileId := profile.id.value
  let deviceUnit := targetDeviceUnitName profile.target.device.value
  [("Unit",
      [("Description", "Encrypted Btrfs backup target for profile " ++ profileId),
       ("Documentation", "file:/usr/share/doc/btrfs-backup/README.md"),
       ("BindsTo", deviceUnit),
       ("Requires", "btrfs-backup-target@" ++ profileId ++ ".service"),
       ("After", deviceUnit),
       ("After", "btrfs-backup-target@" ++ profileId ++ ".service"),
       ("Before", "btrfs-backup@" ++ profileId ++ ".service")]),
    ("Mount",
      [("What", "/dev/mapper/" ++ profile.target.mapperName.value),
       ("Where", profile.target.mountPoint.value.string),
       ("Type", "btrfs"),
       ("Options", "noatime,nodev,nosuid,noexec,nosymfollow,compress=zstd"),
       ("TimeoutSec", "60s")])]

/-- `render_target_mount_unit`. -/
def renderTargetMountUnit (profile : Profile) : String := (targetMountUnit profile).text

theorem requires_targetMountUnit (prof : Profile) :
    (targetMountUnit prof).values "Unit" "Requires" =
      ["btrfs-backup-target@" ++ prof.id.value ++ ".service"] := by
  rfl

theorem after_targetMountUnit (prof : Profile) : (targetMountUnit prof).values "Unit" "After" =
      [targetDeviceUnitName prof.target.device.value,
        "btrfs-backup-target@" ++ prof.id.value ++ ".service"] := by
  rfl

theorem append_between_inj {pre inner inner' rest : String} :
    pre ++ inner ++ rest = pre ++ inner' ++ rest ↔ inner.toList = inner'.toList := by
  rw [← String.toList_inj]
  simp only [String.toList_append, append_cancel_right_eq, append_cancel_left_eq]

/-- The instance in the mount unit is the one that is stopped if the identifier needs no escape. -/
theorem targetActivationUnitName_eq_iff (id : ProfileId) :
    targetActivationUnitName id.value = "btrfs-backup-target@" ++ id.value ++ ".service" ↔
      '-' ∉ id.value.toList := by
  refine append_between_inj.trans ?_
  rw [String.toList_ofList]
  constructor
  · intro heq hmem
    exact escaped_ne_of_hyphen hmem heq
  · intro hnot
    calc id.value.toList.flatMap escapeUnitChar
      _ = id.value.toList.flatMap fun c => [c] := flatMap_congr fun c hc => ?_
      _ = id.value.toList := flatMap_singleton' _
    refine escapeUnitChar_of_identifier ((identifierOk_chars id.valid).1 c hc) ?_
    rintro rfl
    exact hnot hc

/-- The unit that an eject and the end of a run stop is the one that the mount unit of the profile
requires and is ordered after if and only if there is no hyphen in the identifier of the profile. -/
theorem unit_names_agree_iff (profile : Profile) :
    ((targetMountUnit profile).values "Unit" "Requires" =
        [targetActivationUnitName profile.id.value] ∧
      targetActivationUnitName profile.id.value ∈ (targetMountUnit profile).values "Unit" "After") ↔
      '-' ∉ profile.id.value.toList := by
  rw [← targetActivationUnitName_eq_iff, requires_targetMountUnit, after_targetMountUnit]
  constructor
  · rintro ⟨hrequires, -⟩
    exact (singleton_inj.mp hrequires).symm
  · intro h
    rw [h]
    exact ⟨rfl, by simp⟩

/-- The unit of the profile `my-laptop` is stopped under a name that nothing requires. -/
theorem hyphen_unit_differs :
    let profile : Profile := { Sample.documentProfile with id := ⟨"my-laptop", by decide⟩ }
    targetActivationUnitName profile.id.value = "btrfs-backup-target@my\\x2dlaptop.service" ∧
      (targetMountUnit profile).values "Unit" "Requires" =
        ["btrfs-backup-target@my-laptop.service"] ∧
      targetActivationUnitName profile.id.value ∉
        (targetMountUnit profile).values "Unit" "After" := by
  decide +kernel

/-! ### The names of mount units -/

/-- `systemd_mount_unit_name` (`platform/linux/systemd/SystemdUnit`), of the bytes of
`mount_point.lexically_normal().string()`. -/
def systemdMountUnitName (bytes : List UInt8) : String :=
  let bytes := bytes.map UInt8.toNat
  let path := bytes.take 1 ++ ((bytes.drop 1).reverse.dropWhile (· = 0x2f)).reverse
  if path = [0x2f] then "-.mount"
  else
    let escaped := escapeUnitPath [] false (if path.head? = some 0x2f then path.tail else path)
    String.ofList (if escaped = [] then ['-'] else escaped) ++ ".mount"

/-- No slash at the front, after another slash or at the end. -/
def slashesApart (afterSlash : Bool) : List UInt8 → Bool
  | [] => !afterSlash
  | byte :: rest =>
      if byte = 0x2f then !afterSlash && slashesApart true rest else slashesApart false rest

/-- An absolute path in normal form, without a slash at its end: the bytes after the first
slash.  (Names `.` and `..` need not be excluded.) -/
@[ext]
structure NormalPath where
  rest : List UInt8
  apart : rest = [] ∨ slashesApart true rest = true

def NormalPath.bytes (path : NormalPath) : List UInt8 := 0x2f :: path.rest

/-- What systemd writes for a byte after the first. -/
def escapePathByte (byte : UInt8) : List Char :=
  if byte = 0x2f then ['-'] else escapeUnitByte byte.toNat

/-- The unit name of a path by the rules of systemd: a dot at the front is escaped too. -/
def NormalPath.unitName (path : NormalPath) : String :=
  String.ofList (match path.rest with
    | [] => ['-']
    | first :: rest => (if first = 0x2e then systemdHexEscape 0x2e else escapePathByte first) ++
        rest.flatMap escapePathByte) ++ ".mount"

/-- The loop after the first byte. -/
theorem escapeUnitPath_of_apart (path : List UInt8) {escaped : List Char} (hne : escaped ≠ [])
    {previousSlash : Bool} (h : slashesApart previousSlash path = true) :
    escapeUnitPath escaped previousSlash (path.map UInt8.toNat) =
      escaped ++ path.flatMap escapePathByte := by
  induction path generalizing escaped previousSlash with
  | nil => simp [escapeUnitPath]
  | cons byte rest ih =>
    rw [slashesApart] at h
    rw [map_cons, escapeUnitPath, flatMap_cons, escapePathByte, ← append_assoc]
    split at h
    · next hslash =>
      subst hslash
      obtain ⟨hprev, hrest⟩ := Bool.and_eq_true_iff.mp h
      simp [hne, hprev, ih _ hrest]
    · next hslash =>
      have hbyte : byte.toNat ≠ 0x2f := fun h => hslash (UInt8.toNat.inj h)
      rw [if_neg hbyte, if_neg hslash]
      exact ih (append_ne_nil_of_left_ne_nil hne _) h

variable {afterSlash : Bool} {text' : List Char}

theorem getLast?_of_apart (path : List UInt8)
    (h : slashesApart afterSlash path = true) : path.getLast? ≠ some 0x2f := by
  induction path generalizing afterSlash with
  | nil => nofun
  | cons byte rest ih =>
    cases rest with
    | nil =>
      rintro ⟨⟩
      simp [slashesApart] at h
    | cons next rest =>
      rw [slashesApart] at h
      rw [getLast?_cons_cons]
      split at h
      · exact ih (Bool.and_eq_true_iff.mp h).2
      · exact ih h

/-- There is no slash at the end to be removed. -/
theorem trimmed_of_apart {path : List UInt8} (h : slashesApart afterSlash path = true) :
    ((path.map UInt8.toNat).reverse.dropWhile (· = 0x2f)).reverse = path.map UInt8.toNat := by
  refine rdropWhile_eq_self_iff.mpr fun hne hslash => getLast?_of_apart path h ?_
  rw [getLast_map, decide_eq_true_iff] at hslash
  rw [getLast?_eq_some_getLast (by simpa using hne)]
  exact congrArg some (UInt8.toNat.inj (hslash : _ = UInt8.toNat 0x2f))

/-- What is escaped: the path, or a slash for the root. -/
def NormalPath.named (path : NormalPath) : List UInt8 :=
  if path.rest = [] then [0x2f] else path.rest

theorem systemdMountUnitName_eq (path : NormalPath) : systemdMountUnitName path.bytes =
      String.ofList (path.named.flatMap escapePathByte) ++ ".mount" := by
  obtain ⟨_ | ⟨first, rest⟩, hempty | hapart⟩ := path
  · rfl
  · cases hapart
  · cases hempty
  have htrimmed := trimmed_of_apart hapart
  rw [slashesApart] at hapart
  split at hapart
  · cases hapart
  next hfirst =>
  have hbyte : first.toNat ≠ 0x2f := fun h => hfirst (UInt8.toNat.inj h)
  have hkept : escapeUnitByte first.toNat ≠ [] := by
    unfold escapeUnitByte
    split <;> simp [systemdHexEscape]
  have hescaped : escapeUnitPath [] false ((first :: rest).map UInt8.toNat) =
      (first :: rest).flatMap escapePathByte := by
    rw [map_cons, escapeUnitPath, if_neg hbyte, flatMap_cons, escapePathByte,
      if_neg hfirst]
    exact escapeUnitPath_of_apart rest hkept hapart
  have hne : (first :: rest).flatMap escapePathByte ≠ [] := by
    simp [escapePathByte, hfirst, hkept]
  have hpath : ((0x2f :: first :: rest).map UInt8.toNat).take 1 ++
      ((((0x2f :: first :: rest).map UInt8.toNat).drop 1).reverse.dropWhile (· = 0x2f)).reverse =
        0x2f :: (first :: rest).map UInt8.toNat := congrArg (0x2f :: ·) htrimmed
  unfold systemdMountUnitName NormalPath.bytes
  dsimp only
  rw [hpath, if_neg (by simp), head?_cons, if_pos rfl, tail_cons, hescaped, if_neg hne]
  rfl

/-- The first character of an escape says how long it is. -/
theorem length_escapePathByte (byte : UInt8) : (escapePathByte byte).length =
    if (escapePathByte byte).head? = some '\\' then 4 else 1 := by
  have hall : ∀ n < 256, (escapePathByte (UInt8.ofNat n)).length =
      if (escapePathByte (UInt8.ofNat n)).head? = some '\\' then 4 else 1 := by
    decide +kernel
  simpa using hall byte.toNat byte.toNat_lt

theorem escapePathByte_ne_nil (byte : UInt8) : escapePathByte byte ≠ [] := by
  intro hnil
  have hlen := length_escapePathByte byte
  simp [hnil] at hlen

/-- The byte that an escape was written for. -/
def unescapePathByte : List Char → Nat
  | [c] => if c = '-' then 0x2f else c.toNat
  | [_, _, high, low] =>
      let digit (c : Char) := if c.toNat < 0x3a then c.toNat - 0x30 else c.toNat - 0x57
      16 * digit high + digit low
  | _ => 0

/-- The escapes of bytes can be told apart. -/
theorem escapePathByte_append_inj {byte byte' : UInt8} {text : List Char}
    (h : escapePathByte byte ++ text = escapePathByte byte' ++ text') :
    byte = byte' ∧ text = text' := by
  have hread : ∀ n < 256, unescapePathByte (escapePathByte (UInt8.ofNat n)) = n := by
    decide +kernel
  have hhead := congrArg List.head? h
  rw [head?_append_of_ne_nil _ (escapePathByte_ne_nil _),
    head?_append_of_ne_nil _ (escapePathByte_ne_nil _)] at hhead
  obtain ⟨hescape, htext⟩ := append_inj h (by
    rw [length_escapePathByte, length_escapePathByte, hhead])
  have hbyte := hread byte.toNat byte.toNat_lt
  have hbyte' := hread byte'.toNat byte'.toNat_lt
  rw [UInt8.ofNat_toNat] at hbyte hbyte'
  exact ⟨UInt8.toNat.inj (hbyte.symm.trans (hescape ▸ hbyte')), htext⟩

theorem flatMap_escapePathByte_injective : Function.Injective (List.flatMap escapePathByte) := by
  intro path
  induction path with
  | nil =>
    rintro (_ | ⟨byte, rest⟩) h
    · rfl
    · simp [escapePathByte_ne_nil] at h
  | cons byte rest ih =>
    rintro (_ | ⟨byte', rest'⟩) h
    · simp [escapePathByte_ne_nil] at h
    · obtain ⟨rfl, hrest⟩ := escapePathByte_append_inj h
      rw [ih hrest]

theorem append_mount_inj {text : List Char} :
    String.ofList text ++ ".mount" = String.ofList text' ++ ".mount" ↔ text = text' := by
  rw [← String.toList_inj]
  simp

/-- **The names of mount units**: both functions give the same name; it is the name by the
rules of systemd if and only if the path does not begin with a dot; and different paths
have different names. -/
theorem mount_unit_name_iff (path : NormalPath) :
    (∀ mountPoint : FsPath, mountPoint.lexicallyNormal.string.toUTF8.toList = path.bytes →
      targetMountUnitName mountPoint = systemdMountUnitName path.bytes) ∧
    (systemdMountUnitName path.bytes = path.unitName ↔ path.rest.head? ≠ some 0x2e) ∧
    ∀ other : NormalPath,
      systemdMountUnitName other.bytes = systemdMountUnitName path.bytes → other = path := by
  refine ⟨fun mountPoint h => h ▸ rfl, ?_, fun other h => ?_⟩
  · rw [systemdMountUnitName_eq, NormalPath.unitName, append_mount_inj, NormalPath.named]
    cases path.rest with
    | nil => decide
    | cons first rest =>
      rw [if_neg (cons_ne_nil _ _), flatMap_cons]
      by_cases hdot : first = 0x2e
      · subst hdot
        refine iff_of_false (fun h => ?_) (by simp)
        cases h
      · simp [hdot]
  · rw [systemdMountUnitName_eq, systemdMountUnitName_eq, append_mount_inj] at h
    have hnamed := flatMap_escapePathByte_injective h
    have hroot : ¬ slashesApart true [0x2f] = true := by decide
    refine NormalPath.ext ?_
    unfold NormalPath.named at hnamed
    split_ifs at hnamed with hother hpath hpath
    · exact hother.trans hpath.symm
    · exact absurd (hnamed ▸ path.apart.resolve_left hpath) hroot
    · exact absurd (hnamed ▸ other.apart.resolve_left hother) hroot
    · exact hnamed

/-- The dot of `/.snapshots` is not escaped. -/
theorem dot_snapshots_mount :
    let path : NormalPath := ⟨".snapshots".toUTF8.toList, by decide +kernel⟩
    systemdMountUnitName path.bytes = ".snapshots.mount" ∧
      path.unitName = "\\x2esnapshots.mount" := by
  decide +kernel

end BtrfsBackup
