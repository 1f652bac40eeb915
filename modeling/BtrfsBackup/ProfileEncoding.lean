/-
Writing profiles (`config/json/ProfileDocumentEncode`).

`profileToJson` writes a profile as a document.  Reading the document again checks
more than the types of a profile do: how long texts and paths are, which characters
they have, and that the sources do not get in each other's way.

* `Writable` — what a profile must be like for its document to be accepted;
* `profileFromJson_profileToJson` — reading what was written gives the profile back, if
  and only if it is writable.
-/
import BtrfsBackup.ProfileDocument

open OrderedJson

namespace BtrfsBackup

open List

/-! ### Encoding -/

/-- A source of a document. -/
def encodeSource (source : ProfileSource) : Json := .object
  [("id", .string source.id.value), ("name", .string source.name),
    ("enabled", .boolean source.enabled), ("subvolume", .string source.subvolume.value.string),
    ("localSnapshotDir", .string source.localSnapshotDir.value.string),
    ("remoteSubdir", .string source.remoteSubdir.value.string),
    numberField "remoteRetention" source.remoteRetention.value,
    numberField "localRetention" source.localRetention.value]

/-- The activation of a target in a document. -/
def encodeActivation : TargetActivation → Json
  | .askPassword => .object [("mode", .string "askPassword")]
  | .keyFile keyFile =>
      .object [("mode", .string "keyFile"), ("keyFile", .string keyFile.value.string)]

/-- The text of a partition UUID, which may be empty. -/
def PartitionUuid.text (uuid : PartitionUuid) : String :=
  match uuid with
  | none => ""
  | some uuid => uuid.value

/-- The target of a document. -/
def encodeTarget (target : ProfileTarget) : Json := .object
  [("device", .string target.device.value.string), ("luksUuid", .string target.luksUuid.value),
    ("btrfsUuid", .string target.btrfsUuid.value),
    ("partitionUuid", .string target.partitionUuid.text), ("serial", .string target.serial),
    ("mapperName", .string target.mapperName.value),
    ("activation", encodeActivation target.activation)]

/-- The paths of a document. -/
def encodePaths (paths : ProfilePaths) : Json := .object
  [("remoteRoot", .string paths.remoteRoot.value.string),
    ("incomingRoot", .string paths.incomingRoot.value.string)]

/-- The settings of a document. -/
def encodeSettings (settings : ProfileSettings) : Json := .object
  [("dailyLimit", .boolean settings.dailyLimit),
    ("incrementalRequired", .boolean settings.incrementalRequired),
    ("keepFailedLocalSnapshot", .boolean settings.keepFailedLocalSnapshot),
    ("autoEject", .boolean settings.autoEject),
    numberField "remoteRetention" settings.remoteRetention.value,
    numberField "localRetention" settings.localRetention.value,
    numberField "minimumTargetFreeBytes" settings.minimumTargetFreeBytes.value,
    numberField "minimumLocalFreeBytes" settings.minimumLocalFreeBytes.value]

/-- A hook of a document; the time is a signed number. -/
def encodeHook (hook : ProfileHookCommand) : Json := .object
  [("type", .string "program"), ("program", .string hook.program.value.string),
    ("arguments", .array (hook.arguments.map .string)),
    ("timeoutSeconds", .integer (Int64.ofNat hook.timeoutSeconds))]

/-- The hooks of a document. -/
def encodeHooks (hooks : ProfileHooks) : Json := .object
  [("beforeSnapshot", .array (hooks.beforeSnapshot.map encodeHook)),
    ("afterSnapshot", .array (hooks.afterSnapshot.map encodeHook))]

/-- The fields of a document without its generation. -/
def encodeFields (profile : Profile) : List (String × Json) :=
  [("schemaVersion", .integer (Int64.ofInt currentProfileSchemaVersion)),
    ("profileId", .string profile.id.value), ("name", .string profile.name),
    ("enabled", .boolean profile.enabled), ("target", encodeTarget profile.target),
    ("paths", encodePaths profile.paths), ("settings", encodeSettings profile.settings),
    ("hooks", encodeHooks profile.hooks),
    ("sources", .array (profile.sources.map encodeSource))]

/-- `profile_to_json`. -/
def profileToJson (profile : Profile) : Json :=
  if profile.configurationGeneration = "" then .object (encodeFields profile)
  else .object (put "configurationGeneration" (.string profile.configurationGeneration)
    (encodeFields profile))

/-! ### Steps of a check -/

section steps

variable {ε α β : Type} {x : Except ε α} {f : α → Except ε β} {a a' : α} {b : β} {P Q : Prop}
  {next : Unit → Except ε β} {e : ε}

/-- A step whose result is known. -/
theorem bind_ok_iff (hx : x = .ok a) (hf : f a = .ok b ↔ Q) : (x >>= f) = .ok b ↔ Q := by
  rw [hx]
  exact hf

/-- A step that has one possible result. -/
theorem bind_checked_iff (hx : ∀ {a'}, x = .ok a' ↔ P ∧ a = a') (hf : f a = .ok b ↔ Q) :
    (x >>= f) = .ok b ↔ P ∧ Q := by
  rw [bind_eq_ok, ← hf]
  constructor
  · rintro ⟨a', ha, h⟩
    obtain ⟨hP, rfl⟩ := hx.mp ha
    exact ⟨hP, h⟩
  · rintro ⟨hP, h⟩
    exact ⟨a, hx.mpr ⟨hP, rfl⟩, h⟩

theorem guard_iff {c : Prop} [Decidable c]
    (h : next () = .ok b ↔ Q) : (if c then .error e >>= next else next ()) = .ok b ↔ ¬ c ∧ Q := by
  rw [error_bind, ite_error_eq_ok, h]

theorem guardNot_iff {c : Bool} (h : next () = .ok b ↔ Q) :
    (if !c then .error e >>= next else next ()) = .ok b ↔ c = true ∧ Q := by
  rw [guard_iff h, Bool.not_eq_true', Bool.not_eq_false]

theorem ok_iff : (.ok a : Except ε α) = .ok a' ↔ a = a' := by
  rw [Except.ok.injEq]

end steps

/-! ### Texts -/

/-- A text that may be written: its bytes are counted. -/
structure TextOk (value : String) (maximum : Nat) : Prop where
  noNul : Char.ofNat 0 ∉ value.toList
  noNewline : hasNewline value = false
  short : value.utf8ByteSize ≤ maximum

variable {name value res : String} {cfg : ProfileSettings} {prof : Profile} {raw object : Json}
  {target : ProfileTarget} {activation : TargetActivation} {maximum : Nat} {allowEmpty : Bool}
  {c : Char} {paths : ProfilePaths}

theorem text_eq_ok : text (.string value) name allowEmpty maximum = .ok res ↔
    (TextOk value maximum ∧ (allowEmpty = true ∨ value ≠ "")) ∧ value = res := by
  unfold text
  simp only [ite_error_eq_ok, Except.ok.injEq]
  constructor
  · rintro ⟨hchars, hlong, hempty, rfl⟩
    have hnul : Char.ofNat 0 ∉ value.toList := by
      intro hmem
      exact hchars (by simp [hmem])
    have hnl : hasNewline value = false := by
      by_contra hnl
      exact hchars (by simp [Bool.not_eq_false _ ▸ hnl])
    refine ⟨⟨⟨hnul, hnl, by omega⟩, ?_⟩, rfl⟩
    cases allowEmpty with
    | true => exact .inl rfl
    | false =>
      right
      rintro rfl
      exact hempty (by decide)
  · rintro ⟨⟨⟨hnul, hnl, hshort⟩, hempty⟩, rfl⟩
    refine ⟨by simp [hnul, hnl], by omega, ?_, rfl⟩
    rcases hempty with rfl | hne
    · simp
    · simp [hne]

/-- The path of a profile is read back from its text. -/
theorem normalizedAbsolutePath_string {path : FsPath} (hpath : path.IsNormal) {res : FsPath} :
    normalizedAbsolutePath path.string name = .ok res ↔
      hasNewline path.string = false ∧ path = res := by
  have hread : FsPath.ofString path.string = path := FsPath.ofString_string path
  have habs : path.string.toList.head? = some '/' := by
    rw [← ofString_absolute_iff, hread]
    exact hpath.1
  unfold normalizedAbsolutePath
  rw [hread, FsPath.lexicallyNormal_of_isNormal hpath]
  simp [habs, hpath.1]

/-- The text of an absolute path is not empty. -/
theorem AbsolutePath.string_ne_empty (path : AbsolutePath) : path.value.string ≠ "" := by
  intro hempty
  have hread : (FsPath.ofString path.value.string).absolute = true := by
    rw [FsPath.ofString_string]
    exact path.isNormal.1
  rw [hempty] at hread
  cases hread

theorem absolutePath_string {path : AbsolutePath} :
    absolutePath (.string path.value.string) name = .ok res ↔
      TextOk path.value.string 4096 ∧ path.value.string = res := by
  refine (bind_checked_iff text_eq_ok
    (bind_checked_iff (normalizedAbsolutePath_string path.isNormal) (by exact ok_iff))).trans
      ⟨?_, ?_⟩
  · exact fun ⟨⟨hok, _⟩, _, hres⟩ => ⟨hok, hres⟩
  · exact fun ⟨hok, hres⟩ => ⟨⟨hok, .inr path.string_ne_empty⟩, hok.noNewline, hres⟩

/-- The text of a relative path is not empty. -/
theorem SafeRelativePath.string_ne_empty (path : SafeRelativePath) : path.value.string ≠ "" := by
  intro hempty
  have hnames := path.nonempty
  rw [← FsPath.ofString_string path.value, hempty] at hnames
  exact hnames rfl

/-- The path of a source is read back from its text. -/
theorem normalizedRelativePath_string (path : SafeRelativePath) {res : FsPath} :
    normalizedRelativePath path.value.string name = .ok res ↔
      hasNewline path.value.string = false ∧ path.value = res := by
  have hread : FsPath.ofString path.value.string = path.value := FsPath.ofString_string path.value
  have hitems : (path.value.elements.any fun item => item == "" || item == "." || item == "..") =
      false := by
    rw [any_eq_false]
    intro item hitem
    have hmem : item ∈ path.value.names := by
      simpa [FsPath.elements, path.relative, path.untrailed] using hitem
    have hplain := path.plain item hmem
    have hname : item ≠ "" := (path.value.isName item hmem).1
    simp [hplain.1, hplain.2, hname]
  unfold normalizedRelativePath
  rw [hread, FsPath.lexicallyNormal_of_plain path.plain]
  simp [path.string_ne_empty, path.relative, hitems]

theorem relativePath_string {path : SafeRelativePath} :
    relativePath (.string path.value.string) name = .ok res ↔
      TextOk path.value.string 4096 ∧ path.value.string = res := by
  refine (bind_checked_iff text_eq_ok
    (bind_checked_iff (normalizedRelativePath_string path) (by exact ok_iff))).trans ⟨?_, ?_⟩
  · exact fun ⟨⟨hok, _⟩, _, hres⟩ => ⟨hok, hres⟩
  · exact fun ⟨hok, hres⟩ => ⟨⟨hok, .inr path.string_ne_empty⟩, hok.noNewline, hres⟩

/-! ### Texts of letters and digits -/

theorem utf8ByteSize_ofList (chars : List Char) :
    (String.ofList chars).utf8ByteSize = (chars.map Char.utf8Size).sum := by
  induction chars with
  | nil => rfl
  | cons c chars ih =>
    rw [String.ofList_cons, String.utf8ByteSize_append, ih]
    simp

/-- A text of one-byte characters has as many bytes as characters. -/
theorem utf8ByteSize_of_ascii (h : ∀ c ∈ value.toList, c.val ≤ 127) :
    value.utf8ByteSize = value.toList.length := by
  have hsizes : value.toList.map Char.utf8Size = List.replicate value.toList.length 1 := by
    rw [eq_replicate_iff]
    refine ⟨length_map _, ?_⟩
    intro size hsize
    obtain ⟨c, hc, rfl⟩ := mem_map.mp hsize
    have hle := h c hc
    simp [Char.utf8Size, hle]
  have hbytes := utf8ByteSize_ofList value.toList
  rw [String.ofList_toList, hsizes] at hbytes
  simpa using hbytes

/-- A character of `[A-Za-z0-9._:+-]`. -/
def isSerialChar (c : Char) : Bool := isRunIdChar c || c == '+'

theorem isAlnum_iff : isAlnum c = true ↔ (65 ≤ c.val.toNat ∧ c.val.toNat ≤ 90) ∨
    (97 ≤ c.val.toNat ∧ c.val.toNat ≤ 122) ∨ (48 ≤ c.val.toNat ∧ c.val.toNat ≤ 57) := by
  simp only [isAlnum, Bool.or_eq_true, Bool.and_eq_true, decide_eq_true_eq, Char.le_def,
    UInt32.le_iff_toNat_le, or_assoc]
  exact Iff.rfl

/-- Such a character has one byte and is not a control character. -/
theorem isSerialChar_range (h : isSerialChar c = true) : 43 ≤ c.val.toNat ∧ c.val.toNat ≤ 122 := by
  simp only [isSerialChar, isRunIdChar, isIdentifierChar, Bool.or_eq_true, beq_iff_eq,
    isAlnum_iff] at h
  rcases h with (((((h | rfl) | rfl) | rfl) | rfl) | rfl)
  · omega
  all_goals decide

theorem textOk_of_serialChars (h : ∀ c ∈ value.toList, isSerialChar c = true)
    (hlen : value.toList.length ≤ maximum) : TextOk value maximum := by
  have habsent : ∀ c : Char, c.val.toNat < 43 → c ∉ value.toList := by
    intro c hc hmem
    have hrange := isSerialChar_range (h c hmem)
    omega
  refine ⟨habsent _ (by decide), ?_, ?_⟩
  · simp [hasNewline, habsent '\n' (by decide), habsent '\r' (by decide)]
  · rw [utf8ByteSize_of_ascii]
    · exact hlen
    · intro c hc
      have hrange := isSerialChar_range (h c hc)
      rw [UInt32.le_iff_toNat_le]
      show c.val.toNat ≤ 127
      omega

theorem isSerialChar_of_isIdentifierChar (h : isIdentifierChar c = true) :
    isSerialChar c = true := by
  simp [isSerialChar, isRunIdChar, h]

theorem textOk_of_identifierOk (h : identifierOk value = true) : TextOk value 64 := by
  obtain ⟨hchars, hlen, -⟩ := identifierOk_chars h
  exact textOk_of_serialChars (fun c hc => isSerialChar_of_isIdentifierChar (hchars c hc)) hlen

theorem identifier_string (h : identifierOk value = true) :
    identifier (.string value) name = .ok res ↔ value = res := by
  have hne : value ≠ "" := (identifierOk_chars h).2.2
  have htext : text (.string value) name false 64 = .ok value :=
    text_eq_ok.mpr ⟨⟨textOk_of_identifierOk h, .inr hne⟩, rfl⟩
  unfold identifier
  rw [htext]
  simp [bind, Except.bind, validateIdentifier, h, pure, Except.pure]

theorem isSerialChar_of_fitsUuidPlace {place : Char} (h : fitsUuidPlace place c = true) :
    isSerialChar c = true := by
  unfold fitsUuidPlace at h
  split_ifs at h
  · rw [beq_iff_eq] at h
    subst h
    decide
  · refine isSerialChar_of_isIdentifierChar ?_
    have halnum : isAlnum c = true := by
      rw [isHexDigit_iff] at h
      rw [isAlnum_iff]
      omega
    simp [isIdentifierChar, halnum]

/-- The characters of a UUID. -/
theorem uuidPatternOk_chars (h : uuidPatternOk value = true) :
    (∀ c ∈ value.toList, isSerialChar c = true) ∧ value.toList.length = 36 := by
  simp only [uuidPatternOk, Bool.and_eq_true, all_eq_true, beq_iff_eq] at h
  obtain ⟨hlen, hplaces⟩ := h
  refine ⟨?_, hlen⟩
  intro c hc
  obtain ⟨index, hindex, rfl⟩ := getElem_of_mem hc
  have hmem := getElem_mem (l := "xxxxxxxx-xxxx-xxxx-xxxx-xxxxxxxxxxxx".toList.zip value.toList)
    (by rw [length_zip, ← hlen, Nat.min_self]; exact hindex)
  have hfits := hplaces _ hmem
  rw [getElem_zip] at hfits
  exact isSerialChar_of_fitsUuidPlace hfits

/-- A UUID that is already in lower case. -/
theorem uuidValue_string (h : uuidPatternOk value = true) (hlower : normalizedUuid value = value) :
    uuidValue (.string value) name allowEmpty = .ok res ↔ value = res := by
  obtain ⟨hchars, hlen⟩ := uuidPatternOk_chars h
  have hne : value ≠ "" := by
    rintro rfl
    cases hlen
  have htext : text (.string value) name allowEmpty 64 = .ok value := by
    refine text_eq_ok.mpr ⟨⟨textOk_of_serialChars hchars ?_, .inr hne⟩, rfl⟩
    rw [hlen]
    decide
  unfold uuidValue
  rw [htext]
  simp [bind, Except.bind, h, hlower, hne, pure, Except.pure]

/-- A serial number is a text. -/
theorem textOk_of_serialOk {serial : String} (h : serialOk serial = true) : TextOk serial 256 := by
  unfold serialOk at h
  split at h
  · next hnil =>
    refine textOk_of_serialChars (fun c hc => ?_) ?_
    · rw [hnil] at hc
      cases hc
    · rw [hnil]
      decide
  · next c cs hcons =>
    simp only [Bool.and_eq_true, all_eq_true, decide_eq_true_eq] at h
    obtain ⟨⟨hhead, htail⟩, hlen⟩ := h
    refine textOk_of_serialChars (fun d hd => ?_) ?_
    · rw [hcons] at hd
      rcases mem_cons.mp hd with rfl | hd
      · simp [isSerialChar, isRunIdChar, isIdentifierChar, hhead]
      · exact htail d hd
    · rw [hcons, length_cons]
      omega

/-! ### The parts of a document -/

/-- What the document of a target must be like. -/
structure WritableTarget (target : ProfileTarget) : Prop where
  device : TextOk target.device.value.string 4096
  insideDev : (target.device.value.string == "/dev" ||
    startsWith target.device.value.string "/dev/") = true
  serial : serialOk target.serial = true
  keyFile : ∀ keyFile, target.activation = .keyFile keyFile → TextOk keyFile.value.string 4096

/-- The UUIDs are in lower case, as their constructors leave them. -/
structure ProfileTarget.Lowercase (target : ProfileTarget) : Prop where
  luksUuid : normalizedUuid target.luksUuid.value = target.luksUuid.value
  btrfsUuid : normalizedUuid target.btrfsUuid.value = target.btrfsUuid.value
  partitionUuid : ∀ uuid, target.partitionUuid = some uuid → normalizedUuid uuid.value = uuid.value

variable {key : String}

/-- A member that is an object. -/
theorem requiredObject_eq_ok {fields} (h : raw.lookup key = some (.object fields)) :
    requiredObject raw key name = .ok (.object fields) := by
  unfold requiredObject
  rw [h]

theorem normalizeActivation_encode
    (hlookup : raw.lookup "activation" = some (encodeActivation activation)) {res : Json} :
    normalizeActivation raw = .ok res ↔
      (∀ keyFile, activation = .keyFile keyFile → TextOk keyFile.value.string 4096) ∧
      encodeActivation activation = res := by
  unfold normalizeActivation
  cases activation with
  | askPassword =>
    rw [requiredObject_eq_ok hlookup]
    show Except.ok (encodeActivation .askPassword) = Except.ok res ↔ _
    simp
  | keyFile keyFile =>
    rw [requiredObject_eq_ok hlookup]
    show (absolutePath (.string keyFile.value.string) "target.activation.keyFile" >>= fun text =>
      Except.ok (Json.object [("mode", .string "keyFile"), ("keyFile", .string text)])) =
        Except.ok res ↔ _
    simp [bind_eq_ok, absolutePath_string, encodeActivation]

/-- The UUID of a partition, which may be empty. -/
theorem uuidValue_partition {uuid : PartitionUuid}
    (hlower : ∀ value, uuid = some value → normalizedUuid value.value = value.value) :
    uuidValue (.string uuid.text) name true = .ok res ↔ uuid.text = res := by
  cases uuid with
  | none =>
    show Except.ok "" = Except.ok res ↔ "" = res
    simp
  | some value => exact uuidValue_string value.canonical (hlower value rfl)

theorem normalizeTarget_encode (hlower : target.Lowercase)
    (hlookup : raw.lookup "target" = some (encodeTarget target)) {res : Json} :
    normalizeTarget raw = .ok res ↔ WritableTarget target ∧ encodeTarget target = res := by
  unfold normalizeTarget
  apply Iff.trans
  · apply bind_ok_iff (requiredObject_eq_ok hlookup)
    apply bind_ok_iff rfl
    apply bind_ok_iff rfl
    apply bind_checked_iff absolutePath_string
    apply guardNot_iff
    apply bind_ok_iff rfl
    apply bind_ok_iff ((uuidValue_string target.luksUuid.canonical hlower.luksUuid).mpr rfl)
    apply bind_ok_iff rfl
    apply bind_ok_iff ((uuidValue_string target.btrfsUuid.canonical hlower.btrfsUuid).mpr rfl)
    apply bind_ok_iff rfl
    apply bind_ok_iff ((uuidValue_partition hlower.partitionUuid).mpr rfl)
    apply bind_ok_iff rfl
    apply bind_checked_iff text_eq_ok
    apply guardNot_iff
    apply bind_ok_iff rfl
    apply bind_ok_iff ((identifier_string target.mapperName.valid).mpr rfl)
    apply bind_checked_iff (normalizeActivation_encode rfl)
    exact ok_iff
  constructor
  · rintro ⟨hdevice, hinside, -, hserial, hkeyFile, h⟩
    exact ⟨⟨hdevice, hinside, hserial, hkeyFile⟩, h⟩
  · rintro ⟨⟨hdevice, hinside, hserial, hkeyFile⟩, h⟩
    exact ⟨hdevice, hinside, ⟨textOk_of_serialOk hserial, .inl rfl⟩, hserial, hkeyFile, h⟩

/-- The roots do not lie in each other. -/
structure WritablePaths (paths : ProfilePaths) : Prop where
  remoteRoot : TextOk paths.remoteRoot.value.string 4096
  incomingRoot : TextOk paths.incomingRoot.value.string 4096
  separate : SeparateTexts paths.remoteRoot.value.string paths.incomingRoot.value.string

/-- A member that is an object, if it is there. -/
theorem objectOrEmpty_eq_ok {fields} (h : raw.lookup key = some (.object fields)) :
    objectOrEmpty raw key name = .ok (.object fields) := by
  unfold objectOrEmpty
  rw [h]

theorem normalizePaths_encode {mountPoint : String}
    (hlookup : raw.lookup "paths" = some (encodePaths paths)) {res : Json} :
    normalizePaths raw mountPoint = .ok res ↔ WritablePaths paths ∧ encodePaths paths = res := by
  unfold normalizePaths
  apply Iff.trans
  · apply bind_ok_iff (objectOrEmpty_eq_ok hlookup)
    apply bind_ok_iff rfl
    apply bind_ok_iff rfl
    apply bind_checked_iff absolutePath_string
    apply bind_ok_iff rfl
    apply bind_checked_iff absolutePath_string
    exact ite_error_eq_ok
  simp only [not_or, Bool.not_eq_true]
  constructor
  · rintro ⟨hrem, hinc, hseparate, h⟩
    exact ⟨⟨hrem, hinc, hseparate⟩, ok_iff.mp h⟩
  · rintro ⟨⟨hrem, hinc, hseparate⟩, h⟩
    exact ⟨hrem, hinc, hseparate, ok_iff.mpr h⟩

/-- A number within its bound is read back. -/
theorem integerValue_number {default value : Nat}
    (hlookup : object.lookup key = some (.unsigned (UInt64.ofNat value))) (hvalue : value ≤ maximum)
    (hmaximum : maximum < 2 ^ 64) : integerValue object key name default maximum = .ok value := by
  have hnat : (UInt64.ofNat value).toNat = value := by
    exact UInt64.toNat_ofNat_of_lt' (Nat.lt_of_le_of_lt hvalue hmaximum)
  unfold integerValue
  rw [hlookup]
  simp [hnat, hvalue]

theorem normalizeSettings_encode (hlookup : raw.lookup "settings" = some (encodeSettings cfg)) :
    normalizeSettings raw = .ok (encodeSettings cfg) := by
  unfold normalizeSettings
  rw [objectOrEmpty_eq_ok hlookup]
  refine bind_ok rfl (bind_ok rfl ?_)
  refine bind_ok (integerValue_number rfl cfg.remoteRetention.bounded (by decide)) ?_
  refine bind_ok (integerValue_number rfl cfg.localRetention.bounded (by decide)) ?_
  refine bind_ok rfl (bind_ok rfl (bind_ok rfl (bind_ok rfl ?_)))
  refine bind_ok (integerValue_number rfl cfg.minimumTargetFreeBytes.bounded (by decide)) ?_
  refine bind_ok (integerValue_number rfl cfg.minimumLocalFreeBytes.bounded (by decide)) ?_
  rfl

/-- What the document of a source must be like. -/
structure WritableSource (source : ProfileSource) : Prop where
  name : TextOk source.name 160
  named : source.name ≠ ""
  subvolume : TextOk source.subvolume.value.string 4096
  localSnapshotDir : TextOk source.localSnapshotDir.value.string 4096
  remoteSubdir : TextOk source.remoteSubdir.value.string 4096

/-- The source does not get in the way of those before it. -/
structure SeenSources.Spares (seen : SeenSources) (source : ProfileSource) : Prop where
  id : source.id.value ∉ seen.ids
  localDir : source.localSnapshotDir.value.string ∉ seen.localDirs
  remoteSubdir : source.remoteSubdir.value.string ∉ seen.remoteSubdirs

/-- What has been seen after a source. -/
def SeenSources.add (seen : SeenSources) (source : ProfileSource) : SeenSources :=
  ⟨source.id.value :: seen.ids, source.localSnapshotDir.value.string :: seen.localDirs,
    source.remoteSubdir.value.string :: seen.remoteSubdirs⟩

theorem normalizeSource_encode {src seen} {res : Json × Bool × SeenSources} :
    normalizeSource (encodeSettings cfg)
    (encodeSource src) name seen = .ok res ↔ (WritableSource src ∧ seen.Spares src) ∧
    (encodeSource src, src.enabled, seen.add src) = res := by
  unfold normalizeSource
  apply Iff.trans
  · apply bind_ok_iff rfl
    apply bind_ok_iff rfl
    apply bind_ok_iff ((identifier_string src.id.valid).mpr rfl)
    apply guard_iff
    apply bind_ok_iff rfl
    apply bind_checked_iff absolutePath_string
    apply bind_ok_iff rfl
    apply bind_checked_iff relativePath_string
    apply guard_iff
    apply guard_iff
    apply bind_ok_iff rfl
    apply bind_ok_iff rfl
    apply bind_checked_iff text_eq_ok
    apply bind_ok_iff rfl
    apply bind_checked_iff absolutePath_string
    apply bind_ok_iff rfl
    apply bind_ok_iff rfl
    apply bind_ok_iff (integerValue_number rfl src.remoteRetention.bounded (by decide))
    apply bind_ok_iff rfl
    apply bind_ok_iff rfl
    apply bind_ok_iff (integerValue_number rfl src.localRetention.bounded (by decide))
    exact ok_iff
  simp only [contains_iff_mem]
  constructor
  · rintro ⟨hid, hlocal, hremSub, hlocalNew, hremoteNew, ⟨hname, hnamed⟩, hsub, h⟩
    exact ⟨⟨⟨hname, hnamed.resolve_left Bool.false_ne_true, hsub, hlocal, hremSub⟩,
      ⟨hid, hlocalNew, hremoteNew⟩⟩, h⟩
  · rintro ⟨⟨⟨hname, hnamed, hsub, hlocal, hremSub⟩, hid, hlocalNew, hremoteNew⟩, h⟩
    exact ⟨hid, hlocal, hremSub, hlocalNew, hremoteNew, ⟨hname, .inr hnamed⟩, hsub, h⟩

/-- No source gets in the way of another one. -/
def SeenSources.SparesAll : SeenSources → List ProfileSource → Prop
  | _, [] => True
  | seen, source :: sources => seen.Spares source ∧ (seen.add source).SparesAll sources

variable {srcs : List ProfileSource}

theorem normalizeSourceItems_encode {index : Nat} {seen res} :
    normalizeSourceItems (encodeSettings cfg) index seen (srcs.map encodeSource) = .ok res ↔
      ((∀ src ∈ srcs, WritableSource src) ∧ seen.SparesAll srcs) ∧
        (srcs.map encodeSource, srcs.any ProfileSource.enabled) = res := by
  induction srcs generalizing index seen res with
  | nil =>
    show Except.ok ([], false) = Except.ok res ↔ _
    simp [SeenSources.SparesAll]
  | cons src srcs ih =>
    apply Iff.trans
    · apply bind_checked_iff normalizeSource_encode
      apply bind_checked_iff ih
      exact ok_iff
    rw [forall_mem_cons, SeenSources.SparesAll]
    tauto

/-- What the sources of a document must be like. -/
structure WritableSources (sources : List ProfileSource) : Prop where
  nonempty : sources ≠ []
  count : sources.length ≤ 128
  each : ∀ source ∈ sources, WritableSource source
  apart : SeenSources.SparesAll ⟨[], [], []⟩ sources
  enabled : sources.any ProfileSource.enabled = true

theorem normalizeSources_encode
    (hlookup : raw.lookup "sources" = some (.array (srcs.map encodeSource))) {res : Json} :
    normalizeSources raw (encodeSettings cfg) = .ok res ↔
      WritableSources srcs ∧ .array (srcs.map encodeSource) = res := by
  unfold normalizeSources
  rw [hlookup]
  apply Iff.trans
  · apply guard_iff
    apply guard_iff
    apply bind_checked_iff normalizeSourceItems_encode
    apply guardNot_iff
    exact ok_iff
  simp only [isEmpty_map, List.isEmpty_iff, length_map, Nat.not_lt, gt_iff_lt]
  constructor
  · rintro ⟨hnonempty, hcount, ⟨heach, hapart⟩, henabled, h⟩
    exact ⟨⟨hnonempty, hcount, heach, hapart, henabled⟩, h⟩
  · rintro ⟨⟨hnonempty, hcount, heach, hapart, henabled⟩, h⟩
    exact ⟨hnonempty, hcount, ⟨heach, hapart⟩, henabled, h⟩

/-! ### Documents -/

/-- A profile as it is before it is installed: without a generation and hooks, and with
UUIDs in lower case. -/
structure Profile.Fresh (profile : Profile) : Prop where
  generation : profile.configurationGeneration = ""
  hooks : profile.hooks = ⟨[], []⟩
  lowercase : profile.target.Lowercase

/-- What a profile must be like for its document to be accepted. -/
structure Writable (profile : Profile) : Prop where
  name : TextOk profile.name 160
  named : profile.name ≠ ""
  target : WritableTarget profile.target
  paths : WritablePaths profile.paths
  sources : WritableSources profile.sources

theorem normalizeProfileHeader_encode {res} :
    normalizeProfileHeader (.object (encodeFields prof)) = .ok res ↔
      (TextOk prof.name 160 ∧ prof.name ≠ "") ∧
        [("schemaVersion", .integer (Int64.ofInt currentProfileSchemaVersion)),
          ("profileId", .string prof.id.value), ("name", .string prof.name),
          ("enabled", .boolean prof.enabled)] = res := by
  apply Iff.trans
  · apply bind_ok_iff rfl
    apply bind_ok_iff ((identifier_string prof.id.valid).mpr rfl)
    apply bind_ok_iff rfl
    -- no generation is written
    apply bind_ok_iff rfl
    apply bind_ok_iff rfl
    apply bind_checked_iff text_eq_ok
    apply bind_ok_iff rfl
    exact ok_iff
  simp

variable {targetMountRoot : String}

/-- A document that is written is its own normal form. -/
theorem normalizeProfile_encode (hfresh : prof.Fresh) {res : Json} :
    normalizeProfile (.object (encodeFields prof)) targetMountRoot = .ok res ↔ (Writable prof ∧
        ∃ root, normalizedAbsolutePath targetMountRoot "TARGET_MOUNT_ROOT" = .ok root) ∧
      .object (encodeFields prof) = res := by
  have htgt : (Json.object (encodeFields prof)).lookup "target" =
      some (encodeTarget prof.target) := rfl
  have hpaths : (Json.object (encodeFields prof)).lookup "paths" =
      some (encodePaths prof.paths) := rfl
  have hsettings : (Json.object (encodeFields prof)).lookup "settings" =
      some (encodeSettings prof.settings) := rfl
  have hsrcs : (Json.object (encodeFields prof)).lookup "sources" =
      some (.array (prof.sources.map encodeSource)) := rfl
  have hhooks : normalizeHooks (.object (encodeFields prof)) =
      .ok (encodeHooks prof.hooks) := by
    unfold encodeFields
    rw [hfresh.hooks]
    rfl
  unfold normalizeProfile
  refine (bind_eq_ok.trans ⟨fun ⟨_, _, h⟩ => h, fun h => ⟨(), rfl, h⟩⟩).trans ?_
  simp only [bind_eq_ok, normalizeProfileHeader_encode,
    normalizeTarget_encode hfresh.lowercase htgt, normalizePaths_encode hpaths,
    normalizeSettings_encode hsettings, hhooks, Except.ok.injEq]
  constructor
  · rintro ⟨_, ⟨⟨hname, hnamed⟩, rfl⟩, _, ⟨htgt, rfl⟩, root, hroot, _, -, _, -, _,
      ⟨hpaths, rfl⟩, _, rfl, _, rfl, _, hnorm, h⟩
    obtain ⟨hwritable, rfl⟩ := (normalizeSources_encode hsrcs).mp hnorm
    exact ⟨⟨⟨hname, hnamed, htgt, hpaths, hwritable⟩, root, hroot⟩, Except.ok.inj h⟩
  · rintro ⟨⟨⟨hname, hnamed, htgt, hpaths, hwritable⟩, root, hroot⟩, rfl⟩
    exact ⟨_, ⟨⟨hname, hnamed⟩, rfl⟩, _, ⟨htgt, rfl⟩, root, hroot, _, rfl, _, rfl, _,
      ⟨hpaths, rfl⟩, _, rfl, _, rfl, _, (normalizeSources_encode hsrcs).mpr ⟨hwritable, rfl⟩,
      rfl⟩

/-! ### Decoding what was written -/

theorem AbsolutePath.ofString_string {path} (h : hasNewline path.value.string = false) :
    AbsolutePath.ofString path.value.string name = .ok path :=
  AbsolutePath.ofString_eq_ok.mpr ((normalizedAbsolutePath_string path.isNormal).mpr ⟨h, rfl⟩)

theorem TargetDevicePath.ofString_string {path} (h : hasNewline path.value.string = false) :
    TargetDevicePath.ofString path.value.string = .ok path := by
  unfold TargetDevicePath.ofString
  rw [AbsolutePath.ofString_string h]
  show (if h : _ then _ else _) = _
  rw [dif_pos path.insideDev]

theorem SafeRelativePath.ofString_string {path} (h : hasNewline path.value.string = false) :
    SafeRelativePath.ofString path.value.string = .ok path := by
  have hread : normalizedRelativePath path.value.string "repository relative path" =
      .ok path.value := (normalizedRelativePath_string path).mpr ⟨h, rfl⟩
  unfold SafeRelativePath.ofString
  split
  · next hvalue =>
    rw [hread] at hvalue
    cases hvalue
  · next value hvalue =>
    rw [hread] at hvalue
    obtain ⟨value', hrelative, hnonempty, huntrailed, hplain⟩ := path
    obtain rfl := Except.ok.inj hvalue
    simp

theorem CanonicalUuid.ofString_value {uuid} (h : normalizedUuid uuid.value = uuid.value) :
    CanonicalUuid.ofString uuid.value name = .ok uuid := by
  obtain ⟨value, hcan⟩ := uuid
  unfold CanonicalUuid.ofString
  rw [dif_pos hcan]
  simp only [Except.ok.injEq, CanonicalUuid.mk.injEq]
  exact h

theorem PartitionUuid.ofString_text {uuid : PartitionUuid}
    (h : ∀ value, uuid = some value → normalizedUuid value.value = value.value) :
    PartitionUuid.ofString uuid.text = .ok uuid := by
  cases uuid with
  | none => rfl
  | some value =>
    have hne : value.value ≠ "" := by
      intro hempty
      have hcan := value.canonical
      rw [hempty] at hcan
      cases hcan
    unfold PartitionUuid.ofString
    show (if value.value = "" then _
      else (CanonicalUuid.ofString value.value "partition UUID").map some) = _
    rw [if_neg hne, CanonicalUuid.ofString_value (h value rfl)]
    rfl

theorem MapperName.ofString_value (mapper : MapperName) :
    MapperName.ofString mapper.value = .ok mapper := by
  unfold MapperName.ofString validateIdentifier
  rw [dif_pos mapper.valid]
  rfl

theorem ProfileId.ofString_value (id : ProfileId) : ProfileId.ofString id.value = .ok id := by
  unfold ProfileId.ofString validateIdentifier
  rw [dif_pos id.valid]

theorem SourceId.ofString_value (id : SourceId) : SourceId.ofString id.value = .ok id := by
  unfold SourceId.ofString validateIdentifier
  rw [dif_pos id.valid]
  rfl

/-- A number is read back. -/
theorem natField_number {value : Nat}
    (hfield : object.field key = .ok (.unsigned (UInt64.ofNat value))) (hvalue : value < 2 ^ 64) :
    natField object key = .ok value := by
  have hnat : (UInt64.ofNat value).toNat = value := UInt64.toNat_ofNat_of_lt' hvalue
  unfold natField
  rw [hfield]
  show Except.ok (UInt64.ofNat value).toNat = _
  rw [hnat]

theorem RetentionCount.ofNat_value (count : RetentionCount) :
    RetentionCount.ofNat count.value = .ok count := by
  unfold RetentionCount.ofNat
  rw [dif_pos count.bounded]

theorem ByteThreshold.ofNat_value (threshold : ByteThreshold) :
    ByteThreshold.ofNat threshold.value = .ok threshold := by
  unfold ByteThreshold.ofNat
  rw [dif_pos threshold.bounded]

theorem RetentionCount.lt (count : RetentionCount) : count.value < 2 ^ 64 :=
  Nat.lt_of_le_of_lt count.bounded (by decide)

theorem ByteThreshold.lt (threshold : ByteThreshold) : threshold.value < 2 ^ 64 :=
  Nat.lt_of_le_of_lt threshold.bounded (by decide)

theorem decodeTargetIdentity_encode (hlower : target.Lowercase) :
    decodeTargetIdentity (encodeTarget target) =
      .ok ⟨target.luksUuid, target.btrfsUuid, target.partitionUuid, target.mapperName⟩ := by
  unfold decodeTargetIdentity
  refine bind_ok rfl (bind_ok (CanonicalUuid.ofString_value hlower.luksUuid) ?_)
  refine bind_ok rfl (bind_ok (CanonicalUuid.ofString_value hlower.btrfsUuid) ?_)
  refine bind_ok rfl (bind_ok (PartitionUuid.ofString_text hlower.partitionUuid) ?_)
  exact bind_ok rfl (bind_ok target.mapperName.ofString_value rfl)

theorem decodePaths_encode (h : WritablePaths paths) :
    decodePaths (encodePaths paths) = .ok paths := by
  unfold decodePaths
  refine bind_ok rfl (bind_ok (AbsolutePath.ofString_string h.remoteRoot.noNewline) ?_)
  exact bind_ok rfl (bind_ok (AbsolutePath.ofString_string h.incomingRoot.noNewline) rfl)

theorem decodeSettings_encode (cfg : ProfileSettings) :
    decodeSettings (encodeSettings cfg) = .ok cfg := by
  unfold decodeSettings
  refine bind_ok rfl (bind_ok rfl (bind_ok rfl (bind_ok rfl ?_)))
  refine bind_ok (natField_number rfl cfg.remoteRetention.lt)
    (bind_ok cfg.remoteRetention.ofNat_value ?_)
  refine bind_ok (natField_number rfl cfg.localRetention.lt)
    (bind_ok cfg.localRetention.ofNat_value ?_)
  refine bind_ok (natField_number rfl cfg.minimumTargetFreeBytes.lt)
    (bind_ok cfg.minimumTargetFreeBytes.ofNat_value ?_)
  exact bind_ok (natField_number rfl cfg.minimumLocalFreeBytes.lt)
    (bind_ok cfg.minimumLocalFreeBytes.ofNat_value rfl)

theorem decodeSource_encode {src} (h : WritableSource src) :
    decodeSource (encodeSource src) = .ok src := by
  unfold decodeSource
  refine bind_ok rfl (bind_ok src.id.ofString_value ?_)
  refine bind_ok rfl (bind_ok (SafeRelativePath.ofString_string h.remoteSubdir.noNewline) ?_)
  refine bind_ok rfl (bind_ok rfl ?_)
  refine bind_ok rfl (bind_ok (AbsolutePath.ofString_string h.subvolume.noNewline) ?_)
  refine bind_ok rfl (bind_ok (AbsolutePath.ofString_string h.localSnapshotDir.noNewline) ?_)
  refine bind_ok (natField_number rfl src.remoteRetention.lt)
    (bind_ok src.remoteRetention.ofNat_value ?_)
  exact bind_ok (natField_number rfl src.localRetention.lt)
    (bind_ok src.localRetention.ofNat_value rfl)

theorem mapM_decodeSource (h : ∀ src ∈ srcs, WritableSource src) :
    (srcs.map encodeSource).mapM decodeSource = .ok srcs := by
  induction srcs with
  | nil => rfl
  | cons src srcs ih =>
    obtain ⟨hsrc, hsrcs⟩ := forall_mem_cons.mp h
    rw [map_cons, mapM_cons]
    exact bind_ok (decodeSource_encode hsrc) (bind_ok (ih hsrcs) rfl)

theorem decodeActivation_encode
    (h : ∀ keyFile, activation = .keyFile keyFile → TextOk keyFile.value.string 4096) :
    decodeActivation (encodeActivation activation) = .ok activation := by
  cases activation with
  | askPassword => rfl
  | keyFile keyFile =>
    unfold decodeActivation
    refine bind_ok rfl (bind_ok rfl (bind_ok ?_ rfl))
    exact AbsolutePath.ofString_string (h keyFile rfl).noNewline

theorem profileToJson_of_fresh (hfresh : prof.Fresh) :
    profileToJson prof = .object (encodeFields prof) := by
  unfold profileToJson
  rw [if_pos hfresh.generation]

/-- The profile of a document that is written, for another mount root. -/
theorem profileFromDocument_of_writable (hfresh : prof.Fresh)
    (hwritable : Writable prof) {mountPoint}
    (hmount : mountPointOf targetMountRoot prof.id = .ok mountPoint) :
    profileFromDocument (.object (encodeFields prof)) targetMountRoot =
      .ok { prof with target := { prof.target with mountPoint := mountPoint } } := by
  obtain ⟨root, hroot, -⟩ := bind_eq_ok.mp hmount
  have hnorm := (normalizeProfile_encode hfresh).mpr ⟨⟨hwritable, root, hroot⟩, rfl⟩
  have hhooks : decodeHooks (encodeHooks prof.hooks) = .ok prof.hooks := by
    rw [hfresh.hooks]
    rfl
  have hgen : fromLibrary ((Json.object (encodeFields prof)).valueOr
      "configurationGeneration" "") = .ok prof.configurationGeneration := by
    rw [hfresh.generation]
    rfl
  unfold profileFromDocument
  refine bind_ok hnorm (bind_ok rfl (bind_ok rfl (bind_ok prof.id.ofString_value ?_)))
  refine bind_ok (decodeTargetIdentity_encode hfresh.lowercase) ?_
  refine bind_ok rfl (bind_ok (decodePaths_encode hwritable.paths) ?_)
  refine bind_ok hgen (bind_ok rfl (bind_ok rfl ?_))
  refine bind_ok rfl
    (bind_ok (TargetDevicePath.ofString_string hwritable.target.device.noNewline) ?_)
  refine bind_ok rfl (bind_ok hmount ?_)
  refine bind_ok rfl (bind_ok (decodeActivation_encode hwritable.target.keyFile) ?_)
  refine bind_ok rfl (bind_ok (decodeSettings_encode prof.settings) ?_)
  refine bind_ok rfl (bind_ok hhooks ?_)
  exact bind_ok rfl (bind_ok (mapM_decodeSource hwritable.sources.each) rfl)

/-- **Reading what was written gives the profile back**, mounted below the mount root, if
and only if the profile is writable and the mount root is a directory name. -/
theorem profileFromJson_profileToJson (hfresh : prof.Fresh) {res : Profile} :
    profileFromJson (profileToJson prof) targetMountRoot = .ok res ↔
      Writable prof ∧ ∃ mountPoint, mountPointOf targetMountRoot prof.id = .ok mountPoint ∧
        { prof with target := { prof.target with mountPoint := mountPoint } } = res := by
  unfold profileFromJson
  rw [profileToJson_of_fresh hfresh]
  constructor
  · intro h
    obtain ⟨_, hnorm, hdoc⟩ := bind_eq_ok.mp h
    obtain ⟨⟨hwritable, -⟩, rfl⟩ := (normalizeProfile_encode hfresh).mp hnorm
    -- the mount point is computed on the way
    have hmount : ∃ mountPoint, mountPointOf targetMountRoot prof.id = .ok mountPoint := by
      rw [profileFromDocument] at hdoc
      simp only [bind_eq_ok] at hdoc
      obtain ⟨normalized, hnormalized, _, -, _, hid, id, hpid, _, -, _, -, _, -, _, -, _, -,
        _, -, _, -, _, -, _, -, mountPoint, hmount, -⟩ := hdoc
      obtain ⟨-, rfl⟩ := (normalizeProfile_encode hfresh).mp hnormalized
      obtain rfl := Except.ok.inj (show Except.ok prof.id.value = _ from hid)
      obtain rfl := Except.ok.inj (prof.id.ofString_value.symm.trans hpid)
      exact ⟨mountPoint, hmount⟩
    obtain ⟨mountPoint, hmount⟩ := hmount
    rw [profileFromDocument_of_writable hfresh hwritable hmount] at hdoc
    exact ⟨hwritable, mountPoint, hmount, Except.ok.inj hdoc⟩
  · rintro ⟨hwritable, mountPoint, hmount, rfl⟩
    obtain ⟨root, hroot, -⟩ := bind_eq_ok.mp hmount
    exact bind_ok ((normalizeProfile_encode hfresh).mpr ⟨⟨hwritable, root, hroot⟩, rfl⟩)
      (profileFromDocument_of_writable hfresh hwritable hmount)

/-- A profile that was written and read is written as the same document, which is read in
the same way again; no writable profile is refused. -/
theorem written_profile_stable (profile : { prof : Profile // prof.Fresh }) (root : String) :
    match profileFromJson (profileToJson profile) root with
    | .ok read => profileToJson read = profileToJson profile ∧
        profileFromJson (profileToJson read) root = .ok read
    | .error _ =>
      ¬ (Writable profile ∧ ∃ mountPoint, mountPointOf root profile.1.id = .ok mountPoint) := by
  have hround := @profileFromJson_profileToJson profile root profile.2
  split
  · next read hread =>
    obtain ⟨-, mountPoint, -, rfl⟩ := hround.mp hread
    exact ⟨rfl, hread⟩
  · next e herror =>
    rintro ⟨hwritable, mountPoint, hmount⟩
    exact nomatch herror.symm.trans (hround.mpr ⟨hwritable, mountPoint, hmount, rfl⟩)

end BtrfsBackup
