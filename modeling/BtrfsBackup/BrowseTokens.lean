/-
The continuation tokens of the browsing service
(`daemon/control/BrowseContinuationTokenCodec`).

A page that is not the last one comes with a token: the session, the query and the place
where the next page begins, in hexadecimal.  A NUL byte after each field is all that
separates them, and a directory query has fewer fields than a query for previous versions.

* `Continuation.token`, `Query.read` — writing and reading a token;
* `flatMap_field_inj`, `count_flatMap_field` — what the bytes of the fields tell;
* `token_read_iff` — who can read a token, and what is read.
-/
import BtrfsBackup.BrowseBackend
import BtrfsBackup.RuntimeTime

namespace BtrfsBackup.Browse

open List

/-! ### The codec -/

def utf8Bytes (text : String) : List UInt8 := text.toList.flatMap String.utf8EncodeChar

/-- `hex_digit`. -/
def hexDigit (value : UInt8) : UInt8 := if value < 10 then 0x30 + value else 0x61 + value - 10

/-- `hex_encode`. -/
def hexEncode (value : List UInt8) : List UInt8 :=
  value.flatMap fun byte : UInt8 => [hexDigit (byte >>> 4), hexDigit (byte &&& 0x0f)]

/-- `hex_value`, with `none` for `-1`. -/
def hexValue (value : UInt8) : Option UInt8 :=
  if 0x30 ≤ value ∧ value ≤ 0x39 then some (value - 0x30)
  else if 0x61 ≤ value ∧ value ≤ 0x66 then some (value - 0x61 + 10)
  else none

/-- The loop of `decode_bound_token`. -/
def hexDecode : List UInt8 → Option (List UInt8)
  | high :: low :: rest => do
      let high ← hexValue high
      let low ← hexValue low
      let decoded ← hexDecode rest
      return (high <<< 4 ||| low) :: decoded
  | _ => some []

/-- The exceptions of the codec. -/
def tokenError (message : String) : ManagerFailure := .operation .invalidRequest message

/-- `maximum_token_size`. -/
def maximumTokenSize : Nat := 32768

/-- `encode_bound_token`. -/
def encodeBoundToken (binding cursor : List UInt8) : Except ManagerFailure (List UInt8) :=
  let token := utf8Bytes "v1:" ++ hexEncode (binding ++ cursor)
  if token.length > maximumTokenSize then
    .error (tokenError "browse continuation token is too large")
  else .ok token

/-- `decode_bound_token`. -/
def decodeBoundToken (binding token : List UInt8) : Except ManagerFailure (List UInt8) :=
  if token = [] then .ok []
  else if !(utf8Bytes "v1:").isPrefixOf token || token.length > maximumTokenSize ||
      (token.length - 3) % 2 != 0 then
    .error (tokenError "invalid browse continuation token")
  else
    match hexDecode (token.drop 3) with
    | none => .error (tokenError "invalid browse continuation token")
    | some decoded =>
      if binding.isPrefixOf decoded then .ok (decoded.drop binding.length)
      else .error (tokenError "browse continuation token does not match the session and query")

/-- A field of a binding. -/
def field (text : String) : List UInt8 := utf8Bytes text ++ [0]

/-- The path of a binding. -/
def normalizedPath (relativePath : String) : String :=
  (FsPath.ofString relativePath).lexicallyNormal.string

/-- `directory_binding`. -/
def directoryBinding (id : BrowseSessionId) (relativePath : String) : List UInt8 :=
  field id.value ++ field (normalizedPath relativePath)

/-- The path of `previous_versions_binding`, where nothing is a dot. -/
def versionsPath (relativePath : String) : String :=
  if normalizedPath relativePath = "" then "." else normalizedPath relativePath

/-- `previous_versions_binding`. -/
def previousVersionsBinding (id : BrowseSessionId) (profileId sourceId relativePath : String) :
    List UInt8 :=
  field id.value ++ field profileId ++ field sourceId ++ field (versionsPath relativePath)

/-- `directory_token`. -/
def directoryToken (id : BrowseSessionId) (relativePath : String) (lastName : List UInt8) :
    Except ManagerFailure (List UInt8) :=
  encodeBoundToken (directoryBinding id relativePath) lastName

/-- The names that `directory_cursor` accepts. -/
def isEntryName (name : List UInt8) : Bool :=
  name ≠ [] && name ≠ utf8Bytes "." && name ≠ utf8Bytes ".." && 0x2f ∉ name && 0 ∉ name

/-- `directory_cursor`. -/
def directoryCursor (id : BrowseSessionId) (relativePath : String) (token : List UInt8) :
    Except ManagerFailure (List UInt8) :=
  if token = [] then .ok []
  else do
    let name ← decodeBoundToken (directoryBinding id relativePath) token
    if isEntryName name then return name
    else throw (tokenError "invalid browse continuation token")

/-- `previous_versions_token`. -/
def previousVersionsToken (id : BrowseSessionId) (profileId sourceId relativePath : String)
    (offset : UInt64) : Except ManagerFailure (List UInt8) :=
  if offset = 0 then .error (tokenError "invalid previous-versions continuation offset")
  else encodeBoundToken (previousVersionsBinding id profileId sourceId relativePath)
    (utf8Bytes (toString offset.toNat))

/-- `std::from_chars` where it reads a whole text. -/
def fromChars (value : List UInt8) : Option UInt64 := do
  let number ← decimal (value.map fun byte => Char.ofNat byte.toNat)
  if value = [] ∨ 2 ^ 64 ≤ number then none else some (.ofNat number)

/-- `previous_versions_offset`. -/
def previousVersionsOffset (id : BrowseSessionId) (profileId sourceId relativePath : String)
    (token : List UInt8) : Except ManagerFailure UInt64 :=
  if token = [] then .ok 0
  else do
    let value ← decodeBoundToken
      (previousVersionsBinding id profileId sourceId relativePath) token
    match (fromChars value).filter (· ≠ 0) with
    | some result => return result
    | none => throw (tokenError "invalid previous-versions continuation token")

/-! ### Queries -/

/-- A text without NUL. -/
abbrev PlainText := {text : String // '\x00' ∉ text.toList}

/-- What a client asks for. -/
inductive Query where
  | directory (relativePath : PlainText)
  | previousVersions (profileId sourceId relativePath : PlainText)

/-- The normalised fields of a query.  Their number tells the kinds apart. -/
def Query.fields : Query → List String
  | directory relativePath => [normalizedPath relativePath]
  | previousVersions profileId sourceId relativePath =>
      [profileId.val, sourceId.val, versionsPath relativePath]

/-- Where a page begins: after an entry of a directory or at a number of versions. -/
inductive Cursor where
  | name (value : List UInt8)
  | offset (value : UInt64)
  deriving DecidableEq

def Query.read (id : BrowseSessionId) (token : List UInt8) : Query → Except ManagerFailure Cursor
  | directory relativePath => return .name (← directoryCursor id relativePath token)
  | previousVersions profileId sourceId relativePath =>
      return .offset (← previousVersionsOffset id profileId sourceId relativePath token)

/-- A query with the place where its next page begins. -/
inductive Continuation where
  | directory (relativePath : PlainText) (lastName : {name : List UInt8 // isEntryName name})
  | previousVersions (profileId sourceId relativePath : PlainText) (offset : UInt64)

namespace Continuation

def query : Continuation → Query
  | directory relativePath _ => .directory relativePath
  | previousVersions profileId sourceId relativePath _ =>
      .previousVersions profileId sourceId relativePath

def cursor : Continuation → Cursor
  | directory _ lastName => .name lastName
  | previousVersions _ _ _ offset => .offset offset

/-- The token of the next page. -/
def token (id : BrowseSessionId) : Continuation → Except ManagerFailure (List UInt8)
  | directory relativePath lastName => directoryToken id relativePath lastName
  | previousVersions profileId sourceId relativePath offset =>
      previousVersionsToken id profileId sourceId relativePath offset

end Continuation

/-! ### Reading what was written -/

theorem zero_mem_utf8EncodeChar {c : Char} (h : 0 ∈ String.utf8EncodeChar c) : c = '\x00' := by
  refine Char.ext (UInt32.toNat.inj (show c.val.toNat = 0 from ?_))
  unfold String.utf8EncodeChar at h
  dsimp only at h
  -- the bytes of a longer sequence have their top bit set
  split_ifs at h <;> simp only [mem_cons, not_mem_nil, or_false, ← UInt8.toNat_inj,
    UInt8.toNat_ofNat, UInt8.toNat_ofNat'] at h <;> omega

theorem zero_notMem_utf8Bytes {text : String} (h : '\x00' ∉ text.toList) : 0 ∉ utf8Bytes text := by
  intro hmem
  obtain ⟨c, hc, hzero⟩ := mem_flatMap.mp hmem
  exact h (zero_mem_utf8EncodeChar hzero ▸ hc)

theorem utf8Bytes_injective : Function.Injective utf8Bytes := by
  intro s t h
  have hbytes : s.toList.utf8Encode = t.toList.utf8Encode := congrArg List.toByteArray h
  rwa [String.utf8Encode_toList, String.utf8Encode_toList, String.toByteArray_inj] at hbytes

theorem hexDecode_hexEncode (value : List UInt8) : hexDecode (hexEncode value) = some value := by
  have hbytes : ∀ n < 256, hexValue (hexDigit (UInt8.ofNat n >>> 4)) = some (UInt8.ofNat n >>> 4) ∧
      hexValue (hexDigit (UInt8.ofNat n &&& 0x0f)) = some (UInt8.ofNat n &&& 0x0f) ∧
      (UInt8.ofNat n >>> 4) <<< 4 ||| (UInt8.ofNat n &&& 0x0f) = UInt8.ofNat n := by
    decide +kernel
  induction value with
  | nil => rfl
  | cons byte rest ih =>
    obtain ⟨hhigh, hlow, hbyte⟩ := hbytes byte.toNat byte.toNat_lt
    rw [UInt8.ofNat_toNat] at hhigh hlow hbyte
    change hexDecode (_ :: _ :: hexEncode rest) = _
    simp [hexDecode, hhigh, hlow, hbyte, ih]

theorem length_hexEncode (value : List UInt8) : (hexEncode value).length = 2 * value.length := by
  simp [hexEncode, length_flatMap, Nat.mul_comm]

variable {b c rest t : List UInt8} {q : Query} {cursor : Cursor}

theorem decodeBoundToken_ok_iff (h : encodeBoundToken b c = .ok t) : t ≠ [] ∧
    ∀ {b' rest}, decodeBoundToken b' t = .ok rest ↔ b' ++ rest = b ++ c := by
  unfold encodeBoundToken at h
  dsimp only at h
  split at h
  · cases h
  · next hsize =>
    cases h
    have hv : utf8Bytes "v1:" = [0x76, 0x31, 0x3a] := by decide
    rw [hv] at hsize ⊢
    refine ⟨cons_ne_nil _ _, fun {b' rest} => ?_⟩
    rw [length_append, length_hexEncode] at hsize
    simp [decodeBoundToken, hv, length_hexEncode, hexDecode_hexEncode] at hsize ⊢
    rw [if_neg (by omega)]
    constructor
    · intro h
      split at h
      · next hb =>
        obtain ⟨tail, ht⟩ := hb
        cases h
        simp [← ht]
      · cases h
    · intro h
      rw [← h, if_pos (prefix_append _ _), drop_left]

/-! ### Fields -/

theorem count_flatMap_field {fields : List String} (h : ∀ f ∈ fields, '\x00' ∉ f.toList) :
    (fields.flatMap field).count 0 = fields.length := by
  induction fields with
  | nil => rfl
  | cons f fields ih =>
    have hf := count_eq_zero.mpr (zero_notMem_utf8Bytes (h f mem_cons_self))
    rw [flatMap_cons, count_append, ih fun g hg => h g (mem_cons_of_mem f hg), field,
      count_append, hf, length_cons, Nat.add_comm]
    rfl

/-- As many fields with the same bytes, whatever follows them, are the same fields. -/
theorem flatMap_field_inj {x y} : ∀ {fs gs : List String},
    (∀ f ∈ fs, '\x00' ∉ f.toList) → (∀ g ∈ gs, '\x00' ∉ g.toList) → fs.length = gs.length →
      fs.flatMap field ++ x = gs.flatMap field ++ y → fs = gs ∧ x = y
  | [], [], _, _, _, h => ⟨rfl, h⟩
  | f :: fs, g :: gs, hfs, hgs, hlen, h => by
    have hf := zero_notMem_utf8Bytes (hfs f mem_cons_self)
    have hg := zero_notMem_utf8Bytes (hgs g mem_cons_self)
    simp only [flatMap_cons, field, append_assoc, cons_append, nil_append] at h
    -- the first NUL ends the first field
    have hfirst := congrArg (List.idxOf 0) h
    rw [idxOf_append_of_notMem hf, idxOf_append_of_notMem hg, idxOf_cons_self,
      idxOf_cons_self] at hfirst
    obtain ⟨heq, hrest⟩ := append_inj h hfirst
    obtain ⟨rfl, rfl⟩ := flatMap_field_inj (fun f' hf' => hfs f' (mem_cons_of_mem f hf'))
      (fun g' hg' => hgs g' (mem_cons_of_mem g hg')) (Nat.succ.inj hlen) (List.cons.inj hrest).2
    exact ⟨utf8Bytes_injective heq ▸ rfl, rfl⟩

theorem normalizedPath_plain (path : PlainText) : '\x00' ∉ (normalizedPath path).toList := by
  intro h
  rcases FsPath.mem_string h with h | ⟨name, hname, hc⟩
  · cases h
  · refine FsPath.lexicallyNormal_forall (P := fun name => '\x00' ∉ name.toList) (by decide)
      (by decide) ?_ name hname hc
    intro name hname hc
    exact path.2 (FsPath.mem_of_mem_namesOf hname hc)

def Query.bound (id : BrowseSessionId) (query : Query) : List String := id.value :: query.fields

theorem directoryBinding_eq (id : BrowseSessionId) (path : PlainText) :
    directoryBinding id path = ((Query.directory path).bound id).flatMap field := by
  simp [directoryBinding, Query.bound, Query.fields]

theorem previousVersionsBinding_eq (id : BrowseSessionId) (p s path : PlainText) :
    previousVersionsBinding id p s path =
      ((Query.previousVersions p s path).bound id).flatMap field := by
  simp [previousVersionsBinding, Query.bound, Query.fields]

theorem Query.bound_plain (id : BrowseSessionId) (query : Query) :
    ∀ f ∈ query.bound id, '\x00' ∉ f.toList := by
  have hid : '\x00' ∉ id.value.toList := by
    intro h
    have := (identifierOk_chars id.valid).1 _ h
    revert this
    decide
  cases query with
  | directory path => simpa [bound, fields] using ⟨hid, normalizedPath_plain path⟩
  | previousVersions p s path =>
    have hpath : '\x00' ∉ (versionsPath path).toList := by
      unfold versionsPath
      split
      · decide
      · exact normalizedPath_plain path
    simpa [bound, fields] using ⟨hid, p.2, s.2, hpath⟩

/-! ### Tokens -/

theorem fromChars_toString (n : UInt64) : fromChars (utf8Bytes (toString n.toNat)) = some n := by
  have hchars : (utf8Bytes (toString n.toNat)).map (fun byte => Char.ofNat byte.toNat) =
      Nat.toDigits 10 n.toNat := by
    rw [utf8Bytes, Nat.toString_eq_repr, Nat.toList_repr, map_flatMap]
    conv_rhs => rw [← flatMap_singleton' (Nat.toDigits 10 n.toNat)]
    refine flatMap_congr fun c hc => ?_
    have hdigit := Nat.isDigit_of_mem_toDigits (by decide) le_rfl hc
    simp only [Char.isDigit, Bool.and_eq_true, decide_eq_true_eq] at hdigit
    have hlast : c.val.toNat ≤ 57 := hdigit.2
    unfold String.utf8EncodeChar
    dsimp only
    rw [if_pos (by omega), map_singleton, UInt8.toNat_ofNat', Nat.mod_eq_of_lt (by omega)]
    exact congrArg ([·]) (Char.ofNat_toNat c)
  have hall : (Nat.toDigits 10 n.toNat).all Char.isDigit = true :=
    all_eq_true.mpr fun c hc => Nat.isDigit_of_mem_toDigits (by decide) le_rfl hc
  have hne : utf8Bytes (toString n.toNat) ≠ [] := by
    intro h
    rw [h] at hchars
    exact Nat.toDigits_ne_nil hchars.symm
  rw [fromChars, hchars, decimal, if_pos hall, Nat.ofDigitChars_toDigits (by decide) le_rfl]
  simpa [n.toNat_lt] using hne

/-- What a query makes of the bytes after its binding. -/
def Query.accept (rest : List UInt8) : Query → Option Cursor
  | directory _ => if isEntryName rest then some (.name rest) else none
  | previousVersions .. => ((fromChars rest).filter (· ≠ 0)).map .offset

theorem Query.accept_congr {q' : Query} (h : q.fields = q'.fields) (rest : List UInt8) :
    q.accept rest = q'.accept rest := by
  cases q <;> cases q' <;> first | rfl | simp [fields] at h

theorem Query.zero_notMem_of_accept (h : q.accept rest = some cursor) : 0 ∉ rest := by
  intro hmem
  cases q with
  | directory path => simp [accept, isEntryName, hmem] at h
  | previousVersions p s path =>
    have hnone : decimal (rest.map fun byte => Char.ofNat byte.toNat) = none := by
      rw [decimal, if_neg]
      intro hall
      cases all_eq_true.mp hall _ (mem_map_of_mem hmem)
    simp [accept, fromChars, hnone] at h

theorem Query.read_ok_iff (h : encodeBoundToken b c = .ok t)
    (id : BrowseSessionId) : q.read id t = .ok cursor ↔
      ∃ rest, (q.bound id).flatMap field ++ rest = b ++ c ∧ q.accept rest = some cursor := by
  obtain ⟨hne, hdecode⟩ := decodeBoundToken_ok_iff h
  cases q with
  | directory path =>
    simp only [read, directoryCursor, if_neg hne, bind_eq_ok, hdecode, directoryBinding_eq, accept]
    constructor
    · rintro ⟨name, ⟨rest, hrest, hname⟩, hcursor⟩
      refine ⟨rest, hrest, ?_⟩
      split at hname
      · next hok =>
        cases hname
        cases hcursor
        exact if_pos hok
      · cases hname
    · rintro ⟨rest, hrest, hcursor⟩
      split at hcursor
      · next hok => exact ⟨rest, ⟨rest, hrest, if_pos hok⟩, congrArg _ (Option.some.inj hcursor)⟩
      · cases hcursor
  | previousVersions p s path =>
    simp only [read, previousVersionsOffset, if_neg hne, bind_eq_ok, hdecode,
      previousVersionsBinding_eq, accept]
    constructor
    · rintro ⟨offset, ⟨rest, hrest, hoffset⟩, hcursor⟩
      refine ⟨rest, hrest, ?_⟩
      split at hoffset
      · next heq =>
        cases hoffset
        cases hcursor
        rw [heq]
        rfl
      · cases hoffset
    · rintro ⟨rest, hrest, hcursor⟩
      obtain ⟨offset, hoffset, rfl⟩ := Option.map_eq_some_iff.mp hcursor
      refine ⟨offset, ⟨rest, hrest, ?_⟩, rfl⟩
      rw [hoffset]
      rfl

theorem Continuation.token_ok {id} {page : Continuation}
    (h : page.token id = .ok t) : ∃ c, page.query.accept c = some page.cursor ∧
      encodeBoundToken ((page.query.bound id).flatMap field) c = .ok t := by
  cases page with
  | directory path name =>
    exact ⟨name, if_pos name.2, directoryBinding_eq id path ▸ h⟩
  | previousVersions p s path offset =>
    change previousVersionsToken id p s path offset = .ok t at h
    unfold previousVersionsToken at h
    split at h
    · cases h
    · next hzero =>
      refine ⟨_, ?_, previousVersionsBinding_eq id p s path ▸ h⟩
      simpa [query, Query.accept, hzero, cursor] using fromChars_toString offset

/-- A token is read by its session for its query, and gives the cursor it was made with. -/
theorem token_read_iff (id other : BrowseSessionId) (page : Continuation) (query : Query)
    (cursor : Cursor) {token : List UInt8} (h : page.token id = .ok token) :
    query.read other token = .ok cursor ↔
      other = id ∧ query.fields = page.query.fields ∧ cursor = page.cursor := by
  obtain ⟨c, hc, hencode⟩ := page.token_ok h
  rw [Query.read_ok_iff hencode]
  constructor
  · rintro ⟨rest, heq, haccept⟩
    -- the NULs are those of the fields, so the numbers of the fields agree
    have hlen := congrArg (List.count 0) heq
    rw [count_append, count_append, count_flatMap_field (query.bound_plain other),
      count_flatMap_field (page.query.bound_plain id),
      count_eq_zero.mpr (Query.zero_notMem_of_accept haccept),
      count_eq_zero.mpr (Query.zero_notMem_of_accept hc)] at hlen
    obtain ⟨hbound, rfl⟩ := flatMap_field_inj (query.bound_plain other)
      (page.query.bound_plain id) hlen heq
    obtain ⟨hid, hfields⟩ := List.cons.inj hbound
    rw [Query.accept_congr hfields, hc] at haccept
    exact ⟨BrowseSessionId.ext hid, hfields, (Option.some.inj haccept).symm⟩
  · rintro ⟨rfl, hfields, rfl⟩
    refine ⟨c, ?_, Query.accept_congr hfields c ▸ hc⟩
    rw [Query.bound, hfields, Query.bound]

namespace Sample

/-- The page after `a` of the directory `docs`. -/
def docsPage : Continuation := .directory ⟨"docs", by decide⟩ ⟨utf8Bytes "a", by decide⟩

theorem docs_token_read : ∃ t, docsPage.token ⟨"s", by decide⟩ = .ok t ∧
    docsPage.query.read ⟨"s", by decide⟩ t = .ok docsPage.cursor :=
  have h := rfl
  ⟨_, h, (token_read_iff _ _ docsPage _ _ h).mpr ⟨rfl, rfl, rfl⟩⟩

end Sample

end BtrfsBackup.Browse
