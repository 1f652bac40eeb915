/-
The identifiers of new sources (`daemon/control/ProfileAdministrationService`).

A source that is added to a profile gets its identifier from its name: letters are
made lower case, other bytes become single hyphens, and a number is appended where the
identifier is taken.  A dot or an underscore at the front stays, and an identifier must
not begin with one.

* `sourceIdCandidate`, `uniqueSourceId` — the identifier of a name;
* `uniqueSourceId_spec` — what is returned, whatever the name;
* `uniqueSourceId_usable_iff` — which names get an identifier that is accepted.
-/
import BtrfsBackup.Core

namespace BtrfsBackup

open List

/-! ### The identifier of a name -/

/-- The bytes that are kept: `isalnum`, a dot or an underscore. -/
def keptInSourceId (byte : UInt8) : Bool :=
  let c := Char.ofNat byte.toNat
  isAlnum c || c == '.' || c == '_'

/-- What is written for a byte that is kept: `tolower`. -/
def sourceIdChar (byte : UInt8) : Char := (Char.ofNat byte.toNat).toLower

/-- The body of the loop of `source_id_candidate`: the result and `previous_separator`. -/
def sourceIdStep (state : List Char × Bool) (byte : UInt8) : List Char × Bool :=
  if keptInSourceId byte then (state.1 ++ [sourceIdChar byte], false)
  else if state.1 ≠ [] ∧ !state.2 then (state.1 ++ ['-'], true)
  else state

/-- The loop, which stops at 48 characters. -/
def sourceIdLoop (state : List Char × Bool) : List UInt8 → List Char
  | [] => state.1
  | byte :: rest =>
      let next := sourceIdStep state byte
      if next.1.length = 48 then next.1 else sourceIdLoop next rest

/-- `source_id_candidate`. -/
def sourceIdCandidate (name : List UInt8) : String :=
  let result := (sourceIdLoop ([], false) name).rdropWhile (· == '-')
  if result = [] then "source" else String.ofList result

/-- The candidate with a number. -/
def suffixedSourceId (base : String) (suffix : Nat) : String :=
  String.ofList (base.toList.take 58) ++ "-" ++ toString suffix

/-- `unique_source_id`. -/
def uniqueSourceId (sources : List SourceId) (name : List UInt8) : Except Thrown String :=
  let existing := sources.map SourceId.value
  let base := sourceIdCandidate name
  if base ∉ existing then .ok base
  else
    match (List.range' 2 9998).find? fun suffix => suffixedSourceId base suffix ∉ existing with
    | some suffix => .ok (suffixedSourceId base suffix)
    | none => .error (validationError "cannot allocate a unique source identifier")

/-! ### The candidate -/

/-- The characters that are written are those of identifiers. -/
theorem sourceIdChar_of_kept {byte : UInt8} (h : keptInSourceId byte = true) :
    isIdentifierChar (sourceIdChar byte) = true ∧ sourceIdChar byte ≠ '-' ∧
      isAlnum (sourceIdChar byte) = isAlnum (Char.ofNat byte.toNat) := by
  have hall : ∀ n < 256, keptInSourceId (UInt8.ofNat n) = true →
      isIdentifierChar (sourceIdChar (UInt8.ofNat n)) = true ∧
        sourceIdChar (UInt8.ofNat n) ≠ '-' ∧ isAlnum (sourceIdChar (UInt8.ofNat n)) =
          isAlnum (Char.ofNat (UInt8.ofNat n).toNat) := by
    decide +kernel
  have hbyte := hall byte.toNat byte.toNat_lt
  rw [UInt8.ofNat_toNat] at hbyte
  exact hbyte h

/-- A byte adds a character of identifiers, or nothing. -/
theorem sourceIdStep_spec (state : List Char × Bool) (byte : UInt8) :
    (sourceIdStep state byte).1 = state.1 ∨
      ∃ c, isIdentifierChar c = true ∧ (sourceIdStep state byte).1 = state.1 ++ [c] := by
  unfold sourceIdStep
  split_ifs with hkept
  · exact .inr ⟨_, (sourceIdChar_of_kept hkept).1, rfl⟩
  · exact .inr ⟨'-', by decide, rfl⟩
  · exact .inl rfl

/-- The loop adds characters of identifiers, up to 48. -/
theorem sourceIdLoop_spec (name : List UInt8) (state : List Char × Bool)
    (hlen : state.1.length < 48) : ∃ added, sourceIdLoop state name = state.1 ++ added ∧
      (∀ c ∈ added, isIdentifierChar c = true) ∧ (state.1 ++ added).length ≤ 48 := by
  induction name generalizing state with
  | nil => exact ⟨[], (append_nil _).symm, by simp, by simpa using hlen.le⟩
  | cons byte rest ih =>
    rw [sourceIdLoop]
    have hstep := sourceIdStep_spec state byte
    generalize sourceIdStep state byte = next at hstep ⊢
    split_ifs with hfull
    · rcases hstep with hsame | ⟨c, hc, hnext⟩
      · rw [hsame] at hfull
        omega
      · exact ⟨[c], hnext, by simpa using hc, hnext ▸ hfull.le⟩
    · have hle : next.1.length ≤ state.1.length + 1 := by
        rcases hstep with hsame | ⟨c, -, hnext⟩
        · exact hsame ▸ Nat.le_succ _
        · simp [hnext]
      obtain ⟨added, hloop, hchars, hbound⟩ := ih next (by omega)
      rcases hstep with hsame | ⟨c, hc, hnext⟩
      · exact ⟨added, hsame ▸ hloop, hchars, hsame ▸ hbound⟩
      · rw [hnext, append_assoc] at hloop hbound
        exact ⟨c :: added, hloop, by simpa [hc] using hchars, hbound⟩

/-- The first character is written for the first byte that is kept. -/
theorem head_sourceIdLoop (name : List UInt8) (previous : Bool) :
    (sourceIdLoop ([], previous) name).head? = (name.find? keptInSourceId).map sourceIdChar := by
  induction name with
  | nil => rfl
  | cons byte rest ih =>
    rw [sourceIdLoop, sourceIdStep, find?_cons]
    rcases hkept : keptInSourceId byte with _ | _
    · simpa using ih
    · obtain ⟨added, hloop, -⟩ := sourceIdLoop_spec rest ([sourceIdChar byte], false) (by simp)
      simp [hloop]

/-- The candidate begins with a letter or digit unless the first byte that is kept is
another one. -/
theorem sourceIdCandidate_spec (name : List UInt8) :
    ∃ c rest, (sourceIdCandidate name).toList = c :: rest ∧
      (∀ d ∈ rest, isIdentifierChar d = true) ∧ rest.length ≤ 47 ∧
      (isAlnum c = true ↔ ∀ byte, name.find? keptInSourceId = some byte →
        isAlnum (Char.ofNat byte.toNat) = true) := by
  have hhead := head_sourceIdLoop name false
  obtain ⟨added, hloop, hchars, hbound⟩ := sourceIdLoop_spec name ([], false) (by simp)
  rw [nil_append] at hloop hbound
  rw [sourceIdCandidate, hloop]
  rw [hloop] at hhead
  rcases hfind : name.find? keptInSourceId with _ | byte
  · -- nothing is kept
    rw [hfind, Option.map_none, head?_eq_none_iff] at hhead
    rw [hhead]
    exact ⟨'s', ['o', 'u', 'r', 'c', 'e'], by decide,
      by simp [isIdentifierChar, isAlnum], by decide, by simp [isAlnum]⟩
  · obtain ⟨-, hne, halnum⟩ := sourceIdChar_of_kept (find?_some hfind)
    rw [hfind, Option.map_some] at hhead
    obtain ⟨cut, hcut⟩ := List.rdropWhile_prefix (· == '-') (l := added)
    rcases hsplit : added.rdropWhile (· == '-') with _ | ⟨c, rest⟩
    · -- the first character is no hyphen, so not all of them are removed
      have hall := rdropWhile_eq_nil_iff.mp hsplit _ (mem_of_mem_head? hhead)
      exact absurd (by simpa using hall) hne
    rw [hsplit, cons_append] at hcut
    obtain rfl : c = sourceIdChar byte := by
      rw [← hcut] at hhead
      exact Option.some.inj hhead
    refine ⟨sourceIdChar byte, rest, by simp, fun d hd => hchars d (hcut ▸ by simp [hd]), ?_,
      by simp [halnum]⟩
    rw [← hcut, length_cons, length_append] at hbound
    omega

/-! ### The identifier that is returned -/

theorem suffixedSourceId_injective (base : String) :
    Function.Injective (suffixedSourceId base) := by
  intro m n h
  exact Nat.repr_inj.mp (by simpa [suffixedSourceId] using h)

/-- The identifiers with numbers are more than 127. -/
theorem exists_suffixedSourceId {existing : List String} (h : existing.length ≤ 127)
    (base : String) :
    ∃ suffix, (List.range' 2 9998).find? (fun suffix => suffixedSourceId base suffix ∉ existing) =
      some suffix := by
  rw [← Option.isSome_iff_exists, Option.isSome_iff_ne_none]
  intro hnone
  have hsubset : (List.range' 2 9998).map (suffixedSourceId base) ⊆ existing := by
    intro id hid
    obtain ⟨suffix, hsuf, rfl⟩ := mem_map.mp hid
    simpa using find?_eq_none.mp hnone suffix hsuf
  have hnodup : ((List.range' 2 9998).map (suffixedSourceId base)).Nodup :=
    (nodup_range' 1).map (suffixedSourceId_injective base)
  have hlen := (subperm_of_subset hnodup hsubset).length_le
  rw [length_map, length_range'] at hlen
  omega

/-- Whatever the name, the identifier is new and has the characters of identifiers; it
begins as the candidate does. -/
theorem uniqueSourceId_spec {srcs} (hsrcs : srcs.length ≤ 127) {name : List UInt8}
    {c : Char} {rest : List Char} (hbase : (sourceIdCandidate name).toList = c :: rest)
    (hrest : ∀ d ∈ rest, isIdentifierChar d = true) (hlen : rest.length ≤ 47) :
    ∃ id tail, uniqueSourceId srcs name = .ok id ∧ id ∉ srcs.map SourceId.value ∧
    id.toList = c :: tail ∧ (∀ d ∈ tail, isIdentifierChar d = true) ∧ tail.length ≤ 63 := by
  unfold uniqueSourceId
  dsimp only
  split
  · next hfree => exact ⟨_, rest, rfl, hfree, hbase, hrest, by omega⟩
  have hlength : (srcs.map SourceId.value).length ≤ 127 := by simpa using hsrcs
  obtain ⟨suffix, hsuf⟩ := exists_suffixedSourceId hlength (sourceIdCandidate name)
  rw [hsuf]
  have hbound := mem_range'_1.mp (mem_of_find?_eq_some hsuf)
  have hdigits : (Nat.toDigits 10 suffix).length ≤ 4 :=
    (Nat.length_toDigits_le_iff (by decide) (by decide)).mpr (by omega)
  refine ⟨_, rest ++ '-' :: Nat.toDigits 10 suffix, rfl, by simpa using find?_some hsuf,
    ?_, ?_, ?_⟩
  · simp [suffixedSourceId, hbase, take_of_length_le (Nat.le_trans hlen (by decide : 47 ≤ 57))]
  · intro d hd
    rcases mem_append.mp hd with hd | hd
    · exact hrest d hd
    rcases mem_cons.mp hd with rfl | hd
    · decide
    · exact isIdentifierChar_of_isDigit (Nat.isDigit_of_mem_toDigits (by decide) le_rfl hd)
  · rw [length_append, length_cons]
    omega

/-- **Which names get a usable identifier**: with at most 127 sources, an identifier that
is accepted, has at most 64 characters and is not taken is returned if and only if the
first byte of the name that is a letter, a digit, a dot or an underscore, if there is one,
is a letter or a digit. -/
theorem uniqueSourceId_usable_iff (name : List UInt8) {sources : List SourceId}
    (hsources : sources.length ≤ 127) :
    (∃ id : SourceId, uniqueSourceId sources name = .ok id.value ∧ id.value.length ≤ 64 ∧
      id ∉ sources) ↔
      ∀ byte, name.find? keptInSourceId = some byte → isAlnum (Char.ofNat byte.toNat) = true := by
  obtain ⟨c, rest, hbase, hrest, hlength, hiff⟩ := sourceIdCandidate_spec name
  obtain ⟨id, tail, hid, hnew, htext, htail, hbound⟩ :=
    uniqueSourceId_spec hsources hbase hrest hlength
  have hok : identifierOk id = isAlnum c := by
    simpa [identifierOk, htext, hbound] using fun _ => htail
  rw [← hiff, hid]
  constructor
  · rintro ⟨accepted, heq, -⟩
    rw [← hok, Except.ok.inj heq]
    exact accepted.valid
  · intro hc
    refine ⟨⟨id, hok.trans hc⟩, rfl, ?_, fun hmem => hnew (mem_map.mpr ⟨_, hmem, rfl⟩)⟩
    rw [← String.length_toList, htext, length_cons]
    omega

namespace Sample

/-- The source `.hidden`, the first of a profile, gets an identifier that is not accepted. -/
theorem hidden_source_refused :
    let name := ".hidden".toUTF8.toList
    uniqueSourceId [] name = .ok ".hidden" ∧
      SourceId.ofString ".hidden" =
        .error (validationError "sourceId contains unsupported characters") := by
  decide +kernel

/-- A second `Home` is numbered. -/
theorem second_home_usable :
    let sources : List SourceId := [⟨"home", by decide⟩]
    ∃ id : SourceId, uniqueSourceId sources "Home".toUTF8.toList = .ok id.value ∧
      id.value.length ≤ 64 ∧ id ∉ sources :=
  (uniqueSourceId_usable_iff "Home".toUTF8.toList (by decide)).mpr (by decide +kernel)

end Sample

end BtrfsBackup
