/-
The numbers of documents (`RunStatusDocumentCodec`, `ProfileDocumentNormalization`,
`DevicePreparationTransactionCodec`).

A decoder compares a version or a percentage with what is supported after it has converted
the number to an `int` or an `int64_t`.  The conversion wraps, so that other numbers pass too.

* `parseStatus`, `parseTransaction` — the decoders of statuses and of transactions, with what
  they do with the fields that are no version and no percentage as arguments;
* `numbers_as_written_iff` — the numbers of an accepted document are supported ones if and
  only if the conversions keep them.
-/
import BtrfsBackup.IncomingSeparation

open OrderedJson

namespace BtrfsBackup

namespace Numbers

/-- The integer in a field. -/
def literal? (json : Json) (key : String) : Option Int := (json.lookup key).bind Json.toInt?

/-! ### Statuses -/

/-- `parse_document`. -/
def parseDocument (input : Json) (schemaVersion : Int) (kind : String) : Except Thrown Unit :=
  if !input.isObject then .error (validationError (kind ++ " JSON must be an object"))
  else if (literal? input "schemaVersion").map (·.bmod (2 ^ 32)) ≠ some schemaVersion then
    .error (validationError (kind ++ " JSON has unsupported schemaVersion"))
  else .ok ()

def required (input : Json) (field : String) : Except Thrown Json :=
  match input.lookup field with
  | some value => .ok value
  | none => .error (validationError ("status JSON is missing required field: " ++ field))

/-- `required_integer`. -/
def requiredInteger (input : Json) (field : String) : Except Thrown Int := do
  match (← required input field).toInt? with
  | some literal => .ok (literal.bmod (2 ^ 64))
  | none => .error (validationError ("status JSON field " ++ field ++ " must be an integer"))

/-- `required_percentage`. -/
def requiredPercentage (input : Json) (field : String) : Except Thrown (Option Int) := do
  let value ← requiredInteger input field
  if value = -1 then .ok none
  else if value < 0 ∨ value > 100 then
    .error (validationError ("status JSON field " ++ field ++ " must be -1 or between 0 and 100"))
  else .ok (some value)

section decoders

variable {α β : Type}

/-- `parse_public` and `parse_private`, with what they do before and after the percentages. -/
def parseStatus (kind : String) (before : Json → Except Thrown α)
    (after : α → Option Int → Option Int → Json → Except Thrown β) (input : Json) :
    Except Thrown β := do
  parseDocument input 1 kind
  let fields ← before input
  let sourcePercent ← requiredPercentage input "sourceProgress"
  let overallPercent ← requiredPercentage input "overallProgress"
  after fields sourcePercent overallPercent input

/-! ### Transactions -/

/-- The conversion of a value to an `int`; what a floating point number gives is an argument. -/
def getInt (floating : Int) : Json → Except String Int
  | .boolean value => .ok value.toInt
  | .floating => .ok floating
  | json =>
    match json.toInt? with
    | some literal => .ok (literal.bmod (2 ^ 32))
    | none => .error (Json.typeMismatch "number" json)

/-- `value` for an `int`. -/
def intOr (floating : Int) (json : Json) (key : String) (default : Int) : Except String Int :=
  if !json.isObject then
    .error ("[json.exception.type_error.306] cannot use value() with " ++ json.typeName)
  else
    match json.lookup key with
    | some value => getInt floating value
    | none => .ok default

/-- `parse_transaction`, with what it does after the check of the version. -/
def parseTransaction (floating : Int) (rest : Json → Except Thrown α) (value : Json) :
    Except Thrown α := do
  let schemaVersion ← fromLibrary (intOr floating value "schemaVersion" 0)
  if !value.isObject ∨ schemaVersion ≠ 1 ∨ !value.contains "device" then
    .error (validationError "invalid device preparation transaction")
  else rest value

/-! ### Accepted numbers -/

/-- The integer in a field has a property. -/
def Has (P : Int → Prop) (json : Json) (key : String) : Prop :=
  ∃ n, literal? json key = some n ∧ P n

/-- The conversion to a machine integer of so many bits keeps the number. -/
def Fits (bits : Nat) (n : Int) : Prop := -2 ^ bits ≤ 2 * n ∧ 2 * n < 2 ^ bits

/-- A percentage, or none. -/
def IsPercentage (n : Int) : Prop := n = -1 ∨ 0 ≤ n ∧ n ≤ 100

/-- A number that has passed a check after its conversion would pass it before if and only if
the conversion keeps it. -/
theorem has_iff_fits {P : Int → Prop} {bits : Nat} {json : Json} {key : String}
    (hP : ∀ n, P n → Fits bits n) (h : ∀ n, literal? json key = some n → P (n.bmod (2 ^ bits))) :
    Has P json key ↔ Has (Fits bits) json key := by
  constructor
  · rintro ⟨n, hn, hchecked⟩
    exact ⟨n, hn, hP n hchecked⟩
  · rintro ⟨n, hn, hlow, hhigh⟩
    have hkept : n.bmod (2 ^ bits) = n :=
      Int.bmod_eq_of_le_mul_two (by push_cast; omega) (by push_cast; omega)
    exact ⟨n, hn, hkept ▸ h n hn⟩

/-- The version of a document is the supported one. -/
abbrev HasVersion (json : Json) : Prop := Has (· = 1) json "schemaVersion"

theorem version_iff {json : Json}
    (h : ∀ n, literal? json "schemaVersion" = some n → n.bmod (2 ^ 32) = 1) :
    HasVersion json ↔ Has (Fits 32) json "schemaVersion" :=
  has_iff_fits (fun n hn => by rw [hn, Fits]; omega) h

variable {json : Json}

theorem percentage_iff {field : String} {percent : Option Int}
    (h : requiredPercentage json field = .ok percent) :
    Has IsPercentage json field ↔ Has (Fits 64) json field := by
  refine has_iff_fits (fun n hn => by rw [Fits]; rcases hn with rfl | hn <;> omega) fun n hn => ?_
  obtain ⟨value, hvalue, hn⟩ := Option.bind_eq_some_iff.mp hn
  have hread : requiredInteger json field = .ok (n.bmod (2 ^ 64)) := by
    rw [requiredInteger, required, hvalue]
    show (match value.toInt? with | some literal => _ | none => _) = _
    rw [hn]
  rw [requiredPercentage, hread] at h
  replace h : (if n.bmod (2 ^ 64) = -1 then .ok none
    else if n.bmod (2 ^ 64) < 0 ∨ n.bmod (2 ^ 64) > 100 then _ else _) = Except.ok percent := h
  split_ifs at h with hnone hrange
  · exact .inl hnone
  · exact .inr (by omega)

theorem document_version_iff {kind : String} (h : parseDocument json 1 kind = .ok ()) :
    HasVersion json ↔ Has (Fits 32) json "schemaVersion" := by
  rw [parseDocument, ite_error_eq_ok, ite_error_eq_ok, not_not] at h
  exact version_iff fun n hn => by simpa [hn] using h.2.1

theorem transaction_version_iff {floating : Int} {rest} {tx : α}
    (h : parseTransaction floating rest json = .ok tx) :
    HasVersion json ↔ Has (Fits 32) json "schemaVersion" := by
  refine version_iff fun n hn => ?_
  obtain ⟨value, hvalue, hn⟩ := Option.bind_eq_some_iff.mp hn
  obtain ⟨version, hversion, h⟩ := bind_eq_ok.mp h
  simp only [ite_error_eq_ok, not_or, not_not, Bool.not_eq_true, Bool.not_eq_false'] at h
  have hread : intOr floating json "schemaVersion" 0 = .ok (n.bmod (2 ^ 32)) := by
    rw [intOr, h.1.1, hvalue]
    cases value with
    | integer literal => cases hn; rfl
    | unsigned literal => cases hn; rfl
    | _ => cases hn
  rw [hread] at hversion
  exact (Except.ok.inj hversion).trans h.1.2.1

theorem profile_version_iff {targetMountRoot : String} {profile : Profile}
    (h : profileFromJson json targetMountRoot = .ok profile) :
    HasVersion json ↔ Has (Fits 32) json "schemaVersion" := by
  refine version_iff fun n hn => ?_
  obtain ⟨_, h, -⟩ := bind_eq_ok.mp h
  obtain ⟨_, h, -⟩ := bind_eq_ok.mp h
  rw [literal?] at hn
  simp only [validateRoot, hn, error_bind, ite_error_eq_ok, bind_eq_ok, not_not] at h
  obtain ⟨-, _, -, hversion, -⟩ := h
  exact hversion

end decoders

/-- Whatever the decoders do with the other fields: the version of an accepted document is the
supported one, and the percentages of an accepted status are percentages, if and only if the
conversions keep the numbers. -/
theorem numbers_as_written_iff {α β γ : Type} (kind : String) (before : Json → Except Thrown α)
    (after : α → Option Int → Option Int → Json → Except Thrown β) (floating : Int)
    (rest : Json → Except Thrown γ) (targetMountRoot : String) (document : Json) :
    (∀ profile, profileFromJson document targetMountRoot = .ok profile →
      (HasVersion document ↔ Has (Fits 32) document "schemaVersion")) ∧
    (∀ transaction, parseTransaction floating rest document = .ok transaction →
      (HasVersion document ↔ Has (Fits 32) document "schemaVersion")) ∧
    ∀ status, parseStatus kind before after document = .ok status →
      ((HasVersion document ∧ Has IsPercentage document "sourceProgress" ∧
          Has IsPercentage document "overallProgress") ↔
        (Has (Fits 32) document "schemaVersion" ∧ Has (Fits 64) document "sourceProgress" ∧
          Has (Fits 64) document "overallProgress")) := by
  refine ⟨fun _ => profile_version_iff, fun _ => transaction_version_iff, fun status h => ?_⟩
  obtain ⟨_, hversion, h⟩ := bind_eq_ok.mp h
  obtain ⟨_, -, h⟩ := bind_eq_ok.mp h
  obtain ⟨_, hsource, h⟩ := bind_eq_ok.mp h
  obtain ⟨_, hoverall, -⟩ := bind_eq_ok.mp h
  exact and_congr (document_version_iff hversion)
    (and_congr (percentage_iff hsource) (percentage_iff hoverall))

namespace Sample

/-- A document with this version, these percentages and other fields. -/
def numbered (version percent : UInt64) (fields : List (String × Json)) : Json := .object
  ([("schemaVersion", .unsigned version), ("device", .object []),
    ("sourceProgress", .unsigned percent), ("overallProgress", .unsigned percent)] ++ fields)

/-- A profile with this version. -/
def versioned (version : UInt64) : Json :=
  match BtrfsBackup.Sample.document with
  | .object fields => .object (put "schemaVersion" (.unsigned version) fields)
  | other => other

/-- The version 2³² + 1 is accepted, and 2⁶⁴ - 1 percent are none: whether a document is accepted
depends on its other fields only. -/
theorem wrapped_numbers_accepted :
    profileFromJson (versioned 4294967297) "/mnt" = .ok BtrfsBackup.Sample.documentProfile ∧
    ∀ fields, (∀ {α : Type} (rest : Json → Except Thrown α),
      parseTransaction 0 rest (numbered 4294967297 0 fields) =
        rest (numbered 4294967297 0 fields)) ∧
    ∀ {α β : Type} (before : Json → Except Thrown α)
        (after : α → Option Int → Option Int → Json → Except Thrown β) (values : α),
      let status := numbered 4294967297 18446744073709551615 fields
      before status = .ok values →
        parseStatus "public status" before after status = after values none none status := by
  refine ⟨by decide +kernel, fun fields => ⟨fun rest => ?_, ?_⟩⟩
  · have hread : intOr 0 (numbered 4294967297 0 fields) "schemaVersion" 0 =
        getInt 0 (.unsigned 4294967297) := rfl
    rw [parseTransaction, hread, show getInt 0 (.unsigned 4294967297) = .ok 1 by decide +kernel]
    rfl
  · intro α β before after values status hbefore
    have hpercent : ∀ key, status.lookup key = some (.unsigned 18446744073709551615) →
        requiredPercentage status key = .ok none := by
      intro key hkey
      have hread : requiredInteger status key =
          .ok (((18446744073709551615 : UInt64).toNat : Int).bmod (2 ^ 64)) := by
        rw [requiredInteger, required, hkey]
        rfl
      rw [show ((18446744073709551615 : UInt64).toNat : Int).bmod (2 ^ 64) = -1 by decide] at hread
      rw [requiredPercentage, hread]
      rfl
    rw [parseStatus, show parseDocument status 1 "public status" = .ok () by rfl, hbefore,
      hpercent "sourceProgress" rfl, hpercent "overallProgress" rfl]
    rfl

end Sample

end Numbers

end BtrfsBackup
