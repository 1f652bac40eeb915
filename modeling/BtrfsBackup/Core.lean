/-
Errors and identifiers of the engine (`core/`).

* `Thrown` — an exception: its class in the C++ hierarchy and its message;
* `Identifier` — the texts accepted as profile, source and operation ids, and
  `RunId` — those accepted as run ids; a value of these types is a valid one;
* `identifierOk_plain`, `runIdOk_plain` — an accepted id is a plain file name.
-/
import BtrfsBackup.Path

namespace BtrfsBackup

/-! ### Errors -/

/-- Error codes of the engine. -/
inductive ErrorCode where
  | backupFailed
  | backupCancelled
  | runnerActionFailed
  | runnerCancelled
  | runnerProfileBusy
  | runnerTargetBusy
  | runnerStaleRun
  | runnerRunMismatch
  | transferFailed
  | transferProducerFailed
  | transferConsumerFailed
  | transferProducerConsumerFailed
  | hookBeforeSnapshotFailed
  | hookBeforeSnapshotTimeout
  | hookAfterSnapshotFailed
  | hookAfterSnapshotTimeout
  | targetBtrfsUuidMismatch
  | repositoryRecoveryRequired
  | configurationSaveFailed
  | configurationRollbackIncomplete
  | credentialMutationRollbackIncomplete
  | configurationChanged
  deriving DecidableEq, Repr

/-- The exception classes the engine tells apart. -/
inductive ErrorClass where
  | btrfsBackup
  | configuration
  | validation
  | systemOperation
  | codedValidation (code : ErrorCode)
  | codedOperation (code : ErrorCode)
  | recoveryRequired (code : ErrorCode)
  | operationCancelled
  /-- A standard exception outside the engine's own hierarchy. -/
  | standard
  deriving DecidableEq, Repr

/-- A thrown exception. -/
structure Thrown where
  errorClass : ErrorClass
  what : String
  deriving DecidableEq, Repr

namespace Thrown

/-- `CodedError`: the code an exception carries. -/
def code (e : Thrown) : Option ErrorCode :=
  match e.errorClass with
  | .codedValidation code => some code
  | .codedOperation code => some code
  | .recoveryRequired code => some code
  | _ => none

/-- Is the exception a `RecoveryRequiredError`? -/
def isRecoveryRequired (e : Thrown) : Bool :=
  match e.errorClass with
  | .recoveryRequired _ => true
  | _ => false

/-- Is the exception an `OperationCancelledError`? -/
def isOperationCancelled (e : Thrown) : Bool := e.errorClass == .operationCancelled

/-- Is the exception a `BtrfsBackupError`? -/
def isBtrfsBackupError (e : Thrown) : Bool := e.errorClass != .standard

/-- `failure_code`: the code an exception carries, or the general one. -/
def failureCode (e : Thrown) : ErrorCode := e.code.getD .backupFailed

end Thrown

/-- `OperationCancelledError`. -/
def operationCancelledError (what : String) : Thrown := ⟨.operationCancelled, what⟩

/-- `ValidationError`. -/
def validationError (what : String) : Thrown := ⟨.validation, what⟩

variable {ε α β : Type} {value : String} {c : Char}

/-- Code that may throw returns only if each of its parts returns. -/
theorem bind_eq_ok {x : Except ε α} {f} {b : β} :
    x >>= f = .ok b ↔ ∃ a, x = .ok a ∧ f a = .ok b := by
  cases x with
  | error e => simp [bind, Except.bind]
  | ok a => simp [bind, Except.bind]

theorem bind_ok {x : Except ε α} {f} {a : α} {b : β}
    (hx : x = .ok a) (hf : f a = .ok b) : x >>= f = .ok b :=
  bind_eq_ok.mpr ⟨a, hx, hf⟩

theorem exists_of_isOk {x : Except ε α} (h : x.isOk = true) : ∃ a, x = .ok a := by
  cases x with
  | error e => cases h
  | ok a => exact ⟨a, rfl⟩

/-! ### Identifiers -/

/-- A character of `[A-Za-z0-9]`. -/
def isAlnum (c : Char) : Bool :=
  ('A' ≤ c && c ≤ 'Z') || ('a' ≤ c && c ≤ 'z') || ('0' ≤ c && c ≤ '9')

/-- A character of `[A-Za-z0-9._-]`. -/
def isIdentifierChar (c : Char) : Bool := isAlnum c || c == '.' || c == '_' || c == '-'

/-- A character of `[A-Za-z0-9._:-]`. -/
def isRunIdChar (c : Char) : Bool := isIdentifierChar c || c == ':'

/-- `identifier_re`: a letter or digit, then at most 63 identifier characters. -/
def identifierOk (value : String) : Bool :=
  match value.toList with
  | [] => false
  | c :: cs => isAlnum c && cs.all isIdentifierChar && cs.length ≤ 63

theorem identifierOk_chars (h : identifierOk value = true) :
    (∀ c ∈ value.toList, isIdentifierChar c = true) ∧ value.toList.length ≤ 64 ∧ value ≠ "" := by
  unfold identifierOk at h
  split at h
  · cases h
  · next c cs heq =>
    simp only [Bool.and_eq_true, List.all_eq_true, decide_eq_true_eq] at h
    obtain ⟨⟨hhead, htail⟩, hlen⟩ := h
    rw [heq]
    refine ⟨?_, Nat.succ_le_succ hlen, ?_⟩
    · intro d hd
      rcases List.mem_cons.mp hd with rfl | hd
      · simp [isIdentifierChar, hhead]
      · exact htail d hd
    · rintro rfl
      cases heq

/-- `run_id_re`: a letter or digit, then run id characters. -/
def runIdOk (value : String) : Bool :=
  match value.toList with
  | [] => false
  | c :: cs => isAlnum c && cs.all isRunIdChar

structure ProfileId where
  value : String
  valid : identifierOk value = true
  deriving DecidableEq

structure SourceId where
  value : String
  valid : identifierOk value = true
  deriving DecidableEq

structure RunId where
  value : String
  valid : runIdOk value = true
  deriving DecidableEq

/-- `validate_identifier`, returning the proof that the value is valid. -/
def validateIdentifier (value fieldName : String) :
    Except Thrown (PLift (identifierOk value = true)) :=
  if h : identifierOk value = true then .ok ⟨h⟩
  else .error (validationError (fieldName ++ " contains unsupported characters"))

/-- The constructor of `SourceId`. -/
def SourceId.ofString (value : String) : Except Thrown SourceId :=
  (validateIdentifier value "sourceId").map fun h => ⟨value, h.down⟩

/-- The constructor of `ProfileId`: the error of `validate_identifier` is
replaced by one that shows the value. -/
def ProfileId.ofString (value : String) : Except Thrown ProfileId :=
  match validateIdentifier value "profileId" with
  | .ok h => .ok ⟨value, h.down⟩
  | .error _ => .error (validationError ("invalid profile id: " ++ value))

/-- The constructor of `RunId`. -/
def RunId.ofString (value : String) : Except Thrown RunId :=
  if h : runIdOk value = true then .ok ⟨value, h⟩
  else .error (validationError ("invalid run id: " ++ value))

/-! ### Identifiers as file names -/

/-- A file name that is neither `.` nor `..`. -/
def IsPlain (name : String) : Prop := IsName name ∧ name ≠ "." ∧ name ≠ ".."

instance (name : String) : Decidable (IsPlain name) := inferInstanceAs (Decidable (_ ∧ _))

/-- A text that starts with a letter or digit and has no separator is a plain
file name. -/
theorem isPlain_of_head {cs : List Char} (hvalue : value.toList = c :: cs)
    (hc : isAlnum c = true) (hcs : ∀ d ∈ cs, isRunIdChar d = true) : IsPlain value := by
  have hsep : '/' ∉ value.toList := by
    rw [hvalue]
    intro h
    rcases List.mem_cons.mp h with rfl | h
    · exact absurd hc (by decide)
    · exact absurd (hcs '/' h) (by decide)
  have hdot : ∀ text : String, text.toList.head? = some '.' → value ≠ text := by
    rintro text htext rfl
    rw [hvalue, List.head?_cons, Option.some.injEq] at htext
    rw [htext] at hc
    exact absurd hc (by decide)
  refine ⟨⟨?_, hsep⟩, hdot "." rfl, hdot ".." rfl⟩
  rintro rfl
  cases hvalue

theorem isRunIdChar_of_isIdentifierChar (h : isIdentifierChar c = true) : isRunIdChar c = true := by
  rw [isRunIdChar, h, Bool.true_or]

theorem isIdentifierChar_of_isDigit (h : c.isDigit = true) : isIdentifierChar c = true := by
  simp only [Char.isDigit, Bool.and_eq_true, decide_eq_true_eq] at h
  have h1 : '0' ≤ c := h.1
  have h2 : c ≤ '9' := h.2
  simp [isIdentifierChar, isAlnum, h1, h2]

theorem identifierOk_plain (h : identifierOk value = true) : IsPlain value := by
  rw [identifierOk] at h
  split at h
  · cases h
  · next c cs hvalue =>
    simp only [Bool.and_eq_true, List.all_eq_true] at h
    exact isPlain_of_head hvalue h.1.1 fun d hd => isRunIdChar_of_isIdentifierChar (h.1.2 d hd)

theorem runIdOk_plain (h : runIdOk value = true) : IsPlain value := by
  rw [runIdOk] at h
  split at h
  · cases h
  · next c cs hvalue =>
    simp only [Bool.and_eq_true, List.all_eq_true] at h
    exact isPlain_of_head hvalue h.1 h.2

theorem SourceId.isPlain (id : SourceId) : IsPlain id.value := identifierOk_plain id.valid

theorem ProfileId.isPlain (id : ProfileId) : IsPlain id.value := identifierOk_plain id.valid

theorem RunId.isPlain (id : RunId) : IsPlain id.value := runIdOk_plain id.valid

end BtrfsBackup
