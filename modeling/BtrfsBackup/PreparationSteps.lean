/-
What the steps of a helper do.

Most writes of the executor are plain: they leave alone what the other processes
and the later phases depend on.  `HelperOps` collects what has to be shown of the
single operations so that they keep an invariant; the parts of the executor then
keep it, whatever the invariant is.

* `Plain` — the plain writes;
* `HelperOps` — operations that keep an invariant `I` within a guarantee `G`;
* `HelperOps.within_…` — the parts of the executor.
-/
import BtrfsBackup.PreparationManager
import BtrfsBackup.PreparationStoreSafety

open Interaction Interaction.Prog

namespace BtrfsBackup

namespace Preparation

/-! ### Plain writes -/

/-- What a plain write does not change. -/
def DevicePreparationTransaction.essence (r : DevicePreparationTransaction) :
    DevicePreparationTarget × ProfileId × Bool × ReservationState × String × String :=
  (r.target, r.profileId, r.cancelRequested, r.profileReservationState, r.mapper,
    r.partitionTableBackup)

/-- The phases whose completion says that nothing was changed on the device. -/
def unchangedAfter (last : Option Phase) : Bool :=
  last == none || last == some .inspect || last == some .backupPartitionTable

/-- A write that does not change the essence, does not make the operation
cancellable, and does not take back the completion of a phase. -/
structure Plain (before after : DevicePreparationTransaction) : Prop where
  essence : after.essence = before.essence
  canCancel : after.canCancel = true → before.canCancel = true
  lastCompletedPhase : after.lastCompletedPhase = before.lastCompletedPhase ∨
    unchangedAfter after.lastCompletedPhase = false

/-! ### Writes that establish something -/

variable {op : OperationId} {A : PreparationCall → PreparationAnswer → PreparationSystem → Prop}
  {R G : PreparationSystem → PreparationSystem → Prop} {P M I : PreparationSystem → Prop}
  {W : DevicePreparationTransaction → DevicePreparationTransaction → Prop} {V : Event → Prop}
  {s : PreparationSystem} {α β : Type}

section writes

variable [IsRely R] (hG : ∀ t, G t t) (hP : Stable R P) (hM : Stable R M) (hs : P s)

include hG hP hM hs

theorem guarded_change {mutator}
    (h : ∀ i t r changed now, P t → A ⟨.helper, .update op r.revision⟩ i t →
      t.transactions op = some r → mutator r = .ok changed → Succeeds r (stamped now changed) →
      G t (t.store .helper op (stamped now changed)) ∧
        M (t.store .helper op (stamped now changed))) :
    Guarded A R G (change op mutator) (fun _ => M) (fun _ t => P t ∨ M t) s := by
  refine (guarded_update hG hP (fun _ => hM) hs
    fun i t r changed ht hA hget hchg hnext => ?_).mono_error
      fun _ _ hu => hu.imp id fun ⟨_, hr⟩ => hr
  obtain ⟨mutated, hmutated, rfl⟩ : ∃ mutated, mutator r = .ok mutated ∧
      { mutated with updatedAt := i.now } = changed := by
    cases hm : mutator r with
    | error e => simp [hm, Except.map] at hchg
    | ok mutated => exact ⟨mutated, rfl, by simpa [hm, Except.map] using hchg⟩
  exact h i t r mutated i.now ht hA hget hmutated hnext

theorem guarded_amend {mutator} (h : ∀ i t r now, P t → A ⟨.helper, .update op r.revision⟩ i t →
      t.transactions op = some r → Succeeds r (stamped now (mutator r)) →
      G t (t.store .helper op (stamped now (mutator r))) ∧
        M (t.store .helper op (stamped now (mutator r)))) :
    Guarded A R G (amend op mutator) (fun _ => M) (fun _ t => P t ∨ M t) s := by
  refine guarded_do (guarded_change hG hP hM hs ?_) fun _ t ht =>
    guarded_ret hM ht fun _ hu => hu
  rintro i t r changed now ht hA hget ⟨⟩ hnext
  exact h i t r now ht hA hget hnext

/-- A phase that was entered: the record asked for no cancellation. -/
theorem guarded_phase {value : Phase} {canCancel : Bool}
    (h : ∀ i t r now, P t → A ⟨.helper, .update op r.revision⟩ i t →
      t.transactions op = some r → r.cancelRequested = false →
      Succeeds r
        (stamped now { r with state := .running, phase := value, canCancel := canCancel }) →
      G t (t.store .helper op
          (stamped now { r with state := .running, phase := value, canCancel := canCancel })) ∧
        M (t.store .helper op
          (stamped now { r with state := .running, phase := value, canCancel := canCancel }))) :
    Guarded A R G (phase op value canCancel) (fun _ => M) (fun _ t => P t ∨ M t) s := by
  refine guarded_do (guarded_change hG hP hM hs ?_) fun _ t ht =>
    guarded_ret hM ht fun _ hu => hu
  intro i t r changed now ht hA hget hchg hnext
  rw [enterPhase] at hchg
  split at hchg
  · cases hchg
  · next hcancel =>
    cases hchg
    exact h i t r now ht hA hget (Bool.eq_false_iff.mpr hcancel) hnext

end writes

/-! ### Operations that keep an invariant -/

variable (op A R G I W V) in
/-- The operations of the helper of an operation keep `I` within `G`: the writes in
`W`, and the noted events in `V`. -/
structure HelperOps : Prop where
  rely : IsRely R
  refl : ∀ t, G t t
  stable : Stable R I
  plain : ∀ r w, Plain r w → W r w
  write : ∀ i t r w action, I t → A ⟨.helper, action⟩ i t →
    t.transactions op = some r → Succeeds r w → W r w →
    G t (t.store .helper op w) ∧ I (t.store .helper op w)
  event : ∀ t e, I t → V e → G t (t.record op e) ∧ I (t.record op e)

namespace HelperOps

section ops

variable (h : HelperOps op A R G I W V) {value : Phase} {partitionUuid luksUuid : String}
  {proc : Process}

include h

theorem within_inquire {act : Action} {value : PreparationAnswer → α} :
    Within A R G I (inquire proc act value) :=
  fun _ => guarded_inquire h.refl h.stable

theorem within_ask {other} {value : PreparationAnswer → α} :
    Within A R G I (ask other value) := h.within_inquire

theorem within_ensure {condition : Bool} {e : Raised} : Within A R G I (ensure condition e) :=
  within_ite (within_ret h.stable) (within_fail h.stable)

theorem within_load {other} :
    Within A R G I (load proc other) := fun _ hs =>
  (guarded_load h.refl h.stable (fun _ _ _ _ _ => trivial) hs
    fun _ _ _ _ _ => trivial).mono_result fun _ _ hu => hu.1

theorem within_destroy {call} (hV : V (.destroying call)) : Within A R G I (destroy op call) :=
  within_effect h.stable (fun _ t ht _ => h.event t _ ht hV) fun i t _ _ => by
    cases i.error with
    | none => exact within_ret h.stable
    | some e => exact within_fail h.stable

theorem within_acquireDeviceLock (hV : V .lockAcquired) : Within A R G I (acquireDeviceLock op) :=
  within_effect h.stable (fun i t ht _ => by
    split
    · exact h.event t _ ht hV
    · exact ⟨h.refl t, ht⟩) fun i t _ _ => by
      cases i.error with
      | some e => exact within_fail h.stable
      | none => exact within_ite (within_ret h.stable) (within_fail h.stable)

theorem within_inspectSafety (hV : ∀ reasons, V (.safetyInspected reasons)) :
    Within A R G I (inspectSafety op) :=
  within_effect h.stable (fun i t ht _ => by
    split
    · exact h.event t _ ht (hV i.lines)
    · exact ⟨h.refl t, ht⟩) fun i t _ _ => by
      cases i.error with
      | some e => exact within_fail h.stable
      | none =>
        cases i.lines with
        | nil => exact within_ret h.stable
        | cons reason rest => exact within_fail h.stable

variable [IsRely R]

/-- The writes of the executor. -/
theorem within_change {mutator}
    (hW : ∀ r changed now, mutator r = .ok changed → W r (stamped now changed)) :
    Within A R G I (change op mutator) := by
  intro s hs
  refine (guarded_change h.refl h.stable h.stable hs ?_).mono_error fun _ _ hu => hu.elim id id
  intro i t r changed now ht hA hget hchg hnext
  exact h.write i t r _ _ ht hA hget hnext (hW r changed now hchg)

theorem within_amend {mutator}
    (hW : ∀ r now, W r (stamped now (mutator r))) : Within A R G I (amend op mutator) := by
  refine (h.within_change ?_).seq fun _ => within_ret h.stable
  rintro r changed now ⟨⟩
  exact hW r now

/-- An amendment by a plain write. -/
theorem within_amend_plain {mutator}
    (hplain : ∀ r now, Plain r (stamped now (mutator r))) : Within A R G I (amend op mutator) :=
  h.within_amend fun r now => h.plain _ _ (hplain r now)

theorem within_phase_of {canCancel : Bool} (hW : ∀ r now, W r (stamped now
      { r with state := .running, phase := value, canCancel := canCancel })) :
    Within A R G I (phase op value canCancel) := by
  refine (h.within_change fun r changed now hchg => ?_).seq fun _ => within_ret h.stable
  rw [enterPhase] at hchg
  split at hchg
  · cases hchg
  · cases hchg
    exact hW r now

theorem within_phase : Within A R G I (phase op value false) :=
  h.within_phase_of fun _ _ => h.plain _ _ ⟨rfl, nofun, .inl rfl⟩

theorem within_completed (hvalue : unchangedAfter (some value) = false) :
    Within A R G I (completed op value) :=
  h.within_amend_plain fun _ _ => by exact ⟨rfl, id, .inr hvalue⟩

theorem within_awaitAccess {gen : Nat} (polls : Nat) :
    Within A R G I (awaitAccess op gen polls) := by
  induction polls with
  | zero => exact within_fail h.stable
  | succ polls ih =>
    refine h.within_load.seq fun r => ?_
    exact within_ite (within_ret h.stable) (within_ite (within_fail h.stable) ih)

theorem within_requestAccess {devices} {mapperControl : Bool} :
    Within A R G I (requestAccess op devices mapperControl) := by
  refine (h.within_change fun r changed now hchg => ?_).seq fun r =>
    h.within_inquire.seq fun polls => h.within_awaitAccess polls
  rw [askForAccess] at hchg
  split at hchg
  · cases hchg
  · cases hchg
    exact h.plain _ _ ⟨rfl, id, .inl rfl⟩

/-! ### The parts of the executor -/

variable {init : DevicePreparationTransaction}

theorem within_revalidate {plan : Plan} {what : String} :
    Within A R G I (revalidate op plan what) := by
  cases plan with
  | eraseWholeDevice geometry => exact h.within_ask.seq fun _ => h.within_ensure
  | createPartition region geometry => exact within_ret h.stable
  | reformatPartition partition => exact within_ret h.stable
  | adoptTarget partition => exact within_ret h.stable

theorem within_checkSource {selected} : Within A R G I (checkSource op selected) := by
  refine h.within_ask.seq fun _ => h.within_ensure.seq fun _ => ?_
  exact h.within_ask.seq fun _ => h.within_ensure

variable {ready : PreparationProg Unit}

/-- The errors of this part are values: it does not throw. -/
theorem guarded_inspectMapping
    {E : Raised → PreparationSystem → Prop} {s} (hready : Within A R G I ready) (hs : I s) :
    Guarded A R G (inspectMapping op luksUuid partitionUuid ready) (fun _ => I) E s := by
  refine guarded_do (M := fun _ => I)
    ((guarded_attempt _).mpr (hready.bind (fun _ => h.within_ask) s hs)) ?_
  rintro (e | ⟨isBtrfs, filesystemUuid⟩) t ht
  · exact guarded_ret h.stable ht fun _ hu => hu
  · dsimp only
    split
    · exact guarded_ret h.stable ht fun _ hu => hu
    · refine guarded_do (M := fun _ => I) ((guarded_attempt _).mpr (h.within_ask t ht)) ?_
      rintro (e | ⟨⟩) t ht
      · exact guarded_ret h.stable ht fun _ hu => hu
      · exact guarded_do ((guarded_attempt _).mpr (h.within_ask t ht))
          fun _ t ht => guarded_ret h.stable ht fun _ hu => hu

theorem within_inspectMapping (hready : Within A R G I ready) :
    Within A R G I (inspectMapping op luksUuid partitionUuid ready) :=
  fun _ => h.guarded_inspectMapping hready

theorem within_writeProfile
    {installed : DevicePreparationTransaction → DevicePreparationTransaction}
    (hinst : ∀ r now, Plain r (stamped now (installed { r with
      configurationState := .installed
      lastCompletedPhase := some .writeProfile }))) :
    Within A R G I (writeProfile op installed) := by
  refine h.within_phase.seq fun _ => ?_
  refine (h.within_amend_plain fun _ _ => by exact ⟨rfl, id, .inl rfl⟩).seq fun _ => ?_
  exact h.within_ask.seq fun _ => h.within_amend_plain hinst

/-- Releasing the profile, then the last write. -/
theorem within_succeed (hrelease : Within A R G I (releaseProfileReservation op)) :
    Within A R G I (succeed op) :=
  hrelease.seq fun _ => h.within_amend_plain fun _ _ => by exact ⟨rfl, nofun, .inl rfl⟩

theorem within_makePartition {call} (hV : V (.destroying call)) :
    Within A R G I (makePartition op call) := by
  refine h.within_phase.seq fun _ => (h.within_destroy hV).seq fun _ => ?_
  exact (h.within_amend_plain fun _ _ => by exact ⟨rfl, id, .inr rfl⟩).seq fun _ =>
    within_ret h.stable

theorem within_wipeSignatures {path majorMinor : String}
    (hV : V (.destroying (.wipeAll path majorMinor))) :
    Within A R G I (wipeSignatures op path majorMinor) := by
  refine h.within_phase.seq fun _ => (h.within_destroy hV).seq fun _ => ?_
  exact h.within_completed rfl

theorem within_formatLuks {partition : String} (hV : V (.destroying (.formatLuks2 partition))) :
    Within A R G I (formatLuks op partition) := by
  refine h.within_phase.seq fun _ => (h.within_destroy hV).seq fun _ => ?_
  exact h.within_amend_plain fun _ _ => by exact ⟨rfl, id, .inr rfl⟩

variable (hid : init.operationId = op)

include hid

theorem within_backupPartitionTable
    (hW : ∀ r now backup, W r (stamped now { r with
      partitionTableBackup := backup
      lastCompletedPhase := some .backupPartitionTable })) :
    Within A R G I (backupPartitionTable init) := by
  subst hid
  refine h.within_phase.seq fun _ => h.within_ensure.seq fun _ => ?_
  refine h.within_ask.seq fun backup => h.within_ensure.seq fun _ => ?_
  exact h.within_amend fun r now => hW r now backup

theorem within_mapperReady {partition} : Within A R G I (mapperReady init partition) := by
  subst hid
  refine h.within_ask.seq fun _ => ?_
  exact (h.within_amend_plain fun _ _ => by exact ⟨rfl, id, .inl rfl⟩).seq fun _ =>
    h.within_requestAccess

theorem within_partitionNumber : Within A R G I (partitionNumber init) := by
  subst hid
  rw [partitionNumber]
  split
  · exact within_ret h.stable
  · refine h.within_ask.seq fun _ => ?_
    refine (h.within_amend_plain fun _ _ => by exact ⟨rfl, id, .inl rfl⟩).seq fun _ => ?_
    exact h.within_requestAccess.seq fun _ => within_ret h.stable

theorem within_makeFilesystem {mapper : String} (hV : ∀ call, V (.destroying call)) :
    Within A R G I (makeFilesystem init mapper) := by
  subst hid
  refine h.within_phase.seq fun _ => (h.within_destroy (hV _)).seq fun _ => ?_
  refine h.within_ask.seq fun _ => h.within_ask.seq fun _ => ?_
  refine h.within_ensure.seq fun _ => h.within_ensure.seq fun _ => ?_
  exact h.within_amend_plain fun _ _ => by exact ⟨rfl, id, .inr rfl⟩

theorem within_installProfile (hrelease : Within A R G I (releaseProfileReservation op)) :
    Within A R G I (installProfile init) := by
  subst hid
  refine (h.within_writeProfile fun _ _ => by exact ⟨rfl, id, .inr rfl⟩).seq fun _ => ?_
  refine h.within_ask.seq fun _ => ?_
  refine (within_ite h.within_ask (within_ret h.stable)).seq fun _ => ?_
  refine (h.within_amend_plain fun _ _ => by exact ⟨rfl, id, .inr rfl⟩).seq fun _ => ?_
  exact h.within_succeed hrelease

end ops

end HelperOps

/-! ### Releasing the profile -/

variable (op A R G I W V) in
/-- Operations that keep an invariant which does not depend on the reservations. -/
structure ReservingOps : Prop extends HelperOps op A R G I W V where
  fresh : ∀ i t action, A ⟨.helper, action⟩ i t → FreshIds ⟨.helper, action⟩ i t
  orderly : ∀ t, I t → Orderly t
  known : ∀ r, Stable R fun t => r ∈ t.history op
  kept : ∀ r, Stable G fun t => r ∈ t.history op
  reserve : ∀ r now state, W r (stamped now { r with profileReservationState := state })
  setReservation : ∀ t profileId file, I t →
    G t (t.setReservation profileId file) ∧ I (t.setReservation profileId file)

namespace ReservingOps

section ops

variable (h : ReservingOps op A R G I W V) {proc : Process}

include h

theorem within_perform {act : Action} {change} (hchange : ∀ t, I t → G t (change t) ∧ I (change t))
    : Within A R G I (perform proc act change) :=
  Preparation.within_perform h.refl h.stable hchange

/-- Saving a copy that was read before. -/
theorem guarded_saveNow {r u} (hs : I s) (hr : r ∈ s.history op)
    (hid : u.operationId = op) (hrev : u.revision = r.revision) (hW : ∀ now, W r (stamped now u)) :
    Guarded A R G (saveNow .helper u)
    (fun w t => (I t ∧ w ∈ t.history op) ∧ ∃ now, w = stamped now u) (fun _ => I) s := by
  subst hid
  refine guarded_saveNow_copy h.refl h.stable h.known h.orderly (fun i t => h.fresh i t _) hs hr
    hrev fun i t ht hA hget hnext => ?_
  exact h.write i t r _ _ ht hA hget hnext (hW i.now)

variable [IsRely R]

theorem within_releaseProfile {pid : ProfileId} {other} :
    Within A R G I (releaseProfile proc pid other) :=
  Preparation.within_releaseProfile h.refl h.stable fun t file ht =>
    h.setReservation t pid file ht

theorem within_releaseProfileReservation : Within A R G I (releaseProfileReservation op) := by
  intro s hs
  refine guarded_do (guarded_load h.refl h.stable
    (fun r => (h.known r).and fun _ _ _ hid => hid) hs fun t r ht hget hid =>
      ⟨(h.orderly t ht).mem_history hget, hid⟩) fun r t ht => ?_
  obtain ⟨ht, hr, hid⟩ := ht
  split
  · exact guarded_ret h.stable ht fun _ hu => hu
  · refine guarded_do (h.guarded_saveNow ht hr hid rfl fun now =>
      h.reserve r now .releasing) fun w t ht => ?_
    obtain ⟨⟨ht, hw⟩, now, hcont⟩ := ht
    have hwid : w.operationId = op := by rw [hcont]; exact hid
    refine guarded_do (M := fun _ t => I t ∧ w ∈ t.history op) ?_ fun _ t ht => ?_
    · exact ((h.within_releaseProfile t ht).frame (h.known w) (h.kept w) hw).mono_error
        fun _ _ hu => hu.1
    · refine guarded_do (h.guarded_saveNow ht.1 ht.2 hwid rfl fun now =>
          h.reserve w now .released) fun _ t ht => ?_
      exact guarded_ret h.stable ht.1.1 fun _ hu => hu

theorem within_releaseAfterSafeFailure (hV : ∀ seen, V (.releasedAfterFailure seen)) :
    Within A R G I (releaseProfileReservationAfterSafeFailure op) := by
  refine Within.handleError (h.within_load.seq fun r => ?_) fun _ =>
    within_ret h.stable
  refine within_ite ?_ (within_ret h.stable)
  exact within_note h.stable (fun t ht => h.event t _ ht (hV r)) h.within_releaseProfileReservation

end ops

end ReservingOps

/-! ### Writes of the whole execution -/

/-- A write that may also change the mapper and the reservation. -/
structure Loose (before after : DevicePreparationTransaction) : Prop where
  target : after.target = before.target
  cancelRequested : after.cancelRequested = before.cancelRequested
  canCancel : after.canCancel = true → before.canCancel = true
  lastCompletedPhase : after.lastCompletedPhase = before.lastCompletedPhase ∨
    unchangedAfter after.lastCompletedPhase = false

theorem Plain.loose {before after} (h : Plain before after) : Loose before after := by
  have hessence := h.essence
  simp only [DevicePreparationTransaction.essence, Prod.mk.injEq] at hessence
  exact ⟨hessence.1, hessence.2.2.1, h.canCancel, h.lastCompletedPhase⟩

variable (op A R G I W V) in
/-- Operations that keep an invariant which does not depend on the mappings and the
reservations. -/
structure MappingOps : Prop extends ReservingOps op A R G I W V where
  openMapping : ∀ t mapper, I t →
    G t (t.openMapping op mapper) ∧ I (t.openMapping op mapper)
  closeMapping : ∀ t mapper, I t →
    G t (t.closeMapping op mapper) ∧ I (t.closeMapping op mapper)
  setMapper : ∀ t mapper, I t →
    G t (t.setMapper op mapper) ∧ I (t.setMapper op mapper)

namespace MappingOps

variable (h : MappingOps op A R G I W V) {name : String}

include h

theorem within_openMapper : Within A R G I (openMapper op name) :=
  h.within_perform fun t => h.openMapping t name

theorem within_closeMapper : Within A R G I (closeMapper op name) :=
  h.within_perform fun t => h.closeMapping t name

theorem within_setMapper : Within A R G I (Preparation.setMapper op name) :=
  within_note h.stable (fun t => h.setMapper t name) (within_ret h.stable)

/-- The handler, given how it ends. -/
theorem within_handleFailure [IsRely R] {init} (hid : init.operationId = op) {e : Raised}
    (hW : ∀ r now required ok, W r (stamped now (markFailed init.target.mode e required ok r)))
    (hrelease : Within A R G I (releaseProfileReservationAfterSafeFailure op)) :
    Within A R G I (handleFailure init e) := by
  subst hid
  refine within_look h.stable fun s hs => ?_
  refine (within_ite (within_ret h.stable) h.within_closeMapper).attempt.seq fun _ => ?_
  exact (h.within_amend fun _ _ => hW _ _ _ _).attempt.seq fun _ => hrelease

end MappingOps

variable (op A R G I V) in
/-- Operations that keep an invariant which does not depend on the fields for mappings and
reservations either. -/
abbrev FreeOps : Prop := MappingOps op A R G I Loose V

theorem loose_markFailed {mode e required ok now} {r : DevicePreparationTransaction} :
    Loose r (stamped now (markFailed mode e required ok r)) :=
  ⟨rfl, rfl, nofun, .inl rfl⟩

namespace FreeOps

section ops

variable (h : FreeOps op A R G I V) {mapperName mapper num : String}

include h

variable [IsRely R]

/-! ### The parts of the executor -/

theorem within_finishSession {mounted opened : Bool} {pending} :
    Within A R G I (finishSession op mapperName mounted opened pending) := by
  refine (within_ite h.within_ask (within_ret h.stable)).attempt.seq fun _ => ?_
  refine (within_ite h.within_closeMapper (within_ret h.stable)).attempt.seq fun _ => ?_
  split
  · exact within_ret h.stable
  · exact within_fail h.stable

theorem within_inspectExistingTarget {partition} {ready} (hready : Within A R G I ready) :
    Within A R G I (inspectExistingTarget op partition mapperName ready) := by
  refine h.within_ensure.seq fun _ => h.within_ask.seq fun luksUuid => ?_
  refine h.within_ensure.seq fun _ => h.within_openMapper.attempt.seq ?_
  rintro (e | ⟨⟩)
  · exact h.within_finishSession.seq fun _ => within_fail h.stable
  · refine (h.within_inspectMapping hready).seq ?_
    rintro ⟨mounted, e | summary⟩
    · exact h.within_finishSession.seq fun _ => within_fail h.stable
    · exact h.within_finishSession.seq fun _ => within_ret h.stable

theorem within_amend_loose {mutator} (hloose : ∀ r now, Loose r (stamped now (mutator r))) :
    Within A R G I (amend op mutator) := h.within_amend hloose

theorem within_forgetMapper {cleanup} : Within A R G I (amend op (forgetMapper cleanup)) :=
  h.within_amend_loose fun _ _ => by exact ⟨rfl, rfl, id, .inl rfl⟩

variable {init : DevicePreparationTransaction} (hid : init.operationId = op)

include hid

theorem within_verifyTarget {setup partition} :
    Within A R G I (verifyTarget setup init partition) := by
  subst hid
  refine h.within_phase.seq fun _ => ?_
  refine h.within_ask.seq fun _ => h.within_ask.seq fun _ => ?_
  refine (h.within_amend_loose fun _ _ => by exact ⟨rfl, rfl, id, .inl rfl⟩).seq fun _ => ?_
  refine Within.handleError ?_ fun e => ?_
  · refine h.within_requestAccess.seq fun _ => h.within_ask.seq fun _ => ?_
    refine (h.within_inspectExistingTarget (h.within_mapperReady rfl)).seq fun _ => ?_
    refine h.within_ask.seq fun _ => h.within_ensure.seq fun _ => ?_
    exact h.within_forgetMapper.seq fun _ => within_ret h.stable
  · refine h.within_ask.attempt.seq fun _ => ?_
    exact h.within_forgetMapper.seq fun _ => within_fail h.stable

/-- The adopt mode; there is no call that destroys anything. -/
theorem within_adoptTarget {setup partition} :
    Within A R G I (adoptTarget setup init partition) := by
  subst hid
  refine h.within_ensure.seq fun _ => (h.within_verifyTarget rfl).seq fun _ => ?_
  refine h.within_requestAccess.seq fun _ => h.within_ensure.seq fun _ => ?_
  refine (h.within_amend_plain fun _ _ => by exact ⟨rfl, id, .inr rfl⟩).seq fun _ => ?_
  refine (h.within_writeProfile fun _ _ => by exact ⟨rfl, id, .inr rfl⟩).seq fun _ => ?_
  exact h.within_succeed h.within_releaseProfileReservation

theorem within_openNewMapper : Within A R G I (openNewMapper init num mapper) := by
  subst hid
  refine h.within_phase.seq fun _ => h.within_requestAccess.seq fun _ => ?_
  refine h.within_ask.seq fun _ => h.within_setMapper.seq fun _ => ?_
  refine h.within_openMapper.seq fun _ => ?_
  refine (h.within_amend_loose fun _ _ => by exact ⟨rfl, rfl, id, .inr rfl⟩).seq fun _ => ?_
  refine h.within_ask.seq fun _ => ?_
  refine (h.within_amend_plain fun _ _ => by exact ⟨rfl, id, .inl rfl⟩).seq fun _ => ?_
  exact h.within_requestAccess

theorem within_closeNewMapper : Within A R G I (closeNewMapper init num mapper) := by
  subst hid
  refine h.within_phase.seq fun _ => h.within_closeMapper.seq fun _ => ?_
  refine h.within_setMapper.seq fun _ => ?_
  refine (h.within_amend_loose fun _ _ => by exact ⟨rfl, rfl, id, .inr rfl⟩).seq fun _ => ?_
  exact h.within_requestAccess

/-- All that follows once there is a partition. -/
theorem within_fillPartition {partition : String} (hV : ∀ call, V (.destroying call)) :
    Within A R G I (fillPartition init partition) := by
  subst hid
  refine (h.within_partitionNumber rfl).seq fun _ => ?_
  refine (h.within_formatLuks (hV _)).seq fun _ => ?_
  refine (h.within_openNewMapper rfl).seq fun _ => ?_
  refine (h.within_makeFilesystem rfl hV).seq fun _ => ?_
  refine (h.within_closeNewMapper rfl).seq fun _ => ?_
  exact h.within_installProfile rfl h.within_releaseProfileReservation

end ops

end FreeOps

end Preparation

end BtrfsBackup
