/-
When a failed execution gives the profile back.

The handler takes the target to be unchanged if the phase that was completed last
is one before the first call that destroys something.  The completion of a phase is
persisted after the call; a call that was started but whose completion was not
persisted is not noticed.

* `noticed` — a call was started, and then a phase was persisted as completed;
* `Undisturbed` — neither the first such call nor the write after it fails;
* `Progress` — how far the execution has come, as an invariant of all processes;
* `released_unchanged` — then the profile is given back only with the target unchanged.
-/
import BtrfsBackup.PreparationGuards

open Interaction Interaction.Prog

namespace BtrfsBackup

open List

namespace Preparation

open PreparationSystem

/-! ### What the record has noticed -/

/-- A write of the helper that says that the target was changed. -/
def Event.marksChange : Event → Bool
  | .wrote .helper w => !unchangedAfter w.lastCompletedPhase
  | _ => false

/-- A call that destroys something. -/
def Event.destroys : Event → Bool
  | .destroying _ => true
  | _ => false

/-- A call that destroys something is followed by a write that says so; the newest event
is the first one. -/
def noticed : List Event → Bool
  | [] => false
  | event :: earlier => noticed earlier || (event.marksChange && earlier.any Event.destroys)

/-- Events that say nothing about the target. -/
theorem noticed_append {added later : List Event}
    (hlater : ∀ ev ∈ later, ev.marksChange = false) :
    noticed (later ++ added) = noticed added := by
  induction later with
  | nil => rfl
  | cons ev later ih =>
    rw [cons_append, noticed, ih fun e he => hlater e (mem_cons_of_mem ev he),
      hlater ev mem_cons_self, Bool.false_and, Bool.or_false]

theorem marksChange_of_content {ev : Event} (h : ev.content = none) : ev.marksChange = false := by
  cases ev with
  | wrote process content => cases h
  | _ => rfl

/-- The events of the manager. -/
theorem silent_of_aside {ev : Event} (h : ev.aside = true) :
    ev.marksChange = false ∧ ev.destroys = false := by
  cases ev with
  | wrote process content =>
    cases process with
    | manager => exact ⟨rfl, rfl⟩
    | helper => cases h
  | destroying call => cases h
  | _ => exact ⟨rfl, rfl⟩

/-! ### What the helper is answered -/

/-- Does a call of the helper do what it is meant to, `touched` saying whether something
was destroyed?  A call that destroys something does not throw; after it, the record is
read, and an update that keeps the state of the operation takes place. -/
def Action.succeeds (touched : Bool) (answer : PreparationAnswer) (system : PreparationSystem) :
    Action → Bool
  | .destroy _ _ => answer.error.isNone
  | .load op => !touched ||
      (answer.error.isNone && (system.transactions op).any (·.operationId == op))
  | .update op revision => !touched ||
      (answer.effective && (updated op revision .ok (system.transactions op)).isOk)
  | _ => true

/-- The calls of the helper, in an execution that began when the trace was `before`, do
what they are meant to from the first one that destroys something to the first write that
says so. -/
def Undisturbed (op : OperationId) (before : List Event) (call : PreparationCall)
    (answer : PreparationAnswer) (system : PreparationSystem) : Prop :=
  FreshIds call answer system ∧ (call.process = .helper →
    let added := (system.trace op).take ((system.trace op).length - before.length)
    noticed added = false →
      call.action.succeeds (added.any Event.destroys) answer system = true)

instance (op : OperationId) (before : List Event) (call : PreparationCall)
    (answer : PreparationAnswer) (system : PreparationSystem) :
    Decidable (Undisturbed op before call answer system) :=
  inferInstanceAs (Decidable (_ ∧ (_ → _ → _)))

section underway

variable {op : OperationId} {mode : ProvisioningMode} {s t : PreparationSystem}
  {r w : DevicePreparationTransaction} {pre added : List Event} {Q : Bool → Bool → Prop}
  {i : PreparationAnswer}

theorem Undisturbed.succeeds {action : Action} (h : Undisturbed op pre ⟨.helper, action⟩ i s)
    (htrace : s.trace op = added ++ pre) (hnot : noticed added = false) :
    action.succeeds (added.any Event.destroys) i s = true := by
  have htake : (s.trace op).take ((s.trace op).length - pre.length) = added := by
    rw [htrace, length_append, Nat.add_sub_cancel, take_left]
  have hsucceeds := h.2 rfl
  rw [htake] at hsucceeds
  exact hsucceeds hnot

/-! ### How far the execution has come -/

/-- Something about whether anything was destroyed, and whether that was noticed. -/
def Progress (op : OperationId) (before : List Event) (Q : Bool → Bool → Prop)
    (s : PreparationSystem) : Prop :=
  Since before (fun added => Q (added.any Event.destroys) (noticed added)) (s.trace op)

/-- Nothing was destroyed yet. -/
abbrev Untouched (op : OperationId) (before : List Event) : PreparationSystem → Prop :=
  Progress op before fun destroyed seen => destroyed = false ∧ seen = false

/-- Something was destroyed, and no write says so yet. -/
abbrev Touched (op : OperationId) (before : List Event) : PreparationSystem → Prop :=
  Progress op before fun destroyed seen => destroyed = true ∧ seen = false

/-- A write says that something was destroyed. -/
abbrev Noticed (op : OperationId) (before : List Event) : PreparationSystem → Prop :=
  Progress op before fun _ seen => seen = true

/-- If something was destroyed, a write says so. -/
abbrev Told (op : OperationId) (before : List Event) : PreparationSystem → Prop :=
  Progress op before fun destroyed seen => destroyed = true → seen = true

theorem Progress.aside (h : Progress op pre Q s) (hst : Aside op s t) : Progress op pre Q t := by
  obtain ⟨earlier, hearlier, hQ⟩ := h
  obtain ⟨added, hadded, haside⟩ := hst.trace
  have hnone : added.any Event.destroys = false := by
    rw [any_eq_false]
    exact fun e he => Bool.eq_false_iff.mp (silent_of_aside (haside e he)).2
  refine ⟨added ++ earlier, by rw [hadded, hearlier, append_assoc], ?_⟩
  dsimp only
  rwa [any_append, hnone, Bool.false_or,
    noticed_append fun e he => (silent_of_aside (haside e he)).1]

/-- A stage that no write undoes, and no event in `V`. -/
theorem lasting_progress {W V} (hstore : ∀ destroyed seen marks, Q destroyed seen →
      Q destroyed (seen || (marks && destroyed)))
    (hV : ∀ event, V event → event.content = none ∧
      (event.destroys = true → ∀ destroyed seen, Q destroyed seen → Q true seen)) :
    Lasting op W V (Progress op pre Q) where
  aside _ _ hst _ h := h.aside hst
  store s r w _ _ _ h := by
    rw [Progress, trace_store_self]
    exact h.cons _ fun added hQ => hstore _ _ _ hQ
  extend s t added hst hadded h := by
    obtain ⟨earlier, hearlier, hQ⟩ := h
    refine ⟨added ++ earlier, by rw [hst.trace, hearlier, append_assoc], ?_⟩
    dsimp only
    rw [noticed_append fun e he => marksChange_of_content (hV e (hadded e he)).1, any_append]
    cases hdestroys : added.any Event.destroys with
    | false => exact hQ
    | true =>
      obtain ⟨e, he, hdestroys⟩ := any_eq_true.mp hdestroys
      exact (hV e (hadded e he)).2 hdestroys _ _ hQ

/-- What was noticed is in the record. -/
def Recorded (op : OperationId) (before : List Event) (s : PreparationSystem) : Prop :=
  Since before (fun added => noticed added = true → ∀ r, s.transactions op = some r →
    unchangedAfter r.lastCompletedPhase = false) (s.trace op)

theorem lasting_recorded : Lasting op Loose (fun ev => ev.content = none)
      (Recorded op pre) where
  aside s t hst hbegun hs := by
    obtain ⟨earlier, hearlier, hrec⟩ := hs
    obtain ⟨added, hadded, haside⟩ := hst.trace
    refine ⟨added ++ earlier, by rw [hadded, hearlier, append_assoc], fun hnoticed r hr => ?_⟩
    rw [noticed_append fun e he => (silent_of_aside (haside e he)).1] at hnoticed
    obtain ⟨r₀, hr₀, hhandled⟩ := hst.transaction hbegun r hr
    rw [hhandled.lastCompletedPhase]
    exact hrec hnoticed r₀ hr₀
  store s r w _ hr hw hs := by
    rw [Recorded, trace_store_self]
    refine hs.cons _ fun added hrec hnoticed r' hr' => ?_
    rw [transactions_store_self, Option.some.injEq] at hr'
    subst hr'
    rw [noticed, Bool.or_eq_true, Bool.and_eq_true] at hnoticed
    rcases hnoticed with hnoticed | ⟨hmarks, -⟩
    · rcases hw.lastCompletedPhase with hsame | hchg
      · rw [hsame]
        exact hrec hnoticed r hr
      · exact hchg
    · simpa [Event.marksChange] using hmarks
  extend s t added hst hadded hs := by
    obtain ⟨earlier, hearlier, hrec⟩ := hs
    refine ⟨added ++ earlier, by rw [hst.trace, hearlier, append_assoc], fun hnoticed => ?_⟩
    rw [noticed_append fun e he => marksChange_of_content (hadded e he)] at hnoticed
    rw [hst.transactions]
    exact hrec hnoticed

/-- Before anything is noticed, there is nothing to record. -/
theorem recorded_of_progress (h : Progress op pre Q s) (hQ : ∀ destroyed, ¬Q destroyed true) :
    Recorded op pre s := by
  obtain ⟨added, hadded, hprogress⟩ := h
  refine ⟨added, hadded, fun hnoticed => ?_⟩
  rw [hnoticed] at hprogress
  exact absurd hprogress (hQ _)

/-- How the profile is released for a target that is unchanged. -/
def releases (mode : ProvisioningMode) (event : Event) (earlier : List Event) : Prop :=
  ∀ seen, event = .releasedAfterFailure seen → seen.configurationState ≠ .installed →
    mode ≠ .adoptExistingTarget → earlier.any Event.destroys = false

theorem verdict_releases : Verdict (releases mode) := by
  rintro ev earlier hquiet seen rfl
  cases hquiet

/-- Is it the release after a failure? -/
def Event.isRelease : Event → Bool
  | .releasedAfterFailure _ => true
  | _ => false

theorem releases_of_isRelease {ev : Event} (h : ev.isRelease = false) :
    releases mode ev added := by
  rintro seen rfl
  cases h

/-- The guarantee of an execution. -/
abbrev Releases (op : OperationId) (mode : ProvisioningMode) (before : List Event) :
    PreparationSystem → PreparationSystem → Prop :=
  Keeping (Careful op (releases mode) before)

/-! ### The operations -/

/-- Before anything is destroyed. -/
abbrev UntouchedYet (op : OperationId) (mode : ProvisioningMode) (before : List Event) :
    PreparationSystem → Prop :=
  Underway op mode (Untouched op before)

/-- Once the record says that something was destroyed. -/
abbrev Settling (op : OperationId) (mode : ProvisioningMode) (before : List Event) :
    PreparationSystem → Prop :=
  Underway op mode fun s => Recorded op before s ∧ Noticed op before s

/-- However the execution ends. -/
abbrev UpToDate (op : OperationId) (mode : ProvisioningMode) (before : List Event) :
    PreparationSystem → Prop :=
  Underway op mode fun s => Recorded op before s ∧ Told op before s

theorem upToDate_of_untouched (h : UntouchedYet op mode pre s) : UpToDate op mode pre s := by
  refine h.mono fun huntouched => ⟨recorded_of_progress huntouched nofun, ?_⟩
  obtain ⟨added, hadded, hnone, -⟩ := huntouched
  exact ⟨added, hadded, fun hdestroyed => absurd hdestroyed (Bool.eq_false_iff.mp hnone)⟩

theorem upToDate_of_settling (h : Settling op mode pre s) : UpToDate op mode pre s := by
  refine h.mono fun ⟨hrecorded, added, hadded, hnoticed⟩ =>
    ⟨hrecorded, added, hadded, fun _ => hnoticed⟩

/-- Writes that keep the target. -/
abbrev KeepsTarget (r w : DevicePreparationTransaction) : Prop := w.target = r.target

/-- The events before anything is destroyed. -/
def Event.preliminary (event : Event) : Prop := event.content = none ∧ event.quiet = true

theorem Event.preliminary.destroys {ev : Event} (h : ev.preliminary) : ev.destroys ≠ true := by
  cases ev with
  | destroying call => cases h.2
  | _ => exact Bool.false_ne_true

/-- The events there may be once the device is changed. -/
def Event.working (event : Event) : Prop := event.content = none ∧ event.isRelease = false

variable {A : PreparationCall → PreparationAnswer → PreparationSystem → Prop}

theorem lasting_untouched {W} : Lasting op W Event.preliminary (Untouched op pre) :=
  lasting_progress (fun _ _ marks h => ⟨h.1, by rw [h.1, h.2, Bool.and_false, Bool.or_false]⟩)
    fun _ hev => ⟨hev.1, fun h => absurd h hev.destroys⟩

theorem upholds_untouched : Upholds op mode KeepsTarget Event.preliminary (Untouched op pre)
    (Careful op (releases mode) pre) := by
  refine upholds_careful verdict_releases lasting_untouched (fun _ _ h => h.loose.target)
    (fun _ _ h => h) (fun _ h => h.1) fun s ev hs hevent => ?_
  obtain ⟨added, hadded, -⟩ := hs.achieved
  exact ⟨added, hadded, verdict_releases ev added hevent.2⟩

theorem ops_untouched : HelperOps op A (Aside op) (Releases op mode pre)
      (UntouchedYet op mode pre) KeepsTarget Event.preliminary :=
  helperOps_underway upholds_untouched

theorem ops_settling : FreeOps op (Undisturbed op pre) (Aside op) (Releases op mode pre)
      (Settling op mode pre) Event.working := by
  have hlasting : Lasting op Loose Event.working (Noticed op pre) :=
    lasting_progress (fun _ _ _ h => by rw [h, Bool.true_or]) fun _ hev => ⟨hev.1, fun _ _ _ h => h⟩
  refine freeOps_underway (upholds_careful verdict_releases
    ((lasting_recorded.restrict (fun _ _ h => h) fun _ h => h.1).and hlasting)
    (fun _ _ h => h.loose) (fun _ _ h => h.target) (fun _ h => h.1) fun s ev hs hevent => ?_)
    (fun _ _ _ h => h.1) fun _ => ⟨⟨rfl, rfl⟩, ⟨rfl, rfl⟩⟩
  obtain ⟨added, hadded, -⟩ := hs.achieved.1
  exact ⟨added, hadded, releases_of_isRelease hevent.2⟩

/-- Without calls that destroy something. -/
theorem lasting_upToDate : Lasting op Loose
    (fun ev => ev.content = none ∧ ev.destroys = false)
    fun s => Recorded op pre s ∧ Told op pre s :=
  (lasting_recorded.restrict (fun _ _ h => h) fun _ h => h.1).and
    (lasting_progress (fun _ _ _ h hdestroyed => by rw [h hdestroyed, Bool.true_or])
      fun _ hev => ⟨hev.1, fun h => absurd h (Bool.eq_false_iff.mp hev.2)⟩)

theorem ops_upToDate : FreeOps op (Undisturbed op pre) (Aside op) (Releases op mode pre)
      (UpToDate op mode pre) Event.preliminary := by
  refine freeOps_underway (upholds_careful verdict_releases
    (lasting_upToDate.restrict (fun _ _ h => h)
      fun _ h => ⟨h.1, Bool.eq_false_iff.mpr h.destroys⟩)
    (fun _ _ h => h.loose) (fun _ _ h => h.target) (fun _ h => h.1) fun s ev hs hevent => ?_)
    (fun _ _ _ h => h.1) fun _ => ⟨⟨rfl, rfl⟩, ⟨rfl, rfl⟩⟩
  obtain ⟨added, hadded, -⟩ := hs.achieved.1
  exact ⟨added, hadded, verdict_releases ev added hevent.2⟩

/-! ### The first call that destroys something -/

theorem stable_untouched : Stable (Aside op) (UntouchedYet op mode pre) :=
  fun _ _ hst hs => hs.aside hst (hs.achieved.aside hst)

theorem stable_touched : Stable (Aside op) (Underway op mode (Touched op pre)) :=
  fun _ _ hst hs => hs.aside hst (hs.achieved.aside hst)

/-- It does not throw. -/
theorem guarded_destroy {call} {E : Raised → PreparationSystem → Prop}
    (hs : UntouchedYet op mode pre s) : Guarded (Undisturbed op pre) (Aside op)
      (Releases op mode pre) (destroy op call) (fun _ => Underway op mode (Touched op pre))
        E s := by
  refine guarded_effect stable_untouched hs fun i t ht hA => ?_
  obtain ⟨added, hadded, hnone, hnot⟩ := ht.achieved
  have hreturns : i.error = none := by
    simpa [Action.succeeds] using hA.succeeds hadded hnot
  refine ⟨keeping_record rfl ⟨added, hadded, releases_of_isRelease rfl⟩, ?_⟩
  rw [hreturns]
  refine guarded_ret stable_touched (ht.extend (extends_record op rfl) ?_) fun _ hu => hu
  rw [Touched, Progress, trace_record_self]
  exact ht.achieved.cons _ fun _ h => ⟨rfl, by rw [noticed, h.2]; rfl⟩

/-- An update that keeps what the store checks is accepted if one that changes nothing is. -/
theorem updated_of_isOk {revision : Nat} {stored} {transition : _ → Except Raised _}
    {f : _ → DevicePreparationTransaction} (hf : ∀ r, transition r = .ok (f r) ∧
      (f r).revision = r.revision ∧ (f r).operationId = r.operationId ∧ (f r).state = r.state ∧
      (f r).cancelRequested = r.cancelRequested)
    (h : (updated op revision .ok stored).isOk = true) :
    ∃ r, stored = some r ∧ updated op revision transition stored = .ok (f r).next := by
  cases stored with
  | none => cases h
  | some r =>
    obtain ⟨w, hw⟩ : ∃ w, updated op revision .ok (some r) = .ok w := by
      cases hupdated : updated op revision .ok (some r) with
      | ok w => exact ⟨w, rfl⟩
      | error e =>
        rw [hupdated] at h
        cases h
    obtain ⟨hchanged, hrev, hid, hstate, hcancel⟩ := hf r
    refine ⟨r, rfl, ?_⟩
    simp only [updated, bind_eq_ok, require_eq_ok] at hw ⊢
    obtain ⟨_, hop, _, hexp, _, hterm, _, ⟨⟩, _, hident, _, hallowed, _, hkept, _, hmax, -⟩ := hw
    refine ⟨(), hop, (), hexp, (), hterm, f r, hchanged, (), ?_, (), ?_, (), ?_, (), ?_, rfl⟩
    · rwa [hrev, hid]
    · rwa [hstate]
    · rwa [hcancel]
    · rwa [hrev]

/-- An update that is read and written at the first attempt, also if it throws then. -/
theorem guarded_update_accepted {transition : Transition} {P M : PreparationSystem → Prop}
    {R G : PreparationSystem → PreparationSystem → Prop} [IsRely R] (hG : ∀ t, G t t)
    (hP : Stable R P) (hM : Stable R M) (hload : ∀ i t, P t → A ⟨.helper, .load op⟩ i t →
      i.error = none ∧ ∃ r, t.transactions op = some r ∧ r.operationId = op)
    (hupdate : ∀ i t revision, P t → A ⟨.helper, .update op revision⟩ i t →
      i.effective = true ∧ ∃ w, updated op revision (transition i.now) (t.transactions op) = .ok w ∧
        G t (t.store .helper op w) ∧ M (t.store .helper op w)) (hs : P s) :
    Guarded A R G (update .helper op transition) (fun _ => M) (fun _ => M) s := by
  refine guarded_do (M := fun _ => P) ?_ fun current t ht => ?_
  · refine guarded_effect hP hs fun i t ht hA => ⟨hG t, ?_⟩
    obtain ⟨hreturns, r, hget, hid⟩ := hload i t ht hA
    simp only [hreturns, hget, hid, if_true]
    exact guarded_ret hP ht fun _ hu => hu
  · refine (guarded_handleError _ _).mpr (guarded_effect hP ht fun i t ht hA => ?_)
    obtain ⟨heffective, w, hupdated, hstep, hlater⟩ := hupdate i t _ ht hA
    simp only [hupdated, heffective, if_true]
    refine ⟨hstep, ?_⟩
    cases herror : i.error with
    | none => exact guarded_ret hM hlater fun _ hu => hu
    | some e =>
      refine guarded_fail hM hlater fun _ hu => ?_
      rw [not_conflict_of_effective heffective herror]
      exact guarded_fail hM hu fun _ hv => hv

/-- A program of the helper; if it throws, what was destroyed is told. -/
abbrev Tells {α : Type} (op : OperationId) (mode : ProvisioningMode) (before : List Event)
    (p : PreparationProg α) (Q : α → PreparationSystem → Prop) (s : PreparationSystem) : Prop :=
  Guarded (Undisturbed op before) (Aside op) (Releases op mode before) p Q
    (fun _ => UpToDate op mode before) s

/-- The write after it takes place. -/
theorem tells_amend_touched {mutator} (hmutator : ∀ r, (mutator r).revision = r.revision ∧
      (mutator r).operationId = r.operationId ∧ (mutator r).state = r.state ∧
      (mutator r).cancelRequested = r.cancelRequested)
    (htgt : ∀ r, (mutator r).target = r.target)
    (hmarks : ∀ r, unchangedAfter (mutator r).lastCompletedPhase = false)
    (hs : Underway op mode (Touched op pre) s) :
    Tells op mode pre (amend op mutator) (fun _ => Settling op mode pre) s := by
  refine guarded_do (M := fun _ => Settling op mode pre) ((guarded_update_accepted keeping_refl
    stable_touched ops_settling.stable (fun i t ht hA => ?_) (fun i t revision ht hA => ?_)
      hs).mono_error fun _ _ => upToDate_of_settling) fun _ t ht =>
        guarded_ret ops_settling.stable ht fun _ hu => hu
  · obtain ⟨added, hadded, htouched, hnot⟩ := ht.achieved
    have hread := hA.succeeds hadded hnot
    rw [htouched] at hread
    simpa [Action.succeeds, Option.any_eq_true] using hread
  · obtain ⟨added, hadded, htouched, hnot⟩ := ht.achieved
    have hwritten := hA.succeeds hadded hnot
    rw [htouched, Action.succeeds, Bool.not_true, Bool.false_or, Bool.and_eq_true] at hwritten
    obtain ⟨r, hget, hupdated⟩ := updated_of_isOk
      (f := fun r => { mutator r with updatedAt := i.now }) (fun r => ⟨rfl, hmutator r⟩) hwritten.2
    obtain ⟨_, _, hget', -, -, -, hnext⟩ := updated_ok hupdated
    obtain rfl : r = _ := Option.some.inj (hget.symm.trans hget')
    refine ⟨hwritten.1, _, hupdated, ht.store verdict_releases pre hget hnext (htgt r) ⟨?_, ?_⟩⟩
    · rw [Recorded, trace_store_self]
      refine ht.achieved.cons _ fun _ _ _ r' hr' => ?_
      rw [transactions_store_self, Option.some.injEq] at hr'
      exact hr' ▸ hmarks r
    · rw [Noticed, Progress, trace_store_self]
      refine ht.achieved.cons _ fun added h => ?_
      rw [noticed, h.1, Bool.and_true, Event.marksChange, Bool.or_eq_true, Bool.not_eq_true']
      exact .inr (hmarks r)

theorem tells_of_untouched {α : Type} {p : PreparationProg α}
    (h : Within (Undisturbed op pre) (Aside op) (Releases op mode pre) (UntouchedYet op mode pre) p)
    (hs : UntouchedYet op mode pre s) : Tells op mode pre p (fun _ => UntouchedYet op mode pre) s :=
  (h s hs).mono_error fun _ _ => upToDate_of_untouched

theorem tells_of_settling {α : Type} {p : PreparationProg α}
    (h : Within (Undisturbed op pre) (Aside op) (Releases op mode pre) (Settling op mode pre) p)
    (hs : Settling op mode pre s) : Tells op mode pre p (fun _ => Settling op mode pre) s :=
  (h s hs).mono_error fun _ _ => upToDate_of_settling

theorem tells_wipeSignatures {path majorMinor : String} (hs : UntouchedYet op mode pre s) :
    Tells op mode pre (wipeSignatures op path majorMinor) (fun _ => Settling op mode pre) s := by
  refine guarded_do (tells_of_untouched ops_untouched.within_phase hs) fun _ t ht => ?_
  refine guarded_do (guarded_destroy ht) fun _ t ht => ?_
  exact tells_amend_touched (fun _ => ⟨rfl, rfl, rfl, rfl⟩) (fun _ => rfl) (fun _ => rfl) ht

theorem tells_makePartition {call} (hs : UntouchedYet op mode pre s ∨ Settling op mode pre s) :
    Tells op mode pre (makePartition op call) (fun _ => Settling op mode pre) s := by
  rcases hs with hs | hs
  · refine guarded_do (tells_of_untouched ops_untouched.within_phase hs) fun _ t ht => ?_
    refine guarded_do (guarded_destroy ht) fun partition t ht => ?_
    refine guarded_do (tells_amend_touched (fun _ => ⟨rfl, rfl, rfl, rfl⟩) (fun _ => rfl)
      (fun _ => rfl) ht) fun _ t ht => ?_
    exact guarded_ret ops_settling.stable ht fun _ hu => hu
  · exact tells_of_settling (ops_settling.within_makePartition ⟨rfl, rfl⟩) hs

/-! ### The release -/

/-- What is known of the record that the handler looks at. -/
def Sighted (op : OperationId) (mode : ProvisioningMode) (before : List Event)
    (seen : DevicePreparationTransaction) (s : PreparationSystem) : Prop :=
  seen.target.mode = mode ∧
    (unchangedAfter seen.lastCompletedPhase = true → Untouched op before s)

theorem stable_sighted (seen : DevicePreparationTransaction) :
    Stable (Aside op) (Sighted op mode pre seen) :=
  fun _ _ hst h => ⟨h.1, fun hsame => (h.2 hsame).aside hst⟩

theorem sighted_of_stored (hs : UpToDate op mode pre s)
    (hget : s.transactions op = some r) : Sighted op mode pre r s := by
  refine ⟨hs.mode r hget, fun hsame => ?_⟩
  obtain ⟨⟨added, hadded, hrec⟩, htold⟩ := hs.achieved
  rw [Told, Progress, hadded, since_append] at htold
  have hnot : noticed added ≠ true := by
    intro hnoticed
    rw [hrec hnoticed r hget] at hsame
    cases hsame
  exact ⟨added, hadded, Bool.eq_false_iff.mpr fun h => hnot (htold h), Bool.eq_false_iff.mpr hnot⟩

/-- The decision to release, for a target that is not adopted and not installed. -/
theorem unchanged_of_decision (hmode : r.target.mode ≠ .adoptExistingTarget)
    (hinst : r.configurationState ≠ .installed)
    (h : (r.configurationState == .installed || targetUnchanged r) = true) :
    unchangedAfter r.lastCompletedPhase = true := by
  have hadopt : (r.target.mode == ProvisioningMode.adoptExistingTarget) = false :=
    beq_false_of_ne hmode
  have hnot : (r.configurationState == InstallState.installed) = false :=
    beq_false_of_ne hinst
  rwa [hnot, Bool.false_or, targetUnchanged, hadopt, Bool.false_or] at h

theorem within_release : Within (Undisturbed op pre) (Aside op) (Releases op mode pre)
      (UpToDate op mode pre) (releaseProfileReservationAfterSafeFailure op) := by
  refine Within.handleError ?_ fun _ => within_ret ops_upToDate.stable
  intro s hs
  refine guarded_do (guarded_load keeping_refl ops_upToDate.stable stable_sighted hs
    fun t r ht hget _ => sighted_of_stored ht hget) fun seen t ht => ?_
  split
  · next hdec =>
    refine guarded_note (ops_upToDate.stable.and (stable_sighted seen)) ht fun u hu => ?_
    obtain ⟨hunderway, hmode, hsight⟩ := hu
    have hext : Extends op [.releasedAfterFailure seen] u _ := extends_record op rfl
    refine ⟨keeping_record rfl ?_, ops_upToDate.within_releaseProfileReservation _
      (hunderway.extend hext (lasting_upToDate.extend _ _ _ hext (by simp [Event.content,
        Event.destroys]) hunderway.achieved))⟩
    -- the record does not say that anything was changed, so that nothing was destroyed
    obtain ⟨⟨added, hadded, -⟩, -⟩ := hunderway.achieved
    refine ⟨added, hadded, ?_⟩
    rintro _ ⟨⟩ hinst hadopt
    have huntouched := hsight (unchanged_of_decision (hmode ▸ hadopt) hinst hdec)
    rw [Untouched, Progress, hadded, since_append] at huntouched
    exact huntouched.1
  · exact guarded_ret ops_upToDate.stable ht.1 fun _ hu => hu

/-! ### The execution -/

/-- The part after the safety inspection. -/
theorem tells_carryOut {setup init} {plan : Plan} (hid : init.operationId = op)
    (hplan : planOf init.target = .ok plan) (hs : UntouchedYet op mode pre s) :
    Tells op mode pre (carryOut setup init plan) (fun _ => UpToDate op mode pre) s := by
  subst hid
  exact guarded_carryOut hplan
    (fun _ _ => ops_upToDate.within_adoptTarget rfl s (upToDate_of_untouched hs))
    (tells_of_untouched (ops_untouched.within_backupPartitionTable rfl fun _ _ _ => rfl) hs)
    (fun _ _ _ _ => tells_wipeSignatures) (fun _ _ _ => tells_makePartition)
    (fun _ _ _ => tells_wipeSignatures hs) ops_settling.stable fun _ _ _ ht =>
      (tells_of_settling (ops_settling.within_fillPartition rfl fun _ => ⟨rfl, rfl⟩) ht).mono_result
        fun _ _ => upToDate_of_settling

theorem tells_execute {setup} (hs : UntouchedYet op mode pre s) :
    Tells op mode pre (execute setup op) (fun _ => UpToDate op mode pre) s := by
  refine guarded_execute (J := UntouchedYet op mode pre) ops_untouched (fun _ _ _ _ _ => trivial)
    (fun _ => upToDate_of_untouched) (fun s hs => ?_) (fun init t hid _ ht => ?_)
    (fun init e hid _ => ops_upToDate.within_handleFailure hid (fun _ _ _ _ => loose_markFailed)
      within_release) hs
  · refine guarded_note stable_untouched hs fun t ht => ?_
    obtain ⟨hstep, hlater⟩ := upholds_untouched.silently ht (t := t.setMapper op "")
      ⟨rfl, rfl, fun _ => rfl⟩
    exact ⟨hstep, guarded_ret stable_untouched hlater fun _ hu => hu⟩
  · exact guarded_executeBody ops_untouched ops_untouched hid
      (ops_untouched.within_phase_of fun _ _ => rfl) (ops_untouched.within_amend fun _ _ => rfl)
      (fun _ => upToDate_of_untouched) (fun _ => upToDate_of_untouched)
      (fun _ => tells_of_untouched (ops_untouched.within_acquireDeviceLock ⟨rfl, rfl⟩))
      (fun _ => tells_of_untouched (ops_untouched.within_inspectSafety fun _ => ⟨rfl, rfl⟩))
      (fun _ _ => tells_carryOut hid) ht

end underway

/-! ### The helper and the manager -/

/-- In every run in which neither the first call that destroys something nor the write
after it fails, a failed execution that does not adopt a target and has not installed the
profile gives the profile back only if nothing was destroyed. -/
theorem released_unchanged {setup : ExecutorSetup} {operationId : OperationId}
    {requests : Nat → List ManagerRequest} {system : PreparationSystem}
    {r seen : DevicePreparationTransaction} {schedule : List (Party × PreparationAnswer)}
    (horderly : Orderly system)
    (hstored : system.transactions operationId = some r)
    (hmode : r.target.mode ≠ .adoptExistingTarget)
    (hundisturbed : Pool.Permitted (Undisturbed operationId (system.trace operationId)) schedule
      (preparationPool setup operationId requests system))
    {later earlier : List Event}
    (htrace : (Pool.run schedule (preparationPool setup operationId requests system)).state.trace
      operationId = later ++ .releasedAfterFailure seen :: (earlier ++ system.trace operationId))
    (hinstalled : seen.configurationState ≠ .installed) (call : DestructiveCall) :
    .destroying call ∉ earlier := by
  have huntouched : UntouchedYet operationId r.target.mode (system.trace operationId) system :=
    underway_of_stored horderly hstored ⟨[], rfl, rfl, rfl⟩
  have heach := each_run verdict_releases (fun _ _ _ h => h.1) horderly huntouched.begun
    (tells_execute huntouched) hundisturbed
  rw [Careful, htrace] at heach
  have hnone := each_since heach seen rfl hinstalled hmode
  rw [any_eq_false] at hnone
  exact fun hcall => hnone _ hcall rfl

namespace Sample

/-- The execution of a transaction that reformats a partition. -/
def reformatting : Pool Party PreparationCall PreparationAnswer PreparationSystem Raised Unit :=
  preparationPool ⟨true, "/run"⟩ operation (fun _ => []) (registered created)

/-- A call that throws. -/
def failure : PreparationAnswer := { success with error := some (invalid "input/output error") }

/-- The inspection of the device finds a reason against the preparation. -/
def unsafeDevice : List (Party × PreparationAnswer) :=
  (List.replicate 9 success ++ [{ success with lines := ["mounted"] }] ++
    List.replicate 11 success).map fun answer => (.helper, answer)

/-- The record the handler sees in that case. -/
def refused : DevicePreparationTransaction :=
  ((Pool.run unsafeDevice reformatting).state.history operation)[2]?.getD created

theorem refused_release :
    let trace := (Pool.run unsafeDevice reformatting).state.trace operation
    trace = trace.take 2 ++ .releasedAfterFailure refused ::
      ((trace.drop 3).take 5 ++ [.wrote .manager created.next]) ∧
    ∀ call, .destroying call ∉ (trace.drop 3).take 5 := by
  have hundisturbed : Pool.Permitted (Undisturbed operation [.wrote .manager created.next])
      unsafeDevice reformatting := by decide +kernel
  have htrace : (Pool.run unsafeDevice reformatting).state.trace operation =
      ((Pool.run unsafeDevice reformatting).state.trace operation).take 2 ++
        .releasedAfterFailure refused ::
          ((((Pool.run unsafeDevice reformatting).state.trace operation).drop 3).take 5 ++
            [.wrote .manager created.next]) := by decide +kernel
  exact ⟨htrace, released_unchanged (orderly_registered created) rfl (by decide)
    hundisturbed htrace (by decide +kernel)⟩

/-- Wiping the signatures of the partition throws. -/
def wipeFails : List (Party × PreparationAnswer) :=
  (List.replicate 12 success ++ [failure] ++ List.replicate 11 success).map
    fun answer => (.helper, answer)

/-- The record the handler sees in that case. -/
def halfWiped : DevicePreparationTransaction :=
  ((Pool.run wipeFails reformatting).state.history operation)[2]?.getD created

/-- The signatures of the partition may be gone, and yet the profile is given back. -/
theorem released_after_wipe : Pool.Permitted FreshIds wipeFails reformatting ∧
    (∃ later earlier, (Pool.run wipeFails reformatting).state.trace operation =
        later ++ .releasedAfterFailure halfWiped :: (earlier ++ [.wrote .manager created.next]) ∧
      .destroying (.wipeAll "/dev/sdb1" "8:17") ∈ earlier) ∧
    halfWiped.configurationState ≠ .installed ∧ created.target.mode ≠ .adoptExistingTarget ∧
    ((Pool.run wipeFails reformatting).state.transactions operation).map
      (·.profileReservationState) = some .released ∧
    (Pool.run wipeFails reformatting).state.reservations created.profileId = none := by
  refine ⟨by decide +kernel,
    ⟨((Pool.run wipeFails reformatting).state.trace operation).take 2,
      (((Pool.run wipeFails reformatting).state.trace operation).drop 3).take 7,
      by decide +kernel, by decide +kernel⟩,
    by decide +kernel, by decide, by decide +kernel, by decide +kernel⟩

end Sample

end Preparation

end BtrfsBackup
