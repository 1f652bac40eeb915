/-
What the manager does to the record of an operation while its helper works.

The manager never touches what the helper keeps in the record, it never makes an
operation cancellable, and it requests the cancellation only of an operation that
is cancellable.  As all its writes are computed from the stored content, this
holds for every interleaving of its threads with the helper.

* `Handled` — the writes of the manager;
* `Aside` — what a helper may rely on while the manager works;
* `manages_…` — the functions of the manager stay within that;
* `preparationPool` — a helper and the threads of the manager.
-/
import BtrfsBackup.PreparationSteps

open Interaction Interaction.Prog

namespace BtrfsBackup

open List

namespace Preparation

open PreparationSystem

/-! ### The writes of the manager -/

/-- A write of the manager. -/
structure Handled (before after : DevicePreparationTransaction) : Prop where
  target : after.target = before.target
  lastCompletedPhase : after.lastCompletedPhase = before.lastCompletedPhase
  mapper : after.mapper = before.mapper
  canCancel : after.canCancel = true → before.canCancel = true
  cancelRequested : after.cancelRequested = before.cancelRequested ∨ before.canCancel = true

theorem handled_refl (r : DevicePreparationTransaction) : Handled r r :=
  ⟨rfl, rfl, rfl, id, .inl rfl⟩

theorem Handled.trans {a b c} (h : Handled a b)
    (h' : Handled b c) : Handled a c where
  target := h'.target.trans h.target
  lastCompletedPhase := h'.lastCompletedPhase.trans h.lastCompletedPhase
  mapper := h'.mapper.trans h.mapper
  canCancel hc := h.canCancel (h'.canCancel hc)
  cancelRequested := by
    rcases h'.cancelRequested with heq | hcan
    · rw [heq]
      exact h.cancelRequested
    · exact .inr (h.canCancel hcan)

/-- No request to cancel was ever persisted, and none can be. -/
def Settled (op : OperationId) (system : PreparationSystem) : Prop :=
  (∀ r ∈ system.history op, r.cancelRequested = false) ∧
    ∀ r, system.transactions op = some r → r.canCancel = false

/-- The events that are not those of the helper. -/
def Event.aside : Event → Bool
  | .wrote .manager _ => true
  | .unitStopped => true
  | .recoveryRequested => true
  | _ => false

/-- The content that was persisted last; the record may be removed since. -/
def PreparationSystem.latest (system : PreparationSystem) (op : OperationId) :
    Option DevicePreparationTransaction :=
  (system.history op).head?

/-- How often the recovery of an operation was called for. -/
def PreparationSystem.asked (system : PreparationSystem) (op : OperationId) : Nat :=
  (system.trace op).count .recoveryRequested

/-- The record has never named a mapping. -/
def PreparationSystem.Unmapped (system : PreparationSystem) (op : OperationId) : Prop :=
  ∀ r ∈ system.history op, r.mapper = ""

/-- What the helper of an operation relies on. -/
structure Aside (op : OperationId) (s t : PreparationSystem) : Prop where
  growth : Growth (fun _ _ => True) s t
  trace : ∃ added, t.trace op = added ++ s.trace op ∧
    ∀ event ∈ added, event.aside = true
  transaction : s.history op ≠ [] → ∀ r, t.transactions op = some r →
    ∃ r₀, s.transactions op = some r₀ ∧ Handled r₀ r
  latest : s.history op ≠ [] → ∀ r, t.latest op = some r →
    ∃ r₀, s.latest op = some r₀ ∧ Handled r₀ r
  settled : s.history op ≠ [] → Settled op s → Settled op t
  unmapped : s.history op ≠ [] → s.Unmapped op → t.Unmapped op ∧ t.asked op = s.asked op
  mappings : t.mappings = s.mappings
  mapper : t.mapper = s.mapper

theorem aside_refl (op : OperationId) (s : PreparationSystem) : Aside op s s where
  growth := growth_refl s
  trace := ⟨[], rfl, forall_mem_nil _⟩
  transaction _ r hr := ⟨r, hr, handled_refl r⟩
  latest _ r hr := ⟨r, hr, handled_refl r⟩
  settled _ h := h
  unmapped _ h := ⟨h, rfl⟩
  mappings := rfl
  mapper := rfl

variable {s t : PreparationSystem} {op : OperationId}

theorem Growth.history_ne_nil {C}
    (h : Growth C s t) (hs : s.history op ≠ []) : t.history op ≠ [] := by
  intro hnil
  have hsuf := h.history op
  rw [hnil] at hsuf
  exact hs (suffix_nil.mp hsuf)

theorem Aside.trans {u}
    (h : Aside op s t) (h' : Aside op t u) : Aside op s u where
  growth := h.growth.trans h'.growth
  trace := by
    obtain ⟨first, hfirst, hasideFirst⟩ := h.trace
    obtain ⟨second, hsecond, hasideSecond⟩ := h'.trace
    refine ⟨second ++ first, by rw [hsecond, hfirst, append_assoc], fun ev hevent => ?_⟩
    rcases mem_append.mp hevent with hevent | hevent
    · exact hasideSecond ev hevent
    · exact hasideFirst ev hevent
  transaction hs r hr := by
    obtain ⟨r₁, hr₁, hhandled₁⟩ := h'.transaction (h.growth.history_ne_nil hs) r hr
    obtain ⟨r₀, hr₀, hhandled₀⟩ := h.transaction hs r₁ hr₁
    exact ⟨r₀, hr₀, hhandled₀.trans hhandled₁⟩
  latest hs r hr := by
    obtain ⟨r₁, hr₁, hhandled₁⟩ := h'.latest (h.growth.history_ne_nil hs) r hr
    obtain ⟨r₀, hr₀, hhandled₀⟩ := h.latest hs r₁ hr₁
    exact ⟨r₀, hr₀, hhandled₀.trans hhandled₁⟩
  settled hs hset := h'.settled (h.growth.history_ne_nil hs) (h.settled hs hset)
  unmapped hs hnone := by
    obtain ⟨hnone, hasked⟩ := h.unmapped hs hnone
    obtain ⟨hnone', hasked'⟩ := h'.unmapped (h.growth.history_ne_nil hs) hnone
    exact ⟨hnone', hasked'.trans hasked⟩
  mappings := h'.mappings.trans h.mappings
  mapper := h'.mapper.trans h.mapper

instance isRely_aside : IsRely (Aside op) :=
  ⟨aside_refl op, Aside.trans⟩

/-! ### The steps of the manager -/

/-- What the threads of the manager guarantee. -/
def Beside (s t : PreparationSystem) : Prop := ∀ op, Aside op s t

theorem beside_refl (s : PreparationSystem) : Beside s s := fun op => aside_refl op s

/-- An operation that a step does not touch. -/
theorem aside_of_same (hgrowth : Growth (fun _ _ => True) s t) (htrace : t.trace op = s.trace op)
    (htx : t.transactions op = s.transactions op)
    (hmappings : t.mappings = s.mappings) (hmap : t.mapper = s.mapper) : Aside op s t := by
  have hhist : t.history op = s.history op := by
    rw [history, htrace, history]
  exact {
    growth := hgrowth
    trace := ⟨[], htrace, forall_mem_nil _⟩
    transaction := fun _ r hr => ⟨r, htx ▸ hr, handled_refl r⟩
    latest := fun _ r hr => ⟨r, by rwa [latest, ← hhist], handled_refl r⟩
    settled := fun _ hset => ⟨hhist ▸ hset.1, htx ▸ hset.2⟩
    unmapped := fun _ hnone => ⟨fun r hr => hnone r (hhist ▸ hr), by rw [asked, htrace, asked]⟩
    mappings := hmappings
    mapper := hmap }

variable {s : PreparationSystem} {op : OperationId} {r w : DevicePreparationTransaction}

theorem asked_store {proc : Process} : (s.store proc op w).asked op = s.asked op := by
  rw [asked, trace_store_self, count_cons_of_ne (by simp), asked]

theorem beside_store (hs : Orderly s) (hget : s.transactions op = some r)
    (hnext : Succeeds r w) (hhandled : Handled r w) :
    Beside s (s.store .manager op w) ∧ Orderly (s.store .manager op w) := by
  have hord := hs.store .manager hget hnext trivial
  refine ⟨fun other => ?_, hord⟩
  by_cases hother : other = op
  · subst hother
    refine ⟨growth_store hord, ⟨[.wrote .manager w], by simp [store], ?_⟩,
      fun _ r' hr' => ?_, fun _ r' hr' => ?_,
      fun _ hset => ⟨fun r' hr' => ?_, fun r' hr' => ?_⟩,
      fun _ hnone => ⟨fun r' hr' => ?_, asked_store⟩, rfl, rfl⟩
    · simp [Event.aside]
    · rw [transactions_store_self, Option.some.injEq] at hr'
      exact ⟨r, hget, hr' ▸ hhandled⟩
    · rw [latest, history_store_self, head?_cons, Option.some.injEq] at hr'
      exact ⟨r, hs.stored other r hget, hr' ▸ hhandled⟩
    · -- the record was not cancellable, so that the request was not made here
      rw [history_store_self, mem_cons] at hr'
      rcases hr' with rfl | hr'
      · rcases hhandled.cancelRequested with heq | hcan
        · rw [heq]
          exact hset.1 r (hs.mem_history hget)
        · rw [hset.2 r hget] at hcan
          cases hcan
      · exact hset.1 r' hr'
    · rw [transactions_store_self, Option.some.injEq] at hr'
      subst hr'
      rw [← Bool.not_eq_true]
      intro hcan
      have hpre := hhandled.canCancel hcan
      rw [hset.2 r hget] at hpre
      cases hpre
    · rw [history_store_self, mem_cons] at hr'
      rcases hr' with rfl | hr'
      · exact hhandled.mapper.trans (hnone r (hs.mem_history hget))
      · exact hnone r' hr'
  · exact aside_of_same (growth_store hord) (by simp [store, hother])
      (transactions_store_of_ne hother) rfl rfl

theorem beside_create (hs : Orderly s) (hnew : s.history op = []) (hid : w.operationId = op) :
    Beside s (s.store .manager op w) ∧ Orderly (s.store .manager op w) := by
  have hord := hs.create .manager hnew hid
  refine ⟨fun other => ?_, hord⟩
  by_cases hother : other = op
  · subst hother
    exact ⟨growth_store hord, ⟨[.wrote .manager w], by simp [store],
      by simp [Event.aside]⟩, (absurd hnew), (absurd hnew),
      (absurd hnew), (absurd hnew), rfl, rfl⟩
  · exact aside_of_same (growth_store hord) (by simp [store, hother])
      (transactions_store_of_ne hother) rfl rfl

theorem beside_prune (hs : Orderly s) (hr : r ∈ s.history r.operationId)
    (hterm : terminal r = true) :
    Beside s (s.prune r.operationId) ∧ Orderly (s.prune r.operationId) := by
  have hord := hs.prune hr hterm
  refine ⟨fun other => ?_, hord⟩
  by_cases hother : other = r.operationId
  · subst hother
    refine ⟨growth_prune hord, ⟨[], rfl, by simp⟩, fun _ r' hr' => ?_,
      fun _ r' hr' => ⟨r', hr', handled_refl r'⟩, fun _ hset => ⟨hset.1, fun r' hr' => ?_⟩,
      fun _ hnone => ⟨hnone, rfl⟩, rfl, rfl⟩
    · rw [transactions_prune_self] at hr'
      cases hr'
    · rw [transactions_prune_self] at hr'
      cases hr'
  · exact aside_of_same (growth_prune hord) rfl (transactions_prune_of_ne hother) rfl rfl

theorem beside_record {ev : Event} (hs : Orderly s) (haside : ev.aside = true)
    (hcont : ev.content = none) (hasked : s.Unmapped op → ev ≠ .recoveryRequested) :
    Beside s (s.record op ev) ∧ Orderly (s.record op ev) := by
  have hhist : ∀ other, (s.record op ev).history other = s.history other := by
    intro other
    by_cases hother : other = op
    · subst hother
      simp [history, record, hcont]
    · simp [history, record, hother]
  have hord : Orderly (s.record op ev) :=
    ⟨fun other => hhist other ▸ hs.chain other, fun other => hhist other ▸ hs.named other,
      fun other => hhist other ▸ hs.stored other, fun other => hhist other ▸ hs.pruned other⟩
  refine ⟨fun other => ?_, hord⟩
  refine ⟨⟨fun other => hhist other ▸ suffix_refl _, fun _ => hord⟩, ?_,
    fun _ r hr => ⟨r, hr, handled_refl r⟩,
    fun _ r hr => ⟨r, by rwa [latest, ← hhist], handled_refl r⟩,
    fun _ hset => ⟨hhist other ▸ hset.1, hset.2⟩,
    fun _ hnone => ⟨fun r hr => hnone r (hhist other ▸ hr), ?_⟩, rfl, rfl⟩
  · by_cases hother : other = op
    · subst hother
      exact ⟨[ev], by simp [record], by simpa using haside⟩
    · exact ⟨[], by simp [record, hother], by simp⟩
  · by_cases hother : other = op
    · subst hother
      rw [asked, trace_record_self, count_cons_of_ne (hasked hnone), asked]
    · simp [asked, record, hother]

theorem beside_setReservation (hs : Orderly s) (pid : ProfileId) (file : Option ReservationFile) :
    Beside s (s.setReservation pid file) ∧ Orderly (s.setReservation pid file) :=
  have hord : Orderly (s.setReservation pid file) :=
    ⟨hs.chain, hs.named, hs.stored, hs.pruned⟩
  ⟨fun _ => aside_of_same ⟨fun _ => suffix_refl _, fun _ => hord⟩ rfl rfl rfl rfl, hord⟩

/-! ### The functions of the manager -/

/-- The program keeps the store orderly, and its steps are those of the manager. -/
abbrev Manages (p : PreparationProg α) : Prop :=
  Within FreshIds (Growth fun _ _ => True) Beside Orderly p

section manages

variable {α β : Type} {pid : ProfileId} {e : Raised}

theorem manages_ret {a : α} : Manages (.ret a) := within_ret stable_lawful

theorem manages_fail : Manages (.fail e : PreparationProg α) :=
  within_fail stable_lawful

variable {p : PreparationProg α}

theorem Manages.seq {k : α → PreparationProg β} (h : Manages p)
    (hk : ∀ a, Manages (k a)) : Manages (p >>= k) := Within.seq h hk

theorem Manages.handle {k} (h : Manages p)
    (hk : ∀ e, Manages (k e)) : Manages (p.handleError k) := Within.handleError h hk

variable {u : DevicePreparationTransaction} {proc : Process} {retention : Retention}

theorem manages_inquire {act : Action} {value : PreparationAnswer → α} :
    Manages (inquire proc act value) :=
  fun _ => guarded_inquire beside_refl stable_lawful

theorem manages_ensure {condition : Bool} : Manages (ensure condition e) :=
  within_ite manages_ret manages_fail

theorem manages_load : Manages (load proc op) := fun _ hs =>
  (guarded_load beside_refl stable_lawful (fun _ _ _ _ _ => trivial) hs
    fun _ _ _ _ _ => trivial).mono_result fun _ _ hu => hu.1

variable {transition : Transition}

/-- The transaction is one the store has had, with changes the manager may make. -/
def Edited (u : DevicePreparationTransaction) (t : PreparationSystem) : Prop :=
  ∃ r ∈ t.history u.operationId, u.revision = r.revision ∧ ∀ now, Handled r (stamped now u)

theorem stable_edited (u : DevicePreparationTransaction) :
    Stable (Growth fun _ _ => True) (Edited u) := by
  rintro s t h ⟨r, hr, hrev, hhandled⟩
  exact ⟨r, (h.history _).mem hr, hrev, hhandled⟩

theorem edited_of_mem (hr : r ∈ s.history r.operationId) : Edited r s :=
  ⟨r, hr, rfl, fun _ => ⟨rfl, rfl, rfl, id, .inl rfl⟩⟩

/-- A further change. -/
theorem Edited.change {v} (h : Edited u s) (hid : v.operationId = u.operationId)
    (hrev : v.revision = u.revision) (hhandled : Handled u v) : Edited v s := by
  obtain ⟨r, hr, hur, hu⟩ := h
  refine ⟨r, hid ▸ hr, hrev.trans hur, fun now => ?_⟩
  have huv : Handled (stamped now u) (stamped now v) :=
    ⟨hhandled.target, hhandled.lastCompletedPhase, hhandled.mapper, hhandled.canCancel,
      hhandled.cancelRequested⟩
  exact (hu now).trans huv

/-- A transaction that was read is saved with changes. -/
theorem guarded_saveNow_manager (hs : Orderly s) (hu : Edited u s) :
    Guarded FreshIds (Growth fun _ _ => True) Beside (saveNow .manager u)
      (fun w t => Orderly t ∧ Edited w t) (fun _ => Orderly) s := by
  obtain ⟨r, hr, hrev, hhandled⟩ := hu
  have hknown : ∀ w : DevicePreparationTransaction,
      Stable (Growth fun _ _ => True) fun t => w ∈ t.history u.operationId :=
    fun w _ _ h hw => (h.history _).mem hw
  refine (guarded_saveNow_copy beside_refl stable_lawful hknown (fun _ ht => ht)
    (fun _ _ hA => hA) hs hr hrev fun i t ht _ hget hnext =>
      beside_store ht hget hnext (hhandled i.now)).mono_result fun w t ht => ?_
  obtain ⟨⟨ht, hw⟩, now, rfl⟩ := ht
  exact ⟨ht, edited_of_mem hw⟩

theorem guarded_load_manager (hs : Orderly s) :
    Guarded FreshIds (Growth fun _ _ => True) Beside (load proc op)
      (fun r t => Orderly t ∧ Edited r t) (fun _ => Orderly) s := by
  refine guarded_load beside_refl stable_lawful stable_edited hs ?_
  rintro t r ht hget rfl
  exact edited_of_mem (ht.mem_history hget)

/-- A record that could not be written is read again. -/
theorem guarded_reload (hs : Orderly s) : Guarded FreshIds (Growth fun _ _ => True) Beside
    (if e.isValidationError then load proc op else .fail e) (fun r t => Orderly t ∧ Edited r t)
      (fun _ => Orderly) s := by
  split
  · exact guarded_load_manager hs
  · exact guarded_fail stable_lawful hs fun _ hu => hu

/-- A write of the manager, and what it knows then. -/
theorem beside_edit (hs : Orderly s) (hget : s.transactions op = some r) (hnext : Succeeds r w)
    (hhandled : Handled r w) : Beside s (s.store .manager op w) ∧
      Orderly (s.store .manager op w) ∧ Edited w (s.store .manager op w) := by
  obtain ⟨hbeside, hord⟩ := beside_store hs hget hnext hhandled
  refine ⟨hbeside, hord, edited_of_mem ?_⟩
  rw [hnext.operationId, hs.operationId_eq hget, history_store_self]
  exact mem_cons_self

section

variable (htransition : ∀ now r changed, transition now r = .ok changed → Handled r changed.next)
include htransition

theorem guarded_updateAt_manager {revision : Nat} (hs : Orderly s) :
    Guarded FreshIds (Growth fun _ _ => True) Beside (updateAt .manager op revision transition)
      (fun r t => Orderly t ∧ Edited r t) (fun _ => Orderly) s :=
  (guarded_updateAt beside_refl stable_lawful (fun r => stable_lawful.and (stable_edited r)) hs
    fun i _ r changed ht _ hget _ hchg hnext =>
      beside_edit ht hget hnext (htransition i.now r changed hchg)).mono_error
        fun _ _ hu => hu.elim id fun ⟨_, _, hr⟩ => hr.1

theorem manages_updateAt {revision : Nat} :
    Manages (updateAt .manager op revision transition) := fun _ hs =>
  (guarded_updateAt_manager htransition hs).mono_result fun _ _ hu => hu.1

theorem guarded_update_manager (hs : Orderly s) :
    Guarded FreshIds (Growth fun _ _ => True) Beside (update .manager op transition)
      (fun r t => Orderly t ∧ Edited r t) (fun _ => Orderly) s :=
  (guarded_update beside_refl stable_lawful (fun r => stable_lawful.and (stable_edited r)) hs
    fun i _ r changed ht _ hget hchg hnext =>
      beside_edit ht hget hnext (htransition i.now r changed hchg)).mono_error
        fun _ _ hu => hu.elim id fun ⟨_, hr⟩ => hr.1

theorem manages_update : Manages (update .manager op transition) := fun _ hs =>
  (guarded_update_manager htransition hs).mono_result fun _ _ hu => hu.1

end

/-- What the manager knows of a transaction survives its own steps. -/
theorem Manages.keeps (h : Manages p) (hs : Orderly s) (hu : Edited u s) :
    Guarded FreshIds (Growth fun _ _ => True) Beside p (fun _ t => Orderly t ∧ Edited u t)
      (fun _ => Orderly) s :=
  ((h s hs).frame (stable_edited u)
    (fun _ _ hstep => stable_edited u _ _ (hstep u.operationId).growth)
    hu).mono_error fun _ _ hu => hu.1

/-! ### Reservations -/

theorem manages_releaseProfile : Manages (releaseProfile proc pid op) :=
  within_releaseProfile beside_refl stable_lawful fun _ file ht =>
    beside_setReservation ht pid file

theorem manages_reserveProfile : Manages (reserveProfile proc pid op) :=
  within_reserveProfile beside_refl stable_lawful fun _ file ht =>
    beside_setReservation ht pid file

/-! ### Operations -/

theorem manages_unitActive : Manages (unitActive proc op) :=
  within_effect stable_lawful (fun _ t ht _ => ⟨beside_refl t, ht⟩) fun _ _ _ _ => manages_ret

/-- The recovery is called for only if a mapping was named. -/
theorem guarded_recoverMapped (hs : Orderly s) (hu : Edited u s) :
    Guarded FreshIds (Growth fun _ _ => True) Beside (recoverMapped proc u) (fun _ => Orderly)
      (fun _ => Orderly) s := by
  rw [recoverMapped]
  split
  · exact manages_ret s hs
  · next hmap =>
    refine guarded_effect (stable_lawful.and (stable_edited u)) ⟨hs, hu⟩ fun i t ht _ => ?_
    obtain ⟨ht, r, hr, -, hhandled⟩ := ht
    have hnamed : t.Unmapped u.operationId → Event.recoveryRequested ≠ .recoveryRequested :=
      fun hnone => absurd ((hhandled 0).mapper.trans (hnone r hr)) hmap
    obtain ⟨hbeside, hlater⟩ := beside_record ht rfl rfl hnamed
    refine ⟨hbeside, ?_⟩
    split
    · exact manages_fail _ hlater
    · exact manages_ret _ hlater

theorem manages_loadCurrent : Manages (loadCurrent op) := by
  refine manages_load.seq fun r => within_ite ?_ manages_ret
  refine manages_unitActive.seq fun active => within_ite manages_ret fun s hs => ?_
  refine guarded_do (M := fun u t => Orderly t ∧ Edited u t) ?_ fun current t ht =>
    guarded_do (guarded_recoverMapped ht.1 ht.2) fun _ => manages_ret
  refine (guarded_handleError _ _).mpr
    ((guarded_updateAt_manager ?_ hs).mono_error fun _ _ => guarded_reload)
  rintro now r changed ⟨⟩
  exact ⟨rfl, rfl, rfl, nofun, .inl rfl⟩

/-- Marking a record as releasing, removing the file, and what is left to save. -/
theorem guarded_releaseHeld (hs : Orderly s) (hu : Edited u s) :
    Guarded FreshIds (Growth fun _ _ => True) Beside (releaseHeld .manager u)
      (fun w t => Orderly t ∧ Edited w t) (fun _ => Orderly) s := by
  refine guarded_do (guarded_saveNow_manager hs ?_) fun w t ht => ?_
  · exact hu.change rfl rfl ⟨rfl, rfl, rfl, id, .inl rfl⟩
  · refine guarded_do (manages_releaseProfile.keeps ht.1 ht.2) fun _ t ht => ?_
    refine guarded_ret (stable_lawful.and (stable_edited _)) ?_ fun _ hv => hv
    exact ⟨ht.1, ht.2.change rfl rfl ⟨rfl, rfl, rfl, id, .inl rfl⟩⟩

/-- Saving a transaction at the end. -/
theorem guarded_lastSave (hs : Orderly s) (hu : Edited u s) :
    Guarded FreshIds (Growth fun _ _ => True) Beside
      (do let _ ← saveNow .manager u; .ret () : PreparationProg Unit) (fun _ => Orderly)
      (fun _ => Orderly) s :=
  guarded_do (guarded_saveNow_manager hs hu) fun _ _ ht => manages_ret _ ht.1

theorem guarded_finishCancel (hs : Orderly s) (hu : Edited u s) :
    Guarded FreshIds (Growth fun _ _ => True) Beside (finishCancel u) (fun _ => Orderly)
      (fun _ => Orderly) s := by
  rw [finishCancel]
  split
  · exact manages_ret s hs
  · refine guarded_do (M := fun w t => Orderly t ∧ Edited w t) ?_ fun w t ht =>
      guarded_lastSave ht.1 ht.2
    split
    · exact guarded_releaseHeld hs hu
    · exact guarded_ret (stable_lawful.and (stable_edited u)) ⟨hs, hu⟩ fun _ hv => hv

theorem manages_cancel : Manages (cancel op) := by
  refine Manages.seq (Manages.handle manages_loadCurrent fun e => ?_) fun r => ?_
  · cases e with
    | exception e => exact manages_fail
    | foreign => exact manages_fail
  refine manages_ensure.seq fun _ => ?_
  refine Manages.seq (Manages.handle (manages_updateAt ?_) fun e => manages_fail) fun _ => ?_
  · -- only an operation that can be cancelled gets the request
    intro now r changed hchg
    rw [requestCancellation] at hchg
    split at hchg
    · next hcan =>
      cases hchg
      exact ⟨rfl, rfl, rfl, id, .inr hcan⟩
    · cases hchg
  refine Within.seq (within_perform beside_refl stable_lawful fun t ht =>
    beside_record ht rfl rfl nofun) fun _ => ?_
  intro s hs
  refine guarded_do (M := fun u t => Orderly t ∧ Edited u t) ?_ fun u t ht =>
    guarded_finishCancel ht.1 ht.2
  refine (guarded_handleError _ _).mpr ?_
  refine (guarded_update_manager ?_ hs).mono_error fun _ _ => guarded_reload
  rintro now r changed ⟨⟩
  rw [markCancelled]
  split
  · exact ⟨rfl, rfl, rfl, nofun, .inl rfl⟩
  · exact ⟨rfl, rfl, rfl, id, .inl rfl⟩

theorem guarded_restoreReservation (hs : Orderly s) (hu : Edited u s) :
    Guarded FreshIds (Growth fun _ _ => True) Beside (restoreReservation .manager u)
      (fun w t => Orderly t ∧ Edited w t) (fun _ => Orderly) s := by
  have hsame : ∀ t, Orderly t ∧ Edited u t →
      Guarded FreshIds (Growth fun _ _ => True) Beside (.ret u : PreparationProg _)
        (fun w t => Orderly t ∧ Edited w t) (fun _ => Orderly) t := fun t ht =>
    guarded_ret (stable_lawful.and (stable_edited u)) ht fun _ hv => hv
  rw [restoreReservation]
  split
  · exact guarded_do (guarded_releaseHeld hs hu) fun w t ht =>
      guarded_saveNow_manager ht.1 ht.2
  split
  · refine guarded_do (Manages.keeps (within_readReservation beside_refl stable_lawful) hs hu)
      fun owner t ht => ?_
    cases owner with
    | none =>
      exact guarded_do (manages_reserveProfile.keeps ht.1 ht.2) fun _ => hsame
    | some owner =>
      exact guarded_do (manages_ensure.keeps ht.1 ht.2) fun _ => hsame
  · exact hsame s ⟨hs, hu⟩

theorem guarded_restoreTransaction {recoverExisting : Bool} (hs : Orderly s) (hu : Edited u s) :
    Guarded FreshIds (Growth fun _ _ => True) Beside
      (restoreTransaction .manager recoverExisting u) (fun _ => Orderly) (fun _ => Orderly) s := by
  refine guarded_do (guarded_restoreReservation hs hu) fun w t ht => ?_
  split
  · refine guarded_do (manages_unitActive.keeps ht.1 ht.2) fun active t ht => ?_
    split
    · exact manages_ret t ht.1
    · refine guarded_do (guarded_saveNow_manager ht.1 ?_) fun w t ht =>
        guarded_recoverMapped ht.1 ht.2
      exact ht.2.change rfl rfl ⟨rfl, rfl, rfl, nofun, .inl rfl⟩
  · exact manages_ret t ht.1

/-- A scan of the store: all transactions are known. -/
theorem guarded_scan (hs : Orderly s) :
    Guarded FreshIds (Growth fun _ _ => True) Beside (loadAndPrune .manager retention)
      (fun scan t => Orderly t ∧ ∀ r ∈ scan.transactions, Edited r t) (fun _ => Orderly) s := by
  refine (guarded_loadAndPrune beside_refl stable_lawful stable_mem_history hs
    (fun t r ht => ht.mem_history)
    (fun i t r ht _ => beside_prune ht) fun _ _ _ hr => hr).mono_result
      fun scan t ht => ⟨ht.1, fun r hr => edited_of_mem (ht.2 r hr)⟩

/-- A loop over the transactions of a scan. -/
theorem manages_forScan {body}
    (hbody : ∀ s u, Orderly s → Edited u s → Guarded FreshIds (Growth fun _ _ => True) Beside
      (body u) (fun _ => Orderly) (fun _ => Orderly) s) :
    Manages (do
      let scan ← loadAndPrune .manager retention
      forEach body scan.transactions : PreparationProg Unit) := by
  intro s hs
  refine guarded_do (guarded_scan hs) fun scan t ht => ?_
  have hstab : ∀ rest : List DevicePreparationTransaction,
      Stable (Growth fun _ _ => True) fun t => ∀ r ∈ rest, Edited r t :=
    fun rest t u hu h r hr => stable_edited r t u hu (h r hr)
  refine (guarded_forEach
    (I := fun rest t => Orderly t ∧ ∀ r ∈ rest, Edited r t) (stable_lawful.and (hstab []))
    ht fun r rest t ht => ?_).mono_result fun _ _ hu => hu.1
  -- the transactions still to come stay known while one is dealt with
  refine ((hbody t r ht.1 (ht.2 r mem_cons_self)).frame (hstab rest)
    (fun _ _ hstep => hstab rest _ _ (hstep r.operationId).growth)
    fun r' hr' => ht.2 r' (mem_cons_of_mem r hr')).mono_error fun _ _ hu => hu.1

theorem manages_reconcileDeviceAccess : Manages (reconcileDeviceAccess retention) := by
  refine manages_forScan fun s u hs _ => ?_
  refine within_ite manages_ret (manages_inquire.seq fun _ => ?_) s hs
  refine (manages_update ?_).seq fun _ => manages_ret
  rintro now r changed ⟨⟩
  split
  · exact ⟨rfl, rfl, rfl, id, .inl rfl⟩
  · exact ⟨rfl, rfl, rfl, id, .inl rfl⟩

/-- A new transaction. -/
theorem manages_saveNew (hrev : u.revision = 0) : Manages (save .manager u) := by
  intro s hs
  refine (guarded_writeLocked beside_refl stable_lawful
    (fun _ => stable_lawful) hs fun i t w ht hA hcont => ?_).mono_error
      fun _ _ hu => hu.elim id fun ⟨_, _, hr⟩ => hr
  have hnew := FreshIds.history_eq hA hrev
  rw [ht.not_stored hnew] at hcont
  obtain ⟨rfl, -⟩ := saved_none hcont
  exact beside_create ht hnew rfl

theorem manages_registerJob (hrev : u.revision = 0) : Manages (registerJob u) := by
  refine manages_inquire.seq fun _ => manages_ensure.seq fun _ => ?_
  refine manages_inquire.seq fun _ => manages_ensure.seq fun _ => ?_
  refine manages_inquire.seq fun _ => manages_ensure.seq fun _ => ?_
  refine Manages.seq (manages_reserveProfile.handle fun _ => manages_fail) fun _ => ?_
  refine Manages.handle ?_ fun e => ?_
  · refine manages_inquire.seq fun _ => manages_ensure.seq fun _ => ?_
    exact manages_saveNew hrev
  · exact Within.seq manages_releaseProfile.attempt fun _ => manages_fail

theorem manages_start {req} : Manages (start op req) := by
  refine manages_inquire.seq fun now => (manages_registerJob rfl).seq fun _ => ?_
  refine manages_inquire.handle fun e => ?_
  intro s hs
  refine guarded_do (guarded_update_manager ?_ hs) fun u t ht => ?_
  · rintro now r changed ⟨⟩
    exact ⟨rfl, rfl, rfl, nofun, .inl rfl⟩
  · refine guarded_do ?_ fun _ t ht => manages_fail t ht
    rw [releaseStateReservation]
    split
    · exact manages_ret t ht.1
    · exact guarded_do (guarded_releaseHeld ht.1 ht.2) fun w t ht =>
        guarded_lastSave ht.1 ht.2

end manages

/-! ### All together -/

/-- What a thread of the manager may be asked to do. -/
inductive ManagerRequest where
  | start (op : OperationId) (request : DevicePreparationRequest)
  | status (op : OperationId)
  | cancel (op : OperationId)
  | restore (retention : Retention) (recoverExisting : Bool)
  | reconcile (retention : Retention)
  | prune (retention : Retention)

/-- Serve a request; errors are reported to the caller. -/
def serve (request : ManagerRequest) : PreparationProg Unit :=
  (match request with
    | .start op request => start op request
    | .status op => (loadCurrent op).bind fun _ => .ret ()
    | .cancel op => cancel op
    | .restore retention recoverExisting => restoreTransactions .manager retention recoverExisting
    | .reconcile retention => reconcileDeviceAccess retention
    | .prune retention => (loadAndPrune .manager retention).bind fun _ => .ret ()).handleError
      fun _ => .ret ()

theorem manages_serve {req} : Manages (serve req) := by
  refine Manages.handle ?_ fun _ => manages_ret
  cases req with
  | start op req => exact manages_start
  | status op => exact Within.bind manages_loadCurrent fun _ => manages_ret
  | cancel op => exact manages_cancel
  | restore retention => exact manages_forScan fun _ _ => guarded_restoreTransaction
  | reconcile retention => exact manages_reconcileDeviceAccess
  | prune retention =>
    refine Within.bind (fun s hs => ?_) fun _ => manages_ret
    exact (guarded_scan hs).mono_result fun _ _ hu => hu.1

/-- The helper of an operation and the threads of the manager. -/
inductive Party where
  | helper
  | manager (number : Nat)
  deriving DecidableEq, Repr

/-- An execution of an operation while the manager serves any requests. -/
def preparationPool (setup : ExecutorSetup) (operationId : OperationId)
    (requests : Nat → List ManagerRequest) (system : PreparationSystem) :
    Pool Party PreparationCall PreparationAnswer PreparationSystem Raised Unit where
  state := system
  thread
    | .helper => execute setup operationId
    | .manager number => forEach serve (requests number)

end Preparation

end BtrfsBackup
