/-
Rely and guarantee for the operations of the store.

Each rule says what has to be shown of an operation: what holds before it must
survive the other processes, and its effect must be one that is guaranteed.  A
call that throws has had its effect or not, so that an error is met with either
what held before or what holds after it.
-/
import BtrfsBackup.PreparationStore

open Interaction Interaction.Prog

namespace BtrfsBackup

namespace Preparation

/-! ### The history -/

namespace PreparationSystem

variable {system : PreparationSystem} {proc : Process} {op other : OperationId}
  {content : DevicePreparationTransaction}

@[simp] theorem trace_record_self {ev : Event} :
    (system.record op ev).trace op = ev :: system.trace op := by
  simp [record]

@[simp] theorem trace_store_self : (system.store proc op content).trace op =
      .wrote proc content :: system.trace op := by
  simp [store]

@[simp] theorem history_store_self : (system.store proc op content).history op =
      content :: system.history op := by
  simp [history, store, Event.content]

theorem history_store_of_ne (h : other ≠ op) :
    (system.store proc op content).history other = system.history other := by
  simp [history, store, h]

@[simp] theorem transactions_store_self :
    (system.store proc op content).transactions op = some content := by
  simp [store]

theorem transactions_store_of_ne (h : other ≠ op) :
    (system.store proc op content).transactions other = system.transactions other := by
  simp [store, h]

@[simp] theorem history_prune : (system.prune op).history other = system.history other :=
  rfl

@[simp] theorem transactions_prune_self : (system.prune op).transactions op = none :=
  by simp [prune]

theorem transactions_prune_of_ne (h : other ≠ op) :
    (system.prune op).transactions other = system.transactions other := by
  simp [prune, h]

end PreparationSystem

theorem effective_none {ans : PreparationAnswer} (h : ans.error = none) : ans.effective = true := by
  simp [PreparationAnswer.effective, h]

theorem not_conflict_of_effective {ans : PreparationAnswer} {e : Raised}
    (h : ans.effective = true) (he : ans.error = some e) : isRevisionConflict e = false := by
  simp only [PreparationAnswer.effective, he, Bool.and_eq_true, Bool.not_eq_true'] at h
  exact h.2

/-! ### Rules -/

section rules

variable {A : PreparationCall → PreparationAnswer → PreparationSystem → Prop}
  {R G : PreparationSystem → PreparationSystem → Prop} {P M : PreparationSystem → Prop}
  {E : Raised → PreparationSystem → Prop} {s : PreparationSystem} {proc : Process}
  {act : Action} {op : OperationId}

theorem stable_forall {M : DevicePreparationTransaction → PreparationSystem → Prop}
    (hM : ∀ r, Stable R (M r)) (rs : List DevicePreparationTransaction) :
    Stable R fun t => ∀ r ∈ rs, M r t :=
  fun t u hu ht r hr => hM r t u hu (ht r hr)

theorem mem_completedTransactions {txs r} :
    r ∈ completedTransactions txs ↔ r ∈ txs ∧ terminal r = true := by
  rw [completedTransactions, (List.perm_insertionSort _ _).mem_iff, List.mem_filter]

variable (hG : ∀ t, G t t) (hP : Stable R P)

include hG hP

variable {change : PreparationSystem → PreparationSystem}

/-- A call that returns, one that throws after its effect, and one that throws before it. -/
theorem guarded_perform_cases {F} (hM : Stable R M) (hF : Stable R F) (hs : P s)
    (hdone : ∀ i t, P t → A ⟨proc, act⟩ i t → i.error = none → G t (change t) ∧ M (change t))
    (hthrown : ∀ i t e, P t → A ⟨proc, act⟩ i t → i.error = some e → i.effective = true →
      G t (change t) ∧ F (change t))
    (hwithout : ∀ i t e, P t → A ⟨proc, act⟩ i t → i.error = some e → i.effective = false → F t) :
    Guarded A R G (perform proc act change) (fun _ => M) (fun _ => F) s := by
  refine guarded_effect hP hs fun i t ht hA => ?_
  cases herror : i.error with
  | none =>
    obtain ⟨hchange, hafter⟩ := hdone i t ht hA herror
    rw [effective_none herror, if_pos rfl]
    exact ⟨hchange, guarded_ret hM hafter fun _ hu => hu⟩
  | some e =>
    cases heff : i.effective with
    | true =>
      obtain ⟨hchange, hafter⟩ := hthrown i t e ht hA herror heff
      rw [if_pos rfl]
      exact ⟨hchange, guarded_fail hF hafter fun _ hu => hu⟩
    | false =>
      rw [if_neg Bool.false_ne_true]
      exact ⟨hG t, guarded_fail hF (hwithout i t e ht hA herror heff) fun _ hu => hu⟩

theorem guarded_perform (hM : Stable R M) (hs : P s)
    (h : ∀ i t, P t → A ⟨proc, act⟩ i t → G t (change t) ∧ M (change t)) :
    Guarded A R G (perform proc act change) (fun _ => M) (fun _ t => P t ∨ M t) s := by
  have hF : Stable R fun t => P t ∨ M t := fun t u hR ht => ht.imp (hP t u hR) (hM t u hR)
  refine guarded_perform_cases hG hP hM hF hs (fun i t ht hA _ => h i t ht hA)
    (fun i t e ht hA _ _ => ?_) fun i t e ht _ _ _ => .inl ht
  obtain ⟨hchange, hafter⟩ := h i t ht hA
  exact ⟨hchange, .inr hafter⟩

theorem guarded_inquire {value : PreparationAnswer → α} (hs : P s) :
    Guarded A R G (inquire proc act value) (fun _ => P) (fun _ => P) s := by
  refine guarded_effect hP hs fun i t ht _ => ⟨hG t, ?_⟩
  cases herror : i.error with
  | none => exact guarded_ret hP ht fun _ hu => hu
  | some e => exact guarded_fail hP ht fun _ hu => hu

variable {M : DevicePreparationTransaction → PreparationSystem → Prop}

theorem guarded_load (hM : ∀ r, Stable R (M r)) (hs : P s)
    (h : ∀ t r, P t → t.transactions op = some r → r.operationId = op → M r t) :
    Guarded A R G (load proc op) (fun r t => P t ∧ M r t) (fun _ => P) s := by
  refine guarded_effect hP hs fun i t ht _ => ⟨hG t, ?_⟩
  cases herror : i.error with
  | some e => exact guarded_fail hP ht fun _ hu => hu
  | none =>
    cases hget : t.transactions op with
    | none => exact guarded_fail hP ht fun _ hu => hu
    | some r =>
      dsimp only
      split
      · next hid => exact guarded_ret (hP.and (hM r)) ⟨ht, h t r ht hget hid⟩ fun _ hu => hu
      · exact guarded_fail hP ht fun _ hu => hu

/-- A write under the lock. -/
theorem guarded_writeLocked {content} (hM : ∀ r, Stable R (M r)) (hs : P s)
    (h : ∀ i t r, P t → A ⟨proc, act⟩ i t → content i (t.transactions op) = .ok r →
      G t (t.store proc op r) ∧ M r (t.store proc op r)) :
    Guarded A R G (writeLocked proc act op content) M
      (fun e t => P t ∨ isRevisionConflict e = false ∧ ∃ r, M r t) s := by
  refine guarded_effect hP hs fun i t ht hA => ?_
  cases hcont : content i (t.transactions op) with
  | error e' =>
    refine ⟨hG t, ?_⟩
    cases herror : i.error with
    | none => exact guarded_fail hP ht fun _ => .inl
    | some e => exact guarded_fail hP ht fun _ => .inl
  | ok r =>
    obtain ⟨hstep, hafter⟩ := h i t r ht hA hcont
    cases herror : i.error with
    | none =>
      simp only [effective_none herror, if_true]
      exact ⟨hstep, guarded_ret (hM r) hafter fun _ hu => hu⟩
    | some e =>
      by_cases heff : i.effective = true
      · simp only [heff, if_true]
        exact ⟨hstep, guarded_fail (hM r) hafter fun _ hu =>
          .inr ⟨not_conflict_of_effective heff herror, r, hu⟩⟩
      · simp only [heff, Bool.false_eq_true, if_false]
        exact ⟨hG t, guarded_fail hP ht fun _ => .inl⟩

theorem guarded_updateAt {revision : Nat} {transition} (hM : ∀ r, Stable R (M r))
    (hs : P s) (h : ∀ i t current changed, P t → A ⟨proc, .update op revision⟩ i t →
      t.transactions op = some current → current.revision = revision →
      transition i.now current = .ok changed →
      Succeeds current changed.next → G t (t.store proc op changed.next) ∧
        M changed.next (t.store proc op changed.next)) :
    Guarded A R G (updateAt proc op revision transition) M
      (fun e t => P t ∨ isRevisionConflict e = false ∧ ∃ r, M r t) s := by
  refine guarded_writeLocked hG hP hM hs fun i t r ht hA hcont => ?_
  obtain ⟨current, changed, hget, hrev, hchg, rfl, hsucceeds⟩ := updated_ok hcont
  exact h i t current changed ht hA hget hrev hchg hsucceeds

/-- An update: it is tried again as long as the record changes in between. -/
theorem guarded_update {transition} [IsRely R] (hM : ∀ r, Stable R (M r)) (hs : P s)
    (h : ∀ i t current changed, P t → A ⟨proc, .update op current.revision⟩ i t →
      t.transactions op = some current → transition i.now current = .ok changed →
      Succeeds current changed.next → G t (t.store proc op changed.next) ∧
        M changed.next (t.store proc op changed.next)) :
    Guarded A R G (update proc op transition) M (fun _ t => P t ∨ ∃ r, M r t) s := by
  rw [update]
  generalize 16 = attempts
  induction attempts generalizing s with
  | zero => exact guarded_fail hP hs fun _ => .inl
  | succ attempts ih =>
    refine guarded_seq (M := fun _ => P) ?_ fun current t ht => ?_
    · exact (guarded_load hG hP (fun _ _ _ _ _ => trivial) hs
        fun _ _ _ _ _ => trivial).mono (fun _ _ hu => hu) (fun _ _ hu => hu.1)
          fun _ _ hu => .inl hu
    refine (guarded_handleError _ _).mpr ?_
    refine (guarded_updateAt hG hP hM ht fun i u current' changed hu hA hget hrev =>
      h i u current' changed hu (hrev ▸ hA) hget).mono_error fun e u hu => ?_
    rcases hu with hu | ⟨hconflict, r, hr⟩
    · -- nothing was written: a conflict is met by another attempt
      split
      · exact ih hu
      · exact guarded_fail hP hu fun _ => .inl
    · rw [hconflict, if_neg Bool.false_ne_true]
      exact guarded_fail (hM r) hr fun _ hv => .inr ⟨r, hv⟩

/-! ### Pruning -/

section prune

variable {M : DevicePreparationTransaction → PreparationSystem → Prop}

/-- What is learnt of a record survives the rest of the scan. -/
theorem guarded_scanTransactions [IsRely R] (hM : ∀ r, Stable R (M r)) (hs : P s)
    (h : ∀ t r, P t → t.transactions r.operationId = some r → M r t) (entries : List OperationId) :
    Guarded A R G (scanTransactions proc entries)
      (fun scan t => P t ∧ ∀ r ∈ scan.transactions, M r t) (fun _ => P) s := by
  induction entries generalizing P s with
  | nil => exact guarded_ret hP hs fun _ ht => ⟨ht, List.forall_mem_nil _⟩
  | cons op rest ih =>
    refine guarded_seq (M := fun entry t => P t ∧ ∀ r, entry = .ok r → M r t) ?_ ?_
    · refine (guarded_attempt _).mpr ((guarded_load hG hP hM hs ?_).mono (fun _ _ hu => hu)
        (fun r t ht => ⟨ht.1, ?_⟩) fun e t ht => ⟨ht, fun r hr => by cases hr⟩)
      · rintro t r ht hget rfl
        exact h t r ht hget
      · rintro r' ⟨⟩
        exact ht.2
    rintro (e | r) t ⟨ht, hentry⟩
    · cases e with
      | foreign => exact guarded_fail hP ht fun _ hu => hu
      | exception e =>
        refine guarded_seq (ih hP ht h) fun scan u hu => ?_
        exact guarded_ret (hP.and (stable_forall hM scan.transactions)) hu fun _ hv => hv
    · have hknown : Stable R fun u => P u ∧ M r u := hP.and (hM r)
      refine guarded_seq ((ih hknown ⟨ht, hentry r rfl⟩ fun u r' hu => h u r' hu.1).mono_error
          fun _ _ hu => hu.1) fun scan u hu => ?_
      refine guarded_ret (hP.and (stable_forall hM (r :: scan.transactions)))
        ⟨hu.1.1, ?_⟩ fun _ hv => hv
      rintro r' (_ | ⟨_, hr'⟩)
      · exact hu.1.2
      · exact hu.2 r' hr'

theorem guarded_pruneCompleted {cutoff : Int} {completedLimit : Nat} [IsRely R] (hs : P s)
    (index : Nat) (completed : List DevicePreparationTransaction)
    (h : ∀ i t r, P t → A ⟨proc, .removeTransaction r.operationId⟩ i t → r ∈ completed →
      G t (t.prune r.operationId) ∧ P (t.prune r.operationId)) :
    Guarded A R G (pruneCompleted proc cutoff completedLimit index completed) (fun _ => P)
      (fun _ => P) s := by
  induction completed generalizing index s with
  | nil => exact guarded_ret hP hs fun _ ht => ht
  | cons r rest ih =>
    have hrest := fun i t r' ht hA (hr' : r' ∈ rest) => h i t r' ht hA (List.mem_cons_of_mem r hr')
    rw [pruneCompleted]
    split
    · refine guarded_seq (M := fun _ => P) ?_ fun _ t ht => ?_
      · refine (guarded_handleError _ _).mpr ?_
        refine (guarded_perform hG hP hP hs fun i t ht hA =>
          h i t r ht hA List.mem_cons_self).mono_error fun e t ht => ?_
        exact guarded_fail hP (ht.elim id id) fun _ hu => hu
      · exact guarded_seq (ih ht (index + 1) hrest) fun removed u hu =>
          guarded_ret hP hu fun _ hv => hv
    · exact ih hs (index + 1) hrest

/-- A scan of the store: what is learnt of each record must not depend on what is
removed, and only terminal records are. -/
theorem guarded_loadAndPrune {retention : Retention} [IsRely R] (hM : ∀ r, Stable R (M r))
    (hs : P s) (h : ∀ t r, P t → t.transactions r.operationId = some r → M r t)
    (hprune : ∀ i t r, P t → A ⟨proc, .removeTransaction r.operationId⟩ i t → M r t →
      terminal r = true → G t (t.prune r.operationId) ∧ P (t.prune r.operationId))
    (hkeeps : ∀ t r op, M r t → M r (t.prune op)) : Guarded A R G (loadAndPrune proc retention)
      (fun scan t => P t ∧ ∀ r ∈ scan.transactions, M r t) (fun _ => P) s := by
  refine guarded_seq (guarded_inquire hG hP hs) fun entries t ht => ?_
  refine guarded_seq (guarded_scanTransactions hG hP hM ht h entries) fun scan t ht => ?_
  have hknown := hP.and (stable_forall hM scan.transactions)
  have hless : ∀ t, (P t ∧ ∀ r ∈ scan.transactions, M r t) → P t := fun _ hu => hu.1
  refine guarded_seq ((guarded_inquire hG hknown ht).mono_error
    fun _ _ => hless _) fun now t ht => ?_
  refine guarded_seq (M := fun _ t => P t ∧ ∀ r ∈ scan.transactions, M r t) ?_
    fun removed t ht => ?_
  · refine (guarded_pruneCompleted hG hknown ht 0 _ fun i t r ht hA hr => ?_).mono_error
      fun _ _ => hless _
    obtain ⟨hr, hterm⟩ := mem_completedTransactions.mp hr
    obtain ⟨hstep, hafter⟩ := hprune i t r ht.1 hA (ht.2 r hr) hterm
    exact ⟨hstep, hafter, fun r' hr' => hkeeps t r' _ (ht.2 r' hr')⟩
  · refine guarded_seq (M := fun _ t => P t ∧ ∀ r ∈ scan.transactions, M r t) ?_ fun _ t ht => ?_
    · split
      · exact (guarded_perform hG hknown hknown ht fun i t ht _ => ⟨hG t, ht⟩).mono_error
          fun _ _ hu => hless _ (hu.elim id id)
      · exact guarded_ret hknown ht fun _ hu => hu
    · refine guarded_ret hknown ht fun t ht => ⟨ht.1, fun r hr => ?_⟩
      exact ht.2 r (List.mem_of_mem_filter hr)

end prune

/-! ### Reservations -/

section reservations

variable {pid : ProfileId}

theorem within_perform (hchange : ∀ t, P t → G t (change t) ∧ P (change t)) :
    Within A R G P (perform proc act change) := fun _ hs =>
  (guarded_perform hG hP hP hs fun _ t ht _ => hchange t ht).mono_error fun _ _ hu => hu.elim id id

theorem within_readReservation : Within A R G P (readReservation proc pid) :=
  within_effect hP (fun _ t ht _ => ⟨hG t, ht⟩) fun i t _ _ => by
    cases i.error with
    | some e => exact within_fail hP
    | none =>
      dsimp only
      split
      · exact within_ret hP
      · exact within_ret hP
      · exact within_fail hP

section

variable (hset : ∀ t file, P t → G t (t.setReservation pid file) ∧ P (t.setReservation pid file))
include hset

/-- Releasing a profile only changes reservations. -/
theorem within_releaseProfile [IsRely R] : Within A R G P (releaseProfile proc pid op) := by
  refine (within_readReservation hG hP).seq fun owner => ?_
  cases owner with
  | none => exact within_ret hP
  | some owner =>
    refine Within.seq (within_ite (within_ret hP) (within_fail hP)) fun _ => ?_
    refine (within_perform hG hP fun t => hset t none).seq fun _ => ?_
    exact within_perform hG hP fun t ht => ⟨hG t, ht⟩

/-- Reserving a profile only changes reservations. -/
theorem within_reserveProfile [IsRely R] : Within A R G P (reserveProfile proc pid op) := by
  refine Within.seq ?_ fun created => within_ite ?_ ?_
  · refine within_effect hP (fun i t ht _ => ?_) fun i t _ _ => ?_
    · split
      · exact hset t _ ht
      · exact ⟨hG t, ht⟩
    · cases i.error with
      | some e => exact within_fail hP
      | none => exact within_ret hP
  · refine Within.handleError ?_ fun e => ?_
    · refine (within_perform hG hP fun t ht => ?_).seq fun _ => ?_
      · split
        · exact hset t _ ht
        · exact ⟨hG t, ht⟩
      · refine (within_perform hG hP fun t ht => ⟨hG t, ht⟩).seq fun _ => ?_
        exact within_perform hG hP fun t ht => ⟨hG t, ht⟩
    · refine Within.seq ?_ fun _ => within_fail hP
      refine Within.seq ?_ fun _ => within_ret hP
      exact (within_perform hG hP fun t => hset t none).attempt
  · exact (within_readReservation hG hP).seq fun _ =>
      within_ite (within_ret hP) (within_fail hP)

end

end reservations

end rules

end Preparation

end BtrfsBackup
