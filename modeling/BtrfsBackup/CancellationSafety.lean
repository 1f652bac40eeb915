/-
What an accepted request to cancel a run is worth.

A request for a run is settled once the run is closing, its token is cancelled,
or the `cancel-request` file names it.  All requests share that file: a slow
canceller of an older run may overwrite or remove the accepted request of the
run that is active now.  As long as no canceller does that, an accepted request
stays settled.  Whatever the cancellers do, a run is only cancelled by a request
that names it.

* `Progress` — what no step may undo; the runs and the cancellers rely on it;
* `accepted_settled` — accepted requests stay settled, and tokens are cancelled
  only by requests for their own run;
* `Sample.overwritten_request` — an accepted request that is lost.
-/
import BtrfsBackup.RunCancellation

open Interaction Interaction.Prog

namespace BtrfsBackup

namespace Cancellation

/-- The run is closing, its token is cancelled, or its next poll cancels it. -/
def Settled (run : RunId) (state : CancellationState) : Prop :=
  state.closing run = true ∨ state.cancelled run = true ∨ state.cancelRequest = some run

instance (run : RunId) (state : CancellationState) : Decidable (Settled run state) :=
  inferInstanceAs (Decidable (_ ∨ _))

/-- The `cancel-request` file holds no request of another run that is still to be
served. -/
def leavesOthers (run : RunId) (state : CancellationState) : Bool :=
  match state.cancelRequest with
  | none => true
  | some other => decide (other = run) || state.closing other || state.cancelled other

/-- A canceller neither overwrites nor removes the request of another run that
is still to be served, and its second look at the active run does not fail. -/
def Considerate : CancellationCall → FileAnswer → CancellationState → Prop
  | .writeCancelRequest run, _, state => leavesOthers run state = true
  | .withdrawCancelRequest run, _, state => leavesOthers run state = true
  | .confirmActiveRun _, answer, _ => answer.error = none
  | _, _, _ => True

instance (call : CancellationCall) (answer : FileAnswer) (state : CancellationState) :
    Decidable (Considerate call answer state) :=
  match call with
  | .writeCancelRequest run => inferInstanceAs (Decidable (leavesOthers run state = true))
  | .withdrawCancelRequest run => inferInstanceAs (Decidable (leavesOthers run state = true))
  | .confirmActiveRun _ => inferInstanceAs (Decidable (answer.error = none))
  | .readActiveRun => isTrue trivial
  | .readCancelRequest => isTrue trivial
  | .registerRun _ => isTrue trivial
  | .closeRun _ => isTrue trivial

/-! ### What no step undoes -/

/-- The run was the active one. -/
def Seen (run : RunId) (state : CancellationState) : Prop :=
  state.activeRun = some run ∨ state.closing run = true

/-- Requests are written for runs that were active. -/
def Named (state : CancellationState) : Prop :=
  ∀ run, state.cancelRequest = some run → Seen run state

/-- What the steps of all parties keep. -/
structure Progress (s t : CancellationState) : Prop where
  settled : ∀ run, Settled run s → Settled run t
  seen : ∀ run, Seen run s → Seen run t
  closing : ∀ run, s.closing run = true → t.closing run = true
  named : Named s → Named t

theorem progress_refl (s : CancellationState) : Progress s s :=
  ⟨fun _ h => h, fun _ h => h, fun _ h => h, fun h => h⟩

theorem Progress.trans {s t u} (h : Progress s t) (h' : Progress t u) :
    Progress s u where
  settled run hs := h'.settled run (h.settled run hs)
  seen run hs := h'.seen run (h.seen run hs)
  closing run hs := h'.closing run (h.closing run hs)
  named hs := h'.named (h.named hs)

/-- What the cancellers leave to the runs. -/
structure Aside (s t : CancellationState) : Prop extends Progress s t where
  activeRun : t.activeRun = s.activeRun
  closing_eq : t.closing = s.closing

instance isRely_progress : IsRely Progress := ⟨progress_refl, Progress.trans⟩

theorem aside_refl (s : CancellationState) : Aside s s := ⟨progress_refl s, rfl, rfl⟩

instance isRely_aside : IsRely Aside where
  refl := aside_refl
  trans h h' := ⟨h.toProgress.trans h'.toProgress, h'.activeRun.trans h.activeRun,
    h'.closing_eq.trans h.closing_eq⟩

/-! ### Rules for the operations -/

section rules

variable {A : CancellationCall → FileAnswer → CancellationState → Prop}
  {R G : CancellationState → CancellationState → Prop} {P M : CancellationState → Prop}
  {E : Thrown → CancellationState → Prop} {s : CancellationState} {call : CancellationCall}
  {run : RunId}

theorem guarded_changeFile {change} (hG : ∀ t, G t t) (hP : Stable R P)
    (hM : Stable R M) (hs : P s) (h : ∀ i t, P t → A call i t → G t (change t) ∧ M (change t)) :
    Guarded A R G (changeFile call change) (fun _ => M) (fun _ t => P t ∨ M t) s := by
  refine guarded_effect hP hs fun i t ht hA => ?_
  obtain ⟨hchange, hafter⟩ := h i t ht hA
  cases herror : i.error with
  | none =>
    simp only [Option.isNone_none, Bool.true_or, if_true]
    exact ⟨hchange, guarded_ret hM hafter fun _ hu => hu⟩
  | some e =>
    -- an operation that throws may or may not have changed the file
    by_cases htook : i.took = true
    · simp only [htook, Bool.or_true, if_true]
      exact ⟨hchange, guarded_fail hM hafter fun _ => .inr⟩
    · simp only [htook, Option.isNone_some, Bool.false_or, Bool.false_eq_true, if_false]
      exact ⟨hG t, guarded_fail hP ht fun _ => .inl⟩

theorem guarded_cancelRequested (hG : ∀ t, G t t) (hP : Stable R P) (hs : P s)
    (hM : Stable R M) (h : ∀ t, P t → t.cancelRequest = some run → M t) :
    Guarded A R G (cancelRequested run) (fun named t => P t ∧ (named = true → M t)) E s := by
  refine guarded_effect hP hs fun i t ht _ => ⟨hG t, ?_⟩
  refine guarded_ret ?_ ⟨ht, fun hnamed => ?_⟩ fun _ hu => hu
  · exact fun u v hR hu => ⟨hP u v hR hu.1, fun hnamed => hM u v hR (hu.2 hnamed)⟩
  · rw [Bool.and_eq_true, decide_eq_true_eq] at hnamed
    exact h t ht hnamed.2

theorem guarded_clearCancelRequest [IsRely R]
    (hG : ∀ t, G t t) (hP : Stable R P) (hs : P s) (h : ∀ i t, P t → A call i t →
      G t { t with cancelRequest := none } ∧ P { t with cancelRequest := none }) :
    Guarded A R G (clearCancelRequest call run) (fun _ => P) (fun _ => P) s := by
  refine guarded_seq (guarded_cancelRequested hG hP hs hP fun _ ht _ => ht) fun named t ht => ?_
  cases named with
  | true =>
    exact (guarded_changeFile hG hP hP ht.1 h).mono_error fun _ _ hu => hu.elim id id
  | false => exact guarded_ret hP ht.1 fun _ hu => hu

/-- A look at the active run. -/
theorem guarded_activeRun {N}
    (hG : ∀ t, G t t) (hP : Stable R P) (hs : P s) (hN : ∀ current, Stable R (N current))
    (h : ∀ i t, P t → A call i t → N (if i.error.isSome then none else t.activeRun) t) :
    Guarded A R G (activeRun call) N E s := by
  refine guarded_effect hP hs fun i t ht hA => ⟨hG t, ?_⟩
  exact guarded_ret (hN _) (h i t ht hA) fun _ hu => hu

end rules

/-! ### The cancellers -/

section canceller

variable {run : RunId} {s : CancellationState} {t : CancellationState}

theorem settled_of_leavesOthers (h : leavesOthers run t = true) {req requested} {other : RunId}
    (hne : other ≠ run) (hset : Settled other t) :
    Settled other { t with cancelRequest := req, requested := requested } := by
  rcases hset with hclo | hcanc | hfile
  · exact .inl hclo
  · exact .inr (.inl hcanc)
  · rw [leavesOthers, hfile] at h
    simp only [Bool.or_eq_true, decide_eq_true_eq] at h
    rcases h with (heq | hclo) | hcanc
    · exact absurd heq hne
    · exact .inl hclo
    · exact .inr (.inl hcanc)

/-- A canceller that does not leave the file alone unsettles the run it names. -/
theorem unsettles_of_not_leavesOthers {other : RunId} (h : leavesOthers run t = false)
    (hfile : t.cancelRequest = some other) : Settled other t ∧
      ∀ req, req = none ∨ req = some run → ¬ Settled other { t with cancelRequest := req } := by
  rw [leavesOthers, hfile] at h
  simp only [Bool.or_eq_false_iff, decide_eq_false_iff_not] at h
  obtain ⟨⟨hne, hclo⟩, hcanc⟩ := h
  refine ⟨.inr (.inr hfile), fun req hrequest hset => ?_⟩
  rcases hset with hclosed | htoken | hnamed
  · rw [hclo] at hclosed
    cases hclosed
  · rw [hcanc] at htoken
    cases htoken
  · rcases hrequest with rfl | rfl
    · cases hnamed
    · exact hne (Option.some.inj hnamed).symm

/-- A request is written without loss of another one. -/
theorem aside_write (h : leavesOthers run t = true) (hseen : Seen run t) :
    Aside t { t with cancelRequest := some run, requested := run :: t.requested } where
  settled other hother := by
    by_cases heq : other = run
    · exact .inr (.inr (by rw [heq]))
    · exact settled_of_leavesOthers h heq hother
  seen _ hother := hother
  closing _ hother := hother
  named _ other hother := by
    cases hother
    exact hseen
  activeRun := rfl
  closing_eq := rfl

/-- The request of a run that is closing is removed. -/
theorem aside_withdraw (h : leavesOthers run t = true)
    (hclo : t.closing run = true) : Aside t { t with cancelRequest := none } where
  settled other hother := by
    by_cases heq : other = run
    · exact .inl (by rw [heq]; exact hclo)
    · exact settled_of_leavesOthers h heq hother
  seen _ hother := hother
  closing _ hother := hother
  named _ other hother := nomatch hother
  activeRun := rfl
  closing_eq := rfl

theorem guarded_withdraw (outcome : CancellationRequestOutcome) (hs : s.closing run = true) :
    Guarded Considerate Progress Aside (withdraw run outcome)
      (fun result t => result = outcome ∧ t.closing run = true) (fun _ _ => True) s := by
  have hstab : Stable Progress fun t => t.closing run = true := fun _ _ hR ht => hR.closing run ht
  refine guarded_seq (M := fun _ t => t.closing run = true) ?_ fun _ t ht => ?_
  · exact (guarded_clearCancelRequest aside_refl hstab hs fun _ t ht hA =>
      ⟨aside_withdraw hA ht, ht⟩).mono_error fun _ _ _ => trivial
  · exact guarded_ret hstab ht fun _ hu => ⟨rfl, hu⟩

/-- After the request is written, the run is active or has started to close. -/
theorem guarded_confirmCancel (hs : Seen run s ∧ Settled run s) :
    Guarded Considerate Progress Aside (confirmCancel run)
      (fun outcome t => outcome = .accepted → Settled run t) (fun _ _ => True) s := by
  have hstab : Stable Progress fun t => Seen run t ∧ Settled run t :=
    fun _ _ hR ht => ⟨hR.seen run ht.1, hR.settled run ht.2⟩
  have hgone : Stable Progress fun t => t.closing run = true := fun _ _ hR ht => hR.closing run ht
  refine guarded_seq
    (guarded_activeRun (N := fun confirmed t => if confirmed = some run then Settled run t
      else t.closing run = true) aside_refl hstab hs ?_ ?_) ?_
  · intro confirmed t u hR ht
    split at ht
    · next hsame => rw [if_pos hsame]; exact hR.settled run ht
    · next hother => rw [if_neg hother]; exact hR.closing run ht
  · intro i t ht hA
    -- the look succeeds, so a run that is not active has started to close
    rw [show i.error = none from hA]
    simp only [Option.isSome_none, Bool.false_eq_true, if_false]
    split
    · exact ht.2
    · next hother => exact ht.1.resolve_left hother
  · intro confirmed t ht
    have hwithdraw : ∀ outcome, t.closing run = true → outcome ≠ .accepted →
        Guarded Considerate Progress Aside (withdraw run outcome)
          (fun outcome t => outcome = .accepted → Settled run t) (fun _ _ => True) t :=
      fun outcome hclo hne => (guarded_withdraw outcome hclo).mono_result
        fun _ _ h heq => absurd (h.1.symm.trans heq) hne
    cases confirmed with
    | none => exact hwithdraw _ ht nofun
    | some other =>
      by_cases hne : other = run
      · subst hne
        simp only [ne_eq, not_true_eq_false, if_false]
        exact guarded_ret (fun _ _ hR => hR.settled other) (by simpa using ht) fun _ hu _ => hu
      · simp only [ne_eq, hne, not_false_eq_true, if_true]
        exact hwithdraw _ (by simpa [hne] using ht) nofun

/-- A canceller whose request is accepted leaves it settled. -/
theorem guarded_requestCancel : Guarded Considerate Progress Aside (requestCancel run)
      (fun outcome t => outcome = .accepted → Settled run t) (fun _ _ => True) s := by
  have hseen : ∀ other, Stable Progress fun t => Seen other t :=
    fun other _ _ hR ht => hR.seen other ht
  refine guarded_seq
    (guarded_activeRun (P := fun _ => True) (N := fun active t => active = some run → Seen run t)
      aside_refl (fun _ _ _ h => h) trivial (fun _ _ _ hR ht heq => hR.seen run (ht heq)) ?_) ?_
  · intro i t _ _ heq
    split at heq
    · cases heq
    · exact .inl heq
  · intro active t ht
    have hrefused : ∀ outcome : CancellationRequestOutcome, outcome ≠ .accepted →
        Guarded Considerate Progress Aside
          (.ret outcome : CancellationProg CancellationRequestOutcome)
          (fun outcome t => outcome = .accepted → Settled run t) (fun _ _ => True) t :=
      fun outcome hne u _ heq => absurd heq hne
    cases active with
    | none => exact hrefused _ nofun
    | some other =>
      by_cases hne : other = run
      · subst hne
        simp only [ne_eq, not_true_eq_false, if_false]
        refine guarded_seq ?_ fun _ u hu => guarded_confirmCancel hu
        refine (guarded_changeFile
          aside_refl (hseen other) (fun _ _ hR hu => ⟨hR.seen other hu.1, hR.settled other hu.2⟩)
          (ht rfl) fun i u hu hA => ?_).mono_error fun _ _ _ => trivial
        exact ⟨aside_write hA hu, hu, .inr (.inr rfl)⟩
      · simp only [ne_eq, hne, not_false_eq_true, if_true]
        exact hrefused _ nofun

end canceller

/-! ### The runs -/

/-- Any run that is named as active is this one, or has started to close. -/
def Running (run : RunId) (state : CancellationState) : Prop :=
  Named state ∧ ∀ other, state.activeRun = some other → other = run ∨ state.closing other = true

/-- Any run that is named as active has started to close. -/
def Idle (state : CancellationState) : Prop :=
  Named state ∧ ∀ other, state.activeRun = some other → state.closing other = true

section runs

variable {A : CancellationCall → FileAnswer → CancellationState → Prop} {run : RunId}
  {s : CancellationState}

theorem stable_active (P : RunId → (RunId → Bool) → Prop) : Stable Aside fun state =>
    Named state ∧ ∀ other, state.activeRun = some other → P other state.closing := by
  rintro s t hR ⟨hnamed, hactive⟩
  refine ⟨hR.named hnamed, ?_⟩
  rwa [hR.activeRun, hR.closing_eq]

theorem stable_running : Stable Aside (Running run) :=
  stable_active fun other closing => other = run ∨ closing other = true

theorem stable_idle : Stable Aside Idle := stable_active fun other closing => closing other = true

theorem update_true {flags} {other : RunId} (h : flags other = true) :
    Function.update flags run true other = true := by
  by_cases heq : other = run
  · rw [heq, Function.update_self]
  · rw [Function.update_of_ne heq, h]

variable {t : CancellationState}

theorem Idle.running (h : Idle t) : Running run t :=
  ⟨h.1, fun other hother => .inr (h.2 other hother)⟩

theorem Idle.closing_of_seen (h : Idle t) {other : RunId}
    (hseen : Seen other t) : t.closing other = true :=
  hseen.elim (h.2 other) id

/-- No request that is still to be served is removed between two runs. -/
theorem progress_removeRequest (h : Idle t) :
    Progress t { t with cancelRequest := none } where
  settled other hother := by
    rcases hother with hclo | hcanc | hfile
    · exact .inl hclo
    · exact .inr (.inl hcanc)
    · exact .inl (h.closing_of_seen (h.1 other hfile))
  seen _ hother := hother
  closing _ hother := hother
  named _ other hother := nomatch hother

/-- Between two runs the active run may be replaced. -/
theorem progress_setActive (h : Idle t) (active : Option RunId) :
    Progress t { t with activeRun := active } where
  settled _ hother := hother
  seen _ hother := .inr (h.closing_of_seen hother)
  closing _ hother := hother
  named _ other hother := .inr (h.closing_of_seen (h.1 other hother))

theorem guarded_startClosing (hs : Running run s) :
    Guarded A Aside Progress (startClosing run) (fun _ => Idle) (fun _ => Idle) s := by
  refine guarded_note stable_running hs fun t ht => ?_
  have hseen : ∀ other, Seen other t →
      Seen other { t with closing := Function.update t.closing run true } :=
    fun other hother => hother.imp id update_true
  constructor
  · exact ⟨fun other hother => hother.imp update_true id, hseen, fun _ => update_true,
      fun hnamed other hother => hseen other (hnamed other hother)⟩
  · refine guarded_ret stable_idle ⟨fun other hother => hseen other (ht.1 other hother),
      fun other hother => ?_⟩ fun _ hu => hu
    rcases ht.2 other hother with heq | hother
    · show Function.update t.closing run true other = true
      rw [heq, Function.update_self]
    · exact update_true hother

theorem guarded_clearActiveRun (hs : Idle s) :
    Guarded A Aside Progress (clearActiveRun run) (fun _ => Idle) (fun _ => Idle) s := by
  refine guarded_seq (guarded_activeRun progress_refl stable_idle
    hs (fun _ => stable_idle) fun _ _ ht _ => ht) fun current t ht => ?_
  split
  · refine (guarded_changeFile progress_refl stable_idle stable_idle ht fun _ u hu _ =>
      ⟨progress_setActive hu none, ?_⟩).mono_error fun _ _ h => h.elim id id
    exact ⟨(progress_setActive hu none).named hu.1, fun _ hother => nomatch hother⟩
  · exact guarded_ret stable_idle ht fun _ hu => hu

theorem guarded_dropRegistration {e : Thrown} (hs : Running run s) :
    Guarded A Aside Progress (dropRegistration run e) (fun _ => Running run) (fun _ => Idle) s := by
  refine guarded_seq (guarded_startClosing hs) fun _ t ht => ?_
  refine guarded_seq (M := fun _ => Idle)
    ((guarded_attempt _).mpr (guarded_clearActiveRun ht)) fun _ u hu => ?_
  exact guarded_fail stable_idle hu fun _ hv => hv

theorem guarded_registerActiveRun (hs : Idle s) :
    Guarded A Aside Progress (registerActiveRun run) (fun _ => Running run) (fun _ => Idle) s := by
  rw [registerActiveRun, guarded_handleError]
  refine guarded_seq (M := fun _ => Idle) ?_ fun _ t ht => ?_
  · -- the old request is removed
    refine (guarded_changeFile progress_refl stable_idle stable_idle hs fun _ t ht _ =>
      ⟨progress_removeRequest ht, ?_⟩).mono_error ?_
    · exact ⟨(progress_removeRequest ht).named ht.1, ht.2⟩
    · exact fun e t ht => guarded_dropRegistration (ht.elim Idle.running Idle.running)
  · -- the run becomes the active one
    refine (guarded_changeFile progress_refl stable_idle stable_running ht fun _ u hu _ =>
      ⟨progress_setActive hu (some run), ?_⟩).mono_error ?_
    · refine ⟨(progress_setActive hu (some run)).named hu.1, fun other hother => .inl ?_⟩
      exact (Option.some.inj hother).symm
    · exact fun e t ht => guarded_dropRegistration (ht.elim Idle.running id)

theorem guarded_poll {E} (polls : Nat) (hs : Running run s) :
    Guarded A Aside Progress (poll run polls) (fun _ => Running run) E s := by
  induction polls generalizing s with
  | zero => exact guarded_ret stable_running hs fun _ ht => ht
  | succ polls ih =>
    refine guarded_seq (guarded_cancelRequested progress_refl stable_running hs
      stable_running fun _ ht _ => ht) fun requested t ht => ?_
    cases requested with
    | false => exact ih ht.1
    | true =>
      exact guarded_note stable_running ht.1 fun u hu => ⟨⟨fun other hother =>
        hother.imp id (Or.imp update_true id), fun _ h => h, fun _ h => h, fun h => h⟩,
        guarded_ret stable_running hu fun _ hv => hv⟩

theorem guarded_closeRun (hs : Running run s) :
    Guarded A Aside Progress (closeRun run) (fun _ => Idle) (fun _ => Idle) s := by
  refine guarded_seq (guarded_startClosing hs) fun _ t ht => ?_
  refine guarded_seq (M := fun _ => Idle)
    ((guarded_attempt _).mpr (guarded_clearActiveRun ht)) fun _ u hu => ?_
  refine guarded_seq (M := fun _ => Idle)
    ((guarded_attempt _).mpr (guarded_clearCancelRequest progress_refl stable_idle hu
      fun _ v hv _ => ⟨progress_removeRequest hv, ?_⟩)) fun _ v hv => ?_
  · exact ⟨(progress_removeRequest hv).named hv.1, hv.2⟩
  · exact guarded_ret stable_idle hv fun _ hw => hw

/-- Runs one after the other. -/
theorem guarded_successiveRuns (runs : List (RunId × Nat)) (hs : Idle s) :
    Guarded A Aside Progress (successiveRuns runs) (fun _ => Idle) (fun _ _ => True) s := by
  refine guarded_forEach (I := fun _ => Idle) stable_idle hs fun run _ t ht => ?_
  rw [performRun, guarded_handleError]
  have hover : ∀ (_ : Thrown) u, Idle u → Guarded A Aside Progress (.ret () : CancellationProg Unit)
      (fun _ => Idle) (fun _ _ => True) u :=
    fun _ u hu => guarded_ret stable_idle hu fun _ hv => hv
  refine guarded_seq ((guarded_registerActiveRun ht).mono_error hover) fun _ u hu => ?_
  refine guarded_seq (guarded_poll run.2 hu) fun _ v hv => ?_
  exact (guarded_closeRun hv).mono_error hover

end runs

/-! ### Tokens -/

/-- Only runs for which a canceller wrote a request are named in the file or
cancelled. -/
structure Recorded (requests : Nat → RunId) (state : CancellationState) : Prop where
  named : ∀ run, state.cancelRequest = some run → run ∈ state.requested
  cancelled : ∀ run, state.cancelled run = true → run ∈ state.requested
  written : ∀ run ∈ state.requested, ∃ number, requests number = run

/-- What every step does to the requests: they are not forgotten. -/
structure Records (requests : Nat → RunId) (s t : CancellationState) : Prop where
  requested : s.requested ⊆ t.requested
  recorded : Recorded requests s → Recorded requests t

/-- Any answers. -/
def Anything (_ : CancellationCall) (_ : FileAnswer) (_ : CancellationState) : Prop := True

/-- A program that keeps its requests on record. -/
abbrev KeepsRecord (requests : Nat → RunId) {α : Type} (program : CancellationProg α) : Prop :=
  Within Anything (Records requests) (Records requests) (Recorded requests) program

section tokens

variable {reqs : Nat → RunId} {run : RunId}

instance isRely_records : IsRely (Records requests) where
  refl _ := ⟨List.Subset.refl _, id⟩
  trans h h' := ⟨List.Subset.trans h.requested h'.requested, fun hs => h'.recorded (h.recorded hs)⟩

theorem stable_recorded : Stable (Records reqs) (Recorded reqs) := fun _ _ h => h.recorded

/-- A change that writes no request and cancels no token. -/
theorem records_of_eq {s t} (hrequested : t.requested = s.requested)
    (hfile : ∀ run, t.cancelRequest = some run → s.cancelRequest = some run)
    (hcanc : t.cancelled = s.cancelled) : Records reqs s t where
  requested := by rw [hrequested]; exact List.Subset.refl _
  recorded h := by
    refine ⟨fun run hrun => ?_, fun run hrun => ?_, fun run hrun => ?_⟩
    · rw [hrequested]
      exact h.named run (hfile run hrun)
    · rw [hrequested]
      exact h.cancelled run (hcanc ▸ hrun)
    · exact h.written run (hrequested ▸ hrun)

variable {call : CancellationCall}

theorem keepsRecord_changeFile {change}
    (h : ∀ t, Records reqs t (change t)) : KeepsRecord reqs (changeFile call change) := by
  refine within_effect stable_recorded (fun i t ht _ => ?_) fun i t _ _ => ?_
  · have hstep : Records reqs t (if i.error.isNone || i.took then change t else t) := by
      split
      · exact h t
      · exact isRely_records.refl t
    exact ⟨hstep, hstep.recorded ht⟩
  · cases i.error with
    | none => exact within_ret stable_recorded
    | some e => exact within_fail stable_recorded

theorem keepsRecord_activeRun : KeepsRecord reqs (activeRun call) :=
  within_effect stable_recorded (fun _ t ht _ => ⟨isRely_records.refl t, ht⟩)
    fun _ _ _ _ => within_ret stable_recorded

theorem keepsRecord_cancelRequested : KeepsRecord reqs (cancelRequested run) :=
  within_effect stable_recorded (fun _ t ht _ => ⟨isRely_records.refl t, ht⟩)
    fun _ _ _ _ => within_ret stable_recorded

theorem keepsRecord_removeCancelRequest : KeepsRecord reqs (removeCancelRequest call) :=
  keepsRecord_changeFile fun _ => records_of_eq rfl nofun rfl

theorem keepsRecord_clearCancelRequest : KeepsRecord reqs (clearCancelRequest call run) :=
  keepsRecord_cancelRequested.bind fun _ =>
    within_ite keepsRecord_removeCancelRequest (within_ret stable_recorded)

theorem keepsRecord_clearActiveRun : KeepsRecord reqs (clearActiveRun run) :=
  keepsRecord_activeRun.bind fun _ => within_ite
    (keepsRecord_changeFile fun _ => records_of_eq rfl (fun _ h => h) rfl)
    (within_ret stable_recorded)

theorem keepsRecord_withdraw {outcome} : KeepsRecord reqs (withdraw run outcome) :=
  keepsRecord_clearCancelRequest.bind fun _ => within_ret stable_recorded

theorem keepsRecord_confirmCancel : KeepsRecord reqs (confirmCancel run) := by
  refine keepsRecord_activeRun.bind fun confirmed => ?_
  cases confirmed with
  | none => exact keepsRecord_withdraw
  | some other => exact within_ite keepsRecord_withdraw (within_ret stable_recorded)

theorem keepsRecord_requestCancel (hrun : ∃ number, reqs number = run) :
    KeepsRecord reqs (requestCancel run) := by
  refine keepsRecord_activeRun.bind fun active => ?_
  cases active with
  | none => exact within_ret stable_recorded
  | some other =>
    refine within_ite (within_ret stable_recorded)
      (Within.bind ?_ fun _ => keepsRecord_confirmCancel)
    -- the one step that writes a request
    refine keepsRecord_changeFile fun t => ⟨List.subset_cons_self _ _, fun h => ⟨?_, ?_, ?_⟩⟩
    · intro other hother
      cases hother
      exact List.mem_cons_self
    · intro other hother
      exact List.mem_cons_of_mem _ (h.cancelled other hother)
    · intro other hother
      rcases List.mem_cons.mp hother with heq | hother
      · exact heq ▸ hrun
      · exact h.written other hother

theorem keepsRecord_startClosing : KeepsRecord reqs (startClosing run) :=
  within_note stable_recorded (fun t ht => by
    have hstep : Records reqs t { t with closing := Function.update t.closing run true } :=
      records_of_eq rfl (fun _ h => h) rfl
    exact ⟨hstep, hstep.recorded ht⟩) (within_ret stable_recorded)

theorem keepsRecord_registerActiveRun : KeepsRecord reqs (registerActiveRun run) := by
  refine Within.handleError ?_ fun e => ?_
  · exact keepsRecord_removeCancelRequest.bind fun _ =>
      keepsRecord_changeFile fun _ => records_of_eq rfl (fun _ h => h) rfl
  · exact keepsRecord_startClosing.bind fun _ =>
      keepsRecord_clearActiveRun.attempt.bind fun _ => within_fail stable_recorded

/-- A poll that cancels the token found a request for its own run. -/
theorem keepsRecord_poll (polls : Nat) : KeepsRecord reqs (poll run polls) := by
  induction polls with
  | zero => exact within_ret stable_recorded
  | succ polls ih =>
    intro s hs
    have hrequested : Stable (Records reqs) fun t => run ∈ t.requested :=
      fun _ _ h ht => h.requested ht
    refine guarded_seq (guarded_cancelRequested isRely_records.refl stable_recorded hs
      hrequested fun t ht => ht.named run) fun requested t ht => ?_
    cases requested with
    | false => exact ih t ht.1
    | true =>
      refine guarded_note (stable_recorded.and hrequested) ⟨ht.1, ht.2 rfl⟩ fun u hu => ?_
      have hstep : Recorded reqs { u with cancelled := Function.update u.cancelled run true } := by
        refine ⟨hu.1.named, fun other hother => ?_, hu.1.written⟩
        by_cases heq : other = run
        · rw [heq]
          exact hu.2
        · have hcanc : Function.update u.cancelled run true other = true := hother
          rw [Function.update_of_ne heq] at hcanc
          exact hu.1.cancelled other hcanc
      exact ⟨⟨List.Subset.refl _, fun _ => hstep⟩, guarded_ret stable_recorded hstep fun _ hv => hv⟩

theorem keepsRecord_closeRun : KeepsRecord reqs (closeRun run) :=
  keepsRecord_startClosing.bind fun _ =>
    keepsRecord_clearActiveRun.attempt.bind fun _ =>
      keepsRecord_clearCancelRequest.attempt.bind fun _ => within_ret stable_recorded

theorem keepsRecord_successiveRuns (runs : List (RunId × Nat)) :
    KeepsRecord reqs (successiveRuns runs) := by
  refine within_forEach stable_recorded runs fun run _ => ?_
  refine Within.handleError ?_ fun _ => within_ret stable_recorded
  exact keepsRecord_registerActiveRun.bind fun _ =>
    (keepsRecord_poll run.2).bind fun _ => keepsRecord_closeRun

end tokens

/-! ### The protocol -/

/-- What the parties rely on. -/
def relies : Party → CancellationState → CancellationState → Prop
  | .runs => Aside
  | .canceller _ => Progress

/-- What the parties guarantee. -/
def guarantees : Party → CancellationState → CancellationState → Prop
  | .runs => Progress
  | .canceller _ => Aside

theorem compatible_parties : Pool.Compatible relies guarantees where
  rely
    | .runs => isRely_aside
    | .canceller _ => isRely_progress
  guarantee_refl
    | .runs => progress_refl
    | .canceller _ => aside_refl
  relied
    | .runs, .runs, h, _, _, _ => absurd rfl h
    | .runs, .canceller _, _, _, _, h => h
    | .canceller _, .runs, _, _, _, h => h
    | .canceller _, .canceller _, _, _, _, h => h.toProgress

/-- What the parties have achieved when they end. -/
def achieves (requests : Nat → RunId) :
    Party → Option CancellationRequestOutcome → CancellationState → Prop
  | .runs, _, _ => True
  | .canceller number, outcome, state => outcome = some .accepted → Settled (requests number) state

theorem cancellationPool_guarded (runs : List (RunId × Nat)) (reqs : Nat → RunId) :
    Pool.AllGuarded Considerate relies guarantees (achieves reqs) (fun _ _ _ => True)
      (cancellationPool runs reqs) := by
  intro who
  cases who with
  | runs =>
    refine guarded_seq (R := Aside) (guarded_successiveRuns runs ⟨?_, ?_⟩) fun _ _ _ _ _ => trivial
    · exact fun run hrun => nomatch hrun
    · exact fun run hrun => nomatch hrun
  | canceller number =>
    refine guarded_seq (R := Progress) guarded_requestCancel fun outcome t ht => ?_
    refine guarded_ret (P := fun u => outcome = .accepted → Settled (reqs number) u)
      (fun _ _ hR hu heq => hR.settled _ (hu heq)) ht fun u hu heq => hu (Option.some.inj heq)

theorem recorded_run (runs : List (RunId × Nat)) (reqs : Nat → RunId)
    (schedule : List (Party × FileAnswer)) :
    Recorded reqs (Pool.run schedule (cancellationPool runs reqs)).state := by
  have hinit : Recorded reqs (cancellationPool runs reqs).state :=
    ⟨nofun, nofun, nofun⟩
  have hguarded : Pool.AllGuarded Anything (fun _ => Records reqs) (fun _ => Records reqs)
      (fun _ _ => Recorded reqs) (fun _ _ => Recorded reqs)
      (cancellationPool runs reqs) := by
    intro who
    cases who with
    | runs =>
      exact (keepsRecord_successiveRuns runs).bind (fun _ => within_ret stable_recorded) _ hinit
    | canceller number =>
      exact (keepsRecord_requestCancel ⟨number, rfl⟩).bind
        (fun _ => within_ret stable_recorded) _ hinit
  exact Pool.invariant_run ⟨fun _ => isRely_records, fun _ => isRely_records.refl,
    fun _ _ _ _ _ h => h⟩ (fun _ _ _ h => h.recorded) hguarded
    (Pool.permitted_of_forall (fun _ _ _ => trivial) _ _) hinit

/-- **Accepted requests.**  Runs are cancelled only by requests for them.  If
cancellers leave the unserved requests of other runs alone, a request that was
accepted stays settled; one that does not unsettles the accepted request that
the file holds. -/
theorem accepted_settled (runs : List (RunId × Nat)) (requests : Nat → RunId)
    (schedule : List (Party × FileAnswer)) :
    let pool := Pool.run schedule (cancellationPool runs requests)
    (∀ run, pool.state.cancelled run = true →
      run ∈ pool.state.requested ∧ ∃ number, requests number = run) ∧
      (Pool.Permitted Considerate schedule (cancellationPool runs requests) →
        ∀ number, (pool.thread (.canceller number)).result = some (.ok (some .accepted)) →
          Settled (requests number) pool.state) ∧
      ∀ run number, (pool.thread (.canceller number)).result = some (.ok (some .accepted)) →
        pool.state.cancelRequest = some (requests number) → leavesOthers run pool.state = false →
          Settled (requests number) pool.state ∧ ∀ request, request = none ∨ request = some run →
            ¬ Settled (requests number) { pool.state with cancelRequest := request } := by
  intro pool
  refine ⟨?_, ?_, fun run number _ hfile h => unsettles_of_not_leavesOthers h hfile⟩
  · intro run hrun
    have hrecorded := recorded_run runs requests schedule
    exact ⟨hrecorded.cancelled run hrun, hrecorded.written run (hrecorded.cancelled run hrun)⟩
  · intro hpermitted number hresult
    have hguarded := Pool.guarded_run compatible_parties
      (cancellationPool_guarded runs requests) hpermitted (.canceller number)
    exact hguarded.result_ok isRely_progress hresult rfl

namespace Sample

theorem runIdOk_first : runIdOk "run-1" = true := by decide

/-- An operation that succeeds. -/
def done : FileAnswer := ⟨none, true⟩

def firstRun : RunId := ⟨"run-1", runIdOk_first⟩

def secondRun : RunId := ⟨"run-2", by decide⟩

/-- The first canceller is to cancel the first run, the others the second one. -/
def requests : Nat → RunId
  | 0 => firstRun
  | _ + 1 => secondRun

def pool := cancellationPool [(firstRun, 0), (secondRun, 1)] requests

/-- The first canceller finds the first run active; that run ends and the second
one is registered. -/
def handover : List (Party × FileAnswer) :=
  [(.runs, done), (.runs, done), (.canceller 0, done)] ++ List.replicate 6 (.runs, done)

/-- The second canceller's request is accepted. -/
def acceptance : List (Party × FileAnswer) := List.replicate 3 (.canceller 1, done)

/-- The request of the second run is accepted, and nobody touches it. -/
theorem undisturbed_request : Pool.Permitted Considerate (handover ++ acceptance) pool ∧
      Settled secondRun (Pool.run (handover ++ acceptance) pool).state :=
  ⟨by decide +kernel,
    (accepted_settled [(firstRun, 0), (secondRun, 1)] requests (handover ++ acceptance)).2.1
      (by decide +kernel) 1 (by decide +kernel)⟩

/-- The first canceller then writes its request for the run that has ended. -/
theorem overwritten_request :
    ((Pool.run (handover ++ acceptance ++ [(.canceller 0, done)]) pool).thread
        (.canceller 1)).result = some (.ok (some .accepted)) ∧
      ¬ Settled (requests 1)
        (Pool.run (handover ++ acceptance ++ [(.canceller 0, done)]) pool).state := by
  decide +kernel

end Sample

end Cancellation

end BtrfsBackup
