/-
What a call to `BackupService::start` reports and gives back.

A run goes through stages: `Fresh` when its context has been made, `Mounted`
once it has acquired everything.  It ends `Over` with a result, or it is `Broken`
off by an exception, which the `catch` clauses turn into a reported end.

* `ensures_runLoadedProfile` — the `try` block;
* `ensures_handleRunError` — the `catch` clauses;
* `start_protocol` — the whole call;
* `orderly_startLoadedProfile` — the events of a run are orderly;
* `Sample.skipped_reports_no_end` — a run that reports no end.
-/
import BtrfsBackup.ActionHandlers
import BtrfsBackup.RunReport

open Interaction

namespace BtrfsBackup

open ServiceState Status

/-! ### The stages of a run -/

theorem Accounted.continues {s t} (h : Accounted s) (hq : Continues s t) : Accounted t := by
  obtain ⟨events, -, htrace⟩ := hq.trace
  obtain ⟨custody, hacc, hheld⟩ := h.accounts
  refine ⟨⟨custody, ?_, fun r => ?_⟩, hq.context ▸ h.attempted⟩
  · rw [htrace]
    clear htrace
    induction events with
    | nil => exact hacc
    | cons ev events ih => exact ih.emitted
  · rw [hheld r, holds, holds, hq.context]

theorem Accounted.record {s o} (h : Accounted s)
    (ho : ∀ r, o ≠ .acquired r ∧ o ≠ .released r) : Accounted (s.record o) := by
  obtain ⟨custody, hacc, hheld⟩ := h.accounts
  refine ⟨⟨custody, fun r => ?_, hheld⟩, h.attempted⟩
  simpa [ServiceState.record, ho r] using hacc r

/-- The run goes on and its context is open. -/
structure Live (ord : Option EventOrder) (s : ServiceState) : Prop where
  going : Going ord s
  accounted : Accounted s
  isOpen : s.isClosed = false

/-- The run goes on and has acquired everything. -/
structure Mounted (ord : Option EventOrder) (s : ServiceState) : Prop where
  live : Live ord s
  acquired : ∀ r, s.trace.count (.acquired r) = 1

/-- The run was broken off; what it holds can be given back. -/
structure Broken (ord : Option EventOrder) (s : ServiceState) : Prop where
  going : Going ord s
  consistent : Consistent s

/-- The run has reported its end; what it holds can be given back. -/
structure Over (ord : Option EventOrder) (result : BackupExecutionResult) (s : ServiceState) :
    Prop where
  finished : Finished result s
  consistent : Consistent s
  order : InOrder ord s

section stages

variable {s t : ServiceState} {E : Thrown → ServiceState → Prop} {ord : Option EventOrder}

theorem Live.consistent (h : Live ord s) : Consistent s :=
  ⟨h.accounted, fun hclosed => by simp [h.isOpen] at hclosed⟩

theorem Live.broken (h : Live ord s) : Broken ord s := ⟨h.going, h.consistent⟩

theorem Live.continues (h : Live ord s) (hq : Continues s t) (horder : InOrder ord t) :
    Live ord t :=
  ⟨h.going.continues hq horder, h.accounted.continues hq, by
    rw [isClosed, hq.context]
    exact h.isOpen⟩

theorem Mounted.broken (h : Mounted ord s) : Broken ord s := h.live.broken

theorem Mounted.continues (h : Mounted ord s) (hq : Continues s t) (horder : InOrder ord t) :
    Mounted ord t := by
  refine ⟨h.live.continues hq horder, fun r => ?_⟩
  obtain ⟨events, -, htrace⟩ := hq.trace
  rw [htrace, List.count_append, h.acquired r, List.count_eq_zero.mpr, Nat.zero_add]
  simp

theorem Consistent.emit {ev} (h : Consistent s) : Consistent (s.record (.emitted ev)) :=
  ⟨h.accounted.record (by simp), h.closed⟩

variable {res : BackupExecutionResult}

/-- The terminal event of a result ends the run. -/
theorem Broken.over {ev} (h : Broken ord s)
    (hres : res.isSkipped = false) (hevent : ev.isTerminal = true) (hmatches : res.Matches ev)
    (hacq : res.isSuccess = true → ∀ r, s.trace.count (.acquired r) = 1)
    (hrun : ∀ o ∈ ord, runOf ev = o.runId) (hnumber : ∀ o ∈ ord, sourceNumber ev ≤ o.count) :
    Over ord res (s.record (.emitted ev)) :=
  ⟨h.going.finished hres hevent hmatches hacq, h.consistent.emit, fun o ho =>
    EventOrder.orderly_end (h.going.order o ho) hevent ⟨hrun o ho, hnumber o ho⟩⟩

variable {pid : ProfileId} {runId : RunId} {code : ErrorCode} {msg : String} {n : Nat}

theorem Broken.failed (h : Broken ord s) (hrun : ∀ o ∈ ord, runId = o.runId)
    (kind : OperationKind) : Over ord (.failed pid runId code msg n)
      (s.record (.emitted (.runFailed ⟨pid, runId, code, msg, kind⟩))) :=
  h.over rfl rfl ⟨rfl, rfl⟩ nofun hrun fun _ _ => Nat.zero_le _

/-- A run that is over stays so when its context is closed. -/
theorem ensures_close_over {α : Type} {k : Unit → Service α} {Q} (h : Over ord res s)
    (hk : ∀ t, Over ord res t → Ensures ord (k ()) Q E t) : Ensures ord (close >>= k) Q E s :=
  ensures_seq (ensures_close h.consistent) fun _ t ht =>
    hk t ⟨ht.2.1.finished h.finished, ht.1, ht.2.1.inOrder h.order⟩

theorem ensures_throwIfCancelled {what : String} {Q} (hQ : Q () s)
    (hE : E (operationCancelledError what) s) : Ensures ord (throwIfCancelled what) Q E s := by
  rw [throwIfCancelled, ensures_bind]
  refine ensures_cancellationRequested fun cancelled => ?_
  cases cancelled with
  | true => exact hE
  | false => exact hQ

theorem ensures_recordTargetStorage {targetStorage : Bool} {prof : Profile}
    {Q} (hQ : ∀ warning, Q warning s) :
    Ensures ord (recordTargetStorage targetStorage prof) Q E s := by
  refine ensures_withContext (fun ctx _ => ?_) fun _ => hQ none
  split
  · rw [ensures_bind, ensures_attempt]
    exact ensures_ask (fun _ => hQ none) (fun e => hQ _)
  · exact hQ none

theorem ensures_emitRunFailed {kind Q} :
    Ensures ord (emitRunFailed pid runId code msg n kind) Q E s ↔ Q (.failed pid runId code msg n)
        (s.record (.emitted (.runFailed ⟨pid, runId, code, msg, kind⟩))) := Iff.rfl

theorem ensures_closeTargetOrFail {kind} (hrun : ∀ o ∈ ord, runId = o.runId)
    (h : Mounted ord s) : Ensures ord (closeTargetOrFail pid runId n kind)
      (fun failed t => match failed with
        | none => Mounted ord t
        | some res => Over ord res t) E s := by
  refine ensures_seq (ensures_closeTargetSession h.live.accounted) fun error t ht => ?_
  obtain ⟨hsheds, -⟩ := ht
  have hmounted : Mounted ord t :=
    ⟨⟨hsheds.report.going h.live.going, hsheds.accounted, hsheds.closed.trans h.live.isOpen⟩,
      fun r => (hsheds.report.acquired r).trans (h.acquired r)⟩
  cases error with
  | none => exact hmounted
  | some error => exact hmounted.broken.failed hrun kind

end stages

/-! ### Preparing the run -/

/-- The context has just been made: the target has not been touched. -/
structure Fresh (ord : Option EventOrder) (s : ServiceState) : Prop where
  live : Live ord s
  early : ∀ o ∈ ord, o.Underway 0 (eventsOf s.trace)
  /-- Everything but the target has been acquired. -/
  acquired : ∀ r, s.trace.count (.acquired r) = if r = .targetSession then 0 else 1
  attempted : ∀ context, s.context = some context → context.targetCloseAttempted = false

/-- The state before anything happened. -/
def ServiceState.initial : ServiceState := ⟨[], none⟩

section preparing

variable {s t : ServiceState} {E : Thrown → ServiceState → Prop} {pid : ProfileId} {runId : RunId}
  {prof : Profile} {ord : Option EventOrder}

theorem going_initial : Going ord .initial :=
  ⟨fun _ _ => trivial, by simp [initial, eventsOf], rfl, rfl⟩

theorem accounts_initial : Accounts (fun _ => .untouched) initial.trace :=
  fun _ => ⟨rfl, rfl⟩

/-- Without a context, a run that holds nothing can be broken off. -/
theorem Broken.of_no_context {custody} (hgoing : Going ord s) (hctx : s.context = none)
    (hacc : Accounts custody s.trace) (hcustody : ∀ r, custody r ≠ .held) : Broken ord s := by
  refine ⟨hgoing, ⟨⟨custody, hacc, fun r => ?_⟩, ?_⟩, fun _ r => holds_of_context_none hctx⟩
  · simp [hcustody r, holds_of_context_none hctx]
  · simp [hctx]

theorem broken_initial : Broken ord .initial :=
  .of_no_context going_initial rfl accounts_initial (by simp)

/-- The lease has been acquired, but nobody owns it yet. -/
def ServiceState.leased : ServiceState := .record (.acquired .lease) .initial

theorem accounts_leased :
    Accounts (Function.update (fun _ => .untouched) .lease .held) leased.trace :=
  accounts_initial.acquire rfl

/-- When the constructor throws, the lease is given back. -/
theorem broken_lease_released : Broken ord (leased.record (.released .lease)) := by
  refine .of_no_context ((going_initial.record ⟨_, .inl rfl⟩).record ⟨_, .inr rfl⟩) rfl
    (accounts_leased.release rfl) fun r => ?_
  cases r <;> simp

theorem ensures_createPreparing :
    Ensures ord (createPreparing pid runId) (fun _ t => Fresh ord t ∧ eventsOf t.trace = [])
      (fun _ t => Broken ord t) .leased := by
  have hactive : Accounts (Function.update (Function.update (fun _ => .untouched) .lease .held)
      .activeRun .held) (leased.record (.acquired .activeRun)).trace :=
    accounts_leased.acquire rfl
  have hgoing : Going ord (leased.record (.acquired .activeRun)) :=
    (going_initial.record ⟨_, .inl rfl⟩).record ⟨_, .inl rfl⟩
  unfold createPreparing
  rw [ensures_bind, ensures_handleError]
  refine ensures_ask (fun _ => ?_) (fun _ => broken_lease_released)
  rw [ensures_bind, ensures_handleError]
  refine ensures_ask (fun _ => ?_) (fun _ => broken_lease_released)
  rw [ensures_bind, ensures_occur, ensures_bind, ensures_handleError]
  refine ensures_ask (fun _ => ?_) (fun _ => ?_)
  · refine ⟨⟨⟨⟨hgoing.order, hgoing.events, hgoing.success, hgoing.skipped⟩,
      ⟨⟨_, hactive, fun r => ?_⟩, ?_⟩, rfl⟩, fun _ _ => ⟨trivial, nofun⟩, fun r => ?_, ?_⟩, rfl⟩
    · cases r <;> simp [holds, RunExecutionContext.prepared, RunExecutionContext.holds]
    · rintro _ ⟨⟩ hatt
      cases hatt
    · have hr := (hactive r).1
      cases r <;> exact hr
    · rintro _ ⟨⟩
      rfl
  · -- the members are destroyed: the lease first, then the registration
    refine .of_no_context ((hgoing.record ⟨_, .inr rfl⟩).record ⟨_, .inr rfl⟩) rfl
      ((hactive.release rfl).release rfl) fun r => ?_
    cases r <;> simp

/-- The target session is acquired, or nothing is held when the preflight throws. -/
theorem ensures_runPreflight :
    Ensures ord (runPreflight prof) (fun _ t => t = s.record (.acquired .targetSession))
      (fun _ t => t = s ∨
        t = (s.record (.acquired .targetSession)).record (.released .targetSession)) s := by
  rw [runPreflight, ensures_bind]
  refine ensures_throwIfCancelled ?_ (.inl rfl)
  rw [ensures_bind]
  refine ensures_ask (fun _ => ?_) (fun _ => .inl rfl)
  rw [ensures_bind, ensures_occur, ensures_handleError, ensures_bind]
  refine ensures_throwIfCancelled ?_ ?_
  rw [ensures_bind]
  refine ensures_ask (fun _ => ensures_throwIfCancelled rfl ?_) (fun _ => ?_)
  -- whichever check fails, the target is closed again
  all_goals
    rw [ensures_bind]
    refine ensures_askNoexcept fun answer => ?_
    rw [ensures_bind, ensures_occur]
    split <;> exact .inr rfl

/-- The run has started: the sink is attached and has its first event. -/
theorem Fresh.started {kind} (hrun : ∀ o ∈ ord, runId = o.runId)
    (h : Fresh ord s) (hevents : eventsOf s.trace = []) :
    Fresh ord ((s.update fun ctx => { ctx with events := true }).record
      (.emitted (.runStarted pid runId kind))) := by
  have hsheds : Sheds s (s.update fun ctx => { ctx with events := true }) :=
    .update h.live.accounted (fun _ r => by cases r <;> rfl) (fun _ => rfl) (fun _ => rfl)
  have hlive : Live ord (s.update fun ctx => { ctx with events := true }) :=
    ⟨hsheds.report.going h.live.going, hsheds.accounted, hsheds.closed.trans h.live.isOpen⟩
  have hearly : ∀ o ∈ ord, o.Underway 0 (.runStarted pid runId kind :: eventsOf s.trace) := by
    rw [hevents]
    exact fun o ho => ⟨⟨trivial, hrun o ho, fun _ => rfl, Nat.zero_le _, nofun⟩,
      List.forall_mem_singleton.mpr ⟨le_rfl, rfl⟩⟩
  refine ⟨hlive.continues ((Continues.refl _).emit rfl) fun o ho => (hearly o ho).orderly, hearly,
    fun r => ?_, ?_⟩
  · simpa [record, update] using h.acquired r
  · intro context' hcontext'
    obtain ⟨ctx, hctx, rfl⟩ := Option.map_eq_some_iff.mp hcontext'
    exact h.attempted ctx hctx

theorem Fresh.custody (h : Fresh ord s) : ∃ custody, Accounts custody s.trace ∧
    (∀ r, custody r = .held ↔ s.holds r = true) ∧ custody .targetSession = .untouched := by
  obtain ⟨custody, hacc, hheld⟩ := h.live.accounted.accounts
  refine ⟨custody, hacc, hheld, ?_⟩
  have hcount := (hacc .targetSession).1.symm.trans (h.acquired .targetSession)
  rcases hcustody : custody .targetSession with _ | _ | _ <;>
    simp [hcustody, Custody.acquisitions] at hcount ⊢

/-- A preflight that acquired the target has given it back when it throws. -/
theorem Fresh.broken_preflight (h : Fresh ord s)
    (ht : t = s ∨ t = (s.record (.acquired .targetSession)).record (.released .targetSession)) :
    Broken ord t := by
  rcases ht with rfl | rfl
  · exact h.live.broken
  · obtain ⟨custody, hacc, hheld, huntouched⟩ := h.custody
    have hses : s.holds .targetSession = false := by
      rw [Bool.eq_false_iff]
      intro hholds
      rw [(hheld _).mpr hholds] at huntouched
      cases huntouched
    have hbal := (hacc.acquire huntouched).release
      (Function.update_self ..)
    refine ⟨(h.live.going.record ⟨_, .inl rfl⟩).record ⟨_, .inr rfl⟩,
      ⟨⟨_, hbal, fun r => ?_⟩, h.live.accounted.attempted⟩, h.live.consistent.closed⟩
    by_cases hr : r = .targetSession
    · subst hr
      rw [Function.update_self]
      exact ⟨nofun, fun hholds => absurd (hses.symm.trans hholds) Bool.false_ne_true⟩
    · rw [Function.update_of_ne hr, Function.update_of_ne hr, hheld r]
      rfl

theorem Fresh.attached (h : Fresh ord s) : Mounted ord ((s.record (.acquired .targetSession)).update
    fun ctx => { ctx with targetSession := true, verifiedTargetMount := true }) := by
  obtain ⟨custody, hacc, hheld, huntouched⟩ := h.custody
  rcases hctx : s.context with _ | ctx
  · have hclosed := h.live.isOpen
    simp [isClosed, hctx] at hclosed
  rw [update_of_context_some (s := s.record _) hctx]
  have hgoing : Going ord (s.record (.acquired .targetSession)) := h.live.going.record ⟨_, .inl rfl⟩
  refine ⟨⟨⟨hgoing.order, hgoing.events, hgoing.success, hgoing.skipped⟩,
    ⟨⟨_, hacc.acquire huntouched, fun r => ?_⟩, ?_⟩, ?_⟩, fun r => ?_⟩
  · have hr := hheld r
    rw [holds_of_context_some hctx] at hr
    cases r with
    | targetSession => simp [holds, RunExecutionContext.holds]
    | lease => simpa [holds, RunExecutionContext.holds] using hr
    | activeRun => simpa [holds, RunExecutionContext.holds] using hr
  · rintro _ ⟨⟩ hatt
    rw [h.attempted ctx hctx] at hatt
    cases hatt
  · simpa [isClosed, hctx] using h.live.isOpen
  · have hr := h.acquired r
    cases r <;> simpa [record] using hr

theorem ensures_prepareTargetAndPlan {ident} (h : Fresh ord s) :
    Ensures ord (prepareTargetAndPlan prof ident) (fun plan t => Mounted ord t ∧
      ∀ o ∈ ord, o.Covers plan ∧ o.Underway 0 (eventsOf t.trace)) (fun _ t => Broken ord t) s := by
  rw [prepareTargetAndPlan, ensures_bind]
  refine ensures_mono ensures_runPreflight (fun _ t ht => ?_) (fun _ t => h.broken_preflight)
  subst ht
  have hmounted := h.attached
  rw [ensures_bind, attachVerifiedTarget, ensures_updateContext, ensures_bind]
  refine ensures_throwIfCancelled ?_ hmounted.broken
  rw [ensures_bind]
  refine ensures_ask (fun _ => ?_) (fun _ => hmounted.broken)
  rw [ensures_bind]
  refine ensures_ask_plan (fun answer hplan => ?_) (fun _ => hmounted.broken)
  rw [ensures_bind]
  exact ensures_throwIfCancelled ⟨hmounted, fun o ho => ⟨hplan o ho, h.early o ho⟩⟩ hmounted.broken

end preparing

/-! ### Ending the run -/

section ending

variable {targetStorage : Bool} {req : BackupRequest} {ident : RunIdentity}
  {kind : OperationKind} {loaded : LoadedProfile} {plan : BackupRunPlan} {today : LocalDate}
  {s : ServiceState} {ord : Option EventOrder}

/-- What a part of the run returns early, or that it goes on. -/
def OverOr (ord : Option EventOrder) (s : ServiceState) :
    Option BackupExecutionResult → ServiceState → Prop
  | some result, t => Over ord result t
  | none, t => t = s

theorem ensures_finishValidationIfRequested (hrun : ∀ o ∈ ord, ident.runId = o.runId)
    (h : Mounted ord s) :
    Ensures ord (finishValidationIfRequested targetStorage req ident kind loaded plan)
      (OverOr ord s)
      (fun _ t => Broken ord t) s := by
  unfold finishValidationIfRequested
  split
  · exact rfl
  rw [ensures_bind]
  refine ensures_recordTargetStorage fun _ => ?_
  refine ensures_seq (ensures_closeTargetOrFail hrun h) fun failed t ht => ?_
  cases failed with
  | some failed => exact ensures_close_over ht fun _ hu => hu
  | none =>
    show Ensures _ (throwIfCancelled _ >>= _) _ _ _
    rw [ensures_bind]
    exact ensures_throwIfCancelled (ht.broken.over rfl rfl trivial (fun _ => ht.acquired) hrun
      fun _ _ => Nat.zero_le _) ht.broken

theorem ensures_dailyLimitReached (h : Mounted ord s) :
    Ensures ord (dailyLimitReached req loaded today) (fun _ t => t = s)
      (fun _ t => Broken ord t) s := by
  unfold dailyLimitReached
  split
  · exact rfl
  · rw [ensures_bind]
    exact ensures_ask (fun _ => rfl) (fun _ => h.broken)

/-- A skipped run is entered in the ledger; it reports no end. -/
theorem Mounted.skipped (h : Mounted ord s) :
    Over ord (.skipped plan) (s.record .skippedWritten) := by
  have hgoing := h.live.going
  refine ⟨⟨hgoing.events, ?_, ?_, fun _ r => ?_⟩,
    ⟨h.live.accounted.record (by simp), h.live.consistent.closed⟩, hgoing.order⟩
  · simp [record, hgoing.success]
  · simp [record, hgoing.skipped, BackupExecutionResult.isSkipped]
  · simpa [record] using h.acquired r

theorem ensures_skipIfDailyLimitReached (hrun : ∀ o ∈ ord, ident.runId = o.runId)
    (h : Mounted ord s) :
    Ensures ord (skipIfDailyLimitReached targetStorage req ident kind loaded today plan)
      (OverOr ord s) (fun _ t => Broken ord t) s := by
  refine ensures_seq (ensures_dailyLimitReached h) fun reached t ht => ?_
  subst ht
  cases reached with
  | false => exact rfl
  | true =>
    show Ensures _ (recordTargetStorage _ _ >>= _) _ _ _
    rw [ensures_bind]
    refine ensures_recordTargetStorage fun _ => ?_
    refine ensures_seq (ensures_closeTargetOrFail hrun h) fun failed t ht => ?_
    cases failed with
    | some failed => exact ensures_close_over ht fun _ hu => hu
    | none =>
      show Ensures _ (throwIfCancelled _ >>= _) _ _ _
      rw [ensures_bind]
      refine ensures_throwIfCancelled ?_ ht.broken
      rw [ensures_bind]
      refine ensures_ask (fun _ => ?_) (fun _ => ht.broken)
      rw [ensures_bind]
      exact ensures_ask (fun _ => ht.skipped) (fun _ => ht.broken)

variable {E : Thrown → ServiceState → Prop} {n : Nat} {e : Thrown}

/-- The last success is written, or the clock fails before it. -/
theorem ensures_recordSuccessLedgerWarning {Q} (hQ : ∀ warnings, Q warnings s)
    (hwritten : ∀ warnings, Q warnings (s.record .successWritten)) :
    Ensures ord (recordSuccessLedgerWarning ident loaded today n) Q E s := by
  rw [recordSuccessLedgerWarning, ensures_bind, ensures_attempt, ensures_bind]
  refine ensures_ask (fun _ => ?_) (fun _ => hQ _)
  rw [ensures_bind, ensures_occur, ensures_bind]
  exact ensures_ask (fun _ => hwritten _) (fun _ => hwritten _)

/-- The last event of a completed run, after the last success was written. -/
theorem Mounted.completed {warnings}
    {pid : ProfileId} {runId : RunId} (hrun : ∀ o ∈ ord, runId = o.runId) (h : Mounted ord s) :
    Over ord (.completed plan n warnings)
      ((s.record .successWritten).record (.emitted (.runCompleted pid runId))) := by
  have hgoing := h.live.going
  refine ⟨⟨⟨_, _, rfl, rfl, trivial, hgoing.events⟩, ?_, ?_, fun _ r => ?_⟩,
    Consistent.emit ⟨h.live.accounted.record (by simp), h.live.consistent.closed⟩, fun o ho =>
      EventOrder.orderly_end (hgoing.order o ho) rfl ⟨hrun o ho, Nat.zero_le _⟩⟩
  · simp [record, hgoing.success, BackupExecutionResult.isCompleted]
  · simp [record, hgoing.skipped, BackupExecutionResult.isSkipped]
  · simpa [record] using h.acquired r

/-- The run was broken off by an exception other than a `BtrfsBackupError`: it has
failed, and the exception goes on. -/
structure Rethrown (e : Thrown) (s : ServiceState) : Prop where
  standard : e.isBtrfsBackupError = false
  events : EndsWith (fun event => ∃ failed : RunFailed, event = .runFailed failed ∧
    failed.errorCode = .backupFailed ∧ failed.message = e.what) s
  success : s.trace.count .successWritten = 0
  skipped : s.trace.count .skippedWritten = 0

theorem Rethrown.of_sameReport {t} (h : Rethrown e s) (hsame : SameReport s t) : Rethrown e t :=
  ⟨h.standard, hsame.endsWith h.events, hsame.success.trans h.success,
    hsame.skipped.trans h.skipped⟩

theorem Broken.rethrown (h : Broken ord s) (he : e.isBtrfsBackupError = false) :
    Rethrown e (s.record
      (.emitted (.runFailed ⟨loaded.profile.id, ident.runId, .backupFailed, e.what, kind⟩))) :=
  ⟨he, h.going.endsWith rfl ⟨_, rfl, rfl, rfl⟩, by simpa [record] using h.going.success,
    by simpa [record] using h.going.skipped⟩

theorem ensures_closeAfterFailure (h : Consistent s) :
    Ensures ord (closeAfterFailure targetStorage loaded)
      (fun _ t => Consistent t ∧ SameReport s t) E s := by
  rw [closeAfterFailure, ensures_bind]
  refine ensures_recordTargetStorage fun _ => ?_
  exact ensures_mono (ensures_close h) (fun _ _ ht => ⟨ht.1, ht.2.1⟩) (fun _ _ he => he)

theorem ensures_closeAfterFailure_over {res} (h : Over ord res s) :
    Ensures ord (closeAfterFailure targetStorage loaded) (fun _ t => Over ord res t) E s :=
  ensures_mono (ensures_closeAfterFailure h.consistent)
    (fun _ _ ht => ⟨ht.2.finished h.finished, ht.1, ht.2.inOrder h.order⟩) (fun _ _ he => he)

variable (hrun : ∀ o ∈ ord, ident.runId = o.runId)
include hrun

theorem ensures_executePlan (h : Mounted ord s)
    (hplan : ∀ o ∈ ord, o.Covers plan ∧ o.Underway 0 (eventsOf s.trace)) :
    Ensures ord (executePlan targetStorage ident kind loaded today plan)
      (fun res t => Over ord res t) (fun _ t => Broken ord t) s := by
  have hcontinues : ∀ {k t}, Executing ord k s t → Mounted ord t := fun ht =>
    h.continues ht.toContinues fun o ho => (ht.order o ho (hplan o ho).2).orderly
  rw [executePlan, ensures_bind]
  refine ensures_mono (ensures_executeRun (fun o ho => (hplan o ho).1) s)
    (fun execution t ht => ?_) (fun _ t ⟨_, ht⟩ => (hcontinues ht).broken)
  cases execution with
  | completed n =>
    obtain ⟨_, ht⟩ := ht
    have hmounted : Mounted ord t := hcontinues ht
    show Ensures _ (recordTargetStorage _ _ >>= _) _ _ _
    rw [ensures_bind]
    refine ensures_recordTargetStorage fun measured => ?_
    refine ensures_seq (ensures_closeTargetOrFail hrun hmounted) fun failed u hu => ?_
    cases failed with
    | some failed => exact ensures_close_over hu fun _ hv => hv
    | none =>
      show Ensures _ (throwIfCancelled _ >>= _) _ _ _
      rw [ensures_bind]
      refine ensures_throwIfCancelled ?_ hu.broken
      rw [ensures_bind]
      refine ensures_recordSuccessLedgerWarning (fun ledger => ?_) (fun ledger => ?_)
      · rw [ensures_bind, ensures_emit]
        have hover : Over ord (.completed plan n (measured.toList ++ ledger))
            (u.record (.emitted (.runCompleted loaded.profile.id ident.runId))) :=
          hu.broken.over rfl rfl trivial (fun _ => hu.acquired) hrun fun _ _ => Nat.zero_le _
        exact ensures_close_over hover fun _ hv => hv
      · rw [ensures_bind, ensures_emit]
        exact ensures_close_over (hu.completed hrun) fun _ hv => hv
  | failed errorCode msg n =>
    obtain ⟨_, u, ev, hu, hcode, hmessage, hev, rfl⟩ := ht
    show Ensures _ (recordTargetStorage _ _ >>= _) _ _ _
    rw [ensures_bind]
    refine ensures_recordTargetStorage fun _ => ?_
    have hover : Over ord (.failed loaded.profile.id ident.runId errorCode msg n)
        (u.record (.emitted (.runFailed ev))) :=
      (hcontinues hu).broken.over rfl rfl ⟨hcode, hmessage⟩ nofun hev fun _ _ => Nat.zero_le _
    exact ensures_close_over hover fun _ hv => hv
  | cancelled n =>
    obtain ⟨_, u, ev, hu, hev, rfl⟩ := ht
    show Ensures _ (recordTargetStorage _ _ >>= _) _ _ _
    rw [ensures_bind]
    refine ensures_recordTargetStorage fun _ => ?_
    have hover : Over ord (.cancelled plan n) (u.record (.emitted (.runCancelled ev))) :=
      (hcontinues hu).broken.over rfl rfl trivial nofun (fun o ho => (hev o ho).1)
        fun o ho => (hev o ho).2
    exact ensures_close_over hover fun _ hv => hv

theorem ensures_acquireRunLease : Ensures ord (acquireRunLease ident kind loaded)
      (fun busy t => match busy with
        | some res => Over ord res t
        | none => t = .leased) (fun _ t => Broken ord t) .initial := by
  rw [acquireRunLease, ensures_bind]
  refine ensures_ask (fun answer => ?_) (fun _ => broken_initial)
  split
  · rw [ensures_bind]
    exact broken_initial.over rfl rfl ⟨rfl, rfl⟩ nofun hrun fun _ _ => Nat.zero_le _
  · exact rfl

/-- The `try` block ends with a reported end, or it is broken off. -/
theorem ensures_runLoadedProfile :
    Ensures ord (runLoadedProfile targetStorage req ident kind loaded)
      (fun res t => Over ord res t) (fun _ t => Broken ord t) .initial := by
  refine ensures_seq (ensures_acquireRunLease hrun) fun busy t ht => ?_
  cases busy with
  | some busy => exact ht
  | none =>
    subst ht
    refine ensures_seq ensures_createPreparing fun _ t ht => ?_
    rw [ensures_bind, attachEventSink, ensures_updateContext, ensures_bind, ensures_emit]
    refine ensures_seq (ensures_prepareTargetAndPlan (ht.1.started hrun ht.2)) fun plan u hu => ?_
    obtain ⟨hu, hplan⟩ := hu
    refine ensures_seq (ensures_finishValidationIfRequested hrun hu) fun validation v hv => ?_
    cases validation with
    | some validation => exact hv
    | none =>
      subst hv
      show Ensures _ (ask _ >>= _) _ _ _
      rw [ensures_bind]
      refine ensures_ask (fun answer => ?_) (fun _ => hu.broken)
      refine ensures_seq (ensures_skipIfDailyLimitReached hrun hu) fun skipped w hw => ?_
      cases skipped with
      | some skipped => exact hw
      | none =>
        subst hw
        exact ensures_executePlan hrun hu hplan

/-- Every `catch` clause reports the end of the run. -/
theorem ensures_handleRunError (h : Broken ord s) :
    Ensures ord (handleRunError targetStorage ident kind loaded e)
      (fun res t => Over ord res t) (fun e t => Rethrown e t ∧ Consistent t ∧ InOrder ord t) s := by
  unfold handleRunError
  split
  · rw [ensures_bind, ensures_emit]
    have hover : ∀ ev, ev.runId = ident.runId ∧ ev.sourceIndex = 0 →
        Over ord (.cancelled ⟨loaded.profile.id, ident.runId,
          loaded.profile.target.mountPoint.value, []⟩ 0) (s.record (.emitted (.runCancelled ev))) :=
      fun ev hev => h.over rfl rfl trivial nofun (fun o ho => hev.1.trans (hrun o ho))
        fun o _ => hev.2.le.trans (Nat.zero_le _)
    exact ensures_seq (ensures_closeAfterFailure_over (hover _ ⟨rfl, rfl⟩)) fun _ _ ht => ht
  split
  · rw [ensures_bind, ensures_emitRunFailed]
    exact ensures_seq (ensures_closeAfterFailure_over (h.failed hrun kind)) fun _ _ ht => ht
  · next hstandard =>
    rw [ensures_bind, ensures_emitRunFailed]
    refine ensures_seq (ensures_closeAfterFailure h.consistent.emit) fun _ t ht => ?_
    exact ⟨(h.rethrown (Bool.not_eq_true _ ▸ hstandard)).of_sameReport ht.2, ht.1,
      ht.2.inOrder (h.failed (n := 0) hrun kind).order⟩

/-- The run of a loaded profile, with its `catch` clauses and the destructor. -/
theorem ensures_startLoadedProfile :
    Ensures ord (startLoadedProfile targetStorage req ident kind loaded)
    (fun res t => Finished res t ∧ Released t ∧ InOrder ord t)
    (fun e t => Rethrown e t ∧ Released t ∧ InOrder ord t) .initial := by
  rw [startLoadedProfile, ensures_bind, ensures_attempt, ensures_handleError]
  refine ensures_mono (ensures_runLoadedProfile hrun) (fun res t ht => ?_) (fun e t ht => ?_)
  · refine ensures_seq (ensures_close ht.consistent) fun _ u hu => ?_
    exact ⟨hu.2.1.finished ht.finished, hu.2.2, hu.2.1.inOrder ht.order⟩
  · refine ensures_mono (ensures_handleRunError hrun ht) (fun res u hu => ?_) (fun e u hu => ?_)
    · refine ensures_seq (ensures_close hu.consistent) fun _ v hv => ?_
      exact ⟨hv.2.1.finished hu.finished, hv.2.2, hv.2.1.inOrder hu.order⟩
    · refine ensures_seq (ensures_close hu.2.1) fun _ v hv => ?_
      exact ⟨hu.1.of_sameReport hv.2.1, hv.2.2, hv.2.1.inOrder hu.2.2⟩

end ending

/-- **What a call to `start` reports and gives back**, whatever the ports answer
and wherever cancellation is requested.

A call that returns has emitted exactly one event that ends the run, the one that
belongs to the result, and it is the last one; only a skipped run, which is
entered in the ledger instead, has none.  The last success is written only when
the run completed.  A call that throws has failed in the same way, unless the
profile could not be loaded and no run was started.  In every case what was
acquired is released, once. -/
theorem start_protocol (targetStorage : Bool) (request : BackupRequest) (identity : RunIdentity)
    (answers : Nat → ServiceAnswer) :
    match (start targetStorage request identity).play answers .initial with
    | (.ok result, s) => Finished result s ∧ Released s
    | (.error e, s) =>
      (Rethrown e s ∨ s = .initial ∧ e.isBtrfsBackupError = false ∧ (answers 0).thrown = some e) ∧
        Released s := by
  rcases hload : (answers 0).thrown with _ | e
  · -- the profile was loaded: the rest is the run
    obtain ⟨kind, hplay⟩ : ∃ kind, (start targetStorage request identity).play answers .initial =
        (startLoadedProfile targetStorage request identity kind (answers 0).loaded).play
          (fun k => answers (k + 1)) .initial := by
      refine ⟨if request.validateOnly then .targetValidation else .backup, ?_⟩
      simp only [start, ask, Prog.attempt, Prog.play, bind, Prog.bind, hload]
    have hrun : Ensures none (startLoadedProfile targetStorage request identity kind
        (answers 0).loaded) _ _ _ := ensures_startLoadedProfile (by simp)
    have hend := hrun.play (fun k => answers (k + 1)) (by simp)
    rw [hplay]
    generalize Prog.play _ _ _ = outcome at hend ⊢
    rcases outcome with ⟨result | e, t⟩
    · exact ⟨.inl hend.1, hend.2.1⟩
    · exact ⟨hend.1, hend.2.1⟩
  · -- no run was started
    have hinitial : Broken none .initial := broken_initial
    have hplay : (start targetStorage request identity).play answers .initial =
        (if e.isBtrfsBackupError then emitRunFailed request.profileId identity.runId e.failureCode
          e.what 0 (if request.validateOnly then .targetValidation else .backup) else .fail e).play
          (fun k => answers (k + 1)) .initial := by
      simp only [start, ask, Prog.attempt, Prog.play, bind, Prog.bind, hload]
    rw [hplay]
    by_cases he : e.isBtrfsBackupError = true
    · rw [if_pos he]
      exact ⟨(hinitial.failed (by simp) _).finished,
        hinitial.consistent.emit.accounted.released fun _ => rfl⟩
    · rw [if_neg he]
      exact ⟨.inr ⟨rfl, Bool.not_eq_true _ ▸ he, rfl⟩,
        hinitial.consistent.accounted.released fun _ => rfl⟩

/-- **The events of a run come in order**, whatever the ports answer, if the plans are those
that `build_backup_run_plan` makes for the run. -/
theorem orderly_startLoadedProfile (targetStorage : Bool) (request : BackupRequest)
    (identity : RunIdentity) (kind : OperationKind) (loaded : LoadedProfile)
    (answers : Nat → ServiceAnswer)
    (hplans : ∀ k, ∃ context, context.profile = loaded.profile ∧
      context.runId = identity.runId ∧ buildBackupRunPlan context = .ok (answers k).plan) :
    Orderly identity.runId (EventOrder.sourceCount loaded.profile)
      (eventsOf ((startLoadedProfile targetStorage request identity kind loaded).play answers
        .initial).2.trace) := by
  have hcovers : ∀ k, EventOrder.Covers
      ⟨identity.runId, EventOrder.sourceCount loaded.profile⟩ (answers k).plan := by
    intro k
    obtain ⟨context, hprofile, hrun, hplan⟩ := hplans k
    rw [← hprofile, ← hrun]
    exact EventOrder.covers_buildBackupRunPlan hplan
  have hrun : Ensures (some ⟨identity.runId, EventOrder.sourceCount loaded.profile⟩)
      (startLoadedProfile targetStorage request identity kind loaded) _ _ _ :=
    ensures_startLoadedProfile (by simp)
  have hend := hrun.play answers (by simpa using hcovers)
  generalize Prog.play _ _ _ = outcome at hend ⊢
  rcases outcome with ⟨result | e, t⟩ <;> exact hend.2.2 _ rfl

/-! ### A run that reports no end -/

namespace Sample

/-- A profile that is backed up once a day. -/
def daily : LoadedProfile where
  profile := { config.profile with settings := { settings false with dailyLimit := true } }
  fingerprint := ""

/-- Every port succeeds; only call number 15, which looks up the last success,
says yes. -/
def secondOfDay (call : Nat) : ServiceAnswer where
  thrown := none
  flag := call == 15
  busy := none
  loaded := daily
  plan := ⟨⟨"laptop", identifierOk_laptop⟩, ⟨"run", runIdOk_run⟩, FsPath.ofString "/mnt/backup", []⟩
  time := .wrap 0
  date := ⟨1970, 1, 1⟩
  transferEvents := []
  bytesTransferred := 0
  cleanupError := none
  diagnostic := none

/-- The second call of a day. -/
def secondCall : Except Thrown BackupExecutionResult × ServiceState :=
  (start true ⟨⟨"laptop", identifierOk_laptop⟩, false, false⟩ ⟨⟨"run", runIdOk_run⟩, .wrap 0⟩).play
    secondOfDay .initial

/-- **A skipped run reports no end**: the events are those up to the daily limit,
and none of them ends the run. -/
theorem skipped_reports_no_end : secondCall.1.toOption.any BackupExecutionResult.isSkipped = true ∧
      (eventsOf secondCall.2.trace).countP BackupRunEvent.isTerminal = 0 := by
  decide +kernel

end Sample

end BtrfsBackup
