/-
What a run has reported and what it holds.

`Going` and `Finished` speak of the reported events and ledger entries,
`Accounted` of the resources: what has been acquired and not released is what
the context of the run holds.

* `SameReport` — something may have been released, nothing was reported;
* `Sheds` — the context gives something back;
* `ensures_close` — `close` gives back everything and reports nothing.
-/
import BtrfsBackup.ServiceRules

open Interaction

namespace BtrfsBackup

open ServiceState Status

/-! ### What has been reported -/

/-- The events are in the order that is asked. -/
def InOrder (ord : Option EventOrder) (s : ServiceState) : Prop :=
  ∀ o ∈ ord, Orderly o.runId o.count (eventsOf s.trace)

/-- The run has not reported its end. -/
structure Going (ord : Option EventOrder) (s : ServiceState) : Prop where
  order : InOrder ord s
  events : ∀ event ∈ eventsOf s.trace, event.isTerminal = false
  success : s.trace.count .successWritten = 0
  skipped : s.trace.count .skippedWritten = 0

/-- The last event ends the run and satisfies `P`; no earlier one ends it. -/
def EndsWith (P : BackupRunEvent → Prop) (s : ServiceState) : Prop :=
  ∃ last before, eventsOf s.trace = last :: before ∧ last.isTerminal = true ∧ P last ∧
    ∀ event ∈ before, event.isTerminal = false

/-- The run has reported the end that belongs to its result. -/
structure Finished (result : BackupExecutionResult) (s : ServiceState) : Prop where
  events : if result.isSkipped then ∀ event ∈ eventsOf s.trace, event.isTerminal = false
    else EndsWith result.Matches s
  success : s.trace.count .successWritten ≤ result.isCompleted.toNat
  skipped : s.trace.count .skippedWritten = result.isSkipped.toNat
  /-- A successful run had everything it needs. -/
  acquired : result.isSuccess = true → ∀ r, s.trace.count (.acquired r) = 1

/-- The two states have the same report; something may have been released. -/
structure SameReport (s t : ServiceState) : Prop where
  events : eventsOf t.trace = eventsOf s.trace
  success : t.trace.count .successWritten = s.trace.count .successWritten
  skipped : t.trace.count .skippedWritten = s.trace.count .skippedWritten
  acquired : ∀ r, t.trace.count (.acquired r) = s.trace.count (.acquired r)

namespace SameReport

variable {s t u : ServiceState} {ord : Option EventOrder}

theorem refl (s : ServiceState) : SameReport s s := ⟨rfl, rfl, rfl, fun _ => rfl⟩

theorem trans (h₁ : SameReport s t) (h₂ : SameReport t u) : SameReport s u :=
  ⟨h₂.events.trans h₁.events, h₂.success.trans h₁.success, h₂.skipped.trans h₁.skipped,
    fun r => (h₂.acquired r).trans (h₁.acquired r)⟩

theorem of_trace (h : t.trace = s.trace) : SameReport s t := by
  constructor <;> simp [h]

theorem released {r : Resource} (h : t.trace = .released r :: s.trace) : SameReport s t := by
  constructor <;> simp [h, eventsOf]

theorem inOrder (h : SameReport s t) (hs : InOrder ord s) : InOrder ord t :=
  fun o ho => h.events ▸ hs o ho

theorem going (h : SameReport s t) (hs : Going ord s) : Going ord t :=
  ⟨h.inOrder hs.order, h.events ▸ hs.events, h.success ▸ hs.success, h.skipped ▸ hs.skipped⟩

theorem endsWith {P} (h : SameReport s t) (hs : EndsWith P s) : EndsWith P t := by
  obtain ⟨last, before, hevents, hlast⟩ := hs
  exact ⟨last, before, h.events.trans hevents, hlast⟩

theorem finished {res} (h : SameReport s t) (hs : Finished res s) : Finished res t := by
  refine ⟨?_, h.success ▸ hs.success, h.skipped ▸ hs.skipped,
    fun hres r => (h.acquired r).trans (hs.acquired hres r)⟩
  have hevents := hs.events
  by_cases hskipped : res.isSkipped
  · rw [if_pos hskipped] at hevents ⊢
    exact h.events ▸ hevents
  · rw [if_neg hskipped] at hevents ⊢
    exact h.endsWith hevents

end SameReport

namespace Going

variable {s t : ServiceState} {ord : Option EventOrder}

theorem continues (h : Going ord s) (hq : Continues s t) (horder : InOrder ord t) :
    Going ord t := by
  obtain ⟨events, hevents, htrace⟩ := hq.trace
  have hcount : ∀ o : Occurrence, (∀ ev, o ≠ .emitted ev) →
      t.trace.count o = s.trace.count o := by
    intro o ho
    rw [htrace, List.count_append, List.count_eq_zero.mpr, Nat.zero_add]
    rintro hmem
    obtain ⟨ev, -, heq⟩ := List.mem_map.mp hmem
    exact ho ev heq.symm
  refine ⟨horder, ?_, (hcount _ (by simp)).trans h.success, (hcount _ (by simp)).trans h.skipped⟩
  intro ev hevent
  have hmem : ev ∈ events ++ eventsOf s.trace := by
    have hsplit : eventsOf t.trace = events ++ eventsOf s.trace := by
      rw [htrace, eventsOf, List.filterMap_append, List.filterMap_map]
      congr 1
      exact List.filterMap_some
    exact hsplit ▸ hevent
  rcases List.mem_append.mp hmem with hnew | hold
  · exact hevents ev hnew
  · exact h.events ev hold

theorem endsWith {P ev} (h : Going ord s)
    (hevent : ev.isTerminal = true) (hP : P ev) : EndsWith P (s.record (.emitted ev)) :=
  ⟨ev, eventsOf s.trace, rfl, hevent, hP, h.events⟩

/-- The terminal event of a result other than a skipped one. -/
theorem finished {res ev} (h : Going ord s)
    (hres : res.isSkipped = false) (hevent : ev.isTerminal = true) (hmatches : res.Matches ev)
    (hacq : res.isSuccess = true → ∀ r, s.trace.count (.acquired r) = 1) :
    Finished res (s.record (.emitted ev)) := by
  refine ⟨?_, ?_, ?_, fun hsuccess r => ?_⟩
  · rw [hres, if_neg Bool.false_ne_true]
    exact h.endsWith hevent hmatches
  · simp [record, h.success]
  · simp [record, h.skipped, hres]
  · simpa [record] using hacq hsuccess r

theorem record {o} (h : Going ord s) (ho : ∃ r, o = .acquired r ∨ o = .released r) :
    Going ord (s.record o) := by
  obtain ⟨r, rfl | rfl⟩ := ho <;>
    exact ⟨h.order, h.events, by simpa [ServiceState.record] using h.success,
      by simpa [ServiceState.record] using h.skipped⟩

end Going

/-! ### What is held -/

/-- What became of a resource. -/
inductive Custody where
  | untouched
  | held
  | released
  deriving DecidableEq, Repr

namespace Custody

/-- How often it was acquired. -/
def acquisitions : Custody → Nat
  | untouched => 0
  | held => 1
  | released => 1

/-- How often it was released. -/
def releases : Custody → Nat
  | untouched => 0
  | held => 0
  | released => 1

end Custody

/-- The trace accounts for every resource. -/
def Accounts (custody : Resource → Custody) (trace : List Occurrence) : Prop :=
  ∀ r, trace.count (.acquired r) = (custody r).acquisitions ∧
    trace.count (.released r) = (custody r).releases

namespace Accounts

variable {custody : Resource → Custody} {trace : List Occurrence} {r : Resource}

theorem acquire (h : Accounts custody trace) (hr : custody r = .untouched) :
    Accounts (Function.update custody r .held) (.acquired r :: trace) := by
  intro r'
  obtain ⟨hacq, hrel⟩ := h r'
  by_cases heq : r' = r
  · subst heq
    simp [hacq, hrel, hr, Custody.acquisitions, Custody.releases]
  · simp [hacq, hrel, Function.update_of_ne heq, Ne.symm heq]

theorem release (h : Accounts custody trace) (hr : custody r = .held) :
    Accounts (Function.update custody r .released) (.released r :: trace) := by
  intro r'
  obtain ⟨hacq, hrel⟩ := h r'
  by_cases heq : r' = r
  · subst heq
    simp [hacq, hrel, hr, Custody.acquisitions, Custody.releases]
  · simp [hacq, hrel, Function.update_of_ne heq, Ne.symm heq]

theorem emitted {ev} (h : Accounts custody trace) : Accounts custody (.emitted ev :: trace) := by
  intro r'
  simpa using h r'

end Accounts

/-- Does the context still hold a resource? -/
def RunExecutionContext.holds (context : RunExecutionContext) : Resource → Bool
  | .lease => context.lease
  | .activeRun => context.activeRun
  | .targetSession => context.targetSession

namespace ServiceState

/-- Is a resource held by the context? -/
def holds (s : ServiceState) (r : Resource) : Bool :=
  match s.context with
  | some context => context.holds r
  | none => false

/-- There is nothing left to close. -/
def isClosed (s : ServiceState) : Bool :=
  match s.context with
  | some context => context.closed
  | none => true

end ServiceState

variable {s : ServiceState}

theorem holds_of_context_none {r : Resource} (h : s.context = none) : s.holds r = false := by
  simp [holds, h]

variable {ctx : RunExecutionContext}

theorem holds_of_context_some
    (h : s.context = some ctx) (r : Resource) : s.holds r = ctx.holds r := by
  simp [holds, h]

/-- What the context holds is what has been acquired and not released. -/
structure Accounted (s : ServiceState) : Prop where
  accounts : ∃ custody, Accounts custody s.trace ∧ ∀ r, custody r = .held ↔ s.holds r = true
  /-- Once the target was to be closed, its session is gone. -/
  attempted : ∀ context, s.context = some context → context.targetCloseAttempted = true →
    context.targetSession = false

variable {ctx' : RunExecutionContext}

theorem Accounted.change
    (h : Accounted s) (hs : s.context = some ctx) (hholds : ∀ r, ctx'.holds r = ctx.holds r)
    (hatt : ctx'.targetCloseAttempted = true → ctx'.targetSession = false) :
    Accounted ⟨s.trace, some ctx'⟩ := by
  obtain ⟨custody, hacc, hheld⟩ := h.accounts
  refine ⟨⟨custody, hacc, fun r => ?_⟩, ?_⟩
  · rw [hheld r, holds_of_context_some hs, ← hholds r]
    rfl
  · rintro _ ⟨⟩ hattempt
    exact hatt hattempt

/-- Everything that was acquired has been released, once. -/
def Released (s : ServiceState) : Prop :=
  ∀ r, s.trace.count (.acquired r) ≤ 1 ∧
    s.trace.count (.released r) = s.trace.count (.acquired r)

theorem Accounted.released (h : Accounted s) (hholds : ∀ r, s.holds r = false) : Released s := by
  intro r
  obtain ⟨custody, hacc, hheld⟩ := h.accounts
  obtain ⟨hacq, hrel⟩ := hacc r
  have hnot : custody r ≠ .held := fun heq => by simpa [hholds r] using (hheld r).mp heq
  rw [hacq, hrel]
  rcases hcustody : custody r with _ | _ | _
  · exact ⟨Nat.zero_le 1, rfl⟩
  · exact absurd hcustody hnot
  · exact ⟨le_refl 1, rfl⟩

/-- The context gives something back, or does nothing; it reports nothing. -/
structure Sheds (s t : ServiceState) : Prop where
  report : SameReport s t
  accounted : Accounted t
  holds : ∀ r, s.holds r = false → t.holds r = false
  closed : t.isClosed = s.isClosed

namespace Sheds

variable {s t u : ServiceState}

theorem refl (h : Accounted s) : Sheds s s := ⟨.refl s, h, fun _ hr => hr, rfl⟩

theorem trans (h₁ : Sheds s t) (h₂ : Sheds t u) : Sheds s u :=
  ⟨h₁.report.trans h₂.report, h₂.accounted, fun r hr => h₂.holds r (h₁.holds r hr),
    h₂.closed.trans h₁.closed⟩

/-- A change of the context that concerns no resource. -/
theorem change (h : Accounted s)
    (hs : s.context = some ctx) (hholds : ∀ r, ctx'.holds r = ctx.holds r)
    (hatt : ctx'.targetCloseAttempted = true → ctx'.targetSession = false)
    (hclosed : ctx'.closed = ctx.closed) : Sheds s ⟨s.trace, some ctx'⟩ :=
  ⟨.of_trace rfl, h.change hs hholds hatt,
    fun r hr => (hholds r).trans ((holds_of_context_some hs r).symm.trans hr),
    by simp [isClosed, hs, hclosed]⟩

/-- A resource is released and no longer held. -/
theorem release {r : Resource} (h : Accounted s) (hs : s.context = some ctx)
    (ht : t = ⟨.released r :: s.trace, some ctx'⟩) (hr : ctx.holds r = true)
    (hr' : ctx'.holds r = false) (hholds : ∀ r', r' ≠ r → ctx'.holds r' = ctx.holds r')
    (hatt : ctx'.targetCloseAttempted = true → ctx'.targetSession = false)
    (hclosed : ctx'.closed = ctx.closed) : Sheds s t := by
  subst ht
  obtain ⟨custody, hacc, hheld⟩ := h.accounts
  have hcustody : custody r = .held := (hheld r).mpr (by simp [ServiceState.holds, hs, hr])
  have hother : ∀ r', r' ≠ r → ctx'.holds r' = s.holds r' := by
    intro r' hne
    simp [ServiceState.holds, hs, hholds r' hne]
  refine ⟨.released rfl, ⟨⟨Function.update custody r .released, hacc.release hcustody,
    fun r' => ?_⟩, ?_⟩, fun r' hnot => ?_, ?_⟩
  · by_cases heq : r' = r
    · subst heq
      simp [ServiceState.holds, hr']
    · rw [Function.update_of_ne heq, hheld r', ← hother r' heq]
      rfl
  · rintro _ ⟨⟩ hattempt
    exact hatt hattempt
  · by_cases heq : r' = r
    · exact heq ▸ hr'
    · exact (hother r' heq).trans hnot
  · simp [isClosed, hs, hclosed]

end Sheds

/-! ### Closing the context -/

section closing

variable {s : ServiceState} {E : Thrown → ServiceState → Prop} {ord : Option EventOrder}

theorem ensures_withContext {α : Type} {otherwise : α} {f Q}
    (hsome : ∀ ctx, s.context = some ctx → Ensures ord (f ctx) Q E s)
    (hnone : s.context = none → Q otherwise s) : Ensures ord (withContext otherwise f) Q E s := by
  show Ensures ord (match s.context with | some ctx => f ctx | none => pure otherwise) Q E s
  split
  · next ctx hctx => exact hsome ctx hctx
  · next hctx => exact hnone hctx

@[simp] theorem ensures_updateContext {f Q} :
    Ensures ord (updateContext f) Q E s ↔ Q () (s.update f) := Iff.rfl

theorem update_of_context_some (h : s.context = some ctx)
    (f : RunExecutionContext → RunExecutionContext) : s.update f = ⟨s.trace, some (f ctx)⟩ := by
  simp [update, h]

theorem update_of_context_none (h : s.context = none)
    (f : RunExecutionContext → RunExecutionContext) : s.update f = s := by
  rcases s with ⟨trace, _ | ctx⟩
  · rfl
  · cases h

/-- The same for a context that may not be there. -/
theorem Sheds.update {f} (h : Accounted s) (hholds : ∀ ctx r, (f ctx).holds r = ctx.holds r)
    (hatt : ∀ ctx, (f ctx).targetCloseAttempted = ctx.targetCloseAttempted)
    (hclosed : ∀ ctx, (f ctx).closed = ctx.closed) : Sheds s (s.update f) := by
  rcases hctx : s.context with _ | ctx
  · rw [update_of_context_none hctx]
    exact .refl h
  · rw [update_of_context_some hctx]
    refine .change h hctx (hholds ctx) (fun hattempt => ?_) (hclosed ctx)
    rw [hatt ctx] at hattempt
    exact (hholds ctx .targetSession).trans (h.attempted ctx hctx hattempt)

theorem ensures_closeTargetSession (h : Accounted s) :
    Ensures ord closeTargetSession (fun _ t => Sheds s t ∧ t.holds .targetSession = false) E s := by
  refine ensures_withContext (fun ctx hctx => ?_) fun hnone =>
    ⟨.refl h, holds_of_context_none hnone⟩
  by_cases hatt : ctx.targetCloseAttempted = true
  · rw [if_pos hatt]
    exact ⟨.refl h, (holds_of_context_some hctx _).trans (h.attempted ctx hctx hatt)⟩
  · rw [if_neg hatt, ensures_bind, ensures_updateContext, update_of_context_some hctx]
    by_cases hses : ctx.targetSession = true
    · rw [if_pos hses, ensures_bind]
      refine ensures_askNoexcept fun answer => ?_
      refine ⟨Sheds.release h hctx rfl hses rfl (fun r hr => ?_) (fun _ => rfl) rfl, rfl⟩
      cases r <;> first | rfl | exact absurd rfl hr
    · rw [if_neg hses]
      have hnone : ctx.targetSession = false := Bool.not_eq_true _ ▸ hses
      exact ⟨Sheds.change h hctx (fun r => by cases r <;> rfl) (fun _ => hnone) rfl, hnone⟩

/-- A recorded failure changes nothing else. -/
theorem recordCloseFailure_eq (stage : RunExecutionContextCloseStage) (msg : Option String)
    (ctx : RunExecutionContext) : ∃ failures,
      ctx.recordCloseFailure stage msg = { ctx with failures := failures } := by
  cases msg with
  | none => exact ⟨ctx.failures, rfl⟩
  | some msg => exact ⟨ctx.failures ++ [(stage, msg)], rfl⟩

section

variable (h : Accounted s)
include h

theorem ensures_recordCloseFailure {stage msg} :
    Ensures ord (updateContext (.recordCloseFailure stage msg)) (fun _ t => Sheds s t) E s := by
  refine Sheds.update h (fun ctx r => ?_) (fun ctx => ?_) (fun ctx => ?_) <;>
    obtain ⟨failures, heq⟩ := recordCloseFailure_eq stage msg ctx <;> rw [heq]
  cases r <;> rfl

theorem ensures_closeCancellationWatch :
    Ensures ord closeCancellationWatch (fun _ t => Sheds s t) E s := by
  refine ensures_withContext (fun ctx hctx => ?_) fun _ => .refl h
  split
  · rw [ensures_bind]
    refine ensures_askNoexcept fun answer => ?_
    obtain ⟨failures, heq⟩ := recordCloseFailure_eq .cancellationWatch answer.diagnostic ctx
    rw [ensures_updateContext, update_of_context_some hctx, heq]
    exact .change h hctx (fun r => by cases r <;> rfl) (h.attempted ctx hctx) rfl
  · exact .refl h

theorem ensures_closeActiveRun :
    Ensures ord closeActiveRun (fun _ t => Sheds s t ∧ t.holds .activeRun = false) E s := by
  refine ensures_withContext (fun ctx hctx => ?_) fun hnone =>
    ⟨.refl h, holds_of_context_none hnone⟩
  by_cases hactive : ctx.activeRun = true
  · rw [if_pos hactive, ensures_bind]
    refine ensures_askNoexcept fun answer => ?_
    obtain ⟨failures, heq⟩ := recordCloseFailure_eq .activeRun answer.diagnostic ctx
    rw [ensures_bind, ensures_occur, ensures_updateContext,
      update_of_context_some (s := s.record _) hctx, heq]
    refine ⟨.release h hctx rfl hactive rfl (fun r hr => ?_) (h.attempted ctx hctx)
      rfl, rfl⟩
    cases r <;> first | rfl | exact absurd rfl hr
  · rw [if_neg hactive]
    exact ⟨.refl h, (holds_of_context_some hctx _).trans (Bool.not_eq_true _ ▸ hactive)⟩

theorem ensures_clearCancellationRequest :
    Ensures ord clearCancellationRequest (fun _ t => Sheds s t) E s := by
  refine ensures_withContext (fun ctx hctx => ?_) fun _ => .refl h
  rw [ensures_bind, ensures_attempt]
  exact ensures_ask (fun _ => .refl h) fun e => ensures_recordCloseFailure h

theorem ensures_collectTargetSessionFailure : Ensures ord collectTargetSessionFailure
      (fun _ t => Sheds s t ∧ t.holds .targetSession = false) E s := by
  refine ensures_seq (ensures_closeTargetSession h) fun error t ht => ?_
  refine ensures_mono (ensures_recordCloseFailure ht.1.accounted) (fun _ u hu => ?_)
    (fun _ _ he => he)
  exact ⟨ht.1.trans hu, hu.holds _ ht.2⟩

theorem ensures_releaseLease :
    Ensures ord releaseLease (fun _ t => Sheds s t ∧ t.holds .lease = false) E s := by
  refine ensures_withContext (fun ctx hctx => ?_) fun hnone =>
    ⟨.refl h, holds_of_context_none hnone⟩
  by_cases hlease : ctx.lease = true
  · rw [if_pos hlease, ensures_bind, ensures_occur, ensures_updateContext,
      update_of_context_some (s := s.record _) hctx]
    refine ⟨.release h hctx rfl hlease rfl (fun r hr => ?_) (h.attempted ctx hctx)
      rfl, rfl⟩
    cases r <;> first | rfl | exact absurd rfl hr
  · rw [if_neg hlease]
    exact ⟨.refl h, (holds_of_context_some hctx _).trans (Bool.not_eq_true _ ▸ hlease)⟩

end

/-- The state of a run that can be closed: a closed context holds nothing. -/
structure Consistent (s : ServiceState) : Prop where
  accounted : Accounted s
  closed : s.isClosed = true → ∀ r, s.holds r = false

/-- `close` gives back everything and reports nothing. -/
theorem ensures_close (h : Consistent s) :
    Ensures ord close (fun _ t => Consistent t ∧ SameReport s t ∧ Released t) E s := by
  refine ensures_withContext (fun ctx hctx => ?_) fun hnone => ?_
  · by_cases hclosed : ctx.closed = true
    · rw [if_pos hclosed]
      have hholds := h.closed (by simpa [isClosed, hctx] using hclosed)
      exact ⟨h, .refl s, h.accounted.released hholds⟩
    · rw [if_neg hclosed, ensures_bind, ensures_updateContext, update_of_context_some hctx]
      have hstart : Accounted ⟨s.trace, some { ctx with closed := true }⟩ :=
        h.accounted.change hctx (fun r => by cases r <;> rfl)
          (h.accounted.attempted ctx hctx)
      refine ensures_seq (ensures_closeCancellationWatch hstart) fun _ t₁ h₁ => ?_
      rw [ensures_bind, ensures_updateContext]
      have h₂ : Sheds t₁ (t₁.update fun ctx =>
          { ctx with events := false, checkpoints := false }) :=
        .update h₁.accounted (fun _ r => by cases r <;> rfl) (fun _ => rfl) (fun _ => rfl)
      refine ensures_seq (ensures_closeActiveRun h₂.accounted) fun _ t₃ h₃ => ?_
      refine ensures_seq (ensures_clearCancellationRequest h₃.1.accounted) fun _ t₄ h₄ => ?_
      refine ensures_seq (ensures_collectTargetSessionFailure h₄.accounted) fun _ t₅ h₅ => ?_
      refine ensures_mono (ensures_releaseLease h₅.1.accounted) (fun _ t₆ h₆ => ?_)
        (fun _ _ he => he)
      -- each resource was given back at its own stage and stays so
      have hholds : ∀ r, t₆.holds r = false := by
        intro r
        cases r with
        | lease => exact h₆.2
        | activeRun => exact h₆.1.holds _ (h₅.1.holds _ (h₄.holds _ h₃.2))
        | targetSession => exact h₆.1.holds _ h₅.2
      have hsheds := (((h₁.trans h₂).trans h₃.1).trans h₄).trans (h₅.1.trans h₆.1)
      have hreport := hsheds.report
      exact ⟨⟨h₆.1.accounted, fun _ => hholds⟩,
        ⟨hreport.events, hreport.success, hreport.skipped, hreport.acquired⟩,
          h₆.1.accounted.released hholds⟩
  · have hholds : ∀ r, s.holds r = false := fun r => holds_of_context_none hnone
    exact ⟨h, .refl s, h.accounted.released hholds⟩

end closing

end BtrfsBackup
