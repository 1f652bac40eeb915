/-
Rules for the programs of the service, and the executor.

* `EventOrder` — the run that the events are to be ordered for, if that is asked;
* `Ensures` — what holds of every end of a program, whatever the ports answer;
* `Continues` — only events that do not end the run were emitted;
* `ensures_executeRun` — the executor goes through the sources in order and reports the end it
  returns.
-/
import BtrfsBackup.BackupService
import BtrfsBackup.RunStatusProjection

open Interaction

namespace BtrfsBackup

open Status

/-! ### The order of events -/

/-- The events of a trace, the last one first. -/
def eventsOf (trace : List Occurrence) : List BackupRunEvent :=
  trace.filterMap fun
    | .emitted event => some event
    | _ => none

/-- The events are to be in the order of a run over so many sources. -/
structure EventOrder where
  runId : RunId
  count : Nat

namespace EventOrder

/-- A plan of the run: its sources are different. -/
structure Covers (order : EventOrder) (plan : BackupRunPlan) : Prop where
  run : plan.runId = order.runId
  distinct : (plan.sources.map (·.sourceId)).Nodup
  length_le : plan.sources.length ≤ order.count

/-- The events of a run that has come to source number `upTo`. -/
structure Underway (order : EventOrder) (upTo : Nat) (events : List BackupRunEvent) : Prop where
  orderly : Orderly order.runId order.count events
  earlier : ∀ event ∈ events, sourceNumber event ≤ upTo ∧ (kindOf event).isFinal = false

variable {o : EventOrder} {m n : Nat} {l : List BackupRunEvent} {ev : BackupRunEvent}

/-- An event of the source that the run has come to. -/
theorem Underway.emit (h : o.Underway m l) (hm : m ≤ n)
    (hdata : runOf ev = o.runId ∧ sourceNumber ev = n ∧ n ≤ o.count)
    (hstart : kindOf ev ≠ .runStarted) (hgoing : ev.isTerminal = false) :
    o.Underway n (ev :: l) := by
  obtain ⟨hrun, rfl, hn⟩ := hdata
  have hlater : ∀ other ∈ l, sourceNumber other ≤ sourceNumber ev ∧
      (kindOf other).isFinal = false := fun other hother =>
    ⟨(h.earlier other hother).1.trans hm, (h.earlier other hother).2⟩
  refine ⟨⟨h.orderly, hrun, fun hkind => absurd hkind hstart, hn, ?_⟩,
    List.forall_mem_cons.mpr ⟨⟨le_rfl, ?_⟩, hlater⟩⟩
  · rintro source rfl
    exact hlater
  · cases ev <;> first | rfl | cases hgoing

/-- An event that ends the run. -/
theorem orderly_end (h : Orderly o.runId o.count l) (hend : ev.isTerminal = true)
    (hdata : runOf ev = o.runId ∧ sourceNumber ev ≤ o.count) :
    Orderly o.runId o.count (ev :: l) := by
  refine ⟨h, hdata.1, fun hkind => ?_, hdata.2, fun source hcompleted => ?_⟩
  · cases ev <;> first | (cases hend; done) | cases hkind
  · rw [hcompleted] at hend
    cases hend

/-- The position of a source in its plan. -/
theorem Covers.sourceIndexForEvent_eq {plan : BackupRunPlan} {src : BackupSourceRunPlan}
    {before after : List BackupSourceRunPlan} (hplan : o.Covers plan)
    (h : plan.sources = before ++ src :: after) :
    sourceIndexForEvent plan src = before.length + 1 := by
  have hbefore : before.findIdx? (fun other => decide (other.sourceId = src.sourceId)) = none := by
    refine List.findIdx?_eq_none_iff.mpr fun other hother => decide_eq_false fun hsame => ?_
    have hdistinct := hplan.distinct
    rw [h, List.map_append, List.map_cons] at hdistinct
    exact List.disjoint_of_nodup_append hdistinct (List.mem_map.mpr ⟨other, hother, hsame⟩)
      List.mem_cons_self
  simp [sourceIndexForEvent, h, List.findIdx?_append, hbefore, List.findIdx?_cons]

/-- The planned sources are the enabled ones; they are different, and none was seen before. -/
theorem buildSources_distinct {ctx} : ∀ {seen srcs plans},
    buildSources ctx seen srcs = .ok plans →
      (plans.map (·.sourceId)).Nodup ∧ (∀ plan ∈ plans, plan.sourceId ∉ seen) ∧
        plans.length = srcs.countP (·.enabled)
  | _, [], plans, h => by
    obtain rfl := Except.ok.inj h
    simp
  | seen, src :: srcs, plans, h => by
    rw [buildSources] at h
    rw [List.countP_cons]
    split_ifs at h with henabled hseen
    · have hoff : src.enabled = false := by simpa using henabled
      simpa [hoff] using buildSources_distinct h
    · obtain ⟨plan, hplan, h⟩ := bind_eq_ok.mp h
      obtain ⟨rest, hrest, h⟩ := bind_eq_ok.mp h
      obtain rfl := Except.ok.inj h
      obtain ⟨parts⟩ := buildSourceRunPlan_eq_ok hplan
      obtain ⟨hnodup, hunseen, hlength⟩ := buildSources_distinct hrest
      simp only [List.mem_cons, not_or] at hunseen
      refine ⟨?_, ?_, by simpa [hlength] using henabled⟩
      · rw [List.map_cons, List.nodup_cons, parts.sourceId_eq]
        simpa using ⟨fun other hother => (hunseen other hother).1, hnodup⟩
      · rw [List.forall_mem_cons, parts.sourceId_eq]
        exact ⟨hseen, fun other hother => (hunseen other hother).2⟩

/-- `source_count` of `status_description`. -/
def sourceCount (profile : Profile) : Nat := profile.sources.countP (·.enabled)

theorem covers_buildBackupRunPlan {ctx plan} (h : buildBackupRunPlan ctx = .ok plan) :
    Covers ⟨ctx.runId, sourceCount ctx.profile⟩ plan := by
  obtain ⟨plans, hplans, h⟩ := bind_eq_ok.mp h
  obtain rfl := Except.ok.inj h
  obtain ⟨hdistinct, -, hlength⟩ := buildSources_distinct hplans
  exact ⟨rfl, hdistinct, hlength.le⟩

end EventOrder

/-! ### Rules for programs of the service -/

/-- From `s`, whatever the ports answer, the program ends in `Q` or throws in
`E`.  If an order is asked, the plans they answer with are of its run. -/
def Ensures {α : Type} (ord : Option EventOrder) (p : Service α) (Q : α → ServiceState → Prop)
    (E : Thrown → ServiceState → Prop) (s : ServiceState) : Prop :=
  p.wp (fun _ answer => ∀ o ∈ ord, o.Covers answer.plan) (fun _ => True) Q E s

section rules

variable {α β : Type} {Q : α → ServiceState → Prop} {E : Thrown → ServiceState → Prop}
  {s : ServiceState} {ord : Option EventOrder}

variable {p : Service α} {k : α → Service β}

@[simp] theorem ensures_bind {Q} :
    Ensures ord (p >>= k) Q E s ↔ Ensures ord p (fun a t => Ensures ord (k a) Q E t) E s :=
  Prog.wp_bind p k

@[simp] theorem ensures_handleError {h} :
    Ensures ord (p.handleError h) Q E s ↔ Ensures ord p Q (fun e t => Ensures ord (h e) Q E t) s :=
  Prog.wp_handleError p h

@[simp] theorem ensures_attempt {Q} :
    Ensures ord p.attempt Q E s ↔ Ensures ord p (fun a => Q (.ok a)) (fun e => Q (.error e)) s :=
  Prog.wp_attempt p

@[simp] theorem ensures_occur {o Q} :
    Ensures ord (occur o) Q E s ↔ Q () (s.record o) := Iff.rfl

@[simp] theorem ensures_emit {ev Q} :
    Ensures ord (emit ev) Q E s ↔ Q () (s.record (.emitted ev)) := Iff.rfl

theorem ensures_askNoexcept {call Q} (hQ : ∀ answer, Q answer s) :
    Ensures ord (askNoexcept call) Q E s :=
  ⟨trivial, fun answer _ => hQ answer⟩

theorem ensures_ask_plan {call Q} (hQ : ∀ answer, (∀ o ∈ ord, o.Covers answer.plan) → Q answer s)
    (hE : ∀ e, E e s) : Ensures ord (ask call) Q E s := by
  refine ⟨trivial, fun answer hanswer => ?_⟩
  rcases hthrown : answer.thrown with _ | e
  · simpa [hthrown] using hQ answer hanswer
  · simpa [hthrown] using hE e

theorem ensures_ask {call Q}
    (hQ : ∀ answer, Q answer s) (hE : ∀ e, E e s) : Ensures ord (ask call) Q E s :=
  ensures_ask_plan (fun answer _ => hQ answer) hE

theorem ensures_cancellationRequested {Q} (hQ : ∀ b, Q b s) :
    Ensures ord cancellationRequested Q E s := by
  rw [cancellationRequested, ensures_bind]
  exact ensures_askNoexcept fun answer => hQ answer.flag

theorem ensures_mono {Q' E'} (h : Ensures ord p Q E s) (hQ : ∀ a t, Q a t → Q' a t)
    (hE : ∀ e t, E e t → E' e t) : Ensures ord p Q' E' s :=
  Prog.wp_mono h (fun _ ht => ht) hQ hE

theorem Ensures.play (h : Ensures ord p Q E s) (answers : Nat → ServiceAnswer)
    (hanswers : ∀ k, ∀ o ∈ ord, o.Covers (answers k).plan) :
    match p.play answers s with
    | (.ok a, t) => Q a t
    | (.error e, t) => E e t := by
  have hspec := @Prog.play_spec _ _ _ _ _ _ _ _ _ _ _ h answers fun _ => hanswers
  generalize p.play answers s = outcome at hspec ⊢
  rcases outcome with ⟨e | a, t⟩ <;> exact hspec

/-- A spec used for the first part of a sequence. -/
theorem ensures_seq {R Q}
    (h : Ensures ord p R E s) (hk : ∀ a t, R a t → Ensures ord (k a) Q E t) :
    Ensures ord (p >>= k) Q E s :=
  Prog.wp_seq h hk

end rules

/-! ### The executor -/

/-- From `s` to `t` only events that do not end the run were emitted. -/
structure Continues (s t : ServiceState) : Prop where
  context : t.context = s.context
  trace : ∃ events : List BackupRunEvent, (∀ event ∈ events, event.isTerminal = false) ∧
    t.trace = events.map .emitted ++ s.trace

namespace Continues

theorem refl (s : ServiceState) : Continues s s :=
  ⟨rfl, [], by simp, rfl⟩

theorem emit {s t ev} (h : Continues s t)
    (hevent : ev.isTerminal = false) : Continues s (t.record (.emitted ev)) := by
  obtain ⟨events, hevents, htrace⟩ := h.trace
  refine ⟨h.context, ev :: events, ?_, ?_⟩
  · simpa [hevent] using hevents
  · simp [ServiceState.record, htrace]

end Continues

/-- The executor has come to source number `upTo`: its events are in order. -/
structure Executing (ord : Option EventOrder) (upTo : Nat) (s t : ServiceState) : Prop
    extends Continues s t where
  order : ∀ o ∈ ord, o.Underway 0 (eventsOf s.trace) → o.Underway upTo (eventsOf t.trace)

/-- The executor has reported the end it returns: nothing for a completed run,
the terminal event otherwise. -/
def ReportedEnd (ord : Option EventOrder) (s : ServiceState) :
    BackupRunExecutionResult → ServiceState → Prop
  | .completed _, t => ∃ n, Executing ord n s t
  | .cancelled _, t => ∃ n u event, Executing ord n s u ∧
      (∀ o ∈ ord, event.runId = o.runId ∧ event.sourceIndex ≤ o.count) ∧
      t = u.record (.emitted (.runCancelled event))
  | .failed errorCode message _, t => ∃ n u event, Executing ord n s u ∧
      event.errorCode = errorCode ∧ event.message = message ∧ (∀ o ∈ ord, event.runId = o.runId) ∧
      t = u.record (.emitted (.runFailed event))

/-- The same for a part of the loop. -/
def ReportedExit (ord : Option EventOrder) (upTo : Nat) (s : ServiceState) :
    LoopExit → ServiceState → Prop
  | .returned result, t => ReportedEnd ord s result t
  | .goesOn .., t => Executing ord upTo s t

section executor

variable {plan : BackupRunPlan} {src : BackupSourceRunPlan} {s₀ s t : ServiceState} {m k n : Nat}
  {bytes : UInt64} {ord : Option EventOrder}

theorem Executing.refl (s : ServiceState) : Executing ord 0 s s :=
  { Continues.refl s with order := fun _ _ h => h }

theorem Executing.emit {ev} (h : Executing ord m s t) (hm : m ≤ k)
    (hdata : ∀ o ∈ ord, runOf ev = o.runId ∧ sourceNumber ev = k ∧ k ≤ o.count)
    (hstart : kindOf ev ≠ .runStarted) (hgoing : ev.isTerminal = false) :
    Executing ord k s (t.record (.emitted ev)) :=
  { h.toContinues.emit hgoing with
    order := fun o ho hs => (h.order o ho hs).emit hm (hdata o ho) hstart hgoing }

section source

variable (hsource : ∀ o ∈ ord, plan.runId = o.runId ∧ sourceIndexForEvent plan src = k ∧
  k ≤ o.count)
include hsource

theorem ensures_emitCancelled {kind code} {message : String} {E} (h : Executing ord m s₀ s) :
    Ensures ord (emitCancelled plan src kind code message)
    (fun _ t => ReportedEnd ord s₀ (.cancelled n) t) E s :=
  ⟨m, s, _, h, fun o ho => ⟨(hsource o ho).1, (hsource o ho).2.1.trans_le (hsource o ho).2.2⟩, rfl⟩

variable (h : Executing ord k s₀ s)
include h

theorem ensures_onTransferEvent {ev E} : Ensures ord (onTransferEvent plan src bytes ev)
    (fun _ t => Executing ord k s₀ t) E s := by
  unfold onTransferEvent
  split
  · exact h
  · exact h.emit le_rfl hsource nofun rfl

theorem ensures_performAction {act} : Ensures ord (performAction plan src bytes act)
    (fun _ t => Executing ord k s₀ t) (fun _ t => Executing ord k s₀ t) s := by
  refine ⟨trivial, fun answer _ => ?_⟩
  show Ensures _ _ _ _ _
  split
  · -- a transfer: its progress, then its outcome
    rw [ensures_bind]
    refine ensures_mono (Prog.wp_forEach h
      fun ev _ t ht => ensures_onTransferEvent hsource ht) (fun _ t ht => ?_) (fun _ _ ht => ht)
    split <;> exact ht
  · dsimp only
    split <;> exact h

/-- One action: either the loop goes on quietly, or the end is reported. -/
theorem ensures_executeOneAction {act} : Ensures ord (executeOneAction plan src n bytes act)
    (ReportedExit ord k s₀) (fun _ t => Executing ord k s₀ t) s := by
  have hstarted : Executing ord k s₀
      (s.record (.emitted (.actionStarted (sourceOfEvent plan src) act.kind))) :=
    h.emit le_rfl hsource nofun rfl
  unfold executeOneAction
  rw [ensures_bind]
  refine ensures_cancellationRequested fun cancelled => ?_
  cases cancelled with
  | true =>
    rw [if_pos rfl, ensures_bind]
    exact ensures_emitCancelled (n := n) hsource h
  | false =>
    rw [if_neg Bool.false_ne_true, ensures_bind, ensures_emit, ensures_bind, ensures_attempt]
    refine ensures_mono (ensures_performAction hsource hstarted) (fun outcome t ht => ?_)
      (fun e t ht => ?_)
    · obtain ⟨cancelled, sent⟩ := outcome
      cases cancelled with
      | true =>
        show Ensures _ (emitCancelled _ _ _ _ _ >>= _) _ _ _
        rw [ensures_bind]
        exact ensures_emitCancelled (n := n) hsource ht
      | false =>
        show Ensures _ (emit _ >>= _) _ _ _
        rw [ensures_bind, ensures_emit, ensures_bind]
        have hcompleted : Executing ord k s₀
            (t.record (.emitted (.actionCompleted (sourceOfEvent plan src) act.kind))) :=
          ht.emit le_rfl hsource nofun rfl
        exact ensures_ask (fun answer => hcompleted.emit le_rfl hsource nofun rfl)
          (fun e => hcompleted)
    · show Ensures _ (if e.isOperationCancelled then _ else _) _ _ _
      split
      · rw [ensures_bind]
        exact ensures_emitCancelled (n := n) hsource ht
      · rw [ensures_bind]
        show Ensures _ (if e.isBtrfsBackupError then _ else _) _ _ _
        split
        · refine ⟨k, _, _, ?_, rfl, rfl, fun o ho => (hsource o ho).1, rfl⟩
          exact ht.emit le_rfl hsource nofun rfl
        · exact ht.emit le_rfl hsource nofun rfl

theorem ensures_executeActionsOf {actions} :
    Ensures ord (executeActionsOf plan src actions n bytes)
    (ReportedExit ord k s₀) (fun _ t => Executing ord k s₀ t) s := by
  induction actions generalizing n bytes s with
  | nil => exact h
  | cons act actions ih =>
    rw [executeActionsOf, ensures_bind]
    refine ensures_mono (ensures_executeOneAction hsource h) (fun exit t ht => ?_)
      (fun _ _ ht => ht)
    cases exit with
    | returned result => exact ht
    | goesOn n bytes => exact ih ht

end source

section run

variable (hplan : ∀ o ∈ ord, o.Covers plan)
include hplan

theorem ensures_executeSources {srcs} (before) (hsrcs : plan.sources = before ++ srcs)
    (h : Executing ord before.length s₀ s) :
    Ensures ord (executeSources plan srcs n bytes) (ReportedEnd ord s₀)
      (fun _ t => ∃ k, Executing ord k s₀ t) s := by
  induction srcs generalizing before n bytes s with
  | nil => exact ⟨_, h⟩
  | cons src srcs ih =>
    have hsource : ∀ o ∈ ord, plan.runId = o.runId ∧
        sourceIndexForEvent plan src = before.length + 1 ∧ before.length + 1 ≤ o.count := by
      refine fun o ho => ⟨(hplan o ho).run, (hplan o ho).sourceIndexForEvent_eq hsrcs, ?_⟩
      have hlength := (hplan o ho).length_le
      rw [hsrcs, List.length_append, List.length_cons] at hlength
      omega
    rw [executeSources, ensures_bind]
    refine ensures_cancellationRequested fun cancelled => ?_
    cases cancelled with
    | true =>
      rw [if_pos rfl, ensures_bind]
      exact ensures_emitCancelled (n := n) hsource h
    | false =>
      rw [if_neg Bool.false_ne_true, ensures_bind, ensures_emit, ensures_bind]
      have hstarted : Executing ord (before.length + 1) s₀
          (s.record (.emitted (.sourceStarted (sourceOfEvent plan src)))) :=
        h.emit (Nat.le_succ _) hsource nofun rfl
      refine ensures_mono (ensures_executeActionsOf hsource hstarted) (fun exit t ht => ?_)
        (fun _ _ ht => ⟨_, ht⟩)
      cases exit with
      | returned result => exact ht
      | goesOn n bytes =>
        show Ensures _ (emit _ >>= _) _ _ _
        rw [ensures_bind, ensures_emit]
        refine ih (before ++ [src]) (by simp [hsrcs]) ?_
        rw [List.length_append]
        exact ht.emit le_rfl hsource nofun rfl

/-- A run of the executor reports the end it returns; when it throws, it has not
reported any. -/
theorem ensures_executeRun (s : ServiceState) : Ensures ord (executeRun plan)
    (ReportedEnd ord s) (fun _ t => ∃ k, Executing ord k s t) s := by
  rw [executeRun, ensures_bind]
  exact ensures_ask (fun _ => ensures_executeSources hplan [] rfl (.refl s))
    (fun _ => ⟨0, .refl s⟩)

end run

end executor

end BtrfsBackup
