/-
The progress of a run does not go back.

The percentage of a status is computed anew for every event, and then not let fall below the last
one that was shown.  What has been shown before a source is completed is at most the part of the
sources up to it.

* `estimatedOverallProgress_le`, `overallPercent_bounds` — the percentage of one event;
* `Tracks` — what the members of the projection say about the statuses before;
* `progress_advances` — the statuses of a run whose events are `Orderly`, as those of the service
  are (`orderly_startLoadedProfile`).
-/
import BtrfsBackup.RunStatusProjection

namespace BtrfsBackup

open List

namespace Status

section statuses

variable (round : ℚ → ℚ) (count : Nat) (answers : Nat → SinkAnswer)

/-- The members of the projection after some events. -/
def stateAfter : List BackupRunEvent → ProjectionState
  | [] => .initial
  | event :: earlier =>
    (onBackupRunEvent round count (answers earlier.length) (stateAfter earlier) event).state

/-- The events that have a status, with its progress; whether it is published or not. -/
def shown : List BackupRunEvent → List (BackupRunEvent × RunProgress)
  | [] => []
  | event :: earlier =>
    (onBackupRunEvent round count (answers earlier.length) (stateAfter round count answers earlier)
      event).progress.toList.map (event, ·) ++ shown earlier

end statuses

/-! ### One event -/

section event

variable (round : ℚ → ℚ) (count : Nat) (data : RunEventData)

/-- Up to source number `i` the estimate is at most the part of the sources up to `i`. -/
theorem estimatedOverallProgress_le {i : Nat} (sourceProgress : Int)
    (hfinal : data.kind.isFinal = false) (hi : data.sourceIndex ≤ i) :
    estimatedOverallProgress count data sourceProgress ≤ 100 * i / count := by
  have hbound0 : (0 : Int) ≤ 100 * i / count := Int.ediv_nonneg (by omega) (by omega)
  -- the number of hundredths that an estimate divides by the number of sources
  have hdiv : ∀ parts : Int, 0 < count → 0 ≤ parts → parts ≤ 100 * i →
      parts.tdiv count ≤ 100 * i / count := by
    intro parts hcount hparts hle
    rw [Int.tdiv_eq_ediv_of_nonneg hparts]
    exact Int.ediv_le_ediv (by omega) hle
  have hkinds : ¬ (data.kind = .runCompleted ∨ data.kind = .targetValidationCompleted) := by
    simpa [BackupRunEventKind.isFinal] using hfinal
  rw [estimatedOverallProgress]
  split_ifs with hcount hcompleted hunknown hsrc hknown
  · omega
  · refine hdiv _ (by omega) ?_ ?_
    · rw [clamp]
      split_ifs
      all_goals omega
    · rw [clamp]
      split_ifs
      all_goals omega
  · omega
  · refine hdiv _ (by omega) ?_ ?_
    · simp only [clamp]
      split_ifs
      all_goals omega
    · simp only [clamp]
      split_ifs
      all_goals omega
  · refine hdiv _ (by omega) ?_ ?_
    · rw [clamp]
      split_ifs
      all_goals omega
    · rw [clamp]
      split_ifs
      all_goals omega
  · exact hbound0

/-- The estimate never passes a hundred. -/
theorem estimatedOverallProgress_le_hundred (sourceProgress : Int)
    (hindex : data.sourceIndex ≤ count) :
    estimatedOverallProgress count data sourceProgress ≤ 100 := by
  rcases Nat.eq_zero_or_pos count with rfl | hcount
  · rw [estimatedOverallProgress, if_pos (by omega)]
    decide
  cases hfinal : data.kind.isFinal with
  | false =>
    have hbound := estimatedOverallProgress_le count data sourceProgress hfinal hindex
    rwa [Int.mul_ediv_cancel _ (by omega)] at hbound
  | true =>
    have hkinds : data.kind = .runCompleted ∨ data.kind = .targetValidationCompleted := by
      simpa [BackupRunEventKind.isFinal] using hfinal
    rw [estimatedOverallProgress, if_neg (by omega), if_pos hkinds]

/-- What the status of an event shows of the run: nothing, or a value that is neither below the
minimum nor above the estimate and the minimum. -/
theorem overallPercent_bounds {minimum value : Int}
    (h : (progressForEvent round count data minimum).overallPercent = some value) :
    0 ≤ value ∧ (data.kind ≠ .runStarted → minimum ≤ value) ∧
      ∃ sourceProgress,
        value ≤ max (estimatedOverallProgress count data sourceProgress) minimum := by
  simp only [progressForEvent, nonNegative] at h
  generalize (if data.kind == .transferProgress then estimatedSourceProgress round data else -1) =
    sourceProgress at h
  split_ifs at h with hminimum hnegative hnegative
  · cases h
    exact ⟨by omega, fun _ => by omega, sourceProgress, le_rfl⟩
  · cases h
    refine ⟨by omega, fun hkind => ?_, sourceProgress, le_max_left _ _⟩
    -- the minimum was not used, so there was none
    by_contra hless
    exact hminimum ⟨by omega, by omega, hkind⟩

end event

/-! ### What the projection remembers -/

theorem le_max_bytes (a b : UInt64) : a ≤ max a b ∧ b ≤ max a b := by
  show a ≤ (if a ≤ b then b else a) ∧ b ≤ (if a ≤ b then b else a)
  split_ifs with h
  · exact ⟨h, UInt64.le_refl b⟩
  · exact ⟨UInt64.le_refl a, UInt64.le_of_lt (UInt64.not_le.mp h)⟩

/-- The members when the status of an event is built: nothing has changed that the progress depends
on, or everything starts anew. -/
theorem observe_cases (state : ProjectionState) (data : RunEventData) :
    (state.observe data).runId = some data.runId ∧
      (∀ pending ∈ (state.observe data).pendingActionFailure,
        pending ∈ state.pendingActionFailure ∨ pending.sourceIndex = data.sourceIndex) ∧
      ((state.runId = some data.runId ∧ data.kind ≠ .runStarted ∧
          (state.observe data).lastOverallProgress = state.lastOverallProgress ∧
          (state.observe data).runBytesProcessed = state.runBytesProcessed) ∨
        ((state.runId ≠ some data.runId ∨ data.kind = .runStarted) ∧
          (state.observe data).lastOverallProgress = -1 ∧
          (state.observe data).runBytesProcessed = 0)) := by
  have hnote : ∀ s : ProjectionState, ((s.noteValidation data).noteFailure data).runId = s.runId ∧
      ((s.noteValidation data).noteFailure data).lastOverallProgress = s.lastOverallProgress ∧
      ((s.noteValidation data).noteFailure data).runBytesProcessed = s.runBytesProcessed ∧
      ∀ pending ∈ ((s.noteValidation data).noteFailure data).pendingActionFailure,
        pending ∈ s.pendingActionFailure ∨ pending.sourceIndex = data.sourceIndex := by
    intro s
    have hvalidation : (s.noteValidation data).runId = s.runId ∧
        (s.noteValidation data).lastOverallProgress = s.lastOverallProgress ∧
        (s.noteValidation data).runBytesProcessed = s.runBytesProcessed ∧
        (s.noteValidation data).pendingActionFailure = s.pendingActionFailure := by
      rw [ProjectionState.noteValidation]
      split_ifs
      · exact ⟨rfl, rfl, rfl, rfl⟩
      · exact ⟨rfl, rfl, rfl, rfl⟩
    obtain ⟨hrun, hlast, hbytes, hpend⟩ := hvalidation
    rw [ProjectionState.noteFailure]
    split
    · refine ⟨hrun, hlast, hbytes, fun pending hmem => .inr ?_⟩
      cases hmem
      rfl
    · exact ⟨hrun, hlast, hbytes, fun pending hmem => .inl (hpend ▸ hmem)⟩
  obtain ⟨hrun, hlast, hbytes, hpend⟩ := hnote (state.beginRun data)
  rw [ProjectionState.observe, hrun, hlast, hbytes]
  rw [ProjectionState.beginRun] at hpend ⊢
  split_ifs at hpend ⊢ with hother hstart
  · exact ⟨rfl, fun pending hmem => .inr ((hpend pending hmem).resolve_left nofun),
      .inr ⟨.inl (Ne.symm hother), rfl, rfl⟩⟩
  · exact ⟨(not_not.mp hother).symm,
      fun pending hmem => .inr ((hpend pending hmem).resolve_left nofun),
      .inr ⟨.inr hstart, rfl, rfl⟩⟩
  · exact ⟨(not_not.mp hother).symm, hpend, .inl ⟨(not_not.mp hother).symm, hstart, rfl, rfl⟩⟩

/-- The event as the status shows it is of the same kind, about its own source or the one whose
action failed. -/
theorem complete_cases (state : ProjectionState) (data : RunEventData) :
    (state.complete data).kind = data.kind ∧ ((state.complete data).sourceIndex = data.sourceIndex ∨
        ∃ pending ∈ state.pendingActionFailure,
          (state.complete data).sourceIndex = pending.sourceIndex) := by
  rw [ProjectionState.complete]
  split
  · next pending _ hpend =>
    split_ifs
    · exact ⟨rfl, .inr ⟨pending, hpend, rfl⟩⟩
    · exact ⟨rfl, .inl rfl⟩
  · exact ⟨rfl, .inl rfl⟩

/-- A step builds no status for a checkpoint, and accounts for its status otherwise. -/
theorem onBackupRunEvent_cases (round : ℚ → ℚ) (count : Int) (ans : SinkAnswer)
    (state : ProjectionState) (ev : BackupRunEvent) :
    (onBackupRunEvent round count ans state ev).state = state ∧
        (onBackupRunEvent round count ans state ev).progress = none ∨
      ∃ progress, progress = buildProgress round count (state.observe (eventProjectionData ev))
          ((state.observe (eventProjectionData ev)).complete (eventProjectionData ev)) ∧
        (onBackupRunEvent round count ans state ev).progress = some progress ∧
        ∃ kind, (onBackupRunEvent round count ans state ev).state =
            (state.observe (eventProjectionData ev)).account progress ∨
          (onBackupRunEvent round count ans state ev).state =
            ((state.observe (eventProjectionData ev)).account progress).finish kind := by
  rw [onBackupRunEvent]
  by_cases hkind : (eventProjectionData ev).kind = .checkpointWritten
  · rw [if_pos hkind]
    exact .inl ⟨rfl, rfl⟩
  · rw [if_neg hkind]
    refine .inr ⟨_, rfl, rfl, ((state.observe (eventProjectionData ev)).complete
      (eventProjectionData ev)).kind, ?_⟩
    dsimp only
    split_ifs
    · exact .inl rfl
    · exact .inr rfl

section run

variable {round : ℚ → ℚ} {count : Nat} {answers : Nat → SinkAnswer} {runId : RunId}
  {events : List BackupRunEvent}

/-- The events are about the sources up to number `k`, and do not end the run well. -/
def UpTo (k : Nat) (events : List BackupRunEvent) : Prop :=
  ∀ event ∈ events, sourceNumber event ≤ k ∧ (kindOf event).isFinal = false

/-- What the members of the projection say about the statuses before, when the events of `seen`
have been read. -/
structure Tracks (round : ℚ → ℚ) (count : Nat) (answers : Nat → SinkAnswer) (runId : RunId)
    (events seen : List BackupRunEvent) (state : ProjectionState) : Prop where
  run : shown round count answers events ≠ [] → state.runId = some runId
  overall : ∀ old ∈ shown round count answers events, ∀ q ∈ old.2.overallPercent,
    q ≤ state.lastOverallProgress
  bytes : ∀ old ∈ shown round count answers events,
    old.2.runProcessedBytes ≤ state.runBytesProcessed
  hundred : state.lastOverallProgress ≤ 100
  pending : ∀ pending ∈ state.pendingActionFailure, pending.sourceIndex ≤ count
  upTo : ∀ k, UpTo k seen → state.lastOverallProgress ≤ 100 * k / count ∧
    ∀ pending ∈ state.pendingActionFailure, pending.sourceIndex ≤ k

/-- What they say when the status of the next event is built. -/
structure Ready (round : ℚ → ℚ) (count : Nat) (answers : Nat → SinkAnswer) (runId : RunId)
    (event : BackupRunEvent) (events : List BackupRunEvent) (state : ProjectionState) : Prop
    extends Tracks round count answers runId events (event :: events) state where
  current : state.runId = some runId
  started : kindOf event = .runStarted → shown round count answers events = []

variable {state : ProjectionState} {ev : BackupRunEvent} {progress : RunProgress}

theorem Tracks.ready (h : Tracks round count answers runId events events state)
    (horder : Orderly runId count (ev :: events)) :
    Ready round count answers runId ev events (state.observe (eventProjectionData ev)) := by
  obtain ⟨-, hrun, hstart, hnum, -⟩ := horder
  obtain ⟨hrunId, hpend, hcases⟩ := observe_cases state (eventProjectionData ev)
  have hcur := hrunId.trans (congrArg some hrun)
  have hstarted : kindOf ev = .runStarted → shown round count answers events = [] := by
    intro hkind
    rw [hstart hkind]
    rfl
  -- when everything starts anew, there is no status before
  have hnone : (state.runId ≠ some (runOf ev) ∨ kindOf ev = .runStarted) →
      shown round count answers events = [] := by
    rintro (hne | hkind)
    · by_contra hshown
      exact hne (hrun ▸ h.run hshown)
    · exact hstarted hkind
  have hminus : ∀ k : Nat, (-1 : Int) ≤ 100 * k / count := fun k =>
    le_trans (by decide) (Int.ediv_nonneg (by omega) (by omega) : (0 : Int) ≤ 100 * k / count)
  have hindexes : ∀ k : Nat, sourceNumber ev ≤ k →
      (∀ pending ∈ state.pendingActionFailure, pending.sourceIndex ≤ k) →
      ∀ pending ∈ (state.observe (eventProjectionData ev)).pendingActionFailure,
        pending.sourceIndex ≤ k := by
    intro k hk hold pending hmem
    rcases hpend pending hmem with hmem | heq
    · exact hold pending hmem
    · exact le_of_eq_of_le heq hk
  have hupTo : ∀ k, UpTo k (ev :: events) → sourceNumber ev ≤ k ∧ UpTo k events := by
    intro k hk
    obtain ⟨hevent, hevents⟩ := forall_mem_cons.mp hk
    exact ⟨hevent.1, hevents⟩
  rcases hcases with ⟨-, -, hlast, hbytes⟩ | ⟨hanew, hlast, hbytes⟩
  · refine ⟨⟨fun _ => hcur, ?_, ?_, ?_, ?_, fun k hk => ?_⟩, hcur, hstarted⟩
    · rw [hlast]
      exact h.overall
    · rw [hbytes]
      exact h.bytes
    · rw [hlast]
      exact h.hundred
    · exact hindexes count hnum h.pending
    · obtain ⟨hevent, hevents⟩ := hupTo k hk
      rw [hlast]
      exact ⟨(h.upTo k hevents).1, hindexes k hevent (h.upTo k hevents).2⟩
  · have hblank := hnone hanew
    refine ⟨⟨fun _ => hcur, ?_, ?_, ?_, ?_, fun k hk => ?_⟩, hcur, hstarted⟩
    · rw [hblank]
      exact forall_mem_nil _
    · rw [hblank]
      exact forall_mem_nil _
    · rw [hlast]
      decide
    · exact hindexes count hnum h.pending
    · obtain ⟨hevent, hevents⟩ := hupTo k hk
      rw [hlast]
      exact ⟨hminus k, hindexes k hevent (h.upTo k hevents).2⟩

/-- The percentage of the next status. -/
theorem Ready.percent {value : Int}
    (h : Ready round count answers runId ev events state) (hnum : sourceNumber ev ≤ count)
    (hvalue : (buildProgress round count state
      (state.complete (eventProjectionData ev))).overallPercent = some value) :
    0 ≤ value ∧ value ≤ 100 ∧ (kindOf ev ≠ .runStarted → state.lastOverallProgress ≤ value) ∧
      ∀ k, UpTo k (ev :: events) → value ≤ 100 * k / count := by
  obtain ⟨hkind, hindex⟩ := complete_cases state (eventProjectionData ev)
  have hprog : (progressForEvent round count (state.complete (eventProjectionData ev))
      state.lastOverallProgress).overallPercent = some value := by
    rw [buildProgress] at hvalue
    split_ifs at hvalue
    · exact hvalue
    · exact hvalue
  have hindexLe : ∀ k, sourceNumber ev ≤ k →
      (∀ pending ∈ state.pendingActionFailure, pending.sourceIndex ≤ k) →
      (state.complete (eventProjectionData ev)).sourceIndex ≤ k := by
    intro k hk hpend
    rcases hindex with heq | ⟨pending, hmem, heq⟩
    · exact le_of_eq_of_le heq hk
    · exact le_of_eq_of_le heq (hpend pending hmem)
  obtain ⟨hlow, hminimum, sourceProgress, hhigh⟩ := overallPercent_bounds round count _ hprog
  refine ⟨hlow, hhigh.trans (max_le ?_ h.hundred), fun hstart => hminimum (hkind ▸ hstart), ?_⟩
  · exact estimatedOverallProgress_le_hundred count _ _ (hindexLe count hnum h.pending)
  · intro k hk
    obtain ⟨hevent, -⟩ := forall_mem_cons.mp hk
    refine hhigh.trans (max_le ?_ (h.upTo k hk).1)
    exact estimatedOverallProgress_le count _ _ (hkind ▸ hevent.2)
      (hindexLe k hevent.1 (h.upTo k hk).2)

/-- A later status compared with an earlier one. -/
structure Advances (count : Nat) (new old : BackupRunEvent × RunProgress) : Prop where
  overall : ∀ p ∈ new.2.overallPercent, ∀ q ∈ old.2.overallPercent, q ≤ p
  source : ∀ source, new.1 = .sourceCompleted source → ∀ q ∈ old.2.overallPercent,
    q ≤ 100 * source.sourceIndex / count
  bytes : new.1.isTerminal = true → old.2.runProcessedBytes ≤ new.2.runProcessedBytes

/-- A status that is shown for an event. -/
theorem Ready.step (h : Ready round count answers runId ev events
      (state.observe (eventProjectionData ev)))
    (hold : Tracks round count answers runId events events state)
    (horder : Orderly runId count (ev :: events))
    (hprog : progress = buildProgress round count (state.observe (eventProjectionData ev))
      ((state.observe (eventProjectionData ev)).complete (eventProjectionData ev))) :
    (∀ p ∈ progress.overallPercent, 0 ≤ p ∧ p ≤ 100) ∧
      ∀ old ∈ shown round count answers events, Advances count (ev, progress) old := by
  obtain ⟨-, -, -, hnum, hcompleted⟩ := horder
  have hpct : ∀ p ∈ progress.overallPercent, _ := fun p hp =>
    h.percent hnum (hprog ▸ hp)
  refine ⟨fun p hp => ⟨(hpct p hp).1, (hpct p hp).2.1⟩, fun old hmem => ⟨?_, ?_, ?_⟩⟩
  · intro p hp q hq
    by_cases hstart : kindOf ev = .runStarted
    · rw [h.started hstart] at hmem
      exact absurd hmem not_mem_nil
    · exact (h.overall old hmem q hq).trans ((hpct p hp).2.2.1 hstart)
  · intro source hsrc q hq
    exact (hold.overall old hmem q hq).trans (hold.upTo _ (hcompleted source hsrc)).1
  · intro hterm
    have hkind : ((state.observe (eventProjectionData ev)).complete
        (eventProjectionData ev)).kind.isTerminal = true := by
      rw [(complete_cases _ _).1]
      cases ev <;> first | rfl | cases hterm
    show old.2.runProcessedBytes ≤ progress.runProcessedBytes
    rw [hprog, buildProgress, if_pos hkind]
    exact UInt64.le_trans (h.bytes old hmem) (le_max_bytes _ _).1

/-- The members after the status was accounted for, whether writing it throws or not. -/
theorem Ready.tracks {next : ProjectionState} (h : Ready round count answers runId ev events state)
    (hnum : sourceNumber ev ≤ count) (hprog : progress = buildProgress round count state
      (state.complete (eventProjectionData ev)))
    (hshown : shown round count answers (ev :: events) =
      (ev, progress) :: shown round count answers events)
    (hnext : ∃ kind, next = state.account progress ∨ next = (state.account progress).finish kind) :
    Tracks round count answers runId (ev :: events) (ev :: events) next := by
  have hmembers : next.runId = state.runId ∧
      next.lastOverallProgress = progress.overallPercent.getD state.lastOverallProgress ∧
      next.runBytesProcessed = max state.runBytesProcessed progress.runProcessedBytes ∧
      ∀ pending ∈ next.pendingActionFailure, pending ∈ state.pendingActionFailure := by
    obtain ⟨kind, rfl | rfl⟩ := hnext
    · exact ⟨rfl, rfl, rfl, fun _ hmem => hmem⟩
    · rw [ProjectionState.finish]
      split_ifs
      · exact ⟨rfl, rfl, rfl, nofun⟩
      · exact ⟨rfl, rfl, rfl, fun _ hmem => hmem⟩
  obtain ⟨hrun, hlast, hbytes, hpend⟩ := hmembers
  have hpct : ∀ value, progress.overallPercent = some value → _ := fun value hvalue =>
    h.percent hnum (hprog ▸ hvalue)
  -- the last percentage is that of the new status, if it has one
  have hbound : ∀ bound, state.lastOverallProgress ≤ bound →
      (∀ value, progress.overallPercent = some value → value ≤ bound) →
      next.lastOverallProgress ≤ bound := by
    intro bound hstate hvalues
    rw [hlast]
    cases hvalue : progress.overallPercent with
    | none => exact hstate
    | some value => exact hvalues value hvalue
  refine ⟨fun _ => hrun.trans h.current, ?_, ?_, ?_, fun p hp => h.pending p (hpend p hp), ?_⟩
  · rw [hshown]
    refine forall_mem_cons.mpr ⟨fun q hq => ?_, fun old hmem q hq => ?_⟩
    · rw [hlast, Option.mem_def.mp hq]
      exact le_refl q
    · by_cases hstart : kindOf ev = .runStarted
      · rw [h.started hstart] at hmem
        exact absurd hmem not_mem_nil
      · rw [hlast]
        cases hvalue : progress.overallPercent with
        | none => exact h.overall old hmem q hq
        | some value => exact (h.overall old hmem q hq).trans ((hpct value hvalue).2.2.1 hstart)
  · rw [hshown, hbytes]
    refine forall_mem_cons.mpr ⟨(le_max_bytes _ _).2, fun old hmem => ?_⟩
    exact UInt64.le_trans (h.bytes old hmem) (le_max_bytes _ _).1
  · exact hbound 100 h.hundred fun value hvalue => (hpct value hvalue).2.1
  · intro k hk
    refine ⟨hbound _ (h.upTo k hk).1 fun value hvalue => (hpct value hvalue).2.2.2 k hk, ?_⟩
    exact fun p hp => (h.upTo k hk).2 p (hpend p hp)

theorem tracks_stateAfter (h : Orderly runId count events) :
    Tracks round count answers runId events events (stateAfter round count answers events) ∧
      (shown round count answers events).Pairwise (Advances count) ∧
      ∀ status ∈ shown round count answers events, ∀ p ∈ status.2.overallPercent,
        0 ≤ p ∧ p ≤ 100 := by
  induction events with
  | nil =>
    have hnone : ∀ old ∈ shown round count answers [], ∀ P : Prop, P := fun _ hmem =>
      absurd hmem not_mem_nil
    refine ⟨⟨(absurd rfl), fun old hmem => hnone old hmem _,
      fun old hmem => hnone old hmem _, (by decide : (-1 : Int) ≤ 100), nofun, fun k _ => ?_⟩,
      List.Pairwise.nil, fun old hmem => hnone old hmem _⟩
    have hbound : (0 : Int) ≤ 100 * k / count := Int.ediv_nonneg (by omega) (by omega)
    exact ⟨le_trans (by decide : (-1 : Int) ≤ 0) hbound, nofun⟩
  | cons ev events ih =>
    obtain ⟨htracks, hpairs, hbounds⟩ := ih h.1
    have hready := htracks.ready h
    rcases onBackupRunEvent_cases round count (answers events.length)
      (stateAfter round count answers events) ev with
      ⟨hstate, hnone⟩ | ⟨progress, hprog, hsome, hnext⟩
    · -- a checkpoint has no status and changes nothing
      have hshown :
        shown round count answers (ev :: events) = shown round count answers events := by
        rw [shown, hnone]
        rfl
      rw [stateAfter, hstate, hshown]
      refine ⟨⟨?_, ?_, ?_, htracks.hundred, htracks.pending, fun k hk => ?_⟩, hpairs, hbounds⟩
      · rw [hshown]
        exact htracks.run
      · rw [hshown]
        exact htracks.overall
      · rw [hshown]
        exact htracks.bytes
      · exact htracks.upTo k (forall_mem_cons.mp hk).2
    · have hshown : shown round count answers (ev :: events) =
          (ev, progress) :: shown round count answers events := by
        rw [shown, hsome]
        rfl
      obtain ⟨hpct, hadvances⟩ := hready.step htracks h hprog
      rw [hshown]
      refine ⟨hready.tracks h.2.2.2.1 hprog hshown hnext, ?_, ?_⟩
      · exact pairwise_cons.mpr ⟨hadvances, hpairs⟩
      · exact forall_mem_cons.mpr ⟨hpct, hbounds⟩

end run

/-- **The progress of a run**: whatever the policy decides and the writer throws, the percentages
are between 0 and 100 and never fall, no status before the completion of source number `i` of `n`
shows more than `100 * i / n`, and a terminal status reports at least the bytes of all statuses
before it. -/
theorem progress_advances (round : ℚ → ℚ) (count : Nat) (answers : Nat → SinkAnswer)
    (runId : RunId) (events : List BackupRunEvent) (h : Orderly runId count events) :
    (shown round count answers events).Pairwise (Advances count) ∧
      ∀ status ∈ shown round count answers events, ∀ p ∈ status.2.overallPercent, 0 ≤ p ∧ p ≤ 100 :=
  (tracks_stateAfter h).2

namespace Sample

theorem identifierOk_laptop : identifierOk "laptop" = true := by decide

theorem identifierOk_home : identifierOk "home" = true := by decide

theorem identifierOk_srv : identifierOk "srv" = true := by decide

theorem runIdOk_run : runIdOk "run" = true := by decide

def profileId : ProfileId := ⟨"laptop", identifierOk_laptop⟩

def runId : RunId := ⟨"run", runIdOk_run⟩

def home : SourceOfEvent := ⟨profileId, runId, ⟨"home", identifierOk_home⟩, 1⟩

def srv : SourceOfEvent := ⟨profileId, runId, ⟨"srv", identifierOk_srv⟩, 2⟩

/-- So many bytes of a hundred have been transferred. -/
def transferred (bytes : UInt64) : TransferProgress where
  stage := .transferring
  bytesTransferred := bytes
  bytesProduced := bytes
  bytesTotalEstimated := 100
  runBytesTransferred := bytes
  deltaBytes := bytes
  elapsedMs := 1000
  speedBps := bytes
  message := ""

/-- The run transfers and completes two sources. -/
def events : List BackupRunEvent :=
  [.runCompleted profileId runId,
    .sourceCompleted srv, .transferProgress srv (transferred 70), .sourceStarted srv,
    .sourceCompleted home, .transferProgress home (transferred 30), .sourceStarted home,
    .runStarted profileId runId .backup]

theorem events_orderly : Orderly runId 2 events := by
  simp only [Orderly, events, mem_cons, forall_eq_or_imp, reduceCtorEq, false_implies,
    implies_true, BackupRunEvent.sourceCompleted.injEq, forall_eq', not_mem_nil]
  decide +kernel

/-- The progress of that run. -/
theorem events_progress : Orderly runId 2 events ∧
      (shown id 2 (fun _ => ⟨true, false⟩) events).Pairwise (Advances 2) :=
  ⟨events_orderly, (progress_advances id 2 (fun _ => ⟨true, false⟩) runId events events_orderly).1⟩

end Sample

end Status

end BtrfsBackup
