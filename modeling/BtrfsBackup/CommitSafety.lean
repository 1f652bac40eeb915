/-
Commits that fail their check.

`remote_snapshots_verified`: remote snapshots were received from the snapshot
they were made from, apart from the one the marker names; and when the check of
a commit fails, the new snapshot is deleted again or the run ends with
`RecoveryRequiredError`, with the marker still there.  A local snapshot
directory that is spelled with a trailing separator breaks the first part: the
engine then takes its own markers for invalid.
-/
import BtrfsBackup.RunSafety

open Interaction Interaction.Prog

namespace BtrfsBackup

/-! ### Events of a run -/

/-- Since `w`, no check of a commit has failed. -/
def Quiet (w t : World) : Prop :=
  ∃ new, t.history = new ++ w.history ∧ ∀ location, .commitCheckFailed location ∉ new

namespace Quiet

variable {w t u : World}

theorem refl (w : World) : Quiet w w := ⟨[], rfl, fun _ => List.not_mem_nil⟩

section

variable (h : Quiet w t)
include h

theorem of_history (heq : u.history = t.history) : Quiet w u := by
  obtain ⟨new, hnew, hnone⟩ := h
  exact ⟨new, heq.trans hnew, hnone⟩

theorem cons {ev} (heq : u.history = ev :: t.history)
    (hevent : ∀ loc, ev ≠ .commitCheckFailed loc) : Quiet w u := by
  obtain ⟨new, hnew, hnone⟩ := h
  refine ⟨ev :: new, by rw [heq, hnew]; rfl, fun loc hmem => ?_⟩
  rcases List.mem_cons.mp hmem with heq | hmem
  · exact hevent loc heq.symm
  · exact hnone loc hmem

theorem removeRemote (act : BackupRunActionKind) (l : List String) :
    Quiet w (t.removeRemote act l) := by
  rcases t.removeRemote_history act l with heq | ⟨v, -, heq⟩
  · exact h.of_history heq
  · exact h.cons heq nofun

theorem dropPendingRemote (rcv : PendingRecoveryPlan) : Quiet w (t.dropPendingRemote rcv) := by
  rw [World.dropPendingRemote]
  split
  · exact h
  · exact h.removeRemote ..

theorem dropPendingLocal (rcv : PendingRecoveryPlan) : Quiet w (t.dropPendingLocal rcv) := by
  rw [World.dropPendingLocal]
  split
  · exact h
  · exact h.of_history rfl

theorem finishRecovery (path : FsPath) : Quiet w (t.finishRecovery path) := by
  rw [World.finishRecovery]
  split
  · exact h.of_history rfl
  · refine h.cons rfl ?_
    rintro _ ⟨⟩

end

end Quiet

/-- Since `w`, the check of the snapshot at the marker's final path has failed,
and no other one. -/
structure CheckFailed (w : World) (location : List String) (t : World) : Prop where
  marker : ∃ m, t.pendingMarker = some m ∧ m.finalSnapshotPath.location = location
  history : ∃ new, t.history = new ++ w.history ∧
    ∀ other, .commitCheckFailed other ∈ new → other = location

theorem CheckFailed.of_quiet {w t : World} {m} (h : Quiet w t)
    (hmark : t.pendingMarker = some m) : CheckFailed w m.finalSnapshotPath.location
      (t.record (.commitCheckFailed m.finalSnapshotPath.location)) := by
  obtain ⟨new, hnew, hnone⟩ := h
  refine ⟨⟨m, hmark, rfl⟩, _ :: new, by rw [World.record, hnew]; rfl, fun other hother => ?_⟩
  rcases List.mem_cons.mp hother with heq | hother
  · cases heq
    rfl
  · exact absurd hother (hnone other)

theorem CheckFailed.removeRemote {w t : World} {loc} (h : CheckFailed w loc t)
    (act : BackupRunActionKind) (l : List String) : CheckFailed w loc (t.removeRemote act l) := by
  obtain ⟨⟨m, hm, hloc⟩, new, hnew, hother⟩ := h
  refine ⟨⟨m, by simpa using hm, hloc⟩, ?_⟩
  rcases t.removeRemote_history act l with heq | ⟨v, -, heq⟩
  · exact ⟨new, heq.trans hnew, hother⟩
  · exact ⟨_ :: new, by rw [heq, hnew]; rfl, fun other hmem => hother other (by simpa using hmem)⟩

/-! ### Runs whose check fails -/

section run

variable {cfg : SourceConfig} {params : RunParameters} {w t : World}
  {plan : BackupSourceRunPlan}

/-- What a failed check leaves when the run ends with the error `e`. -/
def FailsSafely (w : World) (location : List String) (e : Thrown) (t : World) : Prop :=
  Quiet w t ∨ CheckFailed w location t ∧
    (t.remoteSnapshots.find? location = none ∨ e.isRecoveryRequired = true)

/-- Without a failed check a run may stop anywhere. -/
theorem Quiet.stops (h : Quiet w t) (loc : List String) :
    Stops (fun t => Quiet w t ∨ CheckFailed w loc t) (FailsSafely w loc) t :=
  ⟨.inl h, fun _ => .inl h⟩

/-- The check of `CommitReceived` fails with the marker in place. -/
theorem wp_commitReceived_checked {act m} (hfinal : act.finalSnapshot = m.finalSnapshotPath)
    (hquiet : Quiet w t) (hmark : t.pendingMarker = some m) :
    wp (fun _ _ => True) (fun t => Quiet w t ∨ CheckFailed w m.finalSnapshotPath.location t)
    (commitReceived cfg act) (fun _ => Quiet w) (FailsSafely w m.finalSnapshotPath.location) t := by
  refine wp_commitReceived (hquiet.stops _) ?_
  rintro sent received answer final rfl - - - - - new u rfl rfl
  rw [hfinal]
  have hcreated : Quiet w (t.addRemote (committedSnapshot m.finalSnapshotPath.location received
      answer)) := hquiet.cons rfl nofun
  refine ⟨hcreated.stops _, fun _ => hcreated.cons rfl nofun, fun _ => ?_⟩
  have hfailed := CheckFailed.of_quiet hcreated hmark
  refine ⟨.inr hfailed, fun e he => .inr ⟨hfailed, .inr he⟩, fun e => .inr ⟨?_, .inl ?_⟩⟩
  · exact hfailed.removeRemote ..
  · rw [World.removeRemote_remoteSnapshots]
    exact Keyed.Store.find?_remove_self

theorem wp_plan_checked (parts : SourcePlanParts cfg.source (cfg.context params w) plan) :
    wp (fun _ _ => True)
      (fun t => Quiet w t ∨ CheckFailed w parts.paths.finalRemoteSnapshot.location t)
      (executeActions cfg plan.actions) (fun _ => Quiet w)
      (FailsSafely w parts.paths.finalRemoteSnapshot.location) w := by
  let marker := (createSnapshotAction cfg.source (cfg.context params w)
    parts.paths).marker
  rw [parts.actions_eq, sourceRecoveryPlan_context]
  refine wp_orderedSourceActions (Quiet w) (Quiet w)
    (fun t => Quiet w t ∧ ∃ now, t.pendingMarker = some (marker now))
    (fun t => Quiet w t ∧ ∃ now, t.pendingMarker = some (marker now))
    (fun t => Quiet w t ∧ ∃ now, t.pendingMarker = some (marker now))
    (Quiet w) (Quiet w) (Quiet w) ?skip ?recover ?cleanup ?before ?create ?after ?send ?verify
    ?commit ?retainRemote ?retainLocal ?finish
  case skip => exact fun _ => .refl w
  case recover =>
    intro hreq
    obtain ⟨m, hmark⟩ := recoveryPlan_required.mp hreq
    have hrem := (Quiet.refl w).dropPendingRemote (cfg.recoveryPlan w)
    have hlocal := hrem.dropPendingLocal (cfg.recoveryPlan w)
    refine wp_recoverPending (recoveryPlan_spec cfg hmark).2.1 ((Quiet.refl w).stops _)
      (hrem.stops _) (hlocal.stops _) ?_
    rintro t rfl
    exact ⟨((hlocal.finishRecovery _).stops _).2, hlocal.finishRecovery _⟩
  case cleanup =>
    intro t ht
    exact wp_removeContents fun u hsame =>
      ⟨(ht.of_history hsame.history).stops _, ht.of_history hsame.history⟩
  case before => exact fun t ht => ht.stops _
  case create =>
    intro t ht
    have hwritten : ∀ now, Quiet w (t.writeMarker (marker now)) := fun _ => ht.of_history rfl
    refine wp_createSnapshot (ht.stops _) (fun now => (hwritten now).stops _) ?_
    rintro now answer - - - u rfl
    refine ⟨Quiet.stops ?_ _, ?_, now, rfl⟩ <;> exact ht.of_history rfl
  case after => exact fun t ht => ht.1.stops _
  case send =>
    rintro t ⟨ht, now, hmark⟩
    refine wp_sendReceive (ht.stops _) fun sent _ answer loc _ _ => ?_
    have hrecv : Quiet w (t.addIncoming (receivedSubvolume loc sent answer)) :=
      ht.of_history rfl
    exact ⟨(hrecv.stops _).2, hrecv, now, hmark⟩
  case verify => exact fun t ht => wp_verifyReceived (ht.1.stops _) fun _ _ _ _ _ => ht
  case commit =>
    rintro t ⟨ht, now, hmark⟩
    exact wp_commitReceived_checked rfl ht hmark
  case retainRemote =>
    intro t ht
    exact wp_applyRemoteRetention ht (fun u hu => ⟨hu.stops _, hu⟩)
      fun u hu _ _ _ _ => hu.removeRemote ..
  case retainLocal =>
    intro t ht
    exact wp_applyLocalRetention ht (fun u hu => ⟨hu.stops _, hu⟩)
      fun u hu _ _ _ _ => hu.of_history rfl
  case finish =>
    intro t ht
    refine wp_cleanupSource fun u hsame => ?_
    have hu := ht.of_history hsame.history
    have hcleared : Quiet w u.clearMarker := hu.of_history rfl
    exact ⟨hu.stops _, (hcleared.stops _).2, hcleared⟩

end run

/-! ### Verified snapshots -/

/-- A run that ends with `outcome` in `t` has dealt with the check that failed
for the snapshot at `location`: the marker names it, and unless the run was cut
off the snapshot is gone or the run ends with `RecoveryRequiredError`. -/
def DealtWith (location : List String) (outcome : Outcome Thrown Unit) (t : World) : Prop :=
  (∃ m, t.pendingMarker = some m ∧ m.finalSnapshotPath.location = location) ∧
    match outcome with
    | .done _ => False
    | .failed e => t.remoteSnapshots.find? location = none ∨ e.isRecoveryRequired = true
    | .crashed => True

/-- A failed check is dealt with, whatever the state the run starts in. -/
theorem checkFailed_dealtWith {cfg} {run : Run} {w t : World}
    {outcome} (hrun : execRun cfg run w = (outcome, t)) {new} (hnew : t.history = new ++ w.history)
    {loc} (hfailed : .commitCheckFailed loc ∈ new) : DealtWith loc outcome t := by
  -- the events of the run are determined
  have quiet : ¬ Quiet w t := by
    rintro ⟨new', hnew', hnone⟩
    rw [hnew, List.append_cancel_right_eq] at hnew'
    exact hnone loc (hnew' ▸ hfailed)
  have failed {final : List String} (h : CheckFailed w final t) : final = loc := by
    obtain ⟨-, new', hnew', hother⟩ := h
    rw [hnew, List.append_cancel_right_eq] at hnew'
    exact (hother loc (hnew' ▸ hfailed)).symm
  rw [execRun] at hrun
  split at hrun
  · cases hrun
    exact absurd (.refl _) quiet
  next plan hplan =>
  obtain ⟨parts⟩ := buildSourceRunPlan_eq_ok (planRun_eq_ok hplan)
  have hspec := run_spec (wp_plan_checked parts) (fun _ (_ : _ ∈ run.answers) _ => trivial)
  rw [hrun] at hspec
  cases outcome with
  | done value => exact absurd hspec quiet
  | failed e =>
    obtain ⟨hchecked, hgone⟩ := hspec.resolve_left quiet
    obtain rfl := failed hchecked
    exact ⟨hchecked.marker, hgone⟩
  | crashed =>
    have hchecked := hspec.resolve_left quiet
    obtain rfl := failed hchecked
    exact ⟨hchecked.marker, trivial⟩

/-- Every remote snapshot is a read-only subvolume that was received from the
local snapshot it was made from, apart from the one the marker names. -/
def RemotesVerified (w : World) : Prop :=
  ∀ r ∈ w.remoteSnapshots, (r.metadata.isSubvolume = true ∧ r.metadata.readonly = true ∧
      r.metadata.receivedUuid = r.madeFrom.toReceived) ∨
    ∃ m, w.pendingMarker = some m ∧ r.location = m.finalSnapshotPath.location

/-- **Remote snapshots are verified.**  If the local snapshot directory is
spelled without a trailing separator, remote snapshots are verified in every
state, apart from the pending one, and every failed check of a commit is dealt
with. -/
theorem remote_snapshots_verified {config : SourceConfig} {ok : Run → World → Prop} {w : World}
    (h : Reached config ok w) (hdir : config.source.localSnapshotDir.Unslashed) :
    RemotesVerified w ∧ ∀ run outcome t, execRun config run w = (outcome, t) →
      ∀ new, t.history = new ++ w.history → ∀ location, .commitCheckFailed location ∈ new →
        DealtWith location outcome t := by
  obtain ⟨hshape, hverified⟩ := Reached.invariant ⟨False, False⟩ (I := Verified) h
    (fun run _ hshape _ => run_refines_any run hshape) .initial
    fun _ _ hshape hverified hsteps => hverified.steps hdir hshape hsteps
  refine ⟨fun r hr => ?_, fun run outcome t hrun new hnew location hfailed =>
    checkFailed_dealtWith hrun hnew hfailed⟩
  obtain ⟨name, -, -, hsubvolume, hreadonly⟩ := hshape.remotes r hr
  exact (hverified.remotes r hr).imp_left fun hreceived => ⟨hsubvolume, hreadonly, hreceived⟩

namespace Sample

/-- Calls that succeed, but the snapshot of the last one does not keep the
received UUID. -/
def unkeptAnswers : List Answer :=
  answers "a" 3 14 ++ (answers "a" 3 15).getLast?.toList.map fun answer =>
    { answer with changedReceivedUuid := some (.ofString "other") }

/-- A run cut off between making the remote snapshot and checking it. -/
def unchecked (config : SourceConfig) : World :=
  (execRun config (run 0 unkeptAnswers) .initial).2

theorem remote_snapshots_verified_unchecked :
    (unchecked config).remoteSnapshots.items.length = 1 ∧ RemotesVerified (unchecked config) := by
  have h : Reached config (fun _ _ => True) (unchecked config) :=
    .step (run 0 unkeptAnswers) .init trivial
  exact ⟨by decide +kernel, (remote_snapshots_verified h (by decide)).1⟩

/-- The next run, cut off when it has cleared the marker. -/
def unmarked : World :=
  (execRun slashedConfig (run 10 (answers "b" 3 1)) (unchecked slashedConfig)).2

theorem unmarked_remotes : unmarked.pendingMarker = none ∧ unmarked.remoteSnapshots.items =
    [⟨["mnt", "backup", "snapshots", "home", "home-1970-01-01T000000Z"],
      ⟨true, true, .ofString "a14", .ofString "other"⟩, .ofString "a3"⟩] := by
  decide +kernel

/-- With a trailing separator the next run drops the marker of a snapshot that
was never checked and leaves the snapshot. -/
theorem slashed_remote_unverified : AbsolutePath.ofString "/snapshots/" "localSnapshotDir" =
      .ok slashedConfig.source.localSnapshotDir ∧
    ∃ w, Reached slashedConfig (fun _ _ => True) w ∧ ¬ RemotesVerified w := by
  refine ⟨by decide, unmarked, ?_, fun h => ?_⟩
  · exact .step (run 10 (answers "b" 3 1)) (.step (run 0 unkeptAnswers) .init trivial) trivial
  · obtain ⟨hmarker, hremotes⟩ := unmarked_remotes
    rcases h _ (Keyed.Store.mem_def.mpr (by rw [hremotes]; exact List.mem_cons_self)) with
      ⟨-, -, hreceived⟩ | ⟨m, hm, -⟩
    · exact absurd hreceived (by decide)
    · rw [hmarker] at hm
      cases hm

end Sample

end BtrfsBackup
