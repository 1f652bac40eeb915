/-
Safety of sequences of runs.

`Reached` are the states after any number of runs of the source, each cut off
or failing anywhere, from the empty state on.  Every run is a sequence of steps
of the protocol (`run_refines`), so that its invariants hold in these states:

* `runs_refine_protocol` — any runs are one behaviour of the protocol;
* `committed_only_retained` — no recovery deletes a committed remote snapshot,
  as long as no run plans the name of a remote snapshot;
* `local_snapshots_tracked` — a local snapshot without a remote one is named by
  the marker or was kept by a recovery;
* `parent_survives` — the parent of an incremental transfer outlives the
  recovery of its own run;
* `remote_snapshots_verified` — remote snapshots are verified, the pending one
  apart.
-/
import BtrfsBackup.Refinement

open Interaction Interaction.Prog Keyed.Store

namespace BtrfsBackup

open List

/-! ### Reached states -/

/-- The states after runs that all meet `ok`. -/
abbrev Reached (config : SourceConfig) (ok : Run → World → Prop) : World → Prop :=
  Reachable .initial (fun run w => (execRun config run w).2) ok

/-- Btrfs keeps the received UUID in read-only snapshots, throughout the run. -/
def Run.KeepsReceivedUuids (run : Run) : Prop :=
  ∀ answer ∈ run.answers, answer.KeepsReceivedUuid

/-- The name the run is going to plan is not the name of a remote snapshot. -/
def Run.nameIsFree (config : SourceConfig) (run : Run) (w : World) : Bool :=
  match plannedSnapshotName config.source.id run.timestamp (config.localInventory w) with
  | .ok name => !nameExists (config.remoteInventory w) name
  | .error _ => true

section reached

variable {config cfg : SourceConfig} {ok : Run → World → Prop} {w t : World}

/-- Every reached state has the shape; an invariant of the steps that its runs
take holds in it. -/
theorem Reached.invariant (assume : Assumptions) {I : World → Prop} (h : Reached cfg ok w)
    (hrefines : ∀ run w, Shape cfg w → ok run w → Steps cfg assume w (execRun cfg run w).2)
    (hinit : I .initial) (hsteps : ∀ w t, Shape cfg w → I w → Steps cfg assume w t → I t) :
    Shape cfg w ∧ I w := by
  refine Reachable.invariant (I := fun w => Shape cfg w ∧ I w) ⟨.initial, hinit⟩ ?_ h
  rintro run w ⟨hshape, hI⟩ hok
  have hrun := hrefines run w hshape hok
  exact ⟨hshape.steps hrun, hsteps w _ hshape hI hrun⟩

/-- Nothing has to be assumed of a run to see it as steps. -/
theorem run_refines_any (run : Run) (hshape : Shape cfg w) :
    Steps cfg ⟨False, False⟩ w (execRun cfg run w).2 :=
  run_refines hshape nofun nofun

/-- Whatever runs follow each other, each cut off or failing anywhere, they are one
behaviour of the protocol. -/
theorem runs_refine_protocol (config : SourceConfig) (runs : List Run) :
    let reached := runs.foldl (fun w run => (execRun config run w).2) .initial
    Steps config ⟨False, False⟩ .initial reached ∧ Shape config reached := by
  induction runs using List.reverseRecOn with
  | nil => exact ⟨.refl, .initial⟩
  | append_singleton runs run ih =>
    obtain ⟨hsteps, hshape⟩ := ih
    have hrun := run_refines_any run hshape
    rw [foldl_concat]
    exact ⟨hsteps.trans hrun, hshape.steps hrun⟩

/-- A free name leaves the final path free. -/
theorem remoteAt_final_of_nameIsFree {run : Run} {plan} (hshape : Shape cfg w)
    (hname : run.nameIsFree cfg w = true)
    (parts : SourcePlanParts cfg.source (cfg.context run.toRunParameters w) plan) :
    w.remoteAt parts.paths.finalRemoteSnapshot = none := by
  rcases hr : w.remoteAt parts.paths.finalRemoteSnapshot with _ | r
  · rfl
  obtain ⟨hmem, hloc⟩ := find?_eq_some.mp hr
  obtain ⟨name, hin⟩ := hshape.remotes r hmem
  obtain ⟨info, hlists, rfl⟩ := hin.lists cfg.remoteDir_isNormal
  -- the snapshot at the final path has the planned name
  have hsame : info.name = parts.paths.snapshotName := by
    have hfinal := (parts.engineMarker (.wrap 0)).final_location
    rw [show parts.paths.finalRemoteSnapshot.location = _ from hfinal, hin.1] at hloc
    exact singleton_inj.mp (append_cancel_left hloc)
  obtain ⟨hplanned, -⟩ := planSourcePaths_eq_ok parts.paths_ok
  rw [snapshotsFor_localInventory] at hplanned
  rw [Run.nameIsFree, show plannedSnapshotName _ run.timestamp _ = _ from hplanned] at hname
  have hexists : nameExists (cfg.remoteInventory w) parts.paths.snapshotName = true := by
    rw [nameExists, any_eq_true]
    exact ⟨info, mem_subvolumeInventory.mpr ⟨r, hmem, hlists⟩,
      by rw [hsame]; exact beq_self_eq_true _⟩
  simp [hexists] at hname

end reached

/-! ### Committed snapshots -/

/-- Only retention deletes a remote snapshot that was committed before; the
history has the last event first. -/
def OnlyRetentionDeletes (history : List StoreEvent) : Prop :=
  ∀ later earlier action uuid, history = later ++ .remoteDeleted action uuid :: earlier →
    .commitSucceeded uuid ∈ earlier → action = .applyRemoteRetention

/-- A deletion is by retention, or of a snapshot that was not received from the
pending one. -/
theorem Step.remoteDeleted {cfg assume} {w t : World}
    (h : Step cfg assume w t) (hmatched : PendingMatched w) {act uuid}
    (hdel : .remoteDeleted act uuid ∈ t.history) :
    .remoteDeleted act uuid ∈ w.history ∨ act = .applyRemoteRetention := by
  cases h with
  | grow grows =>
    cases grows with
    | writeMarker => exact .inl hdel
    | createLocal => exact .inl hdel
    | createRemote => exact .inl (by simpa [World.addRemote] using hdel)
  | @dropPendingRemote m v r marker pending final mismatch =>
    exact nomatch mismatch.symm.trans (hmatched m marker v pending r final)
  | dropPendingLocal => exact .inl hdel
  | @finishRecovery m marker settled =>
    rw [World.finishRecovery] at hdel
    split at hdel
    · exact .inl hdel
    · exact .inl (by simpa using hdel)
  | transfer same => exact .inl (same.history ▸ hdel)
  | checkFailed => exact .inl (by simpa [World.record] using hdel)
  | checkSucceeded => exact .inl (by simpa [World.record] using hdel)
  | @dropUnverified m v r marker pending final mismatch =>
    exact nomatch mismatch.symm.trans (hmatched m marker v pending r final)
  | @retainRemote l =>
    rcases w.removeRemote_history .applyRemoteRetention l with he | ⟨v, -, he⟩
    · exact .inl (he ▸ hdel)
    · rw [he] at hdel
      rcases mem_cons.mp hdel with heq | hold
      · cases heq
        exact .inr rfl
      · exact .inl hold
  | retainLocal => exact .inl hdel
  | finish => exact .inl hdel

/-- **Committed snapshots.**  As long as every run plans a name that no remote
snapshot has, and Btrfs keeps received UUIDs, a committed remote snapshot is
deleted by retention only. -/
theorem committed_only_retained {config : SourceConfig} {w : World}
    (h : Reached config (fun run w => run.KeepsReceivedUuids ∧ run.nameIsFree config w = true) w) :
    OnlyRetentionDeletes w.history := by
  -- the pending pair always matches, so that recovery has no remote snapshot to delete
  have hinv : Shape config w ∧ PendingMatched w ∧
      ∀ action uuid, .remoteDeleted action uuid ∈ w.history → action = .applyRemoteRetention := by
    refine Reached.invariant ⟨True, True⟩ (I := fun w => PendingMatched w ∧ ∀ action uuid,
      .remoteDeleted action uuid ∈ w.history → action = .applyRemoteRetention) h ?_ ?_ ?_
    · exact fun _ _ hshape hok => run_refines hshape (fun _ => hok.1) fun _ _ =>
        remoteAt_final_of_nameIsFree hshape hok.2
    · exact ⟨.initial, fun _ _ h => absurd h not_mem_nil⟩
    · rintro w t - ⟨hmatched, hdeleted⟩ hsteps
      induction hsteps with
      | refl => exact ⟨hmatched, hdeleted⟩
      | tail hsteps hstep ih =>
        refine ⟨ih.1.step trivial trivial hstep, fun action uuid hmem => ?_⟩
        exact (hstep.remoteDeleted ih.1 hmem).elim (ih.2 action uuid) id
  intro later earlier action uuid heq _
  refine hinv.2.2 action uuid ?_
  rw [heq]
  exact mem_append_right _ mem_cons_self

namespace Sample

theorem keepsReceivedUuids (seconds : Int) (name : String) (sent calls : Nat) :
    (run seconds (answers name sent calls)).KeepsReceivedUuids := by
  intro answer hans
  obtain ⟨i, -, rfl⟩ := mem_map.mp hans
  rfl

/-- A first run that completes. -/
def committed : World := (execRun config (run 0 (answers "a" 3 30)) .initial).2

theorem reached_committed : Reached config (fun run _ => run.KeepsReceivedUuids) committed :=
  .step (run 0 (answers "a" 3 30)) .init (keepsReceivedUuids _ _ _ _)

/-- A second one, whose retention deletes the local snapshot of the first. -/
def retained : World := (execRun config (run 10 (answers "b" 3 30)) committed).2

theorem committed_only_retained_twice : OnlyRetentionDeletes retained.history := by
  have h : Reached config (fun run w => run.KeepsReceivedUuids ∧ run.nameIsFree config w = true)
      retained :=
    .step (run 10 (answers "b" 3 30))
      (.step (run 0 (answers "a" 3 30)) .init ⟨keepsReceivedUuids _ _ _ _, by decide +kernel⟩)
      ⟨keepsReceivedUuids _ _ _ _, by decide +kernel⟩
  exact committed_only_retained h

/-- The clock steps back to the first run: its name is free again on the local
side, and the commit fails because the remote snapshot still has it. -/
def collided : World := (execRun config (run 0 (answers "c" 3 30)) retained).2

/-- The next run takes the committed snapshot for an unverified one. -/
def lost : World := (execRun config (run 20 (answers "d" 3 1)) collided).2

theorem lost_history : lost.history = [.remoteDeleted .recoverPending (.ofString "a14"),
      .commitSucceeded (.ofString "b15"), .remoteCreated (.ofString "b15") (.ofString "b3"),
      .commitSucceeded (.ofString "a14"), .remoteCreated (.ofString "a14") (.ofString "a3")] := by
  decide +kernel

/-- The recovery of a later run deletes the snapshot the first run committed. -/
theorem recovery_deletes_committed : ∃ w,
    Reached config (fun run _ => run.KeepsReceivedUuids) w ∧ ¬ OnlyRetentionDeletes w.history := by
  refine ⟨lost, ?_, fun h => ?_⟩
  · have hretained :=
      reached_committed.step (run 10 (answers "b" 3 30)) (keepsReceivedUuids _ _ _ _)
    have hcollided := hretained.step (run 0 (answers "c" 3 30)) (keepsReceivedUuids _ _ _ _)
    exact hcollided.step (run 20 (answers "d" 3 1)) (keepsReceivedUuids _ _ _ _)
  · rw [lost_history] at h
    cases h [] _ _ _ rfl (by simp)

end Sample

/-! ### Local snapshots -/

section tracked

variable {config cfg : SourceConfig} {w t : World}

/-- A completed recovery that does not keep failed snapshots leaves the pending
one only if it has a remote snapshot. -/
theorem recovered_local_has_remote (hshape : Shape cfg w)
    (hdir : cfg.source.localSnapshotDir.Unslashed)
    (hkeep : cfg.profile.settings.keepFailedLocalSnapshot = false) {m}
    (hmark : w.pendingMarker = some m) {answers}
    (hrun : (recoverPending cfg (cfg.recoveryPlan w)).run answers w = (.done (), t))
    {v : Subvolume} (hv : t.localAt m.localSnapshotPath = some v) :
    ∃ r ∈ t.remoteSnapshots, uuidMatches v.metadata.uuid r.metadata.receivedUuid = true := by
  obtain ⟨-, -, rfl⟩ := (recovery_completes_iff hmark).mp ⟨answers, hrun⟩
  obtain ⟨name, heng⟩ := hshape.marker m hmark
  rw [World.localAt, World.finishRecovery_localSnapshots] at hv
  rw [World.finishRecovery_remoteSnapshots]
  rcases settled_after_deletions hshape hmark with hinvalid | hnone | ⟨v', hv', -, hrem⟩
  · cases hinvalid.symm.trans (heng.valid hdir)
  · cases hnone.symm.trans hv
  · obtain rfl := Option.mem_unique hv' hv
    rw [hkeep] at hrem
    exact hrem.resolve_right Bool.false_ne_true

/-- **Local snapshots are tracked**, if the local snapshot directory is spelled without
a trailing separator: a local snapshot that never had a remote one is named by the
marker or was left by a recovery that keeps such snapshots; and a completed recovery
that does not keep them leaves the snapshot its marker named only if it has a remote
one. -/
theorem local_snapshots_tracked {ok : Run → World → Prop} (h : Reached config ok w)
    (hdir : config.source.localSnapshotDir.Unslashed) :
    (∀ v ∈ w.localSnapshots, ¬ EverRemote w v.metadata.uuid →
      (∃ m, w.pendingMarker = some m ∧ v.location = m.localSnapshotPath.location) ∨
      (config.profile.settings.keepFailedLocalSnapshot = true ∧
        .leftByRecovery v.metadata.uuid ∈ w.history)) ∧
    ∀ parameters plan recovery, planRun config parameters w = .ok plan →
      .recoverPending config.source.id recovery ∈ plan.actions →
      config.profile.settings.keepFailedLocalSnapshot = false →
      ∃ m, w.pendingMarker = some m ∧ ∀ answers t,
        (recoverPending config recovery).run answers w = (.done (), t) →
        ∀ v, t.localAt m.localSnapshotPath = some v →
          ∃ r ∈ t.remoteSnapshots, uuidMatches v.metadata.uuid r.metadata.receivedUuid = true := by
  obtain ⟨hshape, htracked⟩ := Reached.invariant ⟨False, False⟩ (I := Tracked config) h
    (fun run _ hshape _ => run_refines_any run hshape) .initial
    fun _ _ hshape htracked hsteps => htracked.steps hdir hshape hsteps
  refine ⟨fun v hv hnever => (htracked.locals v hv).resolve_left hnever, ?_⟩
  intro parameters plan recovery hplan hmem hkeep
  obtain ⟨hmarker, rfl⟩ := (mem_actions_recoverPending hplan).mp hmem
  obtain ⟨m, hm⟩ := Option.ne_none_iff_exists'.mp hmarker
  exact ⟨m, hm, fun answers t hrun v hv =>
    recovered_local_has_remote hshape hdir hkeep hm hrun hv⟩

end tracked

namespace Sample

theorem local_snapshots_tracked_cutOff : cutOff.localSnapshots.items.length = 1 ∧
    (∀ v ∈ cutOff.localSnapshots, ¬ EverRemote cutOff v.metadata.uuid →
      (∃ m, cutOff.pendingMarker = some m ∧ v.location = m.localSnapshotPath.location) ∨
      (config.profile.settings.keepFailedLocalSnapshot = true ∧
        .leftByRecovery v.metadata.uuid ∈ cutOff.history)) := by
  have h : Reached config (fun _ _ => True) cutOff :=
    .step (run 0 (answers "a" 3 4)) .init trivial
  exact ⟨by decide, (local_snapshots_tracked h (by decide)).1⟩

/-- The local snapshot directory is spelled with a trailing separator. -/
def slashedConfig : SourceConfig :=
  configOf (source (directory "/snapshots/" (by decide)) config.source.localRetention) false

/-- A run cut off when it had made its local snapshot. -/
def slashed : World := (execRun slashedConfig (run 0 (answers "a" 3 4)) .initial).2

/-- The next run, cut off when its recovery has cleared the marker. -/
def untracked : World := (execRun slashedConfig (run 10 (answers "b" 3 1)) slashed).2

theorem untracked_stores :
    untracked.pendingMarker = none ∧ untracked.history = [.leftByRecovery (.ofString "a3")] ∧
    untracked.localSnapshots.items.length = 1 := by
  decide +kernel

/-- With a trailing separator the recovery of the next run drops the marker and leaves
the snapshot, which nothing names then. -/
theorem slashed_local_untracked : AbsolutePath.ofString "/snapshots/" "localSnapshotDir" =
      .ok slashedConfig.source.localSnapshotDir ∧
    slashedConfig.profile.settings.keepFailedLocalSnapshot = false ∧
    (∃ w, Reached slashedConfig (fun _ _ => True) w ∧ w.pendingMarker = none ∧
      ∃ v ∈ w.localSnapshots, ¬ EverRemote w v.metadata.uuid) ∧
    ∃ w, Reached slashedConfig (fun _ _ => True) w ∧
      PlansRecovery slashedConfig w (slashedConfig.recoveryPlan w) ∧
      ∃ answers t, (recoverPending slashedConfig (slashedConfig.recoveryPlan w)).run answers w =
          (.done (), t) ∧ t.remoteSnapshots.items = [] ∧
        (w.pendingMarker.bind fun m => t.localAt m.localSnapshotPath).isSome = true := by
  have hslashed : Reached slashedConfig (fun _ _ => True) slashed :=
    .step (run 0 (answers "a" 3 4)) .init trivial
  obtain ⟨hmarker, hhistory, hlocals⟩ := untracked_stores
  obtain ⟨v, hv⟩ := length_eq_one_iff.mp hlocals
  obtain ⟨plan, hplan⟩ := exists_of_isOk
    (show (planRun slashedConfig (run 10 []).toRunParameters slashed).isOk = true by decide)
  refine ⟨by decide, rfl, ⟨untracked, hslashed.step (run 10 (answers "b" 3 1)) trivial, hmarker, v,
    mem_def.mpr (by simp [hv]), ?_⟩, slashed, hslashed, ⟨_, plan, hplan,
      (mem_actions_recoverPending hplan).mpr ⟨by decide, rfl⟩⟩,
    answers "b" 3 1, _, Prod.ext (by decide) rfl, by decide, by decide⟩
  rw [EverRemote, hhistory]
  simp

end Sample

/-! ### Parents -/

/-- The actions before a run creates anything: recovery and the clean-up of
incoming data. -/
def BackupSourceRunPlan.preparation (plan : BackupSourceRunPlan) : List BackupRunAction :=
  plan.actions.takeWhile fun action =>
    action.kind == .recoverPending || action.kind == .cleanupIncoming

section parent

variable {config cfg : SourceConfig} {params : RunParameters} {w t : World}
  {plan : BackupSourceRunPlan}

theorem SourcePlanParts.preparation_eq
    (parts : SourcePlanParts cfg.source (cfg.context params w) plan) : plan.preparation =
      (if (cfg.recoveryPlan w).required then
        [.recoverPending cfg.source.id (cfg.recoveryPlan w)] else []) ++
      [.cleanupIncoming cfg.source.id parts.paths.incomingSourceRoot] := by
  rw [BackupSourceRunPlan.preparation, parts.actions_eq, sourceRecoveryPlan_context]
  rw [orderedSourceActions]
  cases (cfg.recoveryPlan w).required <;>
    cases (cfg.context params w).profile.hooks.beforeSnapshot <;> rfl

/-- The parent of `SendReceive` is the local half of a selected pair. -/
theorem SourcePlanParts.parent_pair (parts : SourcePlanParts cfg.source (cfg.context params w) plan)
    {act} {path : FsPath} (hact : .sendReceive act ∈ plan.actions)
    (hpath : act.parent = some path) : ∃ v ∈ w.localSnapshots, path.location = v.location ∧
    v.metadata.readonly = true ∧ ∃ r ∈ w.remoteSnapshots, r.metadata.readonly = true ∧
    uuidMatches v.metadata.uuid r.metadata.receivedUuid = true := by
  have hsend : act = sendReceiveAction cfg.source parts.paths parts.parent := by
    rw [parts.actions_eq] at hact
    exact sendReceive_mem_orderedSourceActions.mp hact
  rw [hsend] at hpath
  have hpar := parts.parent_ok
  rw [snapshotsFor_localInventory, snapshotsFor_remoteInventory] at hpar
  rcases hselection : parts.parent with _ | ⟨localParent, remoteParent⟩
  · rw [hselection] at hpath
    cases hpath
  · rw [hselection] at hpath hpar
    obtain rfl := Option.some.inj hpath
    obtain ⟨hcand, hrem, ⟨-, hro, -⟩, hmatch⟩ :=
      selectIncrementalParent_eq_incremental hpar
    obtain ⟨hlocal, -, hro', -, -⟩ := mem_parentCandidates.mp hcand
    obtain ⟨v, hv, hlists⟩ := mem_subvolumeInventory.mp hlocal
    obtain ⟨r, hr, hlists'⟩ := mem_subvolumeInventory.mp hrem
    refine ⟨v, hv, hlists.location_path cfg.localDir_isNormal, hlists.readonly_eq ▸ hro',
      r, hr, hlists'.readonly_eq ▸ hro, ?_⟩
    rw [← hlists.uuid_eq, ← hlists'.receivedUuid_eq]
    exact hmatch

/-- Recovery deletes neither half of a matching pair. -/
theorem pair_not_dropped (hshape : Shape cfg w) (hpaired : Paired cfg w) {m}
    (hmark : w.pendingMarker = some m) {v r : Subvolume} (hv : v ∈ w.localSnapshots)
    (hr : r ∈ w.remoteSnapshots)
    (hmatch : uuidMatches v.metadata.uuid r.metadata.receivedUuid = true) :
    ((cfg.decision w m).dropsLocal = true → v.location ≠ m.localSnapshotPath.location) ∧
    ((cfg.decision w m).dropsRemote = true → r.location ≠ m.finalSnapshotPath.location) := by
  constructor
  · intro hdrops hloc
    obtain ⟨x, hx, hunmatched⟩ := decision_dropsLocal_unmatched hshape hmark hdrops
    obtain rfl : x = v := Option.some.inj
      (hx.symm.trans (find?_eq_some.mpr ⟨hv, hloc⟩))
    exact nomatch hmatch.symm.trans (hunmatched r hr)
  · intro hdrops hloc
    obtain ⟨x, y, hx, hy, hmis⟩ := decision_dropsRemote_spec hmark hdrops
    obtain rfl : y = r := Option.some.inj
      (hy.symm.trans (find?_eq_some.mpr ⟨hr, hloc⟩))
    -- the local half has the same name, so it is the pending snapshot
    obtain ⟨name, heng⟩ := hshape.marker m hmark
    obtain ⟨n, hvn, hyn⟩ := hpaired.sameName v hv y hr hmatch
    rw [hyn, heng.final_location] at hloc
    have hname := singleton_inj.mp (append_cancel_left hloc)
    have hpend : w.localAt m.localSnapshotPath = some v :=
      find?_eq_some.mpr ⟨hv, by rw [hvn, heng.local_location, hname]⟩
    obtain rfl := Option.mem_unique hx hpend
    exact nomatch hmatch.symm.trans hmis

/-- Both halves of a pair are there. -/
def HasPair (v r : Subvolume) (t : World) : Prop :=
  v ∈ t.localSnapshots ∧ r ∈ t.remoteSnapshots

/-- Neither recovery nor the clean-up of incoming data deletes one. -/
theorem wp_preparation (hshape : Shape cfg w) (hpaired : Paired cfg w)
    (parts : SourcePlanParts cfg.source (cfg.context params w) plan) {v r : Subvolume}
    (hv : v ∈ w.localSnapshots) (hr : r ∈ w.remoteSnapshots)
    (hmatch : uuidMatches v.metadata.uuid r.metadata.receivedUuid = true) :
    wp (fun _ _ => True) (HasPair v r) (executeActions cfg plan.preparation)
      (fun _ => HasPair v r) (fun _ => HasPair v r) w := by
  have hcleanup : Keeps (fun _ _ => True) (HasPair v r)
      (executeActions cfg [.cleanupIncoming cfg.source.id parts.paths.incomingSourceRoot]) := by
    intro t ht
    refine (wp_bind _ _).mpr (wp_removeContents fun u hsame => ?_)
    rw [HasPair, ← hsame.localSnapshots, ← hsame.remoteSnapshots] at ht
    exact ⟨⟨ht, fun _ => ht⟩, ht⟩
  rw [parts.preparation_eq]
  refine wp_forEach_append.mpr ?_
  by_cases hreq : (cfg.recoveryPlan w).required = true
  · obtain ⟨m, hmark⟩ := recoveryPlan_required.mp hreq
    obtain ⟨hlocal, hrem⟩ := pair_not_dropped hshape hpaired hmark hv hr hmatch
    have h1 : HasPair v r (w.dropPendingRemote (cfg.recoveryPlan w)) := by
      rw [dropPendingRemote_eq hmark]
      split
      · next hdrops =>
        rw [HasPair, World.removeRemote_localSnapshots, World.removeRemote_remoteSnapshots]
        exact ⟨hv, mem_remove.mpr ⟨hr, hrem hdrops⟩⟩
      · exact ⟨hv, hr⟩
    have h2 : HasPair v r (w.dropPending (cfg.recoveryPlan w)) := by
      rw [dropPending_eq hmark]
      split
      · next hdrops => exact ⟨mem_remove.mpr ⟨h1.1, hlocal hdrops⟩, h1.2⟩
      · exact h1
    rw [if_pos hreq]
    refine (wp_bind _ _).mpr (wp_recoverPending (recoveryPlan_spec cfg hmark).2.1
      ⟨⟨hv, hr⟩, fun _ => ⟨hv, hr⟩⟩ ⟨h1, fun _ => h1⟩ ⟨h2, fun _ => h2⟩ ?_)
    rintro t rfl
    have h3 : HasPair v r ((w.dropPending (cfg.recoveryPlan w)).finishRecovery
        (cfg.recoveryPlan w).pendingSnapshotPath) := by
      rwa [HasPair, World.finishRecovery_localSnapshots, World.finishRecovery_remoteSnapshots]
    exact ⟨fun _ => h3, hcleanup _ h3⟩
  · rw [if_neg hreq]
    exact hcleanup w ⟨hv, hr⟩

/-- Two remote snapshots of a reached state that were received from one UUID are
the same, so that parent selection is not ambiguous. -/
theorem remoteInventory_unique (hpaired : Paired cfg w) : ∀ a ∈ cfg.remoteInventory w,
    ∀ b ∈ cfg.remoteInventory w, a.receivedUuid = b.receivedUuid → a.path = b.path := by
  intro a ha b hb huuid
  obtain ⟨q, hq, hqa⟩ := mem_subvolumeInventory.mp ha
  obtain ⟨r, hr, hrb⟩ := mem_subvolumeInventory.mp hb
  rw [hqa.receivedUuid_eq, hrb.receivedUuid_eq] at huuid
  obtain rfl := hpaired.unique q hq r hr huuid
  exact hqa.path_unique hrb

/-- **Parents survive.**  If Btrfs keeps received UUIDs, then the parent a plan
selects is still there, with its remote snapshot, when the recovery and the
clean-up of the same plan have run, however far they got; and parent selection
is never ambiguous. -/
theorem parent_survives (h : Reached config (fun run _ => run.KeepsReceivedUuids) w) :
    (∀ parameters plan action path, planRun config parameters w = .ok plan →
      .sendReceive action ∈ plan.actions → action.parent = some path → ∀ answers t,
      t = ((executeActions config plan.preparation).run answers w).2 →
      ∃ v, t.localAt path = some v ∧ v.metadata.readonly = true ∧
        ∃ r ∈ t.remoteSnapshots, r.metadata.readonly = true ∧
          uuidMatches v.metadata.uuid r.metadata.receivedUuid = true) ∧
    ∀ current required uuid, selectIncrementalParent config.source.id (config.localInventory w)
        (config.remoteInventory w) current required ≠
        .error (ambiguousParentError config.source.id uuid) := by
  obtain ⟨hshape, hpaired⟩ := Reached.invariant ⟨True, False⟩ (I := Paired config) h
    (fun _ _ hshape hkeeps => run_refines hshape (fun _ => hkeeps) nofun) .initial
    fun _ _ hshape hpaired hsteps => hpaired.steps hshape trivial hsteps
  refine ⟨fun parameters plan action path hplan haction hpath answers t ht => ?_,
    fun current required uuid => ?_⟩
  · obtain ⟨parts⟩ := buildSourceRunPlan_eq_ok (planRun_eq_ok hplan)
    obtain ⟨v, hv, hlocation, hreadonly, r, hr, hreadonly', hmatch⟩ :=
      parts.parent_pair haction hpath
    have hkept := run_state (wp_preparation hshape hpaired parts hv hr hmatch)
      (fun _ (_ : _ ∈ answers) _ => trivial) (fun _ _ h => h) (fun _ _ h => h)
    rw [← ht] at hkept
    exact ⟨v, find?_eq_some.mpr ⟨hkept.1, hlocation.symm⟩, hreadonly, r, hkept.2,
      hreadonly', hmatch⟩
  · exact selectIncrementalParent_ne_ambiguous
      (fun a ha b hb huuid _ _ => remoteInventory_unique hpaired a ha b hb huuid) uuid

/-- If Btrfs keeps received UUIDs, the parent that is selected after any runs is the
newest local snapshot with a remote one, and a transfer is full only if there is none. -/
theorem selected_parent_newest (h : Reached config (fun run _ => run.KeepsReceivedUuids) w)
    (current : Option FsPath) (required : Bool) :
    DeclaresParent config.source.id (config.localInventory w) (config.remoteInventory w) current
      required (selectIncrementalParent config.source.id (config.localInventory w)
        (config.remoteInventory w) current required) := by
  obtain ⟨-, hpaired⟩ := Reached.invariant ⟨True, False⟩ (I := Paired config) h
    (fun _ _ hshape hkeeps => run_refines hshape (fun _ => hkeeps) nofun) .initial
    fun _ _ hshape hpaired hsteps => hpaired.steps hshape trivial hsteps
  exact declaresParent fun a ha b hb huuid _ _ => remoteInventory_unique hpaired a ha b hb huuid

end parent

namespace Sample

theorem two_le_maximum : 2 ≤ retentionCountMaximum := by decide

/-- A source that keeps two local snapshots. -/
def keepingTwo : SourceConfig :=
  configOf (source config.source.localSnapshotDir ⟨2, two_le_maximum⟩) false

/-- Two runs that complete. -/
def pairs : World :=
  (execRun keepingTwo (run 10 (answers "b" 3 30))
    (execRun keepingTwo (run 0 (answers "a" 3 30)) .initial).2).2

/-- A third one is cut off when it has made its local snapshot. -/
def pending : World := (execRun keepingTwo (run 20 (answers "c" 3 4)) pairs).2

theorem reached_pending : Reached keepingTwo (fun run _ => run.KeepsReceivedUuids) pending :=
  .step (run 20 (answers "c" 3 4))
    (.step (run 10 (answers "b" 3 30))
      (.step (run 0 (answers "a" 3 30)) .init (keepsReceivedUuids _ _ _ _))
      (keepsReceivedUuids _ _ _ _))
    (keepsReceivedUuids _ _ _ _)

theorem selected_parent_newest_pending :
    pending.pendingMarker.isSome = true ∧ (keepingTwo.localInventory pending).length = 3 ∧
    (keepingTwo.remoteInventory pending).length = 2 ∧
    DeclaresParent keepingTwo.source.id (keepingTwo.localInventory pending)
      (keepingTwo.remoteInventory pending) none true
      (selectIncrementalParent keepingTwo.source.id (keepingTwo.localInventory pending)
        (keepingTwo.remoteInventory pending) none true) :=
  ⟨by decide +kernel, by decide +kernel, by decide +kernel,
    selected_parent_newest reached_pending none true⟩

def parents (plan : BackupSourceRunPlan) : List FsPath :=
  plan.actions.filterMap fun
    | .sendReceive action => action.parent
    | _ => none

theorem parent_survives_pending :
    ∃ plan action path, planRun keepingTwo (run 30 []).toRunParameters pending = .ok plan ∧
      (∃ recovery, .recoverPending keepingTwo.source.id recovery ∈ plan.actions) ∧
      .sendReceive action ∈ plan.actions ∧ action.parent = some path ∧
      ∀ answers t, t = ((executeActions keepingTwo plan.preparation).run answers pending).2 →
      ∃ v, t.localAt path = some v ∧ v.metadata.readonly = true ∧
        ∃ r ∈ t.remoteSnapshots, r.metadata.readonly = true ∧
          uuidMatches v.metadata.uuid r.metadata.receivedUuid = true := by
  have hparents : (planRun keepingTwo (run 30 []).toRunParameters pending).toOption.map parents =
      some [FsPath.ofString "/snapshots/home-1970-01-01T000010Z"] := by decide +kernel
  obtain ⟨plan, hplan, hparents⟩ := Option.map_eq_some_iff.mp hparents
  have hplan : planRun keepingTwo (run 30 []).toRunParameters pending = .ok plan := by
    revert hplan
    cases planRun keepingTwo (run 30 []).toRunParameters pending <;> simp [Except.toOption]
  have hmem : FsPath.ofString "/snapshots/home-1970-01-01T000010Z" ∈ parents plan := by
    rw [hparents]
    exact mem_cons_self
  obtain ⟨action, haction, hpath⟩ := mem_filterMap.mp hmem
  have hrecovery := (mem_actions_recoverPending hplan).mpr ⟨by decide +kernel, rfl⟩
  cases action with
  | sendReceive action =>
    exact ⟨plan, action, _, hplan, ⟨_, hrecovery⟩, haction, hpath, fun answers t ht =>
      (parent_survives reached_pending).1 _ plan action _ hplan haction hpath answers t ht⟩
  | _ => cases hpath

end Sample

end BtrfsBackup
