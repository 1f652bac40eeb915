/-
The backup protocol of one source.

`Step` is an abstract view of what the engine does to the stores: each of its
constructors is one effect of a run, with the facts about the state that the
run has made sure of before.  Effects that create something are apart
(`Grows`), because all others only take away (`Shrinks`).  The invariants of
the protocol are proved over steps (`Invariants`); that the handlers take no
other steps is `run_refines` of `Refinement`.
-/
import BtrfsBackup.HandlerRules

open Keyed.Store

namespace BtrfsBackup

/-! ### Effects on the world -/

namespace World

/-- The local snapshot at a path. -/
def localAt (world : World) (path : FsPath) : Option Subvolume :=
  world.localSnapshots.find? path.location

/-- The remote snapshot at a path. -/
def remoteAt (world : World) (path : FsPath) : Option Subvolume :=
  world.remoteSnapshots.find? path.location

variable (world : World) (action : BackupRunActionKind) (l : List String)

@[simp] theorem removeRemote_remoteSnapshots :
    (world.removeRemote action l).remoteSnapshots = world.remoteSnapshots.remove l := by
  rw [removeRemote]
  split
  · next h => exact (remove_of_find?_eq_none h).symm
  · rfl

@[simp] theorem removeRemote_localSnapshots :
    (world.removeRemote action l).localSnapshots = world.localSnapshots := by
  rw [removeRemote]
  split <;> rfl

@[simp] theorem removeRemote_pendingMarker :
    (world.removeRemote action l).pendingMarker = world.pendingMarker := by
  rw [removeRemote]
  split <;> rfl

/-- Deleting a remote snapshot is recorded as such. -/
theorem removeRemote_history : (world.removeRemote action l).history = world.history ∨
      ∃ v, world.remoteSnapshots.find? l = some v ∧ (world.removeRemote action l).history =
        .remoteDeleted action v.metadata.uuid :: world.history := by
  rw [removeRemote]
  split
  · exact .inl rfl
  · next v hv => exact .inr ⟨v, hv, rfl⟩

theorem mem_history_removeRemote {ev action l} (h : ev ∈ world.history) :
    ev ∈ (world.removeRemote action l).history := by
  rcases world.removeRemote_history action l with he | ⟨v, -, he⟩
  · rwa [he]
  · rw [he]
    exact List.mem_cons_of_mem _ h

@[simp] theorem removeLocal_localSnapshots :
    (world.removeLocal l).localSnapshots = world.localSnapshots.remove l := rfl

@[simp] theorem removeLocal_remoteSnapshots :
    (world.removeLocal l).remoteSnapshots = world.remoteSnapshots := rfl

@[simp] theorem removeLocal_pendingMarker :
    (world.removeLocal l).pendingMarker = world.pendingMarker := rfl

@[simp] theorem finishRecovery_localSnapshots (path : FsPath) :
    (world.finishRecovery path).localSnapshots = world.localSnapshots := by
  rw [finishRecovery]
  split <;> rfl

@[simp] theorem finishRecovery_remoteSnapshots (path : FsPath) :
    (world.finishRecovery path).remoteSnapshots = world.remoteSnapshots := by
  rw [finishRecovery]
  split <;> rfl

@[simp] theorem finishRecovery_pendingMarker (path : FsPath) :
    (world.finishRecovery path).pendingMarker = none := by
  rw [finishRecovery]
  split <;> rfl

variable {path : FsPath} {v : Subvolume}

theorem mem_history_finishRecovery {ev}
    (h : ev ∈ world.history) : ev ∈ (world.finishRecovery path).history := by
  rw [finishRecovery]
  split
  · exact h
  · exact List.mem_cons_of_mem _ h

/-- What recovery leaves at the pending path is recorded. -/
theorem leftByRecovery_mem (h : world.localAt path = some v) :
    .leftByRecovery v.metadata.uuid ∈ (world.finishRecovery path).history := by
  rw [localAt] at h
  simp [finishRecovery, h]

variable {world}

/-- A fresh UUID is not empty, and no subvolume has it or was received from it. -/
theorem isFresh_spec {uuid} (h : world.isFresh uuid = true) :
    uuid.isEmpty = false ∧ (∀ v ∈ world.localSnapshots, v.metadata.uuid ≠ uuid) ∧
      ∀ r ∈ world.remoteSnapshots, uuidMatches uuid r.metadata.receivedUuid = false := by
  simp only [isFresh, Bool.and_eq_true, Bool.not_eq_true', List.all_eq_true, List.mem_cons,
    bne_iff_ne] at h
  obtain ⟨⟨hempty, -⟩, hstores⟩ := h
  refine ⟨hempty, fun v hv huuid => ?_, fun r hr => ?_⟩
  · exact (hstores _ (.inl rfl) v hv).1 (by rw [huuid])
  · by_contra hmatch
    have hvalue := (uuidMatches_iff.mp (by simpa using hmatch)).2
    exact (hstores _ (.inr (.inl rfl)) r hr).2 (by rw [hvalue, SnapshotUuid.toReceived])

theorem mem_addLocal {answer : Answer} (free : world.localAt path = none) :
    v ∈ (world.addLocal (newLocalSnapshot path.location answer)).localSnapshots ↔
    v = newLocalSnapshot path.location answer ∨ v ∈ world.localSnapshots :=
  mem_add free

theorem mem_addRemote {r x : Subvolume}
    (free : world.remoteAt path = none) (location : r.location = path.location) :
    x ∈ (world.addRemote r).remoteSnapshots ↔ x = r ∨ x ∈ world.remoteSnapshots := by
  rw [remoteAt, ← location] at free
  exact mem_add free

end World

/-! ### Steps -/

/-- What is assumed of Btrfs and of the runs. -/
structure Assumptions where
  /-- A read-only snapshot keeps the received UUID. -/
  keepsReceivedUuid : Prop
  /-- A planned name is not the name of a remote snapshot. -/
  freshRemoteNames : Prop

/-- The marker a run of the source writes for a name. -/
structure EngineMarker (config : SourceConfig) (marker : PendingMarker) (name : String) : Prop where
  sourceId : marker.sourceId = config.source.id
  localSnapshotPath : marker.localSnapshotPath = (config.localDir / name : FsPath)
  finalSnapshotPath : marker.finalSnapshotPath = (config.remoteDir / name : FsPath)
  parsed : (parseSnapshotName name config.source.id).isSome = true

/-- A remote snapshot received from `uuid` was created at some time. -/
def EverRemote (world : World) (uuid : SnapshotUuid) : Prop :=
  ∃ own received, StoreEvent.remoteCreated own received ∈ world.history ∧
    uuidMatches uuid received = true

/-- A recovery has nothing left to delete: the marker is not one of the source,
the local snapshot is gone, or it is kept and the remote one belongs to it. -/
def Settled (config : SourceConfig) (world : World) (marker : PendingMarker) : Prop :=
  markerPathIsValid marker config.source.id config.localDir config.remoteDir = false ∨
  world.localAt marker.localSnapshotPath = none ∨
  ∃ v, world.localAt marker.localSnapshotPath = some v ∧
    (∀ r, world.remoteAt marker.finalSnapshotPath = some r →
      uuidMatches v.metadata.uuid r.metadata.receivedUuid = true) ∧
    ((∃ r ∈ world.remoteSnapshots, uuidMatches v.metadata.uuid r.metadata.receivedUuid = true) ∨
      config.profile.settings.keepFailedLocalSnapshot = true)

/-- The remote snapshot was received from the one it was made from. -/
def Subvolume.IsVerified (r : Subvolume) : Prop :=
  r.metadata.receivedUuid = r.madeFrom.toReceived

/-- An effect that creates something. -/
inductive Grows (config : SourceConfig) (assume : Assumptions) : World → World → Prop
  /-- A run writes its marker. -/
  | writeMarker {w : World} {m : PendingMarker} {name : String} (unmarked : w.pendingMarker = none)
      (engine : EngineMarker config m name)
      (final : assume.freshRemoteNames → w.remoteAt m.finalSnapshotPath = none) :
      Grows config assume w (w.writeMarker m)
  /-- A run creates its local snapshot. -/
  | createLocal {w : World} {m : PendingMarker} {answer : Answer}
      (marker : w.pendingMarker = some m) (free : w.localAt m.localSnapshotPath = none)
      (final : assume.freshRemoteNames → w.remoteAt m.finalSnapshotPath = none)
      (fresh : w.isFresh answer.uuid = true) :
      Grows config assume w (w.addLocal (newLocalSnapshot m.localSnapshotPath.location answer))
  /-- A run creates its remote snapshot. -/
  | createRemote {w : World} {m : PendingMarker} {v r : Subvolume}
      (marker : w.pendingMarker = some m) (pending : w.localAt m.localSnapshotPath = some v)
      (free : w.remoteAt m.finalSnapshotPath = none)
      (location : r.location = m.finalSnapshotPath.location)
      (flags : r.metadata.isSubvolume = true ∧ r.metadata.readonly = true)
      (madeFrom : r.madeFrom = v.metadata.uuid)
      (keeps : assume.keepsReceivedUuid →
        uuidMatches v.metadata.uuid r.metadata.receivedUuid = true) :
      Grows config assume w (w.addRemote r)

/-- One effect of a run of the source. -/
inductive Step (config : SourceConfig) (assume : Assumptions) : World → World → Prop
  | grow {w t : World} (grows : Grows config assume w t) : Step config assume w t
  /-- Recovery deletes a remote snapshot that is not the pending one's. -/
  | dropPendingRemote {w : World} {m : PendingMarker} {v r : Subvolume}
      (marker : w.pendingMarker = some m) (pending : w.localAt m.localSnapshotPath = some v)
      (final : w.remoteAt m.finalSnapshotPath = some r)
      (mismatch : uuidMatches v.metadata.uuid r.metadata.receivedUuid = false) :
      Step config assume w (w.removeRemote .recoverPending m.finalSnapshotPath.location)
  /-- Recovery deletes a pending local snapshot that has no remote one. -/
  | dropPendingLocal {w : World} {m : PendingMarker} (marker : w.pendingMarker = some m)
      (final : w.remoteAt m.finalSnapshotPath = none) :
      Step config assume w (w.removeLocal m.localSnapshotPath.location)
  /-- Recovery clears the marker. -/
  | finishRecovery {w : World} {m : PendingMarker} (marker : w.pendingMarker = some m)
      (settled : Settled config w m) :
      Step config assume w (w.finishRecovery m.localSnapshotPath)
  /-- Received data comes or goes. -/
  | transfer {w t : World} (same : SameSnapshots w t) : Step config assume w t
  /-- The check of the new remote snapshot fails. -/
  | checkFailed {w : World} (location : List String) :
      Step config assume w (w.record (.commitCheckFailed location))
  /-- The check of the new remote snapshot succeeds. -/
  | checkSucceeded {w : World} (uuid : SnapshotUuid) :
      Step config assume w (w.record (.commitSucceeded uuid))
  /-- A new remote snapshot that failed its check is deleted. -/
  | dropUnverified {w : World} {m : PendingMarker} {v r : Subvolume}
      (marker : w.pendingMarker = some m) (pending : w.localAt m.localSnapshotPath = some v)
      (final : w.remoteAt m.finalSnapshotPath = some r)
      (mismatch : uuidMatches v.metadata.uuid r.metadata.receivedUuid = false) :
      Step config assume w (w.removeRemote .commitReceived m.finalSnapshotPath.location)
  /-- Retention deletes a remote snapshot. -/
  | retainRemote {w : World} {location : List String} :
      Step config assume w (w.removeRemote .applyRemoteRetention location)
  /-- Retention deletes a local snapshot, after the commit. -/
  | retainLocal {w : World} {m : PendingMarker} {location : List String}
      (marker : w.pendingMarker = some m)
      (verified : ∀ r, w.remoteAt m.finalSnapshotPath = some r → r.IsVerified) :
      Step config assume w (w.removeLocal location)
  /-- A completed run clears its marker. -/
  | finish {w : World} {m : PendingMarker} (marker : w.pendingMarker = some m)
      (verified : ∀ r, w.remoteAt m.finalSnapshotPath = some r → r.IsVerified)
      (committed : ∀ v, w.localAt m.localSnapshotPath = some v → EverRemote w v.metadata.uuid) :
      Step config assume w w.clearMarker

/-- Any number of effects. -/
abbrev Steps (config : SourceConfig) (assume : Assumptions) : World → World → Prop :=
  Relation.ReflTransGen (Step config assume)

/-- Snapshots and the marker may have gone; nothing is new. -/
structure Shrinks (w t : World) : Prop where
  locals : ∀ v ∈ t.localSnapshots, v ∈ w.localSnapshots
  remotes : ∀ r ∈ t.remoteSnapshots, r ∈ w.remoteSnapshots
  marker : ∀ m, t.pendingMarker = some m → w.pendingMarker = some m

namespace Shrinks

variable {w t u : World} {path : FsPath}

theorem refl (w : World) : Shrinks w w := ⟨fun _ h => h, fun _ h => h, fun _ h => h⟩

theorem trans (h : Shrinks w t) (h' : Shrinks t u) : Shrinks w u where
  locals := fun v hv => h.locals v (h'.locals v hv)
  remotes := fun r hr => h.remotes r (h'.remotes r hr)
  marker := fun m hm => h.marker m (h'.marker m hm)

theorem removeRemote (w : World) (action : BackupRunActionKind) (l : List String) :
    Shrinks w (w.removeRemote action l) := by
  refine ⟨fun v hv => by simpa using hv, fun r hr => ?_, fun m hm => by simpa using hm⟩
  rw [World.removeRemote_remoteSnapshots] at hr
  exact mem_of_mem_remove hr

theorem removeLocal (w : World) (l : List String) : Shrinks w (w.removeLocal l) :=
  ⟨fun _ => mem_of_mem_remove, fun _ hr => hr, fun _ hm => hm⟩

theorem finishRecovery (w : World) (path : FsPath) : Shrinks w (w.finishRecovery path) :=
  ⟨by simp, by simp, by simp⟩

theorem dropPendingRemote (w : World) (rcv : PendingRecoveryPlan) :
    Shrinks w (w.dropPendingRemote rcv) := by
  rw [World.dropPendingRemote]
  split
  · exact refl w
  · exact removeRemote ..

theorem dropPendingLocal (w : World) (rcv : PendingRecoveryPlan) :
    Shrinks w (w.dropPendingLocal rcv) := by
  rw [World.dropPendingLocal]
  split
  · exact refl w
  · exact removeLocal ..

theorem clearMarker (w : World) : Shrinks w w.clearMarker :=
  ⟨fun _ h => h, fun _ h => h, fun _ => nofun⟩

theorem record (w : World) (ev : StoreEvent) : Shrinks w (w.record ev) :=
  ⟨fun _ h => h, fun _ h => h, fun _ h => h⟩

theorem of_same (h : SameSnapshots w t) : Shrinks w t :=
  ⟨by simp [h.localSnapshots], by simp [h.remoteSnapshots], by simp [h.pendingMarker]⟩

theorem localAt (h : Shrinks w t) {v : Subvolume} (hv : t.localAt path = some v) :
    w.localAt path = some v := by
  obtain ⟨hmem, hloc⟩ := find?_eq_some.mp hv
  exact find?_eq_some.mpr ⟨h.locals v hmem, hloc⟩

theorem remoteAt (h : Shrinks w t) {r : Subvolume}
    (hr : t.remoteAt path = some r) : w.remoteAt path = some r := by
  obtain ⟨hmem, hloc⟩ := find?_eq_some.mp hr
  exact find?_eq_some.mpr ⟨h.remotes r hmem, hloc⟩

theorem remoteAt_none (h : Shrinks w t) (hnone : w.remoteAt path = none) :
    t.remoteAt path = none := by
  rcases hr : t.remoteAt path with _ | r
  · rfl
  · exact nomatch (h.remoteAt hr).symm.trans hnone

end Shrinks

variable {assume : Assumptions} {w t : World}

/-- An effect that creates nothing only takes away. -/
theorem Step.grows_or_shrinks {cfg}
    (h : Step cfg assume w t) : Grows cfg assume w t ∨ Shrinks w t := by
  cases h with
  | grow grows => exact .inl grows
  | dropPendingRemote => exact .inr (.removeRemote ..)
  | dropPendingLocal => exact .inr (.removeLocal ..)
  | finishRecovery => exact .inr (.finishRecovery ..)
  | transfer same => exact .inr (.of_same same)
  | checkFailed => exact .inr (.record ..)
  | checkSucceeded => exact .inr (.record ..)
  | dropUnverified => exact .inr (.removeRemote ..)
  | retainRemote => exact .inr (.removeRemote ..)
  | retainLocal => exact .inr (.removeLocal ..)
  | finish => exact .inr (.clearMarker w)

/-- What happened stays recorded. -/
theorem Step.mem_history {cfg} (h : Step cfg assume w t)
    {ev} (hevent : ev ∈ w.history) : ev ∈ t.history := by
  cases h with
  | grow grows =>
    cases grows with
    | writeMarker => exact hevent
    | createLocal => exact hevent
    | createRemote => exact List.mem_cons_of_mem _ hevent
  | dropPendingRemote => exact w.mem_history_removeRemote hevent
  | dropPendingLocal => exact hevent
  | finishRecovery => exact w.mem_history_finishRecovery hevent
  | transfer same => rwa [same.history]
  | checkFailed => exact List.mem_cons_of_mem _ hevent
  | checkSucceeded => exact List.mem_cons_of_mem _ hevent
  | dropUnverified => exact w.mem_history_removeRemote hevent
  | retainRemote => exact w.mem_history_removeRemote hevent
  | retainLocal => exact hevent
  | finish => exact hevent

theorem EverRemote.step {cfg} {uuid}
    (h : EverRemote w uuid) (hstep : Step cfg assume w t) : EverRemote t uuid := by
  obtain ⟨own, received, hevent, hmatch⟩ := h
  exact ⟨own, received, hstep.mem_history hevent, hmatch⟩

namespace EngineMarker

variable {cfg : SourceConfig} {marker : PendingMarker} {name : String}

theorem isPlain (h : EngineMarker cfg marker name) : IsPlain name := by
  obtain ⟨parsed, hparsed⟩ := Option.isSome_iff_exists.mp h.parsed
  exact parseSnapshotName_isPlain hparsed

theorem local_location (h : EngineMarker cfg marker name) :
    marker.localSnapshotPath.location = cfg.localDir.names ++ [name] := by
  rw [h.localSnapshotPath, location_div cfg.localDir_isNormal h.isPlain]

theorem final_location (h : EngineMarker cfg marker name) :
    marker.finalSnapshotPath.location = cfg.remoteDir.names ++ [name] := by
  rw [h.finalSnapshotPath, location_div cfg.remoteDir_isNormal h.isPlain]

/-- A name below a directory spelled without a trailing separator is within it. -/
theorem within_div {dir : FsPath} (hdir : dir.IsNormal) (huntrailed : dir.trailing = false)
    (hname : IsPlain name) : (dir / name : FsPath).isEmpty = false ∧
    (dir / name : FsPath).lexicallyNormal = (dir / name : FsPath) ∧
    FsPath.pathIsWithin (dir / name : FsPath) dir = true ∧
    (dir / name : FsPath).filename = name := by
  have hnorm := FsPath.div_name_isNormal hdir hname.1 hname.2.1 hname.2.2
  obtain ⟨-, hnames, -⟩ := FsPath.div_name hname.1
  refine ⟨?_, FsPath.lexicallyNormal_of_isNormal hnorm, ?_, FsPath.div_name_filename hname.1⟩
  · simp [FsPath.isEmpty, hnorm.1]
  · rw [FsPath.pathIsWithin_iff hnorm hdir huntrailed, hnames]
    exact List.prefix_append _ _

/-- The engine takes its own markers for valid, unless the local snapshot
directory is spelled with a trailing separator. -/
theorem valid (h : EngineMarker cfg marker name) (hdir : cfg.source.localSnapshotDir.Unslashed) :
    markerPathIsValid marker cfg.source.id cfg.localDir cfg.remoteDir = true := by
  obtain ⟨parsed, hparsed⟩ := Option.isSome_iff_exists.mp h.parsed
  have hstart := (parseSnapshotName_eq_some hparsed).2.2
  obtain ⟨lempty, lnormal, lwithin, lname⟩ :=
    within_div cfg.localDir_isNormal hdir h.isPlain
  obtain ⟨rempty, rnormal, rwithin, rname⟩ :=
    within_div cfg.remoteDir_isNormal (remoteDirectory_spec ..).2.1 h.isPlain
  simp [markerPathIsValid, h.sourceId, h.localSnapshotPath, h.finalSnapshotPath, lempty, lnormal,
    lwithin, lname, hstart, rempty, rnormal, rwithin, rname]

end EngineMarker

end BtrfsBackup
