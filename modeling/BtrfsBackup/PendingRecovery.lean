/-
Planning the recovery of an interrupted run (`backup/model/PendingRecovery`).

A run writes a pending marker before it creates a snapshot.  A later run that
finds the marker plans what has to be undone: `planPendingRecovery`.
`recoveryDecision` names the branch the plan takes, and
`planPendingRecovery_some` reads the effects off the branch.
-/
import BtrfsBackup.Snapshot

namespace BtrfsBackup

structure PendingMarker where
  sourceId : SourceId
  localSnapshotPath : FsPath
  finalSnapshotPath : FsPath
  runId : RunId
  timestamp : RuntimeTimePoint
  deriving DecidableEq

inductive PendingRecoveryEffect where
  | deletePendingRemoteSnapshot (snapshotPath : FsPath)
  | deletePendingLocalSnapshot (snapshotPath : FsPath)
  | clearPendingMarker (markerPath : FsPath)
  deriving DecidableEq

structure PendingRecoveryPlan where
  markerPath : FsPath
  pendingSnapshotPath : FsPath
  effects : List PendingRecoveryEffect
  message : String
  deriving DecidableEq

namespace PendingRecoveryPlan

/-- `PendingRecoveryPlan::required`. -/
def required (plan : PendingRecoveryPlan) : Bool := !plan.effects.isEmpty

/-- `pending_recovery_effect<DeletePendingLocalSnapshot>`: the snapshot to delete. -/
def localDeletion (plan : PendingRecoveryPlan) : Option FsPath :=
  plan.effects.findSome? fun
    | .deletePendingLocalSnapshot path => some path
    | _ => none

/-- `pending_recovery_effect<DeletePendingRemoteSnapshot>`: the snapshot to delete. -/
def remoteDeletion (plan : PendingRecoveryPlan) : Option FsPath :=
  plan.effects.findSome? fun
    | .deletePendingRemoteSnapshot path => some path
    | _ => none

/-- `pending_recovery_effect<ClearPendingMarker>`: is there one? -/
def clearsMarker (plan : PendingRecoveryPlan) : Bool :=
  plan.effects.any fun
    | .clearPendingMarker _ => true
    | _ => false

theorem required_of_clearsMarker {plan : PendingRecoveryPlan} (h : plan.clearsMarker = true) :
    plan.required = true := by
  rw [clearsMarker, List.any_eq_true] at h
  obtain ⟨effect, heffect, -⟩ := h
  simpa [required] using List.ne_nil_of_mem heffect

end PendingRecoveryPlan

/-- `remote_contains_received_uuid`. -/
def remoteContainsReceivedUuid (remoteSnapshots : List SnapshotInfo) (sourceId : SourceId)
    (uuid : SnapshotUuid) : Bool :=
  remoteSnapshots.any fun remote =>
    decide (remote.sourceId = sourceId) && uuidMatches uuid remote.receivedUuid

/-- `marker_path_is_valid`. -/
def markerPathIsValid (marker : PendingMarker) (sourceId : SourceId)
    (localSnapshotDir remoteSnapshotDir : FsPath) : Bool :=
  if marker.sourceId ≠ sourceId ∨ marker.localSnapshotPath.isEmpty then false
  else
    let snapshotPath := marker.localSnapshotPath.lexicallyNormal
    if !FsPath.pathIsWithin snapshotPath localSnapshotDir then false
    else if !startsWith snapshotPath.filename (sourceId.value ++ "-") then false
    else if marker.finalSnapshotPath.isEmpty then false
    else
      let finalPath := marker.finalSnapshotPath.lexicallyNormal
      FsPath.pathIsWithin finalPath remoteSnapshotDir &&
        finalPath.filename == snapshotPath.filename

/-- `remote_snapshot_at_path`. -/
def remoteSnapshotAtPath (remoteSnapshots : List SnapshotInfo) (path : FsPath) :
    Option SnapshotInfo :=
  remoteSnapshots.find? fun remote => remote.path.lexicallyNormal == path.lexicallyNormal

section plan

variable (sourceId : SourceId) (profileStateDir localSnapshotDir remoteSnapshotDir : FsPath)
  (marker : Option PendingMarker) (pendingSnapshot : Option SnapshotMetadata)
  (remoteSnapshots : List SnapshotInfo) (keepFailedLocalSnapshot : Bool) {d : RecoveryDecision}

/-- Is the committed snapshot at the marker's final path one that does not
match the pending local snapshot? -/
def finalIsUnverified (marker : PendingMarker) (pending : SnapshotMetadata) : Bool :=
  match remoteSnapshotAtPath remoteSnapshots marker.finalSnapshotPath with
  | none => false
  | some final => !pending.uuid.isEmpty && !uuidMatches pending.uuid final.receivedUuid

/-- `plan_pending_recovery`. -/
def planPendingRecovery : PendingRecoveryPlan :=
  let markerPath : FsPath := profileStateDir / ("pending-" ++ sourceId.value)
  match marker with
  | none => ⟨markerPath, .empty, [], ""⟩
  | some marker =>
    let clear := PendingRecoveryEffect.clearPendingMarker markerPath
    let pendingPath := marker.localSnapshotPath
    if !markerPathIsValid marker sourceId localSnapshotDir remoteSnapshotDir then
      ⟨markerPath, pendingPath, [clear],
        "Ignoring invalid pending marker for " ++ sourceId.value ++ ": " ++ markerPath.string⟩
    else
      match pendingSnapshot with
      | none =>
        ⟨markerPath, pendingPath, [clear],
          "Clearing pending marker for missing local snapshot: " ++ pendingPath.string⟩
      | some pending =>
        if !pending.isSubvolume then
          ⟨markerPath, pendingPath, [clear],
            "Clearing pending marker for missing local snapshot: " ++ pendingPath.string⟩
        else if finalIsUnverified remoteSnapshots marker pending then
          let remote := PendingRecoveryEffect.deletePendingRemoteSnapshot marker.finalSnapshotPath
          ⟨markerPath, pendingPath,
            if !keepFailedLocalSnapshot &&
                !remoteContainsReceivedUuid remoteSnapshots sourceId pending.uuid then
              [remote, .deletePendingLocalSnapshot pendingPath, clear]
            else [remote, clear],
            "Removing unverified committed snapshot left by an interrupted run: " ++
              marker.finalSnapshotPath.string⟩
        else if !pending.uuid.isEmpty &&
            remoteContainsReceivedUuid remoteSnapshots sourceId pending.uuid then
          ⟨markerPath, pendingPath, [clear],
            "Recovered committed snapshot from an interrupted run: " ++ pendingPath.string⟩
        else if keepFailedLocalSnapshot then
          ⟨markerPath, pendingPath, [clear],
            "Keeping pending local snapshot by configuration: " ++ pendingPath.string⟩
        else
          ⟨markerPath, pendingPath, [.deletePendingLocalSnapshot pendingPath, clear],
            "Removing orphaned local snapshot from an interrupted run: " ++ pendingPath.string⟩

/-! ### What a recovery does -/

/-- The snapshots a recovery deletes before it clears the marker. -/
inductive RecoveryDecision where
  | nothing
  | localOnly
  | remoteOnly
  | both
  deriving DecidableEq, Repr

/-- The branch `planPendingRecovery` takes for a marker. -/
def recoveryDecision (marker : PendingMarker) : RecoveryDecision :=
  if markerPathIsValid marker sourceId localSnapshotDir remoteSnapshotDir then
    match pendingSnapshot with
    | none => .nothing
    | some pending =>
      if !pending.isSubvolume then .nothing
      else if finalIsUnverified remoteSnapshots marker pending then
        if keepFailedLocalSnapshot || remoteContainsReceivedUuid remoteSnapshots sourceId
          pending.uuid
        then .remoteOnly
        else .both
      else if (!pending.uuid.isEmpty &&
          remoteContainsReceivedUuid remoteSnapshots sourceId pending.uuid) ||
          keepFailedLocalSnapshot then .nothing
      else .localOnly
  else .nothing

/-- Is a remote snapshot deleted? -/
def RecoveryDecision.dropsRemote : RecoveryDecision → Bool
  | .remoteOnly => true
  | .both => true
  | _ => false

/-- Is the local snapshot deleted? -/
def RecoveryDecision.dropsLocal : RecoveryDecision → Bool
  | .localOnly => true
  | .both => true
  | _ => false

theorem RecoveryDecision.ne_nothing_of_dropsRemote (h : d.dropsRemote = true) : d ≠ .nothing := by
  rintro rfl
  cases h

theorem RecoveryDecision.ne_nothing_of_dropsLocal (h : d.dropsLocal = true) : d ≠ .nothing := by
  rintro rfl
  cases h

/-- The plan for a marker deletes what its branch says and clears the marker. -/
theorem planPendingRecovery_some (marker : PendingMarker) :
    let plan := planPendingRecovery sourceId profileStateDir localSnapshotDir remoteSnapshotDir
      (some marker) pendingSnapshot remoteSnapshots keepFailedLocalSnapshot
    let decision := recoveryDecision sourceId localSnapshotDir remoteSnapshotDir pendingSnapshot
      remoteSnapshots keepFailedLocalSnapshot marker
    plan.pendingSnapshotPath = marker.localSnapshotPath ∧ plan.clearsMarker = true ∧
      plan.remoteDeletion =
        (if decision.dropsRemote then some marker.finalSnapshotPath else none) ∧
      plan.localDeletion =
        (if decision.dropsLocal then some marker.localSnapshotPath else none) := by
  intro plan decision
  cases hvalid : markerPathIsValid marker sourceId localSnapshotDir remoteSnapshotDir with
  | false =>
    simp only [plan, decision, planPendingRecovery, recoveryDecision, hvalid]
    exact ⟨rfl, rfl, rfl, rfl⟩
  | true =>
  cases pendingSnapshot with
  | none =>
    simp only [plan, decision, planPendingRecovery, recoveryDecision, hvalid]
    exact ⟨rfl, rfl, rfl, rfl⟩
  | some pending =>
  cases hsub : pending.isSubvolume with
  | false =>
    simp only [plan, decision, planPendingRecovery, recoveryDecision, hvalid, hsub]
    exact ⟨rfl, rfl, rfl, rfl⟩
  | true =>
  cases hunv : finalIsUnverified remoteSnapshots marker pending with
  | true =>
    cases hcontains : remoteContainsReceivedUuid remoteSnapshots sourceId pending.uuid
    all_goals
      cases keepFailedLocalSnapshot
      all_goals
        simp only [plan, decision, planPendingRecovery, recoveryDecision, hvalid, hsub,
          hunv, hcontains]
        exact ⟨rfl, rfl, rfl, rfl⟩
  | false =>
    cases hcontains : remoteContainsReceivedUuid remoteSnapshots sourceId pending.uuid
    all_goals
      cases hempty : pending.uuid.isEmpty
      all_goals
        cases keepFailedLocalSnapshot
        all_goals
          simp only [plan, decision, planPendingRecovery, recoveryDecision, hvalid, hsub,
            hunv, hcontains, hempty]
          exact ⟨rfl, rfl, rfl, rfl⟩

theorem planPendingRecovery_none :
    (planPendingRecovery sourceId profileStateDir localSnapshotDir remoteSnapshotDir none
      pendingSnapshot remoteSnapshots keepFailedLocalSnapshot).required = false := rfl

end plan

end BtrfsBackup
