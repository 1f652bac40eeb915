/-
Building the plan of a run (`backup/model/BackupRunPlan`, `BackupRunActions`).

For each enabled source the plan allocates a snapshot name, chooses a parent,
plans the recovery of an interrupted run, projects the inventories after the
run to plan retention, and lists the actions in the order they are executed.

* `buildSourceRunPlan_eq_ok` — what a successful source plan is made of;
* `plannedSnapshotName_free` — a planned name is new in the local inventory.
-/
import BtrfsBackup.IncrementalParent
import BtrfsBackup.PendingRecovery
import BtrfsBackup.Profile
import BtrfsBackup.RetentionPlan

namespace BtrfsBackup

open List

/-! ### Actions -/

inductive BackupRunActionKind where
  | recoverPending
  | cleanupIncoming
  | beforeSnapshotHook
  | createSnapshot
  | afterSnapshotHook
  | sendReceive
  | verifyReceived
  | commitReceived
  | applyRemoteRetention
  | applyLocalRetention
  | cleanupSource
  deriving DecidableEq, Repr

inductive HookPhase where
  | beforeSnapshot
  | afterSnapshot
  deriving DecidableEq, Repr

structure CreateSnapshotAction where
  sourceId : SourceId
  source : FsPath
  snapshotDirectory : FsPath
  snapshot : FsPath
  finalRemoteSnapshot : FsPath
  profileStateDirectory : FsPath
  runId : RunId
  deriving DecidableEq

structure SendReceiveAction where
  sourceId : SourceId
  snapshot : FsPath
  parent : Option FsPath
  remoteSnapshotDirectory : FsPath
  incomingRunDirectory : FsPath
  deriving DecidableEq

structure CommitReceivedAction where
  sourceId : SourceId
  localSnapshot : FsPath
  receivedSnapshot : FsPath
  finalSnapshot : FsPath
  deriving DecidableEq

structure CleanupSourceAction where
  sourceId : SourceId
  receivedSnapshot : FsPath
  incomingRunDirectory : FsPath
  pendingMarker : FsPath
  profileStateDirectory : FsPath
  deriving DecidableEq

inductive BackupRunAction where
  | recoverPending (sourceId : SourceId) (recovery : PendingRecoveryPlan)
  | cleanupIncoming (sourceId : SourceId) (incomingDirectory : FsPath)
  | runHook (sourceId : SourceId) (phase : HookPhase) (hook : ProfileHookCommand)
  | createSnapshot (action : CreateSnapshotAction)
  | sendReceive (action : SendReceiveAction)
  | verifyReceived (sourceId : SourceId) (localSnapshot receivedSnapshot : FsPath)
  | commitReceived (action : CommitReceivedAction)
  | applyRemoteRetention (sourceId : SourceId) (plan : RetentionPlan)
  | applyLocalRetention (sourceId : SourceId) (plan : RetentionPlan)
  | cleanupSource (action : CleanupSourceAction)

namespace BackupRunAction

/-- `backup_run_action_kind`. -/
def kind : BackupRunAction → BackupRunActionKind
  | recoverPending .. => .recoverPending
  | cleanupIncoming .. => .cleanupIncoming
  | runHook _ .beforeSnapshot _ => .beforeSnapshotHook
  | runHook _ .afterSnapshot _ => .afterSnapshotHook
  | createSnapshot _ => .createSnapshot
  | sendReceive _ => .sendReceive
  | verifyReceived .. => .verifyReceived
  | commitReceived _ => .commitReceived
  | applyRemoteRetention .. => .applyRemoteRetention
  | applyLocalRetention .. => .applyLocalRetention
  | cleanupSource _ => .cleanupSource

/-- `backup_run_action_source_id`. -/
def sourceId : BackupRunAction → SourceId
  | recoverPending sourceId _ => sourceId
  | cleanupIncoming sourceId _ => sourceId
  | runHook sourceId _ _ => sourceId
  | createSnapshot action => action.sourceId
  | sendReceive action => action.sourceId
  | verifyReceived sourceId _ _ => sourceId
  | commitReceived action => action.sourceId
  | applyRemoteRetention sourceId _ => sourceId
  | applyLocalRetention sourceId _ => sourceId
  | cleanupSource action => action.sourceId

/-- Hooks may occur several times in a source plan. -/
def isHook (action : BackupRunAction) : Bool :=
  action.kind == .beforeSnapshotHook || action.kind == .afterSnapshotHook

end BackupRunAction

/-! ### Source plans -/

/-- The loop of the constructor of `BackupSourceRunPlan`; `singletons` are the
kinds seen so far. -/
def checkActions (sourceId : SourceId) :
    List BackupRunActionKind → List BackupRunAction → Except Thrown Unit
  | _, [] => .ok ()
  | singletons, action :: actions =>
    if action.sourceId ≠ sourceId then
      .error (validationError "backup source plan contains an action for a different source")
    else if action.isHook then checkActions sourceId singletons actions
    else if action.kind ∈ singletons then
      .error (validationError "backup source plan contains a duplicate action kind")
    else checkActions sourceId (action.kind :: singletons) actions

/-- `BackupSourceRunPlan`: actions of one source, each kind at most once, hooks
apart. -/
structure BackupSourceRunPlan where
  sourceId : SourceId
  actions : List BackupRunAction
  checked : checkActions sourceId [] actions = .ok ()

/-- The constructor of `BackupSourceRunPlan`. -/
def BackupSourceRunPlan.make (sourceId : SourceId) (actions : List BackupRunAction) :
    Except Thrown BackupSourceRunPlan :=
  match h : checkActions sourceId [] actions with
  | .ok () => .ok ⟨sourceId, actions, h⟩
  | .error e => .error e

structure BackupRunPlan where
  profileId : ProfileId
  runId : RunId
  targetMountPoint : FsPath
  sources : List BackupSourceRunPlan

/-! ### Names and paths -/

/-- `std::map` keyed by source. -/
abbrev BySource (α : Type) := List (SourceId × α)

structure SourcePlanContext where
  profile : Profile
  localInventory : BySource (List SnapshotInfo)
  remoteInventory : BySource (List SnapshotInfo)
  pendingMarkers : BySource (Option PendingMarker)
  pendingSnapshots : BySource (Option SnapshotMetadata)
  profileStateDir : FsPath
  runId : RunId
  snapshotTimestamp : RuntimeTimePoint

/-- `snapshots_for`. -/
def snapshotsFor (inventories : BySource (List SnapshotInfo)) (sourceId : SourceId) :
    List SnapshotInfo :=
  (inventories.lookup sourceId).getD []

/-- `pending_marker_for`. -/
def pendingMarkerFor (markers : BySource (Option PendingMarker)) (sourceId : SourceId) :
    Option PendingMarker :=
  (markers.lookup sourceId).join

/-- `pending_snapshot_for`. -/
def pendingSnapshotFor (snapshots : BySource (Option SnapshotMetadata)) (sourceId : SourceId) :
    Option SnapshotMetadata :=
  (snapshots.lookup sourceId).join

/-- `name_exists`. -/
def nameExists (snapshots : List SnapshotInfo) (name : String) : Bool :=
  snapshots.any fun snapshot => snapshot.name == name

/-- `snprintf("-%02d")`. -/
def sequenceSuffix (sequence : Nat) : String := "-" ++ zeroPadded 2 sequence

/-- `planned_snapshot_name`. -/
def plannedSnapshotName (sourceId : SourceId) (timestamp : RuntimeTimePoint)
    (localSnapshots : List SnapshotInfo) : Except Thrown String :=
  let timestampText := formatUtcSnapshotTimestamp timestamp
  let base := sourceId.value ++ "-" ++ timestampText
  if !nameExists localSnapshots base then .ok base
  else
    match ((List.range' 1 99).map fun sequence => base ++ sequenceSuffix sequence).find?
        fun candidate => !nameExists localSnapshots candidate with
    | some candidate => .ok candidate
    | none =>
      .error (validationError
        ("could not allocate snapshot name for " ++ sourceId.value ++ " at " ++ timestampText))

/-- `projected_snapshot`. -/
def projectedSnapshot (side : SnapshotSide) (sourceId : SourceId) (name : String)
    (timestamp : RuntimeTimePoint) (path : FsPath) : Except Thrown SnapshotInfo :=
  match parseSnapshotName name sourceId with
  | none => .error (validationError ("planned snapshot name is invalid: " ++ name))
  | some parsed =>
    .ok
      { side := side
        sourceId := sourceId
        name := name
        timestamp := timestamp
        sequence := parsed.sequence
        path := path
        readonly := true
        uuid := .ofString ""
        receivedUuid := .ofString "" }

structure PlannedSourcePaths where
  remoteSnapshotDirectory : FsPath
  incomingSourceRoot : FsPath
  incomingRunDirectory : FsPath
  localSnapshot : FsPath
  receivedSnapshot : FsPath
  finalRemoteSnapshot : FsPath
  snapshotName : String
  deriving DecidableEq

/-- The remote snapshot directory of a source. -/
def remoteDirectory (profile : Profile) (source : ProfileSource) : FsPath :=
  profile.paths.remoteRoot.value / source.remoteSubdir.value

/-- The directory of a source's incoming data. -/
def incomingDirectory (profile : Profile) (source : ProfileSource) : FsPath :=
  profile.paths.incomingRoot.value / source.id.value

variable (source : ProfileSource) (context : SourcePlanContext) (paths : PlannedSourcePaths)

/-- `plan_source_paths`. -/
def planSourcePaths (localSnapshots : List SnapshotInfo) : Except Thrown PlannedSourcePaths :=
  let profile := context.profile
  let remoteDir := remoteDirectory profile source
  let incomingRoot := incomingDirectory profile source
  let incomingRun : FsPath := incomingRoot / context.runId.value
  if !FsPath.pathIsWithin remoteDir profile.paths.remoteRoot.value then
    .error (validationError
      ("Remote source directory escapes REMOTE_ROOT: " ++ remoteDir.string))
  else if !FsPath.pathIsWithin incomingRoot profile.paths.incomingRoot.value then
    .error (validationError
      ("Incoming source directory escapes INCOMING_ROOT: " ++ incomingRoot.string))
  else if FsPath.pathIsWithin source.localSnapshotDir.value profile.target.mountPoint.value then
    .error (validationError ("LOCAL_SNAPSHOT_DIR must not be inside the backup target: " ++
      source.localSnapshotDir.value.string))
  else do
    let snapshotName ← plannedSnapshotName source.id context.snapshotTimestamp localSnapshots
    .ok
      { remoteSnapshotDirectory := remoteDir
        incomingSourceRoot := incomingRoot
        incomingRunDirectory := incomingRun
        localSnapshot := source.localSnapshotDir.value / snapshotName
        receivedSnapshot := incomingRun / snapshotName
        finalRemoteSnapshot := remoteDir / snapshotName
        snapshotName := snapshotName }

def removedPath (recovery : PendingRecoveryPlan) : SnapshotSide → FsPath
  | .local => recovery.localDeletion.getD .empty
  | .remote => recovery.remoteDeletion.getD .empty

/-- The path of the snapshot a run is going to make on one side. -/
def projectedPath : SnapshotSide → FsPath
  | .local => paths.localSnapshot
  | .remote => paths.finalRemoteSnapshot

/-- `projected_snapshots`. -/
def projectedSnapshots (current : List SnapshotInfo) (recovery : PendingRecoveryPlan)
    (side : SnapshotSide) (sourceId : SourceId) (paths : PlannedSourcePaths)
    (timestamp : RuntimeTimePoint) : Except Thrown (List SnapshotInfo) := do
  let removed := removedPath recovery side
  let projected :=
    if removed.isEmpty then current
    else current.filter fun snapshot => !decide (snapshot.path = removed)
  let snapshot ←
    projectedSnapshot side sourceId paths.snapshotName timestamp (projectedPath paths side)
  .ok (projected ++ [snapshot])

/-! ### The actions of a source -/

/-- The `CreateSnapshotAction` of a plan. -/
def createSnapshotAction : CreateSnapshotAction where
  sourceId := source.id
  source := source.subvolume.value
  snapshotDirectory := source.localSnapshotDir.value
  snapshot := paths.localSnapshot
  finalRemoteSnapshot := paths.finalRemoteSnapshot
  profileStateDirectory := context.profileStateDir
  runId := context.runId

/-- The `SendReceiveAction` of a plan. -/
def sendReceiveAction (parent : IncrementalParentSelection) : SendReceiveAction where
  sourceId := source.id
  snapshot := paths.localSnapshot
  parent :=
    match parent with
    | .fullTransfer => none
    | .incrementalTransfer localParent _ => some localParent.path
  remoteSnapshotDirectory := paths.remoteSnapshotDirectory
  incomingRunDirectory := paths.incomingRunDirectory

/-- The `CommitReceivedAction` of a plan. -/
def commitReceivedAction : CommitReceivedAction where
  sourceId := source.id
  localSnapshot := paths.localSnapshot
  receivedSnapshot := paths.receivedSnapshot
  finalSnapshot := paths.finalRemoteSnapshot

/-- The `CleanupSourceAction` of a plan. -/
def cleanupSourceAction (recovery : PendingRecoveryPlan) : CleanupSourceAction where
  sourceId := source.id
  receivedSnapshot := paths.receivedSnapshot
  incomingRunDirectory := paths.incomingRunDirectory
  pendingMarker := recovery.markerPath
  profileStateDirectory := context.profileStateDir

/-- `ordered_source_actions`. -/
def orderedSourceActions (recovery : PendingRecoveryPlan) (parent : IncrementalParentSelection)
    (localRetention remoteRetention : RetentionPlan) : List BackupRunAction :=
  let hooks (phase : HookPhase) (commands : List ProfileHookCommand) : List BackupRunAction :=
    commands.map (.runHook source.id phase)
  (if recovery.required then [.recoverPending source.id recovery] else []) ++
  .cleanupIncoming source.id paths.incomingSourceRoot ::
  (hooks .beforeSnapshot context.profile.hooks.beforeSnapshot ++
  .createSnapshot (createSnapshotAction source context paths) ::
  (hooks .afterSnapshot context.profile.hooks.afterSnapshot ++
  [.sendReceive (sendReceiveAction source paths parent),
   .verifyReceived source.id paths.localSnapshot paths.receivedSnapshot,
   .commitReceived (commitReceivedAction source paths),
   .applyRemoteRetention source.id remoteRetention,
   .applyLocalRetention source.id localRetention,
   .cleanupSource (cleanupSourceAction source context paths recovery)]))

def sourceRecoveryPlan : PendingRecoveryPlan :=
  planPendingRecovery source.id context.profileStateDir source.localSnapshotDir.value
    (remoteDirectory context.profile source) (pendingMarkerFor context.pendingMarkers source.id)
    (pendingSnapshotFor context.pendingSnapshots source.id)
    (snapshotsFor context.remoteInventory source.id)
    context.profile.settings.keepFailedLocalSnapshot

/-- `build_source_run_plan`. -/
def buildSourceRunPlan : Except Thrown BackupSourceRunPlan := do
  let locals := snapshotsFor context.localInventory source.id
  let remotes := snapshotsFor context.remoteInventory source.id
  let paths ← planSourcePaths source context locals
  let parent ← selectIncrementalParent source.id locals remotes (some paths.localSnapshot)
    context.profile.settings.incrementalRequired
  let recovery := sourceRecoveryPlan source context
  let localProjection ←
    projectedSnapshots locals recovery .local source.id paths context.snapshotTimestamp
  let localRetention := planCountRetention source.id localProjection source.localRetention.value
  let remoteProjection ←
    projectedSnapshots remotes recovery .remote source.id paths context.snapshotTimestamp
  let remoteRetention := planCountRetention source.id remoteProjection source.remoteRetention.value
  BackupSourceRunPlan.make source.id
    (orderedSourceActions source context paths recovery parent localRetention remoteRetention)

/-- The loop of `build_backup_run_plan`. -/
def buildSources (context : SourcePlanContext) :
    List SourceId → List ProfileSource → Except Thrown (List BackupSourceRunPlan)
  | _, [] => .ok []
  | seen, source :: sources =>
    if !source.enabled then buildSources context seen sources
    else if source.id ∈ seen then
      .error (validationError ("duplicate source id in backup run plan: " ++ source.id.value))
    else do
      let plan ← buildSourceRunPlan source context
      let plans ← buildSources context (source.id :: seen) sources
      .ok (plan :: plans)

/-- `build_backup_run_plan`. -/
def buildBackupRunPlan : Except Thrown BackupRunPlan := do
  let sources ← buildSources context [] context.profile.sources
  .ok ⟨context.profile.id, context.runId, context.profile.target.mountPoint.value, sources⟩

/-! ### What a plan is made of -/

variable {localSnapshots : List SnapshotInfo} {timestamp : RuntimeTimePoint} {sourceId : SourceId}
  {name : String} {n : Nat}

theorem BackupSourceRunPlan.make_eq_ok {actions plan}
    (h : make sourceId actions = .ok plan) : plan.sourceId = sourceId ∧ plan.actions = actions := by
  rw [make] at h
  split at h
  · cases h
    exact ⟨rfl, rfl⟩
  · cases h

/-- A planned name does not occur in the local inventory. -/
theorem plannedSnapshotName_free
    (h : plannedSnapshotName sourceId timestamp localSnapshots = .ok name) :
    ∀ snapshot ∈ localSnapshots, snapshot.name ≠ name := by
  have hfree : nameExists localSnapshots name = false := by
    simp only [plannedSnapshotName] at h
    split_ifs at h with h1
    · cases h
      simpa using h1
    · split at h
      · next candidate hfind =>
        cases h
        simpa using find?_some hfind
      · cases h
  intro snapshot hsnap hname
  rw [nameExists, any_eq_false] at hfree
  exact hfree snapshot hsnap (by simp [hname])

/-- The name of a source, a time and a sequence number. -/
def snapshotNameWith (sourceId : SourceId) (timestamp : RuntimeTimePoint) (sequence : Nat) :
    String :=
  sourceId.value ++ "-" ++ formatUtcSnapshotTimestamp timestamp ++
    if sequence = 0 then "" else sequenceSuffix sequence

theorem plannedSnapshotName_eq
    (h : plannedSnapshotName sourceId timestamp localSnapshots = .ok name) :
    ∃ sequence < 100, name = snapshotNameWith sourceId timestamp sequence := by
  simp only [plannedSnapshotName] at h
  split_ifs at h with h1
  · cases h
    exact ⟨0, by decide, by simp [snapshotNameWith]⟩
  · split at h
    · next candidate hfind =>
      cases h
      obtain ⟨n, hn, rfl⟩ := mem_map.mp (mem_of_find?_eq_some hfind)
      obtain ⟨hle, hlt⟩ := mem_range'_1.mp hn
      exact ⟨n, by omega, by rw [snapshotNameWith, if_neg (by omega)]⟩
    · cases h

/-- The sequence number after a timestamp is read back. -/
theorem parseSequence_suffix {text : List Char} (htext : text.length = 18) (hlt : n < 100) :
    let suffix := if n = 0 then "" else sequenceSuffix n
    ((text ++ suffix.toList).length = 18 ∨ (text ++ suffix.toList).length = 21) ∧
      parseSequence (text ++ suffix.toList) = some n := by
  by_cases hn : n = 0
  · simp [parseSequence, htext, hn]
  · simp only [if_neg hn]
    obtain ⟨hlen, hread⟩ := zeroPadded_spec 2 n (by decide) hlt
    have hlist : (sequenceSuffix n).toList = '-' :: (zeroPadded 2 n).toList := by
      rw [sequenceSuffix, String.toList_append]
      rfl
    have htotal : (text ++ (sequenceSuffix n).toList).length = 21 := by
      rw [length_append, hlist, length_cons, hlen, htext]
    have hdash : (text ++ (sequenceSuffix n).toList)[18]? = some '-' := by
      rw [getElem?_append_right htext.le, htext, hlist]
      rfl
    have hdigits : substr (text ++ (sequenceSuffix n).toList) 19 2 = (zeroPadded 2 n).toList := by
      rw [substr, hlist, drop_append, htext, drop_eq_nil_of_le (by omega), nil_append,
        show 19 - 18 = 1 from rfl, drop_succ_cons, drop_zero]
      exact take_of_length_le hlen.le
    refine ⟨.inr htotal, ?_⟩
    rw [parseSequence, if_neg (by omega), if_neg (by simp [hdash]), hdigits, hread]
    exact if_neg hn

/-- A name is read as the source, the second and the sequence number it is made of. -/
theorem parseSnapshotName_nameWith (hn : n < 100) :
    parseSnapshotName (snapshotNameWith sourceId timestamp n) sourceId =
      some ⟨sourceId, .wrap (timestamp.nanoseconds / 1000000000 * 1000000000), n,
        snapshotNameWith sourceId timestamp n⟩ := by
  obtain ⟨hlen, hread⟩ := parseUtcTimestamp_format timestamp
  obtain ⟨htotal, hseq⟩ := parseSequence_suffix hlen hn
  rw [snapshotNameWith]
  set suffix := if n = 0 then "" else sequenceSuffix n
  set stem := sourceId.value ++ "-" with hstem
  set text := formatUtcSnapshotTimestamp timestamp
  -- what follows the source is the formatted time, and then the suffix
  have hrest : List.drop stem.length (stem ++ text ++ suffix).toList =
      text.toList ++ suffix.toList := by
    rw [String.append_assoc, String.toList_append, ← String.length_toList, drop_left,
      String.toList_append]
  have hstart : startsWith (stem ++ text ++ suffix) stem = true := by
    have hlist : (stem ++ text ++ suffix).toList = stem.toList ++ (text ++ suffix).toList := by
      rw [String.append_assoc, String.toList_append]
    rw [startsWith, hlist, List.isPrefixOf_iff_prefix]
    exact prefix_append _ _
  have hfront : String.ofList (substr (text.toList ++ suffix.toList) 0 18) = text := by
    rw [substr, drop_zero, ← hlen, take_left, String.ofList_toList]
  simp only [parseSnapshotName, ← hstem]
  rw [hstart, hrest, hfront, hread, hseq, if_neg (by simp), if_neg (by omega)]
  rfl

/-- A planned name parses, and gives the time of the run cut to whole seconds. -/
theorem plannedSnapshotName_parsed
    (h : plannedSnapshotName sourceId timestamp localSnapshots = .ok name) :
    ∃ parsed, parseSnapshotName name sourceId = some parsed ∧
      (-2 ^ 63 + 1000000000 ≤ timestamp.nanoseconds →
        parsed.timestamp.nanoseconds ≤ timestamp.nanoseconds ∧
          timestamp.nanoseconds < parsed.timestamp.nanoseconds + 1000000000) := by
  obtain ⟨n, hn, rfl⟩ := plannedSnapshotName_eq h
  refine ⟨_, parseSnapshotName_nameWith hn, fun hfirst => ?_⟩
  have hlast := timestamp.representable.2
  rw [RuntimeTimePoint.wrap_nanoseconds (by omega) (by omega)]
  omega

/-- The name of a run says which source, second and sequence number it is for. -/
structure UnambiguousName (sourceId : SourceId) (timestamp : RuntimeTimePoint)
    (localSnapshots : List SnapshotInfo) (sequence : Nat) : Prop where
  free : ∀ s ∈ localSnapshots, s.name ≠ snapshotNameWith sourceId timestamp sequence
  parsed : ∃ parsed, parseSnapshotName (snapshotNameWith sourceId timestamp sequence) sourceId =
    some parsed ∧ parsed.sequence = sequence ∧
    parsed.timestamp.nanoseconds = timestamp.nanoseconds / 1000000000 * 1000000000
  distinct : ∀ time n, n < 100 →
    (time.nanoseconds / 1000000000, n) ≠ (timestamp.nanoseconds / 1000000000, sequence) →
    snapshotNameWith sourceId time n ≠ snapshotNameWith sourceId timestamp sequence
  oneSource : ∀ text a b, (parseSnapshotName text a).isSome = true →
    (parseSnapshotName text b).isSome = true → a = b

/-- Names of different seconds or sequence numbers differ. -/
theorem snapshotNameWith_injective {time} {m : Nat} (hm : m < 100)
    (hn : n < 100) (h : snapshotNameWith sourceId time m = snapshotNameWith sourceId timestamp n) :
    time.nanoseconds / 1000000000 = timestamp.nanoseconds / 1000000000 ∧ m = n := by
  have hparsed := @parseSnapshotName_nameWith time sourceId m hm
  rw [h, parseSnapshotName_nameWith hn] at hparsed
  obtain ⟨-, htime, hseq, -⟩ := SnapshotName.mk.inj (Option.some.inj hparsed)
  refine ⟨?_, hseq.symm⟩
  obtain ⟨h1, h2⟩ := time.representable
  obtain ⟨h3, h4⟩ := timestamp.representable
  have hstart := RuntimeTimePoint.eq_of_wrap_eq htime (abs_lt.mpr ⟨by omega, by omega⟩)
  omega

/-- A planned name is unambiguous exactly if the clock can hold the start of the
second it names: at the very first times it reads as another time. -/
theorem plannedSnapshotName_unambiguous {name : String}
    (h : plannedSnapshotName sourceId timestamp localSnapshots = .ok name) :
    ∃ sequence < 100, name = snapshotNameWith sourceId timestamp sequence ∧
      (UnambiguousName sourceId timestamp localSnapshots sequence ↔
        -9223372036000000000 ≤ timestamp.nanoseconds) := by
  obtain ⟨n, hn, rfl⟩ := plannedSnapshotName_eq h
  have hparsed := @parseSnapshotName_nameWith timestamp sourceId n hn
  obtain ⟨hfirst, hlast⟩ := timestamp.representable
  refine ⟨n, hn, rfl, fun hname => ?_, fun hstart => ?_⟩
  · obtain ⟨parsed, hread, -, htime⟩ := hname.parsed
    have := parsed.timestamp.representable
    omega
  · refine ⟨plannedSnapshotName_free h, ⟨_, hparsed, rfl, ?_⟩, fun time m hm hne heq => ?_,
      fun _ _ _ => parseSnapshotName_source_unique⟩
    · exact RuntimeTimePoint.wrap_nanoseconds (by omega) (by omega)
    · obtain ⟨htime, hsequence⟩ := snapshotNameWith_injective hm hn heq
      exact hne (Prod.ext htime hsequence)

/-- The name without a number is taken. -/
theorem plannedSnapshotName_unambiguous_epoch :
    let sourceId : SourceId := ⟨"my-home-1970", by decide⟩
    let taken :=
      { Sample.snapshotAt .local "/s/a" 0 with name := "my-home-1970-1970-01-01T000000Z" }
    let name := "my-home-1970-1970-01-01T000000Z-01"
    plannedSnapshotName sourceId (.wrap 0) [taken] = .ok name ∧
      ∃ sequence < 100, name = snapshotNameWith sourceId (.wrap 0) sequence ∧
        (UnambiguousName sourceId (.wrap 0) [taken] sequence ↔
          -9223372036000000000 ≤ (RuntimeTimePoint.wrap 0).nanoseconds) :=
  ⟨by decide +kernel, plannedSnapshotName_unambiguous (by decide +kernel)⟩

/-- The first time of the clock: its second starts before it. -/
theorem unambiguous_fails_first :
    plannedSnapshotName ⟨"a", by decide⟩ ⟨-2 ^ 63, by decide⟩ [] =
        .ok (snapshotNameWith ⟨"a", by decide⟩ ⟨-2 ^ 63, by decide⟩ 0) ∧
      ¬ UnambiguousName ⟨"a", by decide⟩ ⟨-2 ^ 63, by decide⟩ [] 0 := by
  refine ⟨by decide +kernel, fun h => ?_⟩
  obtain ⟨parsed, -, -, htime⟩ := h.parsed
  have hfirst := parsed.timestamp.representable.1
  simp only [show (-2 ^ 63 : Int) / 1000000000 * 1000000000 = -9223372037000000000 by decide]
    at htime
  omega

theorem planSourcePaths_eq_ok {source ctx paths}
    (h : planSourcePaths source ctx localSnapshots = .ok paths) :
    plannedSnapshotName source.id ctx.snapshotTimestamp localSnapshots = .ok paths.snapshotName ∧
      paths.remoteSnapshotDirectory = remoteDirectory ctx.profile source ∧
      paths.incomingSourceRoot = incomingDirectory ctx.profile source ∧ paths.incomingRunDirectory =
        (incomingDirectory ctx.profile source / ctx.runId.value : FsPath) ∧
      paths.localSnapshot = (source.localSnapshotDir.value / paths.snapshotName : FsPath) ∧
      paths.receivedSnapshot = (paths.incomingRunDirectory / paths.snapshotName : FsPath) ∧
      paths.finalRemoteSnapshot =
        (remoteDirectory ctx.profile source / paths.snapshotName : FsPath) := by
  simp only [planSourcePaths] at h
  split_ifs at h with h1 h2 h3
  obtain ⟨name, hname, hpaths⟩ := bind_eq_ok.mp h
  cases hpaths
  exact ⟨hname, rfl, rfl, rfl, rfl, rfl, rfl⟩

theorem projectedSnapshots_eq_ok {cur projection rcv side paths}
    (h : projectedSnapshots cur rcv side sourceId paths timestamp = .ok projection) :
    ∃ parsed, parseSnapshotName paths.snapshotName sourceId = some parsed ∧
      projection = (if (removedPath rcv side).isEmpty then cur
        else cur.filter fun s => !decide (s.path = removedPath rcv side)) ++
        [{ side := side, sourceId := sourceId, name := paths.snapshotName, timestamp := timestamp,
           sequence := parsed.sequence, path := projectedPath paths side, readonly := true,
           uuid := .ofString "", receivedUuid := .ofString "" }] := by
  simp only [projectedSnapshots] at h
  obtain ⟨snapshot, hsnap, hprojection⟩ := bind_eq_ok.mp h
  rw [projectedSnapshot] at hsnap
  split at hsnap
  · cases hsnap
  · next parsed hparsed =>
    cases hsnap
    cases hprojection
    exact ⟨parsed, hparsed, rfl⟩

section membership

variable {source : ProfileSource} {ctx : SourcePlanContext} {paths : PlannedSourcePaths}
  {rcv : PendingRecoveryPlan} {parent : IncrementalParentSelection}
  {localRetention remoteRetention : RetentionPlan}

/-- A plan recovers first, if there is something to recover. -/
theorem recoverPending_mem_orderedSourceActions {planned} :
    .recoverPending source.id planned ∈ orderedSourceActions source ctx paths rcv parent
        localRetention remoteRetention ↔ rcv.required = true ∧ planned = rcv := by
  rcases hreq : rcv.required <;> simp [orderedSourceActions, hreq]

theorem sendReceive_mem_orderedSourceActions {act} :
    .sendReceive act ∈ orderedSourceActions source ctx paths rcv parent
        localRetention remoteRetention ↔ act = sendReceiveAction source paths parent := by
  rcases hreq : rcv.required <;> simp [orderedSourceActions, hreq]

end membership

structure SourcePlanParts (source : ProfileSource) (context : SourcePlanContext)
    (plan : BackupSourceRunPlan) where
  paths : PlannedSourcePaths
  parent : IncrementalParentSelection
  localProjection : List SnapshotInfo
  remoteProjection : List SnapshotInfo
  paths_ok :
    planSourcePaths source context (snapshotsFor context.localInventory source.id) = .ok paths
  parent_ok : selectIncrementalParent source.id (snapshotsFor context.localInventory source.id)
    (snapshotsFor context.remoteInventory source.id) (some paths.localSnapshot)
    context.profile.settings.incrementalRequired = .ok parent
  local_ok : projectedSnapshots (snapshotsFor context.localInventory source.id)
    (sourceRecoveryPlan source context) .local source.id paths context.snapshotTimestamp =
      .ok localProjection
  remote_ok : projectedSnapshots (snapshotsFor context.remoteInventory source.id)
    (sourceRecoveryPlan source context) .remote source.id paths context.snapshotTimestamp =
      .ok remoteProjection
  sourceId_eq : plan.sourceId = source.id
  actions_eq : plan.actions = orderedSourceActions source context paths
    (sourceRecoveryPlan source context) parent
    (planCountRetention source.id localProjection source.localRetention.value)
    (planCountRetention source.id remoteProjection source.remoteRetention.value)

/-- A source plan that is built has all its parts. -/
theorem buildSourceRunPlan_eq_ok {source ctx plan} (h : buildSourceRunPlan source ctx = .ok plan) :
    Nonempty (SourcePlanParts source ctx plan) := by
  obtain ⟨paths, hpaths, h⟩ := bind_eq_ok.mp h
  obtain ⟨parent, hpar, h⟩ := bind_eq_ok.mp h
  obtain ⟨localProjection, hlocal, h⟩ := bind_eq_ok.mp h
  obtain ⟨remoteProjection, hrem, h⟩ := bind_eq_ok.mp h
  obtain ⟨hid, hactions⟩ := BackupSourceRunPlan.make_eq_ok h
  exact ⟨⟨paths, parent, localProjection, remoteProjection, hpaths, hpar, hlocal, hrem, hid,
    hactions⟩⟩

end BtrfsBackup
