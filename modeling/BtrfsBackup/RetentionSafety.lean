/-
When a plan keeps the snapshot it makes.

Retention is planned on the inventories as they will be when it is applied: what
recovery leaves of them, and the new snapshot with the time of the run.  Nothing
else tells the new snapshot apart.  A run whose clock is behind the existing
snapshots makes a snapshot that is one of the oldest, and plans to delete it.

* `ReachesNew` — retention of a side keeps enough snapshots for the new one to be
  among them;
* `keeps_new_snapshot_iff` — a plan keeps its own snapshot exactly when retention
  of both sides reaches that far.
-/
import BtrfsBackup.ActionHandlers

namespace BtrfsBackup

/-- The plan deletes neither the local snapshot it makes nor the remote one. -/
def BackupSourceRunPlan.KeepsNewSnapshot (plan : BackupSourceRunPlan) : Prop :=
  ∀ action, .createSnapshot action ∈ plan.actions →
    (∀ sourceId retention, .applyLocalRetention sourceId retention ∈ plan.actions →
      ∀ s ∈ retention.deleteSnapshots, s.path ≠ action.snapshot) ∧
    ∀ sourceId retention, .applyRemoteRetention sourceId retention ∈ plan.actions →
      ∀ s ∈ retention.deleteSnapshots, s.path ≠ action.finalRemoteSnapshot

/-! ### The two sides of a source -/

section sides

variable (source : ProfileSource) (context : SourcePlanContext)

def inventoryOn : SnapshotSide → List SnapshotInfo
  | .local => snapshotsFor context.localInventory source.id
  | .remote => snapshotsFor context.remoteInventory source.id

def directoryOn : SnapshotSide → FsPath
  | .local => source.localSnapshotDir.value
  | .remote => remoteDirectory context.profile source

/-- The retention count of a side. -/
def retentionOn : SnapshotSide → Nat
  | .local => source.localRetention.value
  | .remote => source.remoteRetention.value

/-- The snapshots of the source that recovery leaves on a side. -/
def leftOn (side : SnapshotSide) : List SnapshotInfo :=
  (inventoryOn source context side).filter fun s =>
    decide (s.sourceId = source.id ∧
      ((removedPath (sourceRecoveryPlan source context) side).isEmpty ∨
      s.path ≠ removedPath (sourceRecoveryPlan source context) side))

def newOn (name : SnapshotName) (side : SnapshotSide) : SnapshotInfo where
  side := side
  sourceId := source.id
  name := name.name
  timestamp := context.snapshotTimestamp
  sequence := name.sequence
  path := directoryOn source context side / name.name
  readonly := true
  uuid := .ofString ""
  receivedUuid := .ofString ""

/-- Retention of a side reaches as far as the new snapshot: at most as many
snapshots as are kept do not sort before it, or before a snapshot that is listed
at its path. -/
def ReachesNew (name : SnapshotName) (side : SnapshotSide) : Prop :=
  let held := leftOn source context side ++ [newOn source context name side]
  retentionOn source side = 0 ∨
    ∀ s ∈ held, s.path = (newOn source context name side).path →
      notOlder held s ≤ retentionOn source side

instance (name : SnapshotName) (side : SnapshotSide) :
    Decidable (ReachesNew source context name side) :=
  inferInstanceAs (Decidable (_ ∨ _))

end sides

/-! ### The projected inventories -/

namespace SourcePlanParts

variable {source : ProfileSource} {context : SourcePlanContext} {plan : BackupSourceRunPlan}

/-- The projected inventory of a side. -/
def projection (parts : SourcePlanParts source context plan) : SnapshotSide → List SnapshotInfo
  | .local => parts.localProjection
  | .remote => parts.remoteProjection

variable (parts : SourcePlanParts source context plan)

theorem projection_ok (side : SnapshotSide) :
    projectedSnapshots (inventoryOn source context side) (sourceRecoveryPlan source context) side
      source.id parts.paths context.snapshotTimestamp = .ok (parts.projection side) := by
  cases side with
  | «local» => exact parts.local_ok
  | remote => exact parts.remote_ok

theorem projectedPath_eq (side : SnapshotSide) : projectedPath parts.paths side =
      (directoryOn source context side / parts.paths.snapshotName : FsPath) := by
  obtain ⟨-, -, -, -, hlocal, -, hfinal⟩ := planSourcePaths_eq_ok parts.paths_ok
  cases side with
  | «local» => exact hlocal
  | remote => exact hfinal

/-- A projected inventory holds what recovery leaves, and the new snapshot. -/
theorem ofSource_projection {parsed}
    (hparsed : parseSnapshotName parts.paths.snapshotName source.id = some parsed)
    (side : SnapshotSide) : ofSource source.id (parts.projection side) =
      leftOn source context side ++ [newOn source context parsed side] := by
  obtain ⟨parsed', hparsed', hprojection⟩ := projectedSnapshots_eq_ok (parts.projection_ok side)
  obtain rfl := Option.mem_unique hparsed hparsed'
  rw [hprojection, ofSource, List.filter_append]
  congr 1
  · -- the listed snapshots, less the one that recovery removes
    rw [leftOn]
    split
    · next hempty => simp [hempty]
    · next hempty => simp [hempty, List.filter_filter]
  · simp [newOn, (parseSnapshotName_eq_some hparsed).1, parts.projectedPath_eq side]

theorem keepsNewSnapshot_iff : plan.KeepsNewSnapshot ↔ ∀ side,
      ¬ ∃ s ∈ (planCountRetention source.id (parts.projection side)
        (retentionOn source side)).deleteSnapshots, s.path = projectedPath parts.paths side := by
  have hcreate (act) : .createSnapshot act ∈ plan.actions ↔
      act = createSnapshotAction source context parts.paths := by
    simp [parts.actions_eq, orderedSourceActions]
  have hlocal (id retention) : .applyLocalRetention id retention ∈ plan.actions ↔ id = source.id ∧
      retention = planCountRetention id parts.localProjection source.localRetention.value := by
    simp +contextual [parts.actions_eq, orderedSourceActions]
  have hrem (id retention) : .applyRemoteRetention id retention ∈ plan.actions ↔ id = source.id ∧
      retention = planCountRetention id parts.remoteProjection source.remoteRetention.value := by
    simp +contextual [parts.actions_eq, orderedSourceActions]
  simp only [BackupSourceRunPlan.KeepsNewSnapshot, hcreate, hlocal, hrem]
  constructor
  · rintro h side ⟨s, hs, hpath⟩
    obtain ⟨hlocal, hrem⟩ := h _ rfl
    cases side with
    | «local» => exact hlocal _ _ ⟨rfl, rfl⟩ s hs hpath
    | remote => exact hrem _ _ ⟨rfl, rfl⟩ s hs hpath
  · rintro h action rfl
    constructor
    · rintro _ _ ⟨rfl, rfl⟩ s hs hpath
      exact h .local ⟨s, hs, hpath⟩
    · rintro _ _ ⟨rfl, rfl⟩ s hs hpath
      exact h .remote ⟨s, hs, hpath⟩

end SourcePlanParts

/-- Retention of a side deletes the new snapshot exactly when it does not reach
that far. -/
theorem reachesNew_iff {source context plan} (parts : SourcePlanParts source context plan) {parsed}
    (hparsed : parseSnapshotName parts.paths.snapshotName source.id = some parsed)
    (side : SnapshotSide) : ReachesNew source context parsed side ↔
      ¬ ∃ s ∈ (planCountRetention source.id (parts.projection side)
        (retentionOn source side)).deleteSnapshots, s.path = projectedPath parts.paths side := by
  have hpath : projectedPath parts.paths side = (newOn source context parsed side).path := by
    rw [parts.projectedPath_eq side, newOn, (parseSnapshotName_eq_some hparsed).1]
  rw [planCountRetention_deletes, parts.ofSource_projection hparsed side, hpath, ReachesNew]
  push Not
  rw [or_iff_not_imp_left]

/-- Retention reaches a snapshot that is newer than all others on its side. -/
theorem reachesNew_of_newest {source context parsed side}
    (holder : ∀ s ∈ leftOn source context side,
      s.timestamp.nanoseconds < context.snapshotTimestamp.nanoseconds)
    (hpath : ∀ s ∈ leftOn source context side, s.path ≠ (newOn source context parsed side).path) :
    ReachesNew source context parsed side := by
  by_cases h0 : retentionOn source side = 0
  · exact .inl h0
  refine .inr fun s hs heq => ?_
  rcases List.mem_append.mp hs with hs | hs
  · exact absurd heq (hpath s hs)
  obtain rfl := List.mem_singleton.mp hs
  -- only the new snapshot itself does not sort before it
  have hnone : notOlder (leftOn source context side) (newOn source context parsed side) = 0 := by
    refine List.countP_eq_zero.mpr fun t ht => ?_
    have hlt : t.key < (newOn source context parsed side).key :=
      SnapshotInfo.key_lt_of_timestamp (holder t ht)
    simp [oldestFirst, keyLess_iff.mpr hlt]
  rw [notOlder, List.countP_append, ← notOlder, hnone]
  have hself : [newOn source context parsed side].countP (fun t =>
      !oldestFirst t (newOn source context parsed side)) ≤ 1 := List.countP_le_length
  omega

/-- **When a plan keeps the snapshot it makes.**  A plan that is built deletes
neither half of its own snapshot if and only if, on both sides, retention reaches
as far as the new snapshot. -/
theorem keeps_new_snapshot_iff {source : ProfileSource} {context : SourcePlanContext}
    {plan : BackupSourceRunPlan} (h : buildSourceRunPlan source context = .ok plan) :
    plan.KeepsNewSnapshot ↔ ∀ name parsed, plannedSnapshotName source.id context.snapshotTimestamp
        (snapshotsFor context.localInventory source.id) = .ok name →
      parseSnapshotName name source.id = some parsed →
      ∀ side, ReachesNew source context parsed side := by
  obtain ⟨parts⟩ := buildSourceRunPlan_eq_ok h
  obtain ⟨hname, -⟩ := planSourcePaths_eq_ok parts.paths_ok
  obtain ⟨parsed, hparsed, -⟩ := plannedSnapshotName_parsed hname
  rw [parts.keepsNewSnapshot_iff]
  constructor
  · intro hkeeps name parsed' hname' hparsed' side
    obtain rfl : parts.paths.snapshotName = name := Except.ok.inj (hname.symm.trans hname')
    exact (reachesNew_iff parts hparsed' side).mpr (hkeeps side)
  · intro hreaches side
    exact (reachesNew_iff parts hparsed side).mp (hreaches _ parsed hname hparsed side)

namespace Sample

/-- A run at 10 s has completed. -/
def ahead : World := (execRun config (run 10 (answers "a" 3 20)) .initial).2

/-- What the plan of a run on `ahead` is built from. -/
def contextAt (seconds : Int) : SourcePlanContext :=
  config.context (run seconds []).toRunParameters ahead

/-- Does local retention of the plan delete the snapshot the plan makes? -/
def deletesNew (plan : BackupSourceRunPlan) : Bool :=
  plan.actions.any fun
    | .createSnapshot action =>
      plan.actions.any fun
        | .applyLocalRetention _ retention =>
          retention.deleteSnapshots.any fun s => decide (s.path = action.snapshot)
        | _ => false
    | _ => false

theorem not_keepsNewSnapshot_of_deletesNew {plan}
    (h : deletesNew plan = true) : ¬ plan.KeepsNewSnapshot := by
  intro hkeeps
  obtain ⟨create, hcreate, h⟩ := List.any_eq_true.mp h
  cases create with
  | createSnapshot action =>
    obtain ⟨apply, happly, h⟩ := List.any_eq_true.mp h
    cases apply with
    | applyLocalRetention sourceId retention =>
      obtain ⟨s, hs, hpath⟩ := List.any_eq_true.mp h
      exact (hkeeps action hcreate).1 sourceId retention happly s hs (of_decide_eq_true hpath)
    | _ => cases h
  | _ => cases h

theorem keeps_new_snapshot_later :
    ∃ plan, buildSourceRunPlan config.source (contextAt 20) = .ok plan ∧ plan.KeepsNewSnapshot := by
  have hbuilt : (buildSourceRunPlan config.source (contextAt 20)).isOk = true := by decide +kernel
  obtain ⟨plan, hplan⟩ := exists_of_isOk hbuilt
  refine ⟨plan, hplan, (keeps_new_snapshot_iff hplan).mpr fun name parsed hname hparsed side => ?_⟩
  have hplanned : plannedSnapshotName config.source.id (contextAt 20).snapshotTimestamp
      (snapshotsFor (contextAt 20).localInventory config.source.id) =
        .ok "home-1970-01-01T000020Z" := by decide +kernel
  obtain rfl := Except.ok.inj (hplanned.symm.trans hname)
  have hread : parseSnapshotName "home-1970-01-01T000020Z" config.source.id =
      some ⟨config.source.id, .wrap 20000000000, 0, "home-1970-01-01T000020Z"⟩ := by decide +kernel
  obtain rfl := Option.mem_unique hread hparsed
  cases side with
  | «local» => decide +kernel
  | remote => decide +kernel

/-- A run whose clock is behind the only local snapshot deletes its own. -/
theorem new_snapshot_deleted : ∃ plan, buildSourceRunPlan config.source (contextAt 0) = .ok plan ∧
      ¬ plan.KeepsNewSnapshot := by
  have hbuilt : (buildSourceRunPlan config.source (contextAt 0)).isOk = true := by decide +kernel
  have hdeletes :
    (buildSourceRunPlan config.source (contextAt 0)).toOption.all deletesNew = true := by
    decide +kernel
  obtain ⟨plan, hplan⟩ := exists_of_isOk hbuilt
  rw [hplan] at hdeletes
  exact ⟨plan, hplan, not_keepsNewSnapshot_of_deletesNew hdeletes⟩

end Sample

end BtrfsBackup
