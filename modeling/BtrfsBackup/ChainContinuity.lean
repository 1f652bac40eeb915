/-
Continuity of the incremental chain.

A run whose clock is at least one second ahead of every listed snapshot makes the
newest snapshot of both sides.  Both retention passes keep it, whatever their
counts, so that a completed run leaves a local snapshot and a remote one that was
received from it.  The next run finds this pair: its transfer is incremental.

* `IsAhead` — the clock of a run is ahead of the inventories;
* `new_location_kept` — retention of neither side deletes the new snapshot;
* `MadePair` — the run has made a local snapshot and a remote one received from it;
* `next_run_incremental` — the next plan has a parent.
-/
import BtrfsBackup.Refinement
import BtrfsBackup.RetentionSafety

open Interaction Interaction.Prog Keyed.Store

namespace BtrfsBackup

section chain

variable {config cfg : SourceConfig} {parameters : RunParameters} {w t : World}
  {plan : BackupSourceRunPlan}

/-- The run is at least one second later than every snapshot of the inventories. -/
def IsAhead (config : SourceConfig) (parameters : RunParameters) (w : World) : Prop :=
  ∀ s, s ∈ config.localInventory w ∨ s ∈ config.remoteInventory w →
    s.timestamp.nanoseconds + 1000000000 ≤ parameters.timestamp.nanoseconds

/-! ### Retention -/

/-- What recovery leaves of an inventory lists subvolumes of its directory. -/
theorem lists_of_mem_leftOn {side s} (h : s ∈ leftOn cfg.source (cfg.context parameters w) side) :
    (s ∈ cfg.localInventory w ∨ s ∈ cfg.remoteInventory w) ∧
    ∃ v, Lists cfg side (directoryOn cfg.source (cfg.context parameters w) side) v s := by
  have hmem := List.mem_of_mem_filter h
  cases side with
  | «local» =>
    rw [inventoryOn, snapshotsFor_localInventory] at hmem
    obtain ⟨v, -, hlists⟩ := mem_subvolumeInventory.mp hmem
    exact ⟨.inl hmem, v, hlists⟩
  | remote =>
    rw [inventoryOn, snapshotsFor_remoteInventory] at hmem
    obtain ⟨v, -, hlists⟩ := mem_subvolumeInventory.mp hmem
    exact ⟨.inr hmem, v, hlists⟩

variable (cfg parameters w) in
theorem directoryOn_isNormal (side : SnapshotSide) :
    (directoryOn cfg.source (cfg.context parameters w) side).IsNormal := by
  cases side with
  | «local» => exact cfg.localDir_isNormal
  | remote => exact cfg.remoteDir_isNormal

variable (parts : SourcePlanParts cfg.source (cfg.context parameters w) plan) {name : String}
  {v r : Subvolume}

include parts in
/-- No listed snapshot has the name of the new one. -/
theorem name_ne_of_isAhead (hahead : IsAhead cfg parameters w) {side s}
    (h : s ∈ leftOn cfg.source (cfg.context parameters w) side) :
    s.name ≠ parts.paths.snapshotName := by
  obtain ⟨hname, -⟩ := planSourcePaths_eq_ok parts.paths_ok
  obtain ⟨parsed, hparsed, htime⟩ := plannedSnapshotName_parsed hname
  obtain ⟨hmem, v, hlists⟩ := lists_of_mem_leftOn h
  intro heq
  -- the time in the name would be less than one second before the run
  have hlater := hahead s hmem
  have hfirst := s.timestamp.representable.1
  rw [← heq, hlists.parsed] at hparsed
  cases hparsed
  have hnear : parameters.timestamp.nanoseconds < s.timestamp.nanoseconds + 1000000000 := by
    refine (htime ?_).2
    show -2 ^ 63 + 1000000000 ≤ parameters.timestamp.nanoseconds
    omega
  omega

include parts in
/-- Retention of neither side deletes what is at the new snapshot's path. -/
theorem new_location_kept (hahead : IsAhead cfg parameters w) (side : SnapshotSide) :
    ∀ s ∈ (planCountRetention cfg.source.id (parts.projection side)
      (retentionOn cfg.source side)).deleteSnapshots,
      s.path.location ≠ (directoryOn cfg.source (cfg.context parameters w) side).names ++
        [parts.paths.snapshotName] := by
  obtain ⟨hname, -⟩ := planSourcePaths_eq_ok parts.paths_ok
  obtain ⟨parsed, hparsed, -⟩ := plannedSnapshotName_parsed hname
  have hdir := directoryOn_isNormal cfg parameters w side
  have hloc : ∀ s ∈ leftOn cfg.source (cfg.context parameters w) side,
      s.path.location ≠ (directoryOn cfg.source (cfg.context parameters w) side).names ++
        [parts.paths.snapshotName] := by
    intro s hs heq
    obtain ⟨-, v, hlists⟩ := lists_of_mem_leftOn hs
    rw [hlists.path_eq, location_div hdir (parseSnapshotName_isPlain hlists.parsed)] at heq
    exact name_ne_of_isAhead parts hahead hs (List.singleton_inj.mp (List.append_cancel_left heq))
  have hnew : (newOn cfg.source (cfg.context parameters w) parsed side).path.location =
      (directoryOn cfg.source (cfg.context parameters w) side).names ++
        [parts.paths.snapshotName] := by
    have hplain := parseSnapshotName_isPlain hparsed
    rw [newOn, (parseSnapshotName_eq_some hparsed).1, location_div hdir hplain]
  have hreaches : ReachesNew cfg.source (cfg.context parameters w) parsed side := by
    refine reachesNew_of_newest (fun s hs => ?_) fun s hs heq => ?_
    · have hlater := hahead s (lists_of_mem_leftOn hs).1
      show s.timestamp.nanoseconds < parameters.timestamp.nanoseconds
      omega
    · exact hloc s hs (heq ▸ hnew)
  intro s hs heq
  -- only the new snapshot is at that location
  have hheld : s ∈ ofSource cfg.source.id (parts.projection side) := by
    rw [planCountRetention_deleteSnapshots] at hs
    exact mem_sortBy.mp (List.mem_of_mem_take hs)
  rw [parts.ofSource_projection hparsed side] at hheld
  rcases List.mem_append.mp hheld with hleft | hself
  · exact hloc s hleft heq
  · obtain rfl := List.mem_singleton.mp hself
    refine (reachesNew_iff parts hparsed side).mp hreaches ⟨_, hs, ?_⟩
    rw [parts.projectedPath_eq side, newOn, (parseSnapshotName_eq_some hparsed).1]

/-! ### The pair a run makes -/

/-- The run that started in `w` has made the local snapshot `v`; no remote
snapshot was received from it. -/
structure MadeLocal (config : SourceConfig) (w : World) (name : String) (v : Subvolume)
    (t : World) : Prop where
  localSnapshot : IsSnapshotIn config config.localDir v name
  nonempty : v.metadata.uuid.isEmpty = false
  mem : v ∈ t.localSnapshots
  others : ∀ x ∈ t.remoteSnapshots, x ∈ w.remoteSnapshots ∧
    uuidMatches v.metadata.uuid x.metadata.receivedUuid = false

/-- The run has also made the remote snapshot `r`, received from `v`. -/
structure MadePair (config : SourceConfig) (w : World) (name : String) (v r : Subvolume)
    (t : World) : Prop where
  localSnapshot : IsSnapshotIn config config.localDir v name
  remoteSnapshot : IsSnapshotIn config config.remoteDir r name
  received : uuidMatches v.metadata.uuid r.metadata.receivedUuid = true
  mem_local : v ∈ t.localSnapshots
  mem_remote : r ∈ t.remoteSnapshots
  others : ∀ x ∈ t.remoteSnapshots, x = r ∨ x ∈ w.remoteSnapshots ∧
    uuidMatches v.metadata.uuid x.metadata.receivedUuid = false

theorem MadeLocal.of_same {u : World}
    (h : MadeLocal cfg w name v t) (hlocal : u.localSnapshots = t.localSnapshots)
    (hrem : u.remoteSnapshots = t.remoteSnapshots) : MadeLocal cfg w name v u :=
  { h with mem := hlocal ▸ h.mem, others := fun x hx => h.others x (hrem ▸ hx) }

namespace MadePair

variable {name : String} {v r : Subvolume}

theorem removeRemote (h : MadePair cfg w name v r t) {action l}
    (hl : l ≠ cfg.remoteDir.names ++ [name]) :
    MadePair cfg w name v r (t.removeRemote action l) where
  __ := h
  mem_local := by
    rw [World.removeRemote_localSnapshots]
    exact h.mem_local
  mem_remote := by
    rw [World.removeRemote_remoteSnapshots]
    exact mem_remove.mpr ⟨h.mem_remote, fun heq => hl (heq ▸ h.remoteSnapshot.1)⟩
  others := fun x hx => h.others x ((Shrinks.removeRemote t action l).remotes x hx)

theorem removeLocal (h : MadePair cfg w name v r t) {l} (hl : l ≠ cfg.localDir.names ++ [name]) :
    MadePair cfg w name v r (t.removeLocal l) where
  __ := h
  mem_local := mem_remove.mpr ⟨h.mem_local, fun heq => hl (heq ▸ h.localSnapshot.1)⟩

end MadePair

/-- Where the two halves of the new snapshot are. -/
theorem new_locations :
    parts.paths.localSnapshot.location = cfg.localDir.names ++ [parts.paths.snapshotName] ∧
    parts.paths.finalRemoteSnapshot.location = cfg.remoteDir.names ++ [parts.paths.snapshotName] :=
  ⟨(parts.engineMarker (.wrap 0)).local_location, (parts.engineMarker (.wrap 0)).final_location⟩

/-- A call that fails or is cut off promises nothing here. -/
theorem stops_trivial : Stops (fun _ => True) (fun _ _ => True) t := ⟨trivial, fun _ => trivial⟩

include parts in
theorem wp_createSnapshot_made (ht : ∀ x ∈ t.remoteSnapshots, x ∈ w.remoteSnapshots) :
    wp (fun _ _ => True) (fun _ => True)
      (createSnapshot (createSnapshotAction cfg.source (cfg.context parameters w) parts.paths))
      (fun _ u => ∃ v, MadeLocal cfg w parts.paths.snapshotName v u) (fun _ _ => True) t := by
  refine wp_createSnapshot stops_trivial (fun _ => stops_trivial) ?_
  rintro now answer - hfree hfresh u rfl
  obtain ⟨hnonempty, -, hunused⟩ := World.isFresh_spec hfresh
  refine ⟨stops_trivial, newLocalSnapshot parts.paths.localSnapshot.location answer, ?_⟩
  refine ⟨⟨(new_locations parts).1, (parts.engineMarker now).parsed, rfl, rfl⟩, hnonempty, ?_, ?_⟩
  · exact (World.mem_addLocal hfree).mpr (.inl rfl)
  · exact fun x hx => ⟨ht x hx, hunused x hx⟩

include parts in
theorem wp_commitReceived_made (ht : ∃ v, MadeLocal cfg w parts.paths.snapshotName v t) :
    wp (fun _ _ => True) (fun _ => True)
      (commitReceived cfg (commitReceivedAction cfg.source parts.paths))
      (fun _ u => ∃ v r, MadePair cfg w parts.paths.snapshotName v r u) (fun _ _ => True) t := by
  obtain ⟨v, hv⟩ := ht
  obtain ⟨hlocal, hfinal⟩ := new_locations parts
  refine wp_commitReceived stops_trivial ?_
  rintro sent received answer final rfl hsent hfree - - - new u hnew rfl
  refine ⟨stops_trivial, fun hmatch => ⟨v, new, ?_⟩, fun _ => ⟨trivial, fun _ _ => trivial,
    fun _ => trivial⟩⟩
  -- what was sent is the snapshot the run has made
  have hfind : t.localSnapshots.find? parts.paths.localSnapshot.location = some v :=
    find?_eq_some.mpr ⟨hv.mem, hv.localSnapshot.1.trans hlocal.symm⟩
  have hsent' : readMetadata t.localSnapshots parts.paths.localSnapshot.location = some sent :=
    hsent
  rw [readMetadata, hfind, Option.map_some, Option.some.injEq] at hsent'
  have hloc : new.location = parts.paths.finalRemoteSnapshot.location := by rw [hnew]; rfl
  have hmem {x : Subvolume} := World.mem_addRemote (x := x) hfree hloc
  refine ⟨hv.localSnapshot, ⟨hloc.trans hfinal, (parts.engineMarker (.wrap 0)).parsed, ?_, ?_⟩,
    hsent' ▸ hmatch, hv.mem, hmem.mpr (.inl rfl), fun x hx => ?_⟩
  · rw [hnew]
    rfl
  · rw [hnew]
    rfl
  · rcases hmem.mp hx with rfl | hx
    · exact .inl rfl
    · exact .inr (hv.others x hx)

/-- A run that is ahead of the inventories and completes has made a pair. -/
theorem wp_plan_pair (hahead : IsAhead cfg parameters w) :
    wp (fun _ _ => True) (fun _ => True) (executeActions cfg plan.actions)
      (fun _ t => ∃ v r, MadePair cfg w parts.paths.snapshotName v r t) (fun _ _ => True) w := by
  rw [parts.actions_eq, sourceRecoveryPlan_context]
  refine wp_orderedSourceActions (fun t => ∀ x ∈ t.remoteSnapshots, x ∈ w.remoteSnapshots)
    (fun t => ∀ x ∈ t.remoteSnapshots, x ∈ w.remoteSnapshots)
    (fun t => ∃ v, MadeLocal cfg w parts.paths.snapshotName v t)
    (fun t => ∃ v, MadeLocal cfg w parts.paths.snapshotName v t)
    (fun t => ∃ v, MadeLocal cfg w parts.paths.snapshotName v t)
    (fun t => ∃ v r, MadePair cfg w parts.paths.snapshotName v r t)
    (fun t => ∃ v r, MadePair cfg w parts.paths.snapshotName v r t)
    (fun t => ∃ v r, MadePair cfg w parts.paths.snapshotName v r t) ?skip ?recover ?cleanup
    ?before ?create ?after ?send ?verify ?commit ?retainRemote ?retainLocal ?finish
  case skip => exact fun _ _ hx => hx
  case recover =>
    intro hreq
    obtain ⟨m, hmark⟩ := recoveryPlan_required.mp hreq
    refine wp_recoverPending (recoveryPlan_spec cfg hmark).2.1 stops_trivial stops_trivial
      stops_trivial ?_
    rintro t rfl
    have hshrinks := ((Shrinks.dropPendingRemote w (cfg.recoveryPlan w)).trans
      (.dropPendingLocal _ (cfg.recoveryPlan w))).trans
      (.finishRecovery _ (cfg.recoveryPlan w).pendingSnapshotPath)
    exact ⟨fun _ => trivial, hshrinks.remotes⟩
  case cleanup =>
    intro t ht
    refine wp_removeContents fun u hsame => ⟨stops_trivial, fun x hx => ?_⟩
    exact ht x (hsame.remoteSnapshots ▸ hx)
  case before => exact fun _ _ => stops_trivial
  case create => exact fun t ht => wp_createSnapshot_made parts ht
  case after => exact fun _ _ => stops_trivial
  case send =>
    rintro t ⟨v, hv⟩
    refine wp_sendReceive stops_trivial fun sent _ answer location _ _ => ?_
    exact ⟨fun _ => trivial, v, hv.of_same rfl rfl⟩
  case verify => exact fun t ht => wp_verifyReceived stops_trivial fun _ _ _ _ _ => ht
  case commit => exact fun t ht => wp_commitReceived_made parts ht
  case retainRemote =>
    intro t ht
    refine wp_applyRemoteRetention ht (fun u hu => ⟨stops_trivial, hu⟩) ?_
    rintro u ⟨v, r, hpair⟩ s hs x -
    exact ⟨v, r, hpair.removeRemote (new_location_kept parts hahead .remote s hs)⟩
  case retainLocal =>
    intro t ht
    refine wp_applyLocalRetention ht (fun u hu => ⟨stops_trivial, hu⟩) ?_
    rintro u ⟨v, r, hpair⟩ s hs x -
    exact ⟨v, r, hpair.removeLocal (new_location_kept parts hahead .local s hs)⟩
  case finish =>
    rintro t ⟨v, r, hpair⟩
    refine wp_cleanupSource fun u hsame => ⟨stops_trivial, fun _ => trivial, v, r, ?_⟩
    exact { hpair with
      mem_local := hsame.localSnapshots ▸ hpair.mem_local
      mem_remote := hsame.remoteSnapshots ▸ hpair.mem_remote
      others := fun x hx => hpair.others x (hsame.remoteSnapshots ▸ hx) }

/-! ### The next plan -/

/-- No two remote snapshots of the inventory that can be parents were received
from one UUID. -/
def Unambiguous (config : SourceConfig) (w : World) : Prop :=
  ∀ a ∈ config.remoteInventory w, ∀ b ∈ config.remoteInventory w,
    a.receivedUuid = b.receivedUuid → IsRemoteParent config.source.id a →
      IsRemoteParent config.source.id b → a.path = b.path

include parts in
/-- The remote inventory of a run that is planned is unambiguous. -/
theorem unambiguous_of_parts : Unambiguous cfg w := by
  have hpar := parts.parent_ok
  rw [snapshotsFor_localInventory, snapshotsFor_remoteInventory] at hpar
  obtain ⟨exist, index, hindexes, -⟩ := indexRemotes_of_selectIncrementalParent hpar
  exact hindexes.path_eq

theorem MadePair.unambiguous
    (h : MadePair cfg w name v r t) (hw : Unambiguous cfg w) : Unambiguous cfg t := by
  -- a snapshot that was there before is listed as before
  have hold {x : Subvolume} {a : SnapshotInfo} (hx : x ∈ w.remoteSnapshots)
      (hlists : Lists cfg .remote cfg.remoteDir x a) : a ∈ cfg.remoteInventory w :=
    mem_subvolumeInventory.mpr ⟨x, hx, hlists⟩
  intro a ha b hb huuid hpar hpar'
  obtain ⟨x, hx, hxa⟩ := mem_subvolumeInventory.mp ha
  obtain ⟨y, hy, hyb⟩ := mem_subvolumeInventory.mp hb
  have hsame : x.metadata.receivedUuid = y.metadata.receivedUuid := by
    rw [← hxa.receivedUuid_eq, huuid, hyb.receivedUuid_eq]
  rcases h.others x hx with rfl | ⟨hxw, hxne⟩
  · rcases h.others y hy with rfl | ⟨hyw, hyne⟩
    · exact hxa.path_unique hyb
    · rw [← hsame, h.received] at hyne
      cases hyne
  · rcases h.others y hy with rfl | ⟨hyw, hyne⟩
    · rw [hsame, h.received] at hxne
      cases hxne
    · exact hw a (hold hxw hxa) b (hold hyw hyb) huuid hpar hpar'

/-- Different names below a directory are different paths. -/
theorem samePathText_div {dir : FsPath} {other : String} (hdir : dir.IsNormal)
    (hname : IsPlain name) (hother : IsPlain other) (hne : name ≠ other) :
    samePathText (dir / name) (dir / other) = false := by
  rw [samePathText, beq_eq_false_iff_ne]
  intro heq
  have hloc : (dir / name : FsPath).location = (dir / other : FsPath).location :=
    congrArg FsPath.names (FsPath.string_injective heq)
  rw [location_div hdir hname, location_div hdir hother] at hloc
  exact hne (List.singleton_inj.mp (List.append_cancel_left hloc))

/-- With a pair in place, the next transfer is incremental. -/
theorem MadePair.selects {next : String} {ts}
    (h : MadePair cfg w name v r t) (ht : Unambiguous cfg t)
    (hnext : plannedSnapshotName cfg.source.id ts (cfg.localInventory t) = .ok next)
    (required : Bool) :
    ∃ localParent remoteParent, selectIncrementalParent cfg.source.id (cfg.localInventory t)
      (cfg.remoteInventory t) (some (cfg.localDir / next)) required =
        .ok (.incrementalTransfer localParent remoteParent) := by
  obtain ⟨q, hq, -⟩ : ∃ q, Lists cfg .remote cfg.remoteDir r q ∧ q.name = name :=
    h.remoteSnapshot.lists cfg.remoteDir_isNormal
  obtain ⟨s, hs, rfl⟩ : ∃ s, Lists cfg .local cfg.localDir v s ∧ s.name = name :=
    h.localSnapshot.lists cfg.localDir_isNormal
  have hsmem : s ∈ cfg.localInventory t := mem_subvolumeInventory.mpr ⟨v, h.mem_local, hs⟩
  have hqmem : q ∈ cfg.remoteInventory t := mem_subvolumeInventory.mpr ⟨r, h.mem_remote, hq⟩
  obtain ⟨hnonempty, hrecv⟩ := uuidMatches_iff.mp h.received
  have hmatch : uuidMatches s.uuid q.receivedUuid = true := by
    rw [hs.uuid_eq, hq.receivedUuid_eq]
    exact h.received
  have hpar : IsRemoteParent cfg.source.id q := by
    refine ⟨hq.sourceId_eq, hq.readonly_eq.trans h.remoteSnapshot.2.2.2, ?_⟩
    rw [hq.receivedUuid_eq, hrecv]
    exact hnonempty
  have hcand : s ∈ parentCandidates cfg.source.id (cfg.localInventory t)
      (some (cfg.localDir / next)) := by
    refine mem_parentCandidates.mpr ⟨hsmem, hs.sourceId_eq,
      hs.readonly_eq.trans h.localSnapshot.2.2.2, ?_, ?_⟩
    · rw [hs.uuid_eq]
      exact hnonempty
    · -- the next snapshot gets a name that no local snapshot has
      rintro _ ⟨⟩
      obtain ⟨parsed, hparsed, -⟩ := plannedSnapshotName_parsed hnext
      rw [hs.path_eq]
      exact samePathText_div cfg.localDir_isNormal (parseSnapshotName_isPlain hs.parsed)
        (parseSnapshotName_isPlain hparsed) (plannedSnapshotName_free hnext s hsmem)
  exact selectIncrementalParent_incremental ht hcand hqmem hpar hmatch

/-- **Continuity of the incremental chain.**  After a run that was ahead of the
inventories and completed, the parent selection of the next plan succeeds at any
time and whether or not a parent is required, and every next plan sends
incrementally. -/
theorem next_run_incremental {run : Run} (hrun : execRun config run w = (.done (), t))
    (hahead : IsAhead config run.toRunParameters w) (next : RunParameters) :
    (∀ name required, plannedSnapshotName config.source.id next.timestamp
        (config.localInventory t) = .ok name →
      ∃ localParent remoteParent, selectIncrementalParent config.source.id
        (config.localInventory t) (config.remoteInventory t) (some (config.localDir / name))
        required = .ok (.incrementalTransfer localParent remoteParent)) ∧
    ∀ plan, planRun config next t = .ok plan → ∀ action, .sendReceive action ∈ plan.actions →
      ∃ path, action.parent = some path := by
  obtain ⟨name, v, r, hpair, hunambiguous⟩ :
      ∃ name v r, MadePair config w name v r t ∧ Unambiguous config w := by
    rw [execRun] at hrun
    split at hrun
    · cases hrun
    · next plan hplan =>
      obtain ⟨parts⟩ := buildSourceRunPlan_eq_ok (planRun_eq_ok hplan)
      have hmade := run_spec (wp_plan_pair parts hahead)
        (fun _ (_ : _ ∈ run.answers) _ => trivial)
      rw [hrun] at hmade
      obtain ⟨v, r, hpair⟩ := hmade
      exact ⟨_, v, r, hpair, unambiguous_of_parts parts⟩
  have hselects (name : String) (required : Bool) (hname : plannedSnapshotName config.source.id
      next.timestamp (config.localInventory t) = .ok name) :=
    hpair.selects (hpair.unambiguous hunambiguous) hname required
  refine ⟨hselects, fun plan hplan action haction => ?_⟩
  obtain ⟨parts⟩ := buildSourceRunPlan_eq_ok (planRun_eq_ok hplan)
  obtain ⟨hname, -, -, -, hlocal, -⟩ := planSourcePaths_eq_ok parts.paths_ok
  have hparent := parts.parent_ok
  rw [parts.actions_eq, sendReceive_mem_orderedSourceActions] at haction
  rw [snapshotsFor_localInventory] at hname
  rw [snapshotsFor_localInventory, snapshotsFor_remoteInventory, hlocal] at hparent
  obtain ⟨localParent, remoteParent, hselected⟩ := hselects _
    config.profile.settings.incrementalRequired hname
  have heq : parts.parent = .incrementalTransfer localParent remoteParent :=
    Except.ok.inj (hparent.symm.trans hselected)
  rw [haction, heq]
  exact ⟨localParent.path, rfl⟩

end chain

namespace Sample

/-- A second run, 10 s after the first. -/
def again : Run := run 20 (answers "b" 3 22)

/-- The state it leaves. -/
def continued : World := (execRun config again ahead).2

theorem next_run_incremental_again : execRun config again ahead = (.done (), continued) ∧
      IsAhead config again.toRunParameters ahead ∧
      ∃ plan action path, planRun config (run 15 []).toRunParameters continued = .ok plan ∧
        .sendReceive action ∈ plan.actions ∧ action.parent = some path := by
  have hdone : (execRun config again ahead).1 = .done () := by decide +kernel
  have hrun : execRun config again ahead = (.done (), continued) := Prod.ext hdone rfl
  have hlisted : (config.localInventory ahead ++ config.remoteInventory ahead).all (fun s =>
      decide (s.timestamp.nanoseconds + 1000000000 ≤ again.timestamp.nanoseconds)) = true := by
    decide +kernel
  have hahead : IsAhead config again.toRunParameters ahead := fun s hs =>
    of_decide_eq_true (List.all_eq_true.mp hlisted s (List.mem_append.mpr hs))
  have hbuilt : (planRun config (run 15 []).toRunParameters continued).isOk = true := by
    decide +kernel
  obtain ⟨plan, hplan⟩ := exists_of_isOk hbuilt
  obtain ⟨parts⟩ := buildSourceRunPlan_eq_ok (planRun_eq_ok hplan)
  have hsend : .sendReceive (sendReceiveAction config.source parts.paths parts.parent) ∈
      plan.actions := by
    rw [parts.actions_eq]
    exact sendReceive_mem_orderedSourceActions.mpr rfl
  obtain ⟨path, hpath⟩ := (next_run_incremental hrun hahead _).2 plan hplan _ hsend
  exact ⟨hrun, hahead, plan, _, path, hplan, hsend, hpath⟩

end Sample

end BtrfsBackup
