/-
What recovery decides, read off a world.

The planner looks at inventories; here its decision is related to the
subvolumes themselves, and `settled` computes the snapshots a completed
recovery leaves.  A recovery that is cut off leaves a world with the same
`settled` snapshots, so that planning again ends where the uninterrupted
recovery would have ended.
-/
import BtrfsBackup.Protocol

open Interaction Interaction.Prog Keyed.Store

namespace BtrfsBackup

section decision

variable {config cfg : SourceConfig} {w : World} {m : PendingMarker} {pend : SnapshotMetadata}
  {dir path : FsPath} {v : Subvolume}

/-- A listed snapshot is at the location of its path. -/
theorem Lists.location_path {side} {info}
    (h : Lists cfg side dir v info) (hdir : dir.IsNormal) : info.path.location = v.location := by
  rw [h.path_eq, location_div hdir (parseSnapshotName_isPlain h.parsed), h.location_eq,
    location_of_isNormal hdir]

/-- A snapshot is listed under one path. -/
theorem Lists.path_unique {side} {a b}
    (ha : Lists cfg side dir v a) (hb : Lists cfg side dir v b) : a.path = b.path := by
  have hname := List.append_cancel_left (ha.location_eq.symm.trans hb.location_eq)
  rw [ha.path_eq, hb.path_eq, List.singleton_inj.mp hname]

/-- What the planner finds at the final path is the remote snapshot there. -/
theorem remoteSnapshotAtPath_eq_some {info}
    (h : remoteSnapshotAtPath (cfg.remoteInventory w) path = some info) :
    ∃ r, w.remoteAt path = some r ∧ Lists cfg .remote cfg.remoteDir r info := by
  have hpath : info.path.lexicallyNormal = path.lexicallyNormal := by
    simpa using List.find?_some h
  obtain ⟨r, hr, hlists⟩ := mem_subvolumeInventory.mp (List.mem_of_find?_eq_some h)
  refine ⟨r, find?_eq_some.mpr ⟨hr, ?_⟩, hlists⟩
  rw [← hlists.location_path cfg.remoteDir_isNormal, FsPath.location, hpath, FsPath.location]

/-- An unverified final snapshot is one at the final path that was not received
from the pending snapshot. -/
theorem finalIsUnverified_spec (h : finalIsUnverified (cfg.remoteInventory w) m pend = true) :
    pend.uuid.isEmpty = false ∧ ∃ r, w.remoteAt m.finalSnapshotPath = some r ∧
      uuidMatches pend.uuid r.metadata.receivedUuid = false := by
  rw [finalIsUnverified] at h
  split at h
  · cases h
  · next info hinfo =>
    obtain ⟨r, hr, hlists⟩ := remoteSnapshotAtPath_eq_some hinfo
    rw [Bool.and_eq_true, Bool.not_eq_true', Bool.not_eq_true', hlists.receivedUuid_eq] at h
    exact ⟨h.1, r, hr, h.2⟩

theorem finalIsUnverified_of_remoteAt_none (h : w.remoteAt m.finalSnapshotPath = none) :
    finalIsUnverified (cfg.remoteInventory w) m pend = false := by
  rw [finalIsUnverified]
  split
  · rfl
  · next info hinfo =>
    obtain ⟨r, hr, -⟩ := remoteSnapshotAtPath_eq_some hinfo
    exact nomatch h.symm.trans hr

/-- Some listed remote snapshot was received from `uuid`. -/
theorem remoteContainsReceivedUuid_iff {uuid} :
    remoteContainsReceivedUuid (cfg.remoteInventory w) cfg.source.id uuid = true ↔
      ∃ r ∈ w.remoteSnapshots, (∃ info, Lists cfg .remote cfg.remoteDir r info) ∧
        uuidMatches uuid r.metadata.receivedUuid = true := by
  rw [remoteContainsReceivedUuid, List.any_eq_true]
  constructor
  · rintro ⟨info, hinfo, hmatch⟩
    obtain ⟨r, hr, hlists⟩ := mem_subvolumeInventory.mp hinfo
    rw [Bool.and_eq_true, hlists.receivedUuid_eq] at hmatch
    exact ⟨r, hr, ⟨info, hlists⟩, hmatch.2⟩
  · rintro ⟨r, hr, ⟨info, hlists⟩, hmatch⟩
    refine ⟨info, mem_subvolumeInventory.mpr ⟨r, hr, hlists⟩, ?_⟩
    rw [Bool.and_eq_true, hlists.receivedUuid_eq, decide_eq_true_eq]
    exact ⟨hlists.sourceId_eq, hmatch⟩

/-- Deleting a snapshot that was received from something else does not
matter. -/
theorem remoteContainsReceivedUuid_removeRemote {uuid}
    {r : Subvolume} (hr : w.remoteAt path = some r)
    (hmis : uuidMatches uuid r.metadata.receivedUuid = false) (action : BackupRunActionKind) :
    remoteContainsReceivedUuid (cfg.remoteInventory (w.removeRemote action path.location))
        cfg.source.id uuid =
      remoteContainsReceivedUuid (cfg.remoteInventory w) cfg.source.id uuid := by
  rw [Bool.eq_iff_iff, remoteContainsReceivedUuid_iff, remoteContainsReceivedUuid_iff,
    World.removeRemote_remoteSnapshots]
  constructor
  · rintro ⟨x, hx, hlists, hmatch⟩
    exact ⟨x, mem_of_mem_remove hx, hlists, hmatch⟩
  · rintro ⟨x, hx, hlists, hmatch⟩
    refine ⟨x, mem_remove.mpr ⟨hx, ?_⟩, hlists, hmatch⟩
    intro hloc
    -- the only snapshot at that location is `r`
    obtain ⟨hmem, hrlocation⟩ := find?_eq_some.mp hr
    obtain rfl := eq_of_key_eq hx hmem (hloc.trans hrlocation.symm)
    exact nomatch hmis.symm.trans hmatch

end decision

/-! ### Interrupted recoveries -/

namespace SourceConfig

variable (config : SourceConfig) (w : World) (m : PendingMarker)

/-- The branch the planner takes for a marker. -/
def decision : RecoveryDecision :=
  recoveryDecision config.source.id config.localDir config.remoteDir (pendingSnapshot w)
    (config.remoteInventory w) config.profile.settings.keepFailedLocalSnapshot m

/-- The remote and local snapshots a completed recovery leaves. -/
def settled : Subvolumes × Subvolumes :=
  match w.pendingMarker with
  | none => (w.remoteSnapshots, w.localSnapshots)
  | some m =>
    (if (config.decision w m).dropsRemote then
        w.remoteSnapshots.remove m.finalSnapshotPath.location
      else w.remoteSnapshots,
      if (config.decision w m).dropsLocal then
        w.localSnapshots.remove m.localSnapshotPath.location
      else w.localSnapshots)

end SourceConfig

section interrupted

open SourceConfig

variable {config cfg : SourceConfig} {w t : World} {m : PendingMarker}

/-- The branch for a valid marker whose local snapshot is there. -/
theorem decision_eq {pend}
    (hvalid : markerPathIsValid m cfg.source.id cfg.localDir cfg.remoteDir = true)
    (hpend : pendingSnapshot w = some pend) (hsub : pend.isSubvolume = true) : cfg.decision w m =
      if finalIsUnverified (cfg.remoteInventory w) m pend then
        if cfg.profile.settings.keepFailedLocalSnapshot ||
            remoteContainsReceivedUuid (cfg.remoteInventory w) cfg.source.id pend.uuid
        then .remoteOnly
        else .both
      else if (!pend.uuid.isEmpty &&
            remoteContainsReceivedUuid (cfg.remoteInventory w) cfg.source.id pend.uuid) ||
          cfg.profile.settings.keepFailedLocalSnapshot then .nothing
      else .localOnly := by
  simp [decision, recoveryDecision, hvalid, hpend, hsub]

/-- In every other case nothing is deleted. -/
theorem decision_ne_nothing (h : cfg.decision w m ≠ .nothing) :
    markerPathIsValid m cfg.source.id cfg.localDir cfg.remoteDir = true ∧
      ∃ pend, pendingSnapshot w = some pend ∧ pend.isSubvolume = true := by
  rcases hvalid : markerPathIsValid m cfg.source.id cfg.localDir cfg.remoteDir
  · exact absurd (by simp [decision, recoveryDecision, hvalid]) h
  rcases hpend : pendingSnapshot w with _ | pend
  · exact absurd (by simp [decision, recoveryDecision, hpend]) h
  rcases hsub : pend.isSubvolume
  · exact absurd (by simp [decision, recoveryDecision, hpend, hsub]) h
  · exact ⟨rfl, pend, rfl, hsub⟩

/-- When the remote snapshot is dropped there is an unverified one, and the
local one is dropped as well unless it is kept or has a remote snapshot. -/
theorem decision_dropsRemote (h : (cfg.decision w m).dropsRemote = true) :
    ∃ pend, markerPathIsValid m cfg.source.id cfg.localDir cfg.remoteDir = true ∧
      pendingSnapshot w = some pend ∧ pend.isSubvolume = true ∧
      finalIsUnverified (cfg.remoteInventory w) m pend = true ∧
      (cfg.decision w m).dropsLocal = !(cfg.profile.settings.keepFailedLocalSnapshot ||
          remoteContainsReceivedUuid (cfg.remoteInventory w) cfg.source.id pend.uuid) := by
  obtain ⟨hvalid, pend, hpend, hsub⟩ :=
    decision_ne_nothing (RecoveryDecision.ne_nothing_of_dropsRemote h)
  refine ⟨pend, hvalid, hpend, hsub, ?_⟩
  rw [decision_eq hvalid hpend hsub] at h ⊢
  by_cases hunv : finalIsUnverified (cfg.remoteInventory w) m pend = true
  · rw [if_pos hunv]
    refine ⟨hunv, ?_⟩
    cases cfg.profile.settings.keepFailedLocalSnapshot ||
      remoteContainsReceivedUuid (cfg.remoteInventory w) cfg.source.id pend.uuid <;> rfl
  · rw [if_neg hunv] at h
    split_ifs at h <;> cases h

/-- After the remote deletion, what is left to do is the local deletion. -/
theorem decision_removeRemote (h : (cfg.decision w m).dropsRemote = true) :
    cfg.decision (w.removeRemote .recoverPending m.finalSnapshotPath.location) m =
      if (cfg.decision w m).dropsLocal then .localOnly else .nothing := by
  obtain ⟨pend, hvalid, hpend, hsub, hunv, hlocal⟩ := decision_dropsRemote h
  obtain ⟨hempty, r, hr, hmis⟩ := finalIsUnverified_spec hunv
  have hpending' : pendingSnapshot
      (w.removeRemote .recoverPending m.finalSnapshotPath.location) = some pend := by
    rw [← hpend]
    simp [pendingSnapshot]
  have hgone : (w.removeRemote .recoverPending
      m.finalSnapshotPath.location).remoteAt m.finalSnapshotPath = none := by
    rw [World.remoteAt, World.removeRemote_remoteSnapshots]
    exact find?_remove_self
  rw [hlocal, decision_eq hvalid hpending' hsub, finalIsUnverified_of_remoteAt_none hgone,
    remoteContainsReceivedUuid_removeRemote hr hmis, hempty]
  cases cfg.profile.settings.keepFailedLocalSnapshot <;>
    cases remoteContainsReceivedUuid (cfg.remoteInventory w) cfg.source.id pend.uuid <;> rfl

theorem settled_of_no_marker (hmark : w.pendingMarker = none) :
    cfg.settled w = (w.remoteSnapshots, w.localSnapshots) := by
  rw [settled, hmark]

/-- The world `t` is on the way of a recovery from `w`: recovery leads to the
same snapshots, and has no more to do. -/
structure OnTheWay (config : SourceConfig) (w t : World) : Prop where
  settled : config.settled t = config.settled w
  marker : ∀ m, t.pendingMarker = some m → w.pendingMarker = some m ∧
    ((config.decision t m).dropsRemote = true → (config.decision w m).dropsRemote = true) ∧
    ((config.decision t m).dropsLocal = true → (config.decision w m).dropsLocal = true)

namespace OnTheWay

theorem refl (w : World) : OnTheWay cfg w w := ⟨rfl, fun _ hm => ⟨hm, id, id⟩⟩

theorem trans {u : World} (h : OnTheWay cfg w t) (h' : OnTheWay cfg t u) : OnTheWay cfg w u := by
  refine ⟨h'.settled.trans h.settled, fun m hm => ?_⟩
  obtain ⟨hm, hremote', hlocal'⟩ := h'.marker m hm
  obtain ⟨hm, hrem, hlocal⟩ := h.marker m hm
  exact ⟨hm, hrem ∘ hremote', hlocal ∘ hlocal'⟩

end OnTheWay

section marker

variable (hmark : w.pendingMarker = some m)

include hmark

/-- Nothing is left to do without the pending snapshot. -/
theorem decision_of_missing (h : w.localAt m.localSnapshotPath = none) :
    cfg.decision w m = .nothing := by
  by_contra hne
  obtain ⟨-, pend, hpend, -⟩ := decision_ne_nothing hne
  rw [World.localAt] at h
  simp [pendingSnapshot, hmark, readMetadata, h] at hpend

variable (cfg) in
/-- The plan deletes what the branch for the marker says. -/
theorem recoveryPlan_spec : (cfg.recoveryPlan w).pendingSnapshotPath = m.localSnapshotPath ∧
      (cfg.recoveryPlan w).clearsMarker = true ∧ (cfg.recoveryPlan w).remoteDeletion =
        (if (cfg.decision w m).dropsRemote then some m.finalSnapshotPath else none) ∧
      (cfg.recoveryPlan w).localDeletion =
        (if (cfg.decision w m).dropsLocal then some m.localSnapshotPath else none) := by
  rw [recoveryPlan, hmark]
  exact planPendingRecovery_some ..

theorem dropPendingRemote_eq : w.dropPendingRemote (cfg.recoveryPlan w) =
      if (cfg.decision w m).dropsRemote then
        w.removeRemote .recoverPending m.finalSnapshotPath.location
      else w := by
  rw [World.dropPendingRemote, (recoveryPlan_spec cfg hmark).2.2.1]
  cases (cfg.decision w m).dropsRemote <;> rfl

theorem dropPending_eq : w.dropPending (cfg.recoveryPlan w) =
      if (cfg.decision w m).dropsLocal then
        (w.dropPendingRemote (cfg.recoveryPlan w)).removeLocal m.localSnapshotPath.location
      else w.dropPendingRemote (cfg.recoveryPlan w) := by
  rw [World.dropPending, World.dropPendingLocal, (recoveryPlan_spec cfg hmark).2.2.2]
  cases (cfg.decision w m).dropsLocal <;> rfl

theorem settled_of_marker : cfg.settled w =
      (if (cfg.decision w m).dropsRemote then
          w.remoteSnapshots.remove m.finalSnapshotPath.location
        else w.remoteSnapshots,
        if (cfg.decision w m).dropsLocal then
          w.localSnapshots.remove m.localSnapshotPath.location
        else w.localSnapshots) := by
  rw [settled, hmark]

/-- Cut off after the remote deletion. -/
theorem settled_dropPendingRemote :
    cfg.settled (w.dropPendingRemote (cfg.recoveryPlan w)) = cfg.settled w := by
  rw [dropPendingRemote_eq hmark]
  by_cases hrem : (cfg.decision w m).dropsRemote = true
  · rw [if_pos hrem, settled_of_marker (by simpa using hmark),
      settled_of_marker hmark, decision_removeRemote hrem, if_pos hrem]
    cases (cfg.decision w m).dropsLocal <;>
      simp [RecoveryDecision.dropsRemote, RecoveryDecision.dropsLocal]
  · rw [if_neg hrem]

/-- Cut off after the local deletion. -/
theorem settled_dropPending : cfg.settled (w.dropPending (cfg.recoveryPlan w)) = cfg.settled w := by
  rw [dropPending_eq hmark]
  by_cases hlocal : (cfg.decision w m).dropsLocal = true
  · -- the pending snapshot is gone, so that a new plan deletes nothing
    have hmark' : ((w.dropPendingRemote (cfg.recoveryPlan w)).removeLocal
        m.localSnapshotPath.location).pendingMarker = some m := by
      rw [World.removeLocal_pendingMarker, dropPendingRemote_eq hmark]
      split <;> simp [hmark]
    rw [if_pos hlocal, settled_of_marker hmark', settled_of_marker hmark,
      decision_of_missing hmark' find?_remove_self, if_pos hlocal,
      dropPendingRemote_eq hmark]
    cases (cfg.decision w m).dropsRemote <;>
      simp [RecoveryDecision.dropsRemote, RecoveryDecision.dropsLocal]
  · rw [if_neg hlocal, settled_dropPendingRemote hmark]

/-- Cut off after the marker is cleared. -/
theorem settled_finishRecovery : cfg.settled ((w.dropPending (cfg.recoveryPlan w)).finishRecovery
      (cfg.recoveryPlan w).pendingSnapshotPath) = cfg.settled w := by
  rw [settled_of_no_marker (by simp), settled_of_marker hmark, dropPending_eq hmark,
    dropPendingRemote_eq hmark]
  cases (cfg.decision w m).dropsRemote <;> cases (cfg.decision w m).dropsLocal <;> simp

namespace OnTheWay

theorem dropPendingRemote : OnTheWay cfg w (w.dropPendingRemote (cfg.recoveryPlan w)) := by
  refine ⟨settled_dropPendingRemote hmark, fun m' hm' => ?_⟩
  rw [dropPendingRemote_eq hmark] at hm' ⊢
  by_cases hrem : (cfg.decision w m).dropsRemote = true
  · rw [if_pos hrem, World.removeRemote_pendingMarker] at hm'
    obtain rfl := Option.mem_unique hm' hmark
    rw [if_pos hrem, decision_removeRemote hrem]
    refine ⟨hmark, fun _ => hrem, ?_⟩
    cases (cfg.decision w m').dropsLocal <;> simp [RecoveryDecision.dropsLocal]
  · rw [if_neg hrem] at hm' ⊢
    exact ⟨hm', id, id⟩

theorem dropPending : OnTheWay cfg w (w.dropPending (cfg.recoveryPlan w)) := by
  refine ⟨settled_dropPending hmark, fun m' hm' => ?_⟩
  rw [dropPending_eq hmark] at hm' ⊢
  by_cases hlocal : (cfg.decision w m).dropsLocal = true
  · rw [if_pos hlocal] at hm' ⊢
    have hway : OnTheWay cfg w (w.dropPendingRemote (cfg.recoveryPlan w)) :=
      dropPendingRemote hmark
    have hmark' := (hway.marker m' hm').1
    obtain rfl := Option.mem_unique hmark' hmark
    rw [decision_of_missing hm' find?_remove_self]
    exact ⟨hmark, nofun, nofun⟩
  · rw [if_neg hlocal] at hm' ⊢
    exact (dropPendingRemote hmark).marker m' hm'

theorem finishRecovery : OnTheWay cfg w ((w.dropPending (cfg.recoveryPlan w)).finishRecovery
      (cfg.recoveryPlan w).pendingSnapshotPath) :=
  ⟨settled_finishRecovery hmark, fun m' hm' => by simp at hm'⟩

end OnTheWay

/-- However a recovery ends, it is on the way; a completed one has cleared the
marker. -/
theorem wp_recoverPending_onTheWay :
    wp (fun _ _ => True) (OnTheWay cfg w) (recoverPending cfg (cfg.recoveryPlan w))
      (fun _ t => OnTheWay cfg w t ∧ t.pendingMarker = none) (fun _ => OnTheWay cfg w) w := by
  refine wp_recoverPending (recoveryPlan_spec cfg hmark).2.1 ⟨.refl w, fun _ => .refl w⟩ ?_ ?_ ?_
  · exact ⟨.dropPendingRemote hmark, fun _ => .dropPendingRemote hmark⟩
  · exact ⟨.dropPending hmark, fun _ => .dropPending hmark⟩
  · rintro t rfl
    exact ⟨fun _ => .finishRecovery hmark, .finishRecovery hmark, by simp⟩

/-! ### Recoveries that complete -/

/-- A recovery completes if what it deletes is below the roots: there always is
something to delete. -/
theorem recovery_completes_iff {u : World} :
    Completes (recoverPending cfg (cfg.recoveryPlan w)) w () u ↔
      ((cfg.decision w m).dropsRemote = true →
        ∃ l, locate cfg.targetRoot m.finalSnapshotPath = .ok l) ∧
      ((cfg.decision w m).dropsLocal = true → ∃ l, locate localRoot m.localSnapshotPath = .ok l) ∧
      u = (w.dropPending (cfg.recoveryPlan w)).finishRecovery
        (cfg.recoveryPlan w).pendingSnapshotPath := by
  obtain ⟨-, hclears, hrem, hlocal⟩ := recoveryPlan_spec cfg hmark
  have hfinal : (cfg.decision w m).dropsRemote = true →
      ∃ r, w.remoteSnapshots.find? m.finalSnapshotPath.location = some r := by
    intro hdrops
    obtain ⟨pend, -, -, -, hunv, -⟩ := decision_dropsRemote hdrops
    obtain ⟨-, r, hr, -⟩ := finalIsUnverified_spec hunv
    exact ⟨r, hr⟩
  have hpend : (cfg.decision w m).dropsLocal = true →
      ∃ v, (w.dropPendingRemote (cfg.recoveryPlan w)).localSnapshots.find?
        m.localSnapshotPath.location = some v := by
    intro hdrops
    rcases hv : w.localAt m.localSnapshotPath with _ | v
    · rw [decision_of_missing hmark hv] at hdrops
      cases hdrops
    · refine ⟨v, ?_⟩
      rw [dropPendingRemote_eq hmark, ← hv, World.localAt]
      split <;> simp
  rw [completes_recoverPending hclears, hrem, hlocal]
  refine and_congr ?_ (and_congr ?_ Iff.rfl)
  · cases hdrops : (cfg.decision w m).dropsRemote
    · simp
    · simpa using fun _ _ => hfinal hdrops
  · cases hdrops : (cfg.decision w m).dropsLocal
    · simp
    · simpa using fun _ _ => hpend hdrops

end marker

/-- There is something to recover if there is a marker. -/
theorem recoveryPlan_required : (cfg.recoveryPlan w).required = true ↔
    ∃ m, w.pendingMarker = some m := by
  rcases hmark : w.pendingMarker with _ | m
  · rw [recoveryPlan, hmark, planPendingRecovery_none]
    simp
  · have hclears := (recoveryPlan_spec cfg hmark).2.1
    simpa using PendingRecoveryPlan.required_of_clearsMarker hclears

/-- The recovery that a run which starts in `w` has planned. -/
def PlansRecovery (config : SourceConfig) (w : World) (recovery : PendingRecoveryPlan) : Prop :=
  ∃ parameters plan, planRun config parameters w = .ok plan ∧
    .recoverPending config.source.id recovery ∈ plan.actions

/-- It is the recovery of the marker. -/
theorem mem_actions_recoverPending {params plan rcv} (hplan : planRun cfg params w = .ok plan) :
    .recoverPending cfg.source.id rcv ∈ plan.actions ↔
      w.pendingMarker ≠ none ∧ rcv = cfg.recoveryPlan w := by
  obtain ⟨parts⟩ := buildSourceRunPlan_eq_ok (planRun_eq_ok hplan)
  rw [parts.actions_eq, recoverPending_mem_orderedSourceActions, sourceRecoveryPlan_context]
  exact and_congr_left' (recoveryPlan_required.trans Option.ne_none_iff_exists'.symm)

/-- `t` is left by recoveries from `w` on, each planned for the world the one
before left and stopped at any point. -/
inductive Interrupted (config : SourceConfig) (w : World) : World → Prop
  | start : Interrupted config w w
  | again {t : World} {recovery : PendingRecoveryPlan} (answers : List Answer) :
      Interrupted config w t → PlansRecovery config t recovery →
      Interrupted config w ((recoverPending config recovery).run answers t).2

theorem Interrupted.onTheWay (h : Interrupted cfg w t) : OnTheWay cfg w t := by
  induction h with
  | start => exact .refl w
  | again answers _ hplans ih =>
    obtain ⟨params, plan, hplan, hmem⟩ := hplans
    obtain ⟨hmark, rfl⟩ := (mem_actions_recoverPending hplan).mp hmem
    obtain ⟨m, hm⟩ := Option.ne_none_iff_exists'.mp hmark
    refine ih.trans (run_state (wp_recoverPending_onTheWay hm) ?_ ?_ ?_)
    · exact fun _ _ _ => trivial
    · exact fun _ _ h => h.1
    · exact fun _ _ h => h

/-- What a completed recovery leaves. -/
theorem settled_of_completes {rcv answers} {u : World} (hplans : PlansRecovery cfg w rcv)
    (hrun : (recoverPending cfg rcv).run answers w = (.done (), u)) :
    (u.remoteSnapshots, u.localSnapshots) = cfg.settled w ∧ u.pendingMarker = none := by
  obtain ⟨params, plan, hplan, hmem⟩ := hplans
  obtain ⟨hmark, rfl⟩ := (mem_actions_recoverPending hplan).mp hmem
  obtain ⟨m, hm⟩ := Option.ne_none_iff_exists'.mp hmark
  have hwp : wp _ _ (recoverPending cfg (cfg.recoveryPlan w)) _ _ w :=
    wp_recoverPending_onTheWay hm
  have hspec := run_spec hwp (fun _ (_ : _ ∈ answers) _ => trivial)
  rw [hrun] at hspec
  obtain ⟨hway, hnone⟩ := hspec
  exact ⟨(settled_of_no_marker hnone).symm.trans hway.settled, hnone⟩

end interrupted

namespace Sample

/-- A run was cut off when it had made its local snapshot. -/
def cutOff : World := (execRun config (run 0 (answers "a" 3 4)) .initial).2

theorem plansRecovery_cutOff : PlansRecovery config cutOff (config.recoveryPlan cutOff) := by
  obtain ⟨plan, hplan⟩ := exists_of_isOk
    (show (planRun config (run 10 []).toRunParameters cutOff).isOk = true by decide)
  exact ⟨_, plan, hplan, (mem_actions_recoverPending hplan).mpr ⟨by decide, rfl⟩⟩

/-- Its recovery, cut off when it had deleted the snapshot. -/
def cutOffAgain : World :=
  ((recoverPending config (config.recoveryPlan cutOff)).run (answers "b" 0 1) cutOff).2

/-- Its recovery, completed. -/
def recovered : World :=
  ((recoverPending config (config.recoveryPlan cutOff)).run (answers "b" 0 2) cutOff).2

/-- Transfers have to be incremental. -/
def incremental : SourceConfig :=
  { config with profile.settings.incrementalRequired := true }

def subvolume (directory : List String) (name uuid received : String) : Subvolume :=
  ⟨directory ++ [name], ⟨true, true, .ofString uuid, .ofString received⟩, .ofString uuid⟩

/-- The unverified snapshot at the final path of the marker is the only one that was received from
a local snapshot. -/
def unverified : World :=
  { World.initial with
    localSnapshots := ⟨["home-1970-01-01T000000Z", "home-1970-01-01T000020Z"].map fun name =>
      subvolume ["snapshots"] name name "", by decide⟩
    remoteSnapshots := ⟨
      [subvolume ["mnt", "backup", "snapshots", "home"] "home-1970-01-01T000010Z" "g" "other",
        subvolume ["mnt", "backup", "snapshots", "home"] "home-1970-01-01T000020Z" "f"
          "home-1970-01-01T000000Z"], by decide⟩
    pendingMarker := some
      ⟨config.source.id, .ofString "/snapshots/home-1970-01-01T000020Z",
        .ofString "/mnt/backup/snapshots/home/home-1970-01-01T000020Z", ⟨"run", by decide⟩,
          .wrap 0⟩ }

end Sample

end BtrfsBackup
