/-
The handlers take the steps of the protocol.

`run_refines`: a run of the source, cut off anywhere, is a sequence of steps.
Its proof follows the plan.  Recovery is matched branch by branch with what it
finds in the stores; from then on each handler relies on what the ones before
it have left: the marker, the pending local snapshot, the received data, the
verified remote snapshot.
-/
import BtrfsBackup.Invariants
import BtrfsBackup.Recovery

open Interaction Interaction.Prog Keyed.Store

namespace BtrfsBackup

/-! ### Recovery -/

/-- Every snapshot of the source is listed. -/
theorem IsSnapshotIn.lists {cfg side} {dir : FsPath}
    {v : Subvolume} {name : String} (h : IsSnapshotIn cfg dir v name)
    (hdir : dir.IsNormal) : ∃ info, Lists cfg side dir v info ∧ info.name = name := by
  obtain ⟨hloc, hparsed, hsub, hro⟩ := h
  obtain ⟨⟨id, timestamp, sequence, text⟩, hparsed⟩ := Option.isSome_iff_exists.mp hparsed
  obtain ⟨rfl, rfl, -⟩ := parseSnapshotName_eq_some hparsed
  refine ⟨⟨side, cfg.source.id, text, timestamp, sequence, dir / text,
    v.metadata.readonly, v.metadata.uuid, v.metadata.receivedUuid⟩, ?_, rfl⟩
  refine ⟨?_, hsub, hparsed, rfl, rfl, rfl, rfl, rfl, rfl⟩
  rw [hloc, location_of_isNormal hdir]

section recovery

variable {cfg : SourceConfig} {assume : Assumptions} {w : World} {m : PendingMarker}
  {name : String} {pending : SnapshotMetadata}

/-- A final snapshot that passes for verified was received from the pending
one. -/
theorem uuidMatches_of_verified (hshape : Shape cfg w) (heng : EngineMarker cfg m name)
    (hver : finalIsUnverified (cfg.remoteInventory w) m pending = false)
    (hnonempty : pending.uuid.isEmpty = false) {r : Subvolume}
    (hr : w.remoteAt m.finalSnapshotPath = some r) :
    uuidMatches pending.uuid r.metadata.receivedUuid = true := by
  obtain ⟨hmem, hloc⟩ := find?_eq_some.mp hr
  obtain ⟨n, hn⟩ := hshape.remotes r hmem
  obtain ⟨info, hlists, rfl⟩ := hn.lists cfg.remoteDir_isNormal
  -- the entry of `r` has the marker's final path
  rw [heng.final_location, hn.1] at hloc
  have hname := List.singleton_inj.mp (List.append_cancel_left hloc)
  have hfound : remoteSnapshotAtPath (cfg.remoteInventory w) m.finalSnapshotPath ≠ none := by
    rw [remoteSnapshotAtPath, Ne, List.find?_eq_none]
    intro hnone
    refine hnone info (mem_subvolumeInventory.mpr ⟨r, hmem, hlists⟩) ?_
    rw [hlists.path_eq, hname, heng.finalSnapshotPath]
    exact beq_self_eq_true _
  obtain ⟨found, hfound⟩ := Option.ne_none_iff_exists'.mp hfound
  obtain ⟨r', hr', hlists'⟩ := remoteSnapshotAtPath_eq_some hfound
  obtain rfl := Option.mem_unique hr' hr
  rw [finalIsUnverified, hfound] at hver
  simpa [hnonempty, hlists'.receivedUuid_eq] using hver

theorem remoteContainsReceivedUuid_iff_of_shape (hshape : Shape cfg w) {uuid} :
    remoteContainsReceivedUuid (cfg.remoteInventory w) cfg.source.id uuid = true ↔
      ∃ r ∈ w.remoteSnapshots, uuidMatches uuid r.metadata.receivedUuid = true := by
  rw [remoteContainsReceivedUuid_iff]
  refine exists_congr fun r => and_congr_right fun hr => and_iff_right ?_
  obtain ⟨n, hn⟩ := hshape.remotes r hr
  obtain ⟨info, hlists, -⟩ := hn.lists cfg.remoteDir_isNormal
  exact ⟨info, hlists⟩

theorem pendingSnapshot_eq (hmark : w.pendingMarker = some m) : SourceConfig.pendingSnapshot w =
      (w.localAt m.localSnapshotPath).map Subvolume.metadata := by
  rw [SourceConfig.pendingSnapshot, hmark]
  rfl

/-- What the branches of a recovery rely on. -/
theorem decision_dropsRemote_spec (hmark : w.pendingMarker = some m)
    (h : (cfg.decision w m).dropsRemote = true) :
    ∃ v r, w.localAt m.localSnapshotPath = some v ∧ w.remoteAt m.finalSnapshotPath = some r ∧
      uuidMatches v.metadata.uuid r.metadata.receivedUuid = false := by
  obtain ⟨pending, -, hpend, -, hunv, -⟩ := decision_dropsRemote h
  obtain ⟨-, r, hr, hmis⟩ := finalIsUnverified_spec hunv
  rw [pendingSnapshot_eq hmark, Option.map_eq_some_iff] at hpend
  obtain ⟨v, hv, rfl⟩ := hpend
  exact ⟨v, r, hv, hr, hmis⟩

variable (hshape : Shape cfg w) (hmark : w.pendingMarker = some m)

include hshape hmark

/-- A pending snapshot that is deleted has no remote one. -/
theorem decision_dropsLocal_unmatched (h : (cfg.decision w m).dropsLocal = true) :
    ∃ v, w.localAt m.localSnapshotPath = some v ∧
      ∀ r ∈ w.remoteSnapshots, uuidMatches v.metadata.uuid r.metadata.receivedUuid = false := by
  obtain ⟨hvalid, pending, hpend, hsub⟩ :=
    decision_ne_nothing (RecoveryDecision.ne_nothing_of_dropsLocal h)
  have hdec := decision_eq hvalid hpend hsub
  rw [pendingSnapshot_eq hmark, Option.map_eq_some_iff] at hpend
  obtain ⟨v, hv, rfl⟩ := hpend
  refine ⟨v, hv, fun r hr => ?_⟩
  by_contra hmatch
  have hcontains :=
    (remoteContainsReceivedUuid_iff_of_shape hshape).mpr ⟨r, hr, by simpa using hmatch⟩
  rw [hdec, hcontains, hshape.nonempty v (find?_eq_some.mp hv).1, Bool.or_true] at h
  cases hunv : finalIsUnverified (cfg.remoteInventory w) m v.metadata <;>
    rw [hunv] at h <;> cases h

/-- When the local snapshot is deleted nothing is left at the final path. -/
theorem decision_dropsLocal_spec (h : (cfg.decision w m).dropsLocal = true) :
    (w.dropPendingRemote (cfg.recoveryPlan w)).remoteAt m.finalSnapshotPath = none := by
  rw [dropPendingRemote_eq hmark]
  by_cases hrem : (cfg.decision w m).dropsRemote = true
  · rw [if_pos hrem, World.remoteAt, World.removeRemote_remoteSnapshots]
    exact find?_remove_self
  rw [if_neg hrem]
  obtain ⟨v, hv, hunmatched⟩ := decision_dropsLocal_unmatched hshape hmark h
  obtain ⟨hmem, -⟩ := find?_eq_some.mp hv
  obtain ⟨name, heng⟩ := hshape.marker m hmark
  rcases hr : w.remoteAt m.finalSnapshotPath with _ | r
  · rfl
  -- the branch takes a snapshot there for one that was received from the pending one
  obtain ⟨hvalid, pending, hpend, hsub⟩ :=
    decision_ne_nothing (RecoveryDecision.ne_nothing_of_dropsLocal h)
  rw [decision_eq hvalid hpend hsub] at hrem
  rw [pendingSnapshot_eq hmark, hv, Option.map_some, Option.some.injEq] at hpend
  subst hpend
  rcases hunv : finalIsUnverified (cfg.remoteInventory w) m v.metadata
  · have hmatch := uuidMatches_of_verified hshape heng hunv (hshape.nonempty v hmem) hr
    cases hmatch.symm.trans (hunmatched r (find?_eq_some.mp hr).1)
  · rw [hunv, if_pos rfl] at hrem
    split_ifs at hrem <;> exact absurd rfl hrem

/-- After the deletions the recovery has nothing left to do. -/
theorem settled_after_deletions : Settled cfg (w.dropPending (cfg.recoveryPlan w)) m := by
  rw [dropPending_eq hmark]
  by_cases hlocal : (cfg.decision w m).dropsLocal = true
  · rw [if_pos hlocal]
    exact .inr (.inl find?_remove_self)
  rw [if_neg hlocal, dropPendingRemote_eq hmark]
  rcases hvalid : markerPathIsValid m cfg.source.id cfg.localDir cfg.remoteDir
  · exact .inl hvalid
  rcases hv : w.localAt m.localSnapshotPath with _ | v
  · refine .inr (.inl ?_)
    rw [← hv, World.localAt]
    split <;> simp [World.localAt]
  obtain ⟨hmem, -⟩ := find?_eq_some.mp hv
  obtain ⟨n, hn⟩ := hshape.locals v hmem
  obtain ⟨name, heng⟩ := hshape.marker m hmark
  have hpend : SourceConfig.pendingSnapshot w = some v.metadata := by
    rw [pendingSnapshot_eq hmark, hv, Option.map_some]
  have hnonempty := hshape.nonempty v hmem
  have hdec := decision_eq hvalid hpend hn.2.2.1
  refine .inr (.inr ⟨v, ?_⟩)
  rcases hunv : finalIsUnverified (cfg.remoteInventory w) m v.metadata
  · rcases hkept : remoteContainsReceivedUuid (cfg.remoteInventory w) cfg.source.id
        v.metadata.uuid || cfg.profile.settings.keepFailedLocalSnapshot
    · rw [hdec, hunv, hnonempty, Bool.not_false, Bool.true_and, hkept] at hlocal
      exact absurd rfl hlocal
    -- the final snapshot, if there is one, belongs to the pending one
    · have hnothing : cfg.decision w m = .nothing := by
        rw [hdec, hunv, hnonempty, Bool.not_false, Bool.true_and, hkept]
        rfl
      rw [hnothing]
      rw [Bool.or_eq_true, remoteContainsReceivedUuid_iff_of_shape hshape] at hkept
      exact ⟨hv, fun r => uuidMatches_of_verified hshape heng hunv hnonempty, hkept⟩
  · rcases hkept : cfg.profile.settings.keepFailedLocalSnapshot ||
        remoteContainsReceivedUuid (cfg.remoteInventory w) cfg.source.id v.metadata.uuid
    · rw [hdec, hunv, hkept] at hlocal
      exact absurd rfl hlocal
    -- the final snapshot is gone
    · have hremoteOnly : cfg.decision w m = .remoteOnly := by
        rw [hdec, hunv, hkept]
        rfl
      obtain ⟨-, r, hr, hmis⟩ := finalIsUnverified_spec hunv
      rw [hremoteOnly, if_pos (show RecoveryDecision.remoteOnly.dropsRemote = true from rfl)]
      refine ⟨by simpa [World.localAt] using hv, fun x hx => ?_, ?_⟩
      · rw [World.remoteAt, World.removeRemote_remoteSnapshots, find?_remove_self] at hx
        cases hx
      · rw [← remoteContainsReceivedUuid_removeRemote hr hmis .recoverPending, Bool.or_eq_true,
          remoteContainsReceivedUuid_iff_of_shape (hshape.shrink (.removeRemote ..))] at hkept
        exact hkept.symm

/-- Recovery takes the steps of the protocol; a completed one has cleared the
marker. -/
theorem wp_recoverPending_steps {A} :
    wp A (Steps cfg assume w) (recoverPending cfg (cfg.recoveryPlan w))
      (fun _ t => Steps cfg assume w t ∧ t.pendingMarker = none ∧ Shrinks w t)
      (fun _ => Steps cfg assume w) w := by
  have hrem : Steps cfg assume w (w.dropPendingRemote (cfg.recoveryPlan w)) ∧
      Shrinks w (w.dropPendingRemote (cfg.recoveryPlan w)) ∧
      (w.dropPendingRemote (cfg.recoveryPlan w)).pendingMarker = some m := by
    rw [dropPendingRemote_eq hmark]
    split
    · next hdrops =>
      obtain ⟨v, r, hv, hr, hmis⟩ := decision_dropsRemote_spec hmark hdrops
      exact ⟨.single (.dropPendingRemote hmark hv hr hmis), .removeRemote .., by simpa⟩
    · exact ⟨.refl, .refl w, hmark⟩
  have hlocal : Steps cfg assume w (w.dropPending (cfg.recoveryPlan w)) ∧
      Shrinks w (w.dropPending (cfg.recoveryPlan w)) ∧
      (w.dropPending (cfg.recoveryPlan w)).pendingMarker = some m := by
    obtain ⟨hsteps, hshrinks, hmark'⟩ := hrem
    rw [dropPending_eq hmark]
    split
    · next hdrops =>
      have hfinal := decision_dropsLocal_spec hshape hmark hdrops
      exact ⟨hsteps.tail (.dropPendingLocal hmark' hfinal), hshrinks.trans (.removeLocal ..),
        hmark'⟩
    · exact ⟨hsteps, hshrinks, hmark'⟩
  obtain ⟨hpath, hclears, -, -⟩ := recoveryPlan_spec cfg hmark
  refine wp_recoverPending hclears ⟨.refl, fun _ => .refl⟩ ⟨hrem.1, fun _ => hrem.1⟩
    ⟨hlocal.1, fun _ => hlocal.1⟩ ?_
  rintro t rfl
  have hfinish := hlocal.1.tail
    (.finishRecovery hlocal.2.2 (settled_after_deletions hshape hmark))
  rw [hpath]
  exact ⟨fun _ => hfinish, hfinish, by simp, hlocal.2.1.trans (.finishRecovery ..)⟩

end recovery

/-! ### The other handlers -/

/-- The run has made its remote snapshot, and the marker `m` is still there. -/
structure Committed (config : SourceConfig) (assume : Assumptions) (w : World) (m : PendingMarker)
    (t : World) : Prop where
  steps : Steps config assume w t
  marker : t.pendingMarker = some m
  verified : ∀ r, t.remoteAt m.finalSnapshotPath = some r → r.IsVerified
  committed : ∀ v, t.localAt m.localSnapshotPath = some v → EverRemote t v.metadata.uuid

section handlers

variable {cfg : SourceConfig} {assume : Assumptions} {w t u : World} {m : PendingMarker}

namespace Committed

/-- A step that takes snapshots away. -/
theorem step (h : Committed cfg assume w m t) (hstep : Step cfg assume t u)
    (hshrinks : Shrinks t u) (hmark : u.pendingMarker = t.pendingMarker) :
    Committed cfg assume w m u where
  steps := h.steps.tail hstep
  marker := hmark.trans h.marker
  verified := fun r hr => h.verified r (hshrinks.remoteAt hr)
  committed := fun v hv => (h.committed v (hshrinks.localAt hv)).step hstep

theorem stops (h : Committed cfg assume w m t) :
    Stops (Steps cfg assume w) (fun _ => Steps cfg assume w) t :=
  ⟨h.steps, fun _ => h.steps⟩

theorem same (h : Committed cfg assume w m t) (hsame : SameSnapshots t u) :
    Committed cfg assume w m u :=
  h.step (.transfer hsame) (.of_same hsame) hsame.pendingMarker

end Committed

variable {A : StoreCall → Answer → Prop} {v recv : Subvolume}

theorem wp_applyRemoteRetention_steps {plan} (h : ∃ m, Committed cfg assume w m t) :
    wp A (Steps cfg assume w) (applyRemoteRetention cfg plan)
      (fun _ t => ∃ m, Committed cfg assume w m t) (fun _ => Steps cfg assume w) t := by
  refine wp_applyRemoteRetention (I := fun t => ∃ m, Committed cfg assume w m t) h ?_ ?_
  · rintro t ⟨m, ht⟩
    exact ⟨ht.stops, m, ht⟩
  · rintro t ⟨m, ht⟩ snapshot - v -
    exact ⟨m, ht.step .retainRemote (.removeRemote ..) (by simp)⟩

theorem wp_applyLocalRetention_steps {plan} (h : ∃ m, Committed cfg assume w m t) :
    wp A (Steps cfg assume w) (applyLocalRetention plan)
      (fun _ t => ∃ m, Committed cfg assume w m t) (fun _ => Steps cfg assume w) t := by
  refine wp_applyLocalRetention (I := fun t => ∃ m, Committed cfg assume w m t) h ?_ ?_
  · rintro t ⟨m, ht⟩
    exact ⟨ht.stops, m, ht⟩
  · rintro t ⟨m, ht⟩ snapshot - v -
    exact ⟨m, ht.step (.retainLocal ht.marker ht.verified) (.removeLocal ..) rfl⟩

theorem wp_cleanupSource_steps {act}
    (h : ∃ m, Committed cfg assume w m t) : wp A (Steps cfg assume w) (cleanupSource cfg act)
      (fun _ => Steps cfg assume w) (fun _ => Steps cfg assume w) t := by
  obtain ⟨m, h⟩ := h
  refine wp_cleanupSource fun u hsame => ?_
  have hu := h.same hsame
  have hfinish := hu.steps.tail (.finish hu.marker hu.verified hu.committed)
  exact ⟨hu.stops, fun _ => hfinish, hfinish⟩

/-- The run has made its local snapshot `v`. -/
structure Pending (config : SourceConfig) (assume : Assumptions) (w : World) (m : PendingMarker)
    (v : Subvolume) (t : World) : Prop where
  steps : Steps config assume w t
  marker : t.pendingMarker = some m
  pending : t.localAt m.localSnapshotPath = some v

namespace Pending

variable {v : Subvolume}

theorem stops (h : Pending cfg assume w m v t) :
    Stops (Steps cfg assume w) (fun _ => Steps cfg assume w) t :=
  ⟨h.steps, fun _ => h.steps⟩

theorem same (h : Pending cfg assume w m v t) (hsame : SameSnapshots t u) :
    Pending cfg assume w m v u where
  steps := h.steps.tail (.transfer hsame)
  marker := hsame.pendingMarker.trans h.marker
  pending := by rw [World.localAt, hsame.localSnapshots]; exact h.pending

/-- What a handler reads at the pending path. -/
theorem readMetadata_eq (h : Pending cfg assume w m v t) {sent}
    (hsent : readMetadata t.localSnapshots m.localSnapshotPath.location = some sent) :
    sent = v.metadata := by
  have hpend := h.pending
  rw [World.localAt] at hpend
  rw [readMetadata, hpend] at hsent
  exact (Option.some.inj hsent).symm

end Pending

/-- `CreateSnapshot` starts without a marker. -/
theorem wp_createSnapshot_steps {act}
    {name : String} (heng : ∀ now, EngineMarker cfg (act.marker now) name)
    (hfree : assume.freshRemoteNames → t.remoteAt act.finalRemoteSnapshot = none)
    (hsteps : Steps cfg assume w t) (hmark : t.pendingMarker = none) : wp A (Steps cfg assume w)
    (createSnapshot act) (fun _ u => ∃ now v, Pending cfg assume w (act.marker now) v u)
    (fun _ => Steps cfg assume w) t := by
  have hwrite : ∀ now, Steps cfg assume w (t.writeMarker (act.marker now)) := fun now =>
    hsteps.tail (.grow (.writeMarker hmark (heng now) hfree))
  refine wp_createSnapshot ⟨hsteps, fun _ => hsteps⟩
    (fun now => ⟨hwrite now, fun _ => hwrite now⟩) ?_
  rintro now answer - hnone hfresh u rfl
  have hcreate := (hwrite now).tail (.grow
    (.createLocal rfl hnone hfree hfresh))
  refine ⟨⟨hcreate, fun _ => hcreate⟩, now, newLocalSnapshot act.snapshot.location answer,
    hcreate, rfl, ?_⟩
  exact find?_eq_some.mpr ⟨(mem_add hnone).mpr (.inl rfl), rfl⟩

/-- `SendReceive` makes received data of the pending snapshot. -/
theorem wp_sendReceive_steps {act}
    (h : Pending cfg assume w m v t) (hsnap : act.snapshot = m.localSnapshotPath) :
    wp A (Steps cfg assume w) (sendReceive cfg act) (fun _ u => Pending cfg assume w m v u ∧ ∃ recv,
        u.incoming.find? (act.incomingRunDirectory.location ++ [act.snapshot.filename]) =
          some recv ∧ recv.madeFrom = v.metadata.uuid)
      (fun _ => Steps cfg assume w) t := by
  refine wp_sendReceive h.stops fun sent hsent answer location hloc hnone => ?_
  rw [hsnap] at hsent
  obtain rfl := h.readMetadata_eq hsent
  have hu := h.same (u := t.addIncoming (receivedSubvolume location v.metadata answer))
    ⟨rfl, rfl, rfl, rfl⟩
  refine ⟨fun _ => hu.steps, hu, receivedSubvolume location v.metadata answer, ?_, rfl⟩
  exact find?_eq_some.mpr ⟨(mem_add hnone).mpr (.inl rfl), hloc⟩

/-- `VerifyReceived` checks that it was received from the pending snapshot. -/
theorem wp_verifyReceived_steps {sourceId : SourceId} {sentPath receivedPath : FsPath}
    (h : Pending cfg assume w m v t) (hsent : sentPath = m.localSnapshotPath)
    (hrecv : t.incoming.find? receivedPath.location = some recv) :
    wp A (Steps cfg assume w) (verifyReceived cfg sourceId sentPath receivedPath)
      (fun _ u => u = t ∧ uuidMatches v.metadata.uuid recv.metadata.receivedUuid = true)
      (fun _ => Steps cfg assume w) t := by
  refine wp_verifyReceived h.stops fun sent metadata hsent' hmetadata hok => ⟨rfl, ?_⟩
  rw [hsent] at hsent'
  obtain rfl := h.readMetadata_eq hsent'
  rw [readMetadata, hrecv] at hmetadata
  obtain rfl := Option.some.inj hmetadata
  exact (verifyReceivedSnapshot_eq_ok hok).2.2

/-- `CommitReceived` makes the remote snapshot, and takes it away again if it
is not the one that was sent. -/
theorem wp_commitReceived_steps {act}
    (hA : ∀ answer, A .createSnapshot answer → assume.keepsReceivedUuid → answer.KeepsReceivedUuid)
    (h : Pending cfg assume w m v t) (hlocal : act.localSnapshot = m.localSnapshotPath)
    (hfinal : act.finalSnapshot = m.finalSnapshotPath)
    (hrecv : t.incoming.find? act.receivedSnapshot.location = some recv)
    (hmade : recv.madeFrom = v.metadata.uuid)
    (hver : uuidMatches v.metadata.uuid recv.metadata.receivedUuid = true) :
    wp A (Steps cfg assume w) (commitReceived cfg act)
      (fun _ u => Committed cfg assume w m u) (fun _ => Steps cfg assume w) t := by
  refine wp_commitReceived h.stops ?_
  rintro sent received' answer final rfl hsent hfree hreceived' hans hfresh new u rfl rfl
  obtain rfl := Option.mem_unique hreceived' hrecv
  rw [hlocal] at hsent
  obtain rfl := h.readMetadata_eq hsent
  rw [hfinal] at hfree ⊢
  -- the new snapshot, whatever its received UUID
  have hkeeps : assume.keepsReceivedUuid → uuidMatches v.metadata.uuid
      (committedSnapshot m.finalSnapshotPath.location received' answer).metadata.receivedUuid =
        true := by
    intro hassume
    have hnone : answer.changedReceivedUuid = none := hA answer hans hassume
    simpa [committedSnapshot, hnone] using hver
  have hcreate := h.steps.tail (.grow (.createRemote h.marker h.pending hfree
    (r := committedSnapshot m.finalSnapshotPath.location received' answer) rfl ⟨rfl, rfl⟩ hmade
    hkeeps))
  have hfound : (t.addRemote (committedSnapshot m.finalSnapshotPath.location received'
      answer)).remoteAt m.finalSnapshotPath =
        some (committedSnapshot m.finalSnapshotPath.location received' answer) :=
    find?_eq_some.mpr ⟨(World.mem_addRemote hfree rfl).mpr (.inl rfl), rfl⟩
  refine ⟨⟨hcreate, fun _ => hcreate⟩, fun hmatch => ?_, fun hmis => ?_⟩
  · refine ⟨hcreate.tail (.checkSucceeded _), h.marker, fun r hr => ?_, fun x hx => ?_⟩
    · obtain rfl := Option.mem_unique hr hfound
      exact (uuidMatches_iff.mp hmatch).2.trans (congrArg _ hmade.symm)
    · obtain rfl := Option.mem_unique hx h.pending
      exact ⟨_, _, List.mem_cons_of_mem _ List.mem_cons_self, hmatch⟩
  · have hcheck := hcreate.tail (.checkFailed m.finalSnapshotPath.location)
    refine ⟨hcheck, fun _ _ => hcheck, fun _ => hcheck.tail ?_⟩
    exact .dropUnverified h.marker h.pending hfound hmis

end handlers

/-! ### Runs -/

section run

variable {cfg : SourceConfig} {assume : Assumptions} {params : RunParameters} {w : World}
  {plan : BackupSourceRunPlan}

/-- The marker of a run. -/
theorem SourcePlanParts.engineMarker
    (parts : SourcePlanParts cfg.source (cfg.context params w) plan) (now : RuntimeTimePoint) :
    EngineMarker cfg ((createSnapshotAction cfg.source (cfg.context params w)
      parts.paths).marker now) parts.paths.snapshotName := by
  obtain ⟨-, -, -, -, hlocal, -, hfinal⟩ := planSourcePaths_eq_ok parts.paths_ok
  obtain ⟨parsed, hparsed, -⟩ := projectedSnapshots_eq_ok parts.local_ok
  exact ⟨rfl, hlocal, hfinal, by rw [hparsed]; rfl⟩

/-- The received snapshot is where `btrfs receive` puts it. -/
theorem SourcePlanParts.received_location
    (parts : SourcePlanParts cfg.source (cfg.context params w) plan) :
    parts.paths.receivedSnapshot.location =
      parts.paths.incomingRunDirectory.location ++ [parts.paths.localSnapshot.filename] := by
  obtain ⟨-, -, -, hrun, hlocal, hrecv, -⟩ := planSourcePaths_eq_ok parts.paths_ok
  have hplain := (parts.engineMarker (.wrap 0)).isPlain
  have hsrc := cfg.source.id.isPlain
  have hid := (cfg.context params w).runId.isPlain
  have hnorm : parts.paths.incomingRunDirectory.IsNormal := by
    rw [hrun]
    refine FsPath.div_name_isNormal ?_ hid.1 hid.2.1 hid.2.2
    exact FsPath.div_name_isNormal cfg.profile.paths.incomingRoot.isNormal hsrc.1 hsrc.2.1 hsrc.2.2
  rw [hrecv, location_div hnorm hplain, location_of_isNormal hnorm, hlocal,
    FsPath.div_name_filename hplain.1]

/-- **Refinement.**  A run of the source, cut off or failing anywhere, is a
sequence of steps of the protocol. -/
theorem run_refines {run : Run} (hshape : Shape cfg w)
    (hkeeps : assume.keepsReceivedUuid → ∀ answer ∈ run.answers, answer.KeepsReceivedUuid)
    (hfree : assume.freshRemoteNames → ∀ plan,
      ∀ parts : SourcePlanParts cfg.source (cfg.context run.toRunParameters w) plan,
        w.remoteAt parts.paths.finalRemoteSnapshot = none) :
    Steps cfg assume w (execRun cfg run w).2 := by
  rw [execRun]
  split
  · exact .refl
  next plan hplan =>
  obtain ⟨parts⟩ := buildSourceRunPlan_eq_ok (planRun_eq_ok hplan)
  rw [parts.actions_eq, sourceRecoveryPlan_context]
  refine run_state ?_
    (fun answer hans _ hassume => hkeeps hassume answer hans) (fun _ _ h => h) fun _ _ h => h
  have same {t u : World} (h : Steps cfg assume w t ∧ t.pendingMarker = none ∧ Shrinks w t)
      (hsame : SameSnapshots t u) :
      Steps cfg assume w u ∧ u.pendingMarker = none ∧ Shrinks w u :=
    ⟨h.1.tail (.transfer hsame), hsame.pendingMarker.trans h.2.1, h.2.2.trans (.of_same hsame)⟩
  let marker := (createSnapshotAction cfg.source (cfg.context run.toRunParameters w)
    parts.paths).marker
  refine wp_orderedSourceActions
    (fun t => Steps cfg assume w t ∧ t.pendingMarker = none ∧ Shrinks w t)
    (fun t => Steps cfg assume w t ∧ t.pendingMarker = none ∧ Shrinks w t)
    (fun t => ∃ now v, Pending cfg assume w (marker now) v t)
    (fun t => ∃ now v, Pending cfg assume w (marker now) v t ∧ ∃ recv,
      t.incoming.find? parts.paths.receivedSnapshot.location = some recv ∧
        recv.madeFrom = v.metadata.uuid)
    (fun t => ∃ now v, Pending cfg assume w (marker now) v t ∧ ∃ recv,
      t.incoming.find? parts.paths.receivedSnapshot.location = some recv ∧
        recv.madeFrom = v.metadata.uuid ∧
        uuidMatches v.metadata.uuid recv.metadata.receivedUuid = true)
    (fun t => ∃ m, Committed cfg assume w m t)
    (fun t => ∃ m, Committed cfg assume w m t)
    (fun t => ∃ m, Committed cfg assume w m t)
    ?skip ?recover ?cleanup ?before ?create ?after ?send ?verify ?commit ?retainRemote
    ?retainLocal ?finish
  case skip =>
    intro hreq
    refine ⟨.refl, ?_, .refl w⟩
    rcases hmark : w.pendingMarker with _ | m
    · rfl
    · exact nomatch (recoveryPlan_required.mpr ⟨m, hmark⟩).symm.trans hreq
  case recover =>
    intro hreq
    obtain ⟨m, hmark⟩ := recoveryPlan_required.mp hreq
    exact wp_recoverPending_steps hshape hmark
  case cleanup =>
    intro t ht
    exact wp_removeContents fun u hsame =>
      ⟨⟨(same ht hsame).1, fun _ => (same ht hsame).1⟩, same ht hsame⟩
  case before => exact fun t ht => ⟨ht.1, fun _ => ht.1⟩
  case create =>
    rintro t ⟨hsteps, hmark, hshrinks⟩
    refine wp_createSnapshot_steps parts.engineMarker (fun hassume => ?_) hsteps hmark
    exact hshrinks.remoteAt_none (hfree hassume plan parts)
  case after =>
    rintro t ⟨now, v, ht⟩
    exact ht.stops
  case send =>
    rintro t ⟨now, v, ht⟩
    rw [parts.received_location]
    refine wp_mono_result (wp_sendReceive_steps ht rfl) fun _ u hu => ?_
    exact ⟨now, v, hu⟩
  case verify =>
    rintro t ⟨now, v, ht, recv, hrecv, hmade⟩
    refine wp_mono_result (wp_verifyReceived_steps ht rfl hrecv) ?_
    rintro _ u ⟨rfl, hmatch⟩
    exact ⟨now, v, ht, recv, hrecv, hmade, hmatch⟩
  case commit =>
    rintro t ⟨now, v, ht, recv, hrecv, hmade, hmatch⟩
    refine wp_mono_result (wp_commitReceived_steps (fun _ h => h) ht rfl rfl hrecv hmade hmatch)
      fun _ u hu => ?_
    exact ⟨marker now, hu⟩
  case retainRemote => exact fun t ht => wp_applyRemoteRetention_steps ht
  case retainLocal => exact fun t ht => wp_applyLocalRetention_steps ht
  case finish => exact fun t => wp_cleanupSource_steps

end run

end BtrfsBackup
