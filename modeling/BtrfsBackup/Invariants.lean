/-
Invariants of the backup protocol.

* `Shape` — every snapshot is where the source's snapshots are, under a name
  of the source, and local UUIDs are distinct and not empty;
* `Paired` — a remote snapshot received from a local one has its name, and no
  two remote snapshots were received from the same one;
* `PendingMatched` — the remote snapshot the marker names was received from
  the local snapshot it names;
* `Verified` — remote snapshots were received from the snapshot they were made
  from, the one the marker names apart;
* `Tracked` — a local snapshot that never had a remote one is named by the
  marker or was left by a recovery that keeps such snapshots.
-/
import BtrfsBackup.Protocol

open Keyed.Store

namespace BtrfsBackup

variable {cfg : SourceConfig} {assume : Assumptions} {w t : World}

/-! ### Where snapshots are -/

/-- A read-only snapshot in `directory` under a name of the source. -/
def IsSnapshotIn (config : SourceConfig) (directory : FsPath) (v : Subvolume) (name : String) :
    Prop :=
  v.location = directory.names ++ [name] ∧
    (parseSnapshotName name config.source.id).isSome = true ∧
    v.metadata.isSubvolume = true ∧ v.metadata.readonly = true

/-- Every snapshot is where the source's snapshots are. -/
structure Shape (config : SourceConfig) (w : World) : Prop where
  locals : ∀ v ∈ w.localSnapshots, ∃ name, IsSnapshotIn config config.localDir v name
  remotes : ∀ r ∈ w.remoteSnapshots, ∃ name, IsSnapshotIn config config.remoteDir r name
  marker : ∀ m, w.pendingMarker = some m → ∃ name, EngineMarker config m name
  nonempty : ∀ v ∈ w.localSnapshots, v.metadata.uuid.isEmpty = false
  distinct : ∀ u ∈ w.localSnapshots, ∀ v ∈ w.localSnapshots,
    u.metadata.uuid = v.metadata.uuid → u = v

namespace Shape

theorem initial : Shape cfg .initial where
  locals := nofun
  remotes := nofun
  marker := fun _ h => nomatch h
  nonempty := nofun
  distinct := fun u hu => absurd hu (not_mem_empty u)

theorem shrink (h : Shape cfg w) (ht : Shrinks w t) : Shape cfg t where
  locals := fun v hv => h.locals v (ht.locals v hv)
  remotes := fun r hr => h.remotes r (ht.remotes r hr)
  marker := fun m hm => h.marker m (ht.marker m hm)
  nonempty := fun v hv => h.nonempty v (ht.locals v hv)
  distinct := fun u hu v hv => h.distinct u (ht.locals u hu) v (ht.locals v hv)

theorem grow (h : Shape cfg w) (hgrows : Grows cfg assume w t) : Shape cfg t := by
  cases hgrows with
  | writeMarker unmarked engine final =>
    refine ⟨h.locals, h.remotes, ?_, h.nonempty, h.distinct⟩
    rintro _ ⟨⟩
    exact ⟨_, engine⟩
  | @createLocal m answer marker free final fresh =>
    -- the new snapshot is where its marker says, and its UUID is a fresh one
    obtain ⟨name, heng⟩ := h.marker m marker
    obtain ⟨hnonempty, hunused, -⟩ := World.isFresh_spec fresh
    refine ⟨fun v hv => ?_, h.remotes, h.marker, fun v hv => ?_, fun u hu v hv huv => ?_⟩
    · rcases (World.mem_addLocal free).mp hv with rfl | hv
      · exact ⟨name, heng.local_location, heng.parsed, rfl, rfl⟩
      · exact h.locals v hv
    · rcases (World.mem_addLocal free).mp hv with rfl | hv
      · exact hnonempty
      · exact h.nonempty v hv
    · rcases (World.mem_addLocal free).mp hu with rfl | hu
      · rcases (World.mem_addLocal free).mp hv with rfl | hv
        · rfl
        · exact absurd huv.symm (hunused v hv)
      · rcases (World.mem_addLocal free).mp hv with rfl | hv
        · exact absurd huv (hunused u hu)
        · exact h.distinct u hu v hv huv
  | @createRemote m v r marker pending free location flags madeFrom keeps =>
    obtain ⟨name, heng⟩ := h.marker m marker
    refine ⟨h.locals, fun x hx => ?_, h.marker, h.nonempty, h.distinct⟩
    rcases (World.mem_addRemote free location).mp hx with rfl | hx
    · exact ⟨name, location.trans heng.final_location, heng.parsed, flags⟩
    · exact h.remotes x hx

theorem step (h : Shape cfg w) (hstep : Step cfg assume w t) : Shape cfg t :=
  hstep.grows_or_shrinks.elim h.grow h.shrink

theorem steps (h : Shape cfg w) (hsteps : Steps cfg assume w t) : Shape cfg t := by
  induction hsteps with
  | refl => exact h
  | tail _ hstep ih => exact ih.step hstep

end Shape

/-! ### Pairs of snapshots -/

/-- A remote snapshot received from a local one has its name, and no two were
received from the same one. -/
structure Paired (config : SourceConfig) (w : World) : Prop where
  sameName : ∀ v ∈ w.localSnapshots, ∀ r ∈ w.remoteSnapshots,
    uuidMatches v.metadata.uuid r.metadata.receivedUuid = true →
    ∃ name, v.location = config.localDir.names ++ [name] ∧
      r.location = config.remoteDir.names ++ [name]
  unique : ∀ q ∈ w.remoteSnapshots, ∀ r ∈ w.remoteSnapshots,
    q.metadata.receivedUuid = r.metadata.receivedUuid → q = r

namespace Paired

theorem initial : Paired cfg .initial where
  sameName := nofun
  unique := nofun

theorem shrink (h : Paired cfg w) (ht : Shrinks w t) : Paired cfg t where
  sameName := fun v hv r hr => h.sameName v (ht.locals v hv) r (ht.remotes r hr)
  unique := fun q hq r hr => h.unique q (ht.remotes q hq) r (ht.remotes r hr)

/-- A remote snapshot that was received from the pending local snapshot would
be at the final path. -/
theorem receivedUuid_ne (h : Paired cfg w) {m} {name : String}
    {v r : Subvolume} (heng : EngineMarker cfg m name)
    (hpend : w.localAt m.localSnapshotPath = some v) (hfree : w.remoteAt m.finalSnapshotPath = none)
    (hmatch : uuidMatches v.metadata.uuid r.metadata.receivedUuid = true) :
    ∀ x ∈ w.remoteSnapshots, x.metadata.receivedUuid ≠ r.metadata.receivedUuid := by
  intro x hx hxr
  obtain ⟨hv, hvlocation⟩ := find?_eq_some.mp hpend
  obtain ⟨n, hn, hxn⟩ := h.sameName v hv x hx (by rw [hxr]; exact hmatch)
  rw [hvlocation, heng.local_location, List.append_cancel_left_eq, List.cons.injEq] at hn
  refine find?_eq_none.mp hfree x hx ?_
  rw [hxn, heng.final_location, ← hn.1]

theorem grow (h : Paired cfg w) (hshape : Shape cfg w) (hkeeps : assume.keepsReceivedUuid)
    (hgrows : Grows cfg assume w t) : Paired cfg t := by
  cases hgrows with
  | writeMarker unmarked engine final => exact ⟨h.sameName, h.unique⟩
  | @createLocal m answer marker free final fresh =>
    obtain ⟨-, -, hunused⟩ := World.isFresh_spec fresh
    refine ⟨fun v hv r hr hmatch => ?_, h.unique⟩
    rcases (World.mem_addLocal free).mp hv with rfl | hv
    · exact absurd ((hunused r hr).symm.trans hmatch) Bool.false_ne_true
    · exact h.sameName v hv r hr hmatch
  | @createRemote m v r marker pending free location flags madeFrom keeps =>
    obtain ⟨name, heng⟩ := hshape.marker m marker
    obtain ⟨hv, hvlocation⟩ := find?_eq_some.mp pending
    have hnew := keeps hkeeps
    have hold := h.receivedUuid_ne heng pending free hnew
    refine ⟨fun u hu x hx hmatch => ?_, fun q hq x hx hqx => ?_⟩
    · rcases (World.mem_addRemote free location).mp hx with rfl | hx
      · obtain rfl := hshape.distinct u hu v hv (uuidMatches_unique hmatch hnew)
        exact ⟨name, hvlocation.trans heng.local_location, location.trans heng.final_location⟩
      · exact h.sameName u hu x hx hmatch
    · rcases (World.mem_addRemote free location).mp hq with hq' | hq'
      · rcases (World.mem_addRemote free location).mp hx with hx' | hx'
        · exact hq'.trans hx'.symm
        · exact absurd (hq' ▸ hqx.symm) (hold x hx')
      · rcases (World.mem_addRemote free location).mp hx with hx' | hx'
        · exact absurd (hx' ▸ hqx) (hold q hq')
        · exact h.unique q hq' x hx' hqx

theorem step (h : Paired cfg w) (hshape : Shape cfg w) (hkeeps : assume.keepsReceivedUuid)
    (hstep : Step cfg assume w t) : Paired cfg t :=
  hstep.grows_or_shrinks.elim (h.grow hshape hkeeps) h.shrink

theorem steps (h : Paired cfg w) (hshape : Shape cfg w) (hkeeps : assume.keepsReceivedUuid)
    (hsteps : Steps cfg assume w t) : Paired cfg t := by
  induction hsteps with
  | refl => exact h
  | tail hsteps hstep ih => exact ih.step (hshape.steps hsteps) hkeeps hstep

end Paired

/-! ### The pending pair -/

/-- The remote snapshot the marker names was received from the local snapshot
it names. -/
def PendingMatched (w : World) : Prop :=
  ∀ m, w.pendingMarker = some m → ∀ v, w.localAt m.localSnapshotPath = some v →
    ∀ r, w.remoteAt m.finalSnapshotPath = some r →
      uuidMatches v.metadata.uuid r.metadata.receivedUuid = true

namespace PendingMatched

theorem initial : PendingMatched .initial := fun _ h => nomatch h

theorem shrink (h : PendingMatched w) (ht : Shrinks w t) : PendingMatched t :=
  fun m hm v hv r hr => h m (ht.marker m hm) v (ht.localAt hv) r (ht.remoteAt hr)

theorem grow (hkeeps : assume.keepsReceivedUuid) (hnames : assume.freshRemoteNames)
    (hgrows : Grows cfg assume w t) : PendingMatched t := by
  cases hgrows with
  | @writeMarker m name unmarked engine final =>
    -- there is nothing at the final path yet
    rintro _ ⟨⟩ v hv r hr
    exact nomatch hr.symm.trans (final hnames)
  | @createLocal m answer marker free final fresh =>
    intro m' hm' v hv r hr
    obtain rfl := Option.mem_unique hm' marker
    exact nomatch hr.symm.trans (final hnames)
  | @createRemote m v r marker pending free location flags madeFrom keeps =>
    intro m' hm' v' hv' r' hr'
    obtain rfl := Option.mem_unique hm' marker
    obtain rfl := Option.mem_unique hv' pending
    obtain ⟨hr', hr'l⟩ := find?_eq_some.mp hr'
    rcases (World.mem_addRemote free location).mp hr' with rfl | hr'
    · exact keeps hkeeps
    · exact absurd hr'l (find?_eq_none.mp free r' hr')

theorem step (h : PendingMatched w) (hkeeps : assume.keepsReceivedUuid)
    (hnames : assume.freshRemoteNames) (hstep : Step cfg assume w t) : PendingMatched t :=
  hstep.grows_or_shrinks.elim (grow hkeeps hnames) h.shrink

end PendingMatched

/-! ### Verified remote snapshots -/

/-- Only the remote snapshot at the marker's final path may not be verified,
and then the local snapshot it was made from is the pending one. -/
structure Verified (w : World) : Prop where
  remotes : ∀ r ∈ w.remoteSnapshots, r.IsVerified ∨
    ∃ m, w.pendingMarker = some m ∧ r.location = m.finalSnapshotPath.location
  pending : ∀ m, w.pendingMarker = some m → ∀ r, w.remoteAt m.finalSnapshotPath = some r →
    r.IsVerified ∨ ∃ v, w.localAt m.localSnapshotPath = some v ∧ v.metadata.uuid = r.madeFrom

namespace Verified

theorem initial : Verified .initial where
  remotes := nofun
  pending := fun _ h => nomatch h

/-- Remote snapshots may go. -/
theorem removeRemote (h : Verified w) (action : BackupRunActionKind) (l : List String) :
    Verified (w.removeRemote action l) := by
  have hshrinks := Shrinks.removeRemote w action l
  refine ⟨fun r hr => ?_, fun m hm r hr => ?_⟩
  · simpa using h.remotes r (hshrinks.remotes r hr)
  · simpa [World.localAt] using h.pending m (hshrinks.marker m hm) r (hshrinks.remoteAt hr)

section pending

variable {m : PendingMarker} (h : Verified w) (marker : w.pendingMarker = some m)
  (hpend : ∀ r, w.remoteAt m.finalSnapshotPath = some r → r.IsVerified)

include h marker hpend

/-- Local snapshots may go, unless they are needed to check the pending one. -/
theorem removeLocal (l : List String) : Verified (w.removeLocal l) := by
  refine ⟨h.remotes, fun m' hm' r hr => .inl ?_⟩
  obtain rfl := Option.mem_unique hm' marker
  exact hpend r hr

/-- The marker may be cleared when the snapshot at its final path is verified. -/
theorem unmark (hmark : t.pendingMarker = none)
    (hrem : t.remoteSnapshots = w.remoteSnapshots) : Verified t := by
  refine ⟨fun r hr => .inl ?_, fun _ hm => nomatch hmark.symm.trans hm⟩
  rw [hrem] at hr
  rcases h.remotes r hr with hr' | ⟨m', hm', hloc⟩
  · exact hr'
  · obtain rfl := Option.mem_unique hm' marker
    exact hpend r (find?_eq_some.mpr ⟨hr, hloc⟩)

end pending

theorem grow (h : Verified w) (hgrows : Grows cfg assume w t) : Verified t := by
  cases hgrows with
  | @writeMarker m name unmarked engine final =>
    have hall : ∀ r ∈ w.remoteSnapshots, r.IsVerified := by
      intro r hr
      refine (h.remotes r hr).resolve_right ?_
      rintro ⟨m', hm', -⟩
      exact nomatch unmarked.symm.trans hm'
    exact ⟨fun r hr => .inl (hall r hr), fun _ _ r hr =>
      .inl (hall r (find?_eq_some.mp hr).1)⟩
  | @createLocal m answer marker free final fresh =>
    refine ⟨h.remotes, fun m' hm' r hr => ?_⟩
    obtain rfl := Option.mem_unique hm' marker
    -- there is no pending local snapshot yet, so what is at the final path is verified
    refine .inl ((h.pending m' marker r hr).resolve_right ?_)
    rintro ⟨v, hv, -⟩
    exact nomatch free.symm.trans hv
  | @createRemote m v r marker pending free location flags madeFrom keeps =>
    refine ⟨fun x hx => ?_, fun m' hm' x hx => ?_⟩
    · rcases (World.mem_addRemote free location).mp hx with rfl | hx
      · exact .inr ⟨m, marker, location⟩
      · exact h.remotes x hx
    · obtain rfl := Option.mem_unique hm' marker
      obtain ⟨hx, hxlocation⟩ := find?_eq_some.mp hx
      rcases (World.mem_addRemote free location).mp hx with rfl | hx
      · exact .inr ⟨v, pending, madeFrom.symm⟩
      · exact absurd hxlocation (find?_eq_none.mp free x hx)

variable (hdir : cfg.source.localSnapshotDir.Unslashed) (hshape : Shape cfg w)

include hdir hshape

/-- A recovery that has nothing left to delete leaves no unverified snapshot. -/
theorem of_settled (h : Verified w) {m} (hmark : w.pendingMarker = some m)
    (hset : Settled cfg w m) : ∀ r, w.remoteAt m.finalSnapshotPath = some r → r.IsVerified := by
  intro r hr
  obtain ⟨name, heng⟩ := hshape.marker m hmark
  rcases h.pending m hmark r hr with hr' | ⟨v, hv, hmade⟩
  · exact hr'
  rcases hset with hinvalid | hnone | ⟨v', hv', hmatch, -⟩
  · exact nomatch hinvalid.symm.trans (heng.valid hdir)
  · exact nomatch hnone.symm.trans hv
  · obtain rfl := Option.mem_unique hv' hv
    rw [Subvolume.IsVerified, ← hmade]
    exact (uuidMatches_iff.mp (hmatch r hr)).2

theorem step (h : Verified w) (hstep : Step cfg assume w t) : Verified t := by
  cases hstep with
  | grow grows => exact h.grow grows
  | dropPendingRemote => exact h.removeRemote ..
  | dropPendingLocal marker final =>
    exact h.removeLocal marker (fun _ hr => nomatch hr.symm.trans final) _
  | finishRecovery marker settled =>
    exact h.unmark marker (h.of_settled hdir hshape marker settled) (by simp) (by simp)
  | transfer same =>
    refine ⟨?_, ?_⟩
    · simpa [same.remoteSnapshots, same.pendingMarker] using h.remotes
    · simpa [same.pendingMarker, World.remoteAt, World.localAt, same.remoteSnapshots,
        same.localSnapshots] using h.pending
  | checkFailed => exact ⟨h.remotes, h.pending⟩
  | checkSucceeded => exact ⟨h.remotes, h.pending⟩
  | dropUnverified => exact h.removeRemote ..
  | retainRemote => exact h.removeRemote ..
  | retainLocal marker verified => exact h.removeLocal marker verified _
  | finish marker verified => exact h.unmark marker verified rfl rfl

theorem steps (h : Verified w) (hsteps : Steps cfg assume w t) : Verified t := by
  induction hsteps with
  | refl => exact h
  | tail hsteps hstep ih => exact ih.step hdir (hshape.steps hsteps) hstep

end Verified

/-! ### Tracked local snapshots -/

/-- A local snapshot had a remote one, is pending, or was kept by a recovery. -/
structure Tracked (config : SourceConfig) (w : World) : Prop where
  created : ∀ r ∈ w.remoteSnapshots,
    StoreEvent.remoteCreated r.metadata.uuid r.metadata.receivedUuid ∈ w.history
  locals : ∀ v ∈ w.localSnapshots, EverRemote w v.metadata.uuid ∨
    (∃ m, w.pendingMarker = some m ∧ v.location = m.localSnapshotPath.location) ∨
    (config.profile.settings.keepFailedLocalSnapshot = true ∧
      .leftByRecovery v.metadata.uuid ∈ w.history)

namespace Tracked

theorem initial : Tracked cfg .initial where
  created := nofun
  locals := nofun

/-- Snapshots may go while the marker stays. -/
theorem shrink (h : Tracked cfg w) (ht : Shrinks w t)
    (hmark : t.pendingMarker = w.pendingMarker) (hstep : Step cfg assume w t) : Tracked cfg t := by
  refine ⟨fun r hr => hstep.mem_history (h.created r (ht.remotes r hr)), fun v hv => ?_⟩
  rw [hmark]
  exact (h.locals v (ht.locals v hv)).imp (·.step hstep)
    (Or.imp_right (And.imp_right hstep.mem_history))

/-- The marker may be cleared when the pending snapshot is accounted for. -/
theorem unmark (h : Tracked cfg w) (ht : Shrinks w t) (hstep : Step cfg assume w t)
    {m} (marker : w.pendingMarker = some m)
    (hpend : ∀ v, w.localAt m.localSnapshotPath = some v → EverRemote t v.metadata.uuid ∨
      (cfg.profile.settings.keepFailedLocalSnapshot = true ∧
        .leftByRecovery v.metadata.uuid ∈ t.history)) : Tracked cfg t := by
  refine ⟨fun r hr => hstep.mem_history (h.created r (ht.remotes r hr)), fun v hv => ?_⟩
  have hv := ht.locals v hv
  rcases h.locals v hv with hever | ⟨m', hm', hloc⟩ | ⟨hkeep, hleft⟩
  · exact .inl (hever.step hstep)
  · obtain rfl := Option.mem_unique hm' marker
    exact (hpend v (find?_eq_some.mpr ⟨hv, hloc⟩)).imp_right .inr
  · exact .inr (.inr ⟨hkeep, hstep.mem_history hleft⟩)

theorem grow (h : Tracked cfg w) (hgrows : Grows cfg assume w t) : Tracked cfg t := by
  have hstep : Step cfg assume w t := .grow hgrows
  cases hgrows with
  | @writeMarker m name unmarked engine final =>
    refine ⟨h.created, fun v hv => ?_⟩
    rcases h.locals v hv with hever | ⟨m', hm', -⟩ | hkept
    · exact .inl hever
    · exact nomatch unmarked.symm.trans hm'
    · exact .inr (.inr hkept)
  | @createLocal m answer marker free final fresh =>
    refine ⟨h.created, fun v hv => ?_⟩
    rcases (World.mem_addLocal free).mp hv with rfl | hv
    · exact .inr (.inl ⟨m, marker, rfl⟩)
    · exact h.locals v hv
  | @createRemote m v r marker pending free location flags madeFrom keeps =>
    refine ⟨fun x hx => ?_, fun v hv => ?_⟩
    · rcases (World.mem_addRemote free location).mp hx with rfl | hx
      · exact List.mem_cons_self
      · exact hstep.mem_history (h.created x hx)
    · exact (h.locals v hv).imp (·.step hstep) (Or.imp_right (And.imp_right hstep.mem_history))

variable (hdir : cfg.source.localSnapshotDir.Unslashed) (hshape : Shape cfg w)

include hdir hshape

/-- A settled recovery leaves a pending snapshot only if it had a remote one
or is kept. -/
theorem of_settled (h : Tracked cfg w) {m} (hmark : w.pendingMarker = some m)
    (hset : Settled cfg w m) : ∀ v, w.localAt m.localSnapshotPath = some v →
    EverRemote w v.metadata.uuid ∨ cfg.profile.settings.keepFailedLocalSnapshot = true := by
  intro v hv
  obtain ⟨name, heng⟩ := hshape.marker m hmark
  rcases hset with hinvalid | hnone | ⟨v', hv', -, hkept⟩
  · exact nomatch hinvalid.symm.trans (heng.valid hdir)
  · exact nomatch hnone.symm.trans hv
  · obtain rfl := Option.mem_unique hv' hv
    refine hkept.imp_left ?_
    rintro ⟨r, hr, hmatch⟩
    exact ⟨_, _, h.created r hr, hmatch⟩

theorem step (h : Tracked cfg w) (hstep : Step cfg assume w t) : Tracked cfg t := by
  have hstep' := hstep
  cases hstep with
  | grow grows => exact h.grow grows
  | dropPendingRemote => exact h.shrink (.removeRemote ..) (by simp) hstep'
  | dropPendingLocal => exact h.shrink (.removeLocal ..) rfl hstep'
  | finishRecovery marker settled =>
    refine h.unmark (.finishRecovery ..) hstep' marker fun v hv => ?_
    exact (h.of_settled hdir hshape marker settled v hv).imp (·.step hstep')
      (⟨·, w.leftByRecovery_mem hv⟩)
  | transfer same => exact h.shrink (.of_same same) same.pendingMarker hstep'
  | checkFailed => exact h.shrink (.record ..) rfl hstep'
  | checkSucceeded => exact h.shrink (.record ..) rfl hstep'
  | dropUnverified => exact h.shrink (.removeRemote ..) (by simp) hstep'
  | retainRemote => exact h.shrink (.removeRemote ..) (by simp) hstep'
  | retainLocal => exact h.shrink (.removeLocal ..) rfl hstep'
  | finish marker verified committed =>
    exact h.unmark (.clearMarker w) hstep' marker fun v hv => .inl ((committed v hv).step hstep')

theorem steps (h : Tracked cfg w) (hsteps : Steps cfg assume w t) : Tracked cfg t := by
  induction hsteps with
  | refl => exact h
  | tail hsteps hstep ih => exact ih.step hdir (hshape.steps hsteps) hstep

end Tracked

end BtrfsBackup
