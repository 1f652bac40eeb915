/-
Rules for the handlers' programs.

Each rule lists the states a handler goes through, so that a proof about it
only has to say what holds in these states: `Stops C E s` says that a run may
be cut off or end with an exception in `s`.
-/
import BtrfsBackup.ActionHandlers

open Interaction Interaction.Prog

namespace BtrfsBackup

/-- A run may stop in this state, by a crash or by any exception. -/
def Stops (C : World → Prop) (E : Thrown → World → Prop) (world : World) : Prop :=
  C world ∧ ∀ e, E e world

/-- The worlds differ at most in received data and known UUIDs. -/
structure SameSnapshots (s t : World) : Prop where
  localSnapshots : t.localSnapshots = s.localSnapshots
  remoteSnapshots : t.remoteSnapshots = s.remoteSnapshots
  pendingMarker : t.pendingMarker = s.pendingMarker
  history : t.history = s.history

namespace SameSnapshots

theorem refl (s : World) : SameSnapshots s s := ⟨rfl, rfl, rfl, rfl⟩

theorem trans {s t u : World} (h : SameSnapshots s t) (h' : SameSnapshots t u) :
    SameSnapshots s u :=
  ⟨h'.1.trans h.1, h'.2.trans h.2, h'.3.trans h.3, h'.4.trans h.4⟩

end SameSnapshots

section rules

variable {A : StoreCall → Answer → Prop} {C : World → Prop} {E : Thrown → World → Prop}
  {s : World} {cfg : SourceConfig}

/-! ### Calls -/

variable {Q : Unit → World → Prop} {remove : World → List String → World} {I : World → Prop}
  {plan : RetentionPlan} {label : StoreCall} {src : SourceId}

theorem wp_call {possible change} (hs : Stops C E s)
    (hchange : ∀ a, A label a → possible a s = true → (∀ e, E e (change a s)) ∧ Q () (change a s)) :
    wp A C (call label possible change) Q E s := by
  refine ⟨hs.1, fun a ha => ?_⟩
  by_cases hp : possible a s = true
  · obtain ⟨hE, hQ⟩ := hchange a ha hp
    rcases hv : a.verdict with _ | _ | _
    · simpa [hp, hv] using hQ
    · simpa [hp, hv] using hs.2 a.error
    · simpa [hp, hv] using hE a.error
  · simpa [hp] using hs.2 a.error

theorem wp_inspect (hs : Stops C E s) (hQ : Q () s) : wp A C (inspect label) Q E s :=
  wp_call hs fun _ _ _ => ⟨hs.2, hQ⟩

theorem wp_lift {α : Type} {x : Except Thrown α} {Q} (hE : ∀ e, E e s)
    (hQ : ∀ a, x = .ok a → Q a s) : wp A C (lift x) Q E s := by
  cases x with
  | error e => exact hE e
  | ok a => exact hQ a rfl

variable {root path : FsPath}

theorem wp_ensureDirectory (hs : Stops C E s)
    (hQ : Q () s) : wp A C (ensureDirectory root path) Q E s := by
  rw [ensureDirectory, wp_monadBind]
  exact wp_lift hs.2 fun _ _ => wp_inspect hs hQ

variable {store : World → Subvolumes}

theorem wp_requireSnapshotMetadata {message : String} {Q} (hs : Stops C E s)
    (hQ : ∀ metadata, readMetadata (store s) path.location = some metadata → Q metadata s) :
    wp A C (requireSnapshotMetadata root path store message) Q E s := by
  rw [requireSnapshotMetadata, wp_monadBind]
  refine wp_lift hs.2 fun loc hloc => ?_
  rw [wp_monadBind]
  refine wp_inspect hs ?_
  rw [wp_look]
  rw [locate_eq_ok hloc]
  rcases hread : readMetadata (store s) path.location with _ | metadata
  · exact hs.2 _
  · exact hQ metadata hread

/-- A deletion, from whichever side it is. -/
theorem wp_deleteSubvolume (hs : Stops C E s)
    (hQ : ∀ v, (store s).find? path.location = some v →
      (∀ e, E e (remove s path.location)) ∧ Q () (remove s path.location)) :
    wp A C (do
      let loc ← lift (locate root path)
      call .deleteSubvolume (fun _ world => ((store world).find? loc).isSome)
        fun _ world => remove world loc) Q E s := by
  rw [wp_monadBind]
  refine wp_lift hs.2 fun loc hloc => ?_
  rw [locate_eq_ok hloc]
  refine wp_call hs fun a _ hp => ?_
  obtain ⟨v, hv⟩ := Option.isSome_iff_exists.mp hp
  exact hQ v hv

/-- A loop of deletions. -/
theorem wp_deleteSnapshots {delete} {snaps : List SnapshotInfo}
    (hdelete : ∀ {snapshot R t}, Stops C E t →
      (∀ v, (store t).find? snapshot.path.location = some v →
        (∀ e, E e (remove t snapshot.path.location)) ∧ R () (remove t snapshot.path.location)) →
      wp A C (delete snapshot) R E t)
    (hs : I s) (hstops : ∀ t, I t → Stops C E t ∧ Q () t)
    (hstep : ∀ t, I t → ∀ snapshot ∈ snaps, ∀ v,
      (store t).find? snapshot.path.location = some v → I (remove t snapshot.path.location)) :
    wp A C (Prog.forEach delete snaps) Q E s := by
  refine wp_mono_result (Prog.wp_forEach
    (I := fun rest t => I t ∧ ∀ snapshot ∈ rest, snapshot ∈ snaps)
    ⟨hs, fun _ h => h⟩ ?_) fun _ t ht => (hstops t ht.1).2
  rintro snapshot rest t ⟨ht, hrest⟩
  refine hdelete (hstops t ht).1 fun v hv => ?_
  have hnext := hstep t ht snapshot (hrest snapshot List.mem_cons_self) v hv
  exact ⟨(hstops _ hnext).1.2, hnext, fun u hu => hrest u (List.mem_cons_of_mem _ hu)⟩

/-! ### Received data -/

section

variable (h : ∀ t, SameSnapshots s t → Stops C E t ∧ Q () t)
include h

theorem wp_removeIncomingBelow {loc} : wp A C (removeIncomingBelow loc) Q E s := by
  rw [removeIncomingBelow, wp_look]
  -- the loop keeps everything but the received data
  refine wp_mono_result (Prog.wp_forEach (I := fun _ => SameSnapshots s) (.refl s) ?_)
    fun _ t ht => (h t ht).2
  intro v rest t ht
  refine wp_call (h t ht).1 fun _ _ _ => ?_
  have hnext : SameSnapshots s { t with incoming := t.incoming.remove v.location } :=
    ht.trans ⟨rfl, rfl, rfl, rfl⟩
  exact ⟨(h _ hnext).1.2, hnext⟩

theorem wp_removeContents : wp A C (removeContents root path) Q E s := by
  have hs := (h s (.refl s)).1
  rw [removeContents, wp_monadBind]
  refine wp_lift hs.2 fun loc _ => ?_
  rw [wp_monadBind]
  exact wp_inspect hs (wp_removeIncomingBelow h)

theorem wp_removeTree : wp A C (removeTree root path) Q E s := by
  have hs := (h s (.refl s)).1
  rw [removeTree, wp_monadBind]
  refine wp_lift hs.2 fun loc _ => ?_
  split_ifs
  · exact hs.2 _
  · rw [wp_monadBind]
    exact wp_inspect hs (wp_removeIncomingBelow h)

/-! ### Handlers -/

end

/-- The world after the remote deletion of a recovery, if there is one. -/
def World.dropPendingRemote (recovery : PendingRecoveryPlan) (world : World) : World :=
  match recovery.remoteDeletion with
  | none => world
  | some path => world.removeRemote .recoverPending path.location

/-- The world after the local deletion of a recovery, if there is one. -/
def World.dropPendingLocal (recovery : PendingRecoveryPlan) (world : World) : World :=
  match recovery.localDeletion with
  | none => world
  | some path => world.removeLocal path.location

/-- The world after both. -/
def World.dropPending (recovery : PendingRecoveryPlan) (world : World) : World :=
  (world.dropPendingRemote recovery).dropPendingLocal recovery

/-- The states of a recovery that clears the marker. -/
theorem wp_recoverPending {rcv} (hclears : rcv.clearsMarker = true) (h0 : Stops C E s)
    (h1 : Stops C E (s.dropPendingRemote rcv)) (h2 : Stops C E (s.dropPending rcv))
    (h3 : ∀ t, t = (s.dropPending rcv).finishRecovery rcv.pendingSnapshotPath →
      (∀ e, E e t) ∧ Q () t) :
    wp A C (recoverPending cfg rcv) Q E s := by
  refine wp_seq (R := fun _ t => t = s.dropPendingRemote rcv) ?_ fun _ t ht => ?_
  · rw [World.dropPendingRemote] at h1 ⊢
    rw [deletePendingRemote]
    rcases hdeletion : rcv.remoteDeletion with _ | path
    · rfl
    · rw [hdeletion] at h1
      exact wp_deleteSubvolume h0 fun _ _ => ⟨h1.2, rfl⟩
  subst ht
  refine wp_seq (R := fun _ t => t = s.dropPending rcv) ?_ fun _ t ht => ?_
  · rw [World.dropPending, World.dropPendingLocal] at h2 ⊢
    rw [deletePendingLocal]
    rcases hdeletion : rcv.localDeletion with _ | path
    · rfl
    · rw [hdeletion] at h2
      exact wp_deleteSubvolume h1 fun _ _ => ⟨h2.2, rfl⟩
  subst ht
  rw [if_pos hclears]
  exact wp_call h2 fun _ _ _ => h3 _ rfl

/-- The states of `CreateSnapshot`: the marker is written before the snapshot
is made. -/
theorem wp_createSnapshot {act : CreateSnapshotAction}
    (h0 : Stops C E s) (h1 : ∀ now, Stops C E (s.writeMarker (act.marker now)))
    (h2 : ∀ now answer, A .createSnapshot answer →
      s.localSnapshots.find? act.snapshot.location = none →
      (s.writeMarker (act.marker now)).isFresh answer.uuid = true →
      ∀ t, t = (s.writeMarker (act.marker now)).addLocal
          (newLocalSnapshot act.snapshot.location answer) → Stops C E t ∧ Q () t) :
    wp A C (createSnapshot act) Q E s := by
  refine (wp_bind _ _).mpr (wp_ensureDirectory h0 ?_)
  refine (wp_bind _ _).mpr (wp_call h0 fun written _ _ => ⟨(h1 written.now).2, ?_⟩)
  refine (wp_bind _ _).mpr (wp_lift (h1 written.now).2 fun loc hloc => ?_)
  rw [locate_eq_ok hloc, wp_look]
  split_ifs with hexists
  · exact (h1 written.now).2 _
  have hfree : s.localSnapshots.find? act.snapshot.location = none := by
    simpa [World.writeMarker] using hexists
  refine (wp_bind _ _).mpr (wp_call (h1 written.now) fun answer hans hfresh => ?_)
  obtain ⟨hstop, hQ⟩ := h2 written.now answer hans hfree hfresh _ rfl
  refine ⟨hstop.2, (wp_bind _ _).mpr (wp_requireSnapshotMetadata hstop fun metadata _ => ?_)⟩
  split_ifs
  · exact hstop.2 _
  · exact hQ

theorem wp_openParent {parent} (hs : Stops C E s)
    (hQ : Q () s) : wp A C (openParent parent) Q E s := by
  cases parent with
  | none => exact hQ
  | some path => exact (wp_bind _ _).mpr (wp_requireSnapshotMetadata hs fun _ _ => hQ)

/-- The states of `SendReceive`. -/
theorem wp_sendReceive {act : SendReceiveAction} (h0 : Stops C E s)
    (h1 : ∀ sent, readMetadata s.localSnapshots act.snapshot.location = some sent →
      ∀ answer loc, loc = act.incomingRunDirectory.location ++ [act.snapshot.filename] →
        s.incoming.find? loc = none →
        (∀ e, E e (s.addIncoming (receivedSubvolume loc sent answer))) ∧
          Q () (s.addIncoming (receivedSubvolume loc sent answer))) :
    wp A C (sendReceive cfg act) Q E s := by
  refine (wp_bind _ _).mpr (wp_ensureDirectory h0 ?_)
  refine (wp_bind _ _).mpr (wp_ensureDirectory h0 ?_)
  refine (wp_bind _ _).mpr (wp_requireSnapshotMetadata h0 fun sent hsent => ?_)
  refine (wp_bind _ _).mpr (wp_openParent h0 ?_)
  refine (wp_bind _ _).mpr (wp_inspect h0 ?_)
  refine (wp_bind _ _).mpr (wp_lift h0.2 fun directory hdir => ?_)
  refine wp_call h0 fun answer _ hpossible => ?_
  simp only [Bool.and_eq_true, Option.isNone_iff_eq_none] at hpossible
  exact h1 sent hsent answer _ (by rw [locate_eq_ok hdir]) hpossible.2

theorem wp_verifyReceived {sentPath receivedPath : FsPath} (h0 : Stops C E s)
    (hQ : ∀ sent received, readMetadata s.localSnapshots sentPath.location = some sent →
      readMetadata s.incoming receivedPath.location = some received →
      verifyReceivedSnapshot src sent received = .ok () → Q () s) :
    wp A C (verifyReceived cfg src sentPath receivedPath) Q E s := by
  refine (wp_bind _ _).mpr (wp_requireSnapshotMetadata h0 fun sent hsent => ?_)
  refine (wp_bind _ _).mpr (wp_requireSnapshotMetadata h0 fun received hrecv => ?_)
  exact wp_lift h0.2 fun _ => hQ sent received hsent hrecv

/-- The states of `CommitReceived`: the snapshot is made, then checked, and
removed again if the check fails. -/
theorem wp_commitReceived {act : CommitReceivedAction} (h0 : Stops C E s)
    (h1 : ∀ sent received answer final, final = act.finalSnapshot.location →
      readMetadata s.localSnapshots act.localSnapshot.location = some sent →
      s.remoteSnapshots.find? final = none →
      s.incoming.find? act.receivedSnapshot.location = some received →
      A .createSnapshot answer → s.isFresh answer.uuid = true →
      ∀ new t, new = committedSnapshot final received answer → t = s.addRemote new → Stops C E t ∧
        (uuidMatches sent.uuid new.metadata.receivedUuid = true →
          Q () (t.record (.commitSucceeded new.metadata.uuid))) ∧
        (uuidMatches sent.uuid new.metadata.receivedUuid = false →
          C (t.record (.commitCheckFailed final)) ∧
          (∀ e, e.isRecoveryRequired = true → E e (t.record (.commitCheckFailed final))) ∧
          ∀ e, E e ((t.record (.commitCheckFailed final)).removeRemote .commitReceived final))) :
    wp A C (commitReceived cfg act) Q E s := by
  refine (wp_bind _ _).mpr (wp_requireSnapshotMetadata h0 fun sent hsent => ?_)
  refine (wp_bind _ _).mpr (wp_lift h0.2 fun final hfinal => ?_)
  obtain rfl := locate_eq_ok hfinal
  refine (wp_bind _ _).mpr (wp_inspect h0 ?_)
  rw [wp_look]
  split_ifs with hexists
  · exact h0.2 _
  have hfree : s.remoteSnapshots.find? act.finalSnapshot.location = none := by
    simpa using hexists
  refine (wp_bind _ _).mpr (wp_lift h0.2 fun received hrecv => ?_)
  obtain rfl := locate_eq_ok hrecv
  rw [wp_look]
  rcases hinc : s.incoming.find? act.receivedSnapshot.location with _ | received
  · exact h0.2 _
  refine (wp_bind _ _).mpr (wp_call h0 fun answer hans hfresh => ?_)
  obtain ⟨hstop, hmatch, hmis⟩ := h1 sent received answer _ rfl hsent hfree hinc hans
    hfresh _ _ rfl rfl
  refine ⟨hstop.2, (wp_bind _ _).mpr (wp_inspect hstop ?_)⟩
  rw [wp_look]
  -- what is found at the final path is the snapshot just made
  have hfound : (s.addRemote (committedSnapshot act.finalSnapshot.location received
      answer)).remoteSnapshots.find? act.finalSnapshot.location =
      some (committedSnapshot act.finalSnapshot.location received answer) :=
    Keyed.Store.find?_eq_some.mpr ⟨(Keyed.Store.mem_add hfree).mpr (.inl rfl), rfl⟩
  rw [hfound]
  dsimp only
  rcases hcheck : uuidMatches sent.uuid
    (committedSnapshot act.finalSnapshot.location received answer).metadata.receivedUuid
  · obtain ⟨hC, hE, hgone⟩ := hmis hcheck
    rw [if_pos (by simp)]
    refine (wp_bind _ _).mpr ((wp_handleError _ _).mpr ?_)
    -- every error of the clean-up becomes `RecoveryRequiredError`
    exact wp_deleteSubvolume ⟨hC, fun e => hE _ rfl⟩ fun _ _ => ⟨fun e => hgone _, hgone _⟩
  · rw [if_neg (by simp)]
    exact hmatch hcheck

theorem wp_applyRemoteRetention
    (hs : I s) (hstops : ∀ t, I t → Stops C E t ∧ Q () t)
    (hstep : ∀ t, I t → ∀ snapshot ∈ plan.deleteSnapshots, ∀ v,
      t.remoteSnapshots.find? snapshot.path.location = some v →
      I (t.removeRemote .applyRemoteRetention snapshot.path.location)) :
    wp A C (applyRemoteRetention cfg plan) Q E s :=
  wp_deleteSnapshots wp_deleteSubvolume hs hstops hstep

theorem wp_applyLocalRetention
    (hs : I s) (hstops : ∀ t, I t → Stops C E t ∧ Q () t)
    (hstep : ∀ t, I t → ∀ snapshot ∈ plan.deleteSnapshots, ∀ v,
      t.localSnapshots.find? snapshot.path.location = some v →
      I (t.removeLocal snapshot.path.location)) :
    wp A C (applyLocalRetention plan) Q E s :=
  wp_deleteSnapshots wp_deleteSubvolume hs hstops hstep

theorem wp_cleanupSource {act}
    (h : ∀ t, SameSnapshots s t → Stops C E t ∧ (∀ e, E e t.clearMarker) ∧ Q () t.clearMarker) :
    wp A C (cleanupSource cfg act) Q E s := by
  refine (wp_bind _ _).mpr (wp_removeTree fun t ht => ⟨(h t ht).1, ?_⟩)
  refine (wp_bind _ _).mpr (wp_removeTree fun u hu => ⟨(h u (ht.trans hu)).1, ?_⟩)
  exact wp_call (h u (ht.trans hu)).1 fun _ _ _ => (h u (ht.trans hu)).2

/-! ### Plans -/

theorem wp_hooks {phase : HookPhase} {hooks : List ProfileHookCommand} (hs : Stops C E s)
    (hQ : Q () s) : wp A C (executeActions cfg (hooks.map (.runHook src phase))) Q E s := by
  induction hooks with
  | nil => exact hQ
  | cons hook hooks ih => exact (wp_bind _ _).mpr (wp_inspect hs ih)

/-- The actions of a plan, one after the other: each of the `R` holds between
two of them. -/
theorem wp_orderedSourceActions {source ctx paths rcv parent}
    {localRetention remoteRetention : RetentionPlan}
    {Q} (R₁ R₂ R₃ R₄ R₅ R₆ R₇ R₈ : World → Prop)
    (skip : rcv.required = false → R₁ s) (recover : rcv.required = true →
      wp A C (recoverPending cfg rcv) (fun _ => R₁) E s)
    (cleanup : ∀ t, R₁ t → wp A C (removeContents cfg.targetRoot paths.incomingSourceRoot)
      (fun _ => R₂) E t)
    (before : ∀ t, R₂ t → Stops C E t)
    (create : ∀ t, R₂ t → wp A C (createSnapshot (createSnapshotAction source ctx paths))
      (fun _ => R₃) E t)
    (after : ∀ t, R₃ t → Stops C E t)
    (send : ∀ t, R₃ t → wp A C (sendReceive cfg (sendReceiveAction source paths parent))
      (fun _ => R₄) E t)
    (verify : ∀ t, R₄ t → wp A C (verifyReceived cfg source.id paths.localSnapshot
      paths.receivedSnapshot) (fun _ => R₅) E t)
    (commit : ∀ t, R₅ t → wp A C (commitReceived cfg (commitReceivedAction source paths))
      (fun _ => R₆) E t)
    (retainRemote : ∀ t, R₆ t → wp A C (applyRemoteRetention cfg remoteRetention) (fun _ => R₇) E t)
    (retainLocal : ∀ t, R₇ t → wp A C (applyLocalRetention localRetention) (fun _ => R₈) E t)
    (finish : ∀ t, R₈ t → wp A C (cleanupSource cfg (cleanupSourceAction source ctx paths
      rcv)) (fun _ => Q) E t) :
    wp A C (executeActions cfg (orderedSourceActions source ctx paths rcv parent
      localRetention remoteRetention)) (fun _ => Q) E s := by
  have hrecover : wp A C (executeActions cfg
      (if rcv.required then [.recoverPending source.id rcv] else [])) (fun _ => R₁) E s := by
    rcases hreq : rcv.required
    · exact skip hreq
    · exact wp_seq (recover hreq) fun _ t ht => ht
  refine wp_forEach_append.mpr (wp_mono_result hrecover fun _ t ht => ?_)
  refine wp_seq (cleanup t ht) fun _ t ht => ?_
  refine wp_forEach_append.mpr (wp_hooks (before t ht) ?_)
  refine wp_seq (create t ht) fun _ t ht => ?_
  refine wp_forEach_append.mpr (wp_hooks (after t ht) ?_)
  refine wp_seq (send t ht) fun _ t ht => ?_
  refine wp_seq (verify t ht) fun _ t ht => ?_
  refine wp_seq (commit t ht) fun _ t ht => ?_
  refine wp_seq (retainRemote t ht) fun _ t ht => ?_
  refine wp_seq (retainLocal t ht) fun _ t ht => ?_
  exact wp_seq (finish t ht) fun _ t ht => ht

end rules

/-! ### Completed calls -/

section completes

variable {s t : World} {cfg : SourceConfig} {path : FsPath}

theorem completes_lift {α : Type} {x} {a : α} :
    Completes (lift x : Handler α) s a t ↔ x = .ok a ∧ t = s := by
  constructor
  · rintro ⟨is, h⟩
    cases x <;> cases h
    exact ⟨rfl, rfl⟩
  · rintro ⟨rfl, rfl⟩
    exact ⟨[], rfl⟩

theorem completes_call {label : StoreCall} {possible change} :
    Completes (call label possible change) s () t ↔
      ∃ answer, possible answer s = true ∧ answer.verdict = .ok ∧ t = change answer s := by
  constructor
  · rintro ⟨is, h⟩
    rcases is with _ | ⟨answer, is⟩
    · cases h
    · refine ⟨answer, ?_⟩
      rw [call, run] at h
      by_cases hok : possible answer s = true ∧ answer.verdict = .ok
      · simp only [hok, run, beq_self_eq_true, Bool.and_self, if_true] at h
        refine ⟨hok.1, hok.2, ?_⟩
        cases h
        rfl
      · rw [if_neg (by simpa using hok), run] at h
        cases h
  · rintro ⟨answer, hpossible, hverdict, rfl⟩
    refine ⟨[answer], ?_⟩
    simp [call, run, hpossible, hverdict]

/-- A deletion completes if its path is below the root and there is something
to delete. -/
theorem completes_delete {root : FsPath} {store : World → Subvolumes}
    {f : World → List String → World} :
    Completes ((lift (locate root path)).bind fun l => call .deleteSubvolume
        (fun _ world => ((store world).find? l).isSome) fun _ world => f world l) s () t ↔
      (∃ l, locate root path = .ok l) ∧ (∃ v, (store s).find? path.location = some v) ∧
        t = f s path.location := by
  rw [completes_bind]
  simp only [completes_lift, completes_call, Option.isSome_iff_exists]
  constructor
  · rintro ⟨l, _, ⟨hl, rfl⟩, answer, hv, -, rfl⟩
    rw [locate_eq_ok hl] at hv ⊢
    exact ⟨⟨l, hl⟩, hv, rfl⟩
  · rintro ⟨⟨l, hl⟩, hv, rfl⟩
    refine ⟨l, s, ⟨hl, rfl⟩, default, ?_, rfl, ?_⟩ <;> rw [locate_eq_ok hl]
    exact hv

variable {rcv : PendingRecoveryPlan}

theorem completes_deletePendingRemote : Completes (deletePendingRemote cfg rcv) s () t ↔
      (∀ path, rcv.remoteDeletion = some path → (∃ l, locate cfg.targetRoot path = .ok l) ∧
        ∃ v, s.remoteSnapshots.find? path.location = some v) ∧
      t = s.dropPendingRemote rcv := by
  rw [deletePendingRemote, World.dropPendingRemote]
  rcases rcv.remoteDeletion with _ | path
  · simp [completes_pure]
  · simp only [Option.some.injEq, forall_eq', and_assoc]
    exact completes_delete

theorem completes_deletePendingLocal : Completes (deletePendingLocal rcv) s () t ↔
      (∀ path, rcv.localDeletion = some path → (∃ l, locate localRoot path = .ok l) ∧
        ∃ v, s.localSnapshots.find? path.location = some v) ∧
      t = s.dropPendingLocal rcv := by
  rw [deletePendingLocal, World.dropPendingLocal]
  rcases rcv.localDeletion with _ | path
  · simp [completes_pure]
  · simp only [Option.some.injEq, forall_eq', and_assoc]
    exact completes_delete

/-- A recovery completes if what it deletes is there and below the roots. -/
theorem completes_recoverPending (hclears : rcv.clearsMarker = true) :
    Completes (recoverPending cfg rcv) s () t ↔
      (∀ path, rcv.remoteDeletion = some path → (∃ l, locate cfg.targetRoot path = .ok l) ∧
        ∃ v, s.remoteSnapshots.find? path.location = some v) ∧
      (∀ path, rcv.localDeletion = some path → (∃ l, locate localRoot path = .ok l) ∧
        ∃ v, (s.dropPendingRemote rcv).localSnapshots.find? path.location = some v) ∧
      t = (s.dropPending rcv).finishRecovery rcv.pendingSnapshotPath := by
  have hrest : ∀ u, Completes (if rcv.clearsMarker then call .clearMarker (fun _ _ => true)
      fun _ => World.finishRecovery rcv.pendingSnapshotPath else pure ()) u () t ↔
      t = u.finishRecovery rcv.pendingSnapshotPath := by
    intro u
    rw [if_pos hclears, completes_call]
    exact ⟨fun ⟨_, _, _, h⟩ => h, fun h => ⟨default, rfl, rfl, h⟩⟩
  refine completes_bind.trans ?_
  constructor
  · rintro ⟨⟨⟩, u, hfirst, h⟩
    obtain ⟨hrem, rfl⟩ := completes_deletePendingRemote.mp hfirst
    obtain ⟨⟨⟩, u, hsecond, h⟩ := completes_bind.mp h
    obtain ⟨hlocal, rfl⟩ := completes_deletePendingLocal.mp hsecond
    exact ⟨hrem, hlocal, (hrest _).mp h⟩
  · rintro ⟨hrem, hlocal, h⟩
    refine ⟨(), _, completes_deletePendingRemote.mpr ⟨hrem, rfl⟩, completes_bind.mpr ?_⟩
    exact ⟨(), _, completes_deletePendingLocal.mpr ⟨hlocal, rfl⟩, (hrest _).mpr h⟩

end completes

end BtrfsBackup
