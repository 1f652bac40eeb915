/-
Choosing the parent of an incremental transfer (`backup/model/IncrementalParent`).

The parent is the newest local snapshot, other than the one being made, whose
UUID some read-only remote snapshot was received from.

* `selectIncrementalParent_declares` — the selection is the one that
  `DeclaresParent` describes, and does not depend on the order of the snapshots.
-/
import BtrfsBackup.Snapshot

namespace BtrfsBackup

open List

inductive IncrementalParentSelection where
  | fullTransfer
  | incrementalTransfer (localParent remoteParent : SnapshotInfo)
  deriving DecidableEq

/-- `normalized_path_string`. -/
def normalizedPathString (path : FsPath) : String := path.lexicallyNormal.string

/-- `same_path_text`. -/
def samePathText (left right : FsPath) : Bool :=
  normalizedPathString left == normalizedPathString right

/-- `newest_first`. -/
def newestFirst (left right : SnapshotInfo) : Bool := keyLess right left

/-- Remote snapshots by the UUID they were received from. -/
abbrev RemoteByReceivedUuid := List (ReceivedSnapshotUuid × SnapshotInfo)

/-- The error of two remote snapshots received from one UUID. -/
def ambiguousParentError (sourceId : SourceId) (receivedUuid : ReceivedSnapshotUuid) : Thrown :=
  validationError ("ambiguous remote parent received UUID for " ++ sourceId.value ++ ": " ++
    receivedUuid.value)

def missingParentError (sourceId : SourceId) : Thrown :=
  validationError ("Remote snapshots exist for " ++ sourceId.value ++
    ", but no UUID-matching local parent was found.")

/-- The first loop of `select_incremental_parent`: whether the source has
remote snapshots, and the read-only ones by received UUID. -/
def indexRemotes (sourceId : SourceId) :
    List SnapshotInfo → Bool × RemoteByReceivedUuid → Except Thrown (Bool × RemoteByReceivedUuid)
  | [], acc => .ok acc
  | remote :: remotes, (exist, index) =>
    if remote.sourceId ≠ sourceId then indexRemotes sourceId remotes (exist, index)
    else if !remote.readonly || remote.receivedUuid.isEmpty then
      indexRemotes sourceId remotes (true, index)
    else
      match index.find? fun entry => entry.1 == remote.receivedUuid with
      | some duplicate =>
        if duplicate.2.path ≠ remote.path then
          .error (ambiguousParentError sourceId remote.receivedUuid)
        else indexRemotes sourceId remotes (true, index)
      | none => indexRemotes sourceId remotes (true, index ++ [(remote.receivedUuid, remote)])

/-- The second loop: local snapshots that can be a parent. -/
def parentCandidates (sourceId : SourceId) (localSnapshots : List SnapshotInfo)
    (currentSnapshotPath : Option FsPath) : List SnapshotInfo :=
  localSnapshots.filter fun snapshot =>
    decide (snapshot.sourceId = sourceId) && snapshot.readonly && !snapshot.uuid.isEmpty &&
      !(currentSnapshotPath.any fun current => samePathText snapshot.path current)

/-- The third loop: the first candidate that a remote snapshot matches. -/
def matchParent (index : RemoteByReceivedUuid) :
    List SnapshotInfo → Option IncrementalParentSelection
  | [] => none
  | snapshot :: snapshots =>
    match index.find? fun entry => uuidMatches snapshot.uuid entry.1 with
    | none => matchParent index snapshots
    | some entry => some (.incrementalTransfer snapshot entry.2)

/-- `select_incremental_parent`. -/
def selectIncrementalParent (sourceId : SourceId)
    (localSnapshots remoteSnapshots : List SnapshotInfo) (currentSnapshotPath : Option FsPath)
    (incrementalRequired : Bool) : Except Thrown IncrementalParentSelection := do
  let (remoteSnapshotsExist, index) ← indexRemotes sourceId remoteSnapshots (false, [])
  let candidates :=
    sortBy newestFirst (parentCandidates sourceId localSnapshots currentSnapshotPath)
  match matchParent index candidates with
  | some selection => .ok selection
  | none =>
    if remoteSnapshotsExist && incrementalRequired then .error (missingParentError sourceId)
    else .ok .fullTransfer

/-! ### The index of remote snapshots -/

/-- A remote snapshot that can be the other half of a parent. -/
def IsRemoteParent (sourceId : SourceId) (remote : SnapshotInfo) : Prop :=
  remote.sourceId = sourceId ∧ remote.readonly = true ∧ remote.receivedUuid.isEmpty = false

/-- The index holds one of the remote snapshots for each received UUID. -/
structure Indexes (sourceId : SourceId) (remotes : List SnapshotInfo)
    (index : RemoteByReceivedUuid) : Prop where
  sound : ∀ entry ∈ index, entry.2 ∈ remotes ∧ IsRemoteParent sourceId entry.2 ∧
    entry.1 = entry.2.receivedUuid
  complete : ∀ remote ∈ remotes, IsRemoteParent sourceId remote →
    ∃ entry ∈ index, entry.1 = remote.receivedUuid ∧ entry.2.path = remote.path
  distinct : ∀ entry ∈ index, ∀ other ∈ index, entry.1 = other.1 → entry = other

variable {index : RemoteByReceivedUuid}

section turn

variable {src : SourceId} {remote : SnapshotInfo} {seen : List SnapshotInfo}
  (h : Indexes src seen index)

include h

theorem Indexes.sound_concat : ∀ entry ∈ index, entry.2 ∈ seen ++ [remote] ∧
    IsRemoteParent src entry.2 ∧ entry.1 = entry.2.receivedUuid := fun entry hentry =>
  (h.sound entry hentry).imp_left (mem_append_left _)

/-- An entry for `remote` is needed only if it can be a parent. -/
theorem Indexes.keep (hcovered : IsRemoteParent src remote →
    ∃ entry ∈ index, entry.1 = remote.receivedUuid ∧ entry.2.path = remote.path) :
    Indexes src (seen ++ [remote]) index where
  sound := h.sound_concat
  complete := forall_mem_append.mpr ⟨h.complete, forall_mem_singleton.mpr hcovered⟩
  distinct := h.distinct

/-- The first one of its received UUID. -/
theorem Indexes.add (hpar : IsRemoteParent src remote)
    (hnew : ∀ entry ∈ index, entry.1 ≠ remote.receivedUuid) :
    Indexes src (seen ++ [remote]) (index ++ [(remote.receivedUuid, remote)]) where
  sound := forall_mem_append.mpr ⟨h.sound_concat, forall_mem_singleton.mpr
    ⟨mem_append_right _ mem_cons_self, hpar, rfl⟩⟩
  complete := by
    refine forall_mem_append.mpr ⟨fun r hr hr' => ?_, forall_mem_singleton.mpr fun _ => ?_⟩
    · obtain ⟨entry, hentry, heq⟩ := h.complete r hr hr'
      exact ⟨entry, mem_append_left _ hentry, heq⟩
    · exact ⟨_, mem_append_right _ mem_cons_self, rfl, rfl⟩
  distinct := by
    simp only [forall_mem_append, forall_mem_singleton]
    refine ⟨fun entry hentry => ⟨h.distinct entry hentry, fun hkey => ?_⟩,
      fun other hother hkey => ?_, fun _ => trivial⟩
    · exact absurd hkey (hnew entry hentry)
    · exact absurd hkey.symm (hnew other hother)

/-- One turn of the loop. -/
theorem indexRemotes_cons (rest : List SnapshotInfo) (exist : Bool) :
    (∃ other ∈ seen, other.receivedUuid = remote.receivedUuid ∧ other.path ≠ remote.path ∧
      IsRemoteParent src other ∧ IsRemoteParent src remote ∧
      indexRemotes src (remote :: rest) (exist, index) =
        .error (ambiguousParentError src remote.receivedUuid)) ∨
    ∃ exist' index', Indexes src (seen ++ [remote]) index' ∧
      indexRemotes src (remote :: rest) (exist, index) =
        indexRemotes src rest (exist', index') := by
  rw [indexRemotes]
  by_cases hsrc : remote.sourceId = src
  · rw [if_neg (not_not.mpr hsrc)]
    by_cases hskip : (!remote.readonly || remote.receivedUuid.isEmpty) = true
    · rw [if_pos hskip]
      refine .inr ⟨_, index, h.keep fun hpar => ?_, rfl⟩
      simp [hpar.2.1, hpar.2.2] at hskip
    · rw [if_neg hskip]
      have hpar : IsRemoteParent src remote := by
        rw [Bool.or_eq_true, not_or] at hskip
        exact ⟨hsrc, by simpa using hskip.1, by simpa using hskip.2⟩
      rcases hfind : index.find? fun entry => entry.1 == remote.receivedUuid with _ | entry
      · simp only [hfind]
        refine .inr ⟨true, _, h.add hpar fun entry hentry => ?_, rfl⟩
        simpa using find?_eq_none.mp hfind entry hentry
      · have hentry := mem_of_find?_eq_some hfind
        have hkey : entry.1 = remote.receivedUuid := by simpa using find?_some hfind
        obtain ⟨hmem, hother, huuid⟩ := h.sound entry hentry
        simp only [hfind]
        by_cases hpath : entry.2.path = remote.path
        · rw [if_neg (not_not.mpr hpath)]
          exact .inr ⟨true, index, h.keep fun _ => ⟨entry, hentry, hkey, hpath⟩, rfl⟩
        · rw [if_pos hpath]
          exact .inl ⟨entry.2, hmem, huuid.symm.trans hkey, hpath, hother, hpar, rfl⟩
  · rw [if_pos hsrc]
    exact .inr ⟨exist, index, h.keep fun hpar => absurd hpar.1 hsrc, rfl⟩

end turn

/-- The loop either finds two remote snapshots received from one UUID, or
indexes all of them. -/
theorem indexRemotes_spec {src : SourceId} :
    ∀ (rest : List SnapshotInfo) (exist : Bool) {seen : List SnapshotInfo}
      {index : RemoteByReceivedUuid}, Indexes src seen index →
      (∃ a ∈ seen ++ rest, ∃ b ∈ seen ++ rest, a.receivedUuid = b.receivedUuid ∧
        a.path ≠ b.path ∧ IsRemoteParent src a ∧ IsRemoteParent src b ∧
        indexRemotes src rest (exist, index) = .error (ambiguousParentError src b.receivedUuid)) ∨
      ∃ exist' index', Indexes src (seen ++ rest) index' ∧
        indexRemotes src rest (exist, index) = .ok (exist', index')
  | [], exist, seen, index, h => .inr ⟨exist, index, by rwa [append_nil], rfl⟩
  | remote :: rest, exist, seen, index, h => by
    have happend : seen ++ remote :: rest = seen ++ [remote] ++ rest := by simp
    rcases indexRemotes_cons h rest exist with
      ⟨other, hother, huuid, hpath, hpar, hpar', herror⟩ | ⟨exist', index', hindex, heq⟩
    · exact .inl ⟨other, mem_append_left _ hother, remote,
        mem_append_right _ mem_cons_self, huuid, hpath, hpar, hpar', herror⟩
    · rw [heq, happend]
      exact indexRemotes_spec rest exist' hindex

theorem matchParent_eq_some {selection} :
    ∀ {cands : List SnapshotInfo}, matchParent index cands = some selection →
      ∃ snap ∈ cands, ∃ entry ∈ index, uuidMatches snap.uuid entry.1 = true ∧
        selection = .incrementalTransfer snap entry.2
  | snap :: snapshots, h => by
    rw [matchParent] at h
    split at h
    · obtain ⟨s, hs, hrest⟩ := matchParent_eq_some h
      exact ⟨s, mem_cons_of_mem _ hs, hrest⟩
    · next entry hfind =>
      cases h
      have hmatch : uuidMatches snap.uuid entry.1 = true := by
        simpa using find?_some hfind
      exact ⟨snap, mem_cons_self, entry, mem_of_find?_eq_some hfind, hmatch, rfl⟩

theorem matchParent_eq_none : ∀ {cands : List SnapshotInfo}, matchParent index cands = none →
      ∀ snap ∈ cands, ∀ entry ∈ index, uuidMatches snap.uuid entry.1 = false
  | [], _, _, hs => nomatch hs
  | first :: rest, h, snap, hs => by
    rw [matchParent] at h
    split at h
    · next hfind =>
      rcases mem_cons.mp hs with rfl | hs
      · intro entry hentry
        simpa using find?_eq_none.mp hfind entry hentry
      · exact matchParent_eq_none h snap hs
    · cases h

/-! ### The selection -/

section selection

variable {src : SourceId} {locals rems : List SnapshotInfo} {cur : Option FsPath}
  {required : Bool}

/-- A candidate is a read-only snapshot of the source at another path. -/
theorem mem_parentCandidates {snap} : snap ∈ parentCandidates src locals cur ↔
      snap ∈ locals ∧ snap.sourceId = src ∧ snap.readonly = true ∧ snap.uuid.isEmpty = false ∧
        ∀ path, cur = some path → samePathText snap.path path = false := by
  rw [parentCandidates, mem_filter]
  cases cur <;> simp [and_assoc]

/-- A selection that has an index of the remote snapshots takes the newest
candidate that one of them matches. -/
theorem selectIncrementalParent_eq {exist : Bool}
    (h : indexRemotes src rems (false, []) = .ok (exist, index)) :
    selectIncrementalParent src locals rems cur required =
      match matchParent index (sortBy newestFirst (parentCandidates src locals cur)) with
      | some selection => .ok selection
      | none =>
        if exist && required then .error (missingParentError src) else .ok .fullTransfer := by
  simp only [selectIncrementalParent, h, bind, Except.bind]

theorem Indexes.nil (src : SourceId) : Indexes src [] [] where
  sound := forall_mem_nil _
  complete := forall_mem_nil _
  distinct := forall_mem_nil _

/-- A selection that succeeds has indexed the remote snapshots. -/
theorem indexRemotes_of_selectIncrementalParent {selection}
    (h : selectIncrementalParent src locals rems cur required = .ok selection) : ∃ exist index,
    Indexes src rems index ∧ indexRemotes src rems (false, []) = .ok (exist, index) := by
  rcases indexRemotes_spec rems false (Indexes.nil src) with
    ⟨_, _, _, _, _, _, _, _, herror⟩ | hok
  · simp only [selectIncrementalParent, herror, bind, Except.bind] at h
    cases h
  · exact hok

/-- Of the remote snapshots that an index holds, those received from one UUID are
at one path. -/
theorem Indexes.path_eq (h : Indexes src rems index) :
    ∀ a ∈ rems, ∀ b ∈ rems, a.receivedUuid = b.receivedUuid →
      IsRemoteParent src a → IsRemoteParent src b → a.path = b.path := by
  intro a ha b hb huuid hpar hpar'
  obtain ⟨entry, hentry, hkey, hpath⟩ := h.complete a ha hpar
  obtain ⟨other, hother, hkey', hpath'⟩ := h.complete b hb hpar'
  obtain rfl := h.distinct entry hentry other hother (hkey.trans (huuid.trans hkey'.symm))
  exact hpath.symm.trans hpath'

/-- The selected pair. -/
theorem selectIncrementalParent_eq_incremental {localParent remoteParent}
    (h : selectIncrementalParent src locals rems cur required =
      .ok (.incrementalTransfer localParent remoteParent)) :
    localParent ∈ parentCandidates src locals cur ∧ remoteParent ∈ rems ∧
      IsRemoteParent src remoteParent ∧
      uuidMatches localParent.uuid remoteParent.receivedUuid = true := by
  obtain ⟨exist, index, hindexes, hok⟩ := indexRemotes_of_selectIncrementalParent h
  rw [selectIncrementalParent_eq hok] at h
  split at h
  · next selection hselection =>
    obtain ⟨snap, hsnap, entry, hentry, hmatch, rfl⟩ := matchParent_eq_some hselection
    cases h
    obtain ⟨hmem, hpar, huuid⟩ := hindexes.sound entry hentry
    exact ⟨mem_sortBy.mp hsnap, hmem, hpar, huuid ▸ hmatch⟩
  · by_cases hmissing : (exist && required) = true
    · rw [if_pos hmissing] at h
      cases h
    · rw [if_neg hmissing] at h
      cases h

/-- No two remote snapshots that can be parents were received from one UUID. -/
def ReceivedOnce (sourceId : SourceId) (remotes : List SnapshotInfo) : Prop :=
  ∀ a ∈ remotes, ∀ b ∈ remotes, a.receivedUuid = b.receivedUuid → IsRemoteParent sourceId a →
    IsRemoteParent sourceId b → a.path = b.path

/-- Selection is ambiguous only if two remote snapshots were received from one
UUID. -/
theorem indexRemotes_of_unique (hunique : ReceivedOnce src rems) : ∃ exist index,
    Indexes src rems index ∧ indexRemotes src rems (false, []) = .ok (exist, index) := by
  rcases indexRemotes_spec rems false (Indexes.nil src) with
    ⟨a, ha, b, hb, huuid, hpath, hpar, hpar', -⟩ | hok
  · exact absurd (hunique a ha b hb huuid hpar hpar') hpath
  · exact hok

/-! ### The selection as a maximum -/

/-- The loop notices every remote snapshot of the source. -/
theorem indexRemotes_exist :
    ∀ {rest : List SnapshotInfo} {exist exist' : Bool} {index index' : RemoteByReceivedUuid},
      indexRemotes src rest (exist, index) = .ok (exist', index') →
      (exist' = true ↔ exist = true ∨ ∃ r ∈ rest, r.sourceId = src)
  | [], exist, exist', index, index', h => by
    cases h
    simp
  | remote :: rest, exist, exist', index, index', h => by
    rw [indexRemotes] at h
    by_cases hsrc : remote.sourceId = src
    · -- whatever becomes of `remote`, the loop goes on with the flag set
      have hgo : ∃ index'', indexRemotes src rest (true, index'') = .ok (exist', index') := by
        rw [if_neg (not_not.mpr hsrc)] at h
        split_ifs at h
        · exact ⟨_, h⟩
        · split at h
          · split_ifs at h
            exact ⟨_, h⟩
          · exact ⟨_, h⟩
      obtain ⟨index'', hgo⟩ := hgo
      simp [indexRemotes_exist hgo, hsrc]
    · rw [if_pos hsrc] at h
      simp [indexRemotes_exist h, hsrc]

/-- Of candidates listed newest first, the newest match is taken. -/
theorem matchParent_newest {l r} :
    ∀ {cands : List SnapshotInfo}, (cands.Pairwise fun s t => t.key ≤ s.key) →
      matchParent index cands = some (.incrementalTransfer l r) →
      ∀ s ∈ cands, ∀ entry ∈ index, uuidMatches s.uuid entry.1 = true → s.key ≤ l.key
  | first :: rest, hsorted, h, s, hs, entry, hentry, hmatch => by
    obtain ⟨hfirst, hrest⟩ := pairwise_cons.mp hsorted
    rw [matchParent] at h
    split at h
    · next hnone =>
      rcases mem_cons.mp hs with rfl | hs
      · simp [find?_eq_none.mp hnone entry hentry] at hmatch
      · exact matchParent_newest hrest h s hs entry hentry hmatch
    · cases h
      rcases mem_cons.mp hs with rfl | hs
      · exact le_rfl
      · exact hfirst s hs

/-- The two ends of an incremental transfer: a read-only local snapshot of the
source that is not at the excluded path, and a read-only remote one of the source
that was received from it. -/
def IsParentPair (sourceId : SourceId) (locals remotes : List SnapshotInfo)
    (current : Option FsPath) (l r : SnapshotInfo) : Prop :=
  (l ∈ locals ∧ l.sourceId = sourceId ∧ l.readonly = true ∧
    ∀ path, current = some path → samePathText l.path path = false) ∧
  (r ∈ remotes ∧ r.sourceId = sourceId ∧ r.readonly = true) ∧
  uuidMatches l.uuid r.receivedUuid = true

theorem isParentPair_iff {l r} : IsParentPair src locals rems cur l r ↔
      l ∈ parentCandidates src locals cur ∧ r ∈ rems ∧ IsRemoteParent src r ∧
        uuidMatches l.uuid r.receivedUuid = true := by
  rw [mem_parentCandidates, IsParentPair, IsRemoteParent, uuidMatches]
  simp only [Bool.and_eq_true, Bool.not_eq_true']
  tauto

/-- What the selection is: the newest local snapshot of a pair with the remote
snapshot received from it; without a pair a full transfer, or an error if an
incremental transfer is required and the source has remote snapshots. -/
def DeclaresParent (sourceId : SourceId) (locals remotes : List SnapshotInfo)
    (current : Option FsPath) (required : Bool) :
    Except Thrown IncrementalParentSelection → Prop
  | .ok (.incrementalTransfer l r) =>
    IsParentPair sourceId locals remotes current l r ∧
      ∀ l' r', IsParentPair sourceId locals remotes current l' r' →
        l'.key ≤ l.key ∧ (l' = l → r'.path = r.path)
  | .ok .fullTransfer =>
    (∀ l r, ¬ IsParentPair sourceId locals remotes current l r) ∧
      ¬ (required = true ∧ ∃ r ∈ remotes, r.sourceId = sourceId)
  | .error e =>
    (∀ l r, ¬ IsParentPair sourceId locals remotes current l r) ∧
      (required = true ∧ ∃ r ∈ remotes, r.sourceId = sourceId) ∧ e = missingParentError sourceId

theorem declaresParent (hunique : ReceivedOnce src rems) :
    DeclaresParent src locals rems cur required
      (selectIncrementalParent src locals rems cur required) := by
  obtain ⟨exist, index, hindexes, hok⟩ := indexRemotes_of_unique hunique
  have hexist := indexRemotes_exist hok
  rw [selectIncrementalParent_eq hok]
  have hsorted : (sortBy newestFirst (parentCandidates src locals cur)).Pairwise
      fun s t => t.key ≤ s.key :=
    sortBy_sorted (fun s => OrderDual.toDual s.key) (fun _ _ => keyLess_eq_false_iff) _
  rcases hmatch : matchParent index (sortBy newestFirst (parentCandidates src locals cur))
    with _ | selection
  · have hnone : ∀ l r, ¬ IsParentPair src locals rems cur l r := by
      intro l r hpair
      obtain ⟨hl, hr, hpar, huuid⟩ := isParentPair_iff.mp hpair
      obtain ⟨entry, hentry, hkey, -⟩ := hindexes.complete r hr hpar
      have hmis := matchParent_eq_none hmatch l (mem_sortBy.mpr hl) entry hentry
      rw [hkey, huuid] at hmis
      cases hmis
    have hmissing : (exist && required) = true ↔
        required = true ∧ ∃ r ∈ rems, r.sourceId = src := by
      simpa [and_comm] using and_congr_right fun _ => hexist
    dsimp only
    split_ifs with h
    · exact ⟨hnone, hmissing.mp h, rfl⟩
    · exact ⟨hnone, fun hreq => h (hmissing.mpr hreq)⟩
  · obtain ⟨l, hl, entry, hentry, huuid, rfl⟩ := matchParent_eq_some hmatch
    obtain ⟨hmem, hpar, hkey⟩ := hindexes.sound entry hentry
    rw [hkey] at huuid
    refine ⟨isParentPair_iff.mpr ⟨mem_sortBy.mp hl, hmem, hpar, huuid⟩, fun l' r' hpair => ?_⟩
    obtain ⟨hl', hr', hpar', huuid'⟩ := isParentPair_iff.mp hpair
    refine ⟨?_, ?_⟩
    · obtain ⟨entry', hentry', hkey', -⟩ := hindexes.complete r' hr' hpar'
      exact matchParent_newest hsorted hmatch l' (mem_sortBy.mpr hl') entry' hentry'
        (hkey' ▸ huuid')
    · rintro rfl
      have hrecv := (uuidMatches_iff.mp huuid').2.trans (uuidMatches_iff.mp huuid).2.symm
      exact hunique r' hr' entry.2 hmem hrecv hpar' hpar

/-- A candidate that a remote snapshot was received from makes the transfer
incremental. -/
theorem selectIncrementalParent_incremental {v r} (hunique : ReceivedOnce src rems)
    (hv : v ∈ parentCandidates src locals cur) (hr : r ∈ rems)
    (hpar : IsRemoteParent src r) (hmatch : uuidMatches v.uuid r.receivedUuid = true) :
    ∃ localParent remoteParent, selectIncrementalParent src locals rems cur required =
        .ok (.incrementalTransfer localParent remoteParent) := by
  have hpair := isParentPair_iff.mpr ⟨hv, hr, hpar, hmatch⟩
  have h := @declaresParent src locals rems cur required hunique
  match selectIncrementalParent src locals rems cur required, h with
  | .ok (.incrementalTransfer localParent remoteParent), _ => exact ⟨localParent, remoteParent, rfl⟩
  | .ok .fullTransfer, h => exact absurd hpair (h.1 v r)
  | .error _, h => exact absurd hpair (h.1 v r)

/-- A missing parent is not reported as an ambiguous one. -/
theorem missingParentError_ne (uuid : ReceivedSnapshotUuid) :
    missingParentError src ≠ ambiguousParentError src uuid := by
  intro h
  simp only [missingParentError, ambiguousParentError, validationError, Thrown.mk.injEq,
    true_and] at h
  have hhead := congrArg (fun text : String => text.toList.head?) h
  simp [String.toList_append] at hhead

theorem selectIncrementalParent_ne_ambiguous (hunique : ReceivedOnce src rems)
    (uuid : ReceivedSnapshotUuid) : selectIncrementalParent src locals rems cur required ≠
      .error (ambiguousParentError src uuid) := by
  intro hres
  have h : DeclaresParent src locals rems cur required _ := declaresParent hunique
  rw [hres] at h
  exact missingParentError_ne uuid h.2.2.symm

/-- What a selection says: the local snapshot, and where the remote one is. -/
def IncrementalParentSelection.ends : IncrementalParentSelection → Option (SnapshotInfo × FsPath)
  | .fullTransfer => none
  | .incrementalTransfer l r => some (l, r.path)

/-- There is one selection as described; of remote entries with one path only that
path is determined. -/
theorem DeclaresParent.unique (hpaths : (locals.map (·.path)).Nodup)
    {a b} (ha : DeclaresParent src locals rems cur required a)
    (hb : DeclaresParent src locals rems cur required b) : a.map (·.ends) = b.map (·.ends) ∧
    ((∀ r ∈ rems, ∀ r' ∈ rems, r.path = r'.path → r = r') → a = b) := by
  match a, b, ha, hb with
  | .ok (.incrementalTransfer l r), .ok (.incrementalTransfer l' r'), ha, hb =>
    have hkey : l.key = l'.key := le_antisymm (hb.2 l r ha.1).1 (ha.2 l' r' hb.1).1
    obtain rfl : l = l' := inj_on_of_nodup_map hpaths ha.1.1.1 hb.1.1.1
      (SnapshotInfo.path_eq_of_key_eq hkey)
    have hpath : r.path = r'.path := (hb.2 l r ha.1).2 rfl
    refine ⟨by simp [Except.map, IncrementalParentSelection.ends, hpath], fun honce => ?_⟩
    rw [honce r ha.1.2.1.1 r' hb.1.2.1.1 hpath]
  | .ok .fullTransfer, .ok .fullTransfer, _, _ => exact ⟨rfl, fun _ => rfl⟩
  | .error e, .error e', ha, hb =>
    obtain rfl : e = e' := ha.2.2.trans hb.2.2.symm
    exact ⟨rfl, fun _ => rfl⟩
  | .ok (.incrementalTransfer l r), .ok .fullTransfer, ha, hb => exact absurd ha.1 (hb.1 l r)
  | .ok (.incrementalTransfer l r), .error _, ha, hb => exact absurd ha.1 (hb.1 l r)
  | .ok .fullTransfer, .ok (.incrementalTransfer l r), ha, hb => exact absurd hb.1 (ha.1 l r)
  | .error _, .ok (.incrementalTransfer l r), ha, hb => exact absurd hb.1 (ha.1 l r)
  | .ok .fullTransfer, .error _, ha, hb => exact absurd hb.2.1 ha.2
  | .error _, .ok .fullTransfer, ha, hb => exact absurd ha.2.1 hb.2

/-- The description reads inventories as sets. -/
theorem DeclaresParent.perm {locals' remotes'} (hl : locals'.Perm locals)
    (hr : remotes'.Perm rems) {res} (h : DeclaresParent src locals' remotes' cur required res) :
    DeclaresParent src locals rems cur required res := by
  have hpair : IsParentPair src locals' remotes' cur =
      IsParentPair src locals rems cur := by
    funext l r
    rw [IsParentPair, IsParentPair, hl.mem_iff, hr.mem_iff]
  match res, h with
  | .ok (.incrementalTransfer _ _), h => rwa [DeclaresParent, hpair] at h
  | .ok .fullTransfer, h => simpa only [DeclaresParent, hpair, hr.mem_iff] using h
  | .error _, h => simpa only [DeclaresParent, hpair, hr.mem_iff] using h

/-- The selection is the described one, for every order of the inventories. -/
theorem selectIncrementalParent_declares {sourceId : SourceId} {locals remotes : List SnapshotInfo}
    {current : Option FsPath} {required : Bool} (hpaths : (locals.map (·.path)).Nodup)
    (hunique : ReceivedOnce sourceId remotes) :
    DeclaresParent sourceId locals remotes current required
      (selectIncrementalParent sourceId locals remotes current required) ∧
    ∀ locals' remotes' : List SnapshotInfo, locals'.Perm locals → remotes'.Perm remotes →
      (selectIncrementalParent sourceId locals' remotes' current required).map (·.ends) =
        (selectIncrementalParent sourceId locals remotes current required).map (·.ends) ∧
      ((∀ r ∈ remotes, ∀ r' ∈ remotes, r.path = r'.path → r = r') →
        selectIncrementalParent sourceId locals' remotes' current required =
          selectIncrementalParent sourceId locals remotes current required) := by
  refine ⟨declaresParent hunique, fun locals' remotes' hl hr => ?_⟩
  have hunique' : ReceivedOnce sourceId remotes' :=
    fun a ha b hb => hunique a (hr.mem_iff.mp ha) b (hr.mem_iff.mp hb)
  exact DeclaresParent.unique hpaths ((declaresParent hunique').perm hl hr) (declaresParent hunique)

end selection

/-- Of two pairs the newer one is selected, in both orders of the inventories. -/
theorem selectIncrementalParent_declares_pair :
    let locals := [Sample.snapshotAt .local "/s/a" 1, Sample.snapshotAt .local "/s/b" 2]
    let remotes := [Sample.snapshotAt .remote "/r/b" 2, Sample.snapshotAt .remote "/r/a" 1]
    (locals.map (·.path)).Nodup ∧ ReceivedOnce ⟨"a", by decide⟩ remotes ∧
      DeclaresParent ⟨"a", by decide⟩ locals remotes none true (.ok (.incrementalTransfer
        (Sample.snapshotAt .local "/s/b" 2) (Sample.snapshotAt .remote "/r/b" 2))) ∧
      (selectIncrementalParent ⟨"a", by decide⟩ locals.reverse remotes.reverse none true).map
          (·.ends) =
        (selectIncrementalParent ⟨"a", by decide⟩ locals remotes none true).map (·.ends) := by
  intro locals remotes
  have honce : ReceivedOnce ⟨"a", by decide⟩ remotes := by
    intro a ha b hb huuid _ _
    rcases mem_pair.mp ha with rfl | rfl <;> rcases mem_pair.mp hb with rfl | rfl <;>
      first | rfl | exact absurd huuid (by decide)
  have hdeclares := @selectIncrementalParent_declares ⟨"a", by decide⟩ locals remotes none true
    (by decide) honce
  exact ⟨by decide, honce, hdeclares.1, (hdeclares.2 _ _ (reverse_perm _) (reverse_perm _)).1⟩

end BtrfsBackup
