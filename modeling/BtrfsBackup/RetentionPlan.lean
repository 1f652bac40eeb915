/-
Count-based retention (`backup/model/RetentionPlan`).

A retention plan keeps the newest `keepCount` snapshots of a source and deletes
the older ones; a count of zero keeps all of them.

* `planCountRetention_deletes` — a path is deleted exactly when a snapshot of the
  source is at it that is not among the `keepCount` newest;
* `planCountRetention_spec` — the plan splits the snapshots of the source into
  newer and older ones, in one way only.
-/
import BtrfsBackup.Lib.Ranking
import BtrfsBackup.Snapshot

namespace BtrfsBackup

open List

structure RetentionPlan where
  sourceId : SourceId
  keepCount : Nat
  keep : List SnapshotInfo
  deleteSnapshots : List SnapshotInfo
  deriving DecidableEq

/-- `oldest_first`. -/
def oldestFirst : SnapshotInfo → SnapshotInfo → Bool := keyLess

/-- `plan_count_retention`. -/
def planCountRetention (sourceId : SourceId) (snapshots : List SnapshotInfo) (keepCount : Nat) :
    RetentionPlan :=
  let matching := sortBy oldestFirst (snapshots.filter fun s => decide (s.sourceId = sourceId))
  if keepCount = 0 ∨ matching.length ≤ keepCount then ⟨sourceId, keepCount, matching, []⟩
  else
    let deleteCount := matching.length - keepCount
    ⟨sourceId, keepCount, matching.drop deleteCount, matching.take deleteCount⟩

/-! ### What is deleted -/

section deletes

variable {src : SourceId} {snaps : List SnapshotInfo} {keepCount : Nat}

def ofSource (sourceId : SourceId) (snapshots : List SnapshotInfo) : List SnapshotInfo :=
  snapshots.filter fun s => decide (s.sourceId = sourceId)

/-- The number of snapshots that do not sort before `snapshot`: itself and the
newer ones. -/
def notOlder (snapshots : List SnapshotInfo) (snapshot : SnapshotInfo) : Nat :=
  snapshots.countP fun s => !oldestFirst s snapshot

theorem rank_add_notOlder (snaps : List SnapshotInfo) (snap : SnapshotInfo) :
    Ranking.rank SnapshotInfo.key snaps snap + notOlder snaps snap = snaps.length := by
  rw [← Ranking.rank_add SnapshotInfo.key snaps snap, notOlder]
  congr 1
  refine countP_congr fun s _ => ?_
  rw [Bool.not_eq_true', oldestFirst, keyLess_eq_false_iff, decide_eq_true_eq]

theorem planCountRetention_eq : planCountRetention src snaps keepCount =
      let matching := sortBy oldestFirst (ofSource src snaps)
      let count := (ofSource src snaps).length
      if keepCount = 0 ∨ count ≤ keepCount then ⟨src, keepCount, matching, []⟩
      else ⟨src, keepCount, matching.drop (count - keepCount),
        matching.take (count - keepCount)⟩ := by
  have hlen : (sortBy oldestFirst (ofSource src snaps)).length =
      (ofSource src snaps).length := length_insertionSort _ _
  rw [planCountRetention, ← ofSource]
  simp only [hlen]

theorem planCountRetention_deleteSnapshots :
    (planCountRetention src snaps keepCount).deleteSnapshots =
      (sortBy oldestFirst (ofSource src snaps)).take
        (if keepCount = 0 then 0 else (ofSource src snaps).length - keepCount) := by
  rw [planCountRetention_eq]
  by_cases h0 : keepCount = 0
  · simp [h0]
  by_cases hle : (ofSource src snaps).length ≤ keepCount
  · simp [hle]
  · simp [h0, hle]

/-- A path is deleted exactly when a snapshot at it is not among the newest ones
to be kept. -/
theorem planCountRetention_deletes {path : FsPath} :
    (∃ s ∈ (planCountRetention src snaps keepCount).deleteSnapshots, s.path = path) ↔
      keepCount ≠ 0 ∧ ∃ s ∈ ofSource src snaps, s.path = path ∧
        keepCount < notOlder (ofSource src snaps) s := by
  rw [planCountRetention_deleteSnapshots]
  by_cases h0 : keepCount = 0
  · simp [h0]
  rw [if_neg h0, show oldestFirst = keyLess from rfl,
    Ranking.exists_mem_take_iff (sortBy_keyLess_sorted _)
    fun s t hkey hs => (SnapshotInfo.path_eq_of_key_eq hkey).symm.trans hs]
  simp only [ne_eq, h0, not_false_eq_true, true_and, mem_sortBy]
  refine exists_congr fun s => and_congr_right fun _ => and_congr_right fun _ => ?_
  -- in a list of `n` snapshots, rank and the number of those not older add up to `n`
  have hperm : (sortBy keyLess (ofSource src snaps)).Perm (ofSource src snaps) :=
    perm_insertionSort _ _
  have hsum := rank_add_notOlder (ofSource src snaps) s
  rw [Ranking.rank, hperm.countP_eq, ← Ranking.rank]
  omega

/-! ### The split -/

/-- What a plan deletes and keeps is, in this order, the sorted list. -/
theorem planCountRetention_split : (planCountRetention src snaps keepCount).deleteSnapshots ++
        (planCountRetention src snaps keepCount).keep =
      sortBy oldestFirst (ofSource src snaps) ∧
    (planCountRetention src snaps keepCount).keep.length =
      if keepCount = 0 then (ofSource src snaps).length
      else min keepCount (ofSource src snaps).length := by
  have hlen : (sortBy oldestFirst (ofSource src snaps)).length =
      (ofSource src snaps).length := length_insertionSort _ _
  simp only [planCountRetention_eq]
  by_cases hall : keepCount = 0 ∨ (ofSource src snaps).length ≤ keepCount
  · rw [if_pos hall]
    refine ⟨nil_append _, hlen.trans ?_⟩
    split_ifs
    · rfl
    · omega
  · rw [if_neg hall]
    refine ⟨take_append_drop _ _, ?_⟩
    rw [if_neg fun h => hall (.inl h), length_drop, hlen]
    omega

/-- Snapshots at different paths are sorted in one way only. -/
theorem sortBy_oldestFirst_eq_of_perm {l l' : List SnapshotInfo} (hpaths : (l.map (·.path)).Nodup)
    (h : l.Perm l') : sortBy oldestFirst l = sortBy oldestFirst l' := by
  have hl : (sortBy oldestFirst l).Perm l := perm_insertionSort _ _
  have hl' : (sortBy oldestFirst l').Perm l' := perm_insertionSort _ _
  refine List.Perm.eq_of_pairwise (fun s t hs ht hst hts => ?_) (sortBy_keyLess_sorted l)
    (sortBy_keyLess_sorted l') (hl.trans (h.trans hl'.symm))
  exact inj_on_of_nodup_map hpaths (hl.mem_iff.mp hs) (h.mem_iff.mpr (hl'.mem_iff.mp ht))
    (SnapshotInfo.path_eq_of_key_eq (le_antisymm hst hts))

/-- Of snapshots at different paths, the newest `keepCount` of the source are kept
and the others deleted, however they are listed. -/
theorem planCountRetention_spec {sourceId : SourceId} {snapshots : List SnapshotInfo}
    {keepCount : Nat} (hpaths : (snapshots.map (·.path)).Nodup) :
    ((planCountRetention sourceId snapshots keepCount).keep ++
      (planCountRetention sourceId snapshots keepCount).deleteSnapshots).Perm
        (ofSource sourceId snapshots) ∧
    (planCountRetention sourceId snapshots keepCount).keep.length =
      (if keepCount = 0 then (ofSource sourceId snapshots).length
      else min keepCount (ofSource sourceId snapshots).length) ∧
    (∀ deleted ∈ (planCountRetention sourceId snapshots keepCount).deleteSnapshots,
      ∀ kept ∈ (planCountRetention sourceId snapshots keepCount).keep, deleted.key < kept.key) ∧
    ∀ listed : List SnapshotInfo, listed.Perm snapshots →
      planCountRetention sourceId listed keepCount =
        planCountRetention sourceId snapshots keepCount := by
  obtain ⟨hsplit, hlength⟩ := planCountRetention_split
  have hperm :
    (sortBy oldestFirst (ofSource sourceId snapshots)).Perm (ofSource sourceId snapshots) :=
    perm_insertionSort _ _
  have hsub : ((ofSource sourceId snapshots).map (·.path)).Nodup :=
    hpaths.sublist (filter_sublist.map _)
  refine ⟨?_, hlength, ?_, ?_⟩
  · exact perm_append_comm.trans (hsplit ▸ hperm)
  · -- in the sorted list, keys of snapshots at different paths grow strictly
    have hstrict : (sortBy oldestFirst (ofSource sourceId snapshots)).Pairwise
        fun s t => s.key < t.key := by
      have hdistinct : (sortBy oldestFirst (ofSource sourceId snapshots)).Pairwise
          fun s t => s.path ≠ t.path :=
        pairwise_map.mp ((hperm.map SnapshotInfo.path).nodup_iff.mpr hsub)
      exact hdistinct.imp₂ (fun s t hne hle => lt_of_le_of_ne hle fun heq =>
        hne (SnapshotInfo.path_eq_of_key_eq heq)) (sortBy_keyLess_sorted _)
    rw [← hsplit] at hstrict
    exact (pairwise_append.mp hstrict).2.2
  · intro listed hlisted
    have hsource : (ofSource sourceId listed).Perm (ofSource sourceId snapshots) := hlisted.filter _
    rw [planCountRetention_eq, planCountRetention_eq,
      sortBy_oldestFirst_eq_of_perm hsub hsource.symm, hsource.length_eq]

end deletes

theorem planCountRetention_spec_two :
    ([Sample.snapshotAt .local "/s/x" 2, Sample.snapshotAt .local "/s/y" 1].map (·.path)).Nodup ∧
      planCountRetention ⟨"a", by decide⟩
        [Sample.snapshotAt .local "/s/y" 1, Sample.snapshotAt .local "/s/x" 2] 1 =
      planCountRetention ⟨"a", by decide⟩
        [Sample.snapshotAt .local "/s/x" 2, Sample.snapshotAt .local "/s/y" 1] 1 :=
  ⟨by decide, (planCountRetention_spec (by decide)).2.2.2 _ (.swap _ _ _)⟩

end BtrfsBackup
