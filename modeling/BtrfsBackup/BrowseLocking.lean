/-
The locks of targets with browse sessions.

A backup run that has the lock of a target must not find its mount unit stopped, and
must not share the target with a browse session.  The unit is stopped under the
exclusive lock, except for stale records of an earlier daemon: those are cleaned up
without any lock.  A lease has its lock from the first session on; it loses it when
the last session is closed, the lock is to be made exclusive, and a run gets it first.
The lease stays then, and is used by later sessions.

* `stop_fair_iff` — when a unit is stopped under the lock, with no other session;
* `target_locked_iff` — when all leases have their locks.
-/
import BtrfsBackup.BrowseAccounting

open Interaction Interaction.Prog AdvisoryLock

namespace BtrfsBackup

namespace Browse

section steps

variable {pool : Pool LockOwner BrowseCall BrowseAnswer BrowseSystem ManagerFailure Unit}
  {Q : View → Prop} {E : ManagerFailure → View → Prop}

/-- Runs do not change the view. -/
theorem step_of_guaranteed {who : LockOwner} {s t : BrowseSystem} (h : guaranteed who s t) :
    Step s.view t.view := by
  cases who with
  | daemon => exact h
  | run index =>
    have hsame : t.view = s.view := h
    rw [hsame]
    exact Step.refl _

theorem Followed.step (h : Followed Q E pool) (who : LockOwner) (i : BrowseAnswer) :
    Step pool.state.view (pool.step who i).state.view ∧ Followed Q E (pool.step who i) := by
  have hpermits : (pool.thread who).Permits (fun _ _ _ => True) i pool.state := by
    cases pool.thread who <;> trivial
  obtain ⟨hstep, hnext⟩ := Pool.guarded_step compatible_browse h hpermits
  exact ⟨step_of_guaranteed hstep, hnext⟩

/-- What every step keeps, a run keeps. -/
theorem Followed.keeps (h : Followed Q E pool) {I : View → Prop}
    (hI : ∀ V W, Step V W → I V → I W) (schedule : List (LockOwner × BrowseAnswer))
    (hstart : I pool.state.view) : I (Pool.run schedule pool).state.view :=
  Pool.invariant_run compatible_browse
    (fun _ _ _ hstep => hI _ _ (step_of_guaranteed hstep)) h
    (Pool.permitted_of_forall (fun _ _ _ => trivial) _ _) hstart

/-- The states of a run have their locks exactly if no lock is lost in it. -/
theorem Followed.locked_iff (h : Followed Q E pool) (schedule : List (LockOwner × BrowseAnswer))
    (hclean : pool.state.view.Clean) (hlocked : pool.state.view.Locked) :
    (∀ n, (Pool.run (schedule.take n) pool).state.view.Locked) ↔
      (Pool.run schedule pool).state.view.Clean := by
  induction schedule generalizing pool with
  | nil =>
    refine iff_of_true (fun n => ?_) hclean
    rw [List.take_nil]
    exact hlocked
  | cons x schedule ih =>
    obtain ⟨hstep, hnext⟩ := h.step x.1 x.2
    have hsplit : (∀ n, (Pool.run ((x :: schedule).take n) pool).state.view.Locked) ↔
        ∀ n, (Pool.run (schedule.take n) (pool.step x.1 x.2)).state.view.Locked := by
      constructor
      · intro hall n
        exact hall (n + 1)
      · intro hall n
        cases n with
        | zero => exact hlocked
        | succ n => exact hall n
    rw [hsplit]
    by_cases hstill : (pool.step x.1 x.2).state.view.Clean
    · exact ih hnext hstill (hstep.locked (fun _ => hlocked) hstill)
    · -- the lock that was lost in this step is missed at once, and stays in the log
      refine iff_of_false (fun hall => ?_) fun hend => ?_
      · refine hstill fun call hcall => ?_
        by_contra hlost
        rcases hstep.lost call hcall (by simpa using hlost) with hold | hmissing
        · exact hlost (hclean call hold)
        · exact hmissing (hall 0)
      · have hsuf : (pool.step x.1 x.2).state.view.backend.failures <:+
            (Pool.run schedule (pool.step x.1 x.2)).state.view.backend.failures :=
          hnext.keeps (I := fun V =>
            (pool.step x.1 x.2).state.view.backend.failures <:+ V.backend.failures)
            (fun _ _ hVW hV => hV.trans hVW.failures) schedule (List.suffix_refl _)
        exact hstill fun call hcall => hend call (hsuf.mem hcall)

end steps

section locking

variable {sessionRoot : FsPath} {requests : List Request} {leases : Nat → List String}
  {system : BrowseSystem}

/-- A unit is stopped under the exclusive lock of its target, with no other session on
it, exactly if it is not stopped for a stale record. -/
theorem stop_fair_iff (hfresh : Fresh system.view) (schedule : List (LockOwner × BrowseAnswer)) :
    ∀ stop ∈ (Pool.run schedule (browsePool sessionRoot requests leases
        system)).state.backend.stops,
      (stop.mode = some .exclusive ∧ stop.others = []) ↔ stop.site ≠ .stale := by
  have hfollowed : Followed Balanced (fun _ => Balanced)
      (browsePool sessionRoot requests leases system) :=
    followed_browsePool (books_serveAll requests _ hfresh.balanced)
  refine hfollowed.keeps (I := fun V => ∀ stop ∈ V.backend.stops, stop.Fair) ?_ schedule ?_
  · intro V W hstep hV stop hstop
    exact (hstep.stops stop hstop).elim (hV stop) id
  · have hstops : system.view.backend.stops = [] := hfresh.stops
    intro stop hstop
    exact absurd (hstops ▸ hstop) List.not_mem_nil

/-- Apart from the middle of a conversion, the daemon has the lock of every target with
a lease, and so no run has it. -/
def Guarding (s : BrowseSystem) : Prop :=
  ∀ key, s.backend.targets key ≠ none → s.backend.converting ≠ some key →
    s.mode? key ≠ none ∧ ∀ index, (s.locks key).mode? (.run index) ≠ some .exclusive

theorem guarding_iff {s : BrowseSystem} : Guarding s ↔ s.view.Locked := by
  constructor
  · intro h key hlease hset
    exact (h key hlease hset).1
  · intro h key hlease hset
    have hmode : s.mode? key ≠ none := h key hlease hset
    exact ⟨hmode, fun index hrun =>
      hmode (LockFile.mode?_eq_none_of_exclusive hrun LockOwner.noConfusion)⟩

/-- All states of a run are guarded exactly if no lease has lost its lock in it. -/
theorem target_locked_iff (hfresh : Fresh system.view)
    (schedule : List (LockOwner × BrowseAnswer)) :
    (∀ n, Guarding (Pool.run (schedule.take n) (browsePool sessionRoot requests leases
        system)).state) ↔
      ∀ call ∈ (Pool.run schedule (browsePool sessionRoot requests leases
        system)).state.backend.failures, call.losesLock = false := by
  have hfollowed : Followed Balanced (fun _ => Balanced)
      (browsePool sessionRoot requests leases system) :=
    followed_browsePool (books_serveAll requests _ hfresh.balanced)
  have hclean : system.view.Clean := by
    rw [View.Clean, hfresh.failures]
    simp
  have hlocked : system.view.Locked := by
    intro key hlease
    exact absurd (congrFun hfresh.targets key) hlease
  refine Iff.trans (forall_congr' fun n => guarding_iff) ?_
  exact hfollowed.locked_iff schedule hclean hlocked

end locking

namespace Sample

open BtrfsBackup.Sample (documentProfile)

/-- What an earlier daemon has left of a session: the target, mounted by the backend. -/
def leftover : BrowseSessionMountRecord where
  targetKey := target
  targetUnit := targetMountUnitName documentProfile.target.mountPoint.value
  directory := sessionRoot / "1000" / session.value
  view := sessionRoot / "1000" / session.value / "repository"
  marker := sessionRoot / ".state" / (session.value ++ ".json")
  callerUid := 1000
  viewMounted := false
  targetMountedByBackend := true
  targetReleased := false

/-- A daemon that has just started and finds a marker. -/
def restarted : BrowseSystem := started.onBackend (Backend.setMarker session (some leftover))

/-- One run, which takes the lock of the target. -/
def oneRun : Nat → List String
  | 0 => [target]
  | _ => []

/-- The run takes the lock. -/
def running : List (LockOwner × BrowseAnswer) := List.replicate 3 (.run 0, success)

/-- A run takes the lock; then the daemon cleans up. -/
def cleaned : BrowseSystem :=
  (Pool.run (running ++ daemon (List.replicate 8 { success with ids := [session] }))
    (browsePool sessionRoot [.cleanupStale] oneRun restarted)).state

/-- The mount unit is stopped while a run has the lock of its target. -/
theorem stale_stop_under_run :
    (cleaned.backend.stops.map fun stop => (stop.site, stop.key, stop.mode)) =
        [(.stale, target, none)] ∧
      (cleaned.locks target).mode? (.run 0) = some .exclusive := by
  decide +kernel

/-- The session is opened; the backend mounts the target for it. -/
def mounting : List BrowseAnswer :=
  List.replicate 6 success ++ [{ success with mounts := [] }] ++ List.replicate 9 success ++
    [{ success with ok := false }] ++ List.replicate 6 success

/-- A daemon that opens a session and closes it. -/
def visiting : Pool LockOwner BrowseCall BrowseAnswer BrowseSystem ManagerFailure Unit :=
  browsePool sessionRoot [opening, .closeSession session] oneRun started

/-- The session is opened and closed, and the unit stopped. -/
def visited : List (LockOwner × BrowseAnswer) := daemon (mounting ++ List.replicate 14 success)

theorem visited_stop : (Pool.run visited visiting).state.backend.stops.length = 1 ∧
      ∀ stop ∈ (Pool.run visited visiting).state.backend.stops,
        (stop.mode = some .exclusive ∧ stop.others = []) ↔ stop.site ≠ .stale :=
  ⟨by decide +kernel, stop_fair_iff fresh_started visited⟩

/-- No lock is lost, and the target is guarded all the time. -/
theorem visited_guarding :
    (∀ call ∈ (Pool.run visited visiting).state.backend.failures, call.losesLock = false) ∧
      ∀ n, Guarding (Pool.run (visited.take n) visiting).state := by
  have hkept : ∀ call ∈ (Pool.run visited visiting).state.backend.failures,
      call.losesLock = false := by decide +kernel
  exact ⟨hkept, (target_locked_iff fresh_started visited).mpr hkept⟩

def another : BrowseSessionId := ⟨"browse-2", by decide⟩

/-- The last session is closed, the lock is to be made exclusive, and a run is faster.
Then another session is opened. -/
def overtaken : BrowseSystem :=
  (Pool.run (daemon (mounting ++ List.replicate 7 success) ++ running ++
      daemon (List.replicate 9 success ++ [{ success with ok := false }] ++
        List.replicate 6 success))
    (browsePool sessionRoot
      [opening, .closeSession session, .openSession documentProfile.id another 1000] oneRun
      started)).state

/-- The daemon has opened a session on a target whose lock a run has. -/
theorem session_beside_run : overtaken.backend.converting = none ∧
      overtaken.backend.usersOf target = [another, session] ∧
      (overtaken.backend.targets target).isSome = true ∧ overtaken.mode? target = none ∧
      (overtaken.locks target).mode? (.run 0) = some .exclusive := by
  decide +kernel

end Sample

end Browse

end BtrfsBackup
