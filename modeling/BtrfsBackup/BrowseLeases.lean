/-
The leases of targets: acquiring and releasing a target.

A lease counts its users and has the lock of the target.  The last user releases the
lock, and stops the unit if the backend has started it, under the exclusive lock.

* `Orderly` — the leases and the locks between the calls of the service;
* `acts_releaseTarget` — one user less, or a call that failed;
* `acts_acquireTarget` — one user more, or nothing.
-/
import BtrfsBackup.BrowseRules

open Interaction Interaction.Prog AdvisoryLock

namespace BtrfsBackup

namespace Browse

/-! ### Leases -/

/-- The users of a target, as its lease counts them. -/
def Backend.users (backend : Backend) (key : String) : Nat :=
  match backend.targets key with
  | some lease => lease.users
  | none => 0

/-- The calls that release a target. -/
def Action.releases (key : String) : Action → Bool
  | .lock target _ => target == key
  | .stopUnit target _ => target == key
  | _ => false

@[simp] theorem releases_lock {key : String} {mode : Mode} :
    (Action.lock key mode).releases key = true := beq_self_eq_true key

@[simp] theorem releases_stopUnit {key unit : String} :
    (Action.stopUnit key unit).releases key = true := beq_self_eq_true key

/-- The leases and the locks, between the calls of the service. -/
structure Orderly (V : View) : Prop where
  positive : ∀ key lease, V.backend.targets key = some lease → 1 ≤ lease.users
  acquired : ∀ key lease, V.backend.targets key = some lease → lease.lock.acquired = true
  exclusive : ∀ key lease, V.backend.targets key = some lease → lease.lock.shared = false →
    V.modes key = some .exclusive
  unclaimed : ∀ key, V.backend.targets key = none → V.modes key = none
  settled : V.backend.converting = none

/-- Sessions are not touched. -/
def SameSessions (V W : View) : Prop := W.backend.sessions = V.backend.sessions

section targets

variable {V W : View} {key other : String} {lease : TargetLease}

theorem users_of_some (h : V.backend.targets key = some lease) :
    V.backend.users key = lease.users := by
  rw [Backend.users, h]

theorem users_of_none (h : V.backend.targets key = none) : V.backend.users key = 0 := by
  rw [Backend.users, h]

theorem targets_setTarget_of_ne {lease} (h : other ≠ key) :
    (V.setTarget key lease).backend.targets other = V.backend.targets other :=
  Function.update_of_ne h _ _

@[simp] theorem targets_setTarget_self {lease} :
    (V.setTarget key lease).backend.targets key = lease := Function.update_self _ _ _

theorem users_setTarget_of_ne {lease} (h : other ≠ key) :
    (V.setTarget key lease).backend.users other = V.backend.users other := by
  rw [Backend.users, targets_setTarget_of_ne h, Backend.users]

theorem Orderly.of_leases
    (hlease : ∀ key lease, V.backend.targets key = some lease → 1 ≤ lease.users ∧
      lease.lock.acquired = true ∧ (lease.lock.shared = false → V.modes key = some .exclusive))
    (hunclaimed : ∀ key, V.backend.targets key = none → V.modes key = none)
    (hset : V.backend.converting = none) : Orderly V :=
  ⟨fun _ _ h => (hlease _ _ h).1, fun _ _ h => (hlease _ _ h).2.1, fun _ _ h => (hlease _ _ h).2.2,
    hunclaimed, hset⟩

theorem Orderly.of_some (h : Orderly V) (hlease : V.backend.targets key = some lease) :
    1 ≤ lease.users ∧ lease.lock.acquired = true ∧
      (lease.lock.shared = false → V.modes key = some .exclusive) :=
  ⟨h.positive _ _ hlease, h.acquired _ _ hlease, h.exclusive _ _ hlease⟩

/-- A lease that stays and keeps its lock. -/
theorem Orderly.setTarget (h : Orderly V) (hpositive : 1 ≤ lease.users)
    (hacq : lease.lock.acquired = true)
    (hexclusive : lease.lock.shared = false → V.modes key = some .exclusive) :
    Orderly (V.setTarget key (some lease)) := by
  refine .of_leases ?_ ?_ h.settled
  · intro other lease' hlease
    by_cases hne : other = key
    · subst hne
      obtain rfl : lease = lease' := by simpa using hlease
      exact ⟨hpositive, hacq, hexclusive⟩
    · exact h.of_some (targets_setTarget_of_ne hne ▸ hlease)
  · intro other hnone
    by_cases hne : other = key
    · subst hne
      simp at hnone
    · exact h.unclaimed other (targets_setTarget_of_ne hne ▸ hnone)

/-- A lease that is taken out, with its lock. -/
theorem Orderly.clearTarget (h : Orderly V) :
    Orderly ((V.setTarget key none).setMode key none) := by
  refine .of_leases ?_ ?_ h.settled
  · intro other lease' hlease
    have hne : other ≠ key := by
      rintro rfl
      cases targets_setTarget_self.symm.trans hlease
    rw [modes_setMode_of_ne hne]
    exact h.of_some ((targets_setTarget_of_ne hne).symm.trans hlease)
  · intro other hnone
    by_cases hne : other = key
    · subst hne
      exact modes_setMode_self
    · rw [modes_setMode_of_ne hne]
      exact h.unclaimed other (targets_setTarget_of_ne hne ▸ hnone)

theorem Orderly.of_sameLocks (h : Orderly V) (hsame : SameLocks V W) : Orderly W := by
  obtain ⟨htargets, hconv, hmodes⟩ := hsame
  refine ⟨?_, ?_, ?_, ?_, hconv.trans h.settled⟩
  · exact htargets ▸ h.positive
  · exact htargets ▸ h.acquired
  · exact htargets ▸ hmodes ▸ h.exclusive
  · exact htargets ▸ hmodes ▸ h.unclaimed

/-- The lock of a lease that is not known to be exclusive. -/
theorem Orderly.setMode (h : Orderly V) (hlease : V.backend.targets key = some lease)
    (hshared : lease.lock.shared = true) (mode : Option Mode) : Orderly (V.setMode key mode) where
  positive := h.positive
  acquired := h.acquired
  exclusive := by
    intro other lease' hlease' hfalse
    have hne : other ≠ key := by
      rintro rfl
      obtain rfl := Option.mem_unique hlease hlease'
      rw [hshared] at hfalse
      cases hfalse
    rw [modes_setMode_of_ne hne]
    exact h.exclusive other lease' hlease' hfalse
  unclaimed := by
    intro other hnone
    have hne : other ≠ key := by
      rintro rfl
      cases hlease.symm.trans hnone
    rw [modes_setMode_of_ne hne]
    exact h.unclaimed other hnone
  settled := h.settled

theorem step_setTarget_some (h : V.backend.targets key = none → V.modes key ≠ none) :
    Step V (V.setTarget key (some lease)) := by
  refine .of_locked rfl (fun _ => .inl) fun hlocked other hother hconv => ?_
  by_cases hne : other = key
  · subst hne
    by_cases hnone : V.backend.targets other = none
    · exact h hnone
    · exact hlocked other hnone hconv
  · rw [targets_setTarget_of_ne hne] at hother
    exact hlocked other hother hconv

theorem step_setTarget_none : Step V (V.setTarget key none) := by
  refine .of_locked rfl (fun _ => .inl) fun hlocked other hother hconv => ?_
  have hne : other ≠ key := by
    rintro rfl
    exact hother targets_setTarget_self
  rw [targets_setTarget_of_ne hne] at hother
  exact hlocked other hother hconv

theorem step_unlock (h : V.backend.targets key = none) : Step V (V.setMode key none) := by
  refine .of_locked rfl (fun _ => .inl) fun hlocked other hother hconv => ?_
  have hne : other ≠ key := by
    rintro rfl
    exact hother h
  rw [modes_setMode_of_ne hne]
  exact hlocked other hother hconv

end targets

/-! ### Releasing a target -/

section release

variable {V W : View} {site : Site} {key : String} {lease : TargetLease}

/-- The places that release the targets of sessions. -/
def Site.Releasing (site : Site) : Prop := site = .duplicate ∨ site = .rollback ∨ site = .closing

theorem Site.Releasing.ne_running (h : site.Releasing) : site ≠ .running := by
  rcases h with rfl | rfl | rfl <;> decide

theorem Site.Releasing.ne_stale (h : site.Releasing) : site ≠ .stale := by
  rcases h with rfl | rfl | rfl <;> decide

theorem Site.Releasing.losesLock (h : site.Releasing) :
    BrowseCall.losesLock ⟨site, .lock key .exclusive⟩ = true := by
  rcases h with rfl | rfl | rfl <;> rfl

/-- A release that has not happened, because of a call that failed. -/
structure NotReleased (site : Site) (key : String) (V W : View) : Prop where
  orderly : Orderly W
  sessions : SameSessions V W
  users : W.backend.users = V.backend.users
  failure : ∃ call, W.backend.failures = call :: V.backend.failures ∧ call.site = site ∧
    call.action.releases key = true

/-- A target that is ready to be released. -/
structure Ready (V W : View) : Prop where
  orderly : Orderly W
  sessions : SameSessions V W
  users : W.backend.users = V.backend.users
  failures : W.backend.failures = V.backend.failures

theorem Ready.refl (h : Orderly V) : Ready V V := ⟨h, rfl, rfl, rfl⟩

theorem users_setTarget_same {lease'} (h : V.backend.targets key = some lease)
    (husers : lease'.users = lease.users) :
    (V.setTarget key (some lease')).backend.users = V.backend.users := by
  funext other
  by_cases hne : other = key
  · subst hne
    rw [users_of_some targets_setTarget_self, users_of_some h, husers]
  · exact users_setTarget_of_ne hne

theorem users_fail {call} : (V.fail call).backend.users = V.backend.users := by
  funext key
  rw [Backend.users, sameLocks_fail.targets, Backend.users]

/-- A call of the release that fails. -/
theorem Ready.fail (h : Ready V W) {act : Action} (hsite : site ≠ .running)
    (hact : act.releases key = true) : NotReleased site key V (W.fail ⟨site, act⟩) where
  orderly := h.orderly.of_sameLocks sameLocks_fail
  sessions := sessions_fail.trans h.sessions
  users := users_fail.trans h.users
  failure := ⟨⟨site, act⟩, by rw [failures_fail hsite, h.failures], rfl, hact⟩

theorem acts_tryUpgradeToExclusive (hsite : site.Releasing) (h : Orderly V)
    (hlease : V.backend.targets key = some lease) : Acts (tryUpgradeToExclusive site key lease) V
      (fun granted W => (granted = true → Ready V W ∧ W.modes key = some .exclusive) ∧
        (granted = false → NotReleased site key V W))
      fun _ => NotReleased site key V := by
  have hacq := h.acquired key lease hlease
  rw [tryUpgradeToExclusive, hacq]
  rcases hshared : lease.lock.shared with _ | _
  · exact acts_ret ⟨fun _ => ⟨Ready.refl h, h.exclusive key lease hlease hshared⟩, by simp⟩
  · have hready : ∀ mode, Ready V (V.setMode key mode) :=
      fun mode => ⟨h.setMode hlease hshared mode, rfl, rfl, rfl⟩
    have hlost : NotReleased site key V
        ((V.setMode key none).fail ⟨site, .lock key .exclusive⟩) :=
      (hready none).fail hsite.ne_running releases_lock
    have hentry : BrowseCall.losesLock ⟨site, .lock key .exclusive⟩ = true ↔
        V.backend.targets key ≠ none := by
      simp [hsite.losesLock, hlease]
    refine acts_seq (M := fun granted W => (granted = true → W = V.setMode key (some .exclusive)) ∧
      (granted = false → NotReleased site key V W)) ?_ ?_
    · exact acts_flock hsite.ne_running h.settled hentry ⟨fun _ => rfl, by simp⟩
        ⟨by simp, fun _ => hlost⟩ fun _ => hlost
    · rintro (_ | _) W ⟨hgranted, hrefused⟩
      · exact acts_note (fun _ hs => hs) (Step.refl W) (acts_ret ⟨by simp, hrefused⟩)
      · obtain rfl := hgranted rfl
        refine acts_note (W := (V.setMode key (some .exclusive)).setTarget key
          (some { lease with lock := ⟨true, false⟩ })) (fun s hs => hs ▸ rfl)
            (step_setTarget_some fun _ => by simp)
              (acts_ret ⟨fun _ => ⟨⟨?_, rfl, ?_, rfl⟩, ?_⟩, by simp⟩)
        · exact (hready _).orderly.setTarget (h.positive key lease hlease) rfl
            fun _ => modes_setMode_self
        · exact users_setTarget_same hlease rfl
        · exact modes_setMode_self

/-- The other sessions on a target. -/
def Backend.othersOf (backend : Backend) (key : String) (closing : Option BrowseSessionId) :
    List BrowseSessionId :=
  (backend.usersOf key).filter fun id => some id ≠ closing

theorem usersOf_congr (h : SameSessions V W) (key : String) :
    W.backend.usersOf key = V.backend.usersOf key := by
  rw [Backend.usersOf, show W.backend.sessions = V.backend.sessions from h, Backend.usersOf]

theorem othersOf_congr (h : SameSessions V W) (closing : Option BrowseSessionId) :
    W.backend.othersOf key closing = V.backend.othersOf key closing := by
  rw [Backend.othersOf, usersOf_congr h, Backend.othersOf]

theorem acts_stopUnit {unit : String} {closing result Q E} (hsite : site ≠ .running)
    (hfair : (V.modes key = some .exclusive ∧ V.backend.othersOf key closing = []) ↔ site ≠ .stale)
    (hQ : Q () (V.stop site key unit closing))
    (hE : ∀ e, E e ((V.stop site key unit closing).fail ⟨site, .stopUnit key unit⟩)) :
    Acts (stopUnit site key unit closing result) V Q E := by
  have hstep : Step V (V.stop site key unit closing) := by
    refine Step.quiet ⟨rfl, rfl, rfl⟩ rfl fun stop hstop => ?_
    rcases List.mem_cons.mp hstop with rfl | hstop
    · exact .inr hfair
    · exact .inl hstop
  refine acts_perform ?_ ?_
  · rintro i s - rfl -
    exact ⟨hstep, hQ⟩
  · rintro i s e rfl -
    exact ⟨hstep.fail hsite rfl, hE e⟩

/-- A target that is released. -/
structure Released (key : String) (V W : View) : Prop where
  orderly : Orderly W
  sessions : SameSessions V W
  users : ∀ target, W.backend.users target = V.backend.users target - if target = key then 1 else 0
  failures : W.backend.failures = V.backend.failures

/-- The target was released before. -/
theorem released_of_none (h : Orderly V) (hnone : V.backend.targets key = none) :
    Released key V V := by
  refine ⟨h, rfl, fun target => ?_, rfl⟩
  split
  · next heq => rw [heq, users_of_none hnone]
  · rfl

/-- One user less. -/
theorem Released.of_decrement (h : Orderly V) (hlease : V.backend.targets key = some lease)
    (husers : lease.users > 1) :
    Released key V (V.setTarget key (some { lease with users := lease.users - 1 })) := by
  refine ⟨h.setTarget (Nat.le_sub_of_add_le husers) (h.acquired key lease hlease)
    (h.exclusive key lease hlease), rfl, fun target => ?_, rfl⟩
  split
  · next heq => rw [heq, users_of_some targets_setTarget_self, users_of_some hlease]
  · next hne => exact users_setTarget_of_ne hne

/-- The last user is gone. -/
theorem Released.of_clear (h : Ready V W) (hlast : V.backend.users key ≤ 1) :
    Released key V ((W.setTarget key none).setMode key none) := by
  refine ⟨h.orderly.clearTarget, h.sessions, fun target => ?_, h.failures⟩
  have hsame : W.backend.users target = V.backend.users target := by rw [h.users]
  split
  · next heq =>
    subst heq
    have hnone : ((W.setTarget target none).setMode target none).backend.users target = 0 :=
      users_of_none targets_setTarget_self
    omega
  · next hne => exact (users_setTarget_of_ne hne).trans hsame

theorem acts_clearTarget {E} (h : Ready V W) (hlast : V.backend.users key ≤ 1) :
    Acts (.note (fun system => system.onBackend (Backend.setTarget key none)) <|
      .note (BrowseSystem.unlock .daemon key) (.ret ()) : BrowseProg Unit) W
        (fun _ => Released key V) E := by
  refine acts_onBackend step_setTarget_none ?_
  exact acts_note (fun s hs => hs ▸ view_unlock) (step_unlock targets_setTarget_self)
    (acts_ret (.of_clear h hlast))

/-- `release_target`: whoever stops the unit of the last user is alone. -/
theorem acts_releaseTarget {closing} (hsite : site.Releasing)
    (h : Orderly V) (halone : V.backend.users key ≤ 1 → V.backend.othersOf key closing = []) :
    Acts (releaseTarget site key closing) V (fun _ => Released key V)
      fun _ => NotReleased site key V := by
  refine acts_look fun s hs => ?_
  have hbackend : s.backend = V.backend := congrArg View.backend hs
  rw [hbackend]
  rcases hlease : V.backend.targets key with _ | lease
  · exact acts_ret (released_of_none h hlease)
  · by_cases husers : lease.users > 1
    · refine (congrArg (Acts · V _ _) (if_pos husers)).mpr ?_
      exact acts_onBackend (step_setTarget_some fun hnone => by cases hlease.symm.trans hnone)
        (acts_ret (.of_decrement h hlease husers))
    · refine (congrArg (Acts · V _ _) (if_neg husers)).mpr ?_
      have hlast : V.backend.users key ≤ 1 := by
        rw [users_of_some hlease]
        omega
      refine acts_seq ?_ fun _ W hW => acts_clearTarget hW hlast
      split
      · refine acts_seq (acts_tryUpgradeToExclusive hsite h hlease) ?_
        rintro granted W ⟨hgranted, hrefused⟩
        refine acts_seq (M := fun _ W' => W' = W ∧ granted = true)
          (acts_ensure (fun htrue => ⟨rfl, htrue⟩) hrefused) ?_
        rintro - W ⟨rfl, rfl⟩
        obtain ⟨hready, hexclusive⟩ := hgranted rfl
        have hothers : W.backend.othersOf key closing = [] :=
          (othersOf_congr hready.sessions closing).trans (halone hlast)
        have hstopped : ∀ unit, Ready V (W.stop site key unit closing) := fun unit =>
          ⟨hready.orderly.of_sameLocks ⟨rfl, rfl, rfl⟩, hready.sessions, hready.users,
            hready.failures⟩
        exact acts_stopUnit hsite.ne_running
          ⟨fun _ => hsite.ne_stale, fun _ => ⟨hexclusive, hothers⟩⟩ (hstopped _)
          fun _ => (hstopped _).fail hsite.ne_running releases_stopUnit
      · exact acts_ret (Ready.refl h)

end release

/-! ### Acquiring a target -/

section acquire

variable {V W : View} {key : String} {prof : Profile} {act : Action}

/-- Only calls of `open` have failed, and not the making of a record. -/
def Harmless (V W : View) : Prop :=
  ∃ added, W.backend.failures = added ++ V.backend.failures ∧
    ∀ call ∈ added, call.site = .opening ∧ ∀ target, call.action ≠ .makeRecord target

theorem Harmless.cons {X : View} (h : Harmless V W)
    (hX : X.backend.failures = ⟨.opening, act⟩ :: W.backend.failures)
    (hact : ∀ target, act ≠ .makeRecord target) : Harmless V X := by
  obtain ⟨added, hfail, hadded⟩ := h
  refine ⟨⟨.opening, act⟩ :: added, ?_, ?_⟩
  · rw [hX, hfail, List.cons_append]
  · intro call hcall
    rcases List.mem_cons.mp hcall with rfl | hcall
    · exact ⟨rfl, hact⟩
    · exact hadded call hcall

theorem Harmless.fail (h : Harmless V W) (hact : ∀ target, act ≠ .makeRecord target) :
    Harmless V (W.fail ⟨.opening, act⟩) :=
  h.cons (failures_fail nofun) hact

/-- A target that is acquired. -/
structure Acquired (key : String) (V W : View) : Prop where
  orderly : Orderly W
  sessions : SameSessions V W
  users : ∀ target, W.backend.users target = V.backend.users target + if target = key then 1 else 0
  failures : W.backend.failures = V.backend.failures

/-- A target that is not acquired. -/
structure NotAcquired (V W : View) : Prop where
  orderly : Orderly W
  sessions : SameSessions V W
  users : W.backend.users = V.backend.users
  failures : Harmless V W

theorem NotAcquired.refl (h : Orderly V) : NotAcquired V V := ⟨h, rfl, rfl, [], rfl, by simp⟩

theorem NotAcquired.fail (h : NotAcquired V W) (hact : ∀ target, act ≠ .makeRecord target) :
    NotAcquired V (W.fail ⟨.opening, act⟩) :=
  ⟨h.orderly.of_sameLocks sameLocks_fail, sessions_fail.trans h.sessions, users_fail.trans h.users,
    h.failures.fail hact⟩

theorem NotAcquired.setMode_none (h : NotAcquired V W) (hnone : W.backend.targets key = none) :
    NotAcquired V (W.setMode key none) := by
  have hmodes : (W.setMode key none).modes = W.modes := by
    rw [← h.orderly.unclaimed key hnone]
    exact Function.update_eq_self key W.modes
  exact ⟨h.orderly.of_sameLocks ⟨rfl, rfl, hmodes⟩, h.sessions, h.users, h.failures⟩

/-- A lock that is taken while there is no lease yet. -/
structure Holding (key : String) (V W : View) : Prop where
  targets : W.backend.targets = V.backend.targets
  settled : W.backend.converting = none
  modes : ∀ other, other ≠ key → W.modes other = V.modes other
  sessions : SameSessions V W
  failures : Harmless V W

theorem holding_setMode (h : Orderly V) (mode : Option Mode) : Holding key V (V.setMode key mode) :=
  ⟨rfl, h.settled, fun _ => modes_setMode_of_ne, rfl, [], rfl, by simp⟩

theorem Holding.fail (h : Holding key V W) (hact : ∀ target, act ≠ .makeRecord target) :
    Holding key V (W.fail ⟨.opening, act⟩) :=
  ⟨sameLocks_fail.targets.trans h.targets, sameLocks_fail.converting.trans h.settled,
    fun other hne => (congrFun sameLocks_fail.modes other).trans (h.modes other hne),
    sessions_fail.trans h.sessions, h.failures.fail hact⟩

/-- The lease is destroyed, with its lock. -/
theorem Holding.unlock (h : Holding key V W) (hord : Orderly V)
    (hnone : V.backend.targets key = none) : NotAcquired V (W.setMode key none) := by
  have hmodes : (W.setMode key none).modes = V.modes := by
    funext other
    by_cases hne : other = key
    · subst hne
      rw [modes_setMode_self, hord.unclaimed other hnone]
    · rw [modes_setMode_of_ne hne, h.modes other hne]
  refine ⟨hord.of_sameLocks ⟨h.targets, h.settled.trans hord.settled.symm, hmodes⟩,
    h.sessions, ?_, h.failures⟩
  funext target
  rw [Backend.users, show (W.setMode key none).backend.targets = V.backend.targets from h.targets,
    Backend.users]

theorem plain_opening : BrowseCall.Plain ⟨.opening, act⟩ :=
  ⟨nofun, BrowseCall.losesLock_of_opening⟩

/-- The first user of a target. -/
theorem acquired_first {lease} (h : Orderly V) (hnone : V.backend.targets key = none)
    (hlock : lease.lock = ⟨true, true⟩) (husers : lease.users = 1) :
    Acquired key V ((V.setMode key (some .shared)).setTarget key (some lease)) := by
  refine ⟨.of_leases ?_ ?_ h.settled, rfl, ?_, rfl⟩
  · intro other lease' hlease'
    by_cases hne : other = key
    · subst hne
      obtain rfl : lease = lease' := by simpa using hlease'
      exact ⟨husers.ge, by rw [hlock], by simp [hlock]⟩
    · rw [targets_setTarget_of_ne hne] at hlease'
      have hmodes : (V.setMode key (some .shared)).modes other = V.modes other :=
        modes_setMode_of_ne hne
      exact hmodes ▸ h.of_some hlease'
  · intro other hfree
    have hne : other ≠ key := by
      rintro rfl
      rw [targets_setTarget_self] at hfree
      cases hfree
    rw [targets_setTarget_of_ne hne] at hfree
    exact (modes_setMode_of_ne hne).trans (h.unclaimed other hfree)
  · intro target
    split
    · next heq =>
      subst heq
      rw [users_of_some targets_setTarget_self, users_of_none hnone, husers]
    · next hne => exact users_setTarget_of_ne hne

/-- The part of `acquire_target` under the lock; if it fails, the lock is still there,
or was lost when it was made shared. -/
theorem acts_takeTarget (h : Orderly V) (hkey : prof.target.luksUuid.value = key)
    (hnone : V.backend.targets key = none) (hfree : V.backend.usersOf key = []) :
    Acts (takeTarget prof) (V.setMode key (some .exclusive)) (fun _ => Acquired key V)
      fun _ => Holding key V := by
  unfold takeTarget
  rw [hkey]
  have hheld : Holding key V (V.setMode key (some .exclusive)) := holding_setMode h _
  refine acts_pass (acts_ask plain_opening (fun _ => rfl) fun _ => hheld.fail nofun)
    fun table => ?_
  refine acts_pass (W := V.setMode key (some .exclusive)) ?_ fun mounted => ?_
  · split
    · refine acts_pass (acts_runUnit plain_opening rfl fun _ => hheld.fail nofun) fun _ => ?_
      exact acts_ask plain_opening (fun _ => rfl) fun _ => hheld.fail nofun
    · exact acts_ret rfl
  refine acts_pass (W := V.setMode key (some .exclusive)) ?_ fun _ => ?_
  · -- a mount that is not accepted is undone under the lock
    refine acts_handleError (M := fun _ W => Holding key V W ∧ W.modes key = some .exclusive)
      (acts_perform ?_ ?_) ?_
    · rintro i s - hs -
      exact ⟨hs ▸ Step.refl _, hs⟩
    · rintro i s e hs -
      rw [hs]
      refine ⟨(Step.refl _).fail plain_opening.site plain_opening.keeps,
        hheld.fail nofun, ?_⟩
      rw [sameLocks_fail.modes]
      exact modes_setMode_self
    · rintro e W ⟨hW, hexclusive⟩
      refine acts_seq ?_ fun _ _ hW => acts_fail hW
      split
      · have hothers : W.backend.othersOf key none = [] := by
          rw [othersOf_congr hW.sessions, Backend.othersOf, hfree]
          rfl
        have hstopped : ∀ unit, Holding key V (W.stop .opening key unit none) := fun _ =>
          ⟨hW.targets, hW.settled, hW.modes, hW.sessions, hW.failures⟩
        exact acts_stopUnit nofun
          ⟨fun _ => nofun, fun _ => ⟨hexclusive, hothers⟩⟩ (hstopped _)
          fun _ => (hstopped _).fail nofun
      · exact acts_ret hW
  · have hlost : Holding key V
        ((V.setMode key none).fail ⟨.opening, .lock key .shared⟩) :=
      (holding_setMode h none).fail nofun
    have hupdate : ∀ mode,
      (V.setMode key (some .exclusive)).setMode key mode = V.setMode key mode :=
      fun mode => View.ext rfl (Function.update_idem _ _ _)
    refine acts_pass (W := V.setMode key (some .shared)) ?_ fun _ => ?_
    · refine acts_seq (M := fun granted W => (granted = true → W = V.setMode key (some .shared)) ∧
        (granted = false → Holding key V W)) ?_ fun granted W hW => acts_ensure hW.1 hW.2
      exact acts_flock nofun h.settled (by simp [BrowseCall.losesLock, View.setMode, hnone])
        ⟨fun _ => hupdate _, nofun⟩ ⟨nofun, fun _ => hupdate none ▸ hlost⟩
        fun _ => hupdate none ▸ hlost
    · exact acts_onBackend (step_setTarget_some fun _ => by simp)
        (acts_ret (acquired_first h hnone rfl rfl))

/-- `acquire_target`. -/
theorem acts_acquireTarget (h : Orderly V) (hkey : prof.target.luksUuid.value = key)
    (hfree : V.backend.users key = 0 → V.backend.usersOf key = []) :
    Acts (acquireTarget prof) V (fun _ => Acquired key V) fun _ => NotAcquired V := by
  unfold acquireTarget
  rw [hkey]
  refine acts_look fun s hs => ?_
  have hbackend : s.backend = V.backend := congrArg View.backend hs
  rw [hbackend]
  rcases hlease : V.backend.targets key with _ | lease
  · have hrefused : NotAcquired V ((V.setMode key none).fail ⟨.opening, .lock key .exclusive⟩) := by
      have hunlocked := (NotAcquired.refl h).setMode_none hlease
      exact hunlocked.fail nofun
    refine acts_seq (M := fun acquired W =>
      (acquired = true → W = V.setMode key (some .exclusive)) ∧
        (acquired = false → NotAcquired V W)) ?_ fun acquired W hW => ?_
    · refine acts_pass (acts_ask plain_opening (fun _ => rfl)
        fun _ => (NotAcquired.refl h).fail nofun) fun _ => ?_
      exact acts_flock nofun h.settled (by simp [BrowseCall.losesLock, hlease])
        ⟨fun _ => rfl, nofun⟩ ⟨nofun, fun _ => hrefused⟩ fun _ => hrefused
    · refine acts_pass (acts_ensure hW.1 hW.2) fun _ => ?_
      refine acts_handleError (acts_takeTarget h hkey hlease (hfree (users_of_none hlease))) ?_
      intro e W hW
      exact acts_note (fun s hs => hs ▸ view_unlock)
        (step_unlock ((congrFun hW.targets key).trans hlease)) (acts_fail (hW.unlock h hlease))
  · refine acts_onBackend (step_setTarget_some fun hnone => by cases hlease.symm.trans hnone)
      (acts_ret ⟨h.setTarget (Nat.le_add_left 1 _) (h.acquired key lease hlease)
        (h.exclusive key lease hlease), rfl, fun target => ?_, rfl⟩)
    split
    · next heq =>
      subst heq
      exact (users_of_some targets_setTarget_self).trans
        (congrArg (· + 1) (users_of_some hlease).symm)
    · next hne => exact users_setTarget_of_ne hne

end acquire

end Browse

end BtrfsBackup
