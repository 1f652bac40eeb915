/-
The users of a target.

Every session on a target that is not released is a user of its lease.  The count can be
too high, but only for two reasons: an `open` that has acquired the target and then
cannot make its record, and an `open` for a session that exists and then cannot release
the target again.

* `leaks` — the users that no session stands for;
* `Balanced` — the books of the backend;
* `acts_openSession`, `acts_closeSession`, `books_cleanupStale` — the calls keep them;
* `lease_accounting_iff` — when the count is right, and when a failed `open` leaves it.
-/
import BtrfsBackup.BrowseLeases
import BtrfsBackup.IncomingSeparation

open Interaction Interaction.Prog AdvisoryLock Keyed.Store

namespace BtrfsBackup

open List

namespace Browse

open Backend

/-! ### The books -/

/-- A call that fails and leaves the target with a user no session stands for. -/
def BrowseCall.leaks (key : String) (call : BrowseCall) : Bool :=
  match call.site with
  | .opening => call.action == .makeRecord key
  | .duplicate => call.action.releases key
  | _ => false

/-- The users of a target that no session stands for. -/
def Backend.leaks (backend : Backend) (key : String) : Nat :=
  backend.failures.countP (BrowseCall.leaks key)

/-- The books: every user is a session, or one of the leaks. -/
structure Balanced (V : View) : Prop extends Orderly V where
  users : ∀ key, V.backend.users key = (V.backend.usersOf key).length + V.backend.leaks key

/-! ### Sessions and users -/

section sessions

variable {V W X : View} {key : String} {id : BrowseSessionId}
  {mount mount' : BrowseSessionMountRecord}

/-- The users of a target beside one session. -/
def Backend.besides (backend : Backend) (id : BrowseSessionId) (key : String) : Nat :=
  ((backend.sessions.remove id).items.filter (uses key)).length

/-- The record of a session, and the other sessions as they were. -/
structure Recorded (id : BrowseSessionId) (mount : BrowseSessionMountRecord) (V W : View) :
    Prop where
  found : W.backend.sessions.find? id = some ⟨id, mount⟩
  others : W.backend.sessions.remove id = V.backend.sessions.remove id

theorem recorded_self (h : V.backend.sessions.find? id = some ⟨id, mount⟩) :
    Recorded id mount V V := ⟨h, rfl⟩

theorem Recorded.trans (h : Recorded id mount V W) (h' : Recorded id mount' W X) :
    Recorded id mount' V X := ⟨h'.found, h'.others.trans h.others⟩

theorem Recorded.of_same (h : Recorded id mount V W) (hsame : SameSessions W X) :
    Recorded id mount V X := by
  have hsess : X.backend.sessions = W.backend.sessions := hsame
  exact ⟨hsess ▸ h.found, hsess ▸ h.others⟩

/-- A session that is counted, and the others. -/
theorem length_usersOf (h : Recorded id mount V W) (key : String) : (W.backend.usersOf key).length =
      V.backend.besides id key + if uses key ⟨id, mount⟩ then 1 else 0 := by
  rw [usersOf, length_map, ((perm_remove h.found).filter _).length_eq,
    besides, ← h.others, filter_cons]
  split
  · rw [length_cons]
  · rw [Nat.add_zero]

theorem usersOf_addSession (h : V.backend.sessions.find? id = none) :
    (V.onBackend (addSession ⟨id, mount⟩)).backend.usersOf key =
      if uses key ⟨id, mount⟩ then id :: V.backend.usersOf key
      else V.backend.usersOf key := by
  have hitems : (V.onBackend (addSession ⟨id, mount⟩)).backend.sessions.items =
      ⟨id, mount⟩ :: V.backend.sessions.items := items_add h
  rw [usersOf, hitems, filter_cons]
  split <;> rfl

/-- The record of a session is changed. -/
theorem recorded_setMount : Recorded id mount V (V.onBackend (setMount id mount)) := by
  have hfree : (V.backend.sessions.remove id).find? id = none := find?_remove_self
  exact ⟨find?_eq_some.mpr ⟨(mem_add hfree).mpr (.inl rfl), rfl⟩, remove_add hfree⟩

theorem length_usersOf_removeSession :
    ((V.onBackend (removeSession id)).backend.usersOf key).length = V.backend.besides id key := by
  rw [usersOf, length_map]
  rfl

/-- The other sessions on a target are the users beside the session. -/
theorem length_othersOf : (V.backend.othersOf key (some id)).length = V.backend.besides id key := by
  rw [othersOf, usersOf, filter_map, length_map, filter_filter,
    besides, Keyed.Store.remove, filter_filter]
  refine congrArg List.length (filter_congr fun session _ => ?_)
  simp [Bool.and_comm]

theorem leaks_congr (h : W.backend.failures = V.backend.failures) :
    W.backend.leaks key = V.backend.leaks key := by
  rw [leaks, h, leaks]

theorem leaks_fail {call} (h : call.leaks key = false) :
    (V.fail call).backend.leaks key = V.backend.leaks key := by
  rw [View.fail, View.onBackend, Backend.fail]
  split
  · rfl
  · exact countP_cons_of_neg (by simp [h])

theorem Harmless.leaks (h : Harmless V W) : W.backend.leaks key = V.backend.leaks key := by
  obtain ⟨added, hfs, hadded⟩ := h
  rw [Backend.leaks, hfs, countP_append, Backend.leaks, Nat.add_eq_right]
  refine countP_eq_zero.mpr fun call hcall => ?_
  obtain ⟨hsite, hact⟩ := hadded call hcall
  simp [BrowseCall.leaks, hsite, hact key]

theorem users_congr (h : SameLocks V W) : W.backend.users = V.backend.users := by
  funext key
  rw [users, h.targets, users]

/-- The record of a session changes, but not what it uses. -/
theorem Balanced.of_recorded (h : Balanced V)
    (hfound : V.backend.sessions.find? id = some ⟨id, mount⟩)
    (hlocks : SameLocks V W) (hrec : Recorded id mount' V W)
    (huses : ∀ key, uses key ⟨id, mount'⟩ = uses key ⟨id, mount⟩)
    (hleaks : ∀ key, W.backend.leaks key = V.backend.leaks key) : Balanced W where
  toOrderly := h.toOrderly.of_sameLocks hlocks
  users := by
    intro key
    rw [users_congr hlocks, h.users, length_usersOf (recorded_self hfound),
      length_usersOf hrec, huses, hleaks]

/-- Sessions and leases are as they were. -/
theorem Balanced.of_same (h : Balanced V) (hlocks : SameLocks V W) (hsess : SameSessions V W)
    (hleaks : ∀ key, W.backend.leaks key = V.backend.leaks key) : Balanced W where
  toOrderly := h.toOrderly.of_sameLocks hlocks
  users := by
    intro key
    rw [users_congr hlocks, h.users, usersOf_congr hsess, hleaks]

theorem Balanced.fail (h : Balanced V) {call} (hcall : ∀ key, call.leaks key = false) :
    Balanced (V.fail call) :=
  h.of_same sameLocks_fail sessions_fail fun key => leaks_fail (hcall key)

/-- A session whose target is about to be released is the last user, or one of several. -/
theorem Balanced.alone (h : Balanced V) (hfound : V.backend.sessions.find? id = some ⟨id, mount⟩)
    (hkey : mount.targetKey = key) (hheld : mount.targetReleased = false)
    (hlast : V.backend.users key ≤ 1) : V.backend.othersOf key (some id) = [] := by
  have huses : uses key ⟨id, mount⟩ = true := by simp [uses, hkey, hheld]
  have hcount := h.users key
  rw [length_usersOf (recorded_self hfound), huses, if_pos rfl] at hcount
  refine length_eq_zero_iff.mp ?_
  rw [length_othersOf]
  omega

end sessions

/-! ### Closing a session -/

section closing

variable {V W X : View} {site : Site} {key : String} {id : BrowseSessionId}
  {mount mount' : BrowseSessionMountRecord} {call : BrowseCall} {act : Action}

/-- The calls of a cleanup that come before the target is released. -/
def Action.early : Action → Bool
  | .removeMarker _ => false
  | .writeMarker _ record => !record.targetReleased
  | _ => true

/-- The places that close sessions. -/
def Site.Closing (site : Site) : Prop := site = .rollback ∨ site = .closing

theorem Site.Closing.releasing (h : site.Closing) : site.Releasing := .inr h

theorem Site.Closing.leaks (h : site.Closing) (hcall : call.site = site) :
    call.leaks key = false := by
  rw [BrowseCall.leaks, hcall]
  rcases h with rfl | rfl <;> rfl

theorem leaks_cons (hsite : site.Closing) (hcall : call.site = site)
    (h : W.backend.failures = call :: V.backend.failures) :
    W.backend.leaks key = V.backend.leaks key := by
  rw [leaks, h, countP_cons_of_neg (by simp [hsite.leaks hcall]), leaks]

/-- A session that is still there, because of a call that failed: before the target was
released, or after it. -/
structure Unclosed (site : Site) (id : BrowseSessionId) (mount : BrowseSessionMountRecord)
    (V W : View) : Prop where
  balanced : Balanced W
  failed : ∃ mount' call, Recorded id mount' V W ∧ mount'.targetKey = mount.targetKey ∧
    W.backend.failures = call :: V.backend.failures ∧ call.site = site ∧
    (mount.targetReleased = false → (call.action.early = true ↔ mount'.targetReleased = false))

/-- The record of the session, while it is cleaned up. -/
structure Cleaning (id : BrowseSessionId) (mount mount' : BrowseSessionMountRecord) (V W : View) :
    Prop where
  locks : SameLocks V W
  recorded : Recorded id mount' V W
  targetKey : mount'.targetKey = mount.targetKey
  targetReleased : mount'.targetReleased = mount.targetReleased

theorem Cleaning.uses (h : Cleaning id mount mount' V W) (key : String) :
    uses key ⟨id, mount'⟩ = uses key ⟨id, mount⟩ := by
  rw [Backend.uses, Backend.uses, h.targetKey, h.targetReleased]

theorem Cleaning.of_same (h : Cleaning id mount mount' V W) (hlocks : SameLocks W X)
    (hsess : SameSessions W X) : Cleaning id mount mount' V X :=
  ⟨⟨hlocks.targets.trans h.locks.targets, hlocks.converting.trans h.locks.converting,
    hlocks.modes.trans h.locks.modes⟩, h.recorded.of_same hsess, h.targetKey,
    h.targetReleased⟩

theorem plain_of_ne (hsite : site ≠ .running)
    (hact : ∀ target, act ≠ .lock target .exclusive) : BrowseCall.Plain ⟨site, act⟩ := by
  refine ⟨hsite, ?_⟩
  unfold BrowseCall.losesLock
  split
  · next target heq => exact absurd heq (hact target)
  · rfl

theorem Site.Closing.plain (h : site.Closing)
    (hact : ∀ target, act ≠ .lock target .exclusive) : BrowseCall.Plain ⟨site, act⟩ :=
  plain_of_ne h.releasing.ne_running hact

variable {Q : Unit → View → Prop} {E : ManagerFailure → View → Prop}

theorem acts_writeMarker {record} (hsite : site ≠ .running)
    (hQ : ∀ W, SameLocks V W → SameSessions V W → W.backend.failures = V.backend.failures → Q () W)
    (hE : ∀ e W, SameLocks V W → SameSessions V W →
      W.backend.failures = ⟨site, .writeMarker id record⟩ :: V.backend.failures → E e W) :
    Acts (writeMarker site id record) V Q E := by
  have hstep : Step V (V.onBackend (setMarker id (some record))) :=
    Step.quiet ⟨rfl, rfl, rfl⟩ rfl fun _ hmem => .inl hmem
  refine acts_perform ?_ ?_
  · rintro i s - rfl -
    exact ⟨hstep, hQ _ ⟨rfl, rfl, rfl⟩ rfl rfl⟩
  · rintro i s e rfl -
    split
    · refine ⟨hstep.fail hsite rfl, hE e _ ?_ ?_ (failures_fail hsite)⟩
      · exact ⟨sameLocks_fail.targets, sameLocks_fail.converting, sameLocks_fail.modes⟩
      · exact sessions_fail
    · exact ⟨(Step.refl _).fail hsite rfl,
        hE e _ sameLocks_fail sessions_fail (failures_fail hsite)⟩

theorem acts_unmount {target : FsPath} (hinspect : BrowseCall.Plain ⟨site, .inspectMounts⟩)
    (hunmount : BrowseCall.Plain ⟨site, .unmountView id⟩) (hQ : Q () V)
    (hE : ∀ e act, act = .inspectMounts ∨ act = .unmountView id →
      E e (V.fail ⟨site, act⟩)) : Acts (unmount site id target) V Q E := by
  refine acts_pass (acts_ask hinspect (fun _ => rfl) fun e => hE e _ (.inl rfl)) fun table => ?_
  split
  · exact acts_ret hQ
  · exact acts_runUnit hunmount hQ fun e => hE e _ (.inr rfl)

theorem acts_keepMount (hQ : Q () (V.onBackend (setMount id mount))) :
    Acts (keepMount true id mount) V Q E :=
  acts_onBackend (Step.quiet ⟨rfl, rfl, rfl⟩ rfl fun _ => .inl) (acts_ret hQ)

/-- A session whose target is released. -/
structure Discharged (id : BrowseSessionId) (mount : BrowseSessionMountRecord) (V W : View) :
    Prop where
  balanced : Balanced W
  recorded : ∃ mount', Recorded id mount' V W ∧ mount'.targetKey = mount.targetKey ∧
    mount'.targetReleased = true

/-- Sessions and leases are as they were. -/
theorem Discharged.of_same (h : Discharged id mount V W) (hlocks : SameLocks W X)
    (hsess : SameSessions W X) (hleaks : ∀ key, X.backend.leaks key = W.backend.leaks key) :
    Discharged id mount V X := by
  obtain ⟨mount', hrec, hkey, hrel⟩ := h.recorded
  exact ⟨h.balanced.of_same hlocks hsess hleaks, mount', hrec.of_same hsess, hkey, hrel⟩

/-- A call after the release fails. -/
theorem Discharged.unclosed (h : Discharged id mount V W)
    (hfs : W.backend.failures = call :: V.backend.failures) (hcall : call.site = site)
    (hlate : call.action.early = false) : Unclosed site id mount V W := by
  obtain ⟨mount', hrec, hkey, hrel⟩ := h.recorded
  refine ⟨h.balanced, mount', call, hrec, hkey, hfs, hcall, fun _ => ?_⟩
  rw [hlate, hrel]
  exact eq_comm

/-- The session is marked as released. -/
theorem Released.discharged (h : Released mount.targetKey V W) (hV : Balanced V)
    (hfound : V.backend.sessions.find? id = some ⟨id, mount⟩)
    (hheld : mount.targetReleased = false) :
    Discharged id mount V (W.onBackend (setMount id { mount with targetReleased := true })) := by
  have hrec : Recorded id { mount with targetReleased := true } V
      (W.onBackend (setMount id { mount with targetReleased := true })) :=
    ((recorded_self hfound).of_same h.sessions).trans recorded_setMount
  refine ⟨⟨h.orderly.of_sameLocks ⟨rfl, rfl, rfl⟩, fun key => ?_⟩, _, hrec, rfl, rfl⟩
  have husers : (W.onBackend (setMount id
      { mount with targetReleased := true })).backend.users key = W.backend.users key := rfl
  have hleaks : (W.onBackend (setMount id
      { mount with targetReleased := true })).backend.leaks key = V.backend.leaks key :=
    leaks_congr h.failures
  rw [husers, h.users, hV.users, length_usersOf (recorded_self hfound), length_usersOf hrec, hleaks]
  by_cases hkey : key = mount.targetKey
  · have huses : uses key ⟨id, mount⟩ = true := by simp [uses, hkey, hheld]
    rw [huses, if_pos rfl, if_pos hkey]
    simp [uses]
  · have huses : uses key ⟨id, mount⟩ = false := by simp [uses, Ne.symm hkey]
    rw [huses, if_neg (by simp), if_neg hkey]
    simp [uses]

/-- A call of the cleanup that failed after the view was dealt with. -/
theorem Unclosed.of_cleaning (h : Unclosed site id mount' W X)
    (hclean : Cleaning id mount mount' V W) (hfs : W.backend.failures = V.backend.failures) :
    Unclosed site id mount V X := by
  obtain ⟨balanced, record, call, hrec, hkey, hfailed, hcall, hearly⟩ := h
  rw [hfs] at hfailed
  rw [hclean.targetReleased] at hearly
  exact ⟨balanced, record, call, hclean.recorded.trans hrec, hkey.trans hclean.targetKey,
    hfailed, hcall, hearly⟩

section cleanup

variable (hV : Balanced V) (hfound : V.backend.sessions.find? id = some ⟨id, mount⟩)
  (hsite : site.Closing)

include hV hfound hsite

/-- A call before the release fails. -/
theorem Cleaning.unclosed (h : Cleaning id mount mount' V W) {call}
    (hfs : W.backend.failures = call :: V.backend.failures)
    (hcall : call.site = site) (hearly : mount.targetReleased = false → call.action.early = true) :
    Unclosed site id mount V W := by
  refine ⟨hV.of_recorded hfound h.locks h.recorded h.uses fun key => leaks_cons hsite hcall hfs,
    mount', call, h.recorded, h.targetKey, hfs, hcall, fun hheld => ?_⟩
  rw [h.targetReleased]
  exact iff_of_true (hearly hheld) hheld

/-- A release that has not happened leaves the session as it was. -/
theorem NotReleased.unclosed (h : NotReleased site key V W) : Unclosed site id mount V W := by
  obtain ⟨call, hfs, hcall, hact⟩ := h.failure
  refine ⟨⟨h.orderly, fun target => ?_⟩, mount, call,
    (recorded_self hfound).of_same h.sessions, rfl,
    hfs, hcall, fun hheld => iff_of_true ?_ hheld⟩
  · rw [h.users, hV.users, usersOf_congr h.sessions, leaks_cons hsite hcall hfs]
  · cases haction' : call.action with
    | lock _ _ => rfl
    | stopUnit _ _ => rfl
    | _ => simp [haction', Action.releases] at hact

/-- The view of a session that is closed. -/
theorem acts_cleanupView : Acts (cleanupView site id mount true) V
      (fun mount' W => Cleaning id mount mount' V W ∧ W.backend.failures = V.backend.failures)
      fun _ => Unclosed site id mount V := by
  have hrunning := hsite.releasing.ne_running
  have hstart : Cleaning id mount mount V V :=
    ⟨⟨rfl, rfl, rfl⟩, recorded_self hfound, rfl, rfl⟩
  rw [cleanupView]
  split
  · refine acts_pass (acts_unmount (hsite.plain nofun) (hsite.plain nofun) rfl
      fun e act hact => ?_) fun _ => ?_
    · refine (hstart.of_same sameLocks_fail sessions_fail).unclosed hV hfound hsite
        (failures_fail hrunning) rfl fun _ => ?_
      rcases hact with rfl | rfl <;> rfl
    · refine acts_seq (M := fun _ W => Cleaning id mount { mount with viewMounted := false } V W ∧
        W.backend.failures = V.backend.failures)
        (acts_keepMount ⟨⟨⟨rfl, rfl, rfl⟩, recorded_setMount, rfl, rfl⟩, rfl⟩) fun _ W hW => ?_
      refine acts_seq (acts_writeMarker hrunning ?_ ?_) fun _ X hX => acts_ret hX
      · intro X hlocks hsess hfs
        exact ⟨hW.1.of_same hlocks hsess, hfs.trans hW.2⟩
      · intro e X hlocks hsess hfs
        refine (hW.1.of_same hlocks hsess).unclosed hV hfound hsite
          (hfs.trans (congrArg _ hW.2)) rfl fun hheld => ?_
        simp [Action.early, hheld]
  · exact acts_ret ⟨hstart, rfl⟩

/-- The target of a session that is closed. -/
theorem acts_cleanupTarget : Acts (cleanupTarget site id mount true) V
      (fun _ W => Discharged id mount V W ∧ W.backend.failures = V.backend.failures)
      fun _ => Unclosed site id mount V := by
  have hrunning := hsite.releasing.ne_running
  rw [cleanupTarget]
  split
  · next hrel =>
    exact acts_ret ⟨⟨hV, mount, recorded_self hfound, rfl, hrel⟩, rfl⟩
  · next hheld =>
    have hheld : mount.targetReleased = false := by simpa using hheld
    refine acts_seq ((acts_releaseTarget hsite.releasing
      hV.toOrderly (hV.alone hfound rfl hheld)).mono (fun _ _ h => h)
        fun _ W hW => hW.unclosed hV hfound hsite) fun _ W hW => ?_
    have hdischarged := hW.discharged hV hfound hheld
    refine acts_pass (acts_keepMount rfl) fun _ => ?_
    refine acts_writeMarker hrunning ?_ ?_
    · intro X hlocks hsess hfs
      exact ⟨hdischarged.of_same hlocks hsess fun _ => leaks_congr hfs, hfs.trans hW.failures⟩
    · intro e X hlocks hsess hfs
      exact (hdischarged.of_same hlocks hsess fun key => leaks_cons hsite rfl hfs).unclosed
        (hfs.trans (congrArg _ hW.failures)) rfl rfl

/-- `cleanup_record` of a session. -/
theorem acts_cleanupRecord : Acts (cleanupRecord site id mount true) V
      (fun _ W => Discharged id mount V W ∧ W.backend.failures = V.backend.failures)
      fun _ => Unclosed site id mount V := by
  have hrunning := hsite.releasing.ne_running
  refine acts_seq (acts_cleanupView hV hfound hsite) ?_
  rintro mount' W ⟨hclean, hfs⟩
  have hW : Balanced W := hV.of_recorded hfound hclean.locks hclean.recorded hclean.uses
    fun _ => leaks_congr hfs
  refine acts_pass (acts_runUnit (hsite.plain nofun) rfl fun e => ?_) fun _ => ?_
  · refine (hclean.of_same sameLocks_fail sessions_fail).unclosed hV hfound hsite
      ((failures_fail hrunning).trans (congrArg _ hfs)) rfl fun _ => rfl
  refine acts_seq (M := fun _ X => Discharged id mount V X ∧
    X.backend.failures = V.backend.failures) ((acts_cleanupTarget hW
      hclean.recorded.found hsite).mono ?_ fun _ X hX => hX.of_cleaning hclean hfs) ?_
  · rintro - X ⟨⟨hbal, record, hrec, hkey, hrel⟩, hsame⟩
    exact ⟨⟨hbal, record, hclean.recorded.trans hrec, hkey.trans hclean.targetKey,
      hrel⟩, hsame.trans hfs⟩
  · rintro - X ⟨hX, hfailed⟩
    refine acts_perform ?_ ?_
    · rintro i s - rfl -
      exact ⟨Step.quiet ⟨rfl, rfl, rfl⟩ rfl fun _ => .inl,
        hX.of_same ⟨rfl, rfl, rfl⟩ rfl fun _ => rfl, hfailed⟩
    · rintro i s e rfl -
      refine ⟨(Step.refl _).fail hrunning rfl, ?_⟩
      exact (hX.of_same sameLocks_fail sessions_fail fun key =>
        leaks_fail (hsite.leaks rfl)).unclosed
        ((failures_fail hrunning).trans (congrArg _ hfailed)) rfl rfl

end cleanup

/-- A session that is gone. -/
structure Closed (id : BrowseSessionId) (V W : View) : Prop where
  balanced : Balanced W
  sessions : W.backend.sessions = V.backend.sessions.remove id
  failures : W.backend.failures = V.backend.failures

theorem Discharged.closed (h : Discharged id mount V W)
    (hfs : W.backend.failures = V.backend.failures) :
    Closed id V (W.onBackend (removeSession id)) := by
  obtain ⟨mount', hrec, -, hrel⟩ := h.recorded
  refine ⟨⟨h.balanced.toOrderly.of_sameLocks ⟨rfl, rfl, rfl⟩, fun key => ?_⟩, hrec.others, hfs⟩
  have hunused : uses key ⟨id, mount'⟩ = false := by simp [uses, hrel]
  have hcount := h.balanced.users key
  rw [length_usersOf (recorded_self hrec.found), hunused, if_neg (by simp), Nat.add_zero] at hcount
  rw [length_usersOf_removeSession]
  exact hcount

/-- `close`. -/
theorem acts_closeSession (hV : Balanced V) (hsite : site.Closing) :
    Acts (closeSession site id) V (fun _ => Closed id V) fun _ W =>
      ∃ mount, V.backend.sessions.find? id = some ⟨id, mount⟩ ∧ Unclosed site id mount V W := by
  refine acts_look fun s hs => ?_
  have hbackend : s.backend = V.backend := congrArg View.backend hs
  rw [hbackend]
  rcases hfind : V.backend.sessions.find? id with _ | ⟨found, mount⟩
  · exact acts_ret ⟨hV, (remove_of_find?_eq_none hfind).symm, rfl⟩
  · obtain rfl : found = id := (find?_eq_some.mp hfind).2
    refine acts_seq ((acts_cleanupRecord hV hfind hsite).mono (fun _ _ h => h)
      fun _ W hW => ⟨mount, rfl, hW⟩) ?_
    rintro - W ⟨hW, hfs⟩
    exact acts_onBackend (Step.quiet ⟨rfl, rfl, rfl⟩ rfl fun _ => .inl) (acts_ret (hW.closed hfs))

end closing

/-! ### Opening a session -/

section opening

variable {V W X Y : View} {key : String} {id : BrowseSessionId} {mount : BrowseSessionMountRecord}
  {act : Action}

/-- The record of a session that is being opened; calls of `open` may have failed. -/
def Begun (id : BrowseSessionId) (mount : BrowseSessionMountRecord) (V W : View) : Prop :=
  ∃ mount', Cleaning id mount mount' V W ∧ Harmless V W

section

variable (h : Begun id mount V W)
include h

theorem Begun.fail (hact : ∀ target, act ≠ .makeRecord target) :
    Begun id mount V (W.fail ⟨.opening, act⟩) := by
  obtain ⟨mount', hclean, hharmless⟩ := h
  exact ⟨mount', hclean.of_same sameLocks_fail sessions_fail, hharmless.fail hact⟩

theorem Begun.same (hlocks : SameLocks W X) (hsess : SameSessions W X)
    (hfs : X.backend.failures = W.backend.failures) : Begun id mount V X := by
  obtain ⟨mount', hclean, added, hadded, hopening⟩ := h
  exact ⟨mount', hclean.of_same hlocks hsess, added, hfs.trans hadded, hopening⟩

theorem Begun.cons (hlocks : SameLocks W X) (hsess : SameSessions W X)
    (hfs : X.backend.failures = ⟨.opening, act⟩ :: W.backend.failures)
    (hact : ∀ target, act ≠ .makeRecord target) : Begun id mount V X := by
  obtain ⟨mount', hclean, hharmless⟩ := h
  exact ⟨mount', hclean.of_same hlocks hsess, hharmless.cons hfs hact⟩

/-- The marker of a session that is being opened. -/
theorem acts_writeMarker_opening {record} :
    Acts (writeMarker .opening id record) W (fun _ => Begun id mount V)
      fun _ => Begun id mount V := by
  refine acts_writeMarker nofun ?_ ?_
  · intro X hlocks hsess hfs
    exact h.same hlocks hsess hfs
  · intro e X hlocks hsess hfs
    exact h.cons hlocks hsess hfs nofun

theorem acts_mountReadOnly {target : FsPath} :
    Acts (mountReadOnly id target) W (fun _ => Begun id mount V) fun _ => Begun id mount V := by
  refine acts_pass (acts_runUnit plain_opening rfl fun _ => h.fail nofun) fun _ => ?_
  refine acts_pass (acts_ask plain_opening (fun _ => rfl) fun _ => h.fail nofun) fun verified => ?_
  split
  · exact acts_ret h
  · refine acts_seq (acts_attempt (acts_unmount plain_opening
      plain_opening h fun e act hact => ?_)) fun _ Z hZ => acts_fail hZ
    refine h.fail fun target => ?_
    rcases hact with rfl | rfl <;> exact nofun

end

/-- The part of `open` once the session is entered. -/
theorem acts_establish (hfound : V.backend.sessions.find? id = some ⟨id, mount⟩) :
    Acts (establish id mount) V (fun _ => Begun id mount V) fun _ => Begun id mount V := by
  have hstart : Begun id mount V V :=
    ⟨mount, ⟨⟨rfl, rfl, rfl⟩, recorded_self hfound, rfl, rfl⟩, [], rfl, by simp⟩
  refine acts_pass (acts_ask plain_opening (fun _ => rfl) fun _ => hstart.fail nofun)
    fun taken => ?_
  refine acts_pass (acts_ensure (fun _ => rfl) fun _ => hstart) fun _ => ?_
  refine acts_pass (acts_runUnit plain_opening rfl fun _ => hstart.fail nofun) fun _ => ?_
  refine acts_seq (acts_writeMarker_opening hstart) fun _ W hW => ?_
  refine acts_seq (M := fun _ => Begun id mount V) (acts_keepMount ?_) fun _ W hW => ?_
  · obtain ⟨mount', hclean, hharmless⟩ := hW
    have hlocks := hclean.locks
    exact ⟨{ mount with viewMounted := true }, ⟨⟨hlocks.targets, hlocks.converting, hlocks.modes⟩,
      hclean.recorded.trans recorded_setMount, rfl, rfl⟩, hharmless⟩
  refine acts_seq (acts_writeMarker_opening hW) fun _ W hW => ?_
  exact acts_mountReadOnly hW

/-- Calls of an `open` that leave a user of the target behind when they fail. -/
def BrowseCall.strands (call : BrowseCall) : Bool :=
  match call.site, call.action with
  | .opening, .makeRecord _ => true
  | .duplicate, .lock _ _ => true
  | .duplicate, .stopUnit _ _ => true
  | .rollback, action => action.early
  | _, _ => false

/-- An `open` that has failed: the users are as they were exactly if no call has
failed that leaves one behind. -/
structure OpenFailed (V W : View) : Prop where
  balanced : Balanced W
  unchanged_iff : ∃ added, W.backend.failures = added ++ V.backend.failures ∧
    (W.backend.users = V.backend.users ↔ ∀ call ∈ added, call.strands = false)

theorem strands_of_harmless {added : List BrowseCall}
    (h : ∀ call ∈ added, call.site = .opening ∧ ∀ target, call.action ≠ .makeRecord target) :
    ∀ call ∈ added, call.strands = false := by
  rintro ⟨site, act⟩ hcall
  obtain ⟨rfl, hact⟩ := h _ hcall
  cases act with
  | makeRecord target => exact absurd rfl (hact target)
  | _ => rfl

theorem NotAcquired.openFailed (h : NotAcquired V W) (hV : Balanced V) : OpenFailed V W := by
  refine ⟨⟨h.orderly, fun key => ?_⟩, ?_⟩
  · rw [h.users, hV.users, usersOf_congr h.sessions, h.failures.leaks]
  · obtain ⟨added, hfs, hadded⟩ := h.failures
    exact ⟨added, hfs, iff_of_true h.users (strands_of_harmless hadded)⟩

section

variable (h : Acquired key V W)
include h

/-- The users of a target that was acquired are not what they were. -/
theorem Acquired.users_ne (hX : X.backend.users = W.backend.users) :
    X.backend.users ≠ V.backend.users := by
  intro heq
  have hcount := h.users key
  rw [← hX, heq, if_pos rfl] at hcount
  omega

/-- The count is right again if the user is one of the leaks. -/
theorem Acquired.balanced_leak (hV : Balanced V) (hord : Orderly X)
    (hsess : SameSessions W X) (husers : X.backend.users = W.backend.users) {call}
    (hfs : X.backend.failures = call :: W.backend.failures)
    (hcall : ∀ target, call.leaks target = true ↔ key = target) : Balanced X := by
  refine ⟨hord, fun target => ?_⟩
  have hleaks : X.backend.leaks target =
      V.backend.leaks target + if target = key then 1 else 0 := by
    rw [leaks, hfs, h.failures, countP_cons, leaks]
    exact congrArg _ (if_congr ((hcall target).trans eq_comm) rfl rfl)
  rw [husers, h.users, hV.users, usersOf_congr hsess, usersOf_congr h.sessions, hleaks]
  omega

/-- The record cannot be made. -/
theorem Acquired.openFailed_record (hV : Balanced V) :
    OpenFailed V (W.fail ⟨.opening, .makeRecord key⟩) := by
  have hfs : (W.fail ⟨.opening, .makeRecord key⟩).backend.failures =
      ⟨.opening, .makeRecord key⟩ :: W.backend.failures := failures_fail nofun
  refine ⟨h.balanced_leak hV (h.orderly.of_sameLocks sameLocks_fail) sessions_fail users_fail
    hfs fun target => ?_, [⟨.opening, .makeRecord key⟩], ?_,
      iff_of_false ?_ (by simp [BrowseCall.strands])⟩
  · simp [BrowseCall.leaks]
  · rw [hfs, h.failures]
    rfl
  · exact h.users_ne users_fail

/-- The session exists, and the target is released again. -/
theorem Acquired.openFailed_released (hV : Balanced V)
    (hX : Released key W X) : OpenFailed V X := by
  have husers : X.backend.users = V.backend.users := by
    funext target
    rw [hX.users, h.users, Nat.add_sub_cancel]
  have hfs : X.backend.failures = V.backend.failures := hX.failures.trans h.failures
  refine ⟨⟨hX.orderly, fun target => ?_⟩, [], hfs, iff_of_true husers (by simp)⟩
  rw [husers, hV.users, usersOf_congr hX.sessions, usersOf_congr h.sessions, leaks_congr hfs]

/-- The session exists, and the target cannot be released again. -/
theorem Acquired.openFailed_notReleased (hV : Balanced V)
    (hX : NotReleased .duplicate key W X) : OpenFailed V X := by
  obtain ⟨⟨site, act⟩, hfs, rfl, hact⟩ := hX.failure
  have hstrands : BrowseCall.strands ⟨.duplicate, act⟩ = true := by
    cases act <;> first | rfl | simp [Action.releases] at hact
  refine ⟨h.balanced_leak hV hX.orderly hX.sessions hX.users hfs fun target => ?_,
    [⟨.duplicate, act⟩], ?_, iff_of_false (h.users_ne hX.users) (by simp [hstrands])⟩
  · cases act with
    | lock other mode =>
      obtain rfl : other = key := by simpa [Action.releases] using hact
      simp [BrowseCall.leaks, Action.releases]
    | stopUnit other unit =>
      obtain rfl : other = key := by simpa [Action.releases] using hact
      simp [BrowseCall.leaks, Action.releases]
    | _ => simp [Action.releases] at hact
  · rw [hfs, h.failures]
    rfl

/-- The session is entered: the user has its session. -/
theorem Acquired.balanced_session (hV : Balanced V)
    (hfree : V.backend.sessions.find? id = none) (hkey : mount.targetKey = key)
    (hheld : mount.targetReleased = false) : Balanced (W.onBackend (addSession ⟨id, mount⟩)) := by
  have hfreeW : W.backend.sessions.find? id = none := by
    rw [show W.backend.sessions = V.backend.sessions from h.sessions]
    exact hfree
  refine ⟨h.orderly.of_sameLocks ⟨rfl, rfl, rfl⟩, fun target => ?_⟩
  have husers : (W.onBackend (addSession ⟨id, mount⟩)).backend.users target =
      W.backend.users target := rfl
  have hleaks : (W.onBackend (addSession ⟨id, mount⟩)).backend.leaks target =
      V.backend.leaks target := leaks_congr h.failures
  have hcount : ((W.onBackend (addSession ⟨id, mount⟩)).backend.usersOf target).length =
      (V.backend.usersOf target).length + if target = key then 1 else 0 := by
    have huses : (uses target ⟨id, mount⟩ = true) ↔ target = key := by
      simp [uses, hkey, hheld, eq_comm]
    rw [usersOf_addSession hfreeW, usersOf_congr h.sessions]
    by_cases heq : target = key
    · rw [if_pos (huses.mpr heq), if_pos heq, length_cons]
    · rw [if_neg (huses.not.mpr heq), if_neg heq, Nat.add_zero]
  rw [husers, h.users, hV.users, hcount, hleaks]
  omega

end

/-- The session is gone again, and its user with it. -/
theorem openFailed_closed (hV : Balanced V) (hX : Harmless V X)
    (hothers : X.backend.sessions.remove id = V.backend.sessions)
    (h : Closed id X Y) : OpenFailed V Y := by
  have hsess : SameSessions V Y := h.sessions.trans hothers
  have hleaks : ∀ target, Y.backend.leaks target = V.backend.leaks target := fun _ =>
    (leaks_congr h.failures).trans hX.leaks
  obtain ⟨added, hfs, hadded⟩ := hX
  refine ⟨h.balanced, added, h.failures.trans hfs, iff_of_true ?_ (strands_of_harmless hadded)⟩
  funext target
  rw [h.balanced.users, hV.users, usersOf_congr hsess, hleaks]

/-- The session is still there: it stands for its user until the target is released. -/
theorem openFailed_unclosed (hV : Balanced V) (hX : Harmless V X)
    (hothers : X.backend.sessions.remove id = V.backend.sessions)
    (hheld : mount.targetReleased = false) (h : Unclosed .rollback id mount X Y) :
    OpenFailed V Y := by
  obtain ⟨hbal, mount', ⟨site, act⟩, hrec, hkey, hfailed, rfl, hearly⟩ := h
  have hcount : ∀ target, Y.backend.users target = V.backend.users target +
      if uses target ⟨id, mount'⟩ then 1 else 0 := by
    intro target
    have hbesides : X.backend.besides id target = (V.backend.usersOf target).length := by
      rw [besides, hothers, usersOf, length_map]
    have hleaks : Y.backend.leaks target = V.backend.leaks target :=
      (leaks_cons (.inl rfl) rfl hfailed).trans hX.leaks
    rw [hbal.users, hV.users, length_usersOf hrec, hbesides, hleaks]
    omega
  obtain ⟨added, hfs, hadded⟩ := hX
  refine ⟨hbal, ⟨.rollback, act⟩ :: added, by rw [hfailed, hfs, cons_append], ?_⟩
  rw [forall_mem_cons]
  refine Iff.trans ?_ (and_iff_left (strands_of_harmless hadded)).symm
  show _ ↔ act.early = false
  rw [← Bool.not_eq_true, hearly hheld, Bool.not_eq_false]
  constructor
  · intro heq
    have hsame := hcount mount'.targetKey
    rw [heq] at hsame
    by_contra hrel
    have huses : uses mount'.targetKey ⟨id, mount'⟩ = true := by
      simpa [uses] using hrel
    rw [huses, if_pos rfl] at hsame
    omega
  · intro hrel
    funext target
    rw [hcount, if_neg (by simp [uses, hrel]), Nat.add_zero]

/-- `open`. -/
theorem acts_openSession {sessionRoot : FsPath} {pid : ProfileId} {callerUid : Nat}
    (hV : Balanced V) : Acts (openSession sessionRoot pid id callerUid) V (fun _ => Balanced)
      fun _ => OpenFailed V := by
  have hrefl : NotAcquired V V := NotAcquired.refl hV.toOrderly
  have hfail : ∀ act, (∀ target, act ≠ Action.makeRecord target) →
      OpenFailed V (V.fail ⟨.opening, act⟩) :=
    fun act hact => (hrefl.fail hact).openFailed hV
  refine acts_pass (acts_ask plain_opening (fun _ => rfl) fun _ => hfail _ nofun) fun _ => ?_
  refine acts_pass (acts_ask plain_opening (fun _ => rfl) fun _ => hfail _ nofun) fun profile => ?_
  have hfree : V.backend.users profile.target.luksUuid.value = 0 →
      V.backend.usersOf profile.target.luksUuid.value = [] := by
    intro hzero
    have hcount := hV.users profile.target.luksUuid.value
    exact length_eq_zero_iff.mp (by omega)
  refine acts_seq ((acts_acquireTarget hV.toOrderly rfl hfree).mono (fun _ _ h => h)
    fun _ W hW => hW.openFailed hV) fun target W hW => ?_
  refine acts_seq (M := fun record X => X = W ∧
    record.targetKey = profile.target.luksUuid.value ∧ record.targetReleased = false)
    ?_ ?_
  · exact acts_ask plain_opening (fun _ => ⟨rfl, rfl, rfl⟩) fun _ => hW.openFailed_record hV
  rintro mount W ⟨rfl, hkey, hheld⟩
  refine acts_look fun s hs => ?_
  have hbackend : s.backend = W.backend := congrArg View.backend hs
  have hsess : W.backend.sessions = V.backend.sessions := hW.sessions
  rw [hbackend, hsess]
  rcases hfind : V.backend.sessions.find? id with _ | session
  · refine acts_onBackend (Step.quiet ⟨rfl, rfl, rfl⟩ rfl fun _ => .inl) ?_
    have hentered := hW.balanced_session hV hfind hkey hheld
    have hfreeW : W.backend.sessions.find? id = none := hsess ▸ hfind
    have hfound : (W.onBackend (addSession ⟨id, mount⟩)).backend.sessions.find? id =
        some ⟨id, mount⟩ := find?_eq_some.mpr ⟨(mem_add hfreeW).mpr (.inl rfl), rfl⟩
    refine acts_handleError ((acts_establish hfound).mono ?_ fun _ _ h => h) ?_
    · rintro - X ⟨mount', hclean, hharmless⟩
      exact hentered.of_recorded hfound hclean.locks hclean.recorded hclean.uses
        fun key => hharmless.leaks
    · rintro e X ⟨mount', hclean, hharmless⟩
      have hX : Balanced X := hentered.of_recorded hfound hclean.locks hclean.recorded hclean.uses
        fun key => hharmless.leaks
      have hothers : X.backend.sessions.remove id = V.backend.sessions :=
        hclean.recorded.others.trans ((remove_add hfreeW).trans hsess)
      have hsince : Harmless V X := by
        obtain ⟨added, hfs, hadded⟩ := hharmless
        exact ⟨added, hfs.trans (congrArg _ hW.failures), hadded⟩
      refine acts_seq (acts_attempt ((acts_closeSession hX
        (.inl rfl)).mono (fun _ _ => openFailed_closed hV hsince hothers) ?_))
          fun _ _ h => acts_fail h
      rintro - Y ⟨mount'', hfind'', hunclosed⟩
      obtain rfl : mount' = mount'' := by simpa [hclean.recorded.found] using hfind''
      exact openFailed_unclosed hV hsince hothers (hclean.targetReleased.trans hheld) hunclosed
  · refine acts_seq
      ((acts_releaseTarget (.inl rfl) hW.orderly fun hlast => ?_).mono (fun _ _ h => h)
        fun _ X hX => hW.openFailed_notReleased hV hX)
      fun _ X hX => acts_fail (hW.openFailed_released hV hX)
    have hcount := hW.users profile.target.luksUuid.value
    rw [if_pos rfl] at hcount
    rw [othersOf_congr hW.sessions, othersOf, hfree (by omega)]
    rfl

end opening

/-! ### Stale records -/

/-- A program that keeps the books, whether it returns or throws. -/
def Books (p : BrowseProg α) : Prop :=
  ∀ V, Balanced V → Acts p V (fun _ => Balanced) fun _ => Balanced

section stale

variable {α β : Type} {id : BrowseSessionId} {mount : BrowseSessionMountRecord} {act : Action}
  {p : BrowseProg α} {sessionRoot : FsPath}

theorem books_ret {a : α} : Books (.ret a : BrowseProg α) := fun _ hV => acts_ret hV

theorem Books.seq {k : α → BrowseProg β} (hp : Books p) (hk : ∀ a, Books (k a)) :
    Books (p >>= k) := fun V hV => acts_seq (hp V hV) fun a W hW => hk a W hW

theorem Books.attempt (hp : Books p) : Books p.attempt :=
  fun V hV => acts_attempt (hp V hV)

theorem books_ite {c : Prop} [Decidable c] {q : BrowseProg α} (hp : Books p) (hq : Books q) :
    Books (if c then p else q) := by
  split
  · exact hp
  · exact hq

theorem books_ask {value : BrowseAnswer → α} (hact : ∀ target, act ≠ .lock target .exclusive) :
    Books (ask .stale act value) := fun _ hV =>
  acts_ask (plain_of_ne nofun hact) (fun _ => hV) fun _ => hV.fail fun _ => rfl

theorem books_runUnit {message : String} (hact : ∀ target, act ≠ .lock target .exclusive) :
    Books (runUnit .stale act message) := fun _ hV =>
  acts_runUnit (plain_of_ne nofun hact) hV fun _ => hV.fail fun _ => rfl

theorem books_writeMarker {record} : Books (writeMarker .stale id record) := by
  intro V hV
  refine acts_writeMarker nofun ?_ ?_
  · intro W hlocks hsess hfs
    exact hV.of_same hlocks hsess fun _ => leaks_congr hfs
  · intro e W hlocks hsess hfs
    refine hV.of_same hlocks hsess fun key => ?_
    rw [leaks, hfs, countP_cons_of_neg (by simp [BrowseCall.leaks]), leaks]

theorem books_unmount {target : FsPath} : Books (unmount .stale id target) :=
  (books_ask fun _ => Action.noConfusion).seq fun _ =>
    books_ite books_ret (books_runUnit nofun)

theorem books_readMarker : Books (readMarker sessionRoot id) := fun _ hV =>
  acts_effect fun _ _ hs => ⟨hs ▸ Step.refl _, hs ▸ acts_ret hV⟩

theorem books_readMarkers {live : List BrowseSessionId}
    (ids : List BrowseSessionId) : Books (readMarkers sessionRoot live ids) := by
  induction ids with
  | nil => exact books_ret
  | cons id ids ih =>
    exact (books_ite books_ret books_readMarker).seq fun _ => ih.seq fun _ => books_ret

theorem books_unmountStale : Books (unmountStale id mount) := by
  refine books_ite (books_unmount.attempt.seq fun unmounted => ?_) books_ret
  cases unmounted with
  | error e => exact books_ret
  | ok _ => exact books_writeMarker.attempt.seq fun _ => books_ret

theorem books_unmountAllStale (records : List (BrowseSessionId × BrowseSessionMountRecord)) :
    Books (unmountAllStale records) := by
  induction records with
  | nil => exact books_ret
  | cons record records ih =>
    exact books_unmountStale.seq fun _ => ih.seq fun _ => books_ret

/-- The unit of a stale record is stopped without a lock: there is no lease. -/
theorem books_releaseStaleTarget : Books (releaseStaleTarget id mount) := by
  refine books_ite (fun V hV => acts_look fun s hs => ?_) books_ret
  have hbackend : s.backend = V.backend := congrArg View.backend hs
  rw [hbackend]
  refine acts_seq (M := fun _ W => W = V ∧ (V.backend.targets mount.targetKey).isNone = true)
    (acts_ensure (fun hnone => ⟨rfl, hnone⟩) fun _ => hV) ?_
  rintro - V ⟨rfl, hnone⟩
  have hmode : V.modes mount.targetKey = none := hV.unclaimed _ (Option.isNone_iff_eq_none.mp hnone)
  have hstopped : Balanced (V.stop .stale mount.targetKey mount.targetUnit (some id)) :=
    hV.of_same ⟨rfl, rfl, rfl⟩ rfl fun _ => rfl
  exact acts_stopUnit nofun (by simp [hmode]) hstopped fun _ => hstopped.fail fun _ => rfl

/-- `cleanup_record` of a stale record. -/
theorem books_cleanupRecord : Books (cleanupRecord .stale id mount false) := by
  have hview : ∀ m, Books (cleanupView .stale id m false) := fun m =>
    books_ite (books_unmount.seq fun _ => books_ret.seq fun _ => books_writeMarker.seq fun _ =>
      books_ret) books_ret
  have htgt : ∀ m, Books (cleanupTarget .stale id m false) := fun m =>
    books_ite books_ret (books_releaseStaleTarget.seq fun _ => books_ret.seq fun _ =>
      books_writeMarker)
  refine (hview mount).seq fun mount => (books_runUnit fun _ => Action.noConfusion).seq fun _ =>
    (htgt mount).seq fun _ V hV => acts_perform ?_ ?_
  · rintro i s - rfl -
    exact ⟨Step.quiet ⟨rfl, rfl, rfl⟩ rfl fun _ => .inl,
      hV.of_same ⟨rfl, rfl, rfl⟩ rfl fun _ => rfl⟩
  · rintro i s e rfl -
    exact ⟨(Step.refl _).fail nofun rfl, hV.fail fun _ => rfl⟩

theorem books_forEach {f} (bs : List β) (h : ∀ b, Books (f b)) :
    Books (forEach f bs) := fun _ hV => acts_forEach hV fun b _ W hW => h b W hW

/-- `cleanup_stale`. -/
theorem books_cleanupStale : Books (cleanupStale sessionRoot) :=
  fun V hV => acts_look fun _ _ =>
    ((books_ask fun _ => Action.noConfusion).seq fun _ => (books_readMarkers _).seq fun _ =>
      (books_unmountAllStale _).seq fun _ => books_forEach _ fun _ =>
        books_cleanupRecord.attempt.seq fun _ => books_ret) V hV

/-! ### All calls -/

theorem books_serve (req : Request) : Books (req.serve sessionRoot) := by
  intro V hV
  cases req with
  | openSession pid id callerUid =>
    exact (acts_openSession hV).mono (fun _ _ h => h) fun _ _ h => h.balanced
  | closeSession id =>
    refine (acts_closeSession hV (.inr rfl)).mono (fun _ _ h => h.balanced) ?_
    rintro - W ⟨mount, -, h⟩
    exact h.balanced
  | cleanupStale => exact books_cleanupStale V hV

theorem books_serveAll (reqs : List Request) : Books (serveAll sessionRoot reqs) :=
  books_forEach reqs fun req => (books_serve req).attempt.seq fun _ => books_ret

end stale

/-! ### The count of users -/

/-- A daemon that has just started: the marker files may be of earlier ones. -/
structure Fresh (V : View) : Prop where
  targets : V.backend.targets = fun _ => none
  sessions : V.backend.sessions = .empty
  modes : V.modes = fun _ => none
  settled : V.backend.converting = none
  failures : V.backend.failures = []
  stops : V.backend.stops = []

variable {V : View}

theorem Fresh.balanced (h : Fresh V) : Balanced V := by
  refine ⟨⟨?_, ?_, ?_, ?_, h.settled⟩, fun key => ?_⟩
  · intro key lease hlease
    simp [h.targets] at hlease
  · intro key lease hlease
    simp [h.targets] at hlease
  · intro key lease hlease
    simp [h.targets] at hlease
  · intro key _
    rw [h.modes]
  · rw [users_of_none (congrFun h.targets key), usersOf, h.sessions, leaks, h.failures]
    rfl

theorem Orderly.isSome_iff (h : Orderly V) (key : String) :
    (V.backend.targets key).isSome = true ↔ 1 ≤ V.backend.users key := by
  rcases hlease : V.backend.targets key with _ | lease
  · simp [users_of_none hlease]
  · rw [users_of_some hlease]
    exact iff_of_true rfl (h.positive key lease hlease)

/-- The users are counted right, and the target has a lease exactly if it has users. -/
def Accounted (backend : Backend) : Prop :=
  ∀ key, backend.users key = (backend.usersOf key).length ∧
    ((backend.targets key).isSome = true ↔ 1 ≤ (backend.usersOf key).length)

theorem Balanced.accounted_iff (h : Balanced V) :
    Accounted V.backend ↔ ∀ key, V.backend.leaks key = 0 := by
  refine forall_congr' fun key => ?_
  rw [h.isSome_iff, h.users]
  constructor
  · rintro ⟨hcount, -⟩
    omega
  · intro hzero
    rw [hzero]
    exact ⟨rfl, Iff.rfl⟩

/-- After any calls, with runs beside them: the books are right exactly if no user was
left behind; and an `open` that fails then leaves counts and leases as they were
exactly if none of its calls has failed that leaves a user behind. -/
theorem lease_accounting_iff {sessionRoot : FsPath} {requests : List Request}
    {leases : Nat → List String} {system : BrowseSystem}
    {schedule : List (LockOwner × BrowseAnswer)} (hfresh : Fresh system.view)
    (hserved : ((Pool.run schedule (browsePool sessionRoot requests leases system)).thread
      .daemon).result = some (.ok ())) :
    let pool := Pool.run schedule (browsePool sessionRoot requests leases system)
    (Accounted pool.state.backend ↔ ∀ key, pool.state.backend.leaks key = 0) ∧
      ∀ profileId id callerUid schedule' e,
        let after := Pool.run schedule' { pool with
          thread := Function.update pool.thread .daemon
            (openSession sessionRoot profileId id callerUid) }
        (after.thread .daemon).result = some (.error e) →
        ∃ added, after.state.backend.failures = added ++ pool.state.backend.failures ∧
          ((∀ key, after.state.backend.users key = pool.state.backend.users key ∧
              ((after.state.backend.targets key).isSome = true ↔
                (pool.state.backend.targets key).isSome = true)) ↔
            ∀ call ∈ added, call.strands = false) := by
  intro pool
  have hfollowed : Followed Balanced (fun _ => Balanced) pool :=
    (followed_browsePool (books_serveAll requests _ hfresh.balanced)).run schedule
  have hbalanced : Balanced pool.state.view := hfollowed.returned hserved
  refine ⟨hbalanced.accounted_iff, ?_⟩
  intro profileId id callerUid schedule' e after herror
  have hopened : OpenFailed pool.state.view after.state.view :=
    ((hfollowed.restart (acts_openSession hbalanced)).run schedule').thrown herror
  obtain ⟨added, hfailures, hiff⟩ := hopened.unchanged_iff
  refine ⟨added, hfailures, Iff.trans ?_ hiff⟩
  constructor
  · intro hsame
    exact funext fun key => (hsame key).1
  · intro hsame key
    have husers : after.state.backend.users key = pool.state.backend.users key := congrFun hsame key
    refine ⟨husers, ?_⟩
    have hafter := hopened.balanced.isSome_iff key
    have hbefore := hbalanced.isSome_iff key
    exact hafter.trans ((iff_of_eq (congrArg (1 ≤ ·) husers)).trans hbefore.symm)

namespace Sample

theorem identifierOk_browse : identifierOk "browse-1" = true := by decide

open BtrfsBackup.Sample (documentProfile targetMount)

/-- A daemon that has just started, without marker files. -/
def started : BrowseSystem :=
  ⟨⟨fun _ => none, .empty, fun _ => none, none, [], []⟩, fun _ => .free⟩

theorem fresh_started : Fresh started.view := ⟨rfl, rfl, rfl, rfl, rfl, rfl⟩

def session : BrowseSessionId := ⟨"browse-1", identifierOk_browse⟩

def sessionRoot : FsPath := FsPath.ofString "/run/btrfs-backup-browse"

def target : String := documentProfile.target.luksUuid.value

/-- The call to open the session. -/
def opening : Request := .openSession documentProfile.id session 1000

/-- A call that succeeds. -/
def success : BrowseAnswer where
  error := none
  took := false
  ok := true
  profile := documentProfile
  mounts := [targetMount]
  weaklyCanonical := fun _ => none
  ids := []

/-- A call that throws. -/
def failure : BrowseAnswer :=
  { success with error := some (.exception (validationError "no space")) }

def daemon (answers : List BrowseAnswer) : List (LockOwner × BrowseAnswer) :=
  answers.map fun answer => (.daemon, answer)

/-- The session is entered; the directory does not exist yet. -/
def entering : List BrowseAnswer := List.replicate 14 success ++ [{ success with ok := false }]

/-- A daemon that opens one session. -/
def browsing : Pool LockOwner BrowseCall BrowseAnswer BrowseSystem ManagerFailure Unit :=
  browsePool sessionRoot [opening] (fun _ => []) started

/-- The record of the session cannot be made. -/
def unrecorded : Pool LockOwner BrowseCall BrowseAnswer BrowseSystem ManagerFailure Unit :=
  Pool.run (daemon (List.replicate 11 success ++ [failure])) browsing

/-- The view cannot be mounted, and the rollback cannot look at the mounts. -/
def stranded : Pool LockOwner BrowseCall BrowseAnswer BrowseSystem ManagerFailure Unit :=
  Pool.run (daemon (entering ++ List.replicate 4 success ++ [failure, success, failure])) browsing

/-- In both cases `open` fails and the target has one user more, in the first without a
session. -/
theorem users_left_behind : (unrecorded.thread .daemon).result = some (.ok ()) ∧
      unrecorded.state.backend.users target = 1 ∧ unrecorded.state.backend.usersOf target = [] ∧
    (stranded.thread .daemon).result = some (.ok ()) ∧ stranded.state.backend.users target = 1 ∧
        stranded.state.backend.usersOf target = [session] := by
  decide +kernel

/-- The session is opened; another `open` for it fails. -/
theorem opened_accounting :
    let pool := Pool.run (daemon (entering ++ List.replicate 6 success)) browsing
    (Accounted pool.state.backend ↔ ∀ key, pool.state.backend.leaks key = 0) ∧
      ∀ profileId id callerUid schedule' e,
        let after := Pool.run schedule' { pool with
          thread := Function.update pool.thread .daemon
            (openSession sessionRoot profileId id callerUid) }
        (after.thread .daemon).result = some (.error e) →
        ∃ added, after.state.backend.failures = added ++ pool.state.backend.failures ∧
          ((∀ key, after.state.backend.users key = pool.state.backend.users key ∧
              ((after.state.backend.targets key).isSome = true ↔
                (pool.state.backend.targets key).isSome = true)) ↔
            ∀ call ∈ added, call.strands = false) := by
  have hserved : ((Pool.run (daemon (entering ++ List.replicate 6 success)) browsing).thread
      .daemon).result = some (.ok ()) := by decide +kernel
  exact lease_accounting_iff fresh_started hserved

end Sample

end Browse

end BtrfsBackup
