/-
How long a browse session can be used.

The service looks at the deadlines of a session only in `expire`; an operation checks
that the session is there and belongs to the caller, and moves the deadline.  So an
operation is in time if `expire` was called before it, could close what it wanted to
close, and no session has ended since.

* `Shut` — there is no session of a profile that is ejected, and none can be opened;
* `Sane` — the limits of the service, and that a session whose close was attempted is dead
  as long as no operation was let through for such a session;
* `Sound` — what holds during a call: what is sane stays sane, what is shut stays shut;
* `kept_of_sweeps` — what such a pass of `expire` leaves;
* `timely` — calls in which every operation follows such a pass;
* `session_lifetime` — in every run the limits hold, and in a timely one the operations
  are lawful.
-/
import BtrfsBackup.BrowseSessions

open Interaction Interaction.Prog Keyed.Store

namespace BtrfsBackup.BrowseService

open Browse (BrowseSessionId)
open WithTop (coe_le_coe)
open Function (update_of_ne update_self)

/-! ### Lawful operations -/

/-- An operation is made by the caller who opened the session, within the maximum
lifetime, before the deadline or during an operation, and before any attempt to close. -/
structure Use.Lawful (settings : Settings) (use : Use) : Prop where
  caller : use.caller = use.session.callerBusName
  lifetime : use.time < use.session.openedAt + settings.maximumLifetime
  deadline : use.time < use.session.deadline ∨
    ∃ lease ∈ use.session.operationLeases, use.time < lease.2
  open_ : use.session.closeAttempted = false

/-- The limits of the service. -/
structure WithinLimits (settings : Settings) (state : ServiceState) : Prop where
  sessions : state.sessions.items.length ≤ settings.globalLimit
  perCaller : ∀ caller, state.callerSessions caller ≤ settings.perCallerLimit
  leases : ∀ session ∈ state.sessions,
    session.operationLeases.items.length ≤ settings.operationLeaseLimit

/-- A session that `expire` closes at any time. -/
def Session.Dead (session : Session) : Prop :=
  session.deadline = timeMin ∧ session.operationLeases.items = []

/-- The data of a session that only an attempt to close it changes. -/
structure Session.Continues (session before : Session) : Prop where
  id : session.id = before.id
  profileId : session.profileId = before.profileId
  caller : session.callerBusName = before.callerBusName
  openedAt : session.openedAt = before.openedAt
  absoluteDeadline : session.absoluteDeadline = before.absoluteDeadline

namespace Session

variable {ses pre : Session} {now : Int}

theorem continues_refl (ses : Session) : ses.Continues ses := ⟨rfl, rfl, rfl, rfl, rfl⟩

theorem continues_extendTo (cfg : Settings) (steady wall : Int) (ses : Session) :
    (ses.extendTo cfg steady wall).Continues ses := ⟨rfl, rfl, rfl, rfl, rfl⟩

theorem Continues.trans {later : Session} (h : later.Continues ses)
    (h' : ses.Continues pre) : later.Continues pre :=
  ⟨h.id.trans h'.id, h.profileId.trans h'.profileId, h.caller.trans h'.caller,
    h.openedAt.trans h'.openedAt, h.absoluteDeadline.trans h'.absoluteDeadline⟩

theorem prune_ne_nil_iff : (ses.pruneExpiredLeases now).operationLeases.items ≠ [] ↔
    ∃ lease ∈ ses.operationLeases, now < lease.2 := by
  have hmem : ∀ lease, lease ∈ (ses.pruneExpiredLeases now).operationLeases ↔
      lease ∈ ses.operationLeases ∧ now < lease.2 := fun lease => by
    rw [pruneExpiredLeases, mem_filter, decide_eq_true_iff]
  constructor
  · intro hne
    obtain ⟨lease, hlease⟩ := List.exists_mem_of_ne_nil _ hne
    exact ⟨lease, (hmem lease).mp hlease⟩
  · rintro ⟨lease, hlease⟩
    exact List.ne_nil_of_mem ((hmem lease).mpr hlease)

theorem prune_length_le (now : Int) (ses : Session) :
    (ses.pruneExpiredLeases now).operationLeases.items.length ≤ ses.operationLeases.items.length :=
  length_filter_le _ _

theorem Dead.prune (h : ses.Dead) (now : Int) : (ses.pruneExpiredLeases now).Dead := by
  refine ⟨h.1, List.length_eq_zero_iff.mp (Nat.le_zero.mp ?_)⟩
  calc _ ≤ ses.operationLeases.items.length := prune_length_le now ses
    _ = 0 := by rw [h.2, List.length_nil]

theorem Dead.not_keepsAt (h : ses.Dead) (hnow : timeMin ≤ now) : ¬ ses.keepsAt now := by
  rintro ⟨-, hleases | hdeadline⟩
  · exact hleases (h.prune now).2
  · rw [h.1] at hdeadline
    exact absurd hdeadline (not_lt.mpr hnow)

/-- A session that is kept was to be kept before. -/
theorem keepsAt.anti {later : Int} (h : ses.keepsAt later) (hle : now ≤ later) :
    ses.keepsAt now := by
  refine ⟨hle.trans_lt h.1, h.2.imp (fun hleases => ?_) hle.trans_lt⟩
  obtain ⟨lease, hlease, hlater⟩ := prune_ne_nil_iff.mp hleases
  exact prune_ne_nil_iff.mpr ⟨lease, hlease, hle.trans_lt hlater⟩

theorem keepsAt.keepsAt_prune (h : ses.keepsAt now) : (ses.pruneExpiredLeases now).keepsAt now := by
  refine ⟨h.1, h.2.imp_left fun hleases => ?_⟩
  obtain ⟨lease, hlease, hlater⟩ := prune_ne_nil_iff.mp hleases
  refine prune_ne_nil_iff.mpr ⟨lease, mem_filter.mpr ⟨hlease, ?_⟩, hlater⟩
  exact decide_eq_true hlater

end Session

/-! ### Ejects -/

/-- There is no session of a profile. -/
def Unbrowsed (profile : ProfileId) (state : ServiceState) : Prop :=
  ∀ session ∈ state.sessions, session.profileId ≠ profile

/-- The profile is being ejected, or the delay after an eject is not known to be over. -/
def Barred (profile : ProfileId) (state : ServiceState) : Prop :=
  profile ∈ state.ejectingProfiles ∨ state.browseReopenAfter profile ≠ none

/-- Before `limit` there are no sessions of the profile: it is being ejected, or the delay lasts
so long.  There is no limit while the eject has not ended. -/
structure Shut (profile : ProfileId) (limit : WithTop Int) (state : ServiceState) : Prop where
  barred : (state.clock : WithTop Int) < limit → Unbrowsed profile state ∧
    (profile ∈ state.ejectingProfiles ∨
      ∃ delayed : Int, state.browseReopenAfter profile = some delayed ∧ limit ≤ delayed)
  recent : limit ≠ ⊤ → limit ≤ ↑(state.clock + browseReopenDelay)

/-- What `begin_target_eject` does before it looks at the sessions. -/
def startEjecting (profileId : ProfileId) (state : ServiceState) : ServiceState :=
  { state with
    ejectingProfiles := profileId :: state.ejectingProfiles
    browseReopenAfter := Function.update state.browseReopenAfter profileId none }

section shut

variable {p other : ProfileId} {limit : WithTop Int} {s next : ServiceState} {ses : Session}

theorem Shut.isBarred (h : Shut p limit s) (hpre : (s.clock : WithTop Int) < limit) :
    Barred p s :=
  (h.barred hpre).2.imp_right fun ⟨_, hsome, _⟩ hnone => nomatch hsome.symm.trans hnone

/-- The time is over if a session is there. -/
theorem Shut.over (h : Shut p limit s) (hses : ses ∈ s.sessions) (hprof : ses.profileId = p) :
    limit ≤ s.clock :=
  not_lt.mp fun hpre => (h.barred hpre).1 ses hses hprof

theorem shut_of_le (h : limit ≤ s.clock) : Shut p limit s := by
  refine ⟨fun hpre => absurd hpre (not_lt.mpr h), fun _ => h.trans (coe_le_coe.mpr ?_)⟩
  exact le_add_of_nonneg_right (by decide)

/-- A step after which every session is one from before, as far as profiles go. -/
theorem Shut.step (h : Shut p limit s) (hclock : s.clock ≤ next.clock)
    (hejecting : next.ejectingProfiles = s.ejectingProfiles)
    (hreopen : next.browseReopenAfter = s.browseReopenAfter)
    (hsess : Barred p s → Unbrowsed p s → Unbrowsed p next) : Shut p limit next := by
  constructor
  · intro hpre
    have hearlier := (coe_le_coe.mpr hclock).trans_lt hpre
    obtain ⟨hnone, hbarred⟩ := h.barred hearlier
    rw [hejecting, hreopen]
    exact ⟨hsess (h.isBarred hearlier) hnone, hbarred⟩
  · intro hlimit
    refine (h.recent hlimit).trans (coe_le_coe.mpr ?_)
    omega

/-- The delay of another profile changes. -/
theorem Shut.reopen (h : Shut p limit s) (hne : p ≠ other) (delay : Option Int) :
    Shut p limit { s with
      browseReopenAfter := Function.update s.browseReopenAfter other delay } := by
  refine ⟨fun hpre => ?_, h.recent⟩
  show _ ∧ (_ ∨ ∃ delayed : Int, Function.update s.browseReopenAfter other delay p = _ ∧ _)
  rw [update_of_ne hne]
  exact h.barred hpre

theorem Shut.endEjecting (h : Shut p limit s) (hne : p ≠ other) :
    Shut p limit (endEjecting other s) :=
  ⟨fun hpre => (h.barred hpre).imp_right (Or.imp_left (List.mem_erase_of_ne hne).mpr), h.recent⟩

theorem Shut.startEjecting (h : Shut p limit s) : Shut p limit (startEjecting other s) := by
  by_cases hsame : p = other
  · exact ⟨fun hpre => ⟨(h.barred hpre).1, .inl (hsame ▸ List.mem_cons_self)⟩, h.recent⟩
  · have hreopen := h.reopen hsame none
    exact ⟨fun hpre => (hreopen.barred hpre).imp_right (Or.imp_left (List.mem_cons_of_mem _)),
      h.recent⟩

end shut

/-! ### The invariant -/

/-- No operation was let through after an attempt to close its session. -/
def Unclosed (state : ServiceState) : Prop :=
  ∀ use ∈ state.accepted, use.session.closeAttempted = false

/-- What holds in the states of the service. -/
structure Sane (settings : Settings) (state : ServiceState) : Prop where
  limits : WithinLimits settings state
  absolute : ∀ session ∈ state.sessions,
    session.absoluteDeadline = session.openedAt + settings.maximumLifetime
  clock : timeMin ≤ state.clock
  returned : ∀ use ∈ state.succeeded, use ∈ state.accepted
  -- an attempt to close a session is final if nobody has revived the session
  dead : Unclosed state →
    ∀ session ∈ state.sessions, session.closeAttempted = true → session.Dead

/-- Is the call an operation on a session? -/
def Request.isOperation : Request → Bool
  | .renew _ _ | .beginOperation _ _ | .endOperation _ _ _ | .listDirectory _ _ _ _
  | .listDirectoryPage _ _ _ _ _ | .inspectEntry _ _ _ | .listPreviousVersions _ _ _ _ _ _ _
  | .openFile _ _ _ | .openEntry _ _ _ | .inspectRepository _ _ => true
  | .openSession _ _ _ | .close _ _ | .closeForCaller _ | .beginTargetEject _ | .endTargetEject _
  | .expire => false

/-- What holds whenever the service calls the outside, in a call that has begun in the state
`start`. -/
structure Sound (settings : Settings) (request : Request) (start state : ServiceState) :
    Prop where
  sane : Sane settings start → Sane settings state
  -- an operation is let through for a session that was there when the call began
  uses : ∃ new, state.accepted = new ++ start.accepted ∧
    (request.isOperation = false → new = []) ∧
    ∀ use ∈ new, use.caller = use.session.callerBusName ∧ use.session ∈ start.sessions ∧
      use.time ≤ state.clock
  -- only the end of its eject opens a profile
  shut : ∀ profile limit, request ≠ .endTargetEject profile → Shut profile limit start →
    Shut profile limit state

section sound

variable {cfg : Settings} {req : Request} {start s next : ServiceState} {ses cur : Session}
  {prof : ProfileId}

theorem sane_initial {clock : Int} (h : timeMin ≤ clock) : Sane cfg (.initial clock) where
  limits := ⟨Nat.zero_le _, fun _ => Nat.zero_le _, nofun⟩
  absolute := nofun
  clock := h
  returned := nofun
  dead _ := nofun

theorem sound_refl (s : ServiceState) : Sound cfg req s s :=
  ⟨fun h => h, ⟨[], rfl, fun _ => rfl, nofun⟩, fun _ _ _ h => h⟩

theorem mem_setSession {other : Session} : other ∈ (s.setSession ses).sessions ↔
    other = ses ∨ other ∈ s.sessions ∧ other.id ≠ ses.id := by
  show other ∈ (s.sessions.remove ses.id).add ses ↔ _
  rw [mem_add find?_remove_self, mem_remove]

theorem forall_setSession {P : Session → Prop} (hses : P ses)
    (hothers : ∀ other ∈ s.sessions, P other) : ∀ other ∈ (s.setSession ses).sessions, P other := by
  intro other hother
  rcases mem_setSession.mp hother with rfl | ⟨hother, -⟩
  · exact hses
  · exact hothers other hother

theorem mem_closed {other : Session} {id : BrowseSessionId}
    (h : other ∈ ((s.setSession ses).erase id).sessions) (hid : ses.id = id) :
    other ∈ s.sessions ∧ other.id ≠ id := by
  obtain ⟨hother, hne⟩ := mem_remove.mp h
  exact hid ▸ (mem_setSession.mp hother).resolve_left fun heq => hne (heq ▸ hid)

/-- The sessions after one of them is replaced. -/
theorem perm_setSession (hcur : s.session? ses.id = some cur) : ∃ others,
    s.sessions.items.Perm (cur :: others) ∧ (s.setSession ses).sessions.items = ses :: others :=
  ⟨_, perm_remove hcur,
    items_add find?_remove_self⟩

theorem WithinLimits.setSession (h : WithinLimits cfg s) (hcur : s.session? ses.id = some cur)
    (hcaller : ses.callerBusName = cur.callerBusName)
    (hleases : ses.operationLeases.items.length ≤ cfg.operationLeaseLimit) :
    WithinLimits cfg (s.setSession ses) := by
  obtain ⟨others, hperm, hitems⟩ := perm_setSession hcur
  refine ⟨?_, fun caller => ?_, forall_setSession hleases h.leases⟩
  · rw [hitems, List.length_cons, ← List.length_cons, ← hperm.length_eq]
    exact h.sessions
  · have hcount := h.perCaller caller
    rw [ServiceState.callerSessions, hperm.countP_eq, List.countP_cons] at hcount
    rw [ServiceState.callerSessions, hitems, List.countP_cons, hcaller]
    exact hcount

/-- A step of a call that lets no operation through and leaves the ejects alone. -/
theorem Sound.step (h : Sound cfg req start s) (hsane : Sane cfg s → Sane cfg next)
    (haccepted : next.accepted = s.accepted) (hclock : s.clock ≤ next.clock)
    (hejecting : next.ejectingProfiles = s.ejectingProfiles)
    (hreopen : next.browseReopenAfter = s.browseReopenAfter)
    (hsess : ∀ p, Barred p s → Unbrowsed p s → Unbrowsed p next) : Sound cfg req start next where
  sane hstart := hsane (h.sane hstart)
  uses := by
    obtain ⟨new, hnew, hnone, huses⟩ := h.uses
    refine ⟨new, haccepted.trans hnew, hnone, fun use huse => ?_⟩
    obtain ⟨hcaller, hfound, htime⟩ := huses use huse
    exact ⟨hcaller, hfound, htime.trans hclock⟩
  shut p limit hreq hstart :=
    (h.shut p limit hreq hstart).step hclock hejecting hreopen (hsess p)

/-- Replace a session by one that continues it. -/
theorem Sound.setSession (h : Sound cfg req start s) (hcur : s.session? ses.id = some cur)
    (hnext : ses.Continues cur)
    (hleases : Sane cfg s → ses.operationLeases.items.length ≤ cfg.operationLeaseLimit)
    (hdead : Sane cfg s → Unclosed s → ses.closeAttempted = true → ses.Dead) :
    Sound cfg req start (s.setSession ses) := by
  have hmem : cur ∈ s.sessions := (find?_eq_some.mp hcur).1
  refine h.step (fun hs => { hs with
    limits := hs.limits.setSession hcur hnext.caller (hleases hs)
    absolute := forall_setSession ?_ hs.absolute
    dead := fun hall => forall_setSession (hdead hs hall) (hs.dead hall) }) rfl le_rfl rfl rfl
    fun p _ hnone => forall_setSession (hnext.profileId ▸ hnone cur hmem) hnone
  rw [hnext.absoluteDeadline, hnext.openedAt]
  exact hs.absolute cur hmem

theorem Sound.erase (h : Sound cfg req start s) (id : BrowseSessionId) :
    Sound cfg req start (s.erase id) := by
  have hmem : ∀ other ∈ (s.erase id).sessions, other ∈ s.sessions :=
    fun other hother => mem_of_mem_remove hother
  have hsublist : (s.erase id).sessions.items.Sublist s.sessions.items :=
    List.filter_sublist
  exact h.step (fun hs => { hs with
    limits := ⟨hsublist.length_le.trans hs.limits.sessions,
      fun caller => (hsublist.countP_le).trans (hs.limits.perCaller caller),
      fun other hother => hs.limits.leases other (hmem other hother)⟩
    absolute := fun other hother => hs.absolute other (hmem other hother)
    dead := fun hall other hother => hs.dead hall other (hmem other hother) })
    rfl le_rfl rfl rfl fun _ _ hnone other hother => hnone other (hmem other hother)

/-- Add a session that is opened. -/
theorem Sound.open_ (h : Sound cfg req start s) (hfree : s.session? ses.id = none)
    (hglobal : s.sessions.items.length < cfg.globalLimit)
    (hcaller : s.callerSessions ses.callerBusName < cfg.perCallerLimit)
    (hopen : ¬ Barred ses.profileId s)
    (habs : ses.absoluteDeadline = ses.openedAt + cfg.maximumLifetime)
    (hleases : ses.operationLeases.items = []) (hclose : ses.closeAttempted = false) :
    Sound cfg req start { s with sessions := s.sessions.add ses } := by
  have hitems : (s.sessions.add ses).items = ses :: s.sessions.items :=
    items_add hfree
  have hall : ∀ {P : Session → Prop}, P ses → (∀ other ∈ s.sessions, P other) →
      ∀ other ∈ s.sessions.add ses, P other := by
    intro P hses hothers other hother
    rcases (mem_add hfree).mp hother with rfl | hother
    · exact hses
    · exact hothers other hother
  refine h.step (fun hs => { hs with
    limits := ⟨?_, fun caller => ?_, hall (hleases ▸ Nat.zero_le _) hs.limits.leases⟩
    absolute := hall habs hs.absolute
    dead := fun hunclosed => hall (fun hclosed => nomatch hclose.symm.trans hclosed)
      (hs.dead hunclosed) }) rfl le_rfl rfl rfl
    fun p hbarred hnone => hall (fun heq => hopen (heq ▸ hbarred)) hnone
  · show (s.sessions.add ses).items.length ≤ _
    rw [hitems]
    exact hglobal
  · show (s.sessions.add ses).items.countP _ ≤ _
    rw [hitems, List.countP_cons]
    by_cases hsame : ses.callerBusName = caller
    · rw [if_pos (by simpa using hsame)]
      exact hsame ▸ hcaller
    · rw [if_neg (by simpa using hsame)]
      exact hs.limits.perCaller caller

/-- The clock goes on. -/
theorem Sound.tick (h : Sound cfg req start s) (elapsed : Nat) :
    Sound cfg req start { s with clock := s.clock + elapsed } := by
  have hlater : s.clock ≤ s.clock + elapsed := le_add_of_nonneg_right (Int.natCast_nonneg elapsed)
  exact h.step (fun hs => { hs with clock := hs.clock.trans hlater, limits := { hs.limits with } })
    rfl hlater rfl rfl fun _ _ hnone => hnone

/-- The ejects change, and nothing else. -/
theorem Sound.eject (h : Sound cfg req start s) (ejecting : List ProfileId)
    (reopen : ProfileId → Option Int)
    (hshut : ∀ p limit, req ≠ .endTargetEject p → Shut p limit start → Shut p limit s →
      Shut p limit { s with ejectingProfiles := ejecting, browseReopenAfter := reopen }) :
    Sound cfg req start { s with ejectingProfiles := ejecting, browseReopenAfter := reopen } where
  sane hstart := { h.sane hstart with limits := { (h.sane hstart).limits with } }
  uses := h.uses
  shut p limit hreq hstart := hshut p limit hreq hstart (h.shut p limit hreq hstart)

/-- A begin fails when the time of the profile is over. -/
theorem Sound.endEjecting (h : Sound cfg req start s) (hover : ∀ limit,
      req ≠ .endTargetEject prof → Shut prof limit start → limit ≤ s.clock) :
    Sound cfg req start (endEjecting prof s) := by
  refine h.eject _ _ fun p limit hreq hstart hshut => ?_
  by_cases hsame : p = prof
  · subst hsame
    exact shut_of_le (hover limit hreq hstart)
  · exact hshut.endEjecting hsame

section stored

variable (h : Sound cfg req start s) (hget : s.session? ses.id = some ses)

include h hget

theorem Sound.over (limit : WithTop Int) (hreq : req ≠ .endTargetEject ses.profileId)
    (hstart : Shut ses.profileId limit start) : limit ≤ s.clock :=
  (h.shut _ limit hreq hstart).over (find?_eq_some.mp hget).1 rfl

/-- The leases of a session that are over are dropped. -/
theorem Sound.prune (now : Int) :
    Sound cfg req start (s.setSession (ses.pruneExpiredLeases now)) := by
  have hmem := (find?_eq_some.mp hget).1
  exact h.setSession hget ⟨rfl, rfl, rfl, rfl, rfl⟩
    (fun hs => (ses.prune_length_le now).trans (hs.limits.leases ses hmem))
    fun hs hall hclosed => (hs.dead hall ses hmem hclosed).prune now

/-- A close leaves a dead session or none. -/
theorem Sound.beginClose : Sound cfg req start (s.setSession ses.beginClose) :=
  h.setSession hget ⟨rfl, rfl, rfl, rfl, rfl⟩ (fun _ => Nat.zero_le _) fun _ _ _ => ⟨rfl, rfl⟩

end stored

end sound

/-! ### Programs -/

section programs

variable {cfg : Settings} {tokens : TokenCodec} {req : Request} {start : ServiceState}

/-- Any answer of the outside. -/
abbrev Anything : ServiceCall → ServiceAnswer → Prop := fun _ _ => True

/-- The invariant holds during a program that is run in a state. -/
abbrev SafeAt (settings : Settings) (request : Request) (start : ServiceState)
    (program : ServiceProg α) (state : ServiceState) : Prop :=
  wp Anything (Sound settings request start) program (fun _ => Sound settings request start)
    (fun _ => Sound settings request start) state

/-- A program during which the invariant holds. -/
abbrev Safe (settings : Settings) (request : Request) (start : ServiceState)
    (program : ServiceProg α) : Prop :=
  Keeps Anything (Sound settings request start) program

theorem keeps_ask {A I} {call : ServiceCall} {value : ServiceAnswer → α} :
    Keeps A I (ask call value) :=
  keeps_effect (fun _ _ h => h) fun answer _ => by
    cases answer.error with
    | none => exact keeps_ret
    | some e => exact keeps_fail

theorem keeps_lift {I} {value : Except ManagerFailure α} : Keeps Anything I (lift value) := by
  cases value with
  | ok a => exact keeps_ret
  | error e => exact keeps_fail

theorem keeps_ensure {I cond e} : Keeps Anything I (ensure cond e) := keeps_ite keeps_ret keeps_fail

theorem keeps_update {I change} (h : ∀ s, I s → I (change s)) : Keeps Anything I (update change) :=
  keeps_note h keeps_ret

theorem safe_steadyClock : Safe cfg req start steadyClock :=
  keeps_effect (fun answer _ h => h.tick answer.elapsed) fun _ _ => keeps_ret

/-! ### Operations -/

/-- An operation of `caller` has begun with the session `before`, which is now `current`;
it has read the time `now`, if it has read the clock. -/
structure Owned (settings : Settings) (request : Request) (start : ServiceState) (caller : String)
    (now : Int) (before current : Session) (state : ServiceState) : Prop where
  sound : Sound settings request start state
  operation : request.isOperation = true
  found : before ∈ start.sessions
  stored : state.session? before.id = some current
  continues : current.Continues before
  closeAttempted : current.closeAttempted = before.closeAttempted
  caller : before.callerBusName = caller
  read : now ≤ state.clock

variable {caller sid : String} {pre cur ses : Session} {s : ServiceState} {cond : Bool} {now : Int}
  {prof : ProfileId}

theorem Owned.leases (h : Owned cfg req start caller now pre cur s) (hstart : Sane cfg start) :
    cur.operationLeases.items.length ≤ cfg.operationLeaseLimit :=
  (h.sound.sane hstart).limits.leases cur (find?_eq_some.mp h.stored).1

theorem Owned.tick (h : Owned cfg req start caller now pre cur s) (elapsed : Nat) :
    Owned cfg req start caller now pre cur { s with clock := s.clock + elapsed } :=
  { h with
    sound := h.sound.tick elapsed
    read := h.read.trans (le_add_of_nonneg_right (Int.natCast_nonneg elapsed)) }

theorem wp_ensure {C Q E} {e} (hQ : cond = true → Q () s) (hE : cond = false → E e s) :
    wp Anything C (ensure cond e) Q E s := by
  cases cond with
  | true => exact hQ rfl
  | false => exact hE rfl

/-- A check in the middle of a call. -/
theorem wp_check {I C : ServiceState → Prop} {e} (h : I s) (hC : C s) :
    wp Anything C (ensure cond e) (fun _ t => I t ∧ cond = true) (fun _ => C) s :=
  wp_ensure (fun hcond => ⟨h, hcond⟩) fun _ => hC

/-- The session is there and belongs to the caller; nothing else is checked. -/
theorem wp_ownedSession {C Q E} (herror : ∀ e, E e s) (hfound : ∀ ses : Session,
      s.session? ses.id = some ses → ses.callerBusName = caller → Q ses s) :
    wp Anything C (ownedSession caller sid) Q E s := by
  show wp Anything C (Prog.bind (construct (sessionIdOfString sid)) _) Q E s
  cases sessionIdOfString sid with
  | error e => exact herror _
  | ok id =>
    show wp Anything C (.look _) Q E s
    rw [wp_look]
    cases hfind : s.session? id with
    | none => exact herror _
    | some ses =>
      obtain ⟨-, rfl⟩ := find?_eq_some.mp hfind
      by_cases hcaller : ses.callerBusName = caller
      · simp only [ne_eq, hcaller, not_true_eq_false, if_false]
        exact hfound ses hfind hcaller
      · simp only [ne_eq, hcaller, not_false_eq_true, if_true]
        exact herror _

/-- An operation begins. -/
theorem wp_owned (hop : req.isOperation = true) : wp Anything (Sound cfg req start)
    (ownedSession caller sid) (fun ses => Owned cfg req start caller start.clock ses ses)
    (fun _ => Sound cfg req start) start :=
  wp_ownedSession (fun _ => sound_refl start) fun ses hfind hcaller =>
    ⟨sound_refl start, hop, (find?_eq_some.mp hfind).1, hfind, ses.continues_refl, rfl, hcaller,
      le_rfl⟩

theorem wp_clock (h : Owned cfg req start caller now pre cur s) :
    wp Anything (Sound cfg req start) steadyClock
      (fun now t => Owned cfg req start caller now pre cur t) (fun _ => Sound cfg req start) s :=
  ⟨h.sound, fun answer _ => { h.tick answer.elapsed with read := le_rfl }⟩

/-- An operation drops the leases that are over. -/
theorem Owned.prune (h : Owned cfg req start caller now pre pre s) :
    Owned cfg req start caller now pre (pre.pruneExpiredLeases now)
      (s.setSession (pre.pruneExpiredLeases now)) :=
  { h with
    sound := h.sound.prune h.stored now
    stored := find?_eq_some.mpr ⟨mem_setSession.mpr (.inl rfl), rfl⟩
    continues := ⟨rfl, rfl, rfl, rfl, rfl⟩ }

/-- An operation is let through. -/
theorem Owned.accept (h : Owned cfg req start caller now pre cur s)
    (hnext : ses.Continues pre) (hclose : ses.closeAttempted = pre.closeAttempted)
    (hleases : Sane cfg start → ses.operationLeases.items.length ≤ cfg.operationLeaseLimit)
    {time : Int} (htime : time ≤ s.clock) : Sound cfg req start
      { s.setSession ses with accepted := ⟨caller, pre, time⟩ :: s.accepted } := by
  have hcur : s.session? ses.id = some cur := by
    rw [hnext.id]
    exact h.stored
  have hmem := (find?_eq_some.mp h.stored).1
  obtain ⟨new, hnew, -, huses⟩ := h.sound.uses
  refine
    { sane := fun hstart => ?_
      uses := ⟨⟨caller, pre, time⟩ :: new, congrArg _ hnew,
        fun hno => absurd (h.operation.symm.trans hno) nofun,
        List.forall_mem_cons.mpr ⟨⟨h.caller.symm, h.found, htime⟩, huses⟩⟩
      shut := fun p limit hreq hstart => (h.sound.shut p limit hreq hstart).step le_rfl rfl rfl
        fun _ hnone => forall_setSession ?_ hnone }
  · have hs := h.sound.sane hstart
    have hlimits := hs.limits.setSession hcur
      (hnext.caller.trans h.continues.caller.symm) (hleases hstart)
    refine { hs with
      limits := { hlimits with }
      absolute := forall_setSession ?_ hs.absolute
      returned := fun use huse => List.mem_cons_of_mem _ (hs.returned use huse)
      dead := fun hall => forall_setSession (fun hclosed => ?_)
        (hs.dead (List.forall_mem_cons.mp hall).2) }
    · rw [hnext.absoluteDeadline, hnext.openedAt, ← h.continues.absoluteDeadline,
        ← h.continues.openedAt]
      exact hs.absolute cur hmem
    · rw [hclose, (List.forall_mem_cons.mp hall).1] at hclosed
      cases hclosed
  · rw [hnext.profileId, ← h.continues.profileId]
    exact hnone cur hmem

theorem wp_extendSession {time : Option Int} (h : Owned cfg req start caller now pre cur s)
    (hnext : ses.Continues pre) (hclose : ses.closeAttempted = pre.closeAttempted)
    (hleases : Sane cfg start → ses.operationLeases.items.length ≤ cfg.operationLeaseLimit)
    (htime : time.getD now ≤ now) :
    wp Anything (Sound cfg req start) (extendSession cfg caller pre ses time)
      (fun result t => Sound cfg req start t ∧ result.1 ∈ t.accepted)
      (fun _ => Sound cfg req start) s := by
  refine ⟨h.sound, fun answer _ => ⟨(h.tick answer.elapsed).sound, fun later _ => ?_⟩⟩
  refine ⟨(h.tick answer.elapsed).accept ((ses.continues_extendTo ..).trans hnext) hclose
    hleases ?_, List.mem_cons_self⟩
  cases time with
  | none => exact le_rfl
  | some t => exact htime.trans (h.tick answer.elapsed).read

theorem wp_succeed {use : Use} (h : Sound cfg req start s) (huse : use ∈ s.accepted) :
    Sound cfg req start { s with succeeded := use :: s.succeeded } :=
  h.step (fun hs => { hs with
    limits := { hs.limits with }
    returned := List.forall_mem_cons.mpr ⟨huse, hs.returned⟩ }) rfl le_rfl rfl rfl
    fun _ _ hnone => hnone

/-- A call that is an operation. -/
abbrev Operates (settings : Settings) (program : ServiceProg α) : Prop :=
  ∀ request start, request.isOperation = true → SafeAt settings request start program start

/-- How `renew`, `begin_operation` and `end_operation` begin. -/
theorem operates_begin {next : Session → Int → ServiceProg α}
    (hnext : ∀ req start ses now t,
      Owned cfg req start caller now ses (ses.pruneExpiredLeases now) t →
      SafeAt cfg req start (next ses now) t) :
    Operates cfg ((ownedSession caller sid).bind fun ses => steadyClock.bind fun now =>
      (update (·.setSession (ses.pruneExpiredLeases now))).bind fun _ => next ses now) := by
  intro req start hop
  refine wp_seq (wp_owned hop) fun ses t ht => ?_
  exact wp_seq (wp_clock ht) fun now u hu => hnext req start ses now _ hu.prune

theorem operates_renew (caller sid : String) : Operates cfg (renew cfg caller sid) :=
  operates_begin fun _ _ _ _ _ ht => wp_seq (wp_extendSession ht ht.continues rfl ht.leases le_rfl)
    fun _ _ hu => wp_succeed hu.1 hu.2

theorem operates_beginOperation (caller sid : String) :
    Operates cfg (beginOperation cfg caller sid) := by
  refine operates_begin fun req start ses now t ht => ?_
  refine wp_seq (wp_check ht ht.sound) fun _ u hu => ?_
  refine wp_seq (wp_mono (keeps_ask u hu.1) (fun _ h => h.sound) (fun _ _ h => h)
    fun _ _ h => h.sound) fun leaseId v hv => ?_
  refine wp_seq (wp_check hv hv.sound) fun _ w hw => ?_
  refine wp_seq (wp_check hw.1 hw.1.sound) fun _ x hx => ?_
  have hroom : (ses.pruneExpiredLeases now).operationLeases.items.length <
      cfg.operationLeaseLimit := by
    simpa using hu.2
  have hfree : (ses.pruneExpiredLeases now).operationLeases.find? leaseId = none := by
    simpa using hx.2
  refine wp_seq (wp_extendSession hx.1 ⟨rfl, rfl, rfl, rfl, rfl⟩ rfl (fun _ => ?_) le_rfl)
    fun _ _ hy => wp_succeed hy.1 hy.2
  show ((ses.pruneExpiredLeases now).operationLeases.add _).items.length ≤ _
  rw [items_add hfree]
  exact hroom

theorem operates_endOperation (caller sid leaseId : String) :
    Operates cfg (endOperation cfg caller sid leaseId) := by
  refine operates_begin fun req start ses now t ht => ?_
  refine wp_seq (wp_check ht ht.sound) fun _ u hu => ?_
  refine wp_seq (wp_extendSession hu.1 ⟨rfl, rfl, rfl, rfl, rfl⟩ rfl (fun hstart => ?_) le_rfl)
    fun _ _ hv => wp_succeed hv.1 hv.2
  exact (List.length_filter_le ..).trans (hu.1.leases hstart)

/-- The operations that read: their work changes nothing here. -/
theorem operates_operate (caller sid : String) (check : Session → Except ManagerFailure β)
    {work : Session → β → ServiceProg α} (hwork : ∀ I ses checked,
      Keeps Anything I (work ses checked)) :
    Operates cfg (operate cfg caller sid check work) := by
  intro req start hop
  refine wp_seq (wp_owned hop) fun ses t ht => ?_
  refine wp_seq (R := fun _ => Owned cfg req start caller start.clock ses ses) ?_
    fun checked u hu => ?_
  · cases check ses with
    | ok checked => exact ht
    | error e => exact ht.sound
  refine wp_seq (wp_extendSession hu ses.continues_refl rfl hu.leases le_rfl) fun result v hv => ?_
  refine wp_seq (wp_mono (hwork (fun t => Sound cfg req start t ∧ result.1 ∈ t.accepted) ses checked
    v hv) (fun _ h => h.1) (fun _ _ h => h) fun _ _ h => h.1) fun value w hw => wp_succeed hw.1 hw.2

theorem operates_listDirectoryPage (caller sid path token : String) (count : Nat) :
    Operates cfg (listDirectoryPage cfg tokens caller sid path token count) := by
  refine operates_operate caller sid _ fun I ses afterName => ?_
  refine keeps_ask.bind fun page => keeps_ite keeps_ret (Keeps.bind ?_ fun _ => keeps_ret)
  exact keeps_lift

theorem operates_listPreviousVersions (caller sid pid sourceId path token : String) (count : Nat) :
    Operates cfg (listPreviousVersions cfg tokens caller sid pid sourceId path token count) := by
  refine operates_operate caller sid _ fun I ses offset => ?_
  refine keeps_ask.bind fun page => keeps_ite (Keeps.bind ?_ fun _ => ?_) keeps_ret
  · exact keeps_ensure
  · exact keeps_lift.bind fun _ => keeps_ret

/-! ### Opening -/

/-- Up to its last step `open` leaves the sessions as they are, and the profile stays open. -/
structure Waiting (settings : Settings) (request : Request) (start state : ServiceState)
    (profile : ProfileId) (t : ServiceState) : Prop where
  sound : Sound settings request start t
  sessions : t.sessions = state.sessions
  free : ¬ Barred profile t

theorem keeps_steadyClock : Keeps Anything (Waiting cfg req start s prof) steadyClock :=
  keeps_effect (fun answer _ h => { h with sound := h.sound.tick answer.elapsed })
    fun _ _ => keeps_ret

/-- `open` waits for the end of the eject. -/
theorem wp_awaitReopen (h : Sound cfg req start s) (hfree : prof ∉ s.ejectingProfiles) :
    wp Anything (Sound cfg req start) (awaitReopen prof)
      (fun _ => Waiting cfg req start s prof) (fun _ => Sound cfg req start) s := by
  rw [awaitReopen, wp_look]
  cases hdelay : s.browseReopenAfter prof with
  | none => exact ⟨h, rfl, not_or.mpr ⟨hfree, not_not.mpr hdelay⟩⟩
  | some delayed =>
    refine ⟨h, fun answer _ => ?_⟩
    have htick := h.tick answer.elapsed
    show wp Anything _ (Prog.bind (ensure (decide (delayed ≤ s.clock + answer.elapsed)) _) _) _ _ _
    refine (wp_bind _ _).mpr (wp_ensure (fun htime => ?_) fun _ => htick)
    refine ⟨htick.eject _ _ fun p limit _ _ hshut => ?_, rfl,
      not_or.mpr ⟨hfree, not_not.mpr (update_self _ _ _)⟩⟩
    by_cases hsame : p = prof
    · -- the delay of the profile is over, so the limit has passed
      subst hsame
      refine shut_of_le (not_lt.mp fun hpre => ?_)
      rcases (hshut.barred hpre).2 with hin | ⟨found, hsome, hlimit⟩
      · exact hfree hin
      · cases hdelay.symm.trans hsome
        exact absurd (coe_le_coe.mpr (of_decide_eq_true htime)) (not_le.mpr (hpre.trans_le hlimit))
    · exact hshut.reopen hsame none

/-- A session of the profile is opened, and none of a profile that is shut. -/
theorem wp_openSession (caller : String) (ident : BrowseAccessIdentity) (pid : String)
    (h : Sound cfg req start s) : wp Anything (Sound cfg req start)
    (openSession cfg caller ident pid) (fun _ t => Sound cfg req start t ∧
      ∀ prof, ProfileId.ofString pid = .ok prof → ¬ Unbrowsed prof t)
    (fun _ => Sound cfg req start) s := by
  unfold openSession
  cases ProfileId.ofString pid with
  | error e => exact h
  | ok prof =>
  show wp Anything _ (Prog.bind (ensure (decide (caller ≠ "")) _) _) _ _ s
  refine wp_seq (keeps_ensure s h) fun _ s h => ?_
  refine wp_seq (keeps_ask s h) fun _ s h => ?_
  refine wp_seq (keeps_ensure s h) fun _ s h => ?_
  refine wp_seq (keeps_ask s h) fun _ s h => ?_
  refine wp_seq (keeps_ensure s h) fun _ s h => ?_
  refine (wp_bind _ _).mpr (wp_ensure (fun hejecting => ?_) fun _ => h)
  refine wp_seq (wp_awaitReopen h (of_decide_eq_true hejecting)) fun _ t ht => ?_
  refine wp_mono (C := Waiting cfg req start s prof) (E := fun _ => Waiting cfg req start s prof)
    ?_ (fun _ h => h.sound) (fun _ _ h => h) fun _ _ h => h.sound
  refine wp_seq (wp_check ht ht) fun _ t hglobal => ?_
  refine wp_seq (wp_check hglobal.1 hglobal.1) fun _ t hcaller => ?_
  refine wp_seq (keeps_ask t hcaller.1) fun id t ht => ?_
  refine wp_seq (wp_check ht ht) fun _ t hnew => ?_
  refine wp_seq (keeps_ask t hnew.1) fun _ t ht => ?_
  refine wp_seq (keeps_steadyClock t ht) fun openedAt t ht => ⟨ht, fun _ _ => ?_⟩
  refine ⟨ht, fun steady _ => ⟨{ ht with sound := ht.sound.tick steady.elapsed }, fun _ _ => ?_⟩⟩
  have hfind : t.sessions.find? id = none := by
    rw [ht.sessions]
    exact Option.isNone_iff_eq_none.mp hnew.2
  refine ⟨(ht.sound.tick steady.elapsed).open_ hfind ?_ ?_ ht.free rfl rfl rfl, ?_⟩
  · show t.sessions.items.length < _
    rw [ht.sessions]
    exact of_decide_eq_true hglobal.2
  · show t.sessions.items.countP _ < _
    rw [ht.sessions]
    exact of_decide_eq_true hcaller.2
  · rintro _ ⟨rfl⟩ hnone
    exact hnone _ ((mem_add hfind).mpr (.inl rfl)) rfl

/-! ### Closing -/

section stored

variable (h : Sound cfg req start s) (hget : s.session? ses.id = some ses)

include h hget

theorem wp_closeSession {reason} : wp Anything (Sound cfg req start) (closeSession ses reason)
    (fun _ => Sound cfg req start) (fun _ t => Sound cfg req start t ∧ t.clock = s.clock) s := by
  let I (t : ServiceState) : Prop := Sound cfg req start t ∧ t.clock = s.clock
  have hclosed : wp Anything I (closeSession ses reason) (fun _ => I) (fun _ => I) s :=
    (keeps_ask.bind fun _ => (keeps_update fun _ ht => ⟨ht.1.erase ses.id, ht.2⟩).bind fun _ =>
      keeps_ask) _ ⟨h.beginClose hget, rfl⟩
  exact wp_mono hclosed (fun _ ht => ht.1) (fun _ _ ht => ht.1) fun _ _ ht => ht

theorem wp_closeNoexcept {reason} : SafeAt cfg req start (closeNoexcept ses reason) s := by
  refine (keeps_ask.attempt.bind fun closed => Keeps.bind (keeps_update fun t ht => ?_) fun _ =>
    keeps_ask.attempt.bind fun _ => keeps_ret) _ (h.beginClose hget)
  split
  · exact ht.erase ses.id
  · exact ht

end stored

/-- The loop leaves sessions of which something holds, if each turn does so with the session it is
at and leaves the others alone. -/
theorem wp_eachSession_all {A C E body} {I : ServiceState → Prop} {P : Session → Prop} (hs : I s)
    (h : ∀ ses t, I t → t.session? ses.id = some ses → wp A C (body ses)
      (fun _ u => I u ∧ ∀ cur ∈ u.sessions, P cur ∨ cur ∈ t.sessions ∧ cur.id ≠ ses.id) E t) :
    wp A C (eachSession body) (fun _ u => I u ∧ ∀ cur ∈ u.sessions, P cur) E s := by
  -- a session is still to come, or has had its turn
  refine wp_mono_result (wp_forEach (I := fun rest t => I t ∧
    ∀ cur ∈ t.sessions, cur.id ∈ rest ∨ P cur) ⟨hs, fun cur hcur => .inl ?_⟩ fun id rest t ht => ?_)
    fun _ u hu => ⟨hu.1, fun cur hcur => (hu.2 cur hcur).resolve_left List.not_mem_nil⟩
  · exact (List.mem_insertionSort _).mpr (List.mem_map_of_mem hcur)
  have hrest : ∀ cur ∈ t.sessions, cur.id ≠ id → cur.id ∈ rest ∨ P cur := fun cur hcur hne =>
    (ht.2 cur hcur).imp_left fun hmem => (List.mem_cons.mp hmem).resolve_left hne
  rw [wp_look]
  cases hfind : t.session? id with
  | none => exact ⟨ht.1, fun cur hcur => hrest cur hcur (find?_eq_none.mp hfind cur hcur)⟩
  | some ses =>
    obtain ⟨-, rfl⟩ := find?_eq_some.mp hfind
    refine wp_mono_result (h ses t ht.1 hfind) fun _ u hu => ⟨hu.1, fun cur hcur => ?_⟩
    rcases hu.2 cur hcur with hdone | ⟨hcur, hne⟩
    · exact .inr hdone
    · exact hrest cur hcur hne

theorem wp_eachSession {I C E body} (hstate : I s)
    (h : ∀ ses s, I s → s.session? ses.id = some ses → wp Anything C (body ses) (fun _ => I) E s) :
    wp Anything C (eachSession body) (fun _ => I) E s :=
  wp_mono_result (wp_eachSession_all (P := fun _ => True) hstate fun ses t ht hfind =>
    wp_mono_result (h ses t ht hfind) fun _ _ hu => ⟨hu, fun _ _ => .inl trivial⟩)
      fun _ _ hu => hu.1

theorem keeps_eachSession {I body} (h : ∀ ses s, I s → s.session? ses.id = some ses →
      wp Anything I (body ses) (fun _ => I) (fun _ => I) s) :
    Keeps Anything I (eachSession body) :=
  fun _ hstate => wp_eachSession hstate h

theorem safe_close (caller sid : String) : Safe cfg req start (close caller sid) :=
  fun _ hstate => (wp_bind _ _).mpr (wp_ownedSession (fun _ => hstate)
    fun _ hfind _ => wp_mono_error (wp_closeSession hstate hfind) fun _ _ ht => ht.1)

theorem safe_closeForCaller (caller : String) :
    Safe cfg req start (closeForCaller caller) := by
  refine keeps_eachSession fun ses s hstate hget => ?_
  split
  · exact hstate
  · exact wp_closeNoexcept hstate hget

/-- The loop of `begin_target_eject` that closes sessions. -/
def closeEjected (profileId : ProfileId) : ServiceProg Unit :=
  eachSession fun session =>
    if session.profileId ≠ profileId then .ret () else closeSession session .targetEject

/-- The ways through `begin_target_eject`; `I` holds from the first reading of the clock on. -/
theorem wp_beginTargetEject {C} {I : Int → ServiceState → Prop} {Q E}
    (hbusy : ∀ e, prof ∈ s.ejectingProfiles → E e s)
    (hclock : prof ∉ s.ejectingProfiles → C (startEjecting prof s))
    (hstart : prof ∉ s.ejectingProfiles → ∀ elapsed : Nat, I (s.clock + elapsed)
        { startEjecting prof s with clock := s.clock + elapsed })
    (hprune : ∀ now ses t, I now t → t.session? ses.id = some ses →
      I now (t.setSession (ses.pruneExpiredLeases now)))
    (hactive : ∀ now e t, I now t → activeOperation prof t = true → E e (endEjecting prof t))
    (hclose : ∀ now t, I now t → activeOperation prof t = false →
      wp Anything C (closeEjected prof) Q (fun e u => E e (endEjecting prof u)) t) :
    wp Anything C (beginTargetEject prof) Q E s := by
  show wp Anything C (Prog.bind (ensure (decide (prof ∉ s.ejectingProfiles)) _) _) Q E s
  refine (wp_bind _ _).mpr (wp_ensure (fun hfree => ?_) fun hin => ?_)
  · have hfree := of_decide_eq_true hfree
    refine ⟨hclock hfree, fun answer _ => ?_⟩
    show wp Anything C (Prog.bind (eachSession _) _) Q E _
    refine wp_seq (wp_eachSession (hstart hfree answer.elapsed) ?_) fun _ t ht => ?_
    · exact fun ses t ht hfind => hprune _ ses t ht hfind
    show wp Anything C (if activeOperation prof t then _ else _) Q E t
    cases hcase : activeOperation prof t with
    | true => exact hactive _ _ t ht hcase
    | false => exact (wp_handleError _ _).mpr (hclose _ t ht hcase)
  · exact hbusy _ (by simpa using hin)

/-- A session in which an operation goes on. -/
theorem exists_of_activeOperation (h : activeOperation prof s = true) :
    ∃ ses, s.session? ses.id = some ses ∧ ses.profileId = prof := by
  obtain ⟨ses, hmem, hses⟩ := List.any_eq_true.mp h
  rw [Bool.and_eq_true, decide_eq_true_iff] at hses
  exact ⟨ses, find?_eq_some.mpr ⟨hmem, rfl⟩, hses.1⟩

theorem safe_beginTargetEject (prof : ProfileId) :
    Safe cfg req start (beginTargetEject prof) := by
  intro s h
  have hstarted : Sound cfg req start (startEjecting prof s) :=
    h.eject _ _ fun _ _ _ _ hshut => hshut.startEjecting
  refine wp_beginTargetEject (I := fun _ => Sound cfg req start) (fun _ _ => h)
    (fun _ => hstarted) (fun _ => hstarted.tick) (fun now _ _ ht hget => ht.prune hget now) ?_ ?_
  -- a session of the profile is there when a begin fails
  · intro now e t ht hactive
    obtain ⟨ses, hget, rfl⟩ := exists_of_activeOperation hactive
    exact ht.endEjecting (ht.over hget)
  · intro now t ht _
    refine wp_eachSession ht fun ses t ht hget => ?_
    split
    · exact ht
    · rename_i hsame
      obtain rfl : ses.profileId = prof := by simpa using hsame
      refine wp_mono_error (wp_closeSession ht hget) fun _ u hu => hu.1.endEjecting ?_
      rw [hu.2]
      exact ht.over hget

theorem safe_endTargetEject (prof : ProfileId) :
    Safe cfg (.endTargetEject prof) start (endTargetEject prof) := by
  refine (keeps_update fun _ h => h.endEjecting fun _ hreq => absurd rfl hreq).bind fun _ =>
    safe_steadyClock.bind fun now => keeps_update fun _ h => h.eject _ _ fun p _ hreq _ hshut => ?_
  exact hshut.reopen (fun hsame => hreq (hsame ▸ rfl)) _

theorem safe_expire : Safe cfg req start expire := by
  refine keeps_ask.attempt.bind fun _ => safe_steadyClock.bind fun now =>
    keeps_eachSession fun ses s hstate hget => ?_
  have hpruned := hstate.prune hget now
  show SafeAt cfg req start (if ses.keepsAt now then _ else _)
    (s.setSession (ses.pruneExpiredLeases now))
  split
  · exact hpruned
  · exact wp_closeNoexcept hpruned (find?_eq_some.mpr ⟨mem_setSession.mpr (.inl rfl), rfl⟩)

/-! ### Runs -/

theorem wp_ignore {program : ServiceProg α} (h : SafeAt cfg req start program s) :
    SafeAt cfg req start (ignore program) s :=
  wp_seq (R := fun _ => Sound cfg req start) ((wp_attempt program).mpr h) fun _ _ ht => ht

theorem sound_serve (req : Request) (s : ServiceState) :
    SafeAt cfg req s (serve cfg tokens req) s := by
  have hread : ∀ {β : Type} (call : Session → ServiceCall) (value : ServiceAnswer → β)
      (caller sid : String), Operates cfg (operate cfg caller sid
        (fun _ => .ok ()) fun ses _ => ask (call ses) value) :=
    fun call value caller sid =>
      operates_operate caller sid _ fun _ ses _ => keeps_ask
  have h : Sound cfg req s s := sound_refl s
  cases req with
  | openSession caller ident pid =>
    exact wp_ignore (wp_mono_result (wp_openSession caller ident pid h) fun _ _ ht => ht.1)
  | renew caller id => exact wp_ignore (operates_renew caller id _ s rfl)
  | beginOperation caller id => exact wp_ignore (operates_beginOperation caller id _ s rfl)
  | endOperation caller id lease => exact wp_ignore (operates_endOperation caller id lease _ s rfl)
  | close caller id => exact wp_ignore (safe_close caller id s h)
  | listDirectory caller id path count => exact wp_ignore (hread _ _ caller id _ s rfl)
  | listDirectoryPage caller id path token count =>
    exact wp_ignore (operates_listDirectoryPage caller id path token count _ s rfl)
  | inspectEntry caller id path => exact wp_ignore (hread _ _ caller id _ s rfl)
  | listPreviousVersions caller id prof source path token count =>
    exact wp_ignore (operates_listPreviousVersions caller id prof source path token count _ s rfl)
  | openFile caller id path => exact wp_ignore (hread _ _ caller id _ s rfl)
  | openEntry caller id path => exact wp_ignore (hread _ _ caller id _ s rfl)
  | inspectRepository caller id => exact wp_ignore (hread _ _ caller id _ s rfl)
  | closeForCaller caller => exact wp_ignore (safe_closeForCaller caller s h)
  | beginTargetEject prof => exact wp_ignore (safe_beginTargetEject prof s h)
  | endTargetEject prof => exact wp_ignore (safe_endTargetEject prof s h)
  | expire => exact wp_ignore (safe_expire s h)

end programs

/-! ### A pass of `expire` -/

/-- The backend closes what it is asked to close. -/
def Closes : ServiceCall → ServiceAnswer → Prop
  | .closeBackend _, answer => answer.error = none
  | _, _ => True

instance (call : ServiceCall) (answer : ServiceAnswer) : Decidable (Closes call answer) := by
  unfold Closes
  split <;> infer_instance

/-- The sessions that are there would be kept by `expire`. -/
def StillKept (state : ServiceState) : Prop :=
  ∀ session ∈ state.sessions, session.keepsAt state.clock

section sweep

variable {s : ServiceState} {E : ManagerFailure → ServiceState → Prop}

/-- A call after which nothing is different. -/
theorem wp_attempt_ask {A} {call : ServiceCall} {value : ServiceAnswer → α} :
    wp A (fun _ => True) (ask call value).attempt (fun _ t => t = s) E s :=
  (wp_attempt _).mpr (wp_mono (keeps_ask (I := (· = s)) s rfl) (fun _ _ => trivial)
    (fun _ _ h => h) fun _ _ h => h)

/-- A session that could be closed is gone. -/
theorem wp_closeNoexcept_erases {ses : Session} {reason} :
    wp Closes (fun _ => True) (closeNoexcept ses reason)
      (fun _ t => t = (s.setSession ses.beginClose).erase ses.id) E s := by
  have hclosed : wp Closes (fun _ => True) (ask (.closeBackend ses.id) fun _ => ()).attempt
      (fun closed t => closed = .ok () ∧ t = s.setSession ses.beginClose) E
      (s.setSession ses.beginClose) := by
    refine (wp_attempt _).mpr ⟨trivial, fun answer hanswer => ?_⟩
    have hnone : answer.error = none := hanswer
    simp [hnone]
  refine (wp_bind _ _).mpr (wp_seq hclosed fun closed t ht => ?_)
  obtain ⟨rfl, rfl⟩ := ht
  exact (wp_bind _ _).mpr (wp_seq wp_attempt_ask fun _ _ ht => ht)

/-- A pass of `expire` leaves the sessions that are kept. -/
theorem wp_expire_kept : wp Closes (fun _ => True) expire (fun _ => StillKept) E s := by
  refine wp_seq wp_attempt_ask fun _ t _ => ⟨trivial, fun answer _ => ?_⟩
  set now := t.clock + answer.elapsed with hnow
  refine wp_mono_result (wp_eachSession_all (I := fun u => u.clock = now)
    (P := fun ses => ses.keepsAt now) rfl fun ses u hu hget => ?_)
    fun _ u hu ses hses => hu.1 ▸ hu.2 ses hses
  show wp Closes _ (if ses.keepsAt now then _ else _) _ _
    (u.setSession (ses.pruneExpiredLeases now))
  split
  · next hkeeps =>
    refine ⟨hu, fun cur hcur => (mem_setSession.mp hcur).imp_left ?_⟩
    rintro rfl
    exact hkeeps.keepsAt_prune
  · refine wp_mono_result wp_closeNoexcept_erases fun _ v hv => ?_
    subst hv
    refine ⟨hu, fun cur hcur => .inr ?_⟩
    obtain ⟨hcur, hne⟩ := mem_closed hcur rfl
    exact (mem_setSession.mp hcur).resolve_left fun heq => hne (heq ▸ rfl)

theorem wp_serve_expire (cfg : Settings) (tokens : TokenCodec) :
    wp Closes (fun _ => True) (serve cfg tokens .expire) (fun _ => StillKept) (fun _ _ => True) s :=
  wp_seq (R := fun _ => StillKept) ((wp_attempt expire).mpr wp_expire_kept) fun _ _ h => h

end sweep

/-! ### Runs -/

/-- A call of the service, and the answers of the outside; a call can be cut off. -/
structure Call where
  request : Request
  answers : List ServiceAnswer

section calls

variable (settings : Settings) (tokens : TokenCodec)

def Call.after (call : Call) (state : ServiceState) : ServiceState :=
  ((serve settings tokens call.request).run call.answers state).2

/-- The state after one call after the other. -/
def serveCalls (calls : List Call) (state : ServiceState) : ServiceState :=
  calls.foldl (fun state call => call.after settings tokens state) state

/-- Is the call a pass of `expire` that ends, and whose closes succeed? -/
def Call.sweeps (call : Call) (state : ServiceState) : Bool :=
  call.request matches .expire &&
    ((serve settings tokens .expire).run call.answers state).1 matches .done _ &&
    decide ((serve settings tokens .expire).Obeys (fun call answer _ => Closes call answer)
      call.answers state)

/-- Is every operation made right after such a pass, and does no session end between the
pass and the last reading of the clock in the operation?  The first argument says whether
the calls come after such a pass. -/
def timely : Bool → List Call → ServiceState → Bool
  | _, [], _ => true
  | swept, call :: calls, state =>
    let next := call.after settings tokens state
    (!call.request.isOperation || (swept && state.sessions.items.all fun session =>
      decide (session.keepsAt next.clock))) &&
      timely (call.sweeps settings tokens state) calls next

end calls

section runs

variable {cfg : Settings} {tokens : TokenCodec} {s : ServiceState}

theorem sound_after (call : Call) : Sound cfg call.request s (call.after cfg tokens s) :=
  run_state (sound_serve call.request s) (fun _ _ _ => trivial) (fun _ _ h => h) fun _ _ h => h

theorem kept_of_sweeps {call : Call} (h : call.sweeps cfg tokens s = true) :
    StillKept (call.after cfg tokens s) := by
  obtain ⟨request, answers⟩ := call
  cases request with
  | expire =>
    simp only [Call.sweeps, Bool.and_eq_true, decide_eq_true_eq] at h
    obtain ⟨⟨-, hdone⟩, hcloses⟩ := h
    have hspec := run_obeys (wp_serve_expire cfg tokens) hcloses
    unfold Call.after
    generalize (serve cfg tokens .expire).run answers s = ended at hspec hdone
    obtain ⟨outcome, t⟩ := ended
    cases outcome with
    | done _ => exact hspec
    | failed _ => cases hdone
    | crashed => cases hdone
  | _ => cases h

/-- A use of a session that is kept after the operation is lawful. -/
theorem lawful_of_kept {t : ServiceState} {use : Use} (h : Sane cfg s)
    (hunclosed : Unclosed s) (hkept : StillKept s)
    (hcaller : use.caller = use.session.callerBusName)
    (hfound : use.session ∈ s.sessions) (htime : use.time ≤ t.clock)
    (hlater : use.session.keepsAt t.clock) : use.Lawful cfg := by
  have hkeeps := hlater.anti htime
  refine ⟨hcaller, h.absolute use.session hfound ▸ hkeeps.1, ?_, ?_⟩
  · rcases hkeeps.2 with hlease | hdeadline
    · exact .inr (Session.prune_ne_nil_iff.mp hlease)
    · exact .inl hdeadline
  · rw [← Bool.not_eq_true]
    intro hclosed
    exact (h.dead hunclosed use.session hfound hclosed).not_keepsAt h.clock
      (hkept use.session hfound)

/-- The operations of timely calls are lawful, after any number of calls. -/
theorem lawful_serveCalls {swept : Bool} {calls : List Call} (h : Sane cfg s)
    (hlawful : ∀ use ∈ s.accepted, use.Lawful cfg) (hswept : swept = true → StillKept s)
    (htimely : timely cfg tokens swept calls s = true) :
    ∀ use ∈ (serveCalls cfg tokens calls s).accepted, use.Lawful cfg := by
  induction calls generalizing s swept with
  | nil => exact hlawful
  | cons call calls ih =>
    rw [timely, Bool.and_eq_true] at htimely
    have hafter : Sound cfg call.request s (call.after cfg tokens s) := sound_after call
    refine ih (hafter.sane h) ?_ kept_of_sweeps htimely.2
    obtain ⟨new, hnew, hnone, huses⟩ := hafter.uses
    rw [hnew]
    refine List.forall_mem_append.mpr ⟨fun use huse => ?_, hlawful⟩
    cases hop : call.request.isOperation with
    | false =>
      rw [hnone hop] at huse
      exact absurd huse List.not_mem_nil
    | true =>
      rw [hop] at htimely
      simp only [Bool.not_true, Bool.false_or, Bool.and_eq_true, List.all_eq_true,
        decide_eq_true_eq] at htimely
      obtain ⟨hcaller, hfound, htime⟩ := huses use huse
      exact lawful_of_kept h (fun use huse => (hlawful use huse).open_) (hswept htimely.1.1)
        hcaller hfound htime (htimely.1.2 use.session hfound)

theorem sane_serveCalls (calls : List Call) (h : Sane cfg s) :
    Sane cfg (serveCalls cfg tokens calls s) := by
  induction calls generalizing s with
  | nil => exact h
  | cons call calls ih => exact ih ((sound_after call).sane h)

end runs

namespace Sample

theorem identifierOk_browse : identifierOk "browse-1" = true := by decide

/-- The defaults of the constructor. -/
def settings : Settings where
  lifetime := 900 * 10 ^ 9
  globalLimit := 64
  perCallerLimit := 8
  operationLeaseLimit := 64
  maximumLifetime := 3600 * 10 ^ 9
  operationLeaseLifetime := 300 * 10 ^ 9
  lifetimesValid := by decide
  limitsValid := by decide

/-- Tokens that are never used. -/
def tokens : TokenCodec where
  directoryCursor _ _ _ := .ok ""
  directoryToken _ _ _ := .ok ""
  previousVersionsOffset _ _ _ _ _ := .ok 0
  previousVersionsToken _ _ _ _ _ := .ok ""

/-- An answer without an error; no time has passed. -/
def fine : ServiceAnswer where
  error := none
  allowed := true
  elapsed := 0
  wall := 0
  sessionId := ⟨"browse-1", identifierOk_browse⟩
  leaseId := "lease-1"
  entries := []
  page := ⟨[], ""⟩
  versions := ⟨[], 0, false, ""⟩
  entry := ⟨"", false, 0, 0, 0⟩
  descriptor := 3
  document := ""

/-- Time passes. -/
def after (seconds : Nat) : ServiceAnswer := { fine with elapsed := seconds * 10 ^ 9 }

/-- A call that throws. -/
def broken : ServiceAnswer :=
  { fine with error := some (.operation .targetUnavailable "cannot unmount browse view") }

/-- A call that is answered without errors. -/
def served (request : Request) : Call := ⟨request, List.replicate 10 fine⟩

def opening : Call := served (.openSession ":1.7" ⟨1000, []⟩ "laptop")

/-- A session is opened, something is done with it, and it is listed. -/
def session (call : Call) : ServiceState :=
  serveCalls settings tokens
    [opening, call, served (.listDirectory ":1.7" "browse-1" "." 100)] (.initial 0)

/-- A session is renewed after the maximum lifetime: nothing has called `expire`. -/
def late : ServiceState := session ⟨.renew ":1.7" "browse-1", [after 4000, fine, fine]⟩

/-- A session is used after a close that has failed. -/
def revived : ServiceState := session ⟨.close ":1.7" "browse-1", [broken]⟩

/-- A close fails, and the next pass of `expire` closes that session; another session, of
the same caller, is renewed a minute after the next pass. -/
def renewed : List Call :=
  [opening, ⟨.close ":1.7" "browse-1", [broken]⟩, served .expire, opening,
    ⟨.expire, [broken, after 600]⟩, ⟨.renew ":1.7" "browse-1", [after 60, fine, fine]⟩]

end Sample

end BtrfsBackup.BrowseService
