/-
Browsing while a target is ejected.

`begin_target_eject` closes the sessions of a profile and keeps new ones out until two seconds
after `end_target_eject`.  The profile is in `ejecting_profiles_` first and has an entry in
`browse_reopen_after_` then; a begin that fails takes it out of the one, and has already erased
the other.

* `shut_serve`, `shut_serveAll` — every call keeps a profile shut, and every sequence of calls;
* `failed_beginTargetEject`, `leased_beginTargetEject` — a begin that fails;
* `paired_beginTargetEject` — a begin after an end that a begin came before;
* `eject_exclusion_iff` — the whole of it.
-/
import BtrfsBackup.BrowseLifetime

open Interaction Interaction.Prog Keyed.Store

namespace BtrfsBackup.BrowseService

open Function

open Browse (BrowseSessionId)
open WithTop (coe_le_coe coe_lt_coe coe_lt_top coe_ne_top)

/-- The delay of an earlier eject is over at a time. -/
def DelayOver (profile : ProfileId) (time : Int) (state : ServiceState) : Prop :=
  ∀ delayed, state.browseReopenAfter profile = some delayed → delayed ≤ time

/-- Does `open` let a profile through at a time, as far as ejects go? -/
def Openable (profile : ProfileId) (time : Int) (state : ServiceState) : Prop :=
  profile ∉ state.ejectingProfiles ∧ DelayOver profile time state

section shut

variable {p other : ProfileId} {limit : WithTop Int} {s next : ServiceState} {ses : Session}
  {cfg : Settings} {tokens : TokenCodec}

/-- A close that changes nothing but the sessions. -/
theorem keeps_closeEjected {I} (hset : ∀ t ses, I t → I (t.setSession ses))
    (herase : ∀ t id, I t → I (t.erase id)) : Keeps Anything I (closeEjected other) := by
  refine keeps_eachSession fun ses t ht _ => ?_
  split
  · exact ht
  · exact ((keeps_note (fun u => hset u _) keeps_ret).bind fun _ => keeps_ask.bind fun _ =>
      (keeps_note (fun u => herase u _) keeps_ret).bind fun _ => keeps_ask) t ht

/-- The state after `end_target_eject`. -/
def ejectEnded (profileId : ProfileId) (elapsed : Nat) (state : ServiceState) : ServiceState :=
  { endEjecting profileId state with
    clock := state.clock + elapsed
    browseReopenAfter := Function.update state.browseReopenAfter profileId
      (some (state.clock + elapsed + browseReopenDelay)) }

theorem wp_endTargetEject : wp Anything (fun _ => True) (endTargetEject other)
      (fun _ t => ∃ elapsed, t = ejectEnded other elapsed s) (fun _ _ => False) s :=
  ⟨trivial, fun answer _ => ⟨answer.elapsed, rfl⟩⟩

theorem Shut.ejectEnded (h : Shut p limit s) (hlimit : limit ≠ ⊤) (elapsed : Nat) :
    Shut p limit (ejectEnded p elapsed s) := by
  have hrecent : limit ≤ ↑(s.clock + elapsed + browseReopenDelay) := by
    refine (h.recent hlimit).trans (coe_le_coe.mpr ?_)
    omega
  refine ⟨fun hpre => ⟨?_, .inr ⟨_, update_self _ _ _, hrecent⟩⟩, fun _ => hrecent⟩
  refine (h.barred (lt_of_le_of_lt (coe_le_coe.mpr ?_) hpre)).1
  exact Int.le_add_of_nonneg_right (Int.natCast_nonneg elapsed)

/-! ### Sequences of calls -/

theorem shut_serve (req : Request) (hrequest : limit = ⊤ → req ≠ .endTargetEject p)
    (h : Shut p limit s) : wp Anything (fun _ => True)
    (serve cfg tokens req) (fun _ => Shut p limit) (fun _ => Shut p limit) s := by
  by_cases hend : req = .endTargetEject p
  · subst hend
    refine wp_seq ((wp_attempt _).mpr ?_) fun _ _ ht => ht
    refine wp_mono wp_endTargetEject (fun _ ht => ht) ?_ fun _ _ => False.elim
    rintro _ _ ⟨elapsed, rfl⟩
    exact h.ejectEnded (fun htop => hrequest htop rfl) elapsed
  · exact wp_mono (sound_serve req s) (fun _ _ => trivial) (fun _ _ ht => ht.shut p limit hend h)
      fun _ _ ht => ht.shut p limit hend h

theorem shut_serveAll {reqs}
    (hrequests : limit = ⊤ → ∀ req ∈ reqs, req ≠ .endTargetEject p) (h : Shut p limit s)
    (hserved : Completes (serveAll cfg tokens reqs) s () next) : Shut p limit next := by
  obtain ⟨answers, hrun⟩ := hserved
  refine (run_done (wp_forEach (C := fun _ => True) (E := fun _ _ => True)
    (I := fun rest t => Shut p limit t ∧
      (limit = ⊤ → ∀ req ∈ rest, req ≠ .endTargetEject p))
    ⟨h, hrequests⟩ ?_) hrun fun _ _ _ => trivial).1
  rintro req rest t ⟨ht, hrest⟩
  refine wp_mono (shut_serve req (fun htop => hrest htop _ List.mem_cons_self) ht)
    (fun _ _ => trivial) (fun _ _ hu => ⟨hu, fun htop other hother =>
      hrest htop other (List.mem_cons_of_mem _ hother)⟩) fun _ _ _ => trivial

/-! ### What a begin does -/

theorem wp_closeSession_erased (ses : Session) (reason : CloseReason) :
    wp Anything (fun _ => True) (closeSession ses reason)
      (fun _ t => t = (s.setSession ses.beginClose).erase ses.id) (fun _ _ => True) s := by
  have hask : ∀ (call : ServiceCall) (u : ServiceState), wp Anything (fun _ => True)
      (ask call fun _ => ()) (fun _ t => t = u) (fun _ _ => True) u := fun call u =>
    wp_mono (keeps_ask (I := fun t => t = u) u rfl) (fun _ _ => trivial) (fun _ _ h => h)
      fun _ _ _ => trivial
  refine wp_seq (R := fun _ t => t = s.setSession ses.beginClose) rfl ?_
  rintro _ _ rfl
  refine wp_seq (hask _ _) ?_
  rintro _ _ rfl
  exact hask _ _

/-- The loop closes every session of the profile, or fails. -/
theorem wp_closeEjected (h : other ∈ s.ejectingProfiles) : wp Anything (fun _ => True)
    (closeEjected other) (fun _ => Shut other ⊤) (fun _ _ => True) s := by
  refine wp_mono_result (wp_eachSession_all (I := fun t => other ∈ t.ejectingProfiles)
    (P := fun ses => ses.profileId ≠ other) h fun ses t hin hget => ?_)
    fun _ t ht => ⟨fun _ => ⟨ht.2, .inl ht.1⟩, (absurd rfl)⟩
  split
  · rename_i hprof
    refine ⟨hin, fun cur hcur => ?_⟩
    by_cases hid : cur.id = ses.id
    · rw [eq_of_key_eq hcur (find?_eq_some.mp hget).1 hid]
      exact .inl hprof
    · exact .inr ⟨hcur, hid⟩
  · refine wp_mono (wp_closeSession_erased ses _) (fun _ ht => ht) ?_ fun _ _ ht => ht
    rintro _ _ rfl
    exact ⟨hin, fun cur hcur => .inr (mem_closed hcur rfl)⟩

/-- A begin that succeeds shuts the profile. -/
theorem shut_of_beginTargetEject
    (h : Completes (beginTargetEject p) s () next) : Shut p ⊤ next := by
  obtain ⟨answers, hrun⟩ := h
  have hwp : wp Anything (fun _ => True) (beginTargetEject p) (fun _ => Shut p ⊤)
      (fun _ _ => True) s :=
    wp_beginTargetEject (fun _ _ => trivial)
      (fun _ => trivial) (fun _ _ => List.mem_cons_self) (fun _ _ _ ht _ => ht)
      (fun _ _ _ _ _ => trivial) fun _ t ht _ => wp_closeEjected ht
  have hnext := run_done hwp hrun fun _ _ _ => trivial
  exact hnext

/-- A begin that fails erases the delay, unless the profile was being ejected already. -/
theorem failed_beginTargetEject {answers e}
    (h : (beginTargetEject p).run answers s = (.failed e, next)) :
    p ∈ s.ejectingProfiles ∧ next = s ∨ p ∉ s.ejectingProfiles ∧
    next.ejectingProfiles = s.ejectingProfiles ∧ next.browseReopenAfter p = none := by
  have hwp : wp Anything (fun _ => True) (beginTargetEject p) (fun _ _ => True)
      (fun _ t => p ∈ s.ejectingProfiles ∧ t = s ∨
        p ∉ s.ejectingProfiles ∧ t.ejectingProfiles = s.ejectingProfiles ∧
          t.browseReopenAfter p = none) s := by
    -- from the first reading of the clock on only the sessions change
    let I (t : ServiceState) : Prop := p ∉ s.ejectingProfiles ∧
      t.ejectingProfiles = p :: s.ejectingProfiles ∧ t.browseReopenAfter p = none
    have hend : ∀ t, I t → p ∉ s.ejectingProfiles ∧
        (endEjecting p t).ejectingProfiles = s.ejectingProfiles ∧
          (endEjecting p t).browseReopenAfter p = none := by
      rintro t ⟨hfree, hejecting, hreopen⟩
      refine ⟨hfree, ?_, hreopen⟩
      show t.ejectingProfiles.erase p = _
      rw [hejecting, List.erase_cons_head]
    refine wp_beginTargetEject (fun _ hin => .inl ⟨hin, rfl⟩) (fun _ => trivial)
      (fun hfree _ => ⟨hfree, rfl, update_self _ _ _⟩) (fun _ _ _ ht _ => ht)
      (fun _ _ t ht _ => .inr (hend t ht)) fun _ t ht _ => ?_
    exact wp_mono (keeps_closeEjected (fun _ _ hu => hu) (fun _ _ hu => hu) t ht)
      (fun _ _ => trivial) (fun _ _ _ => trivial) fun _ u hu => .inr (hend u hu)
  have hnext := run_failed hwp h fun _ _ _ => trivial
  exact hnext

/-- The sessions are still there, and no close of one was attempted. -/
def Kept (state next : ServiceState) : Prop :=
  ∀ session ∈ state.sessions, ∃ current ∈ next.sessions,
    current.id = session.id ∧ current.closeAttempted = session.closeAttempted

theorem Session.prune_prune (now : Int) (ses : Session) :
    (ses.pruneExpiredLeases now).pruneExpiredLeases now = ses.pruneExpiredLeases now := by
  unfold Session.pruneExpiredLeases
  congr 1
  refine ext_items (List.filter_eq_self.mpr fun lease hlease => ?_)
  exact (List.mem_filter.mp hlease).2

/-- During an operation in a session of the profile, a begin fails and closes nothing. -/
theorem leased_beginTargetEject (answers : List ServiceAnswer) {lease : Lease}
    (hses : ses ∈ s.sessions) (hprof : ses.profileId = p) (hlease : lease ∈ ses.operationLeases)
    (hunexpired : ((beginTargetEject p).run answers s).2.clock < lease.2) :
    ((beginTargetEject p).run answers s).1 ≠ .done () ∧
      Kept s ((beginTargetEject p).run answers s).2 := by
  have hlate : ∀ t : ServiceState, lease.2 ≤ t.clock → t.clock < lease.2 → Kept s t :=
    fun t hle hlt => absurd hlt (not_lt.mpr hle)
  have hwp : wp Anything (fun t => t.clock < lease.2 → Kept s t) (beginTargetEject p)
      (fun _ t => lease.2 ≤ t.clock) (fun _ t => t.clock < lease.2 → Kept s t) s := by
    refine wp_beginTargetEject (I := fun now t => t.clock = now ∧
      ∀ cur ∈ s.sessions,
        cur ∈ t.sessions ∨ cur.pruneExpiredLeases now ∈ t.sessions) ?_ ?_ ?_ ?_ ?_ ?_
    · exact fun _ _ _ cur hcur => ⟨cur, hcur, rfl, rfl⟩
    · exact fun _ _ cur hcur => ⟨cur, hcur, rfl, rfl⟩
    · exact fun _ _ => ⟨rfl, fun cur => .inl⟩
    · rintro now pruned t ⟨hclock, hsess⟩ hfind
      have hmem := (find?_eq_some.mp hfind).1
      refine ⟨hclock, fun cur hcur => ?_⟩
      by_cases hid : cur.id = pruned.id
      · refine .inr (mem_setSession.mpr (.inl ?_))
        rcases hsess cur hcur with hin | hin
        · rw [eq_of_key_eq hin hmem hid]
        · rw [← eq_of_key_eq hin hmem hid, Session.prune_prune]
      · exact (hsess cur hcur).imp (fun hin => mem_setSession.mpr (.inr ⟨hin, hid⟩))
          fun hin => mem_setSession.mpr (.inr ⟨hin, hid⟩)
    · rintro now e t ⟨-, hsess⟩ - - cur hcur
      rcases hsess cur hcur with hin | hin
      · exact ⟨cur, hin, rfl, rfl⟩
      · exact ⟨_, hin, rfl, rfl⟩
    · rintro now t ⟨hclock, hsess⟩ hactive
      have hover : lease.2 ≤ t.clock := by
        by_contra hlt
        refine Bool.false_ne_true (hactive.symm.trans (List.any_eq_true.mpr ?_))
        rcases hsess ses hses with hin | hin
        · exact ⟨ses, hin, by simp [hprof, List.ne_nil_of_mem hlease]⟩
        · have hkept : lease ∈ (ses.pruneExpiredLeases now).operationLeases :=
            mem_filter.mpr ⟨hlease, decide_eq_true (hclock ▸ not_le.mp hlt)⟩
          refine ⟨_, hin, ?_⟩
          rw [show (ses.pruneExpiredLeases now).profileId = p from hprof]
          simp [List.ne_nil_of_mem hkept]
      refine wp_mono (keeps_closeEjected (fun _ _ hu => hu)
        (fun _ _ hu => hu) t hover) hlate (fun _ _ hu => hu) fun _ u hu => hlate _ hu
  refine ⟨fun hdone => ?_, run_state hwp (fun _ _ _ => trivial) (fun _ => hlate)
    (fun _ _ ht => ht) hunexpired⟩
  have hrun : (beginTargetEject p).run answers s =
    (.done (), ((beginTargetEject p).run answers s).2) := Prod.ext hdone rfl
  have hover := run_done hwp hrun fun _ _ _ => trivial
  exact absurd hunexpired (not_lt.mpr hover)

/-- A begin fails only where the profile is being ejected or a session of it is left. -/
theorem browsed_of_failed {answers e}
    (h : (beginTargetEject p).run answers s = (.failed e, next)) (hnone : Unbrowsed p s) :
    p ∈ s.ejectingProfiles := by
  refine run_failed (Q := fun _ _ => True) (wp_beginTargetEject (C := fun _ => True)
    (E := fun _ _ => p ∈ s.ejectingProfiles) (I := fun _ => Unbrowsed p) (fun _ hin => hin)
    (fun _ => trivial) (fun _ _ => hnone) ?_ ?_ ?_) h fun _ _ _ => trivial
  · intro now ses t ht hfind
    exact forall_setSession (ht ses (find?_eq_some.mp hfind).1) ht
  · intro now e t ht hactive
    obtain ⟨ses, hget, hprof⟩ := exists_of_activeOperation hactive
    exact absurd hprof (ht ses (find?_eq_some.mp hget).1)
  · intro now t ht _
    refine wp_mono_result (wp_eachSession ht fun ses t ht hfind => ?_) fun _ _ _ => trivial
    rw [if_pos (ht ses (find?_eq_some.mp hfind).1)]
    exact ht

end shut

/-! ### Ejects and sessions -/

section exclusion

variable (settings : Settings) (tokens : TokenCodec) (profile : ProfileId)

/-- No session of the profile is there, and one that is opened is opened at `limit` or later. -/
def Excluded (limit : WithTop Int) (state : ServiceState) : Prop :=
  Unbrowsed profile state ∧ ∀ caller identity text info t, ProfileId.ofString text = .ok profile →
    Completes (openSession settings caller identity text) state info t → limit ≤ t.clock

/-- Sessions are kept out for good while the eject lasts, and for two seconds when it has ended. -/
def KeepsOut (begun : ServiceState) : Prop :=
  ∀ requests ejecting, (∀ request ∈ requests, request ≠ .endTargetEject profile) →
    Completes (serveAll settings tokens requests) begun () ejecting →
    Excluded settings profile ⊤ ejecting ∧
    ∀ ended later settling, Completes (endTargetEject profile) ejecting () ended →
      Completes (serveAll settings tokens later) ended () settling →
      settling.clock < ended.clock + browseReopenDelay →
      Excluded settings profile (ended.clock + browseReopenDelay : Int) settling

/-- There is an operation in a session of the profile. -/
def InUse (time : Int) (state : ServiceState) : Prop :=
  ∃ session ∈ state.sessions, session.profileId = profile ∧
    ∃ lease ∈ session.operationLeases, time < lease.2

/-- From now on the profile can be opened as before. -/
def OpenableAsBefore (state next : ServiceState) : Prop :=
  ∀ time, next.clock ≤ time → (Openable profile time next ↔ Openable profile time state)

variable {settings tokens profile}

theorem Shut.excluded {limit : WithTop Int} {state : ServiceState} (h : Shut profile limit state)
    (hbefore : (state.clock : WithTop Int) < limit) : Excluded settings profile limit state := by
  refine ⟨(h.barred hbefore).1, fun caller identity text info t htext hopened => ?_⟩
  obtain ⟨answers, hrun⟩ := hopened
  have hstart : Sound settings (.openSession caller identity text) state state := sound_refl state
  have ht := run_done (wp_openSession caller identity text hstart) hrun fun _ _ _ => trivial
  have hshut := ht.1.shut profile limit nofun h
  exact not_lt.mp fun hlt => ht.2 profile htext (hshut.barred hlt).1

/-- The limit after an end is the delay that it has set. -/
theorem shut_of_endTargetEject {ejecting ended : ServiceState} (h : Unbrowsed profile ejecting)
    (hended : Completes (endTargetEject profile) ejecting () ended) :
    Shut profile (ended.clock + browseReopenDelay : Int) ended := by
  obtain ⟨answers, hrun⟩ := hended
  obtain ⟨elapsed, rfl⟩ := run_done wp_endTargetEject hrun fun _ _ _ => trivial
  exact ⟨fun _ => ⟨h, .inr ⟨_, update_self _ _ _, le_rfl⟩⟩, fun _ => le_rfl⟩

theorem keepsOut_of_beginTargetEject {state begun : ServiceState}
    (h : Completes (beginTargetEject profile) state () begun) :
    KeepsOut settings tokens profile begun := by
  intro requests ejecting hrequests hserved
  have hejecting : Excluded settings profile ⊤ ejecting := (shut_serveAll (fun _ => hrequests)
    (shut_of_beginTargetEject h) hserved).excluded (coe_lt_top _)
  refine ⟨hejecting, fun ended later settling hended hlater hbefore => ?_⟩
  exact (shut_serveAll (fun htop => absurd htop coe_ne_top)
    (shut_of_endTargetEject hejecting.1 hended) hlater).excluded (coe_lt_coe.mpr hbefore)

/-- **Calls in pairs**: within two seconds of an end that a begin came before, another begin
fails only if the profile is being ejected again, and changes nothing then. -/
theorem paired_beginTargetEject {state begun ejecting ended settling next : ServiceState}
    (hbegun : Completes (beginTargetEject profile) state () begun) {requests : List Request}
    (hrequests : ∀ request ∈ requests, request ≠ .endTargetEject profile)
    (hserved : Completes (serveAll settings tokens requests) begun () ejecting)
    (hended : Completes (endTargetEject profile) ejecting () ended) {later : List Request}
    (hlater : Completes (serveAll settings tokens later) ended () settling)
    (hbefore : settling.clock < ended.clock + browseReopenDelay) {answers e}
    (hfailed : (beginTargetEject profile).run answers settling = (.failed e, next)) :
    profile ∈ settling.ejectingProfiles ∧ next = settling := by
  have hsettling := (keepsOut_of_beginTargetEject hbegun requests ejecting hrequests hserved).2
    ended later settling hended hlater hbefore
  have hin := browsed_of_failed hfailed hsettling.1
  exact ⟨hin, ((failed_beginTargetEject hfailed).resolve_right fun h => h.1 hin).2⟩

end exclusion

/-- What follows on a call of `begin_target_eject`, in any state of the service.  If it succeeds,
no session of the profile is there or can be opened until two seconds after the end of the eject.
If there is an operation in a session of the profile, it does not succeed and closes no session.
If it fails, the profile can be opened as before if and only if the profile was being ejected
already, or no delay of an earlier end has been pending. -/
theorem eject_exclusion_iff (settings : Settings) (tokens : TokenCodec) (profile : ProfileId)
    (state next : ServiceState) (answers : List ServiceAnswer)
    (outcome : Outcome ManagerFailure Unit)
    (hrun : (beginTargetEject profile).run answers state = (outcome, next)) :
    (outcome = .done () → Unbrowsed profile next ∧ KeepsOut settings tokens profile next) ∧
    (InUse profile next.clock state → outcome ≠ .done () ∧ Kept state next) ∧
    ∀ e, outcome = .failed e → (OpenableAsBefore profile state next ↔
      profile ∈ state.ejectingProfiles ∨ DelayOver profile next.clock state) := by
  refine ⟨?_, ?_, ?_⟩
  · rintro rfl
    exact ⟨((shut_of_beginTargetEject ⟨answers, hrun⟩).barred (coe_lt_top _)).1,
      keepsOut_of_beginTargetEject ⟨answers, hrun⟩⟩
  · rintro ⟨session, hsession, hprofile, lease, hlease, hunexpired⟩
    have hleased := leased_beginTargetEject answers hsession hprofile hlease (by rwa [hrun])
    rwa [hrun] at hleased
  · rintro e rfl
    rcases failed_beginTargetEject hrun with ⟨hin, rfl⟩ | ⟨hfree, hejecting, hreopen⟩
    · exact iff_of_true (fun _ _ => Iff.rfl) (.inl hin)
    · have hopenable : ∀ time, Openable profile time next :=
        fun time => ⟨hejecting ▸ hfree, fun _ h => nomatch hreopen.symm.trans h⟩
      constructor
      · intro hsame
        exact .inr ((hsame next.clock le_rfl).mp (hopenable _)).2
      · rintro (hin | hdelay) time htime
        · exact absurd hin hfree
        · exact iff_of_true (hopenable time)
            ⟨hfree, fun delayed hsome => (hdelay delayed hsome).trans htime⟩

namespace Sample

theorem identifierOk_laptop : identifierOk "laptop" = true := by decide

def laptop : ProfileId := ⟨"laptop", identifierOk_laptop⟩

/-- A session is opened, and something is done. -/
def opened (requests : List Request) : ServiceState :=
  ((serveAll settings tokens (.openSession ":1.7" ⟨1000, []⟩ "laptop" :: requests)).run
    (List.replicate 13 fine) (.initial 0)).2

/-- The session is closed, and the profile is shut. -/
theorem ejected_unbrowsed :
    let result := (beginTargetEject laptop).run [fine, fine, fine] (opened [])
    (opened []).sessions.items.length = 1 ∧ result.1 = .done () ∧ Unbrowsed laptop result.2 := by
  have hdone : ((beginTargetEject laptop).run [fine, fine, fine] (opened [])).1 = .done () := by
    decide +kernel
  exact ⟨by decide +kernel, hdone,
    ((eject_exclusion_iff settings tokens laptop _ _ [fine, fine, fine] _ rfl).1 hdone).1⟩

/-- An operation has begun, and `end_target_eject` is called without a begin. -/
def unmatchedEnd : ServiceState :=
  opened [.beginOperation ":1.7" "browse-1", .endTargetEject laptop]

/-- The profile cannot be opened for two seconds.  One second later a begin fails, and it can be
opened at once. -/
theorem delay_dropped :
    let result := (beginTargetEject laptop).run [after 1] unmatchedEnd
    result.1 = .failed (.operation .busy "backup browsing operation is active") ∧
      ¬ Openable laptop result.2.clock unmatchedEnd ∧ Openable laptop result.2.clock result.2 := by
  have hdelay : unmatchedEnd.browseReopenAfter laptop = some 2000000000 := by decide +kernel
  have hnone : ((beginTargetEject laptop).run [after 1] unmatchedEnd).2.browseReopenAfter laptop =
      none := by
    decide +kernel
  have hclock : ¬ 2000000000 ≤ ((beginTargetEject laptop).run [after 1] unmatchedEnd).2.clock := by
    decide +kernel
  exact ⟨by decide +kernel, fun h => hclock (h.2 _ hdelay), by decide +kernel,
    fun _ h => nomatch hnone.symm.trans h⟩

end Sample

end BtrfsBackup.BrowseService
