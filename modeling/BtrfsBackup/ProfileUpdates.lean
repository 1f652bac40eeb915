/-
Profile changes that are not lost.

The clients of `ProfileAdministration` run at the same time.  A change is lost when a
commit replaces a profile that its client has not seen.  The log of the commits tells
what was installed at any earlier time, so what a client has read is a statement about
the log that stays true when the log grows.

* `installedAfter` — what is installed after the commits of a log;
* `installedAfter_of_generation` — a generation that comes back has never gone;
* `Seen` — something was read after what was known before;
* `profile_update_iff` — which commits are computed from the profile they replace.
-/
import BtrfsBackup.IncomingSeparation
import BtrfsBackup.ProfileAdministration

open Interaction Interaction.Prog

namespace BtrfsBackup.Administration

open List

/-! ### Lost changes -/

/-- The profile that the new one was computed from. -/
def Origin.base : Origin → Identity
  | .save expected _ => expected
  | .enable _ changed _ => changed
  | .delete expected => expected
  | .key loaded _ => loaded

/-- The profile that a save expects. -/
def Origin.expected : Origin → Option Identity
  | .save expected _ => some expected
  | .enable expected _ _ => some expected
  | .delete _ => none
  | .key _ _ => none

/-- The commit replaces or removes the profile that it was computed from, and a save that
expects a profile does not create one. -/
structure Commit.Exact (setup : Setup) (commit : Commit) : Prop where
  base : ∀ profile, commit.before = some profile → setup.identity profile = commit.origin.base
  replaces : ∀ expected, commit.origin.expected = some expected → expected.generation ≠ "" →
    commit.before ≠ none

instance (setup : Setup) (commit : Commit) : Decidable (commit.Exact setup) :=
  decidable_of_iff
    ((∀ profile ∈ commit.before, setup.identity profile = commit.origin.base) ∧
      ∀ expected ∈ commit.origin.expected, expected.generation ≠ "" → commit.before ≠ none)
    ⟨fun h => ⟨h.1, h.2⟩, fun h => ⟨h.base, h.replaces⟩⟩

/-- A save has found the profile at its second reading, unless it expects none; a key is
added to a profile of which there was no other commit since it was loaded. -/
def Commit.Undisturbed (commit : Commit) : Prop :=
  match commit.origin with
  | .save expected seen => seen = true ∨ expected.generation = ""
  | .enable expected _ seen => seen = true ∨ expected.generation = ""
  | .delete _ => True
  | .key _ loadedAt => commit.before = none ∨ commit.number = loadedAt

/-- The commits of which the condition says the truth. -/
def Settled (setup : Setup) (commit : Commit) : Prop :=
  commit.Exact setup ↔ commit.Undisturbed

/-- The generator has not drawn this generation before, and no profile had it in the
beginning. -/
def Fresh (existing : String → Prop) :
    AdministrationCall → AdministrationAnswer → AdministrationState → Prop
  | .generation, answer, state =>
      ¬ existing answer.generation ∧ ∀ entry ∈ state.drawn, entry.2 ≠ answer.generation
  | _, _, _ => True

instance (existing : String → Prop) [DecidablePred existing] (call : AdministrationCall)
    (answer : AdministrationAnswer) (state : AdministrationState) :
    Decidable (Fresh existing call answer state) :=
  match call with
  | .generation =>
      inferInstanceAs (Decidable
        (¬ existing answer.generation ∧ ∀ entry ∈ state.drawn, entry.2 ≠ answer.generation))
  | .readProfile _ => isTrue trivial
  | .stage _ => isTrue trivial
  | .commit _ => isTrue trivial
  | .lockTarget _ => isTrue trivial
  | .unlockTarget _ => isTrue trivial
  | .prepareCredential _ => isTrue trivial
  | .rollbackCredential _ => isTrue trivial

/-! ### The log of the commits -/

/-- The generations that the commits of a log have installed. -/
def generations (log : List Commit) : List String :=
  (log.filterMap Commit.after).map Profile.configurationGeneration

theorem generations_append (recent since : List Commit) :
    generations (recent ++ since) = generations recent ++ generations since := by
  simp [generations]

/-- What is installed after the commits of a log, the newest of which comes first. -/
def installedAfter (initial : ProfileId → Option Profile) :
    List Commit → ProfileId → Option Profile
  | [], id => initial id
  | commit :: log, id =>
    if commit.profileId = id then commit.after else installedAfter initial log id

/-- The profiles of the beginning, and the generations that there were. -/
structure Beginning where
  setup : Setup
  initial : ProfileId → Option Profile
  old : String → Prop
  filed : ∀ id profile, initial id = some profile →
    profile.id = id ∧ old profile.configurationGeneration

section log

variable {initial : ProfileId → Option Profile} {id : ProfileId} {p q : Profile}
  {recent : List Commit} {w : Beginning}

/-- Commits of other profiles change nothing. -/
theorem installedAfter_append_of_ne
    (h : ∀ commit ∈ recent, commit.profileId ≠ id) (since : List Commit) :
    installedAfter initial (recent ++ since) id = installedAfter initial since id := by
  induction recent with
  | nil => rfl
  | cons commit recent ih =>
    have hne : commit.profileId ≠ id := h commit mem_cons_self
    show (if commit.profileId = id then commit.after else _) = _
    rw [if_neg hne]
    exact ih fun other hother => h other (mem_cons_of_mem commit hother)

/-- After a commit of the profile, its generation is the one of a commit. -/
theorem generation_mem_of_recent {since} (h : ∃ commit ∈ recent, commit.profileId = id)
    (hq : installedAfter initial (recent ++ since) id = some q) :
    q.configurationGeneration ∈ generations recent := by
  induction recent with
  | nil =>
    obtain ⟨commit, hcom, -⟩ := h
    exact absurd hcom not_mem_nil
  | cons newest recent ih =>
    by_cases hid : newest.profileId = id
    · -- the newest commit is the one that counts
      have hafter : newest.after = some q := by
        simpa [installedAfter, hid] using hq
      simp [generations, hafter]
    · have hrest : installedAfter initial (recent ++ since) id = some q := by
        simpa [installedAfter, hid] using hq
      have hmem : q.configurationGeneration ∈ generations recent := by
        refine ih ?_ hrest
        obtain ⟨commit, hcom, hcommitId⟩ := h
        rcases mem_cons.mp hcom with rfl | hmem
        · exact absurd hcommitId hid
        · exact ⟨commit, hmem, hcommitId⟩
      have happend := generations_append [newest] recent
      rw [singleton_append] at happend
      rw [happend]
      exact mem_append_right _ hmem

/-- Where a generation comes from. -/
theorem existing_or_mem_generations {log} (hp : installedAfter w.initial log id = some p) :
    w.old p.configurationGeneration ∨ p.configurationGeneration ∈ generations log := by
  by_cases h : ∃ commit ∈ log, commit.profileId = id
  · right
    have hend : installedAfter w.initial (log ++ []) id = some p := by
      rwa [append_nil]
    exact generation_mem_of_recent h hend
  · left
    have hne : ∀ commit ∈ log, commit.profileId ≠ id := by
      intro commit hcom hid
      exact h ⟨commit, hcom, hid⟩
    have hframe : installedAfter w.initial (log ++ []) id = w.initial id :=
      installedAfter_append_of_ne hne []
    rw [append_nil, hp] at hframe
    exact (w.filed id p hframe.symm).2

/-- A generation that is installed again has never been replaced. -/
theorem installedAfter_of_generation {since} (hdist : (generations (recent ++ since)).Nodup)
    (hnew : ∀ gen ∈ generations (recent ++ since), ¬ w.old gen)
    (hp : installedAfter w.initial since id = some p)
    (hq : installedAfter w.initial (recent ++ since) id = some q)
    (heq : p.configurationGeneration = q.configurationGeneration) :
    ∀ commit ∈ recent, commit.profileId ≠ id := by
  intro commit hcom hid
  have hmem : q.configurationGeneration ∈ generations recent :=
    generation_mem_of_recent ⟨commit, hcom, hid⟩ hq
  rw [generations_append] at hdist hnew
  rcases existing_or_mem_generations hp with hexisting | hsince
  · rw [heq] at hexisting
    exact hnew _ (mem_append_left _ hmem) hexisting
  · rw [heq] at hsince
    exact (nodup_append.mp hdist).2.2 _ hmem _ hsince rfl

end log

/-! ### What clients may do to each other -/

section clients

variable (w : Beginning)

/-- The log tells what is installed, profiles are filed under their names, generations are
drawn once and used by the client that has drawn them, and the condition says the truth about
every commit. -/
structure Sound (state : AdministrationState) : Prop where
  installed : ∀ id, state.installed id = installedAfter w.initial state.commits id
  filed : ∀ id profile, state.installed id = some profile → profile.id = id
  unused : ∀ entry ∈ state.drawn, ¬ w.old entry.2
  once : (state.drawn.map Prod.snd).Nodup
  owned : ∀ commit ∈ state.commits, ∀ profile, commit.after = some profile →
    (commit.client, profile.configurationGeneration) ∈ state.drawn
  distinct : (generations state.commits).Nodup
  settled : ∀ commit ∈ state.commits, Settled w.setup commit

/-- What every step keeps. -/
structure Grows (s t : AdministrationState) : Prop where
  sound : Sound w s → Sound w t
  commits : s.commits <:+ t.commits
  drawn : s.drawn ⊆ t.drawn

/-- What a client relies on. -/
structure Rely (client : Nat) (s t : AdministrationState) : Prop extends Grows w s t where
  own : ∀ commit ∈ t.commits, commit.client = client → commit ∈ s.commits

/-- What a client guarantees. -/
structure Guarantee (client : Nat) (s t : AdministrationState) : Prop extends Grows w s t where
  others : ∀ commit ∈ t.commits, commit.client ≠ client → commit ∈ s.commits

instance isRely (client : Nat) : IsRely (Rely w client) where
  refl _ := ⟨⟨id, suffix_rfl, List.Subset.refl _⟩, fun _ h _ => h⟩
  trans hst htu :=
    { sound := htu.sound ∘ hst.sound
      commits := hst.commits.trans htu.commits
      drawn := List.Subset.trans hst.drawn htu.drawn
      own := fun commit h hown => hst.own commit (htu.own commit h hown) hown }

theorem compatible : Pool.Compatible (Rely w) (Guarantee w) where
  rely := isRely w
  guarantee_refl _ _ := ⟨⟨id, suffix_rfl, List.Subset.refl _⟩, fun _ h _ => h⟩
  relied who other hne s t h :=
    { h.toGrows with
      own := by
        intro commit hcom hown
        refine h.others commit hcom ?_
        rw [hown]
        exact hne }

variable {w}

theorem mem_generations {log} {gen : String} : gen ∈ generations log ↔
    ∃ commit ∈ log, ∃ prof, commit.after = some prof ∧ prof.configurationGeneration = gen := by
  simp only [generations, mem_map, mem_filterMap]
  constructor
  · rintro ⟨prof, ⟨commit, hcom, hafter⟩, hgen⟩
    exact ⟨commit, hcom, prof, hafter, hgen⟩
  · rintro ⟨commit, hcom, prof, hafter, hgen⟩
    exact ⟨prof, ⟨commit, hcom, hafter⟩, hgen⟩

variable {state : AdministrationState}

/-- The generations of the commits are new. -/
theorem Sound.new (h : Sound w state) : ∀ gen ∈ generations state.commits, ¬ w.old gen := by
  intro gen hgen
  obtain ⟨commit, hcom, prof, hafter, rfl⟩ := mem_generations.mp hgen
  exact h.unused _ (h.owned commit hcom prof hafter)

/-! ### What a client knows -/

/-- Something was true of the log at an earlier time. -/
def Past (K : List Commit → Prop) (log : List Commit) : Prop :=
  ∃ since, since <:+ log ∧ K since

/-- What is known of the log stays true when the log grows. -/
def Upward (K : List Commit → Prop) : Prop :=
  ∀ since log, since <:+ log → K since → K log

theorem upward_past (K : List Commit → Prop) : Upward (Past K) := by
  rintro since log hsuf ⟨earlier, hearlier, hK⟩
  exact ⟨earlier, hearlier.trans hsuf, hK⟩

theorem upward_true : Upward fun _ => True := fun _ _ _ _ => trivial

/-- What is known stays known. -/
theorem Past.weaken {K K' log} (h : Past K log)
    (hK : ∀ since, K since → K' since) : Past K' log := by
  obtain ⟨since, hsince, hknown⟩ := h
  exact ⟨since, hsince, hK since hknown⟩

variable (w) in
/-- A sound state of whose log `K` is known. -/
structure Known (K : List Commit → Prop) (state : AdministrationState) : Prop where
  sound : Sound w state
  log : K state.commits

/-- A generation that this client has drawn and not used. -/
structure Drawn (client : Nat) (generation : String) (state : AdministrationState) : Prop where
  mem : (client, generation) ∈ state.drawn
  unused : generation ∉ generations state.commits

section knowledge

variable {K : List Commit → Prop} {client : Nat} {gen : String}

theorem known_stable (hK : Upward K) : Stable (Rely w client) (Known w K) :=
  fun _ _ hR h => ⟨hR.sound h.sound, hK _ _ hR.commits h.log⟩

/-- Nobody else uses a generation that this client has drawn. -/
theorem drawn_stable (hK : Upward K) : Stable (Rely w client) fun state =>
      Known w K state ∧ Drawn client gen state := by
  rintro s t hR ⟨hknown, hdrawn⟩
  have hafter := known_stable hK s t hR hknown
  have hmem : (client, gen) ∈ t.drawn := hR.drawn hdrawn.mem
  refine ⟨hafter, hmem, fun hused => ?_⟩
  obtain ⟨commit, hcom, prof, hprof, hgen⟩ := mem_generations.mp hused
  have howned := hafter.sound.owned commit hcom prof hprof
  -- a generation was drawn once, hence the commit is one of this client
  have hentry : (commit.client, prof.configurationGeneration) = (client, gen) :=
    inj_on_of_nodup_map hafter.sound.once howned hmem hgen
  have hclient : commit.client = client := congrArg Prod.fst hentry
  have hpre : commit ∈ s.commits := hR.own commit hcom hclient
  exact hdrawn.unused (mem_generations.mpr ⟨commit, hpre, prof, hprof, hgen⟩)

/-! ### Steps -/

variable (w client) {change : Change} {doc : String} {seen : Bool} in
/-- A part of a client, among the others. -/
abbrev Acts {α : Type} (program : AdministrationProg α) (Q : α → AdministrationState → Prop)
    (E : ManagerFailure → AdministrationState → Prop) (state : AdministrationState) : Prop :=
  Guarded (Fresh w.old) (Rely w client) (Guarantee w client) program Q E state

/-- A part of a client of whose end nothing is used. -/
abbrev Runs {α : Type} (w : Beginning) (client : Nat) (program : AdministrationProg α)
    (state : AdministrationState) : Prop :=
  Acts w client program (fun _ _ => True) (fun _ _ => True) state

/-- A state after a generation was drawn. -/
theorem Sound.draw (h : Sound w state)
    (hexisting : ¬ w.old gen) (hnew : ∀ entry ∈ state.drawn, entry.2 ≠ gen) : Sound w
      { state with drawn := (client, gen) :: state.drawn } where
  installed := h.installed
  filed := h.filed
  unused entry hentry := by
    rcases mem_cons.mp hentry with rfl | hold
    · exact hexisting
    · exact h.unused entry hold
  once := by
    refine nodup_cons.mpr ⟨?_, h.once⟩
    intro hmem
    obtain ⟨entry, hentry, heq⟩ := mem_map.mp hmem
    exact hnew entry hentry heq
  owned commit hcom prof hafter :=
    mem_cons_of_mem _ (h.owned commit hcom prof hafter)
  distinct := h.distinct
  settled := h.settled

/-- A state after a commit: the generation is the client's own, and the condition says the
truth about the commit. -/
theorem Sound.replace (h : Sound w state)
    (hid : ∀ prof, change.after = some prof → prof.id = change.profileId)
    (hdrawn : ∀ prof, change.after = some prof →
      Drawn change.client prof.configurationGeneration state)
    (hset : Settled w.setup (change.commit state)) : Sound w (state.replace change) where
  installed id := by
    show Function.update state.installed change.profileId change.after id =
      if change.profileId = id then change.after else installedAfter w.initial state.commits id
    by_cases heq : change.profileId = id
    · subst heq
      rw [if_pos rfl, Function.update_self]
    · rw [if_neg heq, Function.update_of_ne (Ne.symm heq), h.installed id]
  filed id prof hprof := by
    have hupdate : Function.update state.installed change.profileId change.after id =
      some prof := hprof
    by_cases heq : id = change.profileId
    · subst heq
      rw [Function.update_self] at hupdate
      exact hid prof hupdate
    · rw [Function.update_of_ne heq] at hupdate
      exact h.filed id prof hupdate
  unused := h.unused
  once := h.once
  owned commit hcom prof hafter := by
    rcases mem_cons.mp hcom with rfl | hold
    · exact (hdrawn prof hafter).mem
    · exact h.owned commit hold prof hafter
  distinct := by
    have happend := generations_append [change.commit state] state.commits
    show (generations ([change.commit state] ++ state.commits)).Nodup
    rw [happend]
    cases hafter : change.after with
    | none =>
      have hnone : generations [change.commit state] = [] := by
        simp [generations, Change.commit, hafter]
      rw [hnone]
      exact h.distinct
    | some prof =>
      have hone : generations [change.commit state] = [prof.configurationGeneration] := by
        simp [generations, Change.commit, hafter]
      rw [hone]
      exact nodup_cons.mpr ⟨(hdrawn prof hafter).unused, h.distinct⟩
  settled commit hcom := by
    rcases mem_cons.mp hcom with rfl | hold
    · exact hset
    · exact h.settled commit hold

variable {P : AdministrationState → Prop} {s : AdministrationState} {α : Type} {id : ProfileId}
  {M : α → AdministrationState → Prop} {exp : Identity}

section

variable (hP : Stable (Rely w client) P)
include hP

/-- A call that changes nothing. -/
theorem acts_ask {call value} (hM : ∀ a, Stable (Rely w client) (M a))
    (hs : P s) (hvalue : ∀ ans t, P t → M (value ans t) t) :
    Acts w client (ask call value) M (fun _ => P) s := by
  refine guarded_effect hP hs fun ans t ht _ => ?_
  refine ⟨(compatible w).guarantee_refl client t, ?_⟩
  cases ans.error with
  | some e => exact guarded_fail hP ht fun _ h => h
  | none => exact guarded_ret (hM _) (hvalue ans t ht) fun _ h => h

/-- A step that changes the locks of the targets only. -/
theorem acts_targets {call} {targets : _ → _ → List LuksUuid} {next : _ → _ → AdministrationProg α}
    (hset : ∀ t locks, P t → P { t with targets := locks }) (hs : P s)
    (hnext : ∀ ans t u, P u →
      Acts w client (next ans t) (fun _ => P) (fun _ => P) u) :
    Acts w client
      (.effect call (fun ans state => { state with targets := targets ans state }) next)
      (fun _ => P) (fun _ => P) s := by
  refine guarded_effect hP hs fun ans t ht _ => ⟨?_, hnext ans t _ (hset t _ ht)⟩
  exact ⟨⟨fun h => { h with }, suffix_rfl, List.Subset.refl _⟩, fun _ h _ => h⟩

theorem acts_ensure {cond : Bool} {e} (hs : P s) : Acts w client (ensure cond e)
    (fun _ t => P t ∧ cond = true) (fun _ => P) s := by
  cases cond with
  | true => exact guarded_ret hP hs fun _ h => ⟨h, rfl⟩
  | false => exact guarded_fail hP hs fun _ h => h

theorem acts_lift {res : Except ManagerFailure α} (hs : P s) :
    Acts w client (lift res) (fun a t => P t ∧ res = .ok a) (fun _ => P) s := by
  cases res with
  | ok a => exact guarded_ret hP hs fun _ h => ⟨h, rfl⟩
  | error e => exact guarded_fail hP hs fun _ h => h

end

variable (w) in
/-- The condition says the truth about a commit that passes the checks. -/
def Truthful (K : List Commit → Prop) (change : Change) : Prop :=
  ∀ state answer, Known w K state →
    (commitChecks w.setup change answer (state.installed change.profileId)).isOk = true →
      Settled w.setup (change.commit state)

/-- A commit of which the condition says the truth. -/
theorem acts_commit (hK : Upward K) (hclient : change.client = client)
    (hafter : ∀ prof, change.after = some prof →
      prof.id = change.profileId ∧ prof.configurationGeneration = gen) (hset : Truthful w K change)
    (hs : Known w K s ∧ Drawn client gen s) : Acts w client (commit w.setup change)
      (fun _ => Known w K) (fun _ => Known w K) s := by
  refine guarded_effect (drawn_stable hK) hs fun ans t ht _ => ?_
  obtain ⟨hknown, hdrawn⟩ := ht
  have hres : ∀ u, Known w K u →
      Acts w client
        (lift (commitResult w.setup change ans (t.installed change.profileId)))
        (fun _ => Known w K) (fun _ => Known w K) u :=
    fun u hu => (acts_lift (known_stable hK) hu).mono_result fun _ _ h => h.1
  by_cases hcommitted : committed w.setup change ans (t.installed change.profileId) = true
  · rw [if_pos hcommitted]
    have hchecks := (Bool.and_eq_true_iff.mp hcommitted).1
    have hmine : ∀ prof, change.after = some prof →
        Drawn change.client prof.configurationGeneration t := by
      intro prof hprof
      rw [hclient, (hafter prof hprof).2]
      exact hdrawn
    have hsound : Sound w (t.replace change) :=
      hknown.sound.replace (fun prof h => (hafter prof h).1) hmine
        (hset t ans hknown hchecks)
    have hlog : t.commits <:+ (t.replace change).commits := suffix_cons _ _
    refine ⟨⟨⟨fun _ => hsound, hlog, List.Subset.refl _⟩, ?_⟩, hres _ ⟨hsound, ?_⟩⟩
    · intro commit hcom hother
      rcases mem_cons.mp hcom with rfl | hold
      · exact absurd hclient hother
      · exact hold
    · exact hK _ _ hlog hknown.log
  · rw [if_neg hcommitted]
    exact ⟨(compatible w).guarantee_refl client t, hres t hknown⟩

/-- A call of which nothing is used. -/
theorem acts_call {call} (hP : Stable (Rely w client) P) (hs : P s) :
    Acts w client (ask call fun _ _ => ()) (fun _ => P) (fun _ => P) s :=
  acts_ask hP (fun _ => hP) hs fun _ _ h => h

/-- What follows a part of a client; it does not matter what is known after an error. -/
theorem acts_then {β : Type} {program} {next : α → AdministrationProg β} {E Q}
    (h : Acts w client program M E s)
    (hnext : ∀ a t, M a t → Acts w client (next a) Q (fun _ _ => True) t) :
    Acts w client (program >>= next) Q (fun _ _ => True) s :=
  guarded_do (h.mono_error fun _ _ _ => trivial) hnext

/-- The errors of a part as values. -/
theorem acts_attempt {program : AdministrationProg α} (h : Runs w client program s) :
    Runs w client program.attempt s :=
  (guarded_attempt program).mpr h

theorem acts_end {program E} (h : Acts w client program M E s) : Runs w client program s :=
  h.mono (fun _ _ hG => hG) (fun _ _ _ => trivial) fun _ _ _ => trivial

variable {prof : Profile}

theorem loadedProfile_eq {f : Profile → α} {res : α}
    (h : (loadedProfile prof).map f = .ok res) : res = f prof := by
  unfold loadedProfile at h
  split at h
  · cases h
  · exact (Except.ok.inj h).symm

variable (w) in
/-- The profile that is installed, and the number of its commits. -/
structure Loaded (id : ProfileId) (loaded : Profile × Nat) (log : List Commit) : Prop where
  installed : installedAfter w.initial log id = some loaded.1
  filed : loaded.1.id = id
  number : log.countP (fun commit => commit.profileId = id) = loaded.2

/-- What was known before is still known. -/
theorem Known.before {K' : List Commit → Prop} (hK : Upward K)
    (h : Known w (Past fun since => K since ∧ K' since) s) : Known w K s := by
  obtain ⟨since, hsuf, hsince, -⟩ := h.log
  exact ⟨h.sound, hK since s.commits hsuf hsince⟩

/-- A draft is one of the profile that is saved. -/
theorem parseDraft_id {draft : Profile}
    (h : parseDraft w.setup id doc = .ok draft) : draft.id = id := by
  unfold parseDraft at h
  split at h
  · cases h
  · split at h
    · cases h
    · split at h
      · cases h
      · split at h
        · cases h
        · next hid =>
          obtain rfl := Except.ok.inj h
          exact not_not.mp hid

/-! ### Installing -/

section client

variable (hK : Upward K) (hs : Known w K s) {origin : Origin}

include hK hs

/-- A new generation. -/
theorem acts_drawGeneration : Acts w client (drawGeneration client)
      (fun gen t => Known w K t ∧ Drawn client gen t) (fun _ => Known w K) s := by
  refine guarded_effect (known_stable hK) hs fun ans t ht hfresh => ?_
  have hsound : Sound w
      { t with drawn := (client, ans.generation) :: t.drawn } :=
    ht.sound.draw hfresh.1 hfresh.2
  have hknown : Known w K
      { t with drawn := (client, ans.generation) :: t.drawn } := ⟨hsound, ht.log⟩
  refine ⟨⟨⟨fun _ => hsound, suffix_rfl, subset_cons_self _ _⟩, fun _ h _ => h⟩, ?_⟩
  cases ans.error with
  | some e => exact guarded_fail (known_stable hK) hknown fun _ h => h
  | none =>
    refine guarded_ret (drawn_stable hK) ⟨hknown, mem_cons_self, ?_⟩ fun _ h => h
    -- commits have generations that were drawn before
    intro hused
    obtain ⟨commit, hcom, prof, hprof, heq⟩ := mem_generations.mp hused
    exact hfresh.2 _ (ht.sound.owned commit hcom prof hprof) heq

theorem acts_renderProfile : Acts w client (renderProfile client prof)
      (fun rendered t => rendered.id = prof.id ∧ Known w K t ∧
        Drawn client rendered.configurationGeneration t) (fun _ => Known w K) s := by
  refine guarded_do (acts_drawGeneration hK hs) fun gen t ht => ?_
  refine guarded_do ((acts_ensure (drawn_stable hK) ht).mono (fun _ _ h => h) (fun _ _ h => h.1)
      fun _ _ h => h.1) fun _ u hu => ?_
  exact guarded_ret (drawn_stable hK) hu fun _ h => ⟨rfl, h⟩

theorem acts_installProfile {exp} (hset : ∀ rendered,
      Truthful w K ⟨client, prof.id, exp, origin, some rendered⟩) :
    Acts w client (installProfile w.setup client prof exp origin)
    (fun _ => Known w K) (fun _ => Known w K) s := by
  refine guarded_do (acts_renderProfile hK hs) fun rendered t ht => ?_
  refine guarded_do
    ((acts_call (drawn_stable hK) ht.2).mono_error fun _ _ h => h.1) fun _ u hu => ?_
  refine acts_commit hK rfl ?_ (hset rendered) hu
  intro after hafter
  rw [← Option.some.inj hafter]
  exact ⟨ht.1, rfl⟩

theorem acts_removeProfile {exp} (hset : Truthful w K ⟨client, prof.id, exp, origin, none⟩) :
    Runs w client (removeProfile w.setup client prof exp origin) s := by
  refine acts_then (acts_renderProfile hK hs) fun rendered t ht => ?_
  refine acts_then (acts_call (drawn_stable hK) ht.2) fun _ u hu => ?_
  refine acts_end (acts_commit hK rfl ?_ hset hu)
  intro after hafter
  cases hafter

/-! ### Reading -/

/-- What a client reads was installed at that time. -/
theorem acts_read {value : AdministrationState → α} (shown : α → List Commit → Prop)
    (hshown : ∀ state, Sound w state → shown (value state) state.commits) :
    Acts w client (ask (.readProfile id) fun _ state => value state)
      (fun a => Known w (Past fun since => K since ∧ shown a since)) (fun _ _ => True) s := by
  refine (acts_ask (known_stable hK) (fun _ => known_stable (upward_past _)) hs
    fun _ t ht => ?_).mono_error fun _ _ _ => trivial
  exact ⟨ht.sound, t.commits, suffix_rfl, ht.log, hshown t ht.sound⟩

theorem acts_findProfile : Acts w client (findProfile id)
      (fun found => Known w (Past fun since => K since ∧ installedAfter w.initial since id = found))
      (fun _ _ => True) s := by
  refine acts_then (acts_read hK hs (fun found since => installedAfter w.initial since id = found)
    fun t ht => (ht.installed id).symm) fun found t ht => ?_
  cases found with
  | none => exact guarded_ret (known_stable (upward_past _)) ht fun _ h => h
  | some prof =>
    refine (acts_lift (known_stable (upward_past _)) ht).mono (fun _ _ h => h) ?_
      fun _ _ _ => trivial
    rintro found t ⟨hknown, hloaded⟩
    rw [loadedProfile_eq hloaded]
    exact hknown

theorem acts_loadProfile : Acts w client (loadProfile w.setup id)
      (fun loaded => Known w (Past fun since => K since ∧ Loaded w id loaded since))
      (fun _ _ => True) s := by
  refine acts_then (acts_read hK hs (fun read since => installedAfter w.initial since id = read.1 ∧
      (∀ prof, read.1 = some prof → prof.id = id) ∧
      since.countP (fun commit => commit.profileId = id) = read.2)
    fun t ht => ⟨(ht.installed id).symm, ht.filed id, rfl⟩) fun read t ht => ?_
  obtain ⟨installed, num⟩ := read
  cases installed with
  | none => exact guarded_fail (known_stable (upward_past _)) ht fun _ _ => trivial
  | some prof =>
    refine (acts_lift (known_stable (upward_past _)) ht).mono (fun _ _ h => h) ?_
      fun _ _ _ => trivial
    rintro loaded t ⟨hknown, hloaded⟩
    rw [loadedProfile_eq hloaded]
    refine ⟨hknown.sound, hknown.log.weaken ?_⟩
    rintro since ⟨hsince, hinst, hid, hnum⟩
    exact ⟨hsince, ⟨hinst, hid prof rfl, hnum⟩⟩

theorem acts_getProfile : Acts w client (getProfile w.setup id)
      (fun prof => Known w (Past fun since => K since ∧
        installedAfter w.initial since id = some prof)) (fun _ _ => True) s := by
  refine acts_then (acts_loadProfile hK hs) fun loaded t ht => ?_
  refine guarded_ret (known_stable (upward_past _)) ht fun u hu => ?_
  exact ⟨hu.sound, hu.log.weaken fun _ h => ⟨h.1, h.2.installed⟩⟩

/-- The profile was the expected one. -/
theorem acts_requireCurrent : Acts w client (requireCurrent w.setup id exp)
      (fun _ => Known w (Past fun since => K since ∧
        isCurrent w.setup exp (installedAfter w.initial since id) = true)) (fun _ _ => True) s := by
  refine acts_then (acts_findProfile hK hs) fun found t ht => ?_
  refine (acts_ensure (known_stable (upward_past _)) ht).mono (fun _ _ h => h) ?_
    fun _ _ _ => trivial
  rintro _ u ⟨hknown, hcur⟩
  refine ⟨hknown.sound, hknown.log.weaken ?_⟩
  rintro since ⟨hsince, hfound⟩
  rw [hfound]
  exact ⟨hsince, hcur⟩

/-! ### Clients -/

theorem acts_hooksChanged {draft : Profile} {cur} :
    Acts w client (hooksChanged w.setup id draft cur) (fun _ => Known w K) (fun _ _ => True) s := by
  cases cur with
  | none => exact guarded_ret (known_stable hK) hs fun _ h => h
  | some prof =>
    refine acts_then (acts_getProfile hK hs) fun installed t ht => ?_
    exact guarded_ret (known_stable hK) (ht.before hK) fun _ h => h

theorem acts_requireProfile : Runs w client (requireProfile id) s := by
  refine acts_then (acts_findProfile hK hs) fun found t ht => ?_
  cases found with
  | none => exact guarded_fail (known_stable (upward_past _)) ht fun _ _ => trivial
  | some prof => exact guarded_ret (known_stable (upward_past _)) ht fun _ _ => trivial

/-- A save of which the condition says the truth. -/
theorem acts_saveDraft {doc : String} {allowHookChanges : Bool} {origin : Bool → Origin}
    (hset : ∀ seen rendered, Truthful w K
      ⟨client, id, some ⟨seen, exp⟩, origin seen, some rendered⟩) :
    Runs w client (saveDraft w.setup client id exp doc allowHookChanges origin) s := by
  refine acts_then (acts_requireCurrent hK hs) fun _ t ht => ?_
  have hknown := ht.before hK
  refine acts_then (acts_lift (known_stable hK) hknown) fun draft t ht => ?_
  obtain ⟨hknown, hdraft⟩ := ht
  have hid : draft.id = id := parseDraft_id hdraft
  refine acts_then (acts_findProfile hK hknown) fun cur t ht => ?_
  have hknown := ht.before hK
  refine acts_then (acts_hooksChanged hK hknown) fun changed t hknown => ?_
  refine acts_then (acts_ensure (known_stable hK) hknown) fun _ t ht => ?_
  have hinstall : Acts w client
      (installProfile w.setup client draft (some ⟨cur.isSome, exp⟩)
        (origin cur.isSome))
      (fun _ => Known w K) (fun _ => Known w K) t := by
    refine acts_installProfile hK ht.1 ?_
    rw [hid]
    exact hset cur.isSome
  refine acts_then hinstall fun _ t ht => ?_
  exact acts_requireProfile hK ht

end client

/-! ### The condition says the truth -/

/-- What the checks under the lock have seen. -/
theorem of_commitChecks {ans installed} (hexp : change.expected = some ⟨seen, exp⟩)
    (h : (commitChecks w.setup change ans installed).isOk = true) :
    (seen = false ∧ installed = none) ∨
      (seen = true ∧ ∃ prof, installed = some prof ∧ w.setup.identity prof = exp ∧
        prof.configurationGeneration ≠ "") := by
  have hchecks :
    (requireExpectedProfileIdentity w.setup change.expected installed).isOk = true := by
    unfold commitChecks at h
    split at h
    · exact h
    · cases h
  rw [hexp] at hchecks
  unfold requireExpectedProfileIdentity loadedProfile at hchecks
  cases installed with
  | none => cases seen <;> simp_all [Except.isOk, Except.toBool]
  | some prof => cases seen <;> grind [Except.toBool]

/-- A save replaces what it expects, and creates a profile if it has found none. -/
theorem settled_of_checks {commit : Commit} (horigin : commit.origin.expected = some exp)
    (hcond : commit.Undisturbed ↔ seen = true ∨ exp.generation = "")
    (hchecks : (seen = false ∧ commit.before = none) ∨
      (seen = true ∧ ∃ prof, commit.before = some prof ∧
        w.setup.identity prof = exp ∧ prof.configurationGeneration ≠ ""))
    (hbase : ∀ prof, commit.before = some prof → w.setup.identity prof = exp →
      prof.configurationGeneration ≠ "" → w.setup.identity prof = commit.origin.base) :
    Settled w.setup commit := by
  unfold Settled
  rw [hcond]
  rcases hchecks with ⟨rfl, hnone⟩ | ⟨rfl, prof, hpre, hident, hgen⟩
  · -- the commit creates a profile
    constructor
    · intro hexact
      right
      by_contra hne
      exact hexact.replaces exp horigin hne hnone
    · rintro (hseen | hempty)
      · cases hseen
      · refine ⟨fun prof hprof => ?_, fun other hother hne => ?_⟩
        · rw [hnone] at hprof
          cases hprof
        · rw [horigin] at hother
          obtain rfl := Option.some.inj hother
          exact absurd hempty hne
  · -- the commit replaces the expected profile
    constructor
    · intro _
      exact .inl rfl
    · intro _
      refine ⟨fun other hother => ?_, fun _ _ _ hnone => ?_⟩
      · rw [hpre] at hother
        obtain rfl := Option.some.inj hother
        exact hbase prof hpre hident hgen
      · rw [hpre] at hnone
        cases hnone

/-- A client that saves a profile. -/
theorem acts_saveProfile {allowHookChanges : Bool} (hs : Sound w s) :
    Runs w client (saveProfile w.setup client id exp doc allowHookChanges) s := by
  refine acts_saveDraft upward_true ⟨hs, trivial⟩ ?_
  intro seen rendered state ans _ hchecks
  exact settled_of_checks rfl Iff.rfl (of_commitChecks rfl hchecks) fun prof _ hident _ => hident

/-- A client that deletes a profile. -/
theorem acts_deleteProfile (hs : Sound w s) :
    Runs w client (deleteProfile w.setup client id exp) s := by
  refine acts_then (acts_requireCurrent upward_true ⟨hs, trivial⟩) fun _ t ht => ?_
  refine acts_then (acts_getProfile (upward_past _) ht) fun prof u hu => ?_
  refine acts_removeProfile (upward_past _) hu ?_
  intro state ans _ hchecks
  rcases of_commitChecks rfl hchecks with ⟨hseen, -⟩ | ⟨-, q, hq, hident, -⟩
  · cases hseen
  · refine ⟨fun _ => trivial, fun _ => ⟨fun other hother => ?_, fun _ hexp => ?_⟩⟩
    · obtain rfl := Option.mem_unique hq hother
      exact hident
    · cases hexp

/-! ### Generations that come back -/

variable {q : Profile}

/-- Between two times at which a generation was installed, there was no commit. -/
theorem Sound.no_commit_between (h : Sound w state) {recent since}
    (hlog : state.commits = recent ++ since) {p : Profile}
    (hp : installedAfter w.initial since id = some p) (hq : state.installed id = some q)
    (heq : p.configurationGeneration = q.configurationGeneration) :
    ∀ commit ∈ recent, commit.profileId ≠ id := by
  have hdist := h.distinct
  have hnew := h.new
  rw [h.installed id] at hq
  rw [hlog] at hdist hnew hq
  exact installedAfter_of_generation hdist hnew hp hq heq

/-- The profile that `set_profile_enabled` changes is the expected one if that one is still
installed at the commit. -/
theorem identity_of_enable (h : Known w (Past fun since => Past (fun first => True ∧
        isCurrent w.setup exp (installedAfter w.initial first id) = true) since ∧
      installedAfter w.initial since id = some prof) state)
    (hq : state.installed id = some q) (hident : w.setup.identity q = exp)
    (hgen : q.configurationGeneration ≠ "") : w.setup.identity q = w.setup.identity prof := by
  obtain ⟨since, ⟨recent, hlog⟩, ⟨first, ⟨middle, hmiddle⟩, -, hcur⟩, hprof⟩ := h.log
  cases hfirst : installedAfter w.initial first id with
  | none =>
    -- the expected identity is empty, but the installed profile has a generation
    rw [hfirst] at hcur
    have hempty : exp.generation = "" := by
      have hboth : (exp.generation = "" ∧ exp.fingerprint = "") := by
        simpa [isCurrent, Identity.isEmpty] using hcur
      exact hboth.1
    have hsame : q.configurationGeneration = exp.generation :=
      congrArg Identity.generation hident
    exact absurd (hsame.trans hempty) hgen
  | some p =>
    rw [hfirst] at hcur
    have hp : w.setup.identity p = exp := by
      simpa [isCurrent] using hcur
    have hsame : p.configurationGeneration = q.configurationGeneration :=
      congrArg Identity.generation (hp.trans hident.symm)
    have hsplit : state.commits = (recent ++ middle) ++ first := by
      rw [append_assoc, hmiddle, hlog]
    have hquiet := h.sound.no_commit_between hsplit hfirst hq hsame
    -- hence the profile that was read between them is the first one
    have hread : installedAfter w.initial since id = installedAfter w.initial first id := by
      rw [← hmiddle]
      exact installedAfter_append_of_ne
        (fun commit hcom => hquiet commit (mem_append_right recent hcom)) first
    rw [hprof, hfirst] at hread
    rw [Option.some.inj hread, hp, hident]

/-- A commit for a key is exact if it replaces what was loaded. -/
theorem exact_key_iff {commit : Commit} {base : Identity} {num : Nat}
    (horigin : commit.origin = .key base num) : commit.Exact w.setup ↔
      ∀ q, commit.before = some q → w.setup.identity q = base := by
  constructor
  · intro hexact q hq
    have hbase := hexact.base q hq
    rwa [horigin] at hbase
  · intro hbase
    refine ⟨fun q hq => ?_, fun exp hexp => ?_⟩
    · rw [horigin]
      exact hbase q hq
    · rw [horigin] at hexp
      cases hexp

/-- A key is added to the profile that was loaded if and only if there was no commit since. -/
theorem settled_key {num : Nat} {change : Change} (h : Known w (Past fun since => True ∧
      Loaded w id (prof, num) since) state)
    (hid : change.profileId = prof.id)
    (horigin : change.origin = .key (w.setup.identity prof) num) :
    Settled w.setup (change.commit state) := by
  obtain ⟨since, ⟨recent, hlog⟩, -, hprof, hfiled, hnum⟩ := h.log
  obtain rfl : prof.id = id := hfiled
  have hnow : (change.commit state).origin = .key (w.setup.identity prof) num := horigin
  have hbefore : (change.commit state).before = state.installed prof.id := hid ▸ rfl
  have hnumber : (change.commit state).number =
      recent.countP (fun commit => commit.profileId = prof.id) + num := by
    show state.commits.countP (fun commit => commit.profileId = change.profileId) = _
    rw [hid, ← hlog, countP_append, hnum]
  have hcond : (change.commit state).Undisturbed ↔
      (change.commit state).before = none ∨ (change.commit state).number = num := by
    simp only [Commit.Undisturbed, hnow]
  rw [Settled, exact_key_iff hnow, hcond, hbefore]
  constructor
  · intro hbase
    cases hpre : state.installed prof.id with
    | none => exact .inl rfl
    | some q =>
      right
      -- the same generation, hence no commit in between
      have hsame : prof.configurationGeneration = q.configurationGeneration :=
        (congrArg Identity.generation (hbase q hpre)).symm
      have hquiet := h.sound.no_commit_between hlog.symm hprof hpre hsame
      rw [hnumber, countP_eq_zero.mpr fun commit hcom => by
        simpa using hquiet commit hcom, Nat.zero_add]
  · rintro (hnone | hsame) q hq
    · rw [hnone] at hq
      cases hq
    · have hzero : recent.countP (fun commit => commit.profileId = prof.id) = 0 := by
        omega
      have hquiet : ∀ commit ∈ recent, commit.profileId ≠ prof.id := by
        intro commit hcom
        simpa using countP_eq_zero.mp hzero commit hcom
      rw [h.sound.installed, ← hlog, installedAfter_append_of_ne hquiet, hprof] at hq
      exact congrArg w.setup.identity (Option.some.inj hq).symm

/-! ### Whole clients -/

/-- A client that switches a profile on or off. -/
theorem acts_setProfileEnabled {enabled : Bool} (hs : Sound w s) :
    Runs w client (setProfileEnabled w.setup client id exp enabled) s := by
  refine acts_then (acts_requireCurrent upward_true ⟨hs, trivial⟩) fun _ t ht => ?_
  refine acts_then (acts_getProfile (upward_past _) ht) fun prof u hu => ?_
  unfold switchProfile
  split
  · exact fun _ _ => trivial
  · refine acts_then (acts_saveDraft (upward_past _) hu ?_) fun _ _ _ _ _ => trivial
    intro seen rendered state ans hknown hchecks
    exact settled_of_checks rfl Iff.rfl (of_commitChecks rfl hchecks)
      fun q => identity_of_enable hknown

/-- A client that adds a key. -/
theorem acts_addAutomaticKey {keyFile} (hs : Sound w s) :
    Runs w client (addAutomaticKey w.setup client id keyFile) s := by
  refine acts_then (acts_loadProfile upward_true ⟨hs, trivial⟩) fun loaded t ht => ?_
  have hstable : Stable (Rely w client)
      (Known w (Past fun since => True ∧ Loaded w id loaded since)) := known_stable (upward_past _)
  refine acts_then (acts_targets hstable (fun _ _ h => ⟨{ h.sound with }, h.log⟩) ht
    fun ans _ u hu => ?lock) fun _ u hu => ?_
  case lock =>
    cases ans.error with
    | some e => exact guarded_fail hstable hu fun _ h => h
    | none => exact (acts_ensure hstable hu).mono_result fun _ _ h => h.1
  -- both installations, there and back, are of the profile that was loaded
  have hinstall : ∀ (prof : Profile) (v : AdministrationState), prof.id = loaded.1.id →
      Known w (Past fun since => True ∧ Loaded w id loaded since) v →
      Acts w client
        (installProfile w.setup client prof none (.key (w.setup.identity loaded.1) loaded.2))
        (fun _ => Known w (Past fun since => True ∧ Loaded w id loaded since))
        (fun _ => Known w (Past fun since => True ∧ Loaded w id loaded since)) v := by
    intro prof v hid hv
    refine acts_installProfile (upward_past _) hv ?_
    intro rendered state ans hknown _
    exact settled_key hknown hid rfl
  have hpublish : Runs w client (publishKey w.setup client id loaded keyFile) u := by
    refine acts_then (acts_call hstable hu) fun _ v hv => ?_
    refine (guarded_handleError _ _).mpr ?_
    unfold setAutomaticKey
    refine Guarded.mono (hinstall _ v ?_ hv) (fun _ _ h => h) (fun _ _ _ => trivial)
      fun e t ht => ?_
    · rfl
    refine acts_then (acts_attempt (acts_end (hinstall loaded.1 t rfl ht))) fun restored x _ => ?_
    refine guarded_effect (fun _ _ _ _ => trivial) trivial fun ans y _ _ => ?_
    exact ⟨(compatible w).guarantee_refl client y, fun _ _ => trivial⟩
  have htrue : Stable (Rely w client) fun _ => True := fun _ _ _ _ => trivial
  refine acts_then (acts_attempt hpublish) fun published v _ => ?_
  refine acts_then (acts_targets htrue (fun _ _ h => h) trivial fun _ _ _ _ => ?unlock)
    fun _ _ _ => ?_
  case unlock => exact guarded_ret htrue trivial fun _ h => h
  exact acts_end (acts_lift htrue trivial)

/-- Every client keeps the condition. -/
theorem acts_serve (req : Request) (hs : Sound w s) :
    Runs w client (serve w.setup client req) s := by
  cases req with
  | save id exp doc allowHookChanges =>
    exact acts_then (acts_saveProfile hs) fun _ _ _ _ _ => trivial
  | setEnabled id exp enabled => exact acts_setProfileEnabled hs
  | delete id exp => exact acts_deleteProfile hs
  | addAutomaticKey id keyFile => exact acts_addAutomaticKey hs

end knowledge

end clients

/-! ### The main result -/

/-- In every interleaving of clients, and whatever fails, a commit replaces or removes the
profile that it was computed from, and does not create a profile that its client expects
to be there, if and only if nobody has disturbed its client: the second reading of a save
has found a profile (or the save expects none), and nobody has committed the profile since
it was loaded for a key. -/
theorem profile_update_iff (setup : Setup) (initial : ProfileId → Option Profile)
    (existing : String → Prop) (hfiled : ∀ id profile, initial id = some profile →
      profile.id = id ∧ existing profile.configurationGeneration)
    (requests : Nat → Request) (schedule : List (Nat × AdministrationAnswer))
    (hfresh : Pool.Permitted (Fresh existing) schedule
      (administrationPool setup initial requests)) :
    ∀ commit ∈ ((administrationPool setup initial requests).run schedule).state.commits,
      commit.Exact setup ↔ commit.Undisturbed := by
  let w : Beginning := ⟨setup, initial, existing, hfiled⟩
  have hinitial : Sound w (administrationPool setup initial requests).state := by
    constructor
    · exact fun _ => rfl
    · exact fun id profile h => (hfiled id profile h).1
    · exact forall_mem_nil _
    · exact nodup_nil
    · exact forall_mem_nil _
    · exact nodup_nil
    · exact forall_mem_nil _
  have hguarded : Pool.AllGuarded (Fresh existing) (Rely w) (Guarantee w) (fun _ _ _ => True)
      (fun _ _ _ => True) (administrationPool setup initial requests) := fun client =>
    acts_serve (requests client) hinitial
  have hsound := Pool.invariant_run (compatible w) (fun _ _ _ hG => hG.sound) hguarded hfresh
    hinitial
  exact hsound.settled

namespace Sample

open BtrfsBackup.Sample (document documentProfile directory)

/-- Two changes of one setting have one fingerprint here: the generation tells them apart. -/
def setup : Setup where
  etcRoot := FsPath.ofString "/etc/btrfs-backup"
  targetMountRoot := "/mnt"
  fingerprint _ := "fingerprint"
  parseJson _ := .ok document
  dumpProfile _ := ""

def installedProfile : Profile := { documentProfile with configurationGeneration := "g0" }

def initial (id : ProfileId) : Option Profile :=
  if documentProfile.id = id then some installedProfile else none

def expected : Identity := ⟨"g0", "fingerprint"⟩

/-- Two keys for one profile; a save and a deletion. -/
def requests : Nat → Request
  | 0 => .addAutomaticKey documentProfile.id (directory "/etc/keys/a.key" (by decide))
  | 1 => .addAutomaticKey documentProfile.id (directory "/etc/keys/b.key" (by decide))
  | 2 => .save documentProfile.id expected "" false
  | _ => .delete documentProfile.id expected

def steps (client count : Nat) (generation : String) : List (Nat × AdministrationAnswer) :=
  List.replicate count (client, ⟨none, true, true, generation, ⟨true, true, true⟩⟩)

/-- A key is added after another client has loaded the profile, and before that one has
locked the target. -/
def keySchedule : List (Nat × AdministrationAnswer) :=
  steps 0 1 "" ++ steps 1 7 "g1" ++ steps 0 6 "g2"

/-- A profile is deleted between the two readings of a save. -/
def saveSchedule : List (Nat × AdministrationAnswer) :=
  steps 2 1 "" ++ steps 3 5 "g1" ++ steps 2 4 "g2"

/-- The first key is lost, and the deleted profile is there again. -/
theorem changes_lost :
    (∃ commit ∈ ((administrationPool setup initial requests).run keySchedule).state.commits,
      commit.before.map Profile.configurationGeneration = some "g1" ∧
      commit.origin.base.generation = "g0" ∧ ¬ commit.Exact setup) ∧
    ∃ commit ∈ ((administrationPool setup initial requests).run saveSchedule).state.commits,
      commit.before = none ∧ commit.after.isSome = true ∧
      commit.origin.expected = some expected ∧ ¬ commit.Exact setup := by
  decide +kernel

theorem initial_filed (id : ProfileId) (prof : Profile) (h : initial id = some prof) :
    prof.id = id ∧ prof.configurationGeneration = "g0" := by
  unfold initial at h
  split at h
  · next heq =>
    obtain rfl := Option.some.inj h
    exact ⟨heq, rfl⟩
  · cases h

theorem key_updates :
    Pool.Permitted (Fresh (· = "g0")) keySchedule (administrationPool setup initial requests) ∧
    ∀ commit ∈ ((administrationPool setup initial requests).run keySchedule).state.commits,
      commit.Exact setup ↔ commit.Undisturbed := by
  have hfresh : Pool.Permitted (Fresh (· = "g0")) keySchedule
      (administrationPool setup initial requests) := by
    decide +kernel
  exact ⟨hfresh, profile_update_iff setup initial (· = "g0") initial_filed requests keySchedule
    hfresh⟩

end Sample

end BtrfsBackup.Administration
