/-
Rules for the programs of the browse backend.

Only the daemon changes its maps, its log and its own locks; a backup run can only take
and give back locks of its own.  So the daemon's programs can be followed on a `View`,
the daemon's part of the system: whatever the runs do, the view stays.

* `View`, `Beside` — the view, and what the runs do to a system;
* `Step` — what every step of the daemon keeps, for the states between its calls;
* `Acts` — a program of the daemon, followed on views;
* `Followed` — the daemon follows its program beside the runs.
-/
import BtrfsBackup.BrowseBackend

open Interaction Interaction.Prog AdvisoryLock

namespace BtrfsBackup

namespace Browse

/-! ### Views -/

/-- The daemon's part of the system. -/
@[ext] structure View where
  backend : Backend
  modes : String → Option Mode

def BrowseSystem.view (system : BrowseSystem) : View := ⟨system.backend, system.mode?⟩

namespace View

/-- Change what the daemon has. -/
def onBackend (change : Backend → Backend) (view : View) : View :=
  { view with backend := change view.backend }

/-- Change the daemon's lock of a file. -/
def setMode (key : String) (mode : Option Mode) (view : View) : View :=
  { view with modes := Function.update view.modes key mode }

/-- Log a call that has failed. -/
def fail (call : BrowseCall) (view : View) : View := view.onBackend (Backend.fail call)

/-- Set or clear the mark of a conversion. -/
def setConverting (converting : Option String) (view : View) : View :=
  view.onBackend fun backend => { backend with converting }

def setTarget (key : String) (lease : Option TargetLease) (view : View) : View :=
  view.onBackend (Backend.setTarget key lease)

/-- Log a unit that is stopped. -/
def stop (site : Site) (key unit : String) (closing : Option BrowseSessionId) (view : View) :
    View :=
  view.onBackend fun backend =>
    { backend with
      stops := ⟨site, key, unit, view.modes key,
        (backend.usersOf key).filter fun id => some id ≠ closing⟩ :: backend.stops }

end View

section views

variable {s : BrowseSystem} {key : String} {mode : Mode} {file : LockFile LockOwner} {index : Nat}

theorem view_onBackend (change : Backend → Backend) :
    (s.onBackend change).view = s.view.onBackend change := rfl

theorem mode?_setLock :
    (s.setLock key file).mode? = Function.update s.mode? key (file.mode? .daemon) := by
  funext other
  by_cases h : other = key
  · subst h
    simp [BrowseSystem.mode?, BrowseSystem.setLock]
  · simp [BrowseSystem.mode?, BrowseSystem.setLock, h]

theorem view_setLock : (s.setLock key file).view = s.view.setMode key (file.mode? .daemon) :=
  View.ext rfl mode?_setLock

theorem view_unlock : (s.unlock .daemon key).view = s.view.setMode key none := by
  rw [BrowseSystem.unlock, view_setLock, LockFile.mode?_unlock_self]

/-- The lock file changes for a run only. -/
theorem view_setLock_run (h : file.mode? .daemon = (s.locks key).mode? .daemon) :
    (s.setLock key file).view = s.view := by
  rw [view_setLock, h]
  exact View.ext rfl (Function.update_eq_self key s.mode?)

theorem view_unlock_run : (s.unlock (.run index) key).view = s.view :=
  view_setLock_run (LockFile.mode?_unlock_of_ne (by simp))

end views

/-! ### What the daemon keeps -/

/-- A lock of a lease that was to be made exclusive and is lost. -/
def BrowseCall.losesLock (call : BrowseCall) : Bool :=
  match call.action with
  | .lock _ .exclusive => call.site != .opening
  | _ => false

/-- A unit that is stopped is stopped under the exclusive lock of the target, with no
other session on it, exactly if it is not stopped for a stale record. -/
def Stop.Fair (stop : Stop) : Prop :=
  (stop.mode = some .exclusive ∧ stop.others = []) ↔ stop.site ≠ .stale

namespace View

/-- Every lease has its lock, apart from a conversion. -/
def Locked (view : View) : Prop :=
  ∀ key, view.backend.targets key ≠ none → view.backend.converting ≠ some key →
    view.modes key ≠ none

/-- No lock was lost. -/
def Clean (view : View) : Prop := ∀ call ∈ view.backend.failures, call.losesLock = false

end View

/-- A step of the daemon. -/
structure Step (V W : View) : Prop where
  failures : V.backend.failures <:+ W.backend.failures
  /-- Right after a lock is lost there is a lease without a lock. -/
  lost : ∀ call ∈ W.backend.failures, call.losesLock = true →
    call ∈ V.backend.failures ∨ ¬W.Locked
  stops : ∀ stop ∈ W.backend.stops, stop ∈ V.backend.stops ∨ stop.Fair
  locked : (V.Clean → V.Locked) → W.Clean → W.Locked

theorem Step.refl (V : View) : Step V V :=
  ⟨List.suffix_refl _, fun _ h _ => .inl h, fun _ => .inl, fun h => h⟩

section steps

variable {V W : View} {call : BrowseCall}

/-- Leases, locks and conversions are not touched. -/
structure SameLocks (V W : View) : Prop where
  targets : W.backend.targets = V.backend.targets
  converting : W.backend.converting = V.backend.converting
  modes : W.modes = V.modes

theorem SameLocks.locked (h : SameLocks V W) : W.Locked ↔ V.Locked := by
  simp only [View.Locked, h.targets, h.converting, h.modes]

/-- A step in which no call fails. -/
theorem Step.of_locked (hfail : W.backend.failures = V.backend.failures)
    (hstops : ∀ stop ∈ W.backend.stops, stop ∈ V.backend.stops ∨ stop.Fair)
    (h : V.Locked → W.Locked) : Step V W where
  failures := hfail ▸ List.suffix_refl _
  lost := fun _ hmem _ => .inl (hfail ▸ hmem)
  stops := hstops
  locked := fun hlocked hclean => h (hlocked fun call hmem => hclean call (hfail ▸ hmem))

/-- A step that leaves the locks alone. -/
theorem Step.quiet (h : SameLocks V W) (hfail : W.backend.failures = V.backend.failures)
    (hstops : ∀ stop ∈ W.backend.stops, stop ∈ V.backend.stops ∨ stop.Fair) : Step V W :=
  .of_locked hfail hstops h.locked.mpr

theorem failures_fail (hsite : call.site ≠ .running) :
    (V.fail call).backend.failures = call :: V.backend.failures := by
  simp [View.fail, View.onBackend, Backend.fail, hsite]

theorem sameLocks_fail : SameLocks V (V.fail call) := by
  rw [View.fail, View.onBackend, Backend.fail]
  split <;> exact ⟨rfl, rfl, rfl⟩

theorem stops_fail : (V.fail call).backend.stops = V.backend.stops := by
  rw [View.fail, View.onBackend, Backend.fail]
  split <;> rfl

theorem sessions_fail : (V.fail call).backend.sessions = V.backend.sessions := by
  rw [View.fail, View.onBackend, Backend.fail]
  split <;> rfl

/-- A call that fails and does not lose a lock. -/
theorem Step.fail (h : Step V W) (hsite : call.site ≠ .running) (hcall : call.losesLock = false) :
    Step V (W.fail call) where
  failures := by
    rw [failures_fail hsite]
    exact h.failures.trans (List.suffix_cons _ _)
  lost := by
    intro other hmem hlost
    rw [failures_fail hsite, List.mem_cons] at hmem
    rcases hmem with rfl | hmem
    · rw [hcall] at hlost
      cases hlost
    · exact (h.lost other hmem hlost).imp_right fun hnot hlocked =>
        hnot (sameLocks_fail.locked.mp hlocked)
  stops := by
    rw [stops_fail]
    exact h.stops
  locked := by
    intro hlocked hclean
    refine sameLocks_fail.locked.mpr (h.locked hlocked fun other hmem => hclean other ?_)
    rw [failures_fail hsite]
    exact List.mem_cons_of_mem call hmem

end steps

/-! ### Following a program -/

/-- What a run may do. -/
def Beside (s t : BrowseSystem) : Prop := t.view = s.view

instance isRely_beside : IsRely Beside := ⟨fun _ => rfl, fun h h' => h'.trans h⟩

/-- A program of the daemon, followed on views. -/
def Acts (p : BrowseProg α) (V : View) (Q : α → View → Prop) (E : ManagerFailure → View → Prop) :
    Prop :=
  ∀ s, s.view = V → Guarded (fun _ _ _ => True) Beside (fun s t => Step s.view t.view) p
    (fun a t => Q a t.view) (fun e t => E e t.view) s

section acts

variable {α β : Type} {V W : View} {Q : α → View → Prop} {E : ManagerFailure → View → Prop}

theorem acts_ret {a : α} (h : Q a V) : Acts (.ret a) V Q E := by
  rintro s rfl t ht
  exact ht ▸ h

theorem acts_fail {e} (h : E e V) : Acts (.fail e : BrowseProg α) V Q E := by
  rintro s rfl t ht
  exact ht ▸ h

theorem acts_look {next} (h : ∀ s, s.view = V → Acts (next s) V Q E) : Acts (.look next) V Q E := by
  rintro s rfl t ht
  exact h t ht t ht

theorem acts_note {record next} (hrecord : ∀ s, s.view = V → (record s).view = W)
    (hstep : Step V W) (h : Acts next W Q E) : Acts (.note record next) V Q E := by
  rintro s rfl t ht
  have hview : (record t).view = W := hrecord t ht
  have hsame : t.view = s.view := ht
  refine ⟨?_, h _ hview⟩
  show Step t.view (record t).view
  rw [hview, hsame]
  exact hstep

/-- A change of what the daemon has. -/
theorem acts_onBackend {change next}
    (hstep : Step V (V.onBackend change)) (h : Acts next (V.onBackend change) Q E) :
    Acts (.note (fun system => system.onBackend change) next) V Q E :=
  acts_note (fun _ hs => hs ▸ view_onBackend change) hstep h

theorem acts_effect {call change next}
    (h : ∀ i s, s.view = V → Step V (change i s).view ∧ Acts (next i s) (change i s).view Q E) :
    Acts (.effect call change next) V Q E := by
  rintro s rfl t ht i -
  have hsame : t.view = s.view := ht
  obtain ⟨hstep, hnext⟩ := h i t ht
  rw [← hsame] at hstep
  exact ⟨hstep, hnext _ rfl⟩

variable {p : BrowseProg α}

theorem Acts.mono {Q' E'}
    (h : Acts p V Q E) (hQ : ∀ a W, Q a W → Q' a W) (hE : ∀ e W, E e W → E' e W) : Acts p V Q' E' :=
  fun s hs => (h s hs).mono (fun _ _ hG => hG) (fun a _ => hQ a _) fun e _ => hE e _

theorem acts_seq {k : α → BrowseProg β} {M Q}
    (h : Acts p V M E) (hk : ∀ a W, M a W → Acts (k a) W Q E) : Acts (p >>= k) V Q E :=
  fun s hs => guarded_do (h s hs) fun a t ht => hk a _ ht t rfl

/-- A first part after which the state is known. -/
theorem acts_pass {k : α → BrowseProg β} {W Q}
    (h : Acts p V (fun _ X => X = W) E) (hk : ∀ a, Acts (k a) W Q E) : Acts (p >>= k) V Q E :=
  acts_seq h fun a _ hX => hX ▸ hk a

theorem acts_handleError {k M}
    (h : Acts p V Q M) (hk : ∀ e W, M e W → Acts (k e) W Q E) : Acts (p.handleError k) V Q E :=
  fun s hs => (guarded_handleError p k).mpr
    ((h s hs).mono_error fun e t ht => hk e _ ht t rfl)

theorem acts_attempt {Q}
    (h : Acts p V (fun a => Q (.ok a)) fun e => Q (.error e)) : Acts p.attempt V Q E :=
  fun s hs => (guarded_attempt p).mpr (h s hs)

theorem acts_forEach {f} {I : List β → View → Prop} {bs : List β}
    (h : I bs V) (step : ∀ b rest W, I (b :: rest) W → Acts (f b) W (fun _ => I rest) E) :
    Acts (forEach f bs) V (fun _ => I []) E := by
  rintro s rfl
  refine guarded_forEach (I := fun rest t => I rest t.view) ?_ h
    fun b rest t ht => step b rest _ ht t rfl
  intro s t hst hs
  exact hst.symm ▸ hs

theorem acts_ensure {cond : Bool} {e Q}
    (hQ : cond = true → Q () V) (hE : cond = false → E e V) : Acts (ensure cond e) V Q E := by
  cases cond with
  | true => exact acts_ret (hQ rfl)
  | false => exact acts_fail (hE rfl)

variable {act : Action} {site : Site}

/-- A call: what it does when it returns and when it throws. -/
theorem acts_perform {value success err}
    (hok : ∀ i s a, s.view = V → value i s = .ok a →
      Step V (success i s).view ∧ Q a (success i s).view)
    (herror : ∀ i s e, s.view = V → value i s = .error e →
      Step V ((err i s).view.fail ⟨site, act⟩) ∧ E e ((err i s).view.fail ⟨site, act⟩)) :
    Acts (perform site act value success err) V Q E := by
  refine acts_effect fun i s hs => ?_
  rcases hvalue : value i s with e | a
  · obtain ⟨hstep, hE⟩ := herror i s e hs hvalue
    exact ⟨hstep, acts_fail hE⟩
  · obtain ⟨hstep, hQ⟩ := hok i s a hs hvalue
    exact ⟨hstep, acts_ret hQ⟩

theorem BrowseCall.losesLock_of_opening : BrowseCall.losesLock ⟨.opening, act⟩ = false := by
  unfold BrowseCall.losesLock
  split <;> simp

/-- A call that does not concern locks. -/
structure BrowseCall.Plain (call : BrowseCall) : Prop where
  site : call.site ≠ .running
  keeps : call.losesLock = false

theorem acts_ask {value} (hcall : BrowseCall.Plain ⟨site, act⟩) (hQ : ∀ i, Q (value i) V)
    (hE : ∀ e, E e (V.fail ⟨site, act⟩)) : Acts (ask site act value) V Q E := by
  refine acts_perform ?_ ?_
  · rintro i s a rfl hvalue
    split at hvalue
    · cases hvalue
    · obtain rfl := Except.ok.inj hvalue
      exact ⟨Step.refl _, hQ i⟩
  · rintro i s e rfl -
    exact ⟨(Step.refl _).fail hcall.site hcall.keeps, hE e⟩

theorem acts_runUnit {message : String} {Q} (hcall : BrowseCall.Plain ⟨site, act⟩)
    (hQ : Q () V) (hE : ∀ e, E e (V.fail ⟨site, act⟩)) : Acts (runUnit site act message) V Q E := by
  refine acts_perform ?_ ?_
  · rintro i s a rfl -
    exact ⟨Step.refl _, hQ⟩
  · rintro i s e rfl -
    exact ⟨(Step.refl _).fail hcall.site hcall.keeps, hE e⟩

end acts

/-! ### Locks -/

section locks

variable {α : Type} {V : View} {site : Site} {key : String} {mode : Mode}

/-- A view in the middle of a conversion. -/
def View.converting (key : String) (V : View) : View :=
  (V.setMode key none).setConverting (some key)

theorem modes_setMode_of_ne {other : String} {lock} (h : other ≠ key) :
    (V.setMode key lock).modes other = V.modes other := Function.update_of_ne h _ _

@[simp] theorem modes_setMode_self {lock} : (V.setMode key lock).modes key = lock :=
  Function.update_self _ _ _

theorem step_convert (hidle : V.backend.converting = none) : Step V (V.converting key) := by
  refine .of_locked rfl (fun _ => .inl) fun hlocked other hother hconv => ?_
  have hne : other ≠ key := fun heq => hconv (heq ▸ rfl)
  have hmode : (V.converting key).modes other = V.modes other := modes_setMode_of_ne hne
  rw [hmode]
  exact hlocked other hother (by simp [hidle])

theorem step_granted : Step (V.converting key) (V.setMode key (some mode)) := by
  refine .of_locked rfl (fun _ => .inl) fun hlocked other hother _ => ?_
  by_cases hne : other = key
  · subst hne
    simp
  · have hmode : (V.converting key).modes other = V.modes other := modes_setMode_of_ne hne
    rw [modes_setMode_of_ne hne, ← hmode]
    exact hlocked other hother fun h => hne (Option.some.inj h).symm

/-- The lock is lost if there is a lease; otherwise there was none to lose. -/
theorem step_refused (hsite : site ≠ .running) (hidle : V.backend.converting = none)
    (hentry : BrowseCall.losesLock ⟨site, .lock key mode⟩ = true ↔ V.backend.targets key ≠ none) :
    Step (V.converting key) ((V.setMode key none).fail ⟨site, .lock key mode⟩) := by
  have hfail : ((V.setMode key none).fail ⟨site, .lock key mode⟩).backend.failures =
      ⟨site, .lock key mode⟩ :: V.backend.failures := failures_fail hsite
  have hsame : SameLocks (V.setMode key none) ((V.setMode key none).fail ⟨site, .lock key mode⟩) :=
    sameLocks_fail
  refine ⟨?_, ?_, ?_, ?_⟩
  · rw [hfail]
    exact List.suffix_cons _ _
  · intro call hmem hlost
    rw [hfail, List.mem_cons] at hmem
    rcases hmem with rfl | hmem
    · refine .inr fun hlocked => ?_
      have hmode := hsame.locked.mp hlocked key (hentry.mp hlost) (by simp [View.setMode, hidle])
      exact hmode modes_setMode_self
    · exact .inl hmem
  · rw [stops_fail]
    exact fun _ => .inl
  · intro hlocked hclean
    refine hsame.locked.mpr fun other hother _ => ?_
    have hkept := hclean ⟨site, .lock key mode⟩ (hfail ▸ List.mem_cons_self)
    have hne : other ≠ key := by
      rintro rfl
      rw [hentry.mpr hother] at hkept
      cases hkept
    refine hlocked (fun call hmem => hclean call ?_) other hother fun h =>
      hne (Option.some.inj h).symm
    rw [hfail]
    exact List.mem_cons_of_mem _ hmem

theorem view_convert {s} : (convert .daemon key s).view = s.view.converting key := by
  rw [convert, view_onBackend, view_unlock]
  rfl

theorem view_converted_some {s file} (hidle : V.backend.converting = none)
    (hs : s.view = V.converting key) (hfile : file.mode? .daemon = some mode) :
    (converted site .daemon key mode (some file) s).view = V.setMode key (some mode) := by
  have hview : (converted site .daemon key mode (some file) s).view =
      (s.view.setMode key (file.mode? .daemon)).setConverting none := by
    rw [← view_setLock]
    rfl
  rw [hview, hs, hfile, ← hidle]
  refine View.ext rfl ?_
  simp [View.setMode, View.converting, View.setConverting, View.onBackend]

theorem view_converted_none {s} (hidle : V.backend.converting = none)
    (hs : s.view = V.converting key) : (converted site .daemon key mode none s).view =
      (V.setMode key none).fail ⟨site, .lock key mode⟩ := by
  have hview : (converted site .daemon key mode none s).view =
      (s.view.fail ⟨site, .lock key mode⟩).setConverting none := rfl
  rw [hview, hs, View.fail, View.fail, View.onBackend, View.onBackend, Backend.fail, Backend.fail]
  split
  · rw [View.setConverting, View.onBackend, ← hidle]
    rfl
  · rw [View.setConverting, View.onBackend, ← hidle]
    rfl

theorem acts_flock {Q E} (hsite : site ≠ .running) (hidle : V.backend.converting = none)
    (hentry : BrowseCall.losesLock ⟨site, .lock key mode⟩ = true ↔ V.backend.targets key ≠ none)
    (hgranted : Q true (V.setMode key (some mode)))
    (hrefused : Q false ((V.setMode key none).fail ⟨site, .lock key mode⟩))
    (herror : ∀ e, E e ((V.setMode key none).fail ⟨site, .lock key mode⟩)) :
    Acts (flock site .daemon key mode) V Q E := by
  refine acts_note (fun s hs => hs ▸ view_convert) (step_convert hidle) ?_
  refine acts_effect fun i s hs => ?_
  have hlost : Step (V.converting key) ((V.setMode key none).fail ⟨site, .lock key mode⟩) :=
    step_refused hsite hidle hentry
  rcases hi : i.error with _ | e
  · rw [if_pos rfl]
    rcases hfile : (s.locks key).establish? .daemon mode with _ | file
    · rw [view_converted_none hidle hs]
      exact ⟨hlost, acts_ret hrefused⟩
    · rw [view_converted_some hidle hs (LockFile.mode?_establish_self hfile)]
      exact ⟨step_granted, acts_ret hgranted⟩
  · rw [if_neg (by simp), view_converted_none hidle hs]
    exact ⟨hlost, acts_fail (herror e)⟩

end locks

/-! ### The runs -/

section runs

variable {index : Nat} {key : String} {mode : Mode} {s : BrowseSystem}

theorem onBackend_self (s : BrowseSystem) {change}
    (h : change s.backend = s.backend) : (s.onBackend change).view = s.view :=
  View.ext h rfl

theorem beside_converted (established : Option (LockFile LockOwner))
    (h : ∀ file, established = some file → (s.locks key).establish? (.run index) mode = some file) :
    Beside s (converted .running (.run index) key mode established s) := by
  refine (onBackend_self _ (by simp)).trans ?_
  cases established with
  | none => exact onBackend_self s rfl
  | some file => exact view_setLock_run (LockFile.mode?_establish_of_ne (h file rfl) (by simp))

/-- A run only takes and gives back locks of its own. -/
theorem within_runLeases (keys : List String) :
    Within (fun _ _ _ => True) (fun _ _ => True) Beside (fun _ => True) (runLeases index keys) := by
  have : IsRely (σ := BrowseSystem) fun _ _ => True := ⟨fun _ => trivial, fun _ _ => trivial⟩
  have hstab : Stable (fun _ _ => True) fun _ : BrowseSystem => True := fun _ _ _ _ => trivial
  refine within_forEach hstab keys fun key _ => ?_
  have hopen : Within (fun _ _ _ => True) (fun _ _ => True) Beside (fun _ => True)
      (ask .running (.openLockFile key) fun _ => () : BrowseProg Unit) := by
    refine within_effect hstab (fun i t _ _ => ⟨?_, trivial⟩) fun i t _ _ => ?_
    · split
      · rfl
      · exact onBackend_self t rfl
    · split
      · exact within_ret hstab
      · exact within_fail hstab
  have hlock : Within (fun _ _ _ => True) (fun _ _ => True) Beside (fun _ => True)
      (flock .running (.run index) key .exclusive) := by
    refine within_note hstab
      (fun t _ => ⟨(onBackend_self _ (by simp)).trans view_unlock_run, trivial⟩) ?_
    refine within_effect hstab (fun i t _ _ => ⟨beside_converted _ ?_, trivial⟩) fun i t _ _ => ?_
    · intro file hfile
      split at hfile
      · exact hfile
      · cases hfile
    · split
      · exact within_fail hstab
      · exact within_ret hstab
  refine Within.seq (hopen.seq fun _ => hlock).attempt fun acquired => ?_
  split
  · exact within_note hstab (fun t _ => ⟨view_unlock_run, trivial⟩) (within_ret hstab)
  · exact within_ret hstab

end runs

/-! ### The pool -/

/-- What the parties rely on. -/
def relied : LockOwner → BrowseSystem → BrowseSystem → Prop
  | .daemon => Beside
  | .run _ => fun _ _ => True

/-- What the parties guarantee. -/
def guaranteed : LockOwner → BrowseSystem → BrowseSystem → Prop
  | .daemon => fun s t => Step s.view t.view
  | .run _ => Beside

theorem compatible_browse : Pool.Compatible relied guaranteed where
  rely := by
    rintro (_ | index)
    · exact isRely_beside
    · exact ⟨fun _ => trivial, fun _ _ => trivial⟩
  guarantee_refl := by
    rintro (_ | index) s
    · exact Step.refl _
    · exact rfl
  relied := by
    rintro (_ | index) (_ | other) hne s t hstep
    · exact absurd rfl hne
    · exact trivial
    · exact hstep
    · exact trivial

/-- What is known when the daemon's program returns. -/
def onReturn (Q : View → Prop) : LockOwner → Unit → BrowseSystem → Prop
  | .daemon => fun _ s => Q s.view
  | .run _ => fun _ _ => True

/-- What is known when the daemon's program throws. -/
def onThrow (E : ManagerFailure → View → Prop) : LockOwner → ManagerFailure → BrowseSystem → Prop
  | .daemon => fun e s => E e s.view
  | .run _ => fun _ _ => True

section pool

variable {pool : Pool LockOwner BrowseCall BrowseAnswer BrowseSystem ManagerFailure Unit}
  {p : BrowseProg Unit} {Q Q' : View → Prop} {E E' : ManagerFailure → View → Prop}

/-- The daemon follows its program, whatever the runs do. -/
abbrev Followed (Q : View → Prop) (E : ManagerFailure → View → Prop)
    (pool : Pool LockOwner BrowseCall BrowseAnswer BrowseSystem ManagerFailure Unit) : Prop :=
  Pool.AllGuarded (fun _ _ _ => True) relied guaranteed (onReturn Q) (onThrow E) pool

theorem followed_browsePool {sessionRoot : FsPath} {reqs leases system}
    (h : Acts (serveAll sessionRoot reqs) system.view (fun _ => Q) E) :
    Followed Q E (browsePool sessionRoot reqs leases system) := by
  rintro (_ | index)
  · exact h system rfl
  · exact within_runLeases (leases index) system trivial

/-- The daemon starts another program. -/
theorem Followed.restart (h : Followed Q E pool) (hp : Acts p pool.state.view (fun _ => Q') E') :
    Followed Q' E' { pool with thread := Function.update pool.thread .daemon p } := by
  rintro (_ | index)
  · exact hp pool.state rfl
  · exact h (.run index)

theorem Followed.run (h : Followed Q E pool) (schedule : List (LockOwner × BrowseAnswer)) :
    Followed Q E (Pool.run schedule pool) :=
  Pool.guarded_run compatible_browse h (Pool.permitted_of_forall (fun _ _ _ => trivial) _ _)

theorem Followed.returned (h : Followed Q E pool)
    (hres : (pool.thread .daemon).result = some (.ok ())) : Q pool.state.view :=
  Guarded.result_ok isRely_beside (h .daemon) hres

theorem Followed.thrown (h : Followed Q E pool) {e}
    (hres : (pool.thread .daemon).result = some (.error e)) : E e pool.state.view :=
  Guarded.result_error isRely_beside (h .daemon) hres

end pool

end Browse

end BtrfsBackup
