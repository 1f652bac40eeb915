/-
Programs that run at the same time.

A `Pool` is a family of programs over one shared state.  A schedule says which
program takes the next step and what the environment answers if that step is a
call; a program that is not scheduled any more has crashed.  Steps are atomic,
so that every effect of a program is a place where the others may come between.

* `advance` — one step of a program, `Pool.step` and `Pool.run` — of a pool;
* `Guarded A R G p Q E s` — rely and guarantee: if the others change the state
  only within `R` and calls are made and answered only within `A`, each step of
  `p` from `s` is within `G`, and `p` ends in `Q` or fails in `E`;
* `Pool.guarded_run` — if what each program guarantees is what the others rely
  on, all of them stay guarded along every schedule;
* `Pool.invariant_run` — what every guarantee keeps holds in every state.
-/
import BtrfsBackup.Lib.Interaction

namespace Interaction

variable {τ κ ι σ ε α β : Type}

namespace Prog

/-- One step of a program; the answer is used if the step is a call. -/
def advance (i : ι) : Prog κ ι σ ε α → σ → Prog κ ι σ ε α × σ
  | ret a, s => (ret a, s)
  | fail e, s => (fail e, s)
  | look next, s => (next s, s)
  | note record next, s => (next, record s)
  | effect _ change next, s => (next i s, change i s)

/-- The next step of a program is one that `A` allows. -/
def Permits (A : κ → ι → σ → Prop) (i : ι) : Prog κ ι σ ε α → σ → Prop
  | effect call _ _, s => A call i s
  | _, _ => True

instance (A : κ → ι → σ → Prop) [∀ call i s, Decidable (A call i s)] (i : ι)
    (p : Prog κ ι σ ε α) (s : σ) : Decidable (p.Permits A i s) :=
  match p with
  | ret _ => isTrue trivial
  | fail _ => isTrue trivial
  | look _ => isTrue trivial
  | note _ _ => isTrue trivial
  | effect call _ _ => inferInstanceAs (Decidable (A call i s))

/-- How the program ended, if it has come to its end. -/
def result : Prog κ ι σ ε α → Option (Except ε α)
  | ret a => some (.ok a)
  | fail e => some (.error e)
  | _ => none

/-- Rely and guarantee. -/
def Guarded (A : κ → ι → σ → Prop) (R G : σ → σ → Prop) :
    Prog κ ι σ ε α → (α → σ → Prop) → (ε → σ → Prop) → σ → Prop
  | ret a, Q, _, s => ∀ t, R s t → Q a t
  | fail e, _, E, s => ∀ t, R s t → E e t
  | look next, Q, E, s => ∀ t, R s t → Guarded A R G (next t) Q E t
  | note record next, Q, E, s =>
      ∀ t, R s t → G t (record t) ∧ Guarded A R G next Q E (record t)
  | effect call change next, Q, E, s =>
      ∀ t, R s t → ∀ i, A call i t →
        G t (change i t) ∧ Guarded A R G (next i t) Q E (change i t)

/-- What may be relied on: the others may do nothing, and one thing after another. -/
class IsRely (R : σ → σ → Prop) : Prop where
  refl : ∀ s, R s s
  trans : ∀ {s t u}, R s t → R t u → R s u

/-- `P` survives what the others may do. -/
def Stable (R : σ → σ → Prop) (P : σ → Prop) : Prop := ∀ s t, R s t → P s → P t

section rules

variable {A : κ → ι → σ → Prop} {R G : σ → σ → Prop} {Q : α → σ → Prop} {E : ε → σ → Prop}
  {P : σ → Prop} {s t : σ}

theorem Stable.and {P' : σ → Prop} (h : Stable R P) (h' : Stable R P') :
    Stable R fun s => P s ∧ P' s := fun s t hR hs => ⟨h s t hR hs.1, h' s t hR hs.2⟩

variable {p : Prog κ ι σ ε α} {Q' M : α → σ → Prop} {E' : ε → σ → Prop} {a : α} {e : ε}

/-- The others may act before the program goes on. -/
theorem Guarded.of_rely (hR : IsRely R) (h : Guarded A R G p Q E s)
    (hst : R s t) : Guarded A R G p Q E t := by
  cases p with
  | ret a => exact fun u hu => h u (hR.trans hst hu)
  | fail e => exact fun u hu => h u (hR.trans hst hu)
  | look next => exact fun u hu => h u (hR.trans hst hu)
  | note record next => exact fun u hu => h u (hR.trans hst hu)
  | effect call change next => exact fun u hu => h u (hR.trans hst hu)

section

variable (h : Guarded A R G p Q E s)
include h

/-- Consequence. -/
theorem Guarded.mono {G' : σ → σ → Prop} (hG : ∀ t u, G t u → G' t u)
    (hQ : ∀ a t, Q a t → Q' a t) (hE : ∀ e t, E e t → E' e t) : Guarded A R G' p Q' E' s := by
  induction p generalizing s with
  | ret a => exact fun t ht => hQ a t (h t ht)
  | fail e => exact fun t ht => hE e t (h t ht)
  | look next ih => exact fun t ht => ih t (h t ht)
  | note record next ih => exact fun t ht => ⟨hG _ _ (h t ht).1, ih (h t ht).2⟩
  | effect call change next ih =>
    exact fun t ht i hi => ⟨hG _ _ (h t ht i hi).1, ih i t (h t ht i hi).2⟩

theorem Guarded.mono_result (hQ : ∀ a t, Q a t → Q' a t) : Guarded A R G p Q' E s :=
  h.mono (fun _ _ hG => hG) hQ fun _ _ he => he

theorem Guarded.mono_error (hE : ∀ e t, E e t → E' e t) : Guarded A R G p Q E' s :=
  h.mono (fun _ _ hG => hG) (fun _ _ hQ => hQ) hE

/-- Fewer answers are allowed. -/
theorem Guarded.restrict {A' : κ → ι → σ → Prop}
    (hA : ∀ call i t, A' call i t → A call i t) : Guarded A' R G p Q E s := by
  induction p generalizing s with
  | ret a => exact h
  | fail e => exact h
  | look next ih => exact fun t ht => ih t (h t ht)
  | note record next ih => exact fun t ht => ⟨(h t ht).1, ih (h t ht).2⟩
  | effect call change next ih =>
    exact fun t ht i hi =>
      ⟨(h t ht i (hA call i t hi)).1, ih i t (h t ht i (hA call i t hi)).2⟩

/-- What neither the others nor the program itself change stays. -/
theorem Guarded.frame {K : σ → Prop} (hR : Stable R K) (hG : Stable G K)
    (hs : K s) : Guarded A R G p (fun a t => Q a t ∧ K t) (fun e t => E e t ∧ K t) s := by
  induction p generalizing s with
  | ret a => exact fun t ht => ⟨h t ht, hR s t ht hs⟩
  | fail e => exact fun t ht => ⟨h t ht, hR s t ht hs⟩
  | look next ih => exact fun t ht => ih t (h t ht) (hR s t ht hs)
  | note record next ih =>
    intro t ht
    have hstep := h t ht
    exact ⟨hstep.1, ih hstep.2 (hG _ _ hstep.1 (hR s t ht hs))⟩
  | effect call change next ih =>
    intro t ht i hi
    have hstep := h t ht i hi
    exact ⟨hstep.1, ih i t hstep.2 (hG _ _ hstep.1 (hR s t ht hs))⟩

end

theorem guarded_ret (hP : Stable R P) (hs : P s) (hQ : ∀ t, P t → Q a t) :
    Guarded A R G (ret a : Prog κ ι σ ε α) Q E s :=
  fun t ht => hQ t (hP s t ht hs)

theorem guarded_fail (hP : Stable R P) (hs : P s) (hE : ∀ t, P t → E e t) :
    Guarded A R G (fail e : Prog κ ι σ ε α) Q E s :=
  fun t ht => hE t (hP s t ht hs)

theorem guarded_note {record : σ → σ} {next : Prog κ ι σ ε α} (hP : Stable R P) (hs : P s)
    (h : ∀ t, P t → G t (record t) ∧ Guarded A R G next Q E (record t)) :
    Guarded A R G (note record next) Q E s :=
  fun t ht => h t (hP s t ht hs)

/-- A call made in a state of which something stable is known. -/
theorem guarded_effect {call : κ} {change : ι → σ → σ} {next : ι → σ → Prog κ ι σ ε α}
    (hP : Stable R P) (hs : P s) (h : ∀ i t, P t → A call i t →
      G t (change i t) ∧ Guarded A R G (next i t) Q E (change i t)) :
    Guarded A R G (effect call change next) Q E s :=
  fun t ht i hi => h i t (hP s t ht hs) hi

theorem guarded_bind [hR : IsRely R] (p : Prog κ ι σ ε α) (k : α → Prog κ ι σ ε β)
    {Q : β → σ → Prop} : Guarded A R G (p.bind k) Q E s ↔
      Guarded A R G p (fun a t => Guarded A R G (k a) Q E t) E s := by
  induction p generalizing s with
  | ret a => exact ⟨fun h t => h.of_rely hR, fun h => h s (hR.refl s)⟩
  | fail e => exact Iff.rfl
  | look next ih => exact forall_congr' fun t => imp_congr_right fun _ => ih t
  | note record next ih =>
    exact forall_congr' fun t => imp_congr_right fun _ => and_congr_right fun _ => ih
  | effect call change next ih =>
    exact forall_congr' fun t => imp_congr_right fun _ => forall_congr' fun i =>
      imp_congr_right fun _ => and_congr_right fun _ => ih i t

variable {k : α → Prog κ ι σ ε β}

/-- A spec used for the first part of a sequence. -/
theorem guarded_seq [IsRely R] {Q : β → σ → Prop} (h : Guarded A R G p M E s)
    (hk : ∀ a t, M a t → Guarded A R G (k a) Q E t) : Guarded A R G (p.bind k) Q E s :=
  (guarded_bind p k).mpr (h.mono_result hk)

/-- The same for `do` blocks. -/
theorem guarded_do [IsRely R] {Q : β → σ → Prop} (h : Guarded A R G p M E s)
    (hk : ∀ a t, M a t → Guarded A R G (k a) Q E t) : Guarded A R G (p >>= k) Q E s :=
  guarded_seq h hk

theorem guarded_handleError [hR : IsRely R] (p : Prog κ ι σ ε α) (h : ε → Prog κ ι σ ε α) :
    Guarded A R G (p.handleError h) Q E s ↔
      Guarded A R G p Q (fun e t => Guarded A R G (h e) Q E t) s := by
  induction p generalizing s with
  | ret a => exact Iff.rfl
  | fail e => exact ⟨fun h t => h.of_rely hR, fun h => h s (hR.refl s)⟩
  | look next ih => exact forall_congr' fun t => imp_congr_right fun _ => ih t
  | note record next ih =>
    exact forall_congr' fun t => imp_congr_right fun _ => and_congr_right fun _ => ih
  | effect call change next ih =>
    exact forall_congr' fun t => imp_congr_right fun _ => forall_congr' fun i =>
      imp_congr_right fun _ => and_congr_right fun _ => ih i t

theorem guarded_attempt (p : Prog κ ι σ ε α) {Q : Except ε α → σ → Prop} :
    Guarded A R G p.attempt Q E s ↔
      Guarded A R G p (fun a => Q (.ok a)) (fun e => Q (.error e)) s := by
  induction p generalizing s with
  | ret a => exact Iff.rfl
  | fail e => exact Iff.rfl
  | look next ih => exact forall_congr' fun t => imp_congr_right fun _ => ih t
  | note record next ih =>
    exact forall_congr' fun t => imp_congr_right fun _ => and_congr_right fun _ => ih
  | effect call change next ih =>
    exact forall_congr' fun t => imp_congr_right fun _ => forall_congr' fun i =>
      imp_congr_right fun _ => and_congr_right fun _ => ih i t

/-- The loop rule: `I` holds of the elements still to come. -/
theorem guarded_forEach [IsRely R] {f : β → Prog κ ι σ ε Unit} {I : List β → σ → Prop}
    (hI : Stable R (I [])) {bs : List β} (h : I bs s)
    (step : ∀ b rest t, I (b :: rest) t → Guarded A R G (f b) (fun _ u => I rest u) E t) :
    Guarded A R G (forEach f bs) (fun _ t => I [] t) E s := by
  induction bs generalizing s with
  | nil => exact fun t ht => hI s t ht h
  | cons b rest ih => exact guarded_seq (step b rest s h) fun _ t => ih

theorem Guarded.result_ok (hR : IsRely R) (h : Guarded A R G p Q E s) {a}
    (hres : p.result = some (.ok a)) : Q a s := by
  cases p with
  | ret b =>
    obtain rfl : b = a := by simpa [result] using hres
    exact h s (hR.refl s)
  | fail e => simp [result] at hres
  | look next => cases hres
  | note record next => cases hres
  | effect call change next => cases hres

theorem Guarded.result_error (hR : IsRely R) (h : Guarded A R G p Q E s) {e}
    (hres : p.result = some (.error e)) : E e s := by
  cases p with
  | ret b => simp [result] at hres
  | fail e' =>
    obtain rfl : e' = e := by simpa [result] using hres
    exact h s (hR.refl s)
  | look next => cases hres
  | note record next => cases hres
  | effect call change next => cases hres

/-- What a program that runs alone returns. -/
theorem Guarded.run_done (hR : IsRely R) (h : Guarded A R G p Q E s) {is : List ι}
    (hobeys : p.Obeys A is s) (hrun : p.run is s = (.done a, t)) : Q a t := by
  induction p generalizing is s with
  | ret b =>
    obtain ⟨rfl, rfl⟩ : b = a ∧ s = t := by simpa [run] using hrun
    exact h s (hR.refl s)
  | fail e => simp [run] at hrun
  | look next ih => exact ih s (h s (hR.refl s)) hobeys hrun
  | note record next ih => exact ih (h s (hR.refl s)).2 hobeys hrun
  | effect call change next ih =>
    cases is with
    | nil => simp [run] at hrun
    | cons i is => exact ih i s (h s (hR.refl s) i hobeys.1).2 hobeys.2 hrun

/-- A step of a guarded program. -/
theorem Guarded.advance (hR : IsRely R) (hG : ∀ s, G s s)
    (h : Guarded A R G p Q E s) {i : ι} (hi : p.Permits A i s) :
    G s (p.advance i s).2 ∧ Guarded A R G (p.advance i s).1 Q E (p.advance i s).2 := by
  cases p with
  | ret a => exact ⟨hG s, h⟩
  | fail e => exact ⟨hG s, h⟩
  | look next => exact ⟨hG s, h s (hR.refl s)⟩
  | note record next => exact h s (hR.refl s)
  | effect call change next => exact h s (hR.refl s) i hi

end rules

/-! ### Programs that keep an invariant -/

/-- From every state in `I`, the program stays in `I` and its steps are within `G`. -/
def Within (A : κ → ι → σ → Prop) (R G : σ → σ → Prop) (I : σ → Prop) (p : Prog κ ι σ ε α) :
    Prop :=
  ∀ s, I s → Guarded A R G p (fun _ => I) (fun _ => I) s

section within

variable {A : κ → ι → σ → Prop} {R G : σ → σ → Prop} {I : σ → Prop}

theorem within_ret (hI : Stable R I) {a : α} : Within A R G I (ret a : Prog κ ι σ ε α) :=
  fun s hs t ht => hI s t ht hs

theorem within_fail (hI : Stable R I) {e : ε} : Within A R G I (fail e : Prog κ ι σ ε α) :=
  fun s hs t ht => hI s t ht hs

theorem within_look (hI : Stable R I) {next : σ → Prog κ ι σ ε α}
    (h : ∀ s, I s → Within A R G I (next s)) : Within A R G I (look next) :=
  fun s hs t ht => h t (hI s t ht hs) t (hI s t ht hs)

theorem within_note (hI : Stable R I) {record : σ → σ} {next : Prog κ ι σ ε α}
    (hrecord : ∀ t, I t → G t (record t) ∧ I (record t)) (h : Within A R G I next) :
    Within A R G I (note record next) := fun s hs t ht =>
  have hstep := hrecord t (hI s t ht hs)
  ⟨hstep.1, h _ hstep.2⟩

theorem within_effect (hI : Stable R I) {call : κ} {change : ι → σ → σ}
    {next : ι → σ → Prog κ ι σ ε α}
    (hchange : ∀ i t, I t → A call i t → G t (change i t) ∧ I (change i t))
    (h : ∀ i t, I t → A call i t → Within A R G I (next i t)) :
    Within A R G I (effect call change next) := fun s hs t ht i hi =>
  have hstep := hchange i t (hI s t ht hs) hi
  ⟨hstep.1, h i t (hI s t ht hs) hi _ hstep.2⟩

variable {p : Prog κ ι σ ε α} {k : α → Prog κ ι σ ε β}

theorem Within.bind [IsRely R]
    (h : Within A R G I p) (hk : ∀ a, Within A R G I (k a)) : Within A R G I (p.bind k) :=
  fun s hs => guarded_seq (h s hs) hk

/-- The same for `do` blocks. -/
theorem Within.seq [IsRely R]
    (h : Within A R G I p) (hk : ∀ a, Within A R G I (k a)) : Within A R G I (p >>= k) :=
  h.bind hk

theorem Within.handleError [IsRely R] {k : ε → Prog κ ι σ ε α}
    (h : Within A R G I p) (hk : ∀ e, Within A R G I (k e)) : Within A R G I (p.handleError k) :=
  fun s hs => (guarded_handleError p k).mpr
    ((h s hs).mono_error hk)

theorem Within.attempt (h : Within A R G I p) : Within A R G I p.attempt :=
  fun s hs => (guarded_attempt p).mpr (h s hs)

theorem within_ite {c : Prop} [Decidable c] {q : Prog κ ι σ ε α} (hp : Within A R G I p)
    (hq : Within A R G I q) : Within A R G I (if c then p else q) := by
  split
  · exact hp
  · exact hq

theorem within_forEach [IsRely R] (hI : Stable R I) {f : β → Prog κ ι σ ε Unit}
    (bs : List β) (h : ∀ b ∈ bs, Within A R G I (f b)) : Within A R G I (forEach f bs) := by
  induction bs with
  | nil => exact within_ret hI
  | cons b rest ih =>
    exact (h b List.mem_cons_self).bind fun _ =>
      ih fun c hc => h c (List.mem_cons_of_mem b hc)

end within

end Prog

/-! ### Pools -/

/-- Programs over one shared state. -/
structure Pool (τ κ ι σ ε α : Type) where
  state : σ
  thread : τ → Prog κ ι σ ε α

namespace Pool

variable [DecidableEq τ]

/-- A step of one of the programs. -/
def step (who : τ) (i : ι) (pool : Pool τ κ ι σ ε α) : Pool τ κ ι σ ε α where
  state := ((pool.thread who).advance i pool.state).2
  thread := Function.update pool.thread who ((pool.thread who).advance i pool.state).1

/-- The pool after the steps of a schedule. -/
def run : List (τ × ι) → Pool τ κ ι σ ε α → Pool τ κ ι σ ε α
  | [], pool => pool
  | (who, i) :: schedule, pool => run schedule (pool.step who i)

/-- All steps of a schedule are ones that `A` allows. -/
def Permitted (A : κ → ι → σ → Prop) : List (τ × ι) → Pool τ κ ι σ ε α → Prop
  | [], _ => True
  | (who, i) :: schedule, pool =>
      (pool.thread who).Permits A i pool.state ∧ Permitted A schedule (pool.step who i)

/-- `Permitted` can be evaluated. -/
def decidePermitted (A : κ → ι → σ → Prop) [∀ call i s, Decidable (A call i s)] :
    ∀ (schedule : List (τ × ι)) (pool : Pool τ κ ι σ ε α), Decidable (Permitted A schedule pool)
  | [], _ => isTrue trivial
  | (who, i) :: schedule, pool =>
      have := decidePermitted A schedule (pool.step who i)
      inferInstanceAs (Decidable
        ((pool.thread who).Permits A i pool.state ∧ Permitted A schedule (pool.step who i)))

instance (A : κ → ι → σ → Prop) [∀ call i s, Decidable (A call i s)]
    (schedule : List (τ × ι)) (pool : Pool τ κ ι σ ε α) : Decidable (Permitted A schedule pool) :=
  decidePermitted A schedule pool

@[simp] theorem thread_step_self (who : τ) (i : ι) (pool : Pool τ κ ι σ ε α) :
    (pool.step who i).thread who = ((pool.thread who).advance i pool.state).1 :=
  Function.update_self _ _ _

theorem thread_step_of_ne {who other : τ} (h : other ≠ who) (i : ι) (pool : Pool τ κ ι σ ε α) :
    (pool.step who i).thread other = pool.thread other :=
  Function.update_of_ne h _ _

theorem permitted_of_forall {A : κ → ι → σ → Prop} (h : ∀ call i s, A call i s)
    (schedule : List (τ × ι)) (pool : Pool τ κ ι σ ε α) : Permitted A schedule pool := by
  induction schedule generalizing pool with
  | nil => trivial
  | cons x schedule ih =>
    refine ⟨?_, ih _⟩
    cases pool.thread x.1 with
    | effect call change next => exact h call _ _
    | ret a => trivial
    | fail e => trivial
    | look next => trivial
    | note record next => trivial

section rely

variable {A : κ → ι → σ → Prop} {R G : τ → σ → σ → Prop} {Q : τ → α → σ → Prop}
  {E : τ → ε → σ → Prop}

/-- What each program guarantees is what the others rely on. -/
structure Compatible (R G : τ → σ → σ → Prop) : Prop where
  rely : ∀ who, Prog.IsRely (R who)
  guarantee_refl : ∀ who s, G who s s
  relied : ∀ who other, other ≠ who → ∀ s t, G who s t → R other s t

/-- Every program of the pool is guarded. -/
def AllGuarded (A : κ → ι → σ → Prop) (R G : τ → σ → σ → Prop) (Q : τ → α → σ → Prop)
    (E : τ → ε → σ → Prop) (pool : Pool τ κ ι σ ε α) : Prop :=
  ∀ who, Prog.Guarded A (R who) (G who) (pool.thread who) (Q who) (E who) pool.state

variable {pool : Pool τ κ ι σ ε α} {schedule : List (τ × ι)}

theorem guarded_step (hcompat : Compatible R G) (h : AllGuarded A R G Q E pool) {who : τ} {i : ι}
    (hi : (pool.thread who).Permits A i pool.state) :
    G who pool.state (pool.step who i).state ∧ AllGuarded A R G Q E (pool.step who i) := by
  obtain ⟨hstep, hguarded⟩ :=
    (h who).advance (hcompat.rely who) (hcompat.guarantee_refl who) hi
  refine ⟨hstep, fun other => ?_⟩
  by_cases heq : other = who
  · subst heq
    rw [thread_step_self]
    exact hguarded
  · rw [thread_step_of_ne heq]
    exact (h other).of_rely (hcompat.rely other) (hcompat.relied who other heq _ _ hstep)

/-- All programs stay guarded along a schedule. -/
theorem guarded_run (hcompat : Compatible R G) (h : AllGuarded A R G Q E pool)
    (hperm : Permitted A schedule pool) : AllGuarded A R G Q E (run schedule pool) := by
  induction schedule generalizing pool with
  | nil => exact h
  | cons x schedule ih =>
    exact ih (guarded_step hcompat h hperm.1).2 hperm.2

/-- What every guarantee keeps holds after every schedule. -/
theorem invariant_run (hcompat : Compatible R G)
    {I : σ → Prop} (hI : ∀ who s t, G who s t → I s → I t) (h : AllGuarded A R G Q E pool)
    (hperm : Permitted A schedule pool) (hstate : I pool.state) : I (run schedule pool).state := by
  induction schedule generalizing pool with
  | nil => exact hstate
  | cons x schedule ih =>
    obtain ⟨hstep, hguarded⟩ := guarded_step hcompat h hperm.1
    exact ih hguarded hperm.2 (hI x.1 _ _ hstep hstate)

end rely

end Pool

end Interaction
