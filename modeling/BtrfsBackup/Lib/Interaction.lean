/-
Programs that consult their environment.

A `Prog κ ι σ ε α` changes a state `σ` by effects.  Each effect is a call
(labelled by a `κ`) to which the environment gives an answer (an `ι`): the
answer decides what the effect does to the state and how the program goes on.
A program ends with a value, ends with an error, or is cut off between two
effects because the environment stops answering.

* `run` plays a program against a finite list of answers; a list that is too
  short is a crash (`Outcome.crashed`), so every prefix of the effects of a
  program is the state of some run;
* `play` plays it against an environment that answers every call;
* `wp` is the weakest precondition with a crash condition, computed along the
  program; `run_spec` and `play_spec` say that it is sound;
* `Keeps` says that a predicate holds in every state a program goes through;
* `Reachable` closes an initial state under steps that are allowed, and
  `Reachable.invariant` is its induction rule.
-/
import Mathlib

namespace Interaction

/-- Programs over states `σ` with calls `κ`, answers `ι` and errors `ε`. -/
inductive Prog (κ ι σ ε α : Type) where
  | ret (value : α)
  | fail (error : ε)
  /-- Go on with a program chosen by looking at the state. -/
  | look (next : σ → Prog κ ι σ ε α)
  /-- Record something in the state; no call, hence no place to crash at. -/
  | note (record : σ → σ) (next : Prog κ ι σ ε α)
  /-- Call the environment; `next` sees the answer and the state before it. -/
  | effect (call : κ) (change : ι → σ → σ) (next : ι → σ → Prog κ ι σ ε α)

/-- How a program ended. -/
inductive Outcome (ε α : Type) where
  | done (value : α)
  | failed (error : ε)
  | crashed
  deriving DecidableEq, Repr

namespace Prog

variable {κ ι σ ε α β : Type}

/-- Sequencing. -/
def bind : Prog κ ι σ ε α → (α → Prog κ ι σ ε β) → Prog κ ι σ ε β
  | ret a, k => k a
  | fail e, _ => fail e
  | look next, k => look fun s => (next s).bind k
  | note record next, k => note record (next.bind k)
  | effect call change next, k => effect call change fun i s => (next i s).bind k

instance : Monad (Prog κ ι σ ε) where
  pure := ret
  bind := bind

/-- Handle the errors of a program; a crash is not an error. -/
def handleError : Prog κ ι σ ε α → (ε → Prog κ ι σ ε α) → Prog κ ι σ ε α
  | ret a, _ => ret a
  | fail e, h => h e
  | look next, h => look fun s => (next s).handleError h
  | note record next, h => note record (next.handleError h)
  | effect call change next, h => effect call change fun i s => (next i s).handleError h

/-- The errors of a program as values. -/
def attempt : Prog κ ι σ ε α → Prog κ ι σ ε (Except ε α)
  | ret a => ret (.ok a)
  | fail e => ret (.error e)
  | look next => look fun s => (next s).attempt
  | note record next => note record next.attempt
  | effect call change next => effect call change fun i s => (next i s).attempt

/-- Run a program for each element of a list, in order. -/
def forEach (f : β → Prog κ ι σ ε Unit) : List β → Prog κ ι σ ε Unit
  | [] => ret ()
  | b :: bs => (f b).bind fun _ => forEach f bs

/-- Play a program against a list of answers. -/
def run : Prog κ ι σ ε α → List ι → σ → Outcome ε α × σ
  | ret a, _, s => (.done a, s)
  | fail e, _, s => (.failed e, s)
  | look next, is, s => (next s).run is s
  | note record next, is, s => next.run is (record s)
  | effect _ _ _, [], s => (.crashed, s)
  | effect _ change next, i :: is, s => (next i s).run is (change i s)

/-- Play a program against an environment that answers every call: `is k` is the
answer to the call number `k`. -/
def play : Prog κ ι σ ε α → (Nat → ι) → σ → Except ε α × σ
  | ret a, _, s => (.ok a, s)
  | fail e, _, s => (.error e, s)
  | look next, is, s => (next s).play is s
  | note record next, is, s => next.play is (record s)
  | effect _ change next, is, s =>
      (next (is 0) s).play (fun k => is (k + 1)) (change (is 0) s)

/-- Weakest precondition: from `s`, whatever the environment answers within
`A`, the program ends in `Q`, fails in `E`, or is cut off in `C`. -/
def wp (A : κ → ι → Prop) (C : σ → Prop) :
    Prog κ ι σ ε α → (α → σ → Prop) → (ε → σ → Prop) → σ → Prop
  | ret a, Q, _, s => Q a s
  | fail e, _, E, s => E e s
  | look next, Q, E, s => wp A C (next s) Q E s
  | note record next, Q, E, s => wp A C next Q E (record s)
  | effect call change next, Q, E, s =>
      C s ∧ ∀ i, A call i → wp A C (next i s) Q E (change i s)

/-! ### Rules -/

section rules

variable {A : κ → ι → Prop} {C C' : σ → Prop} {Q : α → σ → Prop} {E : ε → σ → Prop} {s : σ} {a : α}

@[simp] theorem wp_ret : wp A C (ret a : Prog κ ι σ ε α) Q E s = Q a s := rfl

@[simp] theorem wp_pure : wp A C (pure a : Prog κ ι σ ε α) Q E s = Q a s := rfl

@[simp] theorem wp_fail {e : ε} : wp A C (fail e : Prog κ ι σ ε α) Q E s = E e s := rfl

@[simp] theorem wp_look {next : σ → Prog κ ι σ ε α} :
    wp A C (look next) Q E s = wp A C (next s) Q E s := rfl

@[simp] theorem wp_note {record : σ → σ} {next : Prog κ ι σ ε α} :
    wp A C (note record next) Q E s = wp A C next Q E (record s) := rfl

@[simp] theorem wp_effect {call : κ} {change : ι → σ → σ} {next : ι → σ → Prog κ ι σ ε α} :
    wp A C (effect call change next) Q E s =
      (C s ∧ ∀ i, A call i → wp A C (next i s) Q E (change i s)) := rfl

theorem wp_bind (p : Prog κ ι σ ε α) (k : α → Prog κ ι σ ε β) {Q : β → σ → Prop} :
    wp A C (p.bind k) Q E s ↔ wp A C p (fun a t => wp A C (k a) Q E t) E s := by
  induction p generalizing s with
  | ret a => exact Iff.rfl
  | fail e => exact Iff.rfl
  | look next ih => exact ih s
  | note record next ih => exact ih
  | effect call change next ih =>
    simp only [bind, wp_effect]
    exact and_congr_right fun _ => forall_congr' fun i => imp_congr_right fun _ => ih i s

@[simp] theorem wp_monadBind (p : Prog κ ι σ ε α) (k : α → Prog κ ι σ ε β) {Q : β → σ → Prop} :
    wp A C (p >>= k) Q E s ↔ wp A C p (fun a t => wp A C (k a) Q E t) E s :=
  wp_bind p k

theorem wp_handleError (p : Prog κ ι σ ε α) (h : ε → Prog κ ι σ ε α) :
    wp A C (p.handleError h) Q E s ↔ wp A C p Q (fun e t => wp A C (h e) Q E t) s := by
  induction p generalizing s with
  | ret a => exact Iff.rfl
  | fail e => exact Iff.rfl
  | look next ih => exact ih s
  | note record next ih => exact ih
  | effect call change next ih =>
    simp only [handleError, wp_effect]
    exact and_congr_right fun _ => forall_congr' fun i => imp_congr_right fun _ => ih i s

theorem wp_attempt (p : Prog κ ι σ ε α) {Q : Except ε α → σ → Prop} :
    wp A C p.attempt Q E s ↔ wp A C p (fun a => Q (.ok a)) (fun e => Q (.error e)) s := by
  induction p generalizing s with
  | ret a => exact Iff.rfl
  | fail e => exact Iff.rfl
  | look next ih => exact ih s
  | note record next ih => exact ih
  | effect call change next ih =>
    simp only [attempt, wp_effect]
    exact and_congr_right fun _ => forall_congr' fun i => imp_congr_right fun _ => ih i s

variable {p : Prog κ ι σ ε α} {Q' : α → σ → Prop} {E' : ε → σ → Prop}

/-- Consequence: every condition may be weakened. -/
theorem wp_mono (h : wp A C p Q E s) (hC : ∀ t, C t → C' t)
    (hQ : ∀ a t, Q a t → Q' a t) (hE : ∀ e t, E e t → E' e t) : wp A C' p Q' E' s := by
  induction p generalizing s with
  | ret a => exact hQ a s h
  | fail e => exact hE e s h
  | look next ih => exact ih s h
  | note record next ih => exact ih h
  | effect call change next ih =>
    exact ⟨hC s h.1, fun i hi => ih i s (h.2 i hi)⟩

theorem wp_mono_result (h : wp A C p Q E s) (hQ : ∀ a t, Q a t → Q' a t) : wp A C p Q' E s :=
  wp_mono h (fun _ ht => ht) hQ fun _ _ he => he

theorem wp_mono_error (h : wp A C p Q E s) (hE : ∀ e t, E e t → E' e t) : wp A C p Q E' s :=
  wp_mono h (fun _ ht => ht) (fun _ _ ht => ht) hE

/-- Two specs of one program. -/
theorem wp_and (h : wp A C p Q E s) (h' : wp A C' p Q' E' s) :
    wp A C p (fun a t => Q a t ∧ Q' a t) (fun e t => E e t ∧ E' e t) s := by
  induction p generalizing s with
  | ret a => exact ⟨h, h'⟩
  | fail e => exact ⟨h, h'⟩
  | look next ih => exact ih s h h'
  | note record next ih => exact ih h h'
  | effect call change next ih =>
    exact ⟨h.1, fun i hi => ih i s (h.2 i hi) (h'.2 i hi)⟩

/-- A spec used for the first part of a sequence. -/
theorem wp_seq {k : α → Prog κ ι σ ε β} {R : α → σ → Prop} {Q : β → σ → Prop}
    (h : wp A C p R E s) (hk : ∀ a t, R a t → wp A C (k a) Q E t) : wp A C (p.bind k) Q E s :=
  (wp_bind p k).mpr (wp_mono_result h hk)

variable {f : β → Prog κ ι σ ε Unit}

/-- The loop rule: `I` holds of the elements still to come. -/
theorem wp_forEach {I : List β → σ → Prop} : ∀ {bs : List β} {s : σ}, I bs s →
      (∀ b rest t, I (b :: rest) t → wp A C (f b) (fun _ u => I rest u) E t) →
      wp A C (forEach f bs) (fun _ t => I [] t) E s
  | [], _, h, _ => h
  | b :: rest, s, h, step =>
      wp_seq (step b rest s h) fun _ _ ht => wp_forEach ht step

theorem wp_forEach_append {Q : Unit → σ → Prop} :
    ∀ {bs cs : List β} {s : σ}, wp A C (forEach f (bs ++ cs)) Q E s ↔
      wp A C (forEach f bs) (fun _ t => wp A C (forEach f cs) Q E t) E s
  | [], _, _ => Iff.rfl
  | b :: bs, cs, s => by
    simp only [List.cons_append, forEach, wp_bind]
    exact ⟨fun h => wp_mono_result h fun _ _ => wp_forEach_append.mp,
      fun h => wp_mono_result h fun _ _ => wp_forEach_append.mpr⟩

end rules

/-! ### Invariants of programs -/

/-- Every state the program goes through from a state in `I` is in `I`. -/
def Keeps (A : κ → ι → Prop) (I : σ → Prop) (p : Prog κ ι σ ε α) : Prop :=
  ∀ s, I s → wp A I p (fun _ => I) (fun _ => I) s

section keeps

variable {A : κ → ι → Prop} {I : σ → Prop}

theorem keeps_ret {a : α} : Keeps A I (ret a : Prog κ ι σ ε α) := fun _ hs => hs

theorem keeps_fail {e : ε} : Keeps A I (fail e : Prog κ ι σ ε α) := fun _ hs => hs

theorem keeps_look {next : σ → Prog κ ι σ ε α} (h : ∀ s, Keeps A I (next s)) :
    Keeps A I (look next) := fun s => h s s

theorem keeps_note {record : σ → σ} {next : Prog κ ι σ ε α} (hrecord : ∀ s, I s → I (record s))
    (h : Keeps A I next) : Keeps A I (note record next) := fun s hs => h _ (hrecord s hs)

theorem keeps_effect {call : κ} {change : ι → σ → σ} {next : ι → σ → Prog κ ι σ ε α}
    (hchange : ∀ i s, I s → I (change i s)) (h : ∀ i s, Keeps A I (next i s)) :
    Keeps A I (effect call change next) := fun s hs =>
  ⟨hs, fun i _ => h i s _ (hchange i s hs)⟩

theorem Keeps.bind {p : Prog κ ι σ ε α} {k : α → Prog κ ι σ ε β} (h : Keeps A I p)
    (hk : ∀ a, Keeps A I (k a)) : Keeps A I (p.bind k) := fun s hs =>
  wp_seq (h s hs) hk

theorem Keeps.handleError {p : Prog κ ι σ ε α} {k : ε → Prog κ ι σ ε α} (h : Keeps A I p)
    (hk : ∀ e, Keeps A I (k e)) : Keeps A I (p.handleError k) := fun s hs =>
  (wp_handleError p k).mpr (wp_mono_error (h s hs) hk)

theorem Keeps.attempt {p : Prog κ ι σ ε α} (h : Keeps A I p) : Keeps A I p.attempt :=
  fun s hs => (wp_attempt p).mpr (h s hs)

theorem keeps_ite {c : Prop} [Decidable c] {p q : Prog κ ι σ ε α} (hp : Keeps A I p)
    (hq : Keeps A I q) : Keeps A I (if c then p else q) := by
  split
  · exact hp
  · exact hq

end keeps

/-! ### Soundness -/

/-- All answers of a run are ones that `A` allows. -/
def Obeys (A : κ → ι → σ → Prop) : Prog κ ι σ ε α → List ι → σ → Prop
  | look next, is, s => Obeys A (next s) is s
  | note record next, is, s => Obeys A next is (record s)
  | effect call change next, i :: is, s => A call i s ∧ Obeys A (next i s) is (change i s)
  | _, _, _ => True

instance decideObeys {A : κ → ι → σ → Prop} [∀ call i s, Decidable (A call i s)] :
    (p : Prog κ ι σ ε α) → (is : List ι) → (s : σ) → Decidable (p.Obeys A is s)
  | ret _, _, _ => isTrue trivial
  | fail _, _, _ => isTrue trivial
  | look next, is, s => decideObeys (next s) is s
  | note record next, is, s => decideObeys next is (record s)
  | effect _ _ _, [], _ => isTrue trivial
  | effect call change next, i :: is, s =>
    have := decideObeys (A := A) (next i s) is (change i s)
    inferInstanceAs (Decidable (A call i s ∧ Obeys A (next i s) is (change i s)))

variable {p : Prog κ ι σ ε α} {A : κ → ι → Prop} {C : σ → Prop} {Q : α → σ → Prop}
  {E : ε → σ → Prop} {s t : σ} {is : List ι} {a : α}

theorem obeys_of_mem {A : κ → ι → σ → Prop} (hA : ∀ i ∈ is, ∀ call s, A call i s) :
    p.Obeys A is s := by
  induction p generalizing is s with
  | ret a => trivial
  | fail e => trivial
  | look next ih => exact ih s hA
  | note record next ih => exact ih hA
  | effect call change next ih =>
    cases is with
    | nil => trivial
    | cons i is =>
      exact ⟨hA i List.mem_cons_self call s, ih i s fun j hj => hA j (List.mem_cons_of_mem i hj)⟩

section

variable (h : wp A C p Q E s)
include h

/-- What `wp` promises of a run, whatever prefix of the answers it gets. -/
theorem run_obeys (hA : p.Obeys (fun call i _ => A call i) is s) :
    match p.run is s with
    | (.done a, t) => Q a t
    | (.failed e, t) => E e t
    | (.crashed, t) => C t := by
  induction p generalizing is s with
  | ret a => exact h
  | fail e => exact h
  | look next ih => exact ih s h hA
  | note record next ih => exact ih h hA
  | effect call change next ih =>
    rcases is with _ | ⟨i, is⟩
    · exact h.1
    · exact ih i s (h.2 i hA.1) hA.2

theorem run_spec (hA : ∀ i ∈ is, ∀ call, A call i) :
    match p.run is s with
    | (.done a, t) => Q a t
    | (.failed e, t) => E e t
    | (.crashed, t) => C t :=
  run_obeys h (obeys_of_mem fun i hi call _ => hA i hi call)

theorem run_done (hrun : p.run is s = (.done a, t)) (hA : ∀ i ∈ is, ∀ call, A call i) : Q a t := by
  have hspec := run_spec h hA
  rwa [hrun] at hspec

/-- A run of a program that throws. -/
theorem run_failed {e : ε}
    (hrun : p.run is s = (.failed e, t)) (hA : ∀ i ∈ is, ∀ call, A call i) : E e t := by
  have hspec := run_spec h hA
  rwa [hrun] at hspec

/-- The states of a run satisfy a condition that holds when the program is
cut off, when it ends and when it fails. -/
theorem run_state (hA : ∀ i ∈ is, ∀ call, A call i)
    (hQ : ∀ a t, Q a t → C t) (hE : ∀ e t, E e t → C t) : C (p.run is s).2 := by
  have hrun := run_spec h hA
  generalize p.run is s = r at hrun
  rcases r with ⟨a | e | _, t⟩
  · exact hQ a t hrun
  · exact hE e t hrun
  · exact hrun

/-- What `wp` promises of a program whose calls are all answered. -/
theorem play_spec {is : Nat → ι} (hA : ∀ call k, A call (is k)) :
    match p.play is s with
    | (.ok a, t) => Q a t
    | (.error e, t) => E e t := by
  induction p generalizing is s with
  | ret a => exact h
  | fail e => exact h
  | look next ih => exact ih s h hA
  | note record next ih => exact ih h hA
  | effect call change next ih =>
    exact ih (is 0) s (h.2 (is 0) (hA call 0)) fun call k => hA call (k + 1)

theorem play_ok {is : Nat → ι}
    (hrun : p.play is s = (.ok a, t)) (hA : ∀ call k, A call (is k)) : Q a t := by
  have hspec := play_spec h hA
  rwa [hrun] at hspec

end

/-! ### Completed runs -/

/-- Some answers let the program end with a value. -/
def Completes (p : Prog κ ι σ ε α) (s : σ) (a : α) (t : σ) : Prop :=
  ∃ is, p.run is s = (.done a, t)

theorem completes_pure {b : α} : Completes (pure a : Prog κ ι σ ε α) s b t ↔ b = a ∧ t = s := by
  constructor
  · rintro ⟨is, h⟩
    cases h
    exact ⟨rfl, rfl⟩
  · rintro ⟨rfl, rfl⟩
    exact ⟨[], rfl⟩

theorem completes_bind {k : α → Prog κ ι σ ε β} {u : σ} {b : β} :
    Completes (p.bind k) s b u ↔ ∃ a t, Completes p s a t ∧ Completes (k a) t b u := by
  constructor
  · rintro ⟨is, h⟩
    induction p generalizing is s with
    | ret a => exact ⟨a, s, ⟨is, rfl⟩, is, h⟩
    | fail e => cases h
    | look next ih => exact ih s is h
    | note record next ih => exact ih is h
    | effect call change next ih =>
      rcases is with _ | ⟨i, is⟩
      · cases h
      · obtain ⟨a, t, ⟨js, hp⟩, hk⟩ := ih i s is h
        exact ⟨a, t, ⟨i :: js, hp⟩, hk⟩
  · rintro ⟨a, t, ⟨is, hp⟩, js, hk⟩
    induction p generalizing is s with
    | ret x =>
      cases hp
      exact ⟨js, hk⟩
    | fail e => cases hp
    | look next ih => exact ih s is hp
    | note record next ih => exact ih is hp
    | effect call change next ih =>
      rcases is with _ | ⟨i, is⟩
      · cases hp
      · obtain ⟨ks, hks⟩ := ih i s is hp
        exact ⟨i :: ks, hks⟩

end Prog

/-! ### Sequences of runs -/

/-- The states reachable from `init` by steps `step k` allowed by `ok`. -/
inductive Reachable {κ σ : Type} (init : σ) (step : κ → σ → σ) (ok : κ → σ → Prop) : σ → Prop
  | init : Reachable init step ok init
  | step {s : σ} (k : κ) : Reachable init step ok s → ok k s → Reachable init step ok (step k s)

/-- An invariant holds in every reachable state. -/
theorem Reachable.invariant {κ σ : Type} {init : σ} {step : κ → σ → σ} {ok : κ → σ → Prop}
    {I : σ → Prop} (hinit : I init) (hstep : ∀ k s, I s → ok k s → I (step k s))
    {s : σ} (h : Reachable init step ok s) : I s := by
  induction h with
  | init => exact hinit
  | step k _ hok ih => exact hstep k _ ih hok

end Interaction
