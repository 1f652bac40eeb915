/-
Ranks in a list sorted by a key.

The rank of an element is the number of elements with a smaller key.  In a
sorted list the first `m` places are taken by elements of rank below `m`
(`rank_lt_of_mem_take`), and an element of rank below `m` has an element of its
own key there (`exists_mem_take_of_rank_lt`).  A property that depends on the
key only is therefore met in the first `m` places exactly when an element of
rank below `m` has it (`exists_mem_take_iff`).
-/
import Mathlib

namespace Ranking

open List

variable {α β : Type*} [LinearOrder β]

/-- The number of elements with a smaller key. -/
def rank (key : α → β) (l : List α) (x : α) : ℕ := l.countP fun y => key y < key x

variable {key : α → β} {l l' : List α} {x : α} {m : ℕ}

/-- The elements that an element does not rank above: itself, and those with a
greater or equal key. -/
theorem rank_add (key : α → β) (l : List α) (x : α) :
    rank key l x + l.countP (fun y => key x ≤ key y) = l.length := by
  have h := length_eq_countP_add_countP (fun y => decide (key y < key x)) (l := l)
  have hcongr : l.countP (fun y => decide ¬ (decide (key y < key x) = true)) =
      l.countP fun y => decide (key x ≤ key y) := by
    refine countP_congr fun y _ => ?_
    simp
  rw [rank, h, ← hcongr]

section

variable (hsorted : l.Pairwise fun a b => key a ≤ key b)
include hsorted

/-- The elements in the first `m` places have rank below `m`. -/
theorem rank_lt_of_mem_take (h : x ∈ l.take m) : rank key l x < m := by
  induction l generalizing m with
  | nil => simp at h
  | cons a l ih =>
    obtain ⟨hhead, htail⟩ := pairwise_cons.mp hsorted
    cases m with
    | zero => simp at h
    | succ m =>
      rw [take_succ_cons] at h
      rcases mem_cons.mp h with rfl | h
      · -- nothing is below the first element
        have hzero : rank key (x :: l) x = 0 := by
          refine countP_eq_zero.mpr fun y hy => ?_
          rcases mem_cons.mp hy with rfl | hy
          · simp
          · simpa using hhead y hy
        omega
      · have hrank := ih htail h
        have hle : rank key (a :: l) x ≤ rank key l x + 1 := by
          rw [rank, countP_cons, rank]
          split_ifs
          · omega
          · omega
        omega

/-- An element of rank below `m` shares its key with one of the first `m`
places. -/
theorem exists_mem_take_of_rank_lt (hx : x ∈ l)
    (h : rank key l x < m) : ∃ y ∈ l.take m, key y = key x := by
  induction l generalizing m with
  | nil => cases hx
  | cons a l ih =>
    obtain ⟨hhead, htail⟩ := pairwise_cons.mp hsorted
    cases m with
    | zero => omega
    | succ m =>
      rw [take_succ_cons]
      rcases mem_cons.mp hx with rfl | hx
      · exact ⟨x, mem_cons_self, rfl⟩
      rcases (hhead x hx).lt_or_eq with hlt | heq
      · -- `a` counts, so that one place less is left for the rest
        have hcount : rank key (a :: l) x = rank key l x + 1 := by
          rw [rank, countP_cons, if_pos (by simpa using hlt), rank]
        have hrest : rank key l x < m := by omega
        obtain ⟨y, hy, hkey⟩ := ih htail hx hrest
        exact ⟨y, mem_cons_of_mem a hy, hkey⟩
      · exact ⟨a, mem_cons_self, heq⟩

/-- What the first `m` places of a sorted list meet, in terms of ranks. -/
theorem exists_mem_take_iff {p : α → Prop} (hp : ∀ a b, key a = key b → p a → p b) :
    (∃ x ∈ l.take m, p x) ↔ ∃ x ∈ l, p x ∧ rank key l x < m := by
  constructor
  · rintro ⟨x, hx, hpx⟩
    exact ⟨x, mem_of_mem_take hx, hpx, rank_lt_of_mem_take hsorted hx⟩
  · rintro ⟨x, hx, hpx, hrank⟩
    obtain ⟨y, hy, hkey⟩ := exists_mem_take_of_rank_lt hsorted hx hrank
    exact ⟨y, hy, hp x y hkey.symm hpx⟩

end

end Ranking
