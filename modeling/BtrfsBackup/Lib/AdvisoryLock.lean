/-
Advisory locks on files, as `flock` documents them.

A lock belongs to an open file and is shared or exclusive.  An exclusive lock excludes
every other one.  Converting a lock removes it first and then tries to establish the
new one, so a conversion that does not get the new lock has lost the old one.

* `LockFile` — the locks on a file; no two of them exclude each other;
* `unlock`, `establish?` — removing a lock, and trying to establish one;
* `mode?_eq_none_of_exclusive` — whoever has an exclusive lock is alone.
-/
import Mathlib

namespace AdvisoryLock

/-- The kinds of locks. -/
inductive Mode where
  | shared
  | exclusive
  deriving DecidableEq, Repr

variable {η : Type}

/-- Two locks of different holders that do not exclude each other. -/
def Coexist (a b : η × Mode) : Prop := a.1 ≠ b.1 ∧ a.2 = .shared ∧ b.2 = .shared

instance : Std.Symm (Coexist (η := η)) := ⟨fun _ _ h => ⟨h.1.symm, h.2.2, h.2.1⟩⟩

/-- The locks on a file. -/
structure LockFile (η : Type) where
  locks : List (η × Mode)
  lawful : locks.Pairwise Coexist

namespace LockFile

def free : LockFile η := ⟨[], List.Pairwise.nil⟩

variable [DecidableEq η]

/-- The lock of a holder. -/
def mode? (file : LockFile η) (who : η) : Option Mode :=
  (file.locks.find? fun lock => lock.1 = who).map Prod.snd

/-- Remove the lock of a holder. -/
def unlock (file : LockFile η) (who : η) : LockFile η :=
  ⟨file.locks.filter fun lock => lock.1 ≠ who, file.lawful.filter _⟩

/-- Is there nothing that excludes a lock of `who`, who has none? -/
def Available (file : LockFile η) (who : η) (mode : Mode) : Prop :=
  ∀ lock ∈ file.locks, Coexist (who, mode) lock

instance (file : LockFile η) (who : η) (mode : Mode) : Decidable (file.Available who mode) :=
  inferInstanceAs (Decidable (∀ lock ∈ file.locks,
    who ≠ lock.1 ∧ mode = .shared ∧ lock.2 = .shared))

/-- Try to establish a lock; `none` if another one excludes it. -/
def establish? (file : LockFile η) (who : η) (mode : Mode) : Option (LockFile η) :=
  if h : file.Available who mode then
    some ⟨(who, mode) :: file.locks, List.pairwise_cons.mpr ⟨h, file.lawful⟩⟩
  else none

variable {file file' : LockFile η} {who other : η} {mode : Mode}

theorem mode?_eq_some : file.mode? who = some mode ↔ (who, mode) ∈ file.locks := by
  constructor
  · intro h
    obtain ⟨⟨holder, mode'⟩, hfind, rfl⟩ := Option.map_eq_some_iff.mp h
    obtain rfl : holder = who := by simpa using List.find?_some hfind
    exact List.mem_of_find?_eq_some hfind
  · intro hmem
    rcases hfind : file.locks.find? (fun lock => lock.1 = who) with _ | ⟨holder, mode'⟩
    · have hnone := List.find?_eq_none.mp hfind _ hmem
      simp at hnone
    · obtain rfl : holder = who := by simpa using List.find?_some hfind
      have hfound := List.mem_of_find?_eq_some hfind
      have hsame : mode' = mode := by
        by_contra hne
        have hdiffer : (holder, mode') ≠ (holder, mode) := fun heq => hne (congrArg Prod.snd heq)
        exact (file.lawful.forall hfound hmem hdiffer).1 rfl
      rw [mode?, hfind, hsame]
      rfl

theorem mode?_eq_none : file.mode? who = none ↔ ∀ mode, (who, mode) ∉ file.locks := by
  rw [Option.eq_none_iff_forall_ne_some]
  exact forall_congr' fun mode => not_congr mode?_eq_some

@[simp] theorem mode?_unlock_self : (file.unlock who).mode? who = none :=
  mode?_eq_none.mpr fun _ hmem => by simpa using (List.mem_filter.mp hmem).2

theorem mode?_unlock_of_ne (h : other ≠ who) :
    (file.unlock who).mode? other = file.mode? other := by
  refine Option.ext fun mode => ?_
  rw [mode?_eq_some, mode?_eq_some, unlock, List.mem_filter]
  exact and_iff_left (by simpa using h)

theorem mode?_establish_self (h : file.establish? who mode = some file') :
    file'.mode? who = some mode := by
  rw [establish?] at h
  split at h
  · obtain rfl := Option.some.inj h
    exact mode?_eq_some.mpr List.mem_cons_self
  · cases h

theorem mode?_establish_of_ne (h : file.establish? who mode = some file') (hne : other ≠ who) :
    file'.mode? other = file.mode? other := by
  rw [establish?] at h
  split at h
  · obtain rfl := Option.some.inj h
    refine Option.ext fun mode => ?_
    rw [mode?_eq_some, mode?_eq_some, List.mem_cons]
    exact or_iff_right fun heq => hne (congrArg Prod.fst heq)
  · cases h

/-- Whoever has an exclusive lock is alone. -/
theorem mode?_eq_none_of_exclusive (h : file.mode? who = some .exclusive) (hne : other ≠ who) :
    file.mode? other = none := by
  refine mode?_eq_none.mpr fun mode hmem => ?_
  have hdiffer : (other, mode) ≠ (who, .exclusive) := fun heq => hne (congrArg Prod.fst heq)
  have hcoexist := file.lawful.forall hmem
    (mode?_eq_some.mp h) hdiffer
  cases hcoexist.2.2

end LockFile

end AdvisoryLock
