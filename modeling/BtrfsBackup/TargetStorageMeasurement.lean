/-
The space of a target filesystem (`backup/model/TargetStorageMeasurement`).

The percentage shown for a target is found by trying 1, 2, … 100.  A threshold is put
together from the quotient and the remainder of the total by 100, so that no product of
64-bit numbers is larger than the total itself.

* `le_threshold_iff` — the threshold of a percentage is exact;
* `usagePercent_isLeast` — the percentage is rounded up, without any wrap-around.
-/
import Mathlib.Order.Bounds.Basic

namespace BtrfsBackup

structure FilesystemSpace where
  capacityBytes : UInt64 := 0
  freeBytes : UInt64 := 0
  availableBytes : UInt64 := 0

namespace FilesystemSpace

variable (space : FilesystemSpace)

/-- `FilesystemSpace::valid`. -/
def valid : Bool :=
  space.freeBytes ≤ space.capacityBytes && space.availableBytes ≤ space.freeBytes

/-- `FilesystemSpace::used_bytes`. -/
def usedBytes : UInt64 := if space.valid then space.capacityBytes - space.freeBytes else 0

/-- The threshold of a percentage, from `whole_percent` and `remainder`. -/
def threshold (wholePercent remainder : UInt64) (percent : Nat) : UInt64 :=
  let value := UInt64.ofNat percent
  wholePercent * value + remainder * value / 100

/-- `FilesystemSpace::usage_percent`. -/
def usagePercent : Nat :=
  if !space.valid then 0
  else
    let used := space.usedBytes
    let usableTotal := used + space.availableBytes
    if usableTotal = 0 ∨ used = 0 then 0
    else
      let wholePercent := usableTotal / 100
      let remainder := usableTotal % 100
      -- the loop returns at the first percentage whose threshold is reached
      ((List.range' 1 100).find? fun percent =>
        decide (used ≤ threshold wholePercent remainder percent)).getD 100

/-- The products and the sum in a threshold are those of the natural numbers. -/
def ExactThreshold (total : UInt64) (percent : Nat) : Prop :=
  (total / 100 * .ofNat percent).toNat = total.toNat / 100 * percent ∧
    (total % 100 * .ofNat percent).toNat = total.toNat % 100 * percent ∧
    (threshold (total / 100) (total % 100) percent).toNat =
      total.toNat / 100 * percent + total.toNat % 100 * percent / 100

theorem exactThreshold (total : UInt64) {percent : Nat} (hp : percent ≤ 100) :
    ExactThreshold total percent := by
  have bound := total.toNat_lt
  have hundred : (100 : UInt64).toNat = 100 := rfl
  have value : (UInt64.ofNat percent).toNat = percent :=
    UInt64.toNat_ofNat_of_lt' (by simp [UInt64.size]; omega)
  have whole : total.toNat / 100 * percent ≤ total.toNat / 100 * 100 := Nat.mul_le_mul_left _ hp
  have rest : total.toNat % 100 * percent ≤ total.toNat % 100 * 100 := Nat.mul_le_mul_left _ hp
  have hwhole : (total / 100 * .ofNat percent).toNat = total.toNat / 100 * percent := by
    rw [UInt64.toNat_mul, value, UInt64.toNat_div, hundred, Nat.mod_eq_of_lt (by omega)]
  have hrest : (total % 100 * .ofNat percent).toNat = total.toNat % 100 * percent := by
    rw [UInt64.toNat_mul, value, UInt64.toNat_mod, hundred, Nat.mod_eq_of_lt (by omega)]
  refine ⟨hwhole, hrest, ?_⟩
  rw [threshold, UInt64.toNat_add, UInt64.toNat_div, hwhole, hrest, hundred]
  exact Nat.mod_eq_of_lt (by omega)

/-- The threshold of a percentage is exact. -/
theorem le_threshold_iff (used total : UInt64) {percent : Nat} (hp : percent ≤ 100) :
    used ≤ threshold (total / 100) (total % 100) percent ↔
      100 * used.toNat ≤ percent * total.toNat := by
  -- a hundred times the quotient divides out of the product
  have split : total.toNat / 100 * percent + total.toNat % 100 * percent / 100 =
      total.toNat * percent / 100 := by
    rw [← Nat.mul_add_div (by omega : 0 < 100), ← Nat.mul_assoc, ← Nat.add_mul, Nat.div_add_mod]
  rw [UInt64.le_iff_toNat_le, (exactThreshold total hp).2.2, split,
    Nat.le_div_iff_mul_le (by omega), Nat.mul_comm, Nat.mul_comm percent]

/-- No number of the computation wraps around. -/
structure Exact : Prop where
  used : space.usedBytes.toNat + space.freeBytes.toNat = space.capacityBytes.toNat
  total : (space.usedBytes + space.availableBytes).toNat =
    space.usedBytes.toNat + space.availableBytes.toNat
  threshold : ∀ percent ≤ 100, ExactThreshold (space.usedBytes + space.availableBytes) percent

variable {space}

theorem exact_of_valid (h : space.valid) : space.Exact := by
  obtain ⟨hfree, havail⟩ : space.freeBytes ≤ space.capacityBytes ∧
      space.availableBytes ≤ space.freeBytes := by simpa [valid] using h
  rw [UInt64.le_iff_toNat_le] at hfree havail
  have bound := space.capacityBytes.toNat_lt
  have used : space.usedBytes.toNat = space.capacityBytes.toNat - space.freeBytes.toNat := by
    rw [usedBytes, if_pos h, UInt64.toNat_sub_of_le _ _ (UInt64.le_iff_toNat_le.mpr hfree)]
  refine ⟨by omega, ?_, fun percent hp => exactThreshold _ hp⟩
  rw [UInt64.toNat_add, Nat.mod_eq_of_lt (by omega)]

/-- **The usage of a filesystem.**  Nothing used is no percent; otherwise the percentage is
the least one that covers what is used, out of what is used and what is available.  Every
intermediate number is the one of unbounded arithmetic. -/
theorem usagePercent_isLeast (h : space.valid) : (space.usedBytes = 0 → space.usagePercent = 0) ∧
      (space.usedBytes ≠ 0 → IsLeast {percent | 100 * space.usedBytes.toNat ≤
        percent * (space.usedBytes.toNat + space.availableBytes.toNat)} space.usagePercent) ∧
      space.Exact := by
  have hexact := exact_of_valid h
  have htotal := hexact.total
  refine ⟨fun zero => by simp [usagePercent, zero], fun nonzero => ?_, hexact⟩
  have positive : 0 < space.usedBytes.toNat := by
    rwa [Nat.pos_iff_ne_zero, ← UInt64.toNat_zero, Ne, UInt64.toNat_inj]
  have total : space.usedBytes + space.availableBytes ≠ 0 := by
    rw [Ne, ← UInt64.toNat_inj, htotal, UInt64.toNat_zero]
    omega
  rw [← htotal]
  simp only [usagePercent, h, nonzero, total, or_self, if_false, Bool.not_true, Bool.false_eq_true]
  cases found : (List.range' 1 100).find? fun percent => decide (space.usedBytes ≤ threshold
      ((space.usedBytes + space.availableBytes) / 100)
      ((space.usedBytes + space.availableBytes) % 100) percent) with
  | none =>
    -- at a hundred the threshold is the total, which covers what is used
    have hundred := List.find?_eq_none.mp found 100 (by simp)
    rw [decide_eq_true_iff, le_threshold_iff _ _ le_rfl, htotal] at hundred
    omega
  | some percent =>
    obtain ⟨hit, hmem, hleast⟩ := List.find?_range'_eq_some.mp found
    have hp : percent ≤ 100 := by simp at hmem; omega
    rw [decide_eq_true_iff, le_threshold_iff _ _ hp] at hit
    rw [Option.getD_some]
    refine ⟨hit, fun other hother => Nat.le_of_not_lt fun hlt => ?_⟩
    have one : 1 ≤ other := by
      rw [Set.mem_ofPred_eq] at hother
      rcases other with _ | other <;> omega
    have missed := hleast other one hlt
    rw [Bool.not_eq_true', decide_eq_false_iff_not, le_threshold_iff _ _ (by omega)] at missed
    exact missed hother

/-- Nine bytes of ten are used. -/
theorem nine_of_ten : (FilesystemSpace.mk 10 1 1).usagePercent = 90 := by
  have valid : (FilesystemSpace.mk 10 1 1).valid := rfl
  exact ((usagePercent_isLeast valid).2.1 (by decide)).unique
    ⟨by decide, fun percent (h : 100 * 9 ≤ percent * (9 + 1)) => by omega⟩

end FilesystemSpace

end BtrfsBackup
