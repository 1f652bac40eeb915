/-
Timestamps are in the order of their texts.

`parseUtcTimestamp` accepts all years of four digits, while a `RuntimeTimePoint` ends
in the year 2262.  Without that limit the order of texts is the order of times.

* `LocalDate.toDays_lt` — later dates are later days;
* `StandsFor.lt_iff` — texts of one form are ordered like the seconds they stand for;
* `parseUtcTimestamp_order` — so are the times, exactly if the clock can hold them.
-/
import BtrfsBackup.Snapshot

namespace BtrfsBackup

open List

namespace LocalDate

/-- The first day of a month, months counted from January of the year 0. -/
def monthStart (month : Int) : Int := toDays ⟨month / 12, (month % 12).toNat + 1, 1⟩

/-- A month is as long as the calendar says. -/
theorem monthStart_succ (month : Int) :
    monthStart (month + 1) = monthStart month + lastDay (month / 12) ((month % 12).toNat + 1) := by
  have hleap : isLeap (month / 12) = true ↔ month / 12 % 4 = 0 ∧
      (month / 12 % 100 ≠ 0 ∨ month / 12 % 400 = 0) := by simp [isLeap]
  have hcases : month % 12 = 0 ∨ month % 12 = 1 ∨ month % 12 = 2 ∨ month % 12 = 3 ∨ month % 12 = 4 ∨
      month % 12 = 5 ∨ month % 12 = 6 ∨ month % 12 = 7 ∨ month % 12 = 8 ∨ month % 12 = 9 ∨
      month % 12 = 10 ∨ month % 12 = 11 := by omega
  rw [monthStart, monthStart]
  rcases hcases with h | h | h | h | h | h | h | h | h | h | h | h
  case inr.inl =>
    -- February
    rw [show (month + 1) / 12 = month / 12 by omega, show (month + 1) % 12 = 2 by omega, h]
    by_cases hl : isLeap (month / 12) = true
    · simp [toDays, lastDay, hl]
      rw [hleap] at hl
      omega
    · simp [toDays, lastDay, hl]
      rw [hleap] at hl
      omega
  case inr.inr.inr.inr.inr.inr.inr.inr.inr.inr.inr =>
    rw [show (month + 1) / 12 = month / 12 + 1 by omega, show (month + 1) % 12 = 0 by omega, h]
    simp [toDays, lastDay]
    omega
  all_goals
    rw [show (month + 1) / 12 = month / 12 by omega,
      show (month + 1) % 12 = month % 12 + 1 by omega, h]
    simp [toDays, lastDay]
  all_goals omega

theorem monthStart_strictMono : StrictMono monthStart := by
  refine strictMono_int_of_lt_succ fun month => ?_
  have hpos : 0 < lastDay (month / 12) ((month % 12).toNat + 1) := by
    rw [lastDay]
    split_ifs
    all_goals decide
  rw [monthStart_succ]
  omega

/-- Later dates are later days. -/
theorem toDays_lt {d e : LocalDate} (hd : d.ok = true) (he : e.ok = true)
    (h : d.year < e.year ∨ d.year = e.year ∧
      (d.month < e.month ∨ d.month = e.month ∧ d.day < e.day)) :
    d.toDays < e.toDays := by
  have start {date : LocalDate} (hdate : date.ok = true) :
      date.toDays = monthStart (12 * date.year + date.month - 1) + date.day - 1 ∧
        date.day ≤ lastDay ((12 * date.year + date.month - 1) / 12)
          (((12 * date.year + date.month - 1) % 12).toNat + 1) := by
    obtain ⟨hm1, hm2, -, -⟩ := ok_range hdate
    simp only [ok, Bool.and_eq_true, decide_eq_true_eq] at hdate
    rw [monthStart, show (12 * date.year + date.month - 1) / 12 = date.year by omega,
      show ((12 * date.year + date.month - 1) % 12).toNat + 1 = date.month by omega]
    refine ⟨?_, hdate.2⟩
    simp only [toDays]
    omega
  obtain ⟨hdays, hlast⟩ := start hd
  obtain ⟨hdays', -⟩ := start he
  have hd' := ok_range hd
  have he' := ok_range he
  rcases lt_or_eq_of_le (show 12 * d.year + d.month - 1 ≤ 12 * e.year + e.month - 1 by omega) with
    hlt | heq
  · -- the month of `e` starts after the last day of the month of `d`
    have hnext := monthStart_strictMono.monotone (Int.add_one_le_of_lt hlt)
    rw [monthStart_succ] at hnext
    omega
  · rw [hdays, hdays', heq]
    omega
end LocalDate

/-! ### Order of texts -/

/-- Numbers of the same width are in the order of their digits. -/
theorem digits_lt {u v : List Char} : ∀ {x y : List Char}, x.length = y.length →
    (∀ c ∈ x, c.isDigit = true) → (∀ c ∈ y, c.isDigit = true) → ∀ m n : Nat,
    (m < n ∨ m = n ∧ x ++ u < y ++ v ↔ Nat.ofDigitChars 10 x m < Nat.ofDigitChars 10 y n ∨
      Nat.ofDigitChars 10 x m = Nat.ofDigitChars 10 y n ∧ u < v)
  | [], [], _, _, _, m, n => Iff.rfl
  | c :: x, d :: y, hlen, hx, hy, m, n => by
    obtain ⟨hc, hx⟩ := forall_mem_cons.mp hx
    obtain ⟨hd, hy⟩ := forall_mem_cons.mp hy
    rw [Nat.ofDigitChars_cons, Nat.ofDigitChars_cons, cons_append, cons_append,
      cons_lt_cons_iff, ← digits_lt (by simpa using hlen) hx hy]
    have hlt : c < d ↔ c.toNat < d.toNat := Iff.rfl
    have heq : c = d ↔ c.toNat = d.toNat := Char.toNat_inj.symm
    have hcr := Char.isDigit_iff_toNat.mp hc
    have hdr := Char.isDigit_iff_toNat.mp hd
    have h0 : '0'.toNat = 48 := rfl
    have h9 : '9'.toNat = 57 := rfl
    rw [hlt, heq, h0]
    by_cases hrest : x ++ u < y ++ v
    · simp only [hrest, and_true]
      omega
    · simp only [hrest, and_false, or_false]
      omega

section texts

variable {a b : List Char} {k n p q : Nat}

/-- A number that both texts have at one place comes before the rest. -/
theorem field_lt (hlen : a.length = b.length) (hp : decimal (substr a k n) = some p)
    (hq : decimal (substr b k n) = some q) :
    a.drop k < b.drop k ↔ p < q ∨ p = q ∧ a.drop (k + n) < b.drop (k + n) := by
  have split (l : List Char) : l.drop k = substr l k n ++ l.drop (k + n) := by
    rw [substr, ← drop_drop, take_append_drop]
  have value {l : List Char} {m : Nat} (h : decimal l = some m) : Nat.ofDigitChars 10 l 0 = m := by
    rw [decimal] at h
    split_ifs at h
    exact Option.some.inj h
  have h := @digits_lt (a.drop (k + n)) (b.drop (k + n)) _ _
    (show (substr a k n).length = (substr b k n).length by simp [substr, hlen])
    (isDigit_of_decimal hp) (isDigit_of_decimal hq) 0 0
  rw [← split, ← split, value hp, value hq] at h
  simpa using h

/-- A character that both texts have at one place does not decide. -/
theorem skip_lt {c : Char} (ha : a[k]? = some c) (hb : b[k]? = some c) :
    a.drop k < b.drop k ↔ a.drop (k + 1) < b.drop (k + 1) := by
  obtain ⟨hka, rfl⟩ := List.getElem?_eq_some_iff.mp ha
  obtain ⟨hkb, hc⟩ := List.getElem?_eq_some_iff.mp hb
  rw [drop_eq_getElem_cons hka, drop_eq_getElem_cons hkb, cons_lt_cons_iff, hc]
  simp

/-- The seconds of a date and a clock since 1970, without a limit. -/
def exactSeconds (year month day hour minute second : Nat) : Int :=
  ((LocalDate.toDays ⟨year, month, day⟩ * 24 + hour) * 60 + minute) * 60 + second

/-- A text that `parse_utc_timestamp` accepts, with its fields. -/
structure UtcText (text : List Char) (year month day hour minute second : Nat) : Prop where
  form : text.length = 18 ∨ text.length = 20
  punctuation : text[4]? = some '-' ∧ text[7]? = some '-' ∧ text[10]? = some 'T' ∧
    text[text.length - 1]? = some 'Z'
  colons : text.length = 20 → text[13]? = some ':' ∧ text[16]? = some ':'
  date : decimal (substr text 0 4) = some year ∧ decimal (substr text 5 2) = some month ∧
    decimal (substr text 8 2) = some day
  clock : decimal (substr text 11 2) = some hour ∧
    decimal (substr text (if text.length = 20 then 14 else 13) 2) = some minute ∧
    decimal (substr text (if text.length = 20 then 17 else 15) 2) = some second
  ok : (LocalDate.mk year month day).ok = true
  range : hour ≤ 23 ∧ minute ≤ 59 ∧ second ≤ 59

/-- The seconds since 1970 that an accepted text stands for. -/
def StandsFor (value : String) (seconds : Int) : Prop :=
  ∃ year month day hour minute second,
    UtcText value.toList year month day hour minute second ∧
    seconds = exactSeconds year month day hour minute second

theorem parseUtcTimestamp_eq_some {value : String} {time : RuntimeTimePoint}
    (h : parseUtcTimestamp value = some time) :
    ∃ seconds, StandsFor value seconds ∧ time = .wrap (seconds * 1000000000) := by
  simp only [parseUtcTimestamp, Option.bind_eq_bind] at h
  split_ifs at h with hform hcolons hiso
  all_goals
    simp only [Option.bind_eq_some_iff] at h
    obtain ⟨year, hyear, month, hmonth, day, hday, hour, hhour, minute, hminute, second, hsecond,
      h⟩ := h
    split_ifs at h with hrange
    simp only [Bool.or_eq_true, Bool.not_eq_true', decide_eq_true_eq, not_or, bne_iff_ne, ne_eq,
      not_not, Bool.and_eq_true, beq_eq_false_iff_ne, beq_iff_eq, getLast?_eq_getElem?] at *
    refine ⟨_, ⟨year, month, day, hour, minute, second, ⟨by omega, by tauto, by tauto,
      ⟨hyear, hmonth, hday⟩, ⟨hhour, by simpa [hiso] using hminute, by simpa [hiso] using hsecond⟩,
      by simpa using hrange.1.1.1, by omega⟩, rfl⟩, (Option.some.inj h).symm⟩

/-- Texts of one form are in the order of their fields. -/
theorem UtcText.lt_iff {y mo d h mi s y' mo' d' h' mi' s' : Nat} (ha : UtcText a y mo d h mi s)
    (hb : UtcText b y' mo' d' h' mi' s') (hlen : a.length = b.length) :
    a < b ↔ y < y' ∨ y = y' ∧ (mo < mo' ∨ mo = mo' ∧ (d < d' ∨ d = d' ∧ (h < h' ∨ h = h' ∧
      (mi < mi' ∨ mi = mi' ∧ s < s')))) := by
  obtain ⟨hform, ⟨h4, h7, h10, hz⟩, hcolons, ⟨hy, hmo, hd⟩, ⟨hh, hmi, hs⟩, -, -⟩ := ha
  obtain ⟨-, ⟨h4', h7', h10', hz'⟩, hcolons', ⟨hy', hmo', hd'⟩, ⟨hh', hmi', hs'⟩, -, -⟩ := hb
  have hrest : a.drop 13 < b.drop 13 ↔ mi < mi' ∨ mi = mi' ∧ s < s' := by
    have hend : ¬ a.drop a.length < b.drop a.length := by simp [hlen]
    rw [← hlen] at hz' hmi' hs' hcolons'
    rcases hform with hform | hform
    · simp only [hform, Nat.reduceEqDiff, if_false] at hmi hmi' hs hs' hz hz'
      rw [field_lt hlen hmi hmi', field_lt hlen hs hs', skip_lt hz hz']
      simp [hform ▸ hend]
    · simp only [hform, if_true, forall_const] at hmi hmi' hs hs' hz hz' hcolons hcolons'
      rw [skip_lt hcolons.1 hcolons'.1, field_lt hlen hmi hmi', skip_lt hcolons.2 hcolons'.2,
        field_lt hlen hs hs', skip_lt hz hz']
      simp [hform ▸ hend]
  rw [← hrest, ← field_lt hlen hh hh', ← skip_lt h10 h10', ← field_lt hlen hd hd',
    ← skip_lt h7 h7', ← field_lt hlen hmo hmo', ← skip_lt h4 h4', ← field_lt hlen hy hy',
    drop_zero, drop_zero]

end texts

/-- Texts of one form are in the order of the seconds they stand for. -/
theorem StandsFor.lt_iff {a b : String} {m n : Int} (ha : StandsFor a m) (hb : StandsFor b n)
    (hform : a.length = b.length) : a < b ↔ m < n := by
  obtain ⟨y, mo, d, h, mi, s, ha, rfl⟩ := ha
  obtain ⟨y', mo', d', h', mi', s', hb, rfl⟩ := hb
  have hr := ha.range
  have hr' := hb.range
  have hlt := LocalDate.toDays_lt ha.ok hb.ok
  have hgt := LocalDate.toDays_lt hb.ok ha.ok
  have heq : y = y' → mo = mo' → d = d' →
      LocalDate.toDays ⟨y, mo, d⟩ = LocalDate.toDays ⟨y', mo', d'⟩ := by
    rintro rfl rfl rfl
    rfl
  rw [String.lt_iff_toList_lt, ha.lt_iff hb (by rwa [String.length_toList, String.length_toList]),
    exactSeconds, exactSeconds]
  simp only [Nat.cast_lt, Nat.cast_inj] at hlt hgt
  omega

/-- Neither the nanoseconds of the day (`sys_days`, converted first) nor those of the
sum leave 64 bits. -/
def Fits (seconds : Int) : Prop :=
  -2 ^ 63 ≤ seconds / 86400 * 86400 * 1000000000 ∧ seconds * 1000000000 < 2 ^ 63

/-- **Times are in the order of their texts exactly between 1677-09-22 and 2262**, where
nothing overflows; so are then the snapshots with these times. -/
theorem parseUtcTimestamp_order {a b : String} {s t : RuntimeTimePoint}
    (ha : parseUtcTimestamp a = some s) (hb : parseUtcTimestamp b = some t)
    (hform : a.length = b.length) : ∃ m n, StandsFor a m ∧ StandsFor b n ∧
      (((s.nanoseconds < t.nanoseconds ↔ a < b) ∧
        (∀ x y : SnapshotInfo, x.timestamp = s → y.timestamp = t → a < b → x.key < y.key) ∧
        Fits m ∧ Fits n) ↔
        (-9223286400 ≤ m ∧ m ≤ 9223372036) ∧ -9223286400 ≤ n ∧ n ≤ 9223372036) := by
  obtain ⟨m, hm, rfl⟩ := parseUtcTimestamp_eq_some ha
  obtain ⟨n, hn, rfl⟩ := parseUtcTimestamp_eq_some hb
  have hlt := hm.lt_iff hn hform
  refine ⟨m, n, hm, hn, ?_, ?_⟩
  · rintro ⟨-, -, ⟨h1, h2⟩, h3, h4⟩
    omega
  · rintro ⟨⟨h1, h2⟩, h3, h4⟩
    have hs := RuntimeTimePoint.wrap_nanoseconds (show -2 ^ 63 ≤ m * 1000000000 by omega) (by omega)
    have ht := RuntimeTimePoint.wrap_nanoseconds (show -2 ^ 63 ≤ n * 1000000000 by omega) (by omega)
    have horder : m * 1000000000 < n * 1000000000 ↔ a < b := by rw [hlt]; omega
    refine ⟨by rwa [hs, ht], fun x y hx hy hab => ?_, ⟨by omega, by omega⟩, by omega, by omega⟩
    refine SnapshotInfo.key_lt_of_timestamp ?_
    rw [hx, hy, hs, ht]
    exact horder.mpr hab

theorem parseUtcTimestamp_order_days : parseUtcTimestamp "1970-01-01T000000Z" = some (.wrap 0) ∧
      parseUtcTimestamp "1970-01-02T000000Z" = some (.wrap 86400000000000) ∧
      ∃ m n, StandsFor "1970-01-01T000000Z" m ∧ StandsFor "1970-01-02T000000Z" n := by
  have h1 : parseUtcTimestamp "1970-01-01T000000Z" = some (.wrap 0) := by decide +kernel
  have h2 : parseUtcTimestamp "1970-01-02T000000Z" = some (.wrap 86400000000000) := by
    decide +kernel
  obtain ⟨m, n, hm, hn, -⟩ := parseUtcTimestamp_order h1 h2 (by decide)
  exact ⟨h1, h2, m, n, hm, hn⟩

/-- The year 2300 is read as a time before 1970. -/
theorem parseUtcTimestamp_order_2300 : ∃ s t, parseUtcTimestamp "1970-01-01T00:00:00Z" = some s ∧
      parseUtcTimestamp "2300-01-01T00:00:00Z" = some t ∧
      "1970-01-01T00:00:00Z" < "2300-01-01T00:00:00Z" ∧ ¬ s.nanoseconds < t.nanoseconds :=
  ⟨.wrap 0, .wrap 10413792000000000000, by decide +kernel, by decide +kernel, by decide +kernel,
    by decide +kernel⟩

end BtrfsBackup
