/-
Times of the engine (`core/RuntimeTime`).

A `RuntimeTimePoint` counts nanoseconds since 1970-01-01T00:00:00Z in a signed
64-bit integer.  Snapshot names carry the time in whole seconds, as
`formatUtcSnapshotTimestamp` prints it and `parseUtcTimestamp` reads it.

* `LocalDate.toDays_ofDays` — the calendar date of a day determines the day;
* `parseUtcTimestamp_format` — reading a printed time gives the time, cut to
  whole seconds.
-/
import Mathlib

namespace BtrfsBackup

open List

/-- A point in time of the 64-bit system clock. -/
structure RuntimeTimePoint where
  nanoseconds : Int
  representable : -2 ^ 63 ≤ nanoseconds ∧ nanoseconds < 2 ^ 63
  deriving DecidableEq

namespace RuntimeTimePoint

theorem ext_nanoseconds {s t : RuntimeTimePoint} (h : s.nanoseconds = t.nanoseconds) : s = t := by
  obtain ⟨s, _⟩ := s
  obtain ⟨t, _⟩ := t
  obtain rfl : s = t := h
  rfl

/-- The time point a signed 64-bit integer keeps of a count of nanoseconds. -/
def wrap (nanoseconds : Int) : RuntimeTimePoint where
  nanoseconds := Int.bmod nanoseconds (2 ^ 64)
  representable := by
    have hle : -((2 ^ 64 : Nat) : Int) / 2 ≤ Int.bmod nanoseconds (2 ^ 64) :=
      Int.le_bmod (by decide)
    have hlt : Int.bmod nanoseconds (2 ^ 64) < (((2 ^ 64 : Nat) : Int) + 1) / 2 :=
      Int.bmod_lt (by decide)
    omega

theorem wrap_nanoseconds {nanoseconds : Int} (hle : -2 ^ 63 ≤ nanoseconds)
    (hlt : nanoseconds < 2 ^ 63) : (wrap nanoseconds).nanoseconds = nanoseconds := by
  refine Int.bmod_eq_of_le ?_ ?_
  · omega
  · omega

/-- Counts less than `2 ^ 64` apart are told apart. -/
theorem eq_of_wrap_eq {m n : Int} (h : wrap m = wrap n) (hlt : |m - n| < (2 ^ 64 : Nat)) :
    m = n := by
  have hmod := congrArg (fun time => time.nanoseconds % ((2 ^ 64 : Nat) : Int)) h
  simp only [wrap, Int.bmod_emod] at hmod
  have hdvd : ((2 ^ 64 : Nat) : Int) ∣ m - n :=
    Int.dvd_of_emod_eq_zero (Int.emod_eq_emod_iff_emod_sub_eq_zero.mp hmod)
  exact sub_eq_zero.mp (Int.eq_zero_of_abs_lt_dvd hdvd hlt)

end RuntimeTimePoint

/-! ### Calendar -/

/-- `std::chrono::year_month_day`. -/
structure LocalDate where
  year : Int
  month : Nat
  day : Nat
  deriving DecidableEq, Repr

namespace LocalDate

/-- Leap years of the Gregorian calendar. -/
def isLeap (year : Int) : Bool := year % 4 == 0 && (year % 100 != 0 || year % 400 == 0)

/-- The number of days of a month. -/
def lastDay (year : Int) (month : Nat) : Nat :=
  if month = 2 then (if isLeap year then 29 else 28)
  else if month = 4 ∨ month = 6 ∨ month = 9 ∨ month = 11 then 30
  else 31

/-- `year_month_day::ok`. -/
def ok (date : LocalDate) : Bool :=
  decide (1 ≤ date.month) && decide (date.month ≤ 12) && decide (1 ≤ date.day) &&
    decide (date.day ≤ lastDay date.year date.month)

theorem lastDay_le (year : Int) (month : Nat) : lastDay year month ≤ 31 := by
  rw [lastDay]
  split_ifs
  all_goals omega

/-- The fields of a date have at most two digits, the year apart. -/
theorem ok_range {date : LocalDate} (h : date.ok = true) :
    1 ≤ date.month ∧ date.month ≤ 12 ∧ 1 ≤ date.day ∧ date.day ≤ 31 := by
  simp only [ok, Bool.and_eq_true, decide_eq_true_eq] at h
  exact ⟨h.1.1.1, h.1.1.2, h.1.2, h.2.trans (lastDay_le _ _)⟩

/-- `sys_days{date}`: days since 1970-01-01.  Years start in March here, so
that the leap day is the last day of its year. -/
def toDays (date : LocalDate) : Int :=
  let year := if date.month ≤ 2 then date.year - 1 else date.year
  let month : Int := if date.month ≤ 2 then date.month + 9 else date.month - 3
  let era := year / 400
  let yearOfEra := year % 400
  let dayOfYear := (153 * month + 2) / 5 + date.day - 1
  let dayOfEra := yearOfEra * 365 + yearOfEra / 4 - yearOfEra / 100 + dayOfYear
  era * 146097 + dayOfEra - 719468

/-- A day counted from 0000-03-01, split into eras of 400 years, centuries,
cycles of four years, years and days.  The last century of an era and the last
year of a cycle are one day longer than the others. -/
structure Split (shifted : Int) where
  era : Int
  century : Int
  cycle : Int
  year : Int
  day : Int
  century_range : 0 ≤ century ∧ century ≤ 3
  cycle_range : 0 ≤ cycle ∧ cycle ≤ 24
  year_range : 0 ≤ year ∧ year ≤ 3
  day_range : 0 ≤ day ∧ day ≤ 365
  /-- Only the last year of a cycle that ends with a leap day has 366 days. -/
  leap_day : day = 365 → year = 3 ∧ (cycle = 24 → century = 3)
  total : shifted = era * 146097 + century * 36524 + cycle * 1461 + year * 365 + day

/-- The split of a day. -/
def split (shifted : Int) : Split shifted where
  era := shifted / 146097
  century := min (shifted % 146097 / 36524) 3
  cycle := (shifted % 146097 - 36524 * min (shifted % 146097 / 36524) 3) / 1461
  year := min ((shifted % 146097 - 36524 * min (shifted % 146097 / 36524) 3) % 1461 / 365) 3
  day := (shifted % 146097 - 36524 * min (shifted % 146097 / 36524) 3) % 1461 -
    365 * min ((shifted % 146097 - 36524 * min (shifted % 146097 / 36524) 3) % 1461 / 365) 3
  century_range := by omega
  cycle_range := by omega
  year_range := by omega
  day_range := by omega
  leap_day := by omega
  total := by omega

/-- `year_month_day{days}`. -/
def ofDays (days : Int) : LocalDate :=
  let s := split (days + 719468)
  let month := (5 * s.day + 2) / 153
  let day := s.day - (153 * month + 2) / 5 + 1
  let year := s.era * 400 + s.century * 100 + s.cycle * 4 + s.year
  { year := if month < 10 then year else year + 1
    month := (if month < 10 then month + 3 else month - 9).toNat
    day := day.toNat }

/-- Years of an era: the era itself, the leap days and the centuries. -/
theorem Split.year_parts {shifted : Int} (s : Split shifted) :
    (s.era * 400 + s.century * 100 + s.cycle * 4 + s.year) / 400 = s.era ∧
    (s.era * 400 + s.century * 100 + s.cycle * 4 + s.year) % 400 =
      s.century * 100 + s.cycle * 4 + s.year ∧
    (s.century * 100 + s.cycle * 4 + s.year) / 4 = 25 * s.century + s.cycle ∧
    (s.century * 100 + s.cycle * 4 + s.year) / 100 = s.century := by
  have hc := s.century_range
  have hq := s.cycle_range
  have hy := s.year_range
  refine ⟨?_, ?_, ?_, ?_⟩
  all_goals omega

/-- The calendar date of a day determines the day. -/
theorem toDays_ofDays (days : Int) : (ofDays days).toDays = days := by
  have hparts := (split (days + 719468)).year_parts
  have hday := (split (days + 719468)).day_range
  have htotal := (split (days + 719468)).total
  rw [ofDays]
  generalize split (days + 719468) = s at hparts hday htotal ⊢
  obtain ⟨hera, hyoe, hleap, hcentury⟩ := hparts
  set month := (5 * s.day + 2) / 153 with hmonth
  have hrange : 0 ≤ month ∧ month ≤ 11 ∧ 1 ≤ s.day - (153 * month + 2) / 5 + 1 := by omega
  have hdayNat : ((s.day - (153 * month + 2) / 5 + 1).toNat : Int) =
      s.day - (153 * month + 2) / 5 + 1 := by omega
  by_cases h : month < 10
  · -- March to December: the year of the date is the year that starts in March
    have hlate : ¬ (month + 3).toNat ≤ 2 := by omega
    have hmonthNat : ((month + 3).toNat : Int) - 3 = month := by omega
    simp only [toDays, if_pos h, if_neg hlate, hera, hyoe, hleap, hcentury, hdayNat, hmonthNat]
    omega
  · -- January and February belong to the year that started in the last March
    have hearly : (month - 9).toNat ≤ 2 := by omega
    have hmonthNat : ((month - 9).toNat : Int) + 9 = month := by omega
    simp only [toDays, if_neg h, if_pos hearly, hdayNat, hmonthNat, add_sub_cancel_right, hera,
      hyoe, hleap, hcentury]
    omega

/-- A leap day falls into a leap year. -/
theorem Split.isLeap_of_leap_day {shifted : Int} (s : Split shifted) (h : s.day = 365) :
    isLeap (s.era * 400 + s.century * 100 + s.cycle * 4 + s.year + 1) = true := by
  obtain ⟨hy, hc⟩ := s.leap_day h
  have hcr := s.century_range
  have hqr := s.cycle_range
  simp only [isLeap, Bool.and_eq_true, Bool.or_eq_true, beq_iff_eq, bne_iff_ne]
  refine ⟨by omega, ?_⟩
  by_cases hq : s.cycle = 24
  · exact .inr (by have := hc hq; omega)
  · exact .inl (by omega)

/-- The date of a day is a date of the calendar. -/
theorem ofDays_ok (days : Int) : (ofDays days).ok = true := by
  have hday := (split (days + 719468)).day_range
  have hleap := (split (days + 719468)).isLeap_of_leap_day
  rw [ofDays]
  generalize split (days + 719468) = s at hday hleap ⊢
  set month := (5 * s.day + 2) / 153 with hmonth
  have hrange : 0 ≤ month ∧ month ≤ 11 := by omega
  simp only [ok, Bool.and_eq_true, decide_eq_true_eq]
  refine ⟨⟨⟨?_, ?_⟩, by omega⟩, ?_⟩
  · split_ifs
    all_goals omega
  · split_ifs
    all_goals omega
  · by_cases hfeb : month = 11
    · rw [hfeb] at hmonth ⊢
      by_cases h : s.day = 365
      · simp [lastDay, hleap h, h]
      · have h28 : 28 ≤ lastDay (s.era * 400 + s.century * 100 + s.cycle * 4 + s.year + 1) 2 := by
          simp only [lastDay, if_pos]
          split_ifs
          all_goals omega
        simp only [show ¬ (11 : Int) < 10 by omega, if_false]
        refine le_trans ?_ h28
        omega
    · -- every other month is as long as the split assumes
      have hcases : month = 0 ∨ month = 1 ∨ month = 2 ∨ month = 3 ∨ month = 4 ∨ month = 5 ∨
          month = 6 ∨ month = 7 ∨ month = 8 ∨ month = 9 ∨ month = 10 := by omega
      rcases hcases with h | h | h | h | h | h | h | h | h | h | h
      all_goals
        rw [h] at hmonth ⊢
        simp [lastDay]
        omega

end LocalDate

/-! ### Formatting -/

/-- `std::setw(width)` with fill character `0`. -/
def zeroPadded (width : Nat) (value : Int) : String :=
  let digits := toString value
  String.ofList (List.replicate (width - digits.length) '0') ++ digits

/-- `format_utc`. -/
def formatUtc (time : RuntimeTimePoint) (compactClock : Bool) : String :=
  let seconds := time.nanoseconds / 1000000000
  let day := seconds / 86400
  let date := LocalDate.ofDays day
  let clock := seconds - day * 86400
  let separator := if compactClock then "" else ":"
  zeroPadded 4 date.year ++ "-" ++ zeroPadded 2 date.month ++ "-" ++ zeroPadded 2 date.day ++
    "T" ++ zeroPadded 2 (clock / 3600) ++ separator ++ zeroPadded 2 (clock / 60 % 60) ++
    separator ++ zeroPadded 2 (clock % 60) ++ "Z"

/-- `format_utc_snapshot_timestamp`. -/
def formatUtcSnapshotTimestamp (time : RuntimeTimePoint) : String := formatUtc time true

/-! ### Parsing -/

/-- `decimal`: the value of a text of digits. -/
def decimal (text : List Char) : Option Nat :=
  if text.all Char.isDigit then some (Nat.ofDigitChars 10 text 0) else none

def substr (text : List Char) (position length : Nat) : List Char :=
  (text.drop position).take length

/-- The time of a date and a clock. -/
def timeOf (date : LocalDate) (hour minute second : Int) : RuntimeTimePoint :=
  .wrap ((((date.toDays * 24 + hour) * 60 + minute) * 60 + second) * 1000000000)

/-- `parse_utc_timestamp`. -/
def parseUtcTimestamp (value : String) : Option RuntimeTimePoint :=
  let text := value.toList
  let compact := text.length == 18
  let iso := text.length == 20
  if (!compact && !iso) || text[4]? != some '-' || text[7]? != some '-' ||
      text[10]? != some 'T' || text.getLast? != some 'Z' then none
  else if iso && (text[13]? != some ':' || text[16]? != some ':') then none
  else do
    let year ← decimal (substr text 0 4)
    let month ← decimal (substr text 5 2)
    let day ← decimal (substr text 8 2)
    let hour ← decimal (substr text 11 2)
    let minute ← decimal (substr text (if iso then 14 else 13) 2)
    let second ← decimal (substr text (if iso then 17 else 15) 2)
    let date : LocalDate := ⟨year, month, day⟩
    if !date.ok || hour > 23 || minute > 59 || second > 59 then none
    else some (timeOf date hour minute second)

/-! ### Reading what was printed -/

/-- A padded number has as many digits as asked for and is read back. -/
theorem zeroPadded_spec (width n : Nat) (hwidth : 0 < width) (hn : n < 10 ^ width) :
    (zeroPadded width n).toList.length = width ∧ decimal (zeroPadded width n).toList = some n := by
  have hdigits : (toString (n : Int)).toList = Nat.toDigits 10 n := by
    have : toString (n : Int) = toString n := rfl
    rw [this, Nat.toString_eq_repr, Nat.toList_repr]
  have hlen : (Nat.toDigits 10 n).length ≤ width :=
    (Nat.length_toDigits_le_iff (by decide) hwidth).mpr hn
  have hlist : (zeroPadded width n).toList =
      List.replicate (width - (Nat.toDigits 10 n).length) '0' ++ Nat.toDigits 10 n := by
    rw [zeroPadded, String.toList_append, String.toList_ofList, hdigits, ← String.length_toList,
      hdigits]
  have hzeros : ∀ k, Nat.ofDigitChars 10 (List.replicate k '0') 0 = 0 := by
    intro k
    induction k with
    | zero => rfl
    | succ k ih => rwa [replicate_succ, Nat.ofDigitChars_cons]
  rw [hlist]
  constructor
  · rw [length_append, length_replicate]
    omega
  · have hall : (List.replicate (width - (Nat.toDigits 10 n).length) '0' ++
        Nat.toDigits 10 n).all Char.isDigit = true := by
      rw [all_eq_true]
      intro c hc
      rcases mem_append.mp hc with hc | hc
      · rw [eq_of_mem_replicate hc]
        decide
      · exact Nat.isDigit_of_mem_toDigits (by decide) (by decide) hc
    rw [decimal, if_pos hall, Nat.ofDigitChars_append, hzeros,
      Nat.ofDigitChars_toDigits (by decide) (by decide)]

/-- Reading a compact text whose fields are numbers. -/
theorem parseUtcTimestamp_compact {y mo d h mi s : List Char}
    {year month day hour minute second : Nat}
    (hy : y.length = 4) (hmo : mo.length = 2) (hd : d.length = 2) (hh : h.length = 2)
    (hmi : mi.length = 2) (hs : s.length = 2) (hyear : decimal y = some year)
    (hmonth : decimal mo = some month) (hday : decimal d = some day)
    (hhour : decimal h = some hour) (hminute : decimal mi = some minute)
    (hsecond : decimal s = some second) :
    parseUtcTimestamp (String.ofList (y ++ '-' :: (mo ++ '-' :: (d ++ 'T' :: (h ++ (mi ++
      (s ++ ['Z'])))))) ) =
      if !(LocalDate.mk year month day).ok || hour > 23 || minute > 59 || second > 59 then none
      else some (timeOf ⟨year, month, day⟩ hour minute second) := by
  obtain ⟨y0, y1, y2, y3, rfl⟩ : ∃ a b c d, y = [a, b, c, d] := by
    match y, hy with
    | [a, b, c, d], _ => exact ⟨a, b, c, d, rfl⟩
  obtain ⟨mo0, mo1, rfl⟩ := length_eq_two.mp hmo
  obtain ⟨d0, d1, rfl⟩ := length_eq_two.mp hd
  obtain ⟨h0, h1, rfl⟩ := length_eq_two.mp hh
  obtain ⟨mi0, mi1, rfl⟩ := length_eq_two.mp hmi
  obtain ⟨s0, s1, rfl⟩ := length_eq_two.mp hs
  simp [parseUtcTimestamp, substr, hyear, hmonth, hday, hhour, hminute, hsecond]

theorem ofDays_year_range (days : Int) (hle : -106752 ≤ days) (hlt : days ≤ 106751) :
    0 ≤ (LocalDate.ofDays days).year ∧ (LocalDate.ofDays days).year < 10000 := by
  have htotal := (LocalDate.split (days + 719468)).total
  have hc := (LocalDate.split (days + 719468)).century_range
  have hq := (LocalDate.split (days + 719468)).cycle_range
  have hy := (LocalDate.split (days + 719468)).year_range
  have hd := (LocalDate.split (days + 719468)).day_range
  rw [LocalDate.ofDays]
  generalize LocalDate.split (days + 719468) = s at htotal hc hq hy hd ⊢
  dsimp only
  split_ifs
  all_goals omega

/-- A printed time can be read, and gives the time cut to whole seconds, as far as
the clock can hold the start of that second. -/
theorem parseUtcTimestamp_format (time : RuntimeTimePoint) :
    (formatUtcSnapshotTimestamp time).toList.length = 18 ∧
      parseUtcTimestamp (formatUtcSnapshotTimestamp time) =
        some (.wrap (time.nanoseconds / 1000000000 * 1000000000)) := by
  obtain ⟨hstart, hlast⟩ := time.representable
  set seconds := time.nanoseconds / 1000000000 with hseconds
  set day := seconds / 86400 with hday
  set clock := seconds - day * 86400 with hclock
  obtain ⟨hy0, hy1⟩ := ofDays_year_range day (by omega) (by omega)
  have hok := LocalDate.ofDays_ok day
  have hdays := LocalDate.toDays_ofDays day
  set date := LocalDate.ofDays day with hdate
  obtain ⟨hm1, hm2, hd1, hd2⟩ := LocalDate.ok_range hok
  -- every field fits its width, so that the parser finds it where it looks
  obtain ⟨ly, py⟩ := zeroPadded_spec 4 date.year.toNat (by decide) (by omega)
  obtain ⟨lmo, pmo⟩ := zeroPadded_spec 2 date.month (by decide) (by omega)
  obtain ⟨ld, pd⟩ := zeroPadded_spec 2 date.day (by decide) (by omega)
  obtain ⟨lh, ph⟩ := zeroPadded_spec 2 (clock / 3600).toNat (by decide) (by omega)
  obtain ⟨lmi, pmi⟩ := zeroPadded_spec 2 (clock / 60 % 60).toNat (by decide) (by omega)
  obtain ⟨ls, ps⟩ := zeroPadded_spec 2 (clock % 60).toNat (by decide) (by omega)
  have hread := parseUtcTimestamp_compact ly lmo ld lh lmi ls py pmo pd ph pmi ps
  rw [show ((date.year.toNat : Nat) : Int) = date.year by omega,
    show (((clock / 3600).toNat : Nat) : Int) = clock / 3600 by omega,
    show (((clock / 60 % 60).toNat : Nat) : Int) = clock / 60 % 60 by omega,
    show (((clock % 60).toNat : Nat) : Int) = clock % 60 by omega] at hread
  have htext : formatUtcSnapshotTimestamp time = String.ofList
      ((zeroPadded 4 date.year).toList ++ '-' :: ((zeroPadded 2 date.month).toList ++ '-' ::
        ((zeroPadded 2 date.day).toList ++ 'T' :: ((zeroPadded 2 (clock / 3600)).toList ++
          ((zeroPadded 2 (clock / 60 % 60)).toList ++
            ((zeroPadded 2 (clock % 60)).toList ++ ['Z'])))))) := by
    rw [← String.toList_inj]
    simp [formatUtcSnapshotTimestamp, formatUtc, ← hseconds, ← hday, ← hdate, ← hclock]
  have hclockRange : ¬ ((!date.ok || decide ((clock / 3600).toNat > 23) ||
      decide ((clock / 60 % 60).toNat > 59) || decide ((clock % 60).toNat > 59)) = true) := by
    simp only [hok, Bool.not_true, Bool.false_or, Bool.or_eq_true, decide_eq_true_eq]
    omega
  have hlen : (formatUtcSnapshotTimestamp time).toList.length = 18 := by
    rw [show ((date.year.toNat : Nat) : Int) = date.year by omega] at ly
    rw [show (((clock / 3600).toNat : Nat) : Int) = clock / 3600 by omega] at lh
    rw [show (((clock / 60 % 60).toNat : Nat) : Int) = clock / 60 % 60 by omega] at lmi
    rw [show (((clock % 60).toNat : Nat) : Int) = clock % 60 by omega] at ls
    rw [htext, String.toList_ofList]
    simp only [length_append, length_cons, length_nil, ly, lmo, ld, lh, lmi, ls]
  rw [← htext, if_neg hclockRange] at hread
  have htotal :
    (((day * 24 + clock / 3600) * 60 + clock / 60 % 60) * 60 + clock % 60) = seconds := by
    omega
  rw [timeOf, hdays, htotal] at hread
  exact ⟨hlen, hread⟩

end BtrfsBackup
