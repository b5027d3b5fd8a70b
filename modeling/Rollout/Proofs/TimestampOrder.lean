import Mathlib.Data.List.Basic
import Mathlib.Tactic.ByContra
import Mathlib.Tactic.IntervalCases
import Rollout.Audit.Record

/-!
Written times in the order of time. Fields of fixed width compare as their
numbers do, the calendar's fields in the order year, month, day, and later days
have later dates; so texts of times before the year 10000 compare as the times.
-/

namespace Rollout.Time

section Digits

variable {width m n : Nat}

theorem padded_one (fits : n < 10) : padded 1 n = [n.digitChar] := by
  unfold padded
  rw [Nat.toDigits_of_lt_base fits]
  rfl

/-- One more place: the last digit stands behind the others. -/
theorem padded_succ (positive : 1 ≤ width) :
    padded (width + 1) n = padded width (n / 10) ++ [(n % 10).digitChar] := by
  unfold padded
  by_cases small : n < 10
  · have front : n / 10 = 0 := Nat.div_eq_of_lt small
    have last : n % 10 = n := Nat.mod_eq_of_lt small
    rw [front, last, Nat.toDigits_of_lt_base small, Nat.toDigits_zero]
    obtain ⟨more, rfl⟩ : ∃ more, width = more + 1 := ⟨width - 1, by omega⟩
    simp [List.replicate_succ']
  · rw [Nat.toDigits_of_base_le (by decide) (by omega)]
    simp only [List.length_append, List.length_singleton, Nat.add_sub_add_right, List.append_assoc]

theorem length_padded (positive : 1 ≤ width) (fits : n < 10 ^ width) :
    (padded width n).length = width := by
  have short := (Nat.length_toDigits_le_iff (b := 10) (by decide) positive).mpr fits
  unfold padded
  rw [List.length_append, List.length_replicate]
  omega

theorem digitChar_lt (less : m < n) (fits : n < 10) : m.digitChar < n.digitChar := by
  interval_cases n <;> interval_cases m <;> decide

theorem append_lt_append {first second front back : List Char}
    (same : first.length = second.length) (less : first < second) :
    first ++ front < second ++ back := by
  induction first generalizing second with
  | nil =>
      cases second with
      | nil => exact absurd less (List.lt_irrefl _)
      | cons d rest => cases same
  | cons c tail ih =>
      cases second with
      | nil => cases same
      | cons d rest =>
          rw [List.cons_append, List.cons_append, List.cons_lt_cons_iff]
          rcases List.cons_lt_cons_iff.mp less with before | ⟨rfl, later⟩
          · exact Or.inl before
          · exact Or.inr ⟨rfl, ih (Nat.succ.inj same) later⟩

theorem padded_lt (positive : 1 ≤ width) (less : m < n) (fits : n < 10 ^ width) :
    padded width m < padded width n := by
  induction width, positive using Nat.le_induction generalizing m n with
  | base =>
      rw [padded_one (by omega), padded_one (by omega), List.cons_lt_cons_iff]
      exact Or.inl (digitChar_lt less (by omega))
  | succ width positive ih =>
      rw [Nat.pow_succ] at fits
      rw [padded_succ positive, padded_succ positive]
      have tens : m / 10 ≤ n / 10 := Nat.div_le_div_right (Nat.le_of_lt less)
      by_cases front : m / 10 = n / 10
      · have last : m % 10 < n % 10 := by omega
        rw [front]
        apply List.append_left_lt
        exact List.cons_lt_cons_iff.mpr (Or.inl (digitChar_lt last (Nat.mod_lt _ (by decide))))
      · have short : n / 10 < 10 ^ width := by omega
        have before := ih (show m / 10 < n / 10 by omega) short
        apply append_lt_append _ before
        rw [length_padded positive (by omega), length_padded positive short]

/-- A field of a text of fixed layout decides, and where it is the same what follows it. -/
theorem field_lt {separator : Char} {front back : List Char} (positive : 1 ≤ width)
    (fits : m < 10 ^ width) (fits' : n < 10 ^ width) (before : m < n ∨ m = n ∧ front < back) :
    padded width m ++ separator :: front < padded width n ++ separator :: back := by
  rcases before with less | ⟨rfl, rest⟩
  · apply append_lt_append _ (padded_lt positive less fits')
    rw [length_padded positive fits, length_padded positive fits']
  · apply List.append_left_lt
    exact List.cons_lt_cons_iff.mpr (Or.inr ⟨rfl, rest⟩)

end Digits

namespace Date

/-- Days of an era before a year of it. -/
def newYear (year : Int) : Int := 365 * year + year / 4 - year / 100

/-- Days of an era up to a day, leap days left out. -/
def commonDays (day : Int) : Int := day - day / 1460 + day / 36524 - day / 146096

def eraDay (days : Int) : Int := (days + epochShift) % 146097

def eraYear (days : Int) : Int := commonDays (eraDay days) / 365

/-- The date of a day in a year that begins in March. -/
def ofMarch (year day : Int) : Date :=
  let mp := (5 * day + 2) / 153
  let month := if mp < 10 then mp + 3 else mp - 9
  ⟨if month ≤ 2 then year + 1 else year, month.toNat, (day - (153 * mp + 2) / 5 + 1).toNat⟩

theorem ofDays_eq (days : Int) :
    ofDays days = ofMarch (eraYear days + (days + epochShift) / 146097 * 400)
      (eraDay days - newYear (eraYear days)) := rfl

theorem commonDays_mono {a b : Int} (nonneg : 0 ≤ a) (le : a ≤ b) (within : b ≤ 146096) :
    commonDays a ≤ commonDays b := by
  have few : b / 1460 - a / 1460 ≤ b - a := by omega
  have eras : b / 146096 - a / 146096 ≤ b / 36524 - a / 36524 := by omega
  unfold commonDays
  omega

theorem commonDays_newYear {year : Int} (nonneg : 0 ≤ year) (within : year ≤ 399) :
    commonDays (newYear year) = 365 * year := by
  have fours : newYear year / 1460 = year / 4 := by unfold newYear; omega
  have hundreds : newYear year / 36524 = year / 100 := by unfold newYear; omega
  have eras : newYear year / 146096 = 0 := by unfold newYear; omega
  rw [commonDays, fours, hundreds, eras, newYear]
  omega

theorem commonDays_before_newYear {year : Int} (positive : 1 ≤ year) (within : year ≤ 399) :
    commonDays (newYear year - 1) < 365 * year := by
  have fours : (newYear year - 1) / 1460 = year / 4 := by unfold newYear; omega
  have hundreds : (newYear year - 1) / 36524 ≤ year / 100 := by unfold newYear; omega
  have eras : 0 ≤ (newYear year - 1) / 146096 := by unfold newYear; omega
  rw [newYear] at hundreds eras
  rw [commonDays, fours, newYear]
  omega

/-- Every day of an era lies in the year of the era computed for it. -/
theorem eraYear_bounds (days : Int) :
    0 ≤ eraYear days ∧ eraYear days ≤ 399 ∧
      0 ≤ eraDay days - newYear (eraYear days) ∧ eraDay days - newYear (eraYear days) ≤ 365 := by
  have nonneg : 0 ≤ eraDay days := by unfold eraDay; omega
  have within : eraDay days ≤ 146096 := by unfold eraDay; omega
  unfold eraYear
  generalize eraDay days = day at nonneg within
  have lower := commonDays_mono (Int.le_refl 0) nonneg within
  have upper := commonDays_mono nonneg within (Int.le_refl _)
  rw [show commonDays 0 = 0 by decide] at lower
  rw [show commonDays 146096 = 145999 by decide] at upper
  have low : 0 ≤ commonDays day / 365 := by omega
  have high : commonDays day / 365 ≤ 399 := by omega
  refine ⟨low, high, ?_, ?_⟩
  · by_contra early
    have later : 1 ≤ commonDays day / 365 := by
      by_contra zero
      rw [show commonDays day / 365 = 0 by omega, newYear] at early
      omega
    have most := commonDays_mono nonneg (show day ≤ newYear (commonDays day / 365) - 1 by omega)
      (by unfold newYear; omega)
    have fewer := commonDays_before_newYear later high
    omega
  · by_cases last : commonDays day / 365 = 399
    · rw [last, newYear]
      omega
    · by_contra late
      have next : newYear (commonDays day / 365 + 1) ≤ day := by
        unfold newYear at late ⊢
        omega
      have least := commonDays_mono (by unfold newYear; omega) next within
      rw [commonDays_newYear (by omega) (by omega)] at least
      omega

/-- The order of dates: by year, then month, then day. -/
def Before (a b : Date) : Prop :=
  a.year < b.year ∨ a.year = b.year ∧ (a.month < b.month ∨ a.month = b.month ∧ a.day < b.day)

theorem ofMarch_before {year later day other : Int} (nonneg : 0 ≤ day) (nonneg' : 0 ≤ other)
    (within : day ≤ 365) (within' : other ≤ 365)
    (before : year < later ∨ year = later ∧ day < other) :
    (ofMarch year day).Before (ofMarch later other) := by
  unfold ofMarch Before
  dsimp only
  split <;> split <;> split <;> split <;> omega

theorem ofDays_before {a b : Int} (less : a < b) : (ofDays a).Before (ofDays b) := by
  obtain ⟨low, high, nonneg, within⟩ := eraYear_bounds a
  obtain ⟨low', high', nonneg', within'⟩ := eraYear_bounds b
  rw [ofDays_eq, ofDays_eq]
  apply ofMarch_before nonneg nonneg' within within'
  by_cases era : (a + epochShift) / 146097 = (b + epochShift) / 146097
  · have before : eraDay a < eraDay b := by unfold eraDay; omega
    have years : eraYear a ≤ eraYear b := by
      have days := commonDays_mono (by unfold eraDay; omega) (Int.le_of_lt before)
        (by unfold eraDay; omega)
      unfold eraYear
      omega
    by_cases same : eraYear a = eraYear b
    · rw [era, same]
      omega
    · omega
  · have eras : (a + epochShift) / 146097 < (b + epochShift) / 146097 := by omega
    omega

theorem ofDays_two_digits (days : Int) : (ofDays days).month < 100 ∧ (ofDays days).day < 100 := by
  obtain ⟨_, _, nonneg, within⟩ := eraYear_bounds days
  rw [ofDays_eq]
  unfold ofMarch
  dsimp only
  split <;> omega

theorem ofDays_year_mono {a b : Int} (le : a ≤ b) : (ofDays a).year ≤ (ofDays b).year := by
  rcases Int.lt_or_eq_of_le le with less | rfl
  · rcases ofDays_before less with before | ⟨same, _⟩
    · exact Int.le_of_lt before
    · exact Int.le_of_eq same
  · exact Int.le_refl _

end Date

/-- A date of four-digit year with what is written after it. -/
def dateFields (d : Date) (rest : List Char) : List Char :=
  padded 4 d.year.toNat ++ '-' :: (padded 2 d.month ++ '-' :: (padded 2 d.day ++ 'T' :: rest))

theorem dateFields_lt {d e : Date} {front back : List Char} (since : 0 ≤ d.year)
    (since' : 0 ≤ e.year) (early : d.year < 10000) (early' : e.year < 10000)
    (month : d.month < 100) (month' : e.month < 100) (day : d.day < 100) (day' : e.day < 100)
    (before : d.Before e ∨ d = e ∧ front < back) : dateFields d front < dateFields e back := by
  unfold dateFields
  apply field_lt (by decide) (by omega) (by omega)
  rcases before with (year | ⟨year, later⟩) | ⟨rfl, later⟩
  · left
    omega
  · right
    refine ⟨by rw [year], field_lt (by decide) month month' ?_⟩
    rcases later with earlier | ⟨same, earlier⟩
    · exact Or.inl earlier
    · exact Or.inr ⟨same, field_lt (by decide) day day' (Or.inl earlier)⟩
  · right
    refine ⟨rfl, field_lt (by decide) month month' (Or.inr ⟨rfl, ?_⟩)⟩
    exact field_lt (by decide) day day' (Or.inr ⟨rfl, later⟩)

/-- Hour, minute, second and fraction of a number of microseconds. -/
def clockFields (micros : Int) : List Char :=
  padded 2 (micros / 1000000 % 86400 / 3600).toNat ++ ':' ::
    (padded 2 (micros / 1000000 % 86400 / 60 % 60).toNat ++ ':' ::
    (padded 2 (micros / 1000000 % 86400 % 60).toNat ++ '.' ::
    (padded 6 (micros % 1000000).toNat ++ 'Z' :: [])))

theorem clockFields_lt {a b : Int} (same : a / 1000000 / 86400 = b / 1000000 / 86400)
    (less : a < b) : clockFields a < clockFields b := by
  unfold clockFields
  apply field_lt (by decide) (by omega) (by omega)
  by_cases hour : a / 1000000 % 86400 / 3600 = b / 1000000 % 86400 / 3600
  · refine Or.inr ⟨by rw [hour], field_lt (by decide) (by omega) (by omega) ?_⟩
    by_cases minute : a / 1000000 % 86400 / 60 % 60 = b / 1000000 % 86400 / 60 % 60
    · refine Or.inr ⟨by rw [minute], field_lt (by decide) (by omega) (by omega) ?_⟩
      by_cases second : a / 1000000 % 86400 % 60 = b / 1000000 % 86400 % 60
      · refine Or.inr ⟨by rw [second], ?_⟩
        have fraction : (a % 1000000).toNat < (b % 1000000).toNat := by omega
        apply append_lt_append _ (padded_lt (by decide) fraction (by omega))
        rw [length_padded (by decide) (by omega), length_padded (by decide) (by omega)]
      · left
        omega
    · left
      omega
  · left
    omega

namespace Instant

theorem ofMicros_date (micros : Int) :
    (ofMicros micros).date = Date.ofDays (micros / 1000000 / 86400) := rfl

theorem ofMicros_isLeapSecond (micros : Int) : (ofMicros micros).isLeapSecond = false := by
  have fraction : (micros % 1000000).toNat * 1000 < nanosPerSecond := by
    unfold nanosPerSecond
    omega
  exact decide_eq_false (Nat.not_le_of_lt fraction)

/-- A written time is a row of fields of fixed width. -/
theorem rfc3339Micros_ofMicros {micros : Int} (since : 0 ≤ (ofMicros micros).date.year)
    (early : (ofMicros micros).date.year < 10000) :
    (ofMicros micros).rfc3339Micros.toList =
      dateFields (ofMicros micros).date (clockFields micros) := by
  have year : yearText (ofMicros micros).date.year =
      padded 4 (ofMicros micros).date.year.toNat := by
    unfold yearText
    rw [if_pos]
    simp only [Bool.and_eq_true, decide_eq_true_eq]
    omega
  have fraction : (ofMicros micros).fractionNanos / 1000 = (micros % 1000000).toNat := by
    rw [fractionNanos, ofMicros_isLeapSecond, ofMicros]
    simp
  rw [rfc3339Micros, String.toList_ofList, fraction, dateTime, dateText, clockText, clockSecond,
    ofMicros_isLeapSecond, year]
  simp [dateFields, clockFields, secondOfDay, ofMicros, secondsPerDay]

theorem rfc3339Micros_lt {a b : Int} (less : a < b) (since : 0 ≤ (ofMicros a).date.year)
    (early : (ofMicros b).date.year < 10000) :
    (ofMicros a).rfc3339Micros < (ofMicros b).rfc3339Micros := by
  have days : a / 1000000 / 86400 ≤ b / 1000000 / 86400 := by omega
  have years : (ofMicros a).date.year ≤ (ofMicros b).date.year := Date.ofDays_year_mono days
  obtain ⟨month, day⟩ := Date.ofDays_two_digits (a / 1000000 / 86400)
  obtain ⟨month', day'⟩ := Date.ofDays_two_digits (b / 1000000 / 86400)
  rw [String.lt_iff, rfc3339Micros_ofMicros since (by omega),
    rfc3339Micros_ofMicros (by omega) early]
  apply dateFields_lt since (by omega) (by omega) early month month' day day'
  by_cases same : a / 1000000 / 86400 = b / 1000000 / 86400
  · exact Or.inr ⟨congrArg Date.ofDays same, clockFields_lt same less⟩
  · have day : a / 1000000 / 86400 < b / 1000000 / 86400 := by omega
    exact Or.inl (Date.ofDays_before day)

end Instant

end Rollout.Time

namespace Rollout.AuditRecord

open Time (Date Instant)

/-- Before the year 10000 every time can be shown. -/
theorem timestamp_eq {sequence : Int} (since : 0 ≤ sequence)
    (early : (Instant.ofMicros sequence).date.year < 10000) :
    timestamp sequence = (Instant.ofMicros sequence).rfc3339Micros := by
  have first : Date.toDays ⟨Date.firstYear, 1, 1⟩ ≤ 0 := by decide
  have days : sequence / 1000000 / 86400 ≤ Date.toDays ⟨Date.lastYear, 12, 31⟩ := by
    by_contra beyond
    have later := Date.ofDays_year_mono
      (show Date.toDays ⟨Date.lastYear, 12, 31⟩ ≤ sequence / 1000000 / 86400 by omega)
    rw [show (Date.ofDays (Date.toDays ⟨Date.lastYear, 12, 31⟩)).year = Date.lastYear by decide,
      ← Instant.ofMicros_date, Date.lastYear] at later
    omega
  have shown : (Instant.ofMicros sequence).representable = true := by
    unfold Instant.representable
    simp only [Bool.and_eq_true, decide_eq_true_eq]
    refine ⟨?_, days⟩
    have whole : 0 ≤ sequence / 1000000 / 86400 := by omega
    exact Int.le_trans first whole
  unfold timestamp
  simp only [shown, if_true]

theorem year_nonneg {sequence : Int} (since : 0 ≤ sequence) :
    0 ≤ (Instant.ofMicros sequence).date.year := by
  have later := Date.ofDays_year_mono (show 0 ≤ sequence / 1000000 / 86400 by omega)
  rw [show (Date.ofDays 0).year = 1970 by decide, ← Instant.ofMicros_date] at later
  omega

theorem timestamp_lt {a b : Int} (since : 0 ≤ a) (less : a < b)
    (early : (Instant.ofMicros b).date.year < 10000) : timestamp a < timestamp b := by
  have days : a / 1000000 / 86400 ≤ b / 1000000 / 86400 := by omega
  have years : (Instant.ofMicros a).date.year ≤ (Instant.ofMicros b).date.year :=
    Date.ofDays_year_mono days
  rw [timestamp_eq since (by omega), timestamp_eq (by omega) early]
  exact Instant.rfc3339Micros_lt less (year_nonneg since) early

/-- Times before the year 10000 all take the same room. -/
theorem length_timestamp {sequence : Int} (since : 0 ≤ sequence)
    (early : (Instant.ofMicros sequence).date.year < 10000) :
    (timestamp sequence).toList.length = 27 := by
  have year := year_nonneg since
  obtain ⟨month, day⟩ := Date.ofDays_two_digits (sequence / 1000000 / 86400)
  rw [← Instant.ofMicros_date] at month day
  rw [timestamp_eq since early, Instant.rfc3339Micros_ofMicros year early]
  simp only [Time.dateFields, Time.clockFields, List.length_append, List.length_cons,
    List.length_nil]
  rw [Time.length_padded (by decide) (by omega), Time.length_padded (by decide) month,
    Time.length_padded (by decide) day, Time.length_padded (by decide) (by omega),
    Time.length_padded (by decide) (by omega), Time.length_padded (by decide) (by omega),
    Time.length_padded (by decide) (by omega)]

end Rollout.AuditRecord
