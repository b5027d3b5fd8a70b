import Rollout.Proofs.TimestampOrder
import Rollout.Proofs.Trimming
import Rollout.Time.Reader

/-!
Written times read back. The date of a day is one of the calendar and counts up
to that day again; every field of a text has its width, so each reader takes
just the digits that were written for it.
-/

namespace Rollout.Time
namespace Date

theorem toDays_ofMarch {year day : Int} (nonneg : 0 ≤ day) (within : day ≤ 365) :
    (ofMarch year day).toDays =
      365 * year + year / 4 - year / 100 + year / 400 + day - epochShift := by
  unfold ofMarch toDays
  dsimp only
  by_cases early : (5 * day + 2) / 153 < 10
  · have late : ¬ ((5 * day + 2) / 153 + 3).toNat ≤ 2 := by omega
    have late' : ¬ (5 * day + 2) / 153 + 3 ≤ 2 := by omega
    simp only [if_pos early, if_neg late, if_neg late']
    omega
  · have next : ((5 * day + 2) / 153 - 9).toNat ≤ 2 := by omega
    have next' : (5 * day + 2) / 153 - 9 ≤ 2 := by omega
    simp only [if_neg early, if_pos next, if_pos next']
    omega

/-- Counting the days up to the date of a day gives the day. -/
theorem toDays_ofDays (days : Int) : (ofDays days).toDays = days := by
  obtain ⟨low, high, nonneg, within⟩ := eraYear_bounds days
  rw [ofDays_eq, toDays_ofMarch nonneg within]
  unfold newYear eraDay
  omega

/-- Only a year before a leap year has a 366th day. -/
theorem isLeap_of_last {days : Int} (last : eraDay days - newYear (eraYear days) = 365) :
    isLeap (eraYear days + (days + epochShift) / 146097 * 400 + 1) = true := by
  obtain ⟨low, high, _, _⟩ := eraYear_bounds days
  have leap : (eraYear days + 1) % 4 = 0 ∧
      ((eraYear days + 1) % 100 ≠ 0 ∨ eraYear days + 1 = 400) := by
    by_contra common
    -- The next year would begin on this day, which would then be in that year.
    have next : eraDay days = newYear (eraYear days + 1) := by
      unfold newYear at last ⊢
      omega
    have first : commonDays (newYear (eraYear days + 1)) = 365 * (eraYear days + 1) :=
      commonDays_newYear (by omega) (by omega)
    have here : eraYear days = commonDays (eraDay days) / 365 := rfl
    rw [next, first] at here
    omega
  unfold isLeap
  simp only [Bool.and_eq_true, Bool.or_eq_true, beq_iff_eq, bne_iff_ne]
  omega

/-- Counted from March, months have their lengths in all years but for the last, February. -/
theorem daysInMonth_march {mp : Int} (nonneg : 0 ≤ mp) (within : mp ≤ 10) (year : Int) :
    (daysInMonth year (if mp < 10 then mp + 3 else mp - 9).toNat : Int) =
      (153 * (mp + 1) + 2) / 5 - (153 * mp + 2) / 5 := by
  interval_cases mp <;> rfl

theorem ofMarch_valid {year day : Int} (nonneg : 0 ≤ day) (within : day ≤ 365)
    (leap : day = 365 → isLeap (year + 1) = true) :
    1 ≤ (ofMarch year day).day ∧
      (ofMarch year day).day ≤ daysInMonth (ofMarch year day).year (ofMarch year day).month := by
  unfold ofMarch
  dsimp only
  refine ⟨by omega, ?_⟩
  by_cases february : (5 * day + 2) / 153 ≤ 10
  · have length := daysInMonth_march (by omega) february
    rw [← Int.ofNat_le, length]
    omega
  · have last : (5 * day + 2) / 153 = 11 := by omega
    have length : daysInMonth (year + 1) 2 = if isLeap (year + 1) then 29 else 28 := rfl
    rw [last]
    change (day - 337 + 1).toNat ≤ daysInMonth (year + 1) 2
    rw [length]
    split
    · omega
    · rename_i common
      have before : day ≠ 365 := fun same => common (leap same)
      omega

theorem ofDays_valid (days : Int) :
    1 ≤ (ofDays days).day ∧
      (ofDays days).day ≤ daysInMonth (ofDays days).year (ofDays days).month := by
  obtain ⟨_, _, nonneg, within⟩ := eraYear_bounds days
  rw [ofDays_eq]
  exact ofMarch_valid nonneg within isLeap_of_last

end Date

section Digits

variable {width most n : Nat} {rest : List Char}

open Rollout.Text (trimLeft isBlank isBlank_of_isDigit)

theorem isDigit_of_mem_padded {c : Char} (member : c ∈ padded width n) : c.isDigit = true := by
  rcases List.mem_append.mp member with zero | digit
  · rw [List.eq_of_mem_replicate zero]
    rfl
  · exact Nat.isDigit_of_mem_toDigits (by decide) (by decide) digit

theorem digitsValue_digitChar : ∀ d < 10, (Nat.digitChar d).toNat - 0x30 = d := by
  decide

theorem digitsValue_padded (positive : 1 ≤ width) (fits : n < 10 ^ width) :
    digitsValue (padded width n) = n := by
  induction width, positive using Nat.le_induction generalizing n with
  | base =>
      rw [padded_one (by omega)]
      simpa [digitsValue] using digitsValue_digitChar n (by omega)
  | succ width positive ih =>
      rw [Nat.pow_succ] at fits
      have front := ih (show n / 10 < 10 ^ width by omega)
      rw [padded_succ positive, digitsValue, List.foldl_append]
      rw [digitsValue] at front
      rw [front, List.foldl_cons, List.foldl_nil, digitsValue_digitChar _ (by omega)]
      omega

/-- Where a number ends: it has all the digits it may have, or no further one stands behind it. -/
theorem readNumber_padded (positive : 1 ≤ width) (fits : n < 10 ^ width) (within : width ≤ most)
    (ends : width = most ∨ ∀ c ∈ rest.head?, c.isDigit = false) :
    readNumber most (padded width n ++ rest) = some (n, rest) := by
  have length := length_padded positive fits
  have digits : ∀ c ∈ padded width n, c.isDigit = true := fun c => isDigit_of_mem_padded
  -- Nothing behind the number is taken for a digit of it.
  have stop : (rest.take (most - width)).takeWhile Char.isDigit = [] := by
    rcases ends with rfl | other
    · simp
    · cases rest with
      | nil => simp
      | cons c rest =>
          have last : c.isDigit = false := other c rfl
          cases most - width <;> simp [last]
  have found : ((padded width n ++ rest).take most).takeWhile Char.isDigit = padded width n := by
    rw [List.take_append, length, List.take_of_length_le (by omega),
      List.takeWhile_append_of_pos digits, stop, List.append_nil]
  have nonempty : (padded width n).isEmpty = false := by
    rw [List.isEmpty_eq_false_iff_exists_mem]
    exact ⟨_, List.getElem_mem (show 0 < (padded width n).length by omega)⟩
  have behind : (padded width n ++ rest).drop width = rest := by
    exact List.drop_left' length
  simp only [readNumber, found, nonempty, digitsValue_padded positive fits, length, behind,
    Bool.false_eq_true, if_false]

theorem trimLeft_cons {c : Char} (visible : isBlank c = false) :
    trimLeft (c :: rest) = c :: rest :=
  Text.trimLeft_visible (by simpa using visible)

theorem padded_begins (positive : 1 ≤ width) (fits : n < 10 ^ width) :
    ∃ c tail, padded width n = c :: tail ∧ c.isDigit = true := by
  obtain ⟨c, tail, same⟩ : ∃ c tail, padded width n = c :: tail := by
    apply List.exists_cons_of_length_pos
    rw [length_padded positive fits]
    exact positive
  have member : c ∈ padded width n := by simp [same]
  exact ⟨c, tail, same, isDigit_of_mem_padded member⟩

theorem trimLeft_padded (positive : 1 ≤ width) (fits : n < 10 ^ width) :
    trimLeft (padded width n ++ rest) = padded width n ++ rest := by
  obtain ⟨c, tail, same, digit⟩ := padded_begins positive fits
  rw [same, List.cons_append, trimLeft_cons (isBlank_of_isDigit digit)]

theorem readYear_padded (fits : n < 10 ^ 4) :
    readYear (padded 4 n ++ rest) = some ((n : Int), rest) := by
  have read : readNumber 4 (padded 4 n ++ rest) = some (n, rest) :=
    readNumber_padded (by decide) fits (Nat.le_refl 4) (.inl rfl)
  obtain ⟨c, tail, same, digit⟩ := padded_begins (by decide) fits
  rw [readYear, trimLeft_padded (by decide) fits]
  split
  · -- A year without sign begins with a digit.
    rename_i signed
    rw [same, List.cons_append] at signed
    cases (List.cons.inj signed).1
    cases digit
  · rename_i signed
    rw [same, List.cons_append] at signed
    cases (List.cons.inj signed).1
    cases digit
  · rw [read]
    rfl

theorem readPair_padded (fits : n < 10 ^ 2) : readPair (padded 2 n ++ rest) = some (n, rest) := by
  rw [readPair, trimLeft_padded (by decide) fits]
  exact readNumber_padded (by decide) fits (Nat.le_refl 2) (.inl rfl)

theorem expect_cons {c : Char} (visible : isBlank c = false) :
    expect c (c :: rest) = some rest := by
  rw [expect, trimLeft_cons visible]
  simp

/-- A fraction of three, six or nine digits stands for its share of the nanoseconds. -/
theorem readFraction_padded (positive : 1 ≤ width) (within : width ≤ 9) (fits : n < 10 ^ width) :
    readFraction ('.' :: (padded width n ++ ['Z'])) = some (n * 10 ^ (9 - width), ['Z']) := by
  have zone : ∀ c ∈ ['Z'].head?, c.isDigit = false := by
    intro c last
    obtain rfl := Option.some.inj last
    rfl
  have read : readNumber 9 (padded width n ++ ['Z']) = some (n, ['Z']) :=
    readNumber_padded positive fits within (.inr zone)
  simp [readFraction, read, length_padded positive fits]

theorem readFraction_written {nanos : Nat} (fits : nanos < 10 ^ 9) :
    readFraction (Instant.fractionText nanos ++ ['Z']) = some (nanos, ['Z']) := by
  unfold Instant.fractionText
  split
  · rename_i whole
    rw [whole]
    rfl
  · split
    · rw [List.cons_append, readFraction_padded (by decide) (by decide) (by omega)]
      simp only [Option.some.injEq, Prod.mk.injEq, and_true]
      omega
    · split
      · rw [List.cons_append, readFraction_padded (by decide) (by decide) (by omega)]
        simp only [Option.some.injEq, Prod.mk.injEq, and_true]
        omega
      · rw [List.cons_append, readFraction_padded (by decide) (by decide) fits]
        simp

end Digits

namespace Instant

variable {t : Instant}

/-- An instant as times are written everywhere: in a year of four digits, no leap second. -/
structure Common (t : Instant) : Prop where
  since : 0 ≤ t.date.year
  early : t.date.year ≤ 9999
  whole : t.nanos < nanosPerSecond

theorem Common.isLeapSecond (common : t.Common) : t.isLeapSecond = false :=
  decide_eq_false (Nat.not_le_of_lt common.whole)

theorem Common.rfc3339 (common : t.Common) : t.rfc3339.toList =
    padded 4 t.date.year.toNat ++ '-' :: (padded 2 t.date.month ++ '-' ::
      (padded 2 t.date.day ++ 'T' :: (padded 2 (t.secondOfDay / 3600).toNat ++ ':' ::
      (padded 2 (t.secondOfDay / 60 % 60).toNat ++ ':' ::
      (padded 2 (t.secondOfDay % 60).toNat ++ (fractionText t.nanos ++ ['Z'])))))) := by
  have year : yearText t.date.year = padded 4 t.date.year.toNat := by
    unfold yearText
    rw [if_pos]
    simp [common.since, common.early]
  rw [Instant.rfc3339, String.toList_ofList, dateTime, dateText, clockText, clockSecond,
    fractionNanos, common.isLeapSecond, year]
  simp

/-- Dates before the year 10000 are far from the ends of the calendar. -/
theorem Common.representable (common : t.Common) : t.representable = true := by
  -- Years grow with days, so a day before the first or after the last has a year out of range.
  have first : Date.toDays ⟨Date.firstYear, 1, 1⟩ ≤ t.seconds / secondsPerDay := by
    by_contra before
    have years := Date.ofDays_year_mono
      (show t.seconds / secondsPerDay ≤ Date.toDays ⟨Date.firstYear, 1, 1⟩ by omega)
    rw [show (Date.ofDays (Date.toDays ⟨Date.firstYear, 1, 1⟩)).year = Date.firstYear by decide,
      Date.firstYear] at years
    have since := common.since
    unfold date at since
    omega
  have last : t.seconds / secondsPerDay ≤ Date.toDays ⟨Date.lastYear, 12, 31⟩ := by
    by_contra beyond
    have years := Date.ofDays_year_mono
      (show Date.toDays ⟨Date.lastYear, 12, 31⟩ ≤ t.seconds / secondsPerDay by omega)
    rw [show (Date.ofDays (Date.toDays ⟨Date.lastYear, 12, 31⟩)).year = Date.lastYear by decide,
      Date.lastYear] at years
    have early := common.early
    unfold date at early
    omega
  unfold Instant.representable
  simp only [Bool.and_eq_true, decide_eq_true_eq]
  exact ⟨first, last⟩

theorem ofLocal_fields (common : t.Common) :
    ofLocal t.date (t.secondOfDay / 3600).toNat (t.secondOfDay / 60 % 60).toNat
      (t.secondOfDay % 60).toNat t.nanos 0 = some t := by
  have since := common.since
  have early := common.early
  obtain ⟨one, most⟩ := Date.ofDays_valid (t.seconds / secondsPerDay)
  have valid : t.date.valid = true := by
    unfold Date.valid Date.firstYear Date.lastYear
    simp only [Bool.and_eq_true, decide_eq_true_eq]
    exact ⟨⟨⟨by omega, by omega⟩, one⟩, most⟩
  have days : t.date.toDays = t.seconds / secondsPerDay := Date.toDays_ofDays _
  have second : (t.secondOfDay % 60).toNat ≠ 60 := by omega
  have clock : 0 ≤ t.secondOfDay ∧ t.secondOfDay < 86400 := by
    unfold secondOfDay secondsPerDay
    omega
  have allowed : (t.date.valid && decide ((t.secondOfDay / 3600).toNat < 24) &&
      decide ((t.secondOfDay / 60 % 60).toNat < 60) && decide ((t.secondOfDay % 60).toNat ≤ 60) &&
      decide (Int.natAbs 0 < 86400)) = true := by
    simp only [valid, Bool.true_and, Bool.and_eq_true, decide_eq_true_eq]
    omega
  have back : (⟨t.date.toDays * secondsPerDay + (((t.secondOfDay / 3600).toNat : Int) * 3600 +
      ((t.secondOfDay / 60 % 60).toNat : Int) * 60 + ((t.secondOfDay % 60).toNat : Int)) - 0,
      t.nanos⟩ : Instant) = t := by
    obtain ⟨seconds, nanos⟩ := t
    rw [days]
    simp only [secondOfDay, secondsPerDay, Instant.mk.injEq, and_true] at clock ⊢
    omega
  rw [ofLocal, if_pos allowed]
  simp only [second, if_false]
  rw [back, if_pos common.representable]

theorem then_of_some {α β : Type} {first : Option α} {value : α} {next : α → Option β}
    (known : first = some value) : (first >>= next) = next value := by
  rw [known]
  rfl

/-- A text whose fields are read one after the other. -/
theorem readChars_fields {cs one two three four five six : List Char} {year : Int}
    {month day hour minute second nanos : Nat} (y : readYear cs = some (year, '-' :: one))
    (m : readPair one = some (month, '-' :: two)) (d : readPair two = some (day, 'T' :: three))
    (h : readPair three = some (hour, ':' :: four))
    (min : readPair four = some (minute, ':' :: five)) (s : readPair five = some (second, six))
    (f : readFraction six = some (nanos, ['Z'])) :
    readChars cs = ofLocal ⟨year, month, day⟩ hour minute second nanos 0 := by
  have dash : ∀ rest, expect '-' ('-' :: rest) = some rest := fun rest => expect_cons rfl
  have colon : ∀ rest, expect ':' (':' :: rest) = some rest := fun rest => expect_cons rfl
  have zone : readZone (Text.trimLeft ['Z']) = some (0, []) := rfl
  rw [readChars]
  calc
    _ = _ := then_of_some y
    _ = _ := then_of_some (dash one)
    _ = _ := then_of_some m
    _ = _ := then_of_some (dash two)
    _ = _ := then_of_some d
    _ = _ := then_of_some h
    _ = _ := then_of_some (colon four)
    _ = _ := then_of_some min
    _ = _ := then_of_some (colon five)
    _ = _ := then_of_some s
    _ = _ := then_of_some f
    _ = _ := then_of_some zone

/-- A written time is read back as the time. -/
theorem parse_rfc3339 (common : t.Common) : parse t.rfc3339 = some t := by
  have clock : 0 ≤ t.secondOfDay ∧ t.secondOfDay < 86400 := by
    unfold secondOfDay secondsPerDay
    omega
  have month : t.date.month < 100 := (Date.ofDays_two_digits _).1
  have day : t.date.day < 100 := (Date.ofDays_two_digits _).2
  have since := common.since
  have early := common.early
  have back : (⟨(t.date.year.toNat : Int), t.date.month, t.date.day⟩ : Date) = t.date := by
    rw [Int.toNat_of_nonneg since]
  have fields := ofLocal_fields common
  rw [← back] at fields
  rw [parse, common.rfc3339, ← fields]
  apply readChars_fields (readYear_padded (by omega))
  · exact readPair_padded month
  · exact readPair_padded day
  · exact readPair_padded (by omega)
  · exact readPair_padded (by omega)
  · exact readPair_padded (by omega)
  · exact readFraction_written common.whole

end Instant

end Rollout.Time
