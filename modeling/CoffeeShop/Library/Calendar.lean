import Mathlib.Algebra.GroupWithZero.Nat
import Mathlib.Data.List.Basic

/-!
The Gregorian calendar, extended to all years, and the ten characters of an ISO date.

A date and the number of its day determine each other, and so do a date with a year of four digits
and its text.
-/

namespace Calendar

/-- `DayFromYear`: the day of the first of January, counted from the one of 1970. -/
def dayFromYear (year : Int) : Int :=
  365 * (year - 1970) + (year - 1969) / 4 - (year - 1901) / 100 + (year - 1601) / 400

def isLeap (year : Int) : Bool := year % 4 = 0 && (year % 100 ≠ 0 || year % 400 = 0)

def yearLength (leap : Bool) : Nat := if leap then 366 else 365

theorem dayFromYear_succ (year : Int) :
    dayFromYear (year + 1) = dayFromYear year + yearLength (isLeap year) := by
  simp only [dayFromYear, yearLength, isLeap]
  by_cases fourth : year % 4 = 0
  · by_cases hundredth : year % 100 = 0
    · by_cases fourHundredth : year % 400 = 0
      · simp [fourth, fourHundredth]
        omega
      · simp [fourth, hundredth, fourHundredth]
        omega
    · simp [fourth, hundredth]
      omega
  · simp [fourth]
    omega

theorem dayFromYear_lt {first second : Int} (less : first < second) :
    dayFromYear first < dayFromYear second := by
  unfold dayFromYear
  omega

/-- `YearFromTime`: the last year that has begun on the day. -/
def yearFromDay (day : Int) : Int :=
  let estimate := 1970 + 400 * day / 146097
  if dayFromYear (estimate + 1) ≤ day then estimate + 1
  else if dayFromYear estimate ≤ day then estimate
  else estimate - 1

theorem yearFromDay_spec (day : Int) :
    dayFromYear (yearFromDay day) ≤ day ∧ day < dayFromYear (yearFromDay day + 1) := by
  unfold yearFromDay
  simp only
  split
  · rename_i begun
    refine ⟨begun, ?_⟩
    unfold dayFromYear
    omega
  · rename_i early
    split
    · rename_i begun
      exact ⟨begun, by omega⟩
    · rename_i late
      refine ⟨?_, ?_⟩
      · unfold dayFromYear
        omega
      · rw [Int.sub_add_cancel]
        omega

/-- A day belongs to one year. -/
theorem yearFromDay_unique {day year : Int} (begun : dayFromYear year ≤ day)
    (runs : day < dayFromYear (year + 1)) : yearFromDay day = year := by
  obtain ⟨own, ends⟩ := yearFromDay_spec day
  rcases Int.lt_trichotomy (yearFromDay day) year with less | same | greater
  · rcases (show yearFromDay day + 1 < year ∨ yearFromDay day + 1 = year by omega) with far | next
    · have ordered := dayFromYear_lt far
      omega
    · rw [next] at ends
      omega
  · exact same
  · rcases (show year + 1 < yearFromDay day ∨ year + 1 = yearFromDay day by omega) with far | next
    · have ordered := dayFromYear_lt far
      omega
    · rw [next] at runs
      omega

def monthLengths (leap : Bool) : List Nat :=
  [31, if leap then 29 else 28, 31, 30, 31, 30, 31, 31, 30, 31, 30, 31]

/-- The days of the year before the month. -/
def daysBefore (leap : Bool) (month : Nat) : Nat := ((monthLengths leap).take (month - 1)).sum

/-- The month and the day of the month, for a day of the year. -/
def monthOf (month : Nat) : List Nat → Nat → Nat × Nat
  | [], day => (month, day + 1)
  | length :: lengths, day =>
      if day < length then (month, day + 1) else monthOf (month + 1) lengths (day - length)

def daysInMonth (leap : Bool) (month : Nat) : Nat := ((monthLengths leap)[month - 1]?).getD 0

structure Date where
  year : Int
  month : Nat
  day : Nat
  deriving DecidableEq

def Date.IsValid (date : Date) : Prop :=
  1 ≤ date.month ∧ date.month ≤ 12 ∧ 1 ≤ date.day ∧
    date.day ≤ daysInMonth (isLeap date.year) date.month

instance (date : Date) : Decidable date.IsValid := by
  unfold Date.IsValid
  infer_instance

def dateOfDay (day : Int) : Date :=
  let year := yearFromDay day
  let (month, day) := monthOf 1 (monthLengths (isLeap year)) (day - dayFromYear year).toNat
  { year, month, day }

def dayOfDate (date : Date) : Int :=
  dayFromYear date.year + daysBefore (isLeap date.year) date.month + date.day - 1

theorem monthOf_eq {index offset : Nat} {lengths : List Nat}
    (fits : offset < (lengths[index]?).getD 0) (month : Nat) :
    monthOf month lengths ((lengths.take index).sum + offset) = (month + index, offset + 1) := by
  induction index generalizing month lengths with
  | zero =>
      cases lengths with
      | nil => simp at fits
      | cons length lengths =>
          replace fits : offset < length := by simpa using fits
          simp [monthOf, fits]
  | succ index inductionHypothesis =>
      cases lengths with
      | nil => simp at fits
      | cons length lengths =>
          have later := inductionHypothesis (by simpa using fits) (month + 1)
          have past : ¬length + (lengths.take index).sum + offset < length := by omega
          have rest : length + (lengths.take index).sum + offset - length =
              (lengths.take index).sum + offset := by
            omega
          rw [List.take_succ_cons, List.sum_cons, monthOf, if_neg past, rest, later,
            Nat.add_right_comm, Nat.add_assoc]

/-- Every day of the year is in a month. -/
theorem exists_month {day : Nat} {lengths : List Nat} (within : day < lengths.sum) :
    ∃ index offset, day = (lengths.take index).sum + offset ∧
      offset < (lengths[index]?).getD 0 := by
  induction lengths generalizing day with
  | nil => simp at within
  | cons length lengths inductionHypothesis =>
      by_cases first : day < length
      · exact ⟨0, day, by simp, by simpa using first⟩
      · rw [List.sum_cons] at within
        obtain ⟨index, offset, same, fits⟩ :=
          inductionHypothesis (show day - length < lengths.sum by omega)
        refine ⟨index + 1, offset, ?_, by simpa using fits⟩
        rw [List.take_succ_cons, List.sum_cons]
        omega

theorem sum_monthLengths (leap : Bool) : (monthLengths leap).sum = yearLength leap := by
  cases leap <;> rfl

theorem monthOf_spec (leap : Bool) {day : Nat} (within : day < yearLength leap) :
    let found := monthOf 1 (monthLengths leap) day
    daysBefore leap found.1 + found.2 = day + 1 ∧ 1 ≤ found.1 ∧ found.1 ≤ 12 ∧ 1 ≤ found.2 ∧
      found.2 ≤ daysInMonth leap found.1 := by
  obtain ⟨index, offset, rfl, fits⟩ := exists_month (sum_monthLengths leap ▸ within)
  have inYear : index < (monthLengths leap).length := by
    by_contra outside
    rw [List.getElem?_eq_none (Nat.not_lt.mp outside)] at fits
    cases fits
  change index < 12 at inYear
  simp only [monthOf_eq fits, daysBefore, daysInMonth, Nat.add_sub_cancel_left]
  omega

theorem daysBefore_add_daysInMonth_le : ∀ leap, ∀ month < 13,
    daysBefore leap month + daysInMonth leap month ≤ yearLength leap := by
  decide

theorem monthOf_daysBefore {leap : Bool} {month day : Nat} (first : 1 ≤ month) (last : month < 13)
    (low : 1 ≤ day) (high : day ≤ daysInMonth leap month) :
    daysBefore leap month + day ≤ yearLength leap ∧
      monthOf 1 (monthLengths leap) (daysBefore leap month + day - 1) = (month, day) := by
  have ends := daysBefore_add_daysInMonth_le leap month last
  refine ⟨by omega, ?_⟩
  have fits : day - 1 < ((monthLengths leap)[month - 1]?).getD 0 := by
    unfold daysInMonth at high
    omega
  have found := monthOf_eq fits 1
  rw [Nat.add_sub_cancel' first, Nat.sub_add_cancel low] at found
  rw [← found, Nat.add_sub_assoc low]
  rfl

theorem daysInMonth_le : ∀ leap, ∀ month < 13, daysInMonth leap month ≤ 31 := by
  decide

theorem dayOfYear_lt (day : Int) :
    (day - dayFromYear (yearFromDay day)).toNat < yearLength (isLeap (yearFromDay day)) := by
  obtain ⟨begun, runs⟩ := yearFromDay_spec day
  rw [dayFromYear_succ] at runs
  omega

theorem dayOfDate_dateOfDay (day : Int) : dayOfDate (dateOfDay day) = day := by
  have begun := (yearFromDay_spec day).1
  have found := (monthOf_spec _ (dayOfYear_lt day)).1
  simp only [dayOfDate, dateOfDay]
  omega

theorem dateOfDay_valid (day : Int) : (dateOfDay day).IsValid :=
  (monthOf_spec _ (dayOfYear_lt day)).2

theorem dateOfDay_dayOfDate {date : Date} (valid : date.IsValid) :
    dateOfDay (dayOfDate date) = date := by
  obtain ⟨low, high, first, last⟩ := valid
  obtain ⟨fits, found⟩ := monthOf_daysBefore low (Nat.lt_succ_of_le high) first last
  have year : yearFromDay (dayOfDate date) = date.year := by
    apply yearFromDay_unique
    · unfold dayOfDate
      omega
    · rw [dayFromYear_succ]
      unfold dayOfDate
      omega
  have day : (dayOfDate date - dayFromYear date.year).toNat =
      daysBefore (isLeap date.year) date.month + date.day - 1 := by
    unfold dayOfDate
    omega
  simp only [dateOfDay]
  rw [year, day, found]

theorem dayOfDate_injective {first second : Date} (valid : first.IsValid)
    (otherValid : second.IsValid) (same : dayOfDate first = dayOfDate second) : first = second := by
  rw [← dateOfDay_dayOfDate valid, same, dateOfDay_dayOfDate otherValid]

section Texts

/-- The last digits of a number. -/
def padded : Nat → Nat → List Char
  | 0, _ => []
  | width + 1, number => padded width (number / 10) ++ [Nat.digitChar (number % 10)]

def readDigit (c : Char) : Option Nat := if c.isDigit then some (c.toNat - 48) else none

/-- The number that the digits write, the first of them last. -/
def readReversed : List Char → Option Nat
  | [] => some 0
  | c :: rest => do
      let digit ← readDigit c
      let number ← readReversed rest
      pure (10 * number + digit)

def readNumber (digits : List Char) : Option Nat := readReversed digits.reverse

theorem readDigit_digitChar : ∀ digit < 10, readDigit (Nat.digitChar digit) = some digit := by
  decide

theorem readNumber_padded {width number : Nat} (small : number < 10 ^ width) :
    readNumber (padded width number) = some number := by
  induction width generalizing number with
  | zero =>
      have zero : number = 0 := by simpa using small
      rw [zero]
      rfl
  | succ width inductionHypothesis =>
      have rest : readReversed (padded width (number / 10)).reverse = some (number / 10) :=
        inductionHypothesis (by rw [Nat.pow_succ] at small; omega)
      have digit := readDigit_digitChar (number % 10) (Nat.mod_lt _ (by decide))
      simp only [readNumber, padded, List.reverse_append, List.reverse_singleton,
        List.singleton_append, readReversed, rest, digit]
      exact congrArg some (by omega)

theorem length_padded (width number : Nat) : (padded width number).length = width := by
  induction width generalizing number with
  | zero => rfl
  | succ width inductionHypothesis => simp [padded, inductionHypothesis]

theorem eq_digitChar_of_readDigit {c : Char} {digit : Nat} (read : readDigit c = some digit) :
    digit < 10 ∧ c = Nat.digitChar digit := by
  unfold readDigit at read
  split at read
  · rename_i isDigit
    simp only [Char.isDigit, Bool.and_eq_true, decide_eq_true_eq, ge_iff_le] at isDigit
    have low : 48 ≤ c.toNat := isDigit.1
    have high : c.toNat ≤ 57 := isDigit.2
    have same : c.toNat - 48 = digit := Option.some.inj read
    refine ⟨by omega, ?_⟩
    apply Char.toNat_inj.mp
    rw [Nat.toNat_digitChar_of_lt_ten (by omega)]
    omega
  · cases read

theorem padded_readNumber {digits : List Char} {number : Nat}
    (read : readNumber digits = some number) :
    number < 10 ^ digits.length ∧ padded digits.length number = digits := by
  unfold readNumber at read
  generalize reversed : digits.reverse = rest at read
  have same : digits = rest.reverse := by rw [← reversed, List.reverse_reverse]
  subst same
  clear reversed
  induction rest generalizing number with
  | nil =>
      cases read
      exact ⟨by decide, rfl⟩
  | cons c rest inductionHypothesis =>
      simp only [readReversed, Option.bind_eq_bind, Option.bind_eq_some_iff, Option.pure_def,
        Option.some.injEq] at read
      obtain ⟨digit, first, more, others, rfl⟩ := read
      obtain ⟨small, rfl⟩ := eq_digitChar_of_readDigit first
      obtain ⟨bounded, written⟩ := inductionHypothesis others
      simp only [List.reverse_cons, List.length_append, List.length_singleton, padded]
      rw [show (10 * more + digit) / 10 = more by omega, show (10 * more + digit) % 10 = digit by omega]
      refine ⟨by rw [Nat.pow_succ]; omega, ?_⟩
      rw [written]

/-- The first ten characters of `toISOString`. -/
def dateText (date : Date) : List Char :=
  if 0 ≤ date.year ∧ date.year ≤ 9999 then
    padded 4 date.year.toNat ++ '-' :: padded 2 date.month ++ '-' :: padded 2 date.day
  else
    (if 0 ≤ date.year then '+' else '-') :: padded 6 date.year.natAbs ++ '-' :: padded 2 date.month

/-- The fields of a text with ten characters, which need not be those of a date. -/
def readFields : List Char → Option Date
  | [y, y', y'', y''', '-', m, m', '-', d, d'] => do
      let year ← readNumber [y, y', y'', y''']
      let month ← readNumber [m, m']
      let day ← readNumber [d, d']
      pure { year, month, day }
  | _ => none

/-- The date that a text with ten characters names, if there is such a date. -/
def readDate (text : List Char) : Option Date := (readFields text).filter (·.IsValid)

/-- The number of the day that `Date.parse` reads: a day past the end of its month, up to the 31st,
belongs to the next one. -/
def parseDay (text : List Char) : Option Int := do
  let date ← readFields text
  if 1 ≤ date.month ∧ date.month ≤ 12 ∧ 1 ≤ date.day ∧ date.day ≤ 31 then some (dayOfDate date)
  else none

theorem readDate_eq_some {text : List Char} {date : Date} :
    readDate text = some date ↔ readFields text = some date ∧ date.IsValid := by
  simp [readDate, Option.filter_eq_some_iff]

/-- The day of a date that there is. -/
theorem parseDay_of_readDate {text : List Char} {date : Date} (read : readDate text = some date) :
    parseDay text = some (dayOfDate date) := by
  obtain ⟨fields, low, high, first, last⟩ := readDate_eq_some.mp read
  have bounded := daysInMonth_le (isLeap date.year) date.month (by omega)
  simp only [parseDay, fields, Option.bind_eq_bind, Option.bind_some]
  exact if_pos ⟨low, high, first, by omega⟩

/-- The 31st of September is the first of October. -/
example : parseDay "2026-09-31".toList = parseDay "2026-10-01".toList := by decide +kernel

theorem readDate_dateText {date : Date} (valid : date.IsValid) (low : 0 ≤ date.year)
    (high : date.year ≤ 9999) : readDate (dateText date) = some date := by
  obtain ⟨year, month, day⟩ := date
  have bounds := valid
  obtain ⟨first, last, early, late⟩ := bounds
  have bounded := daysInMonth_le (isLeap year) month (by simp only at last; omega)
  simp only at low high first last early late
  have years : readNumber (padded 4 year.toNat) = some year.toNat := readNumber_padded (by omega)
  have months : readNumber (padded 2 month) = some month := readNumber_padded (by omega)
  have days : readNumber (padded 2 day) = some day := readNumber_padded (by omega)
  have cast : (year.toNat : Int) = year := Int.toNat_of_nonneg low
  obtain ⟨y, y', y'', y''', written⟩ : ∃ y y' y'' y''',
      padded 4 year.toNat = [y, y', y'', y'''] := ⟨_, _, _, _, rfl⟩
  obtain ⟨m, m', writtenMonth⟩ : ∃ m m', padded 2 month = [m, m'] := ⟨_, _, rfl⟩
  obtain ⟨d, d', writtenDay⟩ : ∃ d d', padded 2 day = [d, d'] := ⟨_, _, rfl⟩
  rw [written] at years
  rw [writtenMonth] at months
  rw [writtenDay] at days
  rw [readDate_eq_some]
  simp [dateText, low, high, written, writtenMonth, writtenDay, readFields, years, months, days, cast,
    valid]

/-- Only the text of a date names it. -/
theorem dateText_of_readDate {text : List Char} {date : Date} (read : readDate text = some date) :
    date.IsValid ∧ dateText date = text := by
  obtain ⟨fields, valid⟩ := readDate_eq_some.mp read
  refine ⟨valid, ?_⟩
  unfold readFields at fields
  split at fields
  · simp only [Option.bind_eq_bind, Option.bind_eq_some_iff] at fields
    obtain ⟨year, years, month, months, day, days, rest⟩ := fields
    cases rest
    obtain ⟨small, written⟩ := padded_readNumber years
    have writtenMonth : padded 2 month = _ := (padded_readNumber months).2
    have writtenDay : padded 2 day = _ := (padded_readNumber days).2
    simp only [List.length_cons, List.length_nil, Nat.reduceAdd] at small written
    have low : (0 : Int) ≤ year := Int.natCast_nonneg year
    have high : (year : Int) ≤ 9999 := by omega
    simp [dateText, low, high, written, writtenMonth, writtenDay]
  · cases fields

end Texts

end Calendar
