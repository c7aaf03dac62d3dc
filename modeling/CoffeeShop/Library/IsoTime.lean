import CoffeeShop.Library.Calendar
import Mathlib.Data.Nat.Digits.Lemmas

/-!
The ISO texts of instants, which determine the instants.
-/

namespace Calendar

/-- Four digits, or a sign and at least six. -/
def yearText (year : Int) : List Char :=
  if 0 ≤ year ∧ year ≤ 9999 then padded 4 year.toNat
  else (if 0 ≤ year then '+' else '-') ::
    padded (max 6 (Nat.digits 10 year.natAbs).length) year.natAbs

/-- The time of day, in milliseconds. -/
def timeText (time : Nat) : List Char :=
  padded 2 (time / 3600000) ++ ':' :: padded 2 (time / 60000 % 60) ++
    ':' :: padded 2 (time / 1000 % 60) ++ '.' :: padded 3 (time % 1000)

def dayText (date : Date) : List Char := padded 2 date.month ++ '-' :: padded 2 date.day

/-- `toISOString` of an instant in milliseconds since the epoch. -/
def toISOString (instant : Int) : String :=
  let date := dateOfDay (instant / 86400000)
  String.ofList (yearText date.year ++ ('-' :: dayText date ++
    'T' :: timeText (instant % 86400000).toNat ++ ['Z']))

theorem padded_injective {width first second : Nat} (small : first < 10 ^ width)
    (otherSmall : second < 10 ^ width) (same : padded width first = padded width second) :
    first = second := by
  have read := readNumber_padded small
  rw [same, readNumber_padded otherSmall] at read
  exact (Option.some.inj read).symm

theorem digit_ne_sign {c : Char} {width number : Nat} (member : c ∈ padded width number) :
    c ≠ '+' ∧ c ≠ '-' := by
  induction width generalizing number with
  | zero => exact absurd member List.not_mem_nil
  | succ width inductionHypothesis =>
      rw [padded, List.mem_append, List.mem_singleton] at member
      obtain early | rfl := member
      · exact inductionHypothesis early
      · have digits : ∀ digit < 10, Nat.digitChar digit ≠ '+' ∧ Nat.digitChar digit ≠ '-' := by
          decide
        exact digits _ (Nat.mod_lt _ (by decide))

theorem four_ne_signed {number : Nat} {sign : Char} {rest : List Char}
    (signs : sign = '+' ∨ sign = '-') : padded 4 number ≠ sign :: rest := by
  intro same
  have member : sign ∈ padded 4 number := by
    rw [same]
    exact List.mem_cons_self
  have digit := digit_ne_sign member
  obtain rfl | rfl := signs
  · exact digit.1 rfl
  · exact digit.2 rfl

theorem lt_pow_width (number : Nat) :
    number < 10 ^ max 6 (Nat.digits 10 number).length :=
  (Nat.lt_base_pow_length_digits (by decide)).trans_le
    (Nat.pow_le_pow_right (by decide) (Nat.le_max_right 6 _))

theorem yearText_injective : Function.Injective yearText := by
  intro first second same
  have signed (year : Int) : (if 0 ≤ year then '+' else '-') = '+' ∨
      (if 0 ≤ year then '+' else '-') = '-' := by
    split
    · exact .inl rfl
    · exact .inr rfl
  by_cases low : 0 ≤ first ∧ first ≤ 9999 <;> by_cases otherLow : 0 ≤ second ∧ second ≤ 9999
  · rw [yearText, yearText, if_pos low, if_pos otherLow] at same
    have equal := padded_injective (by omega) (by omega) same
    omega
  · rw [yearText, yearText, if_pos low, if_neg otherLow] at same
    exact absurd same (four_ne_signed (signed second))
  · rw [yearText, yearText, if_neg low, if_pos otherLow] at same
    exact absurd same.symm (four_ne_signed (signed first))
  · rw [yearText, yearText, if_neg low, if_neg otherLow] at same
    obtain ⟨signs, digits⟩ := List.cons.inj same
    have widths := congrArg List.length digits
    rw [length_padded, length_padded] at widths
    have small := lt_pow_width first.natAbs
    rw [widths] at digits small
    have equal := padded_injective small (lt_pow_width second.natAbs) digits
    by_cases positive : 0 ≤ first <;> by_cases otherPositive : 0 ≤ second
    · omega
    · simp [positive, otherPositive] at signs
    · simp [positive, otherPositive] at signs
    · omega

theorem length_timeText (time : Nat) : (timeText time).length = 12 := by
  simp [timeText, length_padded]

theorem length_dayText (date : Date) : (dayText date).length = 5 := by
  simp [dayText, length_padded]

theorem timeText_injective {first second : Nat} (bounded : first < 86400000)
    (otherBounded : second < 86400000) (same : timeText first = timeText second) :
    first = second := by
  simp only [timeText, List.append_assoc, List.cons_append] at same
  obtain ⟨hours, rest⟩ := List.append_inj same (by rw [length_padded, length_padded])
  obtain ⟨minutes, rest⟩ := List.append_inj (List.cons.inj rest).2
    (by rw [length_padded, length_padded])
  obtain ⟨seconds, rest⟩ := List.append_inj (List.cons.inj rest).2
    (by rw [length_padded, length_padded])
  have sameHours := padded_injective (by omega) (by omega) hours
  have sameMinutes := padded_injective (by omega) (by omega) minutes
  have sameSeconds := padded_injective (by omega) (by omega) seconds
  have sameRest := padded_injective (by omega) (by omega) (List.cons.inj rest).2
  omega

theorem dayText_injective {first second : Date} (valid : first.IsValid)
    (otherValid : second.IsValid) (same : dayText first = dayText second) :
    first.month = second.month ∧ first.day = second.day := by
  obtain ⟨-, high, -, last⟩ := valid
  obtain ⟨-, otherHigh, -, otherLast⟩ := otherValid
  have bounded := daysInMonth_le (isLeap first.year) first.month (by omega)
  have otherBounded := daysInMonth_le (isLeap second.year) second.month (by omega)
  obtain ⟨months, rest⟩ := List.append_inj same (by rw [length_padded, length_padded])
  exact ⟨padded_injective (by omega) (by omega) months,
    padded_injective (by omega) (by omega) (List.cons.inj rest).2⟩

/-- Different instants have different texts. -/
theorem toISOString_injective : Function.Injective toISOString := by
  intro first second same
  have texts := String.ofList_injective same
  obtain ⟨years, rest⟩ := List.append_inj' texts (by simp [length_timeText, length_dayText])
  simp only [List.cons_append, List.append_assoc, List.cons.injEq, true_and] at rest
  obtain ⟨days, rest⟩ := List.append_inj rest (by rw [length_dayText, length_dayText])
  obtain ⟨times, -⟩ := List.append_inj (List.cons.inj rest).2
    (by rw [length_timeText, length_timeText])
  have valid := dateOfDay_valid (first / 86400000)
  have otherValid := dateOfDay_valid (second / 86400000)
  obtain ⟨months, days⟩ := dayText_injective valid otherValid days
  have dates : dateOfDay (first / 86400000) = dateOfDay (second / 86400000) := by
    have year := yearText_injective years
    cases equal : dateOfDay (first / 86400000)
    cases other : dateOfDay (second / 86400000)
    simp_all
  have sameDays := congrArg dayOfDate dates
  rw [dayOfDate_dateOfDay, dayOfDate_dateOfDay] at sameDays
  have sameTimes := timeText_injective (by omega) (by omega) times
  omega

example : toISOString 1700000000123 = "2023-11-14T22:13:20.123Z" := by decide +kernel

end Calendar
