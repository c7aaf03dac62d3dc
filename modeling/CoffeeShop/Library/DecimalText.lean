import CoffeeShop.Library.Json
import Mathlib.Data.Int.Notation

/-!
The texts of decimals with two decimal places, given in hundredths.
-/

namespace DecimalText

/-- `toFixed(2)`. -/
def toFixed (amount : ℤ) : String :=
  String.ofList ((if amount < 0 then ['-'] else []) ++ (Nat.toDigits 10 (amount.natAbs / 100) ++
    ['.', Nat.digitChar (amount.natAbs / 10 % 10), Nat.digitChar (amount.natAbs % 10)]))

theorem toDigits_isDigit {number : Nat} : ∀ c ∈ Nat.toDigits 10 number, c.isDigit = true :=
  fun _ member => Nat.isDigit_of_mem_toDigits (by decide) (by decide) member

/-- The digits of two amounts without their signs. -/
theorem toFixed_digits {first second : Nat}
    (same : Nat.toDigits 10 (first / 100) ++
      ['.', Nat.digitChar (first / 10 % 10), Nat.digitChar (first % 10)] =
      Nat.toDigits 10 (second / 100) ++
      ['.', Nat.digitChar (second / 10 % 10), Nat.digitChar (second % 10)]) : first = second := by
  obtain ⟨whole, tail⟩ := Json.digits_append toDigits_isDigit toDigits_isDigit
    (Json.ends_cons (by decide) _) (Json.ends_cons (by decide) _) same
  simp only [List.cons.injEq, true_and, and_true] at tail
  have units := Json.toDigits_injective whole
  have tens := Json.digitChar_injective _ (by omega) _ (by omega) tail.1
  have ones := Json.digitChar_injective _ (by omega) _ (by omega) tail.2
  omega

theorem minus_ne_digits (number : Nat) (tail other : List Char) :
    '-' :: tail ≠ Nat.toDigits 10 number ++ other := by
  intro same
  cases digits : Nat.toDigits 10 number with
  | nil => exact Nat.toDigits_ne_nil digits
  | cons c rest =>
      rw [digits, List.cons_append, List.cons.injEq] at same
      have digit : c.isDigit = true := toDigits_isDigit c (digits ▸ List.mem_cons_self)
      rw [← same.1] at digit
      exact absurd digit (by decide)

theorem toFixed_injective {first second : ℤ} (same : toFixed first = toFixed second) :
    first = second := by
  have texts := String.ofList_injective same
  by_cases negative : first < 0 <;> by_cases other : second < 0
  · simp only [if_pos negative, if_pos other, List.cons_append, List.nil_append, List.cons.injEq,
      true_and] at texts
    have digits := toFixed_digits texts
    omega
  · simp only [if_pos negative, if_neg other, List.cons_append, List.nil_append] at texts
    exact absurd texts (minus_ne_digits _ _ _)
  · simp only [if_neg negative, if_pos other, List.cons_append, List.nil_append] at texts
    exact absurd texts.symm (minus_ne_digits _ _ _)
  · simp only [if_neg negative, if_neg other, List.nil_append] at texts
    have digits := toFixed_digits texts
    omega

/-- The decimals without trailing zeros, after the point that they need. -/
def fraction (hundredths : ℕ) : List Char :=
  if hundredths % 100 = 0 then []
  else if hundredths % 10 = 0 then ['.', Nat.digitChar (hundredths / 10 % 10)]
  else ['.', Nat.digitChar (hundredths / 10 % 10), Nat.digitChar (hundredths % 10)]

/-- `toString()` of a decimal below `1e21`. -/
def plain (amount : ℤ) : String :=
  String.ofList ((if amount < 0 then ['-'] else []) ++
    (Nat.toDigits 10 (amount.natAbs / 100) ++ fraction amount.natAbs))

theorem ends_fraction (hundredths : ℕ) : Json.Ends (fraction hundredths) := by
  unfold fraction
  split_ifs
  · exact nofun
  · exact Json.ends_cons (by decide) _
  · exact Json.ends_cons (by decide) _

theorem fraction_inj {first second : ℕ} (same : fraction first = fraction second) :
    first % 100 = second % 100 := by
  have digit {number other : ℕ} (equal : Nat.digitChar (number % 10) = Nat.digitChar (other % 10)) :
      number % 10 = other % 10 := Json.digitChar_injective _ (by omega) _ (by omega) equal
  unfold fraction at same
  split_ifs at same with whole otherWhole tens otherTens otherTens
  · omega
  · simp only [List.cons.injEq, true_and, and_true] at same
    have equal := digit same
    omega
  · simp at same
  · simp at same
  · simp only [List.cons.injEq, true_and, and_true] at same
    have equal := digit same.1
    have units := digit same.2
    omega

theorem plain_digits {first second : ℕ}
    (same : Nat.toDigits 10 (first / 100) ++ fraction first =
      Nat.toDigits 10 (second / 100) ++ fraction second) : first = second := by
  obtain ⟨whole, tail⟩ := Json.digits_append toDigits_isDigit toDigits_isDigit
    (ends_fraction first) (ends_fraction second) same
  have units := Json.toDigits_injective whole
  have rest := fraction_inj tail
  omega

theorem plain_injective {first second : ℤ} (same : plain first = plain second) :
    first = second := by
  have texts := String.ofList_injective same
  by_cases negative : first < 0 <;> by_cases other : second < 0
  · simp only [if_pos negative, if_pos other, List.cons_append, List.nil_append, List.cons.injEq,
      true_and] at texts
    have digits := plain_digits texts
    omega
  · simp only [if_pos negative, if_neg other, List.cons_append, List.nil_append] at texts
    exact absurd texts (minus_ne_digits _ _ _)
  · simp only [if_neg negative, if_pos other, List.cons_append, List.nil_append] at texts
    exact absurd texts.symm (minus_ne_digits _ _ _)
  · simp only [if_neg negative, if_neg other, List.nil_append] at texts
    have digits := plain_digits texts
    omega

end DecimalText
