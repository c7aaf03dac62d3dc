import Mathlib.Data.Nat.Digits.Defs
import Mathlib.Data.String.Basic

/-!
Texts that are written from numbers.
-/

theorem toString_injective {first second : Nat} (same : toString first = toString second) :
    first = second := by
  have digits : Nat.toDigits 10 first = Nat.toDigits 10 second := by
    change Nat.repr first = Nat.repr second at same
    rw [Nat.repr_eq_ofList_toDigits, Nat.repr_eq_ofList_toDigits] at same
    exact String.ofList_injective same
  rw [← @Nat.ofDigitChars_ten_toDigits first, digits, Nat.ofDigitChars_ten_toDigits]
