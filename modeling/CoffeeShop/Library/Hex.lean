import Mathlib.Data.List.Basic

/-!
Bytes in hexadecimal digits, as code units.
-/

namespace Hex

def digit (value : Nat) : Nat := if value < 10 then 48 + value else 87 + value

/-- `digest('hex')`. -/
def encode (bytes : List UInt8) : List Nat :=
  bytes.flatMap fun byte => [digit (byte.toNat / 16), digit (byte.toNat % 16)]

def readDigit (unit : Nat) : Option Nat :=
  if 48 ≤ unit ∧ unit ≤ 57 then some (unit - 48)
  else if 97 ≤ unit ∧ unit ≤ 102 then some (unit - 87)
  else if 65 ≤ unit ∧ unit ≤ 70 then some (unit - 55)
  else none

/-- `Buffer.from(text, 'hex')`, which stops at what is no digit. -/
def decode : List Nat → List UInt8
  | high :: low :: rest =>
      match readDigit high, readDigit low with
      | some highValue, some lowValue => .ofNat (16 * highValue + lowValue) :: decode rest
      | _, _ => []
  | _ => []

theorem readDigit_digit : ∀ value < 16, readDigit (digit value) = some value := by decide

theorem decode_encode (bytes : List UInt8) : decode (encode bytes) = bytes := by
  induction bytes with
  | nil => rfl
  | cons byte rest inductionHypothesis =>
      have small : byte.toNat < 256 := byte.toNat_lt
      have high := readDigit_digit (byte.toNat / 16) (by omega)
      have low := readDigit_digit (byte.toNat % 16) (by omega)
      have whole : 16 * (byte.toNat / 16) + byte.toNat % 16 = byte.toNat := by omega
      change decode (digit (byte.toNat / 16) :: digit (byte.toNat % 16) :: encode rest) = _
      rw [decode, high, low]
      dsimp only
      rw [whole, UInt8.ofNat_toNat, inductionHypothesis]

theorem encode_injective : Function.Injective encode :=
  Function.LeftInverse.injective decode_encode

/-- Digits and small letters. -/
theorem encode_lower {bytes : List UInt8} {unit : Nat} (member : unit ∈ encode bytes) :
    48 ≤ unit ∧ unit ≤ 57 ∨ 97 ≤ unit ∧ unit ≤ 102 := by
  have digits : ∀ value < 16, 48 ≤ digit value ∧ digit value ≤ 57 ∨
      97 ≤ digit value ∧ digit value ≤ 102 := by decide
  obtain ⟨byte, -, isDigit⟩ := List.mem_flatMap.mp member
  have small : byte.toNat < 256 := byte.toNat_lt
  simp only [List.mem_cons, List.not_mem_nil, or_false] at isDigit
  obtain rfl | rfl := isDigit
  · exact digits _ (by omega)
  · exact digits _ (by omega)

end Hex
