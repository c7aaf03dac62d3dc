import CoffeeShop.Library.FormUrl
import CoffeeShop.Library.JsonText

/-!
The UTF-8 encoding of texts that are made of UTF-16 code units.

A surrogate without its partner is encoded as the replacement character.  A text without
replacement characters is read back from its encoding, so no other text is encoded in the same way.
-/

namespace Utf16

open JsonText (Text units isHighSurrogate isLowSurrogate)

def replacement : Char := .ofNat 0xfffd

/-- A code unit alone, which is no number from 0x10000 on. -/
def scalar (unit : Nat) : Char :=
  if isHighSurrogate unit ∨ isLowSurrogate unit ∨ 0x10000 ≤ unit then replacement else .ofNat unit

def combine (high low : Nat) : Char := .ofNat (0x10000 + 0x400 * (high - 0xd800) + (low - 0xdc00))

/-- The code points of a text. -/
def scalars : Text → List Char
  | [] => []
  | [unit] => [scalar unit]
  | unit :: next :: rest =>
      if isHighSurrogate unit ∧ isLowSurrogate next then combine unit next :: scalars rest
      else scalar unit :: scalars (next :: rest)

/-- The bytes of `Buffer.from(text)`. -/
def utf8 (text : Text) : List UInt8 := FormUrl.bytes (.ofList (scalars text))

/-- The code units of a code point. -/
def unitsOf (c : Char) : Text :=
  if c.toNat < 0x10000 then [c.toNat]
  else [0xd800 + (c.toNat - 0x10000) / 0x400, 0xdc00 + (c.toNat - 0x10000) % 0x400]

theorem utf8_inj {first second : Text} : utf8 first = utf8 second ↔ scalars first = scalars second := by
  constructor
  · intro same
    have decoded := congrArg FormUrl.ofBytes same
    rw [utf8, utf8, FormUrl.ofBytes_bytes, FormUrl.ofBytes_bytes] at decoded
    exact String.ofList_injective (Option.some.inj decoded)
  · intro same
    rw [utf8, utf8, same]

theorem isHighSurrogate_iff {unit : Nat} :
    isHighSurrogate unit = true ↔ 0xd800 ≤ unit ∧ unit ≤ 0xdbff := by
  simp [isHighSurrogate]

theorem isLowSurrogate_iff {unit : Nat} :
    isLowSurrogate unit = true ↔ 0xdc00 ≤ unit ∧ unit ≤ 0xdfff := by
  simp [isLowSurrogate]

section Append

variable {first second rest : Text} {unit : Nat}

theorem scalars_cons (single : isHighSurrogate unit = false) :
    scalars (unit :: rest) = scalar unit :: scalars rest := by
  cases rest with
  | nil => rfl
  | cons next rest => simp [scalars, single]

/-- A text may be cut before what is no low surrogate. -/
theorem scalars_append (clean : ∀ unit ∈ second.head?, isLowSurrogate unit = false) :
    scalars (first ++ second) = scalars first ++ scalars second := by
  fun_induction scalars first with
  | case1 => rfl
  | case2 unit =>
      cases second with
      | nil => rfl
      | cons next rest => simp [scalars, clean next rfl]
  | case3 unit next rest pair inductionHypothesis =>
      rw [List.cons_append, List.cons_append, scalars, if_pos pair, inductionHypothesis,
        List.cons_append]
  | case4 unit next rest single inductionHypothesis =>
      rw [List.cons_append, List.cons_append, scalars, if_neg single, List.cons_append,
        ← inductionHypothesis, List.cons_append]

/-- No unit of the text is a surrogate, or comes after them. -/
def Plain (text : Text) : Prop := ∀ unit ∈ text, unit < 0xd800

instance (text : Text) : Decidable (Plain text) := by
  unfold Plain
  infer_instance

theorem scalar_plain (small : unit < 0xd800) : scalar unit = .ofNat unit := by
  have notHigh : ¬isHighSurrogate unit = true := by
    rw [isHighSurrogate_iff]
    omega
  have notLow : ¬isLowSurrogate unit = true := by
    rw [isLowSurrogate_iff]
    omega
  rw [scalar, if_neg]
  rintro (high | low | large)
  · exact notHigh high
  · exact notLow low
  · omega

theorem scalars_plain_append (plain : Plain first) :
    scalars (first ++ rest) = first.map Char.ofNat ++ scalars rest := by
  induction first with
  | nil => rfl
  | cons unit text inductionHypothesis =>
      have small := plain unit List.mem_cons_self
      have notHigh : isHighSurrogate unit = false := by
        rw [← Bool.not_eq_true, isHighSurrogate_iff]
        omega
      rw [List.cons_append, scalars_cons notHigh, scalar_plain small, List.map_cons, List.cons_append,
        inductionHypothesis fun unit member => plain unit (List.mem_cons_of_mem _ member)]

theorem scalars_plain (plain : Plain first) : scalars first = first.map Char.ofNat := by
  have whole := @scalars_plain_append first [] plain
  rwa [List.append_nil, scalars, List.append_nil] at whole

theorem toNat_ofNat {code : Nat} (valid : code.isValidChar) : (Char.ofNat code).toNat = code := by
  rw [Char.ofNat, dif_pos valid]
  rfl

theorem mem_of_mem_scalars {c : Char} (plain : Plain first) (member : c ∈ scalars first) :
    c.toNat ∈ first := by
  rw [scalars_plain plain] at member
  obtain ⟨unit, inText, rfl⟩ := List.mem_map.mp member
  rwa [toNat_ofNat (.inl (plain unit inText))]

theorem replacement_notMem_plain (plain : Plain first) : replacement ∉ scalars first := by
  intro member
  have small := plain _ (mem_of_mem_scalars plain member)
  exact absurd small (by decide)

end Append

section ReadBack

theorem unitsOf_scalar {unit : Nat} (kept : scalar unit ≠ replacement) :
    unitsOf (scalar unit) = [unit] := by
  unfold scalar at kept ⊢
  split_ifs at kept ⊢ with surrogate
  · exact absurd rfl kept
  · simp only [isHighSurrogate_iff, isLowSurrogate_iff, not_or, not_and, not_le] at surrogate
    obtain ⟨notHigh, notLow, small⟩ := surrogate
    have code : (Char.ofNat unit).toNat = unit := toNat_ofNat (by unfold Nat.isValidChar; omega)
    rw [unitsOf, code, if_pos small]

theorem unitsOf_combine {high low : Nat} (isHigh : isHighSurrogate high = true)
    (isLow : isLowSurrogate low = true) : unitsOf (combine high low) = [high, low] := by
  rw [isHighSurrogate_iff] at isHigh
  rw [isLowSurrogate_iff] at isLow
  have code : (combine high low).toNat = 0x10000 + 0x400 * (high - 0xd800) + (low - 0xdc00) :=
    toNat_ofNat (by unfold Nat.isValidChar; omega)
  have first : 0xd800 + (0x10000 + 0x400 * (high - 0xd800) + (low - 0xdc00) - 0x10000) / 0x400 =
      high := by omega
  have second : 0xdc00 + (0x10000 + 0x400 * (high - 0xd800) + (low - 0xdc00) - 0x10000) % 0x400 =
      low := by omega
  rw [unitsOf, code, if_neg (by omega), first, second]

/-- A text without replacement characters is read back. -/
theorem flatMap_unitsOf_scalars {text : Text} (kept : replacement ∉ scalars text) :
    (scalars text).flatMap unitsOf = text := by
  fun_induction scalars text with
  | case1 => rfl
  | case2 unit =>
      rw [List.flatMap_singleton, unitsOf_scalar fun same => kept (same ▸ List.mem_singleton_self _)]
  | case3 unit next rest pair inductionHypothesis =>
      rw [List.flatMap_cons, unitsOf_combine pair.1 pair.2,
        inductionHypothesis fun member => kept (List.mem_cons_of_mem _ member)]
      rfl
  | case4 unit next rest single inductionHypothesis =>
      rw [List.flatMap_cons, unitsOf_scalar fun same => kept (same ▸ List.mem_cons_self),
        inductionHypothesis fun member => kept (List.mem_cons_of_mem _ member)]
      rfl

theorem eq_of_scalars_eq {first second : Text} (kept : replacement ∉ scalars first)
    (same : scalars first = scalars second) : first = second := by
  have read := flatMap_unitsOf_scalars kept
  rwa [same, flatMap_unitsOf_scalars (same ▸ kept), eq_comm] at read

end ReadBack

end Utf16
