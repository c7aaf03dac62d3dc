import CoffeeShop.Library.Hex
import Mathlib.Data.String.Basic

/-!
`application/x-www-form-urlencoded`.

What is written is read back, so different lists of pairs are written as different texts.
-/

namespace FormUrl

/-- The UTF-8 bytes. -/
def bytes (text : String) : List UInt8 := text.toByteArray.data.toList

def ofBytes (content : List UInt8) : Option String := String.fromUTF8? ⟨content.toArray⟩

theorem ofBytes_bytes (text : String) : ofBytes (bytes text) = some text := by
  rw [ofBytes, bytes, Array.toArray_toList, String.fromUTF8?, dif_pos text.isValidUTF8]
  rfl

/-- The bytes that stand for themselves. -/
def isPlain (byte : UInt8) : Bool :=
  48 ≤ byte && byte ≤ 57 || 65 ≤ byte && byte ≤ 90 || 97 ≤ byte && byte ≤ 122 ||
    byte = 42 || byte = 45 || byte = 46 || byte = 95

def upperDigit (value : Nat) : Char := if value < 10 then .ofNat (48 + value) else .ofNat (55 + value)

def escapeByte (byte : UInt8) : List Char :=
  if byte = 32 then ['+']
  else if isPlain byte then [.ofNat byte.toNat]
  else ['%', upperDigit (byte.toNat / 16), upperDigit (byte.toNat % 16)]

def escape (text : String) : List Char := (bytes text).flatMap escapeByte

/-- `URLSearchParams.toString()`. -/
def serialize (pairs : List (String × String)) : List Char :=
  ['&'].intercalate (pairs.map fun pair => escape pair.1 ++ '=' :: escape pair.2)

def unescape : List Char → List UInt8
  | [] => []
  | c :: rest =>
      if c = '+' then 32 :: unescape rest
      else if c = '%' then
        match rest with
        | high :: low :: more =>
            match Hex.readDigit high.toNat, Hex.readDigit low.toNat with
            | some highValue, some lowValue => .ofNat (16 * highValue + lowValue) :: unescape more
            | _, _ => 37 :: unescape (high :: low :: more)
        | other => 37 :: unescape other
      else bytes (String.singleton c) ++ unescape rest

/-- A pair, which its first `=` divides. -/
def readPair (text : List Char) : Option (String × String) := do
  let key ← ofBytes (unescape (text.takeWhile (· ≠ '=')))
  let value ← ofBytes (unescape ((text.dropWhile (· ≠ '=')).drop 1))
  some (key, value)

def parse (query : List Char) : Option (List (String × String)) :=
  ((query.splitOn '&').filter fun part => part ≠ []).mapM readPair

theorem plain_spec : ∀ value < 256, isPlain (.ofNat value) = true →
    Char.ofNat value ≠ '+' ∧ Char.ofNat value ≠ '%' ∧ Char.ofNat value ≠ '&' ∧
      Char.ofNat value ≠ '=' ∧ bytes (String.singleton (.ofNat value)) = [.ofNat value] := by
  decide +kernel

theorem upperDigit_spec : ∀ value < 16, Hex.readDigit (upperDigit value).toNat = some value ∧
    upperDigit value ≠ '&' ∧ upperDigit value ≠ '=' := by
  decide

theorem unescape_plus (rest : List Char) : unescape ('+' :: rest) = 32 :: unescape rest := by
  rw [unescape.eq_def]
  exact if_pos rfl

theorem unescape_plain {c : Char} (notPlus : c ≠ '+') (notPercent : c ≠ '%') (rest : List Char) :
    unescape (c :: rest) = bytes (String.singleton c) ++ unescape rest := by
  rw [unescape.eq_def]
  exact (if_neg notPlus).trans (if_neg notPercent)

theorem unescape_percent {high low : Char} {highValue lowValue : Nat} (rest : List Char)
    (isHigh : Hex.readDigit high.toNat = some highValue)
    (isLow : Hex.readDigit low.toNat = some lowValue) :
    unescape ('%' :: high :: low :: rest) =
      .ofNat (16 * highValue + lowValue) :: unescape rest := by
  rw [unescape.eq_def]
  dsimp only
  rw [if_neg (by decide), if_pos rfl, isHigh, isLow]

theorem unescape_escapeByte (byte : UInt8) (rest : List Char) :
    unescape (escapeByte byte ++ rest) = byte :: unescape rest := by
  have small : byte.toNat < 256 := byte.toNat_lt
  unfold escapeByte
  split_ifs with space plain
  · rw [space, List.singleton_append, unescape_plus]
  · obtain ⟨notPlus, notPercent, -, -, single⟩ :=
      plain_spec byte.toNat small (by rw [UInt8.ofNat_toNat]; exact plain)
    rw [List.singleton_append, unescape_plain notPlus notPercent, single, UInt8.ofNat_toNat,
      List.singleton_append]
  · have high := (upperDigit_spec (byte.toNat / 16) (by omega)).1
    have low := (upperDigit_spec (byte.toNat % 16) (by omega)).1
    have whole : 16 * (byte.toNat / 16) + byte.toNat % 16 = byte.toNat := by omega
    rw [List.cons_append, List.cons_append, List.singleton_append,
      unescape_percent rest high low, whole, UInt8.ofNat_toNat]

theorem unescape_escape (text : String) : unescape (escape text) = bytes text := by
  have all (content : List UInt8) : unescape (content.flatMap escapeByte) = content := by
    induction content with
    | nil => rfl
    | cons byte rest inductionHypothesis =>
        rw [List.flatMap_cons, unescape_escapeByte, inductionHypothesis]
  exact all (bytes text)

theorem notMem_escape {c : Char} (separator : c = '&' ∨ c = '=') (text : String) :
    c ∉ escape text := by
  intro member
  obtain ⟨byte, -, inByte⟩ := List.mem_flatMap.mp member
  have small : byte.toNat < 256 := byte.toNat_lt
  unfold escapeByte at inByte
  split_ifs at inByte with space plain
  · obtain rfl := List.mem_singleton.mp inByte
    exact absurd separator (by decide)
  · obtain rfl := List.mem_singleton.mp inByte
    obtain ⟨-, -, notAmp, notEq, -⟩ :=
      plain_spec byte.toNat small (by rw [UInt8.ofNat_toNat]; exact plain)
    exact separator.elim notAmp notEq
  · obtain ⟨-, highAmp, highEq⟩ := upperDigit_spec (byte.toNat / 16) (by omega)
    obtain ⟨-, lowAmp, lowEq⟩ := upperDigit_spec (byte.toNat % 16) (by omega)
    simp only [List.mem_cons, List.not_mem_nil, or_false] at inByte
    obtain rfl | rfl | rfl := inByte
    · exact absurd separator (by decide)
    · exact separator.elim highAmp highEq
    · exact separator.elim lowAmp lowEq

theorem readPair_escape (key value : String) :
    readPair (escape key ++ '=' :: escape value) = some (key, value) := by
  have keeps : ∀ c ∈ escape key, decide (c ≠ '=') = true := by
    intro c member
    rw [decide_eq_true_iff]
    rintro rfl
    exact notMem_escape (.inr rfl) key member
  unfold readPair
  rw [List.takeWhile_append_of_pos keeps, List.dropWhile_append_of_pos keeps]
  simp [unescape_escape, ofBytes_bytes]

theorem parse_serialize (pairs : List (String × String)) : parse (serialize pairs) = some pairs := by
  let part (pair : String × String) : List Char := escape pair.1 ++ '=' :: escape pair.2
  have nonempty (pair : String × String) : part pair ≠ [] :=
    List.append_ne_nil_of_right_ne_nil _ (List.cons_ne_nil _ _)
  have apart : ∀ text ∈ pairs.map part, '&' ∉ text := by
    intro text member
    obtain ⟨pair, -, rfl⟩ := List.mem_map.mp member
    rw [List.mem_append, List.mem_cons]
    rintro (inKey | separator | inValue)
    · exact notMem_escape (.inl rfl) _ inKey
    · exact absurd separator (by decide)
    · exact notMem_escape (.inl rfl) _ inValue
  have split : ((serialize pairs).splitOn '&').filter (fun text => text ≠ []) = pairs.map part := by
    by_cases empty : pairs = []
    · subst empty
      rfl
    · have some : pairs.map part ≠ [] := fun none => empty (List.map_eq_nil_iff.mp none)
      rw [serialize, List.splitOn_intercalate '&' apart some]
      apply List.filter_eq_self.mpr
      intro text member
      obtain ⟨pair, -, rfl⟩ := List.mem_map.mp member
      exact decide_eq_true (nonempty pair)
  rw [parse, split]
  clear apart split
  induction pairs with
  | nil => rfl
  | cons pair rest inductionHypothesis =>
      rw [List.map_cons, List.mapM_cons, readPair_escape, inductionHypothesis]
      rfl

theorem parse_append (query rest : List Char) {pairs more : List (String × String)}
    (read : parse query = some pairs) (readRest : parse rest = some more) :
    parse (query ++ '&' :: rest) = some (pairs ++ more) := by
  unfold parse at read readRest ⊢
  rw [List.splitOn_append_cons_self, List.filter_append, List.mapM_append, read, readRest]
  rfl

theorem parse_pair (key value : String) :
    parse (escape key ++ '=' :: escape value) = some [(key, value)] := by
  have single : serialize [(key, value)] = escape key ++ '=' :: escape value :=
    List.intercalate_singleton
  rw [← single, parse_serialize]

theorem bytes_cons (c : Char) (rest : List Char) :
    bytes (String.ofList (c :: rest)) = bytes (String.singleton c) ++ bytes (String.ofList rest) := by
  have append : String.ofList (c :: rest) = String.singleton c ++ String.ofList rest := by
    rw [← String.toList_inj]
    simp
  rw [append, bytes, String.toByteArray_append, ByteArray.toList_data_append]
  rfl

theorem escape_plain {text : List Char}
    (plain : ∀ c ∈ text, c.toNat < 256 ∧ isPlain (.ofNat c.toNat) = true) :
    escape (String.ofList text) = text := by
  induction text with
  | nil => rfl
  | cons c rest inductionHypothesis =>
      obtain ⟨small, isPlainChar⟩ := plain c List.mem_cons_self
      have single : bytes (String.singleton c) = [.ofNat c.toNat] := by
        have spec := (plain_spec c.toNat small isPlainChar).2.2.2.2
        rwa [Char.ofNat_toNat] at spec
      have notSpace : UInt8.ofNat c.toNat ≠ 32 := by
        intro space
        rw [space] at isPlainChar
        exact absurd isPlainChar (by decide)
      have back : (UInt8.ofNat c.toNat).toNat = c.toNat := UInt8.toNat_ofNat_of_lt' small
      have tail := inductionHypothesis fun c member => plain c (List.mem_cons_of_mem _ member)
      unfold escape at tail ⊢
      rw [bytes_cons, single, List.singleton_append, List.flatMap_cons, tail, escapeByte,
        if_neg notSpace, if_pos isPlainChar, back, Char.ofNat_toNat, List.singleton_append]

theorem serialize_injective : Function.Injective serialize := by
  intro first second same
  have read := parse_serialize first
  rw [same, parse_serialize] at read
  exact (Option.some.inj read).symm

end FormUrl
