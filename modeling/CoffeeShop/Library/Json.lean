import CoffeeShop.Library.Text
import Mathlib.Data.List.Basic
import Mathlib.Tactic.SplitIfs

/-!
`JSON.stringify`, and that two values never have the same text.

A text can be read back in one way only, whatever follows it, provided that what follows a number
is not another digit.
-/

inductive Json where
  | null
  | str (text : String)
  | num (value : Nat)
  | arr (items : List Json)
  | obj (members : List (String × Json))

namespace Json

/-- The characters that have an escape of two characters. -/
def shortEscape (c : Char) : Option Char :=
  if c = '"' then some '"'
  else if c = '\\' then some '\\'
  else if c = '\x08' then some 'b'
  else if c = '\x0c' then some 'f'
  else if c = '\n' then some 'n'
  else if c = '\r' then some 'r'
  else if c = '\t' then some 't'
  else none

def escape (c : Char) : List Char :=
  match shortEscape c with
  | some letter => ['\\', letter]
  | none =>
      if c.toNat < 32 then
        ['\\', 'u', '0', '0', Nat.digitChar (c.toNat / 16), Nat.digitChar (c.toNat % 16)]
      else [c]

def quoteRest : List Char → List Char
  | [] => ['"']
  | c :: rest => escape c ++ quoteRest rest

def quote (text : String) : List Char := '"' :: quoteRest text.toList

mutual

/-- The text without spaces. -/
def stringify : Json → List Char
  | .null => ['n', 'u', 'l', 'l']
  | .str text => quote text
  | .num value => Nat.toDigits 10 value
  | .arr items => '[' :: stringifyItems items
  | .obj members => '{' :: stringifyMembers members

def stringifyItems : List Json → List Char
  | [] => [']']
  | item :: rest => stringify item ++ stringifyMoreItems rest

def stringifyMoreItems : List Json → List Char
  | [] => [']']
  | item :: rest => ',' :: (stringify item ++ stringifyMoreItems rest)

def stringifyMembers : List (String × Json) → List Char
  | [] => ['}']
  | (name, value) :: rest =>
      quote name ++ (':' :: (stringify value ++ stringifyMoreMembers rest))

def stringifyMoreMembers : List (String × Json) → List Char
  | [] => ['}']
  | (name, value) :: rest =>
      ',' :: (quote name ++ (':' :: (stringify value ++ stringifyMoreMembers rest)))

end

section Strings

/-- The character of an escape. -/
def unescape (letter : Char) : Char :=
  match letter with
  | 'b' => '\x08'
  | 'f' => '\x0c'
  | 'n' => '\n'
  | 'r' => '\r'
  | 't' => '\t'
  | letter => letter

theorem unescape_shortEscape {c letter : Char} (found : shortEscape c = some letter) :
    unescape letter = c := by
  unfold shortEscape at found
  split_ifs at found with quotes slash backspace feed newline carriage tab <;> cases found
  · exact quotes.symm
  · exact slash.symm
  · exact backspace.symm
  · exact feed.symm
  · exact newline.symm
  · exact carriage.symm
  · exact tab.symm

theorem shortEscape_injective {first second letter : Char}
    (found : shortEscape first = some letter) (other : shortEscape second = some letter) :
    first = second := by
  rw [← unescape_shortEscape found, unescape_shortEscape other]

theorem shortEscape_ne_u {c letter : Char} (found : shortEscape c = some letter) : letter ≠ 'u' := by
  rintro rfl
  simp only [shortEscape] at found
  grind

theorem digitChar_injective : ∀ first < 16, ∀ second < 16,
    Nat.digitChar first = Nat.digitChar second → first = second := by
  decide

/-- An escape is two characters, six, or the character itself. -/
theorem escape_cases (c : Char) :
    (∃ letter, shortEscape c = some letter ∧ escape c = ['\\', letter]) ∨
    (c.toNat < 32 ∧ escape c =
      ['\\', 'u', '0', '0', Nat.digitChar (c.toNat / 16), Nat.digitChar (c.toNat % 16)]) ∨
    (c ≠ '\\' ∧ c ≠ '"' ∧ escape c = [c]) := by
  unfold escape
  cases found : shortEscape c with
  | some letter => exact .inl ⟨letter, rfl, rfl⟩
  | none =>
      by_cases control : c.toNat < 32
      · exact .inr (.inl ⟨control, by simp [control]⟩)
      · refine .inr (.inr ⟨?_, ?_, by simp [control]⟩)
        · rintro rfl
          cases found
        · rintro rfl
          cases found

theorem escape_append {first second : Char} {tail other : List Char}
    (same : escape first ++ tail = escape second ++ other) : first = second ∧ tail = other := by
  rcases escape_cases first with ⟨letter, found, shape⟩ | ⟨control, shape⟩ | ⟨plain, -, shape⟩
  · rcases escape_cases second with ⟨letter', found', shape'⟩ | ⟨control', shape'⟩ | ⟨plain', -, shape'⟩
    · rw [shape, shape'] at same
      simp only [List.cons_append, List.nil_append, List.cons.injEq, true_and] at same
      rw [← same.1] at found'
      exact ⟨shortEscape_injective found found', same.2⟩
    · rw [shape, shape'] at same
      simp only [List.cons_append, List.nil_append, List.cons.injEq, true_and] at same
      exact absurd same.1 (shortEscape_ne_u found)
    · rw [shape, shape'] at same
      simp only [List.cons_append, List.nil_append, List.cons.injEq] at same
      exact absurd same.1.symm plain'
  · rcases escape_cases second with ⟨letter', found', shape'⟩ | ⟨control', shape'⟩ | ⟨plain', -, shape'⟩
    · rw [shape, shape'] at same
      simp only [List.cons_append, List.nil_append, List.cons.injEq, true_and] at same
      exact absurd same.1.symm (shortEscape_ne_u found')
    · rw [shape, shape'] at same
      simp only [List.cons_append, List.nil_append, List.cons.injEq, true_and] at same
      have high := digitChar_injective _ (by omega) _ (by omega) same.1
      have low := digitChar_injective _ (by omega) _ (by omega) same.2.1
      exact ⟨Char.toNat_inj.mp (by omega), same.2.2⟩
    · rw [shape, shape'] at same
      simp only [List.cons_append, List.nil_append, List.cons.injEq] at same
      exact absurd same.1.symm plain'
  · rcases escape_cases second with ⟨letter', found', shape'⟩ | ⟨control', shape'⟩ | ⟨plain', -, shape'⟩
    · rw [shape, shape'] at same
      simp only [List.cons_append, List.nil_append, List.cons.injEq] at same
      exact absurd same.1 plain
    · rw [shape, shape'] at same
      simp only [List.cons_append, List.nil_append, List.cons.injEq] at same
      exact absurd same.1 plain
    · rw [shape, shape'] at same
      simpa using same

/-- The text of a character never starts with the quote that ends the string. -/
theorem escape_ne_quote (c : Char) (tail other : List Char) : escape c ++ tail ≠ '"' :: other := by
  intro same
  rcases escape_cases c with ⟨letter, found, shape⟩ | ⟨control, shape⟩ | ⟨-, plain, shape⟩
  · rw [shape] at same
    simp at same
  · rw [shape] at same
    simp at same
  · rw [shape] at same
    simp [plain] at same

theorem quoteRest_append {first second tail other : List Char}
    (same : quoteRest first ++ tail = quoteRest second ++ other) :
    first = second ∧ tail = other := by
  induction first generalizing second with
  | nil =>
      cases second with
      | nil => exact ⟨rfl, by simpa [quoteRest] using same⟩
      | cons c rest =>
          simp only [quoteRest, List.append_assoc] at same
          exact absurd same.symm (escape_ne_quote c _ _)
  | cons c rest inductionHypothesis =>
      cases second with
      | nil =>
          simp only [quoteRest, List.append_assoc] at same
          exact absurd same (escape_ne_quote c _ _)
      | cons d more =>
          simp only [quoteRest, List.append_assoc] at same
          obtain ⟨rfl, remains⟩ := escape_append same
          obtain ⟨rfl, tails⟩ := inductionHypothesis remains
          exact ⟨rfl, tails⟩

theorem quote_append {first second : String} {tail other : List Char}
    (same : quote first ++ tail = quote second ++ other) : first = second ∧ tail = other := by
  simp only [quote, List.cons_append, List.cons.injEq, true_and] at same
  obtain ⟨characters, tails⟩ := quoteRest_append same
  exact ⟨String.toList_injective characters, tails⟩

end Strings

/-- What may follow a value in a text. -/
def Ends (tail : List Char) : Prop := ∀ c ∈ tail.head?, c.isDigit = false

section Numbers

theorem toDigits_injective {first second : Nat}
    (same : Nat.toDigits 10 first = Nat.toDigits 10 second) : first = second := by
  rw [← @Nat.ofDigitChars_ten_toDigits first, same, Nat.ofDigitChars_ten_toDigits]

theorem digits_append {first second : List Char} {tail other : List Char}
    (digits : ∀ c ∈ first, c.isDigit = true) (others : ∀ c ∈ second, c.isDigit = true)
    (ends : Ends tail) (otherEnds : Ends other) (same : first ++ tail = second ++ other) :
    first = second ∧ tail = other := by
  induction first generalizing second with
  | nil =>
      cases second with
      | nil => exact ⟨rfl, same⟩
      | cons c rest =>
          have digit := others c List.mem_cons_self
          rw [List.nil_append, List.cons_append] at same
          rw [ends c (by simp [same])] at digit
          cases digit
  | cons c rest inductionHypothesis =>
      cases second with
      | nil =>
          have digit := digits c List.mem_cons_self
          rw [List.nil_append, List.cons_append] at same
          rw [otherEnds c (by simp [← same])] at digit
          cases digit
      | cons d more =>
          simp only [List.cons_append, List.cons.injEq] at same
          obtain ⟨rfl, remains⟩ := same
          obtain ⟨rfl, tails⟩ := inductionHypothesis
            (fun e member => digits e (List.mem_cons_of_mem _ member))
            (fun e member => others e (List.mem_cons_of_mem _ member)) remains
          exact ⟨rfl, tails⟩

end Numbers

section Values

theorem ends_cons {c : Char} (separates : c.isDigit = false) (rest : List Char) :
    Ends (c :: rest) := by
  intro d member
  cases member
  exact separates

theorem ends_moreItems (items : List Json) (tail : List Char) :
    Ends (stringifyMoreItems items ++ tail) := by
  cases items with
  | nil => exact ends_cons (by decide) _
  | cons item rest => exact ends_cons (by decide) _

theorem ends_moreMembers (members : List (String × Json)) (tail : List Char) :
    Ends (stringifyMoreMembers members ++ tail) := by
  cases members with
  | nil => exact ends_cons (by decide) _
  | cons member rest => exact ends_cons (by decide) _

/-- The characters that the text of a value may start with. -/
def Starts : Json → Char → Prop
  | .null, c => c = 'n'
  | .str _, c => c = '"'
  | .num _, c => c.isDigit = true
  | .arr _, c => c = '['
  | .obj _, c => c = '\x7b'

theorem exists_start (value : Json) : ∃ c rest, stringify value = c :: rest ∧ Starts value c := by
  cases value with
  | null => exact ⟨'n', _, by rw [stringify], rfl⟩
  | str text => exact ⟨'"', _, by rw [stringify, quote], rfl⟩
  | num value =>
      cases digits : Nat.toDigits 10 value with
      | nil => exact absurd digits Nat.toDigits_ne_nil
      | cons c rest =>
          refine ⟨c, rest, by rw [stringify, digits], ?_⟩
          have member : c ∈ Nat.toDigits 10 value := digits ▸ List.mem_cons_self
          exact Nat.isDigit_of_mem_toDigits (by decide) (by decide) member
  | arr items => exact ⟨'[', _, by rw [stringify], rfl⟩
  | obj members => exact ⟨'\x7b', _, by rw [stringify], rfl⟩

/-- Values whose texts start alike are of one kind. -/
theorem starts_of_append {first second : Json} {tail other : List Char}
    (same : stringify first ++ tail = stringify second ++ other) :
    ∃ c, Starts first c ∧ Starts second c := by
  obtain ⟨c, rest, text, starts⟩ := exists_start first
  obtain ⟨d, more, otherText, otherStarts⟩ := exists_start second
  rw [text, otherText, List.cons_append, List.cons_append, List.cons.injEq] at same
  exact ⟨c, starts, same.1 ▸ otherStarts⟩

theorem stringify_ne_close (value : Json) (tail other : List Char) :
    stringify value ++ tail ≠ ']' :: other := by
  intro same
  obtain ⟨c, rest, text, starts⟩ := exists_start value
  rw [text, List.cons_append, List.cons.injEq] at same
  rw [same.1] at starts
  cases value with
  | _ => simp [Starts] at starts

mutual

theorem stringify_append : ∀ (first second : Json) (tail other : List Char), Ends tail →
    Ends other → stringify first ++ tail = stringify second ++ other →
      first = second ∧ tail = other
  | .null, second, tail, other, ends, otherEnds, same => by
      obtain ⟨c, starts, otherStarts⟩ := starts_of_append same
      cases second with
      | null =>
          rw [stringify] at same
          exact ⟨rfl, List.append_cancel_left same⟩
      | _ =>
          rw [Starts] at starts
          subst starts
          simp [Starts] at otherStarts
  | .str text, second, tail, other, ends, otherEnds, same => by
      obtain ⟨c, starts, otherStarts⟩ := starts_of_append same
      cases second with
      | str more =>
          rw [stringify, stringify] at same
          obtain ⟨rfl, tails⟩ := quote_append same
          exact ⟨rfl, tails⟩
      | _ =>
          rw [Starts] at starts
          subst starts
          simp [Starts] at otherStarts
  | .num value, second, tail, other, ends, otherEnds, same => by
      obtain ⟨c, starts, otherStarts⟩ := starts_of_append same
      cases second with
      | num more =>
          rw [stringify, stringify] at same
          have digits {n : Nat} : ∀ c ∈ Nat.toDigits 10 n, c.isDigit = true := fun c member =>
            Nat.isDigit_of_mem_toDigits (by decide) (by decide) member
          obtain ⟨texts, tails⟩ := digits_append digits digits ends otherEnds same
          exact ⟨congrArg Json.num (toDigits_injective texts), tails⟩
      | _ =>
          rw [Starts] at otherStarts
          subst otherStarts
          simp [Starts] at starts
  | .arr items, second, tail, other, ends, otherEnds, same => by
      obtain ⟨c, starts, otherStarts⟩ := starts_of_append same
      cases second with
      | arr more =>
          rw [stringify, stringify, List.cons_append, List.cons_append, List.cons.injEq] at same
          obtain ⟨rfl, tails⟩ := stringifyItems_append items more tail other same.2
          exact ⟨rfl, tails⟩
      | _ =>
          rw [Starts] at starts
          subst starts
          simp [Starts] at otherStarts
  | .obj members, second, tail, other, ends, otherEnds, same => by
      obtain ⟨c, starts, otherStarts⟩ := starts_of_append same
      cases second with
      | obj more =>
          rw [stringify, stringify, List.cons_append, List.cons_append, List.cons.injEq] at same
          obtain ⟨rfl, tails⟩ := stringifyMembers_append members more tail other same.2
          exact ⟨rfl, tails⟩
      | _ =>
          rw [Starts] at starts
          subst starts
          simp [Starts] at otherStarts

theorem stringifyItems_append : ∀ (first second : List Json) (tail other : List Char),
    stringifyItems first ++ tail = stringifyItems second ++ other → first = second ∧ tail = other
  | [], [], tail, other, same => by simpa [stringifyItems] using same
  | [], value :: rest, tail, other, same => by
      simp only [stringifyItems, List.append_assoc] at same
      exact absurd same.symm (stringify_ne_close value _ _)
  | value :: rest, [], tail, other, same => by
      simp only [stringifyItems, List.append_assoc] at same
      exact absurd same (stringify_ne_close value _ _)
  | value :: rest, item :: more, tail, other, same => by
      simp only [stringifyItems, List.append_assoc] at same
      obtain ⟨rfl, remains⟩ := stringify_append value item _ _ (ends_moreItems rest tail)
        (ends_moreItems more other) same
      obtain ⟨rfl, tails⟩ := stringifyMoreItems_append rest more tail other remains
      exact ⟨rfl, tails⟩

theorem stringifyMoreItems_append : ∀ (first second : List Json) (tail other : List Char),
    stringifyMoreItems first ++ tail = stringifyMoreItems second ++ other →
      first = second ∧ tail = other
  | [], [], tail, other, same => by simpa [stringifyMoreItems] using same
  | [], value :: rest, tail, other, same => by simp [stringifyMoreItems] at same
  | value :: rest, [], tail, other, same => by simp [stringifyMoreItems] at same
  | value :: rest, item :: more, tail, other, same => by
      simp only [stringifyMoreItems, List.cons_append, List.append_assoc, List.cons.injEq,
        true_and] at same
      obtain ⟨rfl, remains⟩ := stringify_append value item _ _ (ends_moreItems rest tail)
        (ends_moreItems more other) same
      obtain ⟨rfl, tails⟩ := stringifyMoreItems_append rest more tail other remains
      exact ⟨rfl, tails⟩

theorem stringifyMembers_append : ∀ (first second : List (String × Json)) (tail other : List Char),
    stringifyMembers first ++ tail = stringifyMembers second ++ other →
      first = second ∧ tail = other
  | [], [], tail, other, same => by simpa [stringifyMembers] using same
  | [], (name, value) :: rest, tail, other, same => by simp [stringifyMembers, quote] at same
  | (name, value) :: rest, [], tail, other, same => by simp [stringifyMembers, quote] at same
  | (name, value) :: rest, (title, item) :: more, tail, other, same => by
      simp only [stringifyMembers, List.append_assoc, List.cons_append] at same
      obtain ⟨rfl, after⟩ := quote_append same
      simp only [List.cons.injEq, true_and] at after
      obtain ⟨rfl, remains⟩ := stringify_append value item _ _ (ends_moreMembers rest tail)
        (ends_moreMembers more other) after
      obtain ⟨rfl, tails⟩ := stringifyMoreMembers_append rest more tail other remains
      exact ⟨rfl, tails⟩

theorem stringifyMoreMembers_append : ∀ (first second : List (String × Json))
    (tail other : List Char), stringifyMoreMembers first ++ tail =
      stringifyMoreMembers second ++ other → first = second ∧ tail = other
  | [], [], tail, other, same => by simpa [stringifyMoreMembers] using same
  | [], (name, value) :: rest, tail, other, same => by simp [stringifyMoreMembers] at same
  | (name, value) :: rest, [], tail, other, same => by simp [stringifyMoreMembers] at same
  | (name, value) :: rest, (title, item) :: more, tail, other, same => by
      simp only [stringifyMoreMembers, List.append_assoc, List.cons_append, List.cons.injEq,
        true_and] at same
      obtain ⟨rfl, after⟩ := quote_append same
      simp only [List.cons.injEq, true_and] at after
      obtain ⟨rfl, remains⟩ := stringify_append value item _ _ (ends_moreMembers rest tail)
        (ends_moreMembers more other) after
      obtain ⟨rfl, tails⟩ := stringifyMoreMembers_append rest more tail other remains
      exact ⟨rfl, tails⟩

end

/-- Two values never have the same text. -/
theorem stringify_injective {first second : Json} (same : stringify first = stringify second) :
    first = second :=
  (stringify_append first second [] [] nofun nofun (by rw [same])).1

end Values

end Json
