import Mathlib.Algebra.BigOperators.Group.List.Basic
import Mathlib.Algebra.GroupWithZero.Nat
import Mathlib.Data.List.Sort

/-!
JSON texts over the code units of strings.

The parser reads what `JSON.parse` reads.  What is no JSON value by itself, such as a
number, is a leaf of any type.
-/

namespace JsonText

/-- The UTF-16 code units of a string. -/
abbrev Text := List Nat

def units (text : String) : Text := text.toList.map Char.toNat

inductive Value (Leaf : Type) where
  | null
  | boolean (value : Bool)
  | string (text : Text)
  | array (items : List (Value Leaf))
  | object (members : List (Text × Value Leaf))
  | leaf (value : Leaf)

variable {Leaf : Type}

section Map

variable {Other : Type}

mutual

def Value.map (change : Leaf → Other) : Value Leaf → Value Other
  | .null => .null
  | .boolean value => .boolean value
  | .string text => .string text
  | .array items => .array (mapItems change items)
  | .object members => .object (mapMembers change members)
  | .leaf value => .leaf (change value)

def mapItems (change : Leaf → Other) : List (Value Leaf) → List (Value Other)
  | [] => []
  | item :: rest => item.map change :: mapItems change rest

def mapMembers (change : Leaf → Other) : List (Text × Value Leaf) → List (Text × Value Other)
  | [] => []
  | (key, value) :: rest => (key, value.map change) :: mapMembers change rest

end

theorem mapItems_eq (change : Leaf → Other) (items : List (Value Leaf)) :
    mapItems change items = items.map fun item => item.map change := by
  induction items with
  | nil => rfl
  | cons item rest inductionHypothesis => rw [mapItems, inductionHypothesis, List.map_cons]

theorem mapMembers_eq (change : Leaf → Other) (members : List (Text × Value Leaf)) :
    mapMembers change members = members.map fun member => (member.1, member.2.map change) := by
  induction members with
  | nil => rfl
  | cons member rest inductionHypothesis => rw [mapMembers, inductionHypothesis, List.map_cons]

end Map

section Size

mutual

/-- What a text for the value has at least. -/
def Value.size : Value Leaf → Nat
  | .null => 1
  | .boolean _ => 1
  | .string text => text.length + 1
  | .array items => sizeItems items + 1
  | .object members => sizeMembers members + 1
  | .leaf _ => 1

def sizeItems : List (Value Leaf) → Nat
  | [] => 0
  | item :: rest => item.size + sizeItems rest

def sizeMembers : List (Text × Value Leaf) → Nat
  | [] => 0
  | (_, value) :: rest => value.size + sizeMembers rest

end

mutual

theorem size_map {Other : Type} (change : Leaf → Other) : (value : Value Leaf) →
    (value.map change).size = value.size
  | .null => rfl
  | .boolean _ => rfl
  | .string _ => rfl
  | .array items => congrArg (· + 1) (size_mapItems change items)
  | .object members => congrArg (· + 1) (size_mapMembers change members)
  | .leaf _ => rfl

theorem size_mapItems {Other : Type} (change : Leaf → Other) : (items : List (Value Leaf)) →
    sizeItems (mapItems change items) = sizeItems items
  | [] => rfl
  | item :: rest => congrArg₂ (· + ·) (size_map change item) (size_mapItems change rest)

theorem size_mapMembers {Other : Type} (change : Leaf → Other) :
    (members : List (Text × Value Leaf)) → sizeMembers (mapMembers change members) = sizeMembers members
  | [] => rfl
  | (_, value) :: rest => congrArg₂ (· + ·) (size_map change value) (size_mapMembers change rest)

end

end Size

section Parser

def isSpace (unit : Nat) : Bool := unit = 32 || unit = 9 || unit = 10 || unit = 13

def skipSpaces (text : Text) : Text := text.dropWhile isSpace

def isDigit (unit : Nat) : Bool := 48 ≤ unit && unit ≤ 57

def hexDigit (unit : Nat) : Option Nat :=
  if isDigit unit then some (unit - 48)
  else if 97 ≤ unit ∧ unit ≤ 102 then some (unit - 87)
  else if 65 ≤ unit ∧ unit ≤ 70 then some (unit - 55)
  else none

def escaped : Nat → Option Nat
  | 34 => some 34
  | 92 => some 92
  | 47 => some 47
  | 98 => some 8
  | 102 => some 12
  | 110 => some 10
  | 114 => some 13
  | 116 => some 9
  | _ => none

/-- The rest of a string after its opening quote. -/
def readString : Text → Option (Text × Text)
  | [] => none
  | 34 :: rest => some ([], rest)
  | 92 :: 117 :: first :: second :: third :: fourth :: rest => do
      let first ← hexDigit first
      let second ← hexDigit second
      let third ← hexDigit third
      let fourth ← hexDigit fourth
      let (text, rest) ← readString rest
      some ((((first * 16 + second) * 16 + third) * 16 + fourth) :: text, rest)
  | 92 :: unit :: rest => do
      let unit ← escaped unit
      let (text, rest) ← readString rest
      some (unit :: text, rest)
  | unit :: rest =>
      if unit < 32 ∨ unit = 92 then none
      else do
        let (text, rest) ← readString rest
        some (unit :: text, rest)

/-- At least one digit. -/
def readDigits (text : Text) : Option (Text × Text) :=
  let digits := text.takeWhile isDigit
  if digits.isEmpty then none else some (digits, text.dropWhile isDigit)

/-- The digits of an integer without leading zeros. -/
def readInteger : Text → Option (Text × Text)
  | 48 :: rest => some ([48], rest)
  | text => readDigits text

def readFraction : Text → Option (Text × Text)
  | 46 :: rest => do
      let (digits, rest) ← readDigits rest
      some (46 :: digits, rest)
  | text => some ([], text)

def readExponent : Text → Option (Text × Text)
  | unit :: rest =>
      if unit = 101 ∨ unit = 69 then
        match rest with
        | sign :: digits =>
            if sign = 43 ∨ sign = 45 then do
              let (digits, rest) ← readDigits digits
              some (unit :: sign :: digits, rest)
            else do
              let (digits, rest) ← readDigits (sign :: digits)
              some (unit :: digits, rest)
        | [] => none
      else some ([], unit :: rest)
  | [] => some ([], [])

def readUnsigned (text : Text) : Option (Text × Text) := do
  let (integer, rest) ← readInteger text
  let (fraction, rest) ← readFraction rest
  let (exponent, rest) ← readExponent rest
  some (integer ++ fraction ++ exponent, rest)

def readNumber : Text → Option (Text × Text)
  | 45 :: rest => do
      let (digits, rest) ← readUnsigned rest
      some (45 :: digits, rest)
  | text => readUnsigned text

/-- An assignment of a property, which keeps its place if it is there. -/
def assign : List (Text × Value Leaf) → Text → Value Leaf → List (Text × Value Leaf)
  | [], key, value => [(key, value)]
  | member :: rest, key, value =>
      if member.1 = key then (key, value) :: rest else member :: assign rest key value

/-- The integer that a key is the canonical text of. -/
def arrayIndex (key : Text) : Option Nat :=
  if key = [48] then some 0
  else if key.all isDigit ∧ key ≠ [] ∧ key.head? ≠ some 48 then
    let index := key.foldl (fun number unit => number * 10 + (unit - 48)) 0
    if index < 4294967295 then some index else none
  else none

/-- The order of own properties: integer keys first, by number. -/
def ownOrder (members : List (Text × Value Leaf)) : List (Text × Value Leaf) :=
  ((members.filter fun member => (arrayIndex member.1).isSome).insertionSort fun left right =>
    (arrayIndex left.1).getD 0 ≤ (arrayIndex right.1).getD 0) ++
  members.filter fun member => (arrayIndex member.1).isNone

/-- The object of the members in the order in which a text lists them. -/
def objectOf (members : List (Text × Value Leaf)) : Value Leaf :=
  .object (ownOrder (members.foldl (fun made member => assign made member.1 member.2) []))

variable (number : Text → Leaf)

mutual

def parseValue : Nat → Text → Option (Value Leaf × Text)
  | 0, _ => none
  | fuel + 1, text =>
      match skipSpaces text with
      | 123 :: rest =>
          match skipSpaces rest with
          | 125 :: rest => some (.object [], rest)
          | rest => do
              let (members, rest) ← parseMembers fuel rest
              some (objectOf members, rest)
      | 91 :: rest =>
          match skipSpaces rest with
          | 93 :: rest => some (.array [], rest)
          | rest => do
              let (items, rest) ← parseItems fuel rest
              some (.array items, rest)
      | 34 :: rest => do
          let (text, rest) ← readString rest
          some (.string text, rest)
      | 116 :: 114 :: 117 :: 101 :: rest => some (.boolean true, rest)
      | 102 :: 97 :: 108 :: 115 :: 101 :: rest => some (.boolean false, rest)
      | 110 :: 117 :: 108 :: 108 :: rest => some (.null, rest)
      | text => do
          let (digits, rest) ← readNumber text
          some (.leaf (number digits), rest)

def parseItems : Nat → Text → Option (List (Value Leaf) × Text)
  | 0, _ => none
  | fuel + 1, text => do
      let (item, rest) ← parseValue fuel text
      match skipSpaces rest with
      | 44 :: rest => do
          let (items, rest) ← parseItems fuel rest
          some (item :: items, rest)
      | 93 :: rest => some ([item], rest)
      | _ => none

def parseMembers : Nat → Text → Option (List (Text × Value Leaf) × Text)
  | 0, _ => none
  | fuel + 1, text =>
      match skipSpaces text with
      | 34 :: rest => do
          let (key, rest) ← readString rest
          match skipSpaces rest with
          | 58 :: rest => do
              let (value, rest) ← parseValue fuel rest
              match skipSpaces rest with
              | 44 :: rest => do
                  let (members, rest) ← parseMembers fuel rest
                  some ((key, value) :: members, rest)
              | 125 :: rest => some ([(key, value)], rest)
              | _ => none
          | _ => none
      | _ => none

end

/-- `JSON.parse`; every second call takes a unit of the text. -/
def parse (text : Text) : Option (Value Leaf) :=
  match parseValue number (2 * text.length + 2) text with
  | some (value, rest) => if (skipSpaces rest).isEmpty then some value else none
  | none => none

end Parser

section Stringify

def hexUnit (digit : Nat) : Nat := if digit < 10 then digit + 48 else digit + 87

/-- The four digits after a backslash and the letter u. -/
def hexText (unit : Nat) : Text :=
  92 :: 117 :: [unit / 4096 % 16, unit / 256 % 16, unit / 16 % 16, unit % 16].map hexUnit

def isHighSurrogate (unit : Nat) : Bool := 0xd800 ≤ unit && unit ≤ 0xdbff

def isLowSurrogate (unit : Nat) : Bool := 0xdc00 ≤ unit && unit ≤ 0xdfff

def quoteUnit (unit : Nat) : Text :=
  match unit with
  | 34 => [92, 34]
  | 92 => [92, 92]
  | 8 => [92, 98]
  | 12 => [92, 102]
  | 10 => [92, 110]
  | 13 => [92, 114]
  | 9 => [92, 116]
  | _ =>
      if unit < 32 ∨ isHighSurrogate unit ∨ isLowSurrogate unit then hexText unit else [unit]

def quoteUnits : Text → Text
  | [] => []
  | [unit] => quoteUnit unit
  | unit :: next :: rest =>
      if isHighSurrogate unit ∧ isLowSurrogate next then unit :: next :: quoteUnits rest
      else quoteUnit unit ++ quoteUnits (next :: rest)

def quote (text : Text) : Text := 34 :: quoteUnits text ++ [34]

variable (leafText : Leaf → Option Text)

mutual

/-- `JSON.stringify`.  A leaf without text is undefined. -/
def stringify : Value Leaf → Option Text
  | .null => some (units "null")
  | .boolean value => some (units (if value then "true" else "false"))
  | .string text => some (quote text)
  | .array items => some (units "[" ++ stringifyItems items ++ units "]")
  | .object members => some (units "\x7b" ++ stringifyMembers members ++ units "\x7d")
  | .leaf value => leafText value

def stringifyItems : List (Value Leaf) → Text
  | [] => []
  | [item] => (stringify item).getD (units "null")
  | item :: rest => (stringify item).getD (units "null") ++ units "," ++ stringifyItems rest

def stringifyMembers : List (Text × Value Leaf) → Text
  | [] => []
  | (key, value) :: rest =>
      match stringify value with
      | none => stringifyMembers rest
      | some text =>
          let others := stringifyMembers rest
          quote key ++ units ":" ++ text ++ if others.isEmpty then [] else units "," ++ others

end

end Stringify

end JsonText
