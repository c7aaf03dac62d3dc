import CoffeeShop.Library.JsonText
import Mathlib.Data.Fintype.Card

/-!
Redaction of logged values.

A logged value is a graph: objects that are referenced from several places are nodes of a
heap, and all others are written where they occur.
-/

namespace CoffeeShop.LogRedaction

open JsonText

/-- A piece of `SENSITIVE_KEY_PATTERN`. -/
inductive Piece where
  | unit (unit : Nat)
  | separator
  | optionalSeparator

def isSeparator (unit : Nat) : Bool := unit = 95 || unit = 45

/-- A letter without its case. -/
def foldCase (unit : Nat) : Nat := if 65 ≤ unit ∧ unit ≤ 90 then unit + 32 else unit

def matchesPrefix : List Piece → Text → Bool
  | [], _ => true
  | .unit unit :: pieces, first :: rest => foldCase first = unit && matchesPrefix pieces rest
  | .separator :: pieces, first :: rest => isSeparator first && matchesPrefix pieces rest
  | .optionalSeparator :: pieces, first :: rest =>
      matchesPrefix pieces (first :: rest) || isSeparator first && matchesPrefix pieces rest
  | .optionalSeparator :: pieces, [] => matchesPrefix pieces []
  | _ :: _, [] => false

def word (text : String) : List Piece := (units text).map Piece.unit

/-- `SENSITIVE_KEY_PATTERN`. -/
def sensitivePatterns : List (List Piece) := [
  word "password",
  word "passphrase",
  word "secret",
  word "token",
  word "authorization",
  word "cookie",
  word "card",
  word "cvv",
  word "pin",
  word "signature",
  word "paymentdata",
  word "paymentdetails",
  word "paymentcredential",
  word "bankaccount",
  word "api" ++ .optionalSeparator :: word "key",
  word "print" ++ .separator :: word "device" ++ .separator :: word "key",
  word "private" ++ .optionalSeparator :: word "key",
  word "service" ++ .optionalSeparator :: word "role" ++ .optionalSeparator :: word "key",
  word "checksum" ++ .optionalSeparator :: word "key"]

def isSensitiveKey (key : Text) : Bool :=
  key.tails.any fun rest => sensitivePatterns.any fun pattern => matchesPrefix pattern rest

/-- What `\s` matches. -/
def isWhiteSpace (unit : Nat) : Bool :=
  9 ≤ unit && unit ≤ 13 || unit = 32 || unit = 0xa0 || unit = 0x1680 ||
    0x2000 ≤ unit && unit ≤ 0x200a || unit = 0x2028 || unit = 0x2029 || unit = 0x202f ||
    unit = 0x205f || unit = 0x3000 || unit = 0xfeff

/-- `/^\s*[[{]/`. -/
def startsDocument (text : Text) : Bool :=
  match text.dropWhile isWhiteSpace with
  | first :: _ => first = 91 || first = 123
  | [] => false

/-- The numbers of the runtime, and the replacements in texts that are no documents. -/
class LogRuntime (Number : Type) where
  ofText : Text → Number
  /-- Infinities, which a text can overflow to, have the text of null. -/
  toText : Number → Text
  redactText : Text → Text

variable {Number : Type} {n : Nat}

/-- What is neither null, a boolean, a string, an array nor an object. -/
inductive Scalar (Number : Type) where
  | undefined
  | number (value : Number)

/-- A scalar or a reference to a node. -/
inductive Leaf (Number : Type) (n : Nat) where
  | scalar (value : Scalar Number)
  | reference (address : Fin n)

abbrev LogValue (Number : Type) (n : Nat) := Value (Leaf Number n)

/-- A value without references: a result, or a parsed document. -/
abbrev Redacted (Number : Type) := Value (Scalar Number)

inductive Node (Number : Type) (n : Nat) where
  | array (items : List (LogValue Number n))
  | object (members : List (Text × LogValue Number n))
  /-- The own properties of an error that are enumerable, and those that `redactLogValue` reads. -/
  | error (members : List (Text × LogValue Number n))
      (name message stack : LogValue Number n)

abbrev Heap (Number : Type) (n : Nat) := Fin n → Node Number n

/-- The visited nodes. -/
abbrev Seen (n : Nat) := Finset (Fin n)

def redactedMark : Redacted Number := .string (units "[REDACTED]")

def circularMark : Redacted Number := .string (units "[CIRCULAR]")

/-- The object that replaces an error. -/
def spread (members : List (Text × LogValue Number n)) (name message stack : LogValue Number n) :
    List (Text × LogValue Number n) :=
  assign (assign (assign members (units "name") name) (units "message") message) (units "stack")
    stack

/-- The parts of an array or object with their keys, which are undefined for items. -/
abbrev Field (Number : Type) (n : Nat) := Option Text × LogValue Number n

def ofItems (items : List (LogValue Number n)) : List (Field Number n) :=
  items.map fun item => (none, item)

def ofMembers (members : List (Text × LogValue Number n)) : List (Field Number n) :=
  members.map fun member => (some member.1, member.2)

/-- The recursive calls of a `map`, one after the other. -/
def visitAll (visit : Field Number n → Seen n → Option (Redacted Number × Seen n)) :
    List (Field Number n) → Seen n → Option (List (Redacted Number) × Seen n)
  | [], seen => some ([], seen)
  | field :: rest, seen => do
      let (result, seen) ← visit field seen
      let (results, seen) ← visitAll visit rest seen
      some (result :: results, seen)

/-- `Object.fromEntries`. -/
def withKeys (members : List (Text × LogValue Number n)) (results : List (Redacted Number)) :
    List (Text × Redacted Number) :=
  (members.map Prod.fst).zip results

variable [LogRuntime Number]

/-- The text of a result; undefined has none. -/
def scalarText : Scalar Number → Option Text
  | .undefined => none
  | .number value => some (LogRuntime.toText value)

/-- `JSON.parse`. -/
def parseDocument (text : Text) : Option (Redacted Number) :=
  parse (fun digits => .number (LogRuntime.ofText digits)) text

/-- The calls of `redactLogValue` on a stack that holds so many of them.  One that it does not hold
throws a RangeError, which is `none`; `overflow` is what the string becomes in whose document that
happens. -/
def redactWith (overflow : Text → Option (Redacted Number)) (heap : Heap Number n) :
    Nat → Field Number n → Seen n → Option (Redacted Number × Seen n)
  | 0, _, _ => none
  | stack + 1, (key, value), seen =>
      if key.any isSensitiveKey then some (redactedMark, seen)
      else match value with
        | .null => some (.null, seen)
        | .boolean value => some (.boolean value, seen)
        | .string text =>
            match if startsDocument text then parseDocument text else none with
            | some document =>
                match redactWith overflow heap stack (none, document.map .scalar) seen with
                | some (result, seen) =>
                    some (.string ((stringify scalarText result).getD []), seen)
                -- what was marked of the document, no other visit sees
                | none => (overflow text).map fun result => (result, seen)
            | none => some (.string (LogRuntime.redactText Number text), seen)
        | .leaf (.scalar value) => some (.leaf value, seen)
        | .leaf (.reference address) =>
            if address ∈ seen then some (circularMark, seen)
            else
              let seen := insert address seen
              match heap address with
              | .array items => do
                  let (results, seen) ← visitAll (redactWith overflow heap stack) (ofItems items) seen
                  some (.array results, seen)
              | .object members => do
                  let (results, seen) ←
                    visitAll (redactWith overflow heap stack) (ofMembers members) seen
                  some (.object (withKeys members results), seen)
              | .error members name message trace =>
                  redactWith overflow heap stack (none, .object (spread members name message trace))
                    seen
        -- an object with one reference, as a parsed one is: no other visit sees its mark
        | .array items => do
            let (results, seen) ← visitAll (redactWith overflow heap stack) (ofItems items) seen
            some (.array results, seen)
        | .object members => do
            let (results, seen) ← visitAll (redactWith overflow heap stack) (ofMembers members) seen
            some (.object (withKeys members results), seen)

/-- The catch around the document leads to the redaction of its text. -/
def redactLogValue (heap : Heap Number n) (stack : Nat) (field : Field Number n) :
    Option (Redacted Number) :=
  (redactWith (fun text => some (.string (LogRuntime.redactText Number text))) heap stack field ∅).map
    Prod.fst

/-- The calls without the catch, which overflow nowhere if they return. -/
abbrev redact (heap : Heap Number n) :
    Nat → Field Number n → Seen n → Option (Redacted Number × Seen n) :=
  redactWith (fun _ => none) heap

/-- The fields of the calls that a value leads to, with the nodes that are then visited. -/
def callsOf (heap : Heap Number n) (seen : Seen n) :
    LogValue Number n → List (Field Number n) × Seen n
  | .string text =>
      match if startsDocument text then parseDocument text else none with
      | some document => ([(none, document.map .scalar)], seen)
      | none => ([], seen)
  | .array items => (ofItems items, seen)
  | .object members => (ofMembers members, seen)
  | .leaf (.reference address) =>
      if address ∈ seen then ([], seen)
      else
        let seen := insert address seen
        match heap address with
        | .array items => (ofItems items, seen)
        | .object members => (ofMembers members, seen)
        | .error members name message trace =>
            ([(none, .object (spread members name message trace))], seen)
  | _ => ([], seen)

/-- The nodes that the calls visit, unless they are nested deeper than so many. -/
def visits (heap : Heap Number n) : Nat → Field Number n → Seen n → Option (Seen n)
  | 0, _, _ => none
  | depth + 1, (key, value), seen =>
      if key.any isSensitiveKey then some seen
      else
        let calls := callsOf heap seen value
        calls.1.foldlM (fun seen field => visits heap depth field seen) calls.2

/-- The calls for the value are nested no deeper than the stack holds. -/
def Fits (heap : Heap Number n) (stack : Nat) (value : LogValue Number n) : Prop :=
  (visits heap stack (none, value) ∅).isSome

end CoffeeShop.LogRedaction
