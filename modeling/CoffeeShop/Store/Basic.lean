import CoffeeShop.Library.Decimal
import CoffeeShop.Library.Statement
import Mathlib.Tactic.Simps.Basic

/-!
Identifiers, amounts, instants and failures shared by every table.
-/

namespace CoffeeShop

/-- A generated identifier.  `uuid()` never repeats, so a counter stands for it. -/
abbrev Id := Nat

/-- Milliseconds since the epoch. -/
abbrev Timestamp := Nat

/-- What `getTime` returns of a `Date`: milliseconds since the epoch, which may lie ahead. -/
abbrev Instant := Int

/-- A `DECIMAL(18, 4)` column, in units of 0.0001. -/
abbrev Quantity := Int

/-- A `DECIMAL(18, 2)` column, in units of 0.01. -/
abbrev Money := Int

/-- `Decimal.precision` of decimal.js. -/
def decimalPrecision : ℕ := 20

def quantityToDecimal (quantity : Quantity) : ℚ := quantity / 10000

def moneyToDecimal (amount : Money) : ℚ := amount / 100

/-- The column value of a decimal after `toDecimalPlaces(2)`. -/
def moneyOfDecimal (value : ℚ) : Money := DecimalArithmetic.roundHalfUp (value * 100)

/-- `plus`, whose result keeps the places of its operands and the digits of a decimal. -/
def decimalPlus (left right : Money) : Money :=
  moneyOfDecimal (DecimalArithmetic.add decimalPrecision (moneyToDecimal left)
    (moneyToDecimal right))

/-- `minus`. -/
def decimalMinus (left right : Money) : Money :=
  moneyOfDecimal (DecimalArithmetic.sub decimalPrecision (moneyToDecimal left)
    (moneyToDecimal right))

inductive FailureKind where
  | badRequest
  | unauthorized
  | forbidden
  | notFound
  | conflict
  | internalServerError
  /-- A unique or check constraint of the database refused the row. -/
  | constraint
  deriving DecidableEq, Repr

/-- The exception that rolls a transaction back. -/
structure Failure where
  kind : FailureKind
  message : String
  code : Option String := none
  deriving DecidableEq, Repr

namespace Failure

def badRequest (message : String) : Failure := { kind := .badRequest, message }

def unauthorized (message : String) : Failure := { kind := .unauthorized, message }

def forbidden (message : String) : Failure := { kind := .forbidden, message }

def notFound (message : String) : Failure := { kind := .notFound, message }

def conflict (message : String) : Failure := { kind := .conflict, message }

def conflictWithCode (code message : String) : Failure :=
  { kind := .conflict, message, code := some code }

def internalServerError (message : String) : Failure := { kind := .internalServerError, message }

def constraint (name : String) : Failure := { kind := .constraint, message := name }

end Failure

end CoffeeShop
