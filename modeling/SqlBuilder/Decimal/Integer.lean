import SqlBuilder.Decimal.Binary
import SqlBuilder.Text.Blank
import SqlBuilder.Text.Digit

/-!
# Whole numbers and text

A whole number in text may stand between white space, may carry one sign and may have single
underscores between its digits, which may be the digits of any script. A number of more than
`digitLimit` digits is neither read nor written, for that would take time out of proportion.
-/

namespace SqlBuilder.Decimal

open Text

-- A number with this many digits is compared with, but not to be computed in a proof.
@[irreducible] def digitLimit : Nat := 4300

/-- The values of digits separated by at most one underscore each. -/
def digitValues : List Char → Option (List Nat)
  | [] => none
  | [c] => (digit? c).map fun value => [value]
  | c :: '_' :: rest => do
      let value ← digit? c
      let values ← digitValues rest
      return value :: values
  | c :: rest => do
      let value ← digit? c
      let values ← digitValues rest
      return value :: values

/-- The number whose digits, most significant first, are given. -/
def ofDigitValues (values : List Nat) : Nat :=
  values.foldl (fun number value => 10 * number + value) 0

/-- An optional sign and what follows it. -/
def splitSign : List Char → Bool × List Char
  | '-' :: rest => (true, rest)
  | '+' :: rest => (false, rest)
  | cs => (false, cs)

def readInteger? (s : String) : Option Int := do
  let (negative, digits) := splitSign (stripped s.toList)
  let values ← digitValues digits
  guard (values.length ≤ digitLimit)
  let number : Int := ofDigitValues values
  return if negative then -number else number

def writeInteger? (number : Int) : Option String :=
  if number.natAbs < tenTo digitLimit then some (toString number) else none

end SqlBuilder.Decimal
