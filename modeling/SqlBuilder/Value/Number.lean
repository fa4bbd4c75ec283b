import SqlBuilder.Error
import SqlBuilder.Decimal.Binary

/-!
# Numbers among the values

Whole numbers, doubles and truth values compare and compute with one another: a truth value counts
as zero or one, and a whole number is compared with a double exactly, whatever their sizes. To be
multiplied by a double a whole number has to become one, which the largest cannot.
-/

namespace SqlBuilder

inductive Number where
  | whole (i : Int)
  | double (x : Float)

namespace Number

/-- A number as a value; all results that are no numbers share one mark. -/
def toValue : Number → Value
  | whole i => .int i
  | double x => if x.isNaN then .undefined 0 else .float x

def toFloat : Number → Float
  | whole i => Float.ofInt i
  | double x => x

/-- Whether a double is a given whole number. -/
def doubleEquals (x : Float) (i : Int) : Bool :=
  match Decimal.Double.ofFloat x with
  | .finite number => number.equals i
  | _ => false

/-- Whether a double is below a given whole number. -/
def doubleBelow (x : Float) (i : Int) : Bool :=
  match Decimal.Double.ofFloat x with
  | .finite number => number.below i
  | .infinite negative => negative
  | .undefined => false

/-- Whether a double is above a given whole number. -/
def doubleAbove (x : Float) (i : Int) : Bool :=
  match Decimal.Double.ofFloat x with
  | .finite number => !number.below i && !number.equals i
  | .infinite negative => !negative
  | .undefined => false

def equals : Number → Number → Bool
  | whole i, whole j => i == j
  | double x, double y => x == y
  | whole i, double x | double x, whole i => doubleEquals x i

def below : Number → Number → Bool
  | whole i, whole j => i < j
  | double x, double y => x < y
  | double x, whole i => doubleBelow x i
  | whole i, double x => doubleAbove x i

def minus : Number → Number → Number
  | whole i, whole j => whole (i - j)
  | a, b => double (a.toFloat - b.toFloat)

/-- The double nearest to a number, if there is one within the range of doubles. -/
def toDouble : Number → Except Error Float
  | whole i => if (Float.ofInt i).isFinite then .ok (Float.ofInt i) else .error .tooLarge
  | double x => .ok x

def times : Number → Number → Except Error Number
  | whole i, whole j => .ok (whole (i * j))
  | a, b => do return double ((← a.toDouble) * (← b.toDouble))

end Number

/-- The number that a value counts as. -/
def Value.number? : Value → Option Number
  | .bool truth => some (.whole (if truth then 1 else 0))
  | .int i => some (.whole i)
  | .float x => some (.double x)
  | .undefined _ => some (.double (0.0 / 0.0))
  | _ => none

end SqlBuilder
