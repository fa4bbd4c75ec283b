/-!
# Doubles as exact numbers

A finite double is a signed whole number times a power of two. Decoding it once gives exact
arithmetic for everything that is decided about doubles: which whole number they truncate to, how
they compare with whole numbers and which decimal is the shortest to read back.
-/

namespace SqlBuilder.Decimal

def twoTo (n : Nat) : Nat :=
  Nat.pow 2 n

def tenTo (n : Nat) : Nat :=
  Nat.pow 10 n

/-- The number `significand · 2 ^ exponent`, with a sign that zero keeps too. -/
structure Binary where
  negative : Bool
  significand : Nat
  exponent : Int
deriving DecidableEq

/-- What a double denotes. -/
inductive Double where
  | finite (number : Binary)
  | infinite (negative : Bool)
  | undefined

def Double.ofFloat (x : Float) : Double :=
  let bits := x.toBits.toNat
  let negative := bits / twoTo 63 % 2 == 1
  let field : Nat := bits / twoTo 52 % twoTo 11
  let fraction := bits % twoTo 52
  if field == 0x7ff then
    if fraction == 0 then .infinite negative else .undefined
  else if field == 0 then .finite ⟨negative, fraction, -1074⟩
  else .finite ⟨negative, fraction + twoTo 52, (field : Int) - 1075⟩

namespace Binary

/-- The denominator of the number as a fraction: one unless the exponent is negative. -/
def denominator (b : Binary) : Nat :=
  twoTo (-b.exponent).toNat

/-- The numerator over `denominator`, without its sign. -/
def magnitude (b : Binary) : Nat :=
  b.significand * twoTo b.exponent.toNat

def numerator (b : Binary) : Int :=
  if b.negative then -(b.magnitude : Int) else b.magnitude

/-- The whole number next to it towards zero. -/
def truncate (b : Binary) : Int :=
  Int.tdiv b.numerator b.denominator

def isWhole (b : Binary) : Bool :=
  b.magnitude % b.denominator == 0

/-- Whether it is below a whole number. -/
def below (b : Binary) (i : Int) : Bool :=
  b.numerator < i * b.denominator

/-- Whether it is a given whole number. -/
def equals (b : Binary) (i : Int) : Bool :=
  b.numerator == i * b.denominator

end Binary

end SqlBuilder.Decimal
