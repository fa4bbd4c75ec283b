/-!
# Doubles read from decimals

A decimal with an optional sign, point and exponent denotes the double that is nearest to it.
-/

namespace SqlBuilder.Decimal

def digitsValue (cs : List Char) : Nat :=
  Nat.ofDigitChars 10 cs 0

def exponentValue : List Char → Int
  | '-' :: digits => -(digitsValue digits : Int)
  | '+' :: digits => digitsValue digits
  | digits => digitsValue digits

def readUnsigned (cs : List Char) : Float :=
  if cs == "inf".toList then 1.0 / 0.0
  else if cs == "nan".toList then 0.0 / 0.0
  else
    let mantissa := cs.takeWhile (· != 'e')
    let whole := mantissa.takeWhile (· != '.')
    let fraction := (mantissa.dropWhile (· != '.')).drop 1
    let exponent := exponentValue ((cs.dropWhile (· != 'e')).drop 1) - fraction.length
    Float.ofScientific (digitsValue (whole ++ fraction)) (exponent < 0) exponent.natAbs

def readFloat (characters : String) : Float :=
  match characters.toList with
  | '-' :: cs => -readUnsigned cs
  | cs => readUnsigned cs

end SqlBuilder.Decimal
