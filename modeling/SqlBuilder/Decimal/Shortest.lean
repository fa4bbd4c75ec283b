import SqlBuilder.Decimal.Binary

/-!
# The shortest decimal of a double

A double is written with the fewest digits that read back as the same double, and among those with
the ones nearest to it. The reals that read back form an interval around the double, whose ends
belong to it when the significand is even. On the grid of decimals with a given number of digits the
only candidates are the double's two neighbours, so trying the digit counts in turn finds the
answer; seventeen digits always suffice.
-/

namespace SqlBuilder.Decimal

/-- The number `digits · 10 ^ exponent`. -/
structure Numeral where
  digits : Nat
  exponent : Int
deriving DecidableEq

/-- How many digits a whole number is written with. -/
def digitCount (n : Nat) : Nat :=
  (Nat.toDigits 10 n).length

/-- Whether `10 ^ e ≤ num / den`. -/
def reaches (e : Int) (num den : Nat) : Bool :=
  tenTo e.toNat * den ≤ num * tenTo (-e).toNat

/-- The exponent of the leading digit of a positive fraction. -/
def leadingExponent (num den : Nat) : Int :=
  let guess : Int := digitCount num - digitCount den
  if reaches guess num den then guess else guess - 1

/-- Four times the significand and its distances to the ends of the interval that reads back. -/
def Binary.quarters (b : Binary) : Nat × Nat × Nat :=
  let below := if b.significand == twoTo 52 && b.exponent != -1074 then 1 else 2
  (4 * b.significand, below, 2)

/-- Whether a decimal reads back as the double: it lies in the interval, compared in exact
quarters. -/
def Binary.readsBack (b : Binary) (d : Numeral) : Bool :=
  let (centre, below, above) := b.quarters
  let scale := b.exponent - 2
  let decimal := d.digits * tenTo d.exponent.toNat * twoTo (-scale).toNat
  let unit := tenTo (-d.exponent).toNat * twoTo scale.toNat
  let low := (centre - below) * unit
  let high := (centre + above) * unit
  if b.significand % 2 == 0 then low ≤ decimal && decimal ≤ high
  else low < decimal && decimal < high

/-- The candidate with `count` digits: of the two neighbours the nearer one that reads back, and the
even one when both are as near. -/
def Binary.candidate (b : Binary) (count : Nat) : Option Numeral :=
  let exponent := leadingExponent b.magnitude b.denominator - (count - 1 : Nat)
  let num := b.magnitude * tenTo (-exponent).toNat
  let den := b.denominator * tenTo exponent.toNat
  let lower : Numeral := ⟨num / den, exponent⟩
  let upper : Numeral := ⟨num / den + 1, exponent⟩
  let rest := 2 * (num % den)
  match b.readsBack lower, b.readsBack upper with
  | false, false => none
  | true, false => some lower
  | false, true => some upper
  | true, true =>
      if rest < den then some lower
      else if den < rest then some upper
      else if lower.digits % 2 == 0 then some lower else some upper

/-- The digits of a decimal without trailing zeros. -/
def Numeral.significant (d : Numeral) : List Char :=
  ((Nat.toDigits 10 d.digits).reverse.dropWhile (· == '0')).reverse

/-- The exponent of the leading digit. -/
def Numeral.leading (d : Numeral) : Int :=
  d.exponent + (digitCount d.digits - 1 : Nat)

/-- The shortest decimal of a positive double. -/
def Binary.shortest (b : Binary) : Numeral :=
  ((List.range 17).findSome? fun n => b.candidate (n + 1)).getD ⟨b.significand, b.exponent⟩

/-- How a number's digits become text: positionally while the exponent of the leading digit lies
between the two bounds, and with an exponent of at least two digits otherwise. -/
structure NumberFormat where
  lowest : Int
  highest : Int

/-- Numbers in messages and in statements are positional from a ten-thousandth up to sixteen
digits. -/
def NumberFormat.standard : NumberFormat := ⟨-4, 15⟩

def zeros (n : Nat) : List Char :=
  List.replicate n '0'

/-- Digits whose first one has the exponent `leading`, written with a point. -/
def positional (digits : List Char) (leading : Int) : List Char :=
  if leading < 0 then '0' :: '.' :: zeros (-leading - 1).toNat ++ digits
  else
    let whole := leading.toNat + 1
    let fraction := digits.drop whole
    digits.take whole ++ zeros (whole - digits.length) ++
      '.' :: (if fraction.isEmpty then ['0'] else fraction)

def scientific (digits : List Char) (leading : Int) : List Char :=
  let sign := if leading < 0 then '-' else '+'
  let exponent := Nat.toDigits 10 leading.natAbs
  let mantissa :=
    match digits with
    | [] => []
    | [digit] => [digit]
    | digit :: fraction => digit :: '.' :: fraction
  mantissa ++ 'e' :: sign :: zeros (2 - exponent.length) ++ exponent

def NumberFormat.write (format : NumberFormat) (digits : List Char) (leading : Int) : List Char :=
  if format.lowest ≤ leading && leading ≤ format.highest then positional digits leading
  else scientific digits leading

def Binary.text (b : Binary) : String :=
  let body :=
    if b.significand == 0 then ['0', '.', '0']
    else
      let shortest := b.shortest
      NumberFormat.standard.write shortest.significant shortest.leading
  String.ofList (if b.negative then '-' :: body else body)

def Double.text : Double → String
  | .finite number => number.text
  | .infinite negative => if negative then "-inf" else "inf"
  | .undefined => "nan"

end SqlBuilder.Decimal
