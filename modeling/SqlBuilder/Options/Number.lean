import SqlBuilder.Decimal.Integer
import SqlBuilder.Error

/-!
# Numbers in options

A number in an option may be given as a whole number, a truth value, a double without a fraction or
text. Text is read more freely than a limit is: zeros may stand in front, even in front of the sign,
and behind a point, and underscores between the digits, but the digits are those of ASCII alone.
What cannot be read and what is too large to be read are refused for different reasons.
-/

namespace SqlBuilder.Options

/-- A digit of ASCII other than zero. -/
def isLeadingDigit (c : Char) : Bool :=
  c.isDigit && c != '0'

/-- What is left of a number behind zeros and underscores, the last of which is given. It stays
where nothing else follows and in front of a point. -/
def behindZeros (last : Char) : List Char → Option (List Char)
  | [] => some [last]
  | c :: rest =>
      if c == '.' then some (last :: c :: rest)
      else if c == '0' || c == '_' then behindZeros c rest
      else if isLeadingDigit c || c == '-' then some (c :: rest)
      else none

/-- A number without the zeros in front of it. -/
def withoutLeadingZeros : List Char → Option (List Char)
  | [] => none
  | c :: rest =>
      if c == '0' then behindZeros c rest
      else if isLeadingDigit c then some (c :: rest)
      else none

/-- Drops a point that is followed by zeros and nothing else. -/
def dropZeroFraction (cs : List Char) : List Char :=
  match cs.getLast?, cs.reverse.dropWhile (· == '0') with
  | some '0', '.' :: whole => whole.reverse
  | _, _ => cs

/-- Whether an underscore is followed by another one. -/
def hasDoubledUnderscore : List Char → Bool
  | '_' :: '_' :: _ => true
  | _ :: rest => hasDoubledUnderscore rest
  | [] => false

/-- Drops underscores that stand alone between other characters. -/
def dropUnderscores (cs : List Char) : List Char :=
  if cs.head? == some '_' || cs.getLast? == some '_' || hasDoubledUnderscore cs then cs
  else cs.filter (· != '_')

/-- Digits as a number, in which a zero stands in front of no other digit. -/
def readDigits (negative : Bool) (cs : List Char) : Except Problem Int :=
  let digits := cs.takeWhile Char.isDigit
  if digits.head? == some '0' && 1 < digits.length then .error .unreadable
  else if Decimal.digitLimit < digits.length then .error .outsized
  else if digits.isEmpty || digits.length < cs.length then .error .unreadable
  else
    let number : Int := Nat.ofDigitChars 10 digits 0
    .ok (if negative then -number else number)

def readText (characters : String) : Except Problem Int :=
  let (negative, unsigned) := Decimal.splitSign (Text.stripped characters.toList)
  match (withoutLeadingZeros unsigned).map (dropUnderscores ∘ dropZeroFraction) with
  | none => .error .unreadable
  | some ('-' :: cs) => if negative then .error .unreadable else readDigits true cs
  | some cs => readDigits negative cs

/-- A double without a fraction, within the range of machine words. -/
def readDouble (x : Float) : Except Problem Int :=
  match Decimal.Double.ofFloat x with
  | .finite number =>
      if !number.isWhole then .error .fraction
      else if number.truncate.natAbs < Decimal.twoTo 63 then .ok number.truncate
      else .error .outsized
  | _ => .error .notFinite

def octetText? (octets : List UInt8) : Option String :=
  String.fromUTF8? ⟨octets.toArray⟩

def readWhole : Value → Except Problem Int
  | .int number => .ok number
  | .bool truth => .ok (if truth then 1 else 0)
  | .float x => readDouble x
  | .undefined _ => .error .notFinite
  | .text characters => readText characters
  | .bytes octets =>
      match octetText? octets with
      | some characters => readText characters
      | none => .error .unreadable
  | _ => .error .notWhole

def readPositive (value : Value) : Except Problem Int := do
  let number ← readWhole value
  if number < 1 then throw .tooSmall else return number

end SqlBuilder.Options
