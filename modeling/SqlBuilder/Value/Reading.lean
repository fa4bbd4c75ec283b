import SqlBuilder.Decimal.Integer
import SqlBuilder.Identifier
import SqlBuilder.Value.Sequence

/-!
# Reading values as numbers and words

Limits are read as whole numbers, keywords are upper-cased and page sizes are multiplied, whatever
values they were given as. Each operation says which values it takes and how it refuses the others.
-/

namespace SqlBuilder.Value

/-- Octets as text, if all of them are ASCII. -/
def asciiText? (octets : List UInt8) : Option String :=
  if octets.all (·.toNat < 0x80) then
    some (String.ofList (octets.map fun octet => Char.ofNat octet.toNat))
  else none

/-- A value as a whole number: doubles lose their fraction and text is read. -/
def toInteger : Value → Except Error Int
  | bool truth => .ok (if truth then 1 else 0)
  | int number => .ok number
  | float x =>
      match Decimal.Double.ofFloat x with
      | .finite number => .ok number.truncate
      | .infinite _ => .error .tooLarge
      | .undefined => .error .badValue
  | undefined _ => .error .badValue
  | text characters =>
      match Decimal.readInteger? characters with
      | some number => .ok number
      | none => .error .badValue
  | bytes octets =>
      match asciiText? octets >>= Decimal.readInteger? with
      | some number => .ok number
      | none => .error .badValue
  | _ => .error .wrongKind

/-- A keyword in capitals. -/
def capitals : Value → Except Error Value
  | text characters => .ok (text (Text.upper characters))
  | bytes octets =>
      .ok (bytes (octets.map fun octet =>
        if 0x61 ≤ octet.toNat && octet.toNat ≤ 0x7a then octet - 0x20 else octet))
  | fragment _ => .error .wrongKind
  | _ => .error .noAttribute

/-- Whether a number is below one. -/
def belowOne (value : Value) : Except Error Bool :=
  match value.number? with
  | some number => .ok (number.below (.whole 1))
  | none => .error .wrongKind

/-- A number, or one if that is larger. -/
def atLeastOne (value : Value) : Except Error Number :=
  match value.number? with
  | some number => .ok (if number.below (.whole 1) then .whole 1 else number)
  | none => .error .wrongKind

/-- Counts and lengths lie below this bound. -/
def lengthBound : Nat := Decimal.twoTo 63

/-- No sequence of this length fits into memory. -/
def memoryBound : Nat := Decimal.twoTo 32

/-- How often a sequence of the given length is repeated: as often as it is asked for, but not at
all if there is nothing to repeat. A result that would be too long is refused, and each kind of
sequence has its own failure for that. -/
def repetitions (excess : Error) (length : Nat) (count : Int) : Except Error Nat :=
  let count := count.toNat
  if lengthBound ≤ count then .error .tooLarge
  else if lengthBound ≤ length * count then .error excess
  else if memoryBound ≤ length * count then .error .outOfMemory
  else .ok (if length = 0 then 0 else count)

def repeatedItems {α : Type} (items : List α) (count : Nat) : List α :=
  (List.replicate count items).flatten

/-- A number times another, or a sequence repeated. -/
def times (value : Value) (count : Number) : Except Error Value :=
  match value.number? with
  | some number => do return (← number.times count).toValue
  | none =>
      match count, value with
      | .whole count, text characters => do
          let count ← repetitions .tooLarge characters.length count
          return text (String.join (List.replicate count characters))
      | .whole count, bytes octets => do
          return bytes (repeatedItems octets (← repetitions .tooLarge octets.length count))
      | .whole count, list items => do
          return list (repeatedItems items (← repetitions .outOfMemory items.length count))
      | .whole count, tuple items => do
          return tuple (repeatedItems items (← repetitions .outOfMemory items.length count))
      | _, _ => .error .wrongKind

/-- The last segment of a dotted path. -/
def lastSegment : Value → Except Error Value
  | text path => .ok (text (Identifier.lastSegment path))
  | bytes _ | fragment _ => .error .wrongKind
  | _ => .error .noAttribute

end SqlBuilder.Value
