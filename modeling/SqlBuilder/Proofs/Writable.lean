import SqlBuilder.Argument
import SqlBuilder.Proofs.Outcome

/-!
# What can be written

The only thing that keeps a value from being shown is a whole number in it with too many digits, so
whether it can be shown does not depend on what the queries and blueprints that it mentions look
like. A failure whose wording shows such a value turns into that of writing it; texts never do.
-/

namespace SqlBuilder

open Outcome

/-- A whole number that has more digits than can be written. -/
def Decimal.isTooLong (number : Int) : Bool :=
  tenTo digitLimit ≤ number.natAbs

theorem Decimal.isSome_writeInteger? (number : Int) :
    (writeInteger? number).isSome = !isTooLong number := by
  rw [writeInteger?, isTooLong]
  by_cases hshort : number.natAbs < tenTo digitLimit
  · rw [if_pos hshort, decide_eq_false (Nat.not_le.2 hshort)]
    rfl
  · rw [if_neg hshort, decide_eq_true (Nat.not_lt.1 hshort)]
    rfl

namespace Value

mutual

/-- The whole numbers that are written where a value is shown. -/
def numbers : Value → List Int
  | int number => [number]
  | list items | tuple items | set items | frozenset items | group items => itemNumbers items
  | map entries | fragment entries => entryNumbers entries
  | argument _ value parameters => value.numbers ++ itemNumbers parameters
  | _ => []

def itemNumbers : List Value → List Int
  | [] => []
  | value :: rest => value.numbers ++ itemNumbers rest

def entryNumbers : Entries → List Int
  | [] => []
  | (key, value) :: rest => key.numbers ++ value.numbers ++ entryNumbers rest

end

theorem isSome_bind {α β : Type} {first : Option α} {next : α → Option β} {answer : Bool}
    (h : ∀ a, (next a).isSome = answer) : (first >>= next).isSome = (first.isSome && answer) := by
  cases first with
  | none => rfl
  | some a => exact h a

theorem isSome_bind_pure {α β : Type} {first : Option α} {f : α → β} :
    (first >>= fun a => pure (f a)).isSome = first.isSome := by
  cases first with
  | none => rfl
  | some a => rfl

/-- No number has too many digits. -/
def areShort (numbers : List Int) : Bool :=
  numbers.all fun number => !Decimal.isTooLong number

theorem areShort_append (front back : List Int) :
    areShort (front ++ back) = (areShort front && areShort back) := by
  rw [areShort, List.all_append]
  rfl

mutual

/-- A value is shown unless a number in it is too long. -/
theorem isSome_quoted? (references : References) : ∀ value : Value,
    (value.quoted? references).isSome = areShort value.numbers
  | .null | .bool _ | .float _ | .undefined _ | .text _ | .bytes _ | .query _ | .queryBlueprint _
  | .blueprint _ | .callback _ | .set [] | .frozenset [] => rfl
  | .int number => by
      rw [quoted?, numbers, areShort, List.all_cons, List.all_nil, Bool.and_true,
        ← Decimal.isSome_writeInteger?]
  | .list items | .tuple items | .group items => by
      rw [quoted?, numbers, isSome_bind_pure, isSome_quotedItems? references items]
  | .set (first :: rest) | .frozenset (first :: rest) => by
      rw [quoted?, numbers, isSome_bind_pure,
        isSome_quotedItems? references (first :: rest)]
      exact List.cons_ne_nil first rest
  | .map entries | .fragment entries => by
      rw [quoted?, numbers, isSome_bind_pure, isSome_quotedEntries? references entries]
  | .argument kind value parameters => by
      rw [quoted?, numbers, areShort_append, ← isSome_quoted? references value,
        ← isSome_quotedItems? references parameters]
      exact isSome_bind fun _ => isSome_bind_pure

theorem isSome_quotedItems? (references : References) : ∀ items : List Value,
    (quotedItems? references items).isSome = areShort (itemNumbers items)
  | [] => rfl
  | value :: rest => by
      rw [quotedItems?, itemNumbers, areShort_append, ← isSome_quoted? references value,
        ← isSome_quotedItems? references rest]
      exact isSome_bind fun _ => isSome_bind_pure

theorem isSome_quotedEntries? (references : References) : ∀ entries : Entries,
    (quotedEntries? references entries).isSome = areShort (entryNumbers entries)
  | [] => rfl
  | (key, value) :: rest => by
      rw [quotedEntries?, entryNumbers, areShort_append, areShort_append, Bool.and_assoc,
        ← isSome_quoted? references key, ← isSome_quoted? references value,
        ← isSome_quotedEntries? references rest]
      exact isSome_bind fun _ => isSome_bind fun _ => isSome_bind_pure

end

end Value

namespace Error

theorem worded_of_writable {cause : Error} (h : ∀ value ∈ cause.shown, value.isWritable = true) :
    cause.worded = cause := by
  rw [worded, if_pos (List.all_eq_true.2 h)]

theorem worded_of_shown {cause : Error} {value : Value} (h : cause.shown = [value]) :
    cause.worded = if value.isWritable then cause else .badValue := by
  rw [worded, h, List.all_cons, List.all_nil, Bool.and_true]

end Error

end SqlBuilder
