import SqlBuilder.Sorting.Search

/-!
# Merging two runs

Two neighbouring runs are merged by taking the next value now from one and now from the other; of
two values that are not ordered the one of the first run comes first. When one run has won often
enough in a row the merge stops comparing value by value and gallops. How much that takes is the
merge's patience, which grows when galloping does not pay and shrinks as long as it does, and which
the next merge takes over. The shorter run is the one that is held back: its last value is known to
stand at the very end. If that is the second run, both are merged from the back.
-/

namespace SqlBuilder.Sorting

variable {α ε : Type}

/-- A merge under way: the values that have their places, the last of them first, and what is left
of either run. -/
structure Merging (α : Type) where
  placed : List α
  held : List α
  passing : List α
  patience : Nat

/-- What a merge does next: compare two values, where each run has won so often in a row, or gallop
for the first or the second time in a round. -/
inductive Pace where
  | comparing (held passing : Nat)
  | halfway (far : Nat)
  | rounded (far : Nat)

/-- How far a round must have galloped for another one to follow. -/
def worthwhile : Nat := 7

/-- From where two runs are merged, and when a value comes before another from there. -/
structure Direction (α ε : Type) where
  side : End
  before : α → α → Except ε Bool

namespace Merging

/-- What stands behind the placed values, once the rest of the merge is settled. -/
def ending? (merging : Merging α) : Option (List α) :=
  match merging.held, merging.passing with
  | [], rest => some rest
  | [last], rest => some (rest ++ [last])
  | rest, [] => some rest
  | _, _ => none

/-- The values in their places, whatever the order of those that are left. -/
def values (merging : Merging α) : List α :=
  merging.placed.reverse ++ merging.ending?.getD (merging.held ++ merging.passing)

/-- Whether the answer to a question about a value is yes, for a place of a run. -/
def holdsAt (run : List α) (question : α → Except ε Bool) (place : Nat) : Except ε Bool :=
  match run[place]? with
  | some value => question value
  | none => .ok false

/-- The held run goes ahead as far as it may, and then the next value of the passing run follows. -/
def advanceHeld (direction : Direction α ε) (merging : Merging α) :
    Except ε (Nat × Merging α) :=
  match merging.passing with
  | [] => .ok (0, merging)
  | next :: passing => do
      let stays := holdsAt merging.held fun value => do return !(← direction.before next value)
      let far ← gallop direction.side stays merging.held.length
      return (far, { merging with
        placed := next :: ((merging.held.take far).reverse ++ merging.placed)
        held := merging.held.drop far
        passing })

/-- The passing run goes ahead as far as it may, and then the next value of the held run follows. -/
def advancePassing (direction : Direction α ε) (merging : Merging α) :
    Except ε (Nat × Merging α) :=
  match merging.held with
  | [] => .ok (0, merging)
  | next :: held => do
      let stays := holdsAt merging.passing fun value => direction.before value next
      let far ← gallop direction.side stays merging.passing.length
      return (far, { merging with
        placed := next :: ((merging.passing.take far).reverse ++ merging.placed)
        held
        passing := merging.passing.drop far })

/-- The first gallop of a round goes through the run that comes first. -/
def firstGallop (direction : Direction α ε) (merging : Merging α) :
    Except ε (Pace × Merging α) := do
  let (far, merging) ←
    match direction.side with
    | .front => advanceHeld direction merging
    | .back => advancePassing direction merging
  return (.halfway far, merging)

def secondGallop (direction : Direction α ε) (far : Nat) (merging : Merging α) :
    Except ε (Pace × Merging α) := do
  let (farther, merging) ←
    match direction.side with
    | .front => advancePassing direction merging
    | .back => advanceHeld direction merging
  return (.rounded (max far farther), merging)

/-- Takes the next value from one of the runs, each of which has won so often in a row. -/
def compare (direction : Direction α ε) (heldWins passingWins : Nat) (merging : Merging α) :
    Except ε (Pace × Merging α) :=
  match merging.held, merging.passing with
  | first :: held, second :: passing => do
      if ← direction.before second first then
        return (.comparing 0 (passingWins + 1),
          { merging with placed := second :: merging.placed, passing })
      else
        return (.comparing (heldWins + 1) 0,
          { merging with placed := first :: merging.placed, held })
  | _, _ => .ok (.comparing heldWins passingWins, merging)

def step (direction : Direction α ε) (pace : Pace) (merging : Merging α) :
    Except ε (Pace × Merging α) :=
  match pace with
  | .comparing heldWins passingWins =>
      if merging.patience ≤ max heldWins passingWins then firstGallop direction merging
      else compare direction heldWins passingWins merging
  | .halfway far => secondGallop direction far merging
  | .rounded far =>
      if worthwhile ≤ far then
        firstGallop direction { merging with patience := max 1 (merging.patience - 1) }
      else compare direction 0 0 { merging with patience := merging.patience + 1 }

/-- Steps until the rest is settled. A step places at least one value, so as many steps as there are
values left are enough. -/
def run (direction : Direction α ε) : Nat → Pace → Merging α → Except ε (Merging α)
  | 0, _, merging => .ok merging
  | fuel + 1, pace, merging =>
      if merging.ending?.isSome then .ok merging
      else do
        let (pace, merging) ← step direction pace merging
        run direction fuel pace merging

end Merging

/-- The merge of a held run with one whose first value comes before all of it. -/
def mergeHeld (direction : Direction α ε) (patience : Nat) (held passing : List α) :
    Except ε (Merging α) :=
  Merging.run direction (held.length + passing.length) (.comparing 0 0)
    ⟨passing.head?.toList, held, passing.tail, patience⟩

/-- The merge of two runs of which neither starts nor ends in its place, and the patience behind
it. -/
def mergeBetween (before : α → α → Except ε Bool) (patience : Nat) (first second : List α) :
    Except ε (List α × Nat) := do
  if first.length ≤ second.length then
    let merging ← mergeHeld ⟨.front, before⟩ patience first second
    return (merging.values, merging.patience)
  else
    let merging ← mergeHeld ⟨.back, fun value other => before other value⟩ patience
      second.reverse first.reverse
    return (merging.values.reverse, merging.patience)

/-- The merge of two runs, and the patience behind it. What the first run starts with and the second
one ends with may be in its place already, and only what lies between is merged. -/
def mergeRuns (before : α → α → Except ε Bool) (patience : Nat) (first second : List α) :
    Except ε (List α × Nat) :=
  match second with
  | [] => .ok (first, patience)
  | next :: _ => do
      let early ← gallop .front
        (Merging.holdsAt first fun value => do return !(← before next value)) first.length
      let left := first.drop early
      match left.getLast? with
      | none => return (first ++ second, patience)
      | some last =>
          let late ← gallop .back
            (Merging.holdsAt second.reverse fun value => do return !(← before value last))
            second.length
          let place := second.length - late
          if place = 0 then return (first ++ second, patience)
          let (merged, patience) ← mergeBetween before patience left (second.take place)
          return (first.take early ++ merged ++ second.drop place, patience)

end SqlBuilder.Sorting
