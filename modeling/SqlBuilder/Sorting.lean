import SqlBuilder.Sorting.Merge

/-!
# Sorting

Values are sorted by finding the runs that they already form and merging them. A run that is too
short to be worth a merge is lengthened by inserting the values behind it one by one. Neighbouring
runs are merged in the order of the nodes of a balanced tree over the whole list. The comparison may
fail, and then the sorting does. Where it is no total order the result still holds the same values,
and which order they end in follows from the comparisons that are made.
-/

namespace SqlBuilder.Sorting

variable {α ε : Type}

/-- Puts a value into a run, behind the values that do not come after it. -/
def insert (before : α → α → Except ε Bool) (run : List α) (value : α) : Except ε (List α) := do
  let place ← halve .front
    (Merging.holdsAt run fun other => do return !(← before value other))
    run.length 0 run.length
  return run.take place ++ value :: run.drop place

/-- The values a list begins with, as far as each comes before the one in front of it or, in the
other direction, as far as none does: a run, given backwards, and what is left behind it. -/
def splitRun (before : α → α → Except ε Bool) (descending : Bool) :
    List α → List α → Except ε (List α × List α)
  | last :: run, value :: rest => do
      if (← before value last) == descending then
        splitRun before descending (value :: last :: run) rest
      else return (last :: run, value :: rest)
  | run, rest => .ok (run, rest)

/-- The run that a list begins with, turned into ascending order. -/
def naturalRun (before : α → α → Except ε Bool) : List α → Except ε (List α × List α)
  | first :: second :: rest => do
      let descending ← before second first
      let (run, rest) ← splitRun before descending [second, first] rest
      return (if descending then run else run.reverse, rest)
  | values => .ok (values, [])

/-- A run of at least the given length, if there are as many values, and what is left behind it. -/
def nextRun (before : α → α → Except ε Bool) (least : Nat) (values : List α) :
    Except ε (List α × List α) := do
  let (run, rest) ← naturalRun before values
  let missing := least - run.length
  return (← (rest.take missing).foldlM (insert before) run, rest.drop missing)

/-- Half of a number again and again until it is below 64, rounded up. -/
def leastRun (length : Nat) : Nat :=
  halved length 0 length
where
  halved : Nat → Nat → Nat → Nat
    | 0, odd, length => length + odd
    | fuel + 1, odd, length =>
        if 64 ≤ length then halved fuel (max odd (length % 2)) (length / 2) else length + odd

/-- The first binary digit behind the point in which two fractions of the whole differ. -/
def differingDigit (whole : Nat) : Nat → Nat → Nat → Nat
  | 0, _, _ => 0
  | fuel + 1, low, high =>
      if whole ≤ low then differingDigit whole fuel (2 * (low - whole)) (2 * (high - whole)) + 1
      else if whole ≤ high then 1
      else differingDigit whole fuel (2 * low) (2 * high) + 1

/-- A run in its place, and how deep in the tree the boundary behind it lies. -/
structure Run (α : Type) where
  start : Nat
  values : List α
  depth : Nat

namespace Run

/-- How deep the boundary between a run and the one behind it lies, in a list of the given length:
the deeper, the closer the midpoints of the two runs are. -/
def boundary (run : Run α) (following length : Nat) : Nat :=
  let low := 2 * run.start + run.values.length
  differingDigit length (length + 1) low (low + run.values.length + following)

def merge (before : α → α → Except ε Bool) (patience : Nat) (first second : Run α) :
    Except ε (Run α × Nat) := do
  let (values, patience) ← mergeRuns before patience first.values second.values
  return ({ first with values }, patience)

end Run

/-- Merges a run into those before it as far as their boundaries lie deeper than the given one. -/
def settle (before : α → α → Except ε Bool) (depth : Nat) :
    Nat → Run α → List (Run α) → Except ε (List (Run α) × Nat)
  | patience, run, previous :: others =>
      if depth < previous.depth then do
        let (merged, patience) ← Run.merge before patience previous run
        settle before depth patience merged others
      else .ok ({ run with depth } :: previous :: others, patience)
  | patience, run, [] => .ok ([{ run with depth }], patience)

/-- Merges all runs, the last of which is given first: two at the end, or the two before the last
one if that is the longer neighbour. -/
def collapse (before : α → α → Except ε Bool) :
    Nat → Nat → List (Run α) → Except ε (List α)
  | fuel + 1, patience, last :: second :: third :: others => do
      if third.values.length < last.values.length then
        let (merged, patience) ← Run.merge before patience third second
        collapse before fuel patience (last :: merged :: others)
      else
        let (merged, patience) ← Run.merge before patience second last
        collapse before fuel patience (merged :: third :: others)
  | _, patience, [last, first] => do
      return (← Run.merge before patience first last).1.values
  | _, _, runs => .ok (runs.reverse.flatMap Run.values)

/-- Finds the runs of what is left of a list, behind those found before, and merges them all. -/
def sortFrom (before : α → α → Except ε Bool) (length : Nat) :
    Nat → Nat → List (Run α) → Nat → List α → Except ε (List α)
  | fuel + 1, patience, runs, start, first :: rest => do
      let (values, rest) ← nextRun before (leastRun length) (first :: rest)
      let run : Run α := ⟨start, values, 0⟩
      let next := start + values.length
      match runs with
      | [] => sortFrom before length fuel patience [run] next rest
      | previous :: others => do
          let depth := previous.boundary values.length length
          let (settled, patience) ← settle before depth patience previous others
          sortFrom before length fuel patience (run :: settled) next rest
  | _, patience, runs, _, rest => do
      return (← collapse before runs.length patience runs) ++ rest

/-- The values of a list in order. -/
def sort (before : α → α → Except ε Bool) (values : List α) : Except ε (List α) :=
  sortFrom before values.length values.length worthwhile [] 0 values

/-- Numbers in their order, but zero is not ordered among them. -/
private def belowUnlessZero (a b : Nat) : Except Unit Bool :=
  .ok (a != 0 && b != 0 && a < b)

example : sort belowUnlessZero [3, 1, 4, 1, 5, 9, 2, 6] = .ok [1, 1, 2, 3, 4, 5, 6, 9] := by rfl

example : sort belowUnlessZero [4, 0, 1, 3, 2] = .ok [4, 0, 1, 2, 3] := by rfl

end SqlBuilder.Sorting
