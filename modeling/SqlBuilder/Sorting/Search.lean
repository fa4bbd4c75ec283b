/-!
# Searching by halving and by galloping

Where a value belongs in a run is found by asking of places in the run whether the value belongs
behind them. Halving asks about the middle of what is left. Galloping suits a value that belongs
near the front: it asks about places that lie farther and farther apart and halves only the last
gap. In a run that is in order both find the one place there is; in a run that is not, what is found
hangs on which places were asked about, so these are part of what a search is.
-/

namespace SqlBuilder.Sorting

variable {ε : Type}

/-- The end of a run from which its places are counted. -/
inductive End where
  | front
  | back
deriving DecidableEq

/-- Of two middle places, the one that is asked about: the later one of the run itself. -/
def End.middle (side : End) (low high : Nat) : Nat :=
  match side with
  | .front => low + (high - low) / 2
  | .back => low + (high - low - 1) / 2

/-- The place between two bounds, found by halving at most `fuel` times. -/
def halve (side : End) (behind : Nat → Except ε Bool) : Nat → Nat → Nat → Except ε Nat
  | 0, low, _ => .ok low
  | fuel + 1, low, high =>
      if low < high then do
        let middle := side.middle low high
        if ← behind middle then halve side behind fuel (middle + 1) high
        else halve side behind fuel low middle
      else .ok low

/-- The gap that holds the place, behind a place that the value belongs behind: each step goes twice
as far and one place more than the last one, but not past the end. -/
def gap (behind : Nat → Except ε Bool) (length : Nat) : Nat → Nat → Nat → Except ε (Nat × Nat)
  | 0, last, _ => .ok (last, length)
  | fuel + 1, last, next =>
      if next < length then do
        if ← behind next then gap behind length fuel next (2 * next + 1)
        else return (last, next)
      else .ok (last, length)

/-- How many values a value belongs behind, in a run of the given length. -/
def gallop (side : End) (behind : Nat → Except ε Bool) (length : Nat) : Except ε Nat := do
  if ← behind 0 then
    let (last, bound) ← gap behind length length 0 1
    halve side behind length (last + 1) bound
  else return 0

end SqlBuilder.Sorting
