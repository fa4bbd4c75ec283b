import SqlBuilder.Sorting
import SqlBuilder.Value.Entries

/-!
# Values as sequences

Several places take any sequence of values. A list, a tuple and a set give their items, a text its
characters, octets their numbers, and a map and a fragment their keys; nothing else is a sequence.
-/

namespace SqlBuilder.Value

def items : Value → Except Error (List Value)
  | list items | tuple items | set items | frozenset items => .ok items
  | text characters => .ok (characters.toList.map fun c => text c.toString)
  | bytes octets => .ok (octets.map fun octet => int octet.toNat)
  | map entries | fragment entries => .ok (Entries.keys entries)
  | _ => .error .wrongKind

/-- The pair that a sequence of two values is. -/
def pair (value : Value) : Except Error (Value × Value) := do
  match ← value.items with
  | [key, content] => if key.hashable then return (key, content) else throw .wrongKind
  | _ => throw .badValue

/-- Pairs collected one by one, so that the first one that is none decides the failure. -/
def pairs : List Value → Except Error (List (Value × Value))
  | [] => .ok []
  | value :: rest => do
      let first ← value.pair
      let others ← pairs rest
      return first :: others

/-- Entries from a map or from a sequence of pairs. -/
def toEntries : Value → Except Error Entries
  | map entries => .ok entries
  | fragment _ => .error .wrongKind
  | value => do
      let pairs ← pairs (← value.items)
      return Entries.update [] pairs

/-- What stands under a key: an entry of a map or fragment, an item of a sequence. -/
def subscript (value key : Value) : Except Error Value :=
  match value with
  | map entries | fragment entries =>
      if key.hashable then
        match Entries.find? entries key with
        | some content => .ok content
        | none => .error .missingKey
      else .error .wrongKind
  | list _ | tuple _ | text _ | bytes _ =>
      match key with
      | int _ | bool _ => do
          let items ← value.items
          let place : Int := match key.number? with
            | some (.whole i) => if i < 0 then i + items.length else i
            | _ => 0
          if place < 0 then throw .outOfRange
          else match items[place.toNat]? with
            | some item => return item
            | none => throw .outOfRange
      | _ => .error .wrongKind
  | _ => .error .wrongKind

/-- Whether one value comes before another, which two values of different kinds never do. -/
def comesBefore (value other : Value) : Except Error Bool :=
  match below? value other with
  | some answer => .ok answer
  | none => .error .wrongKind

/-- The values in order; values that are not ordered among themselves cannot be sorted. -/
def sorted (values : List Value) : Except Error (List Value) :=
  Sorting.sort comesBefore values

/-- Whether two lists hold the same values, however often and in whatever order. -/
def sameMembers (as bs : List Value) : Bool :=
  as.all (fun a => bs.any a.same) && bs.all (fun b => as.any b.same)

end SqlBuilder.Value
