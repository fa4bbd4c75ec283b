/-!
# Values

A builder takes whatever its caller passes: names, numbers, lists of values, rows, expressions that
stand for themselves in the statement, groups of conditions, other queries. `Value` is that
universe. Queries and blueprints are not contained in a value but referred to, for they go on
changing after they have been passed. A double that is no number equals nothing but itself, so each
one carries a mark that tells it from the others. So does a callback: where it is not called it is a
value like any other, of which nothing can be known but which one it is.
-/

namespace SqlBuilder

/-- How an argument, a piece of the statement that is never bound, is written. -/
inductive ArgumentKind where
  | raw
  | method
  | column
  | table
deriving DecidableEq

inductive Value where
  | null
  | bool (truth : Bool)
  | int (number : Int)
  | float (number : Float)
  | undefined (mark : Nat)
  | text (characters : String)
  | bytes (octets : List UInt8)
  | list (items : List Value)
  | tuple (items : List Value)
  | set (items : List Value)
  | frozenset (items : List Value)
  | map (entries : List (Value × Value))
  | argument (kind : ArgumentKind) (value : Value) (parameters : List Value)
  | fragment (attributes : List (Value × Value))
  | group (fragments : List Value)
  | query (id : Nat)
  | queryBlueprint (id : Nat)
  | blueprint (id : Nat)
  | callback (mark : Nat)
deriving Inhabited

/-- Key and value pairs in the order in which the keys first came. -/
abbrev Entries := List (Value × Value)

namespace Value

/-- Text that is inlined as it is. -/
def raw (value : Value) : Value :=
  argument .raw value []

/-- A call of a function on identifiers. -/
def method (name : String) (parameters : List Value) : Value :=
  argument .method (text name) parameters

/-- A reference to a column by its dotted path. -/
def column (path : String) : Value :=
  argument .column (text path) []

/-- A reference to a table by its dotted path. -/
def table (path : String) : Value :=
  argument .table (text path) []

def isArgument : Value → Bool
  | argument .. => true
  | _ => false

/-- The symbol for all columns. -/
def isWildcard : Value → Bool
  | text s => s == "*"
  | _ => false

/-- Whether a value counts as present: zero, the empty text and empty collections do not. -/
def truthy : Value → Bool
  | null => false
  | bool truth => truth
  | int number => number != 0
  | float number => number != 0.0
  | text characters => !characters.isEmpty
  | bytes octets => !octets.isEmpty
  | list items | tuple items | set items | frozenset items => !items.isEmpty
  | map entries => !entries.isEmpty
  | group fragments => !fragments.isEmpty
  | undefined _ | argument .. | fragment _ => true
  | query _ | queryBlueprint _ | blueprint _ | callback _ => true

mutual

/-- Whether a value can be a key: values that can still change cannot. -/
def hashable : Value → Bool
  | tuple items | frozenset items => allHashable items
  | list _ | set _ | map _ | fragment _ => false
  | argument _ value parameters => value.hashable && allHashable parameters
  | group fragments => allHashable fragments
  | null | bool _ | int _ | float _ | undefined _ | text _ | bytes _ => true
  | query _ | queryBlueprint _ | blueprint _ | callback _ => true

def allHashable : List Value → Bool
  | [] => true
  | value :: rest => value.hashable && allHashable rest

end

end Value

end SqlBuilder
