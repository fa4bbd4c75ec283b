import SqlBuilder.Decimal.Integer
import SqlBuilder.Decimal.Shortest
import SqlBuilder.Text.Quoted
import SqlBuilder.Value

/-!
# Values as dumps show them

A dump and a message show a value so that its kind can be told: text stands between quotes, and each
kind of collection has brackets of its own. A tuple of one item keeps a comma, and an empty set is
spelled out because empty braces are a map. What a reference to a query or a blueprint shows depends
on what that has become, so the texts of all of them are given from outside. A value that holds a
whole number with too many digits cannot be shown.
-/

namespace SqlBuilder

/-- The texts that queries and blueprints have in dumps and messages. -/
structure References where
  query : Nat → String
  queryBlueprint : Nat → String
  blueprint : Nat → String

/-- What a truth value and the absent value are called. -/
def truthName (truth : Bool) : String :=
  if truth then "True" else "False"

def nullName : String := "None"

/-- What a double that is no number is called. -/
def undefinedName : String :=
  Decimal.Double.undefined.text

/-- What a callback is called. -/
def callbackName : String := "<function>"

def floatText (x : Float) : String :=
  (Decimal.Double.ofFloat x).text

/-- Items separated by commas. -/
def commaSeparated (items : List String) : String :=
  String.intercalate ", " items

def tupleText : List String → String
  | [item] => "(" ++ item ++ ",)"
  | items => "(" ++ commaSeparated items ++ ")"

def braced (body : String) : String :=
  "\x7b" ++ body ++ "\x7d"

def ArgumentKind.quoted : ArgumentKind → String
  | .raw => "<ArgumentKind.RAW: 'raw'>"
  | .method => "<ArgumentKind.METHOD: 'method'>"
  | .column => "<ArgumentKind.COLUMN: 'column'>"
  | .table => "<ArgumentKind.TABLE: 'table'>"

namespace Value

mutual

/-- The text of a value, unless a number in it is too long to be written. -/
def quoted? (references : References) : Value → Option String
  | null => some nullName
  | bool truth => some (truthName truth)
  | int number => Decimal.writeInteger? number
  | float number => some (floatText number)
  | undefined _ => some undefinedName
  | text characters => some (Text.quoted characters)
  | bytes octets => some (Text.quotedOctets octets)
  | list items => do return "[" ++ commaSeparated (← quotedItems? references items) ++ "]"
  | tuple items => do return tupleText (← quotedItems? references items)
  | set [] => some "set()"
  | set items => do return braced (commaSeparated (← quotedItems? references items))
  | frozenset [] => some "frozenset()"
  | frozenset items => do
      return "frozenset(" ++ braced (commaSeparated (← quotedItems? references items)) ++ ")"
  | map entries => do return braced (commaSeparated (← quotedEntries? references entries))
  | argument kind value parameters => do
      let shown ← value.quoted? references
      let others ← quotedItems? references parameters
      return "Argument(kind=" ++ kind.quoted ++ ", value=" ++ shown ++ ", parameters=" ++
        tupleText others ++ ")"
  | fragment attributes => do
      return "Fragment(" ++ braced (commaSeparated (← quotedEntries? references attributes)) ++ ")"
  | group fragments => do
      return "PredicateGroup(fragments=" ++ tupleText (← quotedItems? references fragments) ++ ")"
  | query id => some (references.query id)
  | queryBlueprint id => some (references.queryBlueprint id)
  | blueprint id => some (references.blueprint id)
  | callback _ => some callbackName

def quotedItems? (references : References) : List Value → Option (List String)
  | [] => some []
  | value :: rest => do
      let first ← value.quoted? references
      let others ← quotedItems? references rest
      return first :: others

def quotedEntries? (references : References) : Entries → Option (List String)
  | [] => some []
  | (key, value) :: rest => do
      let name ← key.quoted? references
      let content ← value.quoted? references
      let others ← quotedEntries? references rest
      return (name ++ ": " ++ content) :: others

end

/-- The text of a list, for messages that name several things. -/
def quotedList? (references : References) (items : List Value) : Option String :=
  (list items).quoted? references

/-- Whether a value can be shown, which is so whatever queries and blueprints look like. -/
def isWritable (value : Value) : Bool :=
  (value.quoted? ⟨fun _ => "", fun _ => "", fun _ => ""⟩).isSome

end Value

end SqlBuilder
