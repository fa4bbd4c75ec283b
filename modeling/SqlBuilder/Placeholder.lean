import SqlBuilder.Value.Sequence

/-!
# Placeholders

Statements are compiled with a question mark for each parameter. A driver may want them in another
style, and then both the text and the parameters change. A question mark between quotes is not a
placeholder; a quote of any of the three kinds ends at the next one of its kind. In the two styles
whose drivers read the text as a template every percent sign is doubled, between quotes too.
-/

namespace SqlBuilder

inductive Paramstyle where
  | question
  | format
  | extendedFormat
  | numeric
  | named
deriving DecidableEq

namespace Paramstyle

def all : List Paramstyle :=
  [question, format, extendedFormat, numeric, named]

def name : Paramstyle → String
  | question => "qmark"
  | format => "format"
  | extendedFormat => "pyformat"
  | numeric => "numeric"
  | named => "named"

def ofName? (name : String) : Option Paramstyle :=
  all.find? (·.name == name)

def ofValue? : Value → Option Paramstyle
  | .text name => ofName? name
  | _ => none

/-- Whether the driver reads the text as a template in which a percent sign stands for a
parameter. -/
def isTemplate : Paramstyle → Bool
  | format | extendedFormat => true
  | _ => false

/-- The placeholder of the parameter at a position, counted from one. -/
def placeholder (style : Paramstyle) (position : Nat) : List Char :=
  match style with
  | question => ['?']
  | format | extendedFormat => ['%', 's']
  | numeric => ':' :: Nat.toDigits 10 position
  | named => ':' :: 'p' :: Nat.toDigits 10 position

/-- A character that is no placeholder. -/
def plain (style : Paramstyle) (c : Char) : List Char :=
  if c == '%' && style.isTemplate then ['%', '%'] else [c]

end Paramstyle

namespace Placeholder

def isQuote (c : Char) : Bool :=
  c == '\x27' || c == '\x22' || c == '\x60'

/-- The rest of a text, inside the given quote if any, when `position` placeholders stand before
it. -/
def restyle (style : Paramstyle) : Option Char → Nat → List Char → List Char
  | _, _, [] => []
  | some quote, position, c :: rest =>
      style.plain c ++ restyle style (if c == quote then none else some quote) position rest
  | none, position, c :: rest =>
      if isQuote c then c :: restyle style (some c) position rest
      else if c == '?' then
        style.placeholder (position + 1) ++ restyle style none (position + 1) rest
      else style.plain c ++ restyle style none position rest

/-- A statement in the style of a driver. -/
def adapt (style : Paramstyle) (sql : String) : String :=
  match style with
  | .question => sql
  | style => String.ofList (restyle style none 0 sql.toList)

/-- A statement in a style given by its name. -/
def adaptNamed (style : Value) (sql : String) : Except Error String :=
  match Paramstyle.ofValue? style with
  | some style => .ok (adapt style sql)
  | none => .error (Error.unsupportedParamstyle style).worded

/-- Parameters under the names of their positions. -/
def numbered : Nat → List Value → Entries
  | _, [] => []
  | position, value :: rest =>
      (.text ("p" ++ toString position), value) :: numbered (position + 1) rest

/-- Parameters in the shape that a style wants: by name for the named style, in order for all
others. -/
def adaptParameters (style parameters : Value) : Except Error Value := do
  let items ← parameters.items
  if Paramstyle.ofValue? style = some .named then return .map (numbered 1 items)
  else return .tuple items

end Placeholder

end SqlBuilder
