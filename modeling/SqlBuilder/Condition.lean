import SqlBuilder.Argument
import SqlBuilder.Fragment

/-!
# Conditions

The fragments of a WHERE or HAVING clause, and those a join is made on, form a tree: a comparison,
or a group of further conditions in parentheses. Each condition carries the keyword that joins it to
the one before it. At every level the first condition loses its keyword, and a group without
conditions leaves nothing behind. Something else in the place of a condition has no column and no
keyword, and all that can be read of it is the value that an argument stands for.
-/

namespace SqlBuilder

inductive Condition where
  | comparison (keyword column operator value : Value)
  | group (keyword : Value) (members : List Condition)
  | malformed (value : Value)

namespace Condition

mutual

/-- The conditions of the members of a group. -/
def ofMembers : List Value → List Condition
  | [] => []
  | .fragment attributes :: rest =>
      (match members? attributes with
       | some members => group (Entries.read attributes "boolean") members
       | none =>
           comparison (Entries.read attributes "boolean") (Entries.read attributes "column")
             (Entries.read attributes "operator") (Entries.read attributes "value")) ::
        ofMembers rest
  | .argument _ value _ :: rest => malformed value :: ofMembers rest
  | _ :: rest => malformed .null :: ofMembers rest

/-- The members of the group that stands in the place of a column, if one does. -/
def members? : Entries → Option (List Condition)
  | [] => none
  | (key, value) :: rest =>
      if key.same (.text "column") then
        match value with
        | .group fragments => some (ofMembers fragments)
        | _ => none
      else members? rest

end

def ofFragments (fragments : List Fragment) : List Condition :=
  ofMembers (fragments.map Fragment.toValue)

/-- A text without the keyword it begins with and one blank behind that. -/
def dropKeyword (cs : List Char) : List Char :=
  let dropBlank : List Char → List Char
    | [] => []
    | c :: rest => if Text.isBlank c then rest else c :: rest
  match cs with
  | 'A' :: 'N' :: 'D' :: rest => dropBlank rest
  | 'O' :: 'R' :: rest => dropBlank rest
  | _ => cs

/-- The first condition of a level never carries its keyword. -/
def dropLeading : Tokens → Tokens
  | .literal characters :: rest => .literal (String.ofList (dropKeyword characters.toList)) :: rest
  | tokens => tokens

/-- A value on the right of a comparison: an argument is inlined, the items of a list are bound one
by one, and anything else is bound as a whole. -/
def boundTokens (scope : Scope) (clause : Clause) (value : Value) : Except Error Tokens :=
  match value with
  | .argument .. => value.tokens scope
  | .list items | .tuple items | .set items | .frozenset items =>
      if items.isEmpty then .error (.emptyList clause)
      else
        .ok (.literal "(" :: Tokens.joined ", " (items.map fun item => [.slot item]) ++
          [.literal ")"])
  | _ => .ok [.slot value]

mutual

/-- The pieces of a level, each with its keyword. -/
def pieces (scope : Scope) (clause : Clause) : List Condition → Except Error (List Tokens)
  | [] => .ok []
  | condition :: rest => do
      let piece ← condition.piece? scope clause
      let others ← pieces scope clause rest
      return piece.toList ++ others

def piece? (scope : Scope) (clause : Clause) : Condition → Except Error (Option Tokens)
  | comparison keyword column operator value => do
      let bound ← boundTokens scope clause value
      let keyword ← keyword.toText scope
      let column ← column.identifier scope
      let operator ← operator.toText scope
      return some (.literal (keyword ++ " ") :: column ++
        .literal (" " ++ operator ++ " ") :: bound)
  | group _ [] => .ok none
  | group keyword members => do
      let inner ← pieces scope clause members
      let keyword ← keyword.toText scope
      return some (.literal (keyword ++ " (") ::
        dropLeading (Tokens.joined " " inner) ++ [.literal ")"])
  | malformed value => do
      discard (boundTokens scope clause value)
      throw .noAttribute

end

/-- The conditions of one level. -/
def levelTokens (scope : Scope) (clause : Clause) (conditions : List Condition) :
    Except Error Tokens := do
  return dropLeading (Tokens.joined " " (← pieces scope clause conditions))

end Condition

end SqlBuilder
