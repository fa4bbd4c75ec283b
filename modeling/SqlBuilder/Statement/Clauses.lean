import SqlBuilder.Blueprint
import SqlBuilder.Condition
import SqlBuilder.Value.Reading

/-!
# Clauses that every statement shares

Each clause is compiled to tokens on its own, behind a keyword that the statement chooses. A clause
whose fragments leave nothing in the text leaves no keyword either. What a clause mentions is looked
up in a scope, fragment by fragment, so the first mention that stands for nothing decides how the
clause fails.
-/

namespace SqlBuilder.Statement

/-- Pieces in a list, behind a keyword. -/
def listed (keyword : String) (pieces : List Tokens) : Tokens :=
  Tokens.headed keyword (Tokens.joined ", " pieces)

/-- The fragments of a clause, each compiled to a piece of a list. -/
def listing (piece : Fragment → Except Error Tokens) (keyword : String) (clause : Clause)
    (blueprint : Blueprint) : Except Error Tokens := do
  return listed keyword (← (blueprint.fragments clause).mapM piece)

def columns (scope : Scope) (keyword : String) (blueprint : Blueprint) : Except Error Tokens :=
  listing (fun fragment => (fragment.read "column").aliased scope (fragment.read "alias"))
    keyword .columns blueprint

def tables (scope : Scope) (keyword : String) (blueprint : Blueprint) : Except Error Tokens :=
  listing (fun fragment => (fragment.read "table").aliased scope (fragment.read "alias"))
    keyword .tables blueprint

/-- What a join is made on: conditions without parentheses around them, or two columns. -/
def joinCondition (scope : Scope) (fragment : Fragment) : Except Error Tokens :=
  match fragment.read "first" with
  | .group members => Condition.levelTokens scope .join (Condition.ofMembers members)
  | first => do
      let first ← first.identifier scope
      let operator ← (fragment.read "operator").toText scope
      let second ← (fragment.read "second").identifier scope
      return first ++ .literal (" " ++ operator ++ " ") :: second

def joinPiece (scope : Scope) (fragment : Fragment) : Except Error Tokens := do
  let table ← (fragment.read "table").identifier scope
  let condition ← joinCondition scope fragment
  let type ← (fragment.read "type").toText scope
  return .literal (Text.upper type ++ " JOIN ") :: table ++ .literal " ON " :: condition

def joins (scope : Scope) (keyword : String) (blueprint : Blueprint) : Except Error Tokens := do
  let pieces ← (blueprint.fragments .join).mapM (joinPiece scope)
  return Tokens.headed keyword (Tokens.joined " " pieces)

def conditions (scope : Scope) (keyword : String) (clause : Clause) (blueprint : Blueprint) :
    Except Error Tokens := do
  let level ←
    Condition.levelTokens scope clause (Condition.ofFragments (blueprint.fragments clause))
  return Tokens.headed keyword level

def groups (scope : Scope) (keyword : String) (blueprint : Blueprint) : Except Error Tokens :=
  listing (fun fragment => (fragment.read "column").identifier scope) keyword .group blueprint

def orderPiece (scope : Scope) (fragment : Fragment) : Except Error Tokens := do
  let column ← (fragment.read "column").identifier scope
  let sort ← (fragment.read "sort").toText scope
  return column ++ [.literal (" " ++ Text.upper sort)]

def orders (scope : Scope) (keyword : String) (blueprint : Blueprint) : Except Error Tokens :=
  listing (orderPiece scope) keyword .order blueprint

/-- A number of a window, which is refused if it is too long to be written. -/
def windowNumber (value : Value) : Except Error String := do
  match Decimal.writeInteger? (← value.toInteger) with
  | some digits => return digits
  | none => throw .badValue

/-- A window: an offset, if one is given, and a number of rows. -/
def window (fragment : Fragment) : Except Error String := do
  match fragment.read "offset" with
  | .null => windowNumber (fragment.read "limit")
  | offset =>
      let start ← windowNumber offset
      let count ← windowNumber (fragment.read "limit")
      return start ++ ", " ++ count

def limits (keyword : String) (blueprint : Blueprint) : Except Error Tokens := do
  match blueprint.first? .limit with
  | none => return []
  | some fragment => return Tokens.headed keyword [.literal (← window fragment)]

/-- The members of a union behind one keyword. -/
def unions (keyword : String) (members : List Tokens) : Tokens :=
  listed keyword members

end SqlBuilder.Statement
