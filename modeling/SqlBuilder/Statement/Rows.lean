import SqlBuilder.Blueprint
import SqlBuilder.Argument
import SqlBuilder.Value.Sequence

/-!
# Rows and assignments

An INSERT lists the columns of its first row and one tuple of values per row; every row must have
the columns of the first, in whatever order. Assignments name a column and a value each. A value is
bound whole unless it is an argument. What happens to a row that is already there is where the
dialects differ.
-/

namespace SqlBuilder

/-- The SQL dialects. -/
inductive Dialect where
  | mysql
  | sqlite
deriving DecidableEq

namespace Statement

/-- The rows of an insert: a map is one row and a sequence is a batch. -/
def rowsOf : Value → Except Error (List Value)
  | .null => .ok []
  | .map entries => .ok [.map entries]
  | value => value.items

/-- An argument is inlined and any other value is bound. -/
def assigned (scope : Scope) (value : Value) : Except Error Tokens :=
  if value.isArgument then value.tokens scope else .ok [.slot value]

/-- The columns of a row as a set, which they form only if none of them can change. -/
def columnSet (row : Value) : Except Error (List Value) := do
  let columns ← row.items
  if Value.allHashable columns then return columns else throw .wrongKind

/-- The values of one row under the columns of the first. -/
def rowTokens (scope : Scope) (columns : List Value) (number : Nat) (row : Value) :
    Except Error Tokens := do
  let own ← columnSet row
  let expected ← columnSet (.list columns)
  if Value.sameMembers own expected then
    let values ← columns.mapM fun column => do assigned scope (← row.subscript column)
    return .literal "(" :: Tokens.joined ", " values ++ [.literal ")"]
  else
    let refused := Error.unevenRow number (← Value.sorted own) (← Value.sorted columns)
    throw refused.worded

/-- The rows from the given number on. -/
def batchTokens (scope : Scope) (columns : List Value) :
    Nat → List Value → Except Error (List Tokens)
  | _, [] => .ok []
  | number, row :: rest => do
      let first ← rowTokens scope columns number row
      let others ← batchTokens scope columns (number + 1) rest
      return first :: others

def valuesTokens (scope : Scope) (rows : List Value) : Except Error Tokens := do
  match rows with
  | [] => throw .missingValues
  | first :: _ =>
      if first.truthy then
        let columns ← first.items
        let tuples ← batchTokens scope columns 1 rows
        let names ← columns.mapM (Value.identifier scope)
        return .literal "(" :: Tokens.joined ", " names ++
          .literal ") VALUES " :: Tokens.joined ", " tuples
      else throw .missingValues

/-- The entries of the assignments, which must be a map. -/
def assignmentEntries : Value → Except Error Entries
  | .map entries => .ok entries
  | .fragment _ => .error .wrongKind
  | _ => .error .noAttribute

def assignment (scope : Scope) (entry : Value × Value) : Except Error Tokens := do
  let column ← entry.1.identifier scope
  let value ← assigned scope entry.2
  return column ++ .literal " = " :: value

def assignments (scope : Scope) (entries : Entries) : Except Error Tokens := do
  return Tokens.joined ", " (← entries.mapM (assignment scope))

/-- The name under which the row that could not be inserted is known. -/
def rowAlias : String := "row"

/-- The tail for MySQL. The incoming row needs a name when an argument may refer to it. -/
def duplicateTail (scope : Scope) (fragment : Fragment) : Except Error Tokens := do
  let update := fragment.read "update"
  if update.truthy then
    let entries ← assignmentEntries update
    let tail := Token.literal "ON DUPLICATE KEY UPDATE " :: (← assignments scope entries)
    if entries.values.any Value.isArgument then
      return .literal "AS " :: .name rowAlias :: .literal " " :: tail
    else return tail
  else return []

/-- The tail for SQLite, which needs the columns whose collision is meant. -/
def conflictTail (scope : Scope) (fragment : Fragment) : Except Error Tokens := do
  let index := fragment.read "index"
  let target ← if index.truthy then index.items else pure []
  if target.isEmpty then throw .missingConflictTarget
  let names ← target.mapM (Value.identifier scope)
  let head := Token.literal "ON CONFLICT (" :: Tokens.joined ", " names
  let update := fragment.read "update"
  if update.truthy then
    let entries ← assignmentEntries update
    return head ++ .literal ") DO UPDATE SET " :: (← assignments scope entries)
  else return head ++ [.literal ") DO NOTHING"]

def upsertTail (scope : Scope) (dialect : Dialect) (fragment : Fragment) : Except Error Tokens :=
  match dialect with
  | .mysql => duplicateTail scope fragment
  | .sqlite => conflictTail scope fragment

/-- The columns and values of an insert, and its tail if rows that are already there are updated. -/
def inserts (scope : Scope) (dialect : Dialect) (keyword : String) (upsert : Bool)
    (blueprint : Blueprint) : Except Error Tokens := do
  match blueprint.first? .insert with
  | none => throw .missingValues
  | some fragment =>
      let body ← valuesTokens scope (← rowsOf (fragment.read "insert"))
      if upsert then
        let tail ← upsertTail scope dialect fragment
        return Tokens.headed keyword (Tokens.spaced [body, tail])
      else return Tokens.headed keyword body

def updates (scope : Scope) (keyword : String) (blueprint : Blueprint) :
    Except Error Tokens := do
  match blueprint.first? .update with
  | none => throw .missingAssignments
  | some fragment =>
      let update := fragment.read "update"
      if update.truthy then
        let entries ← assignmentEntries update
        return Tokens.headed keyword (← assignments scope entries)
      else throw .missingAssignments

end Statement

end SqlBuilder
