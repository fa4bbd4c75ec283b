import SqlBuilder.Value.Sequence

/-!
# Records

A fetched row is handed over as a row, whose columns can be read as attributes, or as an instance of
a model that is made from it and keeps the query it came from. A mapper says which, and whether only
the first row is wanted.
-/

namespace SqlBuilder

/-- What a model makes of a row: an instance that shows nothing, one that shows the columns as
attributes, or a failure. -/
inductive Model where
  | closed
  | exposed
  | failing
deriving DecidableEq

inductive Record where
  | row (entries : Entries)
  | built (model : Model) (owner : Option Nat) (entries : Entries)

namespace Record

/-- What can be read under a name: a row without such a column and a model without such an attribute
have nothing there. -/
def read : Record → String → Value
  | row entries, name => entries.read name
  | built .exposed _ entries, name => entries.read name
  | built _ _ _, _ => .null

/-- Reading a column of a row that is not there fails. -/
def field (entries : Entries) (name : String) : Except Error Value :=
  match Entries.find? entries (.text name) with
  | some value => .ok value
  | none => .error (.noField name)

end Record

/-- What a fetch answers. -/
inductive Fetched where
  | one (record : Option Record)
  | many (records : List Record)

structure Mapper where
  single : Bool
  model : Option Model
  owner : Option Nat

namespace Mapper

def modelFailure : String := "model failed"

/-- One fetched row, which has to be a map or a sequence of pairs. -/
def mapRow (mapper : Mapper) (row : Value) : Except Error Record := do
  let entries ← row.toEntries
  match mapper.model with
  | none => return .row entries
  | some .failing => throw (.driver modelFailure)
  | some model => return .built model mapper.owner entries

/-- The rows of a fetch. Where only the first is wanted the others are not looked at. -/
def map (mapper : Mapper) (rows : List Value) : Except Error Fetched :=
  if mapper.single then
    match rows with
    | [] => .ok (.one none)
    | first :: _ => do return .one (some (← mapper.mapRow first))
  else do return .many (← rows.mapM mapper.mapRow)

end Mapper

end SqlBuilder
