import SqlBuilder.Session

/-!
# Filling a query

The steps that describe a statement. A step on conditions or on a join may take a callback in the
place of a column: it fills a nested query, whose conditions become a group, and of the nested query
nothing else is used. The arguments of a step are settled before the query changes.
-/

namespace SqlBuilder.Session

variable {κ σ : Type}

def table (id : Nat) (table aliasName : Value) : Action κ σ Unit :=
  change id (·.setTable table aliasName)

def fromTable (id : Nat) (table aliasName : Value) : Action κ σ Unit :=
  change id (·.addTable table aliasName)

def column (id : Nat) (column aliasName : Value) : Action κ σ Unit :=
  change id (·.addColumn column aliasName)

/-- The group of the conditions that a callback adds to a nested query. -/
def capture (id : Nat) (clause : Clause) (fill : Nat → Action κ σ Unit) : Action κ σ Value := do
  let nested ← addQuery (← query id).nested
  fill nested
  let filled ← query nested
  return .group ((filled.blueprint.fragments clause).map Fragment.toValue)

/-- The value in an operand's place: a callback stands for the group it fills. -/
def settle (id : Nat) (clause : Clause) (reference : Value → Value) :
    Operand κ σ → Action κ σ Value
  | .value value => return reference value
  | .callback _ fill => capture id clause fill

def join (id : Nat) (table : Value) (first : Operand κ σ) (second operator kind : Value) :
    Action κ σ Unit := do
  let first ← settle id .where Value.asTable first
  attempt id (·.addJoin table first second operator kind)

def leftJoin (id : Nat) (table : Value) (first : Operand κ σ) (second operator : Value) :
    Action κ σ Unit :=
  join id table first second operator (.text "LEFT")

def rightJoin (id : Nat) (table : Value) (first : Operand κ σ) (second operator : Value) :
    Action κ σ Unit :=
  join id table first second operator (.text "RIGHT")

/-- A condition in a clause. -/
def condition (clause : Clause) (id : Nat) (column : Operand κ σ)
    (value operator keyword : Value) : Action κ σ Unit := do
  let column ← settle id clause Value.asColumn column
  attempt id (·.addCondition clause column value operator keyword)

def filter (id : Nat) (column : Operand κ σ) (value operator keyword : Value) :
    Action κ σ Unit :=
  condition .where id column value operator keyword

def orFilter (id : Nat) (column : Operand κ σ) (value operator : Value) : Action κ σ Unit :=
  filter id column value operator (.text "OR")

/-- A condition that compares two columns. -/
def filterColumn (id : Nat) (first : Operand κ σ) (second operator keyword : Value) :
    Action κ σ Unit :=
  filter id first second.asColumn operator keyword

def filterIn (id : Nat) (column : Operand κ σ) (values keyword : Value) : Action κ σ Unit := do
  let items ← values.items
  filter id column (.list items) (.text "IN") keyword

def filterNotIn (id : Nat) (column : Operand κ σ) (values keyword : Value) :
    Action κ σ Unit := do
  let items ← values.items
  filter id column (.list items) (.text "NOT IN") keyword

def filterNull (id : Nat) (column : Operand κ σ) (keyword : Value) : Action κ σ Unit :=
  filter id column (.raw (.text "NULL")) (.text "IS") keyword

def filterNotNull (id : Nat) (column : Operand κ σ) (keyword : Value) : Action κ σ Unit :=
  filter id column (.raw (.text "NULL")) (.text "IS NOT") keyword

def having (id : Nat) (column : Operand κ σ) (value operator keyword : Value) :
    Action κ σ Unit :=
  condition .having id column value operator keyword

def havingColumn (id : Nat) (first : Operand κ σ) (second operator keyword : Value) :
    Action κ σ Unit :=
  having id first second.asColumn operator keyword

def group (id : Nat) (column : Value) : Action κ σ Unit :=
  change id (·.addGroup column)

def order (id : Nat) (column sort : Value) : Action κ σ Unit :=
  attempt id (·.addOrder column sort)

def limit (id : Nat) (limit offset : Value) : Action κ σ Unit :=
  change id (·.setLimit limit offset)

def page (id : Nat) (page size : Value) : Action κ σ Unit :=
  attempt id (·.setPage page size)

def union (id : Nat) (other : Value) : Action κ σ Unit :=
  change id (·.addUnion other)

def setModel (id : Nat) (model : Option Model) : Action κ σ Unit :=
  change id fun query => { query with model }

/-- The statement and its parameters on a line each. -/
def dump (id : Nat) : Action κ σ String := do
  let compiled ← build id
  let parameters ← (Value.list compiled.parameters).shown (← get).store.references
  return compiled.sql ++ "\n" ++ parameters ++ "\n"

end SqlBuilder.Session
