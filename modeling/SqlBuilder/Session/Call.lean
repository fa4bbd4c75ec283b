import SqlBuilder.Session.Reads
import SqlBuilder.Session.Writes

/-!
# Calls

The steps on a query as data: what is called, and with which arguments. A program is then a list of
calls, and running a call does what its step does. Most steps answer the query itself, so that the
next one can be called on the answer; the others answer what they have read or the key that they
have generated.
-/

namespace SqlBuilder

inductive Call (κ σ : Type) where
  | table (table aliasName : Value)
  | fromTable (table aliasName : Value)
  | column (column aliasName : Value)
  | join (table : Value) (first : Operand κ σ) (second operator kind : Value)
  | leftJoin (table : Value) (first : Operand κ σ) (second operator : Value)
  | rightJoin (table : Value) (first : Operand κ σ) (second operator : Value)
  | filter (column : Operand κ σ) (value operator keyword : Value)
  | orFilter (column : Operand κ σ) (value operator : Value)
  | filterColumn (first : Operand κ σ) (second operator keyword : Value)
  | filterIn (column : Operand κ σ) (values keyword : Value)
  | filterNotIn (column : Operand κ σ) (values keyword : Value)
  | filterNull (column : Operand κ σ) (keyword : Value)
  | filterNotNull (column : Operand κ σ) (keyword : Value)
  | having (column : Operand κ σ) (value operator keyword : Value)
  | havingColumn (first : Operand κ σ) (second operator keyword : Value)
  | group (column : Value)
  | order (column sort : Value)
  | limit (limit offset : Value)
  | page (page size : Value)
  | union (other : Value)
  | select (single : Value)
  | rows
  | first
  | count (column : Value)
  | sum (column : Value)
  | minimum (column : Value)
  | maximum (column : Value)
  | average (column : Value)
  | insert (data : Value)
  | upsert (data update index : Value)
  | update (data : Value)
  | delete
  | truncate

/-- What a call answers: the query it was made on, a value, or rows. -/
inductive Answer where
  | itself
  | value (value : Value)
  | fetched (rows : Fetched)

namespace Call

variable {κ σ : Type} [Connection κ]

/-- A step that answers the query it was called on. -/
def fluent (step : Action κ σ Unit) : Action κ σ Answer := do
  step
  return .itself

def valued (step : Action κ σ Value) : Action κ σ Answer := do
  return .value (← step)

def run (id : Nat) : Call κ σ → Action κ σ Answer
  | table name aliasName => fluent (Session.table id name aliasName)
  | fromTable name aliasName => fluent (Session.fromTable id name aliasName)
  | column name aliasName => fluent (Session.column id name aliasName)
  | join name left right operator kind => fluent (Session.join id name left right operator kind)
  | leftJoin name left right operator => fluent (Session.leftJoin id name left right operator)
  | rightJoin name left right operator => fluent (Session.rightJoin id name left right operator)
  | filter operand value operator keyword =>
      fluent (Session.filter id operand value operator keyword)
  | orFilter operand value operator => fluent (Session.orFilter id operand value operator)
  | filterColumn left right operator keyword =>
      fluent (Session.filterColumn id left right operator keyword)
  | filterIn operand values keyword => fluent (Session.filterIn id operand values keyword)
  | filterNotIn operand values keyword => fluent (Session.filterNotIn id operand values keyword)
  | filterNull operand keyword => fluent (Session.filterNull id operand keyword)
  | filterNotNull operand keyword => fluent (Session.filterNotNull id operand keyword)
  | having operand value operator keyword =>
      fluent (Session.having id operand value operator keyword)
  | havingColumn left right operator keyword =>
      fluent (Session.havingColumn id left right operator keyword)
  | group name => fluent (Session.group id name)
  | order name sort => fluent (Session.order id name sort)
  | limit number offset => fluent (Session.limit id number offset)
  | page number size => fluent (Session.page id number size)
  | union other => fluent (Session.union id other)
  | select single => do return .fetched (← Session.select id single)
  | rows => do return .fetched (.many (← Session.rows id))
  | first => do return .fetched (.one (← Session.first id))
  | count name => valued do return .int (← Session.count id name)
  | sum name => valued (Session.sum id name)
  | minimum name => valued (Session.minimum id name)
  | maximum name => valued (Session.maximum id name)
  | average name => valued (Session.average id name)
  | insert data => valued (Session.insert id data)
  | upsert data changes index => fluent (Session.upsert id data changes index)
  | update data => fluent (Session.update id data)
  | delete => fluent (Session.delete id)
  | truncate => fluent (Session.truncate id)

end Call

end SqlBuilder
