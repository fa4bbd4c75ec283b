import SqlBuilder.Log
import SqlBuilder.Record

/-!
# Connections

A query hands its statements to a connection. Any type can be one: it tells its dialect and the name
of its type, runs a statement and remembers the last key that an insert generated. Running a
statement answers the outcome, what was sent to the driver on the way, the events to log and the
connection as it is afterwards, whether the run failed or not.
-/

namespace SqlBuilder

/-- What goes to the driver. -/
inductive Sent where
  | statement (sql : String) (parameters : Value)
  | begun
  | committed
  | rolledBack

/-- What running a statement answers: a count of rows, or the rows that a mapper was given for. -/
inductive Outcome where
  | count (rows : Value)
  | fetched (rows : Fetched)

structure Run (κ : Type) where
  outcome : Except Error Outcome
  sent : List Sent
  events : List Log.Event
  connection : κ

class Connection (κ : Type) where
  typeName : κ → String
  /-- The dialect that is read when a query is made. -/
  dialect : κ → Value
  run : κ → String → Value → Option Mapper → Run κ
  lastInsertId : κ → Except Error Value

end SqlBuilder
