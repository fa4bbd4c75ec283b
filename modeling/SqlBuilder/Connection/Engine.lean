import SqlBuilder.Connection
import SqlBuilder.Placeholder
import SqlBuilder.Statement.Rows
import SqlBuilder.Compiler

/-!
# Connections to an engine

An engine executes statements in the parameter style of its driver. Every statement runs in a
transaction of its own, which is committed when the run succeeds and rolled back when the driver or
the mapper fails. A statement in a style that is not supported is never begun. The last insert id is
the one that the latest successful write reported, if it reported any.
-/

namespace SqlBuilder

/-- What the driver answers to one execution. -/
inductive Execution where
  | raised (message : String)
  | finished (rows : List Value) (lastRowId rowCount : Value)

structure Engine where
  name : Value
  paramstyle : Value
  respond : Nat → Execution

structure EngineConnection where
  dialect : Dialect
  engine : Engine
  executions : Nat
  lastInsertId : Value

namespace EngineConnection

/-- The dialects of the engines that are known by name. -/
def inferred? : Value → Option Dialect
  | .text "mysql" | .text "mariadb" => some .mysql
  | .text "sqlite" => some .sqlite
  | _ => none

/-- A connection to an engine, in the given dialect or else in the one that fits the engine. -/
def open? (engine : Engine) (dialect : Value) : Except Error EngineConnection := do
  let dialect ←
    match dialect with
    | .null =>
        if engine.name.hashable then
          match inferred? engine.name with
          | some dialect => pure dialect
          | none => throw (Error.dialectNotInferred engine.name).worded
        else throw .wrongKind
    | given => Dialect.read given
  return ⟨dialect, engine, 0, .null⟩

def loggerName : String := "mortar.engine"

/-- How many parameters there are. -/
def count : Value → Except Error Nat
  | .text characters => .ok characters.length
  | .bytes octets => .ok octets.length
  | .list items | .tuple items | .set items | .frozenset items | .group items => .ok items.length
  | .map entries => .ok entries.length
  | _ => .error .wrongKind

def executeEvent (sql : String) (parameters : Nat) : Log.Event where
  logger := loggerName
  level := .debug
  event := .text "engine.execute"
  fields := [(.text "sql", .text sql), (.text "parameters", .int parameters)]

/-- The outcome of an execution, and the last insert id behind it. -/
def settle (connection : EngineConnection) (mapper : Option Mapper) :
    Execution → Except Error (Outcome × Value)
  | .raised message => .error (.driver message)
  | .finished rows lastRowId rowCount =>
      match mapper with
      | some mapper => do
          let rows ← mapper.map rows
          return (.fetched rows, connection.lastInsertId)
      | none =>
          .ok (.count rowCount,
            if lastRowId.truthy then lastRowId else connection.lastInsertId)

/-- One transaction around one execution. -/
def transact (connection : EngineConnection) (sql : String) (parameters : Value)
    (mapper : Option Mapper) : Except Error Outcome × List Sent × EngineConnection :=
  match Placeholder.adaptParameters connection.engine.paramstyle parameters with
  | .error cause => (.error cause, [.begun, .rolledBack], connection)
  | .ok parameters =>
      let executed := { connection with executions := connection.executions + 1 }
      match connection.settle mapper (connection.engine.respond connection.executions) with
      | .error cause => (.error cause, [.begun, .statement sql parameters, .rolledBack], executed)
      | .ok (outcome, lastInsertId) =>
          (.ok outcome, [.begun, .statement sql parameters, .committed],
            { executed with lastInsertId })

def run (connection : EngineConnection) (sql : String) (parameters : Value)
    (mapper : Option Mapper) : Run EngineConnection :=
  match Placeholder.adaptNamed connection.engine.paramstyle sql, count parameters with
  | .error cause, _ | .ok _, .error cause => ⟨.error cause, [], [], connection⟩
  | .ok adapted, .ok number =>
      let (outcome, sent, connection) := connection.transact adapted parameters mapper
      ⟨outcome, sent, [executeEvent adapted number], connection⟩

instance : Connection EngineConnection where
  typeName _ := "EngineConnection"
  dialect connection := .text connection.dialect.name
  run := run
  lastInsertId connection := .ok connection.lastInsertId

end EngineConnection

end SqlBuilder
