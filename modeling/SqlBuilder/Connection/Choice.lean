import SqlBuilder.Connection.Engine
import SqlBuilder.Connection.Recording

/-!
# Connections of several kinds

A session may hold connections of different kinds at once: connections to an engine, recording ones,
and bare objects that have no dialect and cannot run anything.
-/

namespace SqlBuilder

inductive AnyConnection where
  | bare
  | recording (connection : RecordingConnection)
  | engine (connection : EngineConnection)

namespace AnyConnection

/-- The same run with its connection wrapped. -/
def wrap {κ : Type} (make : κ → AnyConnection) (run : Run κ) : Run AnyConnection :=
  ⟨run.outcome, run.sent, run.events, make run.connection⟩

instance : Connection AnyConnection where
  typeName
    | bare => "BareConnection"
    | recording connection => Connection.typeName connection
    | engine connection => Connection.typeName connection
  dialect
    | bare => .null
    | recording connection => Connection.dialect connection
    | engine connection => Connection.dialect connection
  run
    | bare, _, _, _ => ⟨.error .noAttribute, [], [], bare⟩
    | recording connection, sql, parameters, mapper =>
        wrap recording (Connection.run connection sql parameters mapper)
    | engine connection, sql, parameters, mapper =>
        wrap engine (Connection.run connection sql parameters mapper)
  lastInsertId
    | bare => .error .noAttribute
    | recording connection => Connection.lastInsertId connection
    | engine connection => Connection.lastInsertId connection

end AnyConnection

end SqlBuilder
