import SqlBuilder.Connection
import SqlBuilder.Registry
import SqlBuilder.Store

/-!
# Sessions

A session is everything that the steps of a program share: the store of queries, the connections,
the registry of compilers, the default connection, the logging, the record of what was sent, and
whatever the program itself keeps. An action changes the session and answers or fails; what it
changed before it failed stays changed. Callbacks are actions too, so they can do whatever the
program can.
-/

namespace SqlBuilder

/-- What was sent, and on which connection. -/
structure Dispatch where
  connection : Nat
  sent : Sent

structure Session (κ σ : Type) where
  store : Store
  connections : Array κ
  registry : Registry
  defaults : Option (Nat × Options)
  logging : Log.Logging
  journal : Array Dispatch
  host : σ

abbrev Action (κ σ : Type) := ExceptT Error (StateM (Session κ σ))

/-- A place that takes a value or a callback that fills a nested query. Elsewhere a callback is the
value with its mark. -/
inductive Operand (κ σ : Type) where
  | value (value : Value)
  | callback (mark : Nat) (fill : Nat → Action κ σ Unit)

namespace Session

variable {κ σ : Type}

def start (host : σ) : Session κ σ where
  store := Store.empty
  connections := #[]
  registry := Registry.standard
  defaults := none
  logging := Log.Logging.silent
  journal := #[]
  host

def connect (connection : κ) : Action κ σ Nat := do
  let session ← get
  set { session with connections := session.connections.push connection }
  return session.connections.size

/-- The query under a number. -/
def query (id : Nat) : Action κ σ Query := do
  match (← get).store.queries[id]? with
  | some query => return query
  | none => throw .noAttribute

def put (id : Nat) (query : Query) : Action κ σ Unit :=
  modify fun session => { session with store := session.store.set id query }

/-- Changes a query by a step that always succeeds. -/
def change (id : Nat) (step : Query → Query) : Action κ σ Unit := do
  put id (step (← query id))

/-- Changes a query by a step that may be refused. -/
def attempt (id : Nat) (step : Query → Except Error Query) : Action κ σ Unit := do
  put id (← step (← query id))

def addQuery (query : Query) : Action κ σ Nat := do
  let session ← get
  let (id, store) := session.store.add query
  set { session with store }
  return id

def addBlueprint (blueprint : Blueprint) : Action κ σ Nat := do
  let session ← get
  let (id, store) := session.store.addDetached blueprint
  set { session with store }
  return id

def log (event : Log.Event) : Action κ σ Unit :=
  modify fun session => { session with logging := session.logging.emit event }

/-- Logs an event that comes from outside. -/
def report (event : Log.Event) : Action κ σ Unit := do
  let session ← get
  let logging ← session.logging.report event
  set { session with logging }

def loggerName : String := "mortar.query.query"

def logEvent (level : Log.Level) (event : String) (fields : List (String × Value)) :
    Action κ σ Unit :=
  log ⟨loggerName, level, .text event, fields.map fun field => (.text field.1, field.2)⟩

/-- A copy of a query that changes independently of it. -/
def clone (id : Nat) : Action κ σ Nat := do
  addQuery (← query id)

def build (id : Nat) : Action κ σ Compiled := do
  let query ← query id
  (← get).store.build query

section Connections

variable [Connection κ]

def connection (id : Nat) : Action κ σ κ := do
  match (← get).connections[id]? with
  | some connection => return connection
  | none => throw .noAttribute

/-- What a connection tells about itself when a query is made on it; no connection has no
dialect. -/
def introduce : Option Nat → Action κ σ (String × Value)
  | none => return ("NoneType", .null)
  | some id => do
      let connection ← connection id
      return (Connection.typeName connection, Connection.dialect connection)

/-- A new query on a connection, with the compiler that its dialect has now. That there is none is
logged, unless not even this can be said. -/
def newQuery (connection : Option Nat) (options : Options) : Action κ σ Nat := do
  let (typeName, dialect) ← introduce connection
  let registry := (← get).registry
  match registry.create dialect, connection with
  | .ok compiler, some connection => addQuery (Query.new connection compiler options)
  | .error .badValue, _ => throw .badValue
  | _, _ =>
      let name ← dialect.toText (← get).store.scope
      logEvent .error "query.unsupported_connection"
        [("connection", .text typeName), ("dialect", .text name)]
      throw (.unsupportedConnection typeName dialect registry.dialects)

/-- Runs a statement on a connection. -/
def runOn (id : Nat) (sql : String) (parameters : Value) (mapper : Option Mapper) :
    Action κ σ Outcome := do
  let run := Connection.run (← connection id) sql parameters mapper
  modify fun session => { session with
    connections := session.connections.setIfInBounds id run.connection
    journal := session.journal ++ (run.sent.map fun sent => ⟨id, sent⟩).toArray
    logging := run.events.foldl (fun logging event => logging.emit event) session.logging }
  run.outcome

/-- The key that the last insert on a connection generated. -/
def lastInsertId (id : Nat) : Action κ σ Value := do
  Connection.lastInsertId (← connection id)

/-- Builds a query and runs it on its connection. -/
def execute (id : Nat) (mapper : Option Mapper) : Action κ σ Outcome := do
  let query ← query id
  let compiled ← build id
  logEvent .debug "query.execute"
    [("statement", .text query.blueprint.type.name), ("dialect", .text compiled.dialect.name),
      ("sql", .text compiled.sql), ("parameters", .int compiled.parameters.length)]
  runOn query.connection compiled.sql (.list compiled.parameters) mapper

end Connections

end Session

end SqlBuilder
