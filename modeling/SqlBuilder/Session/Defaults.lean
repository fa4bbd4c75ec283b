import SqlBuilder.Session.Builder

/-!
# What a session is set up with

The default connection on which queries can be made without naming one, the registry of compilers
and the logging.
-/

namespace SqlBuilder.Session

variable {κ σ : Type}

/-- Sets the default connection, or clears it. -/
def setDefault (connection : Option Nat) (options : Options) : Action κ σ Unit :=
  modify fun session => { session with defaults := connection.map fun id => (id, options) }

def default? : Action κ σ (Option Nat) := do
  return (← get).defaults.map Prod.fst

/-- A query on the default connection, with a table if one is given. -/
def newDefault [Connection κ] (table aliasName : Value) : Action κ σ Nat := do
  match (← get).defaults with
  | none => throw .noDefaultConnection
  | some (connection, options) =>
      let id ← newQuery (some connection) options
      if table.truthy then Session.table id table aliasName
      return id

def register (dialect : Value) (compiler : Compiler) : Action κ σ Unit := do
  let session ← get
  let registry ← session.registry.register dialect compiler
  set { session with registry }

/-- Replaces the installed log handler by one on a fresh stream. -/
def configureLogging (stream : String) (level : Value) (json : Bool) : Action κ σ Unit := do
  let session ← get
  let logging ← session.logging.configure stream level json
  set { session with logging }

end SqlBuilder.Session
