import SqlBuilder.Session

/-!
# Writing rows

A write first replaces the clause that holds its data, then makes the query the statement it is and
runs it. Data that is refused leaves that clause empty and the type as it was; a statement that
cannot be compiled leaves the type changed and sends nothing.
-/

namespace SqlBuilder.Session

variable {κ σ : Type} [Connection κ]

/-- Runs a query as a statement of the given type. -/
def perform (id : Nat) (type : StatementType) : Action κ σ Unit := do
  change id (·.withType type)
  discard (execute id none)

/-- Inserts one row or a batch and answers the key that was generated last. -/
def insert (id : Nat) (data : Value) : Action κ σ Value := do
  change id (·.reset .insert)
  let rows ← Query.insertRows data
  change id (·.add .insert [("insert", .list rows)])
  perform id .insert
  lastInsertId (← query id).connection

/-- Inserts rows and updates the ones that are already there. -/
def upsert (id : Nat) (data update index : Value) : Action κ σ Unit := do
  change id (·.reset .insert)
  let rows ← Query.insertRows data
  let update ← update.toEntries
  let index ← index.items
  change id (·.add .insert
    [("insert", .list rows), ("update", .map update), ("index", .list index)])
  perform id .upsert

def update (id : Nat) (data : Value) : Action κ σ Unit := do
  change id (·.reset .update)
  let data ← data.toEntries
  change id (·.add .update [("update", .map data)])
  perform id .update

def delete (id : Nat) : Action κ σ Unit :=
  perform id .delete

def truncate (id : Nat) : Action κ σ Unit :=
  perform id .truncate

end SqlBuilder.Session
