import SqlBuilder.Query

/-!
# The store of queries

Queries are kept under numbers, so that a union can refer to one and see it change. Next to them
stand blueprints that belong to no query and never change. Building a query takes a snapshot of
everything that its unions reach and compiles that with the query's own compiler. A query that a
statement mentions as text is built on its own, with its own compiler, and its parameters are lost.
-/

namespace SqlBuilder

structure Store where
  queries : Array Query
  detached : Array Blueprint

namespace Store

def empty : Store :=
  ⟨#[], #[]⟩

/-- The blueprint that a member of a union stands for. A fragment stands for the one among its
attributes, and must then not claim to be a statement itself. -/
def resolve (store : Store) (value : Value) : Except Error Blueprint :=
  match value with
  | .query id | .queryBlueprint id =>
      match store.queries[id]? with
      | some query => .ok query.blueprint
      | none => .error .noAttribute
  | .blueprint id =>
      match store.detached[id]? with
      | some blueprint => .ok blueprint
      | none => .error .noAttribute
  | .fragment attributes =>
      match Entries.read attributes "blueprint" with
      | .queryBlueprint id =>
          match store.queries[id]? with
          | some query => .ok query.blueprint
          | none => .error .noAttribute
      | .blueprint id =>
          match store.detached[id]? with
          | some blueprint => .ok blueprint
          | none => .error .noAttribute
      | .fragment inner =>
          match Entries.read inner "type" with
          | .text "insert" | .text "upsert" => .error .wrongKind
          | type => .error (Error.unsupportedStatement type).worded
      | _ => .error .noAttribute
  | _ => .error .noAttribute

/-- A bound on how many blueprints follow one another through unions, or queries through mentions,
when none contains itself. -/
def depth (store : Store) : Nat :=
  store.queries.size + store.detached.size + 1

def snapshot (store : Store) (blueprint : Blueprint) : Snapshot :=
  Snapshot.take store.resolve store.depth blueprint

/-- How dumps and messages show the queries and blueprints of the store. -/
def references (store : Store) : References where
  query id := (store.queries[id]?.map Query.description).getD ""
  queryBlueprint id := (store.queries[id]?.map (·.blueprint.description)).getD ""
  blueprint id := (store.detached[id]?.map Blueprint.description).getD ""

/-- What the queries that a statement mentions stand for, and the queries that those mention, down
to the given depth. -/
def scopeWithin (store : Store) : Nat → Scope
  | 0 => { store.references with statement := fun _ => .error .endless }
  | depth + 1 =>
      let within := scopeWithin store depth
      { store.references with
        statement := fun id => do
          match store.queries[id]? with
          | none => throw .noAttribute
          | some query =>
              return (← query.compiler.compile within (store.snapshot query.blueprint)).sql }

def scope (store : Store) : Scope :=
  store.scopeWithin store.depth

def compile (store : Store) (compiler : Compiler) (blueprint : Blueprint) :
    Except Error Compiled :=
  compiler.compile store.scope (store.snapshot blueprint)

def build (store : Store) (query : Query) : Except Error Compiled :=
  store.compile query.compiler query.blueprint

/-- Adds a query and answers its number. -/
def add (store : Store) (query : Query) : Nat × Store :=
  (store.queries.size, { store with queries := store.queries.push query })

/-- Adds a blueprint that belongs to no query and answers its number. -/
def addDetached (store : Store) (blueprint : Blueprint) : Nat × Store :=
  (store.detached.size, { store with detached := store.detached.push blueprint })

def set (store : Store) (id : Nat) (query : Query) : Store :=
  { store with queries := store.queries.setIfInBounds id query }

end Store

end SqlBuilder
