import SqlBuilder.Session.Builder

/-!
# Reading rows

A select makes the query a select and runs it. An aggregate runs a clone of the query with a single
column, so the query itself stays as it is. A chunked walk visits the rows page by page: each page
is a clone that is bounded by the greatest index seen so far, and the walk ends at an empty page or
when a visit asks for it.
-/

namespace SqlBuilder.Session

variable {κ σ : Type} [Connection κ]

/-- The rows of an outcome. -/
def fetchedRows : Outcome → Except Error Fetched
  | .fetched rows => .ok rows
  | .count _ => .error .wrongKind

def select (id : Nat) (single : Value) : Action κ σ Fetched := do
  change id (·.withType .select)
  let model := (← query id).model
  fetchedRows (← execute id (some ⟨single.truthy, model, some id⟩))

/-- All rows of the query. -/
def rows (id : Nat) : Action κ σ (List Record) := do
  match ← select id (.bool false) with
  | .many records => return records
  | .one record => return record.toList

/-- The first row of the query, if it has one. -/
def first (id : Nat) : Action κ σ (Option Record) := do
  match ← select id (.bool true) with
  | .one record => return record
  | .many records => return records.head?

/-- The result of a function over a column, zero where there is none. -/
def aggregate (id : Nat) (function name : String) (column : Value) : Action κ σ Value := do
  let copy ← addQuery ((← query id).aggregate function name column)
  match ← first copy with
  | none => return .int 0
  | some record =>
      match record.read name with
      | .null => return .int 0
      | value => return value

def count (id : Nat) (column : Value) : Action κ σ Int := do
  (← aggregate id "COUNT" "count" column).toInteger

def sum (id : Nat) (column : Value) : Action κ σ Value :=
  aggregate id "SUM" "sum" column

def minimum (id : Nat) (column : Value) : Action κ σ Value :=
  aggregate id "MIN" "min" column

def maximum (id : Nat) (column : Value) : Action κ σ Value :=
  aggregate id "MAX" "max" column

def average (id : Nat) (column : Value) : Action κ σ Value :=
  aggregate id "AVG" "avg" column

/-- What a chunked walk goes by: the size of its pages, the index and the name of the index in a
row. -/
structure Walk where
  size : Value
  index : Value
  key : String

/-- A walk with the given size and index or those of the options. -/
def Walk.plan (options : Options) (size index : Value) : Except Error Walk := do
  let size :=
    match size with
    | .null => .int options.chunkSize
    | size => size
  if ← size.belowOne then throw (.chunkSize size)
  let index := if index.truthy then index else .text options.chunkIndex
  match ← index.lastSegment with
  | .text key => return ⟨size, index, key⟩
  | _ => throw .noAttribute

/-- What is visited: the rows of a page, how many they are and the number of the page. The visit
answers whether the walk goes on. -/
abbrev Visit (κ σ : Type) := List Record → Nat → Nat → Action κ σ Bool

/-- The pages from the one behind `cursor` on, at most `fuel` of them. -/
def walkFrom (id : Nat) (walk : Walk) (visit : Visit κ σ) :
    Nat → Nat → Value → Action κ σ Unit
  | 0, _, _ => throw .endless
  | fuel + 1, number, cursor => do
      let template ← query id
      let page ← addQuery (← template.pageAfter walk.index cursor walk.size)
      let records ← rows page
      match records.getLast? with
      | none => return ()
      | some last =>
          logEvent .debug "query.chunk"
            [("chunk", .int number), ("rows", .int records.length), ("index", walk.index)]
          if ← visit records records.length number then
            walkFrom id walk visit fuel (number + 1) (last.read walk.key)

/-- Visits the rows of the query page by page. The walk is cut off with a failure after `fuel`
pages, which a connection that runs out of rows never reaches. -/
def chunk (fuel id : Nat) (size index : Value) (visit : Visit κ σ) : Action κ σ Unit := do
  let options := (← query id).options
  let walk ← Walk.plan options size index
  walkFrom id walk visit fuel 1 (.int 0)

end SqlBuilder.Session
