import SqlBuilder.Compiler
import SqlBuilder.Options
import SqlBuilder.Record

/-!
# Queries

A query is a blueprint that is being filled, with the connection it will run on, the compiler it was
made with, its options, the model its rows become and a mark that no column has been chosen yet. The
steps here fill one clause each and look at nothing but the query itself. A step whose arguments are
refused leaves no trace.
-/

namespace SqlBuilder

structure Query where
  connection : Nat
  compiler : Compiler
  options : Options
  blueprint : Blueprint
  model : Option Model
  blank : Bool

/-- A column given by its path, or whatever else stands for a column. -/
def Value.asColumn : Value → Value
  | .text path => .column path
  | value => value

/-- A table given by its path, or whatever else stands for a table. -/
def Value.asTable : Value → Value
  | .text path => .table path
  | value => value

namespace Query

def new (connection : Nat) (compiler : Compiler) (options : Options) : Query where
  connection
  compiler
  options
  blueprint := Blueprint.empty .select
  model := none
  blank := true

/-- An empty query on the same connection, for conditions that are collected in a group. -/
def nested (query : Query) : Query :=
  new query.connection query.compiler query.options

def add (query : Query) (clause : Clause) (attributes : List (String × Value)) : Query :=
  { query with blueprint := query.blueprint.add clause (Fragment.of attributes) }

def reset (query : Query) (clause : Clause) : Query :=
  { query with blueprint := query.blueprint.reset clause }

def withType (query : Query) (type : StatementType) : Query :=
  { query with blueprint := query.blueprint.withType type }

@[simp] theorem blueprint_add (query : Query) (clause : Clause)
    (attributes : List (String × Value)) :
    (query.add clause attributes).blueprint =
      query.blueprint.add clause (Fragment.of attributes) := rfl

@[simp] theorem connection_add (query : Query) (clause : Clause)
    (attributes : List (String × Value)) :
    (query.add clause attributes).connection = query.connection := rfl

@[simp] theorem compiler_add (query : Query) (clause : Clause)
    (attributes : List (String × Value)) :
    (query.add clause attributes).compiler = query.compiler := rfl

@[simp] theorem model_add (query : Query) (clause : Clause)
    (attributes : List (String × Value)) : (query.add clause attributes).model = query.model := rfl

@[simp] theorem blueprint_reset (query : Query) (clause : Clause) :
    (query.reset clause).blueprint = query.blueprint.reset clause := rfl

@[simp] theorem connection_reset (query : Query) (clause : Clause) :
    (query.reset clause).connection = query.connection := rfl

@[simp] theorem compiler_reset (query : Query) (clause : Clause) :
    (query.reset clause).compiler = query.compiler := rfl

@[simp] theorem model_reset (query : Query) (clause : Clause) :
    (query.reset clause).model = query.model := rfl

@[simp] theorem blueprint_withType (query : Query) (type : StatementType) :
    (query.withType type).blueprint = query.blueprint.withType type := rfl

@[simp] theorem connection_withType (query : Query) (type : StatementType) :
    (query.withType type).connection = query.connection := rfl

@[simp] theorem compiler_withType (query : Query) (type : StatementType) :
    (query.withType type).compiler = query.compiler := rfl

@[simp] theorem model_withType (query : Query) (type : StatementType) :
    (query.withType type).model = query.model := rfl

/-- Adds a table and leaves the columns alone. -/
def addTable (query : Query) (table aliasName : Value) : Query :=
  query.add .tables [("table", table.asTable), ("alias", aliasName)]

/-- Adds a column. The first column that is named replaces the wildcard, and the wildcard replaces
every column named so far. -/
def addColumn (query : Query) (column aliasName : Value) : Query :=
  let query :=
    if column.isWildcard || query.blank then query.reset .columns else query
  if column.isWildcard then query.add .columns [("column", column), ("alias", aliasName)]
  else
    { query with blank := false }.add .columns [("column", column.asColumn), ("alias", aliasName)]

/-- Adds a table; while no column is named, all columns are selected. -/
def setTable (query : Query) (table aliasName : Value) : Query :=
  let query := query.addTable table aliasName
  if query.blank then query.addColumn (.text Identifier.wildcard) (.text "") else query

/-- Adds a join on two columns or, in the place of the first, on a group of conditions. -/
def addJoin (query : Query) (table first second operator kind : Value) : Except Error Query := do
  let kind ← kind.capitals
  return query.add .join
    [("table", table.asTable), ("first", first), ("second", second.asTable),
      ("operator", operator), ("type", kind)]

/-- Lists and sets are bound item by item and kept as they are now. -/
def boundValue : Value → Value
  | .list items | .set items | .frozenset items => .tuple items
  | value => value

/-- Adds a condition on a column or a group of conditions. -/
def addCondition (query : Query) (clause : Clause) (column value operator keyword : Value) :
    Except Error Query := do
  let keyword ← keyword.capitals
  return query.add clause
    [("column", column), ("value", boundValue value), ("operator", operator),
      ("boolean", keyword)]

def addGroup (query : Query) (column : Value) : Query :=
  query.add .group [("column", column.asColumn)]

def addOrder (query : Query) (column sort : Value) : Except Error Query := do
  let sort ← sort.capitals
  return query.add .order [("column", column.asColumn), ("sort", sort)]

/-- Replaces the window; an offset is kept unless it is absent. -/
def setLimit (query : Query) (limit offset : Value) : Query :=
  (query.reset .limit).add .limit [("limit", limit), ("offset", offset)]

/-- The window of a page, counted from one, of a given size or of the one in the options. -/
def setPage (query : Query) (page size : Value) : Except Error Query := do
  let size :=
    match size with
    | .null => .int query.options.pageSize
    | size => size
  let pagesBefore := (← page.atLeastOne).minus (.whole 1)
  return query.setLimit size (← size.times pagesBefore)

def addUnion (query : Query) (other : Value) : Query :=
  query.add .union [("query", other)]

/-- The rows of an insert: one map, or each item of a sequence as a map. -/
def insertRows : Value → Except Error (List Value)
  | .map entries => .ok [.map entries]
  | .text _ | .bytes _ => .error .insertData
  | data => do
      let rows ← data.items
      rows.mapM fun row => return .map (← row.toEntries)

/-- A query for the result of a function over a column: the same select with that one column, named
after the function. -/
def aggregate (query : Query) (function name : String) (column : Value) : Query :=
  let column := if column.truthy then column else .text Identifier.wildcard
  { query with model := none, blank := false }.reset .columns
    |>.addColumn (.method function [column]) (.text name)

/-- What the conditions of a page are: those of the template in a group, so that none of them can
escape the cursor that follows. -/
def groupConditions (query : Query) : Query :=
  match query.blueprint.fragments .where with
  | [] => query
  | conditions =>
      (query.reset .where).add .where
        [("column", .group (conditions.map Fragment.toValue)), ("boolean", .text "AND")]

/-- A query for the page behind a cursor: the rows of the template whose index is greater, the
smallest of them first, at most `size` of them. -/
def pageAfter (query : Query) (index cursor size : Value) : Except Error Query := do
  let page := (query.reset .order).groupConditions
  let page ← page.addCondition .where index.asColumn cursor (.text ">") (.text "AND")
  let page ← page.addOrder index (.text "ASC")
  return page.setLimit size .null

def description (query : Query) : String :=
  "Query(dialect=" ++ Text.quoted query.compiler.dialect.name ++ ", blueprint=" ++
    query.blueprint.description ++ ")"

end Query

end SqlBuilder
