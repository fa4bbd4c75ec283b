import SqlBuilder.Snapshot
import SqlBuilder.Statement.Clauses
import SqlBuilder.Statement.Rows

/-!
# Compilers

A compiler turns a snapshot into the text of a statement and its parameters. It is a dialect, which
decides how an upsert ends, a quoting and the words that empty a table. The order of the clauses is
fixed for each statement type, and the tokens it leads to depend neither on the quoting nor on what
the values are that they bind.
-/

namespace SqlBuilder

/-- A compiled statement. -/
structure Compiled where
  sql : String
  parameters : List Value
  dialect : Dialect

structure Compiler where
  label : String
  dialect : Dialect
  quote : Quoting
  emptying : String

namespace Dialect

def all : List Dialect :=
  [mysql, sqlite]

def name : Dialect → String
  | mysql => "mysql"
  | sqlite => "sqlite"

def ofName? (name : String) : Option Dialect :=
  all.find? (·.name == name)

/-- A dialect given by its name. -/
def ofValue? : Value → Option Dialect
  | .text name => ofName? name
  | _ => none

def read (value : Value) : Except Error Dialect :=
  match ofValue? value with
  | some dialect => .ok dialect
  | none => .error (.notAMember value .dialect)

end Dialect

namespace Statement

def requireTable (blueprint : Blueprint) : Except Error Unit :=
  if blueprint.has .tables then .ok () else .error (.missingTable blueprint.type)

/-- The clauses of a statement in their order, each compiled before the next one. -/
def parts (scope : Scope) (dialect : Dialect) (emptying : String) (blueprint : Blueprint)
    (members : Except Error (List Tokens)) : Except Error (List Tokens) := do
  match blueprint.type with
  | .select =>
      let columns ← columns scope "SELECT" blueprint
      let tables ← tables scope "FROM" blueprint
      let joins ← joins scope "" blueprint
      let filter ← conditions scope "WHERE" .where blueprint
      let groups ← groups scope "GROUP BY" blueprint
      let having ← conditions scope "HAVING" .having blueprint
      let orders ← orders scope "ORDER BY" blueprint
      let limit ← limits "LIMIT" blueprint
      let members ← members
      return [columns, tables, joins, filter, groups, having, orders, limit,
        unions "UNION" members]
  | .insert =>
      requireTable blueprint
      let tables ← tables scope "INSERT INTO" blueprint
      let inserts ← inserts scope dialect "" false blueprint
      return [tables, inserts]
  | .upsert =>
      requireTable blueprint
      let tables ← tables scope "INSERT INTO" blueprint
      let inserts ← inserts scope dialect "" true blueprint
      return [tables, inserts]
  | .update =>
      requireTable blueprint
      let tables ← tables scope "UPDATE" blueprint
      let updates ← updates scope "SET" blueprint
      let filter ← conditions scope "WHERE" .where blueprint
      let orders ← orders scope "ORDER BY" blueprint
      let limit ← limits "LIMIT" blueprint
      return [tables, updates, filter, orders, limit]
  | .delete =>
      requireTable blueprint
      let tables ← tables scope "DELETE FROM" blueprint
      let filter ← conditions scope "WHERE" .where blueprint
      let orders ← orders scope "ORDER BY" blueprint
      let limit ← limits "LIMIT" blueprint
      return [tables, filter, orders, limit]
  | .truncate =>
      requireTable blueprint
      return [← tables scope emptying blueprint]

/-- The tokens of a whole statement. -/
def whole (scope : Scope) (dialect : Dialect) (emptying : String) (blueprint : Blueprint)
    (members : Except Error (List Tokens)) : Except Error Tokens := do
  let parts ← parts scope dialect emptying blueprint members
  return Tokens.trim (Tokens.spaced parts)

mutual

def memberTokens (scope : Scope) (dialect : Dialect) (emptying : String) :
    Member → Except Error Tokens
  | .statement blueprint members =>
      whole scope dialect emptying blueprint (membersTokens scope dialect emptying members)
  | .invalid cause => .error cause

def membersTokens (scope : Scope) (dialect : Dialect) (emptying : String) :
    List Member → Except Error (List Tokens)
  | [] => .ok []
  | member :: rest => do
      let first ← memberTokens scope dialect emptying member
      let others ← membersTokens scope dialect emptying rest
      return first :: others

end

def tokens (scope : Scope) (dialect : Dialect) (emptying : String) (snapshot : Snapshot) :
    Except Error Tokens :=
  whole scope dialect emptying snapshot.blueprint
    (membersTokens scope dialect emptying snapshot.members)

end Statement

namespace Compiler

def mysql : Compiler where
  label := "MySQLCompiler"
  dialect := .mysql
  quote := Identifier.backtick
  emptying := "TRUNCATE"

/-- SQLite empties a table by deleting all its rows. -/
def sqlite : Compiler where
  label := "SQLiteCompiler"
  dialect := .sqlite
  quote := Identifier.backtick
  emptying := "DELETE FROM"

/-- The text and the parameters that tokens stand for. -/
def finish (compiler : Compiler) (tokens : Tokens) : Compiled :=
  ⟨tokens.render compiler.quote, tokens.parameters, compiler.dialect⟩

def tokens (compiler : Compiler) (scope : Scope) (snapshot : Snapshot) : Except Error Tokens :=
  Statement.tokens scope compiler.dialect compiler.emptying snapshot

def compile (compiler : Compiler) (scope : Scope) (snapshot : Snapshot) :
    Except Error Compiled := do
  return compiler.finish (← compiler.tokens scope snapshot)

/-- The clauses that can be compiled on their own. -/
inductive Part where
  | clause (clause : Clause)
  | insertOrUpdate
  | conflict
  | emptying
  | whole
deriving DecidableEq

/-- One part of a statement behind a keyword. -/
def partTokens (compiler : Compiler) (scope : Scope) (keyword : String) (snapshot : Snapshot) :
    Part → Except Error Tokens
  | .clause .columns => Statement.columns scope keyword snapshot.blueprint
  | .clause .tables => Statement.tables scope keyword snapshot.blueprint
  | .clause .join => Statement.joins scope keyword snapshot.blueprint
  | .clause .where => Statement.conditions scope keyword .where snapshot.blueprint
  | .clause .having => Statement.conditions scope keyword .having snapshot.blueprint
  | .clause .group => Statement.groups scope keyword snapshot.blueprint
  | .clause .order => Statement.orders scope keyword snapshot.blueprint
  | .clause .limit => Statement.limits keyword snapshot.blueprint
  | .clause .union => do
      let members ←
        Statement.membersTokens scope compiler.dialect compiler.emptying snapshot.members
      return Statement.unions keyword members
  | .clause .insert => Statement.inserts scope compiler.dialect keyword false snapshot.blueprint
  | .clause .update => Statement.updates scope keyword snapshot.blueprint
  | .insertOrUpdate => Statement.inserts scope compiler.dialect keyword true snapshot.blueprint
  | .conflict =>
      match snapshot.blueprint.first? .insert with
      | some fragment => Statement.upsertTail scope compiler.dialect fragment
      | none => .error .noAttribute
  | .emptying => Statement.tables scope compiler.emptying snapshot.blueprint
  | .whole => compiler.tokens scope snapshot

def compilePart (compiler : Compiler) (scope : Scope) (keyword : String) (snapshot : Snapshot)
    (part : Part) : Except Error Compiled := do
  return compiler.finish (← compiler.partTokens scope keyword snapshot part)

end Compiler

end SqlBuilder
