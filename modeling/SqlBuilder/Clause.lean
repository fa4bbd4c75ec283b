/-!
# Statement types and clauses

The vocabulary of a blueprint: what kind of statement it describes and which clauses it has. Both
are named in messages and can be given by name.
-/

namespace SqlBuilder

inductive StatementType where
  | select
  | insert
  | upsert
  | update
  | delete
  | truncate
deriving DecidableEq, Inhabited

inductive Clause where
  | columns
  | tables
  | join
  | where
  | having
  | group
  | order
  | limit
  | union
  | insert
  | update
deriving DecidableEq

namespace StatementType

def all : List StatementType :=
  [select, insert, upsert, update, delete, truncate]

def name : StatementType → String
  | select => "select"
  | insert => "insert"
  | upsert => "upsert"
  | update => "update"
  | delete => "delete"
  | truncate => "truncate"

/-- The name in capitals, as it begins a message. -/
def title : StatementType → String
  | select => "SELECT"
  | insert => "INSERT"
  | upsert => "UPSERT"
  | update => "UPDATE"
  | delete => "DELETE"
  | truncate => "TRUNCATE"

def ofName? (name : String) : Option StatementType :=
  all.find? (·.name == name)

theorem ofName?_name (type : StatementType) : ofName? type.name = some type := by
  cases type <;> decide

end StatementType

namespace Clause

def all : List Clause :=
  [columns, tables, join, .where, having, group, order, limit, union, insert, update]

def name : Clause → String
  | columns => "columns"
  | tables => "tables"
  | join => "join"
  | .where => "where"
  | having => "having"
  | group => "group"
  | order => "order"
  | limit => "limit"
  | union => "union"
  | insert => "insert"
  | update => "update"

def ofName? (name : String) : Option Clause :=
  all.find? (·.name == name)

theorem ofName?_name (clause : Clause) : ofName? clause.name = some clause := by
  cases clause <;> decide

end Clause

end SqlBuilder
