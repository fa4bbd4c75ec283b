import SqlBuilder.Session.Call

/-!
# Calls by name

A program that is read from elsewhere calls its steps by name and gives their arguments by name too.
Every step has parameters, and those that may be left out have a value to fall back on. An argument
that no parameter takes and a parameter that is given nothing refuse the call before the query
changes. A callback in a place where none is called is passed on as a value.
-/

namespace SqlBuilder

structure Parameter where
  name : String
  fallback : Option Value

namespace Parameter

def required (name : String) : Parameter :=
  ⟨name, none⟩

def optional (name : String) (fallback : Value) : Parameter :=
  ⟨name, some fallback⟩

def aliasName : Parameter :=
  optional "alias" (.text "")

def operator : Parameter :=
  optional "operator" (.text "=")

/-- The keyword of a condition. -/
def keyword : Parameter :=
  optional "boolean" (.text "AND")

/-- The parameters of a step, if there is a step of that name. -/
def list? : String → Option (List Parameter)
  | "table" | "from_" => some [required "table", aliasName]
  | "column" => some [required "column", aliasName]
  | "join" =>
      some [required "table", required "first", optional "second" .null, operator,
        optional "type" (.text "INNER")]
  | "left_join" | "right_join" =>
      some [required "table", required "first", optional "second" .null, operator]
  | "where" | "having" =>
      some [required "column", optional "value" .null, operator, keyword]
  | "or_where" => some [required "column", optional "value" .null, operator]
  | "where_column" | "having_column" =>
      some [required "first", required "second", operator, keyword]
  | "where_in" | "where_not_in" => some [required "column", required "values", keyword]
  | "where_null" | "where_not_null" => some [required "column", keyword]
  | "group" | "sum" | "min" | "max" | "avg" => some [required "column"]
  | "order" => some [required "column", optional "sort" (.text "ASC")]
  | "limit" => some [required "limit", optional "offset" .null]
  | "page" => some [required "page", optional "size" .null]
  | "union" => some [required "query"]
  | "select" => some [optional "single" (.bool false)]
  | "all" | "first" | "delete" | "truncate" => some []
  | "count" => some [optional "column" (.text Identifier.wildcard)]
  | "insert" | "update" => some [required "data"]
  | "upsert" => some [required "insert", required "update", optional "index" (.tuple [])]
  | _ => none

end Parameter

/-- What is given for each parameter. -/
abbrev Arguments (κ σ : Type) := List (String × Operand κ σ)

namespace Arguments

variable {κ σ : Type}

/-- The argument for a parameter. -/
def forParameter (given : Arguments κ σ) (parameter : Parameter) :
    Except Error (String × Operand κ σ) :=
  match Assoc.find? given parameter.name, parameter.fallback with
  | some operand, _ => .ok (parameter.name, operand)
  | none, some value => .ok (parameter.name, .value value)
  | none, none => .error .wrongKind

/-- An argument for every parameter and none besides. -/
def settle (given : Arguments κ σ) (parameters : List Parameter) :
    Except Error (Arguments κ σ) :=
  if given.all fun entry => parameters.any fun parameter => parameter.name == entry.1 then
    parameters.mapM given.forParameter
  else .error .wrongKind

def operand (arguments : Arguments κ σ) (name : String) : Except Error (Operand κ σ) :=
  match Assoc.find? arguments name with
  | some operand => .ok operand
  | none => .error .wrongKind

def value (arguments : Arguments κ σ) (name : String) : Except Error Value := do
  match ← arguments.operand name with
  | .value value => return value
  | .callback mark _ => return .callback mark

end Arguments

namespace Call

variable {κ σ : Type}

/-- The call of a step whose arguments are settled. -/
def ofArguments (name : String) (arguments : Arguments κ σ) : Except Error (Call κ σ) := do
  let value := arguments.value
  let operand := arguments.operand
  match name with
  | "table" => return .table (← value "table") (← value "alias")
  | "from_" => return .fromTable (← value "table") (← value "alias")
  | "column" => return .column (← value "column") (← value "alias")
  | "join" =>
      return .join (← value "table") (← operand "first") (← value "second") (← value "operator")
        (← value "type")
  | "left_join" =>
      return .leftJoin (← value "table") (← operand "first") (← value "second")
        (← value "operator")
  | "right_join" =>
      return .rightJoin (← value "table") (← operand "first") (← value "second")
        (← value "operator")
  | "where" =>
      return .filter (← operand "column") (← value "value") (← value "operator")
        (← value "boolean")
  | "or_where" =>
      return .orFilter (← operand "column") (← value "value") (← value "operator")
  | "where_column" =>
      return .filterColumn (← operand "first") (← value "second") (← value "operator")
        (← value "boolean")
  | "where_in" =>
      return .filterIn (← operand "column") (← value "values") (← value "boolean")
  | "where_not_in" =>
      return .filterNotIn (← operand "column") (← value "values") (← value "boolean")
  | "where_null" => return .filterNull (← operand "column") (← value "boolean")
  | "where_not_null" => return .filterNotNull (← operand "column") (← value "boolean")
  | "having" =>
      return .having (← operand "column") (← value "value") (← value "operator")
        (← value "boolean")
  | "having_column" =>
      return .havingColumn (← operand "first") (← value "second") (← value "operator")
        (← value "boolean")
  | "group" => return .group (← value "column")
  | "order" => return .order (← value "column") (← value "sort")
  | "limit" => return .limit (← value "limit") (← value "offset")
  | "page" => return .page (← value "page") (← value "size")
  | "union" => return .union (← value "query")
  | "select" => return .select (← value "single")
  | "all" => return .rows
  | "first" => return .first
  | "count" => return .count (← value "column")
  | "sum" => return .sum (← value "column")
  | "min" => return .minimum (← value "column")
  | "max" => return .maximum (← value "column")
  | "avg" => return .average (← value "column")
  | "insert" => return .insert (← value "data")
  | "upsert" => return .upsert (← value "insert") (← value "update") (← value "index")
  | "update" => return .update (← value "data")
  | "delete" => return .delete
  | "truncate" => return .truncate
  | _ => throw .missingKey

end Call

end SqlBuilder
