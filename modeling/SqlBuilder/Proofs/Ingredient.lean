import SqlBuilder.Compiler

/-!
# What a statement is put together from

Besides its fixed words a statement consists of what its blueprint supplies: words that are written
as they are, names that are quoted, and values that are bound. The lists here name them clause by
clause, in the order in which the clauses stand in the text, and they say nothing about how a clause
is compiled. A word that the blueprint holds for a clause its statement does not have is not among
them.
-/

namespace SqlBuilder

inductive Ingredient where
  /-- Text that is written as it is. -/
  | word (value : Value)
  /-- Text that is written in capitals. -/
  | capitals (value : Value)
  /-- A dotted path, of which each segment is quoted. -/
  | path (value : Value)
  /-- One undivided name. -/
  | name (value : Value)
  | bound (value : Value)

namespace Ingredient

def bound? : Ingredient → Option Value
  | bound value => some value
  | _ => none

def isName : Ingredient → Bool
  | name _ => true
  | _ => false

/-- The value whose text goes into the statement. -/
def written? : Ingredient → Option Value
  | word value | capitals value | path value | name value => some value
  | bound _ => none

/-- Whether an ingredient puts a text into the statement as it is. -/
def Inlines (scope : Scope) : Ingredient → String → Prop
  | word value, text => value.toText scope = .ok text
  | capitals value, text => ∃ word, value.toText scope = .ok word ∧ Text.upper word = text
  | _, _ => False

end Ingredient

namespace Value

def aliasIngredients : List Value → List Ingredient
  | [] => []
  | aliasName :: _ => if aliasName.truthy then [.name aliasName] else []

mutual

/-- What an argument supplies. -/
def ingredients : Value → List Ingredient
  | argument .raw value _ => [.word value]
  | argument .method value parameters => .word value :: parameterIngredients parameters
  | argument .column value parameters | argument .table value parameters =>
      if value.isWildcard then [] else .path value :: aliasIngredients parameters
  | _ => []

def parameterIngredients : List Value → List Ingredient
  | [] => []
  | value :: rest =>
      (if value.isArgument then value.ingredients
        else if value.isWildcard then [] else [.path value]) ++ parameterIngredients rest

end

/-- What a value supplies in a place for an identifier. -/
def identifierIngredients (value : Value) : List Ingredient :=
  if value.isArgument then value.ingredients
  else if value.truthy then [.name value] else []

def aliasedIngredients (value aliasName : Value) : List Ingredient :=
  value.identifierIngredients ++
    if aliasName.truthy then aliasName.identifierIngredients else []

/-- What the right side of a comparison supplies: the items of a list one by one. -/
def operandIngredients : Value → List Ingredient
  | argument kind value parameters => (argument kind value parameters).ingredients
  | list items | tuple items | set items | frozenset items => items.map .bound
  | value => [.bound value]

def assignedIngredients (value : Value) : List Ingredient :=
  if value.isArgument then value.ingredients else [.bound value]

end Value

namespace Condition

mutual

def ingredients : Condition → List Ingredient
  | comparison keyword column operator value =>
      .word keyword :: column.identifierIngredients ++
        .word operator :: value.operandIngredients
  | group _ [] => []
  | group keyword (first :: rest) => .word keyword :: levelIngredients (first :: rest)
  | malformed value => value.operandIngredients

def levelIngredients : List Condition → List Ingredient
  | [] => []
  | condition :: rest => condition.ingredients ++ levelIngredients rest

end

end Condition

namespace Statement

def columnIngredients (fragment : Fragment) : List Ingredient :=
  (fragment.read "column").aliasedIngredients (fragment.read "alias")

def tableIngredients (fragment : Fragment) : List Ingredient :=
  (fragment.read "table").aliasedIngredients (fragment.read "alias")

def joinConditionIngredients (fragment : Fragment) : List Ingredient :=
  match fragment.read "first" with
  | .group members => Condition.levelIngredients (Condition.ofMembers members)
  | first =>
      first.identifierIngredients ++ .word (fragment.read "operator") ::
        (fragment.read "second").identifierIngredients

def joinIngredients (fragment : Fragment) : List Ingredient :=
  .capitals (fragment.read "type") :: (fragment.read "table").identifierIngredients ++
    joinConditionIngredients fragment

def conditionIngredients (clause : Clause) (blueprint : Blueprint) : List Ingredient :=
  Condition.levelIngredients (Condition.ofFragments (blueprint.fragments clause))

def groupIngredients (fragment : Fragment) : List Ingredient :=
  (fragment.read "column").identifierIngredients

def orderIngredients (fragment : Fragment) : List Ingredient :=
  (fragment.read "column").identifierIngredients ++ [.capitals (fragment.read "sort")]

def cellIngredients (row column : Value) : List Ingredient :=
  match row.subscript column with
  | .ok value => value.assignedIngredients
  | .error _ => []

def rowIngredients (columns : List Value) (row : Value) : List Ingredient :=
  columns.flatMap (cellIngredients row)

def batchIngredients : List Value → List Ingredient
  | [] => []
  | first :: rest =>
      match first.items with
      | .ok columns =>
          columns.flatMap Value.identifierIngredients ++
            (first :: rest).flatMap (rowIngredients columns)
      | .error _ => []

def insertIngredients (fragment : Fragment) : List Ingredient :=
  match rowsOf (fragment.read "insert") with
  | .ok rows => batchIngredients rows
  | .error _ => []

def assignmentIngredients (entry : Value × Value) : List Ingredient :=
  entry.1.identifierIngredients ++ entry.2.assignedIngredients

def updateIngredients (fragment : Fragment) : List Ingredient :=
  match fragment.read "update" with
  | .map entries => entries.flatMap assignmentIngredients
  | _ => []

/-- Assignments are a map, so there is nothing else that can have been taken for one. -/
theorem eq_map_of_assignmentEntries {value : Value} {entries : Entries}
    (h : assignmentEntries value = .ok entries) : value = .map entries := by
  cases value <;> cases h
  rfl

theorem updateIngredients_of_entries {fragment : Fragment} {entries : Entries}
    (h : assignmentEntries (fragment.read "update") = .ok entries) :
    updateIngredients fragment = entries.flatMap assignmentIngredients := by
  rw [updateIngredients, eq_map_of_assignmentEntries h]

def targetIngredients (fragment : Fragment) : List Ingredient :=
  if (fragment.read "index").truthy then
    match (fragment.read "index").items with
    | .ok columns => columns.flatMap Value.identifierIngredients
    | .error _ => []
  else []

def tailIngredients (dialect : Dialect) (fragment : Fragment) : List Ingredient :=
  match dialect with
  | .mysql => updateIngredients fragment
  | .sqlite => targetIngredients fragment ++ updateIngredients fragment

/-- What the first fragment of a clause supplies, if the clause has one. -/
def leading (supply : Fragment → List Ingredient) (clause : Clause) (blueprint : Blueprint) :
    List Ingredient :=
  match blueprint.first? clause with
  | none => []
  | some fragment => supply fragment

/-- What a statement supplies, clause by clause; the members of its union come last. -/
def ingredients (dialect : Dialect) (blueprint : Blueprint) (members : List Ingredient) :
    List Ingredient :=
  let columns := (blueprint.fragments .columns).flatMap columnIngredients
  let tables := (blueprint.fragments .tables).flatMap tableIngredients
  let filter := conditionIngredients .where blueprint
  let orders := (blueprint.fragments .order).flatMap orderIngredients
  match blueprint.type with
  | .select =>
      columns ++ tables ++ (blueprint.fragments .join).flatMap joinIngredients ++ filter ++
        (blueprint.fragments .group).flatMap groupIngredients ++
        conditionIngredients .having blueprint ++ orders ++ members
  | .insert => tables ++ leading insertIngredients .insert blueprint
  | .upsert =>
      tables ++ leading insertIngredients .insert blueprint ++
        leading (tailIngredients dialect) .insert blueprint
  | .update => tables ++ leading updateIngredients .update blueprint ++ filter ++ orders
  | .delete => tables ++ filter ++ orders
  | .truncate => tables

mutual

def memberIngredients (dialect : Dialect) : Member → List Ingredient
  | .statement blueprint members =>
      ingredients dialect blueprint (membersIngredients dialect members)
  | .invalid _ => []

def membersIngredients (dialect : Dialect) : List Member → List Ingredient
  | [] => []
  | member :: rest => memberIngredients dialect member ++ membersIngredients dialect rest

end

/-- The name of the incoming row, which MySQL needs when a value that is assigned is an argument. It
is the one name that a statement has without having been given it. -/
def rowNameIngredients (fragment : Fragment) : List Ingredient :=
  match fragment.read "update" with
  | .map entries =>
      if (Entries.values entries).any Value.isArgument then [.name (.text rowAlias)] else []
  | _ => []

/-- What stands behind the rows of an upsert, the name of the incoming row included. -/
def tailSupplies (dialect : Dialect) (fragment : Fragment) : List Ingredient :=
  match dialect with
  | .mysql => rowNameIngredients fragment ++ updateIngredients fragment
  | .sqlite => targetIngredients fragment ++ updateIngredients fragment

/-- What a statement supplies, together with the name that it may give the incoming row. -/
def supplies (dialect : Dialect) (blueprint : Blueprint) (members : List Ingredient) :
    List Ingredient :=
  match blueprint.type with
  | .upsert =>
      (blueprint.fragments .tables).flatMap tableIngredients ++
        leading insertIngredients .insert blueprint ++
        leading (tailSupplies dialect) .insert blueprint
  | _ => ingredients dialect blueprint members

mutual

def memberSupplies (dialect : Dialect) : Member → List Ingredient
  | .statement blueprint members => supplies dialect blueprint (membersSupplies dialect members)
  | .invalid _ => []

def membersSupplies (dialect : Dialect) : List Member → List Ingredient
  | [] => []
  | member :: rest => memberSupplies dialect member ++ membersSupplies dialect rest

end

end Statement

def Snapshot.ingredients (dialect : Dialect) (snapshot : Snapshot) : List Ingredient :=
  Statement.ingredients dialect snapshot.blueprint
    (Statement.membersIngredients dialect snapshot.members)

def Snapshot.supplies (dialect : Dialect) (snapshot : Snapshot) : List Ingredient :=
  Statement.supplies dialect snapshot.blueprint
    (Statement.membersSupplies dialect snapshot.members)

/-! ### Identifiers bind nothing -/

namespace Value

open Ingredient

mutual

theorem bound_ingredients : ∀ value : Value, value.ingredients.filterMap bound? = []
  | .argument .raw value _ => by
      rw [ingredients]
      rfl
  | .argument .method value parameters => by
      rw [ingredients, List.filterMap_cons_none rfl, bound_parameterIngredients parameters]
  | .argument .column value parameters | .argument .table value parameters => by
      simp only [ingredients]
      split
      · rfl
      · rw [List.filterMap_cons_none rfl]
        cases parameters with
        | nil => rfl
        | cons aliasName rest =>
            rw [aliasIngredients]
            split <;> rfl
  | .null | .bool _ | .int _ | .float _ | .undefined _ | .text _ | .bytes _ | .list _ | .tuple _
  | .set _ | .frozenset _ | .map _ | .fragment _ | .group _ | .query _ | .queryBlueprint _
  | .blueprint _ | .callback _ => rfl

theorem bound_parameterIngredients :
    ∀ values : List Value, (parameterIngredients values).filterMap bound? = []
  | [] => rfl
  | value :: rest => by
      rw [parameterIngredients, List.filterMap_append, bound_parameterIngredients rest,
        List.append_nil]
      split
      · exact bound_ingredients value
      · split <;> rfl

end

theorem bound_identifierIngredients (value : Value) :
    value.identifierIngredients.filterMap bound? = [] := by
  rw [identifierIngredients]
  split
  · exact bound_ingredients value
  · split <;> rfl

theorem bound_aliasedIngredients (value aliasName : Value) :
    (value.aliasedIngredients aliasName).filterMap bound? = [] := by
  rw [aliasedIngredients, List.filterMap_append, bound_identifierIngredients, List.nil_append]
  split
  · exact bound_identifierIngredients aliasName
  · rfl

end Value

theorem Ingredient.bound_flatMap {α : Type} {items : List α} {supply : α → List Ingredient}
    (h : ∀ item, (supply item).filterMap Ingredient.bound? = []) :
    (items.flatMap supply).filterMap Ingredient.bound? = [] := by
  rw [List.filterMap_flatMap]
  exact List.flatMap_eq_nil_iff.2 fun item _ => h item

theorem Statement.bound_orderIngredients (fragment : Fragment) :
    (orderIngredients fragment).filterMap Ingredient.bound? = [] := by
  rw [orderIngredients, List.filterMap_append, Value.bound_identifierIngredients]
  rfl

/-! ### The name of the incoming row -/

/-- Everything but the names. -/
def Ingredient.others (ingredients : List Ingredient) : List Ingredient :=
  ingredients.filter fun ingredient => !ingredient.isName

namespace Statement

open Ingredient

theorem others_append (front back : List Ingredient) :
    others (front ++ back) = others front ++ others back :=
  List.filter_append ..

theorem others_tailSupplies (dialect : Dialect) (fragment : Fragment) :
    others (tailSupplies dialect fragment) = others (tailIngredients dialect fragment) := by
  cases dialect with
  | sqlite => rfl
  | mysql =>
      rw [tailSupplies, tailIngredients, others_append]
      have hrow : others (rowNameIngredients fragment) = [] := by
        rw [rowNameIngredients]
        split
        · split <;> rfl
        · rfl
      rw [hrow, List.nil_append]

theorem others_supplies {dialect : Dialect} {blueprint : Blueprint} {members own : List Ingredient}
    (h : others members = others own) :
    others (supplies dialect blueprint members) = others (ingredients dialect blueprint own) := by
  have hleading : others (leading (tailSupplies dialect) .insert blueprint) =
      others (leading (tailIngredients dialect) .insert blueprint) := by
    rw [leading, leading]
    split
    · rfl
    · exact others_tailSupplies ..
  simp only [supplies, ingredients]
  cases blueprint.type with
  | upsert => simp only [others_append, hleading]
  | _ => simp only [others_append, h]

mutual

theorem others_memberSupplies (dialect : Dialect) :
    ∀ member, others (memberSupplies dialect member) = others (memberIngredients dialect member)
  | .statement blueprint members => by
      rw [memberSupplies, memberIngredients]
      exact others_supplies (others_membersSupplies dialect members)
  | .invalid _ => rfl

theorem others_membersSupplies (dialect : Dialect) :
    ∀ members,
      others (membersSupplies dialect members) = others (membersIngredients dialect members)
  | [] => rfl
  | member :: rest => by
      rw [membersSupplies, membersIngredients, others_append, others_append,
        others_memberSupplies dialect member, others_membersSupplies dialect rest]

end

end Statement

/-- The name of the incoming row is all that has not been supplied. -/
theorem Snapshot.others_supplies (dialect : Dialect) (snapshot : Snapshot) :
    Ingredient.others (snapshot.supplies dialect) =
      Ingredient.others (snapshot.ingredients dialect) :=
  Statement.others_supplies (Statement.others_membersSupplies dialect snapshot.members)

end SqlBuilder
