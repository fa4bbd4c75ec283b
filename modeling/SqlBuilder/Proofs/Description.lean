import SqlBuilder.Proofs.Outcome
import SqlBuilder.Proofs.Play
import SqlBuilder.Session.Call

/-!
# Calls that describe a statement

Most calls describe a statement and run none, and all of these go the same way. A value is read,
which may not be had; the operand, if there is one, is settled; and then the query is changed by an
edit, which may be refused. So what an edit does to a query is said once, and holds of every such
call.
-/

namespace SqlBuilder

open Outcome Session

/-- What a call makes of a query once its arguments are settled. -/
inductive Edit where
  | table (table aliasName : Value)
  | fromTable (table aliasName : Value)
  | column (column aliasName : Value)
  | join (table first second operator kind : Value)
  | condition (clause : Clause) (column value operator keyword : Value)
  | group (column : Value)
  | order (column sort : Value)
  | limit (limit offset : Value)
  | page (page size : Value)
  | union (other : Value)

def Edit.change : Edit → Query → Except Error Query
  | table name aliasName, query => .ok (query.setTable name aliasName)
  | fromTable name aliasName, query => .ok (query.addTable name aliasName)
  | column name aliasName, query => .ok (query.addColumn name aliasName)
  | join name first second operator kind, query => query.addJoin name first second operator kind
  | condition clause operand value operator keyword, query =>
      query.addCondition clause operand value operator keyword
  | group name, query => .ok (query.addGroup name)
  | order name sort, query => query.addOrder name sort
  | limit number offset, query => .ok (query.setLimit number offset)
  | page number size, query => query.setPage number size
  | union other, query => .ok (query.addUnion other)

/-! ### What an edit leaves alone -/

/-- Two queries that can only differ in their clauses. -/
structure Query.Akin (query other : Query) : Prop where
  connection : other.connection = query.connection
  compiler : other.compiler = query.compiler
  options : other.options = query.options
  model : other.model = query.model
  type : other.blueprint.type = query.blueprint.type

namespace Query.Akin

variable {query other third : Query}

theorem refl (query : Query) : Akin query query :=
  ⟨rfl, rfl, rfl, rfl, rfl⟩

theorem trans (hfirst : Akin query other) (hsecond : Akin other third) : Akin query third where
  connection := hsecond.connection.trans hfirst.connection
  compiler := hsecond.compiler.trans hfirst.compiler
  options := hsecond.options.trans hfirst.options
  model := hsecond.model.trans hfirst.model
  type := hsecond.type.trans hfirst.type

theorem add (query : Query) (clause : Clause) (attributes : List (String × Value)) :
    Akin query (query.add clause attributes) :=
  ⟨rfl, rfl, rfl, rfl, rfl⟩

theorem reset (query : Query) (clause : Clause) : Akin query (query.reset clause) :=
  ⟨rfl, rfl, rfl, rfl, rfl⟩

theorem addColumn (query : Query) (column aliasName : Value) :
    Akin query (query.addColumn column aliasName) := by
  have hcleared : ∀ fresh : Bool,
      Akin query (if column.isWildcard || fresh then query.reset .columns else query) := by
    intro fresh
    split
    · exact reset query .columns
    · exact refl query
  rw [Query.addColumn]
  split
  · exact (hcleared _).trans (add _ _ _)
  · have hnamed := hcleared query.blank
    exact ⟨hnamed.connection, hnamed.compiler, hnamed.options, hnamed.model, hnamed.type⟩

theorem setTable (query : Query) (table aliasName : Value) :
    Akin query (query.setTable table aliasName) := by
  have htable : Akin query (query.addTable table aliasName) := add query _ _
  rw [Query.setTable]
  split
  · exact htable.trans (addColumn _ _ _)
  · exact htable

theorem setLimit (query : Query) (limit offset : Value) :
    Akin query (query.setLimit limit offset) :=
  (reset query .limit).trans (add _ _ _)

theorem of_read {α : Type} {stage : Except Error α} {clause : Clause}
    {attributes : α → List (String × Value)} {changed : Query}
    (h : (stage >>= fun answer => pure (query.add clause (attributes answer))) = .ok changed) :
    Akin query changed := by
  obtain ⟨_, -, hchanged⟩ := bind_eq_ok.1 h
  obtain rfl := pure_eq_ok.1 hchanged
  exact add query _ _

theorem groupConditions (query : Query) : Akin query query.groupConditions := by
  rw [Query.groupConditions]
  split
  · exact refl query
  · exact (reset query .where).trans (add _ _ _)

/-- The page of a walk differs from the query that is walked over in its clauses only. -/
theorem pageAfter {page : Query} {index cursor size : Value}
    (h : query.pageAfter index cursor size = .ok page) : Akin query page := by
  obtain ⟨filtered, hfiltered, h⟩ := bind_eq_ok.1 h
  obtain ⟨ordered, hordered, h⟩ := bind_eq_ok.1 h
  obtain rfl := pure_eq_ok.1 h
  have hgrouped := (reset query .order).trans (groupConditions _)
  exact hgrouped.trans ((of_read hfiltered).trans ((of_read hordered).trans (setLimit _ _ _)))

end Query.Akin

theorem Edit.akin {edit : Edit} {query changed : Query} (h : edit.change query = .ok changed) :
    query.Akin changed := by
  cases edit with
  | table name aliasName =>
      obtain rfl := Except.ok.inj h
      exact .setTable query _ _
  | column name aliasName =>
      obtain rfl := Except.ok.inj h
      exact .addColumn query _ _
  | limit number offset =>
      obtain rfl := Except.ok.inj h
      exact .setLimit query _ _
  | page number size =>
      obtain ⟨_, -, hchanged⟩ := bind_eq_ok.1 h
      obtain ⟨_, -, hchanged⟩ := bind_eq_ok.1 hchanged
      obtain rfl := pure_eq_ok.1 hchanged
      exact .setLimit query _ _
  | join _ _ _ _ _ | condition _ _ _ _ _ | order _ _ => exact .of_read h
  | fromTable _ _ | group _ | union _ =>
      obtain rfl := Except.ok.inj h
      exact .add query _ _

/-! ### Descriptions -/

variable {κ σ : Type}

/-- A call that describes a statement: the value that is read first; the operand, with the clause
that a callback fills and what any other operand stands for; and the edit that comes of the two. -/
structure Description (κ σ : Type) where
  value : Except Error Value
  operand : Operand κ σ
  clause : Clause
  reference : Value → Value
  edit : Value → Value → Edit

namespace Description

def plain (edit : Edit) : Description κ σ where
  value := .ok .null
  operand := .value .null
  clause := .where
  reference := id
  edit _ _ := edit

def join (table : Value) (first : Operand κ σ) (second operator kind : Value) :
    Description κ σ where
  value := .ok .null
  operand := first
  clause := .where
  reference := Value.asTable
  edit _ settled := .join table settled second operator kind

def condition (clause : Clause) (column : Operand κ σ) (value : Except Error Value)
    (operator keyword : Value) : Description κ σ where
  value
  operand := column
  clause
  reference := Value.asColumn
  edit value settled := .condition clause settled value operator keyword

def run (id : Nat) (description : Description κ σ) : Action κ σ Unit := do
  let value ← description.value
  let settled ← settle id description.clause description.reference description.operand
  attempt id (description.edit value settled).change

end Description

theorem Description.run_condition (id : Nat) (clause : Clause) (column : Operand κ σ)
    (value operator keyword : Value) :
    Session.condition clause id column value operator keyword =
      (Description.condition clause column (.ok value) operator keyword).run id :=
  rfl

/-- How a call describes a statement, if that is what it does. -/
def Call.description? : Call κ σ → Option (Description κ σ)
  | table name aliasName => some (.plain (.table name aliasName))
  | fromTable name aliasName => some (.plain (.fromTable name aliasName))
  | column name aliasName => some (.plain (.column name aliasName))
  | join name operand second operator kind => some (.join name operand second operator kind)
  | leftJoin name operand second operator =>
      some (.join name operand second operator (.text "LEFT"))
  | rightJoin name operand second operator =>
      some (.join name operand second operator (.text "RIGHT"))
  | filter operand value operator keyword =>
      some (.condition .where operand (.ok value) operator keyword)
  | orFilter operand value operator =>
      some (.condition .where operand (.ok value) operator (.text "OR"))
  | filterColumn operand second operator keyword =>
      some (.condition .where operand (.ok second.asColumn) operator keyword)
  | filterIn operand values keyword =>
      some (.condition .where operand (.list <$> values.items) (.text "IN") keyword)
  | filterNotIn operand values keyword =>
      some (.condition .where operand (.list <$> values.items) (.text "NOT IN") keyword)
  | filterNull operand keyword =>
      some (.condition .where operand (.ok (.raw (.text "NULL"))) (.text "IS") keyword)
  | filterNotNull operand keyword =>
      some (.condition .where operand (.ok (.raw (.text "NULL"))) (.text "IS NOT") keyword)
  | having operand value operator keyword =>
      some (.condition .having operand (.ok value) operator keyword)
  | havingColumn operand second operator keyword =>
      some (.condition .having operand (.ok second.asColumn) operator keyword)
  | group name => some (.plain (.group name))
  | order name sort => some (.plain (.order name sort))
  | limit number offset => some (.plain (.limit number offset))
  | page number size => some (.plain (.page number size))
  | union other => some (.plain (.union other))
  | select _ | rows | first | count _ | sum _ | minimum _ | maximum _ | average _ => none
  | insert _ | upsert _ _ _ | update _ | delete | truncate => none

theorem Session.lift_map_bind {α β γ : Type} (make : α → β) (stage : Except Error α)
    (next : β → Action κ σ γ) :
    (liftM (make <$> stage) : Action κ σ β) >>= next =
      (liftM stage : Action κ σ α) >>= fun answer => next (make answer) := by
  cases stage <;> rfl

/-- A step that always succeeds is one that is never refused. -/
theorem Session.change_eq_attempt (id : Nat) (step : Query → Query) :
    (change id step : Action κ σ Unit) = attempt id fun query => .ok (step query) :=
  rfl

variable [Connection κ]

theorem Call.run_eq {call : Call κ σ} {description : Description κ σ}
    (h : call.description? = some description) (id : Nat) :
    call.run id = Call.fluent (description.run id) := by
  cases call with
  | filterIn operand values keyword | filterNotIn operand values keyword =>
      rw [← Option.some.inj h]
      simp only [Call.run, Description.run, Description.condition, lift_map_bind]
      rfl
  | select _ | rows | first | count _ | sum _ | minimum _ | maximum _ | average _ => cases h
  | insert _ | upsert _ _ _ | update _ | delete | truncate => cases h
  | _ =>
      rw [← Option.some.inj h]
      rfl

end SqlBuilder
