import SqlBuilder.Proofs.Emission
import SqlBuilder.Store

/-!
# The clauses of a select

The clauses of a select are compiled independently of each other, one after the other, so two
selects that agree on the fragments of a clause agree on what that clause compiles to, whether it
can be compiled or not. The statement binds what its clauses bind, in their order.
-/

namespace SqlBuilder

open Outcome Ingredient

/-- What each clause of a select compiles to. -/
@[ext]
structure Clauses where
  columns : Except Error Tokens
  tables : Except Error Tokens
  joins : Except Error Tokens
  filter : Except Error Tokens
  groups : Except Error Tokens
  having : Except Error Tokens
  orders : Except Error Tokens
  limit : Except Error Tokens
  unions : Except Error Tokens

namespace Clauses

def of (scope : Scope) (blueprint : Blueprint) (members : Except Error (List Tokens)) :
    Clauses where
  columns := Statement.columns scope "SELECT" blueprint
  tables := Statement.tables scope "FROM" blueprint
  joins := Statement.joins scope "" blueprint
  filter := Statement.conditions scope "WHERE" .where blueprint
  groups := Statement.groups scope "GROUP BY" blueprint
  having := Statement.conditions scope "HAVING" .having blueprint
  orders := Statement.orders scope "ORDER BY" blueprint
  limit := Statement.limits "LIMIT" blueprint
  unions := Statement.unions "UNION" <$> members

variable (clauses : Clauses)

def list : List (Except Error Tokens) :=
  [clauses.columns, clauses.tables, clauses.joins, clauses.filter, clauses.groups, clauses.having,
    clauses.orders, clauses.limit, clauses.unions]

/-- The whole statement. The first clause that cannot be compiled decides how it fails. -/
def whole : Except Error Tokens := do
  return Tokens.trim (Tokens.spaced (← clauses.list.mapM id))

/-- What a clause binds. One that cannot be compiled binds nothing. -/
def bound : Except Error Tokens → List Value
  | .ok tokens => tokens.parameters
  | .error _ => []

def before : List Value :=
  bound clauses.columns ++ bound clauses.tables ++ bound clauses.joins

def behind : List Value :=
  bound clauses.groups ++ bound clauses.having ++ bound clauses.unions

variable {clauses} {scope : Scope} {blueprint : Blueprint} {members : Except Error (List Tokens)}
  {tokens : Tokens}

theorem whole_of (htype : blueprint.type = .select) (dialect : Dialect) (emptying : String) :
    Statement.whole scope dialect emptying blueprint members =
      (of scope blueprint members).whole := by
  rw [Statement.whole, Statement.parts_eq, Statement.demand, Statement.clauses, htype]
  rfl

theorem exists_whole_iff : (∃ tokens, clauses.whole = .ok tokens) ↔
    ∀ clause ∈ clauses.list, ∃ tokens, clause = .ok tokens := by
  constructor
  · rintro ⟨tokens, htokens⟩ clause hclause
    obtain ⟨pieces, hpieces, -⟩ := bind_eq_ok.1 htokens
    exact exists_of_mapM hpieces hclause
  · intro h
    obtain ⟨pieces, hpieces, -⟩ := exists_mapM (f := id) (P := fun _ _ => True)
      fun clause hclause => (h clause hclause).imp fun _ htokens => ⟨htokens, trivial⟩
    rw [whole, hpieces]
    exact ⟨_, rfl⟩

/-- Whether a select can be compiled does not depend on which conditions it has. -/
theorem exists_whole_withFilter (h : clauses.whole = .ok tokens) (filter : Tokens) :
    ∃ tokens, { clauses with filter := .ok filter }.whole = .ok tokens := by
  have hclauses := exists_whole_iff.1 ⟨tokens, h⟩
  rw [exists_whole_iff]
  simp only [list, List.forall_mem_cons] at hclauses ⊢
  obtain ⟨hcolumns, htables, hjoins, -, hbehind⟩ := hclauses
  exact ⟨hcolumns, htables, hjoins, ⟨filter, rfl⟩, hbehind⟩

theorem parameters_mapM {list : List (Except Error Tokens)} {pieces : List Tokens}
    (h : list.mapM id = .ok pieces) :
    pieces.flatMap Tokens.parameters = list.flatMap bound := by
  have hpieces := mapM_eq_ok.1 h
  clear h
  induction hpieces with
  | nil => rfl
  | @cons clause piece _ _ hclause _ ih =>
      obtain rfl : clause = .ok piece := hclause
      rw [List.flatMap_cons, List.flatMap_cons, ih, bound]

theorem bound_orders : bound (of scope blueprint members).orders = [] := by
  cases horders : (of scope blueprint members).orders with
  | error cause => rfl
  | ok tokens =>
      have hassembled : Assembled scope _ tokens := .orders (by decide) horders
      rw [bound, hassembled.parameters]
      exact bound_flatMap Statement.bound_orderIngredients

theorem bound_limit : bound (of scope blueprint members).limit = [] := by
  cases hlimit : (of scope blueprint members).limit with
  | error cause => rfl
  | ok tokens =>
      have hassembled : Assembled scope [] tokens := .limits (by decide) hlimit
      exact hassembled.parameters

theorem parameters_whole (h : (of scope blueprint members).whole = .ok tokens) :
    tokens.parameters = (of scope blueprint members).before ++
      bound (of scope blueprint members).filter ++ (of scope blueprint members).behind := by
  obtain ⟨pieces, hpieces, htokens⟩ := bind_eq_ok.1 h
  obtain rfl := pure_eq_ok.1 htokens
  rw [Tokens.parameters_trim, Tokens.parameters_spaced, parameters_mapM hpieces, list, before,
    behind]
  simp only [List.flatMap_cons, List.flatMap_nil, bound_orders, bound_limit, List.append_nil,
    List.nil_append, List.append_assoc]

end Clauses

namespace Store

variable (store : Store)

def clauses (query : Query) : Clauses :=
  .of store.scope query.blueprint
    (Statement.membersTokens store.scope query.compiler.dialect query.compiler.emptying
      (store.snapshot query.blueprint).members)

theorem build_select (query : Query) (htype : query.blueprint.type = .select) :
    store.build query = query.compiler.finish <$> (store.clauses query).whole := by
  have htokens : query.compiler.tokens store.scope (store.snapshot query.blueprint) =
      (store.clauses query).whole := Clauses.whole_of htype _ _
  rw [build, compile, Compiler.compile, htokens]
  rfl

theorem clauses_withType (query : Query) (type : StatementType) :
    store.clauses (query.withType type) = store.clauses query := rfl

theorem parameters_select (query : Query) {compiled : Compiled}
    (htype : query.blueprint.type = .select) (h : store.build query = .ok compiled) :
    compiled.parameters = (store.clauses query).before ++
      Clauses.bound (store.clauses query).filter ++ (store.clauses query).behind := by
  rw [store.build_select query htype] at h
  obtain ⟨tokens, htokens, rfl⟩ := map_eq_ok.1 h
  exact Clauses.parameters_whole htokens

end Store

end SqlBuilder
