import SqlBuilder.Proofs.Approximation.Statement
import SqlBuilder.Proofs.Outcome

/-!
# How deep references are followed

A store follows unions and mentions to a depth that exceeds the number of its queries and
blueprints. The results of that depth are those of every greater one, whether references run in
circles or not: a result that is still cut off there depends on itself and is cut off at every
depth. So what a query builds to does not depend on how many other queries there are.
-/

namespace SqlBuilder

open Outcome Ingredient

namespace Statement

variable {scope better : Scope} {dialect : Dialect} {emptying : String}

def unionTokens (scope : Scope) (dialect : Dialect) (emptying : String)
    (resolve : Value → Except Error Blueprint) (depth : Nat) (blueprint : Blueprint) :
    Except Error (List Tokens) :=
  membersTokens scope dialect emptying (Snapshot.membersOf resolve depth blueprint)

theorem membersTokens_map {α : Type} (member : α → Member) (items : List α) :
    membersTokens scope dialect emptying (items.map member) =
      items.mapM fun item => memberTokens scope dialect emptying (member item) := by
  induction items with
  | nil =>
      rw [List.map_nil, membersTokens]
      rfl
  | cons item rest ih => rw [List.map_cons, membersTokens, ih, List.mapM_cons]

variable {resolve other : Value → Except Error Blueprint} {blueprint : Blueprint}

theorem unionTokens_zero :
    unionTokens scope dialect emptying resolve 0 blueprint =
      (blueprint.fragments .union).mapM fun _ => .error .endless := by
  rw [unionTokens, Snapshot.membersOf, membersTokens_map]
  simp only [memberTokens]

theorem unionTokens_succ (depth : Nat) :
    unionTokens scope dialect emptying resolve (depth + 1) blueprint =
      (blueprint.fragments .union).mapM fun fragment => (do
        let member ← resolve (fragment.read "query")
        whole scope dialect emptying member
          (unionTokens scope dialect emptying resolve depth member)) := by
  rw [unionTokens, Snapshot.membersOf, membersTokens_map]
  apply congrArg fun step => (blueprint.fragments .union).mapM step
  funext fragment
  cases resolve (fragment.read "query") with
  | error cause => simp only [memberTokens, error_bind]
  | ok member => simp only [memberTokens, unionTokens, ok_bind]

/-- Blueprints whose statements mention only the given places, and whose unions have only such
members, the same ones under two readings of references. -/
structure Region (places : Set Place) (resolve other : Value → Except Error Blueprint)
    (blueprints : Set Blueprint) : Prop where
  within : ∀ blueprint ∈ blueprints, Within places (ingredients .sqlite blueprint [])
  resolved : ∀ blueprint ∈ blueprints, ∀ fragment ∈ blueprint.fragments .union,
    resolve (fragment.read "query") = other (fragment.read "query")
  member : ∀ blueprint ∈ blueprints, ∀ fragment ∈ blueprint.fragments .union, ∀ member,
    resolve (fragment.read "query") = .ok member → member ∈ blueprints

theorem Region.univ (resolve : Value → Except Error Blueprint) :
    Region Set.univ resolve resolve Set.univ where
  within _ _ _ _ _ _ := Set.mem_univ _
  resolved _ _ _ _ := rfl
  member _ _ _ _ _ _ := Set.mem_univ _

variable {places : Set Place} {blueprints : Set Blueprint}

theorem Region.unionTokens (hregion : Region places resolve other blueprints)
    (hscope : scope.Approximates places better) {depth deeper : Nat} (hdepth : depth ≤ deeper)
    (hblueprint : blueprint ∈ blueprints) :
    Outcome.Approximates (unionTokens scope dialect emptying resolve depth blueprint)
      (unionTokens better dialect emptying other deeper blueprint) := by
  induction depth generalizing deeper blueprint with
  | zero =>
      cases deeper with
      | zero =>
          rw [unionTokens_zero, unionTokens_zero]
          exact .refl _
      | succ deeper =>
          rw [unionTokens_zero, unionTokens_succ]
          exact .mapM fun _ _ => .endless _
  | succ depth ih =>
      obtain ⟨deeper, rfl⟩ : ∃ other, deeper = other + 1 := ⟨deeper - 1, by omega⟩
      rw [unionTokens_succ, unionTokens_succ]
      apply Outcome.Approximates.mapM
      intro fragment hfragment
      rw [← hregion.resolved blueprint hblueprint fragment hfragment]
      apply Outcome.Approximates.after
      intro member hmember
      have hmem := hregion.member blueprint hblueprint fragment hfragment member hmember
      exact hscope.whole (hregion.within member hmem) (ih (by omega) hmem)

theorem Region.compile (hregion : Region places resolve other blueprints)
    (hscope : scope.Approximates places better) {depth deeper : Nat} (hdepth : depth ≤ deeper)
    (hblueprint : blueprint ∈ blueprints) (compiler : Compiler) :
    Outcome.Approximates (compiler.compile scope (Snapshot.take resolve depth blueprint))
      (compiler.compile better (Snapshot.take other deeper blueprint)) := by
  have hunion : Outcome.Approximates
      (Statement.unionTokens scope compiler.dialect compiler.emptying resolve depth blueprint)
      (Statement.unionTokens better compiler.dialect compiler.emptying other deeper blueprint) :=
    hregion.unionTokens hscope hdepth hblueprint
  apply (hscope.whole (hregion.within blueprint hblueprint) hunion).bind
  intro tokens
  exact .refl _

end Statement

/-- A scope is what it shows and what it takes queries to stand for. -/
theorem Scope.eq_of_statement {scope other : Scope}
    (hreferences : scope.toReferences = other.toReferences)
    (hstatement : ∀ id, scope.statement id = other.statement id) : scope = other := by
  have hfunction := funext hstatement
  cases scope
  cases other
  cases hreferences
  cases hfunction
  rfl

namespace Scope.Approximates

variable {scope better : Scope}

theorem of_references {places : Set Place} (h : scope.toReferences = better.toReferences)
    (hstatement : ∀ id, .query id ∈ places →
      Outcome.Approximates (scope.statement id) (better.statement id)) :
    scope.Approximates places better where
  references := h ▸ .refl places scope.toReferences
  statement := hstatement

theorem refl (places : Set Place) (scope : Scope) : scope.Approximates places scope :=
  of_references rfl fun _ _ => .refl _

end Scope.Approximates

namespace Store

variable (store : Store)

def blueprints : List Blueprint :=
  store.queries.toList.map (·.blueprint) ++ store.detached.toList

theorem mem_blueprints_of_at? {place : Place} {blueprint : Blueprint}
    (h : store.at? place = some blueprint) : blueprint ∈ store.blueprints := by
  rw [blueprints, List.mem_append]
  cases place with
  | query id =>
      obtain ⟨query, hquery, rfl⟩ := Option.map_eq_some_iff.1 h
      exact .inl (List.mem_map_of_mem (Array.mem_toList_iff.2 (Array.mem_of_getElem? hquery)))
  | blueprint id => exact .inr (Array.mem_toList_iff.2 (Array.mem_of_getElem? h))

noncomputable def region : Finset Blueprint :=
  open Classical in store.blueprints.toFinset

theorem mem_region {blueprint : Blueprint} :
    blueprint ∈ store.region ↔ blueprint ∈ store.blueprints := by
  simp [region]

theorem card_region_lt : store.region.card < store.depth := by
  have hcard : store.region.card ≤ store.blueprints.length := by
    classical
    exact List.toFinset_card_le _
  have hlength : store.blueprints.length = store.queries.size + store.detached.size := by
    simp [blueprints]
  rw [depth]
  omega

theorem rising_unionTokens (scope : Scope) (dialect : Dialect) (emptying : String) :
    Rising store.region (Statement.unionTokens scope dialect emptying store.resolve) where
  rises depth blueprint :=
    (Statement.Region.univ store.resolve).unionTokens (.refl _ _) (Nat.le_succ depth)
      (Set.mem_univ blueprint)
  settled depth other h blueprint := by
    rw [Statement.unionTokens_succ, Statement.unionTokens_succ]
    apply congrArg fun step => (blueprint.fragments .union).mapM step
    funext fragment
    cases hmember : store.resolve (fragment.read "query") with
    | error cause => rw [error_bind, error_bind]
    | ok member =>
        obtain ⟨place, _, hat⟩ := store.at?_of_resolve hmember
        have hmem := store.mem_region.2 (store.mem_blueprints_of_at? hat)
        rw [ok_bind, ok_bind, h member hmem]

/-- Following unions deeper than the store does makes no difference. -/
theorem compile_take {depth : Nat} (hdepth : store.depth ≤ depth) (compiler : Compiler)
    (scope : Scope) (blueprint : Blueprint) :
    compiler.compile scope (Snapshot.take store.resolve depth blueprint) =
      compiler.compile scope (store.snapshot blueprint) := by
  have hcard := store.card_region_lt
  have hunion :
      Statement.unionTokens scope compiler.dialect compiler.emptying store.resolve depth blueprint =
        Statement.unionTokens scope compiler.dialect compiler.emptying store.resolve store.depth
          blueprint :=
    (store.rising_unionTokens scope compiler.dialect compiler.emptying).stable (by omega) (by omega)
      blueprint
  rw [Compiler.compile, Compiler.compile]
  have htokens : compiler.tokens scope (Snapshot.take store.resolve depth blueprint) =
      compiler.tokens scope (store.snapshot blueprint) :=
    congrArg (Statement.whole scope compiler.dialect compiler.emptying blueprint) hunion
  rw [htokens]

variable {store}

theorem statement_scopeWithin {id : Nat} {query : Query}
    (h : store.queries[id]? = some query) (depth : Nat) :
    (store.scopeWithin (depth + 1)).statement id =
      Compiled.sql <$> query.compiler.compile (store.scopeWithin depth)
        (store.snapshot query.blueprint) := by
  simp only [scopeWithin, h]
  rfl

theorem statement_scopeWithin_none {id : Nat} (h : store.queries[id]? = none) (depth : Nat) :
    (store.scopeWithin (depth + 1)).statement id = .error .noAttribute := by
  simp only [scopeWithin, h]
  rfl

variable (store)

theorem references_scopeWithin (depth : Nat) :
    (store.scopeWithin depth).toReferences = store.references := by
  cases depth <;> rfl

theorem references_eq (depth other : Nat) :
    (store.scopeWithin depth).toReferences = (store.scopeWithin other).toReferences := by
  rw [references_scopeWithin, references_scopeWithin]

theorem scopeWithin_congr {depth other : Nat}
    (h : ∀ id, (store.scopeWithin depth).statement id = (store.scopeWithin other).statement id) :
    store.scopeWithin depth = store.scopeWithin other :=
  Scope.eq_of_statement (store.references_eq depth other) h

theorem scopeWithin_approximates (depth : Nat) :
    (store.scopeWithin depth).Approximates Set.univ (store.scopeWithin (depth + 1)) := by
  induction depth with
  | zero =>
      apply Scope.Approximates.of_references (store.references_eq _ _)
      intro id _
      exact .endless _
  | succ depth ih =>
      apply Scope.Approximates.of_references (store.references_eq _ _)
      intro id _
      cases hquery : store.queries[id]? with
      | none =>
          rw [statement_scopeWithin_none hquery, statement_scopeWithin_none hquery]
          exact .refl _
      | some query =>
          rw [statement_scopeWithin hquery, statement_scopeWithin hquery]
          have hcompile := (Statement.Region.univ store.resolve).compile ih
            (le_refl store.depth) (Set.mem_univ query.blueprint) query.compiler
          exact hcompile.map Compiled.sql

theorem rising_statements :
    Rising (Finset.range store.queries.size)
      fun depth => (store.scopeWithin (depth + 1)).statement where
  rises depth id := (store.scopeWithin_approximates (depth + 1)).statement id (Set.mem_univ _)
  settled depth other h id := by
    have hscope : store.scopeWithin (depth + 1) = store.scopeWithin (other + 1) := by
      apply store.scopeWithin_congr
      intro id
      by_cases hid : id < store.queries.size
      · exact h id (Finset.mem_range.2 hid)
      · have hnone := Array.getElem?_eq_none (Nat.le_of_not_lt hid)
        rw [statement_scopeWithin_none hnone, statement_scopeWithin_none hnone]
    cases hquery : store.queries[id]? with
    | none => rw [statement_scopeWithin_none hquery, statement_scopeWithin_none hquery]
    | some query => rw [statement_scopeWithin hquery, statement_scopeWithin hquery, hscope]

/-- Following mentions deeper than the store does makes no difference. -/
theorem scopeWithin_eq {depth : Nat} (hdepth : store.depth ≤ depth) :
    store.scopeWithin depth = store.scope := by
  have hcard : (Finset.range store.queries.size).card = store.queries.size := Finset.card_range _
  have hsize : store.queries.size < store.depth := by
    rw [Store.depth]
    omega
  obtain ⟨before, hbefore⟩ : ∃ before, depth = before + 1 := ⟨depth - 1, by omega⟩
  obtain ⟨own, hown⟩ : ∃ own, store.depth = own + 1 := ⟨store.depth - 1, by omega⟩
  rw [scope, hown, hbefore]
  apply store.scopeWithin_congr
  intro id
  by_cases hid : id < store.queries.size
  · exact store.rising_statements.stable_of_mem (by omega) (by omega) (Finset.mem_range.2 hid)
  · have hnone := Array.getElem?_eq_none (Nat.le_of_not_lt hid)
    rw [statement_scopeWithin_none hnone, statement_scopeWithin_none hnone]

/-- A blueprint itself, the members of its union, those of their unions, and so on. -/
inductive Includes (blueprint : Blueprint) : Blueprint → Prop where
  | itself : Includes blueprint blueprint
  | member {member next : Blueprint} {fragment : Fragment} (h : Includes blueprint member)
      (hfragment : fragment ∈ member.fragments .union)
      (hnext : store.resolve (fragment.read "query") = .ok next) : Includes blueprint next

variable {store} {blueprint : Blueprint}

theorem Includes.through {member next : Blueprint} {fragment : Fragment}
    (hfragment : fragment ∈ blueprint.fragments .union)
    (hmember : store.resolve (fragment.read "query") = .ok member)
    (h : store.Includes member next) : store.Includes blueprint next := by
  induction h with
  | itself => exact .member .itself hfragment hmember
  | member _ hinner hnext ih => exact .member ih hinner hnext

theorem Includes.mem_blueprints {member : Blueprint} (h : store.Includes blueprint member) :
    member = blueprint ∨ member ∈ store.blueprints := by
  cases h with
  | itself => exact .inl rfl
  | member _ _ hnext =>
      obtain ⟨place, -, hat⟩ := store.at?_of_resolve hnext
      exact .inr (store.mem_blueprints_of_at? hat)

/-- What mentions nothing and includes nothing that does is compiled alike in all scopes. -/
theorem compile_eq_of_mentions {scope other : Scope}
    (h : ∀ member, store.Includes blueprint member → member.mentions = []) (compiler : Compiler) :
    compiler.compile scope (store.snapshot blueprint) =
      compiler.compile other (store.snapshot blueprint) := by
  have hregion : Statement.Region ∅ store.resolve store.resolve
      {member | store.Includes blueprint member} :=
    { within := fun member hmember ingredient hingredient place hplace => by
        have hmention : place ∈ member.mentions :=
          List.mem_flatMap.2 ⟨ingredient, hingredient, hplace⟩
        rw [h member hmember] at hmention
        exact absurd hmention List.not_mem_nil
      resolved := fun _ _ _ _ => rfl
      member := fun _ hmember _ hfragment _ hnext => .member hmember hfragment hnext }
  have hscope (scope better : Scope) : scope.Approximates ∅ better :=
    ⟨⟨fun _ => False.elim, fun _ => False.elim, fun _ => False.elim⟩, fun _ => False.elim⟩
  exact (hregion.compile (hscope scope other) (le_refl store.depth) .itself compiler).antisymm
    (hregion.compile (hscope other scope) (le_refl store.depth) .itself compiler)

end Store

end SqlBuilder
