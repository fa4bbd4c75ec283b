import SqlBuilder.Proofs.Replacement.Statement

/-!
# Statements of blueprints that are alike

Two stores whose queries and blueprints are alike show them the same way, follow unions to members
that are alike, and have the same text for every query that is mentioned. So two blueprints that
differ in bound values only compile to the same text or fail alike, and the values bound at each
place of the text are the two that stand for each other in the blueprints.
-/

namespace SqlBuilder

open Outcome

variable {R : Value → Value → Prop}

/-- A description counts fragments and shows none. -/
theorem Blueprint.Alike.description_eq {blueprint other : Blueprint}
    (h : blueprint.Alike R other) : blueprint.description = other.description := by
  have hcounted : ∀ clauses others : List (Clause × List Fragment),
      List.Forall₂ (fun clause otherClause => clause.1 = otherClause.1 ∧
        List.Forall₂ (Fragment.Alike R clause.1) clause.2 otherClause.2) clauses others →
      (clauses.map fun entry => Text.quoted entry.1.name ++ ": " ++ toString entry.2.length) =
        others.map fun entry => Text.quoted entry.1.name ++ ": " ++ toString entry.2.length := by
    intro clauses others hall
    induction hall with
    | nil => rfl
    | cons hfirst _ ih =>
        simp only [List.map_cons, ih, hfirst.1, hfirst.2.length_eq]
  exact congrArg₂ (fun (type : StatementType) texts =>
      "Blueprint(type=" ++ Text.quoted type.name ++ ", fragments=" ++
        braced (commaSeparated texts) ++ ")")
    h.type (hcounted _ _ h.clauses)

theorem Query.Alike.description_eq {query other : Query} (h : query.Alike R other) :
    query.description = other.description :=
  congrArg₂ (fun (compiler : Compiler) shown =>
      "Query(dialect=" ++ Text.quoted compiler.dialect.name ++ ", blueprint=" ++ shown ++ ")")
    h.compiler h.blueprint.description_eq

theorem rel_getElem? {α β : Type} {relation : α → β → Prop} {items : List α} {others : List β}
    (h : List.Forall₂ relation items others) (place : Nat) :
    Option.Rel relation items[place]? others[place]? := by
  induction h generalizing place with
  | nil => exact .none
  | cons hfirst _ ih =>
      cases place with
      | zero => exact .some hfirst
      | succ place => exact ih place

namespace Store.Alike

variable {store other : Store} (h : store.Alike R other)
include h

theorem depth_eq : store.depth = other.depth := by
  rw [depth, depth, ← Array.length_toList, ← Array.length_toList, h.queries.length_eq,
    h.detached.length_eq, Array.length_toList, Array.length_toList]

theorem query (id : Nat) : Option.Rel (Query.Alike R) store.queries[id]? other.queries[id]? := by
  rw [← Array.getElem?_toList, ← Array.getElem?_toList]
  exact rel_getElem? h.queries id

theorem blueprint (id : Nat) :
    Option.Rel (Blueprint.Alike R) store.detached[id]? other.detached[id]? := by
  rw [← Array.getElem?_toList, ← Array.getElem?_toList]
  exact rel_getElem? h.detached id

theorem at? (place : Place) :
    Option.Rel (Blueprint.Alike R) (store.at? place) (other.at? place) := by
  cases place with
  | query id =>
      have hquery := h.query id
      simp only [Store.at?]
      generalize store.queries[id]? = query at hquery
      generalize other.queries[id]? = otherQuery at hquery
      cases hquery with
      | none => exact .none
      | some halike => exact .some halike.blueprint
  | blueprint id => exact h.blueprint id

theorem references_eq : store.references = other.references := by
  have hquery (id : Nat) {shown : Query → String}
      (hshown : ∀ query other : Query, query.Alike R other → shown query = shown other) :
      (store.queries[id]?.map shown).getD "" = (other.queries[id]?.map shown).getD "" := by
    have hrelated := h.query id
    generalize store.queries[id]? = query at hrelated
    generalize other.queries[id]? = otherQuery at hrelated
    cases hrelated with
    | none => rfl
    | some halike => exact hshown _ _ halike
  have hblueprint (id : Nat) : (store.detached[id]?.map Blueprint.description).getD "" =
      (other.detached[id]?.map Blueprint.description).getD "" := by
    have hrelated := h.blueprint id
    generalize store.detached[id]? = blueprint at hrelated
    generalize other.detached[id]? = otherBlueprint at hrelated
    cases hrelated with
    | none => rfl
    | some halike => exact halike.description_eq
  rw [references, references, References.mk.injEq]
  exact ⟨funext fun id => hquery id fun _ _ halike => halike.description_eq,
    funext fun id => hquery id fun _ _ halike => halike.blueprint.description_eq,
    funext hblueprint⟩

theorem resolve (value : Value) :
    Related (Blueprint.Alike R) (store.resolve value) (other.resolve value) := by
  rcases store.resolve_eq value with ⟨place, hplace, hresolve⟩ | ⟨hnone, cause, hrefused⟩
  · rcases other.resolve_eq value with ⟨otherPlace, hother, hotherResolve⟩ | ⟨hnone, _⟩
    · obtain rfl : place = otherPlace := Option.some.inj (hplace.symm.trans hother)
      have hat := h.at? place
      rw [hresolve, hotherResolve, atPlace, atPlace]
      generalize store.at? place = standing at hat
      generalize other.at? place = otherStanding at hat
      cases hat with
      | none => exact .error _
      | some halike => exact .ok halike
    · rw [hplace] at hnone
      cases hnone
  · rw [hrefused store, hrefused other]
    exact .error cause

theorem unionTokens {blueprint replaced : Blueprint} (hblueprint : blueprint.Alike R replaced)
    (scope : Scope) (dialect : Dialect) (emptying : String) (depth : Nat) :
    Related (List.Forall₂ (Tokens.Alike R))
      (Statement.unionTokens scope dialect emptying store.resolve depth blueprint)
      (Statement.unionTokens scope dialect emptying other.resolve depth replaced) := by
  have hfragments := hblueprint.fragments_eq .union fun _ _ => id
  induction depth generalizing blueprint replaced with
  | zero =>
      rw [Statement.unionTokens_zero, Statement.unionTokens_zero, hfragments]
      exact Related.mapM (List.forall₂_same.2 fun _ _ => .error _)
  | succ depth ih =>
      rw [Statement.unionTokens_succ, Statement.unionTokens_succ, hfragments]
      refine Related.mapM (List.forall₂_same.2 fun fragment _ => ?_)
      apply (h.resolve (fragment.read "query")).bind
      intro member otherMember hmember
      exact Statement.whole_related dialect emptying hmember
        (ih hmember (hmember.fragments_eq .union fun _ _ => id))

end Store.Alike

/-- Two compiled statements with the same text. -/
structure Compiled.Alike (R : Value → Value → Prop) (compiled other : Compiled) : Prop where
  sql : compiled.sql = other.sql
  dialect : compiled.dialect = other.dialect
  parameters : List.Forall₂ R compiled.parameters other.parameters

namespace Store.Alike

variable {store other : Store} (h : store.Alike R other)
include h

theorem compile_snapshot {blueprint replaced : Blueprint} (hblueprint : blueprint.Alike R replaced)
    (scope : Scope) (compiler : Compiler) :
    Related (Compiled.Alike R) (compiler.compile scope (store.snapshot blueprint))
      (compiler.compile scope (other.snapshot replaced)) := by
  have hunion := h.unionTokens hblueprint scope compiler.dialect compiler.emptying store.depth
  have htokens : TokensRelated R (compiler.tokens scope (store.snapshot blueprint))
      (compiler.tokens scope (other.snapshot replaced)) := by
    rw [Store.snapshot, Store.snapshot, ← h.depth_eq]
    exact Statement.whole_related compiler.dialect compiler.emptying hblueprint hunion
  apply htokens.bind
  intro tokens others hrelated
  exact .ok ⟨hrelated.render_eq _, rfl, hrelated.parameters⟩

theorem scopeWithin_eq (depth : Nat) : store.scopeWithin depth = other.scopeWithin depth := by
  induction depth with
  | zero => rw [scopeWithin, scopeWithin, h.references_eq]
  | succ depth ih =>
      have hreferences : (store.scopeWithin (depth + 1)).toReferences =
          (other.scopeWithin (depth + 1)).toReferences := by
        rw [references_scopeWithin, references_scopeWithin, h.references_eq]
      apply Scope.eq_of_statement hreferences
      intro id
      have hquery := h.query id
      cases hown : store.queries[id]? with
      | none =>
          cases hother : other.queries[id]? with
          | none => rw [statement_scopeWithin_none hown, statement_scopeWithin_none hother]
          | some otherQuery =>
              rw [hown, hother] at hquery
              cases hquery
      | some query =>
          cases hother : other.queries[id]? with
          | none =>
              rw [hown, hother] at hquery
              cases hquery
          | some otherQuery =>
              rw [hown, hother] at hquery
              cases hquery with
              | some halike =>
                  rw [statement_scopeWithin hown, statement_scopeWithin hother, ← ih,
                    halike.compiler]
                  exact (h.compile_snapshot halike.blueprint _ _).map_eq fun _ _ hsame => hsame.sql

end Store.Alike

/-- Values that are bound never reach the text. If two blueprints differ in nothing but such values,
in whatever stores that differ in nothing but such values, either both fail for the same cause and
with the same message, or both compile to the same text, and the values at each place of the
parameters are two that stand for each other. -/
theorem compile_replaced {R : Value → Value → Prop} {store other : Store}
    (hstore : store.Alike R other) {blueprint replaced : Blueprint}
    (hblueprint : blueprint.Alike R replaced) (compiler : Compiler) :
    (∃ cause, store.compile compiler blueprint = .error cause ∧
      other.compile compiler replaced = .error cause ∧
      cause.message? store.references = cause.message? other.references) ∨
    ∃ compiled replacement, store.compile compiler blueprint = .ok compiled ∧
      other.compile compiler replaced = .ok replacement ∧ compiled.sql = replacement.sql ∧
      compiled.parameters.length = replacement.parameters.length ∧
      List.Forall₂ R compiled.parameters replacement.parameters := by
  have hscope : store.scope = other.scope := by
    rw [Store.scope, Store.scope, hstore.depth_eq, hstore.scopeWithin_eq]
  have hrelated := hstore.compile_snapshot hblueprint store.scope compiler
  rw [Store.compile, Store.compile, ← hscope]
  generalize compiler.compile store.scope (store.snapshot blueprint) = result at hrelated
  generalize compiler.compile store.scope (other.snapshot replaced) = otherResult at hrelated
  cases hrelated with
  | error cause => exact .inl ⟨cause, rfl, rfl, by rw [hstore.references_eq]⟩
  | @ok compiled replacement halike =>
      exact .inr ⟨compiled, replacement, rfl, rfl, halike.sql, halike.parameters.length_eq,
        halike.parameters⟩

namespace Blueprint.Alike

theorem empty (type : StatementType) : (Blueprint.empty type).Alike R (Blueprint.empty type) :=
  ⟨rfl, .nil⟩

theorem add {blueprint other : Blueprint} (h : blueprint.Alike R other) {clause : Clause}
    {fragment otherFragment : Fragment} (hfragment : fragment.Alike R clause otherFragment) :
    (blueprint.add clause fragment).Alike R (other.add clause otherFragment) := by
  have hfragments : List.Forall₂ (Fragment.Alike R clause)
      (blueprint.fragments clause ++ [fragment]) (other.fragments clause ++ [otherFragment]) :=
    List.rel_append (h.fragments clause) (.cons hfragment .nil)
  refine ⟨h.type, ?_⟩
  simp only [Blueprint.add, replace]
  generalize blueprint.fragments clause ++ [fragment] = fragments at hfragments
  generalize other.fragments clause ++ [otherFragment] = otherFragments at hfragments
  have hclauses := h.clauses
  generalize blueprint.clauses = clauses at hclauses
  generalize other.clauses = others at hclauses
  induction hclauses with
  | nil => exact .cons ⟨rfl, hfragments⟩ .nil
  | @cons entry otherEntry rest others hfirst hrest ih =>
      rw [Assoc.place, Assoc.place, ← hfirst.1]
      split
      · next hkey => exact .cons ⟨rfl, eq_of_beq hkey ▸ hfragments⟩ hrest
      · exact .cons hfirst ih

end Blueprint.Alike

/-- A value that stands for itself or for which a text with quotes and a question mark stands. -/
def Injected (value other : Value) : Prop :=
  other = value ∨ other = .text "\x27\x60\x22 OR ? --"

def comparing (path operator keyword : String) (value : Value) : Fragment :=
  Fragment.of [("column", .column path), ("value", value), ("operator", .text operator),
    ("boolean", .text keyword)]

theorem comparing_alike {value other : Value} (path operator keyword : String)
    (h : value.OperandAlike R other) :
    Condition.Alike R (comparing path operator keyword value).condition
      (comparing path operator keyword other).condition :=
  .comparison _ _ _ h

def lookup (listed compared : Value) : Blueprint :=
  (Blueprint.empty .select).add .tables (Fragment.of [("table", .table "t")])
    |>.add .where (Fragment.of
      [("column", .group [(comparing "a" "IN" "AND" (.tuple [.int 1, listed])).toValue]),
        ("boolean", .text "AND")])
    |>.add .where (comparing "b" "=" "OR" compared)
    |>.add .union (Fragment.of [("query", .blueprint 0)])

/-- A store with the one member of that union, from the value that it binds. -/
def archive (compared : Value) : Store where
  queries := #[]
  detached := #[(Blueprint.empty .select).add .having (comparing "c" "<" "AND" compared)]

theorem lookup_alike {listed compared otherListed otherCompared : Value}
    (hlisted : R listed otherListed) (hone : R (.int 1) (.int 1))
    (hcompared : compared.OperandAlike R otherCompared) :
    (lookup listed compared).Alike R (lookup otherListed otherCompared) := by
  have hlist : Value.OperandAlike R (.tuple [.int 1, listed]) (.tuple [.int 1, otherListed]) :=
    .items rfl rfl (.cons hone (.cons hlisted .nil))
  have hmembers := Condition.ofFragments_alike (.cons (comparing_alike "a" "IN" "AND" hlist) .nil)
  have htables : Fragment.Alike R .tables (Fragment.of [("table", .table "t")])
      (Fragment.of [("table", .table "t")]) := rfl
  have hgroup : Fragment.Alike R .where
      (Fragment.of [("column", .group [(comparing "a" "IN" "AND"
        (.tuple [.int 1, listed])).toValue]), ("boolean", .text "AND")])
      (Fragment.of [("column", .group [(comparing "a" "IN" "AND"
        (.tuple [.int 1, otherListed])).toValue]), ("boolean", .text "AND")]) :=
    Condition.Alike.group _ hmembers
  have hcomparison : Fragment.Alike R .where (comparing "b" "=" "OR" compared)
      (comparing "b" "=" "OR" otherCompared) := comparing_alike "b" "=" "OR" hcompared
  have hunion : Fragment.Alike R .union (Fragment.of [("query", .blueprint 0)])
      (Fragment.of [("query", .blueprint 0)]) := rfl
  exact ((((Blueprint.Alike.empty .select).add htables).add hgroup).add hcomparison).add hunion

theorem compile_replaced_lookup :
    ∃ compiled replacement,
      (archive (.int 4)).compile Compiler.mysql (lookup (.text "x") .null) = .ok compiled ∧
      (archive (.text "\x27\x60\x22 OR ? --")).compile Compiler.mysql
          (lookup (.text "\x27\x60\x22 OR ? --") (.text "\x27\x60\x22 OR ? --")) =
        .ok replacement ∧
      compiled.sql = replacement.sql ∧
      compiled.parameters.length = replacement.parameters.length ∧
      List.Forall₂ Injected compiled.parameters replacement.parameters := by
  have hinjected : ∀ value : Value, value.isArgument = false → value.collection? = none →
      value.OperandAlike Injected (.text "\x27\x60\x22 OR ? --") :=
    fun value hargument hsingle => .single hargument rfl hsingle rfl (.inr rfl)
  have hstore : (archive (.int 4)).Alike Injected (archive (.text "\x27\x60\x22 OR ? --")) :=
    ⟨.nil, .cons ((Blueprint.Alike.empty .select).add
      (comparing_alike "c" "<" "AND" (hinjected _ rfl rfl))) .nil⟩
  have hblueprint : (lookup (.text "x") .null).Alike Injected
      (lookup (.text "\x27\x60\x22 OR ? --") (.text "\x27\x60\x22 OR ? --")) :=
    lookup_alike (.inr rfl) (.inl rfl) (hinjected _ rfl rfl)
  have hcompiles : (archive (.int 4)).compile Compiler.mysql (lookup (.text "x") .null) = .ok
      ⟨"FROM \x60t\x60 WHERE (\x60a\x60 IN (?, ?)) OR \x60b\x60 = ? UNION HAVING \x60c\x60 < ?",
        [.int 1, .text "x", .null, .int 4], .mysql⟩ := by with_unfolding_all rfl
  rcases compile_replaced hstore hblueprint Compiler.mysql with ⟨cause, herror, -⟩ | hcompiled
  · rw [hcompiles] at herror
    cases herror
  · exact hcompiled

end SqlBuilder
