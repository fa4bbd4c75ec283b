import SqlBuilder.Proofs.Unions
import Mathlib.Logic.Relation

/-!
# Evaluations that come to an end

What a query is compiled to is settled by what the members of its union and the queries that it
writes out are compiled to, and these by what theirs are. Nothing says that this comes to an end. A
store cuts it off at a depth. An evaluation does not know of a depth: it is a tree in which every
statement has evaluations of all that it is compiled from below it. There is one if and only if no
circle can be reached, and then what it leads to is what the store builds.

A query that is only described, as one inside a list is, need not be compiled, and neither need one
in a clause that its statement type does not have. So what counts, apart from the members of a
union, is not which queries a statement mentions but which ones it depends on.
-/

namespace SqlBuilder

open Outcome Ingredient

def Place.query? : Place → Option Nat
  | query id => some id
  | blueprint _ => none

namespace Scope

variable (scope : Scope) {other : Scope} {id : Nat} {ids : List Nat}

/-- A scope in which some queries are written out as in another one. -/
def mixed (other : Scope) (ids : List Nat) : Scope :=
  { scope with
    statement := fun id => if id ∈ ids then other.statement id else scope.statement id }

theorem statement_mixed_cons {next : Nat} (hne : next ≠ id) :
    (scope.mixed other (id :: ids)).statement next = (scope.mixed other ids).statement next := by
  simp only [mixed, List.mem_cons, hne, false_or]

theorem mixed_cons_of_eq (h : scope.statement id = other.statement id) :
    scope.mixed other (id :: ids) = scope.mixed other ids := by
  have hreferences : (scope.mixed other (id :: ids)).toReferences =
      (scope.mixed other ids).toReferences := rfl
  apply eq_of_statement hreferences
  intro next
  by_cases hne : next = id
  · subst hne
    simp only [mixed, List.mem_cons, true_or, h, ite_self]
  · exact scope.statement_mixed_cons hne

end Scope

namespace Store

variable (store : Store)

def places : Finset Place :=
  (Finset.range store.queries.size).image .query ∪
    (Finset.range store.detached.size).image .blueprint

theorem mem_places {store : Store} {place : Place} {standing : Blueprint}
    (h : store.at? place = some standing) : place ∈ store.places := by
  rw [places, Finset.mem_union]
  cases place with
  | query id =>
      obtain ⟨query, hquery, -⟩ := Option.map_eq_some_iff.1 h
      obtain ⟨hsize, -⟩ := Array.getElem?_eq_some_iff.1 hquery
      exact .inl (Finset.mem_image_of_mem _ (Finset.mem_range.2 hsize))
  | blueprint id =>
      obtain ⟨hsize, -⟩ := Array.getElem?_eq_some_iff.1 h
      exact .inr (Finset.mem_image_of_mem _ (Finset.mem_range.2 hsize))

/-! ### One layer -/

def tokens (compiler : Compiler) (blueprint : Blueprint) : Except Error Tokens :=
  compiler.tokens store.scope (store.snapshot blueprint)

def statement (id : Nat) : Except Error Tokens :=
  match store.queries[id]? with
  | none => .error .noAttribute
  | some query => store.tokens query.compiler query.blueprint

/-- The scope in which every query is written out as the text of the given statement. -/
def scopeOf (statement : Nat → Except Error Tokens) : Scope :=
  { store.references with
    statement := fun id =>
      match store.queries[id]? with
      | none => .error .noAttribute
      | some query => (fun tokens => (query.compiler.finish tokens).sql) <$> statement id }

/-- What a blueprint is compiled to where queries are compiled to the given statements and the
members of unions to the given tokens. -/
def layer (compiler : Compiler) (statement : Nat → Except Error Tokens)
    (member : Blueprint → Except Error Tokens) (blueprint : Blueprint) : Except Error Tokens :=
  Statement.whole (store.scopeOf statement) compiler.dialect compiler.emptying blueprint
    ((blueprint.fragments .union).mapM fun fragment =>
      store.resolve (fragment.read "query") >>= member)

theorem build_eq_tokens (query : Query) :
    store.build query =
      query.compiler.finish <$> store.tokens query.compiler query.blueprint := by
  rw [map_eq_pure_bind]
  rfl

theorem statement_scope {id : Nat} {query : Query} (h : store.queries[id]? = some query) :
    store.scope.statement id = Compiled.sql <$> store.build query := by
  rw [← store.scopeWithin_eq (Nat.le_succ store.depth), statement_scopeWithin h]
  rfl

theorem scope_eq : store.scope = store.scopeOf store.statement := by
  apply Scope.eq_of_statement (store.references_scopeWithin _)
  intro id
  cases h : store.queries[id]? with
  | none =>
      rw [← store.scopeWithin_eq (Nat.le_succ store.depth), statement_scopeWithin_none h]
      simp only [scopeOf, h]
  | some query =>
      rw [store.statement_scope h, build_eq_tokens]
      simp only [scopeOf, statement, h, Functor.map_map]

/-- What the store makes of a blueprint is one layer over what it makes of all the others. -/
theorem tokens_eq_layer (compiler : Compiler) (blueprint : Blueprint) :
    store.tokens compiler blueprint =
      store.layer compiler store.statement (store.tokens compiler) blueprint := by
  rw [tokens, Compiler.tokens, Statement.tokens, membersTokens_snapshot, layer, ← scope_eq]
  rfl

/-! ### What a statement depends on -/

/-- Whether it can make a difference to the statement of a blueprint what a query is written out
as. -/
def Consults (blueprint : Blueprint) (id : Nat) : Prop :=
  ∃ (dialect : Dialect) (emptying : String) (members : Except Error (List Tokens))
    (scope other : Scope), scope.toReferences = store.references ∧
      other.toReferences = store.references ∧
      (∀ next, next ≠ id → scope.statement next = other.statement next) ∧
      Statement.whole scope dialect emptying blueprint members ≠
        Statement.whole other dialect emptying blueprint members

variable {store}

theorem whole_eq_of_mentions {scope other : Scope} {dialect : Dialect} {emptying : String}
    {blueprint : Blueprint} {members : Except Error (List Tokens)}
    (hreferences : scope.toReferences = other.toReferences)
    (h : ∀ id, .query id ∈ blueprint.mentions → scope.statement id = other.statement id) :
    Statement.whole scope dialect emptying blueprint members =
      Statement.whole other dialect emptying blueprint members := by
  have hwithin : Within {place | place ∈ blueprint.mentions}
      (Statement.ingredients .sqlite blueprint []) :=
    fun ingredient hingredient place hplace =>
      List.mem_flatMap.2 ⟨ingredient, hingredient, hplace⟩
  have hscope : scope.Approximates {place | place ∈ blueprint.mentions} other :=
    .of_references hreferences fun id hid => .inr (h id hid)
  have hback : other.Approximates {place | place ∈ blueprint.mentions} scope :=
    .of_references hreferences.symm fun id hid => .inr (h id hid).symm
  exact (hscope.whole hwithin (.refl _)).antisymm (hback.whole hwithin (.refl _))

theorem Consults.mem_mentions {blueprint : Blueprint} {id : Nat} (h : store.Consults blueprint id) :
    .query id ∈ blueprint.mentions := by
  obtain ⟨dialect, emptying, members, scope, other, hscope, hother, hsame, hne⟩ := h
  by_contra hnot
  refine hne (whole_eq_of_mentions (hscope.trans hother.symm) fun next hnext => hsame next ?_)
  rintro rfl
  exact hnot hnext

/-- A statement is the same in scopes that agree on all queries that it consults. -/
theorem whole_eq_of_consults {scope other : Scope} {dialect : Dialect} {emptying : String}
    {blueprint : Blueprint} {members : Except Error (List Tokens)}
    (hscope : scope.toReferences = store.references)
    (hother : other.toReferences = store.references)
    (h : ∀ id, store.Consults blueprint id → scope.statement id = other.statement id) :
    Statement.whole scope dialect emptying blueprint members =
      Statement.whole other dialect emptying blueprint members := by
  have hreferences : ∀ ids, (scope.mixed other ids).toReferences = store.references :=
    fun _ => hscope
  -- one query after the other is written out as in the other scope
  have hmixed : ∀ ids, Statement.whole scope dialect emptying blueprint members =
      Statement.whole (scope.mixed other ids) dialect emptying blueprint members := by
    intro ids
    induction ids with
    | nil => rfl
    | cons id rest ih =>
        rw [ih]
        by_cases hconsults : store.Consults blueprint id
        · rw [scope.mixed_cons_of_eq (h id hconsults)]
        · by_contra hne
          refine hconsults ⟨dialect, emptying, members, _, _, hreferences rest,
            hreferences (id :: rest), ?_, hne⟩
          exact fun next hnext => (scope.statement_mixed_cons hnext).symm
  rw [hmixed (blueprint.mentions.filterMap Place.query?)]
  apply whole_eq_of_mentions ((hreferences _).trans hother.symm)
  intro id hid
  have hmem : id ∈ blueprint.mentions.filterMap Place.query? :=
    List.mem_filterMap.2 ⟨.query id, hid, rfl⟩
  exact if_pos hmem

variable {compiler : Compiler} {blueprint : Blueprint}

theorem layer_congr {statement other : Nat → Except Error Tokens}
    {member standing : Blueprint → Except Error Tokens}
    (hstatement : ∀ id query, store.Consults blueprint id → store.queries[id]? = some query →
      statement id = other id)
    (hmember : ∀ fragment ∈ blueprint.fragments .union, ∀ inner,
      store.resolve (fragment.read "query") = .ok inner → member inner = standing inner) :
    store.layer compiler statement member blueprint =
      store.layer compiler other standing blueprint := by
  have hmembers : ((blueprint.fragments .union).mapM fun fragment =>
      store.resolve (fragment.read "query") >>= member) =
        (blueprint.fragments .union).mapM fun fragment =>
          store.resolve (fragment.read "query") >>= standing := by
    apply mapM_congr
    intro fragment hfragment
    cases hresolve : store.resolve (fragment.read "query") with
    | error cause => rfl
    | ok inner => exact hmember fragment hfragment inner hresolve
  rw [layer, layer, hmembers]
  apply whole_eq_of_consults rfl rfl
  intro id hconsults
  simp only [scopeOf]
  cases hquery : store.queries[id]? with
  | none => rfl
  | some query => rw [hstatement id query hconsults hquery]

/-! ### Evaluations -/

/-- A finite tree of statements, each of which is compiled from what its branches lead to. The
members of a union are compiled by the same compiler, and queries that are written out by their
own. -/
inductive Evaluates (store : Store) : Compiler → Blueprint → Except Error Tokens → Prop
  | layer {compiler : Compiler} {blueprint : Blueprint} {statement : Nat → Except Error Tokens}
      {member : Blueprint → Except Error Tokens}
      (consulted : ∀ id query, store.Consults blueprint id → store.queries[id]? = some query →
        Evaluates store query.compiler query.blueprint (statement id))
      (united : ∀ fragment ∈ blueprint.fragments .union, ∀ inner,
        store.resolve (fragment.read "query") = .ok inner →
          Evaluates store compiler inner (member inner)) :
      Evaluates store compiler blueprint (store.layer compiler statement member blueprint)

/-- An evaluation leads to what the store makes of the blueprint. -/
theorem Evaluates.eq_tokens {result : Except Error Tokens}
    (h : store.Evaluates compiler blueprint result) : result = store.tokens compiler blueprint := by
  induction h with
  | layer _ _ hconsulted hunited =>
      rw [tokens_eq_layer]
      apply layer_congr
      · intro id query hconsults hquery
        rw [hconsulted id query hconsults hquery]
        simp only [Store.statement, hquery]
      · exact hunited

variable (store) in
/-- The places of all that a blueprint is compiled from. -/
def Leads (blueprint : Blueprint) (next : Place) : Prop :=
  next ∈ blueprint.memberPlaces ∨ ∃ id, next = .query id ∧ store.Consults blueprint id

variable (store) in
/-- Whether what stands at one place is compiled from what stands at another. -/
def Follows (place next : Place) : Prop :=
  ∃ blueprint, store.at? place = some blueprint ∧ store.Leads blueprint next

theorem Leads.mem_places {next : Place} (h : store.Leads blueprint next) :
    next ∈ blueprint.places := by
  rcases h with hmember | ⟨id, rfl, hconsults⟩
  · exact List.mem_append_left _ hmember
  · exact List.mem_append_right _ hconsults.mem_mentions

/-- Nothing that a relation leads to from a place lies on a circle. -/
def Unwinds (relation : Place → Place → Prop) (start : Place) : Prop :=
  ∀ place, Relation.ReflTransGen relation start place → ¬ Relation.TransGen relation place place

/-- No relation that goes down leads to a circle. -/
theorem unwinds_of_rank {relation : Place → Place → Prop} {rank : Place → Nat}
    (h : ∀ place next, relation place next → rank next < rank place) (start : Place) :
    Unwinds relation start := by
  intro place _ hcycle
  have hless : ∀ next, Relation.TransGen relation place next → rank next < rank place := by
    intro next hnext
    induction hnext with
    | single hstep => exact h _ _ hstep
    | tail _ hstep ih => exact (h _ _ hstep).trans ih
  exact lt_irrefl _ (hless place hcycle)

theorem Unwinds.next {relation : Place → Place → Prop} {start next : Place}
    (h : Unwinds relation start) (hnext : relation start next) : Unwinds relation next :=
  fun place hplace => h place (.head hnext hplace)

theorem unwinds_of_acc {relation : Place → Place → Prop} {start : Place}
    (h : Acc (fun next place => relation place next) start) : Unwinds relation start := by
  induction h with
  | intro start _ ih =>
      intro place hplace hcycle
      rcases hplace.cases_head with rfl | ⟨next, hstep, hrest⟩
      · obtain ⟨next, hstep, hback⟩ := Relation.TransGen.head'_iff.1 hcycle
        exact ih next hstep start hback hcycle
      · exact ih next hstep place hrest hcycle

variable (store) in
open Classical in
noncomputable def beyond (relation : Place → Place → Prop) (start : Place) : Finset Place :=
  store.places.filter (Relation.TransGen relation start)

theorem card_beyond_lt {relation : Place → Place → Prop} {start next : Place}
    (h : Unwinds relation start) (hstep : relation start next) {standing : Blueprint}
    (hat : store.at? next = some standing) :
    (store.beyond relation next).card < (store.beyond relation start).card := by
  classical
  apply Finset.card_lt_card
  refine Finset.ssubset_iff_of_subset ?_ |>.2 ⟨next, ?_, ?_⟩
  · intro place hplace
    obtain ⟨hmem, hbeyond⟩ := Finset.mem_filter.1 hplace
    exact Finset.mem_filter.2 ⟨hmem, .head hstep hbeyond⟩
  · exact Finset.mem_filter.2 ⟨mem_places hat, .single hstep⟩
  · exact fun hitself => h next (.single hstep) (Finset.mem_filter.1 hitself).2

/-- In a store, which is finite, a relation ends where it leads to no circle. -/
theorem acc_of_unwinds {relation : Place → Place → Prop}
    (hstands : ∀ place next, relation place next → ∃ standing, store.at? place = some standing)
    {start : Place} (h : Unwinds relation start) :
    Acc (fun next place => relation place next) start := by
  induction hcard : (store.beyond relation start).card using Nat.strong_induction_on
    generalizing start with
  | _ card ih =>
      refine .intro start fun next hstep => ?_
      cases hat : store.at? next with
      | none =>
          refine .intro next fun further hfurther => ?_
          obtain ⟨standing, hstanding⟩ := hstands next further hfurther
          rw [hat] at hstanding
          cases hstanding
      | some standing =>
          have hless := card_beyond_lt h hstep hat
          rw [hcard] at hless
          exact ih _ hless (h.next hstep) rfl

/-! ### Where an evaluation ends -/

theorem Follows.standing {place next : Place} (h : store.Follows place next) :
    ∃ standing, store.at? place = some standing := by
  obtain ⟨standing, hat, -⟩ := h
  exact ⟨standing, hat⟩

theorem Evaluates.acc {result : Except Error Tokens}
    (h : store.Evaluates compiler blueprint result) {next : Place}
    (hnext : store.Leads blueprint next) :
    Acc (fun next place => store.Follows place next) next := by
  induction h generalizing next with
  | @layer compiler blueprint statement member _ _ hconsulted hunited =>
      refine .intro next fun further hfurther => ?_
      obtain ⟨standing, hat, hfurther⟩ := hfurther
      rcases hnext with hmember | ⟨id, rfl, hconsults⟩
      · obtain ⟨fragment, hfragment, hplace⟩ := List.mem_filterMap.1 hmember
        exact hunited fragment hfragment standing (store.resolve_of_at? hplace hat) hfurther
      · obtain ⟨query, hquery, rfl⟩ := Option.map_eq_some_iff.1 hat
        exact hconsulted id query hconsults hquery hfurther

theorem evaluates_of_leads (h : ∀ next standing, store.Leads blueprint next →
      store.at? next = some standing →
        ∀ compiler, store.Evaluates compiler standing (store.tokens compiler standing))
    (compiler : Compiler) :
    store.Evaluates compiler blueprint (store.tokens compiler blueprint) := by
  rw [tokens_eq_layer]
  apply Evaluates.layer
  · intro id query hconsults hquery
    have hstanding : store.at? (.query id) = some query.blueprint := by rw [at?, hquery]; rfl
    have hstatement : store.statement id = store.tokens query.compiler query.blueprint := by
      simp only [statement, hquery]
    rw [hstatement]
    exact h _ _ (.inr ⟨id, rfl, hconsults⟩) hstanding query.compiler
  · intro fragment hfragment inner hresolve
    obtain ⟨place, hplace, hat⟩ := store.at?_of_resolve hresolve
    exact h place inner (.inl (List.mem_filterMap.2 ⟨fragment, hfragment, hplace⟩)) hat compiler

theorem evaluates_of_acc {place : Place}
    (h : Acc (fun next place => store.Follows place next) place) {standing : Blueprint}
    (hat : store.at? place = some standing) (compiler : Compiler) :
    store.Evaluates compiler standing (store.tokens compiler standing) := by
  induction h generalizing standing compiler with
  | intro place _ ih =>
      refine evaluates_of_leads (fun next further hnext hfurther other => ?_) compiler
      exact ih next ⟨standing, hat, hnext⟩ hfurther other

/-- There is an evaluation of a blueprint if and only if what it is compiled from leads to no
circle. -/
theorem exists_evaluates_iff :
    (∃ result, store.Evaluates compiler blueprint result) ↔
      ∀ next, store.Leads blueprint next → Unwinds store.Follows next := by
  constructor
  · rintro ⟨result, h⟩ next hnext
    exact unwinds_of_acc (h.acc hnext)
  · intro h
    refine ⟨_, evaluates_of_leads (fun next standing hnext hat other => ?_) compiler⟩
    exact evaluates_of_acc (acc_of_unwinds (fun _ _ => Follows.standing) (h next hnext)) hat other

end Store

end SqlBuilder
