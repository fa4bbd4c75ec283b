import SqlBuilder.Proofs.Clauses
import SqlBuilder.Proofs.Contents
import SqlBuilder.Proofs.Depth

/-!
# Building from what blueprints hold

A build looks at what blueprints hold, at those of the members of a union and of the queries that
are mentioned as well as at the first one. That a clause has been touched shows only where a
statement writes out a query or a blueprint by its description. So with the descriptions given, any
two blueprints that hold the same are built into the same statement.
-/

namespace SqlBuilder

open Outcome

namespace Statement

variable {blueprint other : Blueprint}

/-- A statement is compiled from what its blueprint holds and the tokens of its members. -/
theorem whole_congr (h : other.contents = blueprint.contents) (scope : Scope) (dialect : Dialect)
    (emptying : String) (members : Except Error (List Tokens)) :
    whole scope dialect emptying other members =
      whole scope dialect emptying blueprint members := by
  have hparts : parts scope dialect emptying other members =
      parts scope dialect emptying blueprint members :=
    parts_congr scope dialect emptying members (congrArg ClauseMap.type h) fun clause _ =>
      congrFun (congrArg ClauseMap.fragments h) clause
  rw [whole, whole, hparts]

theorem unionTokens_congr {resolve resolve' : Value → Except Error Blueprint}
    (hresolve : ∀ value,
      Related (fun member member' : Blueprint => member'.contents = member.contents)
        (resolve value) (resolve' value))
    (scope : Scope) (dialect : Dialect) (emptying : String) (depth : Nat)
    (h : other.contents = blueprint.contents) :
    unionTokens scope dialect emptying resolve' depth other =
      unionTokens scope dialect emptying resolve depth blueprint := by
  have hunion : other.fragments .union = blueprint.fragments .union :=
    congrFun (congrArg ClauseMap.fragments h) .union
  induction depth generalizing blueprint other with
  | zero => rw [unionTokens_zero, unionTokens_zero, hunion]
  | succ depth ih =>
      rw [unionTokens_succ, unionTokens_succ, hunion]
      refine mapM_congr fun fragment _ => ?_
      have hrelated := hresolve (fragment.read "query")
      generalize resolve (fragment.read "query") = stage at hrelated ⊢
      generalize resolve' (fragment.read "query") = stage' at hrelated ⊢
      cases hrelated with
      | error cause => rw [error_bind, error_bind]
      | ok hmember =>
          have hmembers := ih hmember (congrFun (congrArg ClauseMap.fragments hmember) .union)
          rw [ok_bind, ok_bind, whole_congr hmember, hmembers]

end Statement

/-! ### Stores that hold the same -/

/-- What a query brings to a build. -/
def Query.holding (query : Query) : Compiler × ClauseMap :=
  (query.compiler, query.blueprint.contents)

namespace Store

/-- Two stores whose queries and blueprints hold the same. -/
structure HoldsAlike (store other : Store) : Prop where
  queries : other.queries.map Query.holding = store.queries.map Query.holding
  detached : other.detached.map Blueprint.contents = store.detached.map Blueprint.contents

/-- The scope at a depth, with given texts for the queries and blueprints that are written out by
their descriptions. -/
def scopeShowing (store : Store) (shown : References) : Nat → Scope
  | 0 => { shown with statement := fun _ => .error .endless }
  | depth + 1 =>
      let within := scopeShowing store shown depth
      { shown with
        statement := fun id => do
          match store.queries[id]? with
          | none => throw .noAttribute
          | some query =>
              return (← query.compiler.compile within (store.snapshot query.blueprint)).sql }

def compileShowing (store : Store) (shown : References) (compiler : Compiler)
    (blueprint : Blueprint) : Except Error Compiled :=
  compiler.compile (store.scopeShowing shown store.depth) (store.snapshot blueprint)

theorem scopeShowing_references (store : Store) (depth : Nat) :
    store.scopeShowing store.references depth = store.scopeWithin depth := by
  induction depth with
  | zero => rfl
  | succ depth ih =>
      rw [scopeShowing, ih]
      rfl

/-- The texts that are shown are the descriptions of what is in the store. -/
theorem compileShowing_references (store : Store) (compiler : Compiler) (blueprint : Blueprint) :
    store.compileShowing store.references compiler blueprint =
      store.compile compiler blueprint := by
  rw [compileShowing, scopeShowing_references, compile, scope]

namespace HoldsAlike

variable {store other : Store}

theorem refl (store : Store) : store.HoldsAlike store :=
  ⟨rfl, rfl⟩

theorem set {id : Nat} {query changed : Query} (hquery : store.queries[id]? = some query)
    (h : changed.holding = query.holding) : store.HoldsAlike (store.set id changed) where
  queries := by
    refine Array.ext_getElem? fun other => ?_
    rw [Array.getElem?_map, Array.getElem?_map, Store.set, Array.getElem?_setIfInBounds]
    split
    · next hother =>
        subst hother
        have hsize := (Array.getElem?_eq_some_iff.1 hquery).1
        rw [if_pos hsize, hquery, Option.map_some, Option.map_some, h]
    · rfl
  detached := rfl

theorem query (h : store.HoldsAlike other) (id : Nat) :
    other.queries[id]?.map Query.holding = store.queries[id]?.map Query.holding := by
  rw [← Array.getElem?_map, ← Array.getElem?_map, h.queries]

theorem depth (h : store.HoldsAlike other) : other.depth = store.depth := by
  have hqueries := congrArg Array.size h.queries
  have hdetached := congrArg Array.size h.detached
  rw [Array.size_map, Array.size_map] at hqueries hdetached
  rw [Store.depth, Store.depth, hqueries, hdetached]

theorem at? (h : store.HoldsAlike other) (place : Place) :
    (other.at? place).map Blueprint.contents = (store.at? place).map Blueprint.contents := by
  cases place with
  | query id =>
      have hquery := congrArg (Option.map Prod.snd) (h.query id)
      rw [Option.map_map, Option.map_map] at hquery
      rw [Store.at?, Store.at?, Option.map_map, Option.map_map]
      exact hquery
  | blueprint id =>
      rw [Store.at?, Store.at?, ← Array.getElem?_map, ← Array.getElem?_map, h.detached]

theorem resolve (h : store.HoldsAlike other) (value : Value) :
    Related (fun member member' : Blueprint => member'.contents = member.contents)
      (store.resolve value) (other.resolve value) := by
  rcases store.resolve_eq value with ⟨place, hplace, hresolve⟩ | ⟨-, cause, hrefused⟩
  · rcases other.resolve_eq value with ⟨same, hsame, hother⟩ | ⟨hnone, -⟩
    · obtain rfl : place = same := Option.some.inj (hplace.symm.trans hsame)
      have hat := h.at? place
      rw [hresolve, hother, atPlace, atPlace]
      cases hstore : store.at? place with
      | none =>
          rw [hstore] at hat
          rw [Option.map_eq_none_iff.1 hat]
          exact .error _
      | some standing =>
          rw [hstore] at hat
          obtain ⟨standing', hstanding', hcontents⟩ := Option.map_eq_some_iff.1 hat
          rw [hstanding']
          exact .ok hcontents
    · cases hplace.symm.trans hnone
  · rw [hrefused, hrefused]
    exact .error cause

theorem compile_snapshot (h : store.HoldsAlike other) {blueprint changed : Blueprint}
    (hcontents : changed.contents = blueprint.contents) (compiler : Compiler) (scope : Scope) :
    compiler.compile scope (other.snapshot changed) =
      compiler.compile scope (store.snapshot blueprint) := by
  have hmembers := Statement.unionTokens_congr h.resolve scope compiler.dialect compiler.emptying
    store.depth hcontents
  have htokens : compiler.tokens scope (other.snapshot changed) =
      compiler.tokens scope (store.snapshot blueprint) := by
    rw [snapshot, h.depth]
    exact (Statement.whole_congr hcontents ..).trans (congrArg _ hmembers)
  rw [Compiler.compile, Compiler.compile, htokens]

theorem scopeShowing (h : store.HoldsAlike other) (shown : References) (depth : Nat) :
    other.scopeShowing shown depth = store.scopeShowing shown depth := by
  induction depth with
  | zero => rfl
  | succ depth ih =>
      rw [Store.scopeShowing, Store.scopeShowing, ih]
      refine congrArg (Scope.mk shown) (funext fun id => ?_)
      have hquery := h.query id
      cases hstore : store.queries[id]? with
      | none =>
          rw [hstore] at hquery
          rw [Option.map_eq_none_iff.1 hquery]
      | some query =>
          rw [hstore] at hquery
          obtain ⟨changed, hchanged, hholding⟩ := Option.map_eq_some_iff.1 hquery
          obtain ⟨hcompiler, hcontents⟩ := Prod.mk.inj hholding
          rw [hchanged]
          dsimp only
          rw [hcompiler, h.compile_snapshot hcontents]

/-- With the same texts for descriptions, stores that hold the same compile blueprints that hold the
same to one statement, or refuse them for one reason. -/
theorem compileShowing (h : store.HoldsAlike other) {blueprint changed : Blueprint}
    (hcontents : changed.contents = blueprint.contents) (shown : References)
    (compiler : Compiler) :
    other.compileShowing shown compiler changed =
      store.compileShowing shown compiler blueprint := by
  rw [Store.compileShowing, Store.compileShowing, h.depth, h.scopeShowing,
    h.compile_snapshot hcontents]

end HoldsAlike

end Store

/-! ### What a description shows -/

theorem length_commaSeparated_concat (items : List String) {item : String} (h : item ≠ "") :
    (commaSeparated items).length < (commaSeparated (items ++ [item])).length := by
  have hitem : 0 < item.length := by
    rw [Nat.pos_iff_ne_zero]
    exact fun hlength => h (String.length_eq_zero_iff.1 hlength)
  induction items with
  | nil => simpa [commaSeparated] using hitem
  | cons first rest ih =>
      cases rest with
      | nil => simp [commaSeparated]; omega
      | cons next others =>
          simp only [commaSeparated, List.cons_append, String.intercalate_cons_cons,
            String.length_append] at ih ⊢
          exact Nat.add_lt_add_left ih _

namespace Blueprint

variable {blueprint : Blueprint} {clause : Clause}

def Touches (blueprint : Blueprint) (clause : Clause) : Prop :=
  clause ∈ blueprint.clauses.map Prod.fst

/-- A clause that nobody has touched holds nothing, so emptying it makes no difference to that. -/
theorem contents_reset (h : ¬ blueprint.Touches clause) :
    (blueprint.reset clause).contents = blueprint.contents := by
  have hnone : blueprint.fragments clause = [] := by
    have hfind : blueprint.clauses.find? (fun entry => entry.1 == clause) = none := by
      refine List.find?_eq_none.2 fun entry hentry hclause => h ?_
      exact eq_of_beq hclause ▸ List.mem_map_of_mem hentry
    rw [fragments, Assoc.find?, hfind]
    rfl
  have hsame := blueprint.contents_replace_fragments clause
  rw [hnone] at hsame
  exact (contents_replace ..).trans hsame

/-- But the description counts the fragments of the clause from then on. -/
theorem description_reset_ne (h : ¬ blueprint.Touches clause) :
    (blueprint.reset clause).description ≠ blueprint.description := by
  have hclauses : (blueprint.reset clause).clauses = blueprint.clauses ++ [(clause, [])] :=
    Assoc.place_of_notMem h []
  have hentry : Text.quoted clause.name ++ ": " ++ toString ([] : List Fragment).length ≠ "" := by
    simp
  have hlonger := length_commaSeparated_concat (blueprint.clauses.map fun entry =>
    Text.quoted entry.1.name ++ ": " ++ toString entry.2.length) hentry
  refine ne_of_apply_ne String.length (Nat.ne_of_gt ?_)
  unfold description braced
  rw [hclauses, List.map_append]
  simp only [String.length_append]
  exact Nat.add_lt_add_right (Nat.add_lt_add_left (Nat.add_lt_add_right
    (Nat.add_lt_add_left hlonger _) _) _) _

end Blueprint

/-! ### The law -/

namespace Store

variable {store other : Store}

theorem HoldsAlike.compile (h : store.HoldsAlike other) {blueprint changed : Blueprint}
    (hcontents : changed.contents = blueprint.contents) (compiler : Compiler) :
    other.compile compiler changed =
      store.compileShowing other.references compiler blueprint := by
  rw [← compileShowing_references, h.compileShowing hcontents]

/-- Blueprints are total maps from clauses to fragments. Whatever is done with them, each answer is
that of the maps that they stand for, where a clause may be given by its name and what names none is
refused without a trace. What they are compiled to is the same for all that stand for the same maps,
once the same descriptions are written out, and so in particular if none is. A description does show
that a clause has been touched. -/
theorem contents_suffice :
    (∀ (usages : List Usage) (blueprints : List Blueprint),
      Usage.runAll Signature.maps (blueprints.map Blueprint.contents) usages =
        (Usage.runAll Signature.blueprints blueprints usages).map id
          (List.map Blueprint.contents)) ∧
    (∀ (clause : Clause) (type : StatementType),
      (Designation.named (.text clause.name)).read Clause.read = .ok clause ∧
        (Designation.named (.text type.name)).read StatementType.read = .ok type) ∧
    (∀ (value : Value) (blueprints : List Blueprint) (id : Nat), id < blueprints.length →
      ((∀ clause : Clause, value ≠ .text clause.name) → ∀ deed,
        (Usage.access id (.clause (.named value) deed)).run Signature.blueprints blueprints =
          (.error (.notAMember value .clause), blueprints)) ∧
      ((∀ type : StatementType, value ≠ .text type.name) →
        (Usage.access id (.assign (.named value))).run Signature.blueprints blueprints =
          (.error (.notAMember value .statementType), blueprints) ∧
        (Usage.create (.named value)).run Signature.blueprints blueprints =
          (.error (.notAMember value .statementType), blueprints))) ∧
    (∀ (store other : Store) (compiler : Compiler) (blueprint changed : Blueprint),
      store.HoldsAlike other → changed.contents = blueprint.contents →
        store.compile compiler changed = store.compile compiler blueprint ∧
        other.compile compiler changed =
          store.compileShowing other.references compiler blueprint ∧
        ((∀ member, store.Includes blueprint member → member.mentions = []) →
          other.compile compiler changed = store.compile compiler blueprint)) ∧
    (∀ (blueprint : Blueprint) (clause : Clause), ¬ blueprint.Touches clause →
      (blueprint.reset clause).contents = blueprint.contents ∧
        (blueprint.reset clause).description ≠ blueprint.description) := by
  refine ⟨?answers, ?names, ?refusals, ?statements, ?descriptions⟩
  case answers =>
      intro usages blueprints
      exact Usage.runAll_meaning Blueprint.means_contents usages blueprints
  case names => exact fun clause type => ⟨clause.read_name, type.read_name⟩
  case refusals =>
      intro value blueprints id hid
      refine ⟨fun hclause deed => Usage.run_access_error hid fun state => ?_, fun htype => ⟨?_, ?_⟩⟩
      · rw [Access.run, Designation.read, Clause.read_eq_error hclause]
        rfl
      · refine Usage.run_access_error hid fun state => ?_
        rw [Access.run, Designation.read, StatementType.read_eq_error htype]
        rfl
      · rw [Usage.run, Designation.read, StatementType.read_eq_error htype]
  case statements =>
      intro store other compiler blueprint changed hstore hcontents
      have hother := hstore.compile hcontents compiler
      refine ⟨?_, hother, fun hsilent => hother.trans (compile_eq_of_mentions hsilent compiler)⟩
      rw [(HoldsAlike.refl store).compile hcontents, compileShowing_references]
  case descriptions =>
      exact fun blueprint clause h =>
        ⟨blueprint.contents_reset h, blueprint.description_reset_ne h⟩

def tabular : Query :=
  (Query.new 0 .mysql Options.standard).setTable (.text "t") (.text "")

theorem contents_suffice_tabular :
    (Usage.create (.named (.text "merge"))).run Signature.blueprints [Blueprint.empty .select] =
        (.error (.notAMember (.text "merge") .statementType), [Blueprint.empty .select]) ∧
      ((⟨#[tabular], #[]⟩ : Store).set 0 (tabular.reset .where)).compile .sqlite
          (tabular.blueprint.reset .where) =
        (⟨#[tabular], #[]⟩ : Store).compile .sqlite tabular.blueprint ∧
      (tabular.blueprint.reset .where).description ≠ tabular.blueprint.description := by
  obtain ⟨-, -, hrefusals, hstatements, hdescriptions⟩ := contents_suffice
  have huntouched : ¬ tabular.blueprint.Touches .where := by
    unfold Blueprint.Touches
    decide +kernel
  obtain ⟨hcontents, hdescription⟩ := hdescriptions tabular.blueprint .where huntouched
  have halike : (⟨#[tabular], #[]⟩ : Store).HoldsAlike
      ((⟨#[tabular], #[]⟩ : Store).set 0 (tabular.reset .where)) :=
    .set rfl (congrArg (Prod.mk tabular.compiler) hcontents)
  have hunknown : ∀ type : StatementType, Value.text "merge" ≠ .text type.name := by
    intro type hname
    cases type <;> simp [StatementType.name] at hname
  have hsilent : ∀ member, (⟨#[tabular], #[]⟩ : Store).Includes tabular.blueprint member →
      member.mentions = [] := by
    intro member h
    have hsame : member = tabular.blueprint := h.mem_blueprints.elim id List.mem_singleton.1
    rw [hsame]
    decide +kernel
  exact ⟨((hrefusals (.text "merge") [Blueprint.empty .select] 0 (by decide)).2 hunknown).2,
    (hstatements _ _ .sqlite _ _ halike hcontents).2.2 hsilent, hdescription⟩

def selfDescribing : Query :=
  (Query.new 0 .mysql Options.standard).addColumn (.raw (.queryBlueprint 0)) (.text "")

/-- A statement may write out the description of its own blueprint, and show that a clause has been
emptied that was empty. -/
theorem contents_are_not_all :
    ¬ ∀ (store : Store) (id : Nat) (query : Query) (clause : Clause),
      store.queries[id]? = some query → query.blueprint.fragments clause = [] →
      (store.set id (query.reset clause)).build (query.reset clause) = store.build query := by
  intro h
  have hsame := h ⟨#[selfDescribing], #[]⟩ 0 selfDescribing .where rfl rfl
  have hother : ((⟨#[selfDescribing.reset .where], #[]⟩ : Store).build
      (selfDescribing.reset .where)).toOption.map Compiled.sql ≠
      ((⟨#[selfDescribing], #[]⟩ : Store).build selfDescribing).toOption.map Compiled.sql := by
    decide +kernel
  exact hother (congrArg (fun outcome => outcome.toOption.map Compiled.sql) hsame)

end Store

end SqlBuilder
