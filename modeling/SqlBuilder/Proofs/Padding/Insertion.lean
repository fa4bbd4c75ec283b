import SqlBuilder.Proofs.Isolation
import SqlBuilder.Proofs.Padding
import SqlBuilder.Proofs.Program

/-!
# Inserting empty groups into a program

A callback that adds no condition leaves an empty group. Wherever such a call is inserted into a
program, the statement stays the same, with one exception: in a callback that adds no other
condition, the inserted call turns an empty group, which is left out, into a group with an empty
group for its only member, which is not. A walk in chunks puts all conditions of its template into
a group, so there the same goes for the whole program.
-/

namespace SqlBuilder

open Outcome Session

namespace Step

/-- What comes of a query, and of the same query with padded conditions. -/
structure Effect.Pads (effect padded : Effect) : Prop where
  answer : padded.1 = effect.1
  query : effect.2.Pads padded.2

variable {query padded : Query}

theorem attempted_pads (h : query.Pads padded) {result other : Except Error Query}
    (hresult : Related Query.Pads result other) :
    (attempted query result).Pads (attempted padded other) := by
  cases hresult with
  | ok hpads => exact ⟨rfl, hpads⟩
  | error cause => exact ⟨rfl, h⟩

end Step

namespace Step

variable {query padded : Query}

theorem change_pads (h : query.Pads padded) (step : Plain) :
    Related Query.Pads (step.change query) (step.change padded) := by
  cases step with
  | table name aliasName => exact .ok (h.setTable name aliasName)
  | fromTable name aliasName => exact .ok (h.addSame .tables _)
  | column name aliasName => exact .ok (h.addColumn name aliasName)
  | join name first second operator kind => exact h.addJoin _ _ _ _ _
  | group name => exact .ok (h.addSame .group _)
  | order name sort => exact h.addOrder _ _
  | limit number offset => exact .ok (h.setLimit number offset)
  | page number size =>
      rw [Plain.change, Plain.change]
      unfold Query.setPage
      rw [h.options]
      exact .afterSame fun _ _ => .afterSame fun _ _ => .ok (h.setLimit _ _)
  | union other => exact .ok (h.addSame .union _)

theorem effect_pads (h : query.Pads padded) (step : Step) :
    (step.effect query).Pads (step.effect padded) := by
  cases step with
  | plain step => exact attempted_pads h (change_pads h step)
  | joinOn table program second operator kind =>
      rw [effect, effect, h.nested]
      exact attempted_pads h (.afterSame fun _ _ => h.addJoin _ _ _ _ _)
  | condition filtering column value operator keyword =>
      exact attempted_pads h (.afterSame fun _ _ => h.addCondition _ _ _ _ _)
  | within filtering program value operator keyword =>
      rw [effect, effect, h.nested]
      exact attempted_pads h (.afterSame fun _ _ =>
        .afterSame fun _ _ => h.addCondition _ _ _ _ _)

/-- What comes of a query by a program that follows on an effect. -/
def Effect.andThen (effect : Effect) (rest : List Step) : Effect :=
  match effect with
  | (.ok (), changed) => effects rest changed
  | refused => refused

theorem effects_append (front back : List Step) (query : Query) :
    effects (front ++ back) query = (effects front query).andThen back := by
  induction front generalizing query with
  | nil => rfl
  | cons step rest ih =>
      rw [List.cons_append, effects, effects]
      cases step.effect query with
      | mk result changed =>
          cases result with
          | ok => exact ih changed
          | error cause => rfl

theorem effects_cons (step : Step) (rest : List Step) (query : Query) :
    effects (step :: rest) query = (step.effect query).andThen rest := by
  rw [effects]
  rfl

theorem Effect.Pads.andThen {effect other : Effect} (h : effect.Pads other)
    {rest more : List Step} (hrest : (effects rest effect.2).Pads (effects more other.2)) :
    (effect.andThen rest).Pads (other.andThen more) := by
  obtain ⟨result, query⟩ := effect
  obtain ⟨answer, padded⟩ := other
  obtain ⟨hanswer, hquery⟩ := h
  obtain rfl : answer = result := hanswer
  cases answer with
  | ok => exact hrest
  | error cause => exact ⟨rfl, hquery⟩

theorem effects_pads (h : query.Pads padded) (program : List Step) :
    (effects program query).Pads (effects program padded) := by
  induction program generalizing query padded with
  | nil => exact ⟨rfl, h⟩
  | cons step rest ih =>
      have hstep := effect_pads h step
      rw [effects_cons, effects_cons]
      exact hstep.andThen (ih hstep.query)

end Step

/-! ### Whether a program adds conditions -/

/-- A change that leaves the conditions of a query and all that its nested queries are made from. -/
structure Query.Spares (query changed : Query) : Prop where
  nested : changed.nested = query.nested
  fragments : ∀ filtering : Filtering, changed.blueprint.fragments filtering.clause =
    query.blueprint.fragments filtering.clause

namespace Query.Spares

variable {query between changed : Query}

theorem refl (query : Query) : query.Spares query where
  nested := rfl
  fragments _ := rfl

theorem trans (h : query.Spares between) (hlater : between.Spares changed) :
    query.Spares changed where
  nested := hlater.nested.trans h.nested
  fragments filtering := (hlater.fragments filtering).trans (h.fragments filtering)

theorem add (query : Query) {clause : Clause} (hwhere : clause ≠ .where)
    (hhaving : clause ≠ .having) (attributes : List (String × Value)) :
    query.Spares (query.add clause attributes) where
  nested := rfl
  fragments filtering := by
    have hclause : clause ≠ filtering.clause := by
      rcases filtering.clause_eq with h | h <;> rw [h] <;> assumption
    simp [hclause]

theorem reset (query : Query) {clause : Clause} (hwhere : clause ≠ .where)
    (hhaving : clause ≠ .having) : query.Spares (query.reset clause) where
  nested := rfl
  fragments filtering := by
    have hclause : clause ≠ filtering.clause := by
      rcases filtering.clause_eq with h | h <;> rw [h] <;> assumption
    simp [hclause]

theorem addColumn (query : Query) (column aliasName : Value) :
    query.Spares (query.addColumn column aliasName) := by
  have hreset : query.Spares
      (if column.isWildcard || query.blank then query.reset .columns else query) := by
    split
    · exact .reset query (by decide) (by decide)
    · exact .refl query
  rw [Query.addColumn]
  split
  · exact hreset.trans (.add _ (by decide) (by decide) _)
  · have hnamed : query.Spares { (if column.isWildcard || query.blank then query.reset .columns
        else query) with blank := false } := ⟨hreset.nested, hreset.fragments⟩
    exact hnamed.trans (.add _ (by decide) (by decide) _)

theorem setTable (query : Query) (table aliasName : Value) :
    query.Spares (query.setTable table aliasName) := by
  have hadded : query.Spares (query.addTable table aliasName) :=
    .add query (by decide) (by decide) _
  rw [Query.setTable]
  split
  · exact hadded.trans (.addColumn _ _ _)
  · exact hadded

theorem setLimit (query : Query) (limit offset : Value) :
    query.Spares (query.setLimit limit offset) :=
  (Spares.reset query (by decide) (by decide)).trans (.add _ (by decide) (by decide) _)

theorem change {step : Plain} (h : step.change query = .ok changed) : query.Spares changed := by
  cases step with
  | table name aliasName =>
      obtain rfl := Except.ok.inj h
      exact .setTable query name aliasName
  | column name aliasName =>
      obtain rfl := Except.ok.inj h
      exact .addColumn query name aliasName
  | join name first second operator kind =>
      obtain ⟨_, -, hchanged⟩ := bind_eq_ok.1 h
      obtain rfl := pure_eq_ok.1 hchanged
      exact .add query (by decide) (by decide) _
  | order name sort =>
      obtain ⟨_, -, hchanged⟩ := bind_eq_ok.1 h
      obtain rfl := pure_eq_ok.1 hchanged
      exact .add query (by decide) (by decide) _
  | limit number offset =>
      obtain rfl := Except.ok.inj h
      exact .setLimit query number offset
  | page number size =>
      rw [Plain.change] at h
      unfold Query.setPage at h
      obtain ⟨_, -, hnumber⟩ := bind_eq_ok.1 h
      obtain ⟨_, -, hchanged⟩ := bind_eq_ok.1 hnumber
      obtain rfl := pure_eq_ok.1 hchanged
      exact .setLimit query _ _
  | fromTable name aliasName | group name | union other =>
      obtain rfl := Except.ok.inj h
      exact .add query (by decide) (by decide) _

end Query.Spares

namespace Step

def adds (filtering : Filtering) : Step → Bool
  | condition own _ _ _ _ | within own _ _ _ _ => own == filtering
  | _ => false

/-- What a step can do: it is refused, leaves the conditions alone or adds one. -/
inductive Ends (step : Step) (query : Query) : Effect → Prop where
  | refused (cause : Error) : Ends step query (.error cause, query)
  | spared {changed : Query} (h : query.Spares changed)
      (hadds : ∀ filtering, step.adds filtering = false) : Ends step query (.ok (), changed)
  | added (own : Filtering) (attributes : List (String × Value))
      (hadds : ∀ filtering, step.adds filtering = (own == filtering)) :
      Ends step query (.ok (), query.add own.clause attributes)

theorem ends_attempted {step : Step} {query : Query} {result : Except Error Query}
    (h : ∀ changed, result = .ok changed → step.Ends query (.ok (), changed)) :
    step.Ends query (attempted query result) := by
  cases result with
  | ok changed => exact h changed rfl
  | error cause => exact .refused cause

theorem ends (step : Step) (query : Query) : step.Ends query (step.effect query) := by
  cases step with
  | plain step => exact ends_attempted fun _ h => .spared (.change h) fun _ => rfl
  | joinOn table program second operator kind =>
      rw [effect]
      refine ends_attempted fun changed h => ?_
      obtain ⟨_, -, hjoined⟩ := bind_eq_ok.1 h
      obtain ⟨_, -, hchanged⟩ := bind_eq_ok.1 hjoined
      obtain rfl := pure_eq_ok.1 hchanged
      exact .spared (.add query (by decide) (by decide) _) fun _ => rfl
  | condition own column value operator keyword =>
      rw [effect]
      refine ends_attempted fun changed h => ?_
      obtain ⟨_, -, hadded⟩ := bind_eq_ok.1 h
      obtain ⟨_, -, hchanged⟩ := bind_eq_ok.1 hadded
      obtain rfl := pure_eq_ok.1 hchanged
      exact .added own _ fun _ => rfl
  | within own program value operator keyword =>
      rw [effect]
      refine ends_attempted fun changed h => ?_
      obtain ⟨_, -, hvalue⟩ := bind_eq_ok.1 h
      obtain ⟨_, -, hadded⟩ := bind_eq_ok.1 hvalue
      obtain ⟨_, -, hchanged⟩ := bind_eq_ok.1 hadded
      obtain rfl := pure_eq_ok.1 hchanged
      exact .added own _ fun _ => rfl

theorem isEmpty_effect (filtering : Filtering) {step : Step} {query : Query}
    (h : (step.effect query).1 = .ok ()) :
    ((step.effect query).2.blueprint.fragments filtering.clause).isEmpty =
      ((query.blueprint.fragments filtering.clause).isEmpty && !step.adds filtering) := by
  have hends := step.ends query
  generalize step.effect query = effect at h hends ⊢
  cases hends with
  | refused cause => cases h
  | spared hspared hadds => rw [hspared.fragments, hadds, Bool.not_false, Bool.and_true]
  | added own attributes hadds =>
      rw [hadds]
      cases own <;> cases filtering <;> simp [Filtering.clause]

/-- A program that succeeds leaves a clause without conditions only if it adds none. -/
theorem isEmpty_effects (filtering : Filtering) {program : List Step} {query : Query}
    (h : (effects program query).1 = .ok ()) :
    ((effects program query).2.blueprint.fragments filtering.clause).isEmpty =
      ((query.blueprint.fragments filtering.clause).isEmpty &&
        !program.any (adds filtering)) := by
  induction program generalizing query with
  | nil => simp [effects]
  | cons step rest ih =>
      rw [effects] at h ⊢
      have hstep := @isEmpty_effect filtering step query
      cases heffect : step.effect query with
      | mk result changed =>
          rw [heffect] at h hstep
          cases result with
          | error cause => cases h
          | ok =>
              dsimp only at h ⊢
              rw [ih h, hstep rfl, List.any_cons, Bool.not_or, Bool.and_assoc]

theorem nested_effect (step : Step) (query : Query) :
    (step.effect query).2.nested = query.nested := by
  have hends := step.ends query
  generalize step.effect query = effect at hends ⊢
  cases hends with
  | refused cause => rfl
  | spared hspared _ => exact hspared.nested
  | added own attributes _ => rfl

/-- A program leaves all that nested queries are made from. -/
theorem nested_effects (program : List Step) (query : Query) :
    (effects program query).2.nested = query.nested := by
  induction program generalizing query with
  | nil => rfl
  | cons step rest ih =>
      have hstep := nested_effect step query
      rw [effects]
      cases heffect : step.effect query with
      | mk result changed =>
          rw [heffect] at hstep
          cases result with
          | ok => exact (ih changed).trans hstep
          | error cause => exact hstep

end Step

/-! ### Inserting a call whose callback adds no condition -/

namespace Step

/-- A program that succeeds on a nested query and adds no condition to a clause. -/
structure Idle (nested : Query) (filtering : Filtering) (program : List Step) : Prop where
  adds : program.any (adds filtering) = false
  succeeds : (effects program nested).1 = .ok ()

/-- The second program has one more callback that adds no condition, at the top or in another
callback. What the program is the callback of, if it is one, tells where the inserted call must not
be alone. -/
inductive Inserts (nested : Query) : Option Filtering → List Step → List Step → Prop where
  | here {outer : Option Filtering} (front back : List Step) {filtering : Filtering}
      {program : List Step} (value operator : Value) (keyword : String)
      (hidle : Idle nested filtering program)
      (hothers : outer = some filtering → (front ++ back).any (adds filtering) = true) :
      Inserts nested outer (front ++ back)
        (front ++ .within filtering program (.ok value) operator (.text keyword) :: back)
  | inside {outer : Option Filtering} (front back : List Step) {filtering : Filtering}
      {program padded : List Step} (value : Except Error Value) (operator keyword : Value)
      (h : Inserts nested (some filtering) program padded) :
      Inserts nested outer (front ++ .within filtering program value operator keyword :: back)
        (front ++ .within filtering padded value operator keyword :: back)

/-- What an idle callback leaves is a group without members. -/
theorem Idle.exists_effect {filtering : Filtering} {program : List Step} {query : Query}
    (h : Idle query.nested filtering program) (value operator : Value) (keyword : String) :
    ∃ attributes,
      (Step.within filtering program (.ok value) operator (.text keyword)).effect query =
        (.ok (), query.add filtering.clause attributes) ∧
      (Fragment.of attributes).condition = .group (.text (Text.upper keyword)) [] := by
  have hempty := isEmpty_effects filtering h.succeeds
  rw [h.adds] at hempty
  have hnone : (effects program query.nested).2.blueprint.fragments filtering.clause = [] := by
    apply List.isEmpty_iff.1
    rw [hempty]
    cases filtering <;> rfl
  refine ⟨[("column", .group []), ("value", Query.boundValue value), ("operator", operator),
    ("boolean", .text (Text.upper keyword))], ?_, ?_⟩
  · rw [effect, captured, h.succeeds, hnone]
    rfl
  · rw [← Condition.ofFragments_nil]
    rfl

/-- Two callbacks have the same effect if one pads the other and both or neither add conditions. -/
theorem effect_within {nested query other : Query} {filtering : Filtering}
    {program padded : List Step} (hquery : query.Pads other) (hnested : query.nested = nested)
    (h : (effects program nested).Pads (effects padded nested))
    (hadds : padded.any (adds filtering) = program.any (adds filtering))
    (value : Except Error Value) (operator keyword : Value) :
    ((Step.within filtering program value operator keyword).effect query).Pads
      ((Step.within filtering padded value operator keyword).effect other) := by
  rw [effect, effect, hquery.nested, hnested, captured, captured, h.answer]
  refine attempted_pads hquery (.afterSame fun value _ => ?_)
  cases hanswer : (effects program nested).1 with
  | error cause => exact .error cause
  | ok =>
      have hempty := isEmpty_effects filtering hanswer
      have hpadded := isEmpty_effects filtering (h.answer.trans hanswer)
      rw [hadds, ← hempty] at hpadded
      have hiff : (effects program nested).2.blueprint.fragments filtering.clause = [] ↔
          (effects padded nested).2.blueprint.fragments filtering.clause = [] := by
        rw [← List.isEmpty_iff, ← List.isEmpty_iff, hpadded]
      exact .afterSame fun keyword _ => .ok (hquery.addGroups filtering.clause_eq
        (h.query.fragments filtering.clause) hiff rfl rfl)

namespace Inserts

variable {nested : Query}

theorem any_adds {filtering : Filtering} {program padded : List Step}
    (h : Inserts nested (some filtering) program padded) :
    padded.any (adds filtering) = program.any (adds filtering) := by
  cases h with
  | @here _ front back own _ value operator keyword _ hothers =>
      by_cases hown : own = filtering
      · subst hown
        rw [hothers rfl, List.any_append, List.any_cons]
        simp [adds]
      · have hother : (own == filtering) = false := by simpa using hown
        simp [adds, hother]
  | inside front back value operator keyword _ => simp [adds]

/-- An inserted call has no effect but that conditions are padded. -/
theorem effects_pads {outer : Option Filtering} {program padded : List Step}
    (h : Inserts nested outer program padded) {query other : Query}
    (hnested : query.nested = nested) (hquery : query.Pads other) :
    (effects program query).Pads (effects padded other) := by
  induction h generalizing query other with
  | @here _ front back filtering _ value operator keyword hidle _ =>
      have hfront := Step.effects_pads hquery front
      have hother : (effects front other).2.nested = nested := by
        rw [nested_effects, hquery.nested, hnested]
      rw [← hother] at hidle
      obtain ⟨attributes, heffect, hgroup⟩ := hidle.exists_effect value operator keyword
      rw [effects_append, effects_append]
      refine hfront.andThen ?_
      rw [effects_cons, heffect]
      exact Step.effects_pads (hfront.query.addEmpty filtering.clause_eq hgroup) back
  | @inside _ front back filtering program padded value operator keyword h ih =>
      have hfront := Step.effects_pads hquery front
      have hfresh : nested.nested = nested := by
        rw [← hnested]
        rfl
      have hgroup := effect_within hfront.query (by rw [nested_effects, hnested])
        (ih hfresh (.refl nested)) h.any_adds value operator keyword
      rw [effects_append, effects_append]
      refine hfront.andThen ?_
      rw [effects_cons, effects_cons]
      exact hgroup.andThen (Step.effects_pads hgroup.query back)

end Inserts

end Step

end SqlBuilder
