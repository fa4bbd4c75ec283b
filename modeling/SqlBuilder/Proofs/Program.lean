import SqlBuilder.Proofs.Frame

/-!
# Programs that build a query

A program is a list of steps on one query. A step sets a clause, adds a join or adds a condition;
in the place of a column it may have a program of its own, which fills a nested query whose
conditions become a group. What a program does to its query depends on nothing else in the session,
so it can be told without one: a program has an effect on a query, and playing it in a session has
that effect.
-/

namespace SqlBuilder

open Outcome Session

variable {κ σ : Type}

inductive Plain where
  | table (table aliasName : Value)
  | fromTable (table aliasName : Value)
  | column (column aliasName : Value)
  | join (table first second operator kind : Value)
  | group (column : Value)
  | order (column sort : Value)
  | limit (limit offset : Value)
  | page (page size : Value)
  | union (other : Value)

namespace Plain

def change : Plain → Query → Except Error Query
  | table name aliasName, query => .ok (query.setTable name aliasName)
  | fromTable name aliasName, query => .ok (query.addTable name aliasName)
  | column name aliasName, query => .ok (query.addColumn name aliasName)
  | join name first second operator kind, query =>
      query.addJoin name first.asTable second operator kind
  | group name, query => .ok (query.addGroup name)
  | order name sort, query => query.addOrder name sort
  | limit number offset, query => .ok (query.setLimit number offset)
  | page number size, query => query.setPage number size
  | union other, query => .ok (query.addUnion other)

def run (id : Nat) : Plain → Action κ σ Unit
  | table name aliasName => Session.table id name aliasName
  | fromTable name aliasName => Session.fromTable id name aliasName
  | column name aliasName => Session.column id name aliasName
  | join name first second operator kind =>
      Session.join id name (.value first) second operator kind
  | group name => Session.group id name
  | order name sort => Session.order id name sort
  | limit number offset => Session.limit id number offset
  | page number size => Session.page id number size
  | union other => Session.union id other

end Plain

inductive Filtering where
  | rows
  | groups
deriving DecidableEq

def Filtering.clause : Filtering → Clause
  | rows => .where
  | groups => .having

theorem Filtering.clause_eq (filtering : Filtering) :
    filtering.clause = .where ∨ filtering.clause = .having := by
  cases filtering
  · exact .inl rfl
  · exact .inr rfl

/-- A step of a program. The value of a condition may be one that cannot be had. -/
inductive Step where
  | plain (step : Plain)
  | joinOn (table : Value) (program : List Step) (second operator kind : Value)
  | condition (filtering : Filtering) (column : Value) (value : Except Error Value)
      (operator keyword : Value)
  | within (filtering : Filtering) (program : List Step) (value : Except Error Value)
      (operator keyword : Value)

namespace Step

mutual

def run (id : Nat) : Step → Action κ σ Unit
  | plain step => step.run id
  | joinOn table program second operator kind =>
      Session.join id table (.callback 0 fun nested => runAll nested program) second operator kind
  | condition filtering column value operator keyword => do
      Session.condition filtering.clause id (.value column) (← value) operator keyword
  | within filtering program value operator keyword => do
      Session.condition filtering.clause id (.callback 0 fun nested => runAll nested program)
        (← value) operator keyword

def runAll (id : Nat) : List Step → Action κ σ Unit
  | [] => return ()
  | step :: rest => do
      step.run id
      runAll id rest

end

/-- What comes of a query, and whether it was refused. -/
abbrev Effect := Except Error Unit × Query

def attempted (query : Query) : Except Error Query → Effect
  | .ok changed => (.ok (), changed)
  | .error cause => (.error cause, query)

/-- The group of the conditions of a nested query. -/
def captured (clause : Clause) (effect : Effect) : Except Error Value := do
  effect.1
  return .group ((effect.2.blueprint.fragments clause).map Fragment.toValue)

mutual

def effect : Step → Query → Effect
  | plain step, query => attempted query (step.change query)
  | joinOn table program second operator kind, query => attempted query do
      let members ← captured .where (effects program query.nested)
      query.addJoin table members second operator kind
  | condition filtering column value operator keyword, query => attempted query do
      query.addCondition filtering.clause column.asColumn (← value) operator keyword
  | within filtering program value operator keyword, query => attempted query do
      let value ← value
      let members ← captured filtering.clause (effects program query.nested)
      query.addCondition filtering.clause members value operator keyword

/-- What comes of a query by a program, up to the first step that is refused. -/
def effects : List Step → Query → Effect
  | [], query => (.ok (), query)
  | step :: rest, query =>
      match step.effect query with
      | (.ok (), changed) => effects rest changed
      | refused => refused

end

end Step

/-! ### Playing a program -/

namespace Session

/-- An action answers as an effect does and leaves the query that the effect leaves. -/
def Plays (session : Session κ σ) (id : Nat) (action : Action κ σ Unit) (effect : Step.Effect) :
    Prop :=
  ∃ later, play action session = (effect.1, later) ∧ later.store.queries[id]? = some effect.2

variable {session : Session κ σ} {id : Nat} {current : Query}

theorem plays_attempt (h : session.store.queries[id]? = some current)
    (step : Query → Except Error Query) :
    session.Plays id (attempt id step) (Step.attempted current (step current)) := by
  cases hstep : step current with
  | ok changed => exact ⟨_, play_attempt h hstep, queries_withQuery h changed⟩
  | error cause =>
      refine ⟨session, ?_, h⟩
      rw [attempt, play_bind_ok (play_query h), hstep]
      rfl

theorem plays_change (h : session.store.queries[id]? = some current) (step : Query → Query) :
    session.Plays id (change id step) (.ok (), step current) :=
  ⟨_, play_change h step, queries_withQuery h _⟩

theorem plays_bind {α : Type} {first : Action κ σ α} {result : Except Error α}
    {next : α → Action κ σ Unit} {step : α → Except Error Query} {later : Session κ σ}
    (hfirst : play first session = (result, later))
    (h : later.store.queries[id]? = some current)
    (hnext : ∀ answer, result = .ok answer →
      later.Plays id (next answer) (Step.attempted current (step answer))) :
    session.Plays id (first >>= next) (Step.attempted current (result >>= step)) := by
  cases result with
  | error cause =>
      refine ⟨later, ?_, h⟩
      rw [play_bind, hfirst]
      rfl
  | ok answer =>
      obtain ⟨after, hplay, hafter⟩ := hnext answer rfl
      exact ⟨after, (play_bind_ok hfirst).trans hplay, hafter⟩

/-- A callback that changes only the nested query it is handed stands for the group of what it makes
of that, and leaves the query that it is called for as it is. -/
theorem exists_settle_callback (h : session.store.queries[id]? = some current) (clause : Clause)
    (reference : Value → Value) {mark : Nat} {fill : Nat → Action κ σ Unit}
    {effect : Step.Effect} (hconfined : Operand.Confined ∅ (.callback mark fill))
    (hplays : (session.withAdded current.nested).Plays session.store.queries.size
      (fill session.store.queries.size) effect) :
    ∃ later, play (settle id clause reference (.callback mark fill)) session =
        (Step.captured clause effect, later) ∧
      later.store.queries[id]? = some current := by
  obtain ⟨later, hplay, hfilled⟩ := hplays
  suffices hsettle : play (settle id clause reference (.callback mark fill)) session =
      (Step.captured clause effect, later) from
    ⟨later, hsettle, (Confined.settle hconfined).queries_eq hsettle (Set.notMem_empty id) h⟩
  cases hresult : effect.1 with
  | ok =>
      rw [hresult] at hplay
      rw [play_settle h clause reference mark _ hplay hfilled, Step.captured, hresult]
      rfl
  | error cause =>
      rw [hresult] at hplay
      rw [settle, capture, play_bind_ok (play_query h), play_bind_ok (play_addQuery _ session),
        play_bind, hplay, Step.captured, hresult]
      rfl

end Session

namespace Plain

variable {session : Session κ σ} {id : Nat} {current : Query}

theorem plays (h : session.store.queries[id]? = some current) (step : Plain) :
    session.Plays id (step.run id) (Step.attempted current (step.change current)) := by
  cases step with
  | table name aliasName => exact plays_change h _
  | fromTable name aliasName => exact plays_change h _
  | column name aliasName => exact plays_change h _
  | join name first second operator kind =>
      have hsettle : play (settle id .where Value.asTable (.value first)) session =
          (.ok first.asTable, session) := rfl
      obtain ⟨later, hplay, hlater⟩ :=
        plays_attempt h (·.addJoin name first.asTable second operator kind)
      exact ⟨later, (play_bind_ok hsettle).trans hplay, hlater⟩
  | group name => exact plays_change h _
  | order name sort => exact plays_attempt h (·.addOrder name sort)
  | limit number offset => exact plays_change h _
  | page number size => exact plays_attempt h (·.setPage number size)
  | union other => exact plays_change h _

end Plain

namespace Step

mutual

theorem confined {ids : Set Nat} {id : Nat} (hid : id ∈ ids) (step : Step) :
    Confined ids (step.run id : Action κ σ Unit) := by
  match step with
  | plain step =>
      cases step with
      | join name first second operator kind =>
          have hfirst : Operand.Confined ids (.value first : Operand κ σ) := trivial
          exact .join hid hfirst _ _ _ _
      | order name sort => exact .attempt hid _
      | page number size => exact .attempt hid _
      | _ => exact .change hid _
  | joinOn table program second operator kind =>
      exact .join hid (confinedCallback program) _ _ _ _
  | condition filtering column value operator keyword =>
      have hcolumn : Operand.Confined ids (.value column : Operand κ σ) := trivial
      exact (Confined.lift value).bind fun _ => .condition hid hcolumn _ _ _ _
  | within filtering program value operator keyword =>
      exact (Confined.lift value).bind fun _ =>
        .condition hid (confinedCallback program) _ _ _ _

theorem confinedCallback {ids : Set Nat} (program : List Step) :
    Operand.Confined ids (.callback 0 fun nested => runAll nested program : Operand κ σ) := by
  intro nested
  have hnested : nested ∈ ids ∪ {nested} := Set.mem_union_right ids rfl
  exact confinedAll hnested program

theorem confinedAll {ids : Set Nat} {id : Nat} (hid : id ∈ ids) (program : List Step) :
    Confined ids (runAll id program : Action κ σ Unit) := by
  match program with
  | [] => exact .pure _
  | step :: rest => exact (confined hid step).bind fun _ => confinedAll hid rest

end

theorem exists_settle {session : Session κ σ} {id : Nat} {current : Query}
    (h : session.store.queries[id]? = some current) (clause : Clause)
    (reference : Value → Value) (program : List Step)
    (hprogram : (session.withAdded current.nested).Plays session.store.queries.size
      (runAll session.store.queries.size program) (effects program current.nested)) :
    ∃ later, play (settle id clause reference
        (.callback 0 fun nested => runAll nested program)) session =
          (captured clause (effects program current.nested), later) ∧
      later.store.queries[id]? = some current :=
  exists_settle_callback h clause reference (confinedCallback program) hprogram

mutual

/-- A step has its effect on a query in every session that has the query. -/
theorem plays {session : Session κ σ} {id : Nat} {current : Query}
    (h : session.store.queries[id]? = some current) (step : Step) :
    session.Plays id (step.run id) (step.effect current) := by
  match step with
  | plain step => exact step.plays h
  | joinOn table program second operator kind =>
      have hadded := queries_withAdded session current.nested
      obtain ⟨later, hsettle, hlater⟩ := exists_settle h .where Value.asTable program
        (playsAll hadded program)
      exact plays_bind hsettle hlater fun members _ =>
        plays_attempt hlater (·.addJoin table members second operator kind)
  | condition filtering column value operator keyword =>
      refine plays_bind (play_lift value session) h fun value _ => ?_
      have hsettle : play (settle id filtering.clause Value.asColumn (.value column)) session =
          (.ok column.asColumn, session) := rfl
      obtain ⟨later, hplay, hlater⟩ := plays_attempt h
        (·.addCondition filtering.clause column.asColumn value operator keyword)
      exact ⟨later, (play_bind_ok hsettle).trans hplay, hlater⟩
  | within filtering program value operator keyword =>
      refine plays_bind (play_lift value session) h fun value _ => ?_
      have hadded := queries_withAdded session current.nested
      obtain ⟨later, hsettle, hlater⟩ := exists_settle h filtering.clause Value.asColumn program
        (playsAll hadded program)
      exact plays_bind hsettle hlater fun members _ =>
        plays_attempt hlater (·.addCondition filtering.clause members value operator keyword)

theorem playsAll {session : Session κ σ} {id : Nat} {current : Query}
    (h : session.store.queries[id]? = some current) (program : List Step) :
    session.Plays id (runAll id program) (effects program current) := by
  match program with
  | [] => exact ⟨session, rfl, h⟩
  | step :: rest =>
      obtain ⟨between, hstep, hbetween⟩ := plays h step
      rw [effects]
      cases heffect : step.effect current with
      | mk result changed =>
          rw [heffect] at hstep hbetween
          cases result with
          | error cause =>
              refine ⟨between, ?_, hbetween⟩
              rw [runAll, play_bind, hstep]
          | ok =>
              obtain ⟨later, hrest, hlater⟩ := playsAll hbetween rest
              exact ⟨later, (play_bind_ok hstep).trans hrest, hlater⟩

end

end Step

end SqlBuilder
