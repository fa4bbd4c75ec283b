import SqlBuilder.Proofs.Frame
import SqlBuilder.Proofs.Mention
import SqlBuilder.Proofs.Outcome

/-!
# What stays a select

The type of a statement changes only when it is run. Running a write makes a query that statement,
running a select makes it a select, and whatever describes a statement leaves its type alone. So a
select stays one through everything that is done to it and beside it, except a write on itself. An
action lasts for some places if the selects there are selects when it is over, whether it fails or
not.
-/

namespace SqlBuilder

open Outcome

/-! ### Steps that describe a statement -/

/-- A step that leaves a select a select, unless it is refused. -/
def Query.Lasting (step : Query → Except Error Query) : Prop :=
  ∀ query changed, step query = .ok changed → query.blueprint.type = .select →
    changed.blueprint.type = .select

namespace Query

theorem type_addColumn (query : Query) (column aliasName : Value) :
    (query.addColumn column aliasName).blueprint.type = query.blueprint.type := by
  rw [addColumn]
  cases column.isWildcard || query.blank <;> cases column.isWildcard <;> rfl

theorem type_setTable (query : Query) (table aliasName : Value) :
    (query.setTable table aliasName).blueprint.type = query.blueprint.type := by
  rw [setTable]
  split
  · exact type_addColumn ..
  · rfl

namespace Lasting

theorem after {α : Type} {stage : Except Error α} {step : α → Query → Query}
    (h : ∀ answer query, (step answer query).blueprint.type = query.blueprint.type) :
    Lasting fun query => stage >>= fun answer => pure (step answer query) := by
  intro query changed hchanged hselect
  obtain ⟨answer, -, hstep⟩ := bind_eq_ok.1 hchanged
  obtain rfl := pure_eq_ok.1 hstep
  rw [h, hselect]

theorem addJoin (table first second operator kind : Value) :
    Lasting (·.addJoin table first second operator kind) :=
  after fun _ _ => rfl

theorem addCondition (clause : Clause) (column value operator keyword : Value) :
    Lasting (·.addCondition clause column value operator keyword) :=
  after fun _ _ => rfl

theorem addOrder (column sort : Value) : Lasting (·.addOrder column sort) :=
  after fun _ _ => rfl

theorem setPage (page size : Value) : Lasting (·.setPage page size) := by
  intro query changed hchanged hselect
  obtain ⟨number, -, hchanged⟩ := bind_eq_ok.1 hchanged
  obtain ⟨offset, -, hchanged⟩ := bind_eq_ok.1 hchanged
  obtain rfl := pure_eq_ok.1 hchanged
  exact hselect

end Lasting

end Query

/-! ### Actions -/

/-- Whether there is a select at a place. -/
def Store.Selects (store : Store) (place : Place) : Prop :=
  ∃ blueprint, store.at? place = some blueprint ∧ blueprint.type = .select

theorem Store.Keeps.selects {ids : Set Nat} {before after : Store} (h : before.Keeps ids after)
    {place : Place} (hplace : ∀ id ∈ ids, place ≠ .query id) (hselects : before.Selects place) :
    after.Selects place := by
  obtain ⟨blueprint, hat, hselect⟩ := hselects
  refine ⟨blueprint, ?_, hselect⟩
  cases place with
  | query id =>
      obtain ⟨query, hquery, hblueprint⟩ := Option.map_eq_some_iff.1 hat
      obtain ⟨hid, _⟩ := Array.getElem?_eq_some_iff.1 hquery
      rw [Store.at?, h.queries id hid fun hmem => hplace id hmem rfl, hquery, Option.map_some,
        hblueprint]
  | blueprint id =>
      obtain ⟨hid, _⟩ := Array.getElem?_eq_some_iff.1 hat
      exact (h.detached id hid).trans hat

variable {κ σ α β : Type}

namespace Session

/-- An action after which the selects at the given places are selects. -/
def Lasting (places : Set Place) (action : Action κ σ α) : Prop :=
  ∀ (session : Session κ σ), ∀ place ∈ places, session.store.Selects place →
    (play action session).2.store.Selects place

theorem selects_withQuery {session : Session κ σ} {id : Nat} {current changed : Query}
    {place : Place} (hrecord : session.store.queries[id]? = some current)
    (h : current.blueprint.type = .select → changed.blueprint.type = .select)
    (hselects : session.store.Selects place) :
    (session.withQuery id changed).store.Selects place := by
  by_cases hplace : place = .query id
  · subst hplace
    obtain ⟨blueprint, hat, hselect⟩ := hselects
    rw [Store.at?, hrecord, Option.map_some, Option.some.injEq] at hat
    refine ⟨changed.blueprint, ?_, h (hat ▸ hselect)⟩
    rw [Store.at?, queries_withQuery hrecord changed, Option.map_some]
  · have hkeeps : session.store.Keeps {id} (session.withQuery id changed).store :=
      .set (Set.mem_singleton id) session.store changed
    exact hkeeps.selects (fun other hother => hother ▸ hplace) hselects

namespace Lasting

variable {places : Set Place} {id : Nat}

theorem of_confined {ids : Set Nat} {action : Action κ σ α} (h : Confined ids action)
    (hids : ∀ id ∈ ids, .query id ∉ places) : Lasting places action :=
  fun session _ hplace =>
    (h session).selects fun id hid heq => hids id hid (heq ▸ hplace)

theorem of_own {action : Action κ σ α} (h : Confined {id} action) (hid : .query id ∉ places) :
    Lasting places action :=
  of_confined h fun _ hother => hother ▸ hid

theorem of_idle {action : Action κ σ α} (h : Confined ∅ action) : Lasting places action :=
  of_confined h fun _ hid => absurd hid (Set.notMem_empty _)

theorem bind {first : Action κ σ α} {next : α → Action κ σ β} (hfirst : Lasting places first)
    (hnext : ∀ answer, Lasting places (next answer)) : Lasting places (first >>= next) := by
  intro session place hplace hselects
  have hbetween := hfirst session place hplace hselects
  rw [play_bind]
  cases h : play first session with
  | mk outcome later =>
      rw [h] at hbetween
      cases outcome with
      | error cause => exact hbetween
      | ok answer => exact hnext answer later place hplace hbetween

theorem attempt {step : Query → Except Error Query} (h : Query.Lasting step) :
    Lasting places (Session.attempt id step : Action κ σ Unit) := by
  intro session place _ hselects
  cases hrecord : session.store.queries[id]? with
  | none =>
      rw [Session.attempt, play_bind, play_query_none hrecord]
      exact hselects
  | some current =>
      cases hstep : step current with
      | error cause =>
          rw [Session.attempt, play_bind_ok (play_query hrecord), hstep]
          exact hselects
      | ok changed =>
          rw [play_attempt hrecord hstep]
          exact selects_withQuery hrecord (h current changed hstep) hselects

theorem change {step : Query → Query}
    (h : ∀ query, query.blueprint.type = .select → (step query).blueprint.type = .select) :
    Lasting places (Session.change id step : Action κ σ Unit) := by
  intro session place _ hselects
  cases hrecord : session.store.queries[id]? with
  | none =>
      rw [Session.change, play_bind, play_query_none hrecord]
      exact hselects
  | some current =>
      rw [play_change hrecord]
      exact selects_withQuery hrecord (h current) hselects

theorem changeSame {step : Query → Query}
    (h : ∀ query, (step query).blueprint.type = query.blueprint.type) :
    Lasting places (Session.change id step : Action κ σ Unit) :=
  change fun query hselect => (h query).trans hselect

theorem addQuery (added : Query) : Lasting places (Session.addQuery added : Action κ σ Nat) :=
  of_idle (.addQuery added)

theorem query (id : Nat) : Lasting places (Session.query id : Action κ σ Query) :=
  of_idle (.query id)

theorem pure (answer : α) : Lasting places (Pure.pure answer : Action κ σ α) :=
  of_idle (.pure answer)

theorem lift (stage : Except Error α) : Lasting places (liftM stage : Action κ σ α) :=
  of_idle (.lift stage)

end Lasting

end Session

open Session

def Operand.Lasting (places : Set Place) : Operand κ σ → Prop
  | .value _ => True
  | .callback _ fill => ∀ id, Session.Lasting places (fill id)

namespace Session.Lasting

variable {places : Set Place} {id : Nat}

theorem settle {clause : Clause} {reference : Value → Value} {operand : Operand κ σ}
    (h : operand.Lasting places) :
    Lasting places (Session.settle id clause reference operand) := by
  cases operand with
  | value value => exact pure _
  | callback mark fill =>
      apply (query id).bind
      intro current
      apply (addQuery _).bind
      intro nested
      exact (h nested).bind fun _ => (query nested).bind fun _ => pure _

theorem join {first : Operand κ σ} (h : first.Lasting places)
    (table second operator kind : Value) :
    Lasting places (Session.join id table first second operator kind) :=
  (settle h).bind fun _ => attempt (.addJoin _ _ _ _ _)

theorem condition {column : Operand κ σ} (h : column.Lasting places) (clause : Clause)
    (value operator keyword : Value) :
    Lasting places (Session.condition clause id column value operator keyword) :=
  (settle h).bind fun _ => attempt (.addCondition _ _ _ _ _)

theorem discard {action : Action κ σ α} (h : Lasting places action) :
    Lasting places (Functor.discard action) :=
  h.bind fun _ => pure _

theorem fluent {step : Action κ σ Unit} (h : Lasting places step) :
    Lasting places (Call.fluent step) :=
  h.bind fun _ => pure _

section Connections

variable [Connection κ]

theorem select (single : Value) :
    Lasting places (Session.select id single : Action κ σ Fetched) :=
  (change fun _ _ => rfl).bind fun _ => (query id).bind fun _ =>
    (of_idle (.execute id _)).bind fun _ => lift _

theorem rows : Lasting places (Session.rows id : Action κ σ (List Record)) := by
  apply (select _).bind
  intro fetched
  cases fetched with
  | one record => exact pure _
  | many records => exact pure _

theorem first : Lasting places (Session.first id : Action κ σ (Option Record)) := by
  apply (select _).bind
  intro fetched
  cases fetched with
  | one record => exact pure _
  | many records => exact pure _

/-- The pages of a walk are queries of their own, so a walk lasts if its visits do. -/
theorem walkFrom {walk : Walk} {visit : Visit κ σ}
    (hvisit : ∀ records count number, Lasting places (visit records count number))
    (fuel number : Nat) (cursor : Value) :
    Lasting places (Session.walkFrom id walk visit fuel number cursor) := by
  induction fuel generalizing number cursor with
  | zero => exact of_idle (.throw _)
  | succ fuel ih =>
      apply (query id).bind
      intro template
      apply (lift _).bind
      intro page
      apply (addQuery page).bind
      intro place
      apply rows.bind
      intro records
      split
      · exact pure _
      · apply (of_idle (.of_store fun _ => rfl)).bind
        intro _
        apply (hvisit _ _ _).bind
        intro goesOn
        cases goesOn with
        | false => exact pure _
        | true => exact ih _ _

theorem chunk {visit : Visit κ σ}
    (hvisit : ∀ records count number, Lasting places (visit records count number))
    (fuel : Nat) (size index : Value) :
    Lasting places (Session.chunk fuel id size index visit) :=
  (query id).bind fun _ => (lift _).bind fun _ => walkFrom hvisit fuel _ _

end Connections

end Session.Lasting

namespace Call

/-- The calls that run a statement other than a select. -/
def Writes : Call κ σ → Prop
  | insert _ | upsert _ _ _ | update _ | delete | truncate => True
  | _ => False

/-- The callback of a call, if it takes one and is given one, lasts, and the call is no write on a
query at one of the places. -/
def Lasting (places : Set Place) (id : Nat) : Call κ σ → Prop
  | join _ operand _ _ _ | leftJoin _ operand _ _ | rightJoin _ operand _ _ =>
      operand.Lasting places
  | filter operand _ _ _ | orFilter operand _ _ | filterColumn operand _ _ _ =>
      operand.Lasting places
  | filterIn operand _ _ | filterNotIn operand _ _ => operand.Lasting places
  | filterNull operand _ | filterNotNull operand _ => operand.Lasting places
  | having operand _ _ _ | havingColumn operand _ _ _ => operand.Lasting places
  | call => call.Writes → .query id ∉ places

end Call

/-- The callbacks of an operation last, and it neither runs a write on a query at one of the places
nor makes one of them anything but a select. -/
def Operation.Lasting (places : Set Place) (id : Nat) : Operation κ σ → Prop
  | call made => made.Lasting places id
  | chunk _ _ _ visit => ∀ records count number, Session.Lasting places (visit records count number)
  | edit step => .query id ∈ places →
      ∀ blueprint, blueprint.type = .select → (step blueprint).type = .select
  | _ => True

section Connections

variable [Connection κ] {places : Set Place} {id : Nat}

namespace Session.Lasting

/-- A call leaves the selects at the places selects. -/
theorem call {call : Call κ σ} (h : call.Lasting places id) : Lasting places (call.run id) := by
  cases call with
  | table name aliasName => exact fluent (changeSame fun query => query.type_setTable ..)
  | fromTable name aliasName => exact fluent (changeSame fun _ => rfl)
  | column name aliasName => exact fluent (changeSame fun query => query.type_addColumn ..)
  | join name left right operator kind => exact fluent (join h _ _ _ _)
  | leftJoin name left right operator => exact fluent (join h _ _ _ _)
  | rightJoin name left right operator => exact fluent (join h _ _ _ _)
  | filter operand value operator keyword => exact fluent (condition h _ _ _ _)
  | orFilter operand value operator => exact fluent (condition h _ _ _ _)
  | filterColumn left right operator keyword => exact fluent (condition h _ _ _ _)
  | filterIn operand values keyword =>
      exact fluent ((lift _).bind fun _ => condition h _ _ _ _)
  | filterNotIn operand values keyword =>
      exact fluent ((lift _).bind fun _ => condition h _ _ _ _)
  | filterNull operand keyword => exact fluent (condition h _ _ _ _)
  | filterNotNull operand keyword => exact fluent (condition h _ _ _ _)
  | having operand value operator keyword => exact fluent (condition h _ _ _ _)
  | havingColumn left right operator keyword => exact fluent (condition h _ _ _ _)
  | group name => exact fluent (changeSame fun _ => rfl)
  | order name sort => exact fluent (attempt (.addOrder _ _))
  | limit number offset => exact fluent (changeSame fun _ => rfl)
  | page number size => exact fluent (attempt (.setPage _ _))
  | union other => exact fluent (changeSame fun _ => rfl)
  | select single => exact (select single).bind fun _ => pure _
  | rows => exact rows.bind fun _ => pure _
  | first => exact first.bind fun _ => pure _
  | count name =>
      have hcount : Confined ∅ (Session.count id name : Action κ σ Int) :=
        (Confined.aggregate _ _ _).bind fun _ => .lift _
      exact of_idle (hcount.bind fun _ => .pure _).valued
  | sum name => exact of_idle (Confined.aggregate _ _ _).valued
  | minimum name => exact of_idle (Confined.aggregate _ _ _).valued
  | maximum name => exact of_idle (Confined.aggregate _ _ _).valued
  | average name => exact of_idle (Confined.aggregate _ _ _).valued
  | insert data | upsert data changes index | update data | delete | truncate =>
      exact of_own (.call (Set.mem_singleton id) trivial) (h trivial)

theorem operation {operation : Operation κ σ} (h : operation.Lasting places id) :
    Lasting places (operation.run id) := by
  cases operation with
  | call made => exact discard (call h)
  | chunk fuel size index visit => exact chunk h fuel size index
  | setModel model => exact changeSame fun _ => rfl
  | edit step =>
      by_cases hid : .query id ∈ places
      · exact change fun query hselect => h hid query.blueprint hselect
      · exact of_own (.change (Set.mem_singleton id) _) hid
  | clone => exact of_idle (.discard (.clone id))
  | build => exact of_idle (.discard (.build id))
  | dump => exact of_idle (.discard (.dump id))

end Session.Lasting

theorem Session.selects_through {operations : List (Nat × Operation κ σ)}
    (h : ∀ entry ∈ operations, entry.2.Lasting places entry.1) {session : Session κ σ}
    {place : Place} (hplace : place ∈ places) (hselects : session.store.Selects place) :
    (session.through operations).store.Selects place := by
  induction operations generalizing session with
  | nil => exact hselects
  | cons entry rest ih =>
      have hfirst := Session.Lasting.operation (h entry List.mem_cons_self)
      exact ih (fun other hother => h other (List.mem_cons_of_mem _ hother))
        (hfirst session place hplace hselects)

end Connections

end SqlBuilder
