import SqlBuilder.Proofs.Play
import SqlBuilder.Session.Call
import Mathlib.Data.Set.Insert

/-!
# What an action leaves alone

An action is confined to some queries if it changes no other query that was there before. Queries
that it makes itself it may change as it likes, and blueprints that belong to no query stay as they
are. Whether it fails does not matter: what a failure leaves behind is confined too. Every step on a
query is confined to that query, provided that its callbacks are confined to the query and to the
nested query they are handed.
-/

namespace SqlBuilder

/-- Everything that was in a store is still there, and only the given queries may have changed. -/
structure Store.Keeps (ids : Set Nat) (before after : Store) : Prop where
  size : before.queries.size ≤ after.queries.size
  queries : ∀ id < before.queries.size, id ∉ ids → after.queries[id]? = before.queries[id]?
  detached : ∀ id < before.detached.size, after.detached[id]? = before.detached[id]?

namespace Store.Keeps

variable {ids others : Set Nat} {before between after : Store}

theorem refl (ids : Set Nat) (store : Store) : Keeps ids store store where
  size := le_refl _
  queries _ _ _ := rfl
  detached _ _ := rfl

theorem detached_size (h : Keeps ids before after) :
    before.detached.size ≤ after.detached.size := by
  by_contra hlt
  have hkept := h.detached after.detached.size (by omega)
  rw [Array.getElem?_eq_none (le_refl _), eq_comm, Array.getElem?_eq_none_iff] at hkept
  omega

theorem trans (hfirst : Keeps ids before between) (hsecond : Keeps ids between after) :
    Keeps ids before after where
  size := hfirst.size.trans hsecond.size
  queries id hid hnot := by
    rw [hsecond.queries id (hid.trans_le hfirst.size) hnot, hfirst.queries id hid hnot]
  detached id hid := by
    rw [hsecond.detached id (hid.trans_le hfirst.detached_size), hfirst.detached id hid]

theorem mono (h : Keeps ids before after) (hsubset : ids ⊆ others) : Keeps others before after where
  size := h.size
  queries id hid hnot := h.queries id hid fun hmem => hnot (hsubset hmem)
  detached := h.detached

/-- What is changed among queries that were not there before has been left alone. -/
theorem trans_fresh {id : Nat} (hid : before.queries.size ≤ id)
    (hfirst : Keeps ids before between) (hsecond : Keeps (ids ∪ {id}) between after) :
    Keeps ids before after where
  size := hfirst.size.trans hsecond.size
  queries other hother hnot := by
    have hinsert : other ∉ ids ∪ {id} := by
      rintro (hmem | rfl)
      · exact hnot hmem
      · omega
    rw [hsecond.queries other (hother.trans_le hfirst.size) hinsert,
      hfirst.queries other hother hnot]
  detached other hother := by
    rw [hsecond.detached other (hother.trans_le hfirst.detached_size),
      hfirst.detached other hother]

theorem set {id : Nat} (hid : id ∈ ids) (store : Store) (query : Query) :
    Keeps ids store (store.set id query) where
  size := by simp [Store.set]
  queries other _ hnot := by
    have hne : id ≠ other := by
      rintro rfl
      exact hnot hid
    simp [Store.set, hne]
  detached _ _ := rfl

theorem add (store : Store) (query : Query) : Keeps ids store (store.add query).2 where
  size := by simp [Store.add]
  queries id hid _ := by simp [Store.add, Array.getElem?_push, Nat.ne_of_lt hid]
  detached _ _ := rfl

end Store.Keeps

namespace Session

variable {κ σ α β : Type}

/-- An action changes none but the given queries and those it makes itself. -/
def Confined (ids : Set Nat) (action : Action κ σ α) : Prop :=
  ∀ session : Session κ σ, session.store.Keeps ids (play action session).2.store

namespace Confined

variable {ids others : Set Nat} {id : Nat}

theorem mono {action : Action κ σ α} (h : Confined ids action) (hsubset : ids ⊆ others) :
    Confined others action :=
  fun session => (h session).mono hsubset

theorem queries_eq {action : Action κ σ α} {session later : Session κ σ}
    {outcome : Except Error α} (h : Confined ids action)
    (hplay : play action session = (outcome, later)) (hid : id ∉ ids) {current : Query}
    (hcurrent : session.store.queries[id]? = some current) :
    later.store.queries[id]? = some current := by
  obtain ⟨hlt, _⟩ := Array.getElem?_eq_some_iff.1 hcurrent
  have hkept := (h session).queries id hlt hid
  rwa [hplay, hcurrent] at hkept

theorem of_store {action : Action κ σ α}
    (h : ∀ session, (play action session).2.store = session.store) : Confined ids action := by
  intro session
  rw [h]
  exact .refl ids _

theorem pure (answer : α) : Confined ids (Pure.pure answer : Action κ σ α) :=
  of_store fun _ => rfl

theorem throw (cause : Error) : Confined ids (throw cause : Action κ σ α) :=
  of_store fun _ => rfl

theorem lift (stage : Except Error α) : Confined ids (liftM stage : Action κ σ α) :=
  of_store fun session => by rw [play_lift]

theorem get : Confined ids (MonadState.get : Action κ σ (Session κ σ)) :=
  of_store fun _ => rfl

theorem bind {first : Action κ σ α} {next : α → Action κ σ β} (hfirst : Confined ids first)
    (hnext : ∀ answer, Confined ids (next answer)) : Confined ids (first >>= next) := by
  intro session
  have hkeeps := hfirst session
  rw [play_bind]
  cases h : play first session with
  | mk outcome later =>
      rw [h] at hkeeps
      cases outcome with
      | error cause => exact hkeeps
      | ok answer => exact hkeeps.trans (hnext answer later)

/-- What is done with a query that has just been made. -/
theorem fresh {added : Query} {next : Nat → Action κ σ β}
    (hnext : ∀ id, Confined (ids ∪ {id}) (next id)) :
    Confined ids (addQuery added >>= next) := by
  intro session
  rw [play_bind_ok (play_addQuery added session)]
  have hadd : session.store.Keeps ids (session.withAdded added).store := .add session.store added
  exact hadd.trans_fresh (le_refl _) (hnext _ _)

theorem query (id : Nat) : Confined ids (Session.query id : Action κ σ Query) := by
  apply of_store
  intro session
  cases h : session.store.queries[id]? with
  | none => rw [play_query_none h]
  | some current => rw [play_query h]

theorem put (hid : id ∈ ids) (current : Query) :
    Confined ids (Session.put id current : Action κ σ Unit) :=
  fun session => .set hid session.store current

theorem attempt (hid : id ∈ ids) (step : Query → Except Error Query) :
    Confined ids (Session.attempt id step : Action κ σ Unit) :=
  (query id).bind fun current => (lift (step current)).bind fun changed => put hid changed

theorem change (hid : id ∈ ids) (step : Query → Query) :
    Confined ids (Session.change id step : Action κ σ Unit) :=
  (query id).bind fun current => put hid (step current)

theorem addQuery (added : Query) : Confined ids (Session.addQuery added : Action κ σ Nat) :=
  fun session => .add session.store added

theorem clone (id : Nat) : Confined ids (Session.clone id : Action κ σ Nat) :=
  (query id).bind addQuery

theorem build (id : Nat) : Confined ids (Session.build id : Action κ σ Compiled) :=
  (query id).bind fun _ => get.bind fun _ => lift _

theorem dump (id : Nat) : Confined ids (Session.dump id : Action κ σ String) :=
  (build id).bind fun _ => get.bind fun _ => (lift _).bind fun _ => pure _

end Confined

end Session

open Session

variable {κ σ : Type} {ids : Set Nat} {id : Nat}

/-- A callback in the place of a value changes only the given queries and the one it is handed. -/
def Operand.Confined (ids : Set Nat) : Operand κ σ → Prop
  | .value _ => True
  | .callback _ fill => ∀ id, Session.Confined (ids ∪ {id}) (fill id)

namespace Session.Confined

theorem settle {clause : Clause} {reference : Value → Value} {operand : Operand κ σ}
    (h : operand.Confined ids) : Confined ids (Session.settle id clause reference operand) := by
  cases operand with
  | value value => exact pure _
  | callback mark fill =>
      apply (query id).bind
      intro current
      apply fresh
      intro nested
      exact (h nested).bind fun _ => (query nested).bind fun _ => pure _

theorem join (hid : id ∈ ids) {first : Operand κ σ} (h : first.Confined ids)
    (table second operator kind : Value) :
    Confined ids (Session.join id table first second operator kind) :=
  (settle h).bind fun _ => attempt hid _

theorem condition (hid : id ∈ ids) {column : Operand κ σ} (h : column.Confined ids)
    (clause : Clause) (value operator keyword : Value) :
    Confined ids (Session.condition clause id column value operator keyword) :=
  (settle h).bind fun _ => attempt hid _

theorem discard {α : Type} {action : Action κ σ α} (h : Confined ids action) :
    Confined ids (Functor.discard action) :=
  h.bind fun _ => pure _

theorem fluent {step : Action κ σ Unit} (h : Confined ids step) : Confined ids (Call.fluent step) :=
  h.bind fun _ => pure _

theorem valued {step : Action κ σ Value} (h : Confined ids step) :
    Confined ids (Call.valued step) :=
  h.bind fun _ => pure _

section Connections

variable [Connection κ]

theorem runOn (connection : Nat) (sql : String) (parameters : Value) (mapper : Option Mapper) :
    Confined ids (Session.runOn connection sql parameters mapper : Action κ σ Outcome) := by
  apply of_store
  intro session
  rw [Session.runOn, Session.connection]
  cases h : session.connections[connection]? with
  | none => simp [play_bind, h]
  | some held => simp [play_bind, h]

theorem lastInsertId (connection : Nat) :
    Confined ids (Session.lastInsertId connection : Action κ σ Value) := by
  apply of_store
  intro session
  rw [Session.lastInsertId, Session.connection]
  cases h : session.connections[connection]? with
  | none => simp [play_bind, h]
  | some held => simp [play_bind, h]

theorem execute (id : Nat) (mapper : Option Mapper) :
    Confined ids (Session.execute id mapper : Action κ σ Outcome) :=
  (query id).bind fun _ => (build id).bind fun _ => (of_store fun _ => rfl).bind fun _ =>
    runOn _ _ _ _

theorem select (hid : id ∈ ids) (single : Value) :
    Confined ids (Session.select id single : Action κ σ Fetched) :=
  (change hid _).bind fun _ => (query id).bind fun _ => (execute id _).bind fun _ => lift _

theorem rows (hid : id ∈ ids) : Confined ids (Session.rows id : Action κ σ (List Record)) := by
  apply (select hid _).bind
  intro fetched
  cases fetched with
  | one record => exact pure _
  | many records => exact pure _

theorem first (hid : id ∈ ids) : Confined ids (Session.first id : Action κ σ (Option Record)) := by
  apply (select hid _).bind
  intro fetched
  cases fetched with
  | one record => exact pure _
  | many records => exact pure _

/-- An aggregate changes not even the query it is asked of. -/
theorem aggregate (function name : String) (column : Value) :
    Confined ids (Session.aggregate id function name column : Action κ σ Value) := by
  apply (query id).bind
  intro current
  apply fresh
  intro copy
  have hcopy : copy ∈ ids ∪ {copy} := Set.mem_union_right ids rfl
  apply (first hcopy).bind
  intro record
  cases record with
  | none => exact pure _
  | some record =>
      dsimp only
      split
      · exact pure _
      · exact pure _

theorem perform (hid : id ∈ ids) (type : StatementType) :
    Confined ids (Session.perform id type : Action κ σ Unit) :=
  (change hid _).bind fun _ => (execute id none).bind fun _ => pure _

theorem insert (hid : id ∈ ids) (data : Value) :
    Confined ids (Session.insert id data : Action κ σ Value) :=
  (change hid _).bind fun _ => (lift _).bind fun _ => (change hid _).bind fun _ =>
    (perform hid .insert).bind fun _ => (query id).bind fun _ => lastInsertId _

theorem upsert (hid : id ∈ ids) (data update index : Value) :
    Confined ids (Session.upsert id data update index : Action κ σ Unit) :=
  (change hid _).bind fun _ => (lift _).bind fun _ => (lift _).bind fun _ => (lift _).bind fun _ =>
    (change hid _).bind fun _ => perform hid .upsert

theorem update (hid : id ∈ ids) (data : Value) :
    Confined ids (Session.update id data : Action κ σ Unit) :=
  (change hid _).bind fun _ => (lift _).bind fun _ => (change hid _).bind fun _ =>
    perform hid .update

/-- The pages of a walk are queries of their own, so a walk changes only what its visits change. -/
theorem walkFrom {walk : Walk} {visit : Visit κ σ}
    (hvisit : ∀ records count number, Confined ids (visit records count number))
    (fuel number : Nat) (cursor : Value) :
    Confined ids (Session.walkFrom id walk visit fuel number cursor) := by
  induction fuel generalizing number cursor with
  | zero => exact throw _
  | succ fuel ih =>
      apply (query id).bind
      intro template
      apply (lift _).bind
      intro page
      apply fresh
      intro place
      have hplace : place ∈ ids ∪ {place} := Set.mem_union_right ids rfl
      apply (rows hplace).bind
      intro records
      split
      · exact pure _
      · next last hlast =>
          apply (of_store fun _ => rfl).bind
          intro _
          apply ((hvisit _ _ _).mono (Set.subset_union_left)).bind
          intro goesOn
          cases goesOn with
          | false => exact pure _
          | true => exact (ih _ _).mono (Set.subset_union_left)

theorem chunk {visit : Visit κ σ}
    (hvisit : ∀ records count number, Confined ids (visit records count number))
    (fuel : Nat) (size index : Value) : Confined ids (Session.chunk fuel id size index visit) :=
  (query id).bind fun _ => (lift _).bind fun _ => walkFrom hvisit fuel _ _

end Connections

end Session.Confined

def Call.Confined (ids : Set Nat) : Call κ σ → Prop
  | join _ operand _ _ _ | leftJoin _ operand _ _ | rightJoin _ operand _ _ => operand.Confined ids
  | filter operand _ _ _ | orFilter operand _ _ | filterColumn operand _ _ _ => operand.Confined ids
  | filterIn operand _ _ | filterNotIn operand _ _ => operand.Confined ids
  | filterNull operand _ | filterNotNull operand _ => operand.Confined ids
  | having operand _ _ _ | havingColumn operand _ _ _ => operand.Confined ids
  | _ => True

/-- What can be done with one query: the calls, a walk over its rows, changes of its model and of
its blueprint, and what only looks at it. -/
inductive Operation (κ σ : Type) where
  | call (made : Call κ σ)
  | chunk (fuel : Nat) (size index : Value) (visit : Visit κ σ)
  | setModel (model : Option Model)
  | edit (step : Blueprint → Blueprint)
  | clone
  | build
  | dump

/-- The callbacks of an operation change only the given queries, those that they are handed and
those that they make. -/
def Operation.Confined (ids : Set Nat) : Operation κ σ → Prop
  | call made => made.Confined ids
  | chunk _ _ _ visit =>
      ∀ records count number, Session.Confined ids (visit records count number)
  | _ => True

section Connections

variable [Connection κ]

def Operation.run (id : Nat) : Operation κ σ → Action κ σ Unit
  | call made => discard (made.run id)
  | chunk fuel size index visit => Session.chunk fuel id size index visit
  | setModel model => Session.setModel id model
  | edit step => Session.change id fun query => { query with blueprint := step query.blueprint }
  | clone => discard (Session.clone id)
  | build => discard (Session.build id)
  | dump => discard (Session.dump id)

namespace Session.Confined

/-- A call on a query changes no other query. -/
theorem call (hid : id ∈ ids) {call : Call κ σ} (h : call.Confined ids) :
    Confined ids (call.run id) := by
  cases call with
  | table name aliasName => exact fluent (change hid _)
  | fromTable name aliasName => exact fluent (change hid _)
  | column name aliasName => exact fluent (change hid _)
  | join name left right operator kind => exact fluent (join hid h _ _ _ _)
  | leftJoin name left right operator => exact fluent (join hid h _ _ _ _)
  | rightJoin name left right operator => exact fluent (join hid h _ _ _ _)
  | filter operand value operator keyword => exact fluent (condition hid h _ _ _ _)
  | orFilter operand value operator => exact fluent (condition hid h _ _ _ _)
  | filterColumn left right operator keyword => exact fluent (condition hid h _ _ _ _)
  | filterIn operand values keyword =>
      exact fluent ((lift _).bind fun _ => condition hid h _ _ _ _)
  | filterNotIn operand values keyword =>
      exact fluent ((lift _).bind fun _ => condition hid h _ _ _ _)
  | filterNull operand keyword => exact fluent (condition hid h _ _ _ _)
  | filterNotNull operand keyword => exact fluent (condition hid h _ _ _ _)
  | having operand value operator keyword => exact fluent (condition hid h _ _ _ _)
  | havingColumn left right operator keyword => exact fluent (condition hid h _ _ _ _)
  | group name => exact fluent (change hid _)
  | order name sort => exact fluent (attempt hid _)
  | limit number offset => exact fluent (change hid _)
  | page number size => exact fluent (attempt hid _)
  | union other => exact fluent (change hid _)
  | select single => exact (select hid single).bind fun _ => pure _
  | rows => exact (rows hid).bind fun _ => pure _
  | first => exact (first hid).bind fun _ => pure _
  | count name => exact valued (((aggregate _ _ _).bind fun _ => lift _).bind fun _ => pure _)
  | sum name => exact valued (aggregate _ _ _)
  | minimum name => exact valued (aggregate _ _ _)
  | maximum name => exact valued (aggregate _ _ _)
  | average name => exact valued (aggregate _ _ _)
  | insert data => exact valued (insert hid data)
  | upsert data changes index => exact fluent (upsert hid data changes index)
  | update data => exact fluent (update hid data)
  | delete => exact fluent (perform hid .delete)
  | truncate => exact fluent (perform hid .truncate)

theorem operation (hid : id ∈ ids) {operation : Operation κ σ} (h : operation.Confined ids) :
    Confined ids (operation.run id) := by
  cases operation with
  | call made => exact discard (call hid h)
  | chunk fuel size index visit => exact chunk h fuel size index
  | setModel model => exact change hid _
  | edit step => exact change hid _
  | clone => exact discard (clone id)
  | build => exact discard (build id)
  | dump => exact discard (dump id)

end Session.Confined

/-- The session after operations on one query, each of which may fail. -/
def Session.after (id : Nat) (operations : List (Operation κ σ)) (session : Session κ σ) :
    Session κ σ :=
  operations.foldl (fun session operation => (play (operation.run id) session).2) session

/-- The session after operations on any queries, each of which may fail. -/
def Session.through (operations : List (Nat × Operation κ σ)) (session : Session κ σ) :
    Session κ σ :=
  operations.foldl (fun session entry => (play (entry.2.run entry.1) session).2) session

/-- A sequence of operations on a query changes no other query. -/
theorem Store.Keeps.after {operations : List (Operation κ σ)}
    (h : ∀ operation ∈ operations, operation.Confined {id}) (session : Session κ σ) :
    session.store.Keeps {id} (session.after id operations).store := by
  induction operations generalizing session with
  | nil => exact .refl _ _
  | cons operation rest ih =>
      have hoperation := h operation List.mem_cons_self
      have hfirst := Confined.operation (Set.mem_singleton id) hoperation session
      exact hfirst.trans (ih (fun other hother => h other (List.mem_cons_of_mem _ hother)) _)

end Connections

end SqlBuilder
