import SqlBuilder.Connection.Recording
import SqlBuilder.Proofs.Command
import SqlBuilder.Proofs.Isolation
import SqlBuilder.Proofs.Paging.Sending
import SqlBuilder.Proofs.Select
import SqlBuilder.Proofs.Upkeep

/-!
# Templates

A query of which an aggregate is asked, or over whose rows a walk goes, is a template: what is run
are queries of their own that begin as it. However the run ends, the template is what it was, and so
is every query that it refers to. What an aggregate runs is the select of the template with a single
column in the place of its columns, the function under its name, and its rows become no models.
-/

namespace SqlBuilder

open Outcome Session

/-! ### The query for an aggregate -/

namespace Query

/-- The one column of an aggregate: the function over a column, or over all of them if none is
given. -/
def measure (function : String) (column : Value) : Value :=
  .method function [if column.truthy then column else .text Identifier.wildcard]

theorem aggregate_eq (query : Query) (function name : String) (column : Value) :
    query.aggregate function name column =
      { (query.reset .columns).add .columns
          [("column", measure function column), ("alias", .text name)] with
        model := none
        blank := false } :=
  rfl

variable (query : Query) (function name : String) (column : Value)

theorem fragments_aggregate (clause : Clause) :
    (query.aggregate function name column).blueprint.fragments clause =
      if clause = .columns then
        [Fragment.of [("column", measure function column), ("alias", .text name)]]
      else query.blueprint.fragments clause := by
  simp only [aggregate_eq, add, reset, Blueprint.fragments_add, Blueprint.fragments_reset]
  by_cases h : clause = .columns
  · simp [h]
  · simp [h, Ne.symm h]

def measuring : Query :=
  (query.aggregate function name column).withType .select

end Query

/-! ### Clauses of a select -/

namespace Store

variable (store : Store) {query other : Query}

/-- A select does not look at the data of an insert or an update, and its columns and its window are
looked at for no other clause. -/
theorem clauses_congr (hcompiler : other.compiler = query.compiler)
    (h : ∀ clause, clause ≠ .columns → clause ≠ .limit → clause ≠ .insert → clause ≠ .update →
      other.blueprint.fragments clause = query.blueprint.fragments clause) :
    store.clauses other =
      { store.clauses query with
        columns := Statement.columns store.scope "SELECT" other.blueprint
        limit := Statement.limits "LIMIT" other.blueprint } := by
  have hmembers : (store.snapshot other.blueprint).members =
      (store.snapshot query.blueprint).members :=
    Snapshot.membersOf_congr store.resolve store.depth
      (h .union (by decide) (by decide) (by decide) (by decide))
  rw [clauses, clauses, hmembers, hcompiler]
  apply Clauses.ext
  all_goals simp only [Clauses.of, Statement.tables, Statement.joins, Statement.conditions,
    Statement.groups, Statement.orders, Statement.listing, ne_eq, reduceCtorEq, not_false_eq_true,
    h]

theorem columns_aggregate (scope : Scope) (query : Query) (function name : String)
    (column : Value) :
    Statement.columns scope "SELECT" (query.aggregate function name column).blueprint =
      Tokens.headed "SELECT" <$>
        (Query.measure function column).aliased scope (.text name) := by
  have hcolumn : (Fragment.of [("column", Query.measure function column),
      ("alias", .text name)]).read "column" = Query.measure function column := rfl
  have halias : (Fragment.of [("column", Query.measure function column),
      ("alias", .text name)]).read "alias" = .text name := rfl
  rw [Statement.columns, Statement.listing, Query.fragments_aggregate, if_pos rfl, List.mapM_cons,
    List.mapM_nil, hcolumn, halias]
  cases (Query.measure function column).aliased scope (.text name) with
  | error cause => rfl
  | ok tokens =>
      exact congrArg (fun body => Except.ok (Tokens.headed "SELECT" body))
        (Tokens.joined_singleton ", " tokens)

theorem clauses_aggregate (query : Query) (function name : String) (column : Value) :
    store.clauses (query.aggregate function name column) =
      { store.clauses query with
        columns := Tokens.headed "SELECT" <$>
          (Query.measure function column).aliased store.scope (.text name) } := by
  have hcompiler : (query.aggregate function name column).compiler = query.compiler := rfl
  have hfragments : ∀ clause, clause ≠ .columns →
      (query.aggregate function name column).blueprint.fragments clause =
        query.blueprint.fragments clause := by
    intro clause hne
    rw [Query.fragments_aggregate, if_neg hne]
  rw [store.clauses_congr hcompiler fun clause hne _ _ _ => hfragments clause hne,
    columns_aggregate, Statement.limits_congr (hfragments .limit (by decide))]
  rfl

/-- What is run for an aggregate is the select of its template with other columns. -/
theorem build_measuring (query : Query) (function name : String) (column : Value) :
    store.build (query.measuring function name column) =
      query.compiler.finish <$> { store.clauses query with
        columns := Tokens.headed "SELECT" <$>
          (Query.measure function column).aliased store.scope (.text name) }.whole := by
  rw [store.build_select _ rfl, Query.measuring, clauses_withType, clauses_aggregate]
  rfl

end Store

/-! ### What is sent -/

variable {κ σ : Type}

/-- An action has a connection run a statement, and nothing else is sent. If the connection fails,
so does the action. -/
structure Session.Delivers {α : Type} (session : Session κ σ) (action : Action κ σ α) (slot : Nat)
    (run : Run κ) : Prop where
  connections : (play action session).2.connections =
    session.connections.setIfInBounds slot run.connection
  journal : (play action session).2.journal =
    session.journal ++ (run.sent.map fun sent => (⟨slot, sent⟩ : Dispatch)).toArray
  failure : ∀ cause, run.outcome = .error cause → (play action session).1 = .error cause

/-- What has been handed to a connection has been delivered if the action has done nothing else to
connections and answers what comes of the run. -/
theorem Session.Handed.delivers {α : Type} {session before later : Session κ σ} {slot : Nat}
    {run : Run κ} {action : Action κ σ α} {next : Outcome → Except Error α}
    (h : before.Handed slot run later) (hconnections : before.connections = session.connections)
    (hjournal : before.journal = session.journal)
    (hplay : play action session = (run.outcome >>= next, later)) :
    session.Delivers action slot run where
  connections := by rw [hplay, h.connections, hconnections]
  journal := by rw [hplay, h.journal, hjournal]
  failure cause hfailure := by
    rw [hplay, hfailure]
    rfl

section Connections

variable [Connection κ]

/-- An action sends what has been built: a statement goes to its connection, and if there is none
the action fails with the reason and nothing has been sent. -/
def Session.Sends {α : Type} (session : Session κ σ) (action : Action κ σ α) (slot : Nat)
    (mapper : Mapper) : Except Error Compiled → Prop
  | .error cause => (play action session).1 = .error cause ∧
      (play action session).2.connections = session.connections ∧
      (play action session).2.journal = session.journal
  | .ok compiled => ∃ connection, session.connections[slot]? = some connection ∧
      session.Delivers action slot
        (Connection.run connection compiled.sql (.list compiled.parameters) (some mapper))

/-! ### Asking for an aggregate -/

/-- The value of an aggregate in the record that is fetched for it, zero where there is none. -/
def Record.measured (name : String) : Option Record → Value
  | none => .int 0
  | some record =>
      match record.read name with
      | .null => .int 0
      | value => value

def Call.conclude : Call κ σ → Value → Except Error Answer
  | count _, value => do return .value (.int (← value.toInteger))
  | _, value => .ok (.value value)

/-- The first row of a select is wanted. -/
def Command.firstRow : Command :=
  ⟨.select, none, some (.bool true)⟩

/-- What comes of the rows of an aggregate. -/
def Call.readOff (call : Call κ σ) (name : String) (outcome : Outcome) : Except Error Answer := do
  let fetched ← fetchedRows outcome
  call.conclude (Record.measured name fetched.leading)

omit [Connection κ] in
theorem Session.play_bind_lift {α β : Type} (first : Action κ σ α) (next : α → Except Error β)
    (session : Session κ σ) :
    play (first >>= fun answer => liftM (next answer)) session =
      ((play first session).1 >>= next, (play first session).2) := by
  rw [play_bind]
  cases h : play first session with
  | mk outcome later =>
      cases outcome with
      | error cause => rfl
      | ok answer => exact play_lift _ _

theorem Session.aggregate_eq (id : Nat) (function name : String) (column : Value) :
    (aggregate id function name column : Action κ σ Value) = (do
      let copy ← addQuery ((← query id).aggregate function name column)
      let outcome ← Command.firstRow.run copy
      let fetched ← liftM (fetchedRows outcome)
      return Record.measured name fetched.leading) := by
  rw [aggregate]
  apply bind_congr
  intro current
  apply bind_congr
  intro copy
  rw [first_eq, select_eq, bind_assoc, bind_assoc]
  apply bind_congr
  intro outcome
  apply bind_congr
  intro fetched
  rw [pure_bind]
  cases fetched.leading with
  | none => rfl
  | some record =>
      unfold Record.measured
      dsimp only
      cases record.read name <;> rfl

theorem Call.run_eq_conclude {call : Call κ σ} {function name : String} {column : Value}
    (h : call.aggregate? = some (function, name, column)) (id : Nat) :
    call.run id =
      Session.aggregate id function name column >>= fun value => liftM (call.conclude value) := by
  cases call with
  | count column =>
      obtain ⟨rfl, rfl, rfl⟩ := h
      simp only [run, valued, Session.count, conclude, lift_bind, lift_pure, bind_assoc, pure_bind]
  | sum column | minimum column | maximum column | average column =>
      obtain ⟨rfl, rfl, rfl⟩ := h
      rfl
  | _ => cases h

theorem Call.run_eq_aggregate {call : Call κ σ} {function name : String} {column : Value}
    (h : call.aggregate? = some (function, name, column)) (id : Nat) :
    call.run id = (do
      let copy ← addQuery ((← query id).aggregate function name column)
      Command.firstRow.run copy >>= fun outcome => liftM (call.readOff name outcome)) := by
  rw [run_eq_conclude h, Session.aggregate_eq]
  simp only [readOff, lift_bind, bind_assoc, pure_bind]

theorem Session.Confined.asking {call : Call κ σ} {function name : String} {column : Value}
    (h : call.aggregate? = some (function, name, column)) (ids : Set Nat) (id : Nat) :
    Confined ids (call.run id) := by
  rw [Call.run_eq_conclude h]
  exact (Confined.aggregate function name column).bind fun _ => .lift _

variable {session : Session κ σ} {id : Nat} {query : Query} {call : Call κ σ}
  {function name : String} {column : Value}

theorem Session.play_aggregate (hcall : call.aggregate? = some (function, name, column))
    (hquery : session.store.queries[id]? = some query) :
    play (call.run id) session =
      let executed := play (execute session.store.queries.size
        (some ⟨true, none, some session.store.queries.size⟩))
        (session.opening (query.aggregate function name column))
      (executed.1 >>= call.readOff name, executed.2) := by
  have hcopy := queries_withAdded session (query.aggregate function name column)
  rw [Call.run_eq_aggregate hcall, play_bind_ok (play_query hquery),
    play_bind_ok (play_addQuery _ session), play_bind_lift, Command.play_run hcopy rfl]
  rfl

/-- An aggregate sends what the query for it is built to, once, and wants no models. -/
theorem Session.sends_aggregate (hcall : call.aggregate? = some (function, name, column))
    (hquery : session.store.queries[id]? = some query) {connection : κ}
    (hconnection : session.connections[query.connection]? = some connection) :
    session.Sends (call.run id) query.connection
      ⟨true, none, some session.store.queries.size⟩
      ((session.opening (query.aggregate function name column)).store.build
        (query.measuring function name column)) := by
  have hplay := play_aggregate hcall hquery
  have hcopy : (session.opening (query.aggregate function name column)).store.queries[
      session.store.queries.size]? = some (query.measuring function name column) :=
    queries_withQuery (queries_withAdded session _) _
  cases hbuild : (session.opening (query.aggregate function name column)).store.build
      (query.measuring function name column) with
  | error cause =>
      rw [play_execute_error hcopy hbuild] at hplay
      rw [Sends, hplay]
      exact ⟨rfl, rfl, rfl⟩
  | ok compiled =>
      obtain ⟨later, hexecute, hhanded⟩ := play_execute hcopy hbuild hconnection
        (some ⟨true, none, some session.store.queries.size⟩)
      rw [hexecute] at hplay
      exact ⟨connection, hconnection, hhanded.delivers rfl rfl hplay⟩

/-! ### The template -/

/-- Neither a walk, whose visits change no query, nor an aggregate changes a query that was there,
however it ends. An aggregate hands its connection a single statement, or none if that cannot be
built. It is the select of the template, clause by clause, only that its columns are the function
under its name, and no rows are made into models. The copy of the template that is sent makes no
difference to what is built, as nothing can refer to it yet. -/
theorem Session.template_kept (hquery : session.store.queries[id]? = some query) {connection : κ}
    (hconnection : session.connections[query.connection]? = some connection) :
    (∀ (fuel : Nat) (size index : Value) (visit : Visit κ σ),
      (∀ records count number, Confined ∅ (visit records count number)) →
      session.store.Keeps ∅ (play (chunk fuel id size index visit) session).2.store) ∧
    ∀ (call : Call κ σ) (function name : String) (column : Value),
      call.aggregate? = some (function, name, column) →
      let sending := session.opening (query.aggregate function name column)
      session.store.Keeps ∅ (play (call.run id) session).2.store ∧
      session.Sends (call.run id) query.connection ⟨true, none, some session.store.queries.size⟩
        (sending.store.build (query.measuring function name column)) ∧
      (session.store.Anchors (query.measuring function name column).blueprint →
        sending.store.build (query.measuring function name column) =
          session.store.build (query.measuring function name column)) ∧
      ∀ store : Store,
        store.build (query.withType .select) =
          query.compiler.finish <$> (store.clauses query).whole ∧
        store.build (query.measuring function name column) =
          query.compiler.finish <$> { store.clauses query with
            columns := Tokens.headed "SELECT" <$>
              (Query.measure function column).aliased store.scope (.text name) }.whole := by
  constructor
  · intro fuel size index visit hvisit
    exact Confined.chunk hvisit fuel size index session
  · intro call function name column hcall
    refine ⟨Confined.asking hcall ∅ id session, sends_aggregate hcall hquery hconnection,
      ?anchored, ?built⟩
    case anchored =>
      intro hanchors
      apply (session.keeps_opening _).build_eq hanchors
      intro changed hchanged
      exact absurd hchanged (Set.notMem_empty changed)
    case built =>
      intro store
      exact ⟨store.build_select _ rfl, store.build_measuring query function name column⟩

end Connections

/-! ### A template that was run as another statement -/

/-- A query on a table that was last run as a delete, with a model that fails. -/
def Query.emptied : Query :=
  { ((Query.new 0 .mysql Options.standard).setTable (.text "t") (.text "")).withType .delete with
    model := some .failing }

def Session.measured : Session RecordingConnection Unit :=
  let session : Session RecordingConnection Unit := Session.start ()
  let row := Value.map [(.text "id", .int 1), (.text "sum", .int 5)]
  { session with
    connections := #[RecordingConnection.start (.text "mysql") (.same [row]) []] }.withAdded
      Query.emptied

/-- A visit that fails at the first page. -/
def Visit.failing : Visit RecordingConnection Unit :=
  fun _ _ _ => throw .missingKey

/-- Neither a walk whose visit fails nor a sum changes the query, which stays a delete, and the sum
sends a select. -/
theorem Session.template_kept_measured :
    (play (chunk 2 0 .null .null Visit.failing) Session.measured).2.store.queries[0]? =
      some Query.emptied ∧
    (play ((Call.sum (.text "a")).run 0) Session.measured).2.store.queries[0]? =
      some Query.emptied ∧
    ∃ compiled : Compiled, compiled.sql = "SELECT SUM(\x60a\x60) AS \x60sum\x60 FROM \x60t\x60" ∧
      (play ((Call.sum (.text "a")).run 0) Session.measured).2.journal =
        #[⟨0, .statement compiled.sql (.list compiled.parameters)⟩] := by
  have hquery : Session.measured.store.queries[0]? = some Query.emptied := rfl
  have hconnection : Session.measured.connections[Query.emptied.connection]? =
      some (.start (.text "mysql") (.same [.map [(.text "id", .int 1), (.text "sum", .int 5)]])
        []) := rfl
  obtain ⟨hwalk, hask⟩ := template_kept hquery hconnection
  obtain ⟨hkeeps, hsends, -, -⟩ := hask (.sum (.text "a")) _ _ _ rfl
  have hvisit : ∀ records count number, Confined ∅ (Visit.failing records count number) :=
    fun _ _ _ => .throw _
  have hchunk := hwalk 2 .null .null Visit.failing hvisit
  refine ⟨hchunk.record hquery (Set.notMem_empty 0), hkeeps.record hquery (Set.notMem_empty 0), ?_⟩
  have hsql : ((Session.measured.opening (Query.emptied.aggregate "SUM" "sum" (.text "a"))
      ).store.build (Query.emptied.measuring "SUM" "sum" (.text "a"))).toOption.map Compiled.sql =
        some "SELECT SUM(\x60a\x60) AS \x60sum\x60 FROM \x60t\x60" := by decide +kernel
  cases hbuild : (Session.measured.opening (Query.emptied.aggregate "SUM" "sum" (.text "a"))
      ).store.build (Query.emptied.measuring "SUM" "sum" (.text "a")) with
  | error cause =>
      rw [hbuild] at hsql
      cases hsql
  | ok compiled =>
      rw [hbuild] at hsql hsends
      obtain ⟨connection, hfound, hdelivers⟩ := hsends
      obtain rfl := Option.some.inj (hconnection.symm.trans hfound)
      exact ⟨compiled, Option.some.inj hsql, hdelivers.journal⟩

end SqlBuilder
