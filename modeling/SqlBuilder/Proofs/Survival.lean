import SqlBuilder.Proofs.Reordering
import SqlBuilder.Proofs.Template

/-!
# Reads behind writes

A write leaves its traces in the query that it is run on: the query is a statement of another type
then, and the clause that holds the data of the write is another. No select looks at either, so
whatever has been run on a query, and however it has ended, what a read sends is what it would have
sent before. Only a query that depends on itself shows its traces, and it can do so without any
union, by a text that describes it.
-/

namespace SqlBuilder

open Outcome Session

/-- The calls that run a statement: those that read rows, those that ask for an aggregate, and those
that write. -/
def Call.Executes {κ σ : Type} (call : Call κ σ) : Prop :=
  call.description? = none

/-! ### Queries that are the same as selects -/

/-- Two queries that can only differ in their type and in the data of a write. -/
structure Query.SameSelect (query other : Query) : Prop where
  connection : other.connection = query.connection
  compiler : other.compiler = query.compiler
  model : other.model = query.model
  fragments : ∀ clause, clause ≠ .insert → clause ≠ .update →
    other.blueprint.fragments clause = query.blueprint.fragments clause

namespace Query.SameSelect

variable {query other third : Query}

theorem refl (query : Query) : SameSelect query query :=
  ⟨rfl, rfl, rfl, fun _ _ _ => rfl⟩

theorem trans (hfirst : SameSelect query other) (hsecond : SameSelect other third) :
    SameSelect query third where
  connection := hsecond.connection.trans hfirst.connection
  compiler := hsecond.compiler.trans hfirst.compiler
  model := hsecond.model.trans hfirst.model
  fragments clause hinsert hupdate :=
    (hsecond.fragments clause hinsert hupdate).trans (hfirst.fragments clause hinsert hupdate)

theorem withType (query : Query) (type : StatementType) : SameSelect query (query.withType type) :=
  ⟨rfl, rfl, rfl, fun _ _ _ => rfl⟩

theorem reset (query : Query) {clause : Clause} (hclause : clause = .insert ∨ clause = .update) :
    SameSelect query (query.reset clause) := by
  refine ⟨rfl, rfl, rfl, fun kept hinsert hupdate => ?_⟩
  have hne : clause ≠ kept := by
    rcases hclause with rfl | rfl
    · exact hinsert.symm
    · exact hupdate.symm
  simp [hne]

theorem add (query : Query) {clause : Clause} (hclause : clause = .insert ∨ clause = .update)
    (attributes : List (String × Value)) : SameSelect query (query.add clause attributes) := by
  refine ⟨rfl, rfl, rfl, fun kept hinsert hupdate => ?_⟩
  have hne : clause ≠ kept := by
    rcases hclause with rfl | rfl
    · exact hinsert.symm
    · exact hupdate.symm
  simp [hne]

theorem build (h : SameSelect query other) (store : Store) :
    store.build (other.withType .select) = store.build (query.withType .select) := by
  have hclauses : store.clauses other = store.clauses query := by
    rw [store.clauses_congr h.compiler fun clause _ _ hinsert hupdate =>
      h.fragments clause hinsert hupdate,
      Statement.columns_congr _ (h.fragments .columns (by decide) (by decide)),
      Statement.limits_congr (h.fragments .limit (by decide) (by decide))]
    rfl
  rw [store.build_select _ rfl, store.build_select _ rfl, Store.clauses_withType,
    Store.clauses_withType, hclauses, Query.compiler_withType, Query.compiler_withType,
    h.compiler]

end Query.SameSelect

variable {κ σ : Type}

/-- A write replaces only the clause that holds its data. -/
theorem Call.data_clause {call : Call κ σ} {command : Command}
    (hcommand : call.command? = some command) {clause : Clause}
    {attributes : Except Error (List (String × Value))}
    (hdata : command.data = some (clause, attributes)) : clause = .insert ∨ clause = .update := by
  cases call with
  | insert data | upsert data changes index =>
      obtain rfl := Option.some.inj hcommand
      exact .inl (Prod.mk.inj (Option.some.inj hdata)).1.symm
  | update data =>
      obtain rfl := Option.some.inj hcommand
      exact .inr (Prod.mk.inj (Option.some.inj hdata)).1.symm
  | select _ | rows | first | delete | truncate =>
      obtain rfl := Option.some.inj hcommand
      cases hdata
  | _ => cases hcommand

theorem Call.sameSelect_prepare {call : Call κ σ} {command : Command}
    (hcommand : call.command? = some command) (query : Query) :
    query.SameSelect (command.prepare query).2 := by
  rw [Command.prepare]
  split
  · exact .withType query _
  · next clause attributes hdata =>
      have hwritten := data_clause hcommand hdata
      exact ((Query.SameSelect.reset query hwritten).trans (.add _ hwritten attributes)).trans
        (.withType _ _)
  · next clause cause hdata => exact .reset query (data_clause hcommand hdata)

/-! ### What calls leave behind -/

theorem Call.Executes.command_or_aggregate {call : Call κ σ} (h : call.Executes) :
    (∃ command, call.command? = some command) ∨
      ∃ function name column, call.aggregate? = some (function, name, column) := by
  cases call with
  | select _ | rows | first | insert _ | upsert _ _ _ | update _ | delete | truncate =>
      exact .inl ⟨_, rfl⟩
  | count _ | sum _ | minimum _ | maximum _ | average _ => exact .inr ⟨_, _, _, rfl⟩
  | _ => cases h

/-- A query is still there and the same as a select, and so is its connection. -/
structure Session.Carries (session : Session κ σ) (id : Nat) (query : Query) : Prop where
  record : ∃ current, session.store.queries[id]? = some current ∧ query.SameSelect current
  connection : query.connection < session.connections.size

theorem Session.Carries.exists_connection {session : Session κ σ} {id : Nat}
    {query current : Query} (h : session.Carries id query) (hsame : query.SameSelect current) :
    ∃ connection, session.connections[current.connection]? = some connection := by
  rw [hsame.connection]
  exact ⟨_, Array.getElem?_eq_getElem h.connection⟩

section Connections

variable [Connection κ] {session : Session κ σ} {id : Nat} {query current : Query}
  {call : Call κ σ}

theorem Session.Sends.size_connections {α : Type} {action : Action κ σ α} {slot : Nat}
    {mapper : Mapper} {statement : Except Error Compiled}
    (h : session.Sends action slot mapper statement) :
    (play action session).2.connections.size = session.connections.size := by
  cases statement with
  | error cause => rw [h.2.1]
  | ok compiled =>
      obtain ⟨_, _, hdelivers⟩ := h
      rw [hdelivers.connections, Array.size_setIfInBounds]

/-- A call that runs the query as a statement leaves what it has prepared of it, whatever has come
of the statement. -/
theorem Session.Carries.command {command : Command} (h : session.Carries id query)
    (hcommand : call.command? = some command) :
    (play (call.run id) session).2.Carries id query := by
  obtain ⟨current, hcurrent, hsame⟩ := h.record
  have hslot := h.connection
  have hprepared := hsame.trans (Call.sameSelect_prepare hcommand current)
  cases hprepare : command.prepare current with
  | mk outcome prepared =>
      rw [hprepare] at hprepared
      have hrecord := queries_withQuery hcurrent prepared
      cases outcome with
      | error cause =>
          rw [Call.play_refused hcommand hcurrent hprepare]
          exact ⟨⟨prepared, hrecord, hprepared⟩, hslot⟩
      | ok =>
          cases hbuild : (session.withQuery id prepared).store.build prepared with
          | error cause =>
              rw [Call.play_unbuilt hcommand hcurrent hprepare hbuild]
              exact ⟨⟨prepared, hrecord, hprepared⟩, hslot⟩
          | ok compiled =>
              obtain ⟨connection, hconnection⟩ := h.exists_connection hsame
              obtain ⟨later, hplay, hhanded⟩ :=
                Call.play_sent hcommand hcurrent hprepare hbuild hconnection
              rw [hplay]
              refine ⟨⟨prepared, ?_, hprepared⟩, ?_⟩
              · rw [hhanded.store, hrecord]
              · rw [hhanded.connections, Array.size_setIfInBounds]
                exact hslot

theorem Session.Carries.aggregate {function name : String} {column : Value}
    (h : session.Carries id query) (hcall : call.aggregate? = some (function, name, column)) :
    (play (call.run id) session).2.Carries id query := by
  obtain ⟨current, hcurrent, hsame⟩ := h.record
  obtain ⟨connection, hconnection⟩ := h.exists_connection hsame
  have hkeeps := Confined.asking hcall ∅ id session
  have hsends := sends_aggregate hcall hcurrent hconnection
  refine ⟨⟨current, hkeeps.record hcurrent (Set.notMem_empty id), hsame⟩, ?_⟩
  rw [hsends.size_connections]
  exact h.connection

theorem Session.Carries.called (h : session.Carries id query) (hcall : call.Executes) :
    (play (call.run id) session).2.Carries id query := by
  rcases hcall.command_or_aggregate with ⟨command, hcommand⟩ | ⟨function, name, column, haggregate⟩
  · exact h.command hcommand
  · exact h.aggregate haggregate

/-- After any number of calls that run statements, the query is there and the same as a select. -/
theorem Session.Carries.after (h : session.Carries id query) {calls : List (Call κ σ)}
    (hcalls : ∀ call ∈ calls, call.Executes) :
    (session.after id (calls.map .call)).Carries id query := by
  induction calls generalizing session with
  | nil => exact h
  | cons call rest ih =>
      have hfirst := h.called (hcalls call List.mem_cons_self)
      rw [← play_bind_pure _ ()] at hfirst
      exact ih hfirst fun other hother => hcalls other (List.mem_cons_of_mem call hother)

/-! ### Reading -/

theorem Session.sends_read {single : Value}
    (hcommand : call.command? = some ⟨.select, none, some single⟩)
    (hcurrent : session.store.queries[id]? = some current) {connection : κ}
    (hconnection : session.connections[current.connection]? = some connection) :
    session.Sends (call.run id) current.connection ⟨single.truthy, current.model, some id⟩
      ((session.withQuery id (current.withType .select)).store.build
        (current.withType .select)) := by
  cases hbuild : (session.withQuery id (current.withType .select)).store.build
      (current.withType .select) with
  | error cause =>
      rw [Sends, Call.play_unbuilt hcommand hcurrent rfl hbuild]
      exact ⟨rfl, rfl, rfl⟩
  | ok compiled =>
      obtain ⟨later, hplay, hhanded⟩ :=
        Call.play_sent hcommand hcurrent rfl hbuild hconnection
      exact ⟨connection, hconnection, hhanded.delivers rfl rfl hplay⟩

/-- Whatever a query has become by calls that run statements, a read sends the select that it was
when nothing had been run, provided that this does not come back to the query itself. -/
theorem Session.Carries.sends {later : Session κ σ} (h : later.Carries id query)
    (hkeeps : session.store.Keeps {id} later.store)
    (hanchors : session.store.Anchors (query.withType .select).blueprint)
    (hfree : ¬ session.store.Depends (query.withType .select).blueprint (.query id))
    {single : Value} (hcommand : call.command? = some ⟨.select, none, some single⟩) :
    later.Sends (call.run id) query.connection ⟨single.truthy, query.model, some id⟩
      (session.store.build (query.withType .select)) := by
  obtain ⟨current, hcurrent, hsame⟩ := h.record
  obtain ⟨connection, hconnection⟩ := h.exists_connection hsame
  have hset : session.store.Keeps {id} (later.withQuery id (current.withType .select)).store :=
    hkeeps.trans (.set (Set.mem_singleton id) _ _)
  have hbuild : (later.withQuery id (current.withType .select)).store.build
      (current.withType .select) = session.store.build (query.withType .select) := by
    rw [hsame.build]
    exact (hset.preserves hanchors hfree).build
  have hsends := sends_read hcommand hcurrent hconnection
  rw [hbuild, hsame.connection, hsame.model] at hsends
  exact hsends

/-- A query survives what is run on it. Behind any calls that read, write or ask for an aggregate,
each of which may be refused, fail to be built or fail at the driver, a read sends what it would
have sent in front of them, on the same connection and for the same model: the select that the query
was then, or it fails the way this has failed to be built, with nothing sent. The wording of a
failure is the same too, unless it describes the query itself. What the query refers to must be
there, and lead back to the query neither by unions nor by what statements write out. -/
theorem Session.reads_survive (hquery : session.store.queries[id]? = some query)
    (hslot : query.connection < session.connections.size)
    (hanchors : session.store.Anchors (query.withType .select).blueprint)
    (hfree : ¬ session.store.Depends (query.withType .select).blueprint (.query id))
    {calls : List (Call κ σ)} (hcalls : ∀ call ∈ calls, call.Executes) :
    let later := session.after id (calls.map .call)
    let statement := session.store.build (query.withType .select)
    (∀ (read : Call κ σ) (single : Value),
      read.command? = some ⟨.select, none, some single⟩ →
      let mapper : Mapper := ⟨single.truthy, query.model, some id⟩
      session.Sends (read.run id) query.connection mapper statement ∧
      later.Sends (read.run id) query.connection mapper statement) ∧
    ∀ cause, statement = .error cause →
      (∀ place ∈ cause.described,
        place ≠ .query id ∧ ∃ standing, session.store.at? place = some standing) →
      cause.message? later.store.references = cause.message? session.store.references := by
  intro later statement
  have hcarries : session.Carries id query := ⟨⟨query, hquery, .refl query⟩, hslot⟩
  have hlater : later.Carries id query := hcarries.after hcalls
  have hkeeps : session.store.Keeps {id} later.store := by
    apply Store.Keeps.after
    intro operation hoperation
    obtain ⟨call, hcall, rfl⟩ := List.mem_map.1 hoperation
    exact Call.confined_of_not_described (hcalls call hcall) {id}
  constructor
  · intro read single hcommand
    exact ⟨hcarries.sends (.refl _ _) hanchors hfree hcommand,
      hlater.sends hkeeps hanchors hfree hcommand⟩
  · exact (hkeeps.preserves hanchors hfree).wording

end Connections

/-! ### Writes that fail -/

def Sent.sql? : Sent → Option String
  | .statement sql _ => some sql
  | _ => none

theorem RecordingConnection.sent_run (connection : RecordingConnection) (sql : String)
    (parameters : List Value) (mapper : Option Mapper) :
    (connection.run sql (.list parameters) mapper).sent = [.statement sql (.list parameters)] := by
  unfold RecordingConnection.run
  simp only [Value.items]
  cases connection.failure? (connection.statements + 1) <;> cases mapper <;> rfl

theorem Session.Sends.last_sql {α : Type} {session : Session RecordingConnection Unit}
    {action : Action RecordingConnection Unit α} {slot : Nat} {mapper : Mapper}
    {compiled : Compiled} (h : session.Sends action slot mapper (.ok compiled)) :
    ((play action session).2.journal.back?).bind (·.sent.sql?) = some compiled.sql := by
  obtain ⟨connection, -, hdelivers⟩ := h
  have hsent : (Connection.run connection compiled.sql (.list compiled.parameters)
      (some mapper)).sent = [.statement compiled.sql (.list compiled.parameters)] :=
    connection.sent_run _ _ _
  rw [hdelivers.journal, hsent]
  simp [Sent.sql?]

def Query.onTable (name : String) : Query :=
  (Query.new 0 .mysql Options.standard).setTable (.text name) (.text "")

/-- A query that unites itself with the query of the given number. -/
def Query.uniting (id : Nat) : Query :=
  (Query.onTable "t").addUnion (.query id)

/-- A session with a query and another that unites itself with it, on a connection that fails the
first statement. -/
def Session.uniting : Session RecordingConnection Unit :=
  let session : Session RecordingConnection Unit := Session.start ()
  let connection := RecordingConnection.start (.text "mysql") .nothing [1]
  ({ session with connections := #[connection] }.withAdded (Query.onTable "s")).withAdded
    (Query.uniting 0)

/-- An insert that is refused, an update that cannot be built, a delete that fails at the driver, a
count and an upsert that is answered. -/
def Call.failing : List (Call RecordingConnection Unit) :=
  [.insert (.int 3), .update (.map []), .delete, .count .null,
    .upsert (.map [(.text "a", .int 1)]) (.map []) (.list [])]

theorem Session.depends_uniting {place : Place}
    (h : Session.uniting.store.Depends ((Query.uniting 0).withType .select).blueprint place) :
    place = .query 0 := by
  have hplaces : ((Query.uniting 0).withType .select).blueprint.places = [.query 0] := by
    decide +kernel
  have hnone : (Session.uniting.store.at? (.query 0)).map Blueprint.places = some [] := by
    decide +kernel
  apply h.eq_of_single hplaces
  intro next hrefers
  cases Store.mem_of_refers hnone hrefers

/-- After all of that the query is still the same union. -/
theorem Session.reads_survive_uniting :
    ((play (Call.rows.run 1) (Session.uniting.after 1 (Call.failing.map .call))).2.journal.back?
      ).bind (·.sent.sql?) = some "SELECT * FROM \x60t\x60 UNION SELECT * FROM \x60s\x60" := by
  have hquery : Session.uniting.store.queries[1]? = some (Query.uniting 0) := rfl
  have hslot : (Query.uniting 0).connection < Session.uniting.connections.size := by decide +kernel
  have hanchors :
      Session.uniting.store.Anchors ((Query.uniting 0).withType .select).blueprint := by
    intro place hdepends
    rw [Session.depends_uniting hdepends]
    exact ⟨_, rfl⟩
  have hfree : ¬ Session.uniting.store.Depends ((Query.uniting 0).withType .select).blueprint
      (.query 1) := by
    intro hdepends
    cases Session.depends_uniting hdepends
  have hcalls : ∀ call ∈ Call.failing, call.Executes := by
    simp only [Call.failing, List.forall_mem_cons]
    exact ⟨rfl, rfl, rfl, rfl, rfl, List.forall_mem_nil _⟩
  obtain ⟨hreads, -⟩ := reads_survive hquery hslot hanchors hfree hcalls
  obtain ⟨-, hsends⟩ := hreads .rows (.bool false) rfl
  have hsql : (Session.uniting.store.build ((Query.uniting 0).withType .select)).toOption.map
      Compiled.sql = some "SELECT * FROM \x60t\x60 UNION SELECT * FROM \x60s\x60" := by
    decide +kernel
  cases hbuild : Session.uniting.store.build ((Query.uniting 0).withType .select) with
  | error cause =>
      rw [hbuild] at hsql
      cases hsql
  | ok compiled =>
      rw [hbuild] at hsql hsends
      rw [hsends.last_sql]
      exact hsql

/-! ### A query that describes itself -/

def Call.planting : Call RecordingConnection Unit :=
  .insert (.map [(.text "a", .int 1)])

/-- A query on a table whose one column is the text of a list that has the query in it. -/
def Query.reflecting (id : Nat) : Query :=
  (Query.onTable "t").addColumn (.raw (.list [.query id])) (.text "")

def Session.reflecting : Session RecordingConnection Unit :=
  let session : Session RecordingConnection Unit := Session.start ()
  let connection := RecordingConnection.start (.text "mysql") .nothing []
  { session with connections := #[connection] }.withAdded (Query.reflecting 0)

theorem Query.places_reflecting : (Query.reflecting 0).blueprint.places = [.query 0] := by
  decide +kernel

theorem Session.anchors_reflecting :
    Session.reflecting.store.Anchors (Query.reflecting 0).blueprint := by
  have hplaces : (Session.reflecting.store.at? (.query 0)).map Blueprint.places =
      some [.query 0] := congrArg some Query.places_reflecting
  have hitself : ∀ next, Session.reflecting.store.Refers (.query 0) next → next = .query 0 :=
    fun next hrefers => List.mem_singleton.1 (Store.mem_of_refers hplaces hrefers)
  intro place hdepends
  rw [hdepends.eq_of_single Query.places_reflecting hitself]
  exact ⟨_, rfl⟩

theorem Session.not_unites_reflecting (place : Place) :
    ¬ Session.reflecting.store.Unites (.query 0) place :=
  Store.not_unites_of_memberPlaces (by decide +kernel) (.query 0) place

/-- It is not enough that no union leads from the query to itself: its text may describe it, and
show that an insert has been run on it. -/
theorem Session.unions_are_not_all :
    ¬ ∀ (session : Session RecordingConnection Unit) (id : Nat) (query : Query)
        (calls : List (Call RecordingConnection Unit)) (statement : Except Error Compiled),
      session.store.queries[id]? = some query →
      query.connection < session.connections.size →
      session.store.Anchors query.blueprint →
      ¬ Relation.TransGen session.store.Unites (.query id) (.query id) →
      (∀ call ∈ calls, call.Executes) →
      session.Sends (Call.rows.run id) query.connection ⟨false, query.model, some id⟩ statement →
      (session.after id (calls.map .call)).Sends (Call.rows.run id) query.connection
        ⟨false, query.model, some id⟩ statement := by
  intro h
  have hslot : (Query.reflecting 0).connection < Session.reflecting.connections.size := by
    decide +kernel
  have hapart : ¬ Relation.TransGen Session.reflecting.store.Unites (.query 0) (.query 0) := by
    intro hcycle
    obtain ⟨next, hstep, _⟩ := Relation.TransGen.head'_iff.1 hcycle
    exact Session.not_unites_reflecting next hstep
  have hcalls : ∀ call ∈ [Call.planting], call.Executes := List.forall_mem_singleton.2 rfl
  have hcommand : (Call.rows : Call RecordingConnection Unit).command? =
      some ⟨.select, none, some (.bool false)⟩ := rfl
  have hquery : Session.reflecting.store.queries[0]? = some (Query.reflecting 0) := rfl
  have hconnection : Session.reflecting.connections[(Query.reflecting 0).connection]? =
      some (.start (.text "mysql") .nothing []) := rfl
  have hbefore := Session.sends_read hcommand hquery hconnection
  have hafter := h Session.reflecting 0 (Query.reflecting 0) [Call.planting] _ hquery hslot
    Session.anchors_reflecting hapart hcalls hbefore
  have hdiffer :
      ((play (Call.rows.run 0) (Session.reflecting.after 0 ([Call.planting].map .call))
        ).2.journal.back?).bind (·.sent.sql?) ≠
        ((play (Call.rows.run 0) Session.reflecting).2.journal.back?).bind (·.sent.sql?) := by
    decide +kernel
  have hbuilt : ((Session.reflecting.withQuery 0 ((Query.reflecting 0).withType .select)
      ).store.build ((Query.reflecting 0).withType .select)).isOk = true := by decide +kernel
  cases hbuild : (Session.reflecting.withQuery 0 ((Query.reflecting 0).withType .select)
      ).store.build ((Query.reflecting 0).withType .select) with
  | error cause =>
      rw [hbuild] at hbuilt
      cases hbuilt
  | ok compiled =>
      rw [hbuild] at hbefore hafter
      exact hdiffer (hafter.last_sql.trans hbefore.last_sql.symm)

end SqlBuilder
