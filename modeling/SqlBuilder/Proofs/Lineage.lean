import SqlBuilder.Proofs.Columns.Script
import SqlBuilder.Proofs.Template

/-!
# Lines of queries

A query has its connection and its compiler from the moment it is made, and what is made of it has
them from it: its clones, the nested queries that its callbacks fill, the queries that are run for
its aggregates, the pages of its walks. They are of its line.

What is done with a query between one callback and the next is a piece of work on it. A piece of
work only makes queries of the line of its query, leaves every query in its line and registers
nothing; and it hands at most one statement to a connection: what a query of the line is built to,
on the connection of the line.
-/

namespace SqlBuilder

open Outcome Session

/-- Two queries with the same connection and the same compiler. -/
structure Query.Kin (query other : Query) : Prop where
  connection : other.connection = query.connection
  compiler : other.compiler = query.compiler

namespace Query

theorem Kin.refl (query : Query) : Kin query query :=
  ⟨rfl, rfl⟩

theorem Kin.trans {query other third : Query} (hfirst : Kin query other)
    (hsecond : Kin other third) : Kin query third where
  connection := hsecond.connection.trans hfirst.connection
  compiler := hsecond.compiler.trans hfirst.compiler

theorem Akin.kin {query other : Query} (h : query.Akin other) : query.Kin other :=
  ⟨h.connection, h.compiler⟩

theorem kin_nested (query : Query) : query.Kin query.nested :=
  ⟨rfl, rfl⟩

theorem kin_withType (query : Query) (type : StatementType) : query.Kin (query.withType type) :=
  ⟨rfl, rfl⟩

theorem kin_aggregate (query : Query) (function name : String) (column : Value) :
    query.Kin (query.aggregate function name column) :=
  ⟨rfl, rfl⟩

theorem kin_prepare (command : Command) (query : Query) :
    query.Kin (command.prepare query).2 := by
  refine ⟨command.connection_prepare query, ?_⟩
  rw [Command.prepare]
  split <;> rfl

end Query

/-! ### What becomes of the store -/

/-- Every query is still in its line, and those that were not there before are in the line of the
given one. -/
structure Store.Descends (id : Nat) (before after : Store) : Prop where
  size : before.queries.size ≤ after.queries.size
  kept : ∀ {other : Nat} {query : Query}, before.queries[other]? = some query →
    ∃ later, after.queries[other]? = some later ∧ query.Kin later
  made : ∀ {other : Nat} {made : Query}, before.queries.size ≤ other →
    after.queries[other]? = some made → ∃ query, before.queries[id]? = some query ∧ query.Kin made

namespace Store.Descends

variable {id other : Nat} {before between after : Store}

theorem refl (id : Nat) (store : Store) : Descends id store store where
  size := le_refl _
  kept hquery := ⟨_, hquery, .refl _⟩
  made hother hmade := by
    rw [Array.getElem?_eq_none hother] at hmade
    cases hmade

/-- The query itself and the queries that were not there before are in its line. -/
theorem of_line (h : Descends id before after) (hline : other = id ∨ before.queries.size ≤ other)
    {made : Query} (hmade : after.queries[other]? = some made) :
    ∃ query, before.queries[id]? = some query ∧ query.Kin made := by
  obtain hsize | hsize := Nat.lt_or_ge other before.queries.size
  · obtain rfl : other = id := hline.resolve_right (by omega)
    obtain ⟨later, hlater, hkin⟩ := h.kept (Array.getElem?_eq_getElem hsize)
    obtain rfl := Option.some.inj (hlater.symm.trans hmade)
    exact ⟨_, Array.getElem?_eq_getElem hsize, hkin⟩
  · exact h.made hsize hmade

theorem trans (hline : other = id ∨ before.queries.size ≤ other)
    (hfirst : Descends id before between) (hsecond : Descends other between after) :
    Descends id before after where
  size := hfirst.size.trans hsecond.size
  kept hquery := by
    obtain ⟨middle, hmiddle, hkin⟩ := hfirst.kept hquery
    obtain ⟨later, hlater, hmore⟩ := hsecond.kept hmiddle
    exact ⟨later, hlater, hkin.trans hmore⟩
  made {place made} hplace hmade := by
    obtain hsize | hsize := Nat.lt_or_ge place between.queries.size
    · obtain ⟨later, hlater, hmore⟩ := hsecond.kept (Array.getElem?_eq_getElem hsize)
      obtain rfl := Option.some.inj (hlater.symm.trans hmade)
      obtain ⟨query, hquery, hkin⟩ := hfirst.made hplace (Array.getElem?_eq_getElem hsize)
      exact ⟨query, hquery, hkin.trans hmore⟩
    · obtain ⟨middle, hmiddle, hmore⟩ := hsecond.made hsize hmade
      obtain ⟨query, hquery, hkin⟩ := hfirst.of_line hline hmiddle
      exact ⟨query, hquery, hkin.trans hmore⟩

theorem set {current changed : Query} (h : before.queries[id]? = some current)
    (hkin : current.Kin changed) : Descends id before (before.set id changed) where
  size := by simp [Store.set]
  kept {other query} hquery := by
    obtain rfl | hne := eq_or_ne id other
    · obtain rfl := Option.some.inj (h.symm.trans hquery)
      obtain ⟨hid, _⟩ := Array.getElem?_eq_some_iff.1 h
      exact ⟨changed, by simp [Store.set, hid], hkin⟩
    · exact ⟨query, by simp [Store.set, hne, hquery], .refl query⟩
  made hother hmade := by
    rw [Array.getElem?_eq_none (by simpa [Store.set] using hother)] at hmade
    cases hmade

theorem add {current added : Query} (h : before.queries[id]? = some current)
    (hkin : current.Kin added) : Descends id before (before.add added).2 where
  size := by simp [Store.add]
  kept {other query} hquery := by
    obtain ⟨hother, _⟩ := Array.getElem?_eq_some_iff.1 hquery
    have hstays : (before.add added).2.queries[other]? = some query := by
      simp [Store.add, Array.getElem?_push, Nat.ne_of_lt hother, hquery]
    exact ⟨query, hstays, .refl query⟩
  made {other made} hother hmade := by
    refine ⟨current, h, ?_⟩
    rw [Store.add, Array.getElem?_push] at hmade
    split at hmade
    · exact Option.some.inj hmade ▸ hkin
    · rw [Array.getElem?_eq_none hother] at hmade
      cases hmade

end Store.Descends

/-! ### Pieces of work -/

variable {κ σ α β : Type}

/-- The queries may have been worked on, and nothing has been registered or sent. -/
structure Session.Prepares (id : Nat) (before after : Session κ σ) : Prop where
  store : before.store.Descends id after.store
  registry : after.registry = before.registry
  connections : after.connections = before.connections
  journal : after.journal = before.journal

namespace Session.Prepares

variable {id other : Nat} {before between after : Session κ σ} {current changed : Query}

theorem refl (id : Nat) (session : Session κ σ) : session.Prepares id session :=
  ⟨.refl id _, rfl, rfl, rfl⟩

theorem trans (hline : other = id ∨ before.store.queries.size ≤ other)
    (hfirst : before.Prepares id between) (hsecond : between.Prepares other after) :
    before.Prepares id after where
  store := hfirst.store.trans hline hsecond.store
  registry := hsecond.registry.trans hfirst.registry
  connections := hsecond.connections.trans hfirst.connections
  journal := hsecond.journal.trans hfirst.journal

theorem withQuery (h : before.store.queries[id]? = some current) (hkin : current.Kin changed) :
    before.Prepares id (before.withQuery id changed) :=
  ⟨.set h hkin, rfl, rfl, rfl⟩

theorem withAdded (h : before.store.queries[id]? = some current) (hkin : current.Kin changed) :
    before.Prepares id (before.withAdded changed) :=
  ⟨.add h hkin, rfl, rfl, rfl⟩

theorem opening (h : before.store.queries[id]? = some current) (hkin : current.Kin changed) :
    before.Prepares id (before.opening changed) :=
  (withAdded h hkin).trans (.inr (le_refl _))
    (withQuery (queries_withAdded before changed) (changed.kin_withType .select))

theorem logged (h : before.Prepares id after) (logging : Log.Logging) :
    before.Prepares id { after with logging } :=
  ⟨h.store, h.registry, h.connections, h.journal⟩

theorem attempt {step : Query → Except Error Query}
    (hstep : ∀ {query changed : Query}, step query = .ok changed → query.Kin changed) (id : Nat)
    (session : Session κ σ) : session.Prepares id (play (Session.attempt id step) session).2 := by
  cases hquery : session.store.queries[id]? with
  | none =>
      rw [Session.attempt, play_bind, play_query_none hquery]
      exact refl id session
  | some current =>
      cases hchanged : step current with
      | error cause =>
          rw [Session.attempt, play_bind_ok (play_query hquery), hchanged]
          exact refl id session
      | ok changed =>
          rw [play_attempt hquery hchanged]
          exact withQuery hquery (hstep hchanged)

theorem change {step : Query → Query} (hstep : ∀ query : Query, query.Kin (step query)) (id : Nat)
    (session : Session κ σ) : session.Prepares id (play (Session.change id step) session).2 := by
  rw [change_eq_attempt]
  exact attempt (fun {query changed} hchanged => Except.ok.inj hchanged ▸ hstep query) id session

theorem clone (id : Nat) (session : Session κ σ) :
    session.Prepares id (play (Session.clone id) session).2 := by
  cases hquery : session.store.queries[id]? with
  | none =>
      rw [Session.clone, play_bind, play_query_none hquery]
      exact refl id session
  | some current =>
      rw [Session.clone, play_bind_ok (play_query hquery), play_addQuery]
      exact withAdded hquery (.refl current)

end Session.Prepares

section Connections

variable [Connection κ]

/-- A piece of work on a query: queries of its line have been worked on, and then perhaps one of
them was built and what it was built to was handed to its connection. -/
inductive Session.Works (id : Nat) (before : Session κ σ) : Session κ σ → Prop where
  | quiet {after : Session κ σ} (h : before.Prepares id after) : Works id before after
  | sending {opened after : Session κ σ} {place : Nat} {sender : Query} {compiled : Compiled}
      {connection : κ} {mapper : Option Mapper} (hopened : before.Prepares id opened)
      (hline : place = id ∨ before.store.queries.size ≤ place)
      (hsender : opened.store.queries[place]? = some sender)
      (hbuild : opened.store.build sender = .ok compiled)
      (hconnection : opened.connections[sender.connection]? = some connection)
      (hhanded : opened.Handed sender.connection
        (Connection.run connection compiled.sql (.list compiled.parameters) mapper) after) :
      Works id before after

namespace Session.Works

variable {id : Nat} {before after : Session κ σ}

theorem store (h : before.Works id after) : before.store.Descends id after.store := by
  cases h with
  | quiet h => exact h.store
  | sending hopened _ _ _ _ hhanded => exact hhanded.store ▸ hopened.store

theorem registry (h : before.Works id after) : after.registry = before.registry := by
  cases h with
  | quiet h => exact h.registry
  | sending hopened _ _ _ _ hhanded => exact hhanded.registry.trans hopened.registry

theorem logged (h : before.Works id after) (logging : Log.Logging) :
    before.Works id { after with logging } := by
  cases h with
  | quiet h => exact quiet (h.logged logging)
  | sending hopened hline hsender hbuild hconnection hhanded =>
      exact sending hopened hline hsender hbuild hconnection ⟨hhanded.connections, hhanded.journal,
        hhanded.store, hhanded.registry, hhanded.defaults, hhanded.host⟩

end Session.Works

/-- Without its connection a query is not run, but that it was to be is logged. -/
theorem Session.play_execute_unconnected {session : Session κ σ} {id : Nat} {current : Query}
    (h : session.store.queries[id]? = some current) {compiled : Compiled}
    (hbuild : session.store.build current = .ok compiled)
    (hconnection : session.connections[current.connection]? = none) (mapper : Option Mapper) :
    ∃ logging, play (execute id mapper) session =
      (.error .noAttribute, { session with logging }) := by
  have hbuilt : play (build id) session = (.ok compiled, session) := by
    rw [play_build h, hbuild]
  rw [execute, play_bind_ok (play_query h), play_bind_ok hbuilt]
  obtain ⟨logging, hlog⟩ := session.play_log_eq .debug "query.execute"
    [("statement", .text current.blueprint.type.name), ("dialect", .text compiled.dialect.name),
      ("sql", .text compiled.sql), ("parameters", .int compiled.parameters.length)]
  refine ⟨logging, ?_⟩
  rw [play_bind_ok hlog, runOn, Session.connection]
  simp [play_bind, hconnection]

/-- What is done with the answer of an action makes no difference to the session. -/
def Session.Looks (action : Action κ σ α) : Prop :=
  ∀ session, (play action session).2 = session

omit [Connection κ] in
theorem Session.Looks.play_bind {next : α → Action κ σ β} (h : ∀ answer, Looks (next answer))
    (first : Action κ σ α) (session : Session κ σ) :
    (play (first >>= next) session).2 = (play first session).2 := by
  rw [Session.play_bind]
  cases play first session with
  | mk outcome later =>
      cases outcome with
      | error cause => rfl
      | ok answer => exact h answer later

omit [Connection κ] in
theorem Session.Looks.lift (stage : Except Error α) : Looks (liftM stage : Action κ σ α) := by
  intro session
  rw [play_lift]

theorem Session.Looks.finish (call : Call κ σ) (id : Nat) (outcome : Outcome) :
    Looks (call.finish id outcome) := by
  intro session
  cases call with
  | insert data =>
      cases hquery : session.store.queries[id]? with
      | none => simp [Call.finish, Session.play_bind, play_query_none hquery]
      | some current =>
          cases hconnection : session.connections[current.connection]? with
          | none =>
              simp [Call.finish, Session.play_bind, play_query hquery, lastInsertId,
                Session.connection, hconnection]
          | some connection =>
              rw [Call.play_finish hquery (play_connection hconnection)]
  | select _ | rows | first =>
      rw [Call.finish, Session.play_bind, play_lift]
      cases fetchedRows outcome <;> rfl
  | _ => rfl

namespace Session.Works

variable {id place : Nat} {session opened : Session κ σ}

theorem refl (id : Nat) (session : Session κ σ) : session.Works id session :=
  quiet (.refl id session)

theorem bind_logged {first : Action κ σ α} {next : α → Action κ σ β}
    (h : session.Works id (play first opened).2)
    (hnext : ∀ answer later, ∃ logging,
      (play (next answer) later).2 = { later with logging }) :
    session.Works id (play (first >>= next) opened).2 := by
  rw [play_bind]
  cases hplay : play first opened with
  | mk outcome later =>
      rw [hplay] at h
      cases outcome with
      | error cause => exact h
      | ok answer =>
          obtain ⟨logging, hlogged⟩ := hnext answer later
          rw [hlogged]
          exact h.logged logging

theorem execute (hopened : session.Prepares id opened)
    (hline : place = id ∨ session.store.queries.size ≤ place) (mapper : Option Mapper) :
    session.Works id (play (Session.execute place mapper) opened).2 := by
  cases hsender : opened.store.queries[place]? with
  | none =>
      rw [Session.execute, play_bind, play_query_none hsender]
      exact quiet hopened
  | some sender =>
      cases hbuild : opened.store.build sender with
      | error cause =>
          rw [play_execute_error hsender hbuild]
          exact quiet hopened
      | ok compiled =>
          cases hconnection : opened.connections[sender.connection]? with
          | none =>
              obtain ⟨logging, hplay⟩ := play_execute_unconnected hsender hbuild hconnection mapper
              rw [hplay]
              exact quiet (hopened.logged logging)
          | some connection =>
              obtain ⟨later, hplay, hhanded⟩ := play_execute hsender hbuild hconnection mapper
              rw [hplay]
              exact sending hopened hline hsender hbuild hconnection hhanded

theorem command (command : Command) (id : Nat) (session : Session κ σ) :
    session.Works id (play (command.run id) session).2 := by
  cases hquery : session.store.queries[id]? with
  | none =>
      rw [Command.play_run_none hquery]
      exact refl id session
  | some query =>
      have hkin := query.kin_prepare command
      cases hprepare : command.prepare query with
      | mk outcome prepared =>
          rw [hprepare] at hkin
          cases outcome with
          | error cause =>
              rw [Command.play_run_refused hquery hprepare]
              exact quiet (.withQuery hquery hkin)
          | ok =>
              rw [Command.play_run hquery hprepare]
              exact execute (.withQuery hquery hkin) (.inl rfl) _

theorem aggregate {call : Call κ σ} {function name : String} {column : Value}
    (h : call.aggregate? = some (function, name, column)) (id : Nat) (session : Session κ σ) :
    session.Works id (play (call.run id) session).2 := by
  cases hquery : session.store.queries[id]? with
  | none =>
      rw [Call.run_eq_aggregate h, play_bind, play_query_none hquery]
      exact refl id session
  | some query =>
      rw [play_aggregate h hquery]
      have haggregate := query.kin_aggregate function name column
      exact execute (.opening hquery haggregate) (.inr (le_refl _)) _

end Session.Works

omit [Connection κ] in
/-- A call that describes a statement is a change of its query once its value has been read. -/
theorem Description.prepares {description : Description κ σ} {value : Value}
    (h : description.operand = .value value) (id : Nat) (session : Session κ σ) :
    session.Prepares id (play (description.run id) session).2 := by
  rw [run, h]
  cases description.value with
  | error cause =>
      rw [play_bind, play_lift]
      exact .refl id session
  | ok read =>
      rw [play_bind_ok (play_lift _ session), settle, pure_bind]
      exact .attempt (fun hchanged => (Edit.akin hchanged).kin) id session

theorem Session.Works.call {call : Call κ σ} (h : call.Direct) (id : Nat) (session : Session κ σ) :
    session.Works id (play (call.run id) session).2 := by
  cases hdescription : call.description? with
  | some description =>
      obtain ⟨value, hvalue⟩ := h description hdescription
      rw [Call.run_eq hdescription, Call.fluent, play_bind_pure]
      exact .quiet (Description.prepares hvalue id session)
  | none =>
      cases hcommand : call.command? with
      | some command =>
          rw [Call.run_eq_command hcommand, Looks.play_bind fun outcome => .finish call id outcome]
          exact .command command id session
      | none =>
          cases call with
          | count _ | sum _ | minimum _ | maximum _ | average _ => exact .aggregate rfl id session
          | select _ | rows | first | insert _ | upsert _ _ _ | update _ | delete | truncate =>
              cases hcommand
          | _ => cases hdescription

/-- An operation that is neither a call nor a walk. -/
def Operation.Plain : Operation κ σ → Prop
  | call _ | chunk _ _ _ _ => False
  | setModel _ | edit _ | clone | build | dump => True

omit [Connection κ] in
theorem Session.Looks.build (id : Nat) : Looks (Session.build id : Action κ σ Compiled) := by
  intro session
  cases hquery : session.store.queries[id]? with
  | none => rw [Session.build, Session.play_bind, play_query_none hquery]
  | some current => rw [play_build hquery]

theorem Session.Prepares.operation {operation : Operation κ σ} (h : operation.Plain) (id : Nat)
    (session : Session κ σ) : session.Prepares id (play (operation.run id) session).2 := by
  cases operation with
  | call made => exact h.elim
  | chunk fuel size index visit => exact h.elim
  | setModel model =>
      have hstep : ∀ query : Query, query.Kin { query with model } := fun _ => ⟨rfl, rfl⟩
      exact .change hstep id session
  | edit step =>
      have hstep : ∀ query : Query,
          query.Kin { query with blueprint := step query.blueprint } := fun _ => ⟨rfl, rfl⟩
      exact .change hstep id session
  | clone =>
      rw [Operation.run, discard_eq, play_bind_pure]
      exact .clone id session
  | build =>
      rw [Operation.run, discard_eq, play_bind_pure, Looks.build]
      exact .refl id session
  | dump =>
      have hshown : ∀ compiled : Compiled, Looks (do
          let parameters ← (Value.list compiled.parameters).shown (← get).store.references
          return compiled.sql ++ "\n" ++ parameters ++ "\n" : Action κ σ String) := by
        intro compiled session
        rw [play_bind_ok (play_get session), Looks.play_bind fun _ _ => rfl, Looks.lift]
      rw [Operation.run, discard_eq, play_bind_pure, Session.dump, Looks.play_bind hshown,
        Looks.build]
      exact .refl id session

/-! ### Walks -/

/-- A page of a walk: its rows and the last of them, unless there are none. -/
def Session.turn (id : Nat) (walk : Walk) (number : Nat) (cursor : Value) :
    Action κ σ (Option (List Record × Record)) := do
  let template ← query id
  let page ← addQuery (← template.pageAfter walk.index cursor walk.size)
  let records ← rows page
  match records.getLast? with
  | none => return none
  | some last =>
      logEvent .debug "query.chunk"
        [("chunk", .int number), ("rows", .int records.length), ("index", walk.index)]
      return some (records, last)

theorem Session.walkFrom_succ (id : Nat) (walk : Walk) (visit : Visit κ σ) (fuel number : Nat)
    (cursor : Value) :
    walkFrom id walk visit (fuel + 1) number cursor = (do
      match ← turn id walk number cursor with
      | none => return ()
      | some (records, last) =>
          if ← visit records records.length number then
            walkFrom id walk visit fuel (number + 1) (last.read walk.key)) := by
  simp only [walkFrom, turn, bind_assoc]
  apply bind_congr
  intro template
  apply bind_congr
  intro page
  apply bind_congr
  intro place
  apply bind_congr
  intro records
  cases records.getLast? with
  | none => rfl
  | some last =>
      simp only [bind_assoc, pure_bind]

theorem Session.later_rows (id : Nat) (session : Session κ σ) :
    (play (rows id) session).2 =
      (play (Command.run id ⟨.select, none, some (.bool false)⟩) session).2 := by
  rw [rows_eq, Looks.play_bind fun _ _ => rfl, select_eq,
    Looks.play_bind fun outcome => .lift (fetchedRows outcome)]

theorem Session.Works.turn (id : Nat) (walk : Walk) (number : Nat) (cursor : Value)
    (session : Session κ σ) :
    session.Works id (play (Session.turn id walk number cursor) session).2 := by
  cases hquery : session.store.queries[id]? with
  | none =>
      rw [Session.turn, play_bind, play_query_none hquery]
      exact refl id session
  | some template =>
      rw [Session.turn, play_bind_ok (play_query hquery)]
      cases hpage : template.pageAfter walk.index cursor walk.size with
      | error cause => exact refl id session
      | ok page =>
          rw [play_bind_ok (play_lift (.ok page) session),
            play_bind_ok (play_addQuery page session)]
          refine bind_logged ?_ fun records later => ?_
          · have hpaged := (Query.Akin.pageAfter hpage).kin
            rw [later_rows, Command.play_run (queries_withAdded session page) rfl]
            exact execute (.opening hquery hpaged) (.inr (le_refl _)) _
          · cases records.getLast? with
            | none => exact ⟨_, rfl⟩
            | some last => exact ⟨_, rfl⟩

/-! ### Callbacks -/

namespace Taking

variable {taking : Taking κ σ} {id mark : Nat} {fill : Nat → Action κ σ Unit}
  {session : Session κ σ}

theorem play_run (taking : Taking κ σ) (id mark : Nat) (fill : Nat → Action κ σ Unit)
    (session : Session κ σ) :
    (play (discard ((taking.call (.callback mark fill)).run id)) session).2 =
      (play (do
        let value ← taking.value
        let settled ← capture id taking.clause fill
        attempt id (taking.edit value settled).change) session).2 := by
  rw [discard_eq, play_bind_pure, Call.run_eq (taking.description _), Call.fluent, play_bind_pure]
  rfl

/-- Without its query, or without the value that is read first, a call runs no callback. -/
theorem play_run_idle (h : ∀ value, taking.value = .ok value → session.store.queries[id]? = none) :
    (play (discard ((taking.call (.callback mark fill)).run id)) session).2 = session := by
  rw [play_run]
  cases hvalue : taking.value with
  | error cause => rw [play_bind, play_lift]
  | ok value =>
      rw [play_bind_ok (play_lift _ session), capture, play_bind, play_bind,
        play_query_none (h value hvalue)]

/-- Once its callback has been run, a call only changes its query. -/
theorem prepares_run {value : Value} (hvalue : taking.value = .ok value) {current : Query}
    (hquery : session.store.queries[id]? = some current) :
    (play (fill session.store.queries.size) (session.withAdded current.nested)).2.Prepares id
      (play (discard ((taking.call (.callback mark fill)).run id)) session).2 := by
  rw [play_run, hvalue, play_bind_ok (play_lift _ session), capture, bind_assoc,
    play_bind_ok (play_query hquery), bind_assoc, play_bind_ok (play_addQuery _ session),
    bind_assoc, play_bind]
  cases play (fill session.store.queries.size) (session.withAdded current.nested) with
  | mk outcome later =>
      cases outcome with
      | error cause => exact .refl id later
      | ok =>
          -- what the callback has filled is read once more, and only then the query is changed
          dsimp only
          rw [bind_assoc]
          cases hfilled : later.store.queries[session.store.queries.size]? with
          | none =>
              rw [play_bind, play_query_none hfilled]
              exact .refl id later
          | some filled =>
              rw [play_bind_ok (play_query hfilled), pure_bind]
              exact .attempt (fun hchanged => (Edit.akin hchanged).kin) id later

end Taking

end Connections

end SqlBuilder
