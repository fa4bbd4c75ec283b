import SqlBuilder.Proofs.Outcome
import SqlBuilder.Proofs.Play
import SqlBuilder.Session.Call

/-!
# Calls that run a statement

The calls that run a statement all go the same way. Those that write data replace the clause that
holds it, which may fail because the data is refused; the query is made a statement of the type that
is run; and the statement it is then is built and handed to the connection. What is answered comes
of the outcome alone, except that an insert answers the key that the connection has generated.
-/

namespace SqlBuilder

open Outcome Session

/-- A statement that is run: its type, the clause that is filled first with the data for it, and,
if it reads rows, whether only the first is wanted. -/
structure Command where
  type : StatementType
  data : Option (Clause × Except Error (List (String × Value)))
  single : Option Value

namespace Command

/-- What a command makes of a query before it is run, or why it is not run. Data that is refused
leaves its clause empty. -/
def prepare (command : Command) (query : Query) : Except Error Unit × Query :=
  match command.data with
  | none => (.ok (), query.withType command.type)
  | some (clause, .ok attributes) =>
      (.ok (), ((query.reset clause).add clause attributes).withType command.type)
  | some (clause, .error cause) => (.error cause, query.reset clause)

/-- What the connection is to make of the rows, if any are wanted. -/
def mapper? (command : Command) (id : Nat) (query : Query) : Option Mapper :=
  command.single.map fun single => ⟨single.truthy, query.model, some id⟩

theorem connection_prepare (command : Command) (query : Query) :
    (command.prepare query).2.connection = query.connection := by
  rw [prepare]
  split <;> rfl

theorem type_prepare {command : Command} {query prepared : Query}
    (h : command.prepare query = (.ok (), prepared)) :
    prepared.blueprint.type = command.type := by
  rw [prepare] at h
  split at h
  · obtain ⟨-, rfl⟩ := Prod.mk.inj h
    rfl
  · obtain ⟨-, rfl⟩ := Prod.mk.inj h
    rfl
  · cases (Prod.mk.inj h).1

end Command

def Fetched.all : Fetched → List Record
  | one record => record.toList
  | many records => records

def Fetched.leading : Fetched → Option Record
  | one record => record
  | many records => records.head?

variable {κ σ : Type}

namespace Call

def insertion (data : Value) : Except Error (List (String × Value)) := do
  let rows ← Query.insertRows data
  return [("insert", .list rows)]

def upsertion (data update index : Value) : Except Error (List (String × Value)) := do
  let rows ← Query.insertRows data
  let update ← update.toEntries
  let index ← index.items
  return [("insert", .list rows), ("update", .map update), ("index", .list index)]

def assignment (data : Value) : Except Error (List (String × Value)) := do
  let data ← data.toEntries
  return [("update", .map data)]

/-- The statement that a call runs, if it runs one on its query. -/
def command? : Call κ σ → Option Command
  | select single => some ⟨.select, none, some single⟩
  | rows => some ⟨.select, none, some (.bool false)⟩
  | first => some ⟨.select, none, some (.bool true)⟩
  | insert data => some ⟨.insert, some (.insert, insertion data), none⟩
  | upsert data changes index =>
      some ⟨.upsert, some (.insert, upsertion data changes index), none⟩
  | update data => some ⟨.update, some (.update, assignment data), none⟩
  | delete => some ⟨.delete, none, none⟩
  | truncate => some ⟨.truncate, none, none⟩
  | _ => none

variable [Connection κ]

/-- What a call answers when its statement has been run: what comes of the outcome, or the key that
the connection has generated. -/
def answer (connection : κ) (outcome : Outcome) : Call κ σ → Except Error Answer
  | select _ => Answer.fetched <$> fetchedRows outcome
  | rows => do return .fetched (.many (← fetchedRows outcome).all)
  | first => do return .fetched (.one (← fetchedRows outcome).leading)
  | insert _ => Answer.value <$> Connection.lastInsertId connection
  | _ => .ok .itself

end Call

/-! ### Handing a statement to a connection -/

namespace Session

/-- A session in which a connection has been handed a statement: it is what the run has made of it,
and what the run has sent is on record. -/
structure Handed (before : Session κ σ) (slot : Nat) (run : Run κ) (after : Session κ σ) :
    Prop where
  connections : after.connections = before.connections.setIfInBounds slot run.connection
  journal : after.journal =
    before.journal ++ (run.sent.map fun sent => (⟨slot, sent⟩ : Dispatch)).toArray
  store : after.store = before.store
  registry : after.registry = before.registry
  defaults : after.defaults = before.defaults
  host : after.host = before.host

variable {session : Session κ σ} {id slot : Nat} {current : Query} {connection : κ}

theorem Handed.play_connection {run : Run κ} {later : Session κ σ}
    (h : session.Handed slot run later)
    (hconnection : session.connections[slot]? = some connection) :
    play (Session.connection slot) later = (.ok run.connection, later) := by
  apply Session.play_connection
  obtain ⟨hslot, _⟩ := Array.getElem?_eq_some_iff.1 hconnection
  rw [h.connections, Array.getElem?_setIfInBounds_self_of_lt hslot]

variable [Connection κ]

/-- A connection is handed a statement once, whatever comes of it. -/
theorem play_runOn {sql : String} {parameters : Value} {mapper : Option Mapper}
    (h : session.connections[slot]? = some connection) :
    ∃ later, play (runOn slot sql parameters mapper) session =
        ((Connection.run connection sql parameters mapper).outcome, later) ∧
      session.Handed slot (Connection.run connection sql parameters mapper) later := by
  rw [runOn, play_bind_ok (play_connection h)]
  dsimp only
  rw [play_bind_ok (play_modify _ _), play_lift]
  exact ⟨_, rfl, rfl, rfl, rfl, rfl, rfl, rfl⟩

omit [Connection κ] in
theorem play_log_eq (session : Session κ σ) (level : Log.Level) (event : String)
    (fields : List (String × Value)) :
    ∃ logging, play (logEvent level event fields) session =
      (.ok (), { session with logging }) :=
  ⟨_, rfl⟩

theorem play_execute_error (h : session.store.queries[id]? = some current) {cause : Error}
    (hbuild : session.store.build current = .error cause) (mapper : Option Mapper) :
    play (execute id mapper) session = (.error cause, session) := by
  rw [execute, play_bind_ok (play_query h), play_bind, play_build h, hbuild]

theorem play_execute (h : session.store.queries[id]? = some current) {compiled : Compiled}
    (hbuild : session.store.build current = .ok compiled)
    (hconnection : session.connections[current.connection]? = some connection)
    (mapper : Option Mapper) :
    ∃ later, play (execute id mapper) session =
        ((Connection.run connection compiled.sql (.list compiled.parameters) mapper).outcome,
          later) ∧
      session.Handed current.connection
        (Connection.run connection compiled.sql (.list compiled.parameters) mapper) later := by
  have hbuilt : play (build id) session = (.ok compiled, session) := by
    rw [play_build h, hbuild]
  rw [execute, play_bind_ok (play_query h), play_bind_ok hbuilt]
  obtain ⟨logging, hlog⟩ := session.play_log_eq .debug "query.execute"
    [("statement", .text current.blueprint.type.name), ("dialect", .text compiled.dialect.name),
      ("sql", .text compiled.sql), ("parameters", .int compiled.parameters.length)]
  rw [play_bind_ok hlog]
  have hlogged :
      ({ session with logging } : Session κ σ).connections[current.connection]? =
        some connection := hconnection
  obtain ⟨later, hplay, hhanded⟩ := play_runOn hlogged
  refine ⟨later, hplay, ?_⟩
  exact ⟨hhanded.connections, hhanded.journal, hhanded.store, hhanded.registry, hhanded.defaults,
    hhanded.host⟩

end Session

/-! ### Running a command -/

theorem Session.withQuery_withQuery (session : Session κ σ) (id : Nat) (first second : Query) :
    (session.withQuery id first).withQuery id second = session.withQuery id second := by
  simp [withQuery, Store.set]

variable [Connection κ]

namespace Command

def fill (id : Nat) (command : Command) : Action κ σ Unit :=
  match command.data with
  | none => return ()
  | some (clause, attributes) => do
      change id (·.reset clause)
      let attributes ← attributes
      change id (·.add clause attributes)

def send (id : Nat) (command : Command) : Action κ σ Outcome :=
  match command.single with
  | none => execute id none
  | some single => do
      let model := (← query id).model
      execute id (some ⟨single.truthy, model, some id⟩)

def run (id : Nat) (command : Command) : Action κ σ Outcome := do
  command.fill id
  change id (·.withType command.type)
  command.send id

end Command

/-- What a call does when its statement has been run. -/
def Call.finish (id : Nat) (outcome : Outcome) : Call κ σ → Action κ σ Answer
  | select _ => do return .fetched (← fetchedRows outcome)
  | rows => do return .fetched (.many (← fetchedRows outcome).all)
  | first => do return .fetched (.one (← fetchedRows outcome).leading)
  | insert _ => do return .value (← lastInsertId (← query id).connection)
  | _ => return .itself

namespace Session

theorem select_eq (id : Nat) (single : Value) :
    (select id single : Action κ σ Fetched) =
      Command.run id ⟨.select, none, some single⟩ >>= fun outcome =>
        liftM (fetchedRows outcome) := by
  simp only [select, Command.run, Command.fill, Command.send, bind_assoc, pure_bind]

theorem rows_eq (id : Nat) :
    (rows id : Action κ σ (List Record)) = do return (← select id (.bool false)).all :=
  bind_congr fun fetched => by cases fetched <;> rfl

theorem first_eq (id : Nat) :
    (first id : Action κ σ (Option Record)) = do return (← select id (.bool true)).leading :=
  bind_congr fun fetched => by cases fetched <;> rfl

omit [Connection κ]

variable {α β : Type}

theorem lift_bind (stage : Except Error α) (next : α → Except Error β) :
    (liftM (stage >>= next) : Action κ σ β) =
      (liftM stage : Action κ σ α) >>= fun answer => liftM (next answer) := by
  cases stage <;> rfl

theorem lift_pure (answer : α) :
    (liftM (pure answer : Except Error α) : Action κ σ α) = pure answer :=
  rfl

end Session

/-- A call that runs a statement runs its command. -/
theorem Call.run_eq_command {call : Call κ σ} {command : Command}
    (h : call.command? = some command) (id : Nat) :
    call.run id = command.run id >>= fun outcome => call.finish id outcome := by
  cases call with
  | select single =>
      rw [← Option.some.inj h]
      simp only [run, select_eq, finish, bind_assoc]
  | rows =>
      rw [← Option.some.inj h]
      simp only [run, rows_eq, select_eq, finish, bind_assoc, pure_bind]
  | first =>
      rw [← Option.some.inj h]
      simp only [run, first_eq, select_eq, finish, bind_assoc, pure_bind]
  | insert data =>
      rw [← Option.some.inj h]
      simp only [run, valued, Session.insert, perform, insertion, Command.run, Command.fill,
        Command.send, finish, lift_bind, lift_pure, discard_eq, bind_assoc, pure_bind]
  | upsert data changes index =>
      rw [← Option.some.inj h]
      simp only [run, fluent, Session.upsert, perform, upsertion, Command.run, Command.fill,
        Command.send, finish, lift_bind, lift_pure, discard_eq, bind_assoc, pure_bind]
  | update data =>
      rw [← Option.some.inj h]
      simp only [run, fluent, Session.update, perform, assignment, Command.run, Command.fill,
        Command.send, finish, lift_bind, lift_pure, discard_eq, bind_assoc, pure_bind]
  | delete =>
      rw [← Option.some.inj h]
      simp only [run, fluent, Session.delete, perform, Command.run, Command.fill, Command.send,
        finish, discard_eq, bind_assoc, pure_bind]
  | truncate =>
      rw [← Option.some.inj h]
      simp only [run, fluent, Session.truncate, perform, Command.run, Command.fill, Command.send,
        finish, discard_eq, bind_assoc, pure_bind]
  | _ => cases h

/-! ### What comes of a call -/

variable {session : Session κ σ} {id : Nat} {query prepared : Query}

namespace Command

variable {command : Command}

theorem model_prepare (command : Command) (query : Query) :
    (command.prepare query).2.model = query.model := by
  rw [prepare]
  split <;> rfl

theorem play_run_none (hquery : session.store.queries[id]? = none) (command : Command) :
    play (command.run id) session = (.error .noAttribute, session) := by
  have hchange : ∀ step, play (change id step) session = (.error .noAttribute, session) := by
    intro step
    rw [change, play_bind, play_query_none hquery]
  obtain ⟨type, data, single⟩ := command
  cases data with
  | none => rw [run, fill, pure_bind, play_bind, hchange]
  | some given =>
      obtain ⟨clause, attributes⟩ := given
      rw [run, fill, bind_assoc, play_bind, hchange]

/-- Data that is refused leaves the query with an empty clause. -/
theorem play_run_refused (hquery : session.store.queries[id]? = some query) {cause : Error}
    (hprepare : command.prepare query = (.error cause, prepared)) :
    play (command.run id) session = (.error cause, session.withQuery id prepared) := by
  obtain ⟨type, data, single⟩ := command
  match data with
  | none => cases (Prod.mk.inj hprepare).1
  | some (clause, .ok attributes) => cases (Prod.mk.inj hprepare).1
  | some (clause, .error refusal) =>
      obtain ⟨hcause, rfl⟩ := Prod.mk.inj hprepare
      obtain rfl := Except.error.inj hcause
      rw [run, fill, play_bind, play_bind_ok (play_change hquery _)]
      rfl

theorem play_send (hquery : session.store.queries[id]? = some query) (command : Command) :
    play (command.send id) session = play (execute id (command.mapper? id query)) session := by
  obtain ⟨type, data, single⟩ := command
  cases single with
  | none => rfl
  | some single => exact play_bind_ok (play_query hquery)

theorem play_run (hquery : session.store.queries[id]? = some query)
    (hprepare : command.prepare query = (.ok (), prepared)) :
    play (command.run id) session =
      play (execute id (command.mapper? id prepared)) (session.withQuery id prepared) := by
  have hsent := play_send (queries_withQuery hquery prepared) command
  obtain ⟨type, data, single⟩ := command
  match data with
  | none =>
      obtain ⟨-, rfl⟩ := Prod.mk.inj hprepare
      rw [← hsent, run, fill, pure_bind, play_bind_ok (play_change hquery _)]
  | some (clause, .ok attributes) =>
      obtain ⟨-, rfl⟩ := Prod.mk.inj hprepare
      have hfill : play (fill id ⟨type, some (clause, .ok attributes), single⟩) session =
          (.ok (), session.withQuery id ((query.reset clause).add clause attributes)) := by
        rw [fill, play_bind_ok (play_change hquery _), play_bind_ok (play_lift _ _),
          play_change (queries_withQuery hquery _), withQuery_withQuery]
      rw [← hsent, run, play_bind_ok hfill,
        play_bind_ok (play_change (queries_withQuery hquery _) _), withQuery_withQuery]
  | some (clause, .error cause) => cases (Prod.mk.inj hprepare).1

end Command

namespace Call

variable {call : Call κ σ} {command : Command} {connection : κ}

theorem play_refused (hcommand : call.command? = some command)
    (hquery : session.store.queries[id]? = some query) {cause : Error}
    (hprepare : command.prepare query = (.error cause, prepared)) :
    play (call.run id) session = (.error cause, session.withQuery id prepared) := by
  rw [run_eq_command hcommand, play_bind, Command.play_run_refused hquery hprepare]

theorem play_unbuilt (hcommand : call.command? = some command)
    (hquery : session.store.queries[id]? = some query)
    (hprepare : command.prepare query = (.ok (), prepared)) {cause : Error}
    (hbuild : (session.withQuery id prepared).store.build prepared = .error cause) :
    play (call.run id) session = (.error cause, session.withQuery id prepared) := by
  rw [run_eq_command hcommand, play_bind, Command.play_run hquery hprepare,
    play_execute_error (queries_withQuery hquery prepared) hbuild]

/-- What follows on a run changes nothing. -/
theorem play_finish (hquery : session.store.queries[id]? = some query)
    (hconnection : play (Session.connection query.connection) session = (.ok connection, session))
    (call : Call κ σ) (outcome : Outcome) :
    play (call.finish id outcome) session = (call.answer connection outcome, session) := by
  cases call with
  | select _ | rows | first =>
      rw [finish, play_bind, play_lift, answer]
      cases fetchedRows outcome <;> rfl
  | insert data =>
      rw [finish, play_bind_ok (play_query hquery), lastInsertId, bind_assoc,
        play_bind_ok hconnection, play_bind, play_lift, answer]
      cases Connection.lastInsertId connection <;> rfl
  | _ => rfl

/-- A call whose statement can be built hands it to the connection of the query, and what comes of
that is answered. -/
theorem play_sent (hcommand : call.command? = some command)
    (hquery : session.store.queries[id]? = some query)
    (hprepare : command.prepare query = (.ok (), prepared)) {compiled : Compiled}
    (hbuild : (session.withQuery id prepared).store.build prepared = .ok compiled)
    (hconnection : session.connections[query.connection]? = some connection) :
    let run := Connection.run connection compiled.sql (.list compiled.parameters)
      (command.mapper? id query)
    ∃ later, play (call.run id) session =
        (run.outcome >>= fun outcome => call.answer run.connection outcome, later) ∧
      (session.withQuery id prepared).Handed query.connection run later := by
  have hslot : prepared.connection = query.connection := by
    rw [← command.connection_prepare query, hprepare]
  have hmapper : command.mapper? id prepared = command.mapper? id query := by
    rw [Command.mapper?, Command.mapper?, ← command.model_prepare query, hprepare]
  have hprepared := queries_withQuery hquery prepared
  rw [← hslot] at hconnection
  obtain ⟨later, hplay, hhanded⟩ := play_execute hprepared hbuild hconnection
    (command.mapper? id prepared)
  rw [hslot, hmapper] at hhanded
  rw [hslot] at hconnection
  intro run
  replace hplay : play (command.run id) session = (run.outcome, later) := by
    rw [Command.play_run hquery hprepare, hplay, hmapper]
  refine ⟨later, ?_, hhanded⟩
  rw [run_eq_command hcommand, play_bind, hplay]
  cases houtcome : run.outcome with
  | error cause => rfl
  | ok outcome =>
      have hlater : later.store.queries[id]? = some prepared := by rw [hhanded.store, hprepared]
      exact play_finish hlater (hslot ▸ hhanded.play_connection hconnection) call outcome

end Call

end SqlBuilder
