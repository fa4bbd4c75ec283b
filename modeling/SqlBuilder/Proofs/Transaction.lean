import SqlBuilder.Connection.Engine
import SqlBuilder.Proofs.Outcome

/-!
# Transactions on an engine

A connection to an engine serves one request after the other, each in a transaction of its own. What
is sent for a request is a block that begins the transaction, holds one statement and ends the
transaction the way the request ends: by a commit if it is answered and by a rollback if it fails,
whether the driver fails it or the model that its rows become. The key that the connection remembers
is changed by nothing but a write that is committed and for which the driver reports a key. A row id
that counts as absent is no key, whatever it is: an empty text as little as nothing or zero.
-/

namespace SqlBuilder

open Outcome

structure Request where
  sql : String
  parameters : Value
  mapper : Option Mapper

/-- The parameters can be counted and gone through, as those in a sequence can. -/
def Request.Sequential (request : Request) : Prop :=
  ∃ number items, EngineConnection.count request.parameters = .ok number ∧
    request.parameters.items = .ok items

/-- The key that comes of an execution: there comes none of one that fails, whose rows are wanted,
or whose row id counts as absent. -/
def Execution.key? : Execution → Option Mapper → Except Error Outcome → Option Value
  | .finished _ lastRowId _, none, .ok _ => if lastRowId.truthy then some lastRowId else none
  | _, _, _ => none

/-- A request, with the connection as the request found it. -/
structure Exchange where
  before : EngineConnection
  request : Request

namespace Exchange

def run (exchange : Exchange) : Run EngineConnection :=
  exchange.before.run exchange.request.sql exchange.request.parameters exchange.request.mapper

/-- What the driver answers to the next statement that comes to it. -/
def answer (exchange : Exchange) : Execution :=
  exchange.before.engine.respond exchange.before.executions

/-- The key that a request has generated: it wanted no rows, did not fail, and the driver reported
the key. -/
def key? (exchange : Exchange) : Option Value :=
  exchange.answer.key? exchange.request.mapper exchange.run.outcome

def ending : Except Error Outcome → Sent
  | .ok _ => .committed
  | .error _ => .rolledBack

/-- In a style that the connection supports, a request is one transaction around one statement. -/
def Transacted (style : Paramstyle) (exchange : Exchange) : Prop :=
  ∃ parameters,
    Placeholder.adaptParameters exchange.before.engine.paramstyle exchange.request.parameters =
      .ok parameters ∧
    exchange.run.sent =
      [.begun, .statement (Placeholder.adapt style exchange.request.sql) parameters,
        ending exchange.run.outcome]

/-- With parameters that cannot be counted or gone through a request fails before its statement is
sent. -/
structure Abandoned (exchange : Exchange) : Prop where
  outcome : ∃ cause, exchange.run.outcome = .error cause
  sent : exchange.run.sent = [] ∨ exchange.run.sent = [.begun, .rolledBack]
  connection : exchange.run.connection = exchange.before

/-- In any other style a request is refused, and nothing has happened. -/
structure Refused (exchange : Exchange) : Prop where
  outcome : exchange.run.outcome =
    .error (Error.unsupportedParamstyle exchange.before.engine.paramstyle).worded
  sent : exchange.run.sent = []
  events : exchange.run.events = []
  connection : exchange.run.connection = exchange.before

end Exchange

namespace EngineConnection

/-- The exchanges in which requests are served, one after the other. -/
def exchanges : EngineConnection → List Request → List Exchange
  | _, [] => []
  | connection, request :: rest =>
      let exchange : Exchange := ⟨connection, request⟩
      exchange :: exchanges exchange.run.connection rest

def afterAll (connection : EngineConnection) (requests : List Request) : EngineConnection :=
  requests.foldl (fun connection request => (Exchange.mk connection request).run.connection)
    connection

end EngineConnection

/-! ### One request -/

theorem Execution.key?_error (answer : Execution) (mapper : Option Mapper) (cause : Error) :
    answer.key? mapper (.error cause) = none := by
  cases answer <;> cases mapper <;> rfl

namespace EngineConnection

variable {connection : EngineConnection} {sql : String} {parameters : Value}
  {mapper : Option Mapper}

theorem sent_transact {adapted : Value}
    (h : Placeholder.adaptParameters connection.engine.paramstyle parameters = .ok adapted) :
    (connection.transact sql parameters mapper).2.1 =
      [.begun, .statement sql adapted,
        Exchange.ending (connection.transact sql parameters mapper).1] := by
  rw [transact, h]
  dsimp only
  cases connection.settle mapper (connection.engine.respond connection.executions) <;> rfl

theorem transact_error {cause : Error}
    (h : Placeholder.adaptParameters connection.engine.paramstyle parameters = .error cause) :
    connection.transact sql parameters mapper =
      (.error cause, [.begun, .rolledBack], connection) := by
  rw [transact, h]

theorem engine_transact :
    (connection.transact sql parameters mapper).2.2.engine = connection.engine := by
  rw [transact]
  split
  · rfl
  · dsimp only
    split <;> rfl

theorem engine_run : (connection.run sql parameters mapper).connection.engine =
    connection.engine := by
  rw [run]
  split
  · rfl
  · rfl
  · exact engine_transact

/-- What is remembered when an execution is settled is the key that comes of it, if one does. -/
theorem lastInsertId_settle {answer : Execution} {outcome : Outcome} {lastInsertId : Value}
    (h : connection.settle mapper answer = .ok (outcome, lastInsertId)) :
    lastInsertId = (answer.key? mapper (.ok outcome)).getD connection.lastInsertId := by
  cases answer with
  | raised message => cases h
  | finished rows lastRowId rowCount =>
      cases mapper with
      | some mapper =>
          obtain ⟨_, -, h⟩ := bind_eq_ok.1 h
          exact (Prod.mk.inj (pure_eq_ok.1 h)).2.symm
      | none =>
          obtain ⟨rfl, rfl⟩ := Prod.mk.inj (Except.ok.inj h)
          rw [Execution.key?]
          split
          · rw [Option.getD_some]
          · rw [Option.getD_none]

/-- A transaction that is rolled back changes nothing that is remembered. -/
theorem lastInsertId_transact :
    (connection.transact sql parameters mapper).2.2.lastInsertId =
      (((connection.engine.respond connection.executions).key? mapper
        (connection.transact sql parameters mapper).1).getD connection.lastInsertId) := by
  rw [transact]
  cases Placeholder.adaptParameters connection.engine.paramstyle parameters with
  | error cause =>
      rw [Execution.key?_error]
      rfl
  | ok adapted =>
      dsimp only
      cases hsettle : connection.settle mapper
          (connection.engine.respond connection.executions) with
      | error cause =>
          rw [Execution.key?_error]
          rfl
      | ok settled => exact lastInsertId_settle hsettle

theorem run_refused (h : Paramstyle.ofValue? connection.engine.paramstyle = none) :
    connection.run sql parameters mapper =
      ⟨.error (Error.unsupportedParamstyle connection.engine.paramstyle).worded, [], [],
        connection⟩ := by
  rw [run, Placeholder.adaptNamed, h]

theorem run_transact {style : Paramstyle} {number : Nat}
    (hstyle : Paramstyle.ofValue? connection.engine.paramstyle = some style)
    (hnumber : count parameters = .ok number) :
    connection.run sql parameters mapper =
      let transacted := connection.transact (Placeholder.adapt style sql) parameters mapper
      ⟨transacted.1, transacted.2.1, [executeEvent (Placeholder.adapt style sql) number],
        transacted.2.2⟩ := by
  rw [run, Placeholder.adaptNamed, hstyle, hnumber]

theorem run_uncounted {style : Paramstyle} {cause : Error}
    (hstyle : Paramstyle.ofValue? connection.engine.paramstyle = some style)
    (hcount : count parameters = .error cause) :
    connection.run sql parameters mapper = ⟨.error cause, [], [], connection⟩ := by
  rw [run, Placeholder.adaptNamed, hstyle, hcount]

end EngineConnection

theorem Request.Sequential.exists_adapted {request : Request} (h : request.Sequential)
    (style : Value) :
    ∃ parameters, Placeholder.adaptParameters style request.parameters = .ok parameters := by
  obtain ⟨_, items, -, hitems⟩ := h
  rw [Placeholder.adaptParameters, hitems, ok_bind]
  split
  · exact ⟨_, rfl⟩
  · exact ⟨_, rfl⟩

namespace Exchange

variable {exchange : Exchange}

theorem transacted {style : Paramstyle}
    (hstyle : Paramstyle.ofValue? exchange.before.engine.paramstyle = some style)
    (hrequest : exchange.request.Sequential) : exchange.Transacted style := by
  obtain ⟨parameters, hparameters⟩ :=
    hrequest.exists_adapted exchange.before.engine.paramstyle
  obtain ⟨number, _, hnumber, -⟩ := hrequest
  refine ⟨parameters, hparameters, ?_⟩
  rw [run, EngineConnection.run_transact hstyle hnumber]
  exact EngineConnection.sent_transact hparameters

theorem abandoned {style : Paramstyle}
    (hstyle : Paramstyle.ofValue? exchange.before.engine.paramstyle = some style)
    (hrequest : ¬exchange.request.Sequential) : exchange.Abandoned := by
  cases hcount : EngineConnection.count exchange.request.parameters with
  | error cause =>
      have hrun : exchange.run = ⟨.error cause, [], [], exchange.before⟩ :=
        EngineConnection.run_uncounted hstyle hcount
      exact ⟨⟨cause, by rw [hrun]⟩, .inl (by rw [hrun]), by rw [hrun]⟩
  | ok number =>
      cases hitems : exchange.request.parameters.items with
      | ok items => exact absurd ⟨number, items, hcount, hitems⟩ hrequest
      | error cause =>
          have hparameters : Placeholder.adaptParameters exchange.before.engine.paramstyle
              exchange.request.parameters = .error cause := by
            rw [Placeholder.adaptParameters, hitems, error_bind]
          have hrun : exchange.run = _ := EngineConnection.run_transact hstyle hcount
          rw [EngineConnection.transact_error hparameters] at hrun
          exact ⟨⟨cause, congrArg Run.outcome hrun⟩, .inr (congrArg Run.sent hrun),
            congrArg Run.connection hrun⟩

theorem refused (hstyle : Paramstyle.ofValue? exchange.before.engine.paramstyle = none) :
    exchange.Refused := by
  have hrun : exchange.run =
      ⟨.error (Error.unsupportedParamstyle exchange.before.engine.paramstyle).worded, [], [],
        exchange.before⟩ := EngineConnection.run_refused hstyle
  exact ⟨by rw [hrun], by rw [hrun], by rw [hrun], by rw [hrun]⟩

/-- What is remembered behind a request is the key that it has generated, if it has generated
one. -/
theorem lastInsertId_run (exchange : Exchange) :
    exchange.run.connection.lastInsertId = exchange.key?.getD exchange.before.lastInsertId := by
  rw [key?, run]
  cases hstyle : Paramstyle.ofValue? exchange.before.engine.paramstyle with
  | none => rw [EngineConnection.run_refused hstyle, Execution.key?_error, Option.getD_none]
  | some style =>
      cases hcount : EngineConnection.count exchange.request.parameters with
      | error cause =>
          rw [EngineConnection.run_uncounted hstyle hcount, Execution.key?_error, Option.getD_none]
      | ok number =>
          rw [EngineConnection.run_transact hstyle hcount]
          exact EngineConnection.lastInsertId_transact

theorem engine_run (exchange : Exchange) :
    exchange.run.connection.engine = exchange.before.engine :=
  EngineConnection.engine_run

end Exchange

/-! ### Any number of requests -/

namespace EngineConnection

theorem engine_exchanges {connection : EngineConnection} {requests : List Request} :
    ∀ exchange ∈ connection.exchanges requests,
      exchange.before.engine = connection.engine := by
  induction requests generalizing connection with
  | nil => exact List.forall_mem_nil _
  | cons request rest ih =>
      rw [exchanges, List.forall_mem_cons]
      refine ⟨rfl, ?_⟩
      intro exchange hexchange
      exact (ih exchange hexchange).trans (Exchange.engine_run ⟨connection, request⟩)

theorem map_request_exchanges (connection : EngineConnection) (requests : List Request) :
    (connection.exchanges requests).map Exchange.request = requests := by
  induction requests generalizing connection with
  | nil => rfl
  | cons request rest ih => rw [exchanges, List.map_cons, ih]

theorem lastInsertId_afterAll (connection : EngineConnection) (requests : List Request) :
    (connection.afterAll requests).lastInsertId =
      (((connection.exchanges requests).filterMap Exchange.key?).getLast?).getD
        connection.lastInsertId := by
  induction requests generalizing connection with
  | nil => rfl
  | cons request rest ih =>
      have hfirst := Exchange.lastInsertId_run ⟨connection, request⟩
      have hrest := ih (Exchange.mk connection request).run.connection
      rw [afterAll, List.foldl_cons, ← afterAll, hrest, hfirst, exchanges]
      cases hkey : (Exchange.mk connection request).key? with
      | none => rw [List.filterMap_cons_none hkey, Option.getD_none]
      | some key =>
          rw [List.filterMap_cons_some hkey, List.getLast?_cons, Option.getD_some, Option.getD_some]

theorem exists_of_open {engine : Engine} {dialect : Value} {connection : EngineConnection}
    (h : open? engine dialect = .ok connection) :
    ∃ known, connection = ⟨known, engine, 0, .null⟩ := by
  have hmade : ∀ stage : Except Error Dialect,
      (stage >>= fun known => pure ⟨known, engine, 0, .null⟩) = Except.ok connection →
        ∃ known, connection = ⟨known, engine, 0, .null⟩ := by
    intro stage hstage
    obtain ⟨known, -, hconnection⟩ := bind_eq_ok.1 hstage
    exact ⟨known, (pure_eq_ok.1 hconnection).symm⟩
  unfold open? at h
  split at h
  · split at h
    · split at h
      · exact hmade _ h
      · exact hmade _ h
    · exact hmade _ h
  · exact hmade _ h

/-- Whatever a connection to an engine is asked to run, what it sends are transactions, one behind
the other. In a style that it supports every request with parameters in a sequence is one of them:
it is begun, one statement is sent, and it is committed if the request is answered and rolled back
if it fails. With other parameters a request fails before its statement is sent, and in another
style every request is refused with nothing sent and nothing changed. The key that is remembered
after any number of requests is that of the latest one that wanted no rows, did not fail and had a
row id reported that does not count as absent; there is none as long as there was no such request,
and every other request leaves it as it is. -/
theorem run_of_transactions {engine : Engine} {dialect : Value} {connection : EngineConnection}
    (hopen : open? engine dialect = .ok connection) (requests : List Request) :
    (connection.exchanges requests).map Exchange.request = requests ∧
      (∀ exchange ∈ connection.exchanges requests,
        exchange.before.engine = engine ∧
        (∀ style, Paramstyle.ofValue? engine.paramstyle = some style →
          (exchange.request.Sequential → exchange.Transacted style) ∧
          (¬exchange.request.Sequential → exchange.Abandoned)) ∧
        (Paramstyle.ofValue? engine.paramstyle = none → exchange.Refused) ∧
        (exchange.key? = none →
          exchange.run.connection.lastInsertId = exchange.before.lastInsertId)) ∧
      (connection.afterAll requests).lastInsertId =
        (((connection.exchanges requests).filterMap Exchange.key?).getLast?).getD .null := by
  obtain ⟨known, rfl⟩ := exists_of_open hopen
  refine ⟨map_request_exchanges _ requests, ?_, lastInsertId_afterAll _ requests⟩
  intro exchange hexchange
  have hengine : exchange.before.engine = engine := engine_exchanges exchange hexchange
  refine ⟨hengine, ?_, ?_, ?_⟩
  · intro style hstyle
    exact ⟨Exchange.transacted (hengine ▸ hstyle), Exchange.abandoned (hengine ▸ hstyle)⟩
  · intro hstyle
    exact Exchange.refused (hengine ▸ hstyle)
  · intro hnone
    rw [Exchange.lastInsertId_run exchange, hnone, Option.getD_none]

end EngineConnection

/-! ### A key between failures -/

/-- A driver that generates a key, answers a read, fails, and then has no key to report. -/
def Engine.halting : Engine where
  name := .text "sqlite"
  paramstyle := .text "format"
  respond
    | 0 => .finished [] (.int 7) (.int 1)
    | 1 => .finished [.map [(.text "id", .int 7)]] (.int 9) (.int 0)
    | 2 => .raised "locked"
    | _ => .finished [] (.int 0) (.int 3)

/-- Two inserts, between them a read whose model fails, and an update. -/
def Request.halting : List Request :=
  let insert : Request := ⟨"INSERT INTO \x60t\x60 (\x60a\x60) VALUES (?)", .list [.int 1], none⟩
  [insert, ⟨"SELECT '?' FROM \x60t\x60", .list [], some ⟨true, some .failing, none⟩⟩, insert,
    ⟨"UPDATE \x60t\x60 SET \x60a\x60 = ?", .tuple [.int 2], none⟩]

/-- Neither the read, nor the insert that failed, nor the update that generated no key takes away
the key of the first insert. -/
theorem EngineConnection.run_of_transactions_halting :
    ∃ connection, open? Engine.halting .null = .ok connection ∧
      (∀ exchange ∈ connection.exchanges Request.halting, exchange.Transacted .format) ∧
      (connection.afterAll Request.halting).lastInsertId = .int 7 := by
  have hrequests : ∀ request ∈ Request.halting, request.Sequential := by
    simp only [Request.halting, List.forall_mem_cons]
    exact ⟨⟨_, _, rfl, rfl⟩, ⟨_, _, rfl, rfl⟩, ⟨_, _, rfl, rfl⟩, ⟨_, _, rfl, rfl⟩,
      List.forall_mem_nil _⟩
  have hopen : open? Engine.halting .null = .ok ⟨.sqlite, Engine.halting, 0, .null⟩ := rfl
  obtain ⟨hserved, hexchanges, hkey⟩ := run_of_transactions hopen Request.halting
  refine ⟨_, hopen, ?_, hkey⟩
  intro exchange hexchange
  have hrequest : exchange.request ∈ Request.halting := hserved ▸ List.mem_map_of_mem hexchange
  exact ((hexchanges exchange hexchange).2.1 .format rfl).1 (hrequests _ hrequest)

/-- A driver that generates a key, and an empty text as the next one. -/
def Engine.blank : Engine where
  name := .text "sqlite"
  paramstyle := .text "qmark"
  respond
    | 0 => .finished [] (.int 7) (.int 0)
    | _ => .finished [] (.text "") (.int 0)

def Request.blank : List Request :=
  [⟨"INSERT INTO t VALUES (1)", .list [], none⟩, ⟨"INSERT INTO t VALUES (2)", .list [], none⟩]

/-- A row id that is neither nothing nor zero need not be remembered: the second insert wants no
rows and is answered, and the empty text that is reported for it does not replace the key of the
first one. -/
theorem EngineConnection.empty_key_is_not_kept :
    ∃ connection latest, open? Engine.blank .null = .ok connection ∧
      (connection.exchanges Request.blank).getLast? = some latest ∧
      latest.request.mapper = none ∧ latest.run.outcome = .ok (.count (.int 0)) ∧
      latest.answer = .finished [] (.text "") (.int 0) ∧
      (connection.afterAll Request.blank).lastInsertId = .int 7 :=
  ⟨⟨.sqlite, Engine.blank, 0, .null⟩, _, rfl, rfl, rfl, rfl, rfl, rfl⟩

end SqlBuilder
