import SqlBuilder.Proofs.Command
import SqlBuilder.Proofs.Transaction

/-!
# The key that an insert answers

An insert answers the key that its connection remembers. That is the key of its own statement when
that has generated one. When it has not, it is whatever an earlier request has left behind, on
whichever query and into whichever table; only a connection for which no key has been generated yet
answers nothing.
-/

namespace SqlBuilder

open Outcome Session

theorem Exchange.key?_ne_null (exchange : Exchange) : exchange.key? ≠ some .null := by
  intro h
  unfold key? Execution.key? at h
  split at h
  · split at h
    · next htruthy =>
        obtain rfl := Option.some.inj h
        cases htruthy
    · cases h
  · cases h

namespace EngineConnection

def keys (connection : EngineConnection) (requests : List Request) : List Value :=
  (connection.exchanges requests).filterMap Exchange.key?

theorem afterAll_concat (connection : EngineConnection) (requests : List Request)
    (request : Request) :
    connection.afterAll (requests ++ [request]) =
      (Exchange.mk (connection.afterAll requests) request).run.connection := by
  rw [afterAll, List.foldl_append]
  rfl

variable {connection : EngineConnection} {requests : List Request}

theorem null_notMem_keys : Value.null ∉ connection.keys requests := by
  intro hnull
  obtain ⟨exchange, -, hkey⟩ := List.mem_filterMap.1 hnull
  exact exchange.key?_ne_null hkey

/-- What is remembered is nothing only as long as no key has been generated. -/
theorem latest_eq_null_iff :
    (connection.keys requests).getLast?.getD .null = .null ↔ connection.keys requests = [] := by
  constructor
  · intro hnull
    cases hlast : (connection.keys requests).getLast? with
    | none => exact List.getLast?_eq_none_iff.1 hlast
    | some key =>
        rw [hlast, Option.getD_some] at hnull
        exact absurd (hnull ▸ List.mem_of_getLast? hlast) null_notMem_keys
  · intro hkeys
    rw [hkeys]
    rfl

end EngineConnection

/-! ### An insert among requests -/

variable {σ : Type}

def Command.inserting (data : Value) : Command :=
  ⟨.insert, some (.insert, Call.insertion data), none⟩

/-- An insert has been run on a query whose connection had served requests: its exchange is the next
one on that connection, what it asks for is what the query builds with the data in it, and that has
been answered and is on record. -/
structure Exchange.Inserts (own : Exchange) (opened : EngineConnection) (requests : List Request)
    (id : Nat) (query : Query) (data : Value) (session later : Session EngineConnection σ) :
    Prop where
  before : own.before = opened.afterAll requests
  statement : ∃ prepared compiled,
    (Command.inserting data).prepare query = (.ok (), prepared) ∧
    (session.withQuery id prepared).store.build prepared = .ok compiled ∧
    own.request = ⟨compiled.sql, .list compiled.parameters, none⟩
  answered : ∃ outcome, own.run.outcome = .ok outcome
  journal : later.journal = session.journal ++
    (own.run.sent.map fun sent => (⟨query.connection, sent⟩ : Dispatch)).toArray
  after : later.connections[query.connection]? =
    some (opened.afterAll (requests ++ [own.request]))

namespace Session

variable {session later : Session EngineConnection σ} {id : Nat} {query : Query} {data key : Value}
  {opened : EngineConnection} {requests : List Request}

/-- An insert that succeeds answers the key that its connection remembers then. -/
theorem exists_inserts (hquery : session.store.queries[id]? = some query)
    (hconnection : session.connections[query.connection]? = some (opened.afterAll requests))
    (hplay : play ((Call.insert data).run id) session = (.ok (.value key), later)) :
    ∃ own : Exchange, own.Inserts opened requests id query data session later ∧
      key = own.run.connection.lastInsertId := by
  have hcommand : (Call.insert data : Call EngineConnection σ).command? =
      some (.inserting data) := rfl
  cases hprepare : (Command.inserting data).prepare query with
  | mk outcome prepared =>
      cases outcome with
      | error cause =>
          rw [Call.play_refused hcommand hquery hprepare] at hplay
          cases hplay
      | ok =>
          cases hbuild : (session.withQuery id prepared).store.build prepared with
          | error cause =>
              rw [Call.play_unbuilt hcommand hquery hprepare hbuild] at hplay
              cases hplay
          | ok compiled =>
              obtain ⟨between, hsent, hhanded⟩ :=
                Call.play_sent hcommand hquery hprepare hbuild hconnection
              let own : Exchange := ⟨opened.afterAll requests,
                ⟨compiled.sql, .list compiled.parameters, none⟩⟩
              obtain ⟨hanswer, rfl⟩ := Prod.mk.inj (hsent.symm.trans hplay)
              obtain ⟨outcome, houtcome, hkey⟩ := bind_eq_ok.1 hanswer
              obtain rfl : own.run.connection.lastInsertId = key :=
                Answer.value.inj (Except.ok.inj hkey)
              refine ⟨own, ⟨rfl, ⟨prepared, compiled, hprepare, hbuild, rfl⟩, ⟨outcome, houtcome⟩,
                hhanded.journal, ?_⟩, rfl⟩
              obtain ⟨hslot, -⟩ := Array.getElem?_eq_some_iff.1 hconnection
              rw [hhanded.connections, withQuery,
                Array.getElem?_setIfInBounds_self_of_lt hslot,
                EngineConnection.afterAll_concat]
              rfl

/-- Behind any number of requests that a connection has served since it was opened, an insert that
succeeds answers the key that its own statement has generated, and the latest key that any request
before it has generated if its own has generated none. So it answers for its own statement exactly
when that has generated a key or no request before it has. -/
theorem insert_answers_latest_key {engine : Engine} {dialect : Value}
    (hopen : EngineConnection.open? engine dialect = .ok opened) (requests : List Request)
    (hquery : session.store.queries[id]? = some query)
    (hconnection : session.connections[query.connection]? = some (opened.afterAll requests))
    (hplay : play ((Call.insert data).run id) session = (.ok (.value key), later)) :
    ∃ own : Exchange, own.Inserts opened requests id query data session later ∧
      key = own.key?.getD ((opened.keys requests).getLast?.getD .null) ∧
      (key = own.key?.getD .null ↔ own.key?.isSome = true ∨ opened.keys requests = []) := by
  obtain ⟨known, rfl⟩ := EngineConnection.exists_of_open hopen
  obtain ⟨own, hinserts, hremembered⟩ := exists_inserts hquery hconnection hplay
  have hkey : key = own.key?.getD
      (((EngineConnection.mk known engine 0 .null).keys requests).getLast?.getD .null) := by
    rw [hremembered, Exchange.lastInsertId_run, hinserts.before,
      EngineConnection.lastInsertId_afterAll]
    rfl
  refine ⟨own, hinserts, hkey, ?_⟩
  rw [hkey]
  cases hown : own.key? with
  | some generated => simp
  | none =>
      rw [Option.getD_none, Option.getD_none, EngineConnection.latest_eq_null_iff]
      simp

end Session

/-! ### A key that is left over -/

/-- A driver that generates a key for every statement but the second. -/
def Engine.skipping : Engine where
  name := .text "sqlite"
  paramstyle := .text "qmark"
  respond
    | 0 => .finished [] (.int 7) (.int 1)
    | 1 => .finished [] .null (.int 1)
    | _ => .finished [] (.int 9) (.int 1)

def EngineConnection.skipping : EngineConnection :=
  ⟨.sqlite, .skipping, 0, .null⟩

def Value.planted : Value :=
  .map [(.text "a", .int 1)]

def Request.planting (table : String) : Request :=
  ⟨"INSERT INTO \x60" ++ table ++ "\x60 (\x60a\x60) VALUES (?)", .list [.int 1], none⟩

/-- A session with a query on each of two tables, when the row has been inserted with some of
them. -/
def Session.planted (ids : List Nat) : Session EngineConnection Unit :=
  let session : Session EngineConnection Unit := Session.start ()
  let onTable (table : String) : Query :=
    (Query.new 0 .sqlite Options.standard).setTable (.text table) (.text "")
  let opened := { session with connections := #[EngineConnection.skipping] }
  ids.foldl (fun session id => (play ((Call.insert .planted).run id) session).2)
    ((opened.withAdded (onTable "t")).withAdded (onTable "u"))

/-- The third insert answers its own key, although another one was generated before it. -/
theorem Session.insert_answers_latest_key_planted :
    ∃ (own : Exchange) (query : Query) (later : Session EngineConnection Unit),
      own.Inserts .skipping [.planting "t", .planting "u"] 0 query .planted (planted [0, 1])
        later ∧
      (play ((Call.insert .planted).run 0) (planted [0, 1])).1 = .ok (.value (.int 9)) ∧
      own.key?.getD (.int 7) = .int 9 := by
  have hopen : EngineConnection.open? .skipping .null = .ok .skipping := rfl
  have hkeys : EngineConnection.skipping.keys [.planting "t", .planting "u"] = [.int 7] := rfl
  have hanswer : (play ((Call.insert .planted).run 0) (planted [0, 1])).1 =
      .ok (.value (.int 9)) := rfl
  have hplay : play ((Call.insert .planted).run 0) (planted [0, 1]) =
      (.ok (.value (.int 9)), _) := Prod.ext hanswer rfl
  obtain ⟨own, hinserts, hkey, -⟩ := insert_answers_latest_key hopen
    [.planting "t", .planting "u"] rfl rfl hplay
  rw [hkeys] at hkey
  exact ⟨own, _, _, hinserts, hanswer, hkey.symm⟩

/-- The second insert generates no key, and answers the one that the first insert has generated for
the other table. -/
theorem Session.insert_answers_for_another :
    ∃ (own : Exchange) (query : Query) (later : Session EngineConnection Unit),
      own.Inserts .skipping [.planting "t"] 1 query .planted (planted [0]) later ∧
      own.key? = none ∧
      play ((Call.insert .planted).run 1) (planted [0]) = (.ok (.value (.int 7)), later) := by
  have hanswer : (play ((Call.insert .planted).run 1) (planted [0])).1 =
      .ok (.value (.int 7)) := rfl
  let own : Exchange := ⟨EngineConnection.skipping.afterAll [.planting "t"], .planting "u"⟩
  exact ⟨own, _, _, ⟨rfl, ⟨_, _, rfl, rfl, rfl⟩, ⟨_, rfl⟩, rfl, rfl⟩, rfl, Prod.ext hanswer rfl⟩

end SqlBuilder
