import SqlBuilder.Connection.Recording
import SqlBuilder.Proofs.Upkeep

/-!
# What is built is what is sent

Every query of a session has a connection of that session: it has got it when it was made, and
nothing that is done with queries takes it away. So a call that runs a statement either stops before
it comes to the connection, because its data is refused or the statement cannot be built, or hands
exactly one statement to it, which is what the query builds from then on.
-/

namespace SqlBuilder

open Session

/-- The connection of a query is among as many as there are. -/
def Query.Linked (size : Nat) (query : Query) : Prop :=
  query.connection < size

theorem Query.invariant_linked : Query.Invariant Query.Linked where
  mono h hmore := lt_of_lt_of_le h hmore
  linked h := h
  fresh h _ _ := h
  select h := h

theorem Query.connection_aggregate (query : Query) (function name : String) (column : Value) :
    (query.aggregate function name column).connection = query.connection := by
  rw [Query.aggregate]
  exact (Query.Akin.addColumn _ _ _).connection

variable {κ σ : Type}

/-- The callback of a call, if it takes one and is given one, leaves all queries linked to
connections of the session. -/
def Call.Linking (call : Call κ σ) : Prop :=
  ∀ {description : Description κ σ}, call.description? = some description →
    description.operand.Keeps Query.Linked

theorem Description.keeps_linked {description : Description κ σ}
    (h : description.operand.Keeps Query.Linked) : description.Keeps Query.Linked where
  operand := h
  edit _ _ _ _ _ hquery hchanged := by
    rw [Query.Linked, (Edit.akin hchanged).connection]
    exact hquery

theorem Call.Linking.keeps {call : Call κ σ} (h : call.Linking) : call.Keeps Query.Linked where
  describes hdescription := Description.keeps_linked (h hdescription)
  prepare _ _ query hquery := by
    rw [Query.Linked, Command.connection_prepare]
    exact hquery
  aggregate _ _ query hquery := by
    rw [Query.Linked, Query.connection_aggregate]
    exact hquery

/-- The callbacks of an operation leave all queries linked to connections of the session. -/
def Operation.Linking : Operation κ σ → Prop
  | call made => made.Linking
  | chunk _ _ _ visit =>
      ∀ records count number,
        Session.Ensures Query.Linked (visit records count number) fun _ => True
  | _ => True

theorem Operation.Linking.keeps {operation : Operation κ σ} (h : operation.Linking) :
    operation.Keeps Query.Linked := by
  cases operation with
  | call made => exact Call.Linking.keeps h
  | chunk fuel size index visit =>
      refine ⟨?_, h⟩
      intro size query page index cursor rows hquery hpage
      rw [Query.Linked, (Query.Akin.pageAfter hpage).connection]
      exact hquery
  | setModel _ | edit _ => exact fun hquery => hquery
  | clone | build | dump => trivial

/-- The callbacks of a move leave all queries linked to connections of the session. -/
def Move.Linking : Move κ σ → Prop
  | operate _ operation => operation.Linking
  | _ => True

theorem Move.Linking.keeps {move : Move κ σ} (h : move.Linking) : move.Keeps Query.Linked := by
  cases move with
  | operate id operation => exact Operation.Linking.keeps h
  | connect _ | create _ _ => trivial

variable [Connection κ]

/-- In every run of moves on queries and connections, a call that runs a statement comes to one of
three ends. Its data is refused: the call fails with the reason, and of the session only its query
has changed. Or the statement cannot be built: the call fails with what building the query fails
with, and again nothing but the query has changed. Or the connection of the query has been handed
one statement, and that is what building the query answers right after the call; the query is then
of the type that the call runs, and the call answers, or fails with, whatever comes of the run. This
holds of every kind of connection, so also of one that counts what it is handed. -/
theorem Session.built_is_sent {start : Session κ σ} (hstart : start.Holds Query.Linked)
    {moves : List (Move κ σ)} (hmoves : ∀ move ∈ moves, move.Linking) {id : Nat} {query : Query}
    (hquery : (start.progress moves).store.queries[id]? = some query) {call : Call κ σ}
    {command : Command} (hcommand : call.command? = some command) :
    let session := start.progress moves
    ∃ connection prepared outcome later,
      session.connections[query.connection]? = some connection ∧
      play (call.run id) session = (outcome, later) ∧
      later.store = session.store.set id prepared ∧
      ((∃ cause, command.prepare query = (.error cause, prepared) ∧ outcome = .error cause ∧
          later = session.withQuery id prepared) ∨
        (command.prepare query = (.ok (), prepared) ∧
          prepared.blueprint.type = command.type ∧
          ((∃ cause, play (build id) later = (.error cause, later) ∧ outcome = .error cause ∧
              later = session.withQuery id prepared) ∨
            (∃ compiled, play (build id) later = (.ok compiled, later) ∧
              let run := Connection.run connection compiled.sql (.list compiled.parameters)
                (command.mapper? id query)
              (session.withQuery id prepared).Handed query.connection run later ∧
              outcome = run.outcome >>= fun rows => call.answer run.connection rows)))) := by
  intro session
  have hlinked : session.Holds Query.Linked :=
    hstart.progress Query.invariant_linked fun move hmove => (hmoves move hmove).keeps
  have hslot : query.connection < session.connections.size := hlinked id query hquery
  have hconnection := Array.getElem?_eq_getElem hslot
  refine ⟨session.connections[query.connection], ?_⟩
  cases hprepare : command.prepare query with
  | mk outcome prepared =>
      refine ⟨prepared, ?_⟩
      have hprepared := queries_withQuery hquery prepared
      cases outcome with
      | error cause =>
          exact ⟨_, _, hconnection, Call.play_refused hcommand hquery hprepare, rfl,
            .inl ⟨cause, rfl, rfl, rfl⟩⟩
      | ok =>
          have htype := Command.type_prepare hprepare
          cases hbuild : (session.withQuery id prepared).store.build prepared with
          | error cause =>
              refine ⟨_, _, hconnection, Call.play_unbuilt hcommand hquery hprepare hbuild, rfl,
                .inr ⟨rfl, htype, .inl ⟨cause, ?_, rfl, rfl⟩⟩⟩
              rw [play_build hprepared, hbuild]
          | ok compiled =>
              obtain ⟨later, hplay, hhanded⟩ :=
                Call.play_sent hcommand hquery hprepare hbuild hconnection
              have hlater : later.store.queries[id]? = some prepared := by
                rw [hhanded.store, hprepared]
              refine ⟨_, later, hconnection, hplay, hhanded.store,
                .inr ⟨rfl, htype, .inr ⟨compiled, ?_, hhanded, rfl⟩⟩⟩
              rw [play_build hlater, hhanded.store, hbuild]

/-- A run in which a query is made on a recording connection, is given a table and a condition from
a callback, and is asked to insert no rows, which fails. -/
def Session.countingMoves : List (Move RecordingConnection Unit) :=
  [.connect (.start (.text "mysql") .nothing []),
    .create (some 0) Options.standard,
    .operate 0 (.call (.table (.text "t") (.text ""))),
    .operate 0 (.call (.filter (.callback 0 fun nested =>
      filter nested (.value (.text "a")) (.int 1) (.text "=") (.text "AND"))
      .null (.text "=") (.text "AND"))),
    .operate 0 (.call (.insert (.list [])))]

def Session.counting : Session RecordingConnection Unit :=
  (Session.start ()).progress Session.countingMoves

theorem Session.progress_countingMoves :
    (Session.start ()).progress Session.countingMoves = Session.counting :=
  rfl

theorem Session.linking_countingMoves : ∀ move ∈ Session.countingMoves, move.Linking := by
  have hfilter : ∀ nested : Nat, Ensures Query.Linked
      (filter nested (.value (.text "a")) (.int 1) (.text "=") (.text "AND") :
        Action RecordingConnection Unit Unit) fun _ => True := by
    intro nested
    rw [filter, Description.run_condition]
    exact Ensures.description Query.invariant_linked (Description.keeps_linked trivial)
  intro move hmove
  simp only [Session.countingMoves, List.mem_cons, List.not_mem_nil, or_false] at hmove
  rcases hmove with rfl | rfl | rfl | rfl | rfl
  · trivial
  · trivial
  · rintro _ ⟨⟩
    trivial
  · rintro _ ⟨⟩
    exact hfilter
  · rintro _ ⟨⟩

def Command.singleInsert : Command :=
  ⟨.insert, some (.insert, Call.insertion (.map [(.text "a", .int 1)])), none⟩

theorem Session.ready_counting :
    ∃ query, Session.counting.store.queries[0]? = some query ∧ query.connection = 0 ∧
      (Command.singleInsert.prepare query).1.isOk = true ∧
      ((Session.counting.withQuery 0 (Command.singleInsert.prepare query).2).store.build
        (Command.singleInsert.prepare query).2).isOk = true := by
  have hready : (Session.counting.store.queries[0]?).any (fun query =>
      query.connection == 0 && ((Command.singleInsert.prepare query).1.isOk &&
        ((Session.counting.withQuery 0 (Command.singleInsert.prepare query).2).store.build
          (Command.singleInsert.prepare query).2).isOk)) = true := by decide +kernel
  cases hquery : Session.counting.store.queries[0]? with
  | none =>
      rw [hquery] at hready
      cases hready
  | some query =>
      rw [hquery, Option.any_some, Bool.and_eq_true, Bool.and_eq_true, beq_iff_eq] at hready
      exact ⟨query, rfl, hready⟩

/-- What the query builds after the next insert is what its connection has been sent. -/
theorem Session.built_is_sent_counting :
    ∃ outcome compiled later,
      play (Call.run 0 (.insert (.map [(.text "a", .int 1)]))) Session.counting =
        (outcome, later) ∧
      play (build 0) later = (.ok compiled, later) ∧
      later.journal = #[⟨0, .statement compiled.sql (.list compiled.parameters)⟩] := by
  have hstart : (Session.start () : Session RecordingConnection Unit).Holds Query.Linked :=
    holds_start ()
  have hcommand : (Call.insert (.map [(.text "a", .int 1)]) :
      Call RecordingConnection Unit).command? = some Command.singleInsert := rfl
  have hheld : Session.counting.connections[0]? = some (.start (.text "mysql") .nothing []) := rfl
  have hjournal : Session.counting.journal = #[] :=
    Array.eq_empty_of_size_eq_zero (by decide +kernel)
  obtain ⟨query, hquery, hslot, hprepared, hbuilt⟩ := Session.ready_counting
  obtain ⟨connection, prepared, outcome, later, hconnection, hplay, -, hends⟩ :=
    built_is_sent hstart Session.linking_countingMoves hquery hcommand
  rw [Session.progress_countingMoves, hslot] at hconnection hends
  rw [Session.progress_countingMoves] at hplay
  obtain rfl := Option.some.inj (hheld.symm.trans hconnection)
  rcases hends with ⟨cause, hprepare, -, -⟩ | ⟨hprepare, -, hends⟩
  · rw [hprepare] at hprepared
    cases hprepared
  · rcases hends with ⟨cause, hbuild, -, rfl⟩ | ⟨compiled, hbuild, hhanded, -⟩
    · rw [play_build (queries_withQuery hquery prepared)] at hbuild
      rw [hprepare, (Prod.mk.inj hbuild).1] at hbuilt
      cases hbuilt
    · refine ⟨outcome, compiled, later, hplay, hbuild, ?_⟩
      rw [hhanded.journal, withQuery, hjournal]
      rfl

end SqlBuilder
