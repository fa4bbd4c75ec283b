import SqlBuilder.Proofs.Command
import SqlBuilder.Proofs.Description
import SqlBuilder.Proofs.Frame

/-!
# What holds of all queries of a session

A session comes about by moves: a connection is opened, a query is made on one, something is done
with a query. What holds of every new query, and is kept by whatever the moves make of one, holds of
all queries of the session. The queries that the moves make for themselves count too: the nested
ones that callbacks are handed, the pages of a walk, the clone that is asked for an aggregate.
-/

namespace SqlBuilder

open Outcome Session

/-- Something that can hold of a query, given how many connections there are: it holds of every new
query on one of them, and whether the query is a select makes no difference. -/
structure Query.Invariant (inv : Nat → Query → Prop) : Prop where
  mono : ∀ {size more : Nat} {query : Query}, inv size query → size ≤ more → inv more query
  linked : ∀ {size : Nat} {query : Query}, inv size query → query.connection < size
  fresh : ∀ {size connection : Nat}, connection < size → ∀ compiler options,
    inv size (Query.new connection compiler options)
  select : ∀ {size : Nat} {query : Query}, inv size query → inv size (query.withType .select)

theorem Query.Invariant.nested {inv : Nat → Query → Prop} (hinv : Query.Invariant inv) {size : Nat}
    {query : Query} (h : inv size query) : inv size query.nested :=
  hinv.fresh (hinv.linked h) _ _

variable {κ σ α β : Type} {inv : Nat → Query → Prop}

namespace Session

/-- All queries of a session satisfy an invariant. -/
def Holds (inv : Nat → Query → Prop) (session : Session κ σ) : Prop :=
  ∀ (id : Nat) (query : Query), session.store.queries[id]? = some query →
    inv session.connections.size query

/-- Played in a session, an action leaves one in which all queries satisfy an invariant, and what it
answers is as stated. -/
def Leads (inv : Nat → Query → Prop) (session : Session κ σ) (action : Action κ σ α)
    (post : α → Prop) : Prop :=
  (play action session).2.Holds inv ∧
    ∀ answer, (play action session).1 = .ok answer → post answer

/-- After an action all queries satisfy an invariant if they did before, and what it answers is as
stated. -/
def Ensures (inv : Nat → Query → Prop) (action : Action κ σ α) (post : α → Prop) : Prop :=
  ∀ session : Session κ σ, session.Holds inv → session.Leads inv action post

theorem Holds.withAdded {session : Session κ σ} (h : session.Holds inv) {added : Query}
    (hadded : inv session.connections.size added) : (session.withAdded added).Holds inv := by
  intro id query hquery
  rw [Session.withAdded, Store.add, Array.getElem?_push] at hquery
  split at hquery
  · exact Option.some.inj hquery ▸ hadded
  · exact h id query hquery

theorem Holds.withQuery {session : Session κ σ} (h : session.Holds inv) {id : Nat}
    {changed : Query} (hchanged : inv session.connections.size changed) :
    (session.withQuery id changed).Holds inv := by
  intro other query hquery
  rw [Session.withQuery, Store.set, Array.getElem?_setIfInBounds] at hquery
  split at hquery
  · split at hquery
    · exact Option.some.inj hquery ▸ hchanged
    · cases hquery
  · exact h other query hquery

theorem Holds.handed {session later : Session κ σ} (h : session.Holds inv) {slot : Nat}
    {run : Run κ} (hhanded : session.Handed slot run later) : later.Holds inv := by
  intro id query hquery
  rw [hhanded.store] at hquery
  rw [hhanded.connections, Array.size_setIfInBounds]
  exact h id query hquery

namespace Leads

variable {session : Session κ σ} {post : α → Prop} {last : β → Prop}

theorem of_failure (hsession : session.Holds inv) {action : Action κ σ α} {cause : Error}
    (h : play action session = (.error cause, session)) : session.Leads inv action post := by
  rw [Leads, h]
  exact ⟨hsession, fun _ hanswer => by cases hanswer⟩

theorem lift (hsession : session.Holds inv) {stage : Except Error α} {next : α → Action κ σ β}
    (h : ∀ answer, stage = .ok answer → session.Leads inv (next answer) last) :
    session.Leads inv (liftM stage >>= next) last := by
  cases stage with
  | error cause => exact of_failure hsession rfl
  | ok answer => exact h answer rfl

theorem addQuery (hsession : session.Holds inv) {added : Query} {next : Nat → Action κ σ β}
    (hadded : inv session.connections.size added)
    (hnext : ∀ id, Ensures inv (next id) last) :
    session.Leads inv (Session.addQuery added >>= next) last := by
  rw [Leads, play_bind_ok (play_addQuery added session)]
  exact hnext _ _ (hsession.withAdded hadded)

end Leads

namespace Ensures

variable {id : Nat} {post : α → Prop} {last : β → Prop}

theorem weaken {weaker : α → Prop} {action : Action κ σ α} (h : Ensures inv action post)
    (hpost : ∀ answer, post answer → weaker answer) : Ensures inv action weaker := by
  intro session hsession
  obtain ⟨hlater, hanswers⟩ := h session hsession
  exact ⟨hlater, fun answer hanswer => hpost answer (hanswers answer hanswer)⟩

theorem bind {first : Action κ σ α} {next : α → Action κ σ β} (hfirst : Ensures inv first post)
    (hnext : ∀ answer, post answer → Ensures inv (next answer) last) :
    Ensures inv (first >>= next) last := by
  intro session hsession
  obtain ⟨hlater, hpost⟩ := hfirst session hsession
  rw [Leads, play_bind]
  cases h : play first session with
  | mk outcome later =>
      rw [h] at hlater hpost
      cases outcome with
      | error cause => exact ⟨hlater, fun _ hanswer => by cases hanswer⟩
      | ok answer => exact hnext answer (hpost answer rfl) later hlater

theorem pure {answer : α} (h : post answer) : Ensures inv (Pure.pure answer : Action κ σ α) post :=
  fun _ hsession => ⟨hsession, fun _ hanswer => Except.ok.inj hanswer ▸ h⟩

theorem throw (cause : Error) : Ensures inv (MonadExcept.throw cause : Action κ σ α) post :=
  fun _ hsession => .of_failure hsession rfl

theorem lift (stage : Except Error α) :
    Ensures inv (liftM stage : Action κ σ α) fun answer => stage = .ok answer := by
  intro session hsession
  rw [Leads, play_lift]
  exact ⟨hsession, fun _ hanswer => hanswer⟩

theorem of_same {action : Action κ σ α}
    (h : ∀ session, (play action session).2.store = session.store ∧
      (play action session).2.connections = session.connections) :
    Ensures inv action fun _ => True := by
  intro session hsession
  obtain ⟨hstore, hconnections⟩ := h session
  refine ⟨fun id query hquery => ?_, fun _ _ => trivial⟩
  rw [hstore] at hquery
  rw [hconnections]
  exact hsession id query hquery

theorem get : Ensures inv (MonadState.get : Action κ σ (Session κ σ)) fun _ => True :=
  of_same fun _ => ⟨rfl, rfl⟩

theorem atQuery {next : Query → Action κ σ β}
    (h : ∀ session : Session κ σ, session.Holds inv → ∀ current,
      session.store.queries[id]? = some current → session.Leads inv (next current) last) :
    Ensures inv (Session.query id >>= next) last := by
  intro session hsession
  cases hrecord : session.store.queries[id]? with
  | none =>
      apply Leads.of_failure hsession
      rw [play_bind, play_query_none hrecord]
  | some current =>
      rw [Leads, play_bind_ok (play_query hrecord)]
      exact h session hsession current hrecord

theorem query (id : Nat) :
    Ensures inv (Session.query id : Action κ σ Query) fun query => ∃ size, inv size query := by
  intro session hsession
  cases hrecord : session.store.queries[id]? with
  | none => exact .of_failure hsession (play_query_none hrecord)
  | some current =>
      rw [Leads, play_query hrecord]
      exact ⟨hsession, fun _ hanswer =>
        ⟨_, Except.ok.inj hanswer ▸ hsession id current hrecord⟩⟩

theorem attempt {step : Query → Except Error Query}
    (h : ∀ size query changed, inv size query → step query = .ok changed → inv size changed) :
    Ensures inv (Session.attempt id step : Action κ σ Unit) fun _ => True := by
  apply atQuery
  intro session hsession current hrecord
  apply Leads.lift hsession
  intro changed hstep
  exact ⟨hsession.withQuery (h _ current changed (hsession id current hrecord) hstep),
    fun _ _ => trivial⟩

theorem change {step : Query → Query} (h : ∀ size query, inv size query → inv size (step query)) :
    Ensures inv (Session.change id step : Action κ σ Unit) fun _ => True := by
  rw [change_eq_attempt]
  apply attempt
  intro size query changed hquery hstep
  exact Except.ok.inj hstep ▸ h size query hquery

end Ensures

end Session

/-! ### Callbacks -/

/-- A callback keeps an invariant, whatever nested query it is handed. -/
def Operand.Keeps (inv : Nat → Query → Prop) : Operand κ σ → Prop
  | .value _ => True
  | .callback _ fill => ∀ id, Session.Ensures inv (fill id) fun _ => True

/-- What an operand can stand for: its reference, or the conditions of a query. -/
def Operand.Stands (inv : Nat → Query → Prop) (clause : Clause) (reference : Value → Value) :
    Operand κ σ → Value → Prop
  | value given, settled => settled = reference given
  | callback _ _, settled => ∃ size query, inv size query ∧
      settled = .group ((query.blueprint.fragments clause).map Fragment.toValue)

namespace Session.Ensures

variable {id : Nat}

theorem settle (hinv : Query.Invariant inv) {clause : Clause} {reference : Value → Value}
    {operand : Operand κ σ} (h : operand.Keeps inv) :
    Ensures inv (Session.settle id clause reference operand)
      (operand.Stands inv clause reference) := by
  cases operand with
  | value given =>
      have hstands : (Operand.value given : Operand κ σ).Stands inv clause reference
          (reference given) := rfl
      exact pure hstands
  | callback mark fill =>
      apply atQuery
      intro session hsession current hrecord
      apply Leads.addQuery hsession (hinv.nested (hsession id current hrecord))
      intro nested
      apply (h nested).bind
      intro _ _
      apply (query nested).bind
      rintro filled ⟨size, hfilled⟩
      have hstands : (Operand.callback mark fill).Stands inv clause reference
          (.group ((filled.blueprint.fragments clause).map Fragment.toValue)) :=
        ⟨size, filled, hfilled, rfl⟩
      exact pure hstands

end Session.Ensures

/-! ### Calls -/

/-- The function over a column that a call asks for, with its name in the answer. -/
def Call.aggregate? : Call κ σ → Option (String × String × Value)
  | count name => some ("COUNT", "count", name)
  | sum name => some ("SUM", "sum", name)
  | minimum name => some ("MIN", "min", name)
  | maximum name => some ("MAX", "max", name)
  | average name => some ("AVG", "avg", name)
  | _ => none

/-- What a description makes of a query satisfies an invariant if the query does. -/
structure Description.Keeps (inv : Nat → Query → Prop) (description : Description κ σ) : Prop where
  operand : description.operand.Keeps inv
  edit : ∀ {value settled : Value}, description.value = .ok value →
    description.operand.Stands inv description.clause description.reference settled →
    ∀ {size : Nat} {query changed : Query}, inv size query →
      (description.edit value settled).change query = .ok changed → inv size changed

/-- What a call makes of a query satisfies an invariant if the query does. -/
structure Call.Keeps (inv : Nat → Query → Prop) (call : Call κ σ) : Prop where
  describes : ∀ {description : Description κ σ}, call.description? = some description →
    description.Keeps inv
  prepare : ∀ {command : Command}, call.command? = some command →
    ∀ {size : Nat} {query : Query}, inv size query → inv size (command.prepare query).2
  aggregate : ∀ {function name : String} {column : Value},
    call.aggregate? = some (function, name, column) →
    ∀ {size : Nat} {query : Query}, inv size query →
      inv size (query.aggregate function name column)

namespace Session.Ensures

variable {id : Nat}

theorem description (hinv : Query.Invariant inv) {description : Description κ σ}
    (h : description.Keeps inv) : Ensures inv (description.run id) fun _ => True := by
  apply (lift description.value).bind
  intro value hvalue
  apply (settle hinv h.operand).bind
  intro settled hsettled
  apply attempt
  intro size query changed hquery hchanged
  exact h.edit hvalue hsettled hquery hchanged

theorem valued {step : Action κ σ Value} (h : Ensures inv step fun _ => True) :
    Ensures inv (Call.valued step) fun _ => True :=
  h.bind fun _ _ => pure trivial

variable [Connection κ]

theorem execute (hinv : Query.Invariant inv) (id : Nat) (mapper : Option Mapper) :
    Ensures inv (Session.execute id mapper : Action κ σ Outcome) fun _ => True := by
  intro session hsession
  refine ⟨?_, fun _ _ => trivial⟩
  cases hrecord : session.store.queries[id]? with
  | none =>
      rw [Session.execute, play_bind, play_query_none hrecord]
      exact hsession
  | some current =>
      cases hbuild : session.store.build current with
      | error cause =>
          rw [play_execute_error hrecord hbuild]
          exact hsession
      | ok compiled =>
          have hslot := hinv.linked (hsession id current hrecord)
          obtain ⟨later, hplay, hhanded⟩ :=
            play_execute hrecord hbuild (Array.getElem?_eq_getElem hslot) mapper
          rw [hplay]
          exact hsession.handed hhanded

theorem command (hinv : Query.Invariant inv) {command : Command}
    (h : ∀ {size : Nat} {query : Query}, inv size query → inv size (command.prepare query).2) :
    Ensures inv (command.run id : Action κ σ Outcome) fun _ => True := by
  intro session hsession
  cases hrecord : session.store.queries[id]? with
  | none => exact .of_failure hsession (Command.play_run_none hrecord command)
  | some current =>
      have hprepared := h (hsession id current hrecord)
      cases hprepare : command.prepare current with
      | mk outcome prepared =>
          rw [hprepare] at hprepared
          have hlater : (session.withQuery id prepared).Holds inv := hsession.withQuery hprepared
          cases outcome with
          | error cause =>
              rw [Leads, Command.play_run_refused hrecord hprepare]
              exact ⟨hlater, fun _ _ => trivial⟩
          | ok =>
              rw [Leads, Command.play_run hrecord hprepare]
              exact execute hinv id _ _ hlater

theorem lastInsertId (connection : Nat) :
    Ensures inv (Session.lastInsertId connection : Action κ σ Value) fun _ => True := by
  apply of_same
  intro session
  rw [Session.lastInsertId, Session.connection]
  cases h : session.connections[connection]? with
  | none => simp [play_bind, h]
  | some held => simp [play_bind, h]

theorem finish (outcome : Outcome) (call : Call κ σ) :
    Ensures inv (call.finish id outcome) fun _ => True := by
  cases call with
  | select _ | rows | first => exact (lift _).bind fun _ _ => pure trivial
  | insert data =>
      exact (query id).bind fun _ _ => (lastInsertId _).bind fun _ _ => pure trivial
  | _ => exact pure trivial

theorem select (hinv : Query.Invariant inv) (id : Nat) (single : Value) :
    Ensures inv (Session.select id single : Action κ σ Fetched) fun _ => True := by
  have hprepare : ∀ {size : Nat} {query : Query}, inv size query →
      inv size (Command.prepare ⟨.select, none, some single⟩ query).2 := hinv.select
  rw [select_eq]
  apply (command hinv hprepare).bind
  intro outcome _
  exact (lift _).weaken fun _ _ => trivial

theorem rows (hinv : Query.Invariant inv) (id : Nat) :
    Ensures inv (Session.rows id : Action κ σ (List Record)) fun _ => True := by
  rw [rows_eq]
  exact (select hinv id _).bind fun _ _ => pure trivial

theorem first (hinv : Query.Invariant inv) (id : Nat) :
    Ensures inv (Session.first id : Action κ σ (Option Record)) fun _ => True := by
  rw [first_eq]
  exact (select hinv id _).bind fun _ _ => pure trivial

theorem aggregate (hinv : Query.Invariant inv) {function name : String} {column : Value}
    (h : ∀ {size : Nat} {query : Query}, inv size query →
      inv size (query.aggregate function name column)) :
    Ensures inv (Session.aggregate id function name column : Action κ σ Value) fun _ => True := by
  apply atQuery
  intro session hsession current hrecord
  apply Leads.addQuery hsession (h (hsession id current hrecord))
  intro copy
  apply (first hinv copy).bind
  intro record _
  cases record with
  | none => exact pure trivial
  | some record =>
      dsimp only
      split
      · exact pure trivial
      · exact pure trivial

theorem count (hinv : Query.Invariant inv) {column : Value}
    (h : ∀ {size : Nat} {query : Query}, inv size query →
      inv size (query.aggregate "COUNT" "count" column)) :
    Ensures inv (do return .int (← Session.count id column) : Action κ σ Value) fun _ => True := by
  have hcount : Ensures inv (Session.count id column : Action κ σ Int) fun _ => True :=
    (aggregate hinv h).bind fun _ _ => (lift _).weaken fun _ _ => trivial
  exact hcount.bind fun _ _ => pure trivial

/-- A call keeps what it keeps of each query. -/
theorem call (hinv : Query.Invariant inv) {call : Call κ σ} (h : call.Keeps inv) :
    Ensures inv (call.run id) fun _ => True := by
  cases hdescription : call.description? with
  | some made =>
      rw [Call.run_eq hdescription]
      exact (description hinv (h.describes hdescription)).bind fun _ _ => pure trivial
  | none =>
      cases hcommand : call.command? with
      | some made =>
          rw [Call.run_eq_command hcommand]
          exact (command hinv (h.prepare hcommand)).bind fun outcome _ => finish outcome call
      | none =>
          cases call with
          | count name => exact valued (count hinv (h.aggregate rfl))
          | sum name => exact valued (aggregate hinv (h.aggregate rfl))
          | minimum name => exact valued (aggregate hinv (h.aggregate rfl))
          | maximum name => exact valued (aggregate hinv (h.aggregate rfl))
          | average name => exact valued (aggregate hinv (h.aggregate rfl))
          | select _ | rows | first | insert _ | upsert _ _ _ | update _ | delete | truncate =>
              cases hcommand
          | _ => cases hdescription

/-- The pages of a walk are made out of the query that is walked over. -/
theorem walkFrom (hinv : Query.Invariant inv) {walk : Walk} {visit : Visit κ σ}
    (hpage : ∀ {size : Nat} {query page : Query} {cursor : Value}, inv size query →
      query.pageAfter walk.index cursor walk.size = .ok page → inv size page)
    (hvisit : ∀ records count number, Ensures inv (visit records count number) fun _ => True)
    (fuel number : Nat) (cursor : Value) :
    Ensures inv (Session.walkFrom id walk visit fuel number cursor) fun _ => True := by
  induction fuel generalizing number cursor with
  | zero => exact throw _
  | succ fuel ih =>
      apply atQuery
      intro session hsession template hrecord
      apply Leads.lift hsession
      intro page hmade
      apply Leads.addQuery hsession (hpage (hsession id template hrecord) hmade)
      intro place
      apply (rows hinv place).bind
      intro records _
      split
      · exact pure trivial
      · have hlog : ∀ fields, Ensures inv
            (logEvent .debug "query.chunk" fields : Action κ σ Unit) fun _ => True :=
          fun fields => of_same fun _ => ⟨rfl, rfl⟩
        apply (hlog _).bind
        intro _ _
        apply (hvisit _ _ _).bind
        intro goesOn _
        cases goesOn with
        | false => exact pure trivial
        | true => exact ih _ _

end Session.Ensures

/-! ### Operations and moves -/

def Operation.Keeps (inv : Nat → Query → Prop) : Operation κ σ → Prop
  | call made => made.Keeps inv
  | chunk _ _ _ visit =>
      (∀ {size : Nat} {query page : Query} {index cursor rows : Value}, inv size query →
        query.pageAfter index cursor rows = .ok page → inv size page) ∧
      ∀ records count number, Session.Ensures inv (visit records count number) fun _ => True
  | setModel model => ∀ {size : Nat} {query : Query}, inv size query →
      inv size { query with model }
  | edit step => ∀ {size : Nat} {query : Query}, inv size query →
      inv size { query with blueprint := step query.blueprint }
  | clone | build | dump => True

/-- What makes a session: a connection is opened, a query is made on a connection, something is done
with a query. -/
inductive Move (κ σ : Type) where
  | connect (connection : κ)
  | create (connection : Option Nat) (options : Options)
  | operate (id : Nat) (operation : Operation κ σ)

variable [Connection κ]

def Move.run : Move κ σ → Action κ σ Unit
  | connect connection => discard (Session.connect connection)
  | create connection options => discard (newQuery connection options)
  | operate id operation => operation.run id

def Move.Keeps (inv : Nat → Query → Prop) : Move κ σ → Prop
  | operate _ operation => operation.Keeps inv
  | _ => True

/-- The session after some moves, each of which may fail. -/
def Session.progress (moves : List (Move κ σ)) (session : Session κ σ) : Session κ σ :=
  moves.foldl (fun session move => (play move.run session).2) session

namespace Session.Ensures

variable {id : Nat}

omit [Connection κ] in
theorem clone (id : Nat) : Ensures inv (Session.clone id : Action κ σ Nat) fun _ => True := by
  apply atQuery
  intro session hsession current hrecord
  exact ⟨hsession.withAdded (hsession id current hrecord), fun _ _ => trivial⟩

omit [Connection κ] in
theorem build (id : Nat) : Ensures inv (Session.build id : Action κ σ Compiled) fun _ => True := by
  apply of_same
  intro session
  cases hrecord : session.store.queries[id]? with
  | none =>
      rw [Session.build, play_bind, play_query_none hrecord]
      exact ⟨rfl, rfl⟩
  | some current =>
      rw [play_build hrecord]
      exact ⟨rfl, rfl⟩

omit [Connection κ] in
theorem dump (id : Nat) : Ensures inv (Session.dump id : Action κ σ String) fun _ => True :=
  (build id).bind fun _ _ => Ensures.get.bind fun _ _ => (lift _).bind fun _ _ => pure trivial

theorem operation (hinv : Query.Invariant inv) {operation : Operation κ σ}
    (h : operation.Keeps inv) : Ensures inv (operation.run id) fun _ => True := by
  cases operation with
  | call made => exact (call hinv h).bind fun _ _ => pure trivial
  | chunk fuel size index visit =>
      apply (query id).bind
      intro current _
      apply (lift _).bind
      intro walk _
      exact walkFrom hinv h.1 h.2 fuel _ _
  | setModel model => exact change fun size query => h
  | edit step => exact change fun size query => h
  | clone => exact (clone id).bind fun _ _ => pure trivial
  | build => exact (build id).bind fun _ _ => pure trivial
  | dump => exact (dump id).bind fun _ _ => pure trivial

omit [Connection κ] in
theorem connect (hinv : Query.Invariant inv) (connection : κ) :
    Ensures inv (Session.connect connection : Action κ σ Nat) fun _ => True := by
  intro session hsession
  refine ⟨fun id query hquery => ?_, fun _ _ => trivial⟩
  have hsize : (play (Session.connect connection) session).2.connections.size =
      session.connections.size + 1 := Array.size_push connection
  rw [hsize]
  exact hinv.mono (hsession id query hquery) (Nat.le_succ _)

theorem play_introduce (connection : Option Nat) (session : Session κ σ) :
    (∃ cause, play (introduce connection) session = (.error cause, session)) ∨
      ∃ answer, play (introduce connection) session = (.ok answer, session) ∧
        ∀ slot, connection = some slot → slot < session.connections.size := by
  cases connection with
  | none => exact .inr ⟨_, rfl, fun _ hslot => by cases hslot⟩
  | some slot =>
      cases h : session.connections[slot]? with
      | none =>
          refine .inl ⟨.noAttribute, ?_⟩
          rw [introduce, Session.connection, play_bind, play_bind_ok (play_get session), h]
          rfl
      | some connection =>
          refine .inr ⟨_, play_bind_ok (play_connection h), ?_⟩
          rintro _ ⟨⟩
          exact (Array.getElem?_eq_some_iff.1 h).1

/-- A query is made on a connection that is there, or not at all. -/
theorem newQuery (hinv : Query.Invariant inv) (connection : Option Nat) (options : Options) :
    Ensures inv (Session.newQuery connection options : Action κ σ Nat) fun _ => True := by
  intro session hsession
  rw [Session.newQuery]
  obtain ⟨cause, hplay⟩ | ⟨⟨typeName, dialect⟩, hplay, hslot⟩ := play_introduce connection session
  · apply Leads.of_failure hsession
    rw [play_bind, hplay]
  · rw [Leads, play_bind_ok hplay]
    dsimp only
    rw [play_bind_ok (play_get session)]
    split
    · next compiler slot _ =>
        exact ⟨hsession.withAdded (hinv.fresh (hslot slot rfl) compiler options),
          fun _ _ => trivial⟩
    · exact (throw _) session hsession
    · have hlog : ∀ fields, Ensures inv
          (logEvent .error "query.unsupported_connection" fields : Action κ σ Unit) fun _ => True :=
        fun fields => of_same fun _ => ⟨rfl, rfl⟩
      refine (Ensures.get.bind fun _ _ => ?_) session hsession
      exact (lift _).bind fun _ _ => (hlog _).bind fun _ _ => throw _

theorem move (hinv : Query.Invariant inv) {move : Move κ σ} (h : move.Keeps inv) :
    Ensures inv move.run fun _ => True := by
  cases move with
  | connect connection => exact (connect hinv connection).bind fun _ _ => pure trivial
  | create connection options =>
      exact (newQuery hinv connection options).bind fun _ _ => pure trivial
  | operate id made => exact operation hinv h

end Session.Ensures

/-- What the moves keep of each query holds of all queries throughout. -/
theorem Session.Holds.progress (hinv : Query.Invariant inv) {moves : List (Move κ σ)}
    (h : ∀ move ∈ moves, move.Keeps inv) {session : Session κ σ} (hsession : session.Holds inv) :
    (session.progress moves).Holds inv := by
  induction moves generalizing session with
  | nil => exact hsession
  | cons move rest ih =>
      have hfirst := Session.Ensures.move hinv (h move List.mem_cons_self) session hsession
      exact ih (fun other hother => h other (List.mem_cons_of_mem _ hother)) hfirst.1

omit [Connection κ] in
theorem Session.holds_start (host : σ) : (Session.start host : Session κ σ).Holds inv := by
  intro id query hquery
  cases hquery

end SqlBuilder
