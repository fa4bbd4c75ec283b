import SqlBuilder.Proofs.Lineage.Account
import SqlBuilder.Proofs.Logging

/-!
# A query keeps its compiler

A scenario is a program that registers compilers, makes queries and works on them. What comes of a
step decides how it goes on, and so does what stands in the session. Callbacks and the visits of a
walk are scenarios as well, so compilers may be registered and queries made and run in the midst of
a call. The moments of a scenario are those of its steps: a call with a callback is two pieces of
work with the moments of the callback between them, and a walk is a piece of work for each page with
the moments of the visit behind it.
-/

namespace SqlBuilder

open Session

variable {κ σ : Type}

/-- An action that concerns neither queries nor the registry and sends nothing. -/
def Session.Aside (action : Action κ σ Unit) : Prop :=
  ∀ session : Session κ σ, session.Apart (play action session).2

namespace Session.Aside

theorem connect (connection : κ) : Aside (discard (Session.connect connection) : Action κ σ Unit) :=
  fun _ => ⟨rfl, rfl, rfl⟩

theorem setDefault (connection : Option Nat) (options : Options) :
    Aside (Session.setDefault connection options : Action κ σ Unit) :=
  fun _ => ⟨rfl, rfl, rfl⟩

theorem addBlueprint (blueprint : Blueprint) :
    Aside (discard (Session.addBlueprint blueprint) : Action κ σ Unit) :=
  fun _ => ⟨rfl, rfl, rfl⟩

theorem configureLogging (stream : String) (level : Value) (json : Bool) :
    Aside (Session.configureLogging stream level json : Action κ σ Unit) := by
  intro session
  rw [play_configureLogging]
  split <;> exact ⟨rfl, rfl, rfl⟩

theorem report (event : Log.Event) : Aside (Session.report event : Action κ σ Unit) := by
  intro session
  rw [play_report]
  split <;> exact ⟨rfl, rfl, rfl⟩

end Session.Aside

/-- A program over queries, which answers whether a walk that it visits goes on. -/
inductive Scenario (κ σ : Type) where
  | done (outcome : Except Error Bool)
  | aside (action : Action κ σ Unit) (apart : Aside action) (next : Session κ σ → Scenario κ σ)
  | register (dialect : Value) (compiler : Compiler) (next : Except Error Unit → Scenario κ σ)
  | create (connection : Option Nat) (options : Options) (next : Except Error Nat → Scenario κ σ)
  | createDefault (table aliasName : Value) (next : Except Error Nat → Scenario κ σ)
  | clone (id : Nat) (next : Except Error Nat → Scenario κ σ)
  | call (id : Nat) (made : Call κ σ) (direct : made.Direct)
      (next : Except Error Answer → Scenario κ σ)
  | operate (id : Nat) (operation : Operation κ σ) (plain : operation.Plain)
      (next : Except Error Unit → Scenario κ σ)
  | within (id : Nat) (taking : Taking κ σ) (mark : Nat) (fill : Nat → Scenario κ σ)
      (next : Except Error Unit → Scenario κ σ)
  | walk (fuel id : Nat) (size index : Value) (visit : List Record → Nat → Nat → Scenario κ σ)
      (next : Except Error Unit → Scenario κ σ)

variable [Connection κ]

def Scenario.run : Scenario κ σ → Action κ σ Bool
  | done outcome => liftM outcome
  | aside action _ next => do
      let _ ← caught action
      (next (← get)).run
  | register dialect compiler next => do
      (next (← caught (Session.register dialect compiler))).run
  | create connection options next => do
      (next (← caught (newQuery connection options))).run
  | createDefault table aliasName next => do
      (next (← caught (newDefault table aliasName))).run
  | clone id next => do
      (next (← caught (Session.clone id))).run
  | call id made _ next => do
      (next (← caught (made.run id))).run
  | operate id operation _ next => do
      (next (← caught (operation.run id))).run
  | within id taking mark fill next => do
      let call := taking.call (.callback mark fun nested => discard (fill nested).run)
      (next (← caught (discard (call.run id)))).run
  | walk fuel id size index visit next => do
      let visited : Visit κ σ := fun records count number => (visit records count number).run
      (next (← caught (chunk fuel id size index visited))).run

/-- Every call that takes a callback is a step of a scenario, as long as its callback runs one. -/
theorem Scenario.run_within {call : Call κ σ} (h : ¬ call.Direct) :
    ∃ (taking : Taking κ σ) (mark : Nat) (fill : Nat → Action κ σ Unit),
      call = taking.call (.callback mark fill) ∧
      ∀ filled : Nat → Scenario κ σ, (∀ nested, discard (filled nested).run = fill nested) →
        ∀ id next, (Scenario.within id taking mark filled next).run =
          caught (discard (call.run id)) >>= fun answer => (next answer).run := by
  obtain ⟨taking, mark, fill, rfl⟩ := Call.exists_taking h
  refine ⟨taking, mark, fill, rfl, fun filled hfilled id next => ?_⟩
  rw [run, funext hfilled]

/-! ### Moments of steps -/

def Session.defaultMoments (session : Session κ σ) (table aliasName : Value) :
    List (Moment κ σ) :=
  match session.defaults with
  | none => []
  | some (connection, options) =>
      let made := play (newQuery (some connection) options) session
      ⟨.create (some connection) options, session, made.2⟩ ::
        match made.1 with
        | .ok id =>
            if table.truthy then
              [⟨.work id, made.2, (play (Session.table id table aliasName) made.2).2⟩]
            else []
        | .error _ => []

def Taking.moments (taking : Taking κ σ) (id : Nat) (fill : Nat → Action κ σ Unit)
    (filled : Nat → Session κ σ → List (Moment κ σ)) (session last : Session κ σ) :
    List (Moment κ σ) :=
  match taking.value, session.store.queries[id]? with
  | .ok _, some current =>
      let place := session.store.queries.size
      let entered := session.withAdded current.nested
      ⟨.work id, session, entered⟩ :: filled place entered ++
        [⟨.work id, (play (fill place) entered).2, last⟩]
  | _, _ => []

def Session.Walk.moments (walk : Walk) (id : Nat) (visit : Visit κ σ)
    (visited : List Record → Nat → Nat → Session κ σ → List (Moment κ σ)) :
    Nat → Nat → Value → Session κ σ → List (Moment κ σ)
  | 0, _, _, _ => []
  | fuel + 1, number, cursor, session =>
      let page := play (turn id walk number cursor) session
      ⟨.work id, session, page.2⟩ ::
        match page.1 with
        | .ok (some (records, last)) =>
            let answer := play (visit records records.length number) page.2
            visited records records.length number page.2 ++
              match answer.1 with
              | .ok true =>
                  walk.moments id visit visited fuel (number + 1) (last.read walk.key) answer.2
              | _ => []
        | _ => []

def Session.walkMoments (session : Session κ σ) (fuel id : Nat) (size index : Value)
    (visit : Visit κ σ)
    (visited : List Record → Nat → Nat → Session κ σ → List (Moment κ σ)) :
    List (Moment κ σ) :=
  match session.store.queries[id]? with
  | none => []
  | some template =>
      match Walk.plan template.options size index with
      | .ok walk => walk.moments id visit visited fuel 1 (.int 0) session
      | .error _ => []

/-- What happens when a scenario is run in a session. -/
def Scenario.moments : Scenario κ σ → Session κ σ → List (Moment κ σ)
  | done _, _ => []
  | aside action _ next, session =>
      let later := (play action session).2
      ⟨.aside, session, later⟩ :: (next later).moments later
  | register dialect compiler next, session =>
      let played := play (Session.register dialect compiler) session
      ⟨.register dialect compiler, session, played.2⟩ :: (next played.1).moments played.2
  | create connection options next, session =>
      let played := play (newQuery connection options) session
      ⟨.create connection options, session, played.2⟩ :: (next played.1).moments played.2
  | createDefault table aliasName next, session =>
      let played := play (newDefault table aliasName) session
      session.defaultMoments table aliasName ++ (next played.1).moments played.2
  | clone id next, session =>
      let played := play (Session.clone id) session
      ⟨.work id, session, played.2⟩ :: (next played.1).moments played.2
  | call id made _ next, session =>
      let played := play (made.run id) session
      ⟨.work id, session, played.2⟩ :: (next played.1).moments played.2
  | operate id operation _ next, session =>
      let played := play (operation.run id) session
      ⟨.work id, session, played.2⟩ :: (next played.1).moments played.2
  | within id taking mark fill next, session =>
      let call := taking.call (.callback mark fun nested => discard (fill nested).run)
      let played := play (discard (call.run id)) session
      taking.moments id (fun nested => discard (fill nested).run)
          (fun nested entered => (fill nested).moments entered) session played.2 ++
        (next played.1).moments played.2
  | walk fuel id size index visit next, session =>
      let visited : Visit κ σ := fun records count number => (visit records count number).run
      let played := play (chunk fuel id size index visited) session
      session.walkMoments fuel id size index visited
          (fun records count number turned => (visit records count number).moments turned) ++
        (next played.1).moments played.2

/-- What an action does in a session is told in moments. -/
def Session.Recounted {α : Type} (action : Action κ σ α)
    (moments : Session κ σ → List (Moment κ σ)) : Prop :=
  ∀ session : Session κ σ, session.Runs (moments session) (play action session).2

namespace Session.Runs

variable {session : Session κ σ}

theorem work {id : Nat} {later : Session κ σ} (h : session.Works id later) :
    session.Runs [⟨.work id, session, later⟩] later :=
  have hholds : Moment.Holds ⟨.work id, session, later⟩ := h
  .single hholds

theorem defaultMoments (session : Session κ σ) (table aliasName : Value) :
    session.Runs (session.defaultMoments table aliasName)
      (play (newDefault table aliasName) session).2 := by
  rw [newDefault, play_bind_ok (play_get session), Session.defaultMoments]
  cases session.defaults with
  | none => exact .nil session
  | some given =>
      obtain ⟨connection, options⟩ := given
      dsimp only
      rw [play_bind]
      cases hmade : play (newQuery (some connection) options) session with
      | mk answer made =>
          have hholds : Moment.Holds ⟨.create (some connection) options, session, made⟩ := by
            rw [Moment.Holds, hmade]
          cases answer with
          | error cause => exact .single hholds
          | ok id =>
              dsimp only
              split
              · have htable : made.Prepares id (play (Session.table id table aliasName) made).2 :=
                  .change (fun query => (Query.Akin.setTable query table aliasName).kin) id made
                rw [play_bind_pure]
                exact .cons hholds (.work (.quiet htable))
              · exact .single hholds

theorem taking {taking : Taking κ σ} {id mark : Nat} {fill : Nat → Action κ σ Unit}
    {filled : Nat → Session κ σ → List (Moment κ σ)}
    (hfilled : ∀ place, Recounted (fill place) (filled place))
    (session : Session κ σ) :
    let last := (play (discard ((taking.call (.callback mark fill)).run id)) session).2
    session.Runs (taking.moments id fill filled session last) last := by
  intro last
  have hidle : (∀ value, taking.value = .ok value → session.store.queries[id]? = none) →
      session.Runs [] last := by
    intro hnone
    have hlast : last = session := Taking.play_run_idle hnone
    rw [hlast]
    exact .nil session
  rw [Taking.moments]
  cases hvalue : taking.value with
  | error cause => exact hidle fun value hsome => by cases hvalue.symm.trans hsome
  | ok value =>
      cases hquery : session.store.queries[id]? with
      | none => exact hidle fun _ _ => hquery
      | some current =>
          have hentered : session.Works id (session.withAdded current.nested) :=
            .quiet (.withAdded hquery current.kin_nested)
          have hfinish : (play (fill session.store.queries.size)
              (session.withAdded current.nested)).2.Prepares id last :=
            Taking.prepares_run hvalue hquery
          exact ((work hentered).append (hfilled _ _)).append (work (.quiet hfinish))

theorem walked {walk : Walk} {id : Nat} {visit : Visit κ σ}
    {visited : List Record → Nat → Nat → Session κ σ → List (Moment κ σ)}
    (hvisited : ∀ records count number,
      Recounted (visit records count number) (visited records count number))
    (fuel number : Nat) (cursor : Value) (session : Session κ σ) :
    session.Runs (walk.moments id visit visited fuel number cursor session)
      (play (walkFrom id walk visit fuel number cursor) session).2 := by
  induction fuel generalizing number cursor session with
  | zero => exact .nil session
  | succ fuel ih =>
      have hturn : session.Works id (play (turn id walk number cursor) session).2 :=
        .turn id walk number cursor session
      rw [walkFrom_succ, play_bind, Session.Walk.moments]
      cases hpage : play (turn id walk number cursor) session with
      | mk page turned =>
          rw [hpage] at hturn
          refine (work hturn).append ?_
          match page with
          | .error cause | .ok none => exact .nil turned
          | .ok (some (records, last)) =>
              refine (hvisited records records.length number turned).append ?_
              dsimp only
              rw [play_bind]
              cases play (visit records records.length number) turned with
              | mk answer visited =>
                  match answer with
                  | .error cause | .ok false => exact .nil visited
                  | .ok true => exact ih (number + 1) (last.read walk.key) visited

theorem chunk {visit : Visit κ σ}
    {visited : List Record → Nat → Nat → Session κ σ → List (Moment κ σ)}
    (hvisited : ∀ records count number,
      Recounted (visit records count number) (visited records count number))
    (fuel id : Nat) (size index : Value) (session : Session κ σ) :
    session.Runs (session.walkMoments fuel id size index visit visited)
      (play (Session.chunk fuel id size index visit) session).2 := by
  rw [Session.chunk, walkMoments]
  cases hquery : session.store.queries[id]? with
  | none =>
      rw [play_bind, play_query_none hquery]
      exact .nil session
  | some template =>
      rw [play_bind_ok (play_query hquery)]
      dsimp only
      cases Walk.plan template.options size index with
      | error cause => exact .nil session
      | ok walk => exact walked hvisited fuel 1 (.int 0) session

end Session.Runs

/-- What happens when a scenario is run leads from one session to the next, moment by moment. -/
theorem Scenario.runs (scenario : Scenario κ σ) (session : Session κ σ) :
    session.Runs (scenario.moments session) (play scenario.run session).2 := by
  induction scenario generalizing session with
  | done outcome =>
      rw [run, play_lift]
      exact .nil session
  | aside action apart next ih =>
      rw [run, play_caught_bind, play_bind_ok (play_get _)]
      have hholds : Moment.Holds ⟨.aside, session, (play action session).2⟩ := apart session
      exact .cons hholds (ih _ _)
  | register dialect compiler next ih =>
      rw [run, play_caught_bind]
      have hholds : Moment.Holds ⟨.register dialect compiler, session,
        (play (Session.register dialect compiler) session).2⟩ := rfl
      exact .cons hholds (ih _ _)
  | create connection options next ih =>
      rw [run, play_caught_bind]
      have hholds : Moment.Holds ⟨.create connection options, session,
        (play (newQuery connection options) session).2⟩ := rfl
      exact .cons hholds (ih _ _)
  | createDefault table aliasName next ih =>
      rw [run, play_caught_bind]
      exact (Runs.defaultMoments session table aliasName).append (ih _ _)
  | clone id next ih =>
      rw [run, play_caught_bind]
      exact (Runs.work (.quiet (.clone id session))).append (ih _ _)
  | call id made direct next ih =>
      rw [run, play_caught_bind]
      exact (Runs.work (.call direct id session)).append (ih _ _)
  | operate id operation plain next ih =>
      rw [run, play_caught_bind]
      exact (Runs.work (.quiet (.operation plain id session))).append (ih _ _)
  | within id taking mark fill next ihfill ihnext =>
      rw [run, play_caught_bind]
      refine (Runs.taking (fun nested entered => ?_) session).append (ihnext _ _)
      rw [discard_eq, play_bind_pure]
      exact ihfill nested entered
  | walk fuel id size index visit next ihvisit ihnext =>
      rw [run, play_caught_bind]
      exact (Runs.chunk ihvisit fuel id size index session).append (ihnext _ _)

/-- However compilers are registered while a program runs, a query keeps the one it comes with. At
every moment the registry has the compilers that were registered last, and every query has the
connection and the compiler of its root. So all that is sent was compiled, together with the members
of its unions, by the compiler that the dialect of the connection had last when the root was made.

In any session a query is made with the compiler that its dialect has then. A registration replaces
the compiler of one dialect; with an unknown dialect it fails and changes nothing. Without a
compiler for its dialect no query is made, which is only logged; if the dialect cannot be written
out for that, this is what the making fails with, and so is a number in the dialect that is too long
to be shown. -/
theorem Scenario.compilers_kept (host : σ) (scenario : Scenario κ σ) :
    let moments := scenario.moments (Session.start host)
    let last := (play scenario.run (Session.start host)).2
    (Session.start host).Runs moments last ∧
    (∀ front moment rest, moments = front ++ moment :: rest →
      moment.before.Tallies (Account.of front)) ∧
    last.Tallies (Account.of moments) ∧
    (∀ dispatch ∈ last.journal,
      ∃ earlier creation between moment rest root place sender compiled run,
        moments = earlier ++ creation :: between ++ moment :: rest ∧
        creation.Begins (Account.of earlier) root ∧
        moment.Sends (Account.of (earlier ++ creation :: between)) root place sender compiled run ∧
        ∃ sent ∈ run.sent, dispatch = ⟨root.slot, sent⟩) ∧
    ∀ session : Session κ σ,
      (∀ connection slot known compiler options,
        session.spoken? connection = some (slot, known) →
        session.registry.find? known = some compiler →
        play (newQuery connection options) session =
          (.ok session.store.queries.size, session.withAdded (Query.new slot compiler options))) ∧
      (∀ dialect known compiler, Dialect.ofValue? dialect = some known →
        ∃ registry, play (Session.register dialect compiler) session =
            (.ok (), { session with registry }) ∧
          ∀ other, registry.find? other =
            if known = other then some compiler else session.registry.find? other) ∧
      (∀ dialect compiler, Dialect.ofValue? dialect = none →
        play (Session.register dialect compiler) session =
          (.error (.notAMember dialect .dialect), session)) ∧
      ∀ connection typeName dialect options,
        play (introduce connection) session = (.ok (typeName, dialect), session) →
        (Dialect.ofValue? dialect).bind session.registry.find? = none →
        ∃ logging, play (newQuery connection options) session =
          if dialect.isWritable then
            match dialect.toText session.store.scope with
            | .ok _ => (.error (.unsupportedConnection typeName dialect session.registry.dialects),
                { session with logging })
            | .error cause => (.error cause, session)
          else (.error .badValue, session) := by
  intro moments last
  have hruns := scenario.runs (Session.start host)
  refine ⟨hruns, ?before, hruns.tallies (tallies_start host), fun dispatch => hruns.accounted,
    fun session => ⟨?made, ?known, ?unknown, ?unsupported⟩⟩
  case before =>
    intro front moment rest hmoments
    have hwhole : scenario.moments (Session.start host) = front ++ moment :: rest := hmoments
    rw [hwhole] at hruns
    exact hruns.split.1.tallies (tallies_start host)
  case made =>
    intro connection slot known compiler options hspoken hcompiler
    exact play_newQuery_made hspoken hcompiler options
  case known =>
    intro dialect known compiler hknown
    exact play_register_known hknown session compiler
  case unknown =>
    intro dialect compiler hunknown
    exact play_register_unknown hunknown session compiler
  case unsupported =>
    intro connection typeName dialect options hintroduce hnone
    exact play_newQuery_unsupported hintroduce hnone options

/-! ### A dialect that cannot be written out -/

/-- A session with a delete without a table, and a connection whose dialect is that query. -/
def Session.unwritable : Session RecordingConnection Unit :=
  let session : Session RecordingConnection Unit := Session.start ()
  { session with connections := #[RecordingConnection.start (.query 0) .nothing []] }.withAdded
    ((Query.new 0 .mysql Options.standard).withType .delete)

/-- That a dialect has no compiler is not always what the making of a query fails with. -/
theorem Session.unsupported_is_not_all :
    ¬ ∀ (session : Session RecordingConnection Unit) (slot : Nat) (held : RecordingConnection)
      (options : Options), session.connections[slot]? = some held →
      (Dialect.ofValue? (Connection.dialect held)).bind session.registry.find? = none →
      ∃ typeName registered, (play (newQuery (some slot) options) session).1 =
        .error (.unsupportedConnection typeName (Connection.dialect held) registered) := by
  intro h
  obtain ⟨typeName, registered, hplay⟩ :=
    h unwritable 0 (.start (.query 0) .nothing []) Options.standard rfl rfl
  have hintroduce : play (introduce (some 0)) unwritable =
      (.ok ("RecordingConnection", .query 0), unwritable) := rfl
  have hunwritten : (Value.query 0).toText unwritable.store.scope =
      .error (.missingTable .delete) := rfl
  obtain ⟨logging, hrefused⟩ := play_newQuery_unsupported hintroduce rfl Options.standard
  rw [hunwritten] at hrefused
  rw [hrefused] at hplay
  cases hplay

/-! ### A compiler that is overtaken -/

namespace Scenario

/-- A compiler that writes names in capitals. -/
def shouting : Compiler :=
  { Compiler.mysql with label := "UpperCompiler", quote := Identifier.uppercase }

/-- A query is made, a compiler is registered, another query is made, and the first is given it as a
member of its union and a condition whose callback registers again. Then both are run. -/
def overtaken : Scenario RecordingConnection Unit :=
  let connection := RecordingConnection.start (.text "mysql") .nothing []
  let table (id : Nat) (name : String) (rest : Scenario RecordingConnection Unit) :=
    call id (.table (.text name) (.text "")) (fun _ h => ⟨.null, Option.some.inj h ▸ rfl⟩)
      fun _ => rest
  let taking : Taking RecordingConnection Unit :=
    ⟨fun operand => .filter operand (.int 1) (.text ">") (.text "AND"), _, _, _, _,
      fun _ => rfl⟩
  aside (discard (connect connection)) (.connect connection) fun _ =>
    create (some 0) Options.standard fun _ => table 0 "t" <|
    register (.text "mysql") shouting fun _ =>
    register (.text "oracle") .sqlite fun _ =>
    create (some 0) Options.standard fun _ => table 1 "u" <|
    call 0 (.union (.query 1)) (fun _ h => ⟨.null, Option.some.inj h ▸ rfl⟩) fun _ =>
    within 0 taking 0 (fun _ => register (.text "mysql") .sqlite fun _ => done (.ok true)) fun _ =>
    clone 0 fun _ =>
    call 3 .rows (fun _ => nofun) fun _ =>
    call 1 .rows (fun _ => nofun) fun _ => done (.ok true)

def text? : Dispatch → Option String
  | ⟨_, .statement sql _⟩ => some sql
  | _ => none

def overtakenLast : Session RecordingConnection Unit :=
  (play overtaken.run (Session.start ())).2

/-- The nested query and the clone have the compiler of the first query, and the member of its union
is written by that as well, while the registry has come to another one. -/
theorem compilers_kept_overtaken :
    (overtakenLast.store.queries.toList.map Query.compiler).map Compiler.label =
      ["MySQLCompiler", "UpperCompiler", "MySQLCompiler", "MySQLCompiler"] ∧
    (overtakenLast.registry.find? .mysql).map Compiler.label = some "SQLiteCompiler" ∧
    overtakenLast.journal.toList.filterMap text? =
      ["SELECT * FROM \x60t\x60 UNION SELECT * FROM \x60u\x60", "SELECT * FROM \x60U\x60"] := by
  have htallies : overtakenLast.Tallies (Account.of (overtaken.moments (Session.start ()))) :=
    (compilers_kept () overtaken).2.2.1
  refine ⟨?_, ?_, by decide +kernel⟩
  · rw [htallies.compilers]
    decide +kernel
  · rw [htallies.registry]
    decide +kernel

end Scenario

end SqlBuilder
