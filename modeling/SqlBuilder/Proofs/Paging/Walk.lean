import SqlBuilder.Proofs.Command
import SqlBuilder.Proofs.Isolation
import SqlBuilder.Proofs.Paging.Page
import SqlBuilder.Proofs.Paging.Sending
import SqlBuilder.Session.Reads

/-!
# Walking over the rows of a query

A walk in chunks sends the statement of one page after the other, beginning behind zero, and visits
what comes back. It changes nothing of a session but the connection, apart from queries of its own
and what it logs. Whatever else is written in the meantime, the pages of a template build the same
as long as nothing that it depends on changes.
-/

namespace SqlBuilder

open Outcome Session

variable {κ σ : Type}

namespace Session

/-- What a walk itself changes apart from the connection: it makes queries of its own and logs. -/
structure Grows (before after : Session κ σ) : Prop where
  store : before.store.Keeps ∅ after.store
  connections : after.connections = before.connections
  registry : after.registry = before.registry
  defaults : after.defaults = before.defaults
  host : after.host = before.host

namespace Grows

variable {before between after : Session κ σ}

theorem trans (hfirst : Grows before between) (hsecond : Grows between after) :
    Grows before after where
  store := hfirst.store.trans hsecond.store
  connections := hsecond.connections.trans hfirst.connections
  registry := hsecond.registry.trans hfirst.registry
  defaults := hsecond.defaults.trans hfirst.defaults
  host := hsecond.host.trans hfirst.host

end Grows

def withConnection (session : Session κ σ) (slot : Nat) (connection : κ) : Session κ σ :=
  { session with connections := session.connections.setIfInBounds slot connection }

theorem Grows.withConnection {before after : Session κ σ} (h : Grows before after) (slot : Nat)
    (connection : κ) :
    Grows (before.withConnection slot connection) (after.withConnection slot connection) where
  store := h.store
  connections := by rw [Session.withConnection, Session.withConnection, h.connections]
  registry := h.registry
  defaults := h.defaults
  host := h.host

variable {id slot : Nat} {current : Query} {session : Session κ σ} {compiled : Compiled}
  {connection : κ}

theorem play_logEvent (session : Session κ σ) (level : Log.Level) (event : String)
    (fields : List (String × Value)) :
    ∃ later, play (logEvent level event fields) session = (.ok (), later) ∧
      Grows session later :=
  ⟨_, rfl, .refl _ _, rfl, rfl, rfl, rfl⟩

theorem Handed.grows {run : Run κ} {later : Session κ σ} (h : session.Handed slot run later) :
    Grows (session.withConnection slot run.connection) later where
  store := by
    rw [h.store]
    exact .refl _ _
  connections := h.connections
  registry := h.registry
  defaults := h.defaults
  host := h.host

variable [Connection κ]

theorem play_send {records : List Record} (hconnection : session.connections[current.connection]? =
      some connection)
    (houtcome : (Connection.run connection compiled.sql (.list compiled.parameters)
      (some ⟨false, current.model, some id⟩)).outcome = .ok (.fetched (.many records))) :
    ∃ later, play (send current id compiled) session = (.ok records, later) ∧
      Grows (session.withConnection current.connection
        (Connection.run connection compiled.sql (.list compiled.parameters)
          (some ⟨false, current.model, some id⟩)).connection) later := by
  obtain ⟨logged, hlog, hlogged⟩ := play_logEvent session .debug "query.execute"
    [("statement", .text "select"), ("dialect", .text compiled.dialect.name),
      ("sql", .text compiled.sql), ("parameters", .int compiled.parameters.length)]
  rw [← hlogged.connections] at hconnection
  obtain ⟨later, hplay, hhanded⟩ := play_runOn hconnection
  rw [houtcome] at hplay
  refine ⟨later, ?_, (hlogged.withConnection _ _).trans hhanded.grows⟩
  rw [send, play_bind_ok hlog, play_bind_ok hplay]
  rfl

theorem play_send_error {cause : Error}
    (hconnection : session.connections[current.connection]? = some connection)
    (houtcome : (Connection.run connection compiled.sql (.list compiled.parameters)
      (some ⟨false, current.model, some id⟩)).outcome = .error cause) :
    ∃ later, play (send current id compiled) session = (.error cause, later) := by
  obtain ⟨logged, hlog, hlogged⟩ := play_logEvent session .debug "query.execute"
    [("statement", .text "select"), ("dialect", .text compiled.dialect.name),
      ("sql", .text compiled.sql), ("parameters", .int compiled.parameters.length)]
  rw [← hlogged.connections] at hconnection
  obtain ⟨later, hplay, _⟩ := play_runOn hconnection
  rw [houtcome] at hplay
  refine ⟨later, ?_⟩
  rw [send, play_bind_ok hlog, play_bind, hplay]

theorem play_visitPage_none {records : List Record} (h : records.getLast? = none) (walk : Walk)
    (id : Nat) (visit : Visit κ σ) (fuel number : Nat) :
    play (walk.visitPage id visit fuel number records) session = (.ok (), session) := by
  rw [Walk.visitPage, h]
  rfl

theorem play_visitPage_some {records : List Record} {last : Record}
    (h : records.getLast? = some last) (walk : Walk) (id : Nat) (visit : Visit κ σ)
    (fuel number : Nat) :
    ∃ logged, Grows session logged ∧
      play (walk.visitPage id visit fuel number records) session =
        play (do if ← visit records records.length number then
          walkFrom id walk visit fuel (number + 1) (last.read walk.key)) logged := by
  obtain ⟨logged, hlog, hlogged⟩ := play_logEvent session .debug "query.chunk"
    [("chunk", .int number), ("rows", .int records.length), ("index", walk.index)]
  refine ⟨logged, hlogged, ?_⟩
  rw [Walk.visitPage, h]
  dsimp only
  rw [play_bind_ok hlog]

end Session

/-- A query whose pages can be built and that does not depend on queries that may change. -/
structure Session.Template (session : Session κ σ) (id : Nat) (query : Query) (path : String)
    (size : Nat) (changing : Set Nat) : Prop where
  record : session.store.queries[id]? = some query
  kept : id ∉ changing
  builds : ∃ compiled, session.store.build (query.selectBehind path (.int 0) size) = .ok compiled
  anchors : session.store.Anchors (query.withType .select).blueprint
  free : ∀ other ∈ changing,
    ¬ session.store.Depends (query.withType .select).blueprint (.query other)

variable {session later : Session κ σ} {id : Nat} {query : Query} {path : String} {size : Nat}
  {changing : Set Nat}

/-- The pages of a template build the same as long as nothing that it depends on changes. -/
theorem Session.Template.exists_build (h : session.Template id query path size changing)
    (hkeeps : session.store.Keeps changing later.store) {cursor : Value}
    (hcursor : cursor.isSingle = true) :
    ∃ compiled, session.store.build (query.selectBehind path cursor size) = .ok compiled ∧
      later.store.build (query.selectBehind path cursor size) = .ok compiled := by
  obtain ⟨first, hfirst⟩ := h.builds
  have hzero : (Value.int 0).isSingle = true := rfl
  obtain ⟨compiled, hcompiled⟩ := query.exists_build_single path size hzero hcursor hfirst
  have hplaces : ∀ place ∈ (query.selectBehind path cursor size).blueprint.places,
      place ∈ (query.withType .select).blueprint.places :=
    fun _ hplace => query.places_selectBehind path size hcursor hplace
  refine ⟨compiled, hcompiled, ?_⟩
  rw [hkeeps.build_eq, hcompiled]
  · intro place hdepends
    exact h.anchors place (hdepends.mono hplaces)
  · intro other hother hdepends
    exact h.free other hother (hdepends.mono hplaces)

def Walk.over (path : String) (size : Nat) : Walk :=
  ⟨.int size, .text path, Identifier.lastSegment path⟩

theorem Session.play_walkFrom_succ [Connection κ] {template : Query}
    (h : session.store.queries[id]? = some template) (path : String) (size : Nat)
    (visit : Visit κ σ) (fuel number : Nat) (cursor : Value) :
    play (walkFrom id (Walk.over path size) visit (fuel + 1) number cursor) session =
      let sending := session.opening (template.behind path cursor size)
      play (do
        let compiled ← liftM (sending.store.build (template.selectBehind path cursor size))
        let records ← send template session.store.queries.size compiled
        (Walk.over path size).visitPage id visit fuel number records) sending := by
  have hsend : (send (template.behind path cursor size) session.store.queries.size :
      Compiled → Action κ σ (List Record)) = send template session.store.queries.size := by
    funext compiled
    rw [send, send, template.connection_behind, template.model_behind]
  have hpage : template.pageAfter (Walk.over path size).index cursor (Walk.over path size).size =
      .ok (template.behind path cursor size) := template.pageAfter_eq_behind path cursor size
  have hturn := play_walkFrom_page h hpage visit fuel number
  rw [Walk.turnPage, hsend] at hturn
  exact hturn

theorem Walk.plan_eq {options : Options} {given index : Value} (hsize : 1 ≤ size)
    (hgiven : given = .int size ∨ given = .null ∧ options.chunkSize = size)
    (hindex : index = .text path ∧ path ≠ "" ∨ index.truthy = false ∧ options.chunkIndex = path) :
    Walk.plan options given index = .ok (Walk.over path size) := by
  have hbelow : Value.belowOne (.int size) = .ok false := by
    have hle : ¬ (size : Int) < 1 := by omega
    simp [Value.belowOne, Value.number?, Number.below, hle]
  have hname : Value.lastSegment (.text path) = .ok (.text (Identifier.lastSegment path)) := rfl
  have hindex : (if index.truthy then index else .text options.chunkIndex) = .text path := by
    rcases hindex with ⟨rfl, hpath⟩ | ⟨htruthy, hpath⟩
    · have htruthy : (Value.text path).truthy = true := by simpa [Value.truthy] using hpath
      rw [if_pos htruthy]
    · rw [htruthy, if_neg Bool.false_ne_true, hpath]
  rcases hgiven with rfl | ⟨rfl, hchunk⟩
  · simp only [Walk.plan, hbelow, hindex, hname, ok_bind]
    rfl
  · simp only [Walk.plan, hchunk, hbelow, hindex, hname, ok_bind]
    rfl

theorem Session.play_chunk [Connection κ] {given index : Value} (hsize : 1 ≤ size)
    (hgiven : given = .int size ∨ given = .null ∧ query.options.chunkSize = size)
    (hindex : index = .text path ∧ path ≠ "" ∨
      index.truthy = false ∧ query.options.chunkIndex = path)
    (hrecord : session.store.queries[id]? = some query) (visit : Visit κ σ) (fuel : Nat) :
    play (chunk fuel id given index visit) session =
      play (walkFrom id (Walk.over path size) visit fuel 1 (.int 0)) session := by
  have hplan : play (liftM (Walk.plan query.options given index) : Action κ σ Walk) session =
      (.ok (Walk.over path size), session) := by
    rw [play_lift, Walk.plan_eq hsize hgiven hindex]
  rw [chunk, play_bind_ok (play_query hrecord), play_bind_ok hplan]

end SqlBuilder
