import SqlBuilder.Session.Builder

/-!
# Playing an action

An action is played in a session: it answers or fails, and leaves the session it has come to. What
follows on a step is played in the session that the step leaves, and nothing follows on a failure.
-/

namespace SqlBuilder.Session

variable {κ σ α β : Type}

def play (action : Action κ σ α) (session : Session κ σ) : Except Error α × Session κ σ :=
  action.run.run session

@[simp] theorem play_throw (cause : Error) (session : Session κ σ) :
    play (throw cause : Action κ σ α) session = (.error cause, session) := rfl

@[simp] theorem play_get (session : Session κ σ) :
    play get session = (.ok session, session) := rfl

@[simp] theorem play_modify (step : Session κ σ → Session κ σ) (session : Session κ σ) :
    play (modify step : Action κ σ PUnit) session = (.ok ⟨⟩, step session) := rfl

@[simp] theorem play_lift (stage : Except Error α) (session : Session κ σ) :
    play (liftM stage : Action κ σ α) session = (stage, session) := by
  cases stage <;> rfl

theorem play_bind (first : Action κ σ α) (next : α → Action κ σ β) (session : Session κ σ) :
    play (first >>= next) session =
      match play first session with
      | (.ok answer, later) => play (next answer) later
      | (.error cause, later) => (.error cause, later) := by
  simp only [play, ExceptT.run_bind, StateT.run_bind]
  rcases first.run.run session with ⟨_ | _, _⟩ <;> rfl

theorem play_bind_ok {first : Action κ σ α} {next : α → Action κ σ β} {answer : α}
    {session later : Session κ σ} (h : play first session = (.ok answer, later)) :
    play (first >>= next) session = play (next answer) later := by
  rw [play_bind, h]

theorem discard_eq (action : Action κ σ α) : discard action = action >>= fun _ => pure () :=
  rfl

/-- What is answered in the end makes no difference to the session. -/
theorem play_bind_pure (action : Action κ σ α) (answer : β) (session : Session κ σ) :
    (play (action >>= fun _ => pure answer) session).2 = (play action session).2 := by
  rw [play_bind]
  cases h : play action session with
  | mk outcome later => cases outcome <;> rfl

variable {id : Nat} {current : Query} {session : Session κ σ}

theorem play_query (h : session.store.queries[id]? = some current) :
    play (query id) session = (.ok current, session) := by
  rw [query, play_bind_ok (play_get session), h]
  rfl

theorem play_query_none (h : session.store.queries[id]? = none) :
    play (query id) session = (.error .noAttribute, session) := by
  rw [query, play_bind_ok (play_get session), h]
  rfl

theorem play_connection {slot : Nat} {connection : κ}
    (h : session.connections[slot]? = some connection) :
    play (Session.connection slot) session = (.ok connection, session) := by
  rw [Session.connection, play_bind_ok (play_get session), h]
  rfl

def withQuery (session : Session κ σ) (id : Nat) (current : Query) : Session κ σ :=
  { session with store := session.store.set id current }

theorem play_change (h : session.store.queries[id]? = some current) (step : Query → Query) :
    play (change id step) session = (.ok ⟨⟩, session.withQuery id (step current)) := by
  rw [change, play_bind_ok (play_query h)]
  rfl

theorem play_attempt (h : session.store.queries[id]? = some current)
    {step : Query → Except Error Query} {changed : Query} (hstep : step current = .ok changed) :
    play (attempt id step) session = (.ok ⟨⟩, session.withQuery id changed) := by
  rw [attempt, play_bind_ok (play_query h), hstep]
  rfl

theorem queries_withQuery (h : session.store.queries[id]? = some current) (changed : Query) :
    (session.withQuery id changed).store.queries[id]? = some changed := by
  obtain ⟨hid, _⟩ := Array.getElem?_eq_some_iff.1 h
  simp [withQuery, Store.set, hid]

def withAdded (session : Session κ σ) (added : Query) : Session κ σ :=
  { session with store := (session.store.add added).2 }

theorem play_addQuery (added : Query) (session : Session κ σ) :
    play (addQuery added) session =
      (.ok session.store.queries.size, session.withAdded added) := rfl

theorem queries_withAdded (session : Session κ σ) (added : Query) :
    (session.withAdded added).store.queries[session.store.queries.size]? = some added := by
  simp [withAdded, Store.add]

theorem play_build (h : session.store.queries[id]? = some current) :
    play (build id) session = (session.store.build current, session) := by
  rw [build, play_bind_ok (play_query h), play_bind_ok (play_get session), play_lift]

/-- A callback is handed a nested query, and what it adds to a clause of that becomes the group. -/
theorem play_settle (h : session.store.queries[id]? = some current) (clause : Clause)
    (reference : Value → Value) (mark : Nat) (fill : Nat → Action κ σ Unit) {later : Session κ σ}
    {filled : Query}
    (hfill : play (fill session.store.queries.size) (session.withAdded current.nested) =
      (.ok (), later))
    (hfilled : later.store.queries[session.store.queries.size]? = some filled) :
    play (settle id clause reference (.callback mark fill)) session =
      (.ok (.group ((filled.blueprint.fragments clause).map Fragment.toValue)), later) := by
  rw [settle, capture, play_bind_ok (play_query h), play_bind_ok (play_addQuery _ session),
    play_bind_ok hfill, play_bind_ok (play_query hfilled)]
  rfl

end SqlBuilder.Session
