import SqlBuilder.Proofs.Frame

/-!
# How a page is sent

A walk makes a query for each page, which has the greatest number then. The query is built as a
select and sent, and what is answered is visited. What stays of it in the store is that query.
-/

namespace SqlBuilder.Session

variable {κ σ : Type}

def opening (session : Session κ σ) (page : Query) : Session κ σ :=
  (session.withAdded page).withQuery session.store.queries.size (page.withType .select)

theorem keeps_opening (session : Session κ σ) (page : Query) :
    session.store.Keeps ∅ (session.opening page).store := by
  have hplace : session.store.queries.size ∈ (∅ ∪ {session.store.queries.size} : Set Nat) :=
    Set.mem_union_right ∅ rfl
  exact Store.Keeps.trans_fresh (le_refl _) (.add session.store page) (.set hplace _ _)

variable [Connection κ]

/-- Sends a compiled select of a query on its connection. -/
def send (query : Query) (slot : Nat) (compiled : Compiled) : Action κ σ (List Record) := do
  logEvent .debug "query.execute"
    [("statement", .text "select"), ("dialect", .text compiled.dialect.name),
      ("sql", .text compiled.sql), ("parameters", .int compiled.parameters.length)]
  let outcome ← runOn query.connection compiled.sql (.list compiled.parameters)
    (some ⟨false, query.model, some slot⟩)
  match ← fetchedRows outcome with
  | .many records => return records
  | .one record => return record.toList

/-- What a walk does with the records of a page: it ends without records, and otherwise visits them
and, if it is to go on, walks on from the last of them. -/
def Walk.visitPage (walk : Walk) (id : Nat) (visit : Visit κ σ) (fuel number : Nat)
    (records : List Record) : Action κ σ Unit :=
  match records.getLast? with
  | none => return ()
  | some last => do
      logEvent .debug "query.chunk"
        [("chunk", .int number), ("rows", .int records.length), ("index", walk.index)]
      if ← visit records records.length number then
        walkFrom id walk visit fuel (number + 1) (last.read walk.key)

/-- What a walk does with what a page is built to: it sends a statement and visits the records. -/
def Walk.turnPage (walk : Walk) (id : Nat) (visit : Visit κ σ) (fuel number : Nat) (page : Query)
    (slot : Nat) (statement : Except Error Compiled) : Action κ σ Unit := do
  let compiled ← liftM statement
  let records ← send page slot compiled
  walk.visitPage id visit fuel number records

variable {session : Session κ σ} {id : Nat} {current : Query}

/-- Asking for all rows builds the query as a select and sends it. -/
theorem play_rows_eq (h : session.store.queries[id]? = some current) :
    play (rows id) session =
      let sending := session.withQuery id (current.withType .select)
      play (liftM (sending.store.build (current.withType .select)) >>= send current id)
        sending := by
  have hselect := queries_withQuery h (current.withType .select)
  have hchange := play_change h fun query => query.withType .select
  simp only [rows, select, execute, build, bind_assoc]
  rw [play_bind_ok hchange, play_bind_ok (play_query hselect), play_bind_ok (play_query hselect),
    play_bind_ok (play_query hselect), play_bind_ok (play_get _)]
  rfl

theorem play_walkFrom_rows {walk : Walk} {cursor : Value} {page : Query}
    (h : session.store.queries[id]? = some current)
    (hpage : current.pageAfter walk.index cursor walk.size = .ok page) (visit : Visit κ σ)
    (fuel number : Nat) :
    play (walkFrom id walk visit (fuel + 1) number cursor) session =
      play (rows session.store.queries.size >>= walk.visitPage id visit fuel number)
        (session.withAdded page) := by
  have hlift : play (liftM (current.pageAfter walk.index cursor walk.size) : Action κ σ Query)
      session = (.ok page, session) := by rw [play_lift, hpage]
  rw [walkFrom, play_bind_ok (play_query h), play_bind_ok hlift,
    play_bind_ok (play_addQuery page session)]
  rfl

theorem play_walkFrom_page {walk : Walk} {cursor : Value} {page : Query}
    (h : session.store.queries[id]? = some current)
    (hpage : current.pageAfter walk.index cursor walk.size = .ok page) (visit : Visit κ σ)
    (fuel number : Nat) :
    play (walkFrom id walk visit (fuel + 1) number cursor) session =
      play (walk.turnPage id visit fuel number page session.store.queries.size
        ((session.opening page).store.build (page.withType .select))) (session.opening page) := by
  rw [play_walkFrom_rows h hpage, play_bind, play_rows_eq (queries_withAdded session page)]
  dsimp only
  rw [← play_bind, bind_assoc]
  rfl

end SqlBuilder.Session
