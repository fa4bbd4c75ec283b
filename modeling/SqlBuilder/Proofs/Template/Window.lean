import SqlBuilder.Proofs.Template
import SqlBuilder.Proofs.Window

/-!
# The window of a template

An aggregate is asked of a copy of its template that has other columns, and everything else of the
template, its window included. So the statement that is sent is the one for the template without a
window, and behind it the window that the template has. A select of an aggregate alone has a single
row. A window that begins behind the first row, or that has no rows, cuts it out, and then the
answer is zero whatever there is to be counted.
-/

namespace SqlBuilder

open Outcome Session

/-! ### The statements of an aggregate -/

namespace Query

variable (query : Query)

def unbounded : Query :=
  query.reset .limit

/-- The column of an aggregate stands behind SELECT, whatever the column is. -/
theorem exists_columns_measure {scope : Scope} {function name : String} {column : Value}
    {tokens : Tokens}
    (h : Tokens.headed "SELECT" <$> (measure function column).aliased scope (.text name) =
      .ok tokens) :
    ∃ body, tokens = .literal "SELECT " :: body := by
  obtain ⟨written, hwritten, rfl⟩ := map_eq_ok.1 h
  rw [Value.aliased] at hwritten
  obtain ⟨call, hcall, hwritten⟩ := bind_eq_ok.1 hwritten
  have hargument : (measure function column).isArgument = true := rfl
  rw [Value.identifier, if_pos hargument, measure, Value.method, Value.tokens] at hcall
  obtain ⟨parameters, -, hcall⟩ := bind_eq_ok.1 hcall
  obtain ⟨word, -, hcall⟩ := bind_eq_ok.1 hcall
  obtain rfl := pure_eq_ok.1 hcall
  have hshown : Tokens.vanishes written = false := by
    split at hwritten
    · obtain ⟨aliased, -, hwritten⟩ := bind_eq_ok.1 hwritten
      obtain rfl := pure_eq_ok.1 hwritten
      simp [Tokens.vanishes, Token.vanishes]
    · obtain rfl := pure_eq_ok.1 hwritten
      simp [Tokens.vanishes, Token.vanishes]
  refine ⟨written, ?_⟩
  rw [Tokens.headed, hshown]
  rfl

end Query

namespace Store

variable (store : Store) (query : Query)

theorem clauses_unbounded :
    store.clauses query.unbounded = { store.clauses query with limit := .ok [] } := by
  have hfragments : ∀ clause, clause ≠ .limit →
      query.unbounded.blueprint.fragments clause = query.blueprint.fragments clause := by
    intro clause hclause
    rw [Query.unbounded, Query.blueprint_reset, Blueprint.fragments_reset, if_neg]
    exact fun hsame => hclause (eq_of_beq hsame).symm
  have hlimit : query.unbounded.blueprint.first? .limit = none := by
    rw [Blueprint.first?, Query.unbounded, Query.blueprint_reset, Blueprint.fragments_reset,
      if_pos (beq_self_eq_true Clause.limit), List.head?_nil]
  have hcompiler : query.unbounded.compiler = query.compiler := rfl
  rw [store.clauses_congr hcompiler fun clause _ hne _ _ => hfragments clause hne,
    Statement.columns_congr _ (hfragments .columns (by decide)), Statement.limits, hlimit]
  rfl

variable {query}

theorem unions_of_nil (h : query.blueprint.fragments .union = []) :
    (store.clauses query).unions = .ok [] := by
  have hmembers : (store.snapshot query.blueprint).members = [] :=
    Snapshot.membersOf_eq_nil store.resolve store.depth h
  rw [clauses, hmembers]
  rfl

theorem limit_eq_ok {piece : Tokens} (h : (store.clauses query).limit = .ok piece) :
    match query.blueprint.first? .limit with
    | none => piece = []
    | some fragment => ∃ text, Statement.window fragment = .ok text ∧
        piece = Tokens.windowPiece text := by
  change Statement.limits "LIMIT" query.blueprint = .ok piece at h
  rw [Statement.limits] at h
  cases hfirst : query.blueprint.first? .limit with
  | none =>
      rw [hfirst] at h
      exact (pure_eq_ok.1 h).symm
  | some fragment =>
      rw [hfirst] at h
      obtain ⟨text, htext, h⟩ := bind_eq_ok.1 h
      refine ⟨text, htext, ?_⟩
      rw [← pure_eq_ok.1 h, Tokens.headed_window (Statement.ends_windowText htext).2]

/-- An aggregate over a query without unions is built to the one over the query without its window,
with the window behind it. -/
theorem build_measuring_unbounded (hunions : query.blueprint.fragments .union = [])
    {function name : String} {column : Value} {sent : Compiled}
    (h : store.build (query.measuring function name column) = .ok sent) :
    ∃ bare, store.build (query.unbounded.measuring function name column) = .ok bare ∧
      sent.parameters = bare.parameters ∧
      match query.blueprint.first? .limit with
      | none => sent.sql = bare.sql
      | some fragment => ∃ text, Statement.window fragment = .ok text ∧
          Text.Closes text bare.sql sent.sql := by
  rw [build_measuring] at h
  obtain ⟨tokens, htokens, rfl⟩ := map_eq_ok.1 h
  have hlist := bind_eq_ok.1 htokens
  obtain ⟨pieces, hpieces, -⟩ := hlist
  rw [Clauses.list, List.mapM_cons] at hpieces
  obtain ⟨columns, hcolumns, -⟩ := bind_eq_ok.1 hpieces
  obtain ⟨body, rfl⟩ := Query.exists_columns_measure hcolumns
  obtain ⟨bare, piece, hbare, hlimit, hnone, hsome⟩ := Clauses.exists_whole_unbounded hcolumns
    (store.unions_of_nil hunions) htokens
  refine ⟨query.compiler.finish bare, ?_, ?_⟩
  · rw [build_measuring, clauses_unbounded]
    exact map_eq_ok.2 ⟨bare, hbare, rfl⟩
  have hpiece := store.limit_eq_ok hlimit
  cases hfirst : query.blueprint.first? .limit with
  | none =>
      rw [hfirst] at hpiece
      obtain rfl := hnone hpiece
      exact ⟨rfl, rfl⟩
  | some fragment =>
      rw [hfirst] at hpiece
      obtain ⟨text, htext, hpiece⟩ := hpiece
      obtain ⟨hparameters, hcloses⟩ := hsome text (Statement.ends_windowText htext) hpiece
      exact ⟨hparameters, text, htext, hcloses _⟩

end Store

/-! ### Behind the first row -/

/-- A page is a window, which skips all rows of the pages before it. -/
theorem Query.describes_page {template paged : Query} {page size : Nat}
    (h : template.setPage (.int ↑(page + 1)) (.int ↑size) = .ok paged) :
    ∃ fragment, paged.blueprint.first? .limit = some fragment ∧
      Window.Describes ⟨some (size * page), size⟩ fragment := by
  have hpage : ((page + 1 : Nat) : Int) < 1 → False := by omega
  have hleast : (Value.int ↑(page + 1)).atLeastOne = .ok (.whole ↑(page + 1)) := by
    rw [Value.atLeastOne, Value.number?]
    exact congrArg Except.ok (if_neg fun hbelow => hpage (of_decide_eq_true hbelow))
  simp only [setPage, hleast] at h
  obtain rfl := Except.ok.inj h
  have hoffset : (size : Int) * (((page + 1 : Nat) : Int) - 1) = ((size * page : Nat) : Int) := by
    rw [Int.natCast_succ, Int.add_sub_cancel, Int.natCast_mul]
  refine ⟨Fragment.of [("limit", .int size),
    ("offset", .int (size * (((page + 1 : Nat) : Int) - 1)))], ?_, ?_, rfl⟩
  · simp [Blueprint.first?, setLimit]
    rfl
  · rw [hoffset]
    rfl

section Connections

variable {κ σ : Type} [Connection κ]

/-- A connection fetches rows for a statement, whatever is made of them. -/
def Fetches (connection : κ) (sql : String) (parameters rows : List Value) : Prop :=
  ∀ mapper : Mapper, (Connection.run connection sql (.list parameters) (some mapper)).outcome =
    Outcome.fetched <$> mapper.map rows

variable {session : Session κ σ} {id : Nat} {query : Query} {call : Call κ σ}
  {function name : String} {column : Value}

omit [Connection κ] in
theorem Call.conclude_zero (hcall : call.aggregate? = some (function, name, column)) :
    call.conclude (.int 0) = .ok (.value (.int 0)) := by
  cases call with
  | count column => rfl
  | sum column | minimum column | maximum column | average column => rfl
  | _ => cases hcall

theorem Session.play_aggregate_fetches (hcall : call.aggregate? = some (function, name, column))
    (hquery : session.store.queries[id]? = some query) {connection : κ}
    (hconnection : session.connections[query.connection]? = some connection) {sent : Compiled}
    (hbuild : (session.opening (query.aggregate function name column)).store.build
      (query.measuring function name column) = .ok sent) {rows : List Value}
    (hrows : Fetches connection sent.sql sent.parameters rows) :
    (play (call.run id) session).1 =
      (Mapper.map ⟨true, none, some session.store.queries.size⟩ rows >>= fun fetched =>
        call.conclude (Record.measured name fetched.leading)) := by
  have hcopy : (session.opening (query.aggregate function name column)).store.queries[
      session.store.queries.size]? = some (query.measuring function name column) :=
    queries_withQuery (queries_withAdded session _) _
  obtain ⟨later, hexecute, -⟩ := play_execute hcopy hbuild hconnection
    (some ⟨true, none, some session.store.queries.size⟩)
  rw [play_aggregate hcall hquery, hexecute, hrows]
  cases Mapper.map ⟨true, none, some session.store.queries.size⟩ rows with
  | error cause => rfl
  | ok fetched => rfl

/-- An aggregate over a template without unions sends the statement for the template without its
window, with the window behind it. If that statement has a single row, as it has if nothing is
grouped, then the row is all that a window that shows it leaves of it, and the answer is its value.
A window that hides it, such as that of every page but the first, leaves nothing, and the answer is
zero, whatever the value is. -/
theorem Session.aggregate_windowed (hquery : session.store.queries[id]? = some query)
    {connection : κ} (hconnection : session.connections[query.connection]? = some connection)
    (hunions : query.blueprint.fragments .union = [])
    (hcall : call.aggregate? = some (function, name, column)) :
    let store := (session.opening (query.aggregate function name column)).store
    session.Sends (call.run id) query.connection ⟨true, none, some session.store.queries.size⟩
      (store.build (query.measuring function name column)) ∧
    (∀ sent, store.build (query.measuring function name column) = .ok sent →
      ∃ bare, store.build (query.unbounded.measuring function name column) = .ok bare ∧
        sent.parameters = bare.parameters ∧
        match query.blueprint.first? .limit with
        | none => sent.sql = bare.sql ∧
            ∀ value, Fetches connection bare.sql bare.parameters [.map [(.text name, value)]] →
              (play (call.run id) session).1 =
                call.conclude (Record.measured name (some (.row [(.text name, value)])))
        | some fragment => ∃ text, Statement.window fragment = .ok text ∧
            Text.Closes text bare.sql sent.sql ∧
            ∀ window : Window, window.Describes fragment → text = window.text ∧
              ∀ value, Fetches connection sent.sql bare.parameters
                  (window.cut [.map [(.text name, value)]]) →
                (¬window.Hides → (play (call.run id) session).1 =
                  call.conclude (Record.measured name (some (.row [(.text name, value)])))) ∧
                (window.Hides → (play (call.run id) session).1 = .ok (.value (.int 0)))) ∧
    ∀ (template : Query) (page size : Nat),
      template.setPage (.int ↑(page + 1)) (.int ↑size) = .ok query →
      ∃ fragment, query.blueprint.first? .limit = some fragment ∧
        Window.Describes ⟨some (size * page), size⟩ fragment := by
  refine ⟨sends_aggregate hcall hquery hconnection, ?built, fun _ _ _ => Query.describes_page⟩
  intro sent hsent
  obtain ⟨bare, hbare, hparameters, hsql⟩ := Store.build_measuring_unbounded _ hunions hsent
  have hshown : ∀ value, Fetches connection sent.sql bare.parameters [.map [(.text name, value)]] →
      (play (call.run id) session).1 =
        call.conclude (Record.measured name (some (.row [(.text name, value)]))) := by
    intro value hrows
    rw [← hparameters] at hrows
    rw [play_aggregate_fetches hcall hquery hconnection hsent hrows]
    rfl
  have hhidden : Fetches connection sent.sql bare.parameters [] →
      (play (call.run id) session).1 = .ok (.value (.int 0)) := by
    intro hrows
    rw [← hparameters] at hrows
    rw [play_aggregate_fetches hcall hquery hconnection hsent hrows]
    exact Call.conclude_zero hcall
  refine ⟨bare, hbare, hparameters, ?_⟩
  cases hfirst : query.blueprint.first? .limit with
  | none =>
      rw [hfirst] at hsql
      rw [hsql] at hshown
      exact ⟨hsql, hshown⟩
  | some fragment =>
      rw [hfirst] at hsql
      obtain ⟨text, htext, hcloses⟩ := hsql
      refine ⟨text, htext, hcloses, fun window hwindow => ⟨hwindow.text_eq htext, ?_⟩⟩
      intro value hrows
      constructor
      · intro hshows
        rw [Window.cut_of_shows hshows] at hrows
        exact hshown value hrows
      · intro hhides
        rw [Window.cut_of_hides hhides] at hrows
        exact hhidden hrows

end Connections

/-! ### A count over the second page -/

/-- A connection that knows a number, which is the one row of a statement. Other statements have no
rows. -/
structure Tally where
  statement : String
  number : Int

namespace Tally

def rows (tally : Tally) (sql : String) : List Value :=
  if sql = tally.statement then [.map [(.text "count", .int tally.number)]] else []

def run (tally : Tally) (sql : String) (parameters : Value) : Option Mapper → Run Tally
  | none => ⟨.ok (.count .null), [.statement sql parameters], [], tally⟩
  | some mapper =>
      ⟨Outcome.fetched <$> mapper.map (tally.rows sql), [.statement sql parameters], [], tally⟩

instance : Connection Tally where
  typeName _ := "Tally"
  dialect _ := .text "mysql"
  run := Tally.run
  lastInsertId _ := .ok .null

def all : Tally :=
  ⟨"SELECT COUNT(*) AS \x60count\x60 FROM \x60t\x60", 25⟩

end Tally

def Query.everything : Query :=
  (Query.new 0 .mysql Options.standard).setTable (.text "t") (.text "")

def Query.secondPage : Query :=
  Query.everything.setLimit (.int 10) (.int 10)

def Session.tallied (query : Query) : Session Tally Unit :=
  ({ (Session.start () : Session Tally Unit) with connections := #[Tally.all] }).withAdded query

def Session.sentForCount (query : Query) : Except Error Compiled :=
  ((tallied query).opening (query.aggregate "COUNT" "count" .null)).store.build
    (query.measuring "COUNT" "count" .null)

theorem Session.play_count_tallied {query : Query} (hslot : query.connection = 0) {sql : String}
    (hsql : (sentForCount query).toOption.map Compiled.sql = some sql) :
    (play ((Call.count .null).run 0) (tallied query)).1 =
      .ok (.value (.int (if sql = Tally.all.statement then Tally.all.number else 0))) := by
  have hquery : (tallied query).store.queries[0]? = some query := rfl
  have hconnection : (tallied query).connections[query.connection]? = some Tally.all := by
    rw [hslot]
    rfl
  cases hbuild : sentForCount query with
  | error cause =>
      rw [hbuild] at hsql
      cases hsql
  | ok sent =>
      rw [hbuild] at hsql
      obtain rfl : sent.sql = sql := Option.some.inj hsql
      have hrows : Fetches Tally.all sent.sql sent.parameters (Tally.all.rows sent.sql) :=
        fun mapper => rfl
      rw [play_aggregate_fetches rfl hquery hconnection hbuild hrows, Tally.rows]
      split
      · rfl
      · rfl

/-- There is no row on the second page of the statement for a count, so the answer is zero. -/
theorem Session.aggregate_windowed_second_page :
    Query.everything.setPage (.int ↑(1 + 1)) (.int ↑10) = .ok Query.secondPage ∧
    (play ((Call.count .null).run 0) (Session.tallied Query.secondPage)).1 =
      .ok (.value (.int 0)) := by
  have hquery : (tallied Query.secondPage).store.queries[0]? = some Query.secondPage := rfl
  have hconnection : (tallied Query.secondPage).connections[Query.secondPage.connection]? =
      some Tally.all := rfl
  have hpage : Query.everything.setPage (.int ↑(1 + 1)) (.int ↑10) = .ok Query.secondPage := rfl
  refine ⟨hpage, ?_⟩
  obtain ⟨-, hanswer, hpages⟩ := @aggregate_windowed _ _ _ _ _ _ (.count .null) _ _ _ hquery _
    hconnection rfl rfl
  obtain ⟨fragment, hfirst, hdescribes⟩ := hpages Query.everything 1 10 hpage
  have hother : ((sentForCount Query.secondPage).toOption.map Compiled.sql).all
      (· ≠ Tally.all.statement) = true := by decide +kernel
  have hbuilt : (sentForCount Query.secondPage).toOption.isSome = true := by decide +kernel
  cases hbuild : sentForCount Query.secondPage with
  | error cause =>
      rw [hbuild] at hbuilt
      cases hbuilt
  | ok sent =>
      rw [hbuild] at hother
      obtain ⟨bare, -, -, hsent⟩ := hanswer sent hbuild
      rw [hfirst] at hsent
      obtain ⟨text, -, -, hwindow⟩ := hsent
      obtain ⟨-, hshown⟩ := hwindow _ hdescribes
      have hhides : Window.Hides ⟨some (10 * 1), 10⟩ := .inl (by decide)
      have hrows : Tally.all.rows sent.sql = [] := if_neg (of_decide_eq_true hother)
      refine (hshown (.int 25) fun mapper => ?_).2 hhides
      change Outcome.fetched <$> mapper.map (Tally.all.rows sent.sql) = _
      rw [hrows, Window.cut_of_hides hhides]

/-- The count is 25. For the second page of the same query it is zero, as the statement skips the
one row there is. -/
theorem Session.second_page_hides_count :
    (play ((Call.count .null).run 0) (Session.tallied Query.everything)).1 =
      .ok (.value (.int 25)) ∧
    (Session.sentForCount Query.secondPage).toOption.map Compiled.sql =
      some "SELECT COUNT(*) AS \x60count\x60 FROM \x60t\x60 LIMIT 10, 10" ∧
    (play ((Call.count .null).run 0) (Session.tallied Query.secondPage)).1 =
      .ok (.value (.int 0)) := by
  have hall : (sentForCount Query.everything).toOption.map Compiled.sql =
      some Tally.all.statement := by decide +kernel
  have hpage : (sentForCount Query.secondPage).toOption.map Compiled.sql =
      some "SELECT COUNT(*) AS \x60count\x60 FROM \x60t\x60 LIMIT 10, 10" := by decide +kernel
  refine ⟨?_, hpage, ?_⟩
  · rw [play_count_tallied rfl hall, if_pos rfl]
    rfl
  · rw [play_count_tallied rfl hpage, if_neg (by decide)]

end SqlBuilder
