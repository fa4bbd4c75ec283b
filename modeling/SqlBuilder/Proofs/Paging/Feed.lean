import SqlBuilder.Proofs.Paging
import SqlBuilder.Proofs.Paging.Walk

/-!
# Walks over a feed

A feed is what a walk finds: before each page the session shows a ledger, the connection answers the
statement of that page with the rows of that ledger, and the visit leads to the next ledger,
whatever it writes. A walk that returns has then run a course of these ledgers, and what has been
handed over are the records of the rows on its pages. A walk does return if the visits do, the
template can be built, every row can be made into a record and there is fuel for one more page than
the course has.
-/

namespace SqlBuilder

open Outcome Session

variable {κ σ : Type}

/-! ### Records of rows -/

/-- Which query a record came from makes no difference to what it shows. -/
theorem Mapper.exists_mapRow {model : Option Model} {owner : Option Nat} {row : Value}
    {record : Record} (h : mapRow ⟨false, model, owner⟩ row = .ok record) (other : Option Nat) :
    ∃ changed, mapRow ⟨false, model, other⟩ row = .ok changed ∧
      ∀ name, changed.read name = record.read name := by
  obtain ⟨entries, hentries, hmodel⟩ := bind_eq_ok.1 h
  rw [mapRow, hentries]
  cases model with
  | none =>
      cases hmodel
      exact ⟨_, rfl, fun _ => rfl⟩
  | some model =>
      cases model <;> cases hmodel
      · exact ⟨_, rfl, fun _ => rfl⟩
      · exact ⟨_, rfl, fun _ => rfl⟩

namespace Ledger

variable (ledger : Ledger) (model : Option Model) (name : String)

/-- Whether a record has been made of the row under a key of the ledger. -/
def Hydrates (key : Int) (record : Record) : Prop :=
  key ∈ ledger.keys ∧
    ∃ owner, Mapper.mapRow ⟨false, model, owner⟩ (ledger.row key) = .ok record

/-- What a record of the row under a key shows under a name. -/
def shown (key : Int) : Value :=
  match Mapper.mapRow ⟨false, model, none⟩ (ledger.row key) with
  | .ok record => record.read name
  | .error _ => .null

/-- Every row can be made into a record, and what that shows under the name is `value`. -/
def Yields (value : Int → Value) : Prop :=
  ∀ key ∈ ledger.keys, ∃ record, ledger.Hydrates model key record ∧ record.read name = value key

variable {ledger model name} {key : Int} {record : Record}

theorem Hydrates.read_eq (h : ledger.Hydrates model key record) :
    record.read name = ledger.shown model name key := by
  obtain ⟨-, owner, howner⟩ := h
  obtain ⟨changed, hchanged, hread⟩ := Mapper.exists_mapRow howner none
  rw [shown, hchanged, ← hread]

theorem Yields.shown_eq {value : Int → Value} (h : ledger.Yields model name value)
    (hkey : key ∈ ledger.keys) : ledger.shown model name key = value key := by
  obtain ⟨record, hhydrates, hread⟩ := h key hkey
  rw [← hhydrates.read_eq, hread]

theorem hydrates_of_mapM {cursor : Value} {size : Nat} {owner : Option Nat} {records : List Record}
    (h : ((ledger.page cursor size).map ledger.row).mapM (Mapper.mapRow ⟨false, model, owner⟩) =
      .ok records) : List.Forall₂ (ledger.Hydrates model) (ledger.page cursor size) records := by
  rw [List.mapM_map, mapM_eq_ok] at h
  refine (List.forall₂_and_left _ _).2 ⟨fun _ => mem_of_mem_page, ?_⟩
  exact h.imp fun _ _ hrow => ⟨owner, hrow⟩

theorem read_hydrates {page : List Int} {records : List Record}
    (h : List.Forall₂ (ledger.Hydrates model) page records) (name : String) :
    records.map (·.read name) = page.map (ledger.shown model name) := by
  induction h with
  | nil => rfl
  | cons hfirst _ ih => rw [List.map_cons, List.map_cons, ih, hfirst.read_eq]

theorem getLast?_hydrates {page : List Int} {records : List Record}
    (h : List.Forall₂ (ledger.Hydrates model) page records) (name : String) :
    records.getLast?.map (·.read name) = page.getLast?.map (ledger.shown model name) := by
  rw [← List.getLast?_map, ← List.getLast?_map, read_hydrates h]

end Ledger

/-! ### What is handed over -/

/-- One visit of a walk: the records of a page, how many they are said to be and the number of the
page. -/
structure Visited where
  records : List Record
  count : Nat
  number : Nat

/-- What is shown under a name in the course of some visits. -/
def Visited.shown (visits : List Visited) (name : String) : List Value :=
  visits.flatMap fun visited => visited.records.map fun record => record.read name

namespace Ledger

/-- The visits of a walk after `number` pages. Each of them is handed the records of the rows on one
page, how many they are and the number of the page. -/
inductive Handed (ledgers : Nat → Ledger) (model : Option Model) :
    Nat → List (List Int) → List Visited → Prop where
  | nil (number : Nat) : Handed ledgers model number [] []
  | cons {number : Nat} {page : List Int} {pages : List (List Int)} {records : List Record}
      {visits : List Visited} (hpage : List.Forall₂ ((ledgers number).Hydrates model) page records)
      (hrest : Handed ledgers model (number + 1) pages visits) :
      Handed ledgers model number (page :: pages) (⟨records, page.length, number + 1⟩ :: visits)

/-- An action returns, and in its course it has handed over the rows under some keys, one page after
the other. -/
def HandsOver (ledger : Ledger) (model : Option Model) (handed : σ → List Visited)
    (action : Action κ σ Unit) (session : Session κ σ) (keys : List Int) : Prop :=
  ∃ pages visits later, play action session = (.ok (), later) ∧
    handed later.host = handed session.host ++ visits ∧
    Handed (fun _ => ledger) model 0 pages visits ∧ pages.flatten = keys

namespace Handed

variable {ledgers : Nat → Ledger} {model : Option Model} {number size : Nat} {cursor : Value}
  {next : Int → Value} {pages : List (List Int)} {visits : List Visited}

theorem length_eq (h : Handed ledgers model number pages visits) :
    pages.length = visits.length := by
  induction h with
  | nil => rfl
  | cons _ _ ih => rw [List.length_cons, List.length_cons, ih]

theorem numbers (h : Handed ledgers model number pages visits) :
    visits.map (·.number) = List.range' (number + 1) visits.length := by
  induction h with
  | nil => rfl
  | cons _ _ ih => rw [List.map_cons, ih, List.length_cons, List.range'_succ]

theorem counts (h : Handed ledgers model number pages visits)
    (hcourse : Course ledgers size next number cursor pages) :
    ∀ visited ∈ visits,
      visited.count = visited.records.length ∧ 1 ≤ visited.count ∧ visited.count ≤ size := by
  induction h generalizing cursor with
  | nil => simp
  | cons hpage _ ih =>
      cases hcourse with
      | page hlast hrest =>
          refine List.forall_mem_cons.2 ⟨⟨hpage.length_eq, ?_, length_page_le⟩, ih hrest⟩
          exact List.length_pos_of_mem (List.mem_of_getLast? hlast)

/-- What is handed over are records of the ledger that belongs to the page. -/
theorem sound (h : Handed ledgers model number pages visits) :
    ∀ visited ∈ visits, ∀ record ∈ visited.records,
      ∃ key, (ledgers (visited.number - 1)).Hydrates model key record := by
  induction h with
  | nil => simp
  | cons hpage _ ih =>
      refine List.forall_mem_cons.2 ⟨fun record hrecord => ?_, ih⟩
      obtain ⟨key, -, hhydrates⟩ := exists_of_forall₂ hpage.flip hrecord
      exact ⟨key, hhydrates⟩

theorem shown_eq {name : String} (h : Handed ledgers model number pages visits)
    (hnext : ∀ number, ∀ key ∈ (ledgers number).keys,
      (ledgers number).shown model name key = next key) :
    Visited.shown visits name = pages.flatten.map next := by
  induction h with
  | nil => rfl
  | @cons number page pages records visits hpage _ ih =>
      have hkeys := ((List.forall₂_and_left _ _).1 hpage).1
      have hrecords : records.map (·.read name) = page.map next := by
        rw [read_hydrates hpage]
        exact List.map_congr_left fun key hkey => hnext number key (hkeys key hkey)
      rw [Visited.shown] at ih ⊢
      rw [List.flatMap_cons, ih, hrecords, List.flatten_cons, List.map_append]

end Handed

end Ledger

/-! ### Feeds -/

/-- The ledgers that a walk comes upon. A session shows a ledger if it is the one that the next page
is read from, and it has read it once that page has been answered. -/
structure Feed (κ σ : Type) where
  ledgers : Nat → Ledger
  shows : Nat → Session κ σ → Prop
  hasRead : Nat → Session κ σ → Prop

namespace Feed

variable (feed : Feed κ σ)

/-- The cursors that a walk can come to: zero, where it begins, and what the rows show. -/
def Meets (model : Option Model) (name : String) (cursor : Value) : Prop :=
  cursor = .int 0 ∨ ∃ number, ∃ key ∈ (feed.ledgers number).keys,
    cursor = (feed.ledgers number).shown model name key

/-- A visit that returns lets the walk go on, keeps what it has been handed and leads to the next
ledger. -/
structure Follows (visit : Visit κ σ) (changing : Set Nat) (handed : σ → List Visited) : Prop where
  confined : ∀ records count number, Confined changing (visit records count number)
  goesOn : ∀ page session later records count number answer, feed.hasRead page session →
    play (visit records count number) session = (.ok answer, later) →
    answer = true ∧ feed.shows (page + 1) later ∧
      handed later.host = handed session.host ++ [⟨records, count, number⟩]

/-- A visit does return. -/
def Returns (visit : Visit κ σ) : Prop :=
  ∀ page session records count number, feed.hasRead page session →
    ∃ answer later, play (visit records count number) session = (.ok answer, later)

variable [Connection κ]

/-- The statement of each page is answered with the rows of that page. What the walk itself adds to
a session makes no difference to the ledger that the session shows. -/
structure Serves (query : Query) (path : String) (size : Nat) : Prop where
  shows_grows : ∀ number before after, Grows before after → feed.shows number before →
    feed.shows number after
  hasRead_grows : ∀ number before after, Grows before after → feed.hasRead number before →
    feed.hasRead number after
  answers : ∀ number session, feed.shows number session →
    ∃ connection, session.connections[query.connection]? = some connection ∧
      ∀ cursor compiled owner,
        feed.Meets query.model (Identifier.lastSegment path) cursor →
        session.store.build (query.selectBehind path cursor size) = .ok compiled →
        let mapper : Mapper := ⟨false, query.model, owner⟩
        let keys := (feed.ledgers number).page cursor size
        let run := Connection.run connection compiled.sql (.list compiled.parameters) (some mapper)
        run.outcome = Outcome.fetched <$> mapper.map (keys.map (feed.ledgers number).row) ∧
          feed.hasRead number (session.withConnection query.connection run.connection)

variable {feed} {query : Query} {path : String} {size : Nat} {later : Session κ σ}
  {id fuel number : Nat} {cursor : Value} {compiled : Compiled}

namespace Serves

/-- The session that has opened the query of a page still shows the ledger. -/
theorem answers_opening (h : feed.Serves query path size)
    (hcursor : feed.Meets query.model (Identifier.lastSegment path) cursor)
    (hshows : feed.shows number later)
    (hbuild : (later.opening (query.behind path cursor size)).store.build
      (query.selectBehind path cursor size) = .ok compiled) (owner : Option Nat) :
    let opened := later.opening (query.behind path cursor size)
    ∃ connection, opened.connections[query.connection]? = some connection ∧
      let run := Connection.run connection compiled.sql (.list compiled.parameters)
        (some ⟨false, query.model, owner⟩)
      run.outcome = Outcome.fetched <$> Fetched.many <$>
        (((feed.ledgers number).page cursor size).map (feed.ledgers number).row).mapM
          (Mapper.mapRow ⟨false, query.model, owner⟩) ∧
      feed.hasRead number (opened.withConnection query.connection run.connection) := by
  have hopened : Grows later (later.opening (query.behind path cursor size)) :=
    ⟨keeps_opening later _, rfl, rfl, rfl, rfl⟩
  obtain ⟨connection, hconnection, hanswers⟩ :=
    h.answers number _ (h.shows_grows number _ _ hopened hshows)
  exact ⟨connection, hconnection, hanswers cursor compiled owner hcursor hbuild⟩

theorem turn (h : feed.Serves query path size)
    (hcursor : feed.Meets query.model (Identifier.lastSegment path) cursor)
    (hrecord : later.store.queries[id]? = some query) (hshows : feed.shows number later)
    (hbuild : (later.opening (query.behind path cursor size)).store.build
      (query.selectBehind path cursor size) = .ok compiled)
    {records : List Record}
    (hrecords : (((feed.ledgers number).page cursor size).map (feed.ledgers number).row).mapM
      (Mapper.mapRow ⟨false, query.model, some later.store.queries.size⟩) = .ok records)
    (visit : Visit κ σ) (fuel place : Nat) :
    ∃ after, play (walkFrom id (Walk.over path size) visit (fuel + 1) place cursor) later =
        play ((Walk.over path size).visitPage id visit fuel place records) after ∧
      later.store.Keeps ∅ after.store ∧ after.host = later.host ∧ feed.hasRead number after := by
  obtain ⟨connection, hconnection, houtcome, hread⟩ :=
    h.answers_opening hcursor hshows hbuild (some later.store.queries.size)
  rw [hrecords] at houtcome
  obtain ⟨after, hsend, hafter⟩ := play_send hconnection houtcome
  have hbuilt : play (liftM ((later.opening (query.behind path cursor size)).store.build
      (query.selectBehind path cursor size)) : Action κ σ Compiled)
      (later.opening (query.behind path cursor size)) =
        (.ok compiled, later.opening (query.behind path cursor size)) := by
    rw [play_lift, hbuild]
  refine ⟨after, ?_, (keeps_opening later _).trans hafter.store, hafter.host,
    h.hasRead_grows number _ _ hafter hread⟩
  rw [play_walkFrom_succ hrecord path size visit fuel place cursor]
  dsimp only
  rw [play_bind_ok hbuilt, play_bind_ok hsend]

/-- A walk that returns has built its page and made records of the rows. -/
theorem exists_records (h : feed.Serves query path size)
    (hcursor : feed.Meets query.model (Identifier.lastSegment path) cursor)
    (hrecord : later.store.queries[id]? = some query) (hshows : feed.shows number later)
    {visit : Visit κ σ} {place : Nat} {final : Session κ σ}
    (hplay : play (walkFrom id (Walk.over path size) visit (fuel + 1) place cursor) later =
      (.ok (), final)) :
    ∃ compiled records,
      (later.opening (query.behind path cursor size)).store.build
        (query.selectBehind path cursor size) = .ok compiled ∧
      (((feed.ledgers number).page cursor size).map (feed.ledgers number).row).mapM
        (Mapper.mapRow ⟨false, query.model, some later.store.queries.size⟩) = .ok records := by
  rw [play_walkFrom_succ hrecord path size visit fuel place cursor] at hplay
  dsimp only at hplay
  rw [play_bind, play_lift] at hplay
  cases hbuild : (later.opening (query.behind path cursor size)).store.build
      (query.selectBehind path cursor size) with
  | error cause =>
      rw [hbuild] at hplay
      cases hplay
  | ok compiled =>
      cases hrecords : (((feed.ledgers number).page cursor size).map
          (feed.ledgers number).row).mapM
            (Mapper.mapRow ⟨false, query.model, some later.store.queries.size⟩) with
      | ok records => exact ⟨compiled, records, rfl, rfl⟩
      | error cause =>
          obtain ⟨connection, hconnection, houtcome, _⟩ :=
            h.answers_opening hcursor hshows hbuild (some later.store.queries.size)
          rw [hrecords] at houtcome
          obtain ⟨after, hsend⟩ := play_send_error hconnection houtcome
          rw [hbuild] at hplay
          dsimp only at hplay
          rw [play_bind, hsend] at hplay
          cases hplay

variable {visit : Visit κ σ} {changing : Set Nat} {handed : σ → List Visited} {next : Int → Value}

/-- A walk that returns has run a course of the ledgers. The induction is on the fuel. -/
theorem exists_course (h : feed.Serves query path size)
    (hvisit : feed.Follows visit changing handed) (hid : id ∉ changing)
    (hnext : ∀ number, ∀ key ∈ (feed.ledgers number).keys,
      (feed.ledgers number).shown query.model (Identifier.lastSegment path) key = next key)
    (hcursor : feed.Meets query.model (Identifier.lastSegment path) cursor)
    (hrecord : later.store.queries[id]? = some query) (hshows : feed.shows number later)
    {final : Session κ σ}
    (hplay : play (walkFrom id (Walk.over path size) visit fuel (number + 1) cursor) later =
      (.ok (), final)) :
    ∃ pages visits, Ledger.Course feed.ledgers size next number cursor pages ∧
      Ledger.Handed feed.ledgers query.model number pages visits ∧
      handed final.host = handed later.host ++ visits ∧
      feed.hasRead (number + pages.length) final := by
  induction fuel generalizing number cursor later with
  | zero => cases hplay
  | succ fuel ih =>
      obtain ⟨compiled, records, hbuild, hrecords⟩ := h.exists_records hcursor hrecord hshows hplay
      obtain ⟨after, hturn, hstore, hhost, hafter⟩ :=
        h.turn hcursor hrecord hshows hbuild hrecords visit fuel (number + 1)
      rw [hturn] at hplay
      have hhydrates := Ledger.hydrates_of_mapM hrecords
      have hshown := Ledger.getLast?_hydrates hhydrates (Identifier.lastSegment path)
      cases hlast : ((feed.ledgers number).page cursor size).getLast? with
      | none =>
          rw [hlast, Option.map_none, Option.map_eq_none_iff] at hshown
          rw [play_visitPage_none hshown] at hplay
          cases hplay
          refine ⟨[], [], .done (List.getLast?_eq_none_iff.1 hlast), .nil number, ?_, hafter⟩
          rw [hhost, List.append_nil]
      | some last =>
          rw [hlast, Option.map_some, Option.map_eq_some_iff] at hshown
          obtain ⟨record, hlastRecord, hread⟩ := hshown
          have hmem := Ledger.mem_of_mem_page (List.mem_of_getLast? hlast)
          obtain ⟨logged, hlogged, hvisits⟩ :=
            play_visitPage_some hlastRecord (Walk.over path size) id visit fuel (number + 1)
          rw [hvisits, play_bind] at hplay
          rcases hvisited : play (visit records records.length (number + 1)) logged with
            ⟨cause | answer, visited⟩
          · rw [hvisited] at hplay
            cases hplay
          · obtain ⟨rfl, hnextShows, hhanded⟩ := hvisit.goesOn number logged visited _ _ _ _
              (h.hasRead_grows number _ _ hlogged hafter) hvisited
            rw [hvisited] at hplay
            dsimp only at hplay
            rw [if_pos rfl, Walk.over, hread, hnext number last hmem] at hplay
            have hkept := (hstore.trans hlogged.store).record hrecord (Set.notMem_empty id)
            have hstill := (hvisit.confined _ _ _).queries_eq hvisited hid hkept
            have hmet : feed.Meets query.model (Identifier.lastSegment path) (next last) :=
              .inr ⟨number, last, hmem, (hnext number last hmem).symm⟩
            obtain ⟨pages, visits, hcourse, hrest, hfinal, hend⟩ := ih hmet hstill hnextShows hplay
            refine ⟨_, _, .page hlast hcourse, .cons hhydrates hrest, ?_, ?_⟩
            · rw [hfinal, hhanded, hlogged.host, hhost, List.append_assoc, List.singleton_append,
                hhydrates.length_eq]
            · rw [List.length_cons, ← Nat.add_assoc, Nat.add_right_comm]
              exact hend

variable {session : Session κ σ} {pages : List (List Int)}

theorem exists_turn (h : feed.Serves query path size)
    (htemplate : session.Template id query path size changing)
    (hvalue : ∀ number,
      (feed.ledgers number).Yields query.model (Identifier.lastSegment path) next)
    (hkeeps : session.store.Keeps changing later.store) (hshows : feed.shows number later)
    (hcursor : feed.Meets query.model (Identifier.lastSegment path) cursor)
    (hsingle : cursor.isSingle = true) (visit : Visit κ σ) (fuel place : Nat) :
    ∃ records after,
      List.Forall₂ ((feed.ledgers number).Hydrates query.model)
        ((feed.ledgers number).page cursor size) records ∧
      play (walkFrom id (Walk.over path size) visit (fuel + 1) place cursor) later =
        play ((Walk.over path size).visitPage id visit fuel place records) after ∧
      later.store.Keeps ∅ after.store ∧ feed.hasRead number after := by
  have hrecord := hkeeps.record htemplate.record htemplate.kept
  have hopened := keeps_opening later (query.behind path cursor size)
  obtain ⟨compiled, _, hbuild⟩ := htemplate.exists_build
    (hkeeps.trans (hopened.mono (Set.empty_subset changing))) hsingle
  have hmapped : ∀ key ∈ (feed.ledgers number).page cursor size, ∃ record,
      Mapper.mapRow ⟨false, query.model, some later.store.queries.size⟩
        ((feed.ledgers number).row key) = .ok record ∧
      (feed.ledgers number).Hydrates query.model key record := by
    intro key hkey
    obtain ⟨record, ⟨hmem, owner, howner⟩, -⟩ := hvalue number key (Ledger.mem_of_mem_page hkey)
    obtain ⟨changed, hchanged, -⟩ :=
      Mapper.exists_mapRow howner (some later.store.queries.size)
    exact ⟨changed, hchanged, hmem, _, hchanged⟩
  obtain ⟨records, hrecords, hhydrates⟩ := exists_mapM hmapped
  have hrows : (((feed.ledgers number).page cursor size).map (feed.ledgers number).row).mapM
      (Mapper.mapRow ⟨false, query.model, some later.store.queries.size⟩) = .ok records := by
    rw [List.mapM_map]
    exact hrecords
  obtain ⟨after, hturn, hstore, _, hafter⟩ :=
    h.turn hcursor hrecord hshows hbuild hrows visit fuel place
  exact ⟨records, after, hhydrates, hturn, hstore, hafter⟩

section Returns

variable (h : feed.Serves query path size) (hvisit : feed.Follows visit changing handed)
  (hreturns : feed.Returns visit) (htemplate : session.Template id query path size changing)
  (hvalue : ∀ number, (feed.ledgers number).Yields query.model (Identifier.lastSegment path) next)
  (hsingle : ∀ number, ∀ key ∈ (feed.ledgers number).keys, (next key).isSingle = true)

include h hvisit hreturns htemplate hvalue hsingle

/-- A walk returns if the visits do, the template can be built and every row can be made into a
record. The induction is on the course, which has fewer pages than there is fuel. -/
theorem exists_return (hcourse : Ledger.Course feed.ledgers size next number cursor pages)
    (hcursor : feed.Meets query.model (Identifier.lastSegment path) cursor)
    (hbound : cursor.isSingle = true) (hkeeps : session.store.Keeps changing later.store)
    (hshows : feed.shows number later) (hfuel : pages.length < fuel) :
    ∃ final, play (walkFrom id (Walk.over path size) visit fuel (number + 1) cursor) later =
      (.ok (), final) := by
  induction hcourse generalizing later fuel with
  | @done number cursor hempty =>
      obtain ⟨fuel, rfl⟩ := Nat.exists_eq_add_one.2 hfuel
      obtain ⟨records, after, hhydrates, hturn, _, _⟩ :=
        h.exists_turn htemplate hvalue hkeeps hshows hcursor hbound visit fuel (number + 1)
      rw [hempty, List.forall₂_nil_left_iff] at hhydrates
      rw [hturn, hhydrates, play_visitPage_none List.getLast?_nil]
      exact ⟨after, rfl⟩
  | @page number cursor last pages hlast _ ih =>
      rw [List.length_cons] at hfuel
      obtain ⟨fuel, rfl⟩ := Nat.exists_eq_add_one.2 (Nat.zero_lt_of_lt hfuel)
      obtain ⟨records, after, hhydrates, hturn, hstore, hafter⟩ :=
        h.exists_turn htemplate hvalue hkeeps hshows hcursor hbound visit fuel (number + 1)
      have hshown := Ledger.getLast?_hydrates hhydrates (Identifier.lastSegment path)
      have hmem := Ledger.mem_of_mem_page (List.mem_of_getLast? hlast)
      rw [hlast, Option.map_some, Option.map_eq_some_iff, (hvalue number).shown_eq hmem] at hshown
      obtain ⟨record, hlastRecord, hread⟩ := hshown
      obtain ⟨logged, hlogged, hvisits⟩ :=
        play_visitPage_some hlastRecord (Walk.over path size) id visit fuel (number + 1)
      have hloggedRead := h.hasRead_grows number _ _ hlogged hafter
      obtain ⟨answer, visited, hvisited⟩ :=
        hreturns number logged records records.length (number + 1) hloggedRead
      obtain ⟨rfl, hnextShows, _⟩ :=
        hvisit.goesOn number logged visited _ _ _ _ hloggedRead hvisited
      have hconfined := hvisit.confined records records.length (number + 1) logged
      rw [hvisited] at hconfined
      have hown := (hstore.trans hlogged.store).mono (Set.empty_subset changing)
      have hmet : feed.Meets query.model (Identifier.lastSegment path) (next last) :=
        .inr ⟨number, last, hmem, ((hvalue number).shown_eq hmem).symm⟩
      obtain ⟨final, hfinal⟩ := ih hmet (hsingle number last hmem)
        ((hkeeps.trans hown).trans hconfined) hnextShows (Nat.lt_of_succ_lt_succ hfuel)
      refine ⟨final, ?_⟩
      rw [hturn, hvisits, play_bind_ok hvisited, if_pos rfl, Walk.over, hread]
      exact hfinal

variable {given index : Value} (hshows : feed.shows 0 session) (hsize : 1 ≤ size)
  (hgiven : given = .int size ∨ given = .null ∧ query.options.chunkSize = size)
  (hindex : index = .text path ∧ path ≠ "" ∨
    index.truthy = false ∧ query.options.chunkIndex = path)

include hshows hsize hgiven hindex

theorem exists_chunk (hcourse : Ledger.Course feed.ledgers size next 0 (.int 0) pages)
    (hfuel : pages.length < fuel) :
    ∃ visits later, play (chunk fuel id given index visit) session = (.ok (), later) ∧
      handed later.host = handed session.host ++ visits ∧
      Ledger.Handed feed.ledgers query.model 0 pages visits ∧ feed.hasRead pages.length later := by
  have hzero : feed.Meets query.model (Identifier.lastSegment path) (.int 0) := .inl rfl
  obtain ⟨later, hplay⟩ := h.exists_return hvisit hreturns htemplate hvalue hsingle hcourse hzero
    rfl (.refl changing session.store) hshows hfuel
  obtain ⟨others, visits, hother, hvisits, hhanded, hend⟩ :=
    h.exists_course hvisit htemplate.kept (fun number key hkey => (hvalue number).shown_eq hkey)
      hzero htemplate.record hshows hplay
  obtain rfl := hother.unique hcourse
  rw [← play_chunk hsize hgiven hindex htemplate.record] at hplay
  rw [Nat.zero_add] at hend
  exact ⟨visits, later, hplay, hhanded, hvisits, hend⟩

end Returns

end Serves

end Feed

end SqlBuilder
