import SqlBuilder.Proofs.Paging.Feed

/-!
# Walks over a table that changes

Rows come and go between the pages of a walk. As long as their keys lie between one and a bound and
the rows show them, the walk still ends, hands over no row twice, and comes to every row that is
there all the time. A connection for which that can be seen is a cabinet, in which another ledger is
opened for each page.
-/

namespace SqlBuilder

open Outcome Session

variable {κ σ : Type} [Connection κ]

/-- A walk in chunks is exact whatever is written to the table between its pages. It ends after at
most one statement more than there are keys, its visits are numbered from one on and are handed the
rows of a page with their number, no key comes twice or out of order, and every row that is in all
ledgers up to the one of the last, empty page is handed over exactly once. -/
theorem Session.chunk_exact {feed : Feed κ σ} {session : Session κ σ} {id : Nat} {query : Query}
    {path : String} {size bound fuel : Nat} {visit : Visit κ σ} {changing : Set Nat}
    {handed : σ → List Visited} {given index : Value} (hsize : 1 ≤ size)
    (hgiven : given = .int size ∨ given = .null ∧ query.options.chunkSize = size)
    (hindex : index = .text path ∧ path ≠ "" ∨
      index.truthy = false ∧ query.options.chunkIndex = path)
    (htemplate : session.Template id query path size changing)
    (hserves : feed.Serves query path size)
    (hbounded : ∀ number, ∀ key ∈ (feed.ledgers number).keys, 1 ≤ key ∧ key ≤ bound)
    (hexposed : ∀ number,
      (feed.ledgers number).Yields query.model (Identifier.lastSegment path) .int)
    (hvisit : feed.Follows visit changing handed) (hreturns : feed.Returns visit)
    (hshows : feed.shows 0 session) (hfuel : bound < fuel) :
    ∃ (visits : List Visited) (keys : List Int) (later : Session κ σ),
      play (chunk fuel id given index visit) session = (.ok (), later) ∧
      feed.hasRead visits.length later ∧ visits.length ≤ bound ∧
      handed later.host = handed session.host ++ visits ∧
      visits.map (·.number) = List.range' 1 visits.length ∧
      (∀ visited ∈ visits,
        visited.count = visited.records.length ∧ 1 ≤ visited.count ∧ visited.count ≤ size) ∧
      Visited.shown visits (Identifier.lastSegment path) = keys.map .int ∧
      keys.Pairwise (· < ·) ∧
      (∀ visited ∈ visits, ∀ record ∈ visited.records,
        ∃ key ∈ (feed.ledgers (visited.number - 1)).keys,
          record.read (Identifier.lastSegment path) = .int key) ∧
      ∀ key, (∀ number ≤ visits.length, key ∈ (feed.ledgers number).keys) → keys.count key = 1 := by
  have hnext : ∀ number, ∀ key ∈ (feed.ledgers number).keys,
      (feed.ledgers number).shown query.model (Identifier.lastSegment path) key = .int key :=
    fun number key hkey => (hexposed number).shown_eq hkey
  have hall : ∀ number, (feed.ledgers number).keys ⊆ Finset.Icc 1 (bound : Int) :=
    fun number key hkey => Finset.mem_Icc.2 (hbounded number key hkey)
  have hexists : ∃ pages, Ledger.Course feed.ledgers size .int 0 (.int 0) pages ∧
      pages.length ≤ ((Finset.Icc 1 (bound : Int)).filter (0 < ·)).card :=
    Ledger.Course.exists_of_shown hall (fun _ _ _ => rfl) 0 0
  obtain ⟨pages, hcourse, hleft⟩ := hexists
  have hpages : pages.length ≤ bound := by
    have hcard := hleft.trans (Finset.card_filter_le _ _)
    rw [Int.card_Icc] at hcard
    omega
  obtain ⟨visits, later, hplay, hhanded, hvisits, hend⟩ :=
    hserves.exists_chunk hvisit hreturns htemplate hexposed (fun _ _ _ => rfl) hshows hsize hgiven
      hindex hcourse (hpages.trans_lt hfuel)
  rw [hvisits.length_eq] at hend hpages
  have hled := hcourse.led fun _ _ _ => rfl
  obtain ⟨-, hsorted⟩ := List.pairwise_cons.1 (hcourse.pairwise hled)
  refine ⟨visits, pages.flatten, later, hplay, hend, hpages, hhanded, hvisits.numbers,
    hvisits.counts hcourse, hvisits.shown_eq hnext, hsorted, ?sound, fun key hseen => ?complete⟩
  case sound =>
    intro visited hvisited record hrecord
    obtain ⟨key, hhydrates⟩ := hvisits.sound visited hvisited record hrecord
    refine ⟨key, hhydrates.1, ?_⟩
    rw [hhydrates.read_eq, hnext _ key hhydrates.1]
  case complete =>
    have hkey : 0 < key := (hbounded 0 key (hseen 0 (Nat.zero_le _))).1
    have hmem : key ∈ pages.flatten := hcourse.mem_flatten hsize hled hkey fun seen _ hto =>
      hseen seen (by rw [← hvisits.length_eq]; omega)
    exact List.count_eq_one_of_mem (hsorted.imp fun hless => hless.ne) hmem

/-! ### Cabinets -/

/-- A ledger whose rows hold their keys under a name. -/
def Ledger.labelled (name : String) (keys : Finset Int) : Ledger :=
  ⟨keys, fun key => .map [(.text name, .int key)], fun _ _ => false⟩

theorem Ledger.shown_labelled (label name : String) (keys : Finset Int) (key : Int) :
    (labelled label keys).shown none name key = if label = name then .int key else .null := by
  have hfind := Entries.find?_cons_text label name (.int key) []
  show Entries.read [(.text label, .int key)] name = _
  rw [Entries.read, hfind]
  split <;> rfl

/-- A connection that opens one ledger after the other. It answers with the first rows behind the
last parameter, as many of them as there are on a page. -/
structure Cabinet where
  ledgers : Nat → Ledger
  size : Nat
  opened : Nat

namespace Cabinet

def cursor : Value → Value
  | .list values => values.getLast?.getD .null
  | _ => .null

def rows (cabinet : Cabinet) (parameters : Value) : List Value :=
  let ledger := cabinet.ledgers cabinet.opened
  (ledger.page (cursor parameters) cabinet.size).map ledger.row

def run (cabinet : Cabinet) (parameters : Value) : Option Mapper → Run Cabinet
  | none => ⟨.ok (.count .null), [], [], cabinet⟩
  | some mapper =>
      ⟨Outcome.fetched <$> mapper.map (cabinet.rows parameters), [], [],
        { cabinet with opened := cabinet.opened + 1 }⟩

instance : Connection Cabinet where
  typeName _ := "Cabinet"
  dialect _ := .text "mysql"
  run cabinet _ := cabinet.run
  lastInsertId _ := .ok .null

def session (cabinet : Cabinet) (query : Query) : Session Cabinet (List Visited) where
  store := (Store.empty.add query).2
  connections := #[{ cabinet with opened := 0 }]
  registry := .standard
  defaults := none
  logging := .silent
  journal := #[]
  host := []

def feed (cabinet : Cabinet) : Feed Cabinet (List Visited) where
  ledgers := cabinet.ledgers
  shows number session := session.connections = #[{ cabinet with opened := number }]
  hasRead number session := session.connections = #[{ cabinet with opened := number + 1 }]

/-- A visit that notes what it is handed. -/
def visit : Visit Cabinet (List Visited) := fun records count number => do
  modify fun session => { session with host := session.host ++ [⟨records, count, number⟩] }
  return true

variable (cabinet : Cabinet) {query : Query}

theorem returns : cabinet.feed.Returns visit :=
  fun _ _ _ _ _ _ => ⟨true, _, rfl⟩

theorem follows : cabinet.feed.Follows visit ∅ fun visits => visits where
  confined _ _ _ := .of_store fun _ => rfl
  goesOn page session later records count number answer hread hplay := by
    cases hplay
    exact ⟨rfl, hread, rfl⟩

/-- The rows of all ledgers hold their keys under one name. -/
def IsLabelled (label : String) : Prop :=
  ∀ number, ∃ keys, cabinet.ledgers number = .labelled label keys

variable {cabinet} {label : String}

theorem IsLabelled.isSingle (h : cabinet.IsLabelled label) {name : String} {cursor : Value}
    (hcursor : cabinet.feed.Meets none name cursor) : cursor.isSingle = true := by
  rcases hcursor with rfl | ⟨number, key, -, rfl⟩
  · rfl
  · obtain ⟨keys, hkeys⟩ := h number
    show ((cabinet.ledgers number).shown none name key).isSingle = true
    rw [hkeys, Ledger.shown_labelled]
    split <;> rfl

/-- A query that binds nothing but the cursor of its pages is served by a cabinet. -/
theorem IsLabelled.serves (h : cabinet.IsLabelled label) (hconnection : query.connection = 0)
    (hmodel : query.model = none)
    (hemptying : ∀ c ∈ query.compiler.emptying.toList, Placeholder.isPlain c = true)
    (hbehind : ∀ store, query.boundBehind store = []) (path : String) :
    cabinet.feed.Serves query path cabinet.size where
  shows_grows _ _ _ hgrows hshows := hgrows.connections.trans hshows
  hasRead_grows _ _ _ hgrows hread := hgrows.connections.trans hread
  answers number session hshows := by
    have hshows : session.connections = #[{ cabinet with opened := number }] := hshows
    refine ⟨{ cabinet with opened := number }, ?_, ?_⟩
    · rw [hshows, hconnection]
      rfl
    · intro cursor compiled owner hcursor hbuild
      rw [hmodel] at hcursor
      have hparameters :=
        query.parameters_single path cabinet.size (h.isSingle hcursor) hemptying hbuild
      have hlast : Cabinet.cursor (.list compiled.parameters) = cursor := by
        rw [hparameters, hbehind, Cabinet.cursor, List.getLast?_append]
        rfl
      refine ⟨?_, ?_⟩
      · show Outcome.fetched <$> Mapper.map _ (rows _ (.list compiled.parameters)) = _
        rw [rows, hlast]
        rfl
      · show session.connections.setIfInBounds query.connection
          { cabinet with opened := number + 1 } = #[{ cabinet with opened := number + 1 }]
        rw [hshows, hconnection]
        rfl

theorem template {path : String} {size : Nat}
    (hbuilds : ((cabinet.session query).store.build
      (query.selectBehind path (.int 0) size)).toOption.isSome = true)
    (hplaces : (query.withType .select).blueprint.places = []) :
    (cabinet.session query).Template 0 query path size ∅ where
  record := rfl
  kept := Set.notMem_empty 0
  builds := by
    cases hbuild : (cabinet.session query).store.build
        (query.selectBehind path (.int 0) size) with
    | ok compiled => exact ⟨compiled, rfl⟩
    | error cause =>
        rw [hbuild] at hbuilds
        cases hbuilds
  anchors := by
    rintro place ⟨first, hfirst, _⟩
    rw [hplaces] at hfirst
    cases hfirst
  free other hother := absurd hother (Set.notMem_empty other)

theorem members_eq_nil (h : query.blueprint.fragments .union = []) (store : Store) :
    (store.snapshot query.blueprint).members = [] :=
  Snapshot.membersOf_eq_nil store.resolve store.depth h

def everything : Query :=
  (Query.new 0 .mysql Options.standard).setTable (.text "t") (.text "")

theorem bound_everything (store : Store) : everything.boundBehind store = [] := by
  rw [Query.boundBehind, members_eq_nil (by decide +kernel)]
  decide +kernel

theorem IsLabelled.serves_everything (h : cabinet.IsLabelled label) :
    cabinet.feed.Serves everything "id" cabinet.size :=
  h.serves rfl rfl (by decide) bound_everything "id"

theorem template_everything (cabinet : Cabinet) :
    (cabinet.session everything).Template 0 everything "id" 2 ∅ := by
  have hbuilds : ((Store.empty.add everything).2.build
      (everything.selectBehind "id" (.int 0) 2)).toOption.isSome = true := by decide +kernel
  exact template hbuilds (by decide +kernel)

theorem lastSegment_id : Identifier.lastSegment "id" = "id" := by
  decide

theorem given_two (query : Query) : Value.int 2 = .int (2 : Nat) ∨
    Value.int 2 = .null ∧ query.options.chunkSize = (2 : Nat) :=
  .inl rfl

theorem index_null (h : query.options.chunkIndex = "id") : Value.null = .text "id" ∧ "id" ≠ "" ∨
    Value.null.truthy = false ∧ query.options.chunkIndex = "id" :=
  .inr ⟨rfl, h⟩

theorem yields_everything (keys : Finset Int) : (Ledger.labelled "id" keys).Yields
    everything.model (Identifier.lastSegment "id") .int := by
  intro key hkey
  refine ⟨.row [(.text "id", .int key)], ⟨hkey, none, rfl⟩, ?_⟩
  rw [lastSegment_id]
  rfl

/-- Two rows on a page, and three in the table. The first of them is deleted behind the first page,
and another one is added. -/
def refilled : Cabinet where
  ledgers number := .labelled "id" (if number = 0 then {1, 2, 3} else {2, 3, 4})
  size := 2
  opened := 0

theorem keys_refilled (number : Nat) :
    (refilled.ledgers number).keys = {1, 2, 3} ∨ (refilled.ledgers number).keys = {2, 3, 4} := by
  by_cases h : number = 0
  · exact .inl (if_pos h)
  · exact .inr (if_neg h)

end Cabinet

open Cabinet in
/-- The keys two and three are in the table all the time. -/
theorem Session.chunk_exact_refilled :
    ∃ (keys : List Int) (later : Session Cabinet (List Visited)),
      play (chunk 5 0 (.int 2) .null visit) (refilled.session everything) = (.ok (), later) ∧
      Visited.shown later.host "id" = keys.map .int ∧
      keys.Pairwise (· < ·) ∧ keys.count 2 = 1 ∧ keys.count 3 = 1 := by
  have hlabelled : refilled.IsLabelled "id" := fun _ => ⟨_, rfl⟩
  have hbounded : ∀ number, ∀ key ∈ (refilled.ledgers number).keys,
      1 ≤ key ∧ key ≤ ((4 : Nat) : Int) := by
    intro number
    rcases keys_refilled number with hkeys | hkeys <;> rw [hkeys] <;> decide
  obtain ⟨visits, keys, later, hplay, _, _, hhanded, _, _, hshown, hsorted, _, hall⟩ :=
    Session.chunk_exact (by decide) (given_two everything) (index_null rfl)
      (template_everything _) hlabelled.serves_everything hbounded (fun _ => yields_everything _)
      refilled.follows refilled.returns rfl (Nat.lt_succ_self 4)
  have hseen : ∀ key ∈ ({2, 3} : Finset Int), ∀ number, key ∈ (refilled.ledgers number).keys := by
    intro key hkey number
    rcases keys_refilled number with hkeys | hkeys <;> rw [hkeys] <;> revert key <;> decide
  have hhost : later.host = visits := hhanded
  rw [lastSegment_id] at hshown
  refine ⟨keys, later, hplay, ?_, hsorted, ?_, ?_⟩
  · rw [hhost, hshown]
  · exact hall 2 fun number _ => hseen 2 (by decide) number
  · exact hall 3 fun number _ => hseen 3 (by decide) number

end SqlBuilder
