import SqlBuilder.Proofs.Paging.Beginning

/-!
# Whether a walk sees where it is

The cursor of a page is read from a record, so it depends on the columns of the template, on their
aliases and on what the records are. A walk in which every page ends with a record that shows its
key is complete. Where the index has been left out or renamed, or the records are instances that
show nothing, there is no cursor. Then the next page is empty, and the walk returns after the first
one as if there were no more rows.
-/

namespace SqlBuilder

open Outcome Session

/-! ### What comes back for a list of columns -/

namespace Value

/-- The name in a column's place: one undivided name, or the last segment of a path. -/
def columnName? : Value → Option String
  | text name => some name
  | argument .column (text path) _ | argument .table (text path) _ =>
      some (Identifier.lastSegment path)
  | _ => none

/-- The alias that a value stands for if it is one. -/
def aliasName? : Value → Option String
  | text name => if name.isEmpty then none else some name
  | _ => none

/-- The alias that a column carries itself. -/
def ownAlias? : Value → Option String
  | argument .column _ (name :: _) | argument .table _ (name :: _) => name.aliasName?
  | _ => none

end Value

/-- What is selected under a name: a column of the table, or what an expression comes to. -/
inductive Origin where
  | column (name : String)
  | expression (value : Value)

/-- What can be selected from a table. -/
structure Contents where
  columns : List String
  /-- The value of a column in the row under a key. -/
  cell : Int → String → Value
  /-- What an expression comes to in the row under a key. -/
  computed : Int → Value → Value
  /-- What an expression without an alias is called. -/
  heading : Value → String

namespace Contents

variable (contents : Contents)

def value (key : Int) : Origin → Value
  | .column name => contents.cell key name
  | .expression value => contents.computed key value

/-- The names that come back for an entry of a column list, each with what is selected under it. A
wildcard stands for all columns. -/
def output (fragment : Fragment) : List (String × Origin) :=
  let column := fragment.read "column"
  let aliasName := (fragment.read "alias").aliasName?.or column.ownAlias?
  match column.columnName? with
  | some name =>
      if name = Identifier.wildcard then contents.columns.map fun name => (name, .column name)
      else [(aliasName.getD name, .column name)]
  | none => [(aliasName.getD (contents.heading column), .expression column)]

def outputs (columns : List Fragment) : List (String × Origin) :=
  columns.flatMap contents.output

/-- The keys, and nothing else, are selected under the name of the index. -/
def Exposes (ledger : Ledger) (columns : List Fragment) (index : String) : Prop :=
  (∃ origin, (index, origin) ∈ contents.outputs columns) ∧
    ∀ key ∈ ledger.keys, ∀ origin, (index, origin) ∈ contents.outputs columns →
      contents.value key origin = .int key

/-- Nothing is selected under the name of the index. -/
def Hides (columns : List Fragment) (index : String) : Prop :=
  ∀ origin, (index, origin) ∉ contents.outputs columns

/-- The rows of a ledger hold what a list of columns selects, with one value under each name. The
index holds the keys. -/
structure Fills (ledger : Ledger) (columns : List Fragment) (index : String) : Prop where
  indexed : ∀ key ∈ ledger.keys, contents.cell key index = .int key
  rows : ∀ key ∈ ledger.keys, ∃ entries, (ledger.row key).toEntries = .ok entries ∧
    (∀ name value, Entries.find? entries (.text name) = some value →
      ∃ origin, (name, origin) ∈ contents.outputs columns ∧ value = contents.value key origin) ∧
    ∀ name origin, (name, origin) ∈ contents.outputs columns →
      ∃ value, Entries.find? entries (.text name) = some value

end Contents

/-! ### What the records show -/

namespace Mapper

variable {row : Value} {entries : Entries} {model : Option Model}

theorem exists_mapRow_open (h : row.toEntries = .ok entries)
    (hmodel : model = none ∨ model = some .exposed) :
    ∃ record, mapRow ⟨false, model, none⟩ row = .ok record ∧
      ∀ name, record.read name = entries.read name := by
  rcases hmodel with rfl | rfl
  · exact ⟨.row entries, by rw [mapRow, h]; rfl, fun _ => rfl⟩
  · exact ⟨.built .exposed none entries, by rw [mapRow, h]; rfl, fun _ => rfl⟩

theorem exists_mapRow_closed (h : row.toEntries = .ok entries) :
    ∃ record, mapRow ⟨false, some .closed, none⟩ row = .ok record ∧
      ∀ name, record.read name = .null :=
  ⟨.built .closed none entries, by rw [mapRow, h]; rfl, fun _ => rfl⟩

end Mapper

namespace Contents.Fills

variable {contents : Contents} {ledger : Ledger} {columns : List Fragment} {index : String}
  {model : Option Model} {key : Int}

/-- It is enough that the index is selected under its own name and nothing else is. -/
theorem exposes_of_index (h : contents.Fills ledger columns index)
    (hindex : ∀ origin, (index, origin) ∈ contents.outputs columns ↔ origin = .column index) :
    contents.Exposes ledger columns index := by
  refine ⟨⟨.column index, (hindex _).2 rfl⟩, fun key hkey origin horigin => ?_⟩
  obtain rfl := (hindex origin).1 horigin
  exact h.indexed key hkey

theorem yields_of_exposes (h : contents.Fills ledger columns index)
    (hexposes : contents.Exposes ledger columns index)
    (hmodel : model = none ∨ model = some .exposed) : ledger.Yields model index .int := by
  intro key hkey
  obtain ⟨entries, hentries, hnamed, hall⟩ := h.rows key hkey
  obtain ⟨record, hrecord, hread⟩ := Mapper.exists_mapRow_open hentries hmodel
  obtain ⟨⟨selected, hselected⟩, hkeys⟩ := hexposes
  obtain ⟨value, hvalue⟩ := hall index selected hselected
  obtain ⟨origin, horigin, rfl⟩ := hnamed index value hvalue
  refine ⟨record, ⟨hkey, none, hrecord⟩, ?_⟩
  rw [hread, Entries.read, hvalue]
  exact hkeys key hkey origin horigin

theorem yields_of_hides (h : contents.Fills ledger columns index)
    (hhides : contents.Hides columns index) (hmodel : model = none ∨ model = some .exposed) :
    ledger.Yields model index fun _ => .null := by
  intro key hkey
  obtain ⟨entries, hentries, hnamed, _⟩ := h.rows key hkey
  obtain ⟨record, hrecord, hread⟩ := Mapper.exists_mapRow_open hentries hmodel
  refine ⟨record, ⟨hkey, none, hrecord⟩, ?_⟩
  rw [hread, Entries.read]
  cases hvalue : Entries.find? entries (.text index) with
  | none => rfl
  | some value =>
      obtain ⟨origin, horigin, _⟩ := hnamed index value hvalue
      exact absurd horigin (hhides origin)

theorem yields_of_closed (h : contents.Fills ledger columns index) :
    ledger.Yields (some .closed) index fun _ => .null := by
  intro key hkey
  obtain ⟨entries, hentries, _⟩ := h.rows key hkey
  obtain ⟨record, hrecord, hread⟩ := Mapper.exists_mapRow_closed hentries
  exact ⟨record, ⟨hkey, none, hrecord⟩, hread index⟩

end Contents.Fills

/-! ### Walks over a list of columns -/

/-- A walk in chunks over a table with positive keys, whatever the columns of the template and the
model of its records are. A walk that returns has run the course that its records show, and it has
come to every row if each page ends with a record that shows its key. If the keys are selected under
the name of the index and the records can be read, that is so, and the walk returns. If they cannot
be read or nothing is selected under that name, it returns too, after the first page. -/
theorem Session.chunk_projected {κ σ : Type} [Connection κ] {ledger : Ledger} {contents : Contents}
    {feed : Feed κ σ} {session : Session κ σ} {id : Nat} {query : Query} {path : String}
    {size fuel : Nat} {visit : Visit κ σ} {changing : Set Nat} {handed : σ → List Visited}
    {given index : Value} (hsize : 1 ≤ size)
    (hgiven : given = .int size ∨ given = .null ∧ query.options.chunkSize = size)
    (hindex : index = .text path ∧ path ≠ "" ∨
      index.truthy = false ∧ query.options.chunkIndex = path)
    (htemplate : session.Template id query path size changing)
    (hledger : ∀ number, feed.ledgers number = ledger)
    (hserves : feed.Serves query path size) (hvisit : feed.Follows visit changing handed)
    (hshows : feed.shows 0 session)
    (hfills : contents.Fills ledger (query.blueprint.fragments .columns)
      (Identifier.lastSegment path))
    (hpositive : ∀ key ∈ ledger.keys, 0 < key) :
    let name := Identifier.lastSegment path
    let columns := query.blueprint.fragments .columns
    let walk := chunk fuel id given index visit
    let isOpen := query.model = none ∨ query.model = some .exposed
    (∀ later, play walk session = (.ok (), later) →
      ∃ pages visits,
        Ledger.Course (fun _ => ledger) size (ledger.shown query.model name) 0 (.int 0) pages ∧
        handed later.host = handed session.host ++ visits ∧
        Ledger.Handed (fun _ => ledger) query.model 0 pages visits ∧
        ((∀ page ∈ pages, ∀ last, page.getLast? = some last →
          ledger.shown query.model name last = .int last) → pages.flatten = ledger.keys.sort)) ∧
    (feed.Returns visit → ledger.keys.card < fuel →
      (isOpen → contents.Exposes ledger columns name →
        ledger.HandsOver query.model handed walk session ledger.keys.sort) ∧
      (query.model = some .closed ∨ isOpen ∧ contents.Hides columns name →
        ledger.HandsOver query.model handed walk session (ledger.keys.sort.take size) ∧
        ((∀ key ∈ ledger.keys, key ∈ ledger.keys.sort.take size) ↔ ledger.keys.card ≤ size))) := by
  intro name columns walk isOpen
  have hledgers : feed.ledgers = fun _ => ledger := funext hledger
  have hbehind := Ledger.behind_zero hpositive
  refine ⟨?_, ?_⟩
  · intro later hplay
    have hplay : play (chunk fuel id given index visit) session = (.ok (), later) := hplay
    rw [play_chunk hsize hgiven hindex htemplate.record] at hplay
    have hnext : ∀ number, ∀ key ∈ (feed.ledgers number).keys,
        (feed.ledgers number).shown query.model name key = ledger.shown query.model name key :=
      fun number key _ => by rw [hledger]
    obtain ⟨pages, visits, hcourse, hvisits, hhanded, -⟩ :=
      hserves.exists_course hvisit htemplate.kept hnext (.inl rfl) htemplate.record hshows hplay
    rw [hledgers] at hcourse hvisits
    refine ⟨pages, visits, hcourse, hhanded, hvisits, fun hshown => ?_⟩
    rw [hcourse.flatten_eq hsize hshown, hbehind]
  · intro hreturns hfuel
    constructor
    · intro hmodel hexposes
      have hover := Ledger.handsOver_shown hsize hledger hgiven hindex htemplate hserves hvisit
        hreturns hshows hfuel (hfills.yields_of_exposes hexposes hmodel)
      rwa [hbehind] at hover
    · intro hlost
      have hvalue : ledger.Yields query.model name fun _ => .null := by
        rcases hlost with hclosed | ⟨hmodel, hhides⟩
        · rw [hclosed]
          exact hfills.yields_of_closed
        · exact hfills.yields_of_hides hhides hmodel
      have hover := Ledger.handsOver_hidden hsize hledger hgiven hindex htemplate hserves hvisit
        hreturns hshows hfuel hvalue
      rw [Ledger.page, hbehind] at hover
      exact ⟨hover, Ledger.forall_mem_take_iff ledger.keys size⟩

namespace Cabinet

def renamed : Query :=
  everything.addColumn (.text "id") (.text "pk")

def contents : Contents where
  columns := ["id"]
  cell key _ := .int key
  computed _ _ := .null
  heading _ := ""

theorem bound_renamed (store : Store) : renamed.boundBehind store = [] := by
  rw [Query.boundBehind, members_eq_nil (by decide +kernel)]
  decide +kernel

theorem IsLabelled.serves_renamed {cabinet : Cabinet} {label : String}
    (h : cabinet.IsLabelled label) : cabinet.feed.Serves renamed "id" cabinet.size :=
  h.serves rfl rfl (by decide) bound_renamed "id"

theorem template_renamed (cabinet : Cabinet) :
    (cabinet.session renamed).Template 0 renamed "id" 2 ∅ := by
  have hbuilds : ((Store.empty.add renamed).2.build
      (renamed.selectBehind "id" (.int 0) 2)).toOption.isSome = true := by decide +kernel
  exact template hbuilds (by decide +kernel)

theorem outputs_renamed :
    contents.outputs (renamed.blueprint.fragments .columns) = [("pk", .column "id")] := by
  rfl

theorem fills (name : String) (keys : Finset Int) {columns : List Fragment}
    (h : contents.outputs columns = [(name, .column "id")]) :
    contents.Fills (.labelled name keys) columns "id" where
  indexed _ _ := rfl
  rows key _ := by
    have hfind : ∀ label, Entries.find? [(.text name, .int key)] (.text label) =
        if name = label then some (.int key) else none :=
      fun label => Entries.find?_cons_text name label (.int key) []
    refine ⟨[(.text name, .int key)], rfl, ?_, ?_⟩
    · intro label value hvalue
      rw [hfind] at hvalue
      split at hvalue
      · next hlabel =>
          cases hvalue
          refine ⟨.column "id", ?_, rfl⟩
          rw [h, hlabel]
          exact List.mem_singleton_self _
      · cases hvalue
    · intro label origin horigin
      rw [h, List.mem_singleton] at horigin
      cases horigin
      exact ⟨.int key, (hfind name).trans (if_pos rfl)⟩

theorem outputs_everything :
    contents.outputs (everything.blueprint.fragments .columns) = [("id", .column "id")] := by
  rfl

end Cabinet

open Cabinet in
/-- Two walks over three rows, with the index under its own name and under another. -/
theorem Session.chunk_projected_labelled :
    (Ledger.labelled "id" {1, 2, 3}).HandsOver none (fun visits => visits)
        (chunk 4 0 (.int 2) .null visit)
        ((unchanging (.labelled "id" {1, 2, 3})).session everything) [1, 2, 3] ∧
      (Ledger.labelled "pk" {1, 2, 3}).HandsOver none (fun visits => visits)
        (chunk 4 0 (.int 2) .null visit)
        ((unchanging (.labelled "pk" {1, 2, 3})).session renamed) [1, 2] := by
  have hcard : ({1, 2, 3} : Finset Int).card < 4 := by decide
  have hpositive : ∀ key ∈ ({1, 2, 3} : Finset Int), 0 < key := by decide
  have hall : (Ledger.labelled "id" {1, 2, 3}).keys.sort = [1, 2, 3] :=
    sort_eq (by decide) (by decide)
  have hfirst : (Ledger.labelled "pk" {1, 2, 3}).keys.sort.take 2 = [1, 2] :=
    congrArg (List.take 2) hall
  have hname := fills "id" {1, 2, 3} outputs_everything
  have hother := fills "pk" {1, 2, 3} outputs_renamed
  have hexposes : contents.Exposes (.labelled "id" {1, 2, 3})
      (everything.blueprint.fragments .columns) "id" := by
    refine hname.exposes_of_index fun origin => ?_
    rw [outputs_everything, List.mem_singleton, Prod.mk.injEq]
    exact and_iff_right rfl
  have hhides : contents.Hides (renamed.blueprint.fragments .columns) "id" := by
    intro origin horigin
    rw [outputs_renamed, List.mem_singleton, Prod.mk.injEq] at horigin
    exact absurd horigin.1 (by decide)
  rw [← lastSegment_id] at hname hother hexposes hhides
  obtain ⟨_, hkept⟩ := Session.chunk_projected (by decide) (given_two everything)
    (index_null rfl) (template_everything _) (ledgers_unchanging _)
    (labelled_unchanging "id" {1, 2, 3}).serves_everything (follows _) rfl hname hpositive
  obtain ⟨_, hlost⟩ := Session.chunk_projected (by decide) (given_two renamed)
    (index_null rfl) (template_renamed _) (ledgers_unchanging _)
    (labelled_unchanging "pk" {1, 2, 3}).serves_renamed (follows _) rfl hother hpositive
  rw [← hall, ← hfirst]
  exact ⟨(hkept (returns _) hcard).1 (.inl rfl) hexposes,
    ((hlost (returns _) hcard).2 (.inr ⟨.inl rfl, hhides⟩)).1⟩

open Cabinet in
/-- The last of three rows is lost when the index has another name in the rows: the visits go on,
the rows hold what the template selects, every page is answered from the table, and the walk returns
after the first page. -/
theorem Session.chunk_loses_cursor :
    contents.Fills (.labelled "pk" {1, 2, 3}) (renamed.blueprint.fragments .columns) "id" ∧
      (unchanging (.labelled "pk" {1, 2, 3})).feed.Serves renamed "id" 2 ∧
      (unchanging (.labelled "pk" {1, 2, 3})).feed.Follows visit ∅ (fun visits => visits) ∧
      3 ∈ (Ledger.labelled "pk" {1, 2, 3}).keys ∧
      ∃ later, play (chunk 4 0 (.int 2) .null visit)
          ((unchanging (.labelled "pk" {1, 2, 3})).session renamed) = (.ok (), later) ∧
        Visited.shown later.host "pk" = [.int 1, .int 2] := by
  have hserves := (labelled_unchanging "pk" {1, 2, 3}).serves_renamed
  have hfuel : ({1, 2, 3} : Finset Int).card < 4 := by decide
  have hvalue : (Ledger.labelled "pk" {1, 2, 3}).Yields renamed.model
      (Identifier.lastSegment "id") fun _ => .null := by
    intro key hkey
    refine ⟨.row [(.text "pk", .int key)], ⟨hkey, none, rfl⟩, ?_⟩
    rw [lastSegment_id]
    rfl
  refine ⟨fills "pk" {1, 2, 3} outputs_renamed, hserves, follows _, by decide, ?_⟩
  have hover := Ledger.handsOver_hidden (by decide) (ledgers_unchanging _) (given_two renamed)
    (index_null rfl) (template_renamed _) hserves (follows _) (returns _) rfl hfuel hvalue
  have hpositive : ((Ledger.labelled "pk" {1, 2, 3}).keys.filter (0 < ·)).sort = [1, 2, 3] :=
    sort_eq (by decide) (by decide)
  rw [Ledger.page, Ledger.behind_int, hpositive] at hover
  exact exists_shown hover "pk"

end SqlBuilder
