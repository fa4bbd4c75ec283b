import SqlBuilder.Proofs.Paging.Behind
import SqlBuilder.Proofs.Paging.Walk
import SqlBuilder.Proofs.Predicate.Built
import SqlBuilder.Proofs.Predicate.Truth
import SqlBuilder.Proofs.Rendering

/-!
# What a page selects

A page is its template's select with other conditions, an order and a window. Its conditions are
read as those of the template in parentheses and, behind AND, that the index is greater than the
cursor; so a row is on a page only if the template selects it, whatever alternatives the template
has. The cursor is bound behind the values of the template's conditions.
-/

namespace SqlBuilder

open Outcome Session

def Predicate.behind (index : Path) (cursor : Comparand) : Predicate :=
  .comparison .and index .greater cursor

/-- The predicates of a page: those of its template in a group, if there are any, and the one on the
cursor. -/
def Level.paged (members : List Predicate) (last : Predicate) : Level :=
  match members with
  | [] => ⟨last, []⟩
  | first :: rest => ⟨.group .and first rest, [last]⟩

/-- Whether a list of predicates holds; an empty one does. -/
def Predicate.allHold (verdict : Verdict) : List Predicate → Bool
  | [] => true
  | first :: rest => Level.holds verdict ⟨first, rest⟩

theorem Level.holds_paged (verdict : Verdict) (members : List Predicate) (index : Path)
    (cursor : Comparand) :
    (Level.paged members (.behind index cursor)).holds verdict =
      (Predicate.allHold verdict members && verdict index .greater cursor) := by
  cases members with
  | nil => simp [paged, holds, Predicate.allHold, Predicate.behind, Predicate.holds,
      Predicate.holdsBehind]
  | cons first rest => simp [paged, holds, Predicate.allHold, Predicate.behind, Predicate.holds,
      Predicate.holdsBehind, Predicate.keyword]

theorem Level.bound_paged (members : List Predicate) (index : Path) (cursor : Comparand) :
    (Level.paged members (.behind index cursor)).bound =
      Predicate.boundRest members ++ cursor.bound := by
  cases members with
  | nil => simp [paged, bound, Predicate.behind, Predicate.bound, Predicate.boundRest]
  | cons first rest => simp [paged, bound, Predicate.behind, Predicate.bound, Predicate.boundRest]

/-- A clause that says whether a row is selected: it can be compiled, and the answer is read from
its text and its values. -/
def Verdict.Decides (verdict : Verdict) (quote : Quoting) (filter : Except Error Tokens)
    (answer : Bool) : Prop :=
  ∃ tokens, filter = .ok tokens ∧
    verdict.read (tokens.render quote) tokens.parameters = some answer

/-! ### The conditions of a template and of its page -/

section Conditions

variable (scope : Scope) {blueprint : Blueprint}

/-- A level is written behind its keyword, with its values beside it, and is read from there. -/
theorem Level.exists_filter (level : Level)
    (h : Condition.ofFragments (blueprint.fragments .where) =
      Predicate.conditions (level.first :: level.rest)) :
    ∃ tokens, Statement.conditions scope "WHERE" .where blueprint = .ok tokens ∧
      tokens.parameters = level.bound ∧
      ∀ verdict : Verdict, verdict.read (tokens.render Identifier.backtick) tokens.parameters =
        some (level.holds verdict) := by
  obtain ⟨body, hbody, hrender, hparameters⟩ := levelTokens_conditions scope .where level
  have hshown : body.vanishes = false := by
    rw [Bool.eq_false_iff]
    intro hvanishes
    rw [Tokens.render_of_vanishes _ hvanishes] at hrender
    exact level.first.written_ne_nil (List.append_eq_nil_iff.1 hrender.symm).1
  have hheaded : Tokens.headed "WHERE" body = .literal "WHERE " :: body := by
    rw [Tokens.headed, hshown]
    rfl
  have htext : Tokens.render Identifier.backtick (.literal "WHERE " :: body) =
      "WHERE " ++ String.ofList level.written := by
    rw [Tokens.render_cons, ← hrender, String.ofList_toList]
    rfl
  refine ⟨.literal "WHERE " :: body, ?_, hparameters, fun verdict => ?_⟩
  · rw [Statement.conditions, h, hbody, ok_bind, hheaded]
    rfl
  · rw [htext, Tokens.parameters_literal, hparameters, verdict.read_written]

/-- Without predicates there is no clause, and every row is selected. -/
theorem Predicate.exists_filter {members : List Predicate}
    (h : Condition.ofFragments (blueprint.fragments .where) = Predicate.conditions members) :
    ∃ tokens, Statement.conditions scope "WHERE" .where blueprint = .ok tokens ∧
      tokens.parameters = boundRest members ∧
      ∀ verdict : Verdict, verdict.read (tokens.render Identifier.backtick) tokens.parameters =
        some (allHold verdict members) := by
  cases members with
  | nil =>
      refine ⟨[], ?_, rfl, fun verdict => verdict.read_empty []⟩
      rw [Statement.conditions, h, conditions, Condition.levelTokens, Condition.pieces]
      rfl
  | cons first rest => exact Level.exists_filter scope ⟨first, rest⟩ h

end Conditions

namespace Query

variable {query : Query} {members : List Predicate} {cursor : Value} {bound : Comparand}

theorem conditions_page (index : Path)
    (hwhere : query.blueprint.fragments .where = Predicate.fragments members)
    (hcursor : boundValue cursor = boundValue bound.value) (size : Nat) :
    Condition.ofFragments
        ((query.selectBehind index.text cursor size).blueprint.fragments .where) =
      Predicate.conditions ((Level.paged members (.behind index bound)).first ::
        (Level.paged members (.behind index bound)).rest) := by
  rw [conditions_selectBehind, groupedConditions, hwhere, hcursor]
  cases members with
  | nil => rfl
  | cons first rest =>
      have hmembers := Predicate.ofFragments_fragments (first :: rest)
      rw [Predicate.fragments] at hmembers ⊢
      dsimp only
      rw [hmembers]
      rfl

end Query

/-- A page of a template in a store. Its clauses are those of the template as a select, except that
it has conditions of its own, is ordered by the index and is as long as a page. It can be built if
the template can and the size is not too long a number. It binds the cursor behind the values of the
template's conditions. In the default quoting, its conditions select a row if those of the template
do and the row lies behind the cursor. -/
structure Store.Restricts (store : Store) (template page : Query) (members : List Predicate)
    (index : Path) (bound : Comparand) (size : Nat) : Prop where
  clauses : ∃ filter, store.clauses page =
    (store.clauses template).paged (.ok filter) index.text size
  template_build : store.build (template.withType .select) =
    template.compiler.finish <$> (store.clauses template).whole
  page_build : store.build page = template.compiler.finish <$> (store.clauses page).whole
  builds : (∃ compiled, store.build (template.withType .select) = .ok compiled) →
    size < Decimal.tenTo Decimal.digitLimit → ∃ compiled, store.build page = .ok compiled
  template_parameters : ∀ compiled, store.build (template.withType .select) = .ok compiled →
    compiled.parameters = (store.clauses template).before ++ Predicate.boundRest members ++
      (store.clauses template).behind
  page_parameters : ∀ compiled, store.build page = .ok compiled →
    compiled.parameters = (store.clauses template).before ++ Predicate.boundRest members ++
      bound.bound ++ (store.clauses template).behind
  decides : template.compiler.quote = Identifier.backtick → ∀ verdict : Verdict, ∃ answer,
    verdict.Decides template.compiler.quote (store.clauses template).filter answer ∧
      verdict.Decides template.compiler.quote (store.clauses page).filter
        (answer && verdict index .greater bound)

namespace Store

variable (store : Store) {query : Query} {members : List Predicate} {cursor : Value}
  {bound : Comparand}

theorem restricts (hwhere : query.blueprint.fragments .where = Predicate.fragments members)
    (index : Path) (hcursor : Query.boundValue cursor = Query.boundValue bound.value)
    (size : Nat) :
    store.Restricts query (query.selectBehind index.text cursor size) members index bound size := by
  have hmembers : Condition.ofFragments (query.blueprint.fragments .where) =
      Predicate.conditions members := by rw [hwhere, Predicate.ofFragments_fragments]
  have hpage := Query.conditions_page index hwhere hcursor size
  obtain ⟨own, hown, hownBound, hownRead⟩ :=
    Predicate.exists_filter store.scope hmembers
  obtain ⟨filter, hfilter, hbound, hread⟩ := Level.exists_filter store.scope _ hpage
  have hownClause : (store.clauses query).filter = .ok own := hown
  have hclause : (store.clauses (query.selectBehind index.text cursor size)).filter =
      .ok filter := hfilter
  have hclauses := store.clauses_selectBehind query index.text cursor size
  rw [hclause] at hclauses
  have htemplate := store.build_select (query.withType .select) rfl
  rw [clauses_withType, Query.compiler_withType] at htemplate
  have hcompiler := query.compiler_selectBehind index.text cursor size
  have hbuild := store.build_select (query.selectBehind index.text cursor size) rfl
  rw [hcompiler] at hbuild
  exact
    { clauses := ⟨filter, hclauses⟩
      template_build := htemplate
      page_build := hbuild
      builds := by
        rintro ⟨compiled, hcompiled⟩ hsize
        rw [htemplate] at hcompiled
        obtain ⟨tokens, htokens, -⟩ := map_eq_ok.1 hcompiled
        obtain ⟨paged, hpaged⟩ := Clauses.exists_whole_paged index.text htokens filter hsize
        rw [hbuild, hclauses, hpaged]
        exact ⟨_, rfl⟩
      template_parameters := by
        intro compiled hcompiled
        have hparameters := store.parameters_select (query.withType .select) rfl hcompiled
        rw [clauses_withType, hownClause] at hparameters
        rw [hparameters, Clauses.bound, hownBound]
      page_parameters := by
        intro compiled hcompiled
        have hparameters := store.parameters_select _ rfl hcompiled
        rw [hclause, hclauses, Clauses.before_paged, Clauses.behind_paged] at hparameters
        rw [hparameters, Clauses.bound, hbound, Level.bound_paged, ← List.append_assoc]
      decides := by
        intro hquote verdict
        rw [hquote]
        refine ⟨_, ⟨own, hownClause, hownRead verdict⟩, filter, hclause, ?_⟩
        rw [hread verdict, Level.holds_paged] }

end Store

namespace Session

variable {κ σ : Type}

variable [Connection κ] {session : Session κ σ} {id : Nat}

/-- A walk in chunks goes from page to page. Each page is a query of its own that is built and sent
on the connection of the template, as the template is by then, and it restricts the template. The
template builds the same with the page beside it. -/
theorem chunk_restricts {query : Query} {index : Path} {size : Nat} {given named : Value}
    (hsize : 1 ≤ size)
    (hgiven : given = .int size ∨ given = .null ∧ query.options.chunkSize = size)
    (hindex : named = .text index.text ∨
      named.truthy = false ∧ query.options.chunkIndex = index.text)
    (hrecord : session.store.queries[id]? = some query) (visit : Visit κ σ) (fuel : Nat) :
    play (chunk fuel id given named visit) session =
        play (walkFrom id (Walk.over index.text size) visit fuel 1 (.int 0)) session ∧
      ∀ (later : Session κ σ) (template : Query) (members : List Predicate) (cursor : Value)
        (bound : Comparand) (fuel number : Nat),
        later.store.queries[id]? = some template →
        template.blueprint.fragments .where = Predicate.fragments members →
        Query.boundValue cursor = Query.boundValue bound.value →
        let page := template.selectBehind index.text cursor size
        let sending := later.opening (template.behind index.text cursor size)
        play (walkFrom id (Walk.over index.text size) visit (fuel + 1) number cursor) later =
            play (do
              let compiled ← liftM (sending.store.build page)
              let records ← send template later.store.queries.size compiled
              (Walk.over index.text size).visitPage id visit fuel number records) sending ∧
          sending.store.Restricts template page members index bound size ∧
          (later.store.Anchors (template.withType .select).blueprint →
            sending.store.build (template.withType .select) =
              later.store.build (template.withType .select)) := by
  have hnamed : named = .text index.text ∧ index.text ≠ "" ∨
      named.truthy = false ∧ query.options.chunkIndex = index.text :=
    hindex.imp_left fun htext => ⟨htext, index.nonempty⟩
  refine ⟨play_chunk hsize hgiven hnamed hrecord visit fuel, ?_⟩
  · intro later template members cursor bound fuel number htemplate hwhere hcursor
    refine ⟨play_walkFrom_succ htemplate index.text size visit fuel number cursor, ?_, ?_⟩
    · exact Store.restricts _ hwhere index hcursor size
    · intro hanchors
      exact (keeps_opening later _).build_eq hanchors fun other hother => hother.elim

end Session

/-! ### A template with alternatives -/

namespace Alternatives

def index : Path := ⟨"t.id", by decide⟩

def cursor : Comparand := .single (.int 7) rfl

def members : List Predicate :=
  [.comparison .and ⟨"a", by decide⟩ .equal (.single (.int 1) rfl),
    .comparison .or ⟨"b", by decide⟩ .isIn (.items (.int 2) [.int 3])]

def template : Query :=
  let query := (Query.new 0 .mysql Options.standard).setTable (.text "t") (.text "")
  ((query.extend .where (Predicate.fragments members)).add .order
    [("column", .column "c"), ("sort", .text "DESC")]).setLimit (.int 5) (.int 1)

def session : Session RecordingConnection Unit :=
  (Session.start ()).withAdded template

def visit : Visit RecordingConnection Unit := fun _ _ _ => return true

def text : String :=
  "SELECT * FROM \x60t\x60 WHERE (\x60a\x60 = ? OR \x60b\x60 IN (?, ?)) AND " ++
    "\x60t\x60.\x60id\x60 > ? ORDER BY \x60t\x60.\x60id\x60 ASC LIMIT 2"

def sending : Session RecordingConnection Unit :=
  session.opening (template.behind index.text (.int 7) 2)

end Alternatives

open Alternatives in
/-- The alternatives of the template stay together in front of the cursor. -/
theorem Session.chunk_restricts_alternatives :
    play (chunk 3 0 (.int 2) (.text "t.id") visit) session =
        play (walkFrom 0 (Walk.over "t.id" 2) visit 3 1 (.int 0)) session ∧
      sending.store.Restricts template (template.selectBehind "t.id" (.int 7) 2) members index
        cursor 2 ∧
      ∃ compiled, sending.store.build (template.selectBehind "t.id" (.int 7) 2) = .ok compiled ∧
        compiled.sql = text ∧
        compiled.parameters = [.int 1, .int 2, .int 3, .int 7] := by
  have hgiven : Value.int 2 = .int (2 : Nat) ∨
      Value.int 2 = .null ∧ template.options.chunkSize = (2 : Nat) := .inl rfl
  have hindex : Value.text "t.id" = .text index.text ∨
      (Value.text "t.id").truthy = false ∧ template.options.chunkIndex = index.text := .inl rfl
  have hrecord : session.store.queries[0]? = some template := rfl
  obtain ⟨hwalk, hpages⟩ :=
    Session.chunk_restricts (by decide) hgiven hindex hrecord visit 3
  have hwhere : template.blueprint.fragments .where = Predicate.fragments members := rfl
  have hrestricts : sending.store.Restricts template
      (template.selectBehind "t.id" (.int 7) 2) members index cursor 2 :=
    (hpages session template members (.int 7) cursor 2 4 hrecord hwhere rfl).2.1
  have hbefore : (sending.store.clauses template).before = [] := by decide +kernel
  have hbehind : (sending.store.clauses template).behind = [] := by decide +kernel
  have hsql : (sending.store.build (template.selectBehind "t.id" (.int 7) 2)).toOption.map
      Compiled.sql = some text := by decide +kernel
  refine ⟨hwalk, hrestricts, ?_⟩
  cases hbuild : sending.store.build (template.selectBehind "t.id" (.int 7) 2) with
  | error cause =>
      rw [hbuild] at hsql
      cases hsql
  | ok compiled =>
      rw [hbuild] at hsql
      have hparameters := hrestricts.page_parameters compiled hbuild
      rw [hbefore, hbehind] at hparameters
      exact ⟨compiled, rfl, Option.some.inj hsql, hparameters⟩

end SqlBuilder
