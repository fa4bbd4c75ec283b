import SqlBuilder.Connection.Recording
import SqlBuilder.Proofs.Clauses
import SqlBuilder.Proofs.Description
import SqlBuilder.Proofs.Isolation
import SqlBuilder.Proofs.Program

/-!
# Only the order within a clause matters

A call that describes a statement touches one clause, or two where a table brings its columns with
it. What it makes of a clause depends on that clause and on what no call changes, and every other
clause it leaves as it is. So what a program makes of a clause is what those of its calls make of it
that touch it, and programs that agree on these for every clause describe the same statement.
-/

namespace SqlBuilder

open Outcome Session

/-- The clauses that an edit touches. -/
def Edit.touched : Edit → List Clause
  | table _ _ => [.tables, .columns]
  | fromTable _ _ => [.tables]
  | column _ _ => [.columns]
  | join _ _ _ _ _ => [.join]
  | condition clause _ _ _ _ => [clause]
  | group _ => [.group]
  | order _ _ => [.order]
  | limit _ _ | page _ _ => [.limit]
  | union _ => [.union]

/-! ### Queries that agree on a clause -/

/-- Two queries that are on a par and have the same in one clause. That no column has been named yet
belongs to the columns. -/
structure Query.SameAt (clause : Clause) (query other : Query) : Prop where
  connection : other.connection = query.connection
  compiler : other.compiler = query.compiler
  options : other.options = query.options
  type : other.blueprint.type = query.blueprint.type
  fragments : other.blueprint.fragments clause = query.blueprint.fragments clause
  blank : clause = .columns → other.blank = query.blank

namespace Query.SameAt

variable {clause : Clause} {query other third : Query}

theorem refl (clause : Clause) (query : Query) : SameAt clause query query :=
  ⟨rfl, rfl, rfl, rfl, rfl, fun _ => rfl⟩

theorem symm (h : SameAt clause query other) : SameAt clause other query where
  connection := h.connection.symm
  compiler := h.compiler.symm
  options := h.options.symm
  type := h.type.symm
  fragments := h.fragments.symm
  blank hclause := (h.blank hclause).symm

theorem trans (hfirst : SameAt clause query other) (hsecond : SameAt clause other third) :
    SameAt clause query third where
  connection := hsecond.connection.trans hfirst.connection
  compiler := hsecond.compiler.trans hfirst.compiler
  options := hsecond.options.trans hfirst.options
  type := hsecond.type.trans hfirst.type
  fragments := hsecond.fragments.trans hfirst.fragments
  blank hclause := (hsecond.blank hclause).trans (hfirst.blank hclause)

theorem nested (h : SameAt clause query other) : other.nested = query.nested := by
  rw [Query.nested, Query.nested, h.connection, h.compiler, h.options]

end Query.SameAt

/-! ### What an edit makes of a clause -/

namespace Query.SameAt

variable {clause : Clause} {query other : Query}

theorem of_akin (h : query.Akin other)
    (hfragments : other.blueprint.fragments clause = query.blueprint.fragments clause)
    (hblank : clause = .columns → other.blank = query.blank) : SameAt clause query other :=
  ⟨h.connection, h.compiler, h.options, h.type, hfragments, hblank⟩

theorem add (h : SameAt clause query other) (target : Clause)
    (attributes : List (String × Value)) :
    SameAt clause (query.add target attributes) (other.add target attributes) where
  connection := h.connection
  compiler := h.compiler
  options := h.options
  type := h.type
  fragments := by simp [h.fragments]
  blank := h.blank

theorem reset (h : SameAt clause query other) (target : Clause) :
    SameAt clause (query.reset target) (other.reset target) where
  connection := h.connection
  compiler := h.compiler
  options := h.options
  type := h.type
  fragments := by simp [h.fragments]
  blank := h.blank

theorem setLimit (h : SameAt clause query other) (limit offset : Value) :
    SameAt clause (query.setLimit limit offset) (other.setLimit limit offset) :=
  (h.reset .limit).add .limit _

theorem named (h : SameAt clause query other) :
    SameAt clause { query with blank := false } { other with blank := false } where
  connection := h.connection
  compiler := h.compiler
  options := h.options
  type := h.type
  fragments := h.fragments
  blank _ := rfl

/-- The columns that come of naming one depend on the columns and on whether it is the first. -/
theorem addColumn (h : SameAt .columns query other) (column aliasName : Value) :
    SameAt .columns (query.addColumn column aliasName) (other.addColumn column aliasName) := by
  have hcleared : SameAt .columns
      (if column.isWildcard || query.blank then query.reset .columns else query)
      (if column.isWildcard || query.blank then other.reset .columns else other) := by
    split
    · exact h.reset .columns
    · exact h
  rw [Query.addColumn, Query.addColumn, h.blank rfl]
  split
  · exact hcleared.add .columns _
  · exact hcleared.named.add .columns _

theorem addTable (h : SameAt clause query other) (table aliasName : Value) :
    SameAt clause (query.addTable table aliasName) (other.addTable table aliasName) :=
  h.add .tables _

theorem of_add (query : Query) {target : Clause} (hne : clause ≠ target)
    (attributes : List (String × Value)) : SameAt clause query (query.add target attributes) :=
  of_akin (.add query target attributes) (by simp [hne.symm]) fun _ => rfl

theorem of_setLimit (query : Query) (hne : clause ≠ .limit) (limit offset : Value) :
    SameAt clause query (query.setLimit limit offset) :=
  of_akin (.setLimit query limit offset) (by simp [Query.setLimit, hne.symm]) fun _ => rfl

theorem of_addColumn (query : Query) (hne : clause ≠ .columns) (column aliasName : Value) :
    SameAt clause query (query.addColumn column aliasName) := by
  refine of_akin (.addColumn query column aliasName) ?_ fun heq => absurd heq hne
  have hother : (Clause.columns == clause) = false := by simpa using hne.symm
  rw [Query.addColumn]
  cases column.isWildcard || query.blank <;> cases column.isWildcard <;> simp [hother]

/-- A table brings nothing with it but columns. -/
theorem of_setTable (query : Query) (hne : clause ≠ .columns) (table aliasName : Value) :
    SameAt clause (query.addTable table aliasName) (query.setTable table aliasName) := by
  rw [Query.setTable]
  split
  · exact of_addColumn _ hne _ _
  · exact refl clause _

theorem setTable (h : SameAt clause query other) (table aliasName : Value) :
    SameAt clause (query.setTable table aliasName) (other.setTable table aliasName) := by
  have htable := h.addTable table aliasName
  by_cases hclause : clause = .columns
  · subst hclause
    rw [Query.setTable, Query.setTable, htable.blank rfl]
    split
    · exact htable.addColumn _ _
    · exact htable
  · exact (of_setTable query hclause _ _).symm.trans
      (htable.trans (of_setTable other hclause _ _))

end Query.SameAt

namespace Edit

variable {clause : Clause} {query other : Query}

theorem kept {edit : Edit} {changed : Query} (h : edit.change query = .ok changed)
    (hclause : clause ∉ edit.touched) : query.SameAt clause changed := by
  cases edit with
  | table name aliasName =>
      simp only [touched, List.mem_cons, List.not_mem_nil, or_false, not_or] at hclause
      obtain rfl := Except.ok.inj h
      exact (Query.SameAt.of_add query hclause.1 _).trans (.of_setTable query hclause.2 _ _)
  | column name aliasName =>
      rw [touched, List.mem_singleton] at hclause
      obtain rfl := Except.ok.inj h
      exact .of_addColumn query hclause _ _
  | limit number offset =>
      rw [touched, List.mem_singleton] at hclause
      obtain rfl := Except.ok.inj h
      exact .of_setLimit query hclause _ _
  | page number size =>
      rw [touched, List.mem_singleton] at hclause
      obtain ⟨_, -, hchanged⟩ := bind_eq_ok.1 h
      obtain ⟨_, -, hchanged⟩ := bind_eq_ok.1 hchanged
      obtain rfl := pure_eq_ok.1 hchanged
      exact .of_setLimit query hclause _ _
  | join _ _ _ _ _ | condition _ _ _ _ _ | order _ _ =>
      rw [touched, List.mem_singleton] at hclause
      obtain ⟨_, -, hchanged⟩ := bind_eq_ok.1 h
      obtain rfl := pure_eq_ok.1 hchanged
      exact .of_add query hclause _
  | fromTable _ _ | group _ | union _ =>
      rw [touched, List.mem_singleton] at hclause
      obtain rfl := Except.ok.inj h
      exact .of_add query hclause _

/-- What an edit makes of a clause that it touches depends on that clause. -/
theorem same {edit : Edit} (h : query.SameAt clause other) (hclause : clause ∈ edit.touched) :
    Related (Query.SameAt clause) (edit.change query) (edit.change other) := by
  cases edit with
  | table name aliasName => exact .ok (h.setTable name aliasName)
  | fromTable name aliasName => exact .ok (h.addTable name aliasName)
  | column name aliasName =>
      obtain rfl := List.mem_singleton.1 hclause
      exact .ok (h.addColumn name aliasName)
  | limit number offset => exact .ok (h.setLimit number offset)
  | page number size =>
      rw [change, change]
      unfold Query.setPage
      rw [h.options]
      apply Related.afterSame
      intro pagesBefore _
      apply Related.afterSame
      intro offset _
      exact .ok (h.setLimit _ offset)
  | join _ _ _ _ _ | condition _ _ _ _ _ | order _ _ =>
      apply Related.afterSame
      intro capitals _
      exact .ok (h.add _ _)
  | group _ | union _ => exact .ok (h.add _ _)

end Edit

/-! ### What a call makes of a clause -/

variable {κ σ : Type}

/-- The clauses that a call touches which describes a statement. -/
def Call.touched : Call κ σ → List Clause
  | table _ _ => [.tables, .columns]
  | fromTable _ _ => [.tables]
  | column _ _ => [.columns]
  | join _ _ _ _ _ | leftJoin _ _ _ _ | rightJoin _ _ _ _ => [.join]
  | filter _ _ _ _ | orFilter _ _ _ | filterColumn _ _ _ _ => [.where]
  | filterIn _ _ _ | filterNotIn _ _ _ | filterNull _ _ | filterNotNull _ _ => [.where]
  | having _ _ _ _ | havingColumn _ _ _ _ => [.having]
  | group _ => [.group]
  | order _ _ => [.order]
  | limit _ _ | page _ _ => [.limit]
  | union _ => [.union]
  | _ => []

/-- Whatever its arguments are, the edit that a call comes to touches the clauses of the call. -/
theorem Call.touched_edit {call : Call κ σ} {description : Description κ σ}
    (h : call.description? = some description) (value settled : Value) :
    (description.edit value settled).touched = call.touched := by
  cases call with
  | select _ | rows | first | count _ | sum _ | minimum _ | maximum _ | average _ => cases h
  | insert _ | upsert _ _ _ | update _ | delete | truncate => cases h
  | _ =>
      rw [← Option.some.inj h]
      rfl

/-- A callback acts only on the nested query it is handed, and what it does to that depends on
nothing else. -/
def Operand.Sealed : Operand κ σ → Prop
  | value _ => True
  | callback mark fill => Operand.Confined ∅ (.callback mark fill) ∧
      ∃ effect : Query → Step.Effect, ∀ (session : Session κ σ) (id : Nat) (current : Query),
        session.store.queries[id]? = some current → session.Plays id (fill id) (effect current)

theorem Operand.Sealed.confined {operand : Operand κ σ} (h : operand.Sealed) (ids : Set Nat) :
    operand.Confined ids := by
  cases operand with
  | value value => trivial
  | callback mark fill =>
      intro nested
      exact (h.1 nested).mono (Set.union_subset_union_left {nested} (Set.empty_subset ids))

/-- What a sealed operand stands for depends on the nested query alone. -/
theorem Operand.Sealed.exists_settled {operand : Operand κ σ} (h : operand.Sealed) (clause : Clause)
    (reference : Value → Value) :
    ∃ settled : Query → Except Error Value, ∀ (session : Session κ σ) (id : Nat) (current : Query),
      session.store.queries[id]? = some current →
      ∃ later, play (settle id clause reference operand) session =
          (settled current.nested, later) ∧
        later.store.queries[id]? = some current := by
  cases operand with
  | value value =>
      exact ⟨fun _ => .ok (reference value), fun session id current hcurrent =>
        ⟨session, rfl, hcurrent⟩⟩
  | callback mark fill =>
      obtain ⟨hconfined, effect, hplays⟩ := h
      refine ⟨fun nested => Step.captured clause (effect nested), ?_⟩
      intro session id current hcurrent
      exact exists_settle_callback hcurrent clause reference hconfined
        (hplays _ _ _ (queries_withAdded session current.nested))

namespace Operation

/-- The operations of a program that describes a statement: calls that do, whose callbacks are
sealed, and changes of the model. -/
def Builds : Operation κ σ → Prop
  | call made => ∃ description, made.description? = some description ∧ description.operand.Sealed
  | setModel _ => True
  | _ => False

def touches (clause : Clause) : Operation κ σ → Bool
  | call made => made.touched.contains clause
  | _ => false

variable [Connection κ]

/-- What an operation makes of its query: it leaves every clause alone that it does not touch, and
what it makes of a clause that it touches depends on that clause. -/
structure Advances (operation : Operation κ σ) (advance : Query → Query) : Prop where
  record : ∀ (session : Session κ σ) (id : Nat) (current : Query),
    session.store.queries[id]? = some current →
    (play (operation.run id) session).2.store.queries[id]? = some (advance current)
  kept : ∀ (clause : Clause) (query : Query), operation.touches clause = false →
    query.SameAt clause (advance query)
  same : ∀ (clause : Clause) (query other : Query), operation.touches clause = true →
    query.SameAt clause other → (advance query).SameAt clause (advance other)

end Operation

theorem Query.SameAt.attempted {clause : Clause} {query other : Query}
    {result outcome : Except Error Query} (h : query.SameAt clause other)
    (hresult : Related (Query.SameAt clause) result outcome) :
    (Step.attempted query result).2.SameAt clause (Step.attempted other outcome).2 := by
  cases hresult with
  | ok hsame => exact hsame
  | error cause => exact h

namespace Operation

variable [Connection κ]

theorem exists_advances_call {made : Call κ σ} {description : Description κ σ}
    (hdescription : made.description? = some description) (hsealed : description.operand.Sealed) :
    ∃ advance, (Operation.call made).Advances advance := by
  obtain ⟨settled, hsettled⟩ :=
    hsealed.exists_settled description.clause description.reference
  let result (query : Query) : Except Error Query := do
    let value ← description.value
    let settled ← settled query.nested
    (description.edit value settled).change query
  refine ⟨fun query => (Step.attempted query (result query)).2, ?record, ?kept, ?same⟩
  case record =>
      intro session id current hcurrent
      have hplays : session.Plays id (description.run id)
          (Step.attempted current (result current)) := by
        refine plays_bind (play_lift description.value session) hcurrent fun value _ => ?_
        obtain ⟨later, hsettle, hlater⟩ := hsettled session id current hcurrent
        exact plays_bind hsettle hlater fun settled _ =>
          plays_attempt hlater (description.edit value settled).change
      obtain ⟨later, hplay, hlater⟩ := hplays
      rw [run, discard_eq, play_bind_pure, Call.run_eq hdescription, Call.fluent, play_bind_pure,
        hplay, hlater]
  case kept =>
      intro clause query hclause
      cases hresult : result query with
      | error cause => exact .refl clause query
      | ok changed =>
          obtain ⟨value, -, hchanged⟩ := bind_eq_ok.1 hresult
          obtain ⟨settled, -, hchanged⟩ := bind_eq_ok.1 hchanged
          apply Edit.kept hchanged
          rw [Call.touched_edit hdescription]
          simpa [touches] using hclause
  case same =>
      intro clause query other hclause hsame
      apply hsame.attempted
      apply Related.afterSame
      intro value _
      rw [hsame.nested]
      apply Related.afterSame
      intro settled _
      apply Edit.same hsame
      rw [Call.touched_edit hdescription]
      simpa [touches] using hclause

theorem Builds.exists_advances {operation : Operation κ σ} (h : operation.Builds) :
    ∃ advance, operation.Advances advance := by
  cases operation with
  | call made =>
      obtain ⟨description, hdescription, hsealed⟩ := h
      exact exists_advances_call hdescription hsealed
  | setModel model =>
      refine ⟨fun query => { query with model }, ?_, ?_, ?_⟩
      · intro session id current hcurrent
        rw [run, Session.setModel, play_change hcurrent]
        exact queries_withQuery hcurrent _
      · exact fun clause query _ => ⟨rfl, rfl, rfl, rfl, rfl, fun _ => rfl⟩
      · intro clause query other hclause
        cases hclause
  | chunk _ _ _ _ | edit _ | clone | build | dump => cases h

end Operation

/-! ### What a program makes of a clause -/

section Programs

variable [Connection κ]

theorem Session.record_after {advance : Operation κ σ → Query → Query}
    {program : List (Operation κ σ)}
    (h : ∀ operation ∈ program, operation.Advances (advance operation)) {session : Session κ σ}
    {id : Nat} {query : Query} (hquery : session.store.queries[id]? = some query) :
    (session.after id program).store.queries[id]? =
      some (program.foldl (fun query operation => advance operation query) query) := by
  induction program generalizing session query with
  | nil => exact hquery
  | cons operation rest ih =>
      have hfirst := (h operation List.mem_cons_self).record session id query hquery
      exact ih (fun other hother => h other (List.mem_cons_of_mem _ hother)) hfirst

/-- What a program makes of a clause is what those of its operations make of it that touch it. -/
theorem Query.SameAt.foldl {advance : Operation κ σ → Query → Query}
    {program : List (Operation κ σ)}
    (h : ∀ operation ∈ program, operation.Advances (advance operation)) {clause : Clause}
    {query other : Query} (hsame : query.SameAt clause other) :
    (program.foldl (fun query operation => advance operation query) query).SameAt clause
      ((program.filter (·.touches clause)).foldl (fun query operation => advance operation query)
        other) := by
  induction program generalizing query other with
  | nil => exact hsame
  | cons operation rest ih =>
      have hfirst := h operation List.mem_cons_self
      have hrest := fun next hnext => h next (List.mem_cons_of_mem operation hnext)
      cases htouches : operation.touches clause with
      | true =>
          rw [List.filter_cons_of_pos htouches]
          exact ih hrest (hfirst.same clause query other htouches hsame)
      | false =>
          rw [List.filter_cons_of_neg (by rw [htouches]; exact Bool.false_ne_true)]
          exact ih hrest ((hfirst.kept clause query htouches).symm.trans hsame)

end Programs

/-! ### Building what is the same in every clause -/

namespace Store

theorem build_congr {query other : Query} (h : ∀ clause, query.SameAt clause other)
    (store : Store) : store.build other = store.build query := by
  have hfragments := fun clause => (h clause).fragments
  have hmembers := Snapshot.membersOf_congr store.resolve store.depth (hfragments .union)
  rw [build, build, (h .columns).compiler, compile, compile, Compiler.compile, Compiler.compile,
    Compiler.tokens, Compiler.tokens, Statement.tokens, Statement.tokens, Statement.whole,
    Statement.whole, snapshot, snapshot, Snapshot.take, Snapshot.take, hmembers,
    Statement.parts_congr _ _ _ _ (h .columns).type fun clause _ => hfragments clause]

end Store

/-! ### Programs for the same statement -/

theorem Call.confined_of_description {call : Call κ σ} {description : Description κ σ}
    (h : call.description? = some description) {ids : Set Nat}
    (hoperand : description.operand.Confined ids) : call.Confined ids := by
  cases call with
  | select _ | rows | first | count _ | sum _ | minimum _ | maximum _ | average _ => trivial
  | insert _ | upsert _ _ _ | update _ | delete | truncate => trivial
  | _ =>
      rw [← Option.some.inj h] at hoperand
      exact hoperand

theorem Call.confined_of_not_described {call : Call κ σ} (h : call.description? = none)
    (ids : Set Nat) : call.Confined ids := by
  cases call with
  | select _ | rows | first | count _ | sum _ | minimum _ | maximum _ | average _ => trivial
  | insert _ | upsert _ _ _ | update _ | delete | truncate => trivial
  | _ => cases h

namespace Operation

theorem Builds.confined {operation : Operation κ σ} (h : operation.Builds) (ids : Set Nat) :
    operation.Confined ids := by
  cases operation with
  | call made =>
      obtain ⟨description, hdescription, hsealed⟩ := h
      exact Call.confined_of_description hdescription (hsealed.confined ids)
  | setModel model => trivial
  | chunk _ _ _ _ | edit _ | clone | build | dump => cases h

variable [Connection κ]

/-- Two programs describe the same statement: on equal queries they leave queries that build the
same in every store. So each also builds the same in the store that it is left in, if that has begun
as the other's and the statement does not come back to the query itself. -/
def SameStatement (program reordered : List (Operation κ σ)) : Prop :=
  ∀ (session other : Session κ σ) (id place : Nat) (query : Query),
    session.store.queries[id]? = some query → other.store.queries[place]? = some query →
    ∃ left right, (session.after id program).store.queries[id]? = some left ∧
      (other.after place reordered).store.queries[place]? = some right ∧
      (∀ store : Store, store.build right = store.build left) ∧
      (other.store = session.store → session.store.Anchors left.blueprint →
        ¬ session.store.Depends left.blueprint (.query id) →
        ¬ session.store.Depends left.blueprint (.query place) →
        (other.after place reordered).store.build right =
          (session.after id program).store.build left)

theorem exists_advance : ∃ advance : Operation κ σ → Query → Query,
    ∀ operation : Operation κ σ, operation.Builds → operation.Advances (advance operation) := by
  have hnonempty : Nonempty (Query → Query) := ⟨id⟩
  choose! advance hadvance using fun (operation : Operation κ σ) (h : operation.Builds) =>
    h.exists_advances
  exact ⟨advance, hadvance⟩

/-- Programs that touch each clause by the same operations in the same order describe the same
statement. -/
theorem sameStatement {program reordered : List (Operation κ σ)}
    (hprogram : ∀ operation ∈ program, operation.Builds)
    (hreordered : ∀ operation ∈ reordered, operation.Builds)
    (hsame : ∀ clause, program.filter (·.touches clause) = reordered.filter (·.touches clause)) :
    SameStatement program reordered := by
  intro session other id place query hquery hother
  obtain ⟨advance, hadvance⟩ := exists_advance (κ := κ) (σ := σ)
  have hfirst := fun operation hmem => hadvance operation (hprogram operation hmem)
  have hsecond := fun operation hmem => hadvance operation (hreordered operation hmem)
  let left := program.foldl (fun query operation => advance operation query) query
  let right := reordered.foldl (fun query operation => advance operation query) query
  have hagree : ∀ clause, left.SameAt clause right := by
    intro clause
    have hleft := Query.SameAt.foldl hfirst (.refl clause query)
    have hright := Query.SameAt.foldl hsecond (.refl clause query)
    rw [← hsame] at hright
    exact hleft.trans hright.symm
  have hbuild : ∀ store : Store, store.build right = store.build left := Store.build_congr hagree
  refine ⟨left, right, record_after hfirst hquery, record_after hsecond hother, hbuild, ?_⟩
  intro hstore hanchors hself hplace
  have hkeeps : session.store.Keeps {id} (session.after id program).store :=
    .after (fun operation hmem => (hprogram operation hmem).confined {id}) session
  have hkept : other.store.Keeps {place} (other.after place reordered).store :=
    .after (fun operation hmem => (hreordered operation hmem).confined {place}) other
  rw [hstore] at hkept
  calc (other.after place reordered).store.build right
      = (other.after place reordered).store.build left := hbuild _
    _ = session.store.build left := hkept.build_eq hanchors (by rintro _ rfl; exact hplace)
    _ = (session.after id program).store.build left :=
        (hkeeps.build_eq hanchors (by rintro _ rfl; exact hself)).symm

omit [Connection κ] in
/-- Two operations that touch no clause in common look the same from every clause, whichever comes
first. -/
theorem filter_swap {first second : Operation κ σ}
    (h : ∀ clause, ¬(first.touches clause = true ∧ second.touches clause = true))
    (front back : List (Operation κ σ)) (clause : Clause) :
    (front ++ first :: second :: back).filter (·.touches clause) =
      (front ++ second :: first :: back).filter (·.touches clause) := by
  rw [List.filter_append, List.filter_append]
  congr 1
  cases hfirst : first.touches clause with
  | false => simp only [List.filter_cons, hfirst, Bool.false_eq_true, if_false]
  | true =>
      have hsecond : second.touches clause = false := by
        simpa [hfirst] using h clause
      simp only [List.filter_cons, hsecond, Bool.false_eq_true, if_false]

end Operation

/-- Programs that agree, for each clause, on the calls that touch it and on their order describe the
same statement: on equal queries they leave queries that build to the same text and parameters, or
fail alike. So exchanging two neighbouring calls that touch different clauses never changes the
statement. -/
theorem order_within_clauses [Connection κ] :
    (∀ program reordered : List (Operation κ σ), (∀ operation ∈ program, operation.Builds) →
      (∀ operation ∈ reordered, operation.Builds) →
      (∀ clause, program.filter (·.touches clause) = reordered.filter (·.touches clause)) →
      Operation.SameStatement program reordered) ∧
    (∀ (front back : List (Operation κ σ)) (first second : Operation κ σ),
      (∀ operation ∈ front ++ first :: second :: back, operation.Builds) →
      (∀ clause, ¬(first.touches clause = true ∧ second.touches clause = true)) →
      Operation.SameStatement (front ++ first :: second :: back)
        (front ++ second :: first :: back)) := by
  constructor
  · intro program reordered hprogram hreordered hsame
    exact Operation.sameStatement hprogram hreordered hsame
  · intro front back first second hbuilds hdisjoint
    have hreordered : ∀ operation ∈ front ++ second :: first :: back, operation.Builds := by
      intro operation hmem
      apply hbuilds
      simp only [List.mem_append, List.mem_cons] at hmem ⊢
      tauto
    exact Operation.sameStatement hbuilds hreordered (Operation.filter_swap hdisjoint front back)

theorem Step.sealed (program : List Step) :
    (Operand.callback 0 fun nested => runAll nested program : Operand κ σ).Sealed :=
  ⟨confinedCallback program, effects program, fun _ _ _ h => playsAll h program⟩

/-- A table, a group of conditions, a window and a model, of which the window comes first or
last. -/
def Operation.windowed (first : Bool) : List (Operation RecordingConnection Unit) :=
  let window := [.call (.limit (.int 5) .null), .call (.page (.int 2) .null)]
  let described := [.call (.table (.text "t") (.text "")),
    .call (.filter (.callback 0 fun nested => Step.runAll nested
      [.condition .rows (.text "a") (.ok (.int 1)) (.text "=") (.text "AND")])
      .null (.text "=") (.text "AND")), .setModel (some .closed)]
  if first then window ++ described else described ++ window

theorem Operation.builds_windowed (first : Bool) :
    ∀ operation ∈ Operation.windowed first, operation.Builds := by
  have hwindow : (Operation.call (.limit (.int 5) .null) :
      Operation RecordingConnection Unit).Builds := ⟨_, rfl, trivial⟩
  have hpage : (Operation.call (.page (.int 2) .null) :
      Operation RecordingConnection Unit).Builds := ⟨_, rfl, trivial⟩
  have htable : (Operation.call (.table (.text "t") (.text "")) :
      Operation RecordingConnection Unit).Builds := ⟨_, rfl, trivial⟩
  have hfilter : ∀ program, (Operation.call (.filter (.callback 0 fun nested =>
      Step.runAll nested program) .null (.text "=") (.text "AND")) :
      Operation RecordingConnection Unit).Builds := fun program => ⟨_, rfl, Step.sealed program⟩
  have hmodel : (Operation.setModel (some .closed) :
      Operation RecordingConnection Unit).Builds := trivial
  cases first <;> simp only [windowed, Bool.false_eq_true, if_false, if_true, List.cons_append,
    List.nil_append, List.forall_mem_cons, hwindow, hpage, htable, hfilter, hmodel,
    List.not_mem_nil, false_imp_iff, implies_true, and_self]

/-- It makes no difference whether the window comes first or last. -/
theorem order_within_clauses_windowed :
    Operation.SameStatement (Operation.windowed true) (Operation.windowed false) := by
  apply order_within_clauses.1 _ _ (Operation.builds_windowed true)
    (Operation.builds_windowed false)
  intro clause
  cases clause <;> rfl

end SqlBuilder
