import SqlBuilder.Proofs.Mention
import SqlBuilder.Proofs.Paging.Behind
import SqlBuilder.Proofs.Predicate

/-!
# The statement of a page

The query of a page is its template without an order of its own, with a condition on the cursor
behind all conditions of the template, and with a window. A cursor that is bound as a whole adds
nothing to what the template mentions, and whether a page can be built does not depend on it.
-/

namespace SqlBuilder

open Outcome Ingredient

def Query.cursorCondition (path : String) (cursor : Value) : Condition :=
  .comparison (.text "AND") (.column path) (.text ">") cursor

/-! ### Cursors that are bound as a whole -/

namespace Value

variable {cursor : Value}

theorem boundValue_single (h : cursor.isSingle = true) : Query.boundValue cursor = cursor := by
  cases cursor <;> first | rfl | cases h

theorem operandIngredients_single (h : cursor.isSingle = true) :
    cursor.operandIngredients = [.bound cursor] := by
  cases cursor <;> first | rfl | cases h

theorem boundTokens_single (scope : Scope) (clause : Clause) (h : cursor.isSingle = true) :
    Condition.boundTokens scope clause cursor = .ok [.slot cursor] := by
  cases cursor <;> first | rfl | cases h

end Value

theorem Query.conditions_single (query : Query) (path : String) {cursor : Value}
    (h : cursor.isSingle = true) (size : Nat) :
    Condition.ofFragments ((query.selectBehind path cursor size).blueprint.fragments .where) =
      query.groupedConditions ++ [cursorCondition path cursor] := by
  rw [conditions_selectBehind, Value.boundValue_single h, cursorCondition]

/-! ### What a page mentions -/

theorem Condition.levelIngredients_append (conditions others : List Condition) :
    levelIngredients (conditions ++ others) =
      levelIngredients conditions ++ levelIngredients others := by
  induction conditions with
  | nil => simp [levelIngredients]
  | cons condition rest ih =>
      rw [List.cons_append, levelIngredients, levelIngredients, ih, List.append_assoc]

theorem Value.identifierIngredients_column (path : String) :
    (column path).identifierIngredients =
      if (text path).isWildcard then [] else [.path (text path)] := by
  simp [identifierIngredients, column, isArgument, ingredients, aliasIngredients]

theorem Value.mentions_column (path : String) :
    (Value.column path).identifierIngredients.flatMap Ingredient.mentions = [] := by
  rw [identifierIngredients_column]
  split
  · rfl
  · rfl

namespace Query

variable (query : Query) (path : String) {cursor : Value} (size : Nat)

theorem mentions_cursorCondition (hcursor : cursor.isSingle = true) :
    (cursorCondition path cursor).ingredients.flatMap Ingredient.mentions = [] := by
  rw [cursorCondition, Condition.ingredients, List.flatMap_append, List.flatMap_cons,
    Value.mentions_column, Value.operandIngredients_single hcursor]
  rfl

theorem mentions_conditions (hcursor : cursor.isSingle = true) {place : Place}
    (h : place ∈ (Statement.conditionIngredients .where
      (query.selectBehind path cursor size).blueprint).flatMap mentions) :
    place ∈ (Statement.conditionIngredients .where query.blueprint).flatMap mentions := by
  rw [Statement.conditionIngredients, query.conditions_single path hcursor,
    Condition.levelIngredients_append, List.flatMap_append, Condition.levelIngredients,
    Condition.levelIngredients, List.append_nil, mentions_cursorCondition path hcursor,
    List.append_nil, groupedConditions] at h
  rw [Statement.conditionIngredients]
  cases hwhere : query.blueprint.fragments .where with
  | nil =>
      rw [hwhere] at h
      cases h
  | cons first rest =>
      rw [hwhere] at h
      dsimp only at h
      cases hconditions : Condition.ofFragments (first :: rest) with
      | nil =>
          rw [hconditions] at h
          cases h
      | cons condition others =>
          rw [hconditions, Condition.levelIngredients, Condition.ingredients,
            Condition.levelIngredients, List.append_nil, List.flatMap_cons] at h
          exact h

theorem having_selectBehind (cursor : Value) :
    Statement.conditionIngredients .having (query.selectBehind path cursor size).blueprint =
      Statement.conditionIngredients .having query.blueprint := by
  rw [Statement.conditionIngredients, fragments_selectBehind]
  rfl

theorem mentions_order :
    (Statement.orderIngredients
      (Fragment.of [("column", .column path), ("sort", .text "ASC")])).flatMap mentions = [] := by
  have hread : (Fragment.of [("column", .column path), ("sort", .text "ASC")]).read "column" =
      .column path := rfl
  rw [Statement.orderIngredients, hread, List.flatMap_append, Value.mentions_column]
  rfl

/-- A page refers to nothing that its template, as a select, does not refer to. -/
theorem places_selectBehind (hcursor : cursor.isSingle = true) {place : Place}
    (h : place ∈ (query.selectBehind path cursor size).blueprint.places) :
    place ∈ (query.withType .select).blueprint.places := by
  have hselect : (query.selectBehind path cursor size).blueprint.type = .select := rfl
  have htemplate : (query.withType .select).blueprint.type = .select := rfl
  have hhaving := query.having_selectBehind path size cursor
  rw [Blueprint.places, List.mem_append] at h ⊢
  rcases h with hmember | hmention
  · left
    rw [Blueprint.memberPlaces, fragments_selectBehind] at hmember
    exact hmember
  · right
    rw [Blueprint.mentions, Statement.ingredients, hselect] at hmention
    rw [Blueprint.mentions, Statement.ingredients, htemplate]
    simp only [hhaving, fragments_selectBehind, List.flatMap_append, List.flatMap_singleton,
      mentions_order, List.append_nil, List.mem_append] at hmention
    simp only [List.flatMap_append, List.mem_append]
    rcases hmention with ((((hcolumn | htable) | hjoin) | hfilter) | hgroup) | hhaving
    · exact .inl (.inl (.inl (.inl (.inl (.inl (.inl hcolumn))))))
    · exact .inl (.inl (.inl (.inl (.inl (.inl (.inr htable))))))
    · exact .inl (.inl (.inl (.inl (.inl (.inr hjoin)))))
    · exact .inl (.inl (.inl (.inl (.inr (query.mentions_conditions path size hcursor hfilter)))))
    · exact .inl (.inl (.inl (.inr hgroup)))
    · exact .inl (.inl (.inr hhaving))

end Query

/-! ### Whether a page can be built -/

theorem Condition.pieces_append (scope : Scope) (clause : Clause)
    (conditions others : List Condition) :
    pieces scope clause (conditions ++ others) = (do
      let front ← pieces scope clause conditions
      let back ← pieces scope clause others
      return front ++ back) := by
  induction conditions with
  | nil =>
      rw [List.nil_append, pieces, ok_bind]
      cases pieces scope clause others <;> rfl
  | cons condition rest ih =>
      rw [List.cons_append, pieces, ih, pieces]
      cases condition.piece? scope clause with
      | error cause => rfl
      | ok piece =>
          cases pieces scope clause rest with
          | error cause => rfl
          | ok front =>
              cases pieces scope clause others with
              | error cause => rfl
              | ok back =>
                  simp only [ok_bind, pure, Except.pure, List.append_assoc]

namespace Query

variable (query : Query) (path : String) {cursor other : Value} (size : Nat)

theorem exists_piece_cursorCondition (scope : Scope) (clause : Clause)
    (hcursor : cursor.isSingle = true) :
    ∃ piece, (cursorCondition path cursor).piece? scope clause = .ok piece := by
  rw [cursorCondition, Condition.piece?, Value.identifier_column, Value.toText_text,
    Value.toText_text, Value.boundTokens_single scope clause hcursor]
  exact ⟨_, rfl⟩

theorem exists_conditions_single (hcursor : cursor.isSingle = true) (hother : other.isSingle = true)
    {scope : Scope} {keyword : String} {tokens : Tokens}
    (h : Statement.conditions scope keyword .where
      (query.selectBehind path cursor size).blueprint = .ok tokens) :
    ∃ tokens, Statement.conditions scope keyword .where
      (query.selectBehind path other size).blueprint = .ok tokens := by
  rw [Statement.conditions, query.conditions_single path hcursor, Condition.levelTokens,
    Condition.pieces_append] at h
  obtain ⟨level, hlevel, _⟩ := bind_eq_ok.1 h
  obtain ⟨pieces, hpieces, _⟩ := bind_eq_ok.1 hlevel
  obtain ⟨front, hfront, _⟩ := bind_eq_ok.1 hpieces
  obtain ⟨piece, hpiece⟩ := exists_piece_cursorCondition path scope .where hother
  rw [Statement.conditions, query.conditions_single path hother, Condition.levelTokens,
    Condition.pieces_append, hfront, Condition.pieces, hpiece]
  exact ⟨_, rfl⟩

/-- Whether a page can be built does not depend on its cursor. -/
theorem exists_build_single {store : Store} {compiled : Compiled}
    (hcursor : cursor.isSingle = true) (hother : other.isSingle = true)
    (h : store.build (query.selectBehind path cursor size) = .ok compiled) :
    ∃ compiled, store.build (query.selectBehind path other size) = .ok compiled := by
  rw [store.build_select _ (by rfl)] at h ⊢
  obtain ⟨tokens, htokens, -⟩ := map_eq_ok.1 h
  obtain ⟨filter, hfilter⟩ : ∃ filter,
      (store.clauses (query.selectBehind path cursor size)).filter = .ok filter := by
    refine Clauses.exists_whole_iff.1 ⟨tokens, htokens⟩ _ ?_
    simp [Clauses.list]
  obtain ⟨changed, hconditions⟩ :=
    query.exists_conditions_single path size hcursor hother hfilter
  have hchanged : (store.clauses (query.selectBehind path other size)).filter =
      .ok changed := hconditions
  have hpage := store.clauses_selectBehind query path cursor size
  have hnext := store.clauses_selectBehind query path other size
  have hclauses : store.clauses (query.selectBehind path other size) =
      { store.clauses (query.selectBehind path cursor size) with
        filter := .ok changed } := by
    rw [hnext, hpage, hchanged]
    simp only [Clauses.paged]
  obtain ⟨tokens, hwhole⟩ := Clauses.exists_whole_withFilter htokens changed
  rw [hclauses, hwhole]
  exact ⟨_, rfl⟩

end Query

/-! ### What a page binds -/

namespace Query

variable (query : Query)

def boundBefore : List Value :=
  ((query.blueprint.fragments .columns).flatMap Statement.columnIngredients ++
    (query.blueprint.fragments .tables).flatMap Statement.tableIngredients ++
    (query.blueprint.fragments .join).flatMap Statement.joinIngredients ++
    Condition.levelIngredients query.groupedConditions).filterMap bound?

def boundBehind (store : Store) : List Value :=
  ((query.blueprint.fragments .group).flatMap Statement.groupIngredients ++
    Statement.conditionIngredients .having query.blueprint ++
    Statement.membersIngredients query.compiler.dialect
      (store.snapshot query.blueprint).members).filterMap bound?

theorem bound_cursorCondition (path : String) {cursor : Value} (hcursor : cursor.isSingle = true) :
    (cursorCondition path cursor).ingredients.filterMap bound? = [cursor] := by
  rw [cursorCondition, Condition.ingredients, List.filterMap_append, List.filterMap_cons_none rfl,
    Value.bound_identifierIngredients, Value.operandIngredients_single hcursor]
  rfl

variable (path : String) (size : Nat)

/-- Every page binds its cursor, at the same position, and nothing else that its template does
not. -/
theorem parameters_single {cursor : Value} (hcursor : cursor.isSingle = true) {store : Store}
    {compiled : Compiled}
    (hemptying : ∀ c ∈ query.compiler.emptying.toList, Placeholder.isPlain c = true)
    (h : store.build (query.selectBehind path cursor size) = .ok compiled) :
    compiled.parameters = query.boundBefore ++ cursor :: query.boundBehind store := by
  rw [Store.build, compiler_selectBehind] at h
  obtain ⟨tokens, htokens, hfinish⟩ := bind_eq_ok.1 h
  obtain rfl := pure_eq_ok.1 hfinish
  have hemission := Emission.compiled Placeholder.robust_closed hemptying htokens
  have hselect : (query.selectBehind path cursor size).blueprint.type = .select := rfl
  rw [Compiler.finish, hemission.parameters, Snapshot.ingredients, Store.snapshot, Snapshot.take,
    Statement.ingredients, hselect, membersOf_selectBehind]
  have hfilter : Statement.conditionIngredients .where
      (query.selectBehind path cursor size).blueprint =
        Condition.levelIngredients query.groupedConditions ++
          (cursorCondition path cursor).ingredients := by
    rw [Statement.conditionIngredients, query.conditions_single path hcursor,
      Condition.levelIngredients_append, Condition.levelIngredients, Condition.levelIngredients,
      List.append_nil]
  have hhaving := query.having_selectBehind path size cursor
  have hbound := bound_cursorCondition path hcursor
  simp only [hfilter, hhaving, fragments_selectBehind, List.filterMap_append, hbound,
    boundBefore, boundBehind, Store.snapshot, Snapshot.take, List.flatMap_singleton,
    Statement.bound_orderIngredients, List.append_assoc, List.singleton_append, List.nil_append]

end Query

end SqlBuilder
