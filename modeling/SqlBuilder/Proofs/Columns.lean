import SqlBuilder.Proofs.Reordering

/-!
# The columns of a query

Until a column is named a query selects all columns: each table puts the wildcard in the place of
what was listed before, and so does the wildcard itself. The first column that is named replaces it.
From then on tables make no difference, and the wildcard replaces every column named so far, which
leaves it in front of the columns that follow. So what is listed depends on the order of the choices
and on nothing else that is done with the query.
-/

namespace SqlBuilder

open Outcome Session

/-- What a query has been told that bears on its columns: a table, or a column by its name. -/
inductive Choice where
  | table
  | column (column aliasName : Value)

namespace Choice

def isWildcard : Choice → Bool
  | table => false
  | column name _ => name.isWildcard

def isExplicit : Choice → Bool
  | table => false
  | column name _ => !name.isWildcard

/-- What is listed for a choice; for a table it is the wildcard. -/
def fragment : Choice → Fragment
  | table => .of [("column", .text Identifier.wildcard), ("alias", .text "")]
  | column name aliasName =>
      .of [("column", if name.isWildcard then name else name.asColumn), ("alias", aliasName)]

theorem isExplicit_eq_false_of_isWildcard {choice : Choice} (h : choice.isWildcard = true) :
    choice.isExplicit = false := by
  cases choice with
  | table => rfl
  | column name aliasName => exact congrArg (! ·) h

theorem split_concat {choices before after : List Choice} {last first : Choice}
    (h : choices ++ [last] = before ++ first :: after) :
    (after = [] ∧ first = last ∧ before = choices) ∨
      ∃ rest, after = rest ++ [last] ∧ choices = before ++ first :: rest := by
  rcases List.eq_nil_or_concat' after with rfl | ⟨rest, item, rfl⟩
  · obtain ⟨hbefore, hfirst⟩ := List.append_inj' h rfl
    exact .inl ⟨rfl, (List.cons.inj hfirst).1.symm, hbefore.symm⟩
  · rw [← List.cons_append, ← List.append_assoc] at h
    obtain ⟨hrest, hlast⟩ := List.append_inj' h rfl
    exact .inr ⟨rest, by rw [(List.cons.inj hlast).1], hrest⟩

end Choice

/-- The columns of a query as its choices determine them. -/
structure Query.Lists (query : Query) (choices : List Choice) : Prop where
  /-- The query is blank as long as no column is explicit. -/
  blank : query.blank = true ↔ ∀ choice ∈ choices, choice.isExplicit = false
  /-- Before the first explicit column there is the wildcard of the latest choice. -/
  unnamed : (∀ choice ∈ choices, choice.isExplicit = false) →
    query.blueprint.fragments .columns = (choices.getLast?.map Choice.fragment).toList
  /-- From the first explicit column on there are all explicit columns. -/
  named : ∀ before first after, choices = before ++ first :: after →
    (∀ choice ∈ before, choice.isExplicit = false) → first.isExplicit = true →
    (∀ choice ∈ after, choice.isWildcard = false) →
    query.blueprint.fragments .columns =
      ((first :: after).filter Choice.isExplicit).map Choice.fragment
  /-- Behind an explicit column the latest wildcard begins anew. -/
  anew : ∀ before first between wildcard after,
    choices = before ++ first :: (between ++ wildcard :: after) →
    first.isExplicit = true → wildcard.isWildcard = true →
    (∀ choice ∈ after, choice.isWildcard = false) →
    query.blueprint.fragments .columns =
      wildcard.fragment :: (after.filter Choice.isExplicit).map Choice.fragment

structure Query.KeepsColumns (query other : Query) : Prop where
  fragments : other.blueprint.fragments .columns = query.blueprint.fragments .columns
  blank : other.blank = query.blank

namespace Query

variable {query other third : Query} {choices : List Choice}

namespace KeepsColumns

theorem refl (query : Query) : query.KeepsColumns query :=
  ⟨rfl, rfl⟩

theorem trans (hfirst : query.KeepsColumns other) (hsecond : other.KeepsColumns third) :
    query.KeepsColumns third :=
  ⟨hsecond.fragments.trans hfirst.fragments, hsecond.blank.trans hfirst.blank⟩

theorem add (query : Query) {clause : Clause} (hclause : clause ≠ .columns)
    (attributes : List (String × Value)) : query.KeepsColumns (query.add clause attributes) :=
  ⟨by simp [hclause], rfl⟩

theorem reset (query : Query) {clause : Clause} (hclause : clause ≠ .columns) :
    query.KeepsColumns (query.reset clause) :=
  ⟨by simp [hclause], rfl⟩

theorem withType (query : Query) (type : StatementType) :
    query.KeepsColumns (query.withType type) :=
  ⟨rfl, rfl⟩

theorem lists (h : query.KeepsColumns other) (hlists : query.Lists choices) :
    other.Lists choices where
  blank := by
    rw [h.blank]
    exact hlists.blank
  unnamed hnone := h.fragments.trans (hlists.unnamed hnone)
  named before first after hsplit hbefore hfirst hafter :=
    h.fragments.trans (hlists.named before first after hsplit hbefore hfirst hafter)
  anew before first between wildcard after hsplit hfirst hwildcard hafter :=
    h.fragments.trans
      (hlists.anew before first between wildcard after hsplit hfirst hwildcard hafter)

end KeepsColumns

theorem lists_new (connection : Nat) (compiler : Compiler) (options : Options) :
    (Query.new connection compiler options).Lists [] where
  blank := by simp [Query.new]
  unnamed _ := rfl
  named before first after hsplit := by simp at hsplit
  anew before first between wildcard after hsplit := by simp at hsplit

/-! ### What a choice makes of the columns -/

@[simp] theorem blank_addColumn (query : Query) (column aliasName : Value) :
    (query.addColumn column aliasName).blank = (query.blank && column.isWildcard) := by
  rw [addColumn]
  cases column.isWildcard <;> cases hblank : query.blank <;> simp [add, reset, hblank]

theorem fragments_addColumn (query : Query) (column aliasName : Value) :
    (query.addColumn column aliasName).blueprint.fragments .columns =
      (if column.isWildcard || query.blank then [] else query.blueprint.fragments .columns) ++
        [(Choice.column column aliasName).fragment] := by
  rw [addColumn, Choice.fragment]
  cases column.isWildcard <;> cases query.blank <;> simp

@[simp] theorem blank_setTable (query : Query) (table aliasName : Value) :
    (query.setTable table aliasName).blank = query.blank := by
  have hblank : (query.addTable table aliasName).blank = query.blank := rfl
  rw [setTable, hblank]
  cases h : query.blank with
  | false => exact hblank.trans h
  | true => rw [if_pos rfl, blank_addColumn, hblank, h]; rfl

theorem fragments_setTable (query : Query) (table aliasName : Value) :
    (query.setTable table aliasName).blueprint.fragments .columns =
      if query.blank then [Choice.table.fragment] else query.blueprint.fragments .columns := by
  have hblank : (query.addTable table aliasName).blank = query.blank := rfl
  rw [setTable, hblank]
  cases query.blank with
  | false => simp [addTable]
  | true => rw [if_pos rfl, fragments_addColumn]; rfl

namespace Lists

variable {choice : Choice} {changed : Query}

/-- With an explicit column among its choices a query is not blank. -/
theorem not_blank (h : query.Lists choices) (hmem : choice ∈ choices)
    (hchoice : choice.isExplicit = true) : query.blank = false := by
  cases hblank : query.blank with
  | false => rfl
  | true => cases (h.blank.1 hblank choice hmem).symm.trans hchoice

/-- A choice that is not the wildcard is listed alone by a blank query. By any other it is listed
behind what there is if it is explicit, and not at all if it is a table. -/
theorem behind (h : query.Lists choices) (hchoice : choice.isWildcard = false)
    (hfirst : query.blank = true →
      changed.blueprint.fragments .columns = [choice.fragment])
    (hbehind : query.blank = false → changed.blueprint.fragments .columns =
      query.blueprint.fragments .columns ++ ([choice].filter Choice.isExplicit).map Choice.fragment)
    (hblank : changed.blank = (query.blank && !choice.isExplicit)) :
    changed.Lists (choices ++ [choice]) where
  blank := by
    rw [hblank, Bool.and_eq_true, h.blank]
    simp [or_imp, forall_and]
  unnamed hnone := by
    have hbefore : ∀ other ∈ choices, other.isExplicit = false := fun other hother =>
      hnone other (List.mem_append_left _ hother)
    rw [hfirst (h.blank.2 hbefore), List.getLast?_concat]
    rfl
  named before first after hsplit hbefore hexplicit hafter := by
    rcases Choice.split_concat hsplit with ⟨rfl, rfl, rfl⟩ | ⟨rest, rfl, hrest⟩
    · rw [hfirst (h.blank.2 hbefore), List.filter_cons_of_pos hexplicit]
      rfl
    · have hnamed := h.not_blank (by simp [hrest]) hexplicit
      have hkept : ∀ other ∈ rest, other.isWildcard = false := fun other hother =>
        hafter other (List.mem_append_left _ hother)
      rw [hbehind hnamed, h.named before first rest hrest hbefore hexplicit hkept,
        ← List.map_append, ← List.filter_append]
      rfl
  anew before first between wildcard after hsplit hexplicit hwildcard hafter := by
    rw [← List.cons_append, ← List.append_assoc] at hsplit
    rcases Choice.split_concat hsplit with ⟨-, rfl, -⟩ | ⟨rest, rfl, hrest⟩
    · cases hchoice.symm.trans hwildcard
    · rw [List.append_assoc, List.cons_append] at hrest
      have hnamed := h.not_blank (by simp [hrest]) hexplicit
      have hkept : ∀ other ∈ rest, other.isWildcard = false := fun other hother =>
        hafter other (List.mem_append_left _ hother)
      rw [hbehind hnamed, h.anew before first between wildcard rest hrest hexplicit hwildcard hkept,
        List.cons_append, ← List.map_append, ← List.filter_append]

theorem wildcard (h : query.Lists choices) (hchoice : choice.isWildcard = true)
    (hfragments : changed.blueprint.fragments .columns = [choice.fragment])
    (hblank : changed.blank = query.blank) : changed.Lists (choices ++ [choice]) where
  blank := by
    rw [hblank, h.blank]
    simp [or_imp, forall_and, Choice.isExplicit_eq_false_of_isWildcard hchoice]
  unnamed _ := by simp [hfragments]
  named before first after hsplit _ hfirst hafter := by
    rcases Choice.split_concat hsplit with ⟨-, rfl, -⟩ | ⟨rest, rfl, -⟩
    · cases (Choice.isExplicit_eq_false_of_isWildcard hchoice).symm.trans hfirst
    · cases hchoice.symm.trans (hafter choice (by simp))
  anew before first between wildcard after hsplit _ _ hafter := by
    rw [← List.cons_append, ← List.append_assoc] at hsplit
    rcases Choice.split_concat hsplit with ⟨rfl, rfl, -⟩ | ⟨rest, rfl, -⟩
    · exact hfragments
    · cases hchoice.symm.trans (hafter choice (by simp))

end Lists

theorem lists_setTable (h : query.Lists choices) (table aliasName : Value) :
    (query.setTable table aliasName).Lists (choices ++ [.table]) := by
  have hfragments := fragments_setTable query table aliasName
  refine h.behind rfl (fun hblank => ?_) (fun hblank => ?_) ?_
  · rw [hfragments, if_pos hblank]
  · rw [hfragments, hblank, List.filter_cons_of_neg (by decide), List.filter_nil, List.map_nil,
      List.append_nil]
    rfl
  · rw [blank_setTable]
    exact (Bool.and_true _).symm

theorem lists_addColumn (h : query.Lists choices) (column aliasName : Value) :
    (query.addColumn column aliasName).Lists (choices ++ [.column column aliasName]) := by
  have hfragments := fragments_addColumn query column aliasName
  have hblank := blank_addColumn query column aliasName
  cases hcolumn : column.isWildcard with
  | false =>
      have hchoice : (Choice.column column aliasName).isExplicit = true := congrArg (! ·) hcolumn
      rw [hcolumn, Bool.false_or] at hfragments
      refine h.behind hcolumn (fun hfirst => ?_) (fun hnamed => ?_) ?_
      · rw [hfragments, if_pos hfirst, List.nil_append]
      · rw [hfragments, hnamed, List.filter_cons_of_pos hchoice]
        rfl
      · rw [hblank, hcolumn, hchoice]
        rfl
  | true =>
      rw [hcolumn, Bool.true_or, if_pos rfl] at hfragments
      rw [hcolumn, Bool.and_true] at hblank
      exact h.wildcard hcolumn hfragments hblank

end Query

end SqlBuilder
