import SqlBuilder.Proofs.Approximation
import SqlBuilder.Proofs.Clauses
import SqlBuilder.Proofs.Mention
import Mathlib.Data.Set.Basic

/-!
# Statements in approximating scopes

A scope approximates another one on some places if it shows the same descriptions there and
statements that approximate those of the other. What a function of the compiler makes of a blueprint
that mentions only those places then approximates what it makes of it in the other scope. There is
one lemma for each function of the compiler, in the order in which they call each other.
-/

namespace SqlBuilder

open Outcome

/-- One scope approximates another one on the given places. -/
structure Scope.Approximates (places : Set Place) (scope better : Scope) : Prop where
  references : scope.toReferences.Agree places better.toReferences
  statement : ∀ id, .query id ∈ places →
    Outcome.Approximates (scope.statement id) (better.statement id)

/-- Ingredients mention none but the given places. -/
def Ingredient.Within (places : Set Place) (ingredients : List Ingredient) : Prop :=
  ∀ ingredient ∈ ingredients, ∀ place ∈ ingredient.mentions, place ∈ places

namespace Ingredient

variable {places : Set Place}

@[simp] theorem within_cons {ingredient : Ingredient} {rest : List Ingredient} :
    Within places (ingredient :: rest) ↔
      (∀ place ∈ ingredient.mentions, place ∈ places) ∧ Within places rest := by
  simp [Within]

@[simp] theorem within_append {front back : List Ingredient} :
    Within places (front ++ back) ↔ Within places front ∧ Within places back := by
  simp [Within, or_imp, forall_and]

theorem within_flatMap {α : Type} {items : List α} {supply : α → List Ingredient} :
    Within places (items.flatMap supply) ↔ ∀ item ∈ items, Within places (supply item) := by
  constructor
  · intro h item hitem ingredient hmem
    exact h ingredient (List.mem_flatMap.2 ⟨item, hitem, hmem⟩)
  · intro h ingredient hmem
    obtain ⟨item, hitem, hsupplied⟩ := List.mem_flatMap.1 hmem
    exact h item hitem ingredient hsupplied

end Ingredient

open Ingredient

variable {places : Set Place} {scope better : Scope}

/-! ### Values -/

namespace Scope.Approximates

theorem shown (h : scope.Approximates places better) {value : Value}
    (hvalue : ∀ place ∈ value.described, place ∈ places) :
    Outcome.Approximates
      (do return [.literal (← value.shown scope.toReferences)] : Except Error Tokens)
      (do return [.literal (← value.shown better.toReferences)]) := by
  rw [h.references.shown value hvalue]
  exact .refl _

mutual

theorem tokens (h : scope.Approximates places better) : ∀ {value : Value},
    (∀ place ∈ value.mentions, place ∈ places) →
    Outcome.Approximates (value.tokens scope) (value.tokens better)
  | .text characters, _ => .refl _
  | .query id, hvalue => by
      simp only [Value.tokens]
      apply (h.statement id (hvalue _ (by simp [Value.mentions, Value.described]))).bind
      intro text
      exact .refl _
  | .argument .raw value parameters, hvalue => by
      simp only [Value.mentions] at hvalue
      simp only [Value.tokens]
      apply (h.tokens hvalue).bind
      intro inner
      exact .refl _
  | .argument .method value parameters, hvalue => by
      simp only [Value.mentions, List.mem_append] at hvalue
      simp only [Value.tokens]
      apply (h.parameterTokens fun place hplace => hvalue place (.inr hplace)).bind
      intro pieces
      have hname := h.tokens fun place hplace => hvalue place (.inl hplace)
      apply hname.bind
      intro name
      exact .refl _
  | .argument .column value parameters, hvalue | .argument .table value parameters, hvalue => by
      simp only [Value.mentions] at hvalue
      simp only [Value.tokens]
      by_cases hwild : value.isWildcard = true
      · simp only [hwild, if_true]
        exact .refl _
      · simp only [hwild, Bool.false_eq_true, if_false, List.mem_append] at hvalue ⊢
        have hpath := h.tokens fun place hplace => hvalue place (.inl hplace)
        apply hpath.bind
        intro path
        apply (h.aliasTokens fun place hplace => hvalue place (.inr hplace)).bind
        intro aliased
        exact .refl _
  | .null, hvalue | .bool _, hvalue | .int _, hvalue | .float _, hvalue | .undefined _, hvalue
  | .bytes _, hvalue | .list _, hvalue | .tuple _, hvalue | .set _, hvalue | .frozenset _, hvalue
  | .map _, hvalue | .fragment _, hvalue | .group _, hvalue | .queryBlueprint _, hvalue
  | .blueprint _, hvalue | .callback _, hvalue => h.shown hvalue

theorem parameterTokens (h : scope.Approximates places better) : ∀ {values : List Value},
    (∀ place ∈ Value.parameterMentions values, place ∈ places) →
      Outcome.Approximates (Value.parameterTokens scope values)
        (Value.parameterTokens better values)
  | [], _ => .refl _
  | value :: rest, hvalues => by
      simp only [Value.parameterMentions, List.mem_append] at hvalues
      simp only [Value.parameterTokens]
      have hfirst := h.tokens fun place hplace => hvalues place (.inl hplace)
      apply hfirst.bind
      intro first
      apply (h.parameterTokens fun place hplace => hvalues place (.inr hplace)).bind
      intro others
      exact .refl _

theorem aliasTokens (h : scope.Approximates places better) : ∀ {values : List Value},
    (∀ place ∈ Value.aliasMentions values, place ∈ places) →
      Outcome.Approximates (Value.aliasTokens scope values) (Value.aliasTokens better values)
  | [], _ => .refl _
  | value :: _, hvalues => by
      simp only [Value.aliasMentions] at hvalues
      simp only [Value.aliasTokens]
      by_cases htruthy : value.truthy = true
      · simp only [htruthy, if_true] at hvalues ⊢
        apply (h.tokens hvalues).bind
        intro name
        exact .refl _
      · simp only [htruthy, Bool.false_eq_true, if_false]
        exact .refl _

end

end Scope.Approximates

namespace Ingredient

mutual

/-- An argument mentions what its ingredients mention. -/
theorem mentions_of_within : ∀ {value : Value}, value.isArgument = true →
    Within places value.ingredients → ∀ place ∈ value.mentions, place ∈ places
  | .argument .raw value parameters, _, hwithin => by
      rw [Value.ingredients] at hwithin
      rw [Value.mentions]
      exact (within_cons.1 hwithin).1
  | .argument .method value parameters, _, hwithin => by
      rw [Value.ingredients] at hwithin
      rw [Value.mentions]
      obtain ⟨hvalue, hparameters⟩ := within_cons.1 hwithin
      intro place hplace
      rcases List.mem_append.1 hplace with hmem | hmem
      · exact hvalue place hmem
      · exact parameterMentions_of_within hparameters place hmem
  | .argument .column value parameters, _, hwithin
  | .argument .table value parameters, _, hwithin => by
      simp only [Value.ingredients] at hwithin
      simp only [Value.mentions]
      by_cases hwild : value.isWildcard = true
      · simp [hwild]
      · simp only [hwild, Bool.false_eq_true, if_false] at hwithin ⊢
        obtain ⟨hvalue, halias⟩ := within_cons.1 hwithin
        intro place hplace
        rcases List.mem_append.1 hplace with hmem | hmem
        · exact hvalue place hmem
        · exact aliasMentions_of_within halias place hmem

theorem parameterMentions_of_within : ∀ {values : List Value},
    Within places (Value.parameterIngredients values) →
      ∀ place ∈ Value.parameterMentions values, place ∈ places
  | [], _ => by simp [Value.parameterMentions]
  | value :: rest, hwithin => by
      rw [Value.parameterIngredients] at hwithin
      rw [Value.parameterMentions]
      obtain ⟨hvalue, hrest⟩ := within_append.1 hwithin
      intro place hplace
      rcases List.mem_append.1 hplace with hmem | hmem
      · by_cases hargument : value.isArgument = true
        · rw [if_pos hargument] at hvalue
          exact mentions_of_within hargument hvalue place hmem
        · by_cases hwild : value.isWildcard = true
          · cases value <;> simp [Value.isWildcard, Value.mentions] at hwild hmem
          · rw [if_neg hargument, if_neg hwild] at hvalue
            exact (within_cons.1 hvalue).1 place hmem
      · exact parameterMentions_of_within hrest place hmem

theorem aliasMentions_of_within : ∀ {values : List Value},
    Within places (Value.aliasIngredients values) →
      ∀ place ∈ Value.aliasMentions values, place ∈ places
  | [], _ => by simp [Value.aliasMentions]
  | value :: _, hwithin => by
      rw [Value.aliasIngredients] at hwithin
      rw [Value.aliasMentions]
      by_cases htruthy : value.truthy = true
      · rw [if_pos htruthy] at hwithin ⊢
        exact (within_cons.1 hwithin).1
      · simp [htruthy]

end

end Ingredient

namespace Scope.Approximates

variable (h : scope.Approximates places better)
include h

theorem toText {value : Value} (hvalue : ∀ place ∈ value.mentions, place ∈ places) :
    Outcome.Approximates (value.toText scope) (value.toText better) := by
  apply (h.tokens hvalue).bind
  intro inner
  exact .refl _

theorem identifier {value : Value} (hwithin : Within places value.identifierIngredients) :
    Outcome.Approximates (value.identifier scope) (value.identifier better) := by
  rw [Value.identifierIngredients] at hwithin
  rw [Value.identifier, Value.identifier]
  by_cases hargument : value.isArgument = true
  · simp only [hargument, if_true] at hwithin ⊢
    exact h.tokens (mentions_of_within hargument hwithin)
  · by_cases htruthy : value.truthy = true
    · simp only [hargument, htruthy, Bool.false_eq_true, if_false, if_true] at hwithin ⊢
      apply (h.toText (within_cons.1 hwithin).1).bind
      intro text
      exact .refl _
    · simp only [hargument, htruthy, Bool.false_eq_true, if_false]
      exact .refl _

theorem aliased {value aliasName : Value}
    (hwithin : Within places (value.aliasedIngredients aliasName)) :
    Outcome.Approximates (value.aliased scope aliasName) (value.aliased better aliasName) := by
  rw [Value.aliasedIngredients] at hwithin
  obtain ⟨hvalue, halias⟩ := within_append.1 hwithin
  apply (h.identifier hvalue).bind
  intro name
  by_cases htruthy : aliasName.truthy = true
  · simp only [htruthy, if_true] at halias ⊢
    apply (h.identifier halias).bind
    intro back
    exact .refl _
  · simp only [htruthy, Bool.false_eq_true, if_false]
    exact .refl _

theorem assigned {value : Value} (hwithin : Within places value.assignedIngredients) :
    Outcome.Approximates (Statement.assigned scope value) (Statement.assigned better value) := by
  rw [Value.assignedIngredients] at hwithin
  rw [Statement.assigned, Statement.assigned]
  by_cases hargument : value.isArgument = true
  · simp only [hargument, if_true] at hwithin ⊢
    exact h.tokens (mentions_of_within hargument hwithin)
  · simp only [hargument, Bool.false_eq_true, if_false]
    exact .refl _

theorem bound {clause : Clause} {value : Value}
    (hwithin : Within places value.operandIngredients) :
    Outcome.Approximates (Condition.boundTokens scope clause value)
      (Condition.boundTokens better clause value) := by
  cases value with
  | argument kind value parameters => exact h.tokens (mentions_of_within rfl hwithin)
  | _ => exact .refl _

/-! ### Conditions -/

omit h

mutual

theorem piece (h : scope.Approximates places better) {clause : Clause} :
    ∀ {condition : Condition}, Within places condition.ingredients →
      Outcome.Approximates (condition.piece? scope clause) (condition.piece? better clause)
  | .comparison keyword column operator value, hwithin => by
      simp only [Condition.ingredients, within_cons, within_append] at hwithin
      obtain ⟨⟨hkeyword, hcolumn⟩, hoperator, hvalue⟩ := hwithin
      simp only [Condition.piece?]
      apply (h.bound hvalue).bind
      intro bound
      apply (h.toText hkeyword).bind
      intro keyword
      apply (h.identifier hcolumn).bind
      intro column
      apply (h.toText hoperator).bind
      intro operator
      exact .refl _
  | .group keyword [], _ => by
      simp only [Condition.piece?]
      exact .refl _
  | .group keyword (first :: rest), hwithin => by
      simp only [Condition.ingredients, within_cons] at hwithin
      obtain ⟨hkeyword, hmembers⟩ := hwithin
      simp only [Condition.piece?]
      apply (h.pieces hmembers).bind
      intro inner
      apply (h.toText hkeyword).bind
      intro keyword
      exact .refl _
  | .malformed value, hwithin => by
      simp only [Condition.ingredients] at hwithin
      simp only [Condition.piece?]
      apply ((h.bound hwithin).map _).bind
      intro _
      exact .refl _

theorem pieces (h : scope.Approximates places better) {clause : Clause} :
    ∀ {conditions : List Condition}, Within places (Condition.levelIngredients conditions) →
      Outcome.Approximates (Condition.pieces scope clause conditions)
        (Condition.pieces better clause conditions)
  | [], _ => by
      simp only [Condition.pieces]
      exact .refl _
  | condition :: rest, hwithin => by
      simp only [Condition.levelIngredients, within_append] at hwithin
      simp only [Condition.pieces]
      apply (h.piece hwithin.1).bind
      intro first
      apply (h.pieces hwithin.2).bind
      intro others
      exact .refl _

end

include h

theorem level {clause : Clause} {conditions : List Condition}
    (hwithin : Within places (Condition.levelIngredients conditions)) :
    Outcome.Approximates (Condition.levelTokens scope clause conditions)
      (Condition.levelTokens better clause conditions) := by
  apply (h.pieces hwithin).bind
  intro pieces
  exact .refl _

/-! ### Clauses -/

theorem conditions {keyword : String} {clause : Clause} {blueprint : Blueprint}
    (hwithin : Within places (Statement.conditionIngredients clause blueprint)) :
    Outcome.Approximates (Statement.conditions scope keyword clause blueprint)
      (Statement.conditions better keyword clause blueprint) := by
  apply (h.level hwithin).bind
  intro level
  exact .refl _

theorem joinCondition {fragment : Fragment}
    (hwithin : Within places (Statement.joinConditionIngredients fragment)) :
    Outcome.Approximates (Statement.joinCondition scope fragment)
      (Statement.joinCondition better fragment) := by
  rw [Statement.joinConditionIngredients] at hwithin
  rw [Statement.joinCondition, Statement.joinCondition]
  generalize fragment.read "first" = first at hwithin ⊢
  cases first with
  | group members => exact h.level hwithin
  | _ =>
      simp only [within_append, within_cons] at hwithin
      obtain ⟨hfirst, hoperator, hsecond⟩ := hwithin
      apply (h.identifier hfirst).bind
      intro left
      apply (h.toText hoperator).bind
      intro operator
      apply (h.identifier hsecond).bind
      intro right
      exact .refl _

theorem joinPiece {fragment : Fragment}
    (hwithin : Within places (Statement.joinIngredients fragment)) :
    Outcome.Approximates (Statement.joinPiece scope fragment)
      (Statement.joinPiece better fragment) := by
  simp only [Statement.joinIngredients, within_cons, within_append] at hwithin
  obtain ⟨⟨htype, htable⟩, hcondition⟩ := hwithin
  apply (h.identifier htable).bind
  intro table
  apply (h.joinCondition hcondition).bind
  intro condition
  apply (h.toText htype).bind
  intro type
  exact .refl _

theorem joins {keyword : String} {blueprint : Blueprint} (hwithin : Within places
      ((blueprint.fragments .join).flatMap Statement.joinIngredients)) :
    Outcome.Approximates (Statement.joins scope keyword blueprint)
      (Statement.joins better keyword blueprint) := by
  have hpieces := within_flatMap.1 hwithin
  apply (Outcome.Approximates.mapM fun fragment hmem => h.joinPiece (hpieces fragment hmem)).bind
  intro pieces
  exact .refl _

omit h in
theorem listing {piece betterPiece : Fragment → Except Error Tokens} {keyword : String}
    {clause : Clause} {blueprint : Blueprint} {supply : Fragment → List Ingredient}
    (hpiece : ∀ fragment, Within places (supply fragment) →
      Outcome.Approximates (piece fragment) (betterPiece fragment))
    (hwithin : Within places ((blueprint.fragments clause).flatMap supply)) :
    Outcome.Approximates (Statement.listing piece keyword clause blueprint)
      (Statement.listing betterPiece keyword clause blueprint) := by
  have hpieces := within_flatMap.1 hwithin
  apply (Outcome.Approximates.mapM fun fragment hmem => hpiece _ (hpieces fragment hmem)).bind
  intro pieces
  exact .refl _

theorem columns {keyword : String} {blueprint : Blueprint} (hwithin : Within places
      ((blueprint.fragments .columns).flatMap Statement.columnIngredients)) :
    Outcome.Approximates (Statement.columns scope keyword blueprint)
      (Statement.columns better keyword blueprint) :=
  listing (fun _ => h.aliased) hwithin

theorem tables {keyword : String} {blueprint : Blueprint} (hwithin : Within places
      ((blueprint.fragments .tables).flatMap Statement.tableIngredients)) :
    Outcome.Approximates (Statement.tables scope keyword blueprint)
      (Statement.tables better keyword blueprint) :=
  listing (fun _ => h.aliased) hwithin

theorem groups {keyword : String} {blueprint : Blueprint} (hwithin : Within places
      ((blueprint.fragments .group).flatMap Statement.groupIngredients)) :
    Outcome.Approximates (Statement.groups scope keyword blueprint)
      (Statement.groups better keyword blueprint) :=
  listing (fun _ => h.identifier) hwithin

theorem orderPiece {fragment : Fragment}
    (hwithin : Within places (Statement.orderIngredients fragment)) :
    Outcome.Approximates (Statement.orderPiece scope fragment)
      (Statement.orderPiece better fragment) := by
  simp only [Statement.orderIngredients, within_append, within_cons] at hwithin
  obtain ⟨hcolumn, hsort, _⟩ := hwithin
  apply (h.identifier hcolumn).bind
  intro column
  apply (h.toText hsort).bind
  intro sort
  exact .refl _

theorem orders {keyword : String} {blueprint : Blueprint} (hwithin : Within places
      ((blueprint.fragments .order).flatMap Statement.orderIngredients)) :
    Outcome.Approximates (Statement.orders scope keyword blueprint)
      (Statement.orders better keyword blueprint) :=
  listing (fun _ => h.orderPiece) hwithin

/-! ### Rows and assignments -/

theorem cell {row column : Value} (hwithin : Within places (Statement.cellIngredients row column)) :
    Outcome.Approximates (do Statement.assigned scope (← row.subscript column))
      (do Statement.assigned better (← row.subscript column)) := by
  rw [Statement.cellIngredients] at hwithin
  apply Outcome.Approximates.after
  intro value hvalue
  rw [hvalue] at hwithin
  exact h.assigned hwithin

theorem rowTokens {columns : List Value} {number : Nat} {row : Value}
    (hwithin : Within places (Statement.rowIngredients columns row)) :
    Outcome.Approximates (Statement.rowTokens scope columns number row)
      (Statement.rowTokens better columns number row) := by
  have hcells := within_flatMap.1 hwithin
  apply Outcome.Approximates.after
  intro own _
  apply Outcome.Approximates.after
  intro expected _
  by_cases hsame : Value.sameMembers own expected = true
  · rw [if_pos hsame, if_pos hsame]
    apply (Outcome.Approximates.mapM fun column hmem => h.cell (hcells column hmem)).bind
    intro values
    exact .refl _
  · rw [if_neg hsame, if_neg hsame]
    exact .refl _

theorem batchTokens {columns : List Value} {number : Nat} {rows : List Value}
    (hwithin : Within places (rows.flatMap (Statement.rowIngredients columns))) :
    Outcome.Approximates (Statement.batchTokens scope columns number rows)
      (Statement.batchTokens better columns number rows) := by
  induction rows generalizing number with
  | nil => exact .refl _
  | cons row rest ih =>
      rw [List.flatMap_cons, within_append] at hwithin
      rw [Statement.batchTokens, Statement.batchTokens]
      apply (h.rowTokens hwithin.1).bind
      intro first
      apply (ih hwithin.2).bind
      intro others
      exact .refl _

theorem valuesTokens {rows : List Value}
    (hwithin : Within places (Statement.batchIngredients rows)) :
    Outcome.Approximates (Statement.valuesTokens scope rows)
      (Statement.valuesTokens better rows) := by
  cases rows with
  | nil => exact .refl _
  | cons first rest =>
      rw [Statement.batchIngredients] at hwithin
      rw [Statement.valuesTokens, Statement.valuesTokens]
      by_cases htruthy : first.truthy = true
      · simp only [htruthy, if_true]
        apply Outcome.Approximates.after
        intro columns hcolumns
        rw [hcolumns, within_append] at hwithin
        obtain ⟨hnames, hrows⟩ := hwithin
        have hname := within_flatMap.1 hnames
        apply (h.batchTokens hrows).bind
        intro tuples
        apply (Outcome.Approximates.mapM fun column hmem =>
          h.identifier (hname column hmem)).bind
        intro names
        exact .refl _
      · simp only [htruthy, Bool.false_eq_true, if_false]
        exact .refl _

theorem assignment {entry : Value × Value}
    (hwithin : Within places (Statement.assignmentIngredients entry)) :
    Outcome.Approximates (Statement.assignment scope entry)
      (Statement.assignment better entry) := by
  obtain ⟨hcolumn, hvalue⟩ := within_append.1 hwithin
  apply (h.identifier hcolumn).bind
  intro column
  apply (h.assigned hvalue).bind
  intro value
  exact .refl _

theorem assignments {fragment : Fragment} {entries : Entries}
    (hentries : Statement.assignmentEntries (fragment.read "update") = .ok entries)
    (hwithin : Within places (Statement.updateIngredients fragment)) :
    Outcome.Approximates (Statement.assignments scope entries)
      (Statement.assignments better entries) := by
  rw [Statement.updateIngredients_of_entries hentries] at hwithin
  have hpieces := within_flatMap.1 hwithin
  apply (Outcome.Approximates.mapM fun entry hmem => h.assignment (hpieces entry hmem)).bind
  intro pieces
  exact .refl _

theorem duplicateTail {fragment : Fragment}
    (hwithin : Within places (Statement.updateIngredients fragment)) :
    Outcome.Approximates (Statement.duplicateTail scope fragment)
      (Statement.duplicateTail better fragment) := by
  rw [Statement.duplicateTail, Statement.duplicateTail]
  by_cases htruthy : (fragment.read "update").truthy = true
  · simp only [htruthy, if_true]
    apply Outcome.Approximates.after
    intro entries hentries
    apply (h.assignments hentries hwithin).bind
    intro pieces
    exact .refl _
  · simp only [htruthy, Bool.false_eq_true, if_false]
    exact .refl _

theorem conflictTail {fragment : Fragment} (hwithin : Within places
      (Statement.targetIngredients fragment ++ Statement.updateIngredients fragment)) :
    Outcome.Approximates (Statement.conflictTail scope fragment)
      (Statement.conflictTail better fragment) := by
  obtain ⟨htarget, hupdate⟩ := within_append.1 hwithin
  rw [Statement.conflictTail, Statement.conflictTail]
  by_cases hindex : (fragment.read "index").truthy = true
  · rw [Statement.targetIngredients, if_pos hindex] at htarget
    simp only [hindex, if_true]
    apply Outcome.Approximates.after
    intro target hitems
    rw [hitems] at htarget
    have hnames := within_flatMap.1 htarget
    by_cases hempty : target.isEmpty = true
    · simp only [hempty, if_true]
      exact .refl (.error .missingConflictTarget)
    · simp only [hempty, Bool.false_eq_true, if_false]
      apply (Outcome.Approximates.mapM fun column hmem =>
        h.identifier (hnames column hmem)).bind
      intro names
      by_cases htruthy : (fragment.read "update").truthy = true
      · simp only [htruthy, if_true]
        apply Outcome.Approximates.after
        intro entries hentries
        apply (h.assignments hentries hupdate).bind
        intro pieces
        exact .refl _
      · simp only [htruthy, Bool.false_eq_true, if_false]
        exact .refl _
  · simp only [hindex, Bool.false_eq_true, if_false]
    -- without an index there is no target, which is refused in every scope
    exact .refl (.error .missingConflictTarget)

theorem upsertTail {dialect : Dialect} {fragment : Fragment} (hwithin : Within places
      (Statement.targetIngredients fragment ++ Statement.updateIngredients fragment)) :
    Outcome.Approximates (Statement.upsertTail scope dialect fragment)
      (Statement.upsertTail better dialect fragment) := by
  cases dialect with
  | mysql => exact h.duplicateTail (within_append.1 hwithin).2
  | sqlite => exact h.conflictTail hwithin

theorem inserts {dialect : Dialect} {keyword : String} {upsert : Bool} {blueprint : Blueprint}
    (hinsert : Within places (Statement.leading Statement.insertIngredients .insert blueprint))
    (htail : upsert = true →
      Within places (Statement.leading (Statement.tailIngredients .sqlite) .insert blueprint)) :
    Outcome.Approximates (Statement.inserts scope dialect keyword upsert blueprint)
      (Statement.inserts better dialect keyword upsert blueprint) := by
  rw [Statement.leading] at hinsert htail
  rw [Statement.inserts, Statement.inserts]
  cases hfirst : blueprint.first? .insert with
  | none => exact .refl (.error .missingValues)
  | some fragment =>
      rw [hfirst] at hinsert htail
      apply Outcome.Approximates.after
      intro rows hrows
      have hvalues : Within places (Statement.batchIngredients rows) := by
        simpa only [Statement.insertIngredients, hrows] using hinsert
      apply (h.valuesTokens hvalues).bind
      intro body
      cases upsert with
      | true =>
          rw [if_pos rfl, if_pos rfl]
          apply (h.upsertTail (htail rfl)).bind
          intro tail
          exact .refl _
      | false =>
          rw [if_neg Bool.false_ne_true, if_neg Bool.false_ne_true]
          exact .refl _

theorem updates {keyword : String} {blueprint : Blueprint}
    (hwithin : Within places (Statement.leading Statement.updateIngredients .update blueprint)) :
    Outcome.Approximates (Statement.updates scope keyword blueprint)
      (Statement.updates better keyword blueprint) := by
  rw [Statement.leading] at hwithin
  rw [Statement.updates, Statement.updates]
  cases hfirst : blueprint.first? .update with
  | none => exact .refl (.error .missingAssignments)
  | some fragment =>
      rw [hfirst] at hwithin
      by_cases htruthy : (fragment.read "update").truthy = true
      · simp only [htruthy, if_true]
        apply Outcome.Approximates.after
        intro entries hentries
        apply (h.assignments hentries hwithin).bind
        intro pieces
        exact .refl _
      · simp only [htruthy, Bool.false_eq_true, if_false]
        exact .refl (.error .missingAssignments)

/-! ### Statements -/

/-- The clauses of a statement, given results for the members of its union. -/
theorem clauses {dialect : Dialect} {emptying : String} {blueprint : Blueprint}
    {members betterMembers : Except Error (List Tokens)}
    (hwithin : Within places (Statement.ingredients .sqlite blueprint []))
    (hmembers : Outcome.Approximates members betterMembers) :
    List.Forall₂ Outcome.Approximates
      (Statement.clauses scope dialect emptying blueprint members)
      (Statement.clauses better dialect emptying blueprint betterMembers) := by
  rw [Statement.ingredients] at hwithin
  rw [Statement.clauses, Statement.clauses]
  cases htype : blueprint.type with
  | select =>
      simp only [htype, within_append] at hwithin
      obtain ⟨⟨⟨⟨⟨⟨⟨hcolumns, htables⟩, hjoins⟩, hfilter⟩, hgroups⟩, hhaving⟩, horders⟩, _⟩ :=
        hwithin
      exact .cons (h.columns hcolumns) (.cons (h.tables htables) (.cons (h.joins hjoins)
        (.cons (h.conditions hfilter) (.cons (h.groups hgroups) (.cons (h.conditions hhaving)
          (.cons (h.orders horders) (.cons (.refl _) (.cons (hmembers.map _) .nil))))))))
  | insert =>
      simp only [htype, within_append] at hwithin
      obtain ⟨htables, hinsert⟩ := hwithin
      exact .cons (h.tables htables) (.cons (h.inserts hinsert (by simp)) .nil)
  | upsert =>
      simp only [htype, within_append] at hwithin
      obtain ⟨⟨htables, hinsert⟩, htail⟩ := hwithin
      exact .cons (h.tables htables) (.cons (h.inserts hinsert fun _ => htail) .nil)
  | update =>
      simp only [htype, within_append] at hwithin
      obtain ⟨⟨⟨htables, hupdate⟩, hfilter⟩, horders⟩ := hwithin
      exact .cons (h.tables htables) (.cons (h.updates hupdate) (.cons (h.conditions hfilter)
        (.cons (h.orders horders) (.cons (.refl _) .nil))))
  | delete =>
      simp only [htype, within_append] at hwithin
      obtain ⟨⟨htables, hfilter⟩, horders⟩ := hwithin
      exact .cons (h.tables htables) (.cons (h.conditions hfilter) (.cons (h.orders horders)
        (.cons (.refl _) .nil)))
  | truncate =>
      simp only [htype] at hwithin
      exact .cons (h.tables hwithin) .nil

theorem whole {dialect : Dialect} {emptying : String} {blueprint : Blueprint}
    {members betterMembers : Except Error (List Tokens)}
    (hwithin : Within places (Statement.ingredients .sqlite blueprint []))
    (hmembers : Outcome.Approximates members betterMembers) :
    Outcome.Approximates (Statement.whole scope dialect emptying blueprint members)
      (Statement.whole better dialect emptying blueprint betterMembers) := by
  have hparts : Outcome.Approximates (Statement.parts scope dialect emptying blueprint members)
      (Statement.parts better dialect emptying blueprint betterMembers) := by
    rw [Statement.parts_eq, Statement.parts_eq]
    exact Outcome.Approximates.after fun _ _ =>
      Outcome.Approximates.sequence (h.clauses hwithin hmembers)
  apply hparts.bind
  intro parts
  exact .refl _

end Scope.Approximates

end SqlBuilder
