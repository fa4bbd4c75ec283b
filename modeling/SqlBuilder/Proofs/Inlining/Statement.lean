import SqlBuilder.Connection.Recording
import SqlBuilder.Proofs.Conditions
import SqlBuilder.Proofs.Frame
import SqlBuilder.Proofs.Inlining

/-!
# Inlining and binding in a statement

The lemmas follow the compiler from a single value up to a whole statement with the members of its
union. A level of conditions begins with a keyword that is cut off, and all that the level is given
stands behind it.
-/

namespace SqlBuilder

open Outcome

namespace Carries

variable {scope : Scope}

theorem parameters_identifier {value : Value} {tokens : Tokens}
    (h : value.identifier scope = .ok tokens) : tokens.parameters = [] :=
  (Assembled.identifier h).parameters.trans value.bound_identifierIngredients

theorem parameters_aliased {value aliasName : Value} {tokens : Tokens}
    (h : value.aliased scope aliasName = .ok tokens) : tokens.parameters = [] :=
  (Assembled.aliased h).parameters.trans (value.bound_aliasedIngredients aliasName)

theorem operand {clause : Clause} {value : Value} {tokens : Tokens}
    (h : Condition.boundTokens scope clause value = .ok tokens) :
    Carries scope [.operand value] tokens := by
  have hparameters := (Assembled.operand h).parameters
  have hitems : ∀ items : List Value, (items.map Ingredient.bound).filterMap Ingredient.bound? =
      items := by
    intro items
    rw [List.filterMap_map]
    exact List.filterMap_some
  cases value with
  | argument kind value parameters => exact of_argument rfl h
  | list items | tuple items | set items | frozenset items =>
      exact of_plain rfl (hparameters.trans (hitems items))
  | _ => exact of_plain rfl hparameters

theorem assigned {value : Value} {tokens : Tokens}
    (h : Statement.assigned scope value = .ok tokens) :
    Carries scope [.assigned value] tokens := by
  rw [Statement.assigned] at h
  by_cases hargument : value.isArgument = true
  · rw [if_pos hargument] at h
    exact of_argument hargument h
  · rw [if_neg hargument] at h
    cases h
    exact of_plain (by simpa [Given.value] using hargument) (by simp [Given.bound, hargument])

/-! ### Conditions -/

def Led (scope : Scope) (given : List Given) (tokens : Tokens) : Prop :=
  tokens = [] ∧ given = [] ∨
    ∃ keyword rest, tokens = .literal keyword :: rest ∧ Carries scope given rest

theorem Led.dropLeading {given : List Given} {tokens : Tokens} (h : Led scope given tokens) :
    Carries scope given (Condition.dropLeading tokens) := by
  rcases h with ⟨rfl, rfl⟩ | ⟨keyword, rest, rfl, hrest⟩
  · exact of_parameters rfl
  · exact hrest.literal _

theorem Led.cons {given others : List Given} {keyword : String} {rest : Tokens}
    {pieces : List Tokens} (hfirst : Carries scope given rest)
    (hrest : Led scope others (Tokens.joined " " pieces)) :
    Led scope (given ++ others) (Tokens.joined " " ((.literal keyword :: rest) :: pieces)) := by
  refine .inr ⟨keyword, ?_⟩
  cases pieces with
  | nil =>
      rcases hrest with ⟨-, rfl⟩ | ⟨_, _, hnil, _⟩
      · exact ⟨rest, Tokens.joined_singleton " " _, by simpa using hfirst⟩
      · cases hnil
  | cons next tail =>
      refine ⟨_, Tokens.joined_cons_cons " " _ next tail, ?_⟩
      -- the keyword of the next piece stands between them and carries nothing
      rcases hrest with ⟨hnil, rfl⟩ | ⟨other, behind, hbehind, hcarries⟩
      · rw [hnil]
        exact hfirst.append (of_parameters rfl)
      · rw [hbehind]
        exact hfirst.append ((hcarries.literal other).literal " ")

mutual

/-- An empty group is given nothing. -/
theorem condition : ∀ {condition : Condition} {clause : Clause} {piece : Option Tokens},
    condition.piece? scope clause = .ok piece →
      piece = none ∧ condition.given = [] ∨
        ∃ keyword rest, piece = some (.literal keyword :: rest) ∧
          Carries scope condition.given rest
  | .comparison keyword column operator value, clause, piece, h => by
      rw [Condition.piece?] at h
      obtain ⟨bound, hbound, h⟩ := bind_eq_ok.1 h
      obtain ⟨keywordText, -, h⟩ := bind_eq_ok.1 h
      obtain ⟨columnTokens, hcolumn, h⟩ := bind_eq_ok.1 h
      obtain ⟨operatorText, -, h⟩ := bind_eq_ok.1 h
      obtain rfl := pure_eq_ok.1 h
      have hright := (operand hbound).literal (" " ++ operatorText ++ " ")
      rw [Condition.given]
      exact .inr ⟨_, _, rfl, hright.after (parameters_identifier hcolumn)⟩
  | .group keyword [], clause, piece, h => by
      obtain rfl : none = piece := by simpa [Condition.piece?] using h
      exact .inl ⟨rfl, by rw [Condition.given, Condition.givenAll]⟩
  | .group keyword (first :: rest), clause, piece, h => by
      rw [Condition.piece?] at h
      · obtain ⟨inner, hinner, h⟩ := bind_eq_ok.1 h
        obtain ⟨keywordText, -, h⟩ := bind_eq_ok.1 h
        obtain rfl := pure_eq_ok.1 h
        rw [Condition.given]
        exact .inr ⟨_, _, rfl, (level hinner).dropLeading.before rfl⟩
      · simp
  | .malformed value, clause, piece, h => by
      rw [Condition.piece?] at h
      obtain ⟨_, _, h⟩ := bind_eq_ok.1 h
      cases h

theorem level : ∀ {conditions : List Condition} {clause : Clause} {pieces : List Tokens},
    Condition.pieces scope clause conditions = .ok pieces →
      Led scope (Condition.givenAll conditions) (Tokens.joined " " pieces)
  | [], clause, pieces, h => by
      obtain rfl : [] = pieces := by simpa [Condition.pieces] using h
      exact .inl ⟨rfl, by rw [Condition.givenAll]⟩
  | first :: rest, clause, pieces, h => by
      rw [Condition.pieces] at h
      obtain ⟨piece, hpiece, h⟩ := bind_eq_ok.1 h
      obtain ⟨others, hothers, h⟩ := bind_eq_ok.1 h
      obtain rfl := pure_eq_ok.1 h
      rw [Condition.givenAll]
      rcases condition hpiece with ⟨rfl, hnone⟩ | ⟨keyword, tokens, rfl, hfirst⟩
      · rw [hnone]
        exact level hothers
      · exact .cons hfirst (level hothers)

end

theorem levelTokens {conditions : List Condition} {clause : Clause} {tokens : Tokens}
    (h : Condition.levelTokens scope clause conditions = .ok tokens) :
    Carries scope (Condition.givenAll conditions) tokens := by
  obtain ⟨pieces, hpieces, h⟩ := bind_eq_ok.1 h
  obtain rfl := pure_eq_ok.1 h
  exact (level hpieces).dropLeading

/-! ### Clauses -/

theorem joined_of_parameters {α : Type} {items : List α} {pieces : List Tokens}
    (h : List.Forall₂ (fun _ piece => piece.parameters = []) items pieces) :
    Carries scope [] (Tokens.joined ", " pieces) := by
  have hpieces : List.Forall₂ (fun _ piece => Carries scope [] piece) items pieces :=
    h.imp fun _ _ => of_parameters
  have hjoined := joined ", " hpieces
  rwa [List.flatMap_eq_nil_iff.2 fun _ _ => rfl] at hjoined

theorem listing {piece : Fragment → Except Error Tokens} {keyword : String} {clause : Clause}
    {blueprint : Blueprint} {tokens : Tokens}
    (hpiece : ∀ fragment tokens, piece fragment = .ok tokens → tokens.parameters = [])
    (h : Statement.listing piece keyword clause blueprint = .ok tokens) :
    Carries scope [] tokens := by
  obtain ⟨pieces, hpieces, h⟩ := bind_eq_ok.1 h
  obtain rfl := pure_eq_ok.1 h
  have hnothing := (mapM_eq_ok.1 hpieces).imp hpiece
  exact (joined_of_parameters hnothing).headed keyword

theorem columns {keyword : String} {blueprint : Blueprint} {tokens : Tokens}
    (h : Statement.columns scope keyword blueprint = .ok tokens) : Carries scope [] tokens :=
  listing (fun _ _ => parameters_aliased) h

theorem tables {keyword : String} {blueprint : Blueprint} {tokens : Tokens}
    (h : Statement.tables scope keyword blueprint = .ok tokens) : Carries scope [] tokens :=
  listing (fun _ _ => parameters_aliased) h

theorem groups {keyword : String} {blueprint : Blueprint} {tokens : Tokens}
    (h : Statement.groups scope keyword blueprint = .ok tokens) : Carries scope [] tokens :=
  listing (fun _ _ => parameters_identifier) h

theorem orders {keyword : String} {blueprint : Blueprint} {tokens : Tokens}
    (h : Statement.orders scope keyword blueprint = .ok tokens) : Carries scope [] tokens :=
  listing (fun fragment _ h =>
    (Assembled.orderPiece h).parameters.trans (Statement.bound_orderIngredients fragment)) h

theorem limits {keyword : String} {blueprint : Blueprint} {tokens : Tokens}
    (h : Statement.limits keyword blueprint = .ok tokens) : Carries scope [] tokens := by
  rw [Statement.limits] at h
  split at h
  · obtain rfl := pure_eq_ok.1 h
    exact of_parameters rfl
  · obtain ⟨text, -, h⟩ := bind_eq_ok.1 h
    obtain rfl := pure_eq_ok.1 h
    exact (of_parameters rfl).headed keyword

theorem conditions {keyword : String} {clause : Clause} {blueprint : Blueprint} {tokens : Tokens}
    (h : Statement.conditions scope keyword clause blueprint = .ok tokens) :
    Carries scope (Statement.conditionsGiven clause blueprint) tokens := by
  obtain ⟨level, hlevel, h⟩ := bind_eq_ok.1 h
  obtain rfl := pure_eq_ok.1 h
  exact (levelTokens hlevel).headed keyword

theorem joinCondition {fragment : Fragment} {tokens : Tokens}
    (h : Statement.joinCondition scope fragment = .ok tokens) :
    Carries scope (Statement.joinGiven fragment) tokens := by
  rw [Statement.joinCondition] at h
  rw [Statement.joinGiven]
  generalize fragment.read "first" = first at h ⊢
  cases first with
  | group members => exact levelTokens h
  | _ =>
      obtain ⟨left, hleft, h⟩ := bind_eq_ok.1 h
      obtain ⟨operator, -, h⟩ := bind_eq_ok.1 h
      obtain ⟨right, hright, h⟩ := bind_eq_ok.1 h
      obtain rfl := pure_eq_ok.1 h
      refine of_parameters ?_
      rw [Tokens.parameters_append, Tokens.parameters_literal, parameters_identifier hleft,
        parameters_identifier hright]
      rfl

theorem joins {keyword : String} {blueprint : Blueprint} {tokens : Tokens}
    (h : Statement.joins scope keyword blueprint = .ok tokens) :
    Carries scope ((blueprint.fragments .join).flatMap Statement.joinGiven) tokens := by
  obtain ⟨pieces, hpieces, h⟩ := bind_eq_ok.1 h
  obtain rfl := pure_eq_ok.1 h
  refine (joined " " ((mapM_eq_ok.1 hpieces).imp fun fragment piece h => ?_)).headed keyword
  obtain ⟨table, htable, h⟩ := bind_eq_ok.1 h
  obtain ⟨condition, hcondition, h⟩ := bind_eq_ok.1 h
  obtain ⟨type, -, h⟩ := bind_eq_ok.1 h
  obtain rfl := pure_eq_ok.1 h
  have hbehind := (joinCondition hcondition).literal " ON "
  exact (hbehind.after (parameters_identifier htable)).literal _

/-! ### Rows and assignments -/

theorem rowTokens {columns : List Value} {number : Nat} {row : Value} {tokens : Tokens}
    (h : Statement.rowTokens scope columns number row = .ok tokens) :
    Carries scope (columns.flatMap (Statement.cellGiven row)) tokens := by
  obtain ⟨own, -, h⟩ := bind_eq_ok.1 h
  obtain ⟨expected, -, h⟩ := bind_eq_ok.1 h
  by_cases hsame : Value.sameMembers own expected = true
  · rw [if_pos hsame] at h
    obtain ⟨values, hvalues, h⟩ := bind_eq_ok.1 h
    obtain rfl := pure_eq_ok.1 h
    have hcells : List.Forall₂ (fun column piece =>
        Carries scope (Statement.cellGiven row column) piece) columns values := by
      refine (mapM_eq_ok.1 hvalues).imp fun column piece hpiece => ?_
      obtain ⟨value, hvalue, hpiece⟩ := bind_eq_ok.1 hpiece
      rw [Statement.cellGiven, hvalue]
      exact assigned hpiece
    exact ((joined ", " hcells).literal "(").before rfl
  · rw [if_neg hsame] at h
    obtain ⟨ownSorted, -, h⟩ := bind_eq_ok.1 h
    obtain ⟨columnsSorted, -, h⟩ := bind_eq_ok.1 h
    cases h

theorem batchTokens {columns : List Value} {number : Nat} {rows : List Value}
    {tuples : List Tokens} (h : Statement.batchTokens scope columns number rows = .ok tuples) :
    Carries scope (rows.flatMap fun row => columns.flatMap (Statement.cellGiven row))
      (Tokens.joined ", " tuples) := by
  induction rows generalizing number tuples with
  | nil =>
      obtain rfl : [] = tuples := by simpa [Statement.batchTokens] using h
      exact of_parameters rfl
  | cons row rest ih =>
      rw [Statement.batchTokens] at h
      obtain ⟨first, hfirst, h⟩ := bind_eq_ok.1 h
      obtain ⟨others, hothers, h⟩ := bind_eq_ok.1 h
      obtain rfl := pure_eq_ok.1 h
      exact (rowTokens hfirst).joined_cons ", " (ih hothers)

theorem parameters_names {columns : List Value} {names : List Tokens}
    (h : columns.mapM (Value.identifier scope) = .ok names) :
    (Tokens.joined ", " names).parameters = [] := by
  have hnothing := (mapM_eq_ok.1 h).imp fun _ _ => parameters_identifier
  have hcarries : Carries scope [] (Tokens.joined ", " names) := joined_of_parameters hnothing
  exact hcarries.parameters

theorem valuesTokens {rows : List Value} {tokens : Tokens}
    (h : Statement.valuesTokens scope rows = .ok tokens) :
    Carries scope (Statement.batchGiven rows) tokens := by
  cases rows with
  | nil => cases h
  | cons first rest =>
      rw [Statement.valuesTokens] at h
      by_cases htruthy : first.truthy = true
      · simp only [htruthy, if_true] at h
        obtain ⟨columns, hcolumns, h⟩ := bind_eq_ok.1 h
        obtain ⟨tuples, htuples, h⟩ := bind_eq_ok.1 h
        obtain ⟨names, hnames, h⟩ := bind_eq_ok.1 h
        obtain rfl := pure_eq_ok.1 h
        rw [Statement.batchGiven, hcolumns]
        have hrows := (batchTokens htuples).literal ") VALUES "
        exact (hrows.after (parameters_names hnames)).literal "("
      · simp only [htruthy] at h
        cases h

theorem assignments {entries : Entries} {tokens : Tokens}
    (h : Statement.assignments scope entries = .ok tokens) :
    Carries scope (entries.map fun entry => .assigned entry.2) tokens := by
  obtain ⟨pieces, hpieces, h⟩ := bind_eq_ok.1 h
  obtain rfl := pure_eq_ok.1 h
  rw [List.map_eq_flatMap]
  refine joined ", " ((mapM_eq_ok.1 hpieces).imp fun entry piece h => ?_)
  obtain ⟨column, hcolumn, h⟩ := bind_eq_ok.1 h
  obtain ⟨value, hvalue, h⟩ := bind_eq_ok.1 h
  obtain rfl := pure_eq_ok.1 h
  exact ((assigned hvalue).literal " = ").after (parameters_identifier hcolumn)

theorem updateGiven_of_entries {fragment : Fragment} {entries : Entries}
    (h : Statement.assignmentEntries (fragment.read "update") = .ok entries) :
    Statement.updateGiven fragment = entries.map fun entry => .assigned entry.2 := by
  rw [Statement.updateGiven, Statement.eq_map_of_assignmentEntries h]

theorem updateGiven_of_not_truthy {fragment : Fragment}
    (h : ¬(fragment.read "update").truthy = true) : Statement.updateGiven fragment = [] := by
  rw [Statement.updateGiven]
  cases hupdate : fragment.read "update" with
  | map entries =>
      rw [hupdate] at h
      have hentries : entries = [] := by simpa [Value.truthy] using h
      rw [hentries]
      rfl
  | _ => rfl

theorem duplicateTail {fragment : Fragment} {tokens : Tokens}
    (h : Statement.duplicateTail scope fragment = .ok tokens) :
    Carries scope (Statement.updateGiven fragment) tokens := by
  rw [Statement.duplicateTail] at h
  by_cases htruthy : (fragment.read "update").truthy = true
  · simp only [htruthy, if_true] at h
    obtain ⟨entries, hentries, h⟩ := bind_eq_ok.1 h
    obtain ⟨pieces, hpieces, h⟩ := bind_eq_ok.1 h
    rw [updateGiven_of_entries hentries]
    have htail := (assignments hpieces).literal "ON DUPLICATE KEY UPDATE "
    split at h
    · obtain rfl := pure_eq_ok.1 h
      have halias : Tokens.parameters [.literal "AS ", .name Statement.rowAlias, .literal " "] =
          [] := rfl
      exact htail.after halias
    · obtain rfl := pure_eq_ok.1 h
      exact htail
  · simp only [htruthy, Bool.false_eq_true, if_false] at h
    obtain rfl := pure_eq_ok.1 h
    rw [updateGiven_of_not_truthy htruthy]
    exact of_parameters rfl

theorem conflictTail {fragment : Fragment} {tokens : Tokens}
    (h : Statement.conflictTail scope fragment = .ok tokens) :
    Carries scope (Statement.updateGiven fragment) tokens := by
  rw [Statement.conflictTail] at h
  by_cases hindex : (fragment.read "index").truthy = true
  · simp only [hindex, if_true] at h
    obtain ⟨target, -, h⟩ := bind_eq_ok.1 h
    by_cases hempty : target.isEmpty = true
    · rw [if_pos hempty] at h
      cases h
    · rw [if_neg hempty] at h
      obtain ⟨names, hnames, h⟩ := bind_eq_ok.1 h
      have hhead := parameters_names hnames
      by_cases htruthy : (fragment.read "update").truthy = true
      · rw [if_pos htruthy] at h
        obtain ⟨entries, hentries, h⟩ := bind_eq_ok.1 h
        obtain ⟨pieces, hpieces, h⟩ := bind_eq_ok.1 h
        obtain rfl := pure_eq_ok.1 h
        rw [updateGiven_of_entries hentries]
        have htail := (assignments hpieces).literal ") DO UPDATE SET "
        exact (htail.after hhead).literal "ON CONFLICT ("
      · rw [if_neg htruthy] at h
        obtain rfl := pure_eq_ok.1 h
        rw [updateGiven_of_not_truthy htruthy]
        refine of_parameters ?_
        rw [Tokens.parameters_append, Tokens.parameters_literal, hhead]
        rfl
  · -- without an index there is no target, which is refused
    simp only [hindex] at h
    cases h

theorem inserts {dialect : Dialect} {keyword : String} {upsert : Bool} {blueprint : Blueprint}
    {tokens : Tokens} (h : Statement.inserts scope dialect keyword upsert blueprint = .ok tokens) :
    Carries scope (Statement.leadingGiven Statement.insertGiven .insert blueprint ++
      if upsert then Statement.leadingGiven Statement.updateGiven .insert blueprint else [])
      tokens := by
  rw [Statement.inserts] at h
  cases hfirst : blueprint.first? .insert with
  | none =>
      rw [hfirst] at h
      cases h
  | some fragment =>
      rw [hfirst] at h
      have hleading : ∀ supply, Statement.leadingGiven supply .insert blueprint =
          supply fragment := by
        intro supply
        rw [Statement.leadingGiven, hfirst]
      rw [hleading, hleading]
      obtain ⟨rows, hrows, h⟩ := bind_eq_ok.1 h
      obtain ⟨body, hbody, h⟩ := bind_eq_ok.1 h
      have hvalues : Carries scope (Statement.insertGiven fragment) body := by
        rw [Statement.insertGiven, hrows]
        exact valuesTokens hbody
      cases upsert with
      | true =>
          rw [if_pos rfl] at h ⊢
          obtain ⟨tail, htail, h⟩ := bind_eq_ok.1 h
          obtain rfl := pure_eq_ok.1 h
          have hbehind : Carries scope (Statement.updateGiven fragment) tail := by
            cases dialect with
            | mysql => exact duplicateTail htail
            | sqlite => exact conflictTail htail
          have hnothing : Carries scope [] (Tokens.spaced []) := of_parameters rfl
          have hlast := hbehind.spaced_cons hnothing
          rw [List.append_nil] at hlast
          exact (hvalues.spaced_cons hlast).headed keyword
      | false =>
          rw [if_neg (by decide)] at h ⊢
          obtain rfl := pure_eq_ok.1 h
          rw [List.append_nil]
          exact hvalues.headed keyword

theorem updates {keyword : String} {blueprint : Blueprint} {tokens : Tokens}
    (h : Statement.updates scope keyword blueprint = .ok tokens) :
    Carries scope (Statement.leadingGiven Statement.updateGiven .update blueprint) tokens := by
  rw [Statement.updates] at h
  rw [Statement.leadingGiven]
  cases hfirst : blueprint.first? .update with
  | none =>
      rw [hfirst] at h
      cases h
  | some fragment =>
      rw [hfirst] at h
      by_cases htruthy : (fragment.read "update").truthy = true
      · simp only [htruthy, if_true] at h
        obtain ⟨entries, hentries, h⟩ := bind_eq_ok.1 h
        obtain ⟨pieces, hpieces, h⟩ := bind_eq_ok.1 h
        obtain rfl := pure_eq_ok.1 h
        dsimp only
        rw [updateGiven_of_entries hentries]
        exact (assignments hpieces).headed keyword
      · simp only [htruthy] at h
        cases h

/-! ### Statements -/

theorem spaced_mapM {supplies : List (List Given)} {results : List (Except Error Tokens)}
    {pieces : List Tokens}
    (hcarries : List.Forall₂ (fun supply result => ∀ tokens, result = .ok tokens →
      Carries scope supply tokens) supplies results) (h : results.mapM id = .ok pieces) :
    Carries scope supplies.flatten (Tokens.spaced pieces) := by
  have hpieces := mapM_eq_ok.1 h
  clear h
  induction hcarries generalizing pieces with
  | nil =>
      cases hpieces
      exact of_parameters rfl
  | cons hfirst _ ih =>
      cases hpieces with
      | cons hanswer hothers => exact (hfirst _ hanswer).spaced_cons (ih hothers)

/-- What each clause of a statement is given. -/
theorem clauses {dialect : Dialect} {emptying : String} {blueprint : Blueprint}
    {members : Except Error (List Tokens)} {memberGiven : List Given}
    (hmembers : ∀ pieces, members = .ok pieces →
      Carries scope memberGiven (Tokens.joined ", " pieces)) :
    ∃ supplies, supplies.flatten = Statement.given blueprint memberGiven ∧
      List.Forall₂ (fun supply result => ∀ tokens, result = .ok tokens →
        Carries scope supply tokens) supplies
        (Statement.clauses scope dialect emptying blueprint members) := by
  have hunion : ∀ tokens, Statement.unions "UNION" <$> members = .ok tokens →
      Carries scope memberGiven tokens := by
    intro tokens h
    obtain ⟨pieces, hpieces, rfl⟩ := map_eq_ok.1 h
    exact (hmembers pieces hpieces).headed "UNION"
  simp only [Statement.given, Statement.clauses]
  cases blueprint.type with
  | select =>
      refine ⟨[[], [], _, _, [], _, [], [], _], ?_,
        .cons (fun _ => columns) (.cons (fun _ => tables) (.cons (fun _ => joins)
        (.cons (fun _ => conditions) (.cons (fun _ => groups) (.cons (fun _ => conditions)
        (.cons (fun _ => orders) (.cons (fun _ => limits) (.cons hunion .nil))))))))⟩
      simp
  | insert =>
      refine ⟨[[], _], ?_, .cons (fun _ => tables) (.cons (fun _ => inserts) .nil)⟩
      simp
  | upsert =>
      refine ⟨[[], _], ?_, .cons (fun _ => tables) (.cons (fun _ => inserts) .nil)⟩
      simp
  | update =>
      refine ⟨[[], _, _, [], []], ?_, .cons (fun _ => tables) (.cons (fun _ => updates)
        (.cons (fun _ => conditions) (.cons (fun _ => orders) (.cons (fun _ => limits) .nil))))⟩
      simp
  | delete =>
      refine ⟨[[], _, [], []], ?_, .cons (fun _ => tables) (.cons (fun _ => conditions)
        (.cons (fun _ => orders) (.cons (fun _ => limits) .nil)))⟩
      simp
  | truncate => exact ⟨[[]], rfl, .cons (fun _ => tables) .nil⟩

theorem whole {dialect : Dialect} {emptying : String} {blueprint : Blueprint}
    {members : Except Error (List Tokens)} {memberGiven : List Given} {tokens : Tokens}
    (hmembers : ∀ pieces, members = .ok pieces →
      Carries scope memberGiven (Tokens.joined ", " pieces))
    (h : Statement.whole scope dialect emptying blueprint members = .ok tokens) :
    Carries scope (Statement.given blueprint memberGiven) tokens := by
  obtain ⟨parts, hparts, h⟩ := bind_eq_ok.1 h
  obtain rfl := pure_eq_ok.1 h
  rw [Statement.parts_eq] at hparts
  obtain ⟨_, -, hpieces⟩ := bind_eq_ok.1 hparts
  obtain ⟨supplies, hflatten, hclauses⟩ := clauses hmembers
  rw [← hflatten]
  exact (spaced_mapM hclauses hpieces).trim

mutual

theorem member : ∀ {dialect : Dialect} {emptying : String} {member : Member} {tokens : Tokens},
    Statement.memberTokens scope dialect emptying member = .ok tokens →
      Carries scope (Statement.memberGiven member) tokens
  | dialect, emptying, .statement blueprint members, tokens, h => by
      rw [Statement.memberTokens] at h
      rw [Statement.memberGiven]
      exact whole (fun _ => membersOf) h
  | dialect, emptying, .invalid cause, tokens, h => by
      rw [Statement.memberTokens] at h
      cases h

theorem membersOf : ∀ {dialect : Dialect} {emptying : String} {members : List Member}
    {pieces : List Tokens}, Statement.membersTokens scope dialect emptying members = .ok pieces →
      Carries scope (Statement.membersGiven members) (Tokens.joined ", " pieces)
  | dialect, emptying, [], pieces, h => by
      obtain rfl : [] = pieces := by simpa [Statement.membersTokens] using h
      exact of_parameters rfl
  | dialect, emptying, first :: rest, pieces, h => by
      rw [Statement.membersTokens] at h
      obtain ⟨tokens, htokens, h⟩ := bind_eq_ok.1 h
      obtain ⟨others, hothers, h⟩ := bind_eq_ok.1 h
      obtain rfl := pure_eq_ok.1 h
      rw [Statement.membersGiven]
      exact (member htokens).joined_cons ", " (membersOf hothers)

end

theorem compiled {compiler : Compiler} {snapshot : Snapshot} {tokens : Tokens}
    (h : compiler.tokens scope snapshot = .ok tokens) : Carries scope snapshot.given tokens :=
  whole (fun _ => membersOf) h

end Carries

/-- A built statement binds the elements of the lists that something is compared with and every
other value that it is given, except arguments, all in their order. Every argument that it is given
has its text in that of the statement, apart from blanks at its ends. So the arguments among the
parameters are the elements of lists that are arguments, and no others. -/
theorem Store.build_given {store : Store} {query : Query} (hquote : query.compiler.quote.Framed)
    {compiled : Compiled} (hbuild : store.build query = .ok compiled) :
    let given := (store.snapshot query.blueprint).given
    compiled.parameters = given.flatMap Given.bound ∧
      compiled.parameters.filter Value.isArgument =
        (given.flatMap Given.elements).filter Value.isArgument ∧
      ∀ item ∈ given, item.value.isArgument = true →
        ∃ text, item.value.sql store.scope query.compiler.quote = .ok text ∧
          Text.trim text.toList <:+: compiled.sql.toList := by
  obtain ⟨tokens, htokens, hfinish⟩ := bind_eq_ok.1 hbuild
  obtain rfl := pure_eq_ok.1 hfinish
  have hcarries := Carries.compiled htokens
  refine ⟨hcarries.parameters, ?_, hcarries.shows query.compiler.quote hquote⟩
  have hfilter : (fun item => item.bound.filter Value.isArgument) =
      fun item : Given => item.elements.filter Value.isArgument := funext Given.filter_bound
  rw [Compiler.finish, hcarries.parameters, List.filter_flatMap, List.filter_flatMap, hfilter]

namespace Inlining

def now : Value := .raw (.text "NOW()")

def selection : Query :=
  let query := (Query.new 0 .mysql Options.standard).setTable (.text "t") (.text "")
  (query.add .where [("column", .column "a"), ("value", now), ("operator", .text "<"),
    ("boolean", .text "AND")]).add .where
      [("column", .column "b"), ("value", .tuple [.int 1, .int 2]), ("operator", .text "IN"),
        ("boolean", .text "AND")]

def text : String :=
  "SELECT * FROM \x60t\x60 WHERE \x60a\x60 < NOW() AND \x60b\x60 IN (?, ?)"

theorem given_selection : (Store.empty.snapshot selection.blueprint).given =
    [.operand now, .operand (.tuple [.int 1, .int 2])] := by
  have hgiven : (Store.empty.snapshot selection.blueprint).given =
      [] ++ Statement.conditionsGiven .where selection.blueprint ++
        Statement.conditionsGiven .having selection.blueprint ++ [] := rfl
  rw [hgiven, Statement.conditionsGiven, Statement.conditionsGiven,
    Condition.ofFragments_eq_map, Condition.ofFragments_eq_map]
  rfl

def session : Session RecordingConnection Unit :=
  (Session.start ()).withAdded (Query.new 0 .mysql Options.standard)

def built (calls : List (Call RecordingConnection Unit)) : Option (String × List Bool) :=
  let later := session.through (calls.map fun call => (0, .call call))
  (later.store.queries[0]?.bind fun query => (later.store.build query).toOption).map fun compiled =>
    (compiled.sql, compiled.parameters.map Value.isArgument)

end Inlining

open Inlining

theorem Store.build_given_selection :
    ∃ compiled, Store.empty.build selection = .ok compiled ∧ compiled.sql = Inlining.text ∧
      compiled.parameters = [.int 1, .int 2] ∧ "NOW()".toList <:+: compiled.sql.toList := by
  have hsql : (Store.empty.build selection).toOption.map Compiled.sql = some Inlining.text := by
    decide +kernel
  obtain ⟨compiled, hbuild, hcode⟩ := toOption_map_eq_some.1 hsql
  obtain ⟨hparameters, -, hshows⟩ := Store.build_given Identifier.framed_backtick hbuild
  rw [given_selection] at hparameters hshows
  obtain ⟨text, htext, hinfix⟩ := hshows (.operand now) List.mem_cons_self rfl
  have hnow : now.sql Store.empty.scope Identifier.backtick = .ok "NOW()" := by rfl
  obtain rfl : "NOW()" = text := Except.ok.inj (hnow.symm.trans htext)
  exact ⟨compiled, hbuild, hcode, hparameters, hinfix⟩

/-- An argument is written on its own and bound among the elements of a list. -/
theorem Session.elements_bound :
    Inlining.built [.table (.text "t") .null,
        .filter (.value (.text "id")) now (.text "=") (.text "AND")] =
      some ("SELECT * FROM \x60t\x60 WHERE \x60id\x60 = NOW()", []) ∧
    Inlining.built [.table (.text "t") .null,
        .filterIn (.value (.text "id")) (.list [now, .int 1]) (.text "AND")] =
      some ("SELECT * FROM \x60t\x60 WHERE \x60id\x60 IN (?, ?)", [true, false]) := by
  refine ⟨?_, ?_⟩
  · decide +kernel
  · decide +kernel

end SqlBuilder
