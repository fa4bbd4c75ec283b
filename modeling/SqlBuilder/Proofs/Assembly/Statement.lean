import SqlBuilder.Proofs.Assembly
import SqlBuilder.Proofs.Clauses

/-!
# What each function of the compiler puts together

The lemmas follow the compiler from the text of a value up to a whole statement. Where a function is
recursive, over the parameters of a method, the members of a group or those of a union, so is its
lemma.
-/

namespace SqlBuilder.Assembled

open Outcome Placeholder

variable {scope : Scope}

/-! ### Values -/

/-- The text of a value is that of its tokens in the default quoting. -/
theorem toText_eq_ok {value : Value} {tokens : Tokens} (h : value.tokens scope = .ok tokens) :
    value.toText scope = .ok (Value.plainText tokens) := by
  rw [Value.toText, h]
  rfl

theorem aliasedPath {value : Value} {path : String} {parameters : List Value} {tokens : Tokens}
    (hpath : value.toText scope = .ok path)
    (h : Value.aliasTokens scope parameters = .ok tokens) :
    Assembled scope (.path value :: Value.aliasIngredients parameters)
      (Tokens.path path ++ tokens) := by
  cases parameters with
  | nil =>
      obtain rfl : [] = tokens := by simpa [Value.aliasTokens] using h
      simpa [Value.aliasIngredients] using Assembled.path hpath
  | cons aliasName rest =>
      rw [Value.aliasTokens] at h
      rw [Value.aliasIngredients]
      by_cases htruthy : aliasName.truthy = true
      · simp only [htruthy, if_true] at h ⊢
        obtain ⟨name, hname, htokens⟩ := bind_eq_ok.1 h
        obtain rfl := pure_eq_ok.1 htokens
        exact (Assembled.path hpath).link " AS " (by decide) (by decide)
          (Assembled.name (toText_eq_ok hname))
      · simp only [htruthy] at h ⊢
        obtain rfl : [] = tokens := by simpa using h
        simpa using Assembled.path hpath

mutual

theorem argument : ∀ {value : Value} {tokens : Tokens}, value.isArgument = true →
    value.tokens scope = .ok tokens → Assembled scope value.ingredients tokens
  | .argument .raw value parameters, tokens, _, h => by
      rw [Value.tokens] at h
      obtain ⟨inner, hinner, htokens⟩ := bind_eq_ok.1 h
      obtain rfl := pure_eq_ok.1 htokens
      rw [Value.ingredients]
      exact word (toText_eq_ok hinner)
  | .argument .method value parameters, tokens, _, h => by
      rw [Value.tokens] at h
      obtain ⟨pieces, hpieces, h⟩ := bind_eq_ok.1 h
      obtain ⟨name, hname, htokens⟩ := bind_eq_ok.1 h
      obtain rfl := pure_eq_ok.1 htokens
      rw [Value.ingredients]
      have hname' := Joint.before (.word value) (toText_eq_ok hname) "("
        (by decide) (by decide)
      exact ((parameterTokens hpieces).close ")" (by decide) (by decide)).behind hname'
  | .argument .column value parameters, tokens, _, h
  | .argument .table value parameters, tokens, _, h => by
      simp only [Value.tokens] at h
      simp only [Value.ingredients]
      by_cases hwild : value.isWildcard = true
      · simp only [hwild, if_true] at h ⊢
        obtain rfl : [.literal Identifier.wildcard] = tokens := by simpa using h
        exact fixed (by decide)
      · simp only [hwild, Bool.false_eq_true, if_false] at h ⊢
        obtain ⟨path, hpath, h⟩ := bind_eq_ok.1 h
        obtain ⟨aliased, haliased, htokens⟩ := bind_eq_ok.1 h
        obtain rfl := pure_eq_ok.1 htokens
        exact aliasedPath (toText_eq_ok hpath) haliased

theorem parameterTokens : ∀ {values : List Value} {pieces : List Tokens},
    Value.parameterTokens scope values = .ok pieces →
      Assembled scope (Value.parameterIngredients values) (Tokens.joined ", " pieces)
  | [], pieces, h => by
      obtain rfl : [] = pieces := by simpa [Value.parameterTokens] using h
      exact nil
  | value :: rest, pieces, h => by
      rw [Value.parameterTokens] at h
      obtain ⟨tokens, htokens, h⟩ := bind_eq_ok.1 h
      obtain ⟨others, hothers, hpieces⟩ := bind_eq_ok.1 h
      obtain rfl := pure_eq_ok.1 hpieces
      rw [Value.parameterIngredients]
      refine joined_cons (by decide) (by decide) ?_ (parameterTokens hothers)
      by_cases hargument : value.isArgument = true
      · simpa only [hargument, if_true] using argument hargument htokens
      · by_cases hwild : value.isWildcard = true
        · simpa [hargument, hwild] using fixed (by decide)
        · simpa [hargument, hwild] using path (toText_eq_ok htokens)

end

theorem identifier {value : Value} {tokens : Tokens} (h : value.identifier scope = .ok tokens) :
    Assembled scope value.identifierIngredients tokens := by
  rw [Value.identifier] at h
  rw [Value.identifierIngredients]
  by_cases hargument : value.isArgument = true
  · simp only [hargument, if_true] at h ⊢
    exact argument hargument h
  · by_cases htruthy : value.truthy = true
    · simp only [hargument, htruthy, Bool.false_eq_true, if_false, if_true] at h ⊢
      obtain ⟨text, htext, htokens⟩ := bind_eq_ok.1 h
      obtain rfl := pure_eq_ok.1 htokens
      exact name htext
    · simp only [hargument, htruthy, Bool.false_eq_true, if_false] at h ⊢
      obtain rfl : [] = tokens := by simpa using h
      exact nil

theorem aliased {value aliasName : Value} {tokens : Tokens}
    (h : value.aliased scope aliasName = .ok tokens) :
    Assembled scope (value.aliasedIngredients aliasName) tokens := by
  rw [Value.aliased] at h
  rw [Value.aliasedIngredients]
  obtain ⟨front, hfront, h⟩ := bind_eq_ok.1 h
  by_cases htruthy : aliasName.truthy = true
  · simp only [htruthy, if_true] at h ⊢
    obtain ⟨back, hback, htokens⟩ := bind_eq_ok.1 h
    obtain rfl := pure_eq_ok.1 htokens
    exact (identifier hfront).link " AS " (by decide) (by decide) (identifier hback)
  · simp only [htruthy, Bool.false_eq_true, if_false, List.append_nil] at h ⊢
    obtain rfl := pure_eq_ok.1 h
    exact identifier hfront

theorem assigned {value : Value} {tokens : Tokens}
    (h : Statement.assigned scope value = .ok tokens) :
    Assembled scope value.assignedIngredients tokens := by
  rw [Statement.assigned] at h
  rw [Value.assignedIngredients]
  by_cases hargument : value.isArgument = true
  · simp only [hargument, if_true] at h ⊢
    exact argument hargument h
  · simp only [hargument, Bool.false_eq_true, if_false] at h ⊢
    obtain rfl : [.slot value] = tokens := by simpa using h
    exact slot value

/-! ### Conditions -/

theorem items (items : List Value) :
    Assembled scope (items.map .bound)
      (.literal "(" :: Tokens.joined ", " (items.map fun item => [.slot item]) ++
        [.literal ")"]) := by
  have hslots : List.Forall₂ (fun item piece => Assembled scope [.bound item] piece) items
      (items.map fun item => [Token.slot item]) := by
    induction items with
    | nil => exact .nil
    | cons item rest ih => exact .cons (slot item) ih
  have hjoined := joined (fun item => [.bound item]) ", " (by decide) (by decide) hslots
  rw [List.map_eq_flatMap]
  exact (hjoined.close ")" (by decide) (by decide)).lead "(" (by decide) (by decide)

theorem sequence {clause : Clause} {items : List Value} {tokens : Tokens}
    (h : (if items.isEmpty then .error (.emptyList clause)
        else
          .ok (.literal "(" :: Tokens.joined ", " (items.map fun item => [.slot item]) ++
            [.literal ")"]) : Except Error Tokens) = .ok tokens) :
    Assembled scope (items.map .bound) tokens := by
  by_cases hempty : items.isEmpty = true
  · rw [if_pos hempty] at h
    cases h
  · rw [if_neg hempty] at h
    cases h
    exact Assembled.items items

theorem operand {clause : Clause} {value : Value} {tokens : Tokens}
    (h : Condition.boundTokens scope clause value = .ok tokens) :
    Assembled scope value.operandIngredients tokens := by
  cases value with
  | argument kind value parameters => exact argument rfl h
  | list items => exact sequence h
  | tuple items => exact sequence h
  | set items => exact sequence h
  | frozenset items => exact sequence h
  | _ =>
      cases h
      exact slot _

mutual

/-- A condition that leaves nothing in the text supplies nothing. -/
theorem condition : ∀ {condition : Condition} {clause : Clause} {piece : Option Tokens},
    condition.piece? scope clause = .ok piece →
      Assembled scope condition.ingredients (piece.getD []) ∧
        (piece = none → condition.ingredients = [])
  | .comparison keyword column operator value, clause, piece, h => by
      rw [Condition.piece?] at h
      obtain ⟨bound, hbound, h⟩ := bind_eq_ok.1 h
      obtain ⟨keywordText, hkeyword, h⟩ := bind_eq_ok.1 h
      obtain ⟨columnTokens, hcolumn, h⟩ := bind_eq_ok.1 h
      obtain ⟨operatorText, hoperator, hpiece⟩ := bind_eq_ok.1 h
      obtain rfl := pure_eq_ok.1 hpiece
      rw [Condition.ingredients]
      have hfirst := Joint.before (.word keyword) hkeyword " " (by decide) (by decide)
      have hmiddle := Joint.between (.word operator) hoperator " " " " (by decide) (by decide)
        (by decide)
      refine ⟨?_, by simp⟩
      simpa using ((identifier hcolumn).glue hmiddle (operand hbound)).behind hfirst
  | .group keyword [], clause, piece, h => by
      obtain rfl : none = piece := by simpa [Condition.piece?] using h
      exact ⟨nil, fun _ => rfl⟩
  | .group keyword (first :: rest), clause, piece, h => by
      rw [Condition.piece?] at h
      · obtain ⟨inner, hinner, h⟩ := bind_eq_ok.1 h
        obtain ⟨keywordText, hkeyword, hpiece⟩ := bind_eq_ok.1 h
        obtain rfl := pure_eq_ok.1 hpiece
        rw [Condition.ingredients]
        have hfirst := Joint.before (.word keyword) hkeyword " (" (by decide) (by decide)
        have hmembers := (level hinner).beheaded.close ")" (by decide) (by decide)
        refine ⟨?_, by simp⟩
        simpa using hmembers.behind hfirst
      · simp
  | .malformed value, clause, piece, h => by
      rw [Condition.piece?] at h
      obtain ⟨_, _, h⟩ := bind_eq_ok.1 h
      cases h

theorem level : ∀ {conditions : List Condition} {clause : Clause} {pieces : List Tokens},
    Condition.pieces scope clause conditions = .ok pieces →
      Assembled scope (Condition.levelIngredients conditions) (Tokens.joined " " pieces)
  | [], clause, pieces, h => by
      obtain rfl : [] = pieces := by simpa [Condition.pieces] using h
      exact nil
  | first :: rest, clause, pieces, h => by
      rw [Condition.pieces] at h
      obtain ⟨piece, hpiece, h⟩ := bind_eq_ok.1 h
      obtain ⟨others, hothers, hpieces⟩ := bind_eq_ok.1 h
      obtain rfl := pure_eq_ok.1 hpieces
      rw [Condition.levelIngredients]
      have hfirst := condition hpiece
      cases piece with
      | none =>
          rw [hfirst.2 rfl]
          exact level hothers
      | some tokens => exact joined_cons (by decide) (by decide) hfirst.1 (level hothers)

end

theorem levelTokens {conditions : List Condition} {clause : Clause} {tokens : Tokens}
    (h : Condition.levelTokens scope clause conditions = .ok tokens) :
    Assembled scope (Condition.levelIngredients conditions) tokens := by
  obtain ⟨pieces, hpieces, htokens⟩ := bind_eq_ok.1 h
  obtain rfl := pure_eq_ok.1 htokens
  exact (level hpieces).beheaded

/-! ### Clauses -/

theorem conditions {keyword : String} (hkeyword : ∀ c ∈ keyword.toList, isPlain c = true)
    {clause : Clause} {blueprint : Blueprint} {tokens : Tokens}
    (h : Statement.conditions scope keyword clause blueprint = .ok tokens) :
    Assembled scope (Statement.conditionIngredients clause blueprint) tokens := by
  obtain ⟨level, hlevel, htokens⟩ := bind_eq_ok.1 h
  obtain rfl := pure_eq_ok.1 htokens
  exact headed hkeyword (levelTokens hlevel)

theorem joinCondition {fragment : Fragment} {tokens : Tokens}
    (h : Statement.joinCondition scope fragment = .ok tokens) :
    Assembled scope (Statement.joinConditionIngredients fragment) tokens := by
  rw [Statement.joinCondition] at h
  rw [Statement.joinConditionIngredients]
  generalize fragment.read "first" = first at h ⊢
  cases first with
  | group members => exact levelTokens h
  | _ =>
      obtain ⟨left, hleft, h⟩ := bind_eq_ok.1 h
      obtain ⟨operator, hoperator, h⟩ := bind_eq_ok.1 h
      obtain ⟨right, hright, htokens⟩ := bind_eq_ok.1 h
      obtain rfl := pure_eq_ok.1 htokens
      have hmiddle := Joint.between (.word (fragment.read "operator")) hoperator " " " "
        (by decide) (by decide) (by decide)
      exact (identifier hleft).glue hmiddle (identifier hright)

theorem joinPiece {fragment : Fragment} {tokens : Tokens}
    (h : Statement.joinPiece scope fragment = .ok tokens) :
    Assembled scope (Statement.joinIngredients fragment) tokens := by
  obtain ⟨table, htable, h⟩ := bind_eq_ok.1 h
  obtain ⟨condition, hcondition, h⟩ := bind_eq_ok.1 h
  obtain ⟨type, htype, htokens⟩ := bind_eq_ok.1 h
  obtain rfl := pure_eq_ok.1 htokens
  have hfirst := Joint.before (.capitals (fragment.read "type")) ⟨type, htype, rfl⟩
    " JOIN " (by decide) (by decide)
  have hlast := (identifier htable).link " ON " (by decide) (by decide) (joinCondition hcondition)
  simpa [Statement.joinIngredients] using hlast.behind hfirst

theorem joins {blueprint : Blueprint} {tokens : Tokens}
    (h : Statement.joins scope "" blueprint = .ok tokens) :
    Assembled scope ((blueprint.fragments .join).flatMap Statement.joinIngredients) tokens := by
  obtain ⟨pieces, hpieces, htokens⟩ := bind_eq_ok.1 h
  obtain rfl := pure_eq_ok.1 htokens
  exact headed (by decide)
    (joined _ _ (by decide) (by decide) ((mapM_eq_ok.1 hpieces).imp fun _ _ => joinPiece))

theorem columns {keyword : String} (hkeyword : ∀ c ∈ keyword.toList, isPlain c = true)
    {blueprint : Blueprint} {tokens : Tokens}
    (h : Statement.columns scope keyword blueprint = .ok tokens) :
    Assembled scope ((blueprint.fragments .columns).flatMap Statement.columnIngredients)
      tokens :=
  listing hkeyword (fun _ _ => aliased) h

theorem tables {keyword : String} (hkeyword : ∀ c ∈ keyword.toList, isPlain c = true)
    {blueprint : Blueprint} {tokens : Tokens}
    (h : Statement.tables scope keyword blueprint = .ok tokens) :
    Assembled scope ((blueprint.fragments .tables).flatMap Statement.tableIngredients) tokens :=
  listing hkeyword (fun _ _ => aliased) h

theorem groups {keyword : String} (hkeyword : ∀ c ∈ keyword.toList, isPlain c = true)
    {blueprint : Blueprint} {tokens : Tokens}
    (h : Statement.groups scope keyword blueprint = .ok tokens) :
    Assembled scope ((blueprint.fragments .group).flatMap Statement.groupIngredients) tokens :=
  listing hkeyword (fun _ _ => identifier) h

theorem orderPiece {fragment : Fragment} {tokens : Tokens}
    (h : Statement.orderPiece scope fragment = .ok tokens) :
    Assembled scope (Statement.orderIngredients fragment) tokens := by
  obtain ⟨column, hcolumn, h⟩ := bind_eq_ok.1 h
  obtain ⟨sort, hsort, htokens⟩ := bind_eq_ok.1 h
  obtain rfl := pure_eq_ok.1 htokens
  have hlast := Joint.behind (.capitals (fragment.read "sort")) ⟨sort, hsort, rfl⟩
    " " (by decide) (by decide)
  exact (identifier hcolumn).glue hlast nil

theorem orders {keyword : String} (hkeyword : ∀ c ∈ keyword.toList, isPlain c = true)
    {blueprint : Blueprint} {tokens : Tokens}
    (h : Statement.orders scope keyword blueprint = .ok tokens) :
    Assembled scope ((blueprint.fragments .order).flatMap Statement.orderIngredients) tokens :=
  listing hkeyword (fun _ _ => orderPiece) h

theorem mem_toString {number : Int} {c : Char} (h : c ∈ (toString number).toList) :
    c = '-' ∨ c.isDigit = true := by
  have hdigits : ∀ n : Nat, c ∈ n.repr.toList → c.isDigit = true := by
    intro n hc
    rw [Nat.toList_repr] at hc
    exact Nat.isDigit_of_mem_toDigits (by decide) (by decide) hc
  rw [Int.toString_eq_repr] at h
  cases number with
  | ofNat n => exact .inr (hdigits n h)
  | negSucc n =>
      rw [Int.repr, String.toList_append] at h
      rcases List.mem_append.1 h with h | h
      · exact .inl (by simpa using h)
      · exact .inr (hdigits _ h)

theorem isPlain_toString (number : Int) : ∀ c ∈ (toString number).toList, isPlain c = true := by
  intro c hc
  rcases mem_toString hc with rfl | hdigit
  · decide
  · exact isPlain_of_class (p := Char.isDigit) (by decide) hdigit

theorem windowNumber {value : Value} {text : String}
    (h : Statement.windowNumber value = .ok text) : ∀ c ∈ text.toList, isPlain c = true := by
  obtain ⟨number, -, rfl⟩ := Statement.windowNumber_eq_ok h
  exact isPlain_toString number

theorem window {fragment : Fragment} {text : String} (h : Statement.window fragment = .ok text) :
    ∀ c ∈ text.toList, isPlain c = true := by
  rw [Statement.window] at h
  split at h
  · exact windowNumber h
  · obtain ⟨start, hstart, h⟩ := bind_eq_ok.1 h
    obtain ⟨count, hcount, htext⟩ := bind_eq_ok.1 h
    obtain rfl := pure_eq_ok.1 htext
    intro c hc
    rw [String.toList_append, String.toList_append] at hc
    rcases List.mem_append.1 hc with h | h
    · rcases List.mem_append.1 h with h | h
      · exact windowNumber hstart c h
      · exact (by decide : ∀ c ∈ ", ".toList, isPlain c = true) c h
    · exact windowNumber hcount c h

theorem limits {keyword : String} (hkeyword : ∀ c ∈ keyword.toList, isPlain c = true)
    {blueprint : Blueprint} {tokens : Tokens}
    (h : Statement.limits keyword blueprint = .ok tokens) : Assembled scope [] tokens := by
  rw [Statement.limits] at h
  split at h
  · obtain rfl := pure_eq_ok.1 h
    exact nil
  · obtain ⟨text, htext, htokens⟩ := bind_eq_ok.1 h
    obtain rfl := pure_eq_ok.1 htokens
    exact headed hkeyword (fixed (window htext))

/-! ### Rows and assignments -/

theorem rowTokens {columns : List Value} {number : Nat} {row : Value} {tokens : Tokens}
    (h : Statement.rowTokens scope columns number row = .ok tokens) :
    Assembled scope (Statement.rowIngredients columns row) tokens := by
  obtain ⟨own, -, h⟩ := bind_eq_ok.1 h
  obtain ⟨expected, -, h⟩ := bind_eq_ok.1 h
  by_cases hsame : Value.sameMembers own expected = true
  · rw [if_pos hsame] at h
    obtain ⟨values, hvalues, htokens⟩ := bind_eq_ok.1 h
    obtain rfl := pure_eq_ok.1 htokens
    have hcells : List.Forall₂ (fun column piece =>
        Assembled scope (Statement.cellIngredients row column) piece) columns values := by
      refine (mapM_eq_ok.1 hvalues).imp fun column piece hpiece => ?_
      obtain ⟨value, hvalue, hpiece⟩ := bind_eq_ok.1 hpiece
      rw [Statement.cellIngredients, hvalue]
      exact assigned hpiece
    have hrow := joined _ ", " (by decide) (by decide) hcells
    exact (hrow.close ")" (by decide) (by decide)).lead "(" (by decide) (by decide)
  · rw [if_neg hsame] at h
    obtain ⟨ownSorted, -, h⟩ := bind_eq_ok.1 h
    obtain ⟨columnsSorted, -, h⟩ := bind_eq_ok.1 h
    cases h

theorem batchTokens {columns : List Value} {number : Nat} {rows : List Value}
    {tuples : List Tokens} (h : Statement.batchTokens scope columns number rows = .ok tuples) :
    Assembled scope (rows.flatMap (Statement.rowIngredients columns))
      (Tokens.joined ", " tuples) := by
  induction rows generalizing number tuples with
  | nil =>
      obtain rfl : [] = tuples := by simpa [Statement.batchTokens] using h
      exact nil
  | cons row rest ih =>
      rw [Statement.batchTokens] at h
      obtain ⟨first, hfirst, h⟩ := bind_eq_ok.1 h
      obtain ⟨others, hothers, htuples⟩ := bind_eq_ok.1 h
      obtain rfl := pure_eq_ok.1 htuples
      exact joined_cons (by decide) (by decide) (rowTokens hfirst) (ih hothers)

theorem valuesTokens {rows : List Value} {tokens : Tokens}
    (h : Statement.valuesTokens scope rows = .ok tokens) :
    Assembled scope (Statement.batchIngredients rows) tokens := by
  cases rows with
  | nil => cases h
  | cons first rest =>
      rw [Statement.valuesTokens] at h
      by_cases htruthy : first.truthy = true
      · simp only [htruthy, if_true] at h
        obtain ⟨columns, hcolumns, h⟩ := bind_eq_ok.1 h
        obtain ⟨tuples, htuples, h⟩ := bind_eq_ok.1 h
        obtain ⟨names, hnames, htokens⟩ := bind_eq_ok.1 h
        obtain rfl := pure_eq_ok.1 htokens
        rw [Statement.batchIngredients, hcolumns]
        have hcolumnNames := joined _ ", " (by decide) (by decide)
          ((mapM_eq_ok.1 hnames).imp fun _ _ => identifier)
        exact (hcolumnNames.link ") VALUES " (by decide) (by decide) (batchTokens htuples)).lead
          "(" (by decide) (by decide)
      · simp only [htruthy] at h
        cases h

theorem assignment {entry : Value × Value} {tokens : Tokens}
    (h : Statement.assignment scope entry = .ok tokens) :
    Assembled scope (Statement.assignmentIngredients entry) tokens := by
  obtain ⟨column, hcolumn, h⟩ := bind_eq_ok.1 h
  obtain ⟨value, hvalue, htokens⟩ := bind_eq_ok.1 h
  obtain rfl := pure_eq_ok.1 htokens
  exact (identifier hcolumn).link " = " (by decide) (by decide) (assigned hvalue)

theorem assignments {entries : Entries} {tokens : Tokens}
    (h : Statement.assignments scope entries = .ok tokens) :
    Assembled scope (entries.flatMap Statement.assignmentIngredients) tokens := by
  obtain ⟨pieces, hpieces, htokens⟩ := bind_eq_ok.1 h
  obtain rfl := pure_eq_ok.1 htokens
  exact joined _ _ (by decide) (by decide) ((mapM_eq_ok.1 hpieces).imp fun _ _ => assignment)

theorem updateIngredients_of_not_truthy {fragment : Fragment}
    (h : ¬(fragment.read "update").truthy = true) : Statement.updateIngredients fragment = [] := by
  rw [Statement.updateIngredients]
  cases hupdate : fragment.read "update" with
  | map entries =>
      rw [hupdate] at h
      have hentries : entries = [] := by simpa [Value.truthy] using h
      rw [hentries]
      rfl
  | _ => rfl

theorem update {fragment : Fragment} {entries : Entries} {tokens : Tokens}
    (hentries : Statement.assignmentEntries (fragment.read "update") = .ok entries)
    (h : Statement.assignments scope entries = .ok tokens) :
    Assembled scope (Statement.updateIngredients fragment) tokens := by
  rw [Statement.updateIngredients_of_entries hentries]
  exact assignments h

theorem rowNameIngredients_of_entries {fragment : Fragment} {entries : Entries}
    (h : Statement.assignmentEntries (fragment.read "update") = .ok entries) :
    Statement.rowNameIngredients fragment =
      if entries.values.any Value.isArgument then [.name (.text Statement.rowAlias)] else [] := by
  rw [Statement.rowNameIngredients, Statement.eq_map_of_assignmentEntries h]

theorem rowNameIngredients_of_not_truthy {fragment : Fragment}
    (h : ¬(fragment.read "update").truthy = true) :
    Statement.rowNameIngredients fragment = [] := by
  rw [Statement.rowNameIngredients]
  cases hupdate : fragment.read "update" with
  | map entries =>
      rw [hupdate] at h
      have hentries : entries = [] := by simpa [Value.truthy] using h
      rw [hentries]
      rfl
  | _ => rfl

theorem duplicateTail {fragment : Fragment} {tokens : Tokens}
    (h : Statement.duplicateTail scope fragment = .ok tokens) :
    Assembled scope (Statement.tailSupplies .mysql fragment) tokens := by
  rw [Statement.duplicateTail] at h
  rw [Statement.tailSupplies]
  by_cases htruthy : (fragment.read "update").truthy = true
  · simp only [htruthy, if_true] at h
    obtain ⟨entries, hentries, h⟩ := bind_eq_ok.1 h
    obtain ⟨pieces, hpieces, h⟩ := bind_eq_ok.1 h
    have htail : Assembled scope (Statement.updateIngredients fragment)
        (.literal "ON DUPLICATE KEY UPDATE " :: pieces) :=
      (update hentries hpieces).lead _ (by decide) (by decide)
    rw [rowNameIngredients_of_entries hentries]
    by_cases hargument : entries.values.any Value.isArgument = true
    · rw [if_pos hargument] at h ⊢
      obtain rfl := pure_eq_ok.1 h
      have hrow := Assembled.name (Value.toText_text scope Statement.rowAlias)
      exact (hrow.link " " (by decide) (by decide) htail).lead "AS " (by decide) (by decide)
    · rw [if_neg hargument] at h ⊢
      obtain rfl := pure_eq_ok.1 h
      exact htail
  · simp only [htruthy, Bool.false_eq_true, if_false] at h
    obtain rfl := pure_eq_ok.1 h
    rw [updateIngredients_of_not_truthy htruthy, rowNameIngredients_of_not_truthy htruthy]
    exact nil

theorem conflictTail {fragment : Fragment} {tokens : Tokens}
    (h : Statement.conflictTail scope fragment = .ok tokens) :
    Assembled scope (Statement.tailSupplies .sqlite fragment) tokens := by
  rw [Statement.conflictTail] at h
  rw [Statement.tailSupplies]
  by_cases hindex : (fragment.read "index").truthy = true
  · simp only [hindex, if_true] at h
    obtain ⟨target, htarget, h⟩ := bind_eq_ok.1 h
    have hcolumns : Statement.targetIngredients fragment =
        target.flatMap Value.identifierIngredients := by
      rw [Statement.targetIngredients, if_pos hindex, htarget]
    rw [hcolumns]
    by_cases hempty : target.isEmpty = true
    · rw [if_pos hempty] at h
      cases h
    · rw [if_neg hempty] at h
      obtain ⟨names, hnames, h⟩ := bind_eq_ok.1 h
      have hhead := (joined _ ", " (by decide) (by decide)
        ((mapM_eq_ok.1 hnames).imp fun _ _ => identifier)).lead "ON CONFLICT (" (by decide)
          (by decide)
      by_cases htruthy : (fragment.read "update").truthy = true
      · rw [if_pos htruthy] at h
        obtain ⟨entries, hentries, h⟩ := bind_eq_ok.1 h
        obtain ⟨pieces, hpieces, h⟩ := bind_eq_ok.1 h
        obtain rfl := pure_eq_ok.1 h
        exact hhead.link ") DO UPDATE SET " (by decide) (by decide) (update hentries hpieces)
      · rw [if_neg htruthy] at h
        obtain rfl := pure_eq_ok.1 h
        rw [updateIngredients_of_not_truthy htruthy, List.append_nil]
        exact hhead.close ") DO NOTHING" (by decide) (by decide)
  · -- without an index there is no target, which is refused
    simp only [hindex] at h
    cases h

theorem upsertTail {dialect : Dialect} {fragment : Fragment} {tokens : Tokens}
    (h : Statement.upsertTail scope dialect fragment = .ok tokens) :
    Assembled scope (Statement.tailSupplies dialect fragment) tokens := by
  cases dialect with
  | mysql => exact duplicateTail h
  | sqlite => exact conflictTail h

theorem inserts {dialect : Dialect} {upsert : Bool} {blueprint : Blueprint} {tokens : Tokens}
    (h : Statement.inserts scope dialect "" upsert blueprint = .ok tokens) :
    Assembled scope (Statement.leading Statement.insertIngredients .insert blueprint ++
      if upsert then Statement.leading (Statement.tailSupplies dialect) .insert blueprint
      else []) tokens := by
  rw [Statement.inserts] at h
  cases hfirst : blueprint.first? .insert with
  | none =>
      rw [hfirst] at h
      cases h
  | some fragment =>
      rw [hfirst] at h
      have hleading : ∀ supply, Statement.leading supply .insert blueprint = supply fragment := by
        intro supply
        rw [Statement.leading, hfirst]
      rw [hleading, hleading]
      obtain ⟨rows, hrows, h⟩ := bind_eq_ok.1 h
      obtain ⟨body, hbody, h⟩ := bind_eq_ok.1 h
      have hvalues : Assembled scope (Statement.insertIngredients fragment) body := by
        rw [Statement.insertIngredients, hrows]
        exact valuesTokens hbody
      cases upsert with
      | true =>
          rw [if_pos rfl] at h
          obtain ⟨tail, htail, h⟩ := bind_eq_ok.1 h
          obtain rfl := pure_eq_ok.1 h
          refine headed (by decide) (spaced_cons hvalues ?_)
          rw [if_pos rfl, ← List.append_nil (Statement.tailSupplies dialect fragment)]
          exact spaced_cons (upsertTail htail) spaced_nil
      | false =>
          rw [if_neg (by decide)] at h
          obtain rfl := pure_eq_ok.1 h
          rw [if_neg (by decide), List.append_nil]
          exact headed (by decide) hvalues

theorem updates {keyword : String} (hkeyword : ∀ c ∈ keyword.toList, isPlain c = true)
    {blueprint : Blueprint} {tokens : Tokens}
    (h : Statement.updates scope keyword blueprint = .ok tokens) :
    Assembled scope (Statement.leading Statement.updateIngredients .update blueprint)
      tokens := by
  rw [Statement.updates] at h
  rw [Statement.leading]
  cases hfirst : blueprint.first? .update with
  | none =>
      rw [hfirst] at h
      cases h
  | some fragment =>
      rw [hfirst] at h
      by_cases htruthy : (fragment.read "update").truthy = true
      · simp only [htruthy, if_true] at h
        obtain ⟨entries, hentries, h⟩ := bind_eq_ok.1 h
        obtain ⟨pieces, hpieces, h⟩ := bind_eq_ok.1 h
        obtain rfl := pure_eq_ok.1 h
        exact headed hkeyword (update hentries hpieces)
      · simp only [htruthy] at h
        cases h

/-! ### Statements -/

/-- What each clause of a statement is put together from, given the members of its union. -/
theorem clauses {dialect : Dialect} {emptying : String}
    (hemptying : ∀ c ∈ emptying.toList, isPlain c = true) {blueprint : Blueprint}
    {members : Except Error (List Tokens)} {memberSupplies : List Ingredient}
    (hmembers : ∀ pieces, members = .ok pieces →
      Assembled scope memberSupplies (Tokens.joined ", " pieces)) :
    ∃ supplies, supplies.flatten = Statement.supplies dialect blueprint memberSupplies ∧
      List.Forall₂ (fun supply result => ∀ tokens, result = .ok tokens →
        Assembled scope supply tokens) supplies
        (Statement.clauses scope dialect emptying blueprint members) := by
  have hunion : ∀ tokens, Statement.unions "UNION" <$> members = .ok tokens →
      Assembled scope memberSupplies tokens := by
    intro tokens h
    obtain ⟨pieces, hpieces, rfl⟩ := map_eq_ok.1 h
    exact headed (by decide) (hmembers pieces hpieces)
  simp only [Statement.supplies, Statement.ingredients, Statement.clauses]
  cases blueprint.type with
  | select =>
      refine ⟨[_, _, _, _, _, _, _, [], _], ?_,
        .cons (fun _ => columns (by decide)) (.cons (fun _ => tables (by decide))
        (.cons (fun _ => joins) (.cons (fun _ => conditions (by decide))
        (.cons (fun _ => groups (by decide)) (.cons (fun _ => conditions (by decide))
        (.cons (fun _ => orders (by decide)) (.cons (fun _ => limits (by decide))
        (.cons hunion .nil))))))))⟩
      simp
  | insert =>
      refine ⟨[_, _], ?_, .cons (fun _ => tables (by decide)) (.cons (fun _ => inserts) .nil)⟩
      simp
  | upsert =>
      refine ⟨[_, _], ?_, .cons (fun _ => tables (by decide)) (.cons (fun _ => inserts) .nil)⟩
      simp
  | update =>
      refine ⟨[_, _, _, _, []], ?_, .cons (fun _ => tables (by decide))
        (.cons (fun _ => updates (by decide)) (.cons (fun _ => conditions (by decide))
        (.cons (fun _ => orders (by decide)) (.cons (fun _ => limits (by decide)) .nil))))⟩
      simp
  | delete =>
      refine ⟨[_, _, _, []], ?_, .cons (fun _ => tables (by decide))
        (.cons (fun _ => conditions (by decide)) (.cons (fun _ => orders (by decide))
        (.cons (fun _ => limits (by decide)) .nil)))⟩
      simp
  | truncate =>
      refine ⟨[_], ?_, .cons (fun _ => tables hemptying) .nil⟩
      simp

theorem whole {dialect : Dialect} {emptying : String}
    (hemptying : ∀ c ∈ emptying.toList, isPlain c = true) {blueprint : Blueprint}
    {members : Except Error (List Tokens)} {memberSupplies : List Ingredient} {tokens : Tokens}
    (hmembers : ∀ pieces, members = .ok pieces →
      Assembled scope memberSupplies (Tokens.joined ", " pieces))
    (h : Statement.whole scope dialect emptying blueprint members = .ok tokens) :
    Assembled scope (Statement.supplies dialect blueprint memberSupplies) tokens := by
  obtain ⟨parts, hparts, htokens⟩ := bind_eq_ok.1 h
  obtain rfl := pure_eq_ok.1 htokens
  rw [Statement.parts_eq] at hparts
  obtain ⟨_, -, hpieces⟩ := bind_eq_ok.1 hparts
  obtain ⟨supplies, hflatten, hclauses⟩ := clauses hemptying hmembers
  rw [← hflatten]
  exact trimmed (spaced_mapM hclauses hpieces)

mutual

theorem member : ∀ {dialect : Dialect} {emptying : String} {member : Member} {tokens : Tokens},
    (∀ c ∈ emptying.toList, isPlain c = true) →
      Statement.memberTokens scope dialect emptying member = .ok tokens →
        Assembled scope (Statement.memberSupplies dialect member) tokens
  | dialect, emptying, .statement blueprint members, tokens, hemptying, h => by
      rw [Statement.memberTokens] at h
      rw [Statement.memberSupplies]
      exact whole hemptying (fun _ => membersOf hemptying) h
  | dialect, emptying, .invalid cause, tokens, hemptying, h => by
      rw [Statement.memberTokens] at h
      cases h

theorem membersOf : ∀ {dialect : Dialect} {emptying : String} {members : List Member}
    {pieces : List Tokens}, (∀ c ∈ emptying.toList, isPlain c = true) →
      Statement.membersTokens scope dialect emptying members = .ok pieces →
        Assembled scope (Statement.membersSupplies dialect members)
          (Tokens.joined ", " pieces)
  | dialect, emptying, [], pieces, hemptying, h => by
      obtain rfl : [] = pieces := by simpa [Statement.membersTokens] using h
      exact nil
  | dialect, emptying, first :: rest, pieces, hemptying, h => by
      rw [Statement.membersTokens] at h
      obtain ⟨tokens, htokens, h⟩ := bind_eq_ok.1 h
      obtain ⟨others, hothers, hpieces⟩ := bind_eq_ok.1 h
      obtain rfl := pure_eq_ok.1 hpieces
      rw [Statement.membersSupplies]
      exact joined_cons (by decide) (by decide) (member hemptying htokens)
        (membersOf hemptying hothers)

end

theorem compiled {compiler : Compiler}
    (hemptying : ∀ c ∈ compiler.emptying.toList, isPlain c = true) {snapshot : Snapshot}
    {tokens : Tokens} (h : compiler.tokens scope snapshot = .ok tokens) :
    Assembled scope (snapshot.supplies compiler.dialect) tokens :=
  whole hemptying (fun _ => membersOf hemptying) h

end SqlBuilder.Assembled
