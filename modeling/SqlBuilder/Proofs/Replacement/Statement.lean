import SqlBuilder.Proofs.Depth
import SqlBuilder.Proofs.Emission
import SqlBuilder.Proofs.Replacement

/-!
# What bound values leave in a statement

What a function of the compiler makes of two things that are alike differs in its placeholders only,
and there in nothing but the value that is bound. The function fails for both or for neither, and
for the same cause. There is one lemma for each function, in the order in which they call each
other; where only identifiers are compiled, which bind nothing, the two sides are the same.
-/

namespace SqlBuilder

open Outcome

/-! ### Tokens in pairs -/

inductive Token.Alike (R : Value → Value → Prop) : Token → Token → Prop where
  | literal (text : String) : Token.Alike R (.literal text) (.literal text)
  | name (segment : String) : Token.Alike R (.name segment) (.name segment)
  | slot {value other : Value} (h : R value other) : Token.Alike R (.slot value) (.slot other)

/-- Two pieces whose tokens are alike, one by one. -/
abbrev Tokens.Alike (R : Value → Value → Prop) (tokens others : Tokens) : Prop :=
  List.Forall₂ (Token.Alike R) tokens others

namespace Tokens.Alike

variable {R : Value → Value → Prop} {tokens others front back otherFront otherBack : Tokens}

theorem of_self (h : tokens.parameters = []) : tokens.Alike R tokens := by
  induction tokens with
  | nil => exact .nil
  | cons token rest ih =>
      cases token with
      | literal text => exact .cons (.literal text) (ih h)
      | name segment => exact .cons (.name segment) (ih h)
      | slot value => cases h

theorem literal_cons (text : String) (h : tokens.Alike R others) :
    Tokens.Alike R (.literal text :: tokens) (.literal text :: others) :=
  .cons (.literal text) h

theorem literal (text : String) : Tokens.Alike R [.literal text] [.literal text] :=
  literal_cons text .nil

theorem append (hfront : front.Alike R otherFront) (hback : back.Alike R otherBack) :
    Tokens.Alike R (front ++ back) (otherFront ++ otherBack) :=
  List.rel_append hfront hback

theorem enclosed (opening closing : String) (h : tokens.Alike R others) :
    Tokens.Alike R (.literal opening :: tokens ++ [.literal closing])
      (.literal opening :: others ++ [.literal closing]) :=
  (literal_cons opening h).append (literal closing)

theorem vanishes_eq (h : tokens.Alike R others) : tokens.vanishes = others.vanishes := by
  induction h with
  | nil => rfl
  | cons hfirst _ ih =>
      rw [vanishes, vanishes, List.all_cons, List.all_cons]
      cases hfirst <;> exact congrArg _ ih

theorem render_eq (h : tokens.Alike R others) (quote : Quoting) :
    tokens.render quote = others.render quote := by
  induction h with
  | nil => rfl
  | cons hfirst _ ih =>
      rw [render_cons, render_cons, ih]
      cases hfirst <;> rfl

theorem parameters (h : tokens.Alike R others) :
    List.Forall₂ R tokens.parameters others.parameters := by
  induction h with
  | nil => exact .nil
  | cons hfirst _ ih =>
      cases hfirst with
      | literal text => exact ih
      | name segment => exact ih
      | slot hvalue => exact .cons hvalue ih

theorem joined (separator : String) {pieces otherPieces : List Tokens}
    (h : List.Forall₂ (Tokens.Alike R) pieces otherPieces) :
    Tokens.Alike R (Tokens.joined separator pieces) (Tokens.joined separator otherPieces) := by
  induction h with
  | nil => exact .nil
  | cons hfirst hrest ih =>
      cases hrest with
      | nil => simpa using hfirst
      | cons hnext hothers =>
          rw [joined_cons_cons, joined_cons_cons]
          exact hfirst.append (literal_cons separator ih)

theorem headed (keyword : String) (h : tokens.Alike R others) :
    Tokens.Alike R (Tokens.headed keyword tokens) (Tokens.headed keyword others) := by
  rw [Tokens.headed, Tokens.headed, h.vanishes_eq]
  split
  · exact .nil
  · split
    · exact h
    · exact literal_cons _ h

theorem spaced {pieces otherPieces : List Tokens}
    (h : List.Forall₂ (Tokens.Alike R) pieces otherPieces) :
    Tokens.Alike R (Tokens.spaced pieces) (Tokens.spaced otherPieces) := by
  refine joined " " ?_
  induction h with
  | nil => exact .nil
  | cons hfirst _ ih =>
      rw [List.filter_cons, List.filter_cons, hfirst.vanishes_eq]
      split
      · exact .cons hfirst ih
      · exact ih

theorem dropLeading (h : tokens.Alike R others) :
    Tokens.Alike R (Condition.dropLeading tokens) (Condition.dropLeading others) := by
  cases h with
  | nil => exact .nil
  | cons hfirst hrest =>
      cases hfirst with
      | literal text => exact literal_cons _ hrest
      | name segment => exact .cons (.name segment) hrest
      | slot hvalue => exact .cons (.slot hvalue) hrest

theorem trimStart (h : tokens.Alike R others) :
    Tokens.Alike R (Tokens.trimStart tokens) (Tokens.trimStart others) := by
  induction h with
  | nil => exact .nil
  | cons hfirst hrest ih =>
      cases hfirst with
      | literal text =>
          simp only [Tokens.trimStart]
          split
          · exact ih
          · exact literal_cons _ hrest
      | name segment => exact .cons (.name segment) hrest
      | slot hvalue => exact .cons (.slot hvalue) hrest

theorem trimBack (h : tokens.Alike R others) :
    Tokens.Alike R (Tokens.trimBack tokens) (Tokens.trimBack others) := by
  induction h with
  | nil => exact .nil
  | cons hfirst hrest ih =>
      cases hfirst with
      | literal text =>
          simp only [Tokens.trimBack]
          split
          · exact ih
          · exact literal_cons _ hrest
      | name segment => exact .cons (.name segment) hrest
      | slot hvalue => exact .cons (.slot hvalue) hrest

theorem trim (h : tokens.Alike R others) :
    Tokens.Alike R (Tokens.trim tokens) (Tokens.trim others) :=
  List.rel_reverse (trimBack (List.rel_reverse h.trimStart))

end Tokens.Alike

/-! ### What binds nothing -/

/-- Two results of a function of the compiler. -/
abbrev TokensRelated (R : Value → Value → Prop) (tokens others : Except Error Tokens) : Prop :=
  Outcome.Related (Tokens.Alike R) tokens others

variable {R : Value → Value → Prop} {scope : Scope}

/-- A piece that is put together from what binds nothing is alike to itself. -/
theorem TokensRelated.of_assembled {supply : List Ingredient} {result : Except Error Tokens}
    (hbound : supply.filterMap Ingredient.bound? = [])
    (h : ∀ tokens, result = .ok tokens → Assembled scope supply tokens) :
    TokensRelated R result result :=
  .of_self fun tokens htokens => .of_self ((h tokens htokens).parameters.trans hbound)

theorem Value.argument_related (kind : ArgumentKind) (value : Value) (parameters : List Value) :
    TokensRelated R ((argument kind value parameters).tokens scope)
      ((argument kind value parameters).tokens scope) :=
  .of_assembled (bound_ingredients _) fun _ => Assembled.argument rfl

theorem Value.identifier_related (value : Value) :
    TokensRelated R (value.identifier scope) (value.identifier scope) :=
  .of_assembled (bound_identifierIngredients value) fun _ => Assembled.identifier

/-! ### Conditions -/

namespace Condition

theorem boundTokens_single {clause : Clause} {value : Value} (hargument : value.isArgument = false)
    (hsingle : value.collection? = none) :
    boundTokens scope clause value = .ok [.slot value] := by
  cases value with
  | argument kind value parameters => cases hargument
  | list items => cases hsingle
  | tuple items => cases hsingle
  | set items => cases hsingle
  | frozenset items => cases hsingle
  | _ => rfl

theorem boundTokens_items {clause : Clause} {value : Value} {items : List Value}
    (hitems : value.collection? = some items) :
    boundTokens scope clause value =
      if items.isEmpty then .error (.emptyList clause)
      else .ok (.literal "(" :: Tokens.joined ", " (items.map fun item => [.slot item]) ++
        [.literal ")"]) := by
  cases value with
  | list items => cases hitems; rfl
  | tuple items => cases hitems; rfl
  | set items => cases hitems; rfl
  | frozenset items => cases hitems; rfl
  | _ => cases hitems

theorem bound_related {clause : Clause} {value other : Value} (h : value.OperandAlike R other) :
    TokensRelated R (boundTokens scope clause value) (boundTokens scope clause other) := by
  cases h with
  | argument kind value parameters => exact Value.argument_related kind value parameters
  | single hvalue hother hsingle hotherSingle hrelated =>
      rw [boundTokens_single hvalue hsingle, boundTokens_single hother hotherSingle]
      exact .ok (.cons (.slot hrelated) .nil)
  | @items _ _ items others hitems hothers hrelated =>
      rw [boundTokens_items hitems, boundTokens_items hothers]
      have hslots : List.Forall₂ (Tokens.Alike R) (items.map fun item => [.slot item])
          (others.map fun item => [.slot item]) := by
        rw [List.forall₂_map_left_iff, List.forall₂_map_right_iff]
        exact hrelated.imp fun _ _ hitem => .cons (.slot hitem) .nil
      cases hrelated with
      | nil => exact .error _
      | cons hfirst hrest => exact .ok ((Tokens.Alike.joined ", " hslots).enclosed "(" ")")

/-- Two optional pieces, of which both are there or none. -/
abbrev PieceAlike (R : Value → Value → Prop) (piece other : Option Tokens) : Prop :=
  Option.Rel (Tokens.Alike R) piece other

mutual

theorem piece_related {clause : Clause} : ∀ {condition other : Condition},
    Condition.Alike R condition other →
      Related (PieceAlike R) (condition.piece? scope clause) (other.piece? scope clause)
  | .comparison keyword column operator value, other, h => by
      cases h with
      | comparison _ _ _ hvalue =>
          rw [piece?, piece?]
          apply (bound_related hvalue).bind
          intro bound otherBound hbound
          apply Related.afterSame
          intro keyword _
          apply (Value.identifier_related column).bind
          intro column otherColumn hcolumn
          apply Related.afterSame
          intro operator _
          exact .ok (.some ((hcolumn.literal_cons _).append (hbound.literal_cons _)))
  | .group keyword [], other, h => by
      cases h with
      | group _ hmembers =>
          cases hmembers
          exact .ok .none
  | .group keyword (first :: rest), other, h => by
      cases h with
      | group _ hmembers =>
          cases hmembers with
          | cons hfirst hrest =>
              rw [piece?, piece?]
              · apply (pieces_related (.cons hfirst hrest)).bind
                intro inner otherInner hinner
                apply Related.afterSame
                intro keyword _
                exact .ok (.some ((Tokens.Alike.joined " " hinner).dropLeading.enclosed _ ")"))
              · simp
              · simp
  | .malformed value, other, h => by
      cases h with
      | malformed =>
          refine .of_self fun piece hpiece => ?_
          rw [piece?] at hpiece
          obtain ⟨_, _, hpiece⟩ := bind_eq_ok.1 hpiece
          cases hpiece

theorem pieces_related {clause : Clause} : ∀ {conditions others : List Condition},
    Condition.AllAlike R conditions others →
      Related (List.Forall₂ (Tokens.Alike R)) (pieces scope clause conditions)
        (pieces scope clause others)
  | [], others, h => by
      cases h
      exact .ok .nil
  | first :: rest, others, h => by
      cases h with
      | cons hfirst hrest =>
          rw [pieces, pieces]
          apply (piece_related hfirst).bind
          intro piece otherPiece hpiece
          apply (pieces_related hrest).bind
          intro inner otherInner hinner
          cases hpiece with
          | none => exact .ok hinner
          | some htokens => exact .ok (.cons htokens hinner)

end

theorem levelTokens_related {clause : Clause} {conditions others : List Condition}
    (h : Condition.AllAlike R conditions others) :
    TokensRelated R (levelTokens scope clause conditions) (levelTokens scope clause others) := by
  apply (pieces_related h).bind
  intro pieces otherPieces hpieces
  exact .ok (Tokens.Alike.joined " " hpieces).dropLeading

theorem ofFragments_alike {fragments others : List Fragment}
    (h : List.Forall₂ (fun fragment other => Condition.Alike R fragment.condition other.condition)
      fragments others) :
    AllAlike R (ofFragments fragments) (ofFragments others) := by
  induction h with
  | nil =>
      rw [ofFragments_nil]
      exact .nil
  | cons hfirst _ ih =>
      rw [ofFragments_cons, ofFragments_cons]
      exact .cons hfirst ih

end Condition

/-! ### Rows and entries -/

theorem Value.AssignedAlike.isArgument_eq {value other : Value} (h : value.AssignedAlike R other) :
    value.isArgument = other.isArgument := by
  cases h with
  | argument kind value parameters => rfl
  | bound hvalue hother _ => rw [hvalue, hother]

namespace Entries.Alike

variable {entries others : Entries}

theorem keys_eq (h : entries.Alike R others) : entries.keys = others.keys := by
  induction h with
  | nil => rfl
  | cons hfirst _ ih => exact congrArg₂ List.cons hfirst.1 ih

theorem isEmpty_eq (h : entries.Alike R others) : entries.isEmpty = others.isEmpty := by
  cases h <;> rfl

theorem any_isArgument_eq (h : entries.Alike R others) :
    entries.values.any Value.isArgument = others.values.any Value.isArgument := by
  induction h with
  | nil => rfl
  | cons hfirst _ ih => exact congrArg₂ (· || ·) hfirst.2.isArgument_eq ih

theorem find? (h : entries.Alike R others) (key : Value) :
    Option.Rel (Value.AssignedAlike R) (entries.find? key) (others.find? key) := by
  induction h with
  | nil => exact .none
  | @cons entry other rest others hfirst _ ih =>
      simp only [Entries.find?, Assoc.find?, List.find?_cons, ← hfirst.1] at ih ⊢
      cases entry.1 == key with
      | true => exact .some hfirst.2
      | false => exact ih

end Entries.Alike

namespace Value.RowAlike

variable {row other : Value}

theorem truthy_eq (h : row.RowAlike R other) : row.truthy = other.truthy := by
  cases h with
  | map hentries => exact congrArg not hentries.isEmpty_eq
  | same => rfl

theorem items_eq (h : row.RowAlike R other) : row.items = other.items := by
  cases h with
  | map hentries => exact congrArg Except.ok hentries.keys_eq
  | same => rfl

theorem subscript (h : row.RowAlike R other) (column : Value) :
    Related (AssignedAlike R) (row.subscript column) (other.subscript column) := by
  cases h with
  | @map entries others hentries =>
      have hfind := hentries.find? column
      simp only [Value.subscript]
      by_cases hkey : column.hashable = true
      · rw [if_pos hkey, if_pos hkey]
        cases hfound : entries.find? column with
        | none =>
            rw [hfound] at hfind
            generalize others.find? column = found at hfind
            cases hfind
            exact .error _
        | some cell =>
            rw [hfound] at hfind
            generalize others.find? column = found at hfind
            cases hfind with
            | some hcell => exact .ok hcell
      · rw [if_neg hkey, if_neg hkey]
        exact .error _
  | same _ hcells => exact .of_self (hcells column)

end Value.RowAlike

theorem Value.UpdateAlike.truthy_eq {value other : Value} (h : value.UpdateAlike R other) :
    value.truthy = other.truthy := by
  cases h with
  | map hentries => exact congrArg not hentries.isEmpty_eq
  | same => rfl

theorem Value.UpdateAlike.entries {value other : Value} (h : value.UpdateAlike R other) :
    Related (Entries.Alike R) (Statement.assignmentEntries value)
      (Statement.assignmentEntries other) := by
  cases h with
  | map hentries => exact .ok hentries
  | same _ hmap =>
      refine .of_self fun entries hentries => ?_
      exact absurd (Statement.eq_map_of_assignmentEntries hentries) (hmap entries)

namespace Statement

theorem assigned_related {value other : Value} (h : value.AssignedAlike R other) :
    TokensRelated R (assigned scope value) (assigned scope other) := by
  cases h with
  | argument kind value parameters => exact Value.argument_related kind value parameters
  | bound hvalue hother hrelated =>
      rw [assigned, assigned, hvalue, hother]
      exact .ok (.cons (.slot hrelated) .nil)

theorem rowTokens_related {columns : List Value} {number : Nat} {row other : Value}
    (h : row.RowAlike R other) :
    TokensRelated R (rowTokens scope columns number row)
      (rowTokens scope columns number other) := by
  have hcolumns : columnSet row = columnSet other := by rw [columnSet, columnSet, h.items_eq]
  have hcells : List.Forall₂ (fun column otherColumn => TokensRelated R
      (do assigned scope (← row.subscript column))
      (do assigned scope (← other.subscript otherColumn))) columns columns := by
    refine List.forall₂_same.2 fun column _ => ?_
    apply (h.subscript column).bind
    intro cell otherCell hcell
    exact assigned_related hcell
  rw [rowTokens, rowTokens, hcolumns]
  apply Related.afterSame
  intro own _
  apply Related.afterSame
  intro expected _
  split
  · apply (Related.mapM hcells).bind
    intro values otherValues hvalues
    exact .ok ((Tokens.Alike.joined ", " hvalues).enclosed "(" ")")
  · apply Related.afterSame
    intro ownSorted _
    apply Related.afterSame
    intro columnsSorted _
    exact .error _

theorem batchTokens_related {columns : List Value} {rows others : List Value} (number : Nat)
    (h : List.Forall₂ (Value.RowAlike R) rows others) :
    Related (List.Forall₂ (Tokens.Alike R)) (batchTokens scope columns number rows)
      (batchTokens scope columns number others) := by
  induction h generalizing number with
  | nil => exact .ok .nil
  | cons hfirst _ ih =>
      rw [batchTokens, batchTokens]
      apply (rowTokens_related hfirst).bind
      intro first otherFirst htokens
      apply (ih (number + 1)).bind
      intro tuples otherTuples htuples
      exact .ok (.cons htokens htuples)

theorem identifiers_related (values : List Value) :
    Related (List.Forall₂ (Tokens.Alike R)) (values.mapM (Value.identifier scope))
      (values.mapM (Value.identifier scope)) :=
  Related.mapM (List.forall₂_same.2 fun value _ => Value.identifier_related value)

theorem valuesTokens_related {rows others : List Value}
    (h : List.Forall₂ (Value.RowAlike R) rows others) :
    TokensRelated R (valuesTokens scope rows) (valuesTokens scope others) := by
  cases h with
  | nil => exact .error _
  | cons hfirst hrest =>
      rw [valuesTokens, valuesTokens, hfirst.truthy_eq, hfirst.items_eq]
      split
      · apply Related.afterSame
        intro columns _
        apply (batchTokens_related 1 (.cons hfirst hrest)).bind
        intro tuples otherTuples htuples
        apply (identifiers_related columns).bind
        intro names otherNames hnames
        have hvalues := (Tokens.Alike.joined ", " htuples).literal_cons ") VALUES "
        exact .ok (((Tokens.Alike.joined ", " hnames).literal_cons "(").append hvalues)
      · exact .error _

theorem assignments_related {entries others : Entries} (h : entries.Alike R others) :
    TokensRelated R (assignments scope entries) (assignments scope others) := by
  have hpieces : List.Forall₂ (fun entry other =>
      TokensRelated R (assignment scope entry) (assignment scope other)) entries others := by
    refine h.imp fun entry other hentry => ?_
    rw [assignment, assignment, hentry.1]
    apply (Value.identifier_related other.1).bind
    intro column otherColumn hcolumn
    apply (assigned_related hentry.2).bind
    intro value otherValue hvalue
    exact .ok (hcolumn.append (hvalue.literal_cons " = "))
  apply (Related.mapM hpieces).bind
  intro pieces otherPieces hrelated
  exact .ok (Tokens.Alike.joined ", " hrelated)

variable {fragment otherFragment : Fragment}

theorem duplicateTail_related
    (h : (fragment.read "update").UpdateAlike R (otherFragment.read "update")) :
    TokensRelated R (duplicateTail scope fragment) (duplicateTail scope otherFragment) := by
  rw [duplicateTail, duplicateTail]
  simp only [h.truthy_eq]
  split
  · apply h.entries.bind
    intro entries others hentries
    apply (assignments_related hentries).bind
    intro tokens otherTokens htokens
    rw [hentries.any_isArgument_eq]
    have htail := htokens.literal_cons "ON DUPLICATE KEY UPDATE "
    split
    · have hrow : Tokens.Alike R (.name rowAlias :: .literal " " :: _) _ :=
        .cons (.name rowAlias) (htail.literal_cons " ")
      exact .ok (hrow.literal_cons "AS ")
    · exact .ok htail
  · exact .ok .nil

theorem conflictTail_related (hindex : fragment.read "index" = otherFragment.read "index")
    (h : (fragment.read "update").UpdateAlike R (otherFragment.read "update")) :
    TokensRelated R (conflictTail scope fragment) (conflictTail scope otherFragment) := by
  rw [conflictTail, conflictTail]
  simp only [h.truthy_eq, hindex]
  by_cases hindexed : (otherFragment.read "index").truthy = true
  · rw [if_pos hindexed, if_pos hindexed]
    apply Related.afterSame
    intro target _
    by_cases hempty : target.isEmpty = true
    · rw [if_pos hempty, if_pos hempty]
      exact .error _
    · rw [if_neg hempty, if_neg hempty]
      apply (identifiers_related target).bind
      intro names otherNames hnames
      have hhead : Tokens.Alike R (.literal "ON CONFLICT (" :: Tokens.joined ", " names) _ :=
        (Tokens.Alike.joined ", " hnames).literal_cons "ON CONFLICT ("
      split
      · apply h.entries.bind
        intro entries others hentries
        apply (assignments_related hentries).bind
        intro tokens otherTokens htokens
        exact .ok (hhead.append (htokens.literal_cons ") DO UPDATE SET "))
      · exact .ok (hhead.append (.literal ") DO NOTHING"))
  · -- without an index there is no target, which is refused
    rw [if_neg hindexed, if_neg hindexed]
    exact .error _

theorem upsertTail_related (dialect : Dialect)
    (hindex : fragment.read "index" = otherFragment.read "index")
    (h : (fragment.read "update").UpdateAlike R (otherFragment.read "update")) :
    TokensRelated R (upsertTail scope dialect fragment)
      (upsertTail scope dialect otherFragment) := by
  cases dialect with
  | mysql => exact duplicateTail_related h
  | sqlite => exact conflictTail_related hindex h

/-! ### Clauses -/

variable {blueprint other : Blueprint}

theorem first?_alike {clause : Clause}
    (h : List.Forall₂ (Fragment.Alike R clause) (blueprint.fragments clause)
      (other.fragments clause)) :
    Option.Rel (Fragment.Alike R clause) (blueprint.first? clause) (other.first? clause) := by
  rw [Blueprint.first?, Blueprint.first?]
  generalize blueprint.fragments clause = fragments at h
  generalize other.fragments clause = others at h
  cases h with
  | nil => exact .none
  | cons hfirst _ => exact .some hfirst

theorem listing_related {piece : Fragment → Except Error Tokens} (keyword : String)
    {clause : Clause} (hpiece : ∀ fragment, TokensRelated R (piece fragment) (piece fragment))
    (h : blueprint.fragments clause = other.fragments clause) :
    TokensRelated R (listing piece keyword clause blueprint)
      (listing piece keyword clause other) := by
  rw [listing, listing, h]
  apply (Related.mapM (List.forall₂_same.2 fun fragment _ => hpiece fragment)).bind
  intro pieces otherPieces hpieces
  exact .ok ((Tokens.Alike.joined ", " hpieces).headed keyword)

theorem aliased_related (value aliasName : Value) :
    TokensRelated R (value.aliased scope aliasName) (value.aliased scope aliasName) :=
  .of_assembled (value.bound_aliasedIngredients aliasName) fun _ => Assembled.aliased

theorem orderPiece_related (fragment : Fragment) :
    TokensRelated R (orderPiece scope fragment) (orderPiece scope fragment) := by
  refine .of_assembled ?_ fun _ => Assembled.orderPiece
  rw [orderIngredients, List.filterMap_append, Value.bound_identifierIngredients]
  rfl

theorem joinCondition_related {fragment other : Fragment} (h : fragment.JoinAlike R other) :
    TokensRelated R (joinCondition scope fragment) (joinCondition scope other) := by
  rw [joinCondition, joinCondition]
  cases h with
  | conditions hmembers hothers hconditions =>
      rw [hmembers, hothers]
      exact Condition.levelTokens_related hconditions
  | columns hfirst hcolumn hoperator hsecond =>
      rw [hfirst, hoperator, hsecond]
      generalize other.read "first" = first at hcolumn
      have hcolumns : TokensRelated R
          (do
            let first ← first.identifier scope
            let operator ← (other.read "operator").toText scope
            let second ← (other.read "second").identifier scope
            return first ++ .literal (" " ++ operator ++ " ") :: second)
          (do
            let first ← first.identifier scope
            let operator ← (other.read "operator").toText scope
            let second ← (other.read "second").identifier scope
            return first ++ .literal (" " ++ operator ++ " ") :: second) := by
        apply (Value.identifier_related first).bind
        intro left otherLeft hleft
        apply Related.afterSame
        intro operator _
        apply (Value.identifier_related _).bind
        intro right otherRight hright
        exact .ok (hleft.append (hright.literal_cons _))
      cases first with
      | group members => exact absurd rfl (hcolumn members)
      | _ => exact hcolumns

theorem joinPiece_related {fragment other : Fragment}
    (h : Fragment.Alike R .join fragment other) :
    TokensRelated R (joinPiece scope fragment) (joinPiece scope other) := by
  obtain ⟨htable, htype, hcondition⟩ := h
  rw [joinPiece, joinPiece, htable, htype]
  apply (Value.identifier_related _).bind
  intro table otherTable hidentifier
  apply (joinCondition_related hcondition).bind
  intro condition otherCondition htokens
  apply Related.afterSame
  intro type _
  exact .ok ((hidentifier.literal_cons _).append (htokens.literal_cons " ON "))

theorem joins_related (keyword : String)
    (h : List.Forall₂ (Fragment.Alike R .join) (blueprint.fragments .join)
      (other.fragments .join)) :
    TokensRelated R (joins scope keyword blueprint) (joins scope keyword other) := by
  apply (Related.mapM (h.imp fun _ _ => joinPiece_related)).bind
  intro pieces otherPieces hpieces
  exact .ok ((Tokens.Alike.joined " " hpieces).headed keyword)

theorem conditions_related (keyword : String) {clause : Clause}
    (hclause : clause = .where ∨ clause = .having)
    (h : List.Forall₂ (Fragment.Alike R clause) (blueprint.fragments clause)
      (other.fragments clause)) :
    TokensRelated R (conditions scope keyword clause blueprint)
      (conditions scope keyword clause other) := by
  have hlevel := Condition.ofFragments_alike (R := R) (h.imp fun fragment other hfragment => by
    rcases hclause with rfl | rfl <;> exact hfragment)
  apply (Condition.levelTokens_related hlevel).bind
  intro level otherLevel htokens
  exact .ok (htokens.headed keyword)

theorem limits_related (keyword : String)
    (h : blueprint.fragments .limit = other.fragments .limit) :
    TokensRelated R (limits keyword blueprint) (limits keyword other) := by
  rw [limits, limits, Blueprint.first?, Blueprint.first?, h]
  cases (other.fragments .limit).head? with
  | none => exact .ok .nil
  | some fragment =>
      apply Related.afterSame
      intro text _
      exact .ok ((Tokens.Alike.literal text).headed keyword)

theorem inserts_related (dialect : Dialect) (keyword : String) (upsert : Bool)
    (h : List.Forall₂ (Fragment.Alike R .insert) (blueprint.fragments .insert)
      (other.fragments .insert)) :
    TokensRelated R (inserts scope dialect keyword upsert blueprint)
      (inserts scope dialect keyword upsert other) := by
  rw [inserts, inserts]
  have hfirst := first?_alike h
  generalize blueprint.first? .insert = first at hfirst
  generalize other.first? .insert = otherFirst at hfirst
  cases hfirst with
  | none => exact .error _
  | some hfragment =>
      obtain ⟨hrows, hindex, hupdate⟩ := hfragment
      apply hrows.bind
      intro rows otherRows hrelated
      apply (valuesTokens_related hrelated).bind
      intro body otherBody hbody
      split
      · apply (upsertTail_related dialect hindex hupdate).bind
        intro tail otherTail htail
        exact .ok ((Tokens.Alike.spaced (.cons hbody (.cons htail .nil))).headed keyword)
      · exact .ok (hbody.headed keyword)

theorem updates_related (keyword : String)
    (h : List.Forall₂ (Fragment.Alike R .update) (blueprint.fragments .update)
      (other.fragments .update)) :
    TokensRelated R (updates scope keyword blueprint) (updates scope keyword other) := by
  rw [updates, updates]
  have hfirst := first?_alike h
  generalize blueprint.first? .update = first at hfirst
  generalize other.first? .update = otherFirst at hfirst
  cases hfirst with
  | none => exact .error _
  | @some fragment otherFragment hfragment =>
      have hupdate : (fragment.read "update").UpdateAlike R (otherFragment.read "update") :=
        hfragment
      simp only [hupdate.truthy_eq]
      split
      · apply hupdate.entries.bind
        intro entries others hentries
        apply (assignments_related hentries).bind
        intro tokens otherTokens htokens
        exact .ok (htokens.headed keyword)
      · exact .error _

/-! ### Statements -/

end Statement

namespace Blueprint.Alike

variable {blueprint other : Blueprint} (h : blueprint.Alike R other)
include h

theorem fragments (clause : Clause) :
    List.Forall₂ (Fragment.Alike R clause) (blueprint.fragments clause)
      (other.fragments clause) := by
  rw [Blueprint.fragments, Blueprint.fragments]
  have hclauses := h.clauses
  generalize blueprint.clauses = clauses at hclauses
  generalize other.clauses = others at hclauses
  induction hclauses with
  | nil => exact .nil
  | @cons entry otherEntry rest others hfirst _ ih =>
      simp only [Assoc.find?, List.find?_cons, ← hfirst.1] at ih ⊢
      cases hkey : entry.1 == clause with
      | true =>
          rw [← eq_of_beq hkey]
          exact hfirst.2
      | false => exact ih

theorem fragments_eq (clause : Clause)
    (hclause : ∀ fragment other, Fragment.Alike R clause fragment other → fragment = other) :
    blueprint.fragments clause = other.fragments clause :=
  List.forall₂_eq_eq_eq ▸ (h.fragments clause).imp hclause

theorem demand_eq : Statement.demand blueprint = Statement.demand other := by
  have htables := h.fragments_eq .tables fun _ _ heq => heq
  rw [Statement.demand, Statement.demand, Statement.requireTable, Statement.requireTable, has, has,
    htables, h.type]

end Blueprint.Alike

namespace Statement

variable {blueprint other : Blueprint}

theorem clauses_related (dialect : Dialect) (emptying : String) (h : blueprint.Alike R other)
    {members otherMembers : Except Error (List Tokens)}
    (hmembers : Related (List.Forall₂ (Tokens.Alike R)) members otherMembers) :
    List.Forall₂ (TokensRelated R) (clauses scope dialect emptying blueprint members)
      (clauses scope dialect emptying other otherMembers) := by
  have htables (keyword : String) :
      TokensRelated R (tables scope keyword blueprint) (tables scope keyword other) :=
    listing_related keyword (fun _ => aliased_related _ _) (h.fragments_eq .tables fun _ _ => id)
  have hfilter : TokensRelated R (conditions scope "WHERE" .where blueprint)
      (conditions scope "WHERE" .where other) :=
    conditions_related _ (.inl rfl) (h.fragments .where)
  have horders : TokensRelated R (orders scope "ORDER BY" blueprint)
      (orders scope "ORDER BY" other) :=
    listing_related _ orderPiece_related (h.fragments_eq .order fun _ _ => id)
  have hlimits : TokensRelated R (limits "LIMIT" blueprint) (limits "LIMIT" other) :=
    limits_related _ (h.fragments_eq .limit fun _ _ => id)
  rw [clauses, clauses, h.type]
  cases other.type with
  | select =>
      have hcolumns : TokensRelated R (columns scope "SELECT" blueprint)
          (columns scope "SELECT" other) :=
        listing_related _ (fun _ => aliased_related _ _) (h.fragments_eq .columns fun _ _ => id)
      have hgroups : TokensRelated R (groups scope "GROUP BY" blueprint)
          (groups scope "GROUP BY" other) :=
        listing_related _ (fun _ => Value.identifier_related _)
          (h.fragments_eq .group fun _ _ => id)
      have hhaving : TokensRelated R (conditions scope "HAVING" .having blueprint)
          (conditions scope "HAVING" .having other) :=
        conditions_related _ (.inr rfl) (h.fragments .having)
      have hunions : TokensRelated R (unions "UNION" <$> members)
          (unions "UNION" <$> otherMembers) := by
        rw [map_eq_pure_bind, map_eq_pure_bind]
        exact hmembers.bind fun _ _ hpieces =>
          .ok ((Tokens.Alike.joined ", " hpieces).headed "UNION")
      exact .cons hcolumns (.cons (htables "FROM") (.cons (joins_related "" (h.fragments .join))
        (.cons hfilter (.cons hgroups (.cons hhaving (.cons horders (.cons hlimits
          (.cons hunions .nil))))))))
  | insert =>
      exact .cons (htables "INSERT INTO")
        (.cons (inserts_related dialect "" false (h.fragments .insert)) .nil)
  | upsert =>
      exact .cons (htables "INSERT INTO")
        (.cons (inserts_related dialect "" true (h.fragments .insert)) .nil)
  | update =>
      exact .cons (htables "UPDATE") (.cons (updates_related "SET" (h.fragments .update))
        (.cons hfilter (.cons horders (.cons hlimits .nil))))
  | delete =>
      exact .cons (htables "DELETE FROM")
        (.cons hfilter (.cons horders (.cons hlimits .nil)))
  | truncate => exact .cons (htables emptying) .nil

theorem whole_related (dialect : Dialect) (emptying : String) (h : blueprint.Alike R other)
    {members otherMembers : Except Error (List Tokens)}
    (hmembers : Related (List.Forall₂ (Tokens.Alike R)) members otherMembers) :
    TokensRelated R (whole scope dialect emptying blueprint members)
      (whole scope dialect emptying other otherMembers) := by
  have hparts : Related (List.Forall₂ (Tokens.Alike R))
      (parts scope dialect emptying blueprint members)
      (parts scope dialect emptying other otherMembers) := by
    rw [parts_eq, parts_eq, h.demand_eq]
    exact .afterSame fun _ _ => Related.mapM (clauses_related dialect emptying h hmembers)
  apply hparts.bind
  intro parts otherParts hrelated
  exact .ok (Tokens.Alike.spaced hrelated).trim

end Statement

end SqlBuilder
