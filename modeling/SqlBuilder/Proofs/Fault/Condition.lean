import SqlBuilder.Proofs.Fault
import SqlBuilder.Proofs.Typed

/-!
# Well typed conditions end with their first fault

A text can always be written, and an argument unless a number in it is too long. So what can go
wrong with a condition is what it binds, at whatever depth of groups it stands, and after that the
numbers in what is written around it.
-/

namespace SqlBuilder

open Outcome

variable {scope : Scope}

/-! ### Values -/

namespace Fault

theorem ofNumbers_append (front back : List Int) :
    ofNumbers (front ++ back) = ofNumbers front ++ ofNumbers back := by
  rw [ofNumbers, List.filter_append, List.map_append]
  rfl

theorem ofNumbers_eq_nil {numbers : List Int} (h : Value.areShort numbers = true) :
    ofNumbers numbers = [] := by
  rw [ofNumbers, List.filter_eq_nil_iff.2, List.map_nil]
  intro number hnumber
  simpa using List.all_eq_true.1 h number hnumber

theorem exists_ofNumbers_eq_cons {numbers : List Int} (h : Value.areShort numbers = false) :
    ∃ rest, ofNumbers numbers = .unwritable :: rest := by
  cases hlong : numbers.filter Decimal.isTooLong with
  | cons number others => exact ⟨_, by rw [ofNumbers, hlong, List.map_cons]⟩
  | nil =>
      have hshort : Value.areShort numbers = true := by
        refine List.all_eq_true.2 fun number hnumber => ?_
        simpa using List.filter_eq_nil_iff.1 hlong number hnumber
      rw [hshort] at h
      cases h

end Fault

namespace Value

theorem ends_shown (references : References) (value : Value) :
    Ends (value.shown references) (Fault.ofNumbers value.numbers) := by
  have hsome := isSome_quoted? references value
  rw [shown]
  cases hquoted : value.quoted? references with
  | some characters =>
      rw [hquoted] at hsome
      rw [Fault.ofNumbers_eq_nil hsome.symm]
      exact .ok characters
  | none =>
      rw [hquoted] at hsome
      obtain ⟨rest, hrest⟩ := Fault.exists_ofNumbers_eq_cons hsome.symm
      rw [hrest]
      exact .error rfl rest

mutual

theorem Plain.ends : ∀ {value : Value}, value.Plain → Ends (value.tokens scope) value.faults
  | .argument .raw value parameters, h => by
      rw [tokens, faults, writtenNumbers]
      exact h.1.ends.before fun _ _ => .ok trivial
  | .argument .method value parameters, h => by
      rw [tokens, faults, writtenNumbers, Fault.ofNumbers_append]
      exact (AllPlain.ends h.2).bind fun _ _ => h.1.ends.before fun _ _ => .ok trivial
  | .argument .column value parameters, h | .argument .table value parameters, h => by
      simp only [tokens, faults, writtenNumbers]
      split
      · exact .ok _
      · rw [Fault.ofNumbers_append]
        exact h.1.ends.bind fun _ _ => (AllPlain.ends_alias h.2).before fun _ _ => .ok trivial
  | .text characters, _ => .ok _
  | .null, _ | .bool _, _ | .int _, _ | .float _, _ | .undefined _, _ | .bytes _, _ | .list _, _
  | .tuple _, _ | .set _, _ | .frozenset _, _ | .map _, _ | .fragment _, _ | .group _, _
  | .queryBlueprint _, _ | .blueprint _, _ | .callback _, _ =>
      (ends_shown _ _).before fun _ _ => .ok trivial

theorem AllPlain.ends : ∀ {values : List Value}, AllPlain values →
    Ends (parameterTokens scope values) (Fault.ofNumbers (parameterNumbers values))
  | [], _ => .ok []
  | value :: rest, h => by
      rw [parameterTokens, parameterNumbers, Fault.ofNumbers_append]
      exact h.1.ends.bind fun _ _ => (AllPlain.ends h.2).before fun _ _ => .ok trivial

theorem AllPlain.ends_alias : ∀ {values : List Value}, AllPlain values →
    Ends (aliasTokens scope values) (Fault.ofNumbers (aliasNumbers values))
  | [], _ => .ok []
  | value :: rest, h => by
      rw [aliasTokens, aliasNumbers]
      split
      · exact h.1.ends.before fun _ _ => .ok trivial
      · exact .ok []

end

theorem Textual.ends {value : Value} (h : value.Textual) :
    Ends (value.tokens scope) value.faults :=
  h.plain.ends

theorem Textual.ends_toText {value : Value} (h : value.Textual) :
    Ends (value.toText scope) value.faults :=
  h.ends.before fun _ _ => .ok trivial

theorem faults_text (characters : String) : (text characters).faults = [] :=
  rfl

theorem Nameable.ends {value : Value} (h : value.Nameable) :
    Ends (value.identifier scope) value.faults := by
  rcases h with rfl | h
  · exact .ok []
  cases value with
  | argument kind value parameters => exact h.ends
  | text characters =>
      rw [identifier, if_neg (by simp [isArgument]), faults_text]
      split
      · exact h.ends_toText.before fun _ _ => .ok trivial
      · exact .ok []
  | _ => exact h.elim

theorem Nameable.ends_aliased {value aliasName : Value} (h : value.Nameable)
    (halias : aliasName.Nameable) :
    Ends (value.aliased scope aliasName) (value.faults ++ aliasName.faults) := by
  apply h.ends.bind
  intro name _
  split
  · exact halias.ends.before fun _ _ => .ok trivial
  · next hblank =>
      -- an alias that leaves its place empty is no argument
      have hnone : aliasName.faults = [] := by
        rcases halias with rfl | halias
        · rfl
        · cases aliasName with
          | text characters => rfl
          | argument kind value parameters => exact absurd rfl hblank
          | _ => exact halias.elim
      rw [hnone]
      exact .ok _

end Value

/-! ### Conditions -/

namespace Condition

theorem ends_boundTokens (clause : Clause) {value : Value} (h : value.Bindable) :
    Ends (boundTokens scope clause value) (value.operandFaults clause) := by
  have hitems : ∀ items : List Value,
      Ends (if items.isEmpty then (.error (.emptyList clause) : Except Error Tokens)
        else .ok (.literal "(" :: Tokens.joined ", " (items.map fun item => [.slot item]) ++
          [.literal ")"])) (if items.isEmpty then [.refused clause] else []) := by
    intro items
    cases items with
    | nil => exact .error rfl []
    | cons item rest => exact .ok _
  cases value with
  | argument kind value parameters => exact (h rfl).ends
  | list items | tuple items | set items | frozenset items =>
      -- all kinds of lists are bound alike
      have hends := hitems items
      cases items <;> exact hends
  | _ => exact .ok _

mutual

theorem ends_piece (clause : Clause) : ∀ {condition : Condition}, condition.Typed →
    Ends (condition.piece? scope clause) (condition.faults clause)
  | .comparison keyword column operator value, h => by
      obtain ⟨hkeyword, hcolumn, hoperator, hvalue⟩ := h
      rw [piece?, faults]
      apply (ends_boundTokens clause hvalue).bind
      intro bound _
      apply hkeyword.ends_toText.bind
      intro keyword _
      apply hcolumn.ends.bind
      intro column _
      exact hoperator.ends_toText.bind fun _ _ => .ok _
  | .group keyword [], _ => .ok none
  | .group keyword (member :: rest), h => by
      rw [piece?, faults]
      · exact (ends_pieces clause h.2).bind fun _ _ =>
          h.1.ends_toText.before fun _ _ => .ok trivial
      · exact fun hnil => nomatch hnil
      · exact fun hnil => nomatch hnil

theorem ends_pieces (clause : Clause) : ∀ {conditions : List Condition}, LevelTyped conditions →
    Ends (pieces scope clause conditions) (levelFaults clause conditions)
  | [], _ => .ok []
  | condition :: rest, h => by
      rw [pieces, levelFaults]
      exact (ends_piece clause h.1).bind fun _ _ =>
        (ends_pieces clause h.2).before fun _ _ => .ok trivial

end

theorem ends_levelTokens (clause : Clause) {conditions : List Condition}
    (h : LevelTyped conditions) :
    Ends (levelTokens scope clause conditions) (levelFaults clause conditions) :=
  (ends_pieces clause h).before fun _ _ => .ok trivial

end Condition

end SqlBuilder
