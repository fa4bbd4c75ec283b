import SqlBuilder.Proofs.Assembly.Statement
import SqlBuilder.Proofs.Emission
import SqlBuilder.Proofs.Rendering

/-!
# What becomes of the values that are given

A statement is given values on the right of its comparisons and for the columns that it writes. An
argument among them is written into the text, the elements of a list that something is compared with
are bound one by one, and any other value is bound as it is. So the only arguments that can be bound
are elements of lists. Tokens carry what is given if they bind what there is to bind, in its order,
and have the text of every argument in theirs, apart from blanks at its ends, which are cut off
where a statement ends.
-/

namespace SqlBuilder

open Outcome

/-- A value that a statement is given. -/
inductive Given where
  /-- On the right of a comparison. -/
  | operand (value : Value)
  /-- For a column that is written. -/
  | assigned (value : Value)

namespace Given

def value : Given → Value
  | operand value | assigned value => value

def elements : Given → List Value
  | operand value =>
      match value with
      | .list items | .tuple items | .set items | .frozenset items => items
      | _ => []
  | assigned _ => []

def bound : Given → List Value
  | operand value =>
      match value with
      | .argument _ _ _ => []
      | .list items | .tuple items | .set items | .frozenset items => items
      | value => [value]
  | assigned value => if value.isArgument then [] else [value]

theorem bound_eq_nil (given : Given) (h : given.value.isArgument = true) : given.bound = [] := by
  cases given with
  | operand value =>
      cases value with
      | argument kind value parameters => rfl
      | _ => cases h
  | assigned value => exact if_pos h

/-- The arguments that are bound are elements of a list. -/
theorem filter_bound (given : Given) :
    given.bound.filter Value.isArgument = given.elements.filter Value.isArgument := by
  cases given with
  | operand value => cases value <;> rfl
  | assigned value =>
      by_cases h : value.isArgument = true
      · simp [bound, elements, h]
      · simp [bound, elements, h]

end Given

/-! ### The values of a statement -/

namespace Condition

mutual

/-- The values that a condition compares with, at every depth. -/
def given : Condition → List Given
  | comparison _ _ _ value => [.operand value]
  | group _ members => givenAll members
  | malformed value => [.operand value]

def givenAll : List Condition → List Given
  | [] => []
  | condition :: rest => condition.given ++ givenAll rest

end

end Condition

namespace Statement

def conditionsGiven (clause : Clause) (blueprint : Blueprint) : List Given :=
  Condition.givenAll (Condition.ofFragments (blueprint.fragments clause))

/-- What the conditions of a join compare with. Two columns are no values. -/
def joinGiven (fragment : Fragment) : List Given :=
  match fragment.read "first" with
  | .group members => Condition.givenAll (Condition.ofMembers members)
  | _ => []

def cellGiven (row column : Value) : List Given :=
  match row.subscript column with
  | .ok value => [.assigned value]
  | .error _ => []

def batchGiven : List Value → List Given
  | [] => []
  | first :: rest =>
      match first.items with
      | .ok columns => (first :: rest).flatMap fun row => columns.flatMap (cellGiven row)
      | .error _ => []

def insertGiven (fragment : Fragment) : List Given :=
  match rowsOf (fragment.read "insert") with
  | .ok rows => batchGiven rows
  | .error _ => []

def updateGiven (fragment : Fragment) : List Given :=
  match fragment.read "update" with
  | .map entries => entries.map fun entry => .assigned entry.2
  | _ => []

def leadingGiven (supply : Fragment → List Given) (clause : Clause) (blueprint : Blueprint) :
    List Given :=
  match blueprint.first? clause with
  | none => []
  | some fragment => supply fragment

/-- The values of a statement in their order; those of the members of its union come last. -/
def given (blueprint : Blueprint) (members : List Given) : List Given :=
  let filter := conditionsGiven .where blueprint
  match blueprint.type with
  | .select =>
      (blueprint.fragments .join).flatMap joinGiven ++ filter ++
        conditionsGiven .having blueprint ++ members
  | .insert => leadingGiven insertGiven .insert blueprint
  | .upsert =>
      leadingGiven insertGiven .insert blueprint ++ leadingGiven updateGiven .insert blueprint
  | .update => leadingGiven updateGiven .update blueprint ++ filter
  | .delete => filter
  | .truncate => []

mutual

def memberGiven : Member → List Given
  | .statement blueprint members => given blueprint (membersGiven members)
  | .invalid _ => []

def membersGiven : List Member → List Given
  | [] => []
  | member :: rest => memberGiven member ++ membersGiven rest

end

end Statement

def Snapshot.given (snapshot : Snapshot) : List Given :=
  Statement.given snapshot.blueprint (Statement.membersGiven snapshot.members)

/-! ### Carrying what is given -/

/-- Tokens bind what there is to bind and have the text of every argument. -/
structure Carries (scope : Scope) (given : List Given) (tokens : Tokens) : Prop where
  parameters : tokens.parameters = given.flatMap Given.bound
  shows : ∀ quote : Quoting, quote.Framed → ∀ item ∈ given, item.value.isArgument = true →
    ∃ text, item.value.sql scope quote = .ok text ∧
      Text.trim text.toList <:+: (tokens.render quote).toList

namespace Carries

variable {scope : Scope} {given others : List Given} {tokens front back : Tokens}

theorem of_parameters (h : tokens.parameters = []) : Carries scope [] tokens where
  parameters := h
  shows _ _ _ hitem := absurd hitem List.not_mem_nil

theorem append (hfront : Carries scope given front) (hback : Carries scope others back) :
    Carries scope (given ++ others) (front ++ back) where
  parameters := by
    rw [Tokens.parameters_append, hfront.parameters, hback.parameters, List.flatMap_append]
  shows quote hquote item hitem hargument := by
    rw [Tokens.render_append, String.toList_append]
    rcases List.mem_append.1 hitem with h | h
    · obtain ⟨text, htext, hinfix⟩ := hfront.shows quote hquote item h hargument
      exact ⟨text, htext, hinfix.trans (List.prefix_append _ _).isInfix⟩
    · obtain ⟨text, htext, hinfix⟩ := hback.shows quote hquote item h hargument
      exact ⟨text, htext, hinfix.trans (List.suffix_append _ _).isInfix⟩

theorem of_argument {item : Given} (hargument : item.value.isArgument = true)
    (h : item.value.tokens scope = .ok tokens) : Carries scope [item] tokens where
  parameters := by
    rw [List.flatMap_singleton, item.bound_eq_nil hargument,
      (Assembled.argument hargument h).parameters, Value.bound_ingredients]
  shows quote _ other hother _ := by
    obtain rfl := List.mem_singleton.1 hother
    refine ⟨tokens.render quote, ?_, Text.trim_infix _⟩
    rw [Value.sql, h]
    rfl

theorem of_plain {item : Given} (hplain : item.value.isArgument = false)
    (h : tokens.parameters = item.bound) : Carries scope [item] tokens where
  parameters := by rw [h, List.flatMap_singleton]
  shows _ _ other hother hargument := by
    obtain rfl := List.mem_singleton.1 hother
    rw [hplain] at hargument
    cases hargument

theorem after (hfront : front.parameters = []) (h : Carries scope given tokens) :
    Carries scope given (front ++ tokens) :=
  (of_parameters hfront).append h

theorem before (h : Carries scope given tokens) (hback : back.parameters = []) :
    Carries scope given (tokens ++ back) := by
  have hnothing : Carries scope [] back := of_parameters hback
  simpa using h.append hnothing

theorem literal (text : String) (h : Carries scope given tokens) :
    Carries scope given (.literal text :: tokens) := by
  have hfront : Tokens.parameters [.literal text] = [] := rfl
  exact h.after hfront

theorem joined_cons (separator : String) {piece : Tokens} {pieces : List Tokens}
    (hfirst : Carries scope given piece)
    (hrest : Carries scope others (Tokens.joined separator pieces)) :
    Carries scope (given ++ others) (Tokens.joined separator (piece :: pieces)) := by
  cases pieces with
  | nil => simpa [Tokens.joined] using hfirst.append hrest
  | cons next rest =>
      rw [Tokens.joined_cons_cons]
      exact hfirst.append (hrest.literal separator)

theorem joined {α : Type} {supply : α → List Given} (separator : String) {items : List α}
    {pieces : List Tokens}
    (h : List.Forall₂ (fun item piece => Carries scope (supply item) piece) items pieces) :
    Carries scope (items.flatMap supply) (Tokens.joined separator pieces) := by
  induction h with
  | nil => exact of_parameters rfl
  | cons hfirst _ ih => exact hfirst.joined_cons separator ih

theorem headed (keyword : String) (h : Carries scope given tokens) :
    Carries scope given (Tokens.headed keyword tokens) where
  parameters := by rw [Tokens.parameters_headed, h.parameters]
  shows quote hquote item hitem hargument := by
    obtain ⟨text, htext, hinfix⟩ := h.shows quote hquote item hitem hargument
    rw [Tokens.render_headed hquote]
    exact ⟨text, htext, hinfix.trans (Text.infix_lead _ _)⟩

theorem spaced_cons {piece : Tokens} {pieces : List Tokens} (hfirst : Carries scope given piece)
    (hrest : Carries scope others (Tokens.spaced pieces)) :
    Carries scope (given ++ others) (Tokens.spaced (piece :: pieces)) where
  parameters := by
    have hpieces := hrest.parameters
    rw [Tokens.parameters_spaced] at hpieces ⊢
    rw [List.flatMap_cons, hfirst.parameters, hpieces, List.flatMap_append]
  shows quote hquote item hitem hargument := by
    rw [Tokens.render_spaced_cons hquote]
    rcases List.mem_append.1 hitem with h | h
    · obtain ⟨text, htext, hinfix⟩ := hfirst.shows quote hquote item h hargument
      exact ⟨text, htext, hinfix.trans (Text.prefix_beside _ _).isInfix⟩
    · obtain ⟨text, htext, hinfix⟩ := hrest.shows quote hquote item h hargument
      exact ⟨text, htext, hinfix.trans (Text.infix_beside_right _ _)⟩

theorem trim (h : Carries scope given tokens) : Carries scope given tokens.trim where
  parameters := by rw [Tokens.parameters_trim, h.parameters]
  shows quote hquote item hitem hargument := by
    obtain ⟨text, htext, hinfix⟩ := h.shows quote hquote item hitem hargument
    refine ⟨text, htext, ?_⟩
    rw [Tokens.render_trim hquote, ← Text.trim_trim]
    exact Text.trim_infix_trim hinfix

end Carries

end SqlBuilder
