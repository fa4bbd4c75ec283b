import SqlBuilder.Proofs.Conditions
import SqlBuilder.Proofs.Outcome
import SqlBuilder.Store

/-!
# Blueprints that bind other values

Two blueprints are alike if they differ in nothing but values that are bound: the values on the
right of comparisons, those of the rows of an insert and those that are assigned. An argument is not
bound, so it is never replaced. A list or a set is replaced item by item. Which value may stand for
which is left open; it is a relation that every pair of bound values has to be in, so whatever is
proved about the pairs of bound values holds of each relation that they are in.
-/

namespace SqlBuilder

open Outcome

/-! ### Values in pairs -/

def Value.collection? : Value → Option (List Value)
  | list items | tuple items | set items | frozenset items => some items
  | _ => none

/-- Two values on the right of a comparison. -/
inductive Value.OperandAlike (R : Value → Value → Prop) : Value → Value → Prop where
  | argument (kind : ArgumentKind) (value : Value) (parameters : List Value) :
      OperandAlike R (.argument kind value parameters) (.argument kind value parameters)
  | single {value other : Value} (hvalue : value.isArgument = false)
      (hother : other.isArgument = false) (hsingle : value.collection? = none)
      (hotherSingle : other.collection? = none) (h : R value other) : OperandAlike R value other
  | items {value other : Value} {items others : List Value}
      (hitems : value.collection? = some items) (hothers : other.collection? = some others)
      (h : List.Forall₂ R items others) : OperandAlike R value other

/-- Two values that are assigned to a column, in a row or in an update. -/
inductive Value.AssignedAlike (R : Value → Value → Prop) : Value → Value → Prop where
  | argument (kind : ArgumentKind) (value : Value) (parameters : List Value) :
      AssignedAlike R (.argument kind value parameters) (.argument kind value parameters)
  | bound {value other : Value} (hvalue : value.isArgument = false)
      (hother : other.isArgument = false) (h : R value other) : AssignedAlike R value other

def Entries.Alike (R : Value → Value → Prop) (entries others : Entries) : Prop :=
  List.Forall₂ (fun entry other => entry.1 = other.1 ∧ Value.AssignedAlike R entry.2 other.2)
    entries others

/-- Two rows of an insert: maps with the same keys, or one row whose cells are what they are. -/
inductive Value.RowAlike (R : Value → Value → Prop) : Value → Value → Prop where
  | map {entries others : Entries} (h : entries.Alike R others) :
      RowAlike R (.map entries) (.map others)
  | same (row : Value)
      (h : ∀ column cell, row.subscript column = .ok cell → AssignedAlike R cell cell) :
      RowAlike R row row

/-- Two updates: maps with the same keys, or the same value that is no map. -/
inductive Value.UpdateAlike (R : Value → Value → Prop) : Value → Value → Prop where
  | map {entries others : Entries} (h : entries.Alike R others) :
      UpdateAlike R (.map entries) (.map others)
  | same (value : Value) (h : ∀ entries, value ≠ .map entries) : UpdateAlike R value value

/-! ### Blueprints in pairs -/

mutual

inductive Condition.Alike (R : Value → Value → Prop) : Condition → Condition → Prop where
  | comparison (keyword column operator : Value) {value other : Value}
      (h : value.OperandAlike R other) :
      Condition.Alike R (.comparison keyword column operator value)
        (.comparison keyword column operator other)
  | group (keyword : Value) {members others : List Condition}
      (h : Condition.AllAlike R members others) :
      Condition.Alike R (.group keyword members) (.group keyword others)
  | malformed (value : Value) : Condition.Alike R (.malformed value) (.malformed value)

inductive Condition.AllAlike (R : Value → Value → Prop) :
    List Condition → List Condition → Prop where
  | nil : Condition.AllAlike R [] []
  | cons {condition other : Condition} {rest others : List Condition}
      (hfirst : Condition.Alike R condition other) (hrest : Condition.AllAlike R rest others) :
      Condition.AllAlike R (condition :: rest) (other :: others)

end

namespace Fragment

inductive JoinAlike (R : Value → Value → Prop) (fragment other : Fragment) : Prop where
  | conditions {members others : List Value} (hmembers : fragment.read "first" = .group members)
      (hothers : other.read "first" = .group others)
      (h : Condition.AllAlike R (Condition.ofMembers members) (Condition.ofMembers others))
  | columns (hfirst : fragment.read "first" = other.read "first")
      (hcolumn : ∀ members, other.read "first" ≠ .group members)
      (hoperator : fragment.read "operator" = other.read "operator")
      (hsecond : fragment.read "second" = other.read "second")

/-- Two fragments of a clause. -/
def Alike (R : Value → Value → Prop) (clause : Clause) (fragment other : Fragment) : Prop :=
  match clause with
  | .where | .having => Condition.Alike R fragment.condition other.condition
  | .join =>
      fragment.read "table" = other.read "table" ∧ fragment.read "type" = other.read "type" ∧
        JoinAlike R fragment other
  | .insert =>
      Related (List.Forall₂ (Value.RowAlike R)) (Statement.rowsOf (fragment.read "insert"))
          (Statement.rowsOf (other.read "insert")) ∧
        fragment.read "index" = other.read "index" ∧
        (fragment.read "update").UpdateAlike R (other.read "update")
  | .update => (fragment.read "update").UpdateAlike R (other.read "update")
  | .columns | .tables | .group | .order | .limit | .union => fragment = other

end Fragment

/-- Two blueprints of the same type that touch the same clauses. -/
structure Blueprint.Alike (R : Value → Value → Prop) (blueprint other : Blueprint) : Prop where
  type : blueprint.type = other.type
  clauses : List.Forall₂ (fun clause otherClause => clause.1 = otherClause.1 ∧
    List.Forall₂ (Fragment.Alike R clause.1) clause.2 otherClause.2)
    blueprint.clauses other.clauses

structure Query.Alike (R : Value → Value → Prop) (query other : Query) : Prop where
  compiler : query.compiler = other.compiler
  blueprint : query.blueprint.Alike R other.blueprint

/-- Two stores whose queries and blueprints are alike, each to the one in its place. -/
structure Store.Alike (R : Value → Value → Prop) (store other : Store) : Prop where
  queries : List.Forall₂ (Query.Alike R) store.queries.toList other.queries.toList
  detached : List.Forall₂ (Blueprint.Alike R) store.detached.toList other.detached.toList

end SqlBuilder
