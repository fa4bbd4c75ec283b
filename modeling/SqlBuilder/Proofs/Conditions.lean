import SqlBuilder.Condition

/-!
# Fragments read as conditions

A fragment of a WHERE or HAVING clause is one condition: a group if it has one in the place of its
column, and a comparison otherwise. The conditions of a clause are those of its fragments, one by
one, whatever else the fragments hold.
-/

namespace SqlBuilder

/-- The condition that a fragment is. -/
def Fragment.condition (fragment : Fragment) : Condition :=
  match fragment.read "column" with
  | .group members => .group (fragment.read "boolean") (Condition.ofMembers members)
  | column =>
      .comparison (fragment.read "boolean") column (fragment.read "operator")
        (fragment.read "value")

namespace Condition

theorem members?_eq (attributes : Entries) :
    members? attributes =
      match Entries.read attributes "column" with
      | .group members => some (ofMembers members)
      | _ => none := by
  induction attributes with
  | nil => simp only [members?]; rfl
  | cons entry rest ih =>
      obtain ⟨key, value⟩ := entry
      cases hkey : key.same (.text "column") with
      | true =>
          have hread : Entries.read ((key, value) :: rest) "column" = value := by
            have hfound : (key == Value.text "column") = true := hkey
            simp [Entries.read, Entries.find?, Assoc.find?, hfound]
          rw [hread]
          cases value <;> simp only [members?, hkey, if_true]
      | false =>
          have hread : Entries.read ((key, value) :: rest) "column" =
              Entries.read rest "column" := by
            have hfound : (key == Value.text "column") = false := hkey
            simp [Entries.read, Entries.find?, Assoc.find?, hfound]
          rw [hread, ← ih]
          cases value <;> simp only [members?, hkey, Bool.false_eq_true, if_false]

theorem ofMembers_cons (fragment : Fragment) (rest : List Value) :
    ofMembers (fragment.toValue :: rest) = fragment.condition :: ofMembers rest := by
  rw [Fragment.toValue, ofMembers, members?_eq, Fragment.condition, Fragment.read]
  cases Entries.read fragment.attributes "column" <;> rfl

@[simp] theorem ofFragments_nil : ofFragments [] = [] := by
  simp only [ofFragments, List.map_nil, ofMembers]

@[simp] theorem ofFragments_cons (fragment : Fragment) (rest : List Fragment) :
    ofFragments (fragment :: rest) = fragment.condition :: ofFragments rest :=
  ofMembers_cons fragment (rest.map Fragment.toValue)

theorem ofFragments_eq_map (fragments : List Fragment) :
    ofFragments fragments = fragments.map Fragment.condition := by
  induction fragments with
  | nil => exact ofFragments_nil
  | cons fragment rest ih => rw [ofFragments_cons, ih, List.map_cons]

end Condition

end SqlBuilder
