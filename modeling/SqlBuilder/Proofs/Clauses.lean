import SqlBuilder.Compiler
import SqlBuilder.Proofs.Outcome

/-!
# A statement clause by clause

The clauses of a statement are compiled independently of each other, one after the other. So what
holds of each clause, or relates each clause of a statement to that of another one, goes over to the
whole statement.
-/

namespace SqlBuilder.Statement

open Outcome

variable (scope : Scope) (dialect : Dialect) (emptying : String) (blueprint : Blueprint)
  (members : Except Error (List Tokens))

/-- What is asked of a blueprint before any clause is compiled. -/
def demand : Except Error Unit :=
  match blueprint.type with
  | .select => .ok ()
  | _ => requireTable blueprint

/-- What each clause compiles to, in the order of the statement. -/
def clauses : List (Except Error Tokens) :=
  match blueprint.type with
  | .select =>
      [columns scope "SELECT" blueprint, tables scope "FROM" blueprint, joins scope "" blueprint,
        conditions scope "WHERE" .where blueprint, groups scope "GROUP BY" blueprint,
        conditions scope "HAVING" .having blueprint, orders scope "ORDER BY" blueprint,
        limits "LIMIT" blueprint, unions "UNION" <$> members]
  | .insert =>
      [tables scope "INSERT INTO" blueprint, inserts scope dialect "" false blueprint]
  | .upsert =>
      [tables scope "INSERT INTO" blueprint, inserts scope dialect "" true blueprint]
  | .update =>
      [tables scope "UPDATE" blueprint, updates scope "SET" blueprint,
        conditions scope "WHERE" .where blueprint, orders scope "ORDER BY" blueprint,
        limits "LIMIT" blueprint]
  | .delete =>
      [tables scope "DELETE FROM" blueprint, conditions scope "WHERE" .where blueprint,
        orders scope "ORDER BY" blueprint, limits "LIMIT" blueprint]
  | .truncate => [tables scope emptying blueprint]

theorem parts_eq : parts scope dialect emptying blueprint members = (do
    demand blueprint
    (clauses scope dialect emptying blueprint members).mapM id) := by
  rw [parts, demand, clauses]
  cases blueprint.type <;>
    simp only [List.mapM_cons, List.mapM_nil, id_eq, bind_assoc, pure_bind, map_eq_pure_bind,
      ok_bind]

variable {blueprint}

/-- What a statement is compiled from is its type, its clauses but for the union, and the tokens of
the members of that. -/
theorem parts_congr {other : Blueprint} (htype : other.type = blueprint.type)
    (h : ∀ clause, clause ≠ .union → other.fragments clause = blueprint.fragments clause) :
    parts scope dialect emptying other members =
      parts scope dialect emptying blueprint members := by
  simp only [parts, columns, tables, joins, conditions, groups, orders, limits, inserts, updates,
    listing, requireTable, Blueprint.first?, Blueprint.has, htype, ne_eq, reduceCtorEq,
    not_false_eq_true, h]
  rfl

theorem columns_congr {other : Blueprint}
    (h : other.fragments .columns = blueprint.fragments .columns) (keyword : String) :
    columns scope keyword other = columns scope keyword blueprint := by
  rw [columns, columns, listing, listing, h]

theorem limits_congr {other : Blueprint}
    (h : other.fragments .limit = blueprint.fragments .limit) (keyword : String) :
    limits keyword other = limits keyword blueprint := by
  rw [limits, limits, Blueprint.first?, Blueprint.first?, h]

/-- A whole number is written in a window unless it has too many digits. -/
theorem windowNumber_eq {value : Value} {number : Int} (h : value.toInteger = .ok number) :
    windowNumber value =
      if number.natAbs < Decimal.tenTo Decimal.digitLimit then .ok (toString number)
      else .error .badValue := by
  rw [windowNumber, h, ok_bind, Decimal.writeInteger?]
  by_cases hshort : number.natAbs < Decimal.tenTo Decimal.digitLimit
  · rw [if_pos hshort, if_pos hshort]
    rfl
  · rw [if_neg hshort, if_neg hshort]
    rfl

theorem windowNumber_eq_ok {value : Value} {text : String} (h : windowNumber value = .ok text) :
    ∃ number, value.toInteger = .ok number ∧ text = toString number := by
  obtain ⟨number, hnumber, -⟩ := bind_eq_ok.1 h
  refine ⟨number, hnumber, ?_⟩
  rw [windowNumber_eq hnumber] at h
  split at h
  · exact (Except.ok.inj h).symm
  · cases h

theorem whole_replace_union (fragments : List Fragment) :
    whole scope dialect emptying (blueprint.replace .union fragments) members =
      whole scope dialect emptying blueprint members := by
  have hparts : parts scope dialect emptying (blueprint.replace .union fragments) members =
      parts scope dialect emptying blueprint members := by
    refine parts_congr _ _ _ _ rfl fun clause hclause => ?_
    rw [Blueprint.fragments_replace, if_neg]
    exact fun hsame => hclause (eq_of_beq hsame).symm
  rw [whole, whole, hparts]

end SqlBuilder.Statement

namespace SqlBuilder.Snapshot

variable {blueprint other : Blueprint} (resolve : Value → Except Error Blueprint) (depth : Nat)

theorem membersOf_congr (h : other.fragments .union = blueprint.fragments .union) :
    membersOf resolve depth other = membersOf resolve depth blueprint := by
  cases depth with
  | zero => rw [membersOf, membersOf, h]
  | succ depth => rw [membersOf, membersOf, h]

theorem membersOf_eq_nil (h : blueprint.fragments .union = []) :
    membersOf resolve depth blueprint = [] := by
  cases depth with
  | zero => rw [membersOf, h, List.map_nil]
  | succ depth => rw [membersOf, h, List.map_nil]

end SqlBuilder.Snapshot
