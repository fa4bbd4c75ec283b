import SqlBuilder.Proofs.Conditions
import SqlBuilder.Proofs.Select
import Mathlib.Data.Int.Basic

/-!
# The query of a page

The query of a page is its template without an order of its own, with a condition on the cursor
behind all conditions of the template, and with a window. The conditions of the template are kept
together in a group. All other clauses are those of the template, and what they compile to does not
depend on the cursor.
-/

namespace SqlBuilder

open Outcome

namespace Query

variable (query : Query) (path : String) (cursor : Value) (size : Nat)

theorem model_groupConditions : query.groupConditions.model = query.model := by
  rw [groupConditions]
  split
  · rfl
  · rw [model_add, model_reset]

theorem connection_groupConditions : query.groupConditions.connection = query.connection := by
  rw [groupConditions]
  split
  · rfl
  · rw [connection_add, connection_reset]

theorem compiler_groupConditions : query.groupConditions.compiler = query.compiler := by
  rw [groupConditions]
  split
  · rfl
  · rw [compiler_add, compiler_reset]

def grouped : List Fragment :=
  match query.blueprint.fragments .where with
  | [] => []
  | conditions =>
      [Fragment.of [("column", .group (conditions.map Fragment.toValue)), ("boolean", .text "AND")]]

theorem fragments_groupConditions (clause : Clause) :
    query.groupConditions.blueprint.fragments clause =
      if Clause.where == clause then query.grouped else query.blueprint.fragments clause := by
  cases hwhere : query.blueprint.fragments .where with
  | nil =>
      rw [groupConditions, grouped, hwhere]
      by_cases hclause : Clause.where = clause
      · simp [← hclause, hwhere]
      · simp [hclause]
  | cons first rest =>
      rw [groupConditions, grouped, hwhere]
      by_cases hclause : Clause.where = clause
      · simp [← hclause]
      · simp [hclause]

theorem grouped_reset_order : (query.reset .order).grouped = query.grouped := by
  have hwhere : (query.reset .order).blueprint.fragments .where =
      query.blueprint.fragments .where := by simp
  rw [grouped, grouped, hwhere]

def behind : Query :=
  (((query.reset .order).groupConditions.add .where
      [("column", .column path), ("value", boundValue cursor), ("operator", .text ">"),
        ("boolean", .text "AND")]).add .order
    [("column", .column path), ("sort", .text "ASC")]).setLimit (.int size) .null

def selectBehind : Query :=
  (query.behind path cursor size).withType .select

theorem exists_pageAfter (index cursor size : Value) :
    ∃ page, query.pageAfter index cursor size = .ok page := ⟨_, rfl⟩

theorem pageAfter_eq_behind : query.pageAfter (.text path) cursor (.int size) =
    .ok (query.behind path cursor size) := rfl

theorem model_behind : (query.behind path cursor size).model = query.model := by
  rw [behind, setLimit, model_add, model_reset, model_add, model_add, model_groupConditions,
    model_reset]

theorem connection_behind : (query.behind path cursor size).connection = query.connection := by
  rw [behind, setLimit, connection_add, connection_reset, connection_add, connection_add,
    connection_groupConditions, connection_reset]

theorem compiler_selectBehind :
    (query.selectBehind path cursor size).compiler = query.compiler := by
  rw [selectBehind, compiler_withType, behind, setLimit, compiler_add, compiler_reset,
    compiler_add, compiler_add, compiler_groupConditions, compiler_reset]

theorem fragments_selectBehind (clause : Clause) :
    (query.selectBehind path cursor size).blueprint.fragments clause =
      match clause with
      | .where => query.grouped ++ [Fragment.of [("column", .column path),
          ("value", boundValue cursor), ("operator", .text ">"), ("boolean", .text "AND")]]
      | .order => [Fragment.of [("column", .column path), ("sort", .text "ASC")]]
      | .limit => [Fragment.of [("limit", .int size), ("offset", .null)]]
      | clause => query.blueprint.fragments clause := by
  cases clause <;>
    simp [selectBehind, behind, setLimit, fragments_groupConditions, grouped_reset_order]

def groupedConditions : List Condition :=
  match query.blueprint.fragments .where with
  | [] => []
  | conditions => [.group (.text "AND") (Condition.ofFragments conditions)]

theorem conditions_selectBehind :
    Condition.ofFragments ((query.selectBehind path cursor size).blueprint.fragments .where) =
      query.groupedConditions ++
        [.comparison (.text "AND") (.column path) (.text ">") (boundValue cursor)] := by
  rw [fragments_selectBehind, grouped, groupedConditions]
  cases query.blueprint.fragments .where with
  | nil => exact Condition.ofFragments_eq_map _
  | cons first rest => exact Condition.ofFragments_eq_map _

theorem membersOf_selectBehind (resolve : Value → Except Error Blueprint) (depth : Nat) :
    Snapshot.membersOf resolve depth (query.selectBehind path cursor size).blueprint =
      Snapshot.membersOf resolve depth query.blueprint := by
  apply Snapshot.membersOf_congr
  rw [fragments_selectBehind]

end Query

def Value.columnTokens (path : String) : Tokens :=
  if (text path).isWildcard then [.literal Identifier.wildcard] else Tokens.path path

theorem Value.identifier_column (scope : Scope) (path : String) :
    (column path).identifier scope = .ok (columnTokens path) := by
  rw [identifier, column, if_pos (by rfl), tokens, columnTokens]
  by_cases hwild : (text path).isWildcard = true
  · rw [if_pos hwild, if_pos hwild]
  · rw [if_neg hwild, if_neg hwild, tokens, aliasTokens]
    simp [plainText, Token.render, pure, Except.pure, bind, Except.bind]

namespace Clauses

def orderBy (path : String) : Tokens :=
  .literal "ORDER BY " :: Value.columnTokens path ++ [.literal " ASC"]

/-- The window of a page. A number that is too long is not written. -/
def window (size : Nat) : Except Error Tokens :=
  if size < Decimal.tenTo Decimal.digitLimit then
    .ok [.literal "LIMIT ", .literal (toString size)]
  else .error .badValue

/-- The clauses of a page: those of its template but for other conditions, an order and a window. -/
def paged (clauses : Clauses) (filter : Except Error Tokens) (path : String) (size : Nat) :
    Clauses :=
  { clauses with filter, orders := .ok (orderBy path), limit := window size }

variable (clauses : Clauses) (filter : Except Error Tokens) (path : String) (size : Nat)

theorem before_paged : (clauses.paged filter path size).before = clauses.before := by
  simp only [before, paged]

theorem behind_paged : (clauses.paged filter path size).behind = clauses.behind := by
  simp only [behind, paged]

variable {clauses} {tokens : Tokens} {size}

/-- A page can be compiled if its template can, unless its size is too long a number. -/
theorem exists_whole_paged (h : clauses.whole = .ok tokens) (filter : Tokens)
    (hsize : size < Decimal.tenTo Decimal.digitLimit) :
    ∃ tokens, (clauses.paged (.ok filter) path size).whole = .ok tokens := by
  have hclauses := exists_whole_iff.1 ⟨tokens, h⟩
  rw [exists_whole_iff]
  simp only [list, paged, window, if_pos hsize, List.forall_mem_cons] at hclauses ⊢
  obtain ⟨hcolumns, htables, hjoins, -, hgroups, hhaving, -, -, hunions⟩ := hclauses
  exact ⟨hcolumns, htables, hjoins, ⟨filter, rfl⟩, hgroups, hhaving, ⟨_, rfl⟩, ⟨_, rfl⟩, hunions⟩

end Clauses

namespace Query

variable (query : Query) (path : String) (cursor : Value) (size : Nat)

theorem orders_selectBehind (scope : Scope) :
    Statement.orders scope "ORDER BY" (query.selectBehind path cursor size).blueprint =
      .ok (Clauses.orderBy path) := by
  have hpiece : Statement.orderPiece scope
      (Fragment.of [("column", .column path), ("sort", .text "ASC")]) =
        .ok (Value.columnTokens path ++ [.literal " ASC"]) := by
    have hcolumn : (Fragment.of [("column", .column path), ("sort", .text "ASC")]).read "column" =
        .column path := rfl
    have hsort : (Fragment.of [("column", .column path), ("sort", .text "ASC")]).read "sort" =
        .text "ASC" := rfl
    have hcapitals : " " ++ Text.upper "ASC" = " ASC" := by decide
    rw [Statement.orderPiece, hcolumn, hsort, Value.identifier_column, Value.toText_text, ok_bind,
      ok_bind, hcapitals]
    rfl
  have hshown : Tokens.vanishes (Value.columnTokens path ++ [.literal " ASC"]) = false := by
    rw [Tokens.vanishes_append, Bool.and_eq_false_iff]
    exact .inr (by decide)
  rw [Statement.orders, Statement.listing, fragments_selectBehind]
  dsimp only
  rw [List.mapM_cons, List.mapM_nil, hpiece]
  simp only [pure_bind, ok_bind, Statement.listed, Tokens.joined_singleton, Tokens.headed, hshown]
  rfl

theorem limits_selectBehind :
    Statement.limits "LIMIT" (query.selectBehind path cursor size).blueprint =
      Clauses.window size := by
  have hwindow : Statement.window (Fragment.of [("limit", .int size), ("offset", .null)]) =
      Statement.windowNumber (.int size) := rfl
  have hinteger : (Value.int size).toInteger = .ok (size : Int) := rfl
  rw [Statement.limits, Blueprint.first?, fragments_selectBehind]
  dsimp only [List.head?_cons]
  rw [hwindow, Statement.windowNumber_eq hinteger, Int.natAbs_natCast, Clauses.window]
  generalize Decimal.tenTo Decimal.digitLimit = bound
  by_cases hbound : size < bound
  · have hshown : Tokens.vanishes [.literal (toString size)] = false := by
      simp [Tokens.vanishes, Token.vanishes]
    have htext : toString (size : Int) = toString size := rfl
    rw [if_pos hbound, if_pos hbound, htext]
    simp only [ok_bind, Tokens.headed, hshown]
    rfl
  · rw [if_neg hbound, if_neg hbound]
    rfl

end Query

namespace Store

open Query

variable (store : Store) (query : Query) (path : String) (cursor : Value) (size : Nat)

/-- A page differs from its template in its conditions, its order and its window. -/
theorem clauses_selectBehind :
    store.clauses (query.selectBehind path cursor size) = (store.clauses query).paged
      (store.clauses (query.selectBehind path cursor size)).filter path size := by
  have horders := query.orders_selectBehind path cursor size store.scope
  have hlimit := query.limits_selectBehind path cursor size
  ext1
  case filter => rfl
  case orders => rw [clauses, Clauses.of, horders, Clauses.paged]
  case limit => rw [clauses, Clauses.of, hlimit, Clauses.paged]
  case unions =>
    simp only [clauses, Clauses.of, Clauses.paged, compiler_selectBehind, snapshot, Snapshot.take,
      membersOf_selectBehind]
  all_goals
    simp only [clauses, Clauses.of, Clauses.paged, Statement.columns, Statement.tables,
      Statement.joins, Statement.groups, Statement.conditions, Statement.listing,
      fragments_selectBehind]

end Store

end SqlBuilder
