import SqlBuilder.Proofs.Drafting.Statement
import SqlBuilder.Proofs.Fault.Rows

/-!
# Batches of rows

The rows of a batch have names for their columns, and the first of them decides the order in which
the columns stand. A row with the same columns in whatever order gives its values in that order, and
so its tuple has each value under its own column. The first row with other columns is refused under
its number. What is compiled for rows with the same columns depends on nothing but their values in
the order of the columns.
-/

namespace SqlBuilder

open Outcome

/-- A row: values under names, each name once. -/
structure Row where
  cells : List (String × Value)
  distinct : (cells.map Prod.fst).Nodup

namespace Row

def names (row : Row) : List String :=
  row.cells.map Prod.fst

def toValue (row : Row) : Value :=
  .map (row.cells.map fun cell => (.text cell.1, cell.2))

def value? (row : Row) (name : String) : Option Value :=
  Assoc.find? row.cells name

def values (row : Row) (columns : List String) : List Value :=
  columns.filterMap row.value?

theorem value?_eq_some {row : Row} {name : String} {value : Value} :
    row.value? name = some value ↔ (name, value) ∈ row.cells := by
  obtain ⟨cells, hdistinct⟩ := row
  induction cells with
  | nil => simp [value?, Assoc.find?]
  | cons cell rest ih =>
      obtain ⟨hfresh, hrest⟩ := List.nodup_cons.1 hdistinct
      have hfind : value? ⟨cell :: rest, hdistinct⟩ name =
          if cell.1 = name then some cell.2 else value? ⟨rest, hrest⟩ name := by
        by_cases h : cell.1 = name <;> simp [value?, Assoc.find?, h]
      rw [hfind, List.mem_cons]
      by_cases hname : cell.1 = name
      · have hlater : (name, value) ∉ rest := fun h =>
          hfresh (hname ▸ List.mem_map_of_mem (f := Prod.fst) h)
        simp [hname, hlater, Prod.ext_iff, eq_comm]
      · have hother : (name, value) ≠ cell := fun h => hname (h ▸ rfl)
        rw [if_neg hname, ih hrest]
        simp [hother]

theorem mem_cells_of_mem_values {row : Row} {columns : List String} {value : Value}
    (h : value ∈ row.values columns) : ∃ cell ∈ row.cells, cell.2 = value := by
  obtain ⟨column, -, hvalue⟩ := List.mem_filterMap.1 h
  exact ⟨(column, value), value?_eq_some.1 hvalue, rfl⟩

theorem exists_value? {row : Row} {name : String} (h : name ∈ row.names) :
    ∃ value, row.value? name = some value := by
  obtain ⟨⟨_, value⟩, hcell, rfl⟩ := List.mem_map.1 h
  exact ⟨value, value?_eq_some.2 hcell⟩

/-- The order of the names makes no difference to what stands under them. -/
theorem value?_of_perm {row other : Row} (h : row.cells.Perm other.cells) :
    row.value? = other.value? := by
  funext name
  apply Option.ext
  intro value
  rw [value?_eq_some, value?_eq_some]
  exact h.mem_iff

theorem values_of_perm {row other : Row} (h : row.cells.Perm other.cells) (columns : List String) :
    other.values columns = row.values columns := by
  rw [values, values, value?_of_perm h]

theorem items_toValue (row : Row) : row.toValue.items = .ok (row.names.map .text) := by
  simp [toValue, names, Value.items, Entries.keys]

theorem subscript_toValue {row : Row} {name : String} {value : Value}
    (h : row.value? name = some value) : row.toValue.subscript (.text name) = .ok value := by
  have hkey : ((fun entry : Value × Value => entry.1 == .text name) ∘
      fun cell : String × Value => (Value.text cell.1, cell.2)) = fun cell => cell.1 == name :=
    funext fun cell => Value.same_text cell.1 name
  have hfind : Entries.find? (row.cells.map fun cell => (Value.text cell.1, cell.2))
      (.text name) = some value := by
    rw [Entries.find?, Assoc.find?, List.find?_map, Option.map_map, hkey]
    exact h
  rw [toValue, Value.subscript, hfind]
  rfl

end Row

/-- Rows that are inserted together. The first of them has a column. -/
structure Batch where
  first : Row
  rest : List Row
  nonempty : first.cells ≠ []

namespace Batch

def rows (batch : Batch) : List Row :=
  batch.first :: batch.rest

def columns (batch : Batch) : List String :=
  batch.first.names

/-- Whether a row has the columns of the first one, in whatever order. -/
def Fits (batch : Batch) (row : Row) : Prop :=
  row.names.toFinset = batch.columns.toFinset

instance (batch : Batch) (row : Row) : Decidable (batch.Fits row) :=
  decEq (α := Finset String) _ _

/-- All rows have the same columns. -/
def Even (batch : Batch) : Prop :=
  ∀ row ∈ batch.rows, batch.Fits row

instance (batch : Batch) : Decidable batch.Even :=
  inferInstanceAs (Decidable (∀ row ∈ batch.rows, batch.Fits row))

/-- The rows but the first with their columns in another order. -/
structure Rearranged (batch other : Batch) : Prop where
  first : other.first = batch.first
  rest : List.Forall₂ (fun row changed => row.cells.Perm changed.cells) batch.rest other.rest

variable {batch other : Batch} {row : Row}

theorem fits_first (batch : Batch) : batch.Fits batch.first := rfl

theorem Fits.mem_names (h : batch.Fits row) {column : String} (hcolumn : column ∈ batch.columns) :
    column ∈ row.names := by
  rw [← List.mem_toFinset, h, List.mem_toFinset]
  exact hcolumn

theorem Rearranged.map_values (h : batch.Rearranged other) :
    (other.rows.map fun row => row.values other.columns) =
      batch.rows.map fun row => row.values batch.columns := by
  have hcolumns : other.columns = batch.columns := congrArg Row.names h.first
  rw [hcolumns, rows, rows, List.map_cons, List.map_cons, h.first]
  congr 1
  have hrest := h.rest
  generalize batch.rest = rest, other.rest = changed at hrest
  induction hrest with
  | nil => rfl
  | cons hfirst _ ih => rw [List.map_cons, List.map_cons, ih, Row.values_of_perm hfirst]

theorem Rearranged.even (h : batch.Rearranged other) (heven : batch.Even) : other.Even := by
  have hcolumns : other.columns = batch.columns := congrArg Row.names h.first
  refine List.forall_mem_cons.2 ⟨other.fits_first, ?_⟩
  have hfits := (List.forall_mem_cons.1 heven).2
  have hrest := h.rest
  unfold Fits at hfits ⊢
  rw [hcolumns]
  generalize batch.rest = rest, other.rest = changed at hrest hfits
  induction hrest with
  | nil => exact fun _ hnone => absurd hnone List.not_mem_nil
  | cons hfirst _ ih =>
      obtain ⟨hrow, hothers⟩ := List.forall_mem_cons.1 hfits
      refine List.forall_mem_cons.2 ⟨?_, ih hothers⟩
      rw [← hrow]
      exact (List.toFinset_eq_of_perm _ _ (hfirst.map Prod.fst)).symm

theorem exists_not_fits (h : ¬batch.Even) :
    ∃ front row back, batch.rest = front ++ row :: back ∧ (∀ row ∈ front, batch.Fits row) ∧
      ¬batch.Fits row := by
  obtain ⟨row, hrow⟩ : ∃ row, batch.rest.find? (fun row => !decide (batch.Fits row)) = some row := by
    by_contra hnone
    refine h (List.forall_mem_cons.2 ⟨batch.fits_first, fun row hrow => ?_⟩)
    have hfind := Option.eq_none_iff_forall_ne_some.2 fun row hsome => hnone ⟨row, hsome⟩
    simpa using List.find?_eq_none.1 hfind row hrow
  obtain ⟨hmisfit, front, back, hrest, hfront⟩ := List.find?_eq_some_iff_append.1 hrow
  exact ⟨front, row, back, hrest, fun row hmem => by simpa using hfront row hmem,
    by simpa using hmisfit⟩

end Batch

/-! ### Tuples -/

namespace Draft

variable {scope : Scope} {quote : Quoting} {batch : Batch} {row : Row}

def enclosed (pieces : List Draft) : Draft :=
  plain "(" ++ joined ", " pieces ++ plain ")"

def tuple (scope : Scope) (quote : Quoting) (values : List Value) : Except Error Draft :=
  enclosed <$> values.mapM (assigned scope quote)

/-- A column as it is listed. The empty name leaves its place empty. -/
def listed (quote : Quoting) (name : String) : String :=
  if name = "" then "" else quote name

theorem identifier_text (name : String) :
    identifier scope quote (.text name) = .ok (plain (listed quote name)) := by
  rw [identifier_eq, Value.identifier, if_neg (by simp [Value.isArgument]), listed]
  by_cases h : name = ""
  · simp [Value.truthy, h, Tokens.draft_nil]
  · simp [Value.truthy, h, Tokens.draft_name, Tokens.draft_nil, append_plain_empty]

theorem mapM_subscript {columns : List String} (h : ∀ column ∈ columns, column ∈ row.names) :
    (columns.map Value.text).mapM (fun column => do
        assigned scope quote (← row.toValue.subscript column)) =
      (row.values columns).mapM (assigned scope quote) := by
  induction columns with
  | nil => rfl
  | cons column rest ih =>
      obtain ⟨hcolumn, hrest⟩ := List.forall_mem_cons.1 h
      obtain ⟨value, hvalue⟩ := Row.exists_value? hcolumn
      have hvalues : row.values (column :: rest) = value :: row.values rest := by
        simp [Row.values, hvalue]
      rw [List.map_cons, List.mapM_cons, Row.subscript_toValue hvalue, ok_bind, ih hrest, hvalues,
        List.mapM_cons]

theorem columnSet_columns (batch : Batch) :
    Statement.columnSet (.list (batch.columns.map .text)) = .ok (batch.columns.map .text) :=
  Statement.columnSet_eq rfl

theorem row_of_fits (h : batch.Fits row) (number : Nat) :
    Draft.row scope quote (batch.columns.map .text) number row.toValue =
      tuple scope quote (row.values batch.columns) := by
  rw [Draft.row, Statement.columnSet_eq row.items_toValue, ok_bind, columnSet_columns, ok_bind,
    if_pos ((Value.sameMembers_text _ _).2 h), mapM_subscript fun _ => h.mem_names, tuple,
    map_eq_pure_bind]
  rfl

/-- A row that does not fit is refused, and the refusal shows the columns in their order. -/
theorem row_of_not_fits (scope : Scope) (quote : Quoting) (h : ¬batch.Fits row) (number : Nat) :
    ∃ own expected, Value.sorted (row.names.map .text) = .ok own ∧
      Value.sorted (batch.columns.map .text) = .ok expected ∧
      Draft.row scope quote (batch.columns.map .text) number row.toValue =
        .error (.unevenRow number own expected) := by
  obtain ⟨own, hown, htexts⟩ := Value.succeeds_sorted row.names
  obtain ⟨expected, hexpected, hothers⟩ := Value.succeeds_sorted batch.columns
  refine ⟨own, expected, hown, hexpected, ?_⟩
  rw [Draft.row, Statement.columnSet_eq row.items_toValue, ok_bind, columnSet_columns, ok_bind,
    if_neg fun hsame => h ((Value.sameMembers_text _ _).1 hsame), hown, ok_bind, hexpected, ok_bind]
  dsimp only
  rw [Statement.worded_unevenRow number htexts hothers]
  rfl

theorem batch_append (columns : List Value) (number : Nat) (front back : List Value) :
    Draft.batch scope quote columns number (front ++ back) = (do
      let first ← Draft.batch scope quote columns number front
      let others ← Draft.batch scope quote columns (number + front.length) back
      return first ++ others) := by
  induction front generalizing number with
  | nil => simp [Draft.batch]
  | cons row rest ih =>
      rw [List.cons_append, Draft.batch, Draft.batch, ih, List.length_cons, Nat.add_right_comm,
        Nat.add_assoc number]
      simp only [bind_assoc, pure_bind, List.cons_append]

theorem batch_of_fits {rows : List Row} (h : ∀ row ∈ rows, batch.Fits row) (number : Nat) :
    Draft.batch scope quote (batch.columns.map .text) number (rows.map Row.toValue) =
      rows.mapM fun row => tuple scope quote (row.values batch.columns) := by
  induction rows generalizing number with
  | nil => rfl
  | cons row rest ih =>
      obtain ⟨hrow, hrest⟩ := List.forall_mem_cons.1 h
      rw [List.map_cons, Draft.batch, row_of_fits hrow, ih hrest, List.mapM_cons]

/-- The columns of the first row in parentheses, and behind them the tuples. -/
def valuesOf (quote : Quoting) (columns : List String) (tuples : List Draft) : Draft :=
  plain "(" ++ joined ", " (columns.map fun name => plain (listed quote name)) ++
    plain ") VALUES " ++ joined ", " tuples

theorem mapM_identifier (columns : List String) :
    (columns.map Value.text).mapM (identifier scope quote) =
      .ok (columns.map fun name => plain (listed quote name)) := by
  induction columns with
  | nil => rfl
  | cons name rest ih =>
      rw [List.map_cons, List.mapM_cons, identifier_text, ih]
      rfl

theorem values_eq_batch (batch : Batch) :
    values scope quote (batch.rows.map Row.toValue) = (do
      let tuples ← Draft.batch scope quote (batch.columns.map .text) 1 (batch.rows.map Row.toValue)
      return valuesOf quote batch.columns tuples) := by
  have htruthy : batch.first.toValue.truthy = true := by
    simp [Row.toValue, Value.truthy, batch.nonempty]
  have hcolumns : batch.first.toValue.items = .ok (batch.columns.map .text) :=
    batch.first.items_toValue
  rw [Batch.rows, List.map_cons, values, if_pos htruthy, hcolumns, ok_bind, mapM_identifier]
  rfl

theorem values_of_even (h : batch.Even) :
    values scope quote (batch.rows.map Row.toValue) = (do
      let tuples ← batch.rows.mapM fun row => tuple scope quote (row.values batch.columns)
      return valuesOf quote batch.columns tuples) := by
  rw [values_eq_batch, batch_of_fits h]

/-- Only the rows in front of the first one that does not fit are written before it is refused. -/
theorem values_of_not_fits (scope : Scope) (quote : Quoting) {front back : List Row}
    (hrest : batch.rest = front ++ row :: back) (hfront : ∀ row ∈ front, batch.Fits row)
    (hrow : ¬batch.Fits row) :
    ∃ own expected, Value.sorted (row.names.map .text) = .ok own ∧
      Value.sorted (batch.columns.map .text) = .ok expected ∧
      values scope quote (batch.rows.map Row.toValue) = (do
        let _ ← (batch.first :: front).mapM fun row =>
          tuple scope quote (row.values batch.columns)
        .error (.unevenRow (front.length + 2) own expected)) := by
  have hfits : ∀ row ∈ batch.first :: front, batch.Fits row :=
    List.forall_mem_cons.2 ⟨batch.fits_first, hfront⟩
  have hsplit : batch.rows.map Row.toValue =
      (batch.first :: front).map Row.toValue ++ row.toValue :: back.map Row.toValue := by
    rw [Batch.rows, hrest]
    simp
  have hnumber : 1 + ((batch.first :: front).map Row.toValue).length = front.length + 2 := by
    simp
    omega
  obtain ⟨own, expected, hown, hexpected, hrefused⟩ :=
    row_of_not_fits scope quote hrow (front.length + 2)
  refine ⟨own, expected, hown, hexpected, ?_⟩
  rw [values_eq_batch, hsplit, batch_append, hnumber, batch_of_fits hfits, Draft.batch, hrefused]
  simp only [bind_assoc]
  rfl

end Draft

end SqlBuilder
