import SqlBuilder.Proofs.Batch.Statement
import SqlBuilder.Proofs.Depth

/-!
# What the dialects have in common

The two dialects part at two places: at the end of an upsert, and at the keyword that empties a
table. So a statement that is neither, nor unites one at any depth, is the same in both of them, and
if it cannot be compiled it fails in the same way. An upsert begins as the insert of its rows does,
with the same text for the tables, the columns and the tuples, and goes on in two ways that name the
same assignments. What is bound is the same too: the values of the rows, row by row, and then those
that are assigned.
-/

namespace SqlBuilder

open Outcome

/-- Neither an upsert nor the emptying of a table. -/
def StatementType.Common (type : StatementType) : Prop :=
  type ≠ .upsert ∧ type ≠ .truncate

instance (type : StatementType) : Decidable type.Common :=
  inferInstanceAs (Decidable (_ ∧ _))

/-! ### Statements that are the same in every dialect -/

namespace Statement

variable {scope : Scope} (dialect other : Dialect)

theorem inserts_common (keyword : String) (blueprint : Blueprint) :
    inserts scope dialect keyword false blueprint =
      inserts scope other keyword false blueprint := by
  rw [inserts, inserts]
  simp only [Bool.false_eq_true, if_false]

variable (emptying clearing : String)

theorem whole_common {blueprint : Blueprint} (h : blueprint.type.Common)
    (members : Except Error (List Tokens)) :
    whole scope dialect emptying blueprint members =
      whole scope other clearing blueprint members := by
  have hclauses : clauses scope dialect emptying blueprint members =
      clauses scope other clearing blueprint members := by
    rw [clauses, clauses]
    cases htype : blueprint.type with
    | select => rfl
    | insert => exact congrArg (fun rows => [_, rows]) (inserts_common dialect other "" blueprint)
    | upsert => exact absurd htype h.1
    | update => rfl
    | delete => rfl
    | truncate => exact absurd htype h.2
  rw [whole, whole, parts_eq, parts_eq, hclauses]

end Statement

namespace Store

variable {store : Store} {blueprint : Blueprint}

theorem unionTokens_common (scope : Scope) (dialect other : Dialect) (emptying clearing : String)
    (h : ∀ member, store.Includes blueprint member → member.type.Common) (depth : Nat) :
    Statement.unionTokens scope dialect emptying store.resolve depth blueprint =
      Statement.unionTokens scope other clearing store.resolve depth blueprint := by
  induction depth generalizing blueprint with
  | zero => rw [Statement.unionTokens_zero, Statement.unionTokens_zero]
  | succ depth ih =>
      rw [Statement.unionTokens_succ, Statement.unionTokens_succ]
      refine mapM_congr fun fragment hfragment => ?_
      cases hmember : store.resolve (fragment.read "query") with
      | error cause => rw [error_bind, error_bind]
      | ok member =>
          have hincluded : ∀ next, store.Includes member next → next.type.Common :=
            fun next hnext => h next (hnext.through hfragment hmember)
          rw [ok_bind, ok_bind, ih hincluded]
          exact Statement.whole_common _ _ _ _ (hincluded member .itself) _

/-- Two compilers that quote alike differ in nothing but upserts and the emptying of tables. -/
theorem compile_common {compiler other : Compiler} (hquote : compiler.quote = other.quote)
    (h : ∀ member, store.Includes blueprint member → member.type.Common) :
    Related (fun compiled changed =>
        compiled.sql = changed.sql ∧ compiled.parameters = changed.parameters)
      (store.compile compiler blueprint) (store.compile other blueprint) := by
  have htokens : compiler.tokens store.scope (store.snapshot blueprint) =
      other.tokens store.scope (store.snapshot blueprint) := by
    have hmembers := unionTokens_common store.scope compiler.dialect other.dialect
      compiler.emptying other.emptying h store.depth
    exact (congrArg (Statement.whole store.scope compiler.dialect compiler.emptying blueprint)
      hmembers).trans (Statement.whole_common _ _ _ _ (h blueprint .itself) _)
  rw [compile, compile, Compiler.compile, Compiler.compile, htokens]
  refine Related.afterSame fun tokens _ => .ok ⟨?_, rfl⟩
  exact congrArg (fun quote => Tokens.render quote tokens) hquote

end Store

/-! ### What an upsert is given -/

/-- The rows of an insert as a table: the columns of the first row, and the values of each row under
them, in their order. -/
structure Grid where
  columns : List Value
  rows : List (List Value)

/-- What some rows show under the columns of the first of them. -/
structure Grid.Shows (grid : Grid) (rows : List Value) : Prop where
  columns : ∃ first rest, rows = first :: rest ∧ first.items = .ok grid.columns
  cells : List.Forall₂ (fun row values =>
    List.Forall₂ (fun column value => row.subscript column = .ok value) grid.columns values)
    rows grid.rows

def Value.boundOf (values : List Value) : List Value :=
  values.filter fun value => !value.isArgument

/-- What an upsert consists of: its rows, the columns whose collision is meant and what is assigned
to rows that are there already. -/
structure Upsert where
  grid : Grid
  target : List Value
  update : Entries

namespace Upsert

/-- An update that is empty, whatever it is, assigns nothing. -/
def Assigns (update : Value) (entries : Entries) : Prop :=
  update.truthy = false ∧ entries = [] ∨ update = .map entries ∧ entries ≠ []

theorem Assigns.unique {update : Value} {entries others : Entries} (h : Assigns update entries)
    (hother : Assigns update others) : entries = others := by
  rcases h with ⟨hempty, rfl⟩ | ⟨rfl, hsome⟩
  · rcases hother with ⟨-, rfl⟩ | ⟨rfl, hsome⟩
    · rfl
    · simp [Value.truthy, hsome] at hempty
  · rcases hother with ⟨hempty, -⟩ | ⟨hsame, -⟩
    · simp [Value.truthy, hsome] at hempty
    · exact Value.map.inj hsame

theorem Assigns.ne_nil {update : Value} {entries : Entries} (h : Assigns update entries)
    (htruthy : update.truthy = true) : entries ≠ [] := by
  rcases h with ⟨hempty, -⟩ | ⟨-, hsome⟩
  · cases htruthy.symm.trans hempty
  · exact hsome

/-- What stands in the fragment of an upsert. -/
structure Reads (upsert : Upsert) (fragment : Fragment) : Prop where
  rows : ∃ rows, Statement.rowsOf (fragment.read "insert") = .ok rows ∧ upsert.grid.Shows rows
  target : (fragment.read "index").items = .ok upsert.target ∧ upsert.target ≠ []
  update : Assigns (fragment.read "update") upsert.update

def bound (upsert : Upsert) : List Value :=
  Value.boundOf upsert.grid.rows.flatten ++ Value.boundOf upsert.update.values

end Upsert

/-! ### How an upsert is written -/

/-- The texts and tuples of an upsert: its tables, its columns, what stands for the values of each
row, the columns whose collision is meant and the assignments. -/
structure Wording where
  tables : String
  columns : List String
  tuples : List (List Draft)
  target : List String
  update : List String

namespace Wording

def Names (scope : Scope) (quote : Quoting) (value : Value) (text : String) : Prop :=
  Tokens.render quote <$> value.identifier scope = .ok text

def Assigns (scope : Scope) (quote : Quoting) (entry : Value × Value) (text : String) : Prop :=
  ∃ column piece, Names scope quote entry.1 column ∧ entry.2.StandsAs scope quote piece ∧
    text = column ++ " = " ++ piece.text

structure Writes (scope : Scope) (quote : Quoting) (blueprint : Blueprint) (upsert : Upsert)
    (wording : Wording) : Prop where
  tables : Tokens.render quote <$> Statement.tables scope "INSERT INTO" blueprint =
    .ok wording.tables
  columns : List.Forall₂ (Names scope quote) upsert.grid.columns wording.columns
  tuples : List.Forall₂ (List.Forall₂ (Value.StandsAs scope quote)) upsert.grid.rows wording.tuples
  target : List.Forall₂ (Names scope quote) upsert.target wording.target
  update : List.Forall₂ (Assigns scope quote) upsert.update wording.update

variable (wording : Wording) (upsert : Upsert)

def rows : String :=
  Text.enclosed wording.columns ++ " VALUES " ++
    ", ".intercalate (wording.tuples.map fun tuple => Text.enclosed (tuple.map Draft.text))

def front : String :=
  Text.beside wording.tables wording.rows

/-- The tail for MySQL. There is none without an assignment, and the incoming row has a name if and
only if an argument is assigned. -/
def duplicate : String :=
  if upsert.update.isEmpty then ""
  else
    (if upsert.update.values.any Value.isArgument then "AS \x60row\x60 " else "") ++
      "ON DUPLICATE KEY UPDATE " ++ ", ".intercalate wording.update

def conflict : String :=
  "ON CONFLICT " ++ Text.enclosed wording.target ++
    if upsert.update.isEmpty then " DO NOTHING"
    else " DO UPDATE SET " ++ ", ".intercalate wording.update

end Wording

namespace Draft

variable {scope : Scope} {quote : Quoting}

theorem identifier_eq_ok {value : Value} {piece : Draft}
    (h : identifier scope quote value = .ok piece) :
    Wording.Names scope quote value piece.text ∧ piece = plain piece.text := by
  rw [identifier_eq] at h
  obtain ⟨tokens, htokens, rfl⟩ := map_eq_ok.1 h
  refine ⟨?_, ?_⟩
  · rw [Wording.Names, htokens]
    rfl
  · rw [Tokens.draft, plain, Carries.parameters_identifier htokens]

theorem mapM_identifier_eq_ok {values : List Value} {pieces : List Draft}
    (h : values.mapM (identifier scope quote) = .ok pieces) :
    List.Forall₂ (Wording.Names scope quote) values (pieces.map text) ∧
      pieces.flatMap parameters = [] := by
  have hpieces := mapM_eq_ok.1 h
  induction hpieces with
  | nil => exact ⟨.nil, rfl⟩
  | cons hfirst hrest ih =>
      obtain ⟨hname, hplain⟩ := identifier_eq_ok hfirst
      obtain ⟨hnames, hnone⟩ := ih (mapM_eq_ok.2 hrest)
      refine ⟨.cons hname hnames, ?_⟩
      rw [List.flatMap_cons, hnone, hplain]
      rfl

theorem row_eq_ok {columns : List Value} {number : Nat} {value : Value} {draft : Draft}
    (h : row scope quote columns number value = .ok draft) :
    ∃ values pieces, List.Forall₂ (fun column cell => value.subscript column = .ok cell) columns
        values ∧
      List.Forall₂ (Value.StandsAs scope quote) values pieces ∧ draft = enclosed pieces := by
  obtain ⟨own, -, h⟩ := bind_eq_ok.1 h
  obtain ⟨expected, -, h⟩ := bind_eq_ok.1 h
  split at h
  · obtain ⟨pieces, hpieces, h⟩ := bind_eq_ok.1 h
    obtain rfl := pure_eq_ok.1 h
    obtain ⟨values, hvalues, hstands⟩ := exists_between (mapM_eq_ok.1 hpieces)
    exact ⟨values, pieces, hvalues, hstands.imp fun _ _ => assigned_eq_ok.1, rfl⟩
  · obtain ⟨sorted, -, h⟩ := bind_eq_ok.1 h
    obtain ⟨_, -, h⟩ := bind_eq_ok.1 h
    cases h

theorem batch_eq_ok {columns : List Value} {number : Nat} {rows : List Value}
    {drafts : List Draft} (h : batch scope quote columns number rows = .ok drafts) :
    ∃ values tuples,
      List.Forall₂ (fun row values =>
        List.Forall₂ (fun column cell => row.subscript column = .ok cell) columns values)
        rows values ∧
      List.Forall₂ (List.Forall₂ (Value.StandsAs scope quote)) values tuples ∧
      drafts = tuples.map enclosed := by
  induction rows generalizing number drafts with
  | nil =>
      obtain rfl := Except.ok.inj h
      exact ⟨[], [], .nil, .nil, rfl⟩
  | cons row rest ih =>
      obtain ⟨first, hfirst, h⟩ := bind_eq_ok.1 h
      obtain ⟨others, hothers, h⟩ := bind_eq_ok.1 h
      obtain rfl := pure_eq_ok.1 h
      obtain ⟨cells, pieces, hcells, hpieces, rfl⟩ := row_eq_ok hfirst
      obtain ⟨values, tuples, hvalues, htuples, rfl⟩ := ih hothers
      exact ⟨cells :: values, pieces :: tuples, .cons hcells hvalues, .cons hpieces htuples, rfl⟩

/-- The tuples bind the values of the rows, row by row. -/
theorem parameters_enclosed {rows : List (List Value)} {tuples : List (List Draft)}
    (h : List.Forall₂ (List.Forall₂ (Value.StandsAs scope quote)) rows tuples) :
    (tuples.map enclosed).flatMap parameters = Value.boundOf rows.flatten := by
  induction h with
  | nil => rfl
  | @cons values tuple _ _ hfirst _ ih =>
      have henclosed : (enclosed tuple).parameters = tuple.flatMap parameters :=
        List.append_nil _
      rw [List.map_cons, List.flatMap_cons, ih, henclosed, flatMap_parameters hfirst,
        List.flatten_cons, Value.boundOf, Value.boundOf, List.filter_append]

theorem values_eq_ok {rows : List Value} {body : Draft} (h : values scope quote rows = .ok body) :
    ∃ grid : Grid, grid.Shows rows ∧ ∃ columns tuples,
      List.Forall₂ (Wording.Names scope quote) grid.columns columns ∧
      List.Forall₂ (List.Forall₂ (Value.StandsAs scope quote)) grid.rows tuples ∧ tuples ≠ [] ∧
      body = ⟨Text.enclosed columns ++ " VALUES " ++
        ", ".intercalate (tuples.map fun tuple => Text.enclosed (tuple.map text)),
        Value.boundOf grid.rows.flatten⟩ := by
  cases rows with
  | nil => cases h
  | cons first rest =>
      rw [values] at h
      split at h
      · obtain ⟨columns, hcolumns, h⟩ := bind_eq_ok.1 h
        obtain ⟨drafts, hdrafts, h⟩ := bind_eq_ok.1 h
        obtain ⟨names, hnames, h⟩ := bind_eq_ok.1 h
        obtain rfl := pure_eq_ok.1 h
        obtain ⟨cells, tuples, hcells, htuples, rfl⟩ := batch_eq_ok hdrafts
        obtain ⟨hwritten, hnone⟩ := mapM_identifier_eq_ok hnames
        refine ⟨⟨columns, cells⟩, ⟨⟨first, rest, rfl, hcolumns⟩, hcells⟩, names.map text, tuples,
          hwritten, htuples, ?_, ?_⟩
        · rintro rfl
          cases htuples
          cases hcells
        · have hbound := parameters_enclosed htuples
          have htexts : (tuples.map enclosed).map text =
              tuples.map fun tuple => Text.enclosed (tuple.map text) := by
            rw [List.map_map]
            rfl
          have hsplit : plain "(" ++ joined ", " names ++ plain ") VALUES " ++
              joined ", " (tuples.map enclosed) =
              ⟨"(" ++ ", ".intercalate (names.map text) ++ ") VALUES " ++
                  ", ".intercalate ((tuples.map enclosed).map text),
                [] ++ names.flatMap parameters ++ [] ++
                  (tuples.map enclosed).flatMap parameters⟩ := rfl
          rw [hsplit, hnone, hbound, htexts, Text.enclosed]
          simp only [String.append_assoc]
          rfl
      · cases h

theorem framed_rows (columns : List String) {tuples : List (List Draft)} (h : tuples ≠ []) :
    Text.Framed (Text.enclosed columns ++ " VALUES " ++
      ", ".intercalate (tuples.map fun tuple => Text.enclosed (tuple.map text))).toList := by
  have hsome : tuples.map (List.map text) ≠ [] := by simpa using h
  obtain ⟨front, hfront⟩ := Batch.exists_intercalate_enclosed hsome
  rw [List.map_map] at hfront
  replace hfront : (", ".intercalate (tuples.map fun tuple =>
      Text.enclosed (tuple.map text))).toList = front ++ [')'] := hfront
  have hends : (Text.enclosed columns ++ " VALUES " ++
      ", ".intercalate (tuples.map fun tuple => Text.enclosed (tuple.map text))).toList =
      '(' :: ((", ".intercalate columns ++ ")" ++ " VALUES ").toList ++ front) ++ [')'] := by
    rw [String.toList_append, hfront]
    simp [Text.enclosed]
  rw [hends]
  exact .of_ends (by decide) (by decide) _

theorem assignment_eq_ok {entry : Value × Value} {piece : Draft}
    (h : assignment scope quote entry = .ok piece) :
    Wording.Assigns scope quote entry piece.text ∧
      piece.parameters = Value.boundOf [entry.2] := by
  obtain ⟨column, hcolumn, h⟩ := bind_eq_ok.1 h
  obtain ⟨value, hvalue, h⟩ := bind_eq_ok.1 h
  obtain rfl := pure_eq_ok.1 h
  obtain ⟨hname, hplain⟩ := identifier_eq_ok hcolumn
  have hstands := assigned_eq_ok.1 hvalue
  refine ⟨⟨_, _, hname, hstands, rfl⟩, ?_⟩
  have hbound : (column ++ plain " = " ++ value).parameters = value.parameters := by
    rw [hplain]
    rfl
  exact hbound.trans (parameters_of_standsAs hstands)

theorem parameters_assignments {entries : Entries} {pieces : List Draft}
    (h : List.Forall₂ (fun entry piece => piece.parameters = Value.boundOf [entry.2]) entries
      pieces) : pieces.flatMap parameters = Value.boundOf entries.values := by
  induction h with
  | nil => rfl
  | @cons entry _ rest _ hfirst _ ih =>
      have hvalues : Value.boundOf (Entries.values (entry :: rest)) =
          Value.boundOf [entry.2] ++ Value.boundOf (Entries.values rest) :=
        List.filter_append [entry.2] (Entries.values rest)
      rw [List.flatMap_cons, hfirst, ih, hvalues]

theorem framed_values {rows : List Value} {body : Draft}
    (h : values scope quote rows = .ok body) : Text.Framed body.text.toList := by
  obtain ⟨-, -, columns, tuples, -, -, hsome, rfl⟩ := values_eq_ok h
  exact framed_rows columns hsome

theorem assignments_eq_ok {entries : Entries} {body : Draft}
    (h : assignments scope quote entries = .ok body) :
    ∃ update, List.Forall₂ (Wording.Assigns scope quote) entries update ∧
      body = ⟨", ".intercalate update, Value.boundOf entries.values⟩ := by
  obtain ⟨pieces, hpieces, h⟩ := bind_eq_ok.1 h
  obtain rfl := pure_eq_ok.1 h
  have hentries := (mapM_eq_ok.1 hpieces).imp fun _ _ => assignment_eq_ok
  refine ⟨pieces.map text, ?_, ?_⟩
  · exact List.forall₂_map_right_iff.2 (hentries.imp fun _ _ => And.left)
  · rw [joined, parameters_assignments (hentries.imp fun _ _ => And.right)]

/-! ### Tails -/

/-- Assignments that are given are read, and without any there is nothing to read. -/
theorem assigns_of_truthy {update : Value} {entries : Entries} (htruthy : update.truthy = true)
    (h : Statement.assignmentEntries update = .ok entries) : Upsert.Assigns update entries := by
  obtain rfl := Statement.eq_map_of_assignmentEntries h
  refine .inr ⟨rfl, ?_⟩
  rintro rfl
  cases htruthy

theorem assignments_nil : assignments scope quote [] = .ok (plain "") := rfl

theorem duplicateTail_eq_ok {fragment : Fragment} {tail : Draft}
    (h : duplicateTail scope Identifier.backtick fragment = .ok tail) :
    ∃ entries body, Upsert.Assigns (fragment.read "update") entries ∧
      assignments scope Identifier.backtick entries = .ok body ∧
      tail = ⟨if entries.isEmpty then ""
        else
          (if entries.values.any Value.isArgument then "AS \x60row\x60 " else "") ++
            "ON DUPLICATE KEY UPDATE " ++ body.text, body.parameters⟩ := by
  rw [duplicateTail] at h
  split at h
  · next htruthy =>
      obtain ⟨entries, hentries, h⟩ := bind_eq_ok.1 h
      obtain ⟨body, hbody, h⟩ := bind_eq_ok.1 h
      have hassigns := assigns_of_truthy htruthy hentries
      refine ⟨entries, body, hassigns, hbody, ?_⟩
      rw [if_neg (by simpa using hassigns.ne_nil htruthy)]
      split at h
      · next hargument =>
          obtain rfl := pure_eq_ok.1 h
          rw [if_pos hargument]
          change Draft.mk ("AS " ++ "\x60row\x60" ++ " " ++
            ("ON DUPLICATE KEY UPDATE " ++ body.text)) _ = _
          simp only [String.append_assoc]
          rfl
      · next hargument =>
          obtain rfl := pure_eq_ok.1 h
          rw [if_neg hargument]
          rfl
  · next hempty =>
      obtain rfl := pure_eq_ok.1 h
      exact ⟨[], plain "", .inl ⟨by simpa using hempty, rfl⟩, assignments_nil, rfl⟩

theorem exists_target {fragment : Fragment} {tail : Draft}
    (h : conflictTail scope quote fragment = .ok tail) :
    ∃ columns pieces, (fragment.read "index").items = .ok columns ∧ columns ≠ [] ∧
      columns.mapM (identifier scope quote) = .ok pieces ∧
      (if (fragment.read "update").truthy then do
          let entries ← Statement.assignmentEntries (fragment.read "update")
          return plain "ON CONFLICT (" ++ joined ", " pieces ++ plain ") DO UPDATE SET " ++
            (← assignments scope quote entries)
        else return plain "ON CONFLICT (" ++ joined ", " pieces ++ plain ") DO NOTHING") =
        .ok tail := by
  rw [conflictTail] at h
  by_cases hindex : (fragment.read "index").truthy = true
  · simp only [hindex, if_true] at h
    obtain ⟨columns, hcolumns, h⟩ := bind_eq_ok.1 h
    by_cases hempty : columns.isEmpty = true
    · rw [if_pos hempty] at h
      cases h
    · rw [if_neg hempty] at h
      obtain ⟨pieces, hpieces, h⟩ := bind_eq_ok.1 h
      exact ⟨columns, pieces, hcolumns, by simpa using hempty, hpieces, h⟩
  · -- without an index there is no target, which is refused
    simp only [hindex] at h
    cases h

/-- The target binds nothing, so only what follows on it does. -/
theorem target_append {pieces : List Draft} (h : pieces.flatMap parameters = []) (rest : Draft) :
    plain "ON CONFLICT (" ++ joined ", " pieces ++ rest =
      ⟨"ON CONFLICT (" ++ ", ".intercalate (pieces.map text) ++ rest.text, rest.parameters⟩ := by
  change Draft.mk _ ([] ++ pieces.flatMap parameters ++ rest.parameters) = _
  rw [h]
  rfl

theorem conflictTail_eq_ok {fragment : Fragment} {tail : Draft}
    (h : conflictTail scope quote fragment = .ok tail) :
    ∃ columns names entries body, (fragment.read "index").items = .ok columns ∧ columns ≠ [] ∧
      List.Forall₂ (Wording.Names scope quote) columns names ∧
      Upsert.Assigns (fragment.read "update") entries ∧
      assignments scope quote entries = .ok body ∧
      tail = ⟨"ON CONFLICT " ++ Text.enclosed names ++
        if entries.isEmpty then " DO NOTHING" else " DO UPDATE SET " ++ body.text,
        body.parameters⟩ := by
  obtain ⟨columns, pieces, hcolumns, hsome, hpieces, h⟩ := exists_target h
  obtain ⟨hnames, hnone⟩ := mapM_identifier_eq_ok hpieces
  split at h
  · next htruthy =>
      obtain ⟨entries, hentries, h⟩ := bind_eq_ok.1 h
      obtain ⟨body, hbody, h⟩ := bind_eq_ok.1 h
      obtain rfl := pure_eq_ok.1 h
      have hassigns := assigns_of_truthy htruthy hentries
      refine ⟨columns, pieces.map text, entries, body, hcolumns, hsome, hnames, hassigns, hbody, ?_⟩
      rw [append_assoc, target_append hnone, if_neg (by simpa using hassigns.ne_nil htruthy)]
      simp only [Text.enclosed, String.append_assoc]
      rfl
  · next hempty =>
      obtain rfl := pure_eq_ok.1 h
      refine ⟨columns, pieces.map text, [], plain "", hcolumns, hsome, hnames,
        .inl ⟨by simpa using hempty, rfl⟩, assignments_nil, ?_⟩
      rw [target_append hnone]
      simp only [Text.enclosed, String.append_assoc]
      rfl

/-! ### Whole statements -/

/-- The statement of an insert or an upsert from its two clauses. -/
theorem whole_rows {blueprint : Blueprint} (upsert : Bool)
    (htype : blueprint.type = if upsert then .upsert else .insert) (dialect : Dialect)
    (emptying : String) (members : Except Error (List Draft)) :
    whole scope quote dialect emptying blueprint members = (do
      Statement.requireTable blueprint
      let tables ← tables scope quote "INSERT INTO" blueprint
      let rows ← inserts scope quote dialect "" upsert blueprint
      return (spaced [tables, rows]).trimmed) := by
  rw [whole, Statement.demand, clauses]
  cases upsert <;>
    simp only [htype, Bool.false_eq_true, if_true, if_false, List.mapM_cons, List.mapM_nil, id_eq,
      bind_assoc, pure_bind]

theorem tables_eq_ok (hquote : quote.Framed) {blueprint : Blueprint} {draft : Draft}
    (h : tables scope quote "INSERT INTO" blueprint = .ok draft) :
    Tokens.render quote <$> Statement.tables scope "INSERT INTO" blueprint = .ok draft.text ∧
      (∃ operand, draft.text = Text.lead "INSERT INTO" operand) ∧ draft.parameters = [] := by
  rw [tables_eq hquote] at h
  obtain ⟨tokens, htokens, rfl⟩ := map_eq_ok.1 h
  obtain ⟨pieces, -, hpieces⟩ := bind_eq_ok.1 htokens
  refine ⟨?_, ⟨(Tokens.joined ", " pieces).render quote, ?_⟩, (Carries.tables htokens).parameters⟩
  · rw [htokens]
    rfl
  · rw [Tokens.draft, ← pure_eq_ok.1 hpieces, Statement.listed, Tokens.render_headed hquote]

/-- Only what stands behind the tuples can lose blanks. -/
theorem trimmed_rows {tables body tail : Draft}
    (htables : ∃ operand, tables.text = Text.lead "INSERT INTO" operand)
    (hbody : Text.Framed body.text.toList) :
    (spaced [tables, spaced [body, tail]]).trimmed =
      ⟨Text.beside tables.text body.text ++ Text.ending tail.text,
        tables.parameters ++ (body.parameters ++ tail.parameters)⟩ := by
  obtain ⟨operand, hoperand⟩ := htables
  have hkeyword : Text.Framed "INSERT INTO".toList := by decide
  have htext : (spaced [tables, spaced [body, tail]]).trimmed.text =
      Text.beside tables.text body.text ++ Text.ending tail.text := by
    rw [trimmed, text_spaced, text_spaced, hoperand, Text.trim_beside hkeyword hbody]
  have hparameters : (spaced [tables, spaced [body, tail]]).trimmed.parameters =
      tables.parameters ++ (body.parameters ++ tail.parameters) := by
    simp [trimmed, spaced]
  rw [← htext, ← hparameters]

end Draft

namespace Store

variable (store : Store) {blueprint : Blueprint} {compiler : Compiler}

theorem requireTable_withType {answer : Unit} (h : Statement.requireTable blueprint = .ok answer)
    (type : StatementType) : Statement.requireTable (blueprint.withType type) = .ok () := by
  rw [Statement.requireTable] at h ⊢
  split at h
  · next htables => exact if_pos htables
  · cases h

theorem compile_eq_whole (hquote : compiler.quote.Framed) (blueprint : Blueprint) :
    ∃ members, store.compile compiler blueprint =
      (fun draft => ⟨draft.text, draft.parameters, compiler.dialect⟩) <$>
        Draft.whole store.scope compiler.quote compiler.dialect compiler.emptying blueprint
          members := by
  refine ⟨Draft.membersOf store.scope compiler.quote compiler.dialect compiler.emptying
    (store.snapshot blueprint).members, ?_⟩
  rw [compile, ← Compiler.writeOut_eq_compile hquote, Compiler.writeOut, map_eq_pure_bind]
  rfl

/-- An upsert that can be compiled is the insert of its rows with a tail. -/
theorem compile_upsert (hquote : compiler.quote.Framed) (htype : blueprint.type = .upsert)
    {compiled : Compiled} (h : store.compile compiler blueprint = .ok compiled) :
    ∃ fragment rows tables body tail, blueprint.first? .insert = some fragment ∧
      Statement.rowsOf (fragment.read "insert") = .ok rows ∧
      Draft.tables store.scope compiler.quote "INSERT INTO" blueprint = .ok tables ∧
      Draft.values store.scope compiler.quote rows = .ok body ∧
      Draft.upsertTail store.scope compiler.quote compiler.dialect fragment = .ok tail ∧
      compiled = ⟨Text.beside tables.text body.text ++ Text.ending tail.text,
        body.parameters ++ tail.parameters, compiler.dialect⟩ ∧
      store.compile compiler (blueprint.withType .insert) =
        .ok ⟨Text.beside tables.text body.text, body.parameters, compiler.dialect⟩ := by
  obtain ⟨members, hwhole⟩ := store.compile_eq_whole hquote blueprint
  rw [hwhole, Draft.whole_rows true htype] at h
  obtain ⟨draft, hdraft, rfl⟩ := map_eq_ok.1 h
  obtain ⟨_, hdemand, hdraft⟩ := bind_eq_ok.1 hdraft
  obtain ⟨tables, htables, hdraft⟩ := bind_eq_ok.1 hdraft
  obtain ⟨inserts, hinserts, hdraft⟩ := bind_eq_ok.1 hdraft
  obtain rfl := pure_eq_ok.1 hdraft
  cases hfirst : blueprint.first? .insert with
  | none =>
      rw [Draft.inserts, hfirst] at hinserts
      cases hinserts
  | some fragment =>
      simp only [Draft.inserts, hfirst, if_true] at hinserts
      obtain ⟨rows, hrows, hinserts⟩ := bind_eq_ok.1 hinserts
      obtain ⟨body, hbody, hinserts⟩ := bind_eq_ok.1 hinserts
      obtain ⟨tail, htail, hinserts⟩ := bind_eq_ok.1 hinserts
      obtain rfl := pure_eq_ok.1 hinserts
      obtain ⟨-, hlead, hnone⟩ := Draft.tables_eq_ok hquote htables
      have hframed := Draft.framed_values hbody
      refine ⟨fragment, rows, tables, body, tail, rfl, hrows, htables, hbody, htail, ?_, ?_⟩
      · rw [Draft.headed_empty, Draft.trimmed_rows hlead hframed, hnone]
        rfl
      · -- the insert has the same clauses, but no tail
        obtain ⟨others, hplain⟩ := store.compile_eq_whole hquote (blueprint.withType .insert)
        have hsame : Draft.tables store.scope compiler.quote "INSERT INTO"
            (blueprint.withType .insert) = .ok tables := htables
        have hfragment : (blueprint.withType .insert).first? .insert = some fragment := hfirst
        rw [hplain, Draft.whole_rows false rfl, requireTable_withType hdemand, ok_bind, hsame,
          ok_bind, Draft.inserts, hfragment]
        simp only [hrows, hbody, ok_bind, Bool.false_eq_true, if_false, pure_bind]
        have hbare : Draft.headed "" body = Draft.spaced [body, Draft.plain ""] := by
          rw [Draft.headed_empty, Draft.spaced_empty]
        rw [hbare, Draft.trimmed_rows hlead hframed, hnone]
        change Except.ok (Compiled.mk (_ ++ "") ([] ++ (_ ++ [])) _) = _
        rw [String.append_empty, List.nil_append, List.append_nil]

theorem exists_wording {fragment : Fragment} {rows : List Value}
    {tables body duplicate conflict : Draft}
    (htables : Draft.tables store.scope Identifier.backtick "INSERT INTO" blueprint = .ok tables)
    (hrows : Statement.rowsOf (fragment.read "insert") = .ok rows)
    (hbody : Draft.values store.scope Identifier.backtick rows = .ok body)
    (hduplicate : Draft.duplicateTail store.scope Identifier.backtick fragment = .ok duplicate)
    (hconflict : Draft.conflictTail store.scope Identifier.backtick fragment = .ok conflict) :
    ∃ (upsert : Upsert) (wording : Wording), upsert.Reads fragment ∧
      wording.Writes store.scope Identifier.backtick blueprint upsert ∧
      Text.beside tables.text body.text = wording.front ∧
      body.parameters = Value.boundOf upsert.grid.rows.flatten ∧
      duplicate = ⟨wording.duplicate upsert, Value.boundOf upsert.update.values⟩ ∧
      conflict = ⟨wording.conflict upsert, Value.boundOf upsert.update.values⟩ := by
  obtain ⟨hwritten, -, -⟩ := Draft.tables_eq_ok Identifier.framed_backtick htables
  obtain ⟨grid, hgrid, columns, tuples, hcolumns, htuples, -, rfl⟩ := Draft.values_eq_ok hbody
  obtain ⟨entries, assigned, hassigns, hassigned, rfl⟩ := Draft.duplicateTail_eq_ok hduplicate
  obtain ⟨target, names, others, again, htarget, hsome, hnames, hothers, hagain, rfl⟩ :=
    Draft.conflictTail_eq_ok hconflict
  obtain rfl := hassigns.unique hothers
  obtain rfl := Except.ok.inj (hassigned.symm.trans hagain)
  obtain ⟨update, hupdate, rfl⟩ := Draft.assignments_eq_ok hassigned
  exact ⟨⟨grid, target, entries⟩, ⟨tables.text, columns, tuples, names, update⟩,
    ⟨⟨rows, hrows, hgrid⟩, ⟨htarget, hsome⟩, hassigns⟩,
    ⟨hwritten, hcolumns, htuples, hnames, hupdate⟩, rfl, rfl, rfl, rfl⟩

end Store

/-- The dialects part at upserts and at the emptying of a table only. A statement that includes
neither, in its unions or theirs, has the same text and the same parameters in both, or fails with
the same error. If an upsert can be compiled in both, its texts have the same front, which is what
they compile the insert of the same rows to: the tables, the columns of the first row and a tuple
for each row. MySQL goes on with the assignments if there are any, and names the incoming row if and
only if an argument is assigned; SQLite goes on with the columns whose collision is meant and the
same assignments, or with DO NOTHING if there are none. Both bind the values of the rows, row by
row, and then those that are assigned. -/
theorem Store.dialects_agree (store : Store) (blueprint : Blueprint) :
    ((∀ member, store.Includes blueprint member → member.type.Common) →
      Related (fun mysql sqlite => mysql.sql = sqlite.sql ∧ mysql.parameters = sqlite.parameters)
        (store.compile .mysql blueprint) (store.compile .sqlite blueprint)) ∧
    (blueprint.type = .upsert → ∀ duplicate conflict,
      store.compile .mysql blueprint = .ok duplicate →
      store.compile .sqlite blueprint = .ok conflict →
      ∃ (fragment : Fragment) (upsert : Upsert) (wording : Wording),
        blueprint.first? .insert = some fragment ∧ upsert.Reads fragment ∧
        wording.Writes store.scope Identifier.backtick blueprint upsert ∧
        (∀ compiler ∈ [Compiler.mysql, Compiler.sqlite],
          store.compile compiler (blueprint.withType .insert) =
            .ok ⟨wording.front, Value.boundOf upsert.grid.rows.flatten, compiler.dialect⟩) ∧
        duplicate.sql = wording.front ++ Text.ending (wording.duplicate upsert) ∧
        conflict.sql = wording.front ++ Text.ending (wording.conflict upsert) ∧
        duplicate.parameters = upsert.bound ∧ conflict.parameters = upsert.bound) := by
  have hbacktick : Compiler.mysql.quote.Framed := Identifier.framed_backtick
  have hother : Compiler.sqlite.quote.Framed := Identifier.framed_backtick
  refine ⟨compile_common rfl, fun htype duplicate conflict hduplicate hconflict => ?_⟩
  obtain ⟨fragment, rows, tables, body, tail, hfragment, hrows, htables, hbody, htail, rfl,
    hmysql⟩ := store.compile_upsert hbacktick htype hduplicate
  obtain ⟨other, others, same, again, ending, hfirst, hothers, hsame, hagain, hending, rfl,
    hsqlite⟩ := store.compile_upsert hother htype hconflict
  obtain rfl := Option.some.inj (hfragment.symm.trans hfirst)
  obtain rfl := Except.ok.inj (hrows.symm.trans hothers)
  obtain rfl := Except.ok.inj (htables.symm.trans hsame)
  obtain rfl := Except.ok.inj (hbody.symm.trans hagain)
  obtain ⟨upsert, wording, hreads, hwrites, hfront, hbound, rfl, rfl⟩ :=
    store.exists_wording htables hrows hbody htail hending
  refine ⟨fragment, upsert, wording, hfragment, hreads, hwrites, ?_, ?_, ?_, ?_, ?_⟩
  · rw [← hfront, ← hbound]
    exact List.forall_mem_cons.2 ⟨hmysql, List.forall_mem_singleton.2 hsqlite⟩
  · rw [hfront]
  · rw [hfront]
  · rw [hbound, Upsert.bound]
  · rw [hbound, Upsert.bound]

namespace Dialects

/-- A select with a condition that unites the query before it. -/
def selection (table : String) (before : Nat) : Query :=
  ((Query.new 0 .sqlite Options.standard).setTable (.text table) (.text "")).addUnion
    (.query before)

def store : Store :=
  ⟨#[((Query.new 0 .mysql Options.standard).setTable (.text "t") (.text "")).addUnion (.int 7),
    (Query.new 0 .mysql Options.standard).setTable (.text "u") (.text ""), selection "v" 1], #[]⟩

/-- Two rows with their columns in different orders, one value and one assignment an argument. -/
def upsert : Blueprint :=
  ((Batch.target.add .insert
    [("insert", .list (Batch.mixed.rows.map Row.toValue)),
      ("update", .map [(.text "a", .int 5), (.text "b", .column "row.b")]),
      ("index", .list [.text "a"])]).withType .upsert).blueprint

def front : String :=
  "INSERT INTO \x60t\x60 (\x60b\x60, \x60a\x60) VALUES (NOW(), ?), (?, ?)"

def assignments : String :=
  "\x60a\x60 = ?, \x60b\x60 = \x60row\x60.\x60b\x60"

end Dialects

open Dialects in
theorem Store.dialects_agree_uniting :
    (∃ mysql sqlite, store.compile .mysql (selection "w" 2).blueprint = .ok mysql ∧
      store.compile .sqlite (selection "w" 2).blueprint = .ok sqlite ∧
      mysql.sql = sqlite.sql ∧ mysql.parameters = sqlite.parameters) ∧
    (∃ cause, store.compile .mysql (selection "w" 0).blueprint = .error cause ∧
      store.compile .sqlite (selection "w" 0).blueprint = .error cause) ∧
    ∃ duplicate conflict wording parameters,
      store.compile .mysql upsert = .ok duplicate ∧
      store.compile .sqlite upsert = .ok conflict ∧
      Wording.front wording = front ∧
      duplicate.sql = front ++ " AS \x60row\x60 ON DUPLICATE KEY UPDATE " ++ assignments ∧
      conflict.sql = front ++ " ON CONFLICT (\x60a\x60) DO UPDATE SET " ++ assignments ∧
      duplicate.parameters = parameters ∧ conflict.parameters = parameters := by
  have hcommon : ∀ before member,
      store.Includes (selection "w" before).blueprint member → member.type.Common := by
    intro before member h
    have hstore : ∀ blueprint ∈ store.blueprints, blueprint.type.Common := by decide
    rcases h.mem_blueprints with rfl | hmem
    · exact ⟨StatementType.noConfusion, StatementType.noConfusion⟩
    · exact hstore member hmem
  refine ⟨?_, ?_, ?_⟩
  · have hsql : (store.compile .mysql (selection "w" 2).blueprint).toOption.map Compiled.sql =
        some ("SELECT * FROM \x60w\x60 UNION SELECT * FROM \x60v\x60 " ++
          "UNION SELECT * FROM \x60u\x60") := by
      decide +kernel
    obtain ⟨mysql, hmysql, -⟩ := toOption_map_eq_some.1 hsql
    obtain ⟨sqlite, hsqlite, hsame⟩ :=
      ((Store.dialects_agree store _).1 (hcommon 2)).exists_ok hmysql
    exact ⟨mysql, sqlite, hmysql, hsqlite, hsame⟩
  · have hrelated := (Store.dialects_agree store _).1 (hcommon 0)
    have hnone : (store.compile .mysql (selection "w" 0).blueprint).toOption.map Compiled.sql =
        none := by
      decide +kernel
    generalize store.compile .mysql (selection "w" 0).blueprint = mysql,
      store.compile .sqlite (selection "w" 0).blueprint = sqlite at hrelated hnone ⊢
    cases hrelated with
    | ok _ => cases hnone
    | error cause => exact ⟨cause, rfl, rfl⟩
  · have hduplicate : store.compile .mysql upsert =
        .ok ⟨front ++ " AS \x60row\x60 ON DUPLICATE KEY UPDATE " ++ assignments,
          [.list [.int 1, .int 2], .text "x", .int 3, .int 5], .mysql⟩ := rfl
    have hconflict : store.compile .sqlite upsert =
        .ok ⟨front ++ " ON CONFLICT (\x60a\x60) DO UPDATE SET " ++ assignments,
          [.list [.int 1, .int 2], .text "x", .int 3, .int 5], .sqlite⟩ := rfl
    have hplain : (store.compile .mysql (upsert.withType .insert)).toOption.map Compiled.sql =
        some front := by
      decide +kernel
    obtain ⟨fragment, parts, wording, -, -, -, hinsert, -, -, hfirst, hsecond⟩ :=
      (Store.dialects_agree store _).2 rfl _ _ hduplicate hconflict
    obtain ⟨plain, hfront, htext⟩ := toOption_map_eq_some.1 hplain
    have hwording := hfront.symm.trans (hinsert .mysql List.mem_cons_self)
    obtain rfl := Except.ok.inj hwording
    exact ⟨_, _, wording, parts.bound, hduplicate, hconflict, htext, rfl, rfl, hfirst, hsecond⟩

end SqlBuilder
