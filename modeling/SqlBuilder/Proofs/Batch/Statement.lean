import SqlBuilder.Proofs.Batch
import SqlBuilder.Proofs.Command
import SqlBuilder.Proofs.Inlining.Statement

/-!
# Inserting a batch

An insert and an upsert replace the data of the query and are built from it. If all rows of the
batch have the columns of the first, in whatever order, the statement is the tables, the columns of
the first row, for each row a tuple with what stands for its value under each column, and the tail
of an upsert; its parameters are the values that are bound, row by row, and behind them those of the
assignments. It cannot be built just if there is an argument in one of these places that has no
text, or no tail. If a row has other columns, the first such row is refused under its number.
-/

namespace SqlBuilder

open Outcome

/-! ### The text around the tuples -/

namespace Text

def enclosed (texts : List String) : String :=
  "(" ++ ", ".intercalate texts ++ ")"

/-- What stands at the end of a statement, behind a blank. -/
def ending (tail : String) : String :=
  String.ofList (trimEnd (" " ++ tail).toList)

theorem beside_eq_intercalate (front back : String) :
    " ".intercalate ([front, back].filter fun text => !text.isEmpty) = beside front back := by
  by_cases hfront : front = ""
  · by_cases hback : back = "" <;> simp [beside, hfront, hback]
  · by_cases hback : back = "" <;> simp [beside, hfront, hback, String.append_assoc]

theorem trimStart_beside {keyword body : String} (hkeyword : Framed keyword.toList)
    (hbody : Framed body.toList) (operand : String) (rest : List Char) :
    trimStart ((beside (lead keyword operand) body).toList ++ rest) =
      (beside (lead keyword operand) body).toList ++ rest := by
  have hkept : body ≠ "" := fun h => hbody.nonempty (String.toList_eq_nil_iff.2 h)
  by_cases hoperand : operand = ""
  · rw [hoperand, lead_empty, empty_beside, hbody.trimStart_append]
  · have hempty : keyword ≠ "" := fun h => hkeyword.nonempty (String.toList_eq_nil_iff.2 h)
    have hlead : lead keyword operand = keyword ++ " " ++ operand := by
      rw [lead, if_neg hoperand, if_neg hempty]
    have hshown : lead keyword operand ≠ "" := by
      rw [hlead]
      simp
    rw [beside, if_neg hshown, if_neg hkept, hlead]
    simp only [String.toList_append, List.append_assoc]
    exact hkeyword.trimStart_append _

theorem trimEnd_beside {body : String} (hbody : Framed body.toList) (front : String) :
    trimEnd (beside front body).toList = (beside front body).toList := by
  have hkept : body ≠ "" := fun h => hbody.nonempty (String.toList_eq_nil_iff.2 h)
  by_cases hfront : front = ""
  · rw [hfront, empty_beside, hbody.finish]
  · rw [beside, if_neg hfront, if_neg hkept, String.toList_append]
    exact hbody.trimEnd_append _

/-- Blanks are lost only at the end of what stands behind a text without blanks at its ends. -/
theorem trim_beside {keyword body : String} (hkeyword : Framed keyword.toList)
    (hbody : Framed body.toList) (operand tail : String) :
    String.ofList (trim (beside (lead keyword operand) (beside body tail)).toList) =
      beside (lead keyword operand) body ++ ending tail := by
  have hkept : beside (lead keyword operand) body ≠ "" := by
    intro h
    have hinfix := infix_beside_right (lead keyword operand) body
    rw [h] at hinfix
    exact hbody.nonempty (List.infix_nil.1 hinfix)
  apply String.toList_injective
  rw [← beside_assoc, String.toList_ofList, String.toList_append, ending, String.toList_ofList,
    trim]
  by_cases htail : tail = ""
  · have hstart := trimStart_beside hkeyword hbody operand []
    rw [List.append_nil] at hstart
    rw [htail, beside_empty, hstart, trimEnd_beside hbody]
    exact (List.append_nil _).symm
  · have hstart := trimStart_beside hkeyword hbody operand (" " ++ tail).toList
    rw [beside, if_neg hkept, if_neg htail, String.append_assoc, String.toList_append, hstart,
      trimEnd_append]
    split
    · next hblank => rw [hblank, List.append_nil, trimEnd_beside hbody]
    · rfl

end Text

/-! ### Tuples and tails -/

/-- What stands for a value in a tuple: an argument is written and any other value is bound. -/
inductive Value.StandsAs (scope : Scope) (quote : Quoting) : Value → Draft → Prop where
  | written {value : Value} {text : String} (hargument : value.isArgument = true)
      (h : value.sql scope quote = .ok text) : StandsAs scope quote value (.plain text)
  | bound {value : Value} (h : value.isArgument = false) :
      StandsAs scope quote value (.placeholder value)

/-- What stands for the values of a row, column by column. -/
def Row.Written (scope : Scope) (quote : Quoting) (columns : List String) (row : Row)
    (tuple : List Draft) : Prop :=
  List.Forall₂ (fun column piece => ∃ value, row.value? column = some value ∧
    value.StandsAs scope quote piece) columns tuple

namespace Batch

/-- What stands for the values of each row under the columns of the first one. -/
def Written (scope : Scope) (quote : Quoting) (batch : Batch) (tuples : List (List Draft)) :
    Prop :=
  List.Forall₂ (Row.Written scope quote batch.columns) batch.rows tuples

/-- The columns and the tuples as text. -/
def text (quote : Quoting) (batch : Batch) (tuples : List (List Draft)) : String :=
  Text.enclosed (batch.columns.map (Draft.listed quote)) ++ " VALUES " ++
    ", ".intercalate (tuples.map fun tuple => Text.enclosed (tuple.map Draft.text))

/-- The values that are bound, row by row. -/
def bound (batch : Batch) : List Value :=
  batch.rows.flatMap fun row =>
    (row.values batch.columns).filter fun value => !value.isArgument

end Batch

/-- An insert, or an upsert with the assignments for rows that are already there and the columns
whose collision is meant. -/
inductive Insertion where
  | insert
  | upsert (update : Entries) (index : List Value)

namespace Insertion

variable {κ σ : Type}

def type : Insertion → StatementType
  | insert => .insert
  | upsert .. => .upsert

/-- What the query is given besides the rows. -/
def options : Insertion → List (String × Value)
  | insert => []
  | upsert update index => [("update", .map update), ("index", .list index)]

/-- The command that inserts some data. -/
def command (insertion : Insertion) (data : Value) : Command where
  type := insertion.type
  data := some (.insert, do
    let rows ← Query.insertRows data
    return ("insert", .list rows) :: insertion.options)
  single := none

/-- What an upsert compiles to behind the tuples. -/
def tail (scope : Scope) (dialect : Dialect) (insertion : Insertion) : Except Error Tokens :=
  match insertion with
  | insert => .ok []
  | upsert .. => Statement.upsertTail scope dialect (Fragment.of insertion.options)

/-- The values that are assigned to rows that are already there, as far as they are bound. -/
def bound : Insertion → List Value
  | insert => []
  | upsert update _ => update.values.filter fun value => !value.isArgument

/-- The query with some rows to insert. -/
def fill (insertion : Insertion) (rows : List Value) (query : Query) : Query :=
  ((query.reset .insert).add .insert (("insert", .list rows) :: insertion.options)).withType
    insertion.type

theorem prepare_command (insertion : Insertion) {data : Value} {rows : List Value}
    (h : Query.insertRows data = .ok rows) (query : Query) :
    (insertion.command data).prepare query = (.ok (), insertion.fill rows query) := by
  rw [command, Command.prepare, h]
  rfl

end Insertion

/-! ### What the tokens of a batch read as -/

namespace Draft

variable {scope : Scope} {quote : Quoting}

theorem assigned_eq_ok {value : Value} {piece : Draft} :
    assigned scope quote value = .ok piece ↔ value.StandsAs scope quote piece := by
  rw [assigned]
  constructor
  · intro h
    split at h
    · next hargument =>
        obtain ⟨text, htext, rfl⟩ := map_eq_ok.1 h
        exact .written hargument (Value.sql_eq_written scope quote value ▸ htext)
    · next hplain =>
        obtain rfl := Except.ok.inj h
        exact .bound (by simpa using hplain)
  · intro h
    cases h with
    | written hargument htext =>
        rw [if_pos hargument, ← Value.sql_eq_written, htext]
        rfl
    | bound hplain => rw [if_neg (by simp [hplain])]

/-- What stands for the values of a row stands under its columns. -/
theorem forall₂_values {row : Row} {columns : List String}
    (h : ∀ column ∈ columns, column ∈ row.names) {pieces : List Draft} :
    List.Forall₂ (Value.StandsAs scope quote) (row.values columns) pieces ↔
      row.Written scope quote columns pieces := by
  induction columns generalizing pieces with
  | nil => simp [Row.values, Row.Written]
  | cons column rest ih =>
      obtain ⟨hcolumn, hrest⟩ := List.forall_mem_cons.1 h
      obtain ⟨value, hvalue⟩ := Row.exists_value? hcolumn
      have hvalues : row.values (column :: rest) = value :: row.values rest := by
        simp [Row.values, hvalue]
      rw [Row.Written, hvalues, List.forall₂_cons_left_iff, List.forall₂_cons_left_iff]
      simp only [ih hrest, Row.Written, hvalue, Option.some.injEq, exists_eq_left']

variable {batch : Batch}

theorem tuple_eq_ok {row : Row} (h : batch.Fits row) {draft : Draft} :
    tuple scope quote (row.values batch.columns) = .ok draft ↔
      ∃ pieces, row.Written scope quote batch.columns pieces ∧ enclosed pieces = draft := by
  rw [tuple, map_eq_ok]
  simp only [mapM_eq_ok, assigned_eq_ok, forall₂_values fun _ => h.mem_names]

theorem mapM_tuple_eq_ok {rows : List Row} (h : ∀ row ∈ rows, batch.Fits row)
    {drafts : List Draft} :
    (rows.mapM fun row => tuple scope quote (row.values batch.columns)) = .ok drafts ↔
      ∃ tuples, List.Forall₂ (Row.Written scope quote batch.columns) rows tuples ∧
        tuples.map enclosed = drafts := by
  rw [mapM_eq_ok]
  induction rows generalizing drafts with
  | nil => simp
  | cons row rest ih =>
      obtain ⟨hrow, hrest⟩ := List.forall_mem_cons.1 h
      rw [List.forall₂_cons_left_iff]
      constructor
      · rintro ⟨first, others, hfirst, hothers, rfl⟩
        obtain ⟨pieces, hpieces, rfl⟩ := (tuple_eq_ok hrow).1 hfirst
        obtain ⟨tuples, htuples, rfl⟩ := (ih hrest).1 hothers
        exact ⟨pieces :: tuples, .cons hpieces htuples, rfl⟩
      · rintro ⟨tuples, htuples, rfl⟩
        obtain ⟨pieces, later, hpieces, hlater, rfl⟩ := List.forall₂_cons_left_iff.1 htuples
        exact ⟨_, _, (tuple_eq_ok hrow).2 ⟨pieces, hpieces, rfl⟩,
          (ih hrest).2 ⟨later, hlater, rfl⟩, rfl⟩

theorem exists_mapM_tuple (columns : List String) {rows : List Row}
    (h : ∀ row ∈ rows, ∀ cell ∈ row.cells, ∃ piece, cell.2.StandsAs scope quote piece) :
    ∃ drafts, (rows.mapM fun row => tuple scope quote (row.values columns)) = .ok drafts := by
  have hrow : ∀ row ∈ rows, ∃ draft, tuple scope quote (row.values columns) = .ok draft ∧
      True := by
    intro row hmem
    have hvalue : ∀ value ∈ row.values columns,
        ∃ piece, assigned scope quote value = .ok piece ∧ True := by
      intro value hvalue
      obtain ⟨cell, hcell, rfl⟩ := Row.mem_cells_of_mem_values hvalue
      obtain ⟨piece, hpiece⟩ := h row hmem cell hcell
      exact ⟨piece, assigned_eq_ok.2 hpiece, trivial⟩
    obtain ⟨pieces, hpieces, -⟩ := exists_mapM hvalue
    exact ⟨enclosed pieces, by rw [tuple, hpieces]; rfl, trivial⟩
  obtain ⟨drafts, hdrafts, -⟩ := exists_mapM hrow
  exact ⟨drafts, hdrafts⟩

theorem text_valuesOf (quote : Quoting) (batch : Batch) (tuples : List (List Draft)) :
    (valuesOf quote batch.columns (tuples.map enclosed)).text = batch.text quote tuples := by
  have hcolumns : (batch.columns.map fun name => plain (listed quote name)).map text =
      batch.columns.map (listed quote) := by
    rw [List.map_map]
    rfl
  have htuples : (tuples.map enclosed).map text =
      tuples.map fun tuple => Text.enclosed (tuple.map text) := by
    rw [List.map_map]
    rfl
  change "(" ++ ", ".intercalate (List.map text _) ++ ") VALUES " ++
    ", ".intercalate (List.map text _) = _
  rw [hcolumns, htuples, Batch.text, Text.enclosed]
  simp only [String.append_assoc]
  rfl

/-! ### What a batch binds -/

theorem parameters_of_standsAs {value : Value} {piece : Draft}
    (h : value.StandsAs scope quote piece) :
    piece.parameters = [value].filter fun value => !value.isArgument := by
  cases h with
  | written hargument _ => simp [plain, hargument]
  | bound hplain => simp [placeholder, hplain]

theorem flatMap_parameters {values : List Value} {pieces : List Draft}
    (h : List.Forall₂ (Value.StandsAs scope quote) values pieces) :
    pieces.flatMap parameters = values.filter fun value => !value.isArgument := by
  induction h with
  | nil => rfl
  | cons hfirst _ ih =>
      rw [List.flatMap_cons, parameters_of_standsAs hfirst, ih, ← List.filter_append,
        List.singleton_append]

theorem parameters_tuples {rows : List Row} (h : ∀ row ∈ rows, batch.Fits row)
    {tuples : List (List Draft)}
    (htuples : List.Forall₂ (Row.Written scope quote batch.columns) rows tuples) :
    (tuples.flatMap fun tuple => (enclosed tuple).parameters) =
      rows.flatMap fun row =>
        (row.values batch.columns).filter fun value => !value.isArgument := by
  induction htuples with
  | nil => rfl
  | @cons row tuple _ _ hfirst _ ih =>
      obtain ⟨hrow, hrest⟩ := List.forall_mem_cons.1 h
      have hvalues := (forall₂_values fun _ => hrow.mem_names).2 hfirst
      have henclosed : (enclosed tuple).parameters = tuple.flatMap parameters :=
        List.append_nil _
      rw [List.flatMap_cons, List.flatMap_cons, henclosed, flatMap_parameters hvalues, ih hrest]

theorem parameters_valuesOf (h : batch.Even) {tuples : List (List Draft)}
    (htuples : batch.Written scope quote tuples) :
    (valuesOf quote batch.columns (tuples.map enclosed)).parameters = batch.bound := by
  have hcolumns : (batch.columns.map fun name => plain (listed quote name)).flatMap parameters =
      [] := by
    rw [List.flatMap_map]
    exact List.flatMap_eq_nil_iff.2 fun _ _ => rfl
  have hsplit : (valuesOf quote batch.columns (tuples.map enclosed)).parameters =
      (batch.columns.map fun name => plain (listed quote name)).flatMap parameters ++ [] ++
        (tuples.map enclosed).flatMap parameters := rfl
  rw [hsplit, hcolumns, List.nil_append, List.nil_append, List.flatMap_map,
    parameters_tuples h htuples, Batch.bound]

end Draft

/-! ### The whole statement -/

namespace Draft

theorem text_spaced (front back : Draft) :
    (spaced [front, back]).text = Text.beside front.text back.text := by
  exact Text.beside_eq_intercalate front.text back.text

theorem headed_empty (body : Draft) : headed "" body = body := by
  by_cases h : body.text = ""
  · simp [headed, Text.lead, ← h]
  · simp [headed, Text.lead, h]

theorem spaced_empty (body : Draft) : spaced [body, plain ""] = body := by
  have htext : (spaced [body, plain ""]).text = body.text := by
    rw [text_spaced]
    exact Text.beside_empty body.text
  have hparameters : (spaced [body, plain ""]).parameters = body.parameters := by
    simp [spaced, plain]
  calc spaced [body, plain ""]
      = ⟨(spaced [body, plain ""]).text, (spaced [body, plain ""]).parameters⟩ := rfl
    _ = body := by rw [htext, hparameters]

/-- What an upsert reads for its tail does not depend on its rows. -/
theorem upsertTail_congr {fragment other : Fragment}
    (hupdate : fragment.read "update" = other.read "update")
    (hindex : fragment.read "index" = other.read "index") (scope : Scope) (dialect : Dialect) :
    Statement.upsertTail scope dialect fragment = Statement.upsertTail scope dialect other := by
  cases dialect with
  | mysql =>
      simp only [Statement.upsertTail, Statement.duplicateTail, hupdate]
  | sqlite =>
      simp only [Statement.upsertTail, Statement.conflictTail, hupdate, hindex]

end Draft

namespace Insertion

variable {scope : Scope} {quote : Quoting} {dialect : Dialect} (insertion : Insertion)
  (rows : List Value) (query : Query)

theorem first?_fill : (insertion.fill rows query).blueprint.first? .insert =
    some (Fragment.of (("insert", .list rows) :: insertion.options)) := by
  simp [fill, Blueprint.first?]

theorem fragments_fill {clause : Clause} (h : clause ≠ .insert) :
    (insertion.fill rows query).blueprint.fragments clause = query.blueprint.fragments clause := by
  simp [fill, h.symm]

theorem tables_fill (keyword : String) :
    Draft.tables scope quote keyword (insertion.fill rows query).blueprint =
      Draft.tables scope quote keyword query.blueprint := by
  rw [Draft.tables, Draft.tables, Draft.listing, Draft.listing, fragments_fill _ _ _ (by decide)]

theorem read_insert :
    (Fragment.of (("insert", .list rows) :: insertion.options)).read "insert" = .list rows := rfl

theorem inserts_fill :
    Draft.inserts scope quote dialect "" (insertion.type == .upsert)
        (insertion.fill rows query).blueprint = (do
      let body ← Draft.values scope quote rows
      let tail ← Tokens.draft quote <$> insertion.tail scope dialect
      return Draft.spaced [body, tail]) := by
  have hrows : Statement.rowsOf (.list rows) = .ok rows := rfl
  rw [Draft.inserts, first?_fill]
  dsimp only
  rw [read_insert, hrows, ok_bind]
  cases insertion with
  | insert =>
      have htail : Tokens.draft quote <$> tail scope dialect .insert = .ok (Draft.plain "") :=
        congrArg Except.ok Tokens.draft_nil
      rw [htail]
      refine bind_congr fun body => ?_
      rw [ok_bind, Draft.spaced_empty]
      exact congrArg pure (Draft.headed_empty body)
  | upsert update index =>
      have htail : Draft.upsertTail scope quote dialect
          (Fragment.of (("insert", .list rows) :: (upsert update index).options)) =
          Tokens.draft quote <$> (upsert update index).tail scope dialect := by
        rw [Draft.upsertTail_eq]
        exact congrArg _ (Draft.upsertTail_congr rfl rfl scope dialect)
      refine bind_congr fun body => ?_
      rw [htail]
      refine bind_congr fun tail => ?_
      rw [Draft.headed_empty]

theorem whole_fill (htables : query.blueprint.has .tables = true) (emptying : String)
    (members : Except Error (List Draft)) :
    Draft.whole scope quote dialect emptying (insertion.fill rows query).blueprint members = (do
      let tables ← Draft.tables scope quote "INSERT INTO" query.blueprint
      let body ← Draft.values scope quote rows
      let tail ← Tokens.draft quote <$> insertion.tail scope dialect
      return (Draft.spaced [tables, Draft.spaced [body, tail]]).trimmed) := by
  have hdemand : Statement.demand (insertion.fill rows query).blueprint = .ok () := by
    have hhas : (insertion.fill rows query).blueprint.has .tables = true := by
      rw [Blueprint.has, fragments_fill _ _ _ (by decide)]
      exact htables
    cases insertion <;> exact if_pos hhas
  have hclauses : Draft.clauses scope quote dialect emptying
      (insertion.fill rows query).blueprint members =
      [Draft.tables scope quote "INSERT INTO" query.blueprint,
        Draft.inserts scope quote dialect "" (insertion.type == .upsert)
          (insertion.fill rows query).blueprint] := by
    rw [← tables_fill insertion rows query]
    cases insertion <;> rfl
  rw [Draft.whole, hdemand, ok_bind, hclauses, inserts_fill]
  simp only [List.mapM_cons, List.mapM_nil, id_eq, bind_assoc, pure_bind]

end Insertion

namespace Batch

theorem exists_intercalate_enclosed {tuples : List (List String)} (h : tuples ≠ []) :
    ∃ front, (", ".intercalate (tuples.map Text.enclosed)).toList = front ++ [')'] := by
  induction tuples with
  | nil => exact absurd rfl h
  | cons tuple rest ih =>
      cases rest with
      | nil =>
          refine ⟨'(' :: (", ".intercalate tuple).toList, ?_⟩
          simp [Text.enclosed]
      | cons next others =>
          obtain ⟨front, hfront⟩ := ih (by simp)
          rw [List.map_cons, List.map_cons, String.intercalate_cons_cons, ← List.map_cons,
            String.toList_append, hfront]
          exact ⟨_, (List.append_assoc ..).symm⟩

theorem framed_text {scope : Scope} {quote : Quoting} {batch : Batch}
    {tuples : List (List Draft)} (h : batch.Written scope quote tuples) :
    Text.Framed (batch.text quote tuples).toList := by
  have hsome : tuples.map (List.map Draft.text) ≠ [] := by
    cases h
    simp
  obtain ⟨front, hfront⟩ := exists_intercalate_enclosed hsome
  rw [List.map_map] at hfront
  replace hfront : (", ".intercalate (tuples.map fun tuple =>
      Text.enclosed (tuple.map Draft.text))).toList = front ++ [')'] := hfront
  have htext : (batch.text quote tuples).toList =
      '(' :: ((", ".intercalate (batch.columns.map (Draft.listed quote)) ++ ")" ++
        " VALUES ").toList ++ front) ++ [')'] := by
    rw [text, String.toList_append, hfront]
    simp [Text.enclosed]
  rw [htext]
  exact .of_ends (by decide) (by decide) _

end Batch

namespace Insertion

variable {scope : Scope} {quote : Quoting}

/-- The tail of an upsert binds what is assigned. -/
theorem parameters_tail {dialect : Dialect} {insertion : Insertion} {tail : Tokens}
    (h : insertion.tail scope dialect = .ok tail) : tail.parameters = insertion.bound := by
  cases insertion with
  | insert =>
      obtain rfl := Except.ok.inj h
      rfl
  | upsert update index =>
      have hcarries : Carries scope (Statement.updateGiven
          (Fragment.of (upsert update index).options)) tail := by
        cases dialect with
        | mysql => exact Carries.duplicateTail h
        | sqlite => exact Carries.conflictTail h
      have hgiven : Statement.updateGiven (Fragment.of (upsert update index).options) =
          update.values.map .assigned := (List.map_map ..).symm
      rw [hcarries.parameters, hgiven, bound]
      induction update.values with
      | nil => rfl
      | cons value rest ih =>
          rw [List.map_cons, List.flatMap_cons, ih]
          by_cases hargument : value.isArgument = true
          · simp [Given.bound, hargument]
          · simp [Given.bound, hargument]

/-- The statement that is put together from the parts of an insertion. -/
def assemble (insertion : Insertion) (batch : Batch) (compiler : Compiler) (tables : Tokens)
    (tuples : List (List Draft)) (tail : Tokens) : Compiled where
  sql := Text.beside (tables.render compiler.quote) (batch.text compiler.quote tuples) ++
    Text.ending (tail.render compiler.quote)
  parameters := batch.bound ++ insertion.bound
  dialect := compiler.dialect

/-- The clauses of an insertion, spaced and without blanks at the ends. -/
theorem draft_assembled {insertion : Insertion} {batch : Batch} {compiler : Compiler}
    (hquote : compiler.quote.Framed) (heven : batch.Even) {blueprint : Blueprint}
    {tables tail : Tokens} {tuples : List (List Draft)}
    (htables : Statement.tables scope "INSERT INTO" blueprint = .ok tables)
    (htuples : batch.Written scope compiler.quote tuples)
    (htail : insertion.tail scope compiler.dialect = .ok tail) :
    let draft := (Draft.spaced [Tokens.draft compiler.quote tables,
      Draft.spaced [Draft.valuesOf compiler.quote batch.columns (tuples.map Draft.enclosed),
        Tokens.draft compiler.quote tail]]).trimmed
    (⟨draft.text, draft.parameters, compiler.dialect⟩ : Compiled) =
      insertion.assemble batch compiler tables tuples tail := by
  intro draft
  obtain ⟨pieces, -, hpieces⟩ := bind_eq_ok.1 htables
  have hlead : tables.render compiler.quote =
      Text.lead "INSERT INTO" ((Tokens.joined ", " pieces).render compiler.quote) := by
    rw [← pure_eq_ok.1 hpieces, Statement.listed, Tokens.render_headed hquote]
  have htext : draft.text = (insertion.assemble batch compiler tables tuples tail).sql := by
    have hkeyword : Text.Framed "INSERT INTO".toList := by decide
    have htrimmed := Text.trim_beside hkeyword (Batch.framed_text htuples)
      ((Tokens.joined ", " pieces).render compiler.quote) (tail.render compiler.quote)
    rw [← hlead] at htrimmed
    rw [assemble, ← htrimmed, ← Draft.text_valuesOf]
    change String.ofList (Text.trim (Draft.spaced [_, Draft.spaced [_, _]]).text.toList) = _
    rw [Draft.text_spaced, Draft.text_spaced]
    rfl
  have hparameters : draft.parameters = batch.bound ++ insertion.bound := by
    have hnone : tables.parameters = [] := (Carries.tables htables).parameters
    have hsplit : draft.parameters = tables.parameters ++
        ((Draft.valuesOf compiler.quote batch.columns (tuples.map Draft.enclosed)).parameters ++
          (tail.parameters ++ []) ++ []) := rfl
    rw [hsplit, hnone, Draft.parameters_valuesOf heven htuples, parameters_tail htail]
    simp
  rw [htext, hparameters]
  rfl

end Insertion

namespace Store

variable (store : Store) {query : Query} (insertion : Insertion)

theorem build_fill (hquote : query.compiler.quote.Framed)
    (htables : query.blueprint.has .tables = true) (rows : List Value) :
    store.build (insertion.fill rows query) = (do
      let tables ← Draft.tables store.scope query.compiler.quote "INSERT INTO" query.blueprint
      let body ← Draft.values store.scope query.compiler.quote rows
      let tail ← Tokens.draft query.compiler.quote <$>
        insertion.tail store.scope query.compiler.dialect
      let draft := (Draft.spaced [tables, Draft.spaced [body, tail]]).trimmed
      return ⟨draft.text, draft.parameters, query.compiler.dialect⟩) := by
  have hbuild : store.build (insertion.fill rows query) =
      query.compiler.compile store.scope
        (store.snapshot (insertion.fill rows query).blueprint) := rfl
  have hblueprint : (store.snapshot (insertion.fill rows query).blueprint).blueprint =
      (insertion.fill rows query).blueprint := rfl
  rw [hbuild, ← Compiler.writeOut_eq_compile hquote, Compiler.writeOut, hblueprint,
    Insertion.whole_fill insertion rows query htables]
  simp only [bind_assoc, pure_bind]

variable {batch : Batch} (hquote : query.compiler.quote.Framed)
  (htables : query.blueprint.has .tables = true)
include hquote htables

theorem build_even (heven : batch.Even) (compiled : Compiled) :
    store.build (insertion.fill (batch.rows.map Row.toValue) query) = .ok compiled ↔
      ∃ tables tuples tail,
        Statement.tables store.scope "INSERT INTO" query.blueprint = .ok tables ∧
        batch.Written store.scope query.compiler.quote tuples ∧
        insertion.tail store.scope query.compiler.dialect = .ok tail ∧
        compiled = insertion.assemble batch query.compiler tables tuples tail := by
  rw [build_fill store insertion hquote htables, Draft.tables_eq hquote, Draft.values_of_even heven]
  constructor
  · intro h
    obtain ⟨_, hdrafted, h⟩ := bind_eq_ok.1 h
    obtain ⟨tables, htokens, rfl⟩ := map_eq_ok.1 hdrafted
    obtain ⟨_, hbody, h⟩ := bind_eq_ok.1 h
    obtain ⟨drafts, hdrafts, hbody⟩ := bind_eq_ok.1 hbody
    obtain ⟨tuples, htuples, rfl⟩ := (Draft.mapM_tuple_eq_ok heven).1 hdrafts
    obtain rfl := pure_eq_ok.1 hbody
    obtain ⟨_, hbehind, h⟩ := bind_eq_ok.1 h
    obtain ⟨tail, htail, rfl⟩ := map_eq_ok.1 hbehind
    exact ⟨tables, tuples, tail, htokens, htuples, htail,
      (pure_eq_ok.1 h).symm.trans (Insertion.draft_assembled hquote heven htokens htuples htail)⟩
  · rintro ⟨tables, tuples, tail, htokens, htuples, htail, rfl⟩
    have hdrafts := (Draft.mapM_tuple_eq_ok heven).2 ⟨tuples, htuples, rfl⟩
    rw [htokens, htail, hdrafts,
      ← Insertion.draft_assembled hquote heven htokens htuples htail]
    rfl

/-- In what order the other rows have their columns makes no difference. -/
theorem build_rearranged (heven : batch.Even) {other : Batch} (h : batch.Rearranged other) :
    store.build (insertion.fill (other.rows.map Row.toValue) query) =
      store.build (insertion.fill (batch.rows.map Row.toValue) query) := by
  have htuples : ∀ rows : List Row, ∀ columns,
      (rows.mapM fun row => Draft.tuple store.scope query.compiler.quote (row.values columns)) =
        (rows.map fun row => row.values columns).mapM
          (Draft.tuple store.scope query.compiler.quote) := by
    intro rows columns
    rw [List.mapM_map]
    rfl
  have hcolumns : other.columns = batch.columns := congrArg Row.names h.first
  rw [build_fill store insertion hquote htables, build_fill store insertion hquote htables,
    Draft.values_of_even heven, Draft.values_of_even (h.even heven), htuples, htuples,
    h.map_values, hcolumns]

/-- The first row that does not fit is refused, unless something in front of it has no text. -/
theorem build_uneven {front back : List Row} {row : Row} (hrest : batch.rest = front ++ row :: back)
    (hfront : ∀ row ∈ front, batch.Fits row) (hrow : ¬batch.Fits row) :
    ∃ own expected cause, Value.sorted (row.names.map .text) = .ok own ∧
      Value.sorted (batch.columns.map .text) = .ok expected ∧
      store.build (insertion.fill (batch.rows.map Row.toValue) query) = .error cause ∧
      ((∃ tables, Statement.tables store.scope "INSERT INTO" query.blueprint = .ok tables) →
        (∀ row ∈ batch.first :: front, ∀ cell ∈ row.cells,
          ∃ piece, cell.2.StandsAs store.scope query.compiler.quote piece) →
        cause = .unevenRow (front.length + 2) own expected) := by
  obtain ⟨own, expected, hown, hexpected, hvalues⟩ := Draft.values_of_not_fits
    store.scope query.compiler.quote hrest hfront hrow
  have hfits : ∀ row ∈ batch.first :: front, batch.Fits row :=
    List.forall_mem_cons.2 ⟨batch.fits_first, hfront⟩
  refine ⟨own, expected, ?_⟩
  rw [build_fill store insertion hquote htables, Draft.tables_eq hquote, hvalues]
  cases hheading : Statement.tables store.scope "INSERT INTO" query.blueprint with
  | error cause =>
      refine ⟨cause, hown, hexpected, rfl, ?_⟩
      rintro ⟨tables, hwritten⟩
      cases hwritten
  | ok tables =>
      cases htuples : (batch.first :: front).mapM fun row =>
          Draft.tuple store.scope query.compiler.quote (row.values batch.columns) with
      | error cause =>
          refine ⟨cause, hown, hexpected, rfl, fun _ hcells => ?_⟩
          obtain ⟨drafts, hdrafts⟩ := Draft.exists_mapM_tuple batch.columns hcells
          cases htuples.symm.trans hdrafts
      | ok drafts => exact ⟨_, hown, hexpected, rfl, fun _ _ => rfl⟩

end Store

/-- An argument that holds no query and no long number can be written. -/
theorem Value.Bindable.exists_standsAs {value : Value} (h : value.Bindable)
    (hshort : value.assignedFaults = []) (scope : Scope) (quote : Quoting) :
    ∃ piece, value.StandsAs scope quote piece := by
  obtain ⟨tokens, htokens⟩ := (Statement.ends_assigned h).exists_ok_iff.2 hshort
  refine ⟨Tokens.draft quote tokens, Draft.assigned_eq_ok.1 ?_⟩
  rw [Draft.assigned_eq, htokens]
  rfl

/-- Every value of a batch stands under its own column. If all rows have the columns of the first,
in whatever order, the statement has the columns of the first row, and in the tuple of each row
under each column what stands for the value that the row has there; it binds the values that are no
arguments, row by row, and then those that are assigned. It is built just if the tables, every value
of the batch and the tail can be written, and the order of the names in the other rows makes no
difference to it. Otherwise the first row with other columns is refused under its number, counted
from one, unless the tables or a value in front of it cannot be written, which is reported first. -/
theorem Store.build_batch (store : Store) (insertion : Insertion) {query : Query} {batch : Batch}
    {data : Value} (hquote : query.compiler.quote.Framed)
    (htables : query.blueprint.has .tables = true)
    (hdata : Query.insertRows data = .ok (batch.rows.map Row.toValue)) :
    ∃ prepared, (insertion.command data).prepare query = (.ok (), prepared) ∧
      (batch.Even →
        (∀ compiled, store.build prepared = .ok compiled ↔
          ∃ tables tuples tail,
            Statement.tables store.scope "INSERT INTO" query.blueprint = .ok tables ∧
            batch.Written store.scope query.compiler.quote tuples ∧
            insertion.tail store.scope query.compiler.dialect = .ok tail ∧
            compiled = insertion.assemble batch query.compiler tables tuples tail) ∧
        ∀ other : Batch, batch.Rearranged other → ∀ rearranged,
          Query.insertRows rearranged = .ok (other.rows.map Row.toValue) →
            ∃ changed, (insertion.command rearranged).prepare query = (.ok (), changed) ∧
              store.build changed = store.build prepared) ∧
      (¬batch.Even →
        ∃ front row back, batch.rest = front ++ row :: back ∧ (∀ row ∈ front, batch.Fits row) ∧
          ¬batch.Fits row ∧
          ∃ own expected cause, Value.sorted (row.names.map .text) = .ok own ∧
            Value.sorted (batch.columns.map .text) = .ok expected ∧
            store.build prepared = .error cause ∧
            ((∃ tables,
                Statement.tables store.scope "INSERT INTO" query.blueprint = .ok tables) →
              (∀ row ∈ batch.first :: front, ∀ cell ∈ row.cells,
                ∃ piece, cell.2.StandsAs store.scope query.compiler.quote piece) →
              cause = .unevenRow (front.length + 2) own expected ∧
                cause.clause? = some .insert ∧
                ∀ references, ∃ shown others,
                  Value.quotedList? references own = some shown ∧
                    Value.quotedList? references expected = some others ∧
                    cause.message? references =
                      some ("INSERT row " ++ toString (front.length + 2) ++ " columns " ++ shown ++
                        " do not match the first row's " ++ others ++ "."))) := by
  refine ⟨_, insertion.prepare_command hdata query, fun heven => ⟨?_, ?_⟩, fun huneven => ?_⟩
  · exact build_even store insertion hquote htables heven
  · intro other hother rearranged hrearranged
    exact ⟨_, insertion.prepare_command hrearranged query,
      build_rearranged store insertion hquote htables heven hother⟩
  · obtain ⟨front, row, back, hrest, hfront, hrow⟩ := Batch.exists_not_fits huneven
    obtain ⟨own, expected, cause, hown, hexpected, hbuild, hcause⟩ :=
      build_uneven store insertion hquote htables hrest hfront hrow
    refine ⟨front, row, back, hrest, hfront, hrow, own, expected, cause, hown, hexpected, hbuild,
      fun hheading hcells => ?_⟩
    obtain rfl := hcause hheading hcells
    refine ⟨rfl, rfl, fun references => ?_⟩
    obtain ⟨shown, hshown⟩ :=
      Value.exists_quotedList? (Value.texts_of_sorted hown) references
    obtain ⟨others, hothers⟩ :=
      Value.exists_quotedList? (Value.texts_of_sorted hexpected) references
    exact ⟨shown, others, hshown, hothers, by rw [Error.message?, hshown, hothers]; rfl⟩

namespace Batch

theorem insertRows_rows (batch : Batch) :
    Query.insertRows (.list (batch.rows.map Row.toValue)) =
      .ok (batch.rows.map Row.toValue) := by
  have hrows : ∀ rows : List Row,
      ((rows.map Row.toValue).mapM fun row => do return Value.map (← row.toEntries)) =
        (.ok (rows.map Row.toValue) : Except Error (List Value)) := by
    intro rows
    induction rows with
    | nil => rfl
    | cons row rest ih =>
        rw [List.map_cons, List.mapM_cons, ih]
        rfl
  exact hrows batch.rows

/-- Two rows that name the same columns in different orders; one value is an argument and one a
list. -/
def mixed : Batch where
  first := ⟨[("b", .raw (.text "NOW()")), ("a", .list [.int 1, .int 2])], by decide⟩
  rest := [⟨[("a", .int 3), ("b", .text "x")], by decide⟩]
  nonempty := by simp

/-- The third row has a column of its own. -/
def ragged : Batch where
  first := mixed.first
  rest := mixed.rest ++ [⟨[("b", .null), ("c", .int 4)], by decide⟩]
  nonempty := mixed.nonempty

/-- What is assigned to rows that are already there. -/
def repair : Insertion :=
  .upsert [(.text "a", .int 5), (.text "b", .column "row.b")] []

def target : Query :=
  (Query.new 0 .mysql Options.standard).setTable (.text "t") (.text "")

end Batch

open Batch in
theorem Store.build_batch_mixed :
    ∃ prepared compiled,
      (repair.command (.list (mixed.rows.map Row.toValue))).prepare target = (.ok (), prepared) ∧
      Store.empty.build prepared = .ok compiled ∧
      compiled.sql = "INSERT INTO \x60t\x60 (\x60b\x60, \x60a\x60) VALUES (NOW(), ?), (?, ?) AS \x60row\x60 ON DUPLICATE KEY UPDATE \x60a\x60 = ?, \x60b\x60 = \x60row\x60.\x60b\x60" ∧
      compiled.parameters = [.list [.int 1, .int 2], .text "x", .int 3, .int 5] ∧
      ∃ refused own,
        (repair.command (.list (ragged.rows.map Row.toValue))).prepare target =
          (.ok (), refused) ∧
        Store.empty.build refused = .error (.unevenRow 3 own [.text "a", .text "b"]) := by
  have heven : mixed.Even := by decide
  have huneven : ¬ragged.Even := by decide
  have hquote : target.compiler.quote.Framed := Identifier.framed_backtick
  obtain ⟨prepared, hprepared, hbuild, -⟩ :=
    Store.build_batch Store.empty repair hquote rfl mixed.insertRows_rows
  obtain ⟨refused, hrefused, -, hfirst⟩ :=
    Store.build_batch Store.empty repair hquote rfl ragged.insertRows_rows
  have htables : Statement.tables Store.empty.scope "INSERT INTO" target.blueprint =
      .ok [.literal "INSERT INTO ", .name "t"] := by rfl
  have htuples : mixed.Written Store.empty.scope Identifier.backtick
      [[.plain "NOW()", .placeholder (.list [.int 1, .int 2])],
        [.placeholder (.text "x"), .placeholder (.int 3)]] :=
    .cons (.cons ⟨_, rfl, .written rfl rfl⟩ (.cons ⟨_, rfl, .bound rfl⟩ .nil))
      (.cons (.cons ⟨_, rfl, .bound rfl⟩ (.cons ⟨_, rfl, .bound rfl⟩ .nil)) .nil)
  have htail : repair.tail Store.empty.scope .mysql =
      .ok [.literal "AS ", .name "row", .literal " ", .literal "ON DUPLICATE KEY UPDATE ",
        .name "a", .literal " = ", .slot (.int 5), .literal ", ", .name "b", .literal " = ",
        .name "row", .literal ".", .name "b"] := by rfl
  refine ⟨prepared, _, hprepared,
    ((hbuild heven).1 _).2 ⟨_, _, _, htables, htuples, htail, rfl⟩, by decide +kernel, rfl,
    ?_⟩
  obtain ⟨front, row, back, hrest, -, hrow, own, expected, cause, -, hexpected, herror, hcause⟩ :=
    hfirst huneven
  have hcells : ∀ row ∈ mixed.rows, ∀ cell ∈ row.cells,
      cell.2.Bindable ∧ cell.2.assignedFaults = [] := by
    have hplain : ∀ value : Value, value.isArgument = false →
        value.Bindable ∧ value.assignedFaults = [] := fun value hvalue =>
      ⟨Value.bindable_of_not_argument hvalue, if_neg (Bool.eq_false_iff.1 hvalue)⟩
    simp only [mixed, Batch.rows, List.forall_mem_cons]
    exact ⟨⟨⟨fun _ => ⟨trivial, trivial⟩, rfl⟩, hplain _ rfl, by simp⟩,
      ⟨hplain _ rfl, hplain _ rfl, by simp⟩, by simp⟩
  have hcolumns : Value.sorted (ragged.columns.map .text) = .ok [.text "a", .text "b"] := by rfl
  cases front with
  | nil =>
      obtain rfl := (List.cons.inj hrest).1
      exact absurd (by decide) hrow
  | cons second others =>
      obtain ⟨rfl, hothers⟩ := List.cons.inj hrest
      cases others with
      | nil =>
          obtain ⟨rfl, -⟩ := hcause ⟨_, htables⟩ fun row hmem cell hcell =>
            (hcells row hmem cell hcell).1.exists_standsAs (hcells row hmem cell hcell).2 _ _
          obtain rfl := Except.ok.inj (hexpected.symm.trans hcolumns)
          exact ⟨refused, own, hrefused, herror⟩
      | cons third others =>
          have hlength := congrArg List.length hothers
          simp at hlength

end SqlBuilder
