import SqlBuilder.Proofs.Clauses
import SqlBuilder.Proofs.Drafting
import SqlBuilder.Proofs.Naming

/-!
# Whole statements that are written at once

The clauses of a statement as text, in the order in which the compiler takes them, up to the members
of a union, which are statements themselves. Each of them is what its tokens read as under the
quoting, and fails as its tokens do. So the quoting decides nothing but how the names look that the
blueprint supplies: the tokens, and with them the parameters and the errors, are the same for every
quoting.
-/

namespace SqlBuilder

open Outcome

namespace Draft

variable (scope : Scope) (quote : Quoting)

/-! ### Clauses that every statement shares -/

def listing (piece : Fragment → Except Error Draft) (keyword : String) (clause : Clause)
    (blueprint : Blueprint) : Except Error Draft := do
  return headed keyword (joined ", " (← (blueprint.fragments clause).mapM piece))

def columns (keyword : String) (blueprint : Blueprint) : Except Error Draft :=
  listing (fun fragment => aliased scope quote (fragment.read "column") (fragment.read "alias"))
    keyword .columns blueprint

def tables (keyword : String) (blueprint : Blueprint) : Except Error Draft :=
  listing (fun fragment => aliased scope quote (fragment.read "table") (fragment.read "alias"))
    keyword .tables blueprint

def joinCondition (fragment : Fragment) : Except Error Draft :=
  match fragment.read "first" with
  | .group members => level scope quote .join (Condition.ofMembers members)
  | first => do
      let first ← identifier scope quote first
      let operator ← (fragment.read "operator").written scope Identifier.backtick
      let second ← identifier scope quote (fragment.read "second")
      return first ++ plain (" " ++ operator ++ " ") ++ second

def joinPiece (fragment : Fragment) : Except Error Draft := do
  let table ← identifier scope quote (fragment.read "table")
  let condition ← joinCondition scope quote fragment
  let type ← (fragment.read "type").written scope Identifier.backtick
  return plain (Text.upper type ++ " JOIN ") ++ table ++ plain " ON " ++ condition

def joins (keyword : String) (blueprint : Blueprint) : Except Error Draft := do
  let pieces ← (blueprint.fragments .join).mapM (joinPiece scope quote)
  return headed keyword (joined " " pieces)

def conditions (keyword : String) (clause : Clause) (blueprint : Blueprint) :
    Except Error Draft := do
  return headed keyword
    (← level scope quote clause (Condition.ofFragments (blueprint.fragments clause)))

def groups (keyword : String) (blueprint : Blueprint) : Except Error Draft :=
  listing (fun fragment => identifier scope quote (fragment.read "column")) keyword .group blueprint

def orderPiece (fragment : Fragment) : Except Error Draft := do
  let column ← identifier scope quote (fragment.read "column")
  let sort ← (fragment.read "sort").written scope Identifier.backtick
  return column ++ plain (" " ++ Text.upper sort)

def orders (keyword : String) (blueprint : Blueprint) : Except Error Draft :=
  listing (orderPiece scope quote) keyword .order blueprint

def limits (keyword : String) (blueprint : Blueprint) : Except Error Draft :=
  match blueprint.first? .limit with
  | none => .ok (plain "")
  | some fragment => do return headed keyword (plain (← Statement.window fragment))

/-! ### Rows and assignments -/

def assigned (value : Value) : Except Error Draft :=
  if value.isArgument then plain <$> value.written scope quote else .ok (placeholder value)

def row (columns : List Value) (number : Nat) (row : Value) : Except Error Draft := do
  let own ← Statement.columnSet row
  let expected ← Statement.columnSet (.list columns)
  if Value.sameMembers own expected then
    let values ← columns.mapM fun column => do assigned scope quote (← row.subscript column)
    return plain "(" ++ joined ", " values ++ plain ")"
  else
    let refused := Error.unevenRow number (← Value.sorted own) (← Value.sorted columns)
    throw refused.worded

def batch (columns : List Value) : Nat → List Value → Except Error (List Draft)
  | _, [] => .ok []
  | number, first :: rest => do
      let first ← row scope quote columns number first
      let others ← batch columns (number + 1) rest
      return first :: others

def values (rows : List Value) : Except Error Draft :=
  match rows with
  | [] => .error .missingValues
  | first :: _ =>
      if first.truthy then do
        let columns ← first.items
        let tuples ← batch scope quote columns 1 rows
        let names ← columns.mapM (identifier scope quote)
        return plain "(" ++ joined ", " names ++ plain ") VALUES " ++ joined ", " tuples
      else .error .missingValues

def assignment (entry : Value × Value) : Except Error Draft := do
  let column ← identifier scope quote entry.1
  let value ← assigned scope quote entry.2
  return column ++ plain " = " ++ value

def assignments (entries : Entries) : Except Error Draft := do
  return joined ", " (← entries.mapM (assignment scope quote))

def duplicateTail (fragment : Fragment) : Except Error Draft := do
  let update := fragment.read "update"
  if update.truthy then
    let entries ← Statement.assignmentEntries update
    let tail := plain "ON DUPLICATE KEY UPDATE " ++ (← assignments scope quote entries)
    if entries.values.any Value.isArgument then
      return plain "AS " ++ plain (quote Statement.rowAlias) ++ plain " " ++ tail
    else return tail
  else return plain ""

def conflictTail (fragment : Fragment) : Except Error Draft := do
  let index := fragment.read "index"
  let target ← if index.truthy then index.items else pure []
  if target.isEmpty then throw .missingConflictTarget
  let names ← target.mapM (identifier scope quote)
  let head := plain "ON CONFLICT (" ++ joined ", " names
  let update := fragment.read "update"
  if update.truthy then
    let entries ← Statement.assignmentEntries update
    return head ++ plain ") DO UPDATE SET " ++ (← assignments scope quote entries)
  else return head ++ plain ") DO NOTHING"

def upsertTail (dialect : Dialect) (fragment : Fragment) : Except Error Draft :=
  match dialect with
  | .mysql => duplicateTail scope quote fragment
  | .sqlite => conflictTail scope quote fragment

def inserts (dialect : Dialect) (keyword : String) (upsert : Bool) (blueprint : Blueprint) :
    Except Error Draft :=
  match blueprint.first? .insert with
  | none => .error .missingValues
  | some fragment => do
      let body ← values scope quote (← Statement.rowsOf (fragment.read "insert"))
      if upsert then
        let tail ← upsertTail scope quote dialect fragment
        return headed keyword (spaced [body, tail])
      else return headed keyword body

def updates (keyword : String) (blueprint : Blueprint) : Except Error Draft :=
  match blueprint.first? .update with
  | none => .error .missingAssignments
  | some fragment =>
      let update := fragment.read "update"
      if update.truthy then do
        let entries ← Statement.assignmentEntries update
        return headed keyword (← assignments scope quote entries)
      else .error .missingAssignments

/-! ### Statements -/

def clauses (dialect : Dialect) (emptying : String) (blueprint : Blueprint)
    (members : Except Error (List Draft)) : List (Except Error Draft) :=
  match blueprint.type with
  | .select =>
      [columns scope quote "SELECT" blueprint, tables scope quote "FROM" blueprint,
        joins scope quote "" blueprint, conditions scope quote "WHERE" .where blueprint,
        groups scope quote "GROUP BY" blueprint, conditions scope quote "HAVING" .having blueprint,
        orders scope quote "ORDER BY" blueprint, limits "LIMIT" blueprint,
        (fun pieces => headed "UNION" (joined ", " pieces)) <$> members]
  | .insert =>
      [tables scope quote "INSERT INTO" blueprint, inserts scope quote dialect "" false blueprint]
  | .upsert =>
      [tables scope quote "INSERT INTO" blueprint, inserts scope quote dialect "" true blueprint]
  | .update =>
      [tables scope quote "UPDATE" blueprint, updates scope quote "SET" blueprint,
        conditions scope quote "WHERE" .where blueprint, orders scope quote "ORDER BY" blueprint,
        limits "LIMIT" blueprint]
  | .delete =>
      [tables scope quote "DELETE FROM" blueprint, conditions scope quote "WHERE" .where blueprint,
        orders scope quote "ORDER BY" blueprint, limits "LIMIT" blueprint]
  | .truncate => [tables scope quote emptying blueprint]

def whole (dialect : Dialect) (emptying : String) (blueprint : Blueprint)
    (members : Except Error (List Draft)) : Except Error Draft := do
  Statement.demand blueprint
  let parts ← (clauses scope quote dialect emptying blueprint members).mapM id
  return (spaced parts).trimmed

mutual

def member (dialect : Dialect) (emptying : String) : Member → Except Error Draft
  | .statement blueprint members =>
      whole scope quote dialect emptying blueprint (membersOf dialect emptying members)
  | .invalid cause => .error cause

def membersOf (dialect : Dialect) (emptying : String) : List Member → Except Error (List Draft)
  | [] => .ok []
  | first :: rest => do
      let first ← member dialect emptying first
      let others ← membersOf dialect emptying rest
      return first :: others

end

/-! ### Drafts are what tokens read as -/

section Framed

variable {scope quote}

theorem mapM_eq {α : Type} {piece : α → Except Error Draft} {tokens : α → Except Error Tokens}
    (h : ∀ item, piece item = Tokens.draft quote <$> tokens item) (items : List α) :
    items.mapM piece = List.map (Tokens.draft quote) <$> items.mapM tokens := by
  induction items with
  | nil => rfl
  | cons item rest ih =>
      rw [List.mapM_cons, List.mapM_cons, h, ih]
      simp only [map_eq_pure_bind, bind_assoc, pure_bind, List.map_cons]

variable (hquote : quote.Framed)
include hquote

theorem listing_eq {piece : Fragment → Except Error Draft}
    {tokens : Fragment → Except Error Tokens}
    (h : ∀ fragment, piece fragment = Tokens.draft quote <$> tokens fragment) (keyword : String)
    (clause : Clause) (blueprint : Blueprint) :
    listing piece keyword clause blueprint =
      Tokens.draft quote <$> Statement.listing tokens keyword clause blueprint := by
  rw [listing, Statement.listing, mapM_eq h]
  simp only [Statement.listed, map_eq_pure_bind, bind_assoc, pure_bind,
    Tokens.draft_headed hquote, Tokens.draft_joined]

theorem columns_eq (keyword : String) (blueprint : Blueprint) :
    columns scope quote keyword blueprint =
      Tokens.draft quote <$> Statement.columns scope keyword blueprint :=
  listing_eq hquote (fun _ => aliased_eq scope quote _ _) keyword .columns blueprint

theorem tables_eq (keyword : String) (blueprint : Blueprint) :
    tables scope quote keyword blueprint =
      Tokens.draft quote <$> Statement.tables scope keyword blueprint :=
  listing_eq hquote (fun _ => aliased_eq scope quote _ _) keyword .tables blueprint

theorem groups_eq (keyword : String) (blueprint : Blueprint) :
    groups scope quote keyword blueprint =
      Tokens.draft quote <$> Statement.groups scope keyword blueprint :=
  listing_eq hquote (fun _ => identifier_eq scope quote _) keyword .group blueprint

theorem orders_eq (keyword : String) (blueprint : Blueprint) :
    orders scope quote keyword blueprint =
      Tokens.draft quote <$> Statement.orders scope keyword blueprint := by
  refine listing_eq hquote (fun fragment => ?_) keyword .order blueprint
  rw [orderPiece, Statement.orderPiece]
  simp only [identifier_eq, toText_eq, map_eq_pure_bind, bind_assoc, pure_bind,
    Tokens.draft_append, Tokens.draft_literal, Tokens.draft_nil, append_plain_empty]

omit hquote in
theorem joinCondition_eq (fragment : Fragment) :
    joinCondition scope quote fragment =
      Tokens.draft quote <$> Statement.joinCondition scope fragment := by
  rw [joinCondition, Statement.joinCondition]
  cases fragment.read "first" with
  | group members => exact level_eq scope quote .join _
  | _ =>
      simp only [identifier_eq, toText_eq, map_eq_pure_bind, bind_assoc, pure_bind,
        Tokens.draft_append, Tokens.draft_literal, append_assoc]

theorem joins_eq (keyword : String) (blueprint : Blueprint) :
    joins scope quote keyword blueprint =
      Tokens.draft quote <$> Statement.joins scope keyword blueprint := by
  have hpiece : ∀ fragment, joinPiece scope quote fragment =
      Tokens.draft quote <$> Statement.joinPiece scope fragment := by
    intro fragment
    rw [joinPiece, Statement.joinPiece]
    simp only [identifier_eq, joinCondition_eq, toText_eq, map_eq_pure_bind, bind_assoc, pure_bind,
      Tokens.draft_append, Tokens.draft_literal, append_assoc]
  rw [joins, Statement.joins, mapM_eq hpiece]
  simp only [map_eq_pure_bind, bind_assoc, pure_bind, Tokens.draft_headed hquote,
    Tokens.draft_joined]

theorem conditions_eq (keyword : String) (clause : Clause) (blueprint : Blueprint) :
    conditions scope quote keyword clause blueprint =
      Tokens.draft quote <$> Statement.conditions scope keyword clause blueprint := by
  rw [conditions, Statement.conditions, level_eq]
  simp only [map_eq_pure_bind, bind_assoc, pure_bind, Tokens.draft_headed hquote]

theorem limits_eq (keyword : String) (blueprint : Blueprint) :
    limits keyword blueprint = Tokens.draft quote <$> Statement.limits keyword blueprint := by
  rw [limits, Statement.limits]
  cases blueprint.first? .limit with
  | none => exact congrArg Except.ok Tokens.draft_nil.symm
  | some fragment =>
      simp only [map_eq_pure_bind, bind_assoc, pure_bind, Tokens.draft_headed hquote,
        Tokens.draft_literal, Tokens.draft_nil, append_plain_empty]

omit hquote in
theorem assigned_eq (value : Value) :
    assigned scope quote value = Tokens.draft quote <$> Statement.assigned scope value := by
  rw [assigned, Statement.assigned]
  split
  · next h => exact plain_written scope quote h
  · exact congrArg Except.ok (draft_slot quote value).symm

omit hquote in
theorem row_eq (columns : List Value) (number : Nat) (value : Value) :
    row scope quote columns number value =
      Tokens.draft quote <$> Statement.rowTokens scope columns number value := by
  have hcell : ∀ column, (do assigned scope quote (← value.subscript column)) =
      Tokens.draft quote <$> (do Statement.assigned scope (← value.subscript column)) := by
    intro column
    simp only [assigned_eq, map_eq_pure_bind, bind_assoc]
  rw [row, Statement.rowTokens]
  simp only [map_bind]
  refine bind_congr fun own => bind_congr fun expected => ?_
  split
  · simp only [mapM_eq hcell, map_eq_pure_bind, bind_assoc, pure_bind, Tokens.draft_append,
      Tokens.draft_literal, Tokens.draft_joined, Tokens.draft_nil, append_plain_empty, append_assoc]
  · simp only [map_bind]
    rfl

omit hquote in
theorem batch_eq (columns : List Value) (number : Nat) (rows : List Value) :
    batch scope quote columns number rows =
      List.map (Tokens.draft quote) <$> Statement.batchTokens scope columns number rows := by
  induction rows generalizing number with
  | nil => rfl
  | cons first rest ih =>
      rw [batch, Statement.batchTokens, row_eq, ih]
      simp only [map_eq_pure_bind, bind_assoc, pure_bind, List.map_cons]

omit hquote in
theorem values_eq (rows : List Value) :
    values scope quote rows = Tokens.draft quote <$> Statement.valuesTokens scope rows := by
  cases rows with
  | nil => rfl
  | cons first rest =>
      simp only [values, Statement.valuesTokens]
      split
      · simp only [batch_eq, mapM_eq (identifier_eq scope quote), map_eq_pure_bind, bind_assoc,
          pure_bind, Tokens.draft_append, Tokens.draft_literal, Tokens.draft_joined, append_assoc]
      · rfl

omit hquote in
theorem assignments_eq (entries : Entries) :
    assignments scope quote entries =
      Tokens.draft quote <$> Statement.assignments scope entries := by
  have hentry : ∀ entry, assignment scope quote entry =
      Tokens.draft quote <$> Statement.assignment scope entry := by
    intro entry
    rw [assignment, Statement.assignment]
    simp only [identifier_eq, assigned_eq, map_eq_pure_bind, bind_assoc, pure_bind,
      Tokens.draft_append, Tokens.draft_literal, append_assoc]
  rw [assignments, Statement.assignments, mapM_eq hentry]
  simp only [map_eq_pure_bind, bind_assoc, pure_bind, Tokens.draft_joined]

omit hquote in
theorem duplicateTail_eq (fragment : Fragment) :
    duplicateTail scope quote fragment =
      Tokens.draft quote <$> Statement.duplicateTail scope fragment := by
  simp only [duplicateTail, Statement.duplicateTail]
  split
  · simp only [map_bind, assignments_eq]
    refine bind_congr fun entries => ?_
    simp only [map_eq_pure_bind, bind_assoc, pure_bind]
    refine bind_congr fun tail => ?_
    split
    · simp only [pure_bind, Tokens.draft_literal, Tokens.draft_name, append_assoc]
    · simp only [pure_bind, Tokens.draft_literal]
  · exact congrArg Except.ok Tokens.draft_nil.symm

omit hquote in
theorem conflictTail_eq (fragment : Fragment) :
    conflictTail scope quote fragment =
      Tokens.draft quote <$> Statement.conflictTail scope fragment := by
  simp only [conflictTail, Statement.conflictTail]
  split
  · rw [map_bind]
    refine bind_congr fun target => ?_
    split
    · rfl
    · simp only [mapM_eq (identifier_eq scope quote), map_eq_pure_bind, bind_assoc, pure_bind]
      refine bind_congr fun names => ?_
      split
      · simp only [assignments_eq, map_eq_pure_bind, bind_assoc, pure_bind, Tokens.draft_append,
          Tokens.draft_literal, Tokens.draft_joined, append_assoc]
      · simp only [pure_bind, Tokens.draft_append, Tokens.draft_literal, Tokens.draft_joined,
          Tokens.draft_nil, append_plain_empty, append_assoc]
  · -- without an index there is no target, which is refused
    rfl

omit hquote in
theorem upsertTail_eq (dialect : Dialect) (fragment : Fragment) :
    upsertTail scope quote dialect fragment =
      Tokens.draft quote <$> Statement.upsertTail scope dialect fragment := by
  cases dialect with
  | mysql => exact duplicateTail_eq fragment
  | sqlite => exact conflictTail_eq fragment

theorem inserts_eq (dialect : Dialect) (keyword : String) (upsert : Bool) (blueprint : Blueprint) :
    inserts scope quote dialect keyword upsert blueprint =
      Tokens.draft quote <$> Statement.inserts scope dialect keyword upsert blueprint := by
  rw [inserts, Statement.inserts]
  cases blueprint.first? .insert with
  | none => rfl
  | some fragment =>
      simp only [values_eq, map_eq_pure_bind, bind_assoc, pure_bind]
      refine bind_congr fun rows => bind_congr fun body => ?_
      cases upsert with
      | true =>
          simp only [if_true, upsertTail_eq, map_eq_pure_bind, bind_assoc, pure_bind,
            Tokens.draft_headed hquote, Tokens.draft_spaced hquote, List.map_cons, List.map_nil]
      | false =>
          simp only [Bool.false_eq_true, if_false, pure_bind, Tokens.draft_headed hquote]

theorem updates_eq (keyword : String) (blueprint : Blueprint) :
    updates scope quote keyword blueprint =
      Tokens.draft quote <$> Statement.updates scope keyword blueprint := by
  rw [updates, Statement.updates]
  cases blueprint.first? .update with
  | none => rfl
  | some fragment =>
      simp only
      split
      · simp only [assignments_eq, map_eq_pure_bind, bind_assoc, pure_bind,
          Tokens.draft_headed hquote]
      · rfl

theorem whole_eq (dialect : Dialect) (emptying : String) (blueprint : Blueprint)
    (members : Except Error (List Tokens)) :
    whole scope quote dialect emptying blueprint (List.map (Tokens.draft quote) <$> members) =
      Tokens.draft quote <$> Statement.whole scope dialect emptying blueprint members := by
  have hclauses : clauses scope quote dialect emptying blueprint
      (List.map (Tokens.draft quote) <$> members) =
      (Statement.clauses scope dialect emptying blueprint members).map
        (Tokens.draft quote <$> ·) := by
    have hunion : (fun pieces => headed "UNION" (joined ", " pieces)) <$>
        (List.map (Tokens.draft quote) <$> members) =
        Tokens.draft quote <$> (Statement.unions "UNION" <$> members) := by
      simp only [Functor.map_map, Statement.unions, Statement.listed, Tokens.draft_headed hquote,
        Tokens.draft_joined]
    rw [clauses, Statement.clauses]
    cases blueprint.type <;>
      simp only [List.map_cons, List.map_nil, columns_eq hquote, tables_eq hquote, joins_eq hquote,
        conditions_eq hquote, groups_eq hquote, orders_eq hquote, limits_eq hquote,
        inserts_eq hquote, updates_eq hquote, hunion]
  have hparts : ∀ results : List (Except Error Tokens),
      (results.map (Tokens.draft quote <$> ·)).mapM id =
        List.map (Tokens.draft quote) <$> results.mapM id := by
    intro results
    rw [List.mapM_map]
    exact mapM_eq (fun _ => rfl) results
  rw [whole, Statement.whole, Statement.parts_eq, hclauses, hparts]
  simp only [map_eq_pure_bind, bind_assoc, pure_bind, Tokens.draft_trim hquote,
    Tokens.draft_spaced hquote]

end Framed

variable {scope quote}

mutual

theorem member_eq (hquote : quote.Framed) (dialect : Dialect) (emptying : String) :
    ∀ source : Member,
    member scope quote dialect emptying source =
      Tokens.draft quote <$> Statement.memberTokens scope dialect emptying source
  | .statement blueprint members => by
      rw [member, Statement.memberTokens, membersOf_eq hquote dialect emptying members,
        whole_eq hquote]
  | .invalid cause => rfl

theorem membersOf_eq (hquote : quote.Framed) (dialect : Dialect) (emptying : String) :
    ∀ members : List Member,
    membersOf scope quote dialect emptying members =
      List.map (Tokens.draft quote) <$> Statement.membersTokens scope dialect emptying members
  | [] => rfl
  | first :: rest => by
      rw [membersOf, Statement.membersTokens, member_eq hquote dialect emptying first,
        membersOf_eq hquote dialect emptying rest]
      simp only [map_eq_pure_bind, bind_assoc, pure_bind, List.map_cons]

end

end Draft

namespace Compiler

def requoted (compiler : Compiler) (quote : Quoting) : Compiler :=
  { compiler with quote := quote }

/-- A statement that is written at once, with each identifier quoted where it stands. -/
def writeOut (compiler : Compiler) (scope : Scope) (snapshot : Snapshot) :
    Except Error Compiled := do
  let draft ← Draft.whole scope compiler.quote compiler.dialect compiler.emptying
    snapshot.blueprint
    (Draft.membersOf scope compiler.quote compiler.dialect compiler.emptying snapshot.members)
  return ⟨draft.text, draft.parameters, compiler.dialect⟩

/-- Tokens are another way to write a statement at once. -/
theorem writeOut_eq_compile {compiler : Compiler} (hquote : compiler.quote.Framed) (scope : Scope)
    (snapshot : Snapshot) : compiler.writeOut scope snapshot = compiler.compile scope snapshot := by
  rw [writeOut, compile, tokens, Statement.tokens, Draft.membersOf_eq hquote,
    Draft.whole_eq hquote]
  simp only [map_eq_pure_bind, bind_assoc, pure_bind]
  rfl

end Compiler

/-- The quoting is applied to every identifier and to nothing else. There is one list of tokens, or
one error, for all the compilers that differ in their quoting only: the segments among the tokens
are those that the statement is supplied with, and a statement written under a quoting is the text
of the tokens with that quoting applied to each segment. Its parameters depend on no quoting. -/
theorem compile_requoted {base : Compiler}
    (hbase : base = Compiler.mysql ∨ base = Compiler.sqlite) (scope : Scope)
    (snapshot : Snapshot) :
    ∃ outcome : Except Error Tokens,
      (∀ tokens, outcome = .ok tokens → tokens.names = snapshot.segments scope base.dialect) ∧
      ∀ quote : Quoting, quote.Framed →
        (base.requoted quote).writeOut scope snapshot =
          outcome.map (fun tokens => ⟨tokens.render quote, tokens.parameters, base.dialect⟩) ∧
        (base.requoted quote).compile scope snapshot =
          outcome.map (fun tokens => ⟨tokens.render quote, tokens.parameters, base.dialect⟩) := by
  have hemptying : ∀ c ∈ base.emptying.toList, Placeholder.isPlain c = true := by
    rcases hbase with rfl | rfl <;> decide
  refine ⟨base.tokens scope snapshot, fun tokens htokens => ?_, fun quote hquote => ?_⟩
  · exact (Assembled.compiled hemptying htokens).names
  · have hcompile : (base.requoted quote).compile scope snapshot =
        (base.tokens scope snapshot).map
          fun tokens => ⟨tokens.render quote, tokens.parameters, base.dialect⟩ := by
      change (base.tokens scope snapshot >>= fun tokens => pure _) = _
      cases base.tokens scope snapshot <;> rfl
    have hframed : (base.requoted quote).quote.Framed := hquote
    exact ⟨(Compiler.writeOut_eq_compile hframed scope snapshot).trans hcompile, hcompile⟩

set_option maxRecDepth 8000 in
/-- Names with quotes, dots, blanks and wildcards under two other quotings. -/
theorem compile_requoted_hostileUpsert :
    Identifier.standard.Framed ∧ Identifier.uppercase.Framed ∧
      ∃ tokens : Tokens,
        tokens.names = ["a\x60", "b\x27", "*", "c \x60?", "d\x60\x60", "e.f", "row", "d\x60\x60",
          "row", "d\x60\x60"] ∧
        (Compiler.mysql.requoted Identifier.standard).writeOut Scope.nothing hostileUpsert =
          .ok ⟨tokens.render Identifier.standard, tokens.parameters, .mysql⟩ ∧
        (Compiler.mysql.requoted Identifier.uppercase).writeOut Scope.nothing hostileUpsert =
          .ok ⟨tokens.render Identifier.uppercase, tokens.parameters, .mysql⟩ ∧
        tokens.render Identifier.standard =
          "INSERT INTO \x22a\x60\x22..\x22b\x27\x22.* AS \x22c \x60?\x22 (\x22d\x60\x60\x22, \x22e.f\x22) VALUES (?, NOW()) AS \x22row\x22 ON DUPLICATE KEY UPDATE \x22d\x60\x60\x22 = \x22row\x22.\x22d\x60\x60\x22" ∧
        tokens.parameters = [.int 1] := by
  refine ⟨Identifier.framed_standard, Identifier.framed_uppercase, ?_⟩
  obtain ⟨outcome, hnames, hquotings⟩ :=
    compile_requoted (.inl rfl) Scope.nothing hostileUpsert
  obtain ⟨hstandard, hcompile⟩ := hquotings Identifier.standard Identifier.framed_standard
  obtain ⟨huppercase, -⟩ := hquotings Identifier.uppercase Identifier.framed_uppercase
  have hrun : (Compiler.mysql.requoted Identifier.standard).compile Scope.nothing hostileUpsert =
      .ok ⟨"INSERT INTO \x22a\x60\x22..\x22b\x27\x22.* AS \x22c \x60?\x22 (\x22d\x60\x60\x22, \x22e.f\x22) VALUES (?, NOW()) AS \x22row\x22 ON DUPLICATE KEY UPDATE \x22d\x60\x60\x22 = \x22row\x22.\x22d\x60\x60\x22",
        [.int 1], .mysql⟩ := by rfl
  have hsegments : hostileUpsert.segments Scope.nothing .mysql =
      ["a\x60", "b\x27", "*", "c \x60?", "d\x60\x60", "e.f", "row", "d\x60\x60", "row",
        "d\x60\x60"] := by rfl
  rw [hrun] at hcompile
  cases outcome with
  | error cause => cases hcompile
  | ok tokens =>
      have hcompiled := Except.ok.inj hcompile
      exact ⟨tokens, (hnames tokens rfl).trans hsegments, hstandard, huppercase,
        (congrArg Compiled.sql hcompiled).symm, (congrArg Compiled.parameters hcompiled).symm⟩

end SqlBuilder
