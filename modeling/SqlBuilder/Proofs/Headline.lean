import SqlBuilder.Connection.Recording
import SqlBuilder.Proofs.Clauses
import SqlBuilder.Proofs.Frame
import SqlBuilder.Proofs.Rendering

/-!
# How a statement begins

A statement begins with the keyword of its type and an operand: the columns of a select, the tables
of anything else. The keyword is written only if the operand is not empty, and the statement begins
with whatever clause comes next if it is. So a statement has its keyword and something to apply it
to just if its operand is not blank, and which operands are blank can be told from the blueprint:
those without a fragment, and those whose only fragment has no alias and names nothing.
-/

namespace SqlBuilder

open Outcome

/-! ### Names that leave nothing but blanks -/

namespace Tokens

/-- Whether there is anything but blanks in the text. -/
def visible (quote : Quoting) (tokens : Tokens) : Bool :=
  Text.visible (tokens.render quote).toList

variable {quote : Quoting} {tokens : Tokens}

theorem visible_of_mem {token : Token} (hmem : token ∈ tokens)
    (h : Text.visible (token.render quote).toList = true) : tokens.visible quote = true := by
  obtain ⟨front, back, rfl⟩ := List.append_of_mem hmem
  rw [visible, render_append, render_cons, String.toList_append, String.toList_append,
    Text.visible_append, Text.visible_append, h, Bool.true_or, Bool.or_true]

theorem visible_of_literal {text : String} (hmem : .literal text ∈ tokens)
    (h : Text.visible text.toList = true) : tokens.visible quote = true :=
  visible_of_mem hmem h

theorem visible_of_name (hquote : quote.Framed) {segment : String}
    (hmem : .name segment ∈ tokens) : tokens.visible quote = true :=
  visible_of_mem hmem (hquote segment).visible

theorem mem_joined (separator : String) (first second : Tokens) (rest : List Tokens) :
    .literal separator ∈ joined separator (first :: second :: rest) := by
  rw [joined_cons_cons]
  exact List.mem_append_right _ List.mem_cons_self

/-- A path is blank only if it is empty: any other one has a dot or a name. -/
theorem visible_path (hquote : quote.Framed) (text : String) :
    (path text).visible quote = false ↔ text = "" := by
  refine ⟨fun h => ?_, fun h => by rw [h]; rfl⟩
  have hsegments := Identifier.intercalate_segments text.toList
  rw [path] at h
  cases hlist : Identifier.segments text.toList with
  | nil => exact absurd hlist (Identifier.segments_ne_nil text.toList)
  | cons first rest =>
      rw [hlist] at h hsegments
      cases rest with
      | nil =>
          rw [List.intercalate_singleton] at hsegments
          rw [List.map_cons, List.map_nil, joined_singleton] at h
          by_cases hempty : first = []
          · exact String.toList_eq_nil_iff.1 (hsegments.symm.trans hempty)
          · have hname : Token.name (String.ofList first) ∈
                (if first.isEmpty then [] else [.name (String.ofList first)] : Tokens) := by
              simp [hempty]
            rw [visible_of_name hquote hname] at h
            cases h
      | cons second others =>
          -- there is a dot, even if all segments are empty
          rw [List.map_cons, List.map_cons,
            visible_of_literal (mem_joined "." _ _ _) (by decide)] at h
          cases h

end Tokens

namespace Value

def Blank (scope : Scope) : Value → Prop
  | argument .raw value _ => ∃ text, value.toText scope = .ok text ∧
      Text.visible text.toList = false
  | argument .method _ _ => False
  | argument .column value parameters | argument .table value parameters =>
      value.isWildcard = false ∧ value.toText scope = .ok "" ∧
        ∀ aliasName ∈ parameters.head?, aliasName.truthy = false
  | value => value.truthy = false

variable {scope : Scope} {quote : Quoting} (hquote : quote.Framed)
include hquote

theorem visible_path {value : Value} {parameters : List Value} {path aliased : Tokens}
    (hpath : value.tokens scope = .ok path)
    (haliased : aliasTokens scope parameters = .ok aliased) :
    (Tokens.path (plainText path) ++ aliased).visible quote = false ↔
      value.toText scope = .ok "" ∧ ∀ aliasName ∈ parameters.head?, aliasName.truthy = false := by
  have htext : value.toText scope = .ok (plainText path) := by
    rw [toText, hpath]
    rfl
  have hname := Tokens.visible_path hquote (plainText path)
  rw [htext]
  cases parameters with
  | nil =>
      cases haliased
      simpa using hname
  | cons aliasName rest =>
      rw [aliasTokens] at haliased
      by_cases htruthy : aliasName.truthy = true
      · rw [if_pos htruthy] at haliased
        obtain ⟨name, -, haliased⟩ := bind_eq_ok.1 haliased
        obtain rfl := pure_eq_ok.1 haliased
        rw [Tokens.visible_of_literal (List.mem_append_right _ List.mem_cons_self) (by decide)]
        simp [htruthy]
      · rw [if_neg htruthy] at haliased
        cases haliased
        simpa [htruthy] using hname

theorem visible_argument {value : Value} {tokens : Tokens} (hargument : value.isArgument = true)
    (h : value.tokens scope = .ok tokens) :
    tokens.visible quote = false ↔ value.Blank scope := by
  cases value with
  | argument kind value parameters =>
      cases kind with
      | raw =>
          rw [Value.tokens] at h
          obtain ⟨inner, hinner, h⟩ := bind_eq_ok.1 h
          obtain rfl := pure_eq_ok.1 h
          have htext : value.toText scope = .ok (plainText inner) := by
            rw [toText, hinner]
            rfl
          simp [Blank, htext, Tokens.visible, Token.render]
      | method =>
          rw [Value.tokens] at h
          obtain ⟨pieces, -, h⟩ := bind_eq_ok.1 h
          obtain ⟨name, -, h⟩ := bind_eq_ok.1 h
          obtain rfl := pure_eq_ok.1 h
          have hlast : Token.literal ")" ∈
              .literal (plainText name ++ "(") :: Tokens.joined ", " pieces ++ [.literal ")"] :=
            List.mem_append_right _ List.mem_cons_self
          rw [Tokens.visible_of_literal hlast (by decide)]
          simp [Blank]
      | column | table =>
          simp only [Value.tokens] at h
          by_cases hwild : value.isWildcard = true
          · rw [if_pos hwild] at h
            cases h
            rw [Tokens.visible_of_literal List.mem_cons_self (by decide)]
            simp [Blank, hwild]
          · rw [if_neg hwild] at h
            obtain ⟨path, hpath, h⟩ := bind_eq_ok.1 h
            obtain ⟨aliased, haliased, h⟩ := bind_eq_ok.1 h
            obtain rfl := pure_eq_ok.1 h
            rw [visible_path hquote hpath haliased]
            simp [Blank, hwild]
  | _ => cases hargument

theorem visible_identifier {value : Value} {tokens : Tokens}
    (h : value.identifier scope = .ok tokens) :
    tokens.visible quote = false ↔ value.Blank scope := by
  rw [identifier] at h
  by_cases hargument : value.isArgument = true
  · rw [if_pos hargument] at h
    exact visible_argument hquote hargument h
  · have hblank : value.Blank scope ↔ value.truthy = false := by
      cases value with
      | argument kind value parameters => exact absurd rfl hargument
      | _ => rfl
    rw [if_neg hargument] at h
    rw [hblank]
    by_cases htruthy : value.truthy = true
    · rw [if_pos htruthy] at h
      obtain ⟨text, -, h⟩ := bind_eq_ok.1 h
      obtain rfl := pure_eq_ok.1 h
      rw [Tokens.visible_of_name hquote List.mem_cons_self, htruthy]
    · rw [if_neg htruthy] at h
      cases h
      simp [htruthy, Tokens.visible, Text.visible]

theorem visible_aliased {value aliasName : Value} {tokens : Tokens}
    (h : value.aliased scope aliasName = .ok tokens) :
    tokens.visible quote = false ↔ value.Blank scope ∧ aliasName.truthy = false := by
  obtain ⟨name, hname, h⟩ := bind_eq_ok.1 h
  by_cases htruthy : aliasName.truthy = true
  · rw [if_pos htruthy] at h
    obtain ⟨back, -, h⟩ := bind_eq_ok.1 h
    obtain rfl := pure_eq_ok.1 h
    rw [Tokens.visible_of_literal (List.mem_append_right _ List.mem_cons_self) (by decide)]
    simp [htruthy]
  · rw [if_neg htruthy] at h
    obtain rfl := pure_eq_ok.1 h
    rw [visible_identifier hquote hname]
    simp [htruthy]

end Value

/-! ### The operand of a statement -/

namespace StatementType

def keyword (emptying : String) : StatementType → String
  | select => "SELECT"
  | insert | upsert => "INSERT INTO"
  | update => "UPDATE"
  | delete => "DELETE FROM"
  | truncate => emptying

def operandClause : StatementType → Clause
  | select => .columns
  | _ => .tables

/-- What the fragments of that clause name. -/
def operandAttribute : StatementType → String
  | select => "column"
  | _ => "table"

end StatementType

def Fragment.Blank (scope : Scope) (name : String) (fragment : Fragment) : Prop :=
  (fragment.read name).Blank scope ∧ (fragment.read "alias").truthy = false

/-- Nothing can be seen of what the keyword of the statement applies to. -/
def Blueprint.Headless (scope : Scope) (blueprint : Blueprint) : Prop :=
  match blueprint.fragments blueprint.type.operandClause with
  | [] => True
  | [fragment] => fragment.Blank scope blueprint.type.operandAttribute
  | _ => False

namespace Text

/-- A keyword stays in front of its operand, whatever follows and however blanks are cut off. -/
theorem lead_prefix_trim {keyword operand : String} (hkeyword : Framed keyword.toList)
    (h : visible operand.toList = true) (rest : String) :
    (keyword ++ " ").toList ++ trimEnd operand.toList <+:
      trim (beside (lead keyword operand) rest).toList := by
  have hempty : keyword ≠ "" := fun hnil => hkeyword.nonempty (String.toList_eq_nil_iff.2 hnil)
  have hshown : operand ≠ "" := by
    rintro rfl
    cases h
  have hcut : trimEnd operand.toList ≠ [] := by
    rw [Ne, trimEnd_eq_nil_iff, h]
    exact Bool.true_eq_false.mp
  obtain ⟨behind, hbehind⟩ := prefix_beside (lead keyword operand) rest
  have hlead : (lead keyword operand).toList =
      keyword.toList ++ (" ".toList ++ operand.toList) := by
    rw [lead, if_neg hshown, if_neg hempty, String.toList_append, String.toList_append,
      List.append_assoc]
  have hfront : trimEnd (lead keyword operand).toList =
      (keyword ++ " ").toList ++ trimEnd operand.toList := by
    rw [hlead, ← List.append_assoc, trimEnd_append, if_neg hcut, String.toList_append]
  have hstart : trimStart (beside (lead keyword operand) rest).toList =
      (lead keyword operand).toList ++ behind := by
    rw [← hbehind, hlead, List.append_assoc, hkeyword.trimStart_append]
  rw [trim, hstart, ← hfront]
  exact trimEnd_prefix_append _ _

end Text

namespace Statement

/-- What the keyword of a statement applies to, behind a keyword. -/
def operand (scope : Scope) (keyword : String) (blueprint : Blueprint) : Except Error Tokens :=
  listing (fun fragment =>
      (fragment.read blueprint.type.operandAttribute).aliased scope (fragment.read "alias"))
    keyword blueprint.type.operandClause blueprint

variable (scope : Scope) (dialect : Dialect) (emptying : String) (blueprint : Blueprint)
  (members : Except Error (List Tokens))

/-- The clauses behind the first one. -/
def remainder : Except Error Tokens :=
  Tokens.spaced <$> (clauses scope dialect emptying blueprint members).tail.mapM id

theorem clauses_eq : clauses scope dialect emptying blueprint members =
    operand scope (blueprint.type.keyword emptying) blueprint ::
      (clauses scope dialect emptying blueprint members).tail := by
  simp only [clauses, operand]
  cases blueprint.type <;> rfl

variable {scope dialect emptying blueprint members} {quote : Quoting} (hquote : quote.Framed)
include hquote

theorem listing_keyword {piece : Fragment → Except Error Tokens} {keyword : String}
    {clause : Clause} {tokens : Tokens} (h : listing piece keyword clause blueprint = .ok tokens) :
    ∃ body, listing piece "" clause blueprint = .ok body ∧
      tokens.render quote = Text.lead keyword (body.render quote) := by
  obtain ⟨pieces, hpieces, h⟩ := bind_eq_ok.1 h
  obtain rfl := pure_eq_ok.1 h
  refine ⟨listed "" pieces, ?_, ?_⟩
  · rw [listing, hpieces]
    rfl
  · rw [listed, listed, Tokens.render_headed hquote, Tokens.render_headed hquote, Text.lead_lead]

/-- Two fragments have a comma between them, and one is as blank as what it names. -/
theorem visible_operand {body : Tokens} (h : operand scope "" blueprint = .ok body) :
    body.visible quote = false ↔ blueprint.Headless scope := by
  obtain ⟨pieces, hpieces, h⟩ := bind_eq_ok.1 h
  obtain rfl := pure_eq_ok.1 h
  have hpieces := mapM_eq_ok.1 hpieces
  have hbody : (listed "" pieces).visible quote =
      (Tokens.joined ", " pieces).visible quote := by
    rw [Tokens.visible, listed, Tokens.render_headed hquote, Text.lead, Tokens.visible]
    split
    · next hempty => rw [hempty]
    · rfl
  rw [hbody, Blueprint.Headless]
  generalize blueprint.fragments blueprint.type.operandClause = fragments at hpieces ⊢
  cases hpieces with
  | nil => exact ⟨fun _ => trivial, fun _ => rfl⟩
  | cons hfirst hrest =>
      cases hrest with
      | nil =>
          rw [Tokens.joined_singleton]
          exact Value.visible_aliased hquote hfirst
      | cons hsecond hothers =>
          rw [Tokens.visible_of_literal (Tokens.mem_joined ", " _ _ _) (by decide)]
          exact ⟨fun hfalse => absurd hfalse (by decide), False.elim⟩

/-- A statement is its keyword with its operand and, behind that, its other clauses. -/
theorem exists_operand {tokens : Tokens}
    (h : whole scope dialect emptying blueprint members = .ok tokens) :
    ∃ body rest, operand scope "" blueprint = .ok body ∧
      remainder scope dialect emptying blueprint members = .ok rest ∧
      (tokens.render quote).toList =
        Text.trim (Text.beside (Text.lead (blueprint.type.keyword emptying) (body.render quote))
          (rest.render quote)).toList := by
  obtain ⟨parts, hparts, h⟩ := bind_eq_ok.1 h
  obtain rfl := pure_eq_ok.1 h
  rw [parts_eq] at hparts
  obtain ⟨_, -, hpieces⟩ := bind_eq_ok.1 hparts
  rw [clauses_eq, List.mapM_cons] at hpieces
  obtain ⟨first, hfirst, hpieces⟩ := bind_eq_ok.1 hpieces
  obtain ⟨others, hothers, hpieces⟩ := bind_eq_ok.1 hpieces
  obtain rfl := pure_eq_ok.1 hpieces
  obtain ⟨body, hbody, htext⟩ := listing_keyword hquote hfirst
  refine ⟨body, Tokens.spaced others, hbody, ?_, ?_⟩
  · rw [remainder, hothers]
    rfl
  · rw [Tokens.render_trim hquote, Tokens.render_spaced_cons hquote, htext]

end Statement

/-! ### The beginning of a built statement -/

/-- The text of a statement is its keyword with its operand and, behind that, its other clauses,
without the blanks at its ends. If anything can be seen of the operand, the text begins with the
keyword and what can be seen, and the blueprint tells whether anything can. -/
structure Compiler.Heads (compiler : Compiler) (scope : Scope) (snapshot : Snapshot)
    (sql operand rest : String) : Prop where
  operand_eq : Tokens.render compiler.quote <$> Statement.operand scope "" snapshot.blueprint =
    .ok operand
  rest_eq : Tokens.render compiler.quote <$>
    Statement.remainder scope compiler.dialect compiler.emptying snapshot.blueprint
      (Statement.membersTokens scope compiler.dialect compiler.emptying snapshot.members) =
    .ok rest
  text : sql.toList = Text.trim (Text.beside
    (Text.lead (snapshot.blueprint.type.keyword compiler.emptying) operand) rest).toList
  blank_iff : Text.visible operand.toList = false ↔ snapshot.blueprint.Headless scope
  begins : ¬ snapshot.blueprint.Headless scope → Text.trimEnd operand.toList ≠ [] ∧
    (snapshot.blueprint.type.keyword compiler.emptying ++ " ").toList ++
      Text.trimEnd operand.toList <+: sql.toList

theorem StatementType.framed_keyword {emptying : String} (h : Text.Framed emptying.toList)
    (type : StatementType) : Text.Framed (type.keyword emptying).toList := by
  cases type with
  | select => exact (by decide : Text.Framed "SELECT".toList)
  | insert | upsert => exact (by decide : Text.Framed "INSERT INTO".toList)
  | update => exact (by decide : Text.Framed "UPDATE".toList)
  | delete => exact (by decide : Text.Framed "DELETE FROM".toList)
  | truncate => exact h

theorem Compiler.exists_heads {compiler : Compiler} (hquote : compiler.quote.Framed)
    (hemptying : Text.Framed compiler.emptying.toList) {scope : Scope} {snapshot : Snapshot}
    {compiled : Compiled} (h : compiler.compile scope snapshot = .ok compiled) :
    ∃ operand rest, compiler.Heads scope snapshot compiled.sql operand rest := by
  obtain ⟨tokens, htokens, h⟩ := bind_eq_ok.1 h
  obtain rfl := pure_eq_ok.1 h
  obtain ⟨body, others, hbody, hothers, htext⟩ := Statement.exists_operand hquote htokens
  have hblank := Statement.visible_operand hquote hbody
  refine ⟨body.render compiler.quote, others.render compiler.quote, ?_, ?_, htext, hblank, ?_⟩
  · rw [hbody]
    rfl
  · rw [hothers]
    rfl
  · intro hhead
    have hshown : Text.visible (body.render compiler.quote).toList = true := by
      rw [← hblank, Bool.not_eq_false] at hhead
      exact hhead
    refine ⟨fun hcut => ?_, ?_⟩
    · rw [Text.trimEnd_eq_nil_iff, hshown] at hcut
      cases hcut
    · have hprefix := Text.lead_prefix_trim
        (snapshot.blueprint.type.framed_keyword hemptying) hshown (others.render compiler.quote)
      rwa [← htext] at hprefix

/-- A statement other than a select is refused without a table. Whatever a query builds to is the
keyword of its type with its operand and the other clauses behind, and it begins with the keyword
and an operand unless the blueprint names nothing there. -/
theorem Store.build_heads (store : Store) {query : Query}
    (hcompiler : query.compiler = Compiler.mysql ∨ query.compiler = Compiler.sqlite) :
    (query.blueprint.type ≠ .select → query.blueprint.fragments .tables = [] →
      store.build query = .error (.missingTable query.blueprint.type)) ∧
    ∀ compiled, store.build query = .ok compiled → ∃ operand rest,
      query.compiler.Heads store.scope (store.snapshot query.blueprint) compiled.sql operand
        rest := by
  have hquote : query.compiler.quote = Identifier.backtick := by
    rcases hcompiler with h | h <;> rw [h] <;> rfl
  have hemptying : Text.Framed query.compiler.emptying.toList := by
    rcases hcompiler with h | h <;> rw [h] <;> decide
  refine ⟨fun htype htables => ?_, fun compiled hbuild => ?_⟩
  · have hdemand : Statement.demand query.blueprint =
        .error (.missingTable query.blueprint.type) := by
      have hrequire : Statement.requireTable query.blueprint =
          .error (.missingTable query.blueprint.type) := by
        simp [Statement.requireTable, Blueprint.has, htables]
      rw [Statement.demand]
      split
      · next hselect => exact absurd hselect htype
      · exact hrequire
    rw [build, compile, Compiler.compile, Compiler.tokens, Statement.tokens, Statement.whole,
      Statement.parts_eq, snapshot, Snapshot.take, hdemand]
    rfl
  · exact Compiler.exists_heads (hquote ▸ Identifier.framed_backtick) hemptying hbuild

namespace Heads

def session : Session RecordingConnection Unit :=
  let session : Session RecordingConnection Unit := Session.start ()
  let query := Query.new 0 .mysql Options.standard
  { (session.withAdded query).withAdded query with
    connections := #[.start (.text "mysql") .nothing []] }

def built (calls : List (Nat × Call RecordingConnection Unit)) : Option String :=
  let later := session.through (calls.map fun entry => (entry.1, .call entry.2))
  (later.store.queries[0]?.bind fun query => (later.store.build query).toOption).map Compiled.sql

def comparison : Call RecordingConnection Unit :=
  .filter (.value (.text "id")) (.int 1) (.text "=") (.text "AND")

def deletion : Query :=
  let query := (Query.new 0 .sqlite Options.standard).setTable (.text "t") (.text "")
  (query.add .where [("column", .column "id"), ("value", .int 1), ("operator", .text "="),
    ("boolean", .text "AND")]).withType .delete

theorem not_headless_deletion : ¬ deletion.blueprint.Headless Store.empty.scope := by
  intro h
  have htable : deletion.blueprint.fragments deletion.blueprint.type.operandClause =
      [Fragment.of [("table", .table "t"), ("alias", .text "")]] := rfl
  rw [Blueprint.Headless, htable] at h
  obtain ⟨⟨-, htext, -⟩, -⟩ := h
  rw [Value.toText_text] at htext
  exact absurd (Except.ok.inj htext) (by decide)

end Heads

open Heads

theorem Store.build_heads_deletion :
    ∃ compiled operand rest, Store.empty.build deletion = .ok compiled ∧
      compiled.sql = "DELETE FROM \x60t\x60 WHERE \x60id\x60 = ?" ∧
      deletion.compiler.Heads Store.empty.scope (Store.empty.snapshot deletion.blueprint)
        compiled.sql operand rest ∧
      Text.trimEnd operand.toList ≠ [] ∧
      "DELETE FROM ".toList ++ Text.trimEnd operand.toList <+: compiled.sql.toList := by
  have hsql : (Store.empty.build deletion).toOption.map Compiled.sql =
      some "DELETE FROM \x60t\x60 WHERE \x60id\x60 = ?" := by decide +kernel
  obtain ⟨compiled, hbuild, htext⟩ := toOption_map_eq_some.1 hsql
  have hsqlite : deletion.compiler = Compiler.sqlite := rfl
  obtain ⟨operand, rest, hheads⟩ := (Store.empty.build_heads (.inr hsqlite)).2 compiled hbuild
  exact ⟨compiled, operand, rest, hbuild, htext, hheads, hheads.begins not_headless_deletion⟩

/-- Neither a select without columns nor a deletion from a table without a name is refused. -/
theorem Store.build_headless :
    built [] = some "" ∧
      built [(0, .fromTable (.text "t") .null)] = some "FROM \x60t\x60" ∧
      built [(0, .table (.text "") .null), (0, comparison), (0, .delete)] =
        some "WHERE \x60id\x60 = ?" := by
  refine ⟨?_, ?_, ?_⟩
  · decide +kernel
  · decide +kernel
  · decide +kernel

end SqlBuilder
