import SqlBuilder.Proofs.Conditions
import SqlBuilder.Proofs.Upkeep

/-!
# Queries that are well typed

Columns and tables are texts or arguments, windows are whole numbers, rows have texts for keys, and
the members of a union are queries. An argument may hold anything but a query, whose text would be a
statement of its own. A query that has been filled with such values only is well typed, and so it
stays, for every step adds one fragment of that kind, or moves fragments into a group.
-/

namespace SqlBuilder

open Outcome Session

namespace Value

mutual

/-- A value that can be written without compiling another query. -/
def Plain : Value → Prop
  | argument _ value parameters => value.Plain ∧ AllPlain parameters
  | query _ => False
  | _ => True

def AllPlain : List Value → Prop
  | [] => True
  | value :: rest => value.Plain ∧ AllPlain rest

end

/-- Text, or an argument that holds no query. -/
def Textual : Value → Prop
  | text _ => True
  | argument _ value parameters => value.Plain ∧ AllPlain parameters
  | _ => False

/-- What may stand in a place for an identifier, which may also be left empty. -/
def Nameable (value : Value) : Prop :=
  value = null ∨ value.Textual

/-- Any value may be bound, but an argument is written. -/
def Bindable (value : Value) : Prop :=
  value.isArgument = true → value.Textual

def Whole (value : Value) : Prop :=
  ∃ number, value = int number

theorem Textual.plain {value : Value} (h : value.Textual) : value.Plain := by
  cases value with
  | text characters => trivial
  | argument kind value parameters => exact h
  | _ => exact h.elim

theorem Textual.nameable {value : Value} (h : value.Textual) : value.Nameable :=
  .inr h

theorem Textual.bindable {value : Value} (h : value.Textual) : value.Bindable :=
  fun _ => h

theorem bindable_of_not_argument {value : Value} (h : value.isArgument = false) :
    value.Bindable :=
  fun hargument => Bool.noConfusion (hargument.symm.trans h)

theorem Textual.capitals {value capital : Value} (h : value.Textual)
    (hcapital : value.capitals = .ok capital) : capital.Textual := by
  cases value with
  | text characters =>
      obtain rfl := Except.ok.inj hcapital
      trivial
  | argument kind value parameters => cases hcapital
  | _ => exact h.elim

theorem Textual.asColumn {value : Value} (h : value.Textual) : value.asColumn.Textual := by
  cases value with
  | text path => exact ⟨trivial, trivial⟩
  | _ => exact h

theorem Textual.asTable {value : Value} (h : value.Textual) : value.asTable.Textual := by
  cases value with
  | text path => exact ⟨trivial, trivial⟩
  | _ => exact h

theorem Nameable.asTable {value : Value} (h : value.Nameable) : value.asTable.Nameable := by
  rcases h with rfl | h
  · exact .inl rfl
  · exact h.asTable.nameable

theorem Bindable.boundValue {value : Value} (h : value.Bindable) :
    (Query.boundValue value).Bindable := by
  cases value with
  | list items | set items | frozenset items => exact bindable_of_not_argument rfl
  | _ => exact h

end Value

/-- Entries whose keys are texts and whose values may be assigned. -/
def Entries.Keyed (entries : Entries) : Prop :=
  ∀ entry ∈ entries, (∃ name, entry.1 = .text name) ∧ entry.2.Bindable

/-- A row, or whatever else is keyed by texts. -/
def Value.Keyed (value : Value) : Prop :=
  ∃ entries : Entries, value = .map entries ∧ entries.Keyed

namespace Condition

mutual

def Typed : Condition → Prop
  | comparison keyword column operator value =>
      keyword.Textual ∧ column.Nameable ∧ operator.Textual ∧ value.Bindable
  | group keyword members => keyword.Textual ∧ LevelTyped members
  | malformed _ => False

def LevelTyped : List Condition → Prop
  | [] => True
  | condition :: rest => condition.Typed ∧ LevelTyped rest

end

theorem levelTyped_iff {conditions : List Condition} :
    LevelTyped conditions ↔ ∀ condition ∈ conditions, condition.Typed := by
  induction conditions with
  | nil => simp [LevelTyped]
  | cons condition rest ih => rw [LevelTyped, ih, List.forall_mem_cons]

end Condition

/-- What stands in the place of a column: a group of conditions or an identifier. -/
def Value.Comparable (value : Value) : Prop :=
  match value with
  | .group members => Condition.LevelTyped (Condition.ofMembers members)
  | value => value.Nameable

/-- A fragment that has what its clause needs. -/
def Fragment.Typed (fragment : Fragment) : Clause → Prop
  | .columns => (fragment.read "column").Nameable ∧ (fragment.read "alias").Nameable
  | .tables => (fragment.read "table").Nameable ∧ (fragment.read "alias").Nameable
  | .join =>
      (fragment.read "table").Nameable ∧ (fragment.read "first").Comparable ∧
        (fragment.read "second").Nameable ∧ (fragment.read "operator").Textual ∧
        (fragment.read "type").Textual
  | .where | .having => fragment.condition.Typed
  | .group => (fragment.read "column").Nameable
  | .order => (fragment.read "column").Nameable ∧ (fragment.read "sort").Textual
  | .limit =>
      (fragment.read "limit").Whole ∧
        (fragment.read "offset" = .null ∨ (fragment.read "offset").Whole)
  | .union => ∃ id, fragment.read "query" = .query id
  | .insert =>
      (∃ rows, fragment.read "insert" = .list rows ∧ ∀ row ∈ rows, row.Keyed) ∧
        (fragment.read "update" = .null ∨ (fragment.read "update").Keyed) ∧
        (fragment.read "index" = .null ∨
          ∃ names, fragment.read "index" = .list names ∧ ∀ name ∈ names, name.Nameable)
  | .update => (fragment.read "update").Keyed

/-- All fragments have what their clauses need, whether or not the statement has these clauses. -/
def Blueprint.Typed (blueprint : Blueprint) : Prop :=
  ∀ clause, ∀ fragment ∈ blueprint.fragments clause, fragment.Typed clause

namespace Blueprint.Typed

variable {blueprint : Blueprint}

theorem empty (type : StatementType) : (Blueprint.empty type).Typed := by
  intro clause fragment hfragment
  cases hfragment

theorem add (h : blueprint.Typed) (clause : Clause) {fragment : Fragment}
    (hfragment : fragment.Typed clause) : (blueprint.add clause fragment).Typed := by
  intro other added hadded
  rw [fragments_add] at hadded
  by_cases heq : clause = other
  · subst heq
    rw [if_pos (by simp)] at hadded
    rcases List.mem_append.1 hadded with hold | hnew
    · exact h clause added hold
    · exact List.mem_singleton.1 hnew ▸ hfragment
  · rw [if_neg (by simpa using heq)] at hadded
    exact h other added hadded

theorem reset (h : blueprint.Typed) (clause : Clause) : (blueprint.reset clause).Typed := by
  intro other fragment hfragment
  rw [fragments_reset] at hfragment
  split at hfragment
  · cases hfragment
  · exact h other fragment hfragment

theorem first (h : blueprint.Typed) {clause : Clause} {fragment : Fragment}
    (hfirst : blueprint.first? clause = some fragment) : fragment.Typed clause :=
  h clause fragment (List.mem_of_mem_head? hfirst)

theorem conditions (h : blueprint.Typed) {clause : Clause}
    (hclause : clause = .where ∨ clause = .having) :
    Condition.LevelTyped (Condition.ofFragments (blueprint.fragments clause)) := by
  rw [Condition.ofFragments_eq_map, Condition.levelTyped_iff]
  intro condition hcondition
  obtain ⟨fragment, hfragment, rfl⟩ := List.mem_map.1 hcondition
  have htyped := h clause fragment hfragment
  rcases hclause with rfl | rfl
  · exact htyped
  · exact htyped

end Blueprint.Typed

def Query.Typed (size : Nat) (query : Query) : Prop :=
  query.connection < size ∧ query.blueprint.Typed

theorem Query.invariant_typed : Query.Invariant Query.Typed where
  mono h hmore := ⟨lt_of_lt_of_le h.1 hmore, h.2⟩
  linked h := h.1
  fresh h _ _ := ⟨h, Blueprint.Typed.empty .select⟩
  select h := h

/-! ### Steps on a query -/

theorem Value.Textual.comparable {value : Value} (h : value.Textual) : value.Comparable := by
  cases value with
  | group members => exact h.elim
  | _ => exact h.nameable

theorem Blueprint.Typed.comparable {blueprint : Blueprint} (h : blueprint.Typed) {clause : Clause}
    (hclause : clause = .where ∨ clause = .having) :
    (Value.group ((blueprint.fragments clause).map Fragment.toValue)).Comparable :=
  h.conditions hclause

theorem Fragment.typed_condition {clause : Clause} (hclause : clause = .where ∨ clause = .having)
    {column value operator keyword : Value} (hcolumn : column.Comparable) (hvalue : value.Bindable)
    (hoperator : operator.Textual) (hkeyword : keyword.Textual) :
    (Fragment.of [("column", column), ("value", value), ("operator", operator),
      ("boolean", keyword)]).Typed clause := by
  have hcondition : (Fragment.of [("column", column), ("value", value), ("operator", operator),
      ("boolean", keyword)]).condition.Typed := by
    cases column with
    | group members => exact ⟨hkeyword, hcolumn⟩
    | _ => exact ⟨hkeyword, hcolumn, hoperator, hvalue⟩
  rcases hclause with rfl | rfl
  · exact hcondition
  · exact hcondition

namespace Query

variable {query changed : Query} (h : query.blueprint.Typed)
include h

theorem typed_addTable {table aliasName : Value} (htable : table.Textual)
    (halias : aliasName.Nameable) : (query.addTable table aliasName).blueprint.Typed :=
  h.add .tables ⟨htable.asTable.nameable, halias⟩

theorem typed_addColumn {column aliasName : Value} (hcolumn : column.Textual)
    (halias : aliasName.Nameable) : (query.addColumn column aliasName).blueprint.Typed := by
  have hcleared : ∀ fresh : Bool, (if column.isWildcard || fresh then query.reset .columns
      else query).blueprint.Typed := by
    intro fresh
    split
    · exact h.reset .columns
    · exact h
  rw [addColumn]
  split
  · exact (hcleared _).add .columns ⟨hcolumn.nameable, halias⟩
  · exact (hcleared _).add .columns ⟨hcolumn.asColumn.nameable, halias⟩

theorem typed_setTable {table aliasName : Value} (htable : table.Textual)
    (halias : aliasName.Nameable) : (query.setTable table aliasName).blueprint.Typed := by
  have hadded := typed_addTable h htable halias
  rw [setTable]
  split
  · exact typed_addColumn hadded trivial (.inr trivial)
  · exact hadded

theorem typed_setLimit {limit offset : Value} (hlimit : limit.Whole)
    (hoffset : offset = .null ∨ offset.Whole) : (query.setLimit limit offset).blueprint.Typed :=
  (h.reset .limit).add .limit ⟨hlimit, hoffset⟩

end Query

def Edit.Typed : Edit → Prop
  | table name aliasName | fromTable name aliasName | column name aliasName =>
      name.Textual ∧ aliasName.Nameable
  | join name first second operator kind =>
      name.Textual ∧ first.Comparable ∧ second.Nameable ∧ operator.Textual ∧ kind.Textual
  | condition clause operand value operator keyword =>
      (clause = .where ∨ clause = .having) ∧ operand.Comparable ∧ value.Bindable ∧
        operator.Textual ∧ keyword.Textual
  | group name => name.Textual
  | order name sort => name.Textual ∧ sort.Textual
  | limit number offset => number.Whole ∧ (offset = .null ∨ offset.Whole)
  | page number size => number.Whole ∧ (size = .null ∨ size.Whole)
  | union other => ∃ id, other = .query id

theorem Query.typed_setPage {query changed : Query} (h : query.blueprint.Typed)
    {page size : Value} (hpage : page.Whole) (hsize : size = .null ∨ size.Whole)
    (hchange : query.setPage page size = .ok changed) : changed.blueprint.Typed := by
  obtain ⟨number, rfl⟩ := hpage
  have hleast : ∃ least, (Value.int number).atLeastOne = .ok (.whole least) := by
    simp only [Value.atLeastOne, Value.number?]
    split
    · exact ⟨_, rfl⟩
    · exact ⟨_, rfl⟩
  obtain ⟨least, hleast⟩ := hleast
  rcases hsize with rfl | ⟨rows, rfl⟩
  · rw [setPage, hleast] at hchange
    obtain rfl := Except.ok.inj hchange
    exact typed_setLimit h ⟨_, rfl⟩ (.inr ⟨_, rfl⟩)
  · simp only [setPage, hleast] at hchange
    obtain rfl := Except.ok.inj hchange
    exact typed_setLimit h ⟨rows, rfl⟩ (.inr ⟨_, rfl⟩)

theorem Edit.Typed.change {edit : Edit} (hedit : edit.Typed) {query changed : Query}
    (h : query.blueprint.Typed) (hchange : edit.change query = .ok changed) :
    changed.blueprint.Typed := by
  cases edit with
  | table name aliasName =>
      obtain rfl := Except.ok.inj hchange
      exact Query.typed_setTable h hedit.1 hedit.2
  | fromTable name aliasName =>
      obtain rfl := Except.ok.inj hchange
      exact Query.typed_addTable h hedit.1 hedit.2
  | column name aliasName =>
      obtain rfl := Except.ok.inj hchange
      exact Query.typed_addColumn h hedit.1 hedit.2
  | join table first second operator kind =>
      obtain ⟨htable, hfirst, hsecond, hoperator, hkind⟩ := hedit
      obtain ⟨capital, hcapital, hchange⟩ := bind_eq_ok.1 hchange
      obtain rfl := pure_eq_ok.1 hchange
      exact h.add .join ⟨htable.asTable.nameable, hfirst, hsecond.asTable, hoperator,
        hkind.capitals hcapital⟩
  | condition clause column value operator keyword =>
      obtain ⟨hclause, hcolumn, hvalue, hoperator, hkeyword⟩ := hedit
      obtain ⟨capital, hcapital, hchange⟩ := bind_eq_ok.1 hchange
      obtain rfl := pure_eq_ok.1 hchange
      exact h.add clause (Fragment.typed_condition hclause hcolumn hvalue.boundValue hoperator
        (hkeyword.capitals hcapital))
  | group column =>
      obtain rfl := Except.ok.inj hchange
      exact h.add .group hedit.asColumn.nameable
  | order column sort =>
      obtain ⟨capital, hcapital, hchange⟩ := bind_eq_ok.1 hchange
      obtain rfl := pure_eq_ok.1 hchange
      exact h.add .order ⟨hedit.1.asColumn.nameable, hedit.2.capitals hcapital⟩
  | limit limit offset =>
      obtain rfl := Except.ok.inj hchange
      exact Query.typed_setLimit h hedit.1 hedit.2
  | page page size => exact Query.typed_setPage h hedit.1 hedit.2 hchange
  | union other =>
      obtain ⟨id, rfl⟩ := hedit
      obtain rfl := Except.ok.inj hchange
      exact h.add .union ⟨id, rfl⟩

/-! ### Calls -/

variable {κ σ : Type}

/-- A text or an argument, or a callback that leaves all queries well typed. -/
def Operand.Typed : Operand κ σ → Prop
  | .value given => given.Textual
  | .callback _ fill => ∀ id, Ensures Query.Typed (fill id) fun _ => True

/-- A call with values of the right kinds. The data of a write is what its rows and entries amount
to; data that amounts to none is refused. -/
def Call.Typed : Call κ σ → Prop
  | table name aliasName | fromTable name aliasName | column name aliasName =>
      name.Textual ∧ aliasName.Nameable
  | join name operand second operator kind =>
      name.Textual ∧ operand.Typed ∧ second.Nameable ∧ operator.Textual ∧ kind.Textual
  | leftJoin name operand second operator | rightJoin name operand second operator =>
      name.Textual ∧ operand.Typed ∧ second.Nameable ∧ operator.Textual
  | filter operand value operator keyword | having operand value operator keyword =>
      operand.Typed ∧ value.Bindable ∧ operator.Textual ∧ keyword.Textual
  | orFilter operand value operator => operand.Typed ∧ value.Bindable ∧ operator.Textual
  | filterColumn operand second operator keyword | havingColumn operand second operator keyword =>
      operand.Typed ∧ second.Textual ∧ operator.Textual ∧ keyword.Textual
  | filterIn operand _ keyword | filterNotIn operand _ keyword | filterNull operand keyword
  | filterNotNull operand keyword => operand.Typed ∧ keyword.Textual
  | group name => name.Textual
  | order name sort => name.Textual ∧ sort.Textual
  | limit number offset => number.Whole ∧ (offset = .null ∨ offset.Whole)
  | page number size => number.Whole ∧ (size = .null ∨ size.Whole)
  | union other => ∃ id, other = .query id
  | count name | sum name | minimum name | maximum name | average name => name.Nameable
  | insert data => ∀ rows, Query.insertRows data = .ok rows → ∀ row ∈ rows, row.Keyed
  | upsert data changes index =>
      (∀ rows, Query.insertRows data = .ok rows → ∀ row ∈ rows, row.Keyed) ∧
        (∀ entries, changes.toEntries = .ok entries → entries.Keyed) ∧
        ∀ names, index.items = .ok names → ∀ name ∈ names, name.Nameable
  | update data => ∀ entries, data.toEntries = .ok entries → entries.Keyed
  | select _ | rows | first | delete | truncate => True

namespace Operand.Typed

variable {operand : Operand κ σ}

theorem keeps (h : operand.Typed) : operand.Keeps Query.Typed := by
  cases operand with
  | value given => trivial
  | callback mark fill => exact h

/-- What an operand stands for can be put in the place of a column. -/
theorem comparable (h : operand.Typed) {clause : Clause}
    (hclause : clause = .where ∨ clause = .having) {reference : Value → Value}
    (hreference : ∀ given : Value, given.Textual → (reference given).Textual) {settled : Value}
    (hsettled : operand.Stands Query.Typed clause reference settled) : settled.Comparable := by
  cases operand with
  | value given =>
      obtain rfl := hsettled
      exact (hreference given h).comparable
  | callback mark fill =>
      obtain ⟨size, query, hquery, rfl⟩ := hsettled
      exact hquery.2.comparable hclause

end Operand.Typed

namespace Description

theorem keeps_typed {description : Description κ σ}
    (hoperand : description.operand.Keeps Query.Typed)
    (hedit : ∀ {value settled : Value}, description.value = .ok value →
      description.operand.Stands Query.Typed description.clause description.reference settled →
      (description.edit value settled).Typed) : description.Keeps Query.Typed where
  operand := hoperand
  edit hvalue hsettled _ _ _ hquery hchanged := by
    refine ⟨?_, (hedit hvalue hsettled).change hquery.2 hchanged⟩
    rw [(Edit.akin hchanged).connection]
    exact hquery.1

theorem keeps_plain {edit : Edit} (h : edit.Typed) :
    (plain edit : Description κ σ).Keeps Query.Typed :=
  keeps_typed trivial fun _ _ => h

theorem keeps_join {table second operator kind : Value} {first : Operand κ σ}
    (htable : table.Textual) (hfirst : first.Typed) (hsecond : second.Nameable)
    (hoperator : operator.Textual) (hkind : kind.Textual) :
    (join table first second operator kind).Keeps Query.Typed :=
  keeps_typed hfirst.keeps fun _ hsettled =>
    ⟨htable, hfirst.comparable (.inl rfl) (fun _ => Value.Textual.asTable) hsettled, hsecond,
      hoperator, hkind⟩

theorem keeps_condition {clause : Clause} (hclause : clause = .where ∨ clause = .having)
    {column : Operand κ σ} {value : Except Error Value} {operator keyword : Value}
    (hcolumn : column.Typed) (hvalue : ∀ given, value = .ok given → given.Bindable)
    (hoperator : operator.Textual) (hkeyword : keyword.Textual) :
    (condition clause column value operator keyword).Keeps Query.Typed :=
  keeps_typed hcolumn.keeps fun hgiven hsettled =>
    ⟨hclause, hcolumn.comparable hclause (fun _ => Value.Textual.asColumn) hsettled,
      hvalue _ hgiven, hoperator, hkeyword⟩

end Description

namespace Call.Typed

variable {call : Call κ σ}

theorem bindable_items (values given : Value) (h : Value.list <$> values.items = .ok given) :
    given.Bindable := by
  obtain ⟨items, -, rfl⟩ := map_eq_ok.1 h
  exact Value.bindable_of_not_argument rfl

theorem bindable_ok {value given : Value} (hvalue : value.Bindable)
    (h : (Except.ok value : Except Error Value) = .ok given) : given.Bindable :=
  Except.ok.inj h ▸ hvalue

theorem describes (h : call.Typed) {description : Description κ σ}
    (hdescription : call.description? = some description) :
    description.Keeps Query.Typed := by
  cases call with
  | table name aliasName | fromTable name aliasName | column name aliasName =>
      obtain rfl := Option.some.inj hdescription
      exact Description.keeps_plain h
  | group name | order name sort | limit number offset | page number size | union other =>
      obtain rfl := Option.some.inj hdescription
      exact Description.keeps_plain h
  | join name operand second operator kind =>
      obtain rfl := Option.some.inj hdescription
      obtain ⟨hname, hoperand, hsecond, hoperator, hkind⟩ := h
      exact Description.keeps_join hname hoperand hsecond hoperator hkind
  | leftJoin name operand second operator | rightJoin name operand second operator =>
      obtain rfl := Option.some.inj hdescription
      obtain ⟨hname, hoperand, hsecond, hoperator⟩ := h
      exact Description.keeps_join hname hoperand hsecond hoperator trivial
  | filter operand value operator keyword =>
      obtain rfl := Option.some.inj hdescription
      obtain ⟨hoperand, hvalue, hoperator, hkeyword⟩ := h
      exact Description.keeps_condition (.inl rfl) hoperand (fun _ => bindable_ok hvalue) hoperator
        hkeyword
  | orFilter operand value operator =>
      obtain rfl := Option.some.inj hdescription
      obtain ⟨hoperand, hvalue, hoperator⟩ := h
      exact Description.keeps_condition (.inl rfl) hoperand (fun _ => bindable_ok hvalue) hoperator
        trivial
  | filterColumn operand second operator keyword =>
      obtain rfl := Option.some.inj hdescription
      obtain ⟨hoperand, hsecond, hoperator, hkeyword⟩ := h
      exact Description.keeps_condition (.inl rfl) hoperand
        (fun _ => bindable_ok hsecond.asColumn.bindable) hoperator hkeyword
  | filterIn operand values keyword | filterNotIn operand values keyword =>
      obtain rfl := Option.some.inj hdescription
      exact Description.keeps_condition (.inl rfl) h.1 (bindable_items values) trivial h.2
  | filterNull operand keyword | filterNotNull operand keyword =>
      obtain rfl := Option.some.inj hdescription
      exact Description.keeps_condition (.inl rfl) h.1
        (fun _ => bindable_ok fun _ => ⟨trivial, trivial⟩) trivial h.2
  | having operand value operator keyword =>
      obtain rfl := Option.some.inj hdescription
      obtain ⟨hoperand, hvalue, hoperator, hkeyword⟩ := h
      exact Description.keeps_condition (.inr rfl) hoperand (fun _ => bindable_ok hvalue) hoperator
        hkeyword
  | havingColumn operand second operator keyword =>
      obtain rfl := Option.some.inj hdescription
      obtain ⟨hoperand, hsecond, hoperator, hkeyword⟩ := h
      exact Description.keeps_condition (.inr rfl) hoperand
        (fun _ => bindable_ok hsecond.asColumn.bindable) hoperator hkeyword
  | select _ | rows | first | count _ | sum _ | minimum _ | maximum _ | average _ =>
      cases hdescription
  | insert _ | upsert _ _ _ | update _ | delete | truncate => cases hdescription

/-- Data that is refused leaves its clause empty, and other data is what it amounts to. -/
theorem prepare_data {type : StatementType} {clause : Clause}
    {data : Except Error (List (String × Value))} {single : Option Value}
    (h : ∀ attributes, data = .ok attributes → (Fragment.of attributes).Typed clause)
    {size : Nat} {query : Query} (hquery : query.Typed size) :
    (Command.prepare ⟨type, some (clause, data), single⟩ query).2.Typed size := by
  cases data with
  | error cause => exact ⟨hquery.1, hquery.2.reset clause⟩
  | ok attributes => exact ⟨hquery.1, (hquery.2.reset clause).add clause (h attributes rfl)⟩

theorem prepare (h : call.Typed) {command : Command} (hcommand : call.command? = some command)
    {size : Nat} {query : Query} (hquery : query.Typed size) :
    (command.prepare query).2.Typed size := by
  cases call with
  | select _ | rows | first | delete | truncate =>
      obtain rfl := Option.some.inj hcommand
      exact hquery
  | insert data =>
      obtain rfl := Option.some.inj hcommand
      refine prepare_data (fun attributes hattributes => ?_) hquery
      obtain ⟨rows, hrows, hattributes⟩ := bind_eq_ok.1 hattributes
      obtain rfl := pure_eq_ok.1 hattributes
      exact ⟨⟨rows, rfl, h rows hrows⟩, .inl rfl, .inl rfl⟩
  | upsert data changes index =>
      obtain rfl := Option.some.inj hcommand
      obtain ⟨hdata, hchanges, hindex⟩ := h
      refine prepare_data (fun attributes hattributes => ?_) hquery
      obtain ⟨rows, hrows, hattributes⟩ := bind_eq_ok.1 hattributes
      obtain ⟨entries, hentries, hattributes⟩ := bind_eq_ok.1 hattributes
      obtain ⟨names, hnames, hattributes⟩ := bind_eq_ok.1 hattributes
      obtain rfl := pure_eq_ok.1 hattributes
      exact ⟨⟨rows, rfl, hdata rows hrows⟩, .inr ⟨entries, rfl, hchanges entries hentries⟩,
        .inr ⟨names, rfl, hindex names hnames⟩⟩
  | update data =>
      obtain rfl := Option.some.inj hcommand
      refine prepare_data (fun attributes hattributes => ?_) hquery
      obtain ⟨entries, hentries, hattributes⟩ := bind_eq_ok.1 hattributes
      obtain rfl := pure_eq_ok.1 hattributes
      exact ⟨entries, rfl, h entries hentries⟩
  | _ => cases hcommand

theorem aggregate (h : call.Typed) {function name : String} {column : Value}
    (haggregate : call.aggregate? = some (function, name, column)) {size : Nat} {query : Query}
    (hquery : query.Typed size) : (query.aggregate function name column).Typed size := by
  have hcolumn : column.Nameable := by
    cases call with
    | count _ | sum _ | minimum _ | maximum _ | average _ =>
        cases haggregate
        exact h
    | _ => cases haggregate
  have hargument : (Value.method function
      [if column.truthy then column else .text Identifier.wildcard]).Textual := by
    refine ⟨trivial, ?_, trivial⟩
    rcases hcolumn with rfl | hcolumn
    · exact trivial
    · split
      · exact hcolumn.plain
      · exact trivial
  refine ⟨?_, Query.typed_addColumn (hquery.2.reset .columns) hargument (.inr trivial)⟩
  rw [Query.aggregate, (Query.Akin.addColumn _ _ _).connection]
  exact hquery.1

theorem keeps (h : call.Typed) : call.Keeps Query.Typed where
  describes := h.describes
  prepare hcommand _ _ hquery := h.prepare hcommand hquery
  aggregate haggregate _ _ hquery := h.aggregate haggregate hquery

end Call.Typed

/-- What a program does that makes well typed calls. It does not walk over pages, which it would
make out of what it reads, nor does it touch on blueprints but by calls. -/
def Operation.Typed : Operation κ σ → Prop
  | call made => made.Typed
  | setModel _ | clone | build | dump => True
  | chunk .. | edit _ => False

def Move.Typed : Move κ σ → Prop
  | operate _ operation => operation.Typed
  | connect _ | create _ _ => True

theorem Move.Typed.keeps {move : Move κ σ} (h : move.Typed) : move.Keeps Query.Typed := by
  cases move with
  | connect _ | create _ _ => trivial
  | operate id operation =>
      cases operation with
      | call made => exact Call.Typed.keeps h
      | setModel model => exact fun hquery => hquery
      | clone | build | dump => trivial
      | chunk _ _ _ _ | edit _ => exact h.elim

/-- All queries that well typed moves lead to are well typed. -/
theorem Session.typed_progress [Connection κ] {moves : List (Move κ σ)}
    (h : ∀ move ∈ moves, move.Typed) {session : Session κ σ}
    (hsession : session.Holds Query.Typed) : (session.progress moves).Holds Query.Typed :=
  hsession.progress Query.invariant_typed fun move hmove => (h move hmove).keeps

end SqlBuilder
