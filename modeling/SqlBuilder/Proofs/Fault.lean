import SqlBuilder.Proofs.Writable
import SqlBuilder.Store
import Mathlib.Data.Finset.Dedup

/-!
# What is wrong with a statement

The faults of a statement are read off its snapshot without compiling it: a table that is missing,
data that is missing, rows that do not fit the first, a list of values that is empty, a number that
is to be written and has too many digits. They are listed in the order in which the compiler comes
upon them, so the first of them is the one that is reported. A clause that the statement does not
have has no faults, whatever its fragments are.
-/

namespace SqlBuilder

open Outcome

/-- A clause that cannot be compiled, or a number that cannot be written. -/
inductive Fault where
  | refused (clause : Clause)
  | unwritable
deriving DecidableEq

/-- The fault that a failure reports. -/
def Error.fault? : Error → Option Fault
  | .badValue => some .unwritable
  | cause => cause.clause?.map Fault.refused

theorem Error.fault?_refused {cause : Error} {clause : Clause} :
    cause.fault? = some (.refused clause) ↔ cause.clause? = some clause := by
  cases cause <;> simp [fault?, clause?]

theorem Error.fault?_unwritable {cause : Error} :
    cause.fault? = some .unwritable ↔ cause = .badValue := by
  cases cause <;> simp [fault?, clause?]

/-! ### The faults of a statement -/

/-- The numbers that are too long to be written. -/
def Fault.ofNumbers (numbers : List Int) : List Fault :=
  (numbers.filter Decimal.isTooLong).map fun _ => .unwritable

namespace Value

mutual

/-- The whole numbers that are written where a value stands in a statement. -/
def writtenNumbers : Value → List Int
  | text _ | query _ => []
  | argument .raw value _ => value.writtenNumbers
  | argument .method value parameters => parameterNumbers parameters ++ value.writtenNumbers
  | argument .column value parameters | argument .table value parameters =>
      if value.isWildcard then [] else value.writtenNumbers ++ aliasNumbers parameters
  | value => value.numbers

def parameterNumbers : List Value → List Int
  | [] => []
  | value :: rest => value.writtenNumbers ++ parameterNumbers rest

def aliasNumbers : List Value → List Int
  | [] => []
  | value :: _ => if value.truthy then value.writtenNumbers else []

end

def faults (value : Value) : List Fault :=
  Fault.ofNumbers value.writtenNumbers

/-- A value that is bound has no faults; only an argument is written. -/
def assignedFaults (value : Value) : List Fault :=
  if value.isArgument then value.faults else []

def isEmptyList : Value → Bool
  | list [] | tuple [] | set [] | frozenset [] => true
  | _ => false

/-- The faults of what a condition compares with. -/
def operandFaults (clause : Clause) (value : Value) : List Fault :=
  if value.isEmptyList then [.refused clause] else value.assignedFaults

def listed : Value → List Value
  | list items => items
  | _ => []

def columnNames : Value → List String
  | map entries => entries.filterMap fun entry =>
      match entry.1 with
      | text name => some name
      | _ => none
  | _ => []

def cell (row : Value) (name : String) : Value :=
  match row with
  | map entries => Entries.read entries name
  | _ => null

def assignmentFaults : Value → List Fault
  | map entries => entries.flatMap fun entry => entry.1.faults ++ entry.2.assignedFaults
  | _ => []

end Value

namespace Condition

mutual

/-- The faults of a comparison are those of its operand, and of all that is written around it; a
group has those of its conditions, at any depth, and of its keyword. -/
def faults (clause : Clause) : Condition → List Fault
  | comparison keyword column operator value =>
      value.operandFaults clause ++ [keyword, column, operator].flatMap Value.faults
  | group _ [] => []
  | group keyword members => levelFaults clause members ++ keyword.faults
  | malformed _ => []

def levelFaults (clause : Clause) : List Condition → List Fault
  | [] => []
  | condition :: rest => condition.faults clause ++ levelFaults clause rest

end

end Condition

/-- A row has the given columns, in whatever order, or it is refused. -/
def rowFaults (names : List String) (row : Value) : List Fault :=
  if row.columnNames.toFinset = names.toFinset then
    names.flatMap fun name => (row.cell name).assignedFaults
  else [.refused .insert]

/-- There has to be a row, and the first one has to have a column. -/
def batchFaults : List Value → List Fault
  | [] => [.refused .insert]
  | first :: rest =>
      if first.columnNames = [] then [.refused .insert]
      else (first :: rest).flatMap (rowFaults first.columnNames)

namespace Blueprint

variable (blueprint : Blueprint)

/-- The faults of what the fragments of a clause write under the given names. -/
def writtenFaults (clause : Clause) (names : List String) : List Fault :=
  (blueprint.fragments clause).flatMap fun fragment =>
    names.flatMap fun name => (fragment.read name).faults

/-- A join on a group of conditions is refused as they are. -/
def joinFaults : List Fault :=
  (blueprint.fragments .join).flatMap fun fragment =>
    (fragment.read "table").faults ++
      (match fragment.read "first" with
        | .group members => Condition.levelFaults .join (Condition.ofMembers members)
        | first =>
            [first, fragment.read "operator", fragment.read "second"].flatMap Value.faults) ++
      (fragment.read "type").faults

def conditionFaults (clause : Clause) : List Fault :=
  Condition.levelFaults clause (Condition.ofFragments (blueprint.fragments clause))

def windowFaults : List Fault :=
  match blueprint.first? .limit with
  | none => []
  | some fragment => [fragment.read "offset", fragment.read "limit"].flatMap Value.faults

def demandFaults : List Fault :=
  if blueprint.has .tables then [] else [.refused .tables]

def tableFaults : List Fault :=
  blueprint.writtenFaults .tables ["table", "alias"]

def orderFaults : List Fault :=
  blueprint.writtenFaults .order ["column", "sort"]

def insertFaults : List Fault :=
  match blueprint.first? .insert with
  | none => [.refused .insert]
  | some fragment => batchFaults (fragment.read "insert").listed

/-- For SQLite an upsert has to say which columns are not to collide. -/
def targetFaults (dialect : Dialect) (fragment : Fragment) : List Fault :=
  match dialect with
  | .mysql => []
  | .sqlite =>
      if (fragment.read "index").listed = [] then [.refused .insert]
      else (fragment.read "index").listed.flatMap Value.faults

/-- The faults of what follows on the rows of an upsert. -/
def tailFaults (dialect : Dialect) : List Fault :=
  match blueprint.first? .insert with
  | none => []
  | some fragment => targetFaults dialect fragment ++ (fragment.read "update").assignmentFaults

def updateFaults : List Fault :=
  match blueprint.first? .update with
  | none => [.refused .update]
  | some fragment =>
      if (fragment.read "update").columnNames = [] then [.refused .update]
      else (fragment.read "update").assignmentFaults

/-- The faults of a statement in the order of its clauses; those of the members of its union come
last. -/
def faults (dialect : Dialect) (members : List Fault) : List Fault :=
  match blueprint.type with
  | .select =>
      blueprint.writtenFaults .columns ["column", "alias"] ++ blueprint.tableFaults ++
        blueprint.joinFaults ++ blueprint.conditionFaults .where ++
        blueprint.writtenFaults .group ["column"] ++ blueprint.conditionFaults .having ++
        blueprint.orderFaults ++ blueprint.windowFaults ++ members
  | .insert => blueprint.demandFaults ++ blueprint.tableFaults ++ blueprint.insertFaults
  | .upsert =>
      blueprint.demandFaults ++ blueprint.tableFaults ++ blueprint.insertFaults ++
        blueprint.tailFaults dialect
  | .update =>
      blueprint.demandFaults ++ blueprint.tableFaults ++ blueprint.updateFaults ++
        blueprint.conditionFaults .where ++ blueprint.orderFaults ++ blueprint.windowFaults
  | .delete =>
      blueprint.demandFaults ++ blueprint.tableFaults ++ blueprint.conditionFaults .where ++
        blueprint.orderFaults ++ blueprint.windowFaults
  | .truncate => blueprint.demandFaults ++ blueprint.tableFaults

end Blueprint

mutual

def Member.faults (dialect : Dialect) : Member → List Fault
  | .statement blueprint members => blueprint.faults dialect (Member.allFaults dialect members)
  | .invalid _ => []

/-- The faults of the members of a union, one after the other. -/
def Member.allFaults (dialect : Dialect) : List Member → List Fault
  | [] => []
  | member :: rest => member.faults dialect ++ Member.allFaults dialect rest

end

def Snapshot.faults (dialect : Dialect) (snapshot : Snapshot) : List Fault :=
  snapshot.blueprint.faults dialect (Member.allFaults dialect snapshot.members)

/-- What is wrong with the statement that a query is now. The members of its union are statements of
its own dialect. -/
def Store.faults (store : Store) (query : Query) : List Fault :=
  (store.snapshot query.blueprint).faults query.compiler.dialect

/-- The faults of the statement that stands behind a fragment of a union. -/
def Store.memberFaults (store : Store) (dialect : Dialect) (fragment : Fragment) : List Fault :=
  match store.resolve (fragment.read "query") with
  | .ok member => (store.snapshot member).faults dialect
  | .error _ => []

/-! ### Ending with the first fault -/

variable {α β : Type}

/-- A computation has an answer if there are no faults, and fails with the first one otherwise. -/
inductive Ends : Except Error α → List Fault → Prop where
  | ok (answer : α) : Ends (.ok answer) []
  | error {cause : Error} {fault : Fault} (h : cause.fault? = some fault) (rest : List Fault) :
      Ends (.error cause) (fault :: rest)

namespace Ends

variable {result : Except Error α} {first second faults : List Fault}

theorem of_succeeds (h : Succeeds result fun _ => True) : Ends result [] := by
  obtain ⟨answer, rfl, -⟩ := h
  exact .ok answer

theorem bind {next : α → Except Error β} (h : Ends result first)
    (hnext : ∀ answer, result = .ok answer → Ends (next answer) second) :
    Ends (result >>= next) (first ++ second) := by
  cases h with
  | ok answer => exact hnext answer rfl
  | error hcause rest => exact .error hcause _

theorem after {post : α → Prop} {next : α → Except Error β} (h : Succeeds result post)
    (hnext : ∀ answer, post answer → Ends (next answer) faults) :
    Ends (result >>= next) faults := by
  obtain ⟨answer, rfl, hanswer⟩ := h
  exact hnext answer hanswer

theorem map {f : α → β} (h : Ends result faults) : Ends (f <$> result) faults := by
  cases h with
  | ok answer => exact .ok _
  | error hcause rest => exact .error hcause rest

theorem before {next : α → Except Error β} (h : Ends result faults)
    (hnext : ∀ answer, result = .ok answer → Succeeds (next answer) fun _ => True) :
    Ends (result >>= next) faults := by
  have hbind := h.bind fun answer hanswer => of_succeeds (hnext answer hanswer)
  rwa [List.append_nil] at hbind

theorem mapM {f : α → Except Error β} {supply : α → List Fault} {items : List α}
    (h : ∀ item ∈ items, Ends (f item) (supply item)) :
    Ends (items.mapM f) (items.flatMap supply) := by
  induction items with
  | nil => exact .ok []
  | cons item rest ih =>
      obtain ⟨hitem, hrest⟩ := List.forall_mem_cons.1 h
      rw [List.mapM_cons, List.flatMap_cons]
      exact hitem.bind fun _ _ => (ih hrest).before fun _ _ => .ok trivial

theorem mapM_id {results : List (Except Error α)} {supplies : List (List Fault)}
    (h : List.Forall₂ Ends results supplies) : Ends (results.mapM id) supplies.flatten := by
  induction h with
  | nil => exact .ok []
  | cons hfirst _ ih =>
      rw [List.mapM_cons, List.flatten_cons]
      exact hfirst.bind fun _ _ => ih.before fun _ _ => .ok trivial

/-- A computation that ends with its first fault has an answer just if there is none. -/
theorem exists_ok_iff (h : Ends result faults) : (∃ answer, result = .ok answer) ↔ faults = [] := by
  cases h with
  | ok answer => simp
  | error hcause rest => simp

theorem clause?_iff (h : Ends result faults) (clause : Clause) :
    (∃ cause, result = .error cause ∧ cause.clause? = some clause) ↔
      faults.head? = some (.refused clause) := by
  cases h with
  | ok answer => simp
  | error hcause rest => simp [← Error.fault?_refused, hcause]

theorem badValue_iff (h : Ends result faults) :
    result = .error .badValue ↔ faults.head? = some .unwritable := by
  cases h with
  | ok answer => simp
  | error hcause rest => simp [← Error.fault?_unwritable, hcause]

end Ends

end SqlBuilder
