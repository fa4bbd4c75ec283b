import SqlBuilder.Assoc
import SqlBuilder.Clause
import SqlBuilder.Fragment

/-!
# Blueprints

A blueprint describes one statement: its type and, for each clause, a list of fragments. A clause is
there from the first time it is touched on; an untouched clause and an empty one read the same, and
only the description of a blueprint, which counts the fragments of every touched clause in the order
of the first touch, tells them apart.
-/

namespace SqlBuilder

structure Blueprint where
  type : StatementType
  clauses : List (Clause × List Fragment)
deriving Inhabited

namespace Blueprint

def empty (type : StatementType) : Blueprint :=
  ⟨type, []⟩

def fragments (blueprint : Blueprint) (clause : Clause) : List Fragment :=
  (Assoc.find? blueprint.clauses clause).getD []

def first? (blueprint : Blueprint) (clause : Clause) : Option Fragment :=
  (blueprint.fragments clause).head?

def has (blueprint : Blueprint) (clause : Clause) : Bool :=
  !(blueprint.fragments clause).isEmpty

/-- Replaces the fragments of a clause, which keeps its place among the touched ones. -/
def replace (blueprint : Blueprint) (clause : Clause) (fragments : List Fragment) : Blueprint :=
  { blueprint with clauses := Assoc.place blueprint.clauses clause fragments }

def add (blueprint : Blueprint) (clause : Clause) (fragment : Fragment) : Blueprint :=
  blueprint.replace clause (blueprint.fragments clause ++ [fragment])

def reset (blueprint : Blueprint) (clause : Clause) : Blueprint :=
  blueprint.replace clause []

/-- Takes away the last fragment of a clause. -/
def pop (blueprint : Blueprint) (clause : Clause) : Option Fragment × Blueprint :=
  match (blueprint.fragments clause).getLast? with
  | some fragment =>
      (some fragment, blueprint.replace clause (blueprint.fragments clause).dropLast)
  | none => (none, blueprint)

/-- Takes away the first fragment of a clause. -/
def shift (blueprint : Blueprint) (clause : Clause) : Option Fragment × Blueprint :=
  match blueprint.fragments clause with
  | fragment :: rest => (some fragment, blueprint.replace clause rest)
  | [] => (none, blueprint)

def withType (blueprint : Blueprint) (type : StatementType) : Blueprint :=
  { blueprint with type }

/-- The type and the number of fragments of every touched clause. -/
def description (blueprint : Blueprint) : String :=
  "Blueprint(type=" ++ Text.quoted blueprint.type.name ++ ", fragments=" ++
    braced (commaSeparated (blueprint.clauses.map fun entry =>
      Text.quoted entry.1.name ++ ": " ++ toString entry.2.length)) ++ ")"

@[simp] theorem fragments_replace (blueprint : Blueprint) (clause other : Clause)
    (fragments : List Fragment) :
    (blueprint.replace clause fragments).fragments other =
      if clause == other then fragments else blueprint.fragments other := by
  simp only [Blueprint.fragments, replace, Assoc.find?_place]
  cases clause == other <;> simp

@[simp] theorem fragments_add (blueprint : Blueprint) (clause other : Clause)
    (fragment : Fragment) :
    (blueprint.add clause fragment).fragments other =
      if clause == other then blueprint.fragments other ++ [fragment]
      else blueprint.fragments other := by
  rw [add, fragments_replace]
  by_cases h : clause = other
  · rw [h]
  · simp [h]

@[simp] theorem fragments_reset (blueprint : Blueprint) (clause other : Clause) :
    (blueprint.reset clause).fragments other =
      if clause == other then [] else blueprint.fragments other := by
  rw [reset, fragments_replace]

@[simp] theorem fragments_withType (blueprint : Blueprint) (type : StatementType)
    (clause : Clause) :
    (blueprint.withType type).fragments clause = blueprint.fragments clause := rfl

end Blueprint

/-- A statement type given by its name. -/
def StatementType.read (value : Value) : Except Error StatementType :=
  match value with
  | .text name =>
      match StatementType.ofName? name with
      | some type => .ok type
      | none => .error (.notAMember value .statementType)
  | _ => .error (.notAMember value .statementType)

/-- A clause given by its name. -/
def Clause.read (value : Value) : Except Error Clause :=
  match value with
  | .text name =>
      match Clause.ofName? name with
      | some clause => .ok clause
      | none => .error (.notAMember value .clause)
  | _ => .error (.notAMember value .clause)

end SqlBuilder
