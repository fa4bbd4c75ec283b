import SqlBuilder.Blueprint
import SqlBuilder.Proofs.Outcome
import Mathlib.Logic.Function.Basic

/-!
# What a blueprint holds

A blueprint lists the clauses that have been touched, in the order of the first touch. What it holds
is less than that: for each clause its fragments, and none for a clause that nobody has touched.
Whatever is done with blueprints, however many there are and however they are copied, every answer
is that of the total maps from clauses to fragments which they stand for. So nothing that is done
with a blueprint later tells a clause that is empty from one that was never touched.
-/

namespace SqlBuilder

open Outcome

/-- A statement type, and a list of fragments for each clause. -/
@[ext]
structure ClauseMap where
  type : StatementType
  fragments : Clause → List Fragment

namespace ClauseMap

def empty (type : StatementType) : ClauseMap :=
  ⟨type, fun _ => []⟩

def withType (contents : ClauseMap) (type : StatementType) : ClauseMap :=
  { contents with type }

def replace (contents : ClauseMap) (clause : Clause) (fragments : List Fragment) : ClauseMap :=
  { contents with fragments := Function.update contents.fragments clause fragments }

end ClauseMap

/-! ### Operations -/

/-- The operations on blueprints, for anything that can stand for one. -/
structure Signature (β : Type) where
  empty : StatementType → β
  type : β → StatementType
  withType : β → StatementType → β
  add : β → Clause → Fragment → β
  pop : β → Clause → Option Fragment × β
  shift : β → Clause → Option Fragment × β
  reset : β → Clause → β
  fragments : β → Clause → List Fragment
  first? : β → Clause → Option Fragment
  has : β → Clause → Bool

namespace Signature

def blueprints : Signature Blueprint where
  empty := Blueprint.empty
  type := Blueprint.type
  withType := Blueprint.withType
  add := Blueprint.add
  pop := Blueprint.pop
  shift := Blueprint.shift
  reset := Blueprint.reset
  fragments := Blueprint.fragments
  first? := Blueprint.first?
  has := Blueprint.has

/-- On a total map, popping takes the last fragment of a list, shifting the first, and from an empty
list both take nothing. -/
def maps : Signature ClauseMap where
  empty := ClauseMap.empty
  type := ClauseMap.type
  withType := ClauseMap.withType
  add contents clause fragment :=
    contents.replace clause (contents.fragments clause ++ [fragment])
  pop contents clause :=
    ((contents.fragments clause).getLast?,
      contents.replace clause (contents.fragments clause).dropLast)
  shift contents clause :=
    ((contents.fragments clause).head?, contents.replace clause (contents.fragments clause).tail)
  reset contents clause := contents.replace clause []
  fragments := ClauseMap.fragments
  first? contents clause := (contents.fragments clause).head?
  has contents clause := !(contents.fragments clause).isEmpty

/-- What the first does to things, the other does to what they mean. -/
structure Means {β γ : Type} (signature : Signature β) (other : Signature γ) (meaning : β → γ) :
    Prop where
  empty : ∀ type, meaning (signature.empty type) = other.empty type
  type : ∀ state, signature.type state = other.type (meaning state)
  withType : ∀ state type,
    meaning (signature.withType state type) = other.withType (meaning state) type
  add : ∀ state clause fragment,
    meaning (signature.add state clause fragment) = other.add (meaning state) clause fragment
  pop : ∀ state clause,
    (signature.pop state clause).map id meaning = other.pop (meaning state) clause
  shift : ∀ state clause,
    (signature.shift state clause).map id meaning = other.shift (meaning state) clause
  reset : ∀ state clause,
    meaning (signature.reset state clause) = other.reset (meaning state) clause
  fragments : ∀ state clause,
    signature.fragments state clause = other.fragments (meaning state) clause
  first? : ∀ state clause, signature.first? state clause = other.first? (meaning state) clause
  has : ∀ state clause, signature.has state clause = other.has (meaning state) clause

end Signature

namespace Blueprint

def contents (blueprint : Blueprint) : ClauseMap :=
  ⟨blueprint.type, blueprint.fragments⟩

theorem contents_replace (blueprint : Blueprint) (clause : Clause) (fragments : List Fragment) :
    (blueprint.replace clause fragments).contents =
      blueprint.contents.replace clause fragments := by
  refine ClauseMap.ext rfl (funext fun other => ?_)
  have hreplaced := blueprint.fragments_replace clause other fragments
  simp only [beq_iff_eq, eq_comm (a := clause)] at hreplaced
  exact hreplaced.trans (Function.update_apply blueprint.fragments clause fragments other).symm

/-- To give a clause the fragments that it has makes no difference, be it touched or not. -/
theorem contents_replace_fragments (blueprint : Blueprint) (clause : Clause) :
    blueprint.contents.replace clause (blueprint.fragments clause) = blueprint.contents :=
  congrArg (ClauseMap.mk blueprint.type) (Function.update_eq_self clause blueprint.fragments)

theorem contents_pop (blueprint : Blueprint) (clause : Clause) :
    (blueprint.pop clause).map id contents = Signature.maps.pop blueprint.contents clause := by
  have hpop : Signature.maps.pop blueprint.contents clause =
      ((blueprint.fragments clause).getLast?,
        blueprint.contents.replace clause (blueprint.fragments clause).dropLast) := rfl
  rw [hpop, pop]
  cases hlast : (blueprint.fragments clause).getLast? with
  | some last => exact congrArg (some last, ·) (contents_replace ..)
  | none =>
      have hnone := List.getLast?_eq_none_iff.1 hlast
      have hsame := blueprint.contents_replace_fragments clause
      rw [hnone] at hsame ⊢
      exact congrArg (none, ·) hsame.symm

theorem contents_shift (blueprint : Blueprint) (clause : Clause) :
    (blueprint.shift clause).map id contents = Signature.maps.shift blueprint.contents clause := by
  have hshift : Signature.maps.shift blueprint.contents clause =
      ((blueprint.fragments clause).head?,
        blueprint.contents.replace clause (blueprint.fragments clause).tail) := rfl
  have hsame := blueprint.contents_replace_fragments clause
  rw [hshift, shift]
  cases hfragments : blueprint.fragments clause with
  | cons first rest => exact congrArg (some first, ·) (contents_replace ..)
  | nil =>
      rw [hfragments] at hsame
      exact congrArg (none, ·) hsame.symm

/-- Blueprints are kept as what they hold would be. -/
theorem means_contents : Signature.blueprints.Means Signature.maps contents where
  empty _ := rfl
  type _ := rfl
  withType _ _ := rfl
  add blueprint clause _ := contents_replace blueprint clause _
  pop := contents_pop
  shift := contents_shift
  reset blueprint clause := contents_replace blueprint clause []
  fragments _ _ := rfl
  first? _ _ := rfl
  has _ _ := rfl

end Blueprint

/-! ### What is given in the place of a name -/

/-- A member of a vocabulary, or a value that may be the name of one. -/
inductive Designation (α : Type) where
  | itself (member : α)
  | named (value : Value)

def Designation.read {α : Type} (reader : Value → Except Error α) : Designation α → Except Error α
  | itself member => .ok member
  | named value => reader value

theorem StatementType.read_name (type : StatementType) : read (.text type.name) = .ok type := by
  rw [read, ofName?_name]

theorem Clause.read_name (clause : Clause) : read (.text clause.name) = .ok clause := by
  rw [read, ofName?_name]

theorem StatementType.read_eq_error {value : Value}
    (h : ∀ type : StatementType, value ≠ .text type.name) :
    read value = .error (.notAMember value .statementType) := by
  cases value with
  | text name =>
      have hnone : ofName? name = none := by
        refine List.find?_eq_none.2 fun type _ hname => h type ?_
        rw [eq_of_beq hname]
      rw [read, hnone]
  | _ => rfl

theorem Clause.read_eq_error {value : Value} (h : ∀ clause : Clause, value ≠ .text clause.name) :
    read value = .error (.notAMember value .clause) := by
  cases value with
  | text name =>
      have hnone : ofName? name = none := by
        refine List.find?_eq_none.2 fun clause _ hname => h clause ?_
        rw [eq_of_beq hname]
      rw [read, hnone]
  | _ => rfl

/-! ### Accesses -/

/-- What is done with one clause of a blueprint. -/
inductive Deed where
  | add (fragment : Fragment)
  | pop
  | shift
  | reset
  | fragments
  | first
  | has

inductive Access where
  | type
  | assign (type : Designation StatementType)
  | clause (clause : Designation Clause) (deed : Deed)

/-- What an access answers: the blueprint itself, nothing, or what it has read. -/
inductive Reading where
  | itself
  | nothing
  | type (type : StatementType)
  | fragment (fragment : Option Fragment)
  | fragments (fragments : List Fragment)
  | truth (truth : Bool)

section Running

variable {β γ : Type}

def Deed.run (signature : Signature β) (clause : Clause) (state : β) : Deed → Reading × β
  | add fragment => (.itself, signature.add state clause fragment)
  | pop => (signature.pop state clause).map .fragment id
  | shift => (signature.shift state clause).map .fragment id
  | reset => (.itself, signature.reset state clause)
  | fragments => (.fragments (signature.fragments state clause), state)
  | first => (.fragment (signature.first? state clause), state)
  | has => (.truth (signature.has state clause), state)

def Access.run (signature : Signature β) (state : β) : Access → Except Error (Reading × β)
  | type => return (.type (signature.type state), state)
  | assign given => do return (.nothing, signature.withType state (← given.read StatementType.read))
  | clause given deed => do return deed.run signature (← given.read Clause.read) state

variable {signature : Signature β} {other : Signature γ} {meaning : β → γ}

theorem Deed.run_meaning (h : signature.Means other meaning) (deed : Deed) (clause : Clause)
    (state : β) :
    deed.run other clause (meaning state) = (deed.run signature clause state).map id meaning := by
  cases deed with
  | add fragment => rw [run, run, ← h.add]; rfl
  | pop => rw [run, run, ← h.pop]; rfl
  | shift => rw [run, run, ← h.shift]; rfl
  | reset => rw [run, run, ← h.reset]; rfl
  | fragments => rw [run, run, ← h.fragments]; rfl
  | first => rw [run, run, ← h.first?]; rfl
  | has => rw [run, run, ← h.has]; rfl

/-- An access answers from what is meant, and leaves what the access makes of that. -/
theorem Access.run_meaning (h : signature.Means other meaning) (access : Access) (state : β) :
    access.run other (meaning state) = Prod.map id meaning <$> access.run signature state := by
  cases access with
  | type =>
      rw [run, run, ← h.type]
      rfl
  | assign given =>
      rw [run, run]
      cases given.read StatementType.read with
      | error cause => rfl
      | ok type =>
          exact congrArg (fun later => Except.ok (Reading.nothing, later)) (h.withType ..).symm
  | clause given deed =>
      rw [run, run]
      cases given.read Clause.read with
      | error cause => rfl
      | ok clause => exact congrArg Except.ok (deed.run_meaning h clause state)

end Running

/-! ### Several blueprints -/

/-- What is done with blueprints, which have numbers: one is created, copied or accessed. -/
inductive Usage where
  | create (type : Designation StatementType)
  | copy (id : Nat)
  | access (id : Nat) (access : Access)

namespace Usage

variable {β γ : Type}

/-- What a usage answers, and what it leaves; if it fails, it leaves everything as it was. -/
def run (signature : Signature β) (states : List β) : Usage → Except Error Reading × List β
  | create given =>
      match given.read StatementType.read with
      | .ok type => (.ok .nothing, states ++ [signature.empty type])
      | .error cause => (.error cause, states)
  | copy id =>
      match states[id]? with
      | some state => (.ok .nothing, states ++ [state])
      | none => (.error .noAttribute, states)
  | access id made =>
      match states[id]? with
      | some state =>
          match made.run signature state with
          | .ok (reading, later) => (.ok reading, states.set id later)
          | .error cause => (.error cause, states)
      | none => (.error .noAttribute, states)

theorem run_access_error {signature : Signature β} {states : List β} {id : Nat}
    (hid : id < states.length) {made : Access} {cause : Error}
    (h : ∀ state, made.run signature state = .error cause) :
    (access id made).run signature states = (.error cause, states) := by
  rw [run, List.getElem?_eq_getElem hid]
  dsimp only
  rw [h]

/-- What some usages answer, one after the other, and what they leave. -/
def runAll (signature : Signature β) : List β → List Usage → List (Except Error Reading) × List β
  | states, [] => ([], states)
  | states, usage :: rest =>
      let (answer, later) := usage.run signature states
      (runAll signature later rest).map (answer :: ·) id

variable {signature : Signature β} {other : Signature γ} {meaning : β → γ}

theorem run_meaning (h : signature.Means other meaning) (usage : Usage) (states : List β) :
    usage.run other (states.map meaning) =
      (usage.run signature states).map id (List.map meaning) := by
  cases usage with
  | create given =>
      rw [run, run]
      cases given.read StatementType.read with
      | error cause => rfl
      | ok type => simp [h.empty]
  | copy id =>
      rw [run, run, List.getElem?_map]
      cases states[id]? with
      | none => rfl
      | some state => simp
  | access id made =>
      rw [run, run, List.getElem?_map]
      cases states[id]? with
      | none => rfl
      | some state =>
          rw [Option.map_some]
          dsimp only
          rw [made.run_meaning h]
          cases made.run signature state with
          | error cause => rfl
          | ok outcome => simp [List.map_set]

theorem runAll_meaning (h : signature.Means other meaning) (usages : List Usage) (states : List β) :
    runAll other (states.map meaning) usages =
      (runAll signature states usages).map id (List.map meaning) := by
  induction usages generalizing states with
  | nil => rfl
  | cons usage rest ih =>
      rw [runAll, runAll, usage.run_meaning h]
      exact congrArg (Prod.map (_ :: ·) id) (ih _)

end Usage

end SqlBuilder
