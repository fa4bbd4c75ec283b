import SqlBuilder.Proofs.Clauses
import SqlBuilder.Proofs.Fault.Rows

/-!
# Well typed statements end with their first fault

The clauses of a statement are compiled one after the other, in the order in which their faults are
listed. The members of a union are compiled last, each one as the statement that it is, so the
faults of a member are those of its own clauses and of the members below it.
-/

namespace SqlBuilder

open Outcome

/-! ### Clauses -/

namespace Statement

variable (scope : Scope) {blueprint : Blueprint} (h : blueprint.Typed) (keyword : String)
include h

theorem ends_listing {clause : Clause} {piece : Fragment → Except Error Tokens}
    {supply : Fragment → List Fault}
    (hpiece : ∀ fragment : Fragment, fragment.Typed clause →
      Ends (piece fragment) (supply fragment)) :
    Ends (listing piece keyword clause blueprint)
      ((blueprint.fragments clause).flatMap supply) :=
  have hpieces := Ends.mapM fun fragment hfragment =>
    hpiece fragment (h clause fragment hfragment)
  hpieces.before fun _ _ => .ok trivial

theorem ends_columns :
    Ends (columns scope keyword blueprint) (blueprint.writtenFaults .columns ["column", "alias"]) :=
  ends_listing h keyword fun fragment hfragment => by
    simpa using hfragment.1.ends_aliased hfragment.2

theorem ends_tables :
    Ends (tables scope keyword blueprint) (blueprint.writtenFaults .tables ["table", "alias"]) :=
  ends_listing h keyword fun fragment hfragment => by
    simpa using hfragment.1.ends_aliased hfragment.2

theorem ends_groups :
    Ends (groups scope keyword blueprint) (blueprint.writtenFaults .group ["column"]) :=
  ends_listing h keyword fun fragment hfragment => by
    simpa using Value.Nameable.ends hfragment

theorem ends_orders :
    Ends (orders scope keyword blueprint) (blueprint.writtenFaults .order ["column", "sort"]) :=
  ends_listing h keyword fun _ hfragment =>
    hfragment.1.ends.bind fun _ _ => hfragment.2.ends_toText.bind fun _ _ => .ok _

theorem ends_joins : Ends (joins scope keyword blueprint) blueprint.joinFaults := by
  refine Ends.before (Ends.mapM fun fragment hfragment => ?_) fun _ _ => .ok trivial
  obtain ⟨htable, hfirst, hsecond, hoperator, htype⟩ := h .join fragment hfragment
  rw [joinPiece, List.append_assoc]
  refine htable.ends.bind fun _ _ => Ends.bind ?_ fun _ _ =>
    htype.ends_toText.before fun _ _ => .ok trivial
  rw [joinCondition]
  generalize fragment.read "first" = first at hfirst ⊢
  cases first with
  | group members => exact Condition.ends_levelTokens .join hfirst
  | _ =>
      exact Value.Nameable.ends hfirst |>.bind fun _ _ =>
        hoperator.ends_toText.bind fun _ _ => hsecond.ends.bind fun _ _ => .ok _

theorem ends_conditions {clause : Clause} (hclause : clause = .where ∨ clause = .having) :
    Ends (conditions scope keyword clause blueprint) (blueprint.conditionFaults clause) :=
  (Condition.ends_levelTokens clause (h.conditions hclause)).before fun _ _ => .ok trivial

omit h in
theorem ends_windowNumber {value : Value} (hwhole : value.Whole) :
    Ends (windowNumber value) value.faults := by
  obtain ⟨number, rfl⟩ := hwhole
  have hshown : windowNumber (.int number) = (Value.int number).shown Store.empty.references := by
    rw [windowNumber, Value.toInteger, ok_bind, Value.shown, Value.quoted?]
    cases Decimal.writeInteger? number <;> rfl
  rw [hshown]
  exact Value.ends_shown _ _

omit h in
theorem ends_window {fragment : Fragment} (hfragment : fragment.Typed .limit) :
    Ends (window fragment)
      ([fragment.read "offset", fragment.read "limit"].flatMap Value.faults) := by
  obtain ⟨hlimit, hoffset⟩ := hfragment
  have hcount := ends_windowNumber hlimit
  rw [window, List.flatMap_cons, List.flatMap_cons, List.flatMap_nil, List.append_nil]
  rcases hoffset with hnull | hoffset
  · rw [hnull]
    exact hcount
  · have hstart := ends_windowNumber hoffset
    obtain ⟨start, hread⟩ := hoffset
    rw [hread] at hstart ⊢
    exact hstart.bind fun _ _ => hcount.before fun _ _ => .ok trivial

theorem ends_limits : Ends (limits keyword blueprint) blueprint.windowFaults := by
  rw [limits, Blueprint.windowFaults]
  cases hfirst : blueprint.first? .limit with
  | none => exact .ok []
  | some fragment => exact (ends_window (h.first hfirst)).before fun _ _ => .ok trivial

omit h in
theorem ends_requireTable : Ends (requireTable blueprint) blueprint.demandFaults := by
  rw [requireTable, Blueprint.demandFaults]
  split
  · exact .ok ()
  · exact .error rfl []

/-! ### Statements -/

/-- A statement has the faults of its clauses, in their order. -/
theorem ends_whole (dialect : Dialect) (emptying : String)
    {members : Except Error (List Tokens)} {faults : List Fault} (hmembers : Ends members faults) :
    Ends (whole scope dialect emptying blueprint members) (blueprint.faults dialect faults) := by
  have htables := ends_tables scope h
  have hfilter := ends_conditions scope h "WHERE" (.inl rfl)
  have horders := ends_orders scope h "ORDER BY"
  have hlimits := ends_limits h "LIMIT"
  have hdemand : Ends (requireTable blueprint) blueprint.demandFaults := ends_requireTable
  rw [whole, parts_eq, Blueprint.faults, clauses, demand]
  refine Ends.before ?_ fun _ _ => .ok trivial
  cases blueprint.type with
  | select =>
      have hcolumns := ends_columns scope h "SELECT"
      have hjoins := ends_joins scope h ""
      have hgroups := ends_groups scope h "GROUP BY"
      have hhaving := ends_conditions scope h "HAVING" (.inr rfl)
      have hparts := Ends.mapM_id (.cons hcolumns (.cons (htables "FROM") (.cons hjoins
        (.cons hfilter (.cons hgroups (.cons hhaving (.cons horders (.cons hlimits
          (.cons (hmembers.map (f := unions "UNION")) .nil)))))))))
      simpa [Blueprint.tableFaults, Blueprint.orderFaults] using hparts
  | insert =>
      have hinserts := ends_inserts scope dialect "" false h
      have hparts := Ends.mapM_id (.cons (htables "INSERT INTO") (.cons hinserts .nil))
      simpa [Blueprint.tableFaults] using hdemand.bind fun _ _ => hparts
  | upsert =>
      have hinserts := ends_inserts scope dialect "" true h
      have hparts := Ends.mapM_id (.cons (htables "INSERT INTO") (.cons hinserts .nil))
      simpa [Blueprint.tableFaults] using hdemand.bind fun _ _ => hparts
  | update =>
      have hupdates := ends_updates scope "SET" h
      have hparts := Ends.mapM_id (.cons (htables "UPDATE") (.cons hupdates (.cons hfilter
        (.cons horders (.cons hlimits .nil)))))
      simpa [Blueprint.tableFaults, Blueprint.orderFaults] using hdemand.bind fun _ _ => hparts
  | delete =>
      have hparts := Ends.mapM_id (.cons (htables "DELETE FROM") (.cons hfilter
        (.cons horders (.cons hlimits .nil))))
      simpa [Blueprint.tableFaults, Blueprint.orderFaults] using hdemand.bind fun _ _ => hparts
  | truncate =>
      have hparts := Ends.mapM_id (.cons (htables emptying) .nil)
      simpa [Blueprint.tableFaults] using hdemand.bind fun _ _ => hparts

end Statement

/-! ### Members of a union -/

variable {scope : Scope}

mutual

/-- A member that is a well typed statement, down through the members of its own union. -/
def Member.Typed : Member → Prop
  | .statement blueprint members => blueprint.Typed ∧ Member.AllTyped members
  | .invalid _ => False

def Member.AllTyped : List Member → Prop
  | [] => True
  | member :: rest => member.Typed ∧ Member.AllTyped rest

end

theorem Member.allTyped_iff {members : List Member} :
    Member.AllTyped members ↔ ∀ member ∈ members, member.Typed := by
  induction members with
  | nil => simp [AllTyped]
  | cons member rest ih => rw [AllTyped, ih, List.forall_mem_cons]

theorem Member.allFaults_eq (dialect : Dialect) (members : List Member) :
    Member.allFaults dialect members = members.flatMap (Member.faults dialect) := by
  induction members with
  | nil => rfl
  | cons member rest ih => rw [allFaults, ih, List.flatMap_cons]

namespace Statement

mutual

theorem ends_memberTokens (dialect : Dialect) (emptying : String) :
    ∀ {member : Member}, member.Typed →
      Ends (memberTokens scope dialect emptying member) (member.faults dialect)
  | .statement blueprint members, h => by
      rw [memberTokens, Member.faults]
      exact ends_whole scope h.1 dialect emptying (ends_membersTokens dialect emptying h.2)

theorem ends_membersTokens (dialect : Dialect) (emptying : String) :
    ∀ {members : List Member}, Member.AllTyped members →
      Ends (membersTokens scope dialect emptying members) (Member.allFaults dialect members)
  | [], _ => .ok []
  | member :: rest, h => by
      rw [membersTokens, Member.allFaults]
      exact (ends_memberTokens dialect emptying h.1).bind fun _ _ =>
        (ends_membersTokens dialect emptying h.2).before fun _ _ => .ok trivial

end

end Statement

/-- A snapshot of well typed statements compiles unless it has a fault. -/
theorem Compiler.ends_compile (compiler : Compiler) {snapshot : Snapshot}
    (h : snapshot.blueprint.Typed) (hmembers : Member.AllTyped snapshot.members) :
    Ends (compiler.compile scope snapshot) (snapshot.faults compiler.dialect) :=
  (Statement.ends_whole scope h compiler.dialect compiler.emptying
    (Statement.ends_membersTokens compiler.dialect compiler.emptying hmembers)).before
      fun _ _ => .ok trivial

end SqlBuilder
