import SqlBuilder.Proofs.Conditions
import SqlBuilder.Proofs.Outcome
import SqlBuilder.Proofs.Paging.Behind

/-!
# Conditions with further empty groups

A group without members leaves nothing in a statement, so it can be put anywhere among conditions,
also among the members of another group, as long as these are not empty themselves: a group with an
empty group for its only member has a member, and keeps its parentheses.
-/

namespace SqlBuilder

open Outcome

/-- The second list has empty groups that the first one does not have, and neither has a member of a
group in a place where the other one has none. -/
inductive Condition.Pads : List Condition → List Condition → Prop where
  | nil : Pads [] []
  | inserted (keyword : Value) {conditions padded : List Condition} (h : Pads conditions padded) :
      Pads conditions (.group keyword [] :: padded)
  | same (condition : Condition) {conditions padded : List Condition}
      (h : Pads conditions padded) : Pads (condition :: conditions) (condition :: padded)
  | group (keyword : Value) {members others conditions padded : List Condition}
      (hmembers : Pads members others) (hempty : members = [] ↔ others = [])
      (h : Pads conditions padded) :
      Pads (.group keyword members :: conditions) (.group keyword others :: padded)

namespace Condition.Pads

theorem refl (conditions : List Condition) : Pads conditions conditions := by
  induction conditions with
  | nil => exact .nil
  | cons condition rest ih => exact .same condition ih

theorem append {conditions padded others more : List Condition} (h : Pads conditions padded)
    (hothers : Pads others more) : Pads (conditions ++ others) (padded ++ more) := by
  induction h with
  | nil => exact hothers
  | inserted keyword _ ih => exact .inserted keyword ih
  | same condition _ ih => exact .same condition ih
  | group keyword hmembers hempty _ _ ih => exact .group keyword hmembers hempty ih

theorem piece?_group (scope : Scope) (clause : Clause) (keyword : Value) {members : List Condition}
    (h : members ≠ []) :
    piece? scope clause (.group keyword members) = (do
      let inner ← pieces scope clause members
      let keyword ← keyword.toText scope
      return some (.literal (keyword ++ " (") ::
        dropLeading (Tokens.joined " " inner) ++ [.literal ")"])) := by
  cases members with
  | nil => exact absurd rfl h
  | cons first rest =>
      rw [piece?]
      exact h

/-- Empty groups leave no piece. -/
theorem pieces_eq (scope : Scope) (clause : Clause) {conditions padded : List Condition}
    (h : Pads conditions padded) : pieces scope clause padded = pieces scope clause conditions := by
  induction h with
  | nil => rfl
  | inserted keyword _ ih =>
      rw [pieces, piece?, ok_bind, ih]
      cases pieces scope clause _ <;> rfl
  | same condition _ ih => rw [pieces, pieces, ih]
  | @group keyword members others _ _ _ hempty _ hmembers ih =>
      have hpiece : piece? scope clause (.group keyword others) =
          piece? scope clause (.group keyword members) := by
        by_cases hnil : members = []
        · rw [hnil, hempty.1 hnil]
        · have hothers : others ≠ [] := fun h => hnil (hempty.2 h)
          rw [piece?_group scope clause keyword hnil, piece?_group scope clause keyword hothers,
            hmembers]
      rw [pieces, pieces, hpiece, ih]

end Condition.Pads

/-- The fragments of a clause: conditions may be padded, and all else is the same. -/
def Clause.Pads (clause : Clause) (fragments padded : List Fragment) : Prop :=
  match clause with
  | .where | .having =>
      Condition.Pads (Condition.ofFragments fragments) (Condition.ofFragments padded)
  | _ => padded = fragments

namespace Clause.Pads

variable {clause : Clause} {fragments padded others more : List Fragment}

theorem refl (clause : Clause) (fragments : List Fragment) : clause.Pads fragments fragments := by
  cases clause <;> first | rfl | exact Condition.Pads.refl _

theorem append (h : clause.Pads fragments padded) (hothers : clause.Pads others more) :
    clause.Pads (fragments ++ others) (padded ++ more) := by
  cases clause with
  | «where» | having =>
      rw [Pads, Condition.ofFragments_eq_map, Condition.ofFragments_eq_map] at h hothers ⊢
      rw [List.map_append, List.map_append]
      exact Condition.Pads.append h hothers
  | _ => exact congrArg₂ (· ++ ·) h hothers

end Clause.Pads

/-- A query whose conditions are padded. -/
structure Query.Pads (query padded : Query) : Prop where
  record : { query with blueprint := padded.blueprint } = padded
  type : padded.blueprint.type = query.blueprint.type
  fragments : ∀ clause : Clause,
    clause.Pads (query.blueprint.fragments clause) (padded.blueprint.fragments clause)

namespace Query.Pads

variable {query padded : Query}

theorem refl (query : Query) : query.Pads query where
  record := rfl
  type := rfl
  fragments clause := .refl clause _

theorem others (h : query.Pads padded) {clause : Clause} (hwhere : clause ≠ .where)
    (hhaving : clause ≠ .having) :
    padded.blueprint.fragments clause = query.blueprint.fragments clause := by
  have hpads := h.fragments clause
  cases clause <;> first | exact hpads | exact absurd rfl hwhere | exact absurd rfl hhaving

theorem compiler (h : query.Pads padded) : padded.compiler = query.compiler := by
  rw [← h.record]

theorem nested (h : query.Pads padded) : padded.nested = query.nested := by
  rw [← h.record]
  rfl

theorem add (h : query.Pads padded) {clause : Clause} {attributes others : List (String × Value)}
    (hadded : clause.Pads [Fragment.of attributes] [Fragment.of others]) :
    (query.add clause attributes).Pads (padded.add clause others) where
  record := by
    rw [← h.record]
    rfl
  type := h.type
  fragments other := by
    rw [blueprint_add, blueprint_add, Blueprint.fragments_add, Blueprint.fragments_add]
    by_cases hclause : clause = other
    · subst hclause
      simpa using (h.fragments clause).append hadded
    · simpa [hclause] using h.fragments other

theorem addSame (h : query.Pads padded) (clause : Clause) (attributes : List (String × Value)) :
    (query.add clause attributes).Pads (padded.add clause attributes) :=
  h.add (.refl clause _)

theorem addEmpty (h : query.Pads padded) {clause : Clause} {attributes : List (String × Value)}
    {keyword : Value} (hclause : clause = .where ∨ clause = .having)
    (hempty : (Fragment.of attributes).condition = .group keyword []) :
    query.Pads (padded.add clause attributes) where
  record := by
    rw [← h.record]
    rfl
  type := h.type
  fragments other := by
    rw [blueprint_add, Blueprint.fragments_add]
    by_cases hother : clause = other
    · subst hother
      have hadded : clause.Pads [] [Fragment.of attributes] := by
        rcases hclause with rfl | rfl <;>
          simpa [Clause.Pads, hempty] using Condition.Pads.inserted keyword .nil
      simpa using (h.fragments clause).append hadded
    · simpa [hother] using h.fragments other

theorem reset (h : query.Pads padded) (clause : Clause) :
    (query.reset clause).Pads (padded.reset clause) where
  record := by
    rw [← h.record]
    rfl
  type := h.type
  fragments other := by
    rw [blueprint_reset, blueprint_reset, Blueprint.fragments_reset, Blueprint.fragments_reset]
    split
    · exact .refl other []
    · exact h.fragments other

theorem withType (h : query.Pads padded) (type : StatementType) :
    (query.withType type).Pads (padded.withType type) where
  record := by
    rw [← h.record]
    rfl
  type := rfl
  fragments := h.fragments

end Query.Pads

namespace Query.Pads

variable {query padded : Query}

/-- Groups can be added whose members are padded, if either both have members or neither has. -/
theorem addGroups (h : query.Pads padded) {clause : Clause} {fragments others : List Fragment}
    {attributes more : List (String × Value)} {keyword : Value}
    (hclause : clause = .where ∨ clause = .having)
    (hfragments : clause.Pads fragments others) (hempty : fragments = [] ↔ others = [])
    (hgroup : (Fragment.of attributes).condition =
      .group keyword (Condition.ofFragments fragments))
    (hother : (Fragment.of more).condition = .group keyword (Condition.ofFragments others)) :
    (query.add clause attributes).Pads (padded.add clause more) := by
  have hnil : Condition.ofFragments fragments = [] ↔ Condition.ofFragments others = [] := by
    rw [Condition.ofFragments_eq_map, Condition.ofFragments_eq_map, List.map_eq_nil_iff,
      List.map_eq_nil_iff, hempty]
  apply h.add
  rcases hclause with rfl | rfl <;>
    simpa [Clause.Pads, hgroup, hother] using Condition.Pads.group keyword hfragments hnil .nil

/-- The conditions of a page are padded like those of its template, if that has conditions with and
without the padding or in neither case. -/
theorem groupConditions (h : query.Pads padded)
    (hempty : query.blueprint.fragments .where = [] ↔ padded.blueprint.fragments .where = []) :
    query.groupConditions.Pads padded.groupConditions := by
  have hpads := h.fragments .where
  cases hwhere : query.blueprint.fragments .where with
  | nil =>
      rw [Query.groupConditions, Query.groupConditions, hwhere, hempty.1 hwhere]
      exact h
  | cons first rest =>
      cases hpadded : padded.blueprint.fragments .where with
      | nil =>
          rw [hempty.2 hpadded] at hwhere
          cases hwhere
      | cons other more =>
          rw [hwhere, hpadded] at hpads
          rw [Query.groupConditions, Query.groupConditions, hwhere, hpadded]
          exact (h.reset .where).addGroups (.inl rfl) hpads (by simp) rfl rfl

theorem blank (h : query.Pads padded) : padded.blank = query.blank := by
  rw [← h.record]

theorem options (h : query.Pads padded) : padded.options = query.options := by
  rw [← h.record]

theorem notBlank (h : query.Pads padded) :
    { query with blank := false }.Pads { padded with blank := false } where
  record := by
    rw [← h.record]
  type := h.type
  fragments := h.fragments

theorem addColumn (h : query.Pads padded) (column aliasName : Value) :
    (query.addColumn column aliasName).Pads (padded.addColumn column aliasName) := by
  have hreset : (if column.isWildcard || query.blank then query.reset .columns else query).Pads
      (if column.isWildcard || query.blank then padded.reset .columns else padded) := by
    split
    · exact h.reset .columns
    · exact h
  rw [Query.addColumn, Query.addColumn, h.blank]
  split
  · exact hreset.addSame .columns _
  · exact hreset.notBlank.addSame .columns _

theorem setTable (h : query.Pads padded) (table aliasName : Value) :
    (query.setTable table aliasName).Pads (padded.setTable table aliasName) := by
  have hadded : (query.addTable table aliasName).Pads (padded.addTable table aliasName) :=
    h.addSame .tables _
  rw [Query.setTable, Query.setTable, hadded.blank]
  split
  · exact hadded.addColumn _ _
  · exact hadded

theorem setLimit (h : query.Pads padded) (limit offset : Value) :
    (query.setLimit limit offset).Pads (padded.setLimit limit offset) :=
  (h.reset .limit).addSame .limit _

theorem addJoin (h : query.Pads padded) (table first second operator kind : Value) :
    Related Query.Pads (query.addJoin table first second operator kind)
      (padded.addJoin table first second operator kind) :=
  .afterSame fun _ _ => .ok (h.addSame .join _)

theorem addCondition (h : query.Pads padded) (clause : Clause)
    (column value operator keyword : Value) :
    Related Query.Pads (query.addCondition clause column value operator keyword)
      (padded.addCondition clause column value operator keyword) :=
  .afterSame fun _ _ => .ok (h.addSame clause _)

theorem addOrder (h : query.Pads padded) (column sort : Value) :
    Related Query.Pads (query.addOrder column sort) (padded.addOrder column sort) :=
  .afterSame fun _ _ => .ok (h.addSame .order _)

theorem where_eq_nil (h : query.Pads padded) (hpadded : padded.blueprint.fragments .where = []) :
    query.blueprint.fragments .where = [] := by
  have hpads : Condition.Pads (Condition.ofFragments (query.blueprint.fragments .where))
      (Condition.ofFragments (padded.blueprint.fragments .where)) := h.fragments .where
  rw [hpadded, Condition.ofFragments_eq_map, Condition.ofFragments_nil] at hpads
  generalize hconditions : (query.blueprint.fragments .where).map Fragment.condition =
    conditions at hpads
  cases hpads
  exact List.map_eq_nil_iff.1 hconditions

theorem pageAfter (h : query.Pads padded)
    (hempty : query.blueprint.fragments .where = [] ↔ padded.blueprint.fragments .where = [])
    (index cursor size : Value) :
    Related Query.Pads (query.pageAfter index cursor size)
      (padded.pageAfter index cursor size) := by
  have hgrouped := (h.reset .order).groupConditions (by simpa using hempty)
  rw [Query.pageAfter, Query.pageAfter]
  refine (hgrouped.addCondition .where _ _ _ _).bind fun page other hpage => ?_
  refine (hpage.addOrder _ _).bind fun page other hordered => ?_
  exact .ok (hordered.setLimit size .null)

end Query.Pads

/-! ### What a padded query compiles to -/

section Compiling

variable {query padded : Query}

theorem Statement.conditions_pads (h : query.Pads padded) (scope : Scope) (keyword : String)
    {clause : Clause} (hclause : clause = .where ∨ clause = .having) :
    conditions scope keyword clause padded.blueprint =
      conditions scope keyword clause query.blueprint := by
  have hpads : Condition.Pads (Condition.ofFragments (query.blueprint.fragments clause))
      (Condition.ofFragments (padded.blueprint.fragments clause)) := by
    rcases hclause with rfl | rfl
    · exact h.fragments .where
    · exact h.fragments .having
  rw [conditions, conditions, Condition.levelTokens, Condition.levelTokens,
    hpads.pieces_eq scope clause]

theorem Statement.parts_pads (h : query.Pads padded) (scope : Scope) (dialect : Dialect)
    (emptying : String) (members : Except Error (List Tokens)) :
    parts scope dialect emptying padded.blueprint members =
      parts scope dialect emptying query.blueprint members := by
  have hwhere := conditions_pads h scope "WHERE" (.inl rfl)
  have hhaving := conditions_pads h scope "HAVING" (.inr rfl)
  cases htype : query.blueprint.type <;>
    simp (disch := decide) only [parts, h.type, htype, hwhere, hhaving, columns, tables, joins,
      groups, orders, listing, limits, inserts, updates, requireTable, Blueprint.has,
      Blueprint.first?, h.others]

theorem Snapshot.membersOf_pads (h : query.Pads padded)
    (resolve : Value → Except Error Blueprint) (depth : Nat) :
    membersOf resolve depth padded.blueprint = membersOf resolve depth query.blueprint := by
  have hunion : padded.blueprint.fragments .union = query.blueprint.fragments .union :=
    h.others (by decide) (by decide)
  cases depth with
  | zero => rw [membersOf, membersOf, hunion]
  | succ depth => rw [membersOf, membersOf, hunion]

/-- Padding changes nothing about the statement that a query is built to. -/
theorem Store.build_pads (store : Store) (h : query.Pads padded) :
    store.build padded = store.build query := by
  have hparts := Statement.parts_pads h store.scope query.compiler.dialect query.compiler.emptying
  rw [build, build, compile, compile, h.compiler, Compiler.compile, Compiler.compile,
    Compiler.tokens, Compiler.tokens, Statement.tokens, Statement.tokens, snapshot, snapshot,
    Snapshot.take, Snapshot.take, Snapshot.membersOf_pads h, Statement.whole, Statement.whole,
    hparts]

end Compiling

end SqlBuilder
