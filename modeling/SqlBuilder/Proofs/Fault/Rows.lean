import SqlBuilder.Proofs.Fault.Condition
import SqlBuilder.Proofs.Sorting
import SqlBuilder.Statement.Rows

/-!
# Well typed rows end with their first fault

A row that is keyed by texts has its names for keys. So the columns of two rows are the same if
their names are, and a row that has the columns of the first one has a value under each of them.
Texts are ordered among themselves and have no numbers in them, hence the message about a row with
other columns can be had.
-/

namespace SqlBuilder

open Outcome

variable {scope : Scope}

/-! ### The columns of a row -/

namespace Value

@[simp] theorem same_text (name other : String) :
    (text name).same (text other) = (name == other) := by
  simp [same, sameAtom]

theorem allHashable_text (names : List String) : allHashable (names.map text) = true := by
  induction names with
  | nil => rfl
  | cons name rest ih => exact ih

theorem sameMembers_text (names others : List String) :
    sameMembers (names.map text) (others.map text) = true ↔ names.toFinset = others.toFinset := by
  simp [sameMembers, Finset.ext_iff, iff_def, forall_and]

theorem succeeds_sorted (names : List String) :
    Succeeds (Value.sorted (names.map text)) fun sorted =>
      ∀ value ∈ sorted, ∃ name, value = text name := by
  have hordered : Sorting.Comparable comesBefore fun value => ∃ name, value = text name := by
    rintro _ _ ⟨name, rfl⟩ ⟨other, rfl⟩
    exact .ok trivial
  apply Sorting.succeeds_sort hordered
  intro value hvalue
  obtain ⟨name, -, rfl⟩ := List.mem_map.1 hvalue
  exact ⟨name, rfl⟩

theorem texts_of_sorted {names : List String} {values : List Value}
    (h : Value.sorted (names.map text) = .ok values) :
    ∀ value ∈ values, ∃ name, value = text name := by
  obtain ⟨_, hsorted, htexts⟩ := succeeds_sorted names
  obtain rfl := Except.ok.inj (h.symm.trans hsorted)
  exact htexts

theorem exists_quotedList? {values : List Value} (h : ∀ value ∈ values, ∃ name, value = text name)
    (references : References) : ∃ shown, quotedList? references values = some shown := by
  rw [← Option.isSome_iff_exists, quotedList?, isSome_quoted?, numbers]
  induction values with
  | nil => rfl
  | cons value rest ih =>
      obtain ⟨⟨name, rfl⟩, hrest⟩ := List.forall_mem_cons.1 h
      exact ih hrest

namespace Keyed

variable {row : Value}

theorem items_eq (h : row.Keyed) : row.items = .ok (row.columnNames.map text) := by
  obtain ⟨entries, rfl, hentries⟩ := h
  apply congrArg Except.ok
  induction entries with
  | nil => rfl
  | cons entry rest ih =>
      obtain ⟨⟨⟨name, hname⟩, -⟩, hrest⟩ := List.forall_mem_cons.1 hentries
      obtain ⟨key, content⟩ := entry
      subst hname
      exact congrArg (text name :: ·) (ih hrest)

theorem truthy_iff (h : row.Keyed) : row.truthy = true ↔ row.columnNames ≠ [] := by
  obtain ⟨entries, rfl, hentries⟩ := h
  cases entries with
  | nil => simp [truthy, columnNames]
  | cons entry rest =>
      obtain ⟨⟨⟨name, hname⟩, -⟩, -⟩ := List.forall_mem_cons.1 hentries
      simp [truthy, columnNames, hname]

theorem subscript (h : row.Keyed) {name : String} (hname : name ∈ row.columnNames) :
    row.subscript (text name) = .ok (row.cell name) ∧ (row.cell name).Bindable := by
  obtain ⟨entries, rfl, hentries⟩ := h
  obtain ⟨entry, hentry, hkey⟩ := List.mem_filterMap.1 hname
  have hfound : (List.find? (fun entry => entry.1 == text name) entries).isSome = true := by
    rw [List.find?_isSome]
    refine ⟨entry, hentry, ?_⟩
    obtain ⟨other, hother⟩ := (hentries entry hentry).1
    rw [hother] at hkey ⊢
    obtain rfl := Option.some.inj hkey
    exact (same_text other other).trans BEq.rfl
  obtain ⟨found, hfind⟩ := Option.isSome_iff_exists.1 hfound
  have hcell : (map entries).cell name = found.2 := by
    simp only [cell, Entries.read, Entries.find?, Assoc.find?, hfind, Option.map_some,
      Option.getD_some]
  rw [hcell]
  refine ⟨?_, (hentries found (List.mem_of_find?_eq_some hfind)).2⟩
  simp only [Value.subscript, hashable, Entries.find?, Assoc.find?, hfind, if_true, Option.map_some]

end Keyed

end Value

namespace Statement

theorem columnSet_eq {row : Value} {names : List String}
    (h : row.items = .ok (names.map .text)) : columnSet row = .ok (names.map .text) := by
  rw [columnSet, h, ok_bind, if_pos (Value.allHashable_text names)]
  rfl

theorem worded_unevenRow {own expected : List Value} (number : Nat)
    (hown : ∀ value ∈ own, ∃ name, value = .text name)
    (hexpected : ∀ value ∈ expected, ∃ name, value = .text name) :
    (Error.unevenRow number own expected).worded = .unevenRow number own expected := by
  refine Error.worded_of_writable fun value hvalue => ?_
  obtain ⟨name, rfl⟩ := (List.mem_append.1 hvalue).elim (hown value) (hexpected value)
  rfl

/-! ### Assignments -/

theorem ends_assigned {value : Value} (h : value.Bindable) :
    Ends (assigned scope value) value.assignedFaults := by
  rw [assigned, Value.assignedFaults]
  split
  · next hargument => exact (h hargument).ends
  · exact .ok _

theorem ends_assignments {entries : Entries} (h : entries.Keyed) :
    Ends (assignments scope entries) (Value.map entries).assignmentFaults := by
  refine Ends.before (Ends.mapM fun entry hentry => ?_) fun _ _ => .ok trivial
  obtain ⟨⟨name, hname⟩, hvalue⟩ := h entry hentry
  have hcolumn : entry.1.Textual := hname ▸ trivial
  exact hcolumn.nameable.ends.bind fun _ _ => (ends_assigned hvalue).before fun _ _ => .ok trivial

/-! ### Rows -/

theorem ends_rowTokens (names : List String) (number : Nat) {row : Value} (h : row.Keyed) :
    Ends (rowTokens scope (names.map .text) number row) (rowFaults names row) := by
  have hmembers := Value.sameMembers_text row.columnNames names
  have hexpected : columnSet (.list (names.map .text)) = .ok (names.map .text) := columnSet_eq rfl
  rw [rowTokens, columnSet_eq h.items_eq, ok_bind, hexpected, ok_bind, rowFaults]
  by_cases hsame : row.columnNames.toFinset = names.toFinset
  · rw [if_pos (hmembers.2 hsame), if_pos hsame, List.mapM_map]
    refine Ends.before (Ends.mapM fun name hname => ?_) fun _ _ => .ok trivial
    have hown : name ∈ row.columnNames := by
      rw [← List.mem_toFinset, hsame, List.mem_toFinset]
      exact hname
    obtain ⟨hcell, hbindable⟩ := h.subscript hown
    rw [Function.comp_apply, hcell]
    exact ends_assigned hbindable
  · rw [if_neg fun hcontra => hsame (hmembers.1 hcontra), if_neg hsame]
    -- the refusal shows the columns in their order
    refine .after (Value.succeeds_sorted _) fun own hown =>
      .after (Value.succeeds_sorted _) fun expected hexpected => ?_
    dsimp only
    rw [worded_unevenRow number hown hexpected]
    exact .error rfl []

theorem ends_batchTokens (names : List String) {rows : List Value} (h : ∀ row ∈ rows, row.Keyed)
    (number : Nat) :
    Ends (batchTokens scope (names.map .text) number rows) (rows.flatMap (rowFaults names)) := by
  induction rows generalizing number with
  | nil => exact .ok []
  | cons row rest ih =>
      obtain ⟨hrow, hrest⟩ := List.forall_mem_cons.1 h
      rw [batchTokens, List.flatMap_cons]
      exact (ends_rowTokens names number hrow).bind fun _ _ =>
        (ih hrest (number + 1)).before fun _ _ => .ok trivial

theorem ends_valuesTokens {rows : List Value} (h : ∀ row ∈ rows, row.Keyed) :
    Ends (valuesTokens scope rows) (batchFaults rows) := by
  cases rows with
  | nil => exact .error rfl []
  | cons first rest =>
      have hfirst := h first List.mem_cons_self
      rw [valuesTokens, batchFaults]
      by_cases hnone : first.columnNames = []
      · rw [if_pos hnone, if_neg fun htruthy => hfirst.truthy_iff.1 htruthy hnone]
        exact .error rfl []
      · rw [if_neg hnone, if_pos (hfirst.truthy_iff.2 hnone), hfirst.items_eq, ok_bind]
        apply (ends_batchTokens first.columnNames h 1).before
        intro _ _
        refine Succeeds.bind (Succeeds.mapM fun column hcolumn => ?_) fun _ _ => .ok trivial
        obtain ⟨name, -, rfl⟩ := List.mem_map.1 hcolumn
        rw [Value.identifier, if_neg (by simp [Value.isArgument])]
        split
        · exact .ok trivial
        · exact .ok trivial

/-! ### Rows that are already there -/

theorem succeeds_entries {update : Value} (h : update = .null ∨ update.Keyed)
    (hthere : update.truthy = true) :
    Succeeds (assignmentEntries update) fun entries => entries.Keyed ∧ update = .map entries := by
  rcases h with rfl | ⟨entries, rfl, hentries⟩
  · cases hthere
  · exact .ok ⟨hentries, rfl⟩

theorem assignmentFaults_eq_nil {update : Value} (h : update = .null ∨ update.Keyed)
    (hblank : ¬update.truthy = true) : update.assignmentFaults = [] := by
  rcases h with rfl | ⟨entries, rfl, -⟩
  · rfl
  · cases entries with
    | nil => rfl
    | cons entry rest => exact absurd rfl hblank

theorem ends_duplicateTail {fragment : Fragment} (h : fragment.Typed .insert) :
    Ends (duplicateTail scope fragment) (fragment.read "update").assignmentFaults := by
  rw [duplicateTail]
  split
  · next hthere =>
      refine .after (succeeds_entries h.2.1 hthere) fun entries hentries => ?_
      rw [hentries.2]
      refine (ends_assignments hentries.1).before fun _ _ => ?_
      split <;> exact .ok trivial
  · next hblank =>
      rw [assignmentFaults_eq_nil h.2.1 hblank]
      exact .ok []

theorem ends_conflictTail {fragment : Fragment} (h : fragment.Typed .insert) :
    Ends (conflictTail scope fragment) (Blueprint.targetFaults .sqlite fragment ++
      (fragment.read "update").assignmentFaults) := by
  obtain ⟨-, hupdate, hindex⟩ := h
  rw [conflictTail, Blueprint.targetFaults]
  rcases hindex with hnull | ⟨names, hread, hnames⟩
  · rw [hnull]
    exact .error rfl _
  cases names with
  | nil =>
      rw [hread]
      exact .error rfl _
  | cons name rest =>
      have hthere : (Value.list (name :: rest)).truthy = true := rfl
      have hitems : (Value.list (name :: rest)).items = .ok (name :: rest) := rfl
      rw [hread, if_pos hthere, hitems, ok_bind]
      refine Ends.bind (Ends.mapM fun name hname => (hnames name hname).ends) fun _ _ => ?_
      dsimp only
      split
      · next hthere =>
          refine .after (succeeds_entries hupdate hthere) fun entries hentries => ?_
          rw [hentries.2]
          exact (ends_assignments hentries.1).before fun _ _ => .ok trivial
      · next hblank =>
          rw [assignmentFaults_eq_nil hupdate hblank]
          exact .ok _

theorem ends_upsertTail (dialect : Dialect) {blueprint : Blueprint} {fragment : Fragment}
    (hfirst : blueprint.first? .insert = some fragment) (h : fragment.Typed .insert) :
    Ends (upsertTail scope dialect fragment) (blueprint.tailFaults dialect) := by
  rw [Blueprint.tailFaults, hfirst]
  cases dialect with
  | mysql => exact ends_duplicateTail h
  | sqlite => exact ends_conflictTail h

/-- What an insert compiles to behind its tables. The faults of an upsert are followed by that of
the columns that are not to collide. -/
theorem ends_inserts (scope : Scope) (dialect : Dialect) (keyword : String) (upsert : Bool)
    {blueprint : Blueprint} (h : blueprint.Typed) :
    Ends (inserts scope dialect keyword upsert blueprint)
      (blueprint.insertFaults ++ if upsert then blueprint.tailFaults dialect else []) := by
  rw [inserts, Blueprint.insertFaults]
  cases hfirst : blueprint.first? .insert with
  | none => exact .error rfl _
  | some fragment =>
      have htyped := h.first hfirst
      obtain ⟨rows, hread, hrows⟩ := htyped.1
      dsimp only
      rw [hread]
      apply (ends_valuesTokens hrows).bind
      intro body _
      cases upsert with
      | true => exact (ends_upsertTail dialect hfirst htyped).before fun _ _ => .ok trivial
      | false => exact .ok _

theorem ends_updates (scope : Scope) (keyword : String) {blueprint : Blueprint}
    (h : blueprint.Typed) :
    Ends (updates scope keyword blueprint) blueprint.updateFaults := by
  rw [updates, Blueprint.updateFaults]
  cases hfirst : blueprint.first? .update with
  | none => exact .error rfl []
  | some fragment =>
      have hkeyed : (fragment.read "update").Keyed := h.first hfirst
      dsimp only
      by_cases hnone : (fragment.read "update").columnNames = []
      · rw [if_pos hnone, if_neg fun htruthy => hkeyed.truthy_iff.1 htruthy hnone]
        exact .error rfl []
      · have hthere := hkeyed.truthy_iff.2 hnone
        rw [if_neg hnone, if_pos hthere]
        refine .after (succeeds_entries (.inr hkeyed) hthere) fun entries hentries => ?_
        rw [hentries.2]
        exact (ends_assignments hentries.1).before fun _ _ => .ok trivial

end Statement

end SqlBuilder
