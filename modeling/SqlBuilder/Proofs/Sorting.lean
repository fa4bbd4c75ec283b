import SqlBuilder.Proofs.Outcome
import SqlBuilder.Sorting

/-!
# Sorting what can be compared

Sorting makes only comparisons between the values that it is given, so where any two of these can be
compared it has an answer. Each stage of the sorting keeps to the values that it was handed: the
lemmas say of each that it has an answer, and that all values in the answer are comparable again.
-/

namespace SqlBuilder.Sorting

open Outcome

variable {α ε : Type} {before : α → α → Except ε Bool} {P : α → Prop}

/-- Any two values with a property can be compared. -/
def Comparable (before : α → α → Except ε Bool) (P : α → Prop) : Prop :=
  ∀ a b, P a → P b → Succeeds (before a b) fun _ => True

/-! ### Searching -/

section Search

variable {behind : Nat → Except ε Bool} (h : ∀ place, Succeeds (behind place) fun _ => True)
include h

theorem succeeds_halve (side : End) (fuel low high : Nat) :
    Succeeds (halve side behind fuel low high) fun _ => True := by
  induction fuel generalizing low high with
  | zero => exact .ok trivial
  | succ fuel ih =>
      rw [halve]
      split
      · apply (h _).bind
        intro answer _
        cases answer with
        | true => exact ih _ _
        | false => exact ih _ _
      · exact .ok trivial

theorem succeeds_gap (length fuel last next : Nat) :
    Succeeds (gap behind length fuel last next) fun _ => True := by
  induction fuel generalizing last next with
  | zero => exact .ok trivial
  | succ fuel ih =>
      rw [gap]
      split
      · apply (h _).bind
        intro answer _
        cases answer with
        | true => exact ih _ _
        | false => exact .ok trivial
      · exact .ok trivial

theorem succeeds_gallop (side : End) (length : Nat) :
    Succeeds (gallop side behind length) fun _ => True := by
  apply (h 0).bind
  intro answer _
  cases answer with
  | true => exact (succeeds_gap h _ _ _ _).bind fun _ _ => succeeds_halve h _ _ _ _
  | false => exact .ok trivial

end Search

theorem succeeds_holdsAt (run : List α) {question : α → Except ε Bool}
    (h : ∀ value ∈ run, Succeeds (question value) fun _ => True) (place : Nat) :
    Succeeds (Merging.holdsAt run question place) fun _ => True := by
  rw [Merging.holdsAt]
  split
  · next value hvalue => exact h value (List.mem_of_getElem? hvalue)
  · exact .ok trivial

/-! ### Runs -/

section Comparable

variable (h : Comparable before P)
include h

theorem Comparable.not {a b : α} (ha : P a) (hb : P b) :
    Succeeds (do return !(← before a b)) fun _ => True :=
  (h a b ha hb).bind fun _ _ => .ok trivial

theorem succeeds_insert {run : List α} {value : α} (hrun : ∀ a ∈ run, P a) (hvalue : P value) :
    Succeeds (insert before run value) fun inserted => ∀ a ∈ inserted, P a := by
  have hplace : Succeeds (halve .front
      (Merging.holdsAt run fun other => do return !(← before value other)) run.length 0 run.length)
      fun _ => True :=
    succeeds_halve (succeeds_holdsAt run fun other hother => h.not hvalue (hrun other hother))
      _ _ _ _
  apply hplace.bind
  intro place _
  refine .ok fun a ha => ?_
  rcases List.mem_append.1 ha with hfront | hback
  · exact hrun a (List.mem_of_mem_take hfront)
  · rcases List.mem_cons.1 hback with rfl | hdrop
    · exact hvalue
    · exact hrun a (List.mem_of_mem_drop hdrop)

theorem succeeds_splitRun (descending : Bool) {run rest : List α} (hrun : ∀ a ∈ run, P a)
    (hrest : ∀ a ∈ rest, P a) :
    Succeeds (splitRun before descending run rest) fun split =>
      (∀ a ∈ split.1, P a) ∧ ∀ a ∈ split.2, P a := by
  induction rest generalizing run with
  | nil => cases run <;> exact .ok ⟨hrun, hrest⟩
  | cons value rest ih =>
      cases run with
      | nil => exact .ok ⟨hrun, hrest⟩
      | cons last run =>
          have hvalue := hrest value List.mem_cons_self
          apply (h value last hvalue (hrun last List.mem_cons_self)).bind
          intro answer _
          split
          · exact ih (List.forall_mem_cons.2 ⟨hvalue, hrun⟩)
              fun a ha => hrest a (List.mem_cons_of_mem _ ha)
          · exact .ok ⟨hrun, hrest⟩

theorem succeeds_naturalRun {values : List α} (hvalues : ∀ a ∈ values, P a) :
    Succeeds (naturalRun before values) fun split =>
      (∀ a ∈ split.1, P a) ∧ ∀ a ∈ split.2, P a := by
  match values, hvalues with
  | [], hvalues => exact .ok ⟨hvalues, by simp⟩
  | [value], hvalues => exact .ok ⟨hvalues, by simp⟩
  | first :: second :: rest, hvalues =>
      obtain ⟨hfirst, hvalues⟩ := List.forall_mem_cons.1 hvalues
      obtain ⟨hsecond, hrest⟩ := List.forall_mem_cons.1 hvalues
      apply (h second first hsecond hfirst).bind
      intro descending _
      apply (succeeds_splitRun h descending (by simp [hfirst, hsecond]) hrest).bind
      rintro ⟨run, rest⟩ ⟨hrun, hrest⟩
      refine .ok ⟨?_, hrest⟩
      cases descending with
      | true => exact hrun
      | false => exact fun a ha => hrun a (List.mem_reverse.1 ha)

theorem succeeds_foldlM_insert {values run : List α} (hvalues : ∀ a ∈ values, P a)
    (hrun : ∀ a ∈ run, P a) :
    Succeeds (values.foldlM (insert before) run) fun inserted => ∀ a ∈ inserted, P a := by
  induction values generalizing run with
  | nil => exact .ok hrun
  | cons value rest ih =>
      obtain ⟨hvalue, hrest⟩ := List.forall_mem_cons.1 hvalues
      rw [List.foldlM_cons]
      exact (succeeds_insert h hrun hvalue).bind fun inserted hinserted => ih hrest hinserted

theorem succeeds_nextRun (least : Nat) {values : List α} (hvalues : ∀ a ∈ values, P a) :
    Succeeds (nextRun before least values) fun split =>
      (∀ a ∈ split.1, P a) ∧ ∀ a ∈ split.2, P a := by
  apply (succeeds_naturalRun h hvalues).bind
  rintro ⟨run, rest⟩ ⟨hrun, hrest⟩
  have htake : ∀ a ∈ rest.take (least - run.length), P a :=
    fun a ha => hrest a (List.mem_of_mem_take ha)
  apply (succeeds_foldlM_insert h htake hrun).bind
  intro inserted hinserted
  exact .ok ⟨hinserted, fun a ha => hrest a (List.mem_of_mem_drop ha)⟩

end Comparable

/-! ### Merging -/

/-- All values of a merge have a property. -/
structure Merging.All (P : α → Prop) (merging : Merging α) : Prop where
  placed : ∀ a ∈ merging.placed, P a
  held : ∀ a ∈ merging.held, P a
  passing : ∀ a ∈ merging.passing, P a

namespace Merging

theorem All.values {merging : Merging α} (h : merging.All P) : ∀ a ∈ merging.values, P a := by
  have hending : ∀ a ∈ merging.ending?.getD (merging.held ++ merging.passing), P a := by
    obtain ⟨placed, held, passing, patience⟩ := merging
    have hheld := h.held
    have hpassing := h.passing
    rw [ending?]
    split <;> simp_all [or_imp]
  intro a ha
  rcases List.mem_append.1 ha with hplaced | hrest
  · exact h.placed a (List.mem_reverse.1 hplaced)
  · exact hending a hrest

section Comparable

variable {direction : Direction α ε} (h : Comparable direction.before P) {merging : Merging α}
  (hmerging : merging.All P)
include h hmerging

theorem succeeds_advanceHeld :
    Succeeds (advanceHeld direction merging) fun advanced => advanced.2.All P := by
  rw [advanceHeld]
  split
  · exact .ok hmerging
  · next next passing heq =>
      obtain ⟨hnext, hpassing⟩ := List.forall_mem_cons.1 (heq ▸ hmerging.passing)
      have hstays := succeeds_holdsAt merging.held
        fun value hvalue => h.not hnext (hmerging.held value hvalue)
      apply (succeeds_gallop hstays _ _).bind
      intro far _
      refine .ok ⟨?_, fun a ha => hmerging.held a (List.mem_of_mem_drop ha), hpassing⟩
      intro a ha
      rcases List.mem_cons.1 ha with rfl | ha
      · exact hnext
      · rcases List.mem_append.1 ha with htaken | hplaced
        · exact hmerging.held a (List.mem_of_mem_take (List.mem_reverse.1 htaken))
        · exact hmerging.placed a hplaced

theorem succeeds_advancePassing :
    Succeeds (advancePassing direction merging) fun advanced => advanced.2.All P := by
  rw [advancePassing]
  split
  · exact .ok hmerging
  · next next held heq =>
      obtain ⟨hnext, hheld⟩ := List.forall_mem_cons.1 (heq ▸ hmerging.held)
      have hstays := succeeds_holdsAt merging.passing
        fun value hvalue => h value next (hmerging.passing value hvalue) hnext
      apply (succeeds_gallop hstays _ _).bind
      intro far _
      refine .ok ⟨?_, hheld, fun a ha => hmerging.passing a (List.mem_of_mem_drop ha)⟩
      intro a ha
      rcases List.mem_cons.1 ha with rfl | ha
      · exact hnext
      · rcases List.mem_append.1 ha with htaken | hplaced
        · exact hmerging.passing a (List.mem_of_mem_take (List.mem_reverse.1 htaken))
        · exact hmerging.placed a hplaced

theorem succeeds_firstGallop :
    Succeeds (firstGallop direction merging) fun advanced => advanced.2.All P := by
  rw [firstGallop]
  cases direction.side with
  | front => exact (succeeds_advanceHeld h hmerging).bind fun _ hadvanced => .ok hadvanced
  | back => exact (succeeds_advancePassing h hmerging).bind fun _ hadvanced => .ok hadvanced

theorem succeeds_secondGallop (far : Nat) :
    Succeeds (secondGallop direction far merging) fun advanced => advanced.2.All P := by
  rw [secondGallop]
  cases direction.side with
  | front => exact (succeeds_advancePassing h hmerging).bind fun _ hadvanced => .ok hadvanced
  | back => exact (succeeds_advanceHeld h hmerging).bind fun _ hadvanced => .ok hadvanced

theorem succeeds_compare (heldWins passingWins : Nat) :
    Succeeds (compare direction heldWins passingWins merging) fun advanced =>
      advanced.2.All P := by
  rw [compare]
  split
  · next first held second passing hheld hpassing =>
      obtain ⟨hfirst, hheld⟩ := List.forall_mem_cons.1 (hheld ▸ hmerging.held)
      obtain ⟨hsecond, hpassing⟩ := List.forall_mem_cons.1 (hpassing ▸ hmerging.passing)
      apply (h second first hsecond hfirst).bind
      intro answer _
      cases answer with
      | true =>
          exact .ok ⟨List.forall_mem_cons.2 ⟨hsecond, hmerging.placed⟩, hmerging.held, hpassing⟩
      | false =>
          exact .ok ⟨List.forall_mem_cons.2 ⟨hfirst, hmerging.placed⟩, hheld, hmerging.passing⟩
  · exact .ok hmerging

theorem succeeds_step (pace : Pace) :
    Succeeds (step direction pace merging) fun advanced => advanced.2.All P := by
  -- how patient a merge is has no bearing on its values
  have hpatient : ∀ patience, ({ merging with patience } : Merging α).All P :=
    fun _ => ⟨hmerging.placed, hmerging.held, hmerging.passing⟩
  cases pace with
  | comparing heldWins passingWins =>
      rw [step]
      split
      · exact succeeds_firstGallop h hmerging
      · exact succeeds_compare h hmerging _ _
  | halfway far => exact succeeds_secondGallop h hmerging far
  | rounded far =>
      rw [step]
      split
      · exact succeeds_firstGallop h (hpatient _)
      · exact succeeds_compare h (hpatient _) _ _

theorem succeeds_run (fuel : Nat) (pace : Pace) :
    Succeeds (run direction fuel pace merging) fun merged => merged.All P := by
  induction fuel generalizing pace merging with
  | zero => exact .ok hmerging
  | succ fuel ih =>
      rw [run]
      split
      · exact .ok hmerging
      · exact (succeeds_step h hmerging pace).bind fun advanced hadvanced => ih hadvanced _

end Comparable

end Merging

theorem succeeds_mergeHeld (direction : Direction α ε) (h : Comparable direction.before P)
    (patience : Nat) {held passing : List α} (hheld : ∀ a ∈ held, P a)
    (hpassing : ∀ a ∈ passing, P a) :
    Succeeds (mergeHeld direction patience held passing) fun merged => merged.All P :=
  Merging.succeeds_run h
    ⟨fun a ha => hpassing a (List.mem_of_mem_head? (Option.mem_toList.1 ha)), hheld,
      fun a ha => hpassing a (List.mem_of_mem_tail ha)⟩ _ _

section Comparable

variable (h : Comparable before P)
include h

theorem succeeds_mergeBetween (patience : Nat) {first second : List α} (hfirst : ∀ a ∈ first, P a)
    (hsecond : ∀ a ∈ second, P a) :
    Succeeds (mergeBetween before patience first second) fun merged => ∀ a ∈ merged.1, P a := by
  have hturned : Comparable (fun value other => before other value) P :=
    fun a b ha hb => h b a hb ha
  rw [mergeBetween]
  split
  · have hmerge := succeeds_mergeHeld ⟨.front, before⟩ h patience hfirst hsecond
    exact hmerge.bind fun merging hmerging => .ok hmerging.values
  · have hmerge := succeeds_mergeHeld ⟨.back, fun value other => before other value⟩
      hturned patience (fun a ha => hsecond a (List.mem_reverse.1 ha))
      (fun a ha => hfirst a (List.mem_reverse.1 ha))
    exact hmerge.bind fun merging hmerging =>
      .ok fun a ha => hmerging.values a (List.mem_reverse.1 ha)

theorem succeeds_mergeRuns (patience : Nat) {first second : List α} (hfirst : ∀ a ∈ first, P a)
    (hsecond : ∀ a ∈ second, P a) :
    Succeeds (mergeRuns before patience first second) fun merged => ∀ a ∈ merged.1, P a := by
  have hboth : ∀ a ∈ first ++ second, P a := List.forall_mem_append.2 ⟨hfirst, hsecond⟩
  match second, hsecond with
  | [], _ => exact .ok hfirst
  | next :: rest, hsecond =>
      have hnext := hsecond next List.mem_cons_self
      have hearly := succeeds_holdsAt first
        fun value hvalue => h.not hnext (hfirst value hvalue)
      apply (succeeds_gallop hearly _ _).bind
      intro early _
      dsimp only
      have hleft : ∀ a ∈ first.drop early, P a := fun a ha => hfirst a (List.mem_of_mem_drop ha)
      cases hlast : (first.drop early).getLast? with
      | none => exact .ok hboth
      | some last =>
          have hlate := succeeds_holdsAt (next :: rest).reverse fun value hvalue =>
            h.not (hsecond value (List.mem_reverse.1 hvalue))
              (hleft last (List.mem_of_mem_getLast? hlast))
          apply (succeeds_gallop hlate _ _).bind
          intro late _
          split
          · exact .ok hboth
          · have htake : ∀ a ∈ (next :: rest).take ((next :: rest).length - late), P a :=
              fun a ha => hsecond a (List.mem_of_mem_take ha)
            apply (succeeds_mergeBetween h patience hleft htake).bind
            intro merged hmerged
            refine .ok fun a ha => ?_
            rcases List.mem_append.1 ha with hmost | hdrop
            · rcases List.mem_append.1 hmost with htaken | hmiddle
              · exact hfirst a (List.mem_of_mem_take htaken)
              · exact hmerged a hmiddle
            · exact hsecond a (List.mem_of_mem_drop hdrop)

theorem succeeds_mergeTwo (patience : Nat) {first second : Run α}
    (hfirst : ∀ a ∈ first.values, P a) (hsecond : ∀ a ∈ second.values, P a) :
    Succeeds (Run.merge before patience first second) fun merged => ∀ a ∈ merged.1.values, P a :=
  (succeeds_mergeRuns h patience hfirst hsecond).bind fun _ hmerged => .ok hmerged

theorem succeeds_settle (depth patience : Nat) {run : Run α} {runs : List (Run α)}
    (hrun : ∀ a ∈ run.values, P a) (hruns : ∀ other ∈ runs, ∀ a ∈ other.values, P a) :
    Succeeds (settle before depth patience run runs) fun settled =>
      ∀ other ∈ settled.1, ∀ a ∈ other.values, P a := by
  induction runs generalizing patience run with
  | nil => exact .ok (List.forall_mem_singleton.2 hrun)
  | cons previous others ih =>
      obtain ⟨hprevious, hothers⟩ := List.forall_mem_cons.1 hruns
      rw [settle]
      split
      · apply (succeeds_mergeTwo h patience hprevious hrun).bind
        intro merged hmerged
        exact ih _ hmerged hothers
      · exact .ok (List.forall_mem_cons.2 ⟨hrun, hruns⟩)

theorem succeeds_collapse (fuel patience : Nat) {runs : List (Run α)}
    (hruns : ∀ other ∈ runs, ∀ a ∈ other.values, P a) :
    Succeeds (collapse before fuel patience runs) fun values => ∀ a ∈ values, P a := by
  fun_induction collapse before fuel patience runs with
  | case1 fuel patience last second third others hshort ih =>
      simp only [List.forall_mem_cons] at hruns
      obtain ⟨hlast, hsecond, hthird, hothers⟩ := hruns
      apply (succeeds_mergeTwo h patience hthird hsecond).bind
      intro merged hmerged
      exact ih _ _ (by simpa only [List.forall_mem_cons] using ⟨hlast, hmerged, hothers⟩)
  | case2 fuel patience last second third others hlong ih =>
      simp only [List.forall_mem_cons] at hruns
      obtain ⟨hlast, hsecond, hothers⟩ := hruns
      apply (succeeds_mergeTwo h patience hsecond hlast).bind
      intro merged hmerged
      exact ih _ _ (by simpa only [List.forall_mem_cons] using ⟨hmerged, hothers⟩)
  | case3 fuel patience last first =>
      simp only [List.forall_mem_cons] at hruns
      obtain ⟨hlast, hfirst, -⟩ := hruns
      exact (succeeds_mergeTwo h patience hfirst hlast).bind fun _ hmerged => .ok hmerged
  | case4 =>
      refine .ok fun a ha => ?_
      obtain ⟨run, hrun, ha⟩ := List.mem_flatMap.1 ha
      exact hruns run (List.mem_reverse.1 hrun) a ha

theorem succeeds_sortFrom (length fuel patience : Nat) {runs : List (Run α)} (start : Nat)
    {values : List α} (hruns : ∀ other ∈ runs, ∀ a ∈ other.values, P a)
    (hvalues : ∀ a ∈ values, P a) :
    Succeeds (sortFrom before length fuel patience runs start values)
      fun values => ∀ a ∈ values, P a := by
  have hrest : ∀ patience runs, (∀ other ∈ runs, ∀ a ∈ other.values, P a) → ∀ rest : List α,
      (∀ a ∈ rest, P a) → Succeeds (do return (← collapse before runs.length patience runs) ++ rest)
        fun values => ∀ a ∈ values, P a :=
    fun patience runs hruns rest hrest =>
      (succeeds_collapse h _ patience hruns).bind fun _ hmerged =>
        .ok (List.forall_mem_append.2 ⟨hmerged, hrest⟩)
  induction fuel generalizing patience runs start values with
  | zero => exact hrest _ _ hruns _ hvalues
  | succ fuel ih =>
      cases values with
      | nil => exact hrest _ _ hruns _ hvalues
      | cons first rest =>
          rw [sortFrom]
          apply (succeeds_nextRun h _ hvalues).bind
          rintro ⟨run, rest⟩ ⟨hrun, hleft⟩
          dsimp only
          cases runs with
          | nil => exact ih _ _ (List.forall_mem_singleton.2 hrun) hleft
          | cons previous others =>
              obtain ⟨hprevious, hothers⟩ := List.forall_mem_cons.1 hruns
              apply (succeeds_settle h _ _ hprevious hothers).bind
              intro settled hsettled
              exact ih _ _ (List.forall_mem_cons.2 ⟨hrun, hsettled⟩) hleft

/-- Values of which any two can be compared can be sorted. -/
theorem succeeds_sort {values : List α} (hvalues : ∀ a ∈ values, P a) :
    Succeeds (sort before values) fun values => ∀ a ∈ values, P a :=
  succeeds_sortFrom h _ _ _ _ (by simp) hvalues

end Comparable

end SqlBuilder.Sorting
