import SqlBuilder.Error
import Mathlib.Data.Finset.Card
import Mathlib.Data.Finset.Image

/-!
# Results that were cut off

Queries may refer to each other in a circle, so what they stand for is followed to a given depth and
cut off with a failure below it. A result approximates another one if it was cut off or is that
other one; a chain of stages approximates whatever a chain of better stages answers. Results of
growing depth form a rising chain, and over finitely many places such a chain changes at most as
often as there are places. So a depth that exceeds their number is as good as any greater one.
-/

namespace SqlBuilder.Outcome

variable {α β ι : Type}

/-- A result is another one unless it was cut off. -/
def Approximates (result better : Except Error α) : Prop :=
  result = .error .endless ∨ result = better

namespace Approximates

theorem refl (result : Except Error α) : Approximates result result := .inr rfl

theorem endless (better : Except Error α) : Approximates (.error .endless) better := .inl rfl

theorem antisymm {result better : Except Error α} (h : Approximates result better)
    (hback : Approximates better result) : result = better := by
  rcases h with rfl | rfl
  · rcases hback with rfl | rfl
    · rfl
    · rfl
  · rfl

/-- What follows on a stage that was cut off is cut off as well. -/
theorem bind {stage better : Except Error α} {next after : α → Except Error β}
    (h : Approximates stage better) (hnext : ∀ a, Approximates (next a) (after a)) :
    Approximates (stage >>= next) (better >>= after) := by
  rcases h with rfl | rfl
  · exact endless _
  · cases stage with
    | error cause => exact refl _
    | ok a => exact hnext a

theorem after {stage : Except Error α} {next better : α → Except Error β}
    (hnext : ∀ a, stage = .ok a → Approximates (next a) (better a)) :
    Approximates (stage >>= next) (stage >>= better) := by
  cases stage with
  | error cause => exact refl (.error cause)
  | ok a => exact hnext a rfl

theorem map {stage better : Except Error α} (h : Approximates stage better) (f : α → β) :
    Approximates (f <$> stage) (f <$> better) := by
  rcases h with rfl | rfl
  · exact endless _
  · exact refl _

theorem mapM {f g : α → Except Error β} {items : List α}
    (h : ∀ item ∈ items, Approximates (f item) (g item)) :
    Approximates (items.mapM f) (items.mapM g) := by
  induction items with
  | nil => exact refl _
  | cons item rest ih =>
      rw [List.mapM_cons, List.mapM_cons]
      apply (h item List.mem_cons_self).bind
      intro first
      apply (ih fun other hother => h other (List.mem_cons_of_mem _ hother)).bind
      intro others
      exact refl _

theorem sequence {results better : List (Except Error α)}
    (h : List.Forall₂ Approximates results better) :
    Approximates (results.mapM id) (better.mapM id) := by
  induction h with
  | nil => exact refl _
  | cons hfirst _ ih =>
      rw [List.mapM_cons, List.mapM_cons]
      apply hfirst.bind
      intro first
      apply ih.bind
      intro others
      exact refl _

end Approximates

/-! ### Rising chains -/

/-- The results at places, each of which approximates the next one, and of which those of one depth
are settled by those that the depth before has at the places of `region`. -/
structure Rising (region : Finset ι) (chain : Nat → ι → Except Error α) : Prop where
  rises : ∀ depth place, Approximates (chain depth place) (chain (depth + 1) place)
  settled : ∀ depth other, (∀ place ∈ region, chain depth place = chain other place) →
    ∀ place, chain (depth + 1) place = chain (other + 1) place

/-- The places at which the results of a depth were cut off. -/
noncomputable def cutOff (region : Finset ι) (chain : Nat → ι → Except Error α) (depth : Nat) :
    Finset ι :=
  open Classical in region.filter fun place => chain depth place = .error .endless

theorem mem_cutOff {region : Finset ι} {chain : Nat → ι → Except Error α} {depth : Nat}
    {place : ι} : place ∈ cutOff region chain depth ↔
      place ∈ region ∧ chain depth place = .error .endless := by
  simp [cutOff]

namespace Rising

variable {region : Finset ι} {chain : Nat → ι → Except Error α} (h : Rising region chain)
include h

theorem cutOff_subset (depth : Nat) :
    cutOff region chain (depth + 1) ⊆ cutOff region chain depth := by
  intro place hplace
  obtain ⟨hregion, hcut⟩ := mem_cutOff.1 hplace
  apply mem_cutOff.2
  refine ⟨hregion, ?_⟩
  rcases h.rises depth place with hendless | hsame
  · exact hendless
  · rw [hsame, hcut]

/-- Where no more places are cut off at one depth than at the next one, nothing changes between
them. -/
theorem eq_of_card_le {depth : Nat}
    (hcard : (cutOff region chain depth).card ≤ (cutOff region chain (depth + 1)).card) :
    ∀ place ∈ region, chain depth place = chain (depth + 1) place := by
  have hsame := Finset.eq_of_subset_of_card_le (h.cutOff_subset depth) hcard
  intro place hplace
  rcases h.rises depth place with hendless | hequal
  · have hmem : place ∈ cutOff region chain (depth + 1) := by
      rw [hsame]
      exact mem_cutOff.2 ⟨hplace, hendless⟩
    rw [hendless, (mem_cutOff.1 hmem).2]
  · exact hequal

/-- Where nothing changes from one depth to the next one, nothing ever changes again. -/
theorem eq_of_eq_succ {depth : Nat}
    (hsucc : ∀ place ∈ region, chain depth place = chain (depth + 1) place) (more : Nat) :
    ∀ place ∈ region, chain (depth + more) place = chain (depth + more + 1) place := by
  induction more with
  | zero => exact hsucc
  | succ more ih =>
      intro place _
      exact h.settled _ _ ih place

/-- At some depth nothing changes any more: until then at least one place a step is lost from those
that are cut off. -/
theorem exists_eq_succ :
    ∃ depth ≤ region.card, ∀ place ∈ region, chain depth place = chain (depth + 1) place := by
  by_contra hnever
  have hdrop : ∀ depth ≤ region.card,
      (cutOff region chain (depth + 1)).card < (cutOff region chain depth).card := by
    intro depth hdepth
    by_contra hcard
    exact hnever ⟨depth, hdepth, h.eq_of_card_le (by omega)⟩
  have hbound : ∀ depth ≤ region.card + 1,
      (cutOff region chain depth).card + depth ≤ region.card := by
    intro depth
    induction depth with
    | zero =>
        intro _
        have hregion : cutOff region chain 0 ⊆ region := by
          intro place hplace
          exact (mem_cutOff.1 hplace).1
        exact Finset.card_le_card hregion
    | succ depth ih =>
        intro hdepth
        have hbefore := ih (by omega)
        have hless := hdrop depth (by omega)
        omega
  have hlast := hbound (region.card + 1) (le_refl _)
  omega

/-- From the number of places on, all depths have the same results at them. -/
theorem stable_of_mem {depth other : Nat} (hdepth : region.card ≤ depth)
    (hother : region.card ≤ other) {place : ι} (hplace : place ∈ region) :
    chain depth place = chain other place := by
  obtain ⟨first, hfirst, hsucc⟩ := h.exists_eq_succ
  have hconstant : ∀ more, chain (first + more) place = chain first place := by
    intro more
    induction more with
    | zero => rfl
    | succ more ih =>
        rw [← ih]
        exact (h.eq_of_eq_succ hsucc more place hplace).symm
  obtain ⟨more, rfl⟩ := Nat.exists_eq_add_of_le (hfirst.trans hdepth)
  obtain ⟨others, rfl⟩ := Nat.exists_eq_add_of_le (hfirst.trans hother)
  rw [hconstant, hconstant]

theorem stable {depth other : Nat} (hdepth : region.card < depth) (hother : region.card < other)
    (place : ι) : chain depth place = chain other place := by
  obtain ⟨depth, rfl⟩ : ∃ before, depth = before + 1 := ⟨depth - 1, by omega⟩
  obtain ⟨other, rfl⟩ : ∃ before, other = before + 1 := ⟨other - 1, by omega⟩
  apply h.settled
  intro place hplace
  exact h.stable_of_mem (by omega) (by omega) hplace

end Rising

end SqlBuilder.Outcome
