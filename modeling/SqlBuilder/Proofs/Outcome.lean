import Mathlib.Data.List.Forall2

/-!
# What a computation that may fail answers

The compiler is a chain of stages of which each may fail. A chain that answers has an answer at each
of its stages, and the proofs take it apart there, one stage after the other. Two chains are
compared stage by stage: they fail alike, or what they answer is related.
-/

namespace SqlBuilder.Outcome

variable {ε α β : Type}

theorem bind_eq_ok {stage : Except ε α} {next : α → Except ε β} {answer : β} :
    (stage >>= next) = .ok answer ↔ ∃ a, stage = .ok a ∧ next a = .ok answer := by
  cases stage with
  | error cause =>
      constructor
      · intro h
        cases h
      · rintro ⟨_, h, _⟩
        cases h
  | ok a =>
      constructor
      · intro h
        exact ⟨a, rfl, h⟩
      · rintro ⟨_, ha, h⟩
        cases ha
        exact h

@[simp] theorem pure_eq_ok {a b : α} : (pure a : Except ε α) = .ok b ↔ a = b := by
  simp [pure, Except.pure]

theorem map_eq_ok {f : α → β} {stage : Except ε α} {answer : β} :
    f <$> stage = .ok answer ↔ ∃ a, stage = .ok a ∧ f a = answer := by
  rw [map_eq_pure_bind, bind_eq_ok]
  simp only [pure_eq_ok]

@[simp] theorem ok_bind {a : α} {next : α → Except ε β} :
    (Except.ok a >>= next) = next a := rfl

@[simp] theorem error_bind {cause : ε} {next : α → Except ε β} :
    (Except.error cause >>= next) = .error cause := rfl

theorem toOption_map_eq_some {result : Except ε α} {f : α → β} {answer : β} :
    result.toOption.map f = some answer ↔ ∃ a, result = .ok a ∧ f a = answer := by
  cases result with
  | error cause => simp [Except.toOption]
  | ok a => simp [Except.toOption]

def cause? : Except ε α → Option ε
  | .ok _ => none
  | .error cause => some cause

theorem cause?_eq_some {result : Except ε α} {cause : ε} :
    cause? result = some cause ↔ result = .error cause := by
  cases result <;> simp [cause?]

/-- A list of computations answers the list of their answers. -/
theorem mapM_eq_ok {f : α → Except ε β} {items : List α} {answers : List β} :
    items.mapM f = .ok answers ↔ List.Forall₂ (fun a b => f a = .ok b) items answers := by
  induction items generalizing answers with
  | nil => simp [pure, Except.pure, eq_comm]
  | cons item rest ih =>
      rw [List.mapM_cons, bind_eq_ok, List.forall₂_cons_left_iff]
      constructor
      · rintro ⟨first, hfirst, hrest⟩
        obtain ⟨others, hothers, hanswers⟩ := bind_eq_ok.1 hrest
        exact ⟨first, others, hfirst, ih.1 hothers, (pure_eq_ok.1 hanswers).symm⟩
      · rintro ⟨first, others, hfirst, hothers, rfl⟩
        exact ⟨first, hfirst, bind_eq_ok.2 ⟨others, ih.2 hothers, rfl⟩⟩

theorem mapM_congr {f g : α → Except ε β} {items : List α} (h : ∀ item ∈ items, f item = g item) :
    items.mapM f = items.mapM g := by
  induction items with
  | nil => rfl
  | cons item rest ih =>
      rw [List.mapM_cons, List.mapM_cons, h item List.mem_cons_self,
        ih fun other hother => h other (List.mem_cons_of_mem item hother)]

theorem exists_of_forall₂ {R : α → β → Prop} {items : List α} {answers : List β}
    (h : List.Forall₂ R items answers) {item : α} (hitem : item ∈ items) :
    ∃ answer ∈ answers, R item answer := by
  induction h with
  | nil => cases hitem
  | cons hfirst _ ih =>
      rcases List.mem_cons.1 hitem with rfl | hrest
      · exact ⟨_, List.mem_cons_self, hfirst⟩
      · obtain ⟨answer, hanswer, hrelated⟩ := ih hrest
        exact ⟨answer, List.mem_cons_of_mem _ hanswer, hrelated⟩

theorem exists_of_mapM {f : α → Except ε β} {items : List α} {answers : List β}
    (h : items.mapM f = .ok answers) {item : α} (hitem : item ∈ items) :
    ∃ answer, f item = .ok answer := by
  obtain ⟨answer, -, hanswer⟩ := exists_of_forall₂ (mapM_eq_ok.1 h) hitem
  exact ⟨answer, hanswer⟩

theorem exists_mapM {f : α → Except ε β} {P : α → β → Prop} {items : List α}
    (h : ∀ item ∈ items, ∃ answer, f item = .ok answer ∧ P item answer) :
    ∃ answers, items.mapM f = .ok answers ∧ List.Forall₂ P items answers := by
  induction items with
  | nil => exact ⟨[], rfl, .nil⟩
  | cons item rest ih =>
      obtain ⟨answer, hanswer, hitem⟩ := h item List.mem_cons_self
      obtain ⟨answers, hanswers, hrest⟩ := ih fun other hother =>
        h other (List.mem_cons_of_mem item hother)
      refine ⟨answer :: answers, ?_, .cons hitem hrest⟩
      rw [List.mapM_cons, hanswer, hanswers]
      rfl

/-- Two stages for each item of a list are a list of answers of the first stage with those of the
second. -/
theorem exists_between {γ : Type} {stage : α → Except ε β} {next : β → Except ε γ}
    {items : List α} {answers : List γ}
    (h : List.Forall₂ (fun item answer => stage item >>= next = .ok answer) items answers) :
    ∃ between, List.Forall₂ (fun item middle => stage item = .ok middle) items between ∧
      List.Forall₂ (fun middle answer => next middle = .ok answer) between answers := by
  induction h with
  | nil => exact ⟨[], .nil, .nil⟩
  | cons hfirst _ ih =>
      obtain ⟨middle, hmiddle, hanswer⟩ := bind_eq_ok.1 hfirst
      obtain ⟨between, hbefore, hafter⟩ := ih
      exact ⟨middle :: between, .cons hmiddle hbefore, .cons hanswer hafter⟩

/-- A computation has an answer, and it is as stated. -/
def Succeeds (result : Except ε α) (post : α → Prop) : Prop :=
  ∃ answer, result = .ok answer ∧ post answer

namespace Succeeds

variable {post : α → Prop} {last : β → Prop}

theorem ok {answer : α} (h : post answer) : Succeeds (.ok answer : Except ε α) post :=
  ⟨answer, rfl, h⟩

theorem bind {stage : Except ε α} {next : α → Except ε β} (h : Succeeds stage post)
    (hnext : ∀ answer, post answer → Succeeds (next answer) last) :
    Succeeds (stage >>= next) last := by
  obtain ⟨answer, rfl, hanswer⟩ := h
  exact hnext answer hanswer

theorem mapM {f : α → Except ε β} {items : List α}
    (h : ∀ item ∈ items, Succeeds (f item) fun _ => True) :
    Succeeds (items.mapM f) fun _ => True := by
  obtain ⟨answers, hanswers, -⟩ := exists_mapM h
  exact ⟨answers, hanswers, trivial⟩

end Succeeds

variable {γ δ : Type}

/-- Two results that are related answers or the same failure. -/
inductive Related (relation : α → β → Prop) : Except ε α → Except ε β → Prop where
  | ok {a : α} {b : β} (h : relation a b) : Related relation (.ok a) (.ok b)
  | error (cause : ε) : Related relation (.error cause) (.error cause)

namespace Related

variable {relation : α → β → Prop} {after : γ → δ → Prop}

theorem bind {stage : Except ε α} {other : Except ε β} {next : α → Except ε γ}
    {following : β → Except ε δ} (h : Related relation stage other)
    (hnext : ∀ a b, relation a b → Related after (next a) (following b)) :
    Related after (stage >>= next) (other >>= following) := by
  cases h with
  | ok hrelated => exact hnext _ _ hrelated
  | error cause => exact .error cause

theorem afterSame {stage : Except ε α} {next : α → Except ε γ} {following : α → Except ε δ}
    (hnext : ∀ a, stage = .ok a → Related after (next a) (following a)) :
    Related after (stage >>= next) (stage >>= following) := by
  cases stage with
  | error cause => exact .error cause
  | ok a => exact hnext a rfl

theorem of_self {relation : α → α → Prop} {result : Except ε α}
    (h : ∀ a, result = .ok a → relation a a) : Related relation result result := by
  cases result with
  | error cause => exact .error cause
  | ok a => exact .ok (h a rfl)

theorem exists_ok {result : Except ε α} {other : Except ε β} {a : α}
    (h : Related relation result other) (ha : result = .ok a) :
    ∃ b, other = .ok b ∧ relation a b := by
  cases h with
  | ok hrelated =>
      cases ha
      exact ⟨_, rfl, hrelated⟩
  | error cause => cases ha

theorem map_eq {result : Except ε α} {other : Except ε β} {f : α → γ} {g : β → γ}
    (h : Related relation result other) (hsame : ∀ a b, relation a b → f a = g b) :
    f <$> result = g <$> other := by
  cases h with
  | ok hrelated => exact congrArg Except.ok (hsame _ _ hrelated)
  | error cause => rfl

theorem mapM {f : α → Except ε γ} {g : β → Except ε δ} {items : List α} {others : List β}
    (h : List.Forall₂ (fun a b => Related after (f a) (g b)) items others) :
    Related (List.Forall₂ after) (items.mapM f) (others.mapM g) := by
  induction h with
  | nil => exact .ok .nil
  | cons hfirst _ ih =>
      rw [List.mapM_cons, List.mapM_cons]
      apply hfirst.bind
      intro first other hrelated
      apply ih.bind
      intro rest others hrest
      exact .ok (.cons hrelated hrest)

end Related

end SqlBuilder.Outcome
