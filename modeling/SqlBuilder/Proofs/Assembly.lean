import SqlBuilder.Proofs.Ingredient
import SqlBuilder.Proofs.Outcome
import SqlBuilder.Proofs.Scan

/-!
# How tokens are put together

A statement is put together from ingredients in a few ways: a word, a quoted name, a dotted path, a
placeholder, and two pieces with text between them. That text has something fixed in it, which is
never a quote or a question mark, so nothing that is supplied ever stands directly beside another
thing that is. The blanks at the ends of a piece may be cut off, and the keyword at its front, and a
piece that leaves nothing in the text may be left out. Whatever holds of all that is put together in
these ways holds of the statements of a compiler, and is proved by induction on how they were made.
-/

namespace SqlBuilder

open Outcome Placeholder

/-- A text that separates two pieces: a fixed one, or a word with fixed text beside it. -/
inductive Joint (scope : Scope) : List Ingredient → String → Prop where
  | fixed {text : String} (hplain : ∀ c ∈ text.toList, isPlain c = true)
      (hseparates : text ≠ "") : Joint scope [] text
  | word {ingredient : Ingredient} {text front back : String}
      (htext : ingredient.Inlines scope text)
      (hfront : ∀ c ∈ front.toList, isPlain c = true)
      (hback : ∀ c ∈ back.toList, isPlain c = true) (hseparates : front ++ back ≠ "") :
      Joint scope [ingredient] (front ++ text ++ back)

namespace Joint

variable {scope : Scope} (ingredient : Ingredient) {text : String}

theorem between (htext : ingredient.Inlines scope text) (front back : String)
    (hfront : ∀ c ∈ front.toList, isPlain c = true)
    (hback : ∀ c ∈ back.toList, isPlain c = true) (hne : front ++ back ≠ "") :
    Joint scope [ingredient] (front ++ text ++ back) :=
  word htext hfront hback hne

theorem before (htext : ingredient.Inlines scope text) (back : String)
    (hback : ∀ c ∈ back.toList, isPlain c = true) (hne : back ≠ "") :
    Joint scope [ingredient] (text ++ back) := by
  simpa using between ingredient htext "" back (by decide) hback (by simpa using hne)

theorem behind (htext : ingredient.Inlines scope text) (front : String)
    (hfront : ∀ c ∈ front.toList, isPlain c = true) (hne : front ≠ "") :
    Joint scope [ingredient] (front ++ text) := by
  simpa using between ingredient htext front "" hfront (by decide) (by simpa using hne)

end Joint

/-- Tokens that are put together from ingredients, all of them in their order. -/
inductive Assembled (scope : Scope) : List Ingredient → Tokens → Prop where
  | nil : Assembled scope [] []
  | fixed {text : String} (hplain : ∀ c ∈ text.toList, isPlain c = true) :
      Assembled scope [] [.literal text]
  | word {value : Value} {text : String} (htext : value.toText scope = .ok text) :
      Assembled scope [.word value] [.literal text]
  | name {value : Value} {text : String} (htext : value.toText scope = .ok text) :
      Assembled scope [.name value] [.name text]
  | path {value : Value} {text : String} (htext : value.toText scope = .ok text) :
      Assembled scope [.path value] (Tokens.path text)
  | slot (value : Value) : Assembled scope [.bound value] [.slot value]
  | glue {first joint second : List Ingredient} {front back : Tokens} {text : String}
      (hfirst : Assembled scope first front) (hjoint : Joint scope joint text)
      (hsecond : Assembled scope second back) :
      Assembled scope (first ++ (joint ++ second)) (front ++ .literal text :: back)
  | dropFront {first second : List Ingredient} {front back : Tokens}
      (hfirst : Assembled scope first front) (hvanishes : front.vanishes = true)
      (hsecond : Assembled scope second back) : Assembled scope (first ++ second) back
  | dropBack {first second : List Ingredient} {front back : Tokens}
      (hfirst : Assembled scope first front) (hsecond : Assembled scope second back)
      (hvanishes : back.vanishes = true) : Assembled scope (first ++ second) front
  | beheaded {ingredients : List Ingredient} {tokens : Tokens}
      (h : Assembled scope ingredients tokens) :
      Assembled scope ingredients (Condition.dropLeading tokens)
  | trimmed {ingredients : List Ingredient} {tokens : Tokens}
      (h : Assembled scope ingredients tokens) : Assembled scope ingredients tokens.trim

namespace Assembled

variable {scope : Scope} {first joint second ingredients : List Ingredient} {front back : Tokens}

theorem behind {text : String} (hjoint : Joint scope joint text)
    (hsecond : Assembled scope second back) :
    Assembled scope (joint ++ second) (.literal text :: back) :=
  nil.glue hjoint hsecond

theorem lead (text : String) (hplain : ∀ c ∈ text.toList, isPlain c = true) (hne : text ≠ "")
    (hsecond : Assembled scope second back) : Assembled scope second (.literal text :: back) :=
  behind (.fixed hplain hne) hsecond

theorem link (hfirst : Assembled scope first front) (text : String)
    (hplain : ∀ c ∈ text.toList, isPlain c = true) (hne : text ≠ "")
    (hsecond : Assembled scope second back) :
    Assembled scope (first ++ second) (front ++ .literal text :: back) :=
  hfirst.glue (.fixed hplain hne) hsecond

theorem close (hfirst : Assembled scope first front) (text : String)
    (hplain : ∀ c ∈ text.toList, isPlain c = true) (hne : text ≠ "") :
    Assembled scope first (front ++ [.literal text]) := by
  simpa using hfirst.link text hplain hne nil

/-- A piece that leaves nothing in the text can be left out. -/
theorem vanished (h : Assembled scope ingredients front) (hvanishes : front.vanishes = true) :
    Assembled scope ingredients [] := by
  simpa using h.dropFront hvanishes nil

theorem joined_cons {separator : String} (hplain : ∀ c ∈ separator.toList, isPlain c = true)
    (hne : separator ≠ "") {piece : Tokens} {pieces : List Tokens}
    (hfirst : Assembled scope first piece)
    (hsecond : Assembled scope second (Tokens.joined separator pieces)) :
    Assembled scope (first ++ second) (Tokens.joined separator (piece :: pieces)) := by
  cases pieces with
  | nil =>
      rw [Tokens.joined_singleton]
      exact hfirst.dropBack hsecond rfl
  | cons next rest =>
      rw [Tokens.joined_cons_cons]
      exact hfirst.link separator hplain hne hsecond

theorem joined {α : Type} (supply : α → List Ingredient) (separator : String)
    (hplain : ∀ c ∈ separator.toList, isPlain c = true) (hne : separator ≠ "") {items : List α}
    {pieces : List Tokens}
    (h : List.Forall₂ (fun item piece => Assembled scope (supply item) piece) items pieces) :
    Assembled scope (items.flatMap supply) (Tokens.joined separator pieces) := by
  induction h with
  | nil => exact nil
  | cons hfirst _ ih => exact joined_cons hplain hne hfirst ih

theorem spaced_nil : Assembled scope [] (Tokens.spaced []) := nil

theorem spaced_cons {piece : Tokens} {pieces : List Tokens}
    (hfirst : Assembled scope first piece)
    (hsecond : Assembled scope second (Tokens.spaced pieces)) :
    Assembled scope (first ++ second) (Tokens.spaced (piece :: pieces)) := by
  by_cases hvanishes : piece.vanishes = true
  · have hspaced : Tokens.spaced (piece :: pieces) = Tokens.spaced pieces := by
      simp [Tokens.spaced, hvanishes]
    rw [hspaced]
    exact hfirst.dropFront hvanishes hsecond
  · have hspaced : Tokens.spaced (piece :: pieces) =
        Tokens.joined " " (piece :: pieces.filter fun piece => !piece.vanishes) := by
      simp [Tokens.spaced, hvanishes]
    rw [hspaced]
    exact joined_cons (by decide) (by decide) hfirst hsecond

theorem spaced_mapM {supplies : List (List Ingredient)} {results : List (Except Error Tokens)}
    {pieces : List Tokens}
    (h : List.Forall₂ (fun supply result => ∀ tokens, result = .ok tokens →
      Assembled scope supply tokens) supplies results)
    (hpieces : results.mapM id = .ok pieces) :
    Assembled scope supplies.flatten (Tokens.spaced pieces) := by
  have hanswers := mapM_eq_ok.1 hpieces
  clear hpieces
  induction h generalizing pieces with
  | nil =>
      cases hanswers
      exact spaced_nil
  | cons hfirst _ ih =>
      cases hanswers with
      | cons hanswer hothers => exact spaced_cons (hfirst _ hanswer) (ih hothers)

theorem headed {keyword : String} (hkeyword : ∀ c ∈ keyword.toList, isPlain c = true)
    {body : Tokens} (h : Assembled scope ingredients body) :
    Assembled scope ingredients (Tokens.headed keyword body) := by
  by_cases hvanishes : body.vanishes = true
  · rw [Tokens.headed_of_vanishes keyword hvanishes]
    exact h.vanished hvanishes
  · by_cases hempty : keyword.isEmpty = true
    · simpa [Tokens.headed, hvanishes, hempty] using h
    · have hheaded : Tokens.headed keyword body = .literal (keyword ++ " ") :: body := by
        simp [Tokens.headed, hvanishes, hempty]
      rw [hheaded]
      refine h.lead _ ?_ (by simp)
      intro c hc
      rw [String.toList_append] at hc
      rcases List.mem_append.1 hc with hmem | hmem
      · exact hkeyword c hmem
      · exact (by decide : ∀ c ∈ " ".toList, isPlain c = true) c hmem

theorem listing {piece : Fragment → Except Error Tokens} {supply : Fragment → List Ingredient}
    {keyword : String} (hkeyword : ∀ c ∈ keyword.toList, isPlain c = true) {clause : Clause}
    {blueprint : Blueprint} {tokens : Tokens}
    (hpiece : ∀ fragment tokens, piece fragment = .ok tokens →
      Assembled scope (supply fragment) tokens)
    (h : Statement.listing piece keyword clause blueprint = .ok tokens) :
    Assembled scope ((blueprint.fragments clause).flatMap supply) tokens := by
  obtain ⟨pieces, hpieces, htokens⟩ := bind_eq_ok.1 h
  obtain rfl := pure_eq_ok.1 htokens
  exact headed hkeyword
    (joined _ _ (by decide) (by decide) ((mapM_eq_ok.1 hpieces).imp fun _ _ => hpiece _ _))

end Assembled

end SqlBuilder
