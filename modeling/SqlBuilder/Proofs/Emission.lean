import SqlBuilder.Proofs.Assembly.Statement
import Mathlib.Data.List.TakeWhile

/-!
# From ingredients to tokens

What a statement compiles to is settled by what its blueprint supplies: the values it binds are
bound in the same order, and its literal tokens are put together from the words that are written as
they are and from fixed words. The fixed words have neither quotes nor question marks, so a robust
property that all the written words have is one that all literal tokens have.
-/

namespace SqlBuilder

open Outcome Placeholder

namespace Tokens

/-- Every literal token has a property. -/
def Literals (P : List Char → Prop) (tokens : Tokens) : Prop :=
  ∀ text, Token.literal text ∈ tokens → P text.toList

theorem Literals.append {P : List Char → Prop} {front back : Tokens} (hfront : front.Literals P)
    (hback : back.Literals P) : Literals P (front ++ back) := by
  intro text htext
  rcases List.mem_append.1 htext with h | h
  · exact hfront text h
  · exact hback text h

theorem Literals.subset {P : List Char → Prop} {tokens others : Tokens} (h : tokens.Literals P)
    (hsubset : ∀ token ∈ others, token ∈ tokens) : others.Literals P :=
  fun text htext => h text (hsubset _ htext)

theorem Literals.cons_literal {P : List Char → Prop} {text : String} {rest : Tokens}
    (htext : P text.toList) (hrest : rest.Literals P) : Literals P (.literal text :: rest) := by
  intro other hother
  rcases List.mem_cons.1 hother with heq | hmem
  · cases heq
    exact htext
  · exact hrest other hmem

theorem Literals.joined {P : List Char → Prop} {separator : String} (hP : P separator.toList)
    {pieces : List Tokens} (h : ∀ piece ∈ pieces, piece.Literals P) :
    Literals P (Tokens.joined separator pieces) := by
  induction pieces with
  | nil => exact fun _ htext => absurd htext List.not_mem_nil
  | cons piece rest ih =>
      have hpiece := h piece List.mem_cons_self
      have hrest := ih fun other hother => h other (List.mem_cons_of_mem piece hother)
      cases rest with
      | nil =>
          rw [joined_singleton]
          exact hpiece
      | cons next others =>
          rw [joined_cons_cons]
          exact hpiece.append (hrest.cons_literal hP)

/-- What is read off the tokens that are no literals is read off the pieces one by one. -/
theorem filterMap_joined {α : Type} {f : Token → Option α} (hf : ∀ text, f (.literal text) = none)
    (separator : String) (pieces : List Tokens) :
    (joined separator pieces).filterMap f = pieces.flatMap (List.filterMap f) := by
  induction pieces with
  | nil => rfl
  | cons piece rest ih =>
      cases rest with
      | nil => simp
      | cons next others =>
          rw [joined_cons_cons, List.filterMap_append, List.filterMap_cons_none (hf separator), ih]
          rfl

/-- Pieces that leave nothing in the text bind nothing, so it does not matter that they are left
out. -/
theorem parameters_spaced (pieces : List Tokens) :
    (spaced pieces).parameters = pieces.flatMap parameters := by
  rw [spaced, parameters, filterMap_joined fun _ => rfl]
  induction pieces with
  | nil => rfl
  | cons piece rest ih =>
      by_cases hvanishes : piece.vanishes = true
      · simp [hvanishes, ih, parameters_of_vanishes hvanishes]
      · simp [hvanishes, ih, parameters]

theorem parameters_path (characters : String) : (path characters).parameters = [] := by
  rw [parameters, path, filterMap_joined (fun _ => rfl), List.flatMap_map]
  refine List.flatMap_eq_nil_iff.2 fun segment _ => ?_
  split <;> rfl

end Tokens

/-- Tokens bind what the ingredients bind, and their literals have the property `P` if the words
among the ingredients have it. -/
structure Emission (scope : Scope) (P : List Char → Prop) (ingredients : List Ingredient)
    (tokens : Tokens) : Prop where
  parameters : tokens.parameters = ingredients.filterMap Ingredient.bound?
  literals : (∀ ingredient ∈ ingredients, ∀ text, ingredient.Inlines scope text → P text.toList) →
    tokens.Literals P

/-! ### Cutting off -/

namespace Placeholder

theorem isPlain_of_isBlank {c : Char} (h : Text.isBlank c = true) : isPlain c = true :=
  isPlain_of_class (by decide) h

variable {P : List Char → Prop}

theorem Robust.trimStart (hP : Robust P) {cs : List Char} (h : P cs) :
    P (Text.trimStart cs) := by
  have hfront : ∀ c ∈ cs.takeWhile Text.isBlank, isPlain c = true :=
    fun c hc => isPlain_of_isBlank (List.mem_takeWhile_imp hc)
  apply hP.of_append_left hfront
  rwa [Text.trimStart, List.takeWhile_append_dropWhile]

theorem Robust.trimEnd (hP : Robust P) {cs : List Char} (h : P cs) : P (Text.trimEnd cs) := by
  have hback : ∀ c ∈ (cs.reverse.takeWhile Text.isBlank).reverse, isPlain c = true :=
    fun c hc => isPlain_of_isBlank (List.mem_takeWhile_imp (List.mem_reverse.1 hc))
  apply hP.of_append_right hback
  rwa [Text.trimEnd, Text.trimStart, ← List.reverse_append, List.takeWhile_append_dropWhile,
    List.reverse_reverse]

theorem exists_dropBlank (word : List Char) (hword : ∀ c ∈ word, isPlain c = true) (c : Char)
    (rest : List Char) :
    ∃ front, word ++ c :: rest = front ++ (if Text.isBlank c then rest else c :: rest) ∧
      ∀ d ∈ front, isPlain d = true := by
  by_cases hc : Text.isBlank c = true
  · refine ⟨word ++ [c], by simp [hc], ?_⟩
    intro d hd
    rcases List.mem_append.1 hd with h | h
    · exact hword d h
    · obtain rfl := List.mem_singleton.1 h
      exact isPlain_of_isBlank hc
  · exact ⟨word, by simp [hc], hword⟩

theorem exists_dropKeyword (cs : List Char) :
    ∃ front, cs = front ++ Condition.dropKeyword cs ∧ ∀ c ∈ front, isPlain c = true := by
  unfold Condition.dropKeyword
  dsimp only
  split
  · next rest =>
      cases rest with
      | nil => exact ⟨['A', 'N', 'D'], rfl, by decide⟩
      | cons c rest => exact exists_dropBlank ['A', 'N', 'D'] (by decide) c rest
  · next rest =>
      cases rest with
      | nil => exact ⟨['O', 'R'], rfl, by decide⟩
      | cons c rest => exact exists_dropBlank ['O', 'R'] (by decide) c rest
  · exact ⟨[], rfl, by simp⟩

theorem Robust.dropKeyword (hP : Robust P) {cs : List Char} (h : P cs) :
    P (Condition.dropKeyword cs) := by
  obtain ⟨front, heq, hfront⟩ := exists_dropKeyword cs
  rw [heq] at h
  exact hP.of_append_left hfront h

end Placeholder

namespace Emission

variable {scope : Scope} {P : List Char → Prop}

theorem nil : Emission scope P [] [] where
  parameters := rfl
  literals _ _ htext := absurd htext List.not_mem_nil

theorem append {first second : List Ingredient} {front back : Tokens}
    (hfirst : Emission scope P first front) (hsecond : Emission scope P second back) :
    Emission scope P (first ++ second) (front ++ back) where
  parameters := by
    rw [Tokens.parameters_append, hfirst.parameters, hsecond.parameters, List.filterMap_append]
  literals h :=
    Tokens.Literals.append
      (hfirst.literals fun ingredient hmem => h ingredient (List.mem_append_left _ hmem))
      (hsecond.literals fun ingredient hmem => h ingredient (List.mem_append_right _ hmem))

theorem of_vanishes {ingredients : List Ingredient} {piece : Tokens}
    (h : Emission scope P ingredients piece) (hvanishes : piece.vanishes = true) :
    Emission scope P ingredients [] where
  parameters := by rw [← h.parameters, Tokens.parameters_of_vanishes hvanishes]; rfl
  literals _ _ htext := absurd htext List.not_mem_nil

theorem single {ingredient : Ingredient} {token : Token}
    (hparameter : token.parameter? = ingredient.bound?) (htoken : ∀ text, token ≠ .literal text) :
    Emission scope P [ingredient] [token] where
  parameters := by
    simp only [Tokens.parameters, List.filterMap_cons, hparameter, List.filterMap_nil]
  literals _ text htext := absurd (List.mem_singleton.1 htext).symm (htoken text)

variable (hP : Robust P)
include hP

theorem fixed {text : String} (hplain : ∀ c ∈ text.toList, isPlain c = true) :
    Emission scope P [] [.literal text] where
  parameters := rfl
  literals _ := Tokens.Literals.cons_literal (hP.of_isPlain hplain) (by simp [Tokens.Literals])

theorem joint {ingredients : List Ingredient} {text : String}
    (h : Joint scope ingredients text) : Emission scope P ingredients [.literal text] := by
  cases h with
  | fixed hplain _ => exact fixed hP hplain
  | @word ingredient text front back htext hfront hback _ =>
      refine ⟨?_, fun hwords => Tokens.Literals.cons_literal ?_ (by simp [Tokens.Literals])⟩
      · cases ingredient with
        | bound value => exact htext.elim
        | _ => rfl
      · rw [String.toList_append, String.toList_append]
        exact hP.append (hP.append (hP.of_isPlain hfront) (hwords _ List.mem_cons_self _ htext))
          (hP.of_isPlain hback)

theorem path (value : Value) (characters : String) :
    Emission scope P [.path value] (Tokens.path characters) where
  parameters := Tokens.parameters_path characters
  literals _ := by
    refine Tokens.Literals.joined (hP.of_isPlain (by decide)) fun piece hpiece => ?_
    obtain ⟨segment, -, rfl⟩ := List.mem_map.1 hpiece
    split <;> simp [Tokens.Literals]

theorem dropLeading {ingredients : List Ingredient} {tokens : Tokens}
    (h : Emission scope P ingredients tokens) :
    Emission scope P ingredients (Condition.dropLeading tokens) := by
  cases tokens with
  | nil => exact h
  | cons token rest =>
      cases token with
      | name segment => exact h
      | slot value => exact h
      | literal characters =>
          refine ⟨h.parameters, fun hwords => Tokens.Literals.cons_literal ?_ ?_⟩
          · rw [String.toList_ofList]
            exact hP.dropKeyword (h.literals hwords _ List.mem_cons_self)
          · exact (h.literals hwords).subset fun _ => List.mem_cons_of_mem _

theorem literals_trimStart {tokens : Tokens} (h : tokens.Literals P) :
    (Tokens.trimStart tokens).Literals P := by
  fun_induction Tokens.trimStart tokens with
  | case1 characters rest hblank ih =>
      exact ih (h.subset fun _ => List.mem_cons_of_mem _)
  | case2 characters rest hblank =>
      refine Tokens.Literals.cons_literal ?_ (h.subset fun _ => List.mem_cons_of_mem _)
      rw [String.toList_ofList]
      exact hP.trimStart (h _ List.mem_cons_self)
  | case3 => exact h

theorem literals_trimBack {tokens : Tokens} (h : tokens.Literals P) :
    (Tokens.trimBack tokens).Literals P := by
  fun_induction Tokens.trimBack tokens with
  | case1 characters rest hblank ih =>
      exact ih (h.subset fun _ => List.mem_cons_of_mem _)
  | case2 characters rest hblank =>
      refine Tokens.Literals.cons_literal ?_ (h.subset fun _ => List.mem_cons_of_mem _)
      rw [String.toList_ofList]
      exact hP.trimEnd (h _ List.mem_cons_self)
  | case3 => exact h

theorem trim {ingredients : List Ingredient} {tokens : Tokens}
    (h : Emission scope P ingredients tokens) :
    Emission scope P ingredients (Tokens.trim tokens) where
  parameters := by rw [Tokens.parameters_trim, h.parameters]
  literals hwords := by
    have hstart := literals_trimStart hP (h.literals hwords)
    have hreversed : Tokens.Literals P (Tokens.trimStart tokens).reverse :=
      hstart.subset fun _ => List.mem_reverse.1
    have hback := literals_trimBack hP hreversed
    exact hback.subset fun _ => List.mem_reverse.1

/-- Whatever is put together from ingredients is settled by them. -/
theorem of_assembled {ingredients : List Ingredient} {tokens : Tokens}
    (h : Assembled scope ingredients tokens) : Emission scope P ingredients tokens := by
  induction h with
  | nil => exact nil
  | fixed hplain => exact fixed hP hplain
  | @word value text htext =>
      exact ⟨rfl, fun hwords =>
        Tokens.Literals.cons_literal (hwords _ List.mem_cons_self _ htext)
          (by simp [Tokens.Literals])⟩
  | name htext => exact single rfl (by simp)
  | path htext => exact path hP _ _
  | slot value => exact single rfl (by simp)
  | glue _ hjoint _ hfirst hsecond => exact hfirst.append ((joint hP hjoint).append hsecond)
  | dropFront _ hvanishes _ hfirst hsecond => exact (hfirst.of_vanishes hvanishes).append hsecond
  | dropBack _ _ hvanishes hfirst hsecond =>
      simpa using hfirst.append (hsecond.of_vanishes hvanishes)
  | beheaded _ ih => exact dropLeading hP ih
  | trimmed _ ih => exact trim hP ih

omit hP in
/-- Names neither bind nor inline anything, so it does not matter which of them are listed. -/
theorem of_others {ingredients own : List Ingredient} {tokens : Tokens}
    (hothers : Ingredient.others ingredients = Ingredient.others own)
    (h : Emission scope P ingredients tokens) : Emission scope P own tokens where
  parameters := by
    have hbound : ∀ list : List Ingredient,
        list.filterMap Ingredient.bound? =
          (Ingredient.others list).filterMap Ingredient.bound? := by
      intro list
      rw [Ingredient.others, List.filterMap_filter]
      refine List.filterMap_congr fun ingredient _ => ?_
      cases ingredient <;> rfl
    rw [h.parameters, hbound, hothers, ← hbound]
  literals hwords := by
    refine h.literals fun ingredient hmem text htext => hwords ingredient ?_ text htext
    have hother : ingredient.isName = false := by
      cases ingredient with
      | name value => exact htext.elim
      | _ => rfl
    have hkept : ingredient ∈ Ingredient.others ingredients :=
      List.mem_filter.2 ⟨hmem, by simp [hother]⟩
    rw [hothers] at hkept
    exact List.mem_of_mem_filter hkept

/-- A compiled statement binds what its snapshot supplies to be bound, in that order, and its
literals have whatever robust property the written words have. -/
theorem compiled {compiler : Compiler}
    (hemptying : ∀ c ∈ compiler.emptying.toList, isPlain c = true) {snapshot : Snapshot}
    {tokens : Tokens} (h : compiler.tokens scope snapshot = .ok tokens) :
    Emission scope P (snapshot.ingredients compiler.dialect) tokens :=
  (of_assembled hP (Assembled.compiled hemptying h)).of_others
    (snapshot.others_supplies compiler.dialect)

end Emission

theorem Assembled.parameters {scope : Scope} {ingredients : List Ingredient} {tokens : Tokens}
    (h : Assembled scope ingredients tokens) :
    tokens.parameters = ingredients.filterMap Ingredient.bound? :=
  (Emission.of_assembled robust_closed h).parameters

end SqlBuilder
