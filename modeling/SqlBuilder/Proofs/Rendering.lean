import SqlBuilder.Token
import Mathlib.Data.List.DropRight

/-!
# The text of tokens

A statement is put together from tokens, and what is said about its text is said about their text.
Putting tokens together puts their texts together: a keyword stands in front of a text that is not
empty, texts that are not empty are separated by blanks, and cutting blanks off the tokens cuts them
off the text. All this needs of a quoting is that what it makes of a name is not empty and neither
begins nor ends with a blank.
-/

namespace SqlBuilder

namespace Text

def trim (cs : List Char) : List Char :=
  trimEnd (trimStart cs)

def visible (cs : List Char) : Bool :=
  cs.any fun c => !isBlank c

@[simp] theorem visible_append (front back : List Char) :
    visible (front ++ back) = (visible front || visible back) := by
  simp [visible]

theorem trimStart_append (front back : List Char) :
    trimStart (front ++ back) =
      if trimStart front = [] then trimStart back else trimStart front ++ back := by
  by_cases h : trimStart front = []
  · rw [if_pos h, trimStart, List.dropWhile_append, if_pos (by rwa [List.isEmpty_iff]), trimStart]
  · rw [if_neg h, trimStart, List.dropWhile_append, if_neg (by rwa [List.isEmpty_iff]), trimStart]

theorem trimEnd_append (front back : List Char) :
    trimEnd (front ++ back) =
      if trimEnd back = [] then trimEnd front else front ++ trimEnd back := by
  simp only [trimEnd, List.reverse_append, trimStart_append, List.reverse_eq_nil_iff]
  split
  · rfl
  · rw [List.reverse_append, List.reverse_reverse]

theorem trimEnd_isPrefix (cs : List Char) : trimEnd cs <+: cs :=
  List.rdropWhile_prefix isBlank cs

theorem trimEnd_eq_nil_iff {cs : List Char} : trimEnd cs = [] ↔ visible cs = false := by
  have hcut : trimEnd cs = cs.rdropWhile isBlank := rfl
  simp [hcut, visible]

theorem trimStart_trimStart (cs : List Char) : trimStart (trimStart cs) = trimStart cs :=
  List.dropWhile_idempotent isBlank cs

theorem trimEnd_trimEnd (cs : List Char) : trimEnd (trimEnd cs) = trimEnd cs :=
  List.rdropWhile_idempotent isBlank cs

/-- What is cut off at the end of a text is not at the end of its front. -/
theorem trimEnd_prefix_append (front back : List Char) :
    trimEnd front <+: trimEnd (front ++ back) := by
  rw [trimEnd_append]
  split
  · exact List.prefix_rfl
  · exact (trimEnd_isPrefix front).trans (List.prefix_append front _)

theorem trimStart_trim (cs : List Char) : trimStart (trim cs) = trim cs := by
  obtain ⟨behind, hbehind⟩ := trimEnd_isPrefix (trimStart cs)
  have hstart := trimStart_trimStart cs
  rw [← hbehind] at hstart
  rw [trim]
  cases hcut : trimEnd (trimStart cs) with
  | nil => rfl
  | cons c rest =>
      rw [hcut] at hstart
      have hc : isBlank c = false := by simpa using List.dropWhile_eq_self_iff.1 hstart (by simp)
      exact List.dropWhile_cons_of_neg (by simp [hc])

theorem trim_infix (cs : List Char) : trim cs <:+: cs :=
  (trimEnd_isPrefix _).isInfix.trans (List.dropWhile_suffix isBlank).isInfix

theorem trim_trim (cs : List Char) : trim (trim cs) = trim cs := by
  rw [trim, trimStart_trim, trim, trimEnd_trimEnd]

/-- Cutting blanks off the end last cuts off all that is cut off at both ends. -/
theorem trim_suffix_trimEnd (cs : List Char) : trim cs <:+ trimEnd cs := by
  obtain ⟨front, hfront⟩ := List.dropWhile_suffix isBlank (l := cs)
  have hcut := trimEnd_append front (trimStart cs)
  rw [show front ++ trimStart cs = cs from hfront] at hcut
  rw [trim, hcut]
  split
  · next hempty =>
      rw [hempty]
      exact List.nil_suffix
  · exact List.suffix_append front _

/-- A text within another is, without the blanks at its ends, within the other without those at its
ends. -/
theorem trim_infix_trim {cs ds : List Char} (h : cs <:+: ds) : trim cs <:+: trim ds := by
  obtain ⟨front, back, rfl⟩ := h
  have hfront : trim cs <:+: trim (front ++ cs) := by
    rw [trim.eq_1 (front ++ cs), trimStart_append]
    split
    · exact List.infix_rfl
    · rw [trimEnd_append]
      split
      · next hempty =>
          have hnil := List.suffix_nil.1 (hempty ▸ trim_suffix_trimEnd cs)
          rw [hnil]
          exact List.nil_infix
      · exact (trim_suffix_trimEnd cs).isInfix.trans (List.suffix_append _ _).isInfix
  have hback : trim (front ++ cs) <:+: trim (front ++ cs ++ back) := by
    rw [trim.eq_1 (front ++ cs ++ back), trimStart_append]
    split
    · next hempty =>
        rw [trim, hempty]
        exact List.nil_infix
    · exact (trimEnd_prefix_append _ _).isInfix
  exact hfront.trans hback

/-- A text that is not empty and has no blank at either end. -/
structure Framed (cs : List Char) : Prop where
  nonempty : cs ≠ []
  start : trimStart cs = cs
  finish : trimEnd cs = cs

instance (cs : List Char) : Decidable (Framed cs) :=
  decidable_of_iff (cs ≠ [] ∧ trimStart cs = cs ∧ trimEnd cs = cs)
    ⟨fun ⟨nonempty, start, finish⟩ => ⟨nonempty, start, finish⟩,
      fun h => ⟨h.nonempty, h.start, h.finish⟩⟩

namespace Framed

variable {cs : List Char}

theorem trimStart_append (h : Framed cs) (back : List Char) :
    trimStart (cs ++ back) = cs ++ back := by
  rw [Text.trimStart_append, h.start, if_neg h.nonempty]

theorem trimEnd_append (h : Framed cs) (front : List Char) :
    trimEnd (front ++ cs) = front ++ cs := by
  rw [Text.trimEnd_append, h.finish, if_neg h.nonempty]

theorem visible (h : Framed cs) : visible cs = true := by
  by_contra hblank
  rw [Bool.not_eq_true, ← trimEnd_eq_nil_iff, h.finish] at hblank
  exact h.nonempty hblank

theorem of_ends {first last : Char} (hfirst : isBlank first = false) (hlast : isBlank last = false)
    (middle : List Char) : Framed (first :: middle ++ [last]) where
  nonempty := by simp
  start := List.dropWhile_cons_of_neg (by simp [hfirst])
  finish := List.rdropWhile_concat_neg isBlank _ last (by simp [hlast])

end Framed

/-- A text behind a keyword; an empty text leaves nothing, not even the keyword. -/
def lead (keyword text : String) : String :=
  if text = "" then "" else if keyword = "" then text else keyword ++ " " ++ text

/-- Two texts with a blank between them, unless one of them is empty. -/
def beside (front back : String) : String :=
  if front = "" then back else if back = "" then front else front ++ " " ++ back

@[simp] theorem lead_empty (keyword : String) : lead keyword "" = "" := by
  simp [lead]

/-- Only the outer keyword of two counts if the inner one is empty. -/
@[simp] theorem lead_lead (keyword text : String) :
    lead keyword (lead "" text) = lead keyword text := by
  by_cases h : text = "" <;> simp [lead, h]

@[simp] theorem beside_empty (front : String) : beside front "" = front := by
  by_cases h : front = "" <;> simp [beside, h]

@[simp] theorem empty_beside (back : String) : beside "" back = back := by
  simp [beside]

theorem beside_assoc (front middle back : String) :
    beside (beside front middle) back = beside front (beside middle back) := by
  by_cases hfront : front = ""
  · simp [hfront]
  · by_cases hmiddle : middle = ""
    · simp [hmiddle]
    · by_cases hback : back = "" <;> simp [beside, hfront, hmiddle, hback, String.append_assoc]

theorem infix_lead (keyword text : String) : text.toList <:+: (lead keyword text).toList := by
  rw [lead]
  split
  · next h => simp [h]
  · split
    · exact List.infix_rfl
    · rw [String.toList_append]
      exact (List.suffix_append _ _).isInfix

theorem prefix_beside (front back : String) : front.toList <+: (beside front back).toList := by
  rw [beside]
  split
  · next h => simp [h]
  · split
    · exact List.prefix_rfl
    · rw [String.toList_append, String.toList_append]
      exact (List.prefix_append _ _).trans (List.prefix_append _ _)

theorem infix_beside_right (front back : String) :
    back.toList <:+: (beside front back).toList := by
  rw [beside]
  split
  · exact List.infix_rfl
  · split
    · next h => simp [h]
    · rw [String.toList_append]
      exact (List.suffix_append _ _).isInfix

theorem infix_intercalate (separator : String) {texts : List String} {text : String}
    (h : text ∈ texts) : text.toList <:+: (separator.intercalate texts).toList := by
  induction texts with
  | nil => cases h
  | cons first rest ih =>
      cases rest with
      | nil =>
          obtain rfl := List.mem_singleton.1 h
          have hsingle : separator.intercalate [text] = text := String.intercalate_singleton
          exact hsingle.symm ▸ List.infix_rfl
      | cons next others =>
          rw [String.intercalate_cons_cons, String.toList_append, String.toList_append]
          rcases List.mem_cons.1 h with rfl | hrest
          · exact ((List.prefix_append _ _).trans (List.prefix_append _ _)).isInfix
          · exact (ih hrest).trans (List.suffix_append _ _).isInfix

end Text

/-- A quoting that leaves no name empty and neither begins nor ends what it quotes with a blank. -/
def Quoting.Framed (quote : Quoting) : Prop :=
  ∀ name, Text.Framed (quote name).toList

namespace Identifier

theorem framed_enclosed {mark : Char} (hmark : Text.isBlank mark = false) :
    Quoting.Framed fun name => if name == wildcard then name else enclosed mark name := by
  intro name
  dsimp only
  split
  · next hwild =>
      rw [eq_of_beq hwild]
      decide
  · rw [enclosed, String.toList_ofList]
    exact .of_ends hmark hmark _

theorem framed_backtick : Quoting.Framed backtick :=
  framed_enclosed (by decide)

theorem framed_standard : Quoting.Framed standard :=
  framed_enclosed (by decide)

theorem framed_uppercase : Quoting.Framed uppercase := fun name =>
  framed_backtick (Text.upper name)

end Identifier

namespace Tokens

variable {quote : Quoting}

theorem render_of_vanishes (quote : Quoting) {body : Tokens} (h : body.vanishes = true) :
    body.render quote = "" := by
  induction body with
  | nil => exact render_nil quote
  | cons token rest ih =>
      rw [vanishes, List.all_cons, Bool.and_eq_true] at h
      obtain ⟨htoken, hrest⟩ := h
      cases token with
      | literal characters =>
          have hempty : characters = "" := by simpa [Token.vanishes] using htoken
          rw [render_cons, ih hrest, hempty]
          rfl
      | name segment => cases htoken
      | slot value => cases htoken

section Framed

variable (hquote : quote.Framed)
include hquote

theorem framed_render {token : Token} (h : ∀ characters, token ≠ .literal characters) :
    Text.Framed (token.render quote).toList := by
  cases token with
  | literal characters => exact absurd rfl (h characters)
  | name segment => exact hquote segment
  | slot value => exact (by decide : Text.Framed "?".toList)

theorem render_eq_empty_iff {tokens : Tokens} :
    tokens.render quote = "" ↔ tokens.vanishes = true := by
  refine ⟨fun h => ?_, render_of_vanishes quote⟩
  induction tokens with
  | nil => rfl
  | cons token rest ih =>
      rw [render_cons, String.append_eq_empty_iff] at h
      rw [vanishes, List.all_cons, Bool.and_eq_true]
      refine ⟨?_, ih h.2⟩
      cases token with
      | literal characters => simpa [Token.vanishes, Token.render] using h.1
      | name segment => exact absurd (congrArg String.toList h.1) (hquote segment).nonempty
      | slot value =>
          have hmark : "?" = "" := h.1
          exact absurd hmark (by decide)

theorem render_trimStart (tokens : Tokens) :
    (render quote (trimStart tokens)).toList = Text.trimStart (render quote tokens).toList := by
  fun_induction trimStart tokens with
  | case1 characters rest hblank ih =>
      rw [ih, render_cons, String.toList_append, Text.trimStart_append]
      exact (if_pos hblank).symm
  | case2 characters rest hblank =>
      rw [render_cons, render_cons, String.toList_append, String.toList_append,
        Text.trimStart_append]
      simp only [Token.render, String.toList_ofList]
      exact (if_neg hblank).symm
  | case3 tokens hliteral =>
      cases tokens with
      | nil => rfl
      | cons token rest =>
          have hframed :=
            framed_render hquote fun characters h => hliteral characters rest (h ▸ rfl)
          rw [render_cons, String.toList_append, hframed.trimStart_append]

/-- The tokens are given from the last to the first. -/
theorem render_trimBack (tokens : Tokens) :
    (render quote (trimBack tokens).reverse).toList =
      Text.trimEnd (render quote tokens.reverse).toList := by
  fun_induction trimBack tokens with
  | case1 characters rest hblank ih =>
      rw [ih, List.reverse_cons, render_append, String.toList_append, Text.trimEnd_append]
      simp only [render_cons, render_nil, String.append_empty]
      exact (if_pos hblank).symm
  | case2 characters rest hblank =>
      rw [List.reverse_cons, List.reverse_cons, render_append, render_append,
        String.toList_append, String.toList_append, Text.trimEnd_append]
      simp only [render_cons, render_nil, String.append_empty, Token.render, String.toList_ofList]
      exact (if_neg hblank).symm
  | case3 tokens hliteral =>
      cases tokens with
      | nil => rfl
      | cons token rest =>
          have hframed :=
            framed_render hquote fun characters h => hliteral characters rest (h ▸ rfl)
          rw [List.reverse_cons, render_append, String.toList_append, render_cons, render_nil,
            String.append_empty, hframed.trimEnd_append]

theorem render_trim (tokens : Tokens) :
    (render quote (trim tokens)).toList = Text.trim (render quote tokens).toList := by
  rw [trim, render_trimBack hquote, List.reverse_reverse, render_trimStart hquote, Text.trim]

theorem render_headed (keyword : String) (body : Tokens) :
    (headed keyword body).render quote = Text.lead keyword (body.render quote) := by
  by_cases hvanishes : body.vanishes = true
  · rw [headed_of_vanishes keyword hvanishes, render_of_vanishes quote hvanishes, render_nil,
      Text.lead_empty]
  · have hshown : body.render quote ≠ "" := fun h => hvanishes ((render_eq_empty_iff hquote).1 h)
    by_cases hkeyword : keyword = ""
    · simp [headed, Text.lead, hvanishes, hshown, hkeyword]
    · simp [headed, Text.lead, hvanishes, hshown, hkeyword, Token.render]

omit hquote in
theorem render_joined (separator : String) (pieces : List Tokens) :
    (joined separator pieces).render quote =
      separator.intercalate (pieces.map (render quote)) := by
  induction pieces with
  | nil => rw [List.map_nil, String.intercalate_nil, joined, List.intercalate_nil, render_nil]
  | cons piece rest ih =>
      cases rest with
      | nil => rw [joined_singleton, List.map_cons, List.map_nil, String.intercalate_singleton]
      | cons next others =>
          rw [joined_cons_cons, render_append, render_cons, ih, List.map_cons, List.map_cons,
            List.map_cons, String.intercalate_cons_cons, String.append_assoc]
          rfl

theorem render_spaced_cons (piece : Tokens) (rest : List Tokens) :
    (spaced (piece :: rest)).render quote =
      Text.beside (piece.render quote) ((spaced rest).render quote) := by
  by_cases hvanishes : piece.vanishes = true
  · rw [render_of_vanishes quote hvanishes, Text.empty_beside]
    simp [spaced, hvanishes]
  · have hshown : piece.render quote ≠ "" := fun h => hvanishes ((render_eq_empty_iff hquote).1 h)
    have hkept : spaced (piece :: rest) =
        joined " " (piece :: rest.filter fun piece => !piece.vanishes) := by
      simp [spaced, hvanishes]
    rw [hkept, spaced, render_joined, render_joined]
    cases hrest : rest.filter fun piece => !piece.vanishes with
    | nil => simp
    | cons next others =>
        have hmem : next ∈ rest.filter fun piece => !piece.vanishes := hrest ▸ List.mem_cons_self
        have hnext : next.render quote ≠ "" := by
          intro h
          simpa [(render_eq_empty_iff hquote).1 h] using List.of_mem_filter hmem
        have hothers : " ".intercalate ((next :: others).map (render quote)) ≠ "" := by
          intro h
          have hinfix := Text.infix_intercalate " "
            (List.mem_map_of_mem (f := render quote) (List.mem_cons_self (a := next) (l := others)))
          rw [h] at hinfix
          exact hnext (String.toList_eq_nil_iff.1 (List.infix_nil.1 hinfix))
        rw [Text.beside, if_neg hshown, if_neg hothers, List.map_cons,
          String.intercalate_cons_of_ne_nil (by simp)]

theorem render_spaced_append (front back : List Tokens) :
    (spaced (front ++ back)).render quote =
      Text.beside ((spaced front).render quote) ((spaced back).render quote) := by
  induction front with
  | nil =>
      have hnil : (spaced []).render quote = "" := by simp [spaced, render_joined]
      rw [hnil, List.nil_append, Text.empty_beside]
  | cons piece rest ih =>
      rw [List.cons_append, render_spaced_cons hquote, render_spaced_cons hquote, ih,
        Text.beside_assoc]

end Framed

end Tokens

end SqlBuilder
