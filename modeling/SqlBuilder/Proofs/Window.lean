import SqlBuilder.Proofs.Drafting
import SqlBuilder.Proofs.Select

/-!
# The window of a select

The window stands at the end of a select that has no union. So the text of the select is the one of
the select without the window, and the window behind it. What a window is written as are the numbers
it consists of: how many rows it skips and how many it shows.
-/

namespace SqlBuilder

open Outcome

/-! ### A text that ends in a literal -/

/-- Nothing but blanks. -/
def Text.Blank (text : String) : Prop :=
  ∀ c ∈ text.toList, isBlank c = true

namespace Tokens

theorem joined_concat (separator : String) (piece : Tokens) (rest : List Tokens) (last : Tokens) :
    joined separator (piece :: rest ++ [last]) =
      joined separator (piece :: rest) ++ .literal separator :: last := by
  induction rest generalizing piece with
  | nil => simp
  | cons next others ih =>
      rw [List.cons_append, List.cons_append, joined_cons_cons, ← List.cons_append, ih,
        joined_cons_cons, List.append_assoc, List.cons_append]

/-- What is blank at the front is so wherever the tokens end. -/
theorem trimStart_append {front : Tokens} (h : trimStart front ≠ []) (back : Tokens) :
    trimStart (front ++ back) = trimStart front ++ back := by
  fun_induction trimStart front with
  | case1 characters rest hblank ih =>
      rw [List.cons_append, trimStart, hblank]
      exact ih h
  | case2 characters rest hvisible =>
      rw [List.cons_append, trimStart]
      split
      · next hblank => exact absurd hblank hvisible
      · rfl
  | case3 tokens hliteral =>
      cases tokens with
      | nil => exact absurd rfl h
      | cons token rest =>
          cases token with
          | literal characters => exact absurd rfl (hliteral characters rest)
          | name segment => rfl
          | slot value => rfl

theorem trim_concat_literal {front : Tokens} (hfront : trimStart front ≠ []) {closing : String}
    (hclosing : Text.trimEnd closing.toList = closing.toList) (hshown : closing ≠ "") :
    trim (front ++ [.literal closing]) = trimStart front ++ [.literal closing] := by
  rw [trim, trimStart_append hfront, List.reverse_append, List.reverse_singleton,
    List.singleton_append, trimBack, hclosing]
  split
  · next hempty => exact absurd (String.toList_eq_nil_iff.1 hempty) hshown
  · rw [String.ofList_toList, List.reverse_cons, List.reverse_reverse]

/-- What is cut off at the back is blank. The tokens are given from the last to the first. -/
theorem exists_render_trimBack (quote : Quoting) (tokens : Tokens) :
    ∃ blanks, Text.Blank blanks ∧
      render quote tokens.reverse = render quote (trimBack tokens).reverse ++ blanks := by
  fun_induction trimBack tokens with
  | case1 characters rest hblank ih =>
      obtain ⟨blanks, hblanks, hrender⟩ := ih
      have hcharacters : Text.Blank characters := List.rdropWhile_eq_nil_iff.1 hblank
      refine ⟨blanks ++ characters, ?_, ?_⟩
      · intro c hc
        rw [String.toList_append] at hc
        rcases List.mem_append.1 hc with h | h
        · exact hblanks c h
        · exact hcharacters c h
      · rw [List.reverse_cons, render_append, hrender, render_literal, String.append_assoc]
  | case2 characters rest hvisible =>
      have hcut : Text.trimEnd characters.toList ++ characters.toList.rtakeWhile Text.isBlank =
          characters.toList := List.rdropWhile_append_rtakeWhile
      refine ⟨String.ofList (characters.toList.rtakeWhile Text.isBlank), ?_, ?_⟩
      · intro c hc
        rw [String.toList_ofList] at hc
        exact List.mem_rtakeWhile_imp hc
      · rw [List.reverse_cons, List.reverse_cons, render_append, render_append, render_literal,
          render_literal, String.append_assoc, ← String.ofList_append, hcut, String.ofList_toList]
  | case3 tokens hliteral => exact ⟨"", by simp [Text.Blank], String.append_empty.symm⟩

/-- Tokens that begin visibly, with a literal that ends visibly behind them: their own text without
the blanks at its ends, those at its back, and the literal. -/
theorem exists_render_closed (quote : Quoting) {front : Tokens} (hfront : trimStart front ≠ [])
    (between : Tokens) {closing : String}
    (hclosing : Text.trimEnd closing.toList = closing.toList) (hshown : closing ≠ "") :
    ∃ blanks, Text.Blank blanks ∧
      render quote (trim (front ++ between ++ [.literal closing])) =
        render quote (trim front) ++ blanks ++ render quote between ++ closing := by
  obtain ⟨blanks, hblanks, hrender⟩ := exists_render_trimBack quote (trimStart front).reverse
  rw [List.reverse_reverse] at hrender
  refine ⟨blanks, hblanks, ?_⟩
  have hbegun : trimStart (front ++ between) = trimStart front ++ between :=
    trimStart_append hfront between
  have hvisible : trimStart (front ++ between) ≠ [] := by
    rw [hbegun]
    exact List.append_ne_nil_of_left_ne_nil hfront between
  rw [trim_concat_literal hvisible hclosing hshown, hbegun, render_append, render_append, hrender,
    render_literal, trim]

end Tokens

/-! ### What a window is written as -/

theorem Text.isBlank_of_isDigit {c : Char} (h : c.isDigit = true) : isBlank c = false := by
  rw [Char.isDigit, Bool.and_eq_true, decide_eq_true_eq, decide_eq_true_eq] at h
  have hlow : 48 ≤ c.toNat := UInt32.le_iff_toNat_le.1 h.1
  have hhigh : c.toNat ≤ 57 := UInt32.le_iff_toNat_le.1 h.2
  simp only [isBlank, isSpace, isSeparator, Bool.or_eq_false_iff, Bool.and_eq_false_iff,
    decide_eq_false_iff_not, beq_eq_false_iff_ne]
  omega

/-- A text that ends visibly. -/
def Text.Ends (text : String) : Prop :=
  trimEnd text.toList = text.toList ∧ text ≠ ""

theorem Text.Ends.behind {text : String} (h : Ends text) (front : String) :
    Ends (front ++ text) := by
  obtain ⟨htrim, hshown⟩ := h
  have hchars : text.toList ≠ [] := fun hnil => hshown (String.toList_eq_nil_iff.1 hnil)
  constructor
  · rw [String.toList_append, trimEnd_append, htrim, if_neg hchars]
  · exact fun hempty => hshown (String.append_eq_empty_iff.1 hempty).2

theorem Text.ends_toString (number : Int) : Ends (toString number) := by
  have hvisible : ∀ c ∈ (toString number).toList, isBlank c = false := by
    intro c hc
    rcases Assembled.mem_toString hc with rfl | hdigit
    · decide
    · exact isBlank_of_isDigit hdigit
  constructor
  · refine List.rdropWhile_eq_self_iff.2 fun hne hlast => ?_
    exact Bool.false_ne_true ((hvisible _ (List.getLast_mem hne)).symm.trans hlast)
  · intro hempty
    rw [Int.toString_eq_repr] at hempty
    cases number with
    | ofNat n =>
        have hnil : n.repr.toList = [] := String.toList_eq_nil_iff.2 hempty
        rw [Nat.toList_repr] at hnil
        exact Nat.toDigits_ne_nil hnil
    | negSucc n => exact absurd (String.append_eq_empty_iff.1 hempty).1 (by decide)

namespace Statement

theorem ends_windowText {fragment : Fragment} {text : String} (h : window fragment = .ok text) :
    Text.Ends text := by
  rw [window] at h
  split at h
  · obtain ⟨number, -, rfl⟩ := windowNumber_eq_ok h
    exact Text.ends_toString number
  · obtain ⟨start, -, h⟩ := bind_eq_ok.1 h
    obtain ⟨count, hcount, h⟩ := bind_eq_ok.1 h
    obtain rfl := pure_eq_ok.1 h
    obtain ⟨number, -, rfl⟩ := windowNumber_eq_ok hcount
    exact (Text.ends_toString number).behind _

end Statement

/-- A window: how many rows are skipped, if it says so, and how many are kept. -/
structure Window where
  offset : Option Nat
  count : Nat

namespace Window

def text (window : Window) : String :=
  match window.offset with
  | none => toString window.count
  | some offset => toString offset ++ ", " ++ toString window.count

/-- The rows that can be seen through a window. -/
def cut {α : Type} (window : Window) (rows : List α) : List α :=
  (rows.drop (window.offset.getD 0)).take window.count

/-- Nothing is seen of a single row. -/
def Hides (window : Window) : Prop :=
  0 < window.offset.getD 0 ∨ window.count = 0

/-- A fragment stands for a window. -/
structure Describes (window : Window) (fragment : Fragment) : Prop where
  offset : match window.offset with
    | none => fragment.read "offset" = .null
    | some offset => (fragment.read "offset").toInteger = .ok (offset : Int)
  count : (fragment.read "limit").toInteger = .ok (window.count : Int)

variable {window : Window}

theorem cut_of_hides {α : Type} (h : window.Hides) (row : α) : window.cut [row] = [] := by
  rcases h with hskipped | hnone
  · rw [cut, List.drop_eq_nil_of_le hskipped, List.take_nil]
  · rw [cut, hnone, List.take_zero]

theorem cut_of_shows {α : Type} (h : ¬window.Hides) (row : α) : window.cut [row] = [row] := by
  rw [Hides, not_or, Nat.not_lt, Nat.le_zero] at h
  rw [cut, h.1, List.drop_zero, List.take_of_length_le]
  simpa using Nat.one_le_iff_ne_zero.2 h.2

theorem Describes.text_eq {fragment : Fragment} {written : String} (h : window.Describes fragment)
    (hwritten : Statement.window fragment = .ok written) : written = window.text := by
  obtain ⟨offset, count⟩ := window
  have hnumber : ∀ {value : Value} {number : Nat} {digits : String},
      value.toInteger = .ok (number : Int) → Statement.windowNumber value = .ok digits →
        digits = toString number := by
    intro value number digits hvalue hdigits
    obtain ⟨other, hother, rfl⟩ := Statement.windowNumber_eq_ok hdigits
    obtain rfl : (number : Int) = other := Except.ok.inj (hvalue.symm.trans hother)
    rfl
  cases offset with
  | none =>
      have hoffset : fragment.read "offset" = .null := h.offset
      rw [Statement.window, hoffset] at hwritten
      exact hnumber h.count hwritten
  | some start =>
      have hoffset : (fragment.read "offset").toInteger = .ok (start : Int) := h.offset
      rw [Statement.window] at hwritten
      split at hwritten
      · next hnull =>
          rw [hnull] at hoffset
          cases hoffset
      · obtain ⟨first, hfirst, hwritten⟩ := bind_eq_ok.1 hwritten
        obtain ⟨last, hlast, hwritten⟩ := bind_eq_ok.1 hwritten
        obtain rfl := pure_eq_ok.1 hwritten
        rw [hnumber hoffset hfirst, hnumber h.count hlast]
        rfl

end Window

/-! ### A select and its window -/

/-- A text is another one with a window behind it, and maybe more blanks than one between the
two. -/
def Text.Closes (window text sql : String) : Prop :=
  ∃ blanks, Blank blanks ∧ sql = text ++ blanks ++ " LIMIT " ++ window

namespace Tokens

def windowPiece (window : String) : Tokens :=
  [.literal "LIMIT ", .literal window]

theorem headed_window {window : String} (h : window ≠ "") :
    headed "LIMIT" [.literal window] = windowPiece window := by
  have hshown : vanishes [.literal window] = false := by simp [vanishes, Token.vanishes, h]
  rw [headed, hshown]
  rfl

variable {body : Tokens} {others : List Tokens} {window : String}

theorem trimStart_select (rest : Tokens) : trimStart (.literal "SELECT " :: rest) ≠ [] := by
  rw [trimStart]
  split
  · next hblank => exact absurd hblank (by decide)
  · exact List.cons_ne_nil _ _

theorem spaced_concat {last : Tokens} (hlast : last.vanishes = false) :
    ∃ rest, spaced ((.literal "SELECT " :: body) :: others) = .literal "SELECT " :: rest ∧
      spaced ((.literal "SELECT " :: body) :: others ++ [last]) =
        .literal "SELECT " :: rest ++ .literal " " :: last := by
  have hshown : vanishes (.literal "SELECT " :: body) = false := by
    simp [vanishes, Token.vanishes]
  have hjoined : ∃ rest, spaced ((.literal "SELECT " :: body) :: others) =
      .literal "SELECT " :: rest := by
    rw [spaced, List.filter_cons_of_pos (by rw [hshown]; rfl)]
    cases others.filter fun piece => !piece.vanishes with
    | nil => exact ⟨_, joined_singleton _ _⟩
    | cons next further => exact ⟨_, joined_cons_cons _ _ _ _⟩
  obtain ⟨rest, hrest⟩ := hjoined
  refine ⟨rest, hrest, ?_⟩
  rw [← hrest, spaced, spaced, List.filter_append, List.filter_cons_of_pos (by rw [hshown]; rfl),
    List.filter_cons_of_pos (by rw [hlast]; rfl), List.filter_nil, joined_concat]

theorem spaced_concat_nil (pieces : List Tokens) : spaced (pieces ++ [[]]) = spaced pieces := by
  rw [spaced, List.filter_append, List.filter_cons_of_neg (by simp), List.filter_nil,
    List.append_nil, spaced]

/-- A select that ends in a window is the select without it and the window. -/
theorem closes_spaced (hwindow : Text.Ends window) (quote : Quoting) :
    Text.Closes window (render quote (trim (spaced ((.literal "SELECT " :: body) :: others))))
      (render quote (trim (spaced
        ((.literal "SELECT " :: body) :: others ++ [windowPiece window])))) := by
  have hlast : vanishes (windowPiece window) = false := by
    simp [windowPiece, vanishes, Token.vanishes]
  obtain ⟨rest, hfront, hwhole⟩ := @spaced_concat body others _ hlast
  obtain ⟨blanks, hblanks, hrender⟩ := exists_render_closed quote (trimStart_select rest)
    [.literal " ", .literal "LIMIT "] hwindow.1 hwindow.2
  have hsplit : .literal "SELECT " :: rest ++ .literal " " :: windowPiece window =
      .literal "SELECT " :: rest ++ [.literal " ", .literal "LIMIT "] ++ [.literal window] := by
    rw [List.append_assoc]
    rfl
  refine ⟨blanks, hblanks, ?_⟩
  rw [hfront, hwhole, hsplit, hrender]
  simp [Token.render, String.append_assoc]

end Tokens

namespace Clauses

variable {clauses : Clauses} {tokens body : Tokens}

def unbounded (clauses : Clauses) : List (Except Error Tokens) :=
  [clauses.columns, clauses.tables, clauses.joins, clauses.filter, clauses.groups, clauses.having,
    clauses.orders]

theorem whole_of_unbounded (hunions : clauses.unions = .ok []) :
    clauses.whole = (do
      let front ← clauses.unbounded.mapM id
      let window ← clauses.limit
      return Tokens.trim (Tokens.spaced (front ++ [window]))) := by
  have hlist : clauses.list = clauses.unbounded ++ [clauses.limit, clauses.unions] := rfl
  have hnil : ∀ (front : List Tokens) (window : Tokens),
      Tokens.spaced (front ++ [window, []]) = Tokens.spaced (front ++ [window]) := by
    intro front window
    rw [← List.singleton_append, ← List.append_assoc, Tokens.spaced_concat_nil]
  rw [whole, hlist, List.mapM_append, List.mapM_cons, List.mapM_cons, List.mapM_nil, hunions]
  simp only [id_eq, ok_bind, bind_assoc, pure_bind, hnil]

theorem exists_whole_unbounded (hcolumns : clauses.columns = .ok (.literal "SELECT " :: body))
    (hunions : clauses.unions = .ok []) (h : clauses.whole = .ok tokens) :
    ∃ bare window, { clauses with limit := .ok [] }.whole = .ok bare ∧
      clauses.limit = .ok window ∧ (window = [] → tokens = bare) ∧
      ∀ text, Text.Ends text → window = Tokens.windowPiece text →
        tokens.parameters = bare.parameters ∧
        ∀ quote, Text.Closes text (bare.render quote) (tokens.render quote) := by
  have hbare : { clauses with limit := .ok [] }.whole = _ := whole_of_unbounded hunions
  rw [whole_of_unbounded hunions] at h
  obtain ⟨front, hfront, h⟩ := bind_eq_ok.1 h
  obtain ⟨window, hlimit, h⟩ := bind_eq_ok.1 h
  obtain rfl := pure_eq_ok.1 h
  have hsame : { clauses with limit := .ok [] }.unbounded.mapM id = .ok front := hfront
  rw [hsame, ok_bind, ok_bind, Tokens.spaced_concat_nil] at hbare
  refine ⟨_, window, hbare, hlimit, ?_, ?_⟩
  · rintro rfl
    rw [Tokens.spaced_concat_nil]
  · rintro text htext rfl
    rw [unbounded, List.mapM_cons, hcolumns] at hfront
    obtain ⟨columns, hfirst, hfront⟩ := bind_eq_ok.1 hfront
    obtain ⟨others, -, hfront⟩ := bind_eq_ok.1 hfront
    obtain rfl := pure_eq_ok.1 hfront
    obtain rfl : .literal "SELECT " :: body = columns := Except.ok.inj hfirst
    refine ⟨?_, Tokens.closes_spaced htext⟩
    rw [Tokens.parameters_trim, Tokens.parameters_trim, Tokens.parameters_spaced,
      Tokens.parameters_spaced, List.flatMap_append]
    exact List.append_nil _

end Clauses

end SqlBuilder
