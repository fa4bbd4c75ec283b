import SqlBuilder.Identifier
import SqlBuilder.Placeholder
import Mathlib.Data.List.Basic

/-!
# Reading a text for its placeholders

A text is read from the left, and all that has to be remembered is the quote that is open. From that
it follows which question marks are placeholders: those that stand outside quotes. A text is closed
when it ends outside quotes and has no placeholder of its own; such a text can stand in a statement
without changing how the rest of it is read. Names between grave accents are closed whatever
characters they have, because a mark inside is written twice and so ends and begins a quotation at
the same place.
-/

namespace SqlBuilder.Placeholder

def advance (quote : Option Char) (c : Char) : Option Char :=
  match quote with
  | some mark => if c == mark then none else some mark
  | none => if isQuote c then some c else none

def openAfter (quote : Option Char) (cs : List Char) : Option Char :=
  cs.foldl advance quote

/-- The places of the question marks outside quotes, in a text that begins at a given place. -/
def marks : Option Char → Nat → List Char → List Nat
  | _, _, [] => []
  | quote, place, c :: rest =>
      (if quote = none ∧ c = '?' then [place] else []) ++ marks (advance quote c) (place + 1) rest

@[simp] theorem openAfter_nil (quote : Option Char) : openAfter quote [] = quote := rfl

@[simp] theorem openAfter_cons (quote : Option Char) (c : Char) (rest : List Char) :
    openAfter quote (c :: rest) = openAfter (advance quote c) rest := rfl

@[simp] theorem openAfter_append (quote : Option Char) (front back : List Char) :
    openAfter quote (front ++ back) = openAfter (openAfter quote front) back := by
  simp [openAfter]

@[simp] theorem marks_nil (quote : Option Char) (place : Nat) : marks quote place [] = [] := rfl

theorem marks_append (quote : Option Char) (place : Nat) (front back : List Char) :
    marks quote place (front ++ back) =
      marks quote place front ++ marks (openAfter quote front) (place + front.length) back := by
  induction front generalizing quote place with
  | nil => simp
  | cons c rest ih =>
      rw [List.cons_append, marks, marks, ih, openAfter_cons, List.append_assoc, List.length_cons]
      congr 3
      omega

theorem length_marks (quote : Option Char) (place other : Nat) (cs : List Char) :
    (marks quote place cs).length = (marks quote other cs).length := by
  induction cs generalizing quote place other with
  | nil => rfl
  | cons c rest ih =>
      rw [marks, marks, List.length_append, List.length_append, ih _ (place + 1) (other + 1)]
      split <;> rfl

/-- A character that neither opens or closes a quotation nor is a placeholder. -/
def isPlain (c : Char) : Bool :=
  !isQuote c && c != '?'

/-- Whether all characters of a text are plain is decided from those characters, not from all that
there are. -/
instance (priority := high) decidableAllPlain (cs : List Char) :
    Decidable (∀ c ∈ cs, isPlain c = true) :=
  decidable_of_iff (cs.all isPlain = true) List.all_eq_true

theorem isPlain_of_class {p : Char → Bool} (hp : ['\x27', '\x22', '\x60', '?'].any p = false)
    {c : Char} (h : p c = true) : isPlain c = true := by
  by_contra hplain
  have hc : c = '\x27' ∨ c = '\x22' ∨ c = '\x60' ∨ c = '?' := by
    simpa [isPlain, isQuote, or_assoc, imp_iff_not_or] using hplain
  have hmem : c ∈ ['\x27', '\x22', '\x60', '?'] := by simpa using hc
  exact Bool.noConfusion (hp.symm.trans (List.any_eq_true.2 ⟨c, hmem, h⟩))

/-- A text that can stand in a statement without changing how the rest of it is read. -/
structure Closed (cs : List Char) : Prop where
  openAfter_eq : openAfter none cs = none
  marks_eq : marks none 0 cs = []

namespace Closed

theorem marks_eq_nil {cs : List Char} (h : Closed cs) (place : Nat) : marks none place cs = [] := by
  have hlength := length_marks none place 0 cs
  rw [h.marks_eq] at hlength
  exact List.length_eq_zero_iff.1 hlength

theorem append {front back : List Char} (hfront : Closed front) (hback : Closed back) :
    Closed (front ++ back) where
  openAfter_eq := by rw [openAfter_append, hfront.openAfter_eq, hback.openAfter_eq]
  marks_eq := by
    rw [marks_append, hfront.marks_eq, hfront.openAfter_eq, hback.marks_eq_nil, List.append_nil]

theorem advance_of_isPlain {c : Char} (h : isPlain c = true) : advance none c = none := by
  simp_all [isPlain, advance]

theorem ne_of_isPlain {c : Char} (h : isPlain c = true) : c ≠ '?' := by
  simp_all [isPlain]

theorem of_isPlain {cs : List Char} (h : ∀ c ∈ cs, isPlain c = true) : Closed cs := by
  induction cs with
  | nil => exact ⟨rfl, rfl⟩
  | cons c rest ih =>
      have hc := h c List.mem_cons_self
      have hrest := ih fun d hd => h d (List.mem_cons_of_mem c hd)
      refine ⟨?_, ?_⟩
      · rw [openAfter_cons, advance_of_isPlain hc, hrest.openAfter_eq]
      · rw [marks, advance_of_isPlain hc, hrest.marks_eq_nil, if_neg (by simp [ne_of_isPlain hc])]
        rfl

theorem of_append_left {front back : List Char} (hplain : ∀ c ∈ front, isPlain c = true)
    (h : Closed (front ++ back)) : Closed back := by
  have hfront := of_isPlain hplain
  refine ⟨?_, ?_⟩
  · simpa [hfront.openAfter_eq] using h.openAfter_eq
  · have hmarks := h.marks_eq
    rw [marks_append, hfront.marks_eq, hfront.openAfter_eq, List.nil_append] at hmarks
    have hlength := length_marks none 0 (0 + front.length) back
    rw [hmarks] at hlength
    exact List.length_eq_zero_iff.1 hlength

theorem isQuote_of_openAfter {quote : Option Char} {cs : List Char}
    (hquote : ∀ mark ∈ quote, isQuote mark = true) :
    ∀ mark ∈ openAfter quote cs, isQuote mark = true := by
  induction cs generalizing quote with
  | nil => exact hquote
  | cons c rest ih =>
      apply ih
      intro mark hmark
      cases quote with
      | none =>
          by_cases hc : isQuote c = true
          · simp_all [advance]
          · simp_all [advance]
      | some other =>
          by_cases hc : c = other
          · simp_all [advance]
          · simp_all [advance]

theorem openAfter_of_isPlain {quote : Option Char} {cs : List Char}
    (hquote : ∀ mark ∈ quote, isQuote mark = true) (h : ∀ c ∈ cs, isPlain c = true) :
    openAfter quote cs = quote := by
  induction cs with
  | nil => rfl
  | cons c rest ih =>
      have hc := h c List.mem_cons_self
      have hadvance : advance quote c = quote := by
        cases quote with
        | none => exact advance_of_isPlain hc
        | some mark =>
            have hmark := hquote mark rfl
            have hne : c ≠ mark := by
              rintro rfl
              simp [isPlain, hmark] at hc
            simp [advance, hne]
      rw [openAfter_cons, hadvance]
      exact ih fun d hd => h d (List.mem_cons_of_mem c hd)

theorem of_append_right {front back : List Char} (hplain : ∀ c ∈ back, isPlain c = true)
    (h : Closed (front ++ back)) : Closed front := by
  refine ⟨?_, ?_⟩
  · have hquote : ∀ mark ∈ openAfter none front, isQuote mark = true :=
      isQuote_of_openAfter (by simp)
    have hback := openAfter_of_isPlain hquote hplain
    rw [← hback, ← openAfter_append]
    exact h.openAfter_eq
  · have hmarks := h.marks_eq
    rw [marks_append] at hmarks
    exact (List.append_eq_nil_iff.1 hmarks).1

end Closed

/-- Between two marks a text with every mark doubled stays quoted. -/
theorem openAfter_doubled {mark : Char} (hmark : isQuote mark = true) (cs : List Char) :
    openAfter (some mark) (Identifier.doubled mark cs) = some mark := by
  induction cs with
  | nil => rfl
  | cons c rest ih =>
      rw [Identifier.doubled, List.flatMap_cons, openAfter_append]
      have hc : openAfter (some mark) (if c == mark then [mark, mark] else [c]) = some mark := by
        by_cases h : c = mark
        · simp [h, advance, hmark]
        · simp [h, advance]
      rw [hc]
      exact ih

theorem marks_doubled {mark : Char} (hmark : isQuote mark = true) (place : Nat) (cs : List Char) :
    marks (some mark) place (Identifier.doubled mark cs) = [] := by
  have hne : mark ≠ '?' := by
    rintro rfl
    exact absurd hmark (by decide)
  induction cs generalizing place with
  | nil => rfl
  | cons c rest ih =>
      rw [Identifier.doubled, List.flatMap_cons, marks_append]
      have hopen := openAfter_doubled hmark [c]
      rw [Identifier.doubled, List.flatMap_cons, List.flatMap_nil, List.append_nil] at hopen
      rw [hopen]
      have hc : marks (some mark) place (if c == mark then [mark, mark] else [c]) = [] := by
        by_cases h : c = mark
        · simp [h, marks, advance, hne]
        · simp [h, marks]
      rw [hc]
      exact ih _

/-- A name between two marks is closed whatever characters it has. -/
theorem closed_enclosed {mark : Char} (hmark : isQuote mark = true) (name : String) :
    Closed (Identifier.enclosed mark name).toList := by
  have hne : mark ≠ '?' := by
    rintro rfl
    exact absurd hmark (by decide)
  have hopen : advance none mark = some mark := by simp [advance, hmark]
  rw [Identifier.enclosed, String.toList_ofList]
  refine ⟨?_, ?_⟩
  · rw [List.cons_append, openAfter_cons, hopen, openAfter_append, openAfter_doubled hmark]
    simp [advance]
  · rw [List.cons_append, marks, hopen, marks_append, marks_doubled hmark,
      openAfter_doubled hmark]
    simp [hne, marks]

/-- A quoted name is closed, and so is the wildcard, which is not quoted. -/
theorem closed_backtick (name : String) : Closed (Identifier.backtick name).toList := by
  rw [Identifier.backtick]
  split
  · next hwild =>
      rw [eq_of_beq hwild]
      exact Closed.of_isPlain (by decide)
  · exact closed_enclosed (by decide) name

/-- A property of texts that does not depend on plain characters: a plain text has it, texts with it
can be put together, and plain characters can be cut off at both ends. -/
structure Robust (P : List Char → Prop) : Prop where
  of_isPlain : ∀ {cs}, (∀ c ∈ cs, isPlain c = true) → P cs
  append : ∀ {front back}, P front → P back → P (front ++ back)
  of_append_left : ∀ {front back}, (∀ c ∈ front, isPlain c = true) → P (front ++ back) → P back
  of_append_right : ∀ {front back}, (∀ c ∈ back, isPlain c = true) → P (front ++ back) → P front

theorem robust_closed : Robust Closed where
  of_isPlain := Closed.of_isPlain
  append := Closed.append
  of_append_left := Closed.of_append_left
  of_append_right := Closed.of_append_right

end SqlBuilder.Placeholder
