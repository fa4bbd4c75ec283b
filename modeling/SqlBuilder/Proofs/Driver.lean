import SqlBuilder.Proofs.Scan

/-!
# What a driver reads

A driver gets a statement and its parameters in its own style and puts the two together again. In
the template styles it reads the whole text as a template, quotations included; in the styles with
names it looks up what stands behind a colon outside quotes, as far as it can be part of a name; in
the plain style it takes the parameters in turn. The main statement is that all of them come to the
same: the characters of the compiled text, with the parameters in the places of its question marks
outside quotes. A style with names asks that the text has no colon of its own outside quotes, and
nothing directly behind a placeholder that would lengthen its name.
-/

namespace SqlBuilder.Placeholder

/-- What a driver makes of one place of a text: a character, or a parameter that stands there. -/
inductive Piece where
  | character (c : Char)
  | parameter (value : Value)

/-- A text, inside the given quote if any, with values in the places of its placeholders. -/
def filled : Option Char → List Char → List Value → List Piece
  | _, [], _ => []
  | quote, c :: rest, values =>
      if quote = none ∧ c = '?' then
        match values with
        | value :: others => .parameter value :: filled none rest others
        | [] => .character c :: filled none rest []
      else .character c :: filled (advance quote c) rest values

/-- A text whose placeholders are question marks, each of which takes the next parameter. -/
def readMarks : Option Char → List Char → List Value → Option (List Piece)
  | _, [], [] => some []
  | _, [], _ :: _ => none
  | quote, c :: rest, values =>
      if quote = none ∧ c = '?' then
        match values with
        | value :: others => (.parameter value :: ·) <$> readMarks none rest others
        | [] => none
      else (.character c :: ·) <$> readMarks (advance quote c) rest values

/-- A template: `%%` is a percent sign and `%s` the next parameter, whether between quotes or not.
Nothing else may follow a percent sign, and no parameter may be left over. -/
def readTemplate : List Char → List Value → Option (List Piece)
  | [], [] => some []
  | [], _ :: _ => none
  | '%' :: '%' :: rest, values => (.character '%' :: ·) <$> readTemplate rest values
  | '%' :: 's' :: rest, value :: values => (.parameter value :: ·) <$> readTemplate rest values
  | '%' :: _, _ => none
  | c :: rest, values => (.character c :: ·) <$> readTemplate rest values

/-- The characters that a driver takes for a part of a name. Drivers differ in what else they count
as a letter. -/
structure Lettering where
  holds : Char → Bool
  word : ∀ c, c.isAlphanum = true ∨ c = '_' → holds c = true
  colon : holds ':' = false

def Lettering.ascii : Lettering where
  holds c := c.isAlphanum || c == '_'
  word c h := by simpa using h
  colon := rfl

/-- A text whose placeholders are names behind colons outside quotes. A name goes as far as its
characters do; `skipped` of them have been read already. -/
def readNames (names : Lettering) (look : List Char → Option Value) :
    Nat → Option Char → List Char → Option (List Piece)
  | _, _, [] => some []
  | skipped + 1, quote, _ :: rest => readNames names look skipped quote rest
  | 0, quote, c :: rest =>
      if quote = none ∧ c = ':' then do
        let name := rest.takeWhile names.holds
        let value ← look name
        let pieces ← readNames names look name.length none rest
        return .parameter value :: pieces
      else (.character c :: ·) <$> readNames names look 0 (advance quote c) rest

/-- The parameter at the position, counted from one, that a name spells. -/
def atPosition (values : List Value) (name : List Char) : Option Value :=
  if name.isEmpty || !name.all Char.isDigit then none
  else
    match Nat.ofDigitChars 10 name 0 with
    | 0 => none
    | place + 1 => values[place]?

def underName (entries : Entries) (name : List Char) : Option Value :=
  Entries.find? entries (.text (String.ofList name))

/-- Outside quotes there is no colon, and directly behind a placeholder nothing that would be read
as part of its name. -/
def nameless (names : Lettering) : Option Char → List Char → Bool
  | _, [] => true
  | quote, c :: rest =>
      (quote.isSome || (c != ':' && !(c == '?' && rest.head?.any names.holds))) &&
        nameless names (advance quote c) rest

end Placeholder

open Placeholder

/-- What a driver of a style makes of a text and of parameters in the shape of that style. -/
def Paramstyle.read (names : Lettering) (style : Paramstyle) (sql : String) (shaped : Value) :
    Option (List Piece) :=
  match style, shaped with
  | .question, .tuple values => readMarks none sql.toList values
  | .format, .tuple values | .extendedFormat, .tuple values => readTemplate sql.toList values
  | .numeric, .tuple values => readNames names (atPosition values) 0 none sql.toList
  | .named, .map entries => readNames names (underName entries) 0 none sql.toList
  | _, _ => none

namespace Placeholder

/-! ### Rewriting, place by place -/

theorem length_marks_cons (quote : Option Char) (c : Char) (rest : List Char) :
    (marks quote 0 (c :: rest)).length =
      (if quote = none ∧ c = '?' then 1 else 0) + (marks (advance quote c) 0 rest).length := by
  rw [marks, List.length_append, length_marks _ (0 + 1) 0]
  split <;> rfl

theorem restyle_mark (style : Paramstyle) (position : Nat) (rest : List Char) :
    restyle style none position ('?' :: rest) =
      style.placeholder (position + 1) ++ restyle style none (position + 1) rest := by
  rw [restyle]
  rfl

theorem toList_adapt {style : Paramstyle} (hstyle : style ≠ .question) (sql : String) :
    (adapt style sql).toList = restyle style none 0 sql.toList := by
  cases style with
  | question => exact absurd rfl hstyle
  | _ => exact String.toList_ofList

theorem plain_of_ne {c : Char} (h : c ≠ '%') (style : Paramstyle) : style.plain c = [c] := by
  simp [Paramstyle.plain, h]

theorem restyle_of_not_mark {quote : Option Char} {c : Char} (h : ¬(quote = none ∧ c = '?'))
    (style : Paramstyle) (position : Nat) (rest : List Char) :
    restyle style quote position (c :: rest) =
      style.plain c ++ restyle style (advance quote c) position rest := by
  cases quote with
  | some mark => rfl
  | none =>
      have hmark : c ≠ '?' := fun hc => h ⟨rfl, hc⟩
      by_cases hquote : isQuote c = true
      · have hpercent : c ≠ '%' := by
          rintro rfl
          exact absurd hquote (by decide)
        simp [restyle, advance, hquote, plain_of_ne hpercent]
      · simp [restyle, advance, hquote, hmark]

theorem filled_of_not_mark {quote : Option Char} {c : Char} (h : ¬(quote = none ∧ c = '?'))
    (rest : List Char) (values : List Value) :
    filled quote (c :: rest) values = .character c :: filled (advance quote c) rest values := by
  rw [filled.eq_def]
  exact if_neg h

theorem readMarks_of_not_mark {quote : Option Char} {c : Char} (h : ¬(quote = none ∧ c = '?'))
    (rest : List Char) (values : List Value) :
    readMarks quote (c :: rest) values =
      (.character c :: ·) <$> readMarks (advance quote c) rest values := by
  rw [readMarks.eq_def]
  exact if_neg h

/-! ### Templates -/

theorem readTemplate_plain {style : Paramstyle} (hstyle : style.isTemplate = true) (c : Char)
    (rest : List Char) (values : List Value) :
    readTemplate (style.plain c ++ rest) values =
      (.character c :: ·) <$> readTemplate rest values := by
  by_cases hpercent : c = '%'
  · subst hpercent
    have hplain : style.plain '%' = ['%', '%'] := by simp [Paramstyle.plain, hstyle]
    rw [hplain]
    rfl
  · rw [plain_of_ne hpercent, List.singleton_append, readTemplate.eq_def]
    simp [hpercent]

theorem readTemplate_placeholder {style : Paramstyle} (hstyle : style.isTemplate = true)
    (position : Nat) (rest : List Char) (value : Value) (values : List Value) :
    readTemplate (style.placeholder position ++ rest) (value :: values) =
      (.parameter value :: ·) <$> readTemplate rest values := by
  cases style <;> first | rfl | cases hstyle

theorem readTemplate_restyle {style : Paramstyle} (hstyle : style.isTemplate = true)
    (quote : Option Char) (position : Nat) (cs : List Char) (values : List Value)
    (hcount : (marks quote 0 cs).length = values.length) :
    readTemplate (restyle style quote position cs) values = some (filled quote cs values) := by
  induction cs generalizing quote position values with
  | nil =>
      obtain rfl : values = [] := List.length_eq_zero_iff.1 hcount.symm
      rw [restyle]
      rfl
  | cons c rest ih =>
      rw [length_marks_cons] at hcount
      by_cases hmark : quote = none ∧ c = '?'
      · obtain ⟨rfl, rfl⟩ := hmark
        cases values with
        | nil => simp at hcount
        | cons value others =>
            have hothers : (marks none 0 rest).length = others.length := by
              simp [advance, isQuote] at hcount
              omega
            rw [restyle_mark, readTemplate_placeholder hstyle,
              ih none (position + 1) others hothers]
            rfl
      · have hrest : (marks (advance quote c) 0 rest).length = values.length := by
          simpa [hmark] using hcount
        rw [restyle_of_not_mark hmark, readTemplate_plain hstyle, ih _ position values hrest,
          filled_of_not_mark hmark]
        rfl

theorem readMarks_filled (quote : Option Char) (cs : List Char) (values : List Value)
    (hcount : (marks quote 0 cs).length = values.length) :
    readMarks quote cs values = some (filled quote cs values) := by
  induction cs generalizing quote values with
  | nil =>
      obtain rfl : values = [] := List.length_eq_zero_iff.1 hcount.symm
      rfl
  | cons c rest ih =>
      rw [length_marks_cons] at hcount
      by_cases hmark : quote = none ∧ c = '?'
      · obtain ⟨rfl, rfl⟩ := hmark
        cases values with
        | nil => simp at hcount
        | cons value others =>
            have hothers : (marks none 0 rest).length = others.length := by
              simp [advance, isQuote] at hcount
              omega
            have hread := ih none others hothers
            calc readMarks none ('?' :: rest) (value :: others)
                = (.parameter value :: ·) <$> readMarks none rest others := rfl
              _ = some (filled none ('?' :: rest) (value :: others)) := by rw [hread]; rfl
      · have hrest : (marks (advance quote c) 0 rest).length = values.length := by
          simpa [hmark] using hcount
        rw [readMarks_of_not_mark hmark, filled_of_not_mark hmark, ih _ values hrest]
        rfl

/-! ### Names -/

variable {names : Lettering} {look : List Char → Option Value}

theorem readNames_skip (quote : Option Char) (front back : List Char) :
    readNames names look front.length quote (front ++ back) =
      readNames names look 0 quote back := by
  induction front with
  | nil => rfl
  | cons c rest ih => exact ih

/-- A name is read to its end, if what follows it cannot lengthen it. -/
theorem readNames_name {name back : List Char} {value : Value}
    (hname : ∀ c ∈ name, names.holds c = true)
    (hback : back.head?.any names.holds = false) (hlook : look name = some value) :
    readNames names look 0 none (':' :: (name ++ back)) =
      (.parameter value :: ·) <$> readNames names look 0 none back := by
  have htaken : (name ++ back).takeWhile names.holds = name := by
    rw [List.takeWhile_append_of_pos hname]
    cases back with
    | nil => simp
    | cons c rest => simp_all
  rw [readNames, if_pos ⟨rfl, rfl⟩, htaken]
  simp only [hlook, readNames_skip]
  cases readNames names look 0 none back <;> rfl

/-- The names of the placeholders in a style whose drivers look names up. -/
def nameAt (style : Paramstyle) (position : Nat) : List Char :=
  match style with
  | .named => 'p' :: Nat.toDigits 10 position
  | _ => Nat.toDigits 10 position

theorem holds_of_mem_nameAt {style : Paramstyle} {position : Nat} {c : Char}
    (h : c ∈ nameAt style position) : names.holds c = true := by
  have hdigit : ∀ d ∈ Nat.toDigits 10 position, names.holds d = true := by
    intro d hd
    have hd := Nat.isDigit_of_mem_toDigits (by decide) (by decide) hd
    exact names.word d (.inl (by simp [Char.isAlphanum, hd]))
  cases style with
  | named =>
      rcases List.mem_cons.1 h with rfl | hmem
      · exact names.word 'p' (.inl rfl)
      · exact hdigit c hmem
  | _ => exact hdigit c h

/-- What stands behind a placeholder does not lengthen its name once it is rewritten. -/
theorem head?_restyle {style : Paramstyle} (hstyle : style = .numeric ∨ style = .named)
    {position : Nat} {cs : List Char} (h : cs.head?.any names.holds = false) :
    (restyle style none position cs).head?.any names.holds = false := by
  cases cs with
  | nil =>
      rw [restyle]
      rfl
  | cons c rest =>
      by_cases hmark : c = '?'
      · subst hmark
        rw [restyle_mark]
        rcases hstyle with rfl | rfl <;> exact names.colon
      · have hplain : style.plain c = [c] := by
          rcases hstyle with rfl | rfl <;> simp [Paramstyle.plain, Paramstyle.isTemplate]
        rw [restyle_of_not_mark (by simp [hmark]), hplain]
        exact h

/-- A text with names is read as the text it was made from, if the names of the placeholders still
to come stand for the values still to come. -/
theorem readNames_restyle {style : Paramstyle} (hstyle : style = .numeric ∨ style = .named)
    (quote : Option Char) (position : Nat) (cs : List Char) (values : List Value)
    (hcount : (marks quote 0 cs).length = values.length)
    (hnames : nameless names quote cs = true)
    (hlook : ∀ place (h : place < values.length),
      look (nameAt style (position + 1 + place)) = some values[place]) :
    readNames names look 0 quote (restyle style quote position cs) =
      some (filled quote cs values) := by
  induction cs generalizing quote position values with
  | nil =>
      rw [restyle]
      rfl
  | cons c rest ih =>
      rw [length_marks_cons] at hcount
      rw [nameless, Bool.and_eq_true] at hnames
      obtain ⟨hhere, hbehind⟩ := hnames
      by_cases hmark : quote = none ∧ c = '?'
      · obtain ⟨rfl, rfl⟩ := hmark
        cases values with
        | nil => simp at hcount
        | cons value others =>
            have hothers : (marks none 0 rest).length = others.length := by
              simp [advance, isQuote] at hcount
              omega
            have hfollowing : rest.head?.any names.holds = false := by simpa using hhere
            have hfirst : look (nameAt style (position + 1)) = some value :=
              hlook 0 (by simp)
            -- the first value is taken, so every other one stands one position further on
            have hlater : ∀ place (h : place < others.length),
                look (nameAt style (position + 1 + 1 + place)) = some others[place] := by
              intro place h
              have hplace := hlook (place + 1) (by simpa using h)
              rw [List.getElem_cons_succ] at hplace
              rw [← hplace]
              congr 2
              omega
            have hplaceholder : style.placeholder (position + 1) =
                ':' :: nameAt style (position + 1) := by
              rcases hstyle with rfl | rfl <;> rfl
            rw [restyle_mark, hplaceholder, List.cons_append,
              readNames_name (fun c hc => holds_of_mem_nameAt hc)
                (head?_restyle hstyle hfollowing) hfirst,
              ih none (position + 1) others hothers hbehind hlater]
            rfl
      · have hrest : (marks (advance quote c) 0 rest).length = values.length := by
          simpa [hmark] using hcount
        have hplain : style.plain c = [c] := by
          rcases hstyle with rfl | rfl <;> simp [Paramstyle.plain, Paramstyle.isTemplate]
        -- a colon outside quotes would be taken for the beginning of a name
        have hcolon : ¬(quote = none ∧ c = ':') := by
          rintro ⟨rfl, rfl⟩
          simp at hhere
        rw [restyle_of_not_mark hmark, hplain, List.singleton_append, readNames, if_neg hcolon,
          ih _ position values hrest hbehind hlook, filled_of_not_mark hmark]
        rfl

theorem atPosition_nameAt (values : List Value) (place : Nat) (h : place < values.length) :
    atPosition values (nameAt .numeric (place + 1)) = some values[place] := by
  have hdigits : (Nat.toDigits 10 (place + 1)).all Char.isDigit = true :=
    List.all_eq_true.2 fun c hc => Nat.isDigit_of_mem_toDigits (by decide) (by decide) hc
  have hne : (Nat.toDigits 10 (place + 1)).isEmpty = false := by simp
  have hnumber : Nat.ofDigitChars 10 (Nat.toDigits 10 (place + 1)) 0 = place + 1 :=
    Nat.ofDigitChars_toDigits (by decide) (by decide)
  have hname : nameAt .numeric (place + 1) = Nat.toDigits 10 (place + 1) := rfl
  rw [atPosition, hname, hdigits, hne, hnumber]
  simp [h]

theorem text_numbered_injective {place other : Nat}
    (h : "p" ++ toString place = "p" ++ toString other) : place = other := by
  have hlists := congrArg String.toList h
  have hdigits : Nat.toDigits 10 place = Nat.toDigits 10 other := by
    simpa [Nat.toString_eq_repr, Nat.toList_repr] using hlists
  rw [← Nat.ofDigitChars_ten_toDigits (n := place), hdigits, Nat.ofDigitChars_ten_toDigits]

theorem find?_numbered (first : Nat) (values : List Value) (place : Nat)
    (h : place < values.length) :
    Entries.find? (numbered first values) (.text ("p" ++ toString (first + place))) =
      some values[place] := by
  induction values generalizing first place with
  | nil => cases h
  | cons value rest ih =>
      rw [numbered, Entries.find?_cons_text]
      cases place with
      | zero => rw [Nat.add_zero, if_pos rfl, List.getElem_cons_zero]
      | succ place =>
          have hne : "p" ++ toString first ≠ "p" ++ toString (first + (place + 1)) := by
            intro hname
            have := text_numbered_injective hname
            omega
          have hrest := ih (first + 1) place (by simpa using h)
          rw [if_neg hne, List.getElem_cons_succ, ← hrest]
          congr 4
          omega

theorem underName_nameAt (values : List Value) (place : Nat) (h : place < values.length) :
    underName (numbered 1 values) (nameAt .named (place + 1)) = some values[place] := by
  have hname : String.ofList (nameAt .named (place + 1)) = "p" ++ toString (1 + place) := by
    apply String.toList_injective
    simp [nameAt, Nat.toString_eq_repr, Nat.toList_repr, Nat.add_comm]
  rw [underName, hname]
  exact find?_numbered 1 values place h

end Placeholder

/-- All styles mean the same statement. A text that is rewritten for a style, and as many parameters
as it has placeholders in the shape of that style, are read by a driver of the style as the
characters of the text with the parameters in the places of its question marks outside quotes. -/
theorem Paramstyle.read_adapted (names : Lettering) (style : Paramstyle) (sql : String)
    (parameters : List Value)
    (hcount : (marks none 0 sql.toList).length = parameters.length)
    (hnames : style = .numeric ∨ style = .named → nameless names none sql.toList = true) :
    ∃ text shaped, adaptNamed (.text style.name) sql = .ok text ∧
      adaptParameters (.text style.name) (.list parameters) = .ok shaped ∧
      style.read names text shaped = some (filled none sql.toList parameters) := by
  cases style with
  | question =>
      exact ⟨sql, .tuple parameters, rfl, rfl, readMarks_filled none sql.toList parameters hcount⟩
  | format =>
      refine ⟨adapt .format sql, .tuple parameters, rfl, rfl, ?_⟩
      rw [Paramstyle.read, toList_adapt (by decide)]
      exact readTemplate_restyle rfl none 0 sql.toList parameters hcount
  | extendedFormat =>
      refine ⟨adapt .extendedFormat sql, .tuple parameters, rfl, rfl, ?_⟩
      rw [Paramstyle.read, toList_adapt (by decide)]
      exact readTemplate_restyle rfl none 0 sql.toList parameters hcount
  | numeric =>
      refine ⟨adapt .numeric sql, .tuple parameters, rfl, rfl, ?_⟩
      rw [Paramstyle.read, toList_adapt (by decide)]
      refine readNames_restyle (.inl rfl) none 0 sql.toList parameters hcount (hnames (.inl rfl)) ?_
      intro place h
      rw [Nat.add_comm (0 + 1) place]
      exact atPosition_nameAt parameters place h
  | named =>
      refine ⟨adapt .named sql, .map (numbered 1 parameters), rfl, rfl, ?_⟩
      rw [Paramstyle.read, toList_adapt (by decide)]
      refine readNames_restyle (.inr rfl) none 0 sql.toList parameters hcount (hnames (.inr rfl)) ?_
      intro place h
      rw [Nat.add_comm (0 + 1) place]
      exact underName_nameAt parameters place h

/-- A text with quotes of all kinds, whose percent signs, colons and question marks stand between
quotes and outside. -/
def quotedText : String :=
  "\x60a?\x60 LIKE '%:x\x22' AND b % 2 = ? AND \x22?:\x22 = ?"

theorem Paramstyle.read_adapted_quotedText :
    adaptNamed (.text "named") quotedText =
        .ok "\x60a?\x60 LIKE '%:x\x22' AND b % 2 = :p1 AND \x22?:\x22 = :p2" ∧
      Paramstyle.named.read .ascii "\x60a?\x60 LIKE '%:x\x22' AND b % 2 = :p1 AND \x22?:\x22 = :p2"
          (.map [(.text "p1", .int 1), (.text "p2", .text "?")]) =
        some (filled none quotedText.toList [.int 1, .text "?"]) := by
  have hcount : (marks none 0 quotedText.toList).length = 2 := by decide
  have hnames : nameless .ascii none quotedText.toList = true := by decide
  obtain ⟨text, shaped, htext, hshaped, hread⟩ :=
    Paramstyle.read_adapted .ascii .named quotedText [.int 1, .text "?"] hcount fun _ => hnames
  have hadapted : adaptNamed (.text "named") quotedText =
      .ok "\x60a?\x60 LIKE '%:x\x22' AND b % 2 = :p1 AND \x22?:\x22 = :p2" := by rfl
  have hentries : adaptParameters (.text "named") (.list [.int 1, .text "?"]) =
      .ok (.map [(.text "p1", .int 1), (.text "p2", .text "?")]) := by rfl
  cases htext.symm.trans hadapted
  cases hshaped.symm.trans hentries
  exact ⟨hadapted, hread⟩

end SqlBuilder
