import SqlBuilder.Proofs.Driver

/-!
# Quotations with escapes

MySQL reads a text between single or double quotes as a literal, in which a backslash escapes the
character behind it and a doubled quote stands for one, and a text between grave accents as a name,
in which the accent can only be doubled. The template styles are those of its drivers. The adapter
looks for the next mark of the same kind and knows no escapes. The main statement is that the two
agree on a text just if no literal in it escapes its own mark, whatever else is escaped or doubled
there: behind such an escape the adapter has left a quotation that MySQL is still within.
-/

namespace SqlBuilder.Placeholder

/-- Whether two characters within a quotation leave it open together: a backslash and what it
escapes, or the mark of the quotation twice. A name has no escapes. -/
def heldOpen (mark c d : Char) : Bool :=
  (c == '\\' && mark != '\x60') || (c == mark && d == mark)

/-- For each character of a text, whether MySQL reads it within a quotation, the marks of the
quotation included. -/
def within : Option Char → List Char → List Bool
  | _, [] => []
  | quote, [c] => [quote.isSome || isQuote c]
  | none, c :: d :: rest => isQuote c :: within (advance none c) (d :: rest)
  | some mark, c :: d :: rest =>
      if heldOpen mark c d then true :: true :: within (some mark) rest
      else true :: within (advance (some mark) c) (d :: rest)

/-- Whether a literal escapes its own mark. -/
def escapesMark : Option Char → List Char → Bool
  | _, [] | _, [_] => false
  | none, c :: d :: rest => escapesMark (advance none c) (d :: rest)
  | some mark, c :: d :: rest =>
      if heldOpen mark c d then (c == '\\' && d == mark) || escapesMark (some mark) rest
      else escapesMark (advance (some mark) c) (d :: rest)

/-- The characters of a text, each with whether MySQL reads it within a quotation. -/
def placed (quote : Option Char) (cs : List Char) : List (Char × Bool) :=
  cs.zip (within quote cs)

/-- A question mark outside quotations becomes a placeholder, and any other character is kept. -/
def rewrite (style : Paramstyle) (place : Char × Bool) : List Char :=
  if place = ('?', false) then ['%', 's'] else style.plain place.1

/-- A template for the placeholders that MySQL sees in a text. -/
def templateOf (style : Paramstyle) (quote : Option Char) (cs : List Char) : List Char :=
  (placed quote cs).flatMap (rewrite style)

/-- How many placeholders a template has. A doubled percent sign begins none. -/
def templateMarks : List Char → Nat
  | [] => 0
  | '%' :: '%' :: rest => templateMarks rest
  | '%' :: 's' :: rest => templateMarks rest + 1
  | _ :: rest => templateMarks rest

/-! ### Character by character -/

theorem placed_outside {cs : List Char} (h : cs ≠ []) (c : Char) :
    placed none (c :: cs) = (c, isQuote c) :: placed (advance none c) cs := by
  obtain ⟨d, rest, rfl⟩ := List.exists_cons_of_ne_nil h
  rw [placed, within]
  rfl

theorem placed_heldOpen {mark c d : Char} (h : heldOpen mark c d = true) (rest : List Char) :
    placed (some mark) (c :: d :: rest) = (c, true) :: (d, true) :: placed (some mark) rest := by
  rw [placed, within, if_pos h]
  rfl

theorem placed_quoted {mark c d : Char} (h : ¬heldOpen mark c d = true) (rest : List Char) :
    placed (some mark) (c :: d :: rest) =
      (c, true) :: placed (advance (some mark) c) (d :: rest) := by
  rw [placed, within, if_neg h]
  rfl

theorem isQuote_of_advance {quote : Option Char} (hquote : ∀ mark ∈ quote, isQuote mark = true)
    (c : Char) : ∀ mark ∈ advance quote c, isQuote mark = true := by
  have hopen : ∀ mark ∈ openAfter quote [c], isQuote mark = true :=
    Closed.isQuote_of_openAfter hquote
  exact hopen

section

variable {style : Paramstyle}

theorem templateOf_outside {cs : List Char} (h : cs ≠ []) (c : Char) :
    templateOf style none (c :: cs) =
      rewrite style (c, isQuote c) ++ templateOf style (advance none c) cs := by
  rw [templateOf, placed_outside h, List.flatMap_cons]
  rfl

theorem templateOf_heldOpen {mark c d : Char} (h : heldOpen mark c d = true) (rest : List Char) :
    templateOf style (some mark) (c :: d :: rest) =
      rewrite style (c, true) ++ (rewrite style (d, true) ++
        templateOf style (some mark) rest) := by
  rw [templateOf, placed_heldOpen h, List.flatMap_cons, List.flatMap_cons]
  rfl

theorem templateOf_quoted {mark c d : Char} (h : ¬heldOpen mark c d = true) (rest : List Char) :
    templateOf style (some mark) (c :: d :: rest) =
      rewrite style (c, true) ++ templateOf style (advance (some mark) c) (d :: rest) := by
  rw [templateOf, placed_quoted h, List.flatMap_cons]
  rfl

end

/-- A question mark leaves no quotation open that another character would not. -/
theorem not_heldOpen_mark {mark c d : Char} (hmark : isQuote mark = true)
    (h : ¬heldOpen mark c d = true) : ¬heldOpen mark c '?' = true := by
  have hne : '?' ≠ mark := by
    rintro rfl
    exact absurd hmark (by decide)
  simp only [heldOpen, Bool.or_eq_true, Bool.and_eq_true, beq_iff_eq, hne, and_false,
    or_false] at h ⊢
  exact fun hslash => h (.inl hslash)

theorem rewrite_quoted (style : Paramstyle) (c : Char) : rewrite style (c, true) = style.plain c :=
  if_neg (by simp)

theorem restyle_quoted (style : Paramstyle) (mark : Char) (position : Nat) (c : Char)
    (rest : List Char) :
    restyle style (some mark) position (c :: rest) =
      rewrite style (c, true) ++ restyle style (advance (some mark) c) position rest := by
  rw [restyle_of_not_mark (by simp), rewrite_quoted]

/-- A quotation that two characters leave open is still open for the adapter, unless the second one
is a mark that the first one escapes. -/
theorem restyle_heldOpen (style : Paramstyle) {mark c d : Char} (hmark : isQuote mark = true)
    (hopen : heldOpen mark c d = true) (hescape : (c == '\\' && d == mark) = false)
    (position : Nat) (rest : List Char) :
    restyle style (some mark) position (c :: d :: rest) =
      rewrite style (c, true) ++ (rewrite style (d, true) ++
        restyle style (some mark) position rest) := by
  rw [restyle_quoted]
  by_cases hc : c = mark
  · -- the first mark ends the quotation for the adapter, and the second one begins it again
    subst hc
    have hslash : c ≠ '\\' := by
      rintro rfl
      exact absurd hmark (by decide)
    obtain rfl : d = c := by simpa [heldOpen, hslash] using hopen
    have hnot : ¬((none : Option Char) = none ∧ d = '?') := by
      rintro ⟨-, rfl⟩
      exact absurd hmark (by decide)
    have hclosed : advance (some d) d = none := by simp [advance]
    have hreopened : advance none d = some d := by simp [advance, hmark]
    rw [hclosed, restyle_of_not_mark hnot, hreopened, ← rewrite_quoted]
  · have hd : d ≠ mark := by
      rintro rfl
      have hslash : c = '\\' := by
        simp only [heldOpen, Bool.or_eq_true, Bool.and_eq_true, beq_iff_eq] at hopen
        exact hopen.elim (·.1) fun h => absurd h.1 hc
      simp [hslash] at hescape
    have hstay : ∀ {x : Char}, x ≠ mark → advance (some mark) x = some mark := by
      intro x hx
      simp [advance, hx]
    rw [hstay hc, restyle_quoted, hstay hd]

section Template

variable {style : Paramstyle} (hstyle : style.isTemplate = true)
include hstyle

theorem placeholder_template (position : Nat) : style.placeholder position = ['%', 's'] := by
  cases style <;> first | rfl | cases hstyle

theorem restyle_outside (position : Nat) (c : Char) :
    ∃ following, ∀ rest, restyle style none position (c :: rest) =
      rewrite style (c, isQuote c) ++ restyle style (advance none c) following rest := by
  by_cases hmark : c = '?'
  · subst hmark
    refine ⟨position + 1, fun rest => ?_⟩
    rw [restyle_mark, placeholder_template hstyle]
    rfl
  · refine ⟨position, fun rest => ?_⟩
    rw [restyle_of_not_mark (by simp [hmark]), rewrite, if_neg (by simp [hmark])]

theorem restyle_escaped {mark : Char} (hmark : isQuote mark = true) (position : Nat) :
    restyle style (some mark) position ['\\', mark, '?'] =
      rewrite style ('\\', true) ++ (rewrite style (mark, true) ++ ['%', 's']) := by
  have hslash : '\\' ≠ mark := by
    rintro rfl
    exact absurd hmark (by decide)
  have hstay : advance (some mark) '\\' = some mark := by simp [advance, hslash]
  have hclosed : advance (some mark) mark = none := by simp [advance]
  rw [restyle_quoted, hstay, restyle_quoted, hclosed, restyle_mark, placeholder_template hstyle,
    restyle, List.append_nil]

/-- A text in which no literal escapes its own mark is rewritten as MySQL reads it. -/
theorem restyle_eq_templateOf {quote : Option Char} {cs : List Char}
    (hquote : ∀ mark ∈ quote, isQuote mark = true) (hescape : escapesMark quote cs = false)
    (position : Nat) : restyle style quote position cs = templateOf style quote cs := by
  induction quote, cs using escapesMark.induct generalizing position with
  | case1 quote => cases quote <;> rfl
  | case2 quote c =>
      cases quote with
      | none =>
          obtain ⟨following, hrest⟩ := restyle_outside hstyle position c
          rw [hrest, restyle]
          rfl
      | some mark =>
          rw [restyle_quoted, restyle]
          rfl
  | case3 c d rest ih =>
      rw [escapesMark] at hescape
      obtain ⟨following, hrest⟩ := restyle_outside hstyle position c
      rw [hrest, ih (isQuote_of_advance hquote c) hescape, templateOf_outside (by simp)]
  | case4 mark c d rest hopen ih =>
      rw [escapesMark, if_pos hopen, Bool.or_eq_false_iff] at hescape
      rw [restyle_heldOpen style (hquote mark rfl) hopen hescape.1, ih hquote hescape.2,
        templateOf_heldOpen hopen]
  | case5 mark c d rest hopen ih =>
      rw [escapesMark, if_neg hopen] at hescape
      rw [restyle_quoted, ih (isQuote_of_advance hquote c) hescape, templateOf_quoted hopen]

/-- Behind a mark that a literal escapes a question mark is taken for a placeholder. -/
theorem exists_restyle_ne {quote : Option Char} {cs : List Char}
    (hquote : ∀ mark ∈ quote, isQuote mark = true) (hescape : escapesMark quote cs = true)
    (position : Nat) :
    ∃ front, front <+: cs ∧
      restyle style quote position (front ++ ['?']) ≠ templateOf style quote (front ++ ['?']) := by
  induction quote, cs using escapesMark.induct generalizing position with
  | case1 quote => simp [escapesMark] at hescape
  | case2 quote c => simp [escapesMark] at hescape
  | case3 c d rest ih =>
      rw [escapesMark] at hescape
      obtain ⟨following, hrest⟩ := restyle_outside hstyle position c
      obtain ⟨front, hfront, hne⟩ := ih (isQuote_of_advance hquote c) hescape following
      refine ⟨c :: front, List.cons_prefix_cons.2 ⟨rfl, hfront⟩, ?_⟩
      rw [List.cons_append, hrest, templateOf_outside (by simp)]
      exact fun h => hne (List.append_cancel_left h)
  | case4 mark c d rest hopen ih =>
      rw [escapesMark, if_pos hopen, Bool.or_eq_true] at hescape
      by_cases hmark : (c == '\\' && d == mark) = true
      · refine ⟨[c, d], by simp, ?_⟩
        obtain ⟨rfl, rfl⟩ : c = '\\' ∧ d = mark := by simpa using hmark
        rw [List.cons_append, List.cons_append, List.nil_append, restyle_escaped hstyle
          (hquote d rfl), templateOf_heldOpen hopen]
        simp [templateOf, placed, within, rewrite, Paramstyle.plain]
      · obtain ⟨front, hfront, hne⟩ := ih hquote (hescape.resolve_left hmark) position
        refine ⟨c :: d :: front, by simpa using hfront, ?_⟩
        rw [List.cons_append, List.cons_append,
          restyle_heldOpen style (hquote mark rfl) hopen (by simpa using hmark),
          templateOf_heldOpen hopen]
        exact fun h => hne (List.append_cancel_left (List.append_cancel_left h))
  | case5 mark c d rest hopen ih =>
      rw [escapesMark, if_neg hopen] at hescape
      obtain ⟨front, hfront, hne⟩ := ih (isQuote_of_advance hquote c) hescape position
      refine ⟨c :: front, List.cons_prefix_cons.2 ⟨rfl, hfront⟩, ?_⟩
      obtain ⟨e, tail, htail⟩ := List.exists_cons_of_ne_nil (l := front ++ ['?']) (by simp)
      have hclosing : ¬heldOpen mark c e = true := by
        cases front with
        | nil =>
            obtain rfl : '?' = e := by simpa using (List.cons.inj htail).1
            exact not_heldOpen_mark (hquote mark rfl) hopen
        | cons f front =>
            obtain rfl : f = e := (List.cons.inj htail).1
            rwa [(List.cons_prefix_cons.1 hfront).1]
      rw [List.cons_append, restyle_quoted, htail, templateOf_quoted hclosing]
      rw [htail] at hne
      exact fun h => hne (List.append_cancel_left h)

theorem templateMarks_rewrite (place : Char × Bool) (rest : List Char) :
    templateMarks (rewrite style place ++ rest) =
      (if place = ('?', false) then 1 else 0) + templateMarks rest := by
  rw [rewrite]
  split
  · exact Nat.add_comm ..
  · by_cases hpercent : place.1 = '%'
    · have hplain : style.plain place.1 = ['%', '%'] := by
        simp [Paramstyle.plain, hpercent, hstyle]
      rw [hplain, Nat.zero_add]
      rfl
    · rw [plain_of_ne hpercent, List.singleton_append, templateMarks.eq_def, Nat.zero_add]
      simp [hpercent]

theorem templateMarks_templateOf (quote : Option Char) (cs : List Char) :
    templateMarks (templateOf style quote cs) = (placed quote cs).count ('?', false) := by
  rw [templateOf]
  induction placed quote cs with
  | nil => rfl
  | cons place rest ih =>
      rw [List.flatMap_cons, templateMarks_rewrite hstyle, ih, List.count_cons, Nat.add_comm]
      simp

end Template

/-- The adapter reads quotations as MySQL does just as long as no literal escapes its own mark. A
text without such an escape keeps every character within a quotation, apart from percent signs,
which are doubled everywhere, and has a placeholder for each question mark outside. A text with one
begins with a text behind which a question mark is misread. -/
theorem adapt_template {style : Paramstyle} (hstyle : style.isTemplate = true) (sql : String) :
    (escapesMark none sql.toList = false →
      (adapt style sql).toList = templateOf style none sql.toList ∧
        templateMarks (adapt style sql).toList = (placed none sql.toList).count ('?', false)) ∧
      (escapesMark none sql.toList = true →
        ∃ front, front <+: sql.toList ∧
          (adapt style (String.ofList (front ++ ['?']))).toList ≠
            templateOf style none (front ++ ['?'])) := by
  have hadapt : ∀ text : String, (adapt style text).toList = restyle style none 0 text.toList := by
    intro text
    refine toList_adapt ?_ text
    rintro rfl
    cases hstyle
  refine ⟨fun hescape => ?_, fun hescape => ?_⟩
  · have hread : (adapt style sql).toList = templateOf style none sql.toList := by
      rw [hadapt]
      exact restyle_eq_templateOf hstyle (by simp) hescape 0
    exact ⟨hread, by rw [hread, templateMarks_templateOf hstyle]⟩
  · obtain ⟨front, hfront, hne⟩ := exists_restyle_ne hstyle (by simp) hescape 0
    refine ⟨front, hfront, ?_⟩
    rwa [hadapt, String.toList_ofList]

/-- Other escapes, doubled marks and marks of the other kinds do no harm. -/
def escapedText : String :=
  "SELECT \x60a\\\x60, 'it''s \\\\ \\n ?', \x22\\' ?\x22 WHERE b LIKE '%?' AND c = ?"

theorem adapt_template_escapedText :
    adapt .format escapedText =
        "SELECT \x60a\\\x60, 'it''s \\\\ \\n ?', \x22\\' ?\x22 WHERE b LIKE '%%?' AND c = %s" ∧
      templateMarks (adapt .format escapedText).toList = 1 ∧
      ∃ front, front <+: "SELECT 'it\\'s'".toList ∧
        (adapt .format (String.ofList (front ++ ['?']))).toList ≠
          templateOf .format none (front ++ ['?']) := by
  have hstyle : Paramstyle.format.isTemplate = true := rfl
  have hread := (adapt_template hstyle escapedText).1 (by decide)
  have hmisread := (adapt_template hstyle "SELECT 'it\\'s'").2 (by decide)
  refine ⟨String.toList_injective (hread.1.trans (by decide)), hread.2.trans (by decide), hmisread⟩

/-- A question mark behind an escaped mark in the same literal becomes a placeholder, and the one
behind the literal does not. -/
theorem adapt_escaped_mark :
    adapt .format "SELECT 'it\\'s ?' WHERE a = ?" = "SELECT 'it\\'s %s' WHERE a = ?" ∧
      (adapt .format "SELECT 'it\\'s ?' WHERE a = ?").toList ≠
        templateOf .format none "SELECT 'it\\'s ?' WHERE a = ?".toList := by
  decide

end SqlBuilder.Placeholder
