import SqlBuilder.Proofs.Alignment

/-!
# Names in a statement

A database reads the names in a statement off its text: a grave accent begins a name, two of them
inside stand for one, and one alone ends it. The reader here is that rule, character by character.
It finds a quoted name again whatever characters the name has, provided that no mark follows it
directly, and none does: between any two names that a compiler puts together there is fixed text.
So the names in a compiled statement are the names that were supplied, one after the other, and
nothing that was supplied as a name is read as anything else.
-/

namespace SqlBuilder

open Outcome Placeholder

/-! ### Reading names off a text -/

/-- How far a reader of names has come: outside of names, inside of one, or behind a mark that ends
a name unless another one follows. -/
inductive NamePlace where
  | outside
  | inside (taken : List Char)
  | behind (taken : List Char)

namespace NamePlace

/-- The names from a place on, unless the last one is never ended. -/
def read (mark : Char) : NamePlace → List Char → Option (List String)
  | outside, [] => some []
  | inside _, [] => none
  | behind taken, [] => some [String.ofList taken]
  | outside, c :: rest => if c = mark then read mark (inside []) rest else read mark outside rest
  | inside taken, c :: rest =>
      if c = mark then read mark (behind taken) rest else read mark (inside (taken ++ [c])) rest
  | behind taken, c :: rest =>
      if c = mark then read mark (inside (taken ++ [mark])) rest
      else (read mark outside rest).map fun names => String.ofList taken :: names

variable {mark : Char}

theorem read_append_of_not_mem {front : List Char} (h : mark ∉ front) (back : List Char) :
    read mark outside (front ++ back) = read mark outside back := by
  induction front with
  | nil => rfl
  | cons c rest ih =>
      obtain ⟨hc, hrest⟩ : mark ≠ c ∧ mark ∉ rest := by simpa using h
      rw [List.cons_append, read, if_neg (Ne.symm hc), ih hrest]

theorem read_behind_append {taken front : List Char} (hne : front ≠ []) (h : mark ∉ front)
    (back : List Char) :
    read mark (behind taken) (front ++ back) =
      (read mark outside back).map fun names => String.ofList taken :: names := by
  obtain ⟨c, rest, rfl⟩ := List.exists_cons_of_ne_nil hne
  obtain ⟨hc, hrest⟩ : mark ≠ c ∧ mark ∉ rest := by simpa using h
  rw [List.cons_append, read, if_neg (Ne.symm hc), read_append_of_not_mem hrest]

theorem read_doubled (taken name rest : List Char) :
    read mark (inside taken) (Identifier.doubled mark name ++ mark :: rest) =
      read mark (behind (taken ++ name)) rest := by
  induction name generalizing taken with
  | nil => simp [Identifier.doubled, read]
  | cons c name ih =>
      have hstep : Identifier.doubled mark (c :: name) =
          (if c == mark then [mark, mark] else [c]) ++ Identifier.doubled mark name := rfl
      have hread : read mark (inside taken)
          ((if c == mark then [mark, mark] else [c]) ++
            (Identifier.doubled mark name ++ mark :: rest)) =
          read mark (inside (taken ++ [c])) (Identifier.doubled mark name ++ mark :: rest) := by
        by_cases hc : c = mark
        · simp [hc, read]
        · simp [hc, read]
      rw [hstep, List.append_assoc, hread, ih, List.append_assoc]
      rfl

theorem read_enclosed (name : String) (rest : List Char) :
    read mark outside ((Identifier.enclosed mark name).toList ++ rest) =
      read mark (behind name.toList) rest := by
  rw [Identifier.enclosed, String.toList_ofList, List.append_assoc, List.cons_append, read,
    if_pos rfl, List.singleton_append, read_doubled, List.nil_append]

end NamePlace

/-- The names that are quoted in a text. -/
def Identifier.quotedNames (text : String) : Option (List String) :=
  NamePlace.outside.read '\x60' text.toList

/-- To have no grave accent is a property of texts that does not depend on plain characters. -/
theorem robust_not_mem : Robust fun cs => '\x60' ∉ cs where
  of_isPlain hplain hmem := absurd (hplain _ hmem) (by decide)
  append hfront hback hmem := (List.mem_append.1 hmem).elim hfront hback
  of_append_left _ h hmem := h (List.mem_append_right _ hmem)
  of_append_right _ h hmem := h (List.mem_append_left _ hmem)

/-! ### Names among tokens -/

namespace Token

def name? : Token → Option String
  | name segment => some segment
  | _ => none

end Token

namespace Tokens

/-- The segments that are handed to the quoting, the wildcard among them. -/
def names (tokens : Tokens) : List String :=
  tokens.filterMap Token.name?

/-- The names that are quoted. The wildcard is not. -/
def quoted (tokens : Tokens) : List String :=
  tokens.filterMap fun
    | .name segment => if segment = Identifier.wildcard then none else some segment
    | _ => none

/-- No name stands directly behind another one, nor behind one that came before. -/
def Apart : Bool → Tokens → Prop
  | _, [] => True
  | touching, .literal text :: rest => Apart (touching && text.isEmpty) rest
  | touching, .name _ :: rest => touching = false ∧ Apart true rest
  | _, .slot _ :: rest => Apart false rest

theorem Apart.append {text : String} (hne : text ≠ "") {front back : Tokens} {touching : Bool}
    (hfront : front.Apart touching) (hback : back.Apart false) :
    Apart touching (front ++ .literal text :: back) := by
  induction front generalizing touching with
  | nil =>
      have hempty : text.isEmpty = false := by simpa using hne
      simpa only [List.nil_append, Apart, hempty, Bool.and_false] using hback
  | cons token rest ih =>
      cases token with
      | literal characters => exact ih hfront
      | name segment => exact ⟨hfront.1, ih hfront.2⟩
      | slot value => exact ih hfront

theorem Apart.outside {tokens : Tokens} (h : tokens.Apart true) : tokens.Apart false := by
  induction tokens with
  | nil => exact h
  | cons token rest ih =>
      cases token with
      | literal text =>
          cases hempty : text.isEmpty with
          | true => exact ih (by simpa only [Apart, hempty, Bool.and_true] using h)
          | false => simpa only [Apart, hempty, Bool.and_false] using h
      | name segment => exact absurd h.1 (by decide)
      | slot value => exact h

theorem apart_append_literal (touching : Bool) (tokens : Tokens) (text : String) :
    Apart touching (tokens ++ [.literal text]) ↔ tokens.Apart touching := by
  induction tokens generalizing touching with
  | nil => simp [Apart]
  | cons token rest ih =>
      cases token with
      | literal characters => exact ih _
      | name segment => exact and_congr_right fun _ => ih true
      | slot value => exact ih false

theorem Apart.joined {separator : String} (hne : separator ≠ "") {pieces : List Tokens}
    (h : ∀ piece ∈ pieces, piece.Apart false) : Apart false (Tokens.joined separator pieces) := by
  induction pieces with
  | nil => exact trivial
  | cons piece rest ih =>
      have hpiece := h piece List.mem_cons_self
      have hrest := ih fun other hother => h other (List.mem_cons_of_mem piece hother)
      cases rest with
      | nil =>
          rw [joined_singleton]
          exact hpiece
      | cons next others =>
          rw [joined_cons_cons]
          exact hpiece.append hne hrest

theorem Apart.trimStart {tokens : Tokens} (h : tokens.Apart false) :
    (Tokens.trimStart tokens).Apart false := by
  fun_induction Tokens.trimStart tokens with
  | case1 characters rest hblank ih => exact ih h
  | case2 characters rest hblank => exact h
  | case3 => exact h

theorem Apart.trimBack {tokens : Tokens} (h : Apart false tokens.reverse) :
    Apart false (Tokens.trimBack tokens).reverse := by
  fun_induction Tokens.trimBack tokens with
  | case1 characters rest hblank ih =>
      rw [List.reverse_cons, apart_append_literal] at h
      exact ih h
  | case2 characters rest hblank =>
      rw [List.reverse_cons, apart_append_literal] at h ⊢
      exact h
  | case3 => exact h

theorem Apart.trim {tokens : Tokens} (h : tokens.Apart false) :
    (Tokens.trim tokens).Apart false := by
  refine Apart.trimBack ?_
  rw [List.reverse_reverse]
  exact h.trimStart

theorem names_trimStart (tokens : Tokens) : (trimStart tokens).names = tokens.names := by
  fun_induction trimStart tokens with
  | case1 characters rest hblank ih => exact ih
  | case2 characters rest hblank => rfl
  | case3 => rfl

theorem names_trimBack (tokens : Tokens) : (trimBack tokens).names = tokens.names := by
  fun_induction trimBack tokens with
  | case1 characters rest hblank ih => exact ih
  | case2 characters rest hblank => rfl
  | case3 => rfl

theorem names_trim (tokens : Tokens) : (trim tokens).names = tokens.names := by
  have hreverse : ∀ tokens : Tokens, names tokens.reverse = (names tokens).reverse :=
    fun tokens => List.filterMap_reverse
  rw [trim, hreverse, names_trimBack, hreverse, List.reverse_reverse, names_trimStart]

theorem names_append (front back : Tokens) :
    names (front ++ back) = front.names ++ back.names := by
  simp [names]

theorem names_literal (text : String) (rest : Tokens) :
    names (.literal text :: rest) = rest.names := rfl

theorem names_of_vanishes {tokens : Tokens} (h : tokens.vanishes = true) : tokens.names = [] := by
  refine List.filterMap_eq_nil_iff.2 fun token hmem => ?_
  have htoken := List.all_eq_true.1 h token hmem
  cases token with
  | literal text => rfl
  | name segment => cases htoken
  | slot value => rfl

theorem quoted_name (segment : String) (rest : Tokens) :
    quoted (.name segment :: rest) =
      (if segment = Identifier.wildcard then [] else [segment]) ++ rest.quoted := by
  by_cases hwild : segment = Identifier.wildcard <;> simp [quoted, hwild]

theorem quoted_eq (tokens : Tokens) :
    tokens.quoted = tokens.names.filter fun segment => segment != Identifier.wildcard := by
  induction tokens with
  | nil => rfl
  | cons token rest ih =>
      cases token with
      | literal text => exact ih
      | slot value => exact ih
      | name segment =>
          have hnames : names (.name segment :: rest) = segment :: names rest := rfl
          rw [quoted_name, hnames, List.filter_cons, ih]
          by_cases hwild : segment = Identifier.wildcard <;> simp [hwild]

/-- Reading the text of tokens finds the names that are quoted among them, whether the reader is
outside of names or has just come to the end of one. -/
theorem read_render {tokens : Tokens} (hliterals : tokens.Literals fun cs => '\x60' ∉ cs) :
    (tokens.Apart false →
      NamePlace.outside.read '\x60' (tokens.render Identifier.backtick).toList =
        some tokens.quoted) ∧
    ∀ taken, tokens.Apart true →
      (NamePlace.behind taken).read '\x60' (tokens.render Identifier.backtick).toList =
        some (String.ofList taken :: tokens.quoted) := by
  induction tokens with
  | nil => exact ⟨fun _ => rfl, fun _ _ => rfl⟩
  | cons token rest ih =>
      obtain ⟨houtside, hbehind⟩ := ih (hliterals.subset fun _ => List.mem_cons_of_mem _)
      rw [render_cons, String.toList_append]
      cases token with
      | literal text =>
          have hmark : '\x60' ∉ text.toList := hliterals text List.mem_cons_self
          refine ⟨fun h => ?_, fun taken h => ?_⟩
          · rw [Token.render, NamePlace.read_append_of_not_mem hmark]
            exact houtside h
          · cases hempty : text.isEmpty with
            | true =>
                have hrest : Apart true rest := by simpa only [Apart, hempty, Bool.and_true] using h
                obtain rfl : text = "" := by simpa using hempty
                exact hbehind taken hrest
            | false =>
                have hrest : Apart false rest := by
                  simpa only [Apart, hempty, Bool.and_false] using h
                have hne : text.toList ≠ [] := by simpa using hempty
                rw [Token.render, NamePlace.read_behind_append hne hmark, houtside hrest]
                rfl
      | name segment =>
          refine ⟨fun h => ?_, fun taken h => absurd h.1 (by decide)⟩
          rw [Token.render, quoted_name, Identifier.backtick]
          by_cases hwild : segment = Identifier.wildcard
          · rw [if_pos (beq_iff_eq.2 hwild), if_pos hwild, hwild]
            exact (NamePlace.read_append_of_not_mem (by decide) _).trans (houtside h.2.outside)
          · rw [if_neg (by simpa using hwild), if_neg hwild, NamePlace.read_enclosed,
              hbehind _ h.2, String.ofList_toList]
            rfl
      | slot value =>
          have hmark : '\x60' ∉ "?".toList := by decide
          refine ⟨fun h => ?_, fun taken h => ?_⟩
          · exact (NamePlace.read_append_of_not_mem hmark _).trans (houtside h)
          · rw [Token.render, NamePlace.read_behind_append (by decide) hmark, houtside h]
            rfl

end Tokens

/-! ### Names that are supplied -/

/-- What an ingredient contributes to be quoted: a path its segments that are not empty, a name
itself. -/
def Ingredient.segments (scope : Scope) : Ingredient → List String
  | .path value =>
      match value.toText scope with
      | .ok text =>
          ((Identifier.segments text.toList).map String.ofList).filter fun segment =>
            !segment.isEmpty
      | .error _ => []
  | .name value =>
      match value.toText scope with
      | .ok text => [text]
      | .error _ => []
  | _ => []

/-- The names that an ingredient contributes: a path its segments that are neither empty nor the
wildcard, a name itself, unless it is the wildcard. -/
def Ingredient.names (scope : Scope) : Ingredient → List String
  | .path value =>
      match value.toText scope with
      | .ok text =>
          ((Identifier.segments text.toList).map String.ofList).filter fun segment =>
            !segment.isEmpty && segment != Identifier.wildcard
      | .error _ => []
  | .name value =>
      match value.toText scope with
      | .ok text => if text = Identifier.wildcard then [] else [text]
      | .error _ => []
  | _ => []

theorem Ingredient.names_eq (scope : Scope) (ingredient : Ingredient) :
    ingredient.names scope =
      (ingredient.segments scope).filter fun segment => segment != Identifier.wildcard := by
  cases ingredient with
  | word value => rfl
  | capitals value => rfl
  | bound value => rfl
  | path value =>
      rw [names, segments]
      split
      · simp only [List.filter_filter, Bool.and_comm]
      · rfl
  | name value =>
      rw [names, segments]
      split
      · next text _ =>
          by_cases hwild : text = Identifier.wildcard <;> simp [hwild]
      · rfl

/-- What a statement is supplied with to be quoted, in the order of its clauses. -/
def Snapshot.segments (scope : Scope) (dialect : Dialect) (snapshot : Snapshot) : List String :=
  (snapshot.supplies dialect).flatMap (Ingredient.segments scope)

/-- The names that a statement is supplied with, in the order of its clauses. -/
def Snapshot.names (scope : Scope) (dialect : Dialect) (snapshot : Snapshot) : List String :=
  (snapshot.supplies dialect).flatMap (Ingredient.names scope)

theorem Tokens.names_path (text : String) :
    (Tokens.path text).names =
      ((Identifier.segments text.toList).map String.ofList).filter fun segment =>
        !segment.isEmpty := by
  rw [names, path, filterMap_joined (fun _ => rfl), List.flatMap_map]
  induction Identifier.segments text.toList with
  | nil => rfl
  | cons segment rest ih =>
      rw [List.flatMap_cons, ih, List.map_cons, List.filter_cons]
      cases segment with
      | nil => rfl
      | cons c cs => simp [Token.name?]

/-- A text that separates two pieces is not empty, and no name has gone into it. -/
theorem Joint.nameless {scope : Scope} {ingredients : List Ingredient} {text : String}
    (h : Joint scope ingredients text) :
    text ≠ "" ∧ ingredients.flatMap (Ingredient.segments scope) = [] := by
  cases h with
  | fixed _ hseparates => exact ⟨hseparates, rfl⟩
  | @word ingredient word front back htext _ _ hseparates =>
      refine ⟨fun hempty => hseparates ?_, ?_⟩
      · simp_all
      · cases ingredient with
        | word value => rfl
        | capitals value => rfl
        | path value => exact htext.elim
        | name value => exact htext.elim
        | bound value => exact htext.elim

namespace Assembled

variable {scope : Scope} {ingredients : List Ingredient} {tokens : Tokens}

theorem apart (h : Assembled scope ingredients tokens) : tokens.Apart false := by
  induction h with
  | nil => exact trivial
  | fixed hplain => exact trivial
  | word htext => exact trivial
  | name htext => exact ⟨rfl, trivial⟩
  | path htext =>
      refine Tokens.Apart.joined (by decide) fun piece hpiece => ?_
      obtain ⟨segment, -, rfl⟩ := List.mem_map.1 hpiece
      split <;> simp [Tokens.Apart]
  | slot value => exact trivial
  | glue _ hjoint _ hfirst hsecond => exact hfirst.append hjoint.nameless.1 hsecond
  | dropFront _ _ _ _ hsecond => exact hsecond
  | dropBack _ _ _ hfirst _ => exact hfirst
  | @beheaded ingredients tokens _ ih =>
      cases tokens with
      | nil => exact ih
      | cons token rest => cases token <;> exact ih
  | trimmed _ ih => exact ih.trim

theorem names (h : Assembled scope ingredients tokens) :
    tokens.names = ingredients.flatMap (Ingredient.segments scope) := by
  induction h with
  | nil => rfl
  | fixed hplain => rfl
  | word htext => rfl
  | name htext =>
      rw [List.flatMap_singleton, Ingredient.segments, htext]
      rfl
  | path htext => rw [Tokens.names_path, List.flatMap_singleton, Ingredient.segments, htext]
  | slot value => rfl
  | glue _ hjoint _ hfirst hsecond =>
      rw [Tokens.names_append, Tokens.names_literal, hfirst, hsecond, List.flatMap_append,
        List.flatMap_append, hjoint.nameless.2, List.nil_append]
  | dropFront _ hvanishes _ hfirst hsecond =>
      rw [List.flatMap_append, ← hfirst, Tokens.names_of_vanishes hvanishes, ← hsecond,
        List.nil_append]
  | dropBack _ _ hvanishes hfirst hsecond =>
      rw [List.flatMap_append, ← hsecond, Tokens.names_of_vanishes hvanishes, ← hfirst,
        List.append_nil]
  | @beheaded ingredients tokens _ ih =>
      cases tokens with
      | nil => exact ih
      | cons token rest => cases token <;> exact ih
  | trimmed _ ih => exact (Tokens.names_trim _).trans ih

theorem quoted (h : Assembled scope ingredients tokens) :
    tokens.Apart false ∧ tokens.quoted = ingredients.flatMap (Ingredient.names scope) := by
  refine ⟨h.apart, ?_⟩
  rw [Tokens.quoted_eq, h.names, List.filter_flatMap]
  exact List.flatMap_congr fun ingredient _ => (ingredient.names_eq scope).symm

end Assembled

/-- The names read off a compiled statement are the names that its snapshot was supplied with,
whatever characters they have, as long as no word that is written as it is has a grave accent. -/
theorem compile_names {compiler : Compiler}
    (hcompiler : compiler = Compiler.mysql ∨ compiler = Compiler.sqlite) {scope : Scope}
    {snapshot : Snapshot} {compiled : Compiled}
    (hcompile : compiler.compile scope snapshot = .ok compiled)
    (hwords : ∀ ingredient ∈ snapshot.ingredients compiler.dialect, ∀ text,
      ingredient.Inlines scope text → '\x60' ∉ text.toList) :
    Identifier.quotedNames compiled.sql = some (snapshot.names scope compiler.dialect) := by
  have hquote : compiler.quote = Identifier.backtick := by
    rcases hcompiler with rfl | rfl <;> rfl
  have hemptying : ∀ c ∈ compiler.emptying.toList, isPlain c = true := by
    rcases hcompiler with rfl | rfl <;> decide
  obtain ⟨tokens, htokens, hfinish⟩ := bind_eq_ok.1 hcompile
  obtain rfl := pure_eq_ok.1 hfinish
  have hliterals := (Emission.compiled robust_not_mem hemptying htokens).literals hwords
  obtain ⟨hapart, hnames⟩ := (Assembled.compiled hemptying htokens).quoted
  simp only [Compiler.finish, hquote, Identifier.quotedNames]
  rw [(Tokens.read_render hliterals).1 hapart, hnames]
  rfl

/-- An upsert whose names have grave accents, quotes, dots, blanks and wildcards. -/
def hostileUpsert : Snapshot where
  blueprint := (Blueprint.empty .upsert).add .tables
      (Fragment.of [("table", .argument .table (.text "a\x60..b\x27.*") [.text "c \x60?"])])
    |>.add .insert (Fragment.of
      [("insert", .map [(.text "d\x60\x60", .int 1), (.text "e.f", .raw (.text "NOW()"))]),
        ("update", .map [(.text "d\x60\x60", .column "row.d\x60\x60")])])
  members := []

theorem inlines_hostileUpsert :
    ∀ ingredient ∈ hostileUpsert.ingredients .mysql, ∀ text,
      ingredient.Inlines Scope.nothing text → '\x60' ∉ text.toList := by
  have hingredients : hostileUpsert.ingredients .mysql =
      [.path (.text "a\x60..b\x27.*"), .name (.text "c \x60?"), .name (.text "d\x60\x60"),
        .name (.text "e.f"), .bound (.int 1), .word (.text "NOW()"), .name (.text "d\x60\x60"),
        .path (.text "row.d\x60\x60")] := by rfl
  intro ingredient hmem text htext
  have hword : ingredient = .word (.text "NOW()") := by
    rw [hingredients] at hmem
    simp only [List.mem_cons, List.not_mem_nil, or_false] at hmem
    rcases hmem with rfl | rfl | rfl | rfl | rfl | rfl | rfl | rfl
    all_goals first
      | rfl
      | exact htext.elim
  rw [hword, Ingredient.Inlines, Value.toText_text] at htext
  cases htext
  decide

set_option maxRecDepth 8000 in
theorem compile_names_hostileUpsert :
    ∃ compiled, Compiler.mysql.compile Scope.nothing hostileUpsert = .ok compiled ∧
      compiled.sql = "INSERT INTO \x60a\x60\x60\x60..\x60b\x27\x60.* AS \x60c \x60\x60?\x60 (\x60d\x60\x60\x60\x60\x60, \x60e.f\x60) VALUES (?, NOW()) AS \x60row\x60 ON DUPLICATE KEY UPDATE \x60d\x60\x60\x60\x60\x60 = \x60row\x60.\x60d\x60\x60\x60\x60\x60" ∧
      Identifier.quotedNames compiled.sql =
        some ["a\x60", "b\x27", "c \x60?", "d\x60\x60", "e.f", "row", "d\x60\x60", "row",
          "d\x60\x60"] := by
  have hcompile : Compiler.mysql.compile Scope.nothing hostileUpsert = .ok
      ⟨"INSERT INTO \x60a\x60\x60\x60..\x60b\x27\x60.* AS \x60c \x60\x60?\x60 (\x60d\x60\x60\x60\x60\x60, \x60e.f\x60) VALUES (?, NOW()) AS \x60row\x60 ON DUPLICATE KEY UPDATE \x60d\x60\x60\x60\x60\x60 = \x60row\x60.\x60d\x60\x60\x60\x60\x60",
        [.int 1], .mysql⟩ := by rfl
  have hsupplied : hostileUpsert.names Scope.nothing .mysql =
      ["a\x60", "b\x27", "c \x60?", "d\x60\x60", "e.f", "row", "d\x60\x60", "row",
        "d\x60\x60"] := by rfl
  have hnames := compile_names (.inl rfl) hcompile inlines_hostileUpsert
  exact ⟨_, hcompile, rfl, hnames.trans (congrArg some hsupplied)⟩

end SqlBuilder
