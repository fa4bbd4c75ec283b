import SqlBuilder.Connection.Recording
import SqlBuilder.Proofs.Description
import SqlBuilder.Proofs.Frame
import SqlBuilder.Proofs.Numerals

/-!
# Pages tile the result

A query has one window, and each call that sets it forgets the one before. A page is a window of as
many rows as its size says, behind those of all pages before it; there is no page before the first.
So the pages lie side by side and each row is on one of them. What can be seen of a window is the
text that it is compiled to, and the window is read back from that, provided that its numbers are
short enough to be written.
-/

namespace SqlBuilder

open Outcome Session

/-- What sets the window of a query: a number of rows with or without an offset, or the number of a
page with or without its size. -/
inductive Windowing where
  | limit (height : Int) (offset : Option Int)
  | page (number : Int) (size : Option Int)

def Value.ofInt? : Option Int → Value
  | none => .null
  | some number => .int number

theorem Value.atLeastOne_int (number : Int) :
    (Value.int number).atLeastOne = .ok (.whole (max number 1)) := by
  rw [atLeastOne, number?]
  by_cases hnumber : number < 1
  · have hbelow : (Number.whole number).below (.whole 1) = true := decide_eq_true hnumber
    rw [max_eq_right (Int.le_of_lt hnumber)]
    exact congrArg Except.ok (if_pos hbelow)
  · have hbelow : (Number.whole number).below (.whole 1) = false := decide_eq_false hnumber
    rw [max_eq_left (Int.not_lt.1 hnumber)]
    exact congrArg Except.ok (if_neg (Bool.eq_false_iff.1 hbelow))

namespace Windowing

variable {κ σ : Type}

def edit : Windowing → Edit
  | limit height offset => .limit (.int height) (.ofInt? offset)
  | page number size => .page (.int number) (.ofInt? size)

def call : Windowing → Call κ σ
  | limit height offset => .limit (.int height) (.ofInt? offset)
  | page number size => .page (.int number) (.ofInt? size)

def height (options : Options) : Windowing → Int
  | limit height _ => height
  | page _ size => size.getD options.pageSize

/-- How many rows lie before the window, if it says so: before a page there are all the pages in
front of it. -/
def offset (options : Options) : Windowing → Option Int
  | limit _ offset => offset
  | page number size => some (size.getD options.pageSize * (max number 1 - 1))

def made (windowing : Windowing) (query : Query) : Query :=
  query.setLimit (.int (windowing.height query.options))
    (.ofInt? (windowing.offset query.options))

theorem change_edit (windowing : Windowing) (query : Query) :
    windowing.edit.change query = .ok (windowing.made query) := by
  cases windowing with
  | limit height offset => rfl
  | page number size =>
      cases size with
      | none =>
          simp only [edit, Edit.change, Value.ofInt?, Query.setPage, Value.atLeastOne_int]
          rfl
      | some size =>
          simp only [edit, Edit.change, Value.ofInt?, Query.setPage, Value.atLeastOne_int]
          rfl

theorem description?_call (windowing : Windowing) :
    (windowing.call : Call κ σ).description? = some (.plain windowing.edit) := by
  cases windowing with
  | limit height offset => rfl
  | page number size => rfl

end Windowing

/-! ### The last call decides -/

namespace Query

theorem setLimit_setLimit (query : Query) (height offset lastHeight lastOffset : Value) :
    (query.setLimit height offset).setLimit lastHeight lastOffset =
      query.setLimit lastHeight lastOffset := by
  simp only [setLimit, add, reset, Blueprint.add, Blueprint.reset, Blueprint.replace,
    Assoc.place_place]

theorem fragments_setLimit (query : Query) (height offset : Value) :
    (query.setLimit height offset).blueprint.fragments .limit =
      [Fragment.of [("limit", height), ("offset", offset)]] := by
  simp [setLimit]

end Query

namespace Windowing

theorem made_made (windowing before : Windowing) (query : Query) :
    windowing.made (before.made query) = windowing.made query :=
  query.setLimit_setLimit _ _ _ _

section Connections

variable {κ σ : Type} [Connection κ] {session : Session κ σ} {id : Nat} {query : Query}

def operation (windowing : Windowing) : Operation κ σ :=
  .call windowing.call

theorem play_operation (windowing : Windowing) (hquery : session.store.queries[id]? = some query) :
    play (windowing.operation.run id) session =
      (.ok (), session.withQuery id (windowing.made query)) := by
  have hrun : play ((Description.plain windowing.edit).run id) session =
      (.ok ⟨⟩, session.withQuery id (windowing.made query)) :=
    play_attempt hquery (windowing.change_edit query)
  rw [operation, Operation.run, discard_eq, Call.run_eq windowing.description?_call, Call.fluent,
    bind_assoc, play_bind_ok hrun]
  rfl

omit [Connection κ] in
theorem withQuery_withQuery (session : Session κ σ) (id : Nat) (first second : Query) :
    (session.withQuery id first).withQuery id second = session.withQuery id second := by
  simp only [withQuery, Store.set, Array.setIfInBounds_setIfInBounds]

theorem after_concat (hquery : session.store.queries[id]? = some query)
    (before : List Windowing) (last : Windowing) :
    session.after id ((before ++ [last]).map operation) =
      session.withQuery id (last.made query) := by
  induction before generalizing session query with
  | nil =>
      rw [List.nil_append, List.map_singleton, Session.after, List.foldl_cons, List.foldl_nil,
        play_operation last hquery]
  | cons first rest ih =>
      have hfirst := queries_withQuery hquery (first.made query)
      rw [List.cons_append, List.map_cons, Session.after, List.foldl_cons,
        play_operation first hquery]
      exact (ih hfirst).trans (by rw [made_made, withQuery_withQuery])

theorem after_single (hquery : session.store.queries[id]? = some query) (last : Windowing) :
    session.after id [last.operation] = session.withQuery id (last.made query) :=
  after_concat hquery [] last

end Connections

end Windowing

/-! ### The text of a window -/

theorem Statement.windowNumber_int (number : Int) :
    windowNumber (.int number) =
      if number.natAbs < Decimal.tenTo Decimal.digitLimit then .ok (toString number)
      else .error .badValue :=
  windowNumber_eq rfl

/-- What the clause of the window of a query is compiled to. -/
def Store.limitClause (store : Store) (query : Query) : Except Error String :=
  Compiled.sql <$> query.compiler.compilePart store.scope "LIMIT"
    (store.snapshot query.blueprint) (.clause .limit)

theorem Store.limitClause_eq (store : Store) {query : Query} {fragment : Fragment}
    (h : query.blueprint.fragments .limit = [fragment]) :
    store.limitClause query = ("LIMIT " ++ ·) <$> Statement.window fragment := by
  have hfirst : (store.snapshot query.blueprint).blueprint.first? .limit = some fragment :=
    congrArg List.head? h
  rw [limitClause, Compiler.compilePart, Compiler.partTokens, Statement.limits, hfirst]
  dsimp only
  cases hwindow : Statement.window fragment with
  | error cause => rfl
  | ok text =>
      have hshown := (Statement.ends_windowText hwindow).2
      have hclause : (query.compiler.finish (Tokens.headed "LIMIT" [.literal text])).sql =
          "LIMIT " ++ text := by
        rw [Tokens.headed_window hshown, Compiler.finish, Tokens.windowPiece]
        simp [Token.render]
      exact congrArg Except.ok hclause

namespace Windowing

/-- The numbers of the window as they are written. -/
def text (options : Options) (windowing : Windowing) : String :=
  match windowing.offset options with
  | none => toString (windowing.height options)
  | some offset => toString offset ++ ", " ++ toString (windowing.height options)

/-- The numbers of the window are short enough to be written. -/
def Written (options : Options) (windowing : Windowing) : Prop :=
  (∀ offset, windowing.offset options = some offset →
    offset.natAbs < Decimal.tenTo Decimal.digitLimit) ∧
  (windowing.height options).natAbs < Decimal.tenTo Decimal.digitLimit

def fragment (options : Options) (windowing : Windowing) : Fragment :=
  .of [("limit", .int (windowing.height options)), ("offset", .ofInt? (windowing.offset options))]

variable {windowing : Windowing} {options : Options}

theorem window_eq (windowing : Windowing) (options : Options) :
    Statement.window (windowing.fragment options) =
      match windowing.offset options with
      | none => Statement.windowNumber (.int (windowing.height options))
      | some offset => do
          let start ← Statement.windowNumber (.int offset)
          let count ← Statement.windowNumber (.int (windowing.height options))
          return start ++ ", " ++ count := by
  have hlimit : (windowing.fragment options).read "limit" = .int (windowing.height options) := rfl
  have hstart : (windowing.fragment options).read "offset" =
    .ofInt? (windowing.offset options) := rfl
  rw [Statement.window, hlimit, hstart]
  cases windowing.offset options with
  | none => rfl
  | some offset => rfl

theorem window_fragment (h : windowing.Written options) :
    Statement.window (windowing.fragment options) = .ok (windowing.text options) := by
  obtain ⟨hoffset, hheight⟩ := h
  have hcount := (Statement.windowNumber_int (windowing.height options)).trans (if_pos hheight)
  rw [window_eq, text]
  cases hcase : windowing.offset options with
  | none => exact hcount
  | some offset =>
      have hwritten := (Statement.windowNumber_int offset).trans (if_pos (hoffset offset hcase))
      simp only [hwritten, hcount, ok_bind]
      rfl

theorem window_fragment_long (h : ¬ windowing.Written options) :
    Statement.window (windowing.fragment options) = .error .badValue := by
  have hcount := Statement.windowNumber_int (windowing.height options)
  rw [Written, not_and] at h
  rw [window_eq]
  cases hcase : windowing.offset options with
  | none =>
      have hnone : ∀ offset, windowing.offset options = some offset →
          offset.natAbs < Decimal.tenTo Decimal.digitLimit := by
        intro offset hsome
        cases hcase.symm.trans hsome
      exact hcount.trans (if_neg (h hnone))
  | some offset =>
      have hwritten := Statement.windowNumber_int offset
      by_cases hoffset : offset.natAbs < Decimal.tenTo Decimal.digitLimit
      · have hsome : ∀ other, windowing.offset options = some other →
            other.natAbs < Decimal.tenTo Decimal.digitLimit := by
          intro other hother
          obtain rfl := Option.some.inj (hcase.symm.trans hother)
          exact hoffset
        rw [if_pos hoffset] at hwritten
        rw [if_neg (h hsome)] at hcount
        simp only [hwritten, hcount, ok_bind, error_bind]
      · rw [if_neg hoffset] at hwritten
        simp only [hwritten, error_bind]

end Windowing

/-! ### Windows that are read back -/

namespace Window

/-- The natural number that some characters write. -/
def number? (characters : List Char) : Option Nat := do
  (← Decimal.readInteger? (String.ofList characters)).toNat?

/-- The window that a text writes: two numbers with a comma between them, or a single one. -/
def read? (text : String) : Option Window :=
  let first := text.toList.takeWhile (· != ',')
  match text.toList.dropWhile (· != ',') with
  | [] => return ⟨none, ← number? first⟩
  | _ :: second => return ⟨some (← number? first), ← number? second⟩

/-- The window that a clause writes behind its keyword. -/
def ofClause? (clause : String) : Option Window := do
  read? (String.ofList (← clause.toList.dropPrefix? "LIMIT ".toList))

/-- The numbers of a window are short enough to be written. -/
def Short (window : Window) : Prop :=
  (∀ offset, window.offset = some offset → offset < Decimal.tenTo Decimal.digitLimit) ∧
    window.count < Decimal.tenTo Decimal.digitLimit

theorem short_of_lt {offset count : Nat} (hoffset : offset < Decimal.tenTo Decimal.digitLimit)
    (hcount : count < Decimal.tenTo Decimal.digitLimit) : Short ⟨some offset, count⟩ := by
  refine ⟨fun other hother => ?_, hcount⟩
  obtain rfl := Option.some.inj hother
  exact hoffset

theorem number?_toDigits {number : Nat} (h : number < Decimal.tenTo Decimal.digitLimit) :
    number? (Nat.toDigits 10 number) = some number ∧
      number? (' ' :: Nat.toDigits 10 number) = some number := by
  have hread := Decimal.readInteger?_digits h
  have hspace : Decimal.readInteger? (String.ofList (' ' :: Nat.toDigits 10 number)) =
      some (number : Int) := by
    rw [← hread, Decimal.readInteger?, Decimal.readInteger?, String.toList_ofList,
      String.toList_ofList, Text.stripped_space]
  exact ⟨by rw [number?, hread]; rfl, by rw [number?, hspace]; rfl⟩

theorem read?_text {window : Window} (h : window.Short) : read? window.text = some window := by
  obtain ⟨offset, count⟩ := window
  obtain ⟨hoffset, hcount⟩ := h
  have hdigits : ∀ number : Nat, ∀ c ∈ Nat.toDigits 10 number, (c != ',') = true := by
    intro number c hc
    refine bne_iff_ne.2 fun hcomma => ?_
    have hdigit := Nat.isDigit_of_mem_toDigits (by decide) (by decide) hc
    rw [hcomma] at hdigit
    cases hdigit
  cases offset with
  | none =>
      have htext : (text ⟨none, count⟩).toList = Nat.toDigits 10 count := Nat.toList_repr
      rw [read?, htext, List.takeWhile_eq_self_iff.2 (hdigits count),
        List.dropWhile_eq_nil_iff.2 (hdigits count)]
      simp only [(number?_toDigits hcount).1]
      rfl
  | some start =>
      have htext : (text ⟨some start, count⟩).toList =
          Nat.toDigits 10 start ++ ',' :: ' ' :: Nat.toDigits 10 count := by
        have hparts : text ⟨some start, count⟩ = toString start ++ ", " ++ toString count := rfl
        rw [hparts, String.toList_append, String.toList_append, List.append_assoc]
        exact congrArg₂ (· ++ ',' :: ' ' :: ·) Nat.toList_repr Nat.toList_repr
      have hcomma : (',' != ',') = false := rfl
      rw [read?, htext, List.takeWhile_append_of_pos (hdigits start),
        List.dropWhile_append_of_pos (hdigits start), List.takeWhile_cons, List.dropWhile_cons,
        hcomma]
      simp only [(number?_toDigits (hoffset start rfl)).1, (number?_toDigits hcount).2,
        Bool.false_eq_true, if_false, List.append_nil]
      rfl

theorem ofClause?_text {window : Window} (h : window.Short) :
    ofClause? ("LIMIT " ++ window.text) = some window := by
  have hbehind : ("LIMIT " ++ window.text).toList.dropPrefix? "LIMIT ".toList =
      some window.text.toList := by
    rw [String.toList_append]
    exact List.dropPrefix?_eq_some_iff.2 ⟨_, rfl, BEq.rfl⟩
  rw [ofClause?, hbehind, Option.bind_eq_bind, Option.bind_some, String.ofList_toList,
    read?_text h]

end Window

/-! ### Pages -/

namespace Windowing

variable {options : Options} {size : Option Int} {rows : Nat}

/-- The number of a page tells how many pages are before it. -/
theorem exists_before {number : Int} (h : 1 ≤ number) : ∃ before : Nat, number = before + 1 :=
  ⟨(number - 1).toNat, by omega⟩

theorem page_eq (h : size.getD options.pageSize = (rows : Int)) (before : Nat) :
    (page (before + 1) size).height options = (rows : Int) ∧
      (page (before + 1) size).offset options = some ((rows * before : Nat) : Int) := by
  have hmax : max ((before : Int) + 1) 1 - 1 = before := by
    rw [max_eq_left (by omega), Int.add_sub_cancel]
  refine ⟨h, ?_⟩
  rw [offset, h, hmax, Int.natCast_mul]

theorem written_page (h : size.getD options.pageSize = (rows : Int)) (before : Nat) :
    (page (before + 1) size).Written options ↔ Window.Short ⟨some (rows * before), rows⟩ := by
  obtain ⟨hheight, hoffset⟩ := page_eq h before
  rw [Written, hheight, hoffset]
  simp only [Window.Short, Option.some.injEq, forall_eq', Int.natAbs_natCast]

theorem text_page (h : size.getD options.pageSize = (rows : Int)) (before : Nat) :
    (page (before + 1) size).text options = Window.text ⟨some (rows * before), rows⟩ := by
  obtain ⟨hheight, hoffset⟩ := page_eq h before
  rw [text, hheight, hoffset]
  rfl

/-- There is no page before the first. -/
theorem made_page_of_le {number : Int} (h : number ≤ 1) (query : Query) :
    (page number size).made query = (page 1 size).made query := by
  have hoffset : (page number size).offset query.options = (page 1 size).offset query.options := by
    rw [offset, offset, max_eq_right h, max_self]
  rw [made, made, hoffset]
  rfl

end Windowing

namespace Session

section Connections

variable {κ σ : Type} [Connection κ]

/-- The session after a page has been asked for. -/
def paged (session : Session κ σ) (id : Nat) (number : Int) (size : Option Int) : Session κ σ :=
  session.after id [(Windowing.page number size).operation]

omit [Connection κ] in
/-- What the clause of the window of a query is compiled to. -/
def limitClause (session : Session κ σ) (id : Nat) : Except Error String :=
  match session.store.queries[id]? with
  | some query => session.store.limitClause query
  | none => .error .noAttribute

omit [Connection κ] in
/-- The window of a query as it is read back from its clause. -/
def window? (session : Session κ σ) (id : Nat) : Option Window := do
  Window.ofClause? (← (session.limitClause id).toOption)

omit [Connection κ] in
/-- A row can be seen through the window of a query. -/
def Shows (session : Session κ σ) (id row : Nat) : Prop :=
  ∃ window, session.window? id = some window ∧
    window.offset.getD 0 ≤ row ∧ row < window.offset.getD 0 + window.count

/-- The pages of a size lie side by side and cover all rows, as far as their numbers are short
enough to be written. -/
structure Tiles (session : Session κ σ) (id : Nat) (size : Option Int) (rows : Nat) : Prop where
  covered : ∀ row, Window.Short ⟨some (rows * (row / rows)), rows⟩ →
    ∃! number : Int, 1 ≤ number ∧ (session.paged id number size).Shows id row
  adjacent : ∀ number, 1 ≤ number → ∀ window next : Window,
    (session.paged id number size).window? id = some window →
    (session.paged id (number + 1) size).window? id = some next →
    next.offset = some (window.offset.getD 0 + window.count)
  begins : rows < Decimal.tenTo Decimal.digitLimit →
    (session.paged id 1 size).window? id = some ⟨some 0, rows⟩
  first : ∀ number, number ≤ 1 → session.paged id number size = session.paged id 1 size

variable {session : Session κ σ} {id : Nat} {query : Query} {size : Option Int} {rows : Nat}

theorem limitClause_after (hquery : session.store.queries[id]? = some query)
    (windowing : Windowing) :
    (session.after id [windowing.operation]).limitClause id =
      ("LIMIT " ++ ·) <$> Statement.window (windowing.fragment query.options) := by
  rw [Windowing.after_single hquery, limitClause, queries_withQuery hquery]
  exact Store.limitClause_eq _ (query.fragments_setLimit _ _)

theorem window?_paged (hquery : session.store.queries[id]? = some query)
    (hsize : size.getD query.options.pageSize = (rows : Int)) (before : Nat) :
    (Window.Short ⟨some (rows * before), rows⟩ →
      (session.paged id (before + 1) size).window? id = some ⟨some (rows * before), rows⟩) ∧
    (¬ Window.Short ⟨some (rows * before), rows⟩ →
      (session.paged id (before + 1) size).window? id = none) := by
  rw [window?, paged, limitClause_after hquery]
  constructor
  · intro hshort
    rw [Windowing.window_fragment ((Windowing.written_page hsize before).2 hshort),
      Windowing.text_page hsize]
    change (some ("LIMIT " ++ Window.text _) >>= Window.ofClause?) = _
    rw [Option.bind_eq_bind, Option.bind_some, Window.ofClause?_text hshort]
  · intro hlong
    rw [Windowing.window_fragment_long fun hwritten =>
      hlong ((Windowing.written_page hsize before).1 hwritten)]
    rfl

/-- What is seen of a page is where the page is, and then its numbers are short. -/
theorem of_window?_paged (hquery : session.store.queries[id]? = some query)
    (hsize : size.getD query.options.pageSize = (rows : Int)) {before : Nat} {window : Window}
    (h : (session.paged id (before + 1) size).window? id = some window) :
    window = ⟨some (rows * before), rows⟩ ∧ Window.Short ⟨some (rows * before), rows⟩ := by
  obtain ⟨hshown, hhidden⟩ := window?_paged hquery hsize before
  by_cases hshort : Window.Short ⟨some (rows * before), rows⟩
  · exact ⟨Option.some.inj (h.symm.trans (hshown hshort)), hshort⟩
  · cases (hhidden hshort).symm.trans h

theorem tiles (hquery : session.store.queries[id]? = some query)
    (hsize : size.getD query.options.pageSize = (rows : Int)) (hrows : 1 ≤ rows) :
    session.Tiles id size rows where
  covered row hshort := by
    have hfirst : (1 : Int) ≤ (row / rows : Nat) + 1 :=
      Int.le_add_of_nonneg_left (Int.natCast_nonneg _)
    refine ⟨_, ⟨hfirst, _, (window?_paged hquery hsize _).1 hshort, ?_⟩, ?_⟩
    · exact ⟨Nat.mul_div_le row rows, Nat.lt_mul_div_succ row hrows⟩
    · rintro number ⟨hnumber, window, hwindow, hlow, hhigh⟩
      obtain ⟨before, rfl⟩ := Windowing.exists_before hnumber
      obtain ⟨rfl, -⟩ := of_window?_paged hquery hsize hwindow
      rw [Nat.div_eq_of_lt_le (Nat.mul_comm rows before ▸ hlow)
        (by rw [Nat.succ_mul, Nat.mul_comm]; exact hhigh)]
  adjacent number hnumber window next hwindow hnext := by
    obtain ⟨before, rfl⟩ := Windowing.exists_before hnumber
    have hsecond : ((before : Int) + 1 + 1) = ((before + 1 : Nat) : Int) + 1 := by omega
    rw [hsecond] at hnext
    obtain ⟨rfl, -⟩ := of_window?_paged hquery hsize hwindow
    obtain ⟨rfl, -⟩ := of_window?_paged hquery hsize hnext
    exact congrArg some (Nat.mul_succ rows before)
  begins hshort :=
    (window?_paged hquery hsize 0).1 (Window.short_of_lt (Nat.zero_lt_of_lt hshort) hshort)
  first number hnumber := by
    rw [paged, paged, Windowing.after_single hquery, Windowing.after_single hquery,
      Windowing.made_page_of_le hnumber]

/-- Of all calls that set the window of a query the last one decides, so that the query has one
window at most. Its clause is compiled to the numbers of the window as they are given, an offset of
zero included, if they are short enough to be written. The pages of a size tile all rows whose pages
have such numbers. -/
theorem pages_tile (hquery : session.store.queries[id]? = some query) :
    (∀ (before : List Windowing) (last : Windowing),
      session.after id ((before ++ [last]).map Windowing.operation) =
        session.after id [last.operation]) ∧
    ((query.blueprint.fragments .limit).length ≤ 1 → ∀ windowings : List Windowing,
      ∃ changed, (session.after id (windowings.map Windowing.operation)).store.queries[id]? =
          some changed ∧ (changed.blueprint.fragments .limit).length ≤ 1) ∧
    (∀ last : Windowing,
      (last.Written query.options → (session.after id [last.operation]).limitClause id =
        .ok ("LIMIT " ++ last.text query.options)) ∧
      (¬ last.Written query.options →
        (session.after id [last.operation]).limitClause id = .error .badValue)) ∧
    (∀ height : Int, height.natAbs < Decimal.tenTo Decimal.digitLimit →
      (session.after id [(Windowing.limit height (some 0)).operation]).limitClause id =
        .ok ("LIMIT " ++ ("0, " ++ toString height))) ∧
    (∀ (size : Option Int) (rows : Nat), size.getD query.options.pageSize = (rows : Int) →
      1 ≤ rows → session.Tiles id size rows) := by
  refine ⟨fun before last => ?_, fun hfew windowings => ?_,
    fun last => ⟨fun hwritten => ?_, fun hlong => ?_⟩,
    fun height hheight => ?_, fun size rows hsize hrows => tiles hquery hsize hrows⟩
  · rw [Windowing.after_concat hquery, Windowing.after_single hquery]
  · rcases List.eq_nil_or_concat windowings with rfl | ⟨before, last, rfl⟩
    · exact ⟨query, hquery, hfew⟩
    · refine ⟨last.made query, ?_, ?_⟩
      · rw [List.concat_eq_append, Windowing.after_concat hquery, queries_withQuery hquery]
      · exact Nat.le_of_eq (congrArg List.length (query.fragments_setLimit _ _))
  · rw [limitClause_after hquery, Windowing.window_fragment hwritten]
    rfl
  · rw [limitClause_after hquery, Windowing.window_fragment_long hlong]
    rfl
  · have hwritten : (Windowing.limit height (some 0)).Written query.options :=
      ⟨fun _ hoffset => Option.some.inj hoffset ▸ Nat.zero_lt_of_lt hheight, hheight⟩
    rw [limitClause_after hquery, Windowing.window_fragment hwritten]
    rfl

end Connections

def tabled : Session RecordingConnection Unit :=
  (Session.start ()).withAdded
    ((Query.new 0 .mysql Options.standard).setTable (.text "t") (.text ""))

theorem pages_tile_tabled :
    (tabled.after 0 ([Windowing.limit 5 none, .page 2 (some 10)].map
        Windowing.operation)).limitClause 0 = .ok "LIMIT 10, 10" ∧
      (∃ changed : Query, (tabled.after 0 ([Windowing.limit 5 none, .limit 6 none].map
          Windowing.operation)).store.queries[0]? = some changed ∧
        (changed.blueprint.fragments .limit).length ≤ 1) ∧
      ∃! number : Int, 1 ≤ number ∧ (tabled.paged 0 number (some 10)).Shows 0 25 := by
  obtain ⟨hlast, hfew, hclause, -, htiles⟩ :=
    pages_tile (show tabled.store.queries[0]? = some _ from rfl)
  have hten : 10 < Decimal.tenTo Decimal.digitLimit := by decide +kernel
  have htwenty : 20 < Decimal.tenTo Decimal.digitLimit := by decide +kernel
  refine ⟨?_, hfew (Nat.zero_le 1) _, ?_⟩
  · refine (congrArg (limitClause · 0) (hlast [.limit 5 none] (.page 2 (some 10)))).trans ?_
    exact (hclause (.page 2 (some 10))).1
      ((Windowing.written_page rfl 1).2 (Window.short_of_lt hten hten))
  · exact (htiles (some 10) 10 rfl (by decide)).covered 25 (Window.short_of_lt htwenty hten)

/-- A number of more digits than can be written is the offset of a page all the same. -/
theorem long_pages_do_not_tile :
    ¬ ∀ (session : Session RecordingConnection Unit) (id : Nat) (query : Query) (size : Int)
        (row : Nat), session.store.queries[id]? = some query → 1 ≤ size →
      ∃! number : Int, 1 ≤ number ∧ (session.paged id number (some size)).Shows id row := by
  intro h
  have hdigits : Decimal.digitLimit = 2150 + 2150 := by rw [Decimal.digitLimit]
  obtain ⟨rows, hrows, hsquare⟩ : ∃ rows, 1 ≤ rows ∧
      Decimal.tenTo Decimal.digitLimit = rows * rows :=
    ⟨Decimal.tenTo 2150, Decimal.tenTo_pos 2150,
      (congrArg Decimal.tenTo hdigits).trans (Decimal.tenTo_add 2150 2150)⟩
  obtain ⟨number, ⟨hnumber, window, hwindow, hlow, hhigh⟩, -⟩ :=
    h tabled 0 _ rows (rows * rows) rfl (Int.ofNat_le.2 hrows)
  obtain ⟨before, rfl⟩ := Windowing.exists_before hnumber
  obtain ⟨rfl, hshort, -⟩ := of_window?_paged (show tabled.store.queries[0]? = some _ from rfl) rfl
    hwindow
  -- The row is the first of its page, so that the offset of the page is the row itself.
  have hoffset : rows * before < rows * rows := hsquare ▸ hshort _ rfl
  have hlast : rows ≤ before :=
    Nat.lt_succ_iff.1 (Nat.lt_of_mul_lt_mul_left (Nat.mul_succ rows before ▸ hhigh))
  exact Nat.not_lt.2 hlast (Nat.lt_of_mul_lt_mul_left hoffset)

end Session

end SqlBuilder
