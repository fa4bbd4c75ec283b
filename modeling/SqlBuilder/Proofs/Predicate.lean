import SqlBuilder.Identifier
import SqlBuilder.Value
import Mathlib.Data.List.Basic

/-!
# Predicates and how they are read back

A predicate is a tree: comparisons of a column with a value, a list of values or another column, and
groups of predicates, each with the keyword that joins it to the one before it. A tree with an empty
group, an empty path or an unknown keyword cannot be built. The text of a level begins without its
first keyword, and the values stand beside the text. Reading goes from the left and never has to
look back: what a predicate begins with tells a group from a comparison, what stands behind an
operator tells a value, a list and a column apart, and a quotation ends at the first mark that is
not doubled.
-/

namespace SqlBuilder

inductive Operator where
  | equal
  | unequal
  | different
  | less
  | greater
  | atMost
  | atLeast
  | like
  | notLike
  | isIn
  | notIn
deriving DecidableEq

namespace Operator

def all : List Operator :=
  [equal, unequal, different, less, greater, atMost, atLeast, like, notLike, isIn, notIn]

def characters : Operator → List Char
  | equal => ['=']
  | unequal => ['!', '=']
  | different => ['<', '>']
  | less => ['<']
  | greater => ['>']
  | atMost => ['<', '=']
  | atLeast => ['>', '=']
  | like => ['L', 'I', 'K', 'E']
  | notLike => ['N', 'O', 'T', ' ', 'L', 'I', 'K', 'E']
  | isIn => ['I', 'N']
  | notIn => ['N', 'O', 'T', ' ', 'I', 'N']

def text (operator : Operator) : String :=
  String.ofList operator.characters

end Operator

structure Path where
  text : String
  nonempty : text ≠ ""

/-- One of the two keywords that join predicates, spelled in any mixture of small letters and
capitals. -/
structure Keyword where
  spelling : String
  known : Text.upper spelling = "AND" ∨ Text.upper spelling = "OR"

/-- Whether a value is bound as a whole: it is neither written into the statement nor a
collection. -/
def Value.isSingle : Value → Bool
  | argument .. | list _ | tuple _ | set _ | frozenset _ => false
  | _ => true

/-- The right side of a comparison. -/
inductive Comparand where
  | single (value : Value) (isSingle : value.isSingle = true)
  | items (first : Value) (rest : List Value)
  | column (path : Path)

inductive Predicate where
  | comparison (keyword : Keyword) (column : Path) (operator : Operator) (comparand : Comparand)
  | group (keyword : Keyword) (first : Predicate) (rest : List Predicate)

namespace Keyword

def and : Keyword :=
  ⟨"AND", by decide⟩

def or : Keyword :=
  ⟨"OR", by decide⟩

theorem spelling_and : Keyword.and.spelling.toList = ['A', 'N', 'D'] := by decide

theorem spelling_or : Keyword.or.spelling.toList = ['O', 'R'] := by decide

def capital (keyword : Keyword) : Keyword :=
  if Text.upper keyword.spelling = "AND" then .and else .or

theorem capital_cases (keyword : Keyword) : keyword.capital = .and ∨ keyword.capital = .or := by
  rw [capital]
  split
  · exact .inl rfl
  · exact .inr rfl

theorem spelling_capital (keyword : Keyword) :
    keyword.capital.spelling = Text.upper keyword.spelling := by
  rw [capital]
  split
  · next h => rw [h, and]
  · next h =>
      have hor := keyword.known.resolve_left h
      rw [hor, or]

@[simp] theorem capital_capital (keyword : Keyword) :
    keyword.capital.capital = keyword.capital := by
  rcases capital_cases keyword with h | h
  · rw [h]
    exact if_pos (by decide)
  · rw [h]
    exact if_neg (by decide)

end Keyword

namespace Predicate

def keyword : Predicate → Keyword
  | comparison keyword _ _ _ | group keyword _ _ => keyword

def withKeyword (keyword : Keyword) : Predicate → Predicate
  | comparison _ column operator comparand => comparison keyword column operator comparand
  | group _ first rest => group keyword first rest

mutual

/-- The tree as it is kept: keywords are in capitals, and the first predicate of a group, of whose
keyword nothing is written, has the keyword AND. -/
def normal : Predicate → Predicate
  | comparison keyword column operator comparand =>
      comparison keyword.capital column operator comparand
  | group keyword first rest =>
      group keyword.capital (first.normal.withKeyword .and) (normals rest)

def normals : List Predicate → List Predicate
  | [] => []
  | member :: rest => member.normal :: normals rest

end

end Predicate

/-- The predicates of one level, of which there is at least one. -/
structure Level where
  first : Predicate
  rest : List Predicate

def Level.normal (level : Level) : Level where
  first := level.first.normal.withKeyword .and
  rest := Predicate.normals level.rest

/-! ### The text of a level and the values beside it -/

def Path.writtenSegment (segment : List Char) : List Char :=
  if segment.isEmpty then [] else (Identifier.backtick (String.ofList segment)).toList

def Path.written (path : Path) : List Char :=
  List.intercalate ['.'] ((Identifier.segments path.text.toList).map writtenSegment)

namespace Comparand

def written : Comparand → List Char
  | single _ _ => ['?']
  | items _ rest => '(' :: '?' :: rest.flatMap (fun _ => [',', ' ', '?']) ++ [')']
  | column path => path.written

def bound : Comparand → List Value
  | single value _ => [value]
  | items first rest => first :: rest
  | column _ => []

end Comparand

namespace Predicate

mutual

def written : Predicate → List Char
  | comparison _ column operator comparand =>
      column.written ++ (' ' :: operator.characters ++ [' ']) ++ comparand.written
  | group _ first rest => '(' :: (first.written ++ writtenRest rest) ++ [')']

def writtenRest : List Predicate → List Char
  | [] => []
  | member :: rest =>
      (' ' :: member.keyword.capital.spelling.toList ++ [' ']) ++ member.written ++
        writtenRest rest

end

mutual

def bound : Predicate → List Value
  | comparison _ _ _ comparand => comparand.bound
  | group _ first rest => first.bound ++ boundRest rest

def boundRest : List Predicate → List Value
  | [] => []
  | member :: rest => member.bound ++ boundRest rest

end

end Predicate

def Level.written (level : Level) : List Char :=
  level.first.written ++ Predicate.writtenRest level.rest

def Level.bound (level : Level) : List Value :=
  level.first.bound ++ Predicate.boundRest level.rest

namespace Predicate

theorem keyword_normal (member : Predicate) : member.normal.keyword = member.keyword.capital := by
  cases member with
  | comparison keyword column operator comparand => rfl
  | group keyword first rest => rfl

theorem written_withKeyword (keyword : Keyword) (member : Predicate) :
    (member.withKeyword keyword).written = member.written := by
  cases member with
  | comparison own column operator comparand => rfl
  | group own first rest => rfl

theorem bound_withKeyword (keyword : Keyword) (member : Predicate) :
    (member.withKeyword keyword).bound = member.bound := by
  cases member with
  | comparison own column operator comparand => rfl
  | group own first rest => rfl

mutual

theorem written_normal (member : Predicate) : member.normal.written = member.written := by
  match member with
  | comparison keyword column operator comparand => rfl
  | group keyword first rest =>
      rw [normal, written, written, written_withKeyword, written_normal first,
        writtenRest_normals rest]

theorem writtenRest_normals (rest : List Predicate) :
    writtenRest (normals rest) = writtenRest rest := by
  match rest with
  | [] => rfl
  | member :: rest =>
      rw [normals, writtenRest, writtenRest, keyword_normal, Keyword.capital_capital,
        written_normal member, writtenRest_normals rest]

end

mutual

theorem bound_normal (member : Predicate) : member.normal.bound = member.bound := by
  match member with
  | comparison keyword column operator comparand => rfl
  | group keyword first rest =>
      rw [normal, bound, bound, bound_withKeyword, bound_normal first, boundRest_normals rest]

theorem boundRest_normals (rest : List Predicate) : boundRest (normals rest) = boundRest rest := by
  match rest with
  | [] => rfl
  | member :: rest =>
      rw [normals, boundRest, boundRest, bound_normal member, boundRest_normals rest]

end

end Predicate

theorem Level.written_normal (level : Level) : level.normal.written = level.written := by
  rw [normal, written, written, Predicate.written_withKeyword, Predicate.written_normal,
    Predicate.writtenRest_normals]

theorem Level.bound_normal (level : Level) : level.normal.bound = level.bound := by
  rw [normal, bound, bound, Predicate.bound_withKeyword, Predicate.bound_normal,
    Predicate.boundRest_normals]

/-! ### Reading -/

namespace Path

/-- What a path is read from and what stands behind it, inside or outside a quotation. -/
def readFrom : Bool → List Char → List Char × List Char
  | false, '\x60' :: rest => readFrom true rest
  | false, '.' :: rest => ('.' :: (readFrom false rest).1, (readFrom false rest).2)
  | false, '*' :: rest => ('*' :: (readFrom false rest).1, (readFrom false rest).2)
  | false, rest => ([], rest)
  | true, '\x60' :: '\x60' :: rest => ('\x60' :: (readFrom true rest).1, (readFrom true rest).2)
  | true, '\x60' :: rest => readFrom false rest
  | true, c :: rest => (c :: (readFrom true rest).1, (readFrom true rest).2)
  | true, [] => ([], [])

def read (cs : List Char) : Option (Path × List Char) :=
  if h : String.ofList (readFrom false cs).1 ≠ "" then
    some (⟨String.ofList (readFrom false cs).1, h⟩, (readFrom false cs).2)
  else none

/-- Whether a path ends where a text begins. -/
def EndsBefore (rest : List Char) : Prop :=
  ∀ c ∈ rest.head?, c ≠ '\x60' ∧ c ≠ '.' ∧ c ≠ '*'

theorem readFrom_of_endsBefore {rest : List Char} (h : EndsBefore rest) :
    readFrom false rest = ([], rest) := by
  cases rest with
  | nil => rfl
  | cons c rest =>
      obtain ⟨hmark, hdot, hwild⟩ := h c rfl
      rw [readFrom] <;> simp_all

theorem readFrom_doubled (cs : List Char) {rest : List Char} (h : rest.head? ≠ some '\x60') :
    readFrom true (Identifier.doubled '\x60' cs ++ '\x60' :: rest) =
      (cs ++ (readFrom false rest).1, (readFrom false rest).2) := by
  induction cs with
  | nil =>
      cases rest with
      | nil => rfl
      | cons c rest =>
          have hc : c ≠ '\x60' := by simpa using h
          simp [Identifier.doubled, readFrom, hc]
  | cons c cs ih =>
      rw [Identifier.doubled, List.flatMap_cons, ← Identifier.doubled]
      by_cases hc : c = '\x60'
      · subst hc
        simp [readFrom, ih]
      · simp [readFrom, ih, hc]

theorem readFrom_writtenSegment (segment : List Char) {rest : List Char}
    (h : rest.head? ≠ some '\x60') :
    readFrom false (writtenSegment segment ++ rest) =
      (segment ++ (readFrom false rest).1, (readFrom false rest).2) := by
  rw [writtenSegment]
  split
  · next hempty =>
      rw [List.isEmpty_iff.1 hempty]
      rfl
  · rw [Identifier.backtick]
    split
    · next hwild =>
        have hsegment : segment = ['*'] := by
          have heq : String.ofList segment = "*" := eq_of_beq hwild
          have htext := congrArg String.toList heq
          rw [String.toList_ofList] at htext
          exact htext
        rw [hsegment]
        rfl
    · rw [Identifier.enclosed, String.toList_ofList, String.toList_ofList]
      simp only [List.cons_append, List.append_assoc, List.nil_append]
      rw [readFrom, readFrom_doubled segment h]

theorem readFrom_intercalate (segments : List (List Char)) {rest : List Char}
    (h : EndsBefore rest) :
    readFrom false (List.intercalate ['.'] (segments.map writtenSegment) ++ rest) =
      (List.intercalate ['.'] segments, rest) := by
  induction segments with
  | nil => exact readFrom_of_endsBefore h
  | cons segment others ih =>
      cases others with
      | nil =>
          have hrest : rest.head? ≠ some '\x60' := fun hmark => (h _ hmark).1 rfl
          simp [List.intercalate, readFrom_writtenSegment segment hrest,
            readFrom_of_endsBefore h]
      | cons next others =>
          have hsplit : List.intercalate ['.'] ((segment :: next :: others).map writtenSegment) ++
              rest = writtenSegment segment ++ ('.' ::
                (List.intercalate ['.'] ((next :: others).map writtenSegment) ++ rest)) := by
            simp [List.intercalate]
          rw [hsplit, readFrom_writtenSegment segment (by simp), readFrom, ih]
          simp [List.intercalate]

theorem read_written (path : Path) {rest : List Char} (h : EndsBefore rest) :
    read (path.written ++ rest) = some (path, rest) := by
  have hread : readFrom false (path.written ++ rest) = (path.text.toList, rest) := by
    rw [written, readFrom_intercalate _ h, Identifier.intercalate_segments]
  simp [read, hread, path.nonempty]

/-- A path begins with a quotation, a dot or the wildcard. -/
theorem written_eq_cons (path : Path) :
    ∃ c rest, path.written = c :: rest ∧ (c = '\x60' ∨ c = '.' ∨ c = '*') := by
  have hread : readFrom false path.written = (path.text.toList, []) := by
    have hend : EndsBefore [] := by simp [EndsBefore]
    have happend := readFrom_intercalate (Identifier.segments path.text.toList) hend
    rwa [List.append_nil, Identifier.intercalate_segments] at happend
  have hbegins : ¬ EndsBefore path.written := by
    intro hend
    rw [readFrom_of_endsBefore hend] at hread
    have hempty : path.text.toList = [] := (Prod.mk.inj hread).1.symm
    exact path.nonempty (String.toList_eq_nil_iff.1 hempty)
  simp only [EndsBefore, not_forall] at hbegins
  obtain ⟨c, hc, hclass⟩ := hbegins
  obtain ⟨rest, hrest⟩ := List.head?_eq_some_iff.1 hc
  refine ⟨c, rest, hrest, ?_⟩
  by_contra hother
  exact hclass (by simpa [not_or] using hother)

end Path

namespace Operator

/-- The operator that a text begins with, between blanks, and what stands behind it. -/
def read (cs : List Char) : Option (Operator × List Char) :=
  all.findSome? fun operator =>
    (cs.dropPrefix? (' ' :: operator.characters ++ [' '])).map fun rest =>
      (operator, rest)

theorem read_written (operator : Operator) (rest : List Char) :
    read ((' ' :: operator.characters ++ [' ']) ++ rest) = some (operator, rest) := by
  cases operator <;> simp [read, all, characters, List.dropPrefix?]

end Operator

namespace Keyword

/-- The keyword that a text begins with, between blanks, and what stands behind it. -/
def read : List Char → Option (Keyword × List Char)
  | ' ' :: 'A' :: 'N' :: 'D' :: ' ' :: rest => some (.and, rest)
  | ' ' :: 'O' :: 'R' :: ' ' :: rest => some (.or, rest)
  | _ => none

theorem read_written (keyword : Keyword) (rest : List Char) :
    read ((' ' :: keyword.capital.spelling.toList ++ [' ']) ++ rest) =
      some (keyword.capital, rest) := by
  rcases capital_cases keyword with h | h
  · rw [h, spelling_and]
    rfl
  · rw [h, spelling_or]
    rfl

end Keyword

namespace Comparand

def readItems : List Char → List Value → Option (List Value × List Char × List Value)
  | ',' :: ' ' :: '?' :: cs, value :: values => do
      let (others, cs, values) ← readItems cs values
      return (value :: others, cs, values)
  | ')' :: cs, values => some ([], cs, values)
  | _, _ => none

def read : List Char → List Value → Option (Comparand × List Char × List Value)
  | '?' :: cs, value :: values =>
      if h : value.isSingle = true then some (single value h, cs, values) else none
  | '(' :: '?' :: cs, value :: values => do
      let (rest, cs, values) ← readItems cs values
      return (items value rest, cs, values)
  | cs, values => do
      let (path, cs) ← Path.read cs
      return (column path, cs, values)

theorem readItems_written (items : List Value) (cs : List Char) (values : List Value) :
    readItems (items.flatMap (fun _ => [',', ' ', '?']) ++ (')' :: cs)) (items ++ values) =
      some (items, cs, values) := by
  induction items with
  | nil => rfl
  | cons value rest ih =>
      simp [readItems, ih]

theorem read_written (comparand : Comparand) {cs : List Char} (h : Path.EndsBefore cs)
    (values : List Value) :
    read (comparand.written ++ cs) (comparand.bound ++ values) = some (comparand, cs, values) := by
  cases comparand with
  | single value hsingle => simp [written, bound, read, hsingle]
  | items first rest => simp [written, bound, read, readItems_written]
  | column path =>
      obtain ⟨c, rest, hwritten, hc⟩ := path.written_eq_cons
      have hread := path.read_written h
      have hcolumn : read (path.written ++ cs) values =
          (do
            let (path, cs) ← Path.read (path.written ++ cs)
            return (column path, cs, values)) := by
        rw [hwritten]
        rw [read]
        · rintro rest value values hcons rfl
          rcases hc with rfl | rfl | rfl <;> cases hcons
        · rintro rest value values hcons rfl
          rcases hc with rfl | rfl | rfl <;> cases hcons
      rw [written, bound, List.nil_append, hcolumn, hread]
      rfl

end Comparand

namespace Predicate

mutual

/-- The predicate that a text begins with, behind the given keyword. A group is read up to its
closing parenthesis; `fuel` bounds how deep the reading goes. -/
def read : Nat → Keyword → List Char → List Value → Option (Predicate × List Char × List Value)
  | 0, _, _, _ => none
  | fuel + 1, keyword, '(' :: cs, values => do
      let (first, cs, values) ← read fuel .and cs values
      let (rest, cs, values) ← readRest fuel cs values
      match cs with
      | ')' :: cs => return (group keyword first rest, cs, values)
      | _ => none
  | _ + 1, keyword, cs, values => do
      let (column, cs) ← Path.read cs
      let (operator, cs) ← Operator.read cs
      let (comparand, cs, values) ← Comparand.read cs values
      return (comparison keyword column operator comparand, cs, values)

def readRest : Nat → List Char → List Value → Option (List Predicate × List Char × List Value)
  | 0, _, _ => none
  | fuel + 1, cs, values =>
      match Keyword.read cs with
      | none => some ([], cs, values)
      | some (keyword, cs) => do
          let (member, cs, values) ← read fuel keyword cs values
          let (others, cs, values) ← readRest fuel cs values
          return (member :: others, cs, values)

end

theorem withKeyword_normal (member : Predicate) :
    member.normal.withKeyword member.keyword.capital = member.normal := by
  cases member with
  | comparison keyword column operator comparand => rfl
  | group keyword first rest => rfl

theorem written_ne_nil (member : Predicate) : member.written ≠ [] := by
  cases member with
  | comparison keyword column operator comparand => simp [written]
  | group keyword first rest => simp [written]

/-- What follows a predicate does not go on with it. -/
theorem endsBefore_writtenRest (rest : List Predicate) {cs : List Char} (h : Path.EndsBefore cs) :
    Path.EndsBefore (writtenRest rest ++ cs) := by
  cases rest with
  | nil => simpa [writtenRest] using h
  | cons member rest =>
      intro c hc
      have hblank : c = ' ' := by simpa [writtenRest] using hc.symm
      rw [hblank]
      decide

theorem read_comparison (fuel : Nat) (keyword own : Keyword) (column : Path) (operator : Operator)
    (comparand : Comparand) {cs : List Char} (h : Path.EndsBefore cs) (values : List Value) :
    read (fuel + 1) keyword ((comparison own column operator comparand).written ++ cs)
        (comparand.bound ++ values) =
      some (comparison keyword column operator comparand, cs, values) := by
  obtain ⟨c, rest, hwritten, hc⟩ := column.written_eq_cons
  have hend : Path.EndsBefore
      ((' ' :: operator.characters ++ [' ']) ++ (comparand.written ++ cs)) := by
    intro c hc
    have hblank : c = ' ' := by simpa using hc.symm
    rw [hblank]
    decide
  have hcolumn := column.read_written hend
  have hoperator := operator.read_written (comparand.written ++ cs)
  have hcomparand := comparand.read_written h values
  rw [written, List.append_assoc, List.append_assoc, read]
  · rw [hcolumn]
    simp only [Option.bind_eq_bind, Option.bind_some]
    rw [hoperator]
    simp only [Option.bind_some]
    rw [hcomparand]
    rfl
  · rw [hwritten]
    rintro rest hcons
    rcases hc with rfl | rfl | rfl <;> cases hcons

mutual

/-- A predicate is read back from its text and its values, whatever stands behind them. -/
theorem read_written (fuel : Nat) (keyword : Keyword) {cs : List Char} (h : Path.EndsBefore cs)
    (values : List Value) (member : Predicate) (hfuel : member.written.length ≤ fuel) :
    read fuel keyword (member.written ++ cs) (member.bound ++ values) =
      some (member.normal.withKeyword keyword, cs, values) := by
  match fuel, member with
  | 0, member =>
      have hnil := List.length_eq_zero_iff.1 (Nat.le_zero.1 hfuel)
      exact absurd hnil member.written_ne_nil
  | fuel + 1, comparison own column operator comparand =>
      exact read_comparison fuel keyword own column operator comparand h values
  | fuel + 1, group own first rest =>
      have hlength : first.written.length + (writtenRest rest).length + 1 ≤ fuel := by
        simp only [written, List.cons_append, List.length_cons, List.length_append,
          List.length_nil] at hfuel
        omega
      have hclose : Path.EndsBefore (')' :: cs) := by
        intro c hc
        obtain rfl : ')' = c := by simpa using hc
        decide
      have hfirst := read_written fuel .and (endsBefore_writtenRest rest hclose)
        (boundRest rest ++ values) first (by omega)
      have hrest := readRest_written fuel hclose rfl values rest (by omega)
      have hwritten : (group own first rest).written ++ cs =
          '(' :: (first.written ++ (writtenRest rest ++ ')' :: cs)) := by
        simp [written]
      rw [hwritten, bound, List.append_assoc, read, hfirst]
      simp only [Option.bind_eq_bind, Option.bind_some]
      rw [hrest]
      rfl

theorem readRest_written (fuel : Nat) {cs : List Char} (h : Path.EndsBefore cs)
    (hnone : Keyword.read cs = none) (values : List Value) (rest : List Predicate)
    (hfuel : (writtenRest rest).length < fuel) :
    readRest fuel (writtenRest rest ++ cs) (boundRest rest ++ values) =
      some (normals rest, cs, values) := by
  match fuel, rest with
  | fuel + 1, [] =>
      rw [writtenRest, boundRest, List.nil_append, List.nil_append, readRest, hnone]
      rfl
  | fuel + 1, member :: rest =>
      have hlength : member.written.length + (writtenRest rest).length + 1 ≤ fuel := by
        simp only [writtenRest, List.cons_append, List.length_cons, List.length_append,
          List.length_nil] at hfuel
        omega
      have hkeyword := member.keyword.read_written
        (member.written ++ (writtenRest rest ++ cs))
      have hmember := read_written fuel member.keyword.capital (endsBefore_writtenRest rest h)
        (boundRest rest ++ values) member (by omega)
      have hrest := readRest_written fuel h hnone values rest (by omega)
      have hwritten : writtenRest (member :: rest) ++ cs =
          (' ' :: member.keyword.capital.spelling.toList ++ [' ']) ++
            (member.written ++ (writtenRest rest ++ cs)) := by
        simp [writtenRest]
      rw [boundRest, List.append_assoc member.bound, hwritten, readRest, hkeyword]
      simp only [Option.bind_eq_bind]
      rw [hmember]
      simp only [Option.bind_some]
      rw [hrest, withKeyword_normal]
      rfl

end

end Predicate

namespace Level

def read (text : String) (values : List Value) : Option Level := do
  let fuel := text.toList.length + 1
  let (first, cs, values) ← Predicate.read fuel .and text.toList values
  let (rest, cs, values) ← Predicate.readRest fuel cs values
  match cs, values with
  | [], [] => return ⟨first, rest⟩
  | _, _ => none

theorem read_written (level : Level) :
    read (String.ofList level.written) level.bound = some level.normal := by
  have hend : Path.EndsBefore [] := by simp [Path.EndsBefore]
  have hlength : level.first.written.length + (Predicate.writtenRest level.rest).length =
      level.written.length := by
    rw [written, List.length_append]
  have hfirst := Predicate.read_written (level.written.length + 1) .and
    (Predicate.endsBefore_writtenRest level.rest hend) (Predicate.boundRest level.rest ++ [])
    level.first (by omega)
  have hrest := Predicate.readRest_written (level.written.length + 1) hend rfl [] level.rest
    (by omega)
  rw [List.append_nil, List.append_nil] at hfirst hrest
  rw [read, String.toList_ofList]
  simp only [Option.bind_eq_bind]
  rw [show level.written = level.first.written ++ Predicate.writtenRest level.rest from rfl] at *
  rw [bound, hfirst]
  simp only [Option.bind_some]
  rw [hrest]
  rfl

end Level

end SqlBuilder
