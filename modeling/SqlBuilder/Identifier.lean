import SqlBuilder.Text.Upper

/-!
# Identifiers

A name is quoted before it goes into a statement, and quoting is what keeps a name from being read
as anything else: the closing quote is written twice wherever the name holds it. The wildcard is not
a name and stands for itself. A dotted path is quoted segment by segment, and empty segments stay
empty.
-/

namespace SqlBuilder

/-- A way to quote one segment of an identifier. -/
abbrev Quoting := String → String

namespace Identifier

/-- A name with every `mark` in it written twice. -/
def doubled (mark : Char) (cs : List Char) : List Char :=
  cs.flatMap fun c => if c == mark then [mark, mark] else [c]

/-- A name between two marks, the marks inside it written twice. -/
def enclosed (mark : Char) (name : String) : String :=
  String.ofList (mark :: doubled mark name.toList ++ [mark])

def wildcard : String := "*"

/-- The default quoting, between grave accents. -/
def backtick : Quoting := fun name =>
  if name == wildcard then name else enclosed '\x60' name

/-- Default quoting of names that are upper-cased first. -/
def uppercase : Quoting := fun name =>
  backtick (Text.upper name)

/-- Quoting between double quotes, as in the SQL standard. -/
def standard : Quoting := fun name =>
  if name == wildcard then name else enclosed '\x22' name

/-- Double quotes around any name, nothing escaped and no wildcard. -/
def bare : Quoting := fun name =>
  "\x22" ++ name ++ "\x22"

/-- The segments of a dotted path. -/
def segments : List Char → List (List Char)
  | [] => [[]]
  | '.' :: rest => [] :: segments rest
  | c :: rest =>
      match segments rest with
      | [] => [[c]]
      | segment :: others => (c :: segment) :: others

theorem segments_ne_nil (cs : List Char) : segments cs ≠ [] := by
  fun_induction segments cs <;> simp_all

theorem intercalate_segments (cs : List Char) : List.intercalate ['.'] (segments cs) = cs := by
  fun_induction segments cs with
  | case1 => rfl
  | case2 rest ih =>
      obtain ⟨first, others, h⟩ := List.exists_cons_of_ne_nil (segments_ne_nil rest)
      rw [h] at ih ⊢
      simpa [List.intercalate] using ih
  | case3 c rest hc hnil => exact absurd hnil (segments_ne_nil rest)
  | case4 c rest hc segment others h ih =>
      rw [h] at ih
      cases others <;> simp_all [List.intercalate]

/-- The part of a dotted path behind its last dot. -/
def lastSegment (path : String) : String :=
  String.ofList ((segments path.toList).getLast?.getD [])

end Identifier

end SqlBuilder
