import SqlBuilder.Proofs.Predicate

/-!
# What a WHERE clause says of a row

A row settles each comparison, and then each level: parentheses first, AND before OR. So a level is
a choice between runs of predicates that AND joins. A statement without a WHERE clause is about
every row.
-/

namespace SqlBuilder

/-- Which comparisons hold for a row. -/
abbrev Verdict := Path → Operator → Comparand → Bool

/-- Whether a keyword is AND. -/
def Keyword.conjoins (keyword : Keyword) : Bool :=
  Text.upper keyword.spelling == "AND"

@[simp] theorem Keyword.conjoins_and : Keyword.and.conjoins = true := by decide

@[simp] theorem Keyword.conjoins_capital (keyword : Keyword) :
    keyword.capital.conjoins = keyword.conjoins := by
  have hcapital := congrArg Keyword.spelling keyword.capital_capital
  rw [Keyword.spelling_capital, Keyword.spelling_capital] at hcapital
  rw [Keyword.conjoins, Keyword.conjoins, Keyword.spelling_capital, hcapital]

namespace Predicate

variable (verdict : Verdict)

mutual

def holds : Predicate → Bool
  | comparison _ column operator comparand => verdict column operator comparand
  | group _ first rest => holdsBehind first.holds rest

/-- A level behind a run that holds or does not. AND goes on with the run, OR begins another. -/
def holdsBehind : Bool → List Predicate → Bool
  | run, [] => run
  | run, member :: rest =>
      if member.keyword.conjoins then holdsBehind (run && member.holds) rest
      else run || holdsBehind member.holds rest

end

theorem holds_withKeyword (keyword : Keyword) (member : Predicate) :
    (member.withKeyword keyword).holds verdict = member.holds verdict := by
  cases member with
  | comparison own column operator comparand => simp only [withKeyword, holds]
  | group own first rest => simp only [withKeyword, holds]

mutual

theorem holds_normal (member : Predicate) : member.normal.holds verdict = member.holds verdict := by
  match member with
  | comparison keyword column operator comparand => simp only [normal, holds]
  | group keyword first rest =>
      rw [normal, holds, holds, holds_withKeyword, holds_normal first, holdsBehind_normals _ rest]

theorem holdsBehind_normals (run : Bool) (rest : List Predicate) :
    holdsBehind verdict run (normals rest) = holdsBehind verdict run rest := by
  match rest with
  | [] => rw [normals]
  | member :: rest =>
      rw [normals, holdsBehind, holdsBehind, keyword_normal, Keyword.conjoins_capital,
        holds_normal member, holdsBehind_normals _ rest, holdsBehind_normals _ rest]

end

end Predicate

namespace Level

variable (verdict : Verdict) (level : Level)

def holds : Bool :=
  Predicate.holdsBehind verdict (level.first.holds verdict) level.rest

/-- What is lost of a level in writing does not matter. -/
theorem holds_normal : level.normal.holds verdict = level.holds verdict := by
  rw [normal, holds, holds, Predicate.holds_withKeyword, Predicate.holds_normal,
    Predicate.holdsBehind_normals]

end Level

/-- Whether a WHERE clause holds, as it is read from its text and the values beside it; a text that
is none has no answer. -/
def Verdict.read (verdict : Verdict) (text : String) (values : List Value) : Option Bool :=
  if text.isEmpty then some true
  else do
    let characters ← text.toList.dropPrefix? "WHERE ".toList
    let level ← Level.read (String.ofList characters) values
    return level.holds verdict

namespace Verdict

variable (verdict : Verdict)

theorem read_empty (values : List Value) : verdict.read "" values = some true := rfl

theorem read_written (level : Level) :
    verdict.read ("WHERE " ++ String.ofList level.written) level.bound =
      some (level.holds verdict) := by
  have hnonempty : ("WHERE " ++ String.ofList level.written).isEmpty = false := by simp
  have hcharacters : ("WHERE " ++ String.ofList level.written).toList.dropPrefix? "WHERE ".toList =
      some level.written := by
    have hkeyword : "WHERE ".toList = ['W', 'H', 'E', 'R', 'E', ' '] := by decide
    simp [hkeyword, List.dropPrefix?]
  rw [read, hnonempty, if_neg Bool.false_ne_true, hcharacters]
  simp only [Option.bind_eq_bind, Option.bind_some]
  rw [level.read_written, Option.bind_some, level.holds_normal]
  rfl

end Verdict

end SqlBuilder
