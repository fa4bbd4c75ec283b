import SqlBuilder.Proofs.Conditions
import SqlBuilder.Proofs.Frame
import SqlBuilder.Proofs.Predicate

/-!
# Predicates that are built and compiled

A predicate is built by adding its comparisons one by one; a group is a callback that adds its
members to the nested query it is handed. What such a clause compiles to is the text of the level,
with its values beside it, and it can be read back. So the clause has lost nothing of the level but
the keyword at its front and at the front of each group.
-/

namespace SqlBuilder

open Outcome Session

def Comparand.value : Comparand → Value
  | single value _ => value
  | items first rest => .list (first :: rest)
  | column path => .column path.text

namespace Predicate

variable {κ σ : Type}

mutual

def add (clause : Clause) (id : Nat) : Predicate → Action κ σ Unit
  | comparison keyword column operator comparand =>
      Session.condition clause id (.value (.text column.text)) comparand.value
        (.text operator.text) (.text keyword.spelling)
  | group keyword first rest =>
      Session.condition clause id
        (.callback 0 fun nested => do
          first.add clause nested
          addRest clause nested rest)
        .null (.text "=") (.text keyword.spelling)

def addRest (clause : Clause) (id : Nat) : List Predicate → Action κ σ Unit
  | [] => return ()
  | member :: rest => do
      member.add clause id
      addRest clause id rest

end

mutual

def fragment : Predicate → Fragment
  | comparison keyword column operator comparand =>
      Fragment.of [("column", .column column.text), ("value", Query.boundValue comparand.value),
        ("operator", .text operator.text), ("boolean", .text keyword.capital.spelling)]
  | group keyword first rest =>
      Fragment.of [("column", .group ((first.fragment :: fragments rest).map Fragment.toValue)),
        ("value", .null), ("operator", .text "="), ("boolean", .text keyword.capital.spelling)]

def fragments : List Predicate → List Fragment
  | [] => []
  | member :: rest => member.fragment :: fragments rest

end

end Predicate

/-- A query with further fragments in a clause. -/
def Query.extend (query : Query) (clause : Clause) (fragments : List Fragment) : Query :=
  { query with blueprint := fragments.foldl (·.add clause ·) query.blueprint }

namespace Query

variable (query : Query) (clause : Clause)

theorem extend_append (front back : List Fragment) :
    (query.extend clause front).extend clause back = query.extend clause (front ++ back) := by
  simp [extend]

@[simp] theorem fragments_extend (fragments : List Fragment) :
    (query.extend clause fragments).blueprint.fragments clause =
      query.blueprint.fragments clause ++ fragments := by
  induction fragments generalizing query with
  | nil => simp [extend]
  | cons fragment rest ih =>
      have hcons := query.extend_append clause [fragment] rest
      rw [List.singleton_append] at hcons
      rw [← hcons, ih]
      simp [extend]

theorem addCondition_eq (column value operator : Value) (keyword : Keyword) :
    query.addCondition clause column value operator (.text keyword.spelling) =
      .ok (query.extend clause [Fragment.of [("column", column), ("value", boundValue value),
        ("operator", operator), ("boolean", .text keyword.capital.spelling)]]) := by
  rw [keyword.spelling_capital]
  rfl

end Query

namespace Predicate

variable {κ σ : Type}

mutual

theorem confined_add {ids : Set Nat} {id : Nat} (hid : id ∈ ids) (clause : Clause)
    (member : Predicate) :
    Confined ids (member.add clause id : Action κ σ Unit) := by
  cases member with
  | comparison keyword column operator comparand =>
      have hcolumn : Operand.Confined ids (.value (.text column.text) : Operand κ σ) := trivial
      exact .condition hid hcolumn _ _ _ _
  | group keyword first rest =>
      refine .condition hid ?_ _ _ _ _
      intro nested
      have hnested : nested ∈ ids ∪ {nested} := Set.mem_union_right ids rfl
      exact (confined_add hnested clause first).bind fun _ => confined_addRest hnested clause rest

theorem confined_addRest {ids : Set Nat} {id : Nat} (hid : id ∈ ids) (clause : Clause)
    (rest : List Predicate) : Confined ids (addRest clause id rest : Action κ σ Unit) := by
  cases rest with
  | nil => exact .pure _
  | cons member rest =>
      exact (confined_add hid clause member).bind fun _ => confined_addRest hid clause rest

end

theorem play_condition {clause : Clause} {id : Nat} {operand : Operand κ σ} {column : Value}
    {session later : Session κ σ} {current : Query}
    (hsettle : play (settle id clause Value.asColumn operand) session = (.ok column, later))
    (h : later.store.queries[id]? = some current) (value operator : Value) (keyword : Keyword) :
    play (condition clause id operand value operator (.text keyword.spelling)) session =
      (.ok (), later.withQuery id (current.extend clause
        [Fragment.of [("column", column), ("value", Query.boundValue value),
          ("operator", operator), ("boolean", .text keyword.capital.spelling)]])) := by
  rw [condition, play_bind_ok hsettle]
  exact play_attempt h (current.addCondition_eq clause column value operator keyword)

mutual

/-- A predicate is added as its fragment, in every session that has the query. -/
theorem play_add (clause : Clause) {session : Session κ σ} {id : Nat} {current : Query}
    (h : session.store.queries[id]? = some current) (member : Predicate) :
    ∃ later, play (member.add clause id) session = (.ok (), later) ∧
      later.store.queries[id]? = some (current.extend clause [member.fragment]) := by
  match member with
  | comparison keyword column operator comparand =>
      have hsettle : play (settle id clause Value.asColumn (.value (.text column.text))) session =
          (.ok (.column column.text), session) := rfl
      exact ⟨_, play_condition hsettle h _ _ keyword, queries_withQuery h _⟩
  | group keyword first rest =>
      have hadded := queries_withAdded session current.nested
      obtain ⟨between, hfirst, hbetween⟩ := play_add clause hadded first
      obtain ⟨later, hrest, hlater⟩ := play_addRest clause hbetween rest
      have hsettle := play_settle h clause Value.asColumn 0
        (fun nested => do first.add clause nested; addRest clause nested rest)
        ((play_bind_ok hfirst).trans hrest) hlater
      have hconfined : Operand.Confined ∅ (.callback 0 fun nested => do
          first.add clause nested
          addRest clause nested rest : Operand κ σ) := by
        intro nested
        have hnested : nested ∈ ∅ ∪ {nested} := Set.mem_union_right ∅ rfl
        exact (confined_add hnested clause first).bind fun _ =>
          confined_addRest hnested clause rest
      have hkept := (Confined.settle hconfined).queries_eq hsettle (Set.notMem_empty id) h
      refine ⟨_, play_condition hsettle hkept _ _ keyword, ?_⟩
      rw [queries_withQuery hkept, Query.fragments_extend, Query.fragments_extend]
      rfl

theorem play_addRest (clause : Clause) {session : Session κ σ} {id : Nat} {current : Query}
    (h : session.store.queries[id]? = some current) (rest : List Predicate) :
    ∃ later, play (addRest clause id rest) session = (.ok (), later) ∧
      later.store.queries[id]? = some (current.extend clause (fragments rest)) := by
  match rest with
  | [] => exact ⟨session, rfl, h⟩
  | member :: rest =>
      obtain ⟨between, hmember, hbetween⟩ := play_add clause h member
      obtain ⟨later, hrest, hlater⟩ := play_addRest clause hbetween rest
      refine ⟨later, (play_bind_ok hmember).trans hrest, ?_⟩
      rw [hlater, Query.extend_append]
      rfl

end

end Predicate

/-! ### What the fragments compile to -/

namespace Predicate

mutual

def condition : Predicate → Condition
  | comparison keyword column operator comparand =>
      .comparison (.text keyword.capital.spelling) (.column column.text) (.text operator.text)
        (Query.boundValue comparand.value)
  | group keyword first rest =>
      .group (.text keyword.capital.spelling) (first.condition :: conditions rest)

def conditions : List Predicate → List Condition
  | [] => []
  | member :: rest => member.condition :: conditions rest

end

mutual

theorem condition_fragment : ∀ member : Predicate, member.fragment.condition = member.condition
  | comparison keyword column operator comparand => rfl
  | group keyword first rest => by
      have hmembers : Condition.ofFragments (first.fragment :: fragments rest) =
          first.condition :: conditions rest := by
        rw [Condition.ofFragments_cons, condition_fragment first, ofFragments_fragments rest]
      exact congrArg (Condition.group (.text keyword.capital.spelling)) hmembers

theorem ofFragments_fragments : ∀ members : List Predicate,
    Condition.ofFragments (fragments members) = conditions members
  | [] => Condition.ofFragments_nil
  | member :: rest => by
      rw [fragments, conditions, Condition.ofFragments_cons, condition_fragment member,
        ofFragments_fragments rest]

end

end Predicate

/-- Tokens stand for a text in the default quoting and for the values beside it. -/
def Tokens.StandFor (tokens : Tokens) (cs : List Char) (values : List Value) : Prop :=
  (tokens.render Identifier.backtick).toList = cs ∧ tokens.parameters = values

namespace Tokens.StandFor

theorem nil : StandFor [] [] [] := ⟨rfl, rfl⟩

theorem append {front back : Tokens} {cs others : List Char} {values more : List Value}
    (hfront : front.StandFor cs values) (hback : back.StandFor others more) :
    StandFor (front ++ back) (cs ++ others) (values ++ more) := by
  refine ⟨?_, ?_⟩
  · rw [Tokens.render_append, String.toList_append, hfront.1, hback.1]
  · rw [Tokens.parameters_append, hfront.2, hback.2]

theorem literal (characters : String) :
    StandFor [.literal characters] characters.toList [] := by
  simp [StandFor, Token.render]

theorem literal_append (front back : String) {body : Tokens} {cs : List Char}
    {values : List Value} (h : StandFor (.literal back :: body) cs values) :
    StandFor (.literal (front ++ back) :: body) (front.toList ++ cs) values := by
  refine ⟨?_, h.2⟩
  rw [← h.1, Tokens.render_cons, Tokens.render_cons]
  simp [Token.render]

theorem slot (value : Value) : StandFor [.slot value] ['?'] [value] := by
  have hmark : "?".toList = ['?'] := by decide
  simp [StandFor, Token.render, hmark]

theorem segment (segment : List Char) :
    StandFor (if segment.isEmpty then [] else [.name (String.ofList segment)])
      (Path.writtenSegment segment) [] := by
  rw [Path.writtenSegment]
  split
  · exact nil
  · simp [StandFor, Token.render]

theorem path (path : Path) : StandFor (Tokens.path path.text) path.written [] := by
  have hsegments : ∀ segments : List (List Char),
      StandFor (Tokens.joined "." (segments.map fun segment =>
          if segment.isEmpty then [] else [Token.name (String.ofList segment)]))
        (List.intercalate ['.'] (segments.map Path.writtenSegment)) [] := by
    intro segments
    induction segments with
    | nil => exact nil
    | cons first others ih =>
        cases others with
        | nil => simpa using segment first
        | cons next others =>
            have hdot := literal "."
            have hfirst := (segment first).append (hdot.append ih)
            simpa using hfirst
  exact hsegments _

theorem column (scope : Scope) (path : Path) :
    ∃ tokens, (Value.column path.text).tokens scope = .ok tokens ∧
      StandFor tokens path.written [] := by
  by_cases hwild : path.text = "*"
  · refine ⟨[.literal Identifier.wildcard], ?_, ?_⟩
    · simp [Value.column, Value.tokens, Value.isWildcard, hwild]
    · have hwritten : path.written = ['*'] := by
        rw [Path.written, hwild]
        decide
      rw [hwritten]
      exact literal "*"
  · refine ⟨Tokens.path path.text, ?_, Tokens.StandFor.path path⟩
    simp [Value.column, Value.tokens, Value.isWildcard, Value.aliasTokens, Value.plainText,
      Token.render, hwild, pure, Except.pure, bind, Except.bind]

theorem items (first : Value) (rest : List Value) :
    StandFor (Tokens.joined ", " ((first :: rest).map fun item => [.slot item]))
      ('?' :: rest.flatMap fun _ => [',', ' ', '?']) (first :: rest) := by
  induction rest generalizing first with
  | nil => exact slot first
  | cons next rest ih =>
      have hcomma := literal ", "
      have hfirst := (slot first).append (hcomma.append (ih next))
      simpa using hfirst

theorem comparand (scope : Scope) (clause : Clause) (comparand : Comparand) :
    ∃ tokens, Condition.boundTokens scope clause (Query.boundValue comparand.value) = .ok tokens ∧
      StandFor tokens comparand.written comparand.bound := by
  cases comparand with
  | single value hsingle =>
      refine ⟨[.slot value], ?_, slot value⟩
      cases value <;> first | rfl | cases hsingle
  | items first rest =>
      refine ⟨_, rfl, ?_⟩
      have hopen := literal "("
      have hclose := literal ")"
      have hitems := (hopen.append (items first rest)).append hclose
      simpa [Comparand.written, Comparand.bound] using hitems
  | column path => exact column scope path

end Tokens.StandFor

namespace Predicate

/-- A piece of a level is its keyword, a blank and the text of the predicate. -/
def Shows (member : Predicate) (piece : Tokens) : Prop :=
  ∃ front body,
    piece = .literal (member.keyword.capital.spelling ++ " " ++ front) :: body ∧
      Tokens.StandFor (.literal front :: body) member.written member.bound

theorem standFor_rest {piece : Tokens} {pieces : List Tokens} {rest : List Predicate}
    {cs : List Char} {values : List Value} (hfirst : piece.StandFor cs values)
    (hrest : List.Forall₂ Shows rest pieces) :
    Tokens.StandFor (Tokens.joined " " (piece :: pieces)) (cs ++ writtenRest rest)
      (values ++ boundRest rest) := by
  induction hrest generalizing piece cs values with
  | nil =>
      rw [Tokens.joined_singleton, writtenRest, boundRest, List.append_nil, List.append_nil]
      exact hfirst
  | @cons member next rest pieces hmember hrest ih =>
      obtain ⟨front, body, rfl, hbody⟩ := hmember
      have hkeyword := hbody.literal_append (member.keyword.capital.spelling ++ " ") front
      have hrest := hfirst.append ((Tokens.StandFor.literal " ").append (ih hkeyword))
      rw [Tokens.joined_cons_cons, writtenRest, boundRest]
      have hblank : " ".toList = [' '] := by decide
      simpa [hblank] using hrest

theorem dropKeyword_capital (keyword : Keyword) (cs : List Char) :
    Condition.dropKeyword (keyword.capital.spelling.toList ++ ' ' :: cs) = cs := by
  rcases keyword.capital_cases with h | h
  · rw [h, Keyword.spelling_and]
    rfl
  · rw [h, Keyword.spelling_or]
    rfl

theorem standFor_level (level : Level) {piece : Tokens} {pieces : List Tokens}
    (hfirst : level.first.Shows piece) (hrest : List.Forall₂ Shows level.rest pieces) :
    Tokens.StandFor (Condition.dropLeading (Tokens.joined " " (piece :: pieces)))
      level.written level.bound := by
  obtain ⟨front, body, rfl, hbody⟩ := hfirst
  have hdropped : Condition.dropLeading (Tokens.joined " "
      ((.literal (level.first.keyword.capital.spelling ++ " " ++ front) :: body) :: pieces)) =
      Tokens.joined " " ((.literal front :: body) :: pieces) := by
    have hfront : String.ofList (Condition.dropKeyword
        (level.first.keyword.capital.spelling ++ " " ++ front).toList) = front := by
      have hblank : " ".toList = [' '] := by decide
      rw [String.toList_append, String.toList_append, hblank, List.append_assoc,
        List.singleton_append, dropKeyword_capital, String.ofList_toList]
    cases pieces with
    | nil => rw [Tokens.joined_singleton, Tokens.joined_singleton, Condition.dropLeading, hfront]
    | cons next pieces =>
        rw [Tokens.joined_cons_cons, Tokens.joined_cons_cons, List.cons_append,
          Condition.dropLeading, hfront]
        rfl
  rw [hdropped]
  exact standFor_rest hbody hrest

theorem pieces_cons {scope : Scope} {clause : Clause} {condition : Condition}
    {others : List Condition} {piece : Tokens} {pieces : List Tokens}
    (hpiece : Condition.piece? scope clause condition = .ok (some piece))
    (hpieces : Condition.pieces scope clause others = .ok pieces) :
    Condition.pieces scope clause (condition :: others) = .ok (piece :: pieces) := by
  rw [Condition.pieces, hpiece, hpieces]
  rfl

mutual

theorem piece?_condition (scope : Scope) (clause : Clause) (member : Predicate) :
    ∃ piece, Condition.piece? scope clause member.condition = .ok (some piece) ∧
      member.Shows piece := by
  match member with
  | comparison keyword column operator comparand =>
      obtain ⟨left, hleft, hcolumn⟩ := Tokens.StandFor.column scope column
      obtain ⟨right, hright, hcomparand⟩ := Tokens.StandFor.comparand scope clause comparand
      have hidentifier : (Value.column column.text).identifier scope = .ok left := hleft
      have hkeyword := Value.toText_text scope keyword.capital.spelling
      have hoperator := Value.toText_text scope operator.text
      have hword := Tokens.StandFor.literal (" " ++ operator.text ++ " ")
      have hbody := (Tokens.StandFor.literal "").append (hcolumn.append (hword.append hcomparand))
      refine ⟨_, ?_, "", left ++ .literal (" " ++ operator.text ++ " ") :: right, rfl, ?_⟩
      · rw [condition, Condition.piece?, hright, hkeyword, hidentifier, hoperator,
          String.append_empty]
        rfl
      · rw [written, bound]
        simpa [Operator.text] using hbody
  | group keyword first rest =>
      obtain ⟨piece, hpiece, hshows⟩ := piece?_condition scope clause first
      obtain ⟨pieces, hpieces, hothers⟩ := pieces_conditions scope clause rest
      have hinner := standFor_level ⟨first, rest⟩ hshows hothers
      have hkeyword := Value.toText_text scope keyword.capital.spelling
      have hopen := Tokens.StandFor.literal "("
      have hbody := hopen.append (hinner.append (Tokens.StandFor.literal ")"))
      refine ⟨_, ?_, "(", Condition.dropLeading (Tokens.joined " " (piece :: pieces)) ++
        [.literal ")"], rfl, ?_⟩
      · have hparenthesis : " " ++ "(" = " (" := by decide
        rw [condition, Condition.piece?, pieces_cons hpiece hpieces, hkeyword, String.append_assoc,
          hparenthesis]
        · rfl
        · exact List.cons_ne_nil _ _
      · rw [written, bound]
        simpa [Level.written, Level.bound] using hbody

theorem pieces_conditions (scope : Scope) (clause : Clause) (members : List Predicate) :
    ∃ pieces, Condition.pieces scope clause (conditions members) = .ok pieces ∧
      List.Forall₂ Shows members pieces := by
  match members with
  | [] => exact ⟨[], by rw [conditions, Condition.pieces], .nil⟩
  | member :: rest =>
      obtain ⟨piece, hpiece, hshows⟩ := piece?_condition scope clause member
      obtain ⟨pieces, hpieces, hothers⟩ := pieces_conditions scope clause rest
      exact ⟨piece :: pieces, pieces_cons hpiece hpieces, .cons hshows hothers⟩

end

end Predicate

namespace Level

variable {κ σ : Type}

def add (clause : Clause) (id : Nat) (level : Level) : Action κ σ Unit :=
  Predicate.addRest clause id (level.first :: level.rest)

/-- In a session, adding a level to a clause of a query succeeds, and then the clause compiles to a
text in the query's quoting and to the values bound with it. -/
def CompilesTo (session : Session κ σ) (id : Nat) (clause : Clause) (level : Level)
    (text : String) (values : List Value) : Prop :=
  ∃ later built tokens,
    play (level.add clause id) session = (.ok (), later) ∧
      later.store.queries[id]? = some built ∧
      Condition.levelTokens later.store.scope clause
        (Condition.ofFragments (built.blueprint.fragments clause)) = .ok tokens ∧
      tokens.render built.compiler.quote = text ∧ tokens.parameters = values

theorem levelTokens_conditions (scope : Scope) (clause : Clause) (level : Level) :
    ∃ tokens, Condition.levelTokens scope clause
        (Predicate.conditions (level.first :: level.rest)) = .ok tokens ∧
      tokens.StandFor level.written level.bound := by
  obtain ⟨piece, hpiece, hfirst⟩ := Predicate.piece?_condition scope clause level.first
  obtain ⟨pieces, hpieces, hrest⟩ := Predicate.pieces_conditions scope clause level.rest
  refine ⟨_, ?_, Predicate.standFor_level level hfirst hrest⟩
  rw [Condition.levelTokens, Predicate.conditions, Predicate.pieces_cons hpiece hpieces]
  rfl

theorem compilesTo_written {session : Session κ σ} {id : Nat} {current : Query} {clause : Clause}
    (hcurrent : session.store.queries[id]? = some current)
    (hclause : current.blueprint.fragments clause = [])
    (hquote : current.compiler.quote = Identifier.backtick) (level : Level) :
    CompilesTo session id clause level (String.ofList level.written) level.bound := by
  obtain ⟨between, hfirst, hbetween⟩ := Predicate.play_add clause hcurrent level.first
  obtain ⟨later, hrest, hlater⟩ := Predicate.play_addRest clause hbetween level.rest
  have hbuilt : later.store.queries[id]? =
      some (current.extend clause (Predicate.fragments (level.first :: level.rest))) := by
    rw [hlater, Query.extend_append]
    rfl
  obtain ⟨tokens, htokens, hrender, hparameters⟩ :=
    levelTokens_conditions later.store.scope clause level
  refine ⟨later, _, tokens, (play_bind_ok hfirst).trans hrest, hbuilt, ?_, ?_, hparameters⟩
  · rw [Query.fragments_extend, hclause, List.nil_append, Predicate.ofFragments_fragments]
    exact htokens
  · have hsame : (current.extend clause (Predicate.fragments (level.first :: level.rest))).compiler
        = current.compiler := rfl
    rw [hsame, hquote, ← hrender, String.ofList_toList]

/-- What a clause compiles to is settled by the session and the level. -/
theorem CompilesTo.unique {session : Session κ σ} {id : Nat} {clause : Clause} {level : Level}
    {text other : String} {values others : List Value}
    (h : CompilesTo session id clause level text values)
    (hother : CompilesTo session id clause level other others) :
    text = other ∧ values = others := by
  obtain ⟨later, built, tokens, hplay, hbuilt, htokens, rfl, rfl⟩ := h
  obtain ⟨_, _, _, hplay', hbuilt', htokens', rfl, rfl⟩ := hother
  rw [hplay] at hplay'
  cases hplay'
  rw [hbuilt] at hbuilt'
  cases hbuilt'
  rw [htokens] at htokens'
  cases htokens'
  exact ⟨rfl, rfl⟩

/-- A level that is added to an empty clause can be read back from the text and the values that the
clause compiles to, with all keywords in capitals and all but the first of each level. Two levels
compile to the same only if they differ in the spelling of keywords or in those first ones. -/
theorem read_compiled {session : Session κ σ} {id : Nat} {current : Query} {clause : Clause}
    (hcurrent : session.store.queries[id]? = some current)
    (hclause : current.blueprint.fragments clause = [])
    (hquote : current.compiler.quote = Identifier.backtick) (level : Level) :
    ∃ text values, CompilesTo session id clause level text values ∧
      read text values = some level.normal ∧
      ∀ other : Level,
        CompilesTo session id clause other text values ↔ other.normal = level.normal := by
  have hcompiles := fun level => compilesTo_written hcurrent hclause hquote level
  refine ⟨_, _, hcompiles level, level.read_written, ?_⟩
  intro other
  constructor
  · intro hother
    obtain ⟨htext, hvalues⟩ := hother.unique (hcompiles other)
    have hread := level.read_written
    rw [htext, hvalues, other.read_written] at hread
    exact Option.some.inj hread
  · intro hnormal
    have hother := hcompiles other
    rw [← other.written_normal, ← other.bound_normal, hnormal, level.written_normal,
      level.bound_normal] at hother
    exact hother

end Level

def Session.single : Session Unit Unit :=
  (Session.start ()).withAdded (Query.new 0 .mysql Options.standard)

/-- A level with all three kinds of right sides, whose paths have marks, dots and an empty segment,
and whose keywords are spelled in different ways. -/
def Level.sample : Level where
  first := .comparison ⟨"or", by decide⟩ ⟨"u.\x60.", by decide⟩ .notLike (.single (.text "?") rfl)
  rest := [.group ⟨"Or", by decide⟩
    (.comparison ⟨"or", by decide⟩ ⟨"*", by decide⟩ .isIn (.items (.int 1) [.int 2]))
    [.comparison ⟨"and", by decide⟩ ⟨"c", by decide⟩ .atMost (.column ⟨"AND", by decide⟩)]]

theorem Level.read_compiled_sample :
    ∃ text values, Level.CompilesTo Session.single 0 .having Level.sample text values ∧
      text = "\x60u\x60.\x60\x60\x60\x60. NOT LIKE ? OR (* IN (?, ?) AND \x60c\x60 <= \x60AND\x60)" ∧
      values = [.text "?", .int 1, .int 2] ∧
      Level.read text values = some Level.sample.normal := by
  have hcurrent : Session.single.store.queries[0]? =
      some (Query.new 0 .mysql Options.standard) := rfl
  have hclause : (Query.new 0 .mysql Options.standard).blueprint.fragments .having = [] := rfl
  obtain ⟨text, values, hcompiles, hread, _⟩ :=
    Level.read_compiled hcurrent hclause rfl Level.sample
  have hwritten := Level.compilesTo_written hcurrent hclause rfl Level.sample
  obtain ⟨rfl, rfl⟩ := hcompiles.unique hwritten
  exact ⟨_, _, hcompiles, by decide, rfl, hread⟩

end SqlBuilder
