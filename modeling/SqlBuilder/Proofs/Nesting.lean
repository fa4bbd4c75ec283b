import SqlBuilder.Proofs.Drafting
import SqlBuilder.Store

/-!
# Arguments within arguments

An argument may be made of others. As a parameter of a call, an argument is written under the same
quoting as the call. In the place of a raw text, of a name, of a path or of an alias, it is its text
in the default quoting that is taken, and whatever quotes that place quotes the text as one that has
never been quoted. So quoting goes through a tree of arguments uniformly when every such place holds
a text, and otherwise it goes through the tree in which each of these arguments is a text already.
-/

namespace SqlBuilder

open Outcome

namespace Value

mutual

/-- Made of texts and arguments alone, at any depth. -/
def Composed : Value → Prop
  | text _ => True
  | argument _ value parameters => value.Composed ∧ AllComposed parameters
  | _ => False

def AllComposed : List Value → Prop
  | [] => True
  | value :: rest => value.Composed ∧ AllComposed rest

end

mutual

def texts : Value → List String
  | text characters => [characters]
  | argument _ value parameters => value.texts ++ allTexts parameters
  | _ => []

def allTexts : List Value → List String
  | [] => []
  | value :: rest => value.texts ++ allTexts rest

end

/-- What stands in a place for names: a text is made names of, and an argument is what it is. -/
def placed (names : String → Tokens) (value : Value) (pieces : Tokens) : Tokens :=
  match value with
  | text characters => names characters
  | _ => pieces

mutual

/-- What a tree consists of. Every identifier in it is one name, at whatever depth it stands. -/
def pieces : Value → Tokens
  | text characters => [.literal characters]
  | argument .raw value _ => value.pieces
  | argument .method value parameters =>
      value.pieces ++ .literal "(" :: Tokens.joined ", " (parameterPieces parameters) ++
        [.literal ")"]
  | argument .column value parameters | argument .table value parameters =>
      if value.isWildcard then [.literal Identifier.wildcard]
      else value.placed Tokens.path value.pieces ++ aliasPieces parameters
  | _ => []

def parameterPieces : List Value → List Tokens
  | [] => []
  | value :: rest =>
      (if value.isWildcard then [.literal Identifier.wildcard]
        else value.placed Tokens.path value.pieces) :: parameterPieces rest

def aliasPieces : List Value → Tokens
  | [] => []
  | value :: _ =>
      if value.truthy then .literal " AS " :: value.placed (fun name => [.name name]) value.pieces
      else []

end

/-- A tree with each of its names quoted once, all of them in the same way. -/
def uniform (quote : Quoting) (value : Value) : String :=
  value.pieces.render quote

mutual

/-- The arguments that stand in the place of a text: of a raw one, of a name, of a path or of an
alias. What is within them does not count. -/
def embedded : Value → List Value
  | argument .raw value _ => [value].filter isArgument
  | argument .method value parameters => [value].filter isArgument ++ allEmbedded parameters
  | argument .column value parameters | argument .table value parameters =>
      if value.isWildcard then []
      else [value].filter isArgument ++ (parameters.take 1).filter isArgument
  | _ => []

def allEmbedded : List Value → List Value
  | [] => []
  | value :: rest => value.embedded ++ allEmbedded rest

end

mutual

/-- A tree in which the arguments that stand in the place of a text are texts: those that they read
as in the default quoting. -/
def settled : Value → Value
  | argument .raw value parameters =>
      argument .raw (text (value.settled.uniform Identifier.backtick)) parameters
  | argument .method value parameters =>
      argument .method (text (value.settled.uniform Identifier.backtick))
        (settledParameters parameters)
  | argument .column value parameters =>
      argument .column (text (value.settled.uniform Identifier.backtick))
        (if value.isWildcard then parameters else settledAlias parameters)
  | argument .table value parameters =>
      argument .table (text (value.settled.uniform Identifier.backtick))
        (if value.isWildcard then parameters else settledAlias parameters)
  | value => value

def settledParameters : List Value → List Value
  | [] => []
  | value :: rest => value.settled :: settledParameters rest

def settledAlias : List Value → List Value
  | [] => []
  | value :: rest => text (value.settled.uniform Identifier.backtick) :: rest

end

mutual

/-- No argument in the place of a path reads as the wildcard, and none in the place of an alias as
nothing: a text that does so is not quoted, but an argument is. -/
def Legible : Value → Prop
  | argument .raw value _ => value.Legible
  | argument .method value parameters => value.Legible ∧ AllLegible parameters
  | argument .column value parameters | argument .table value parameters =>
      value.Legible ∧
        (value.isArgument = true →
          value.settled.uniform Identifier.backtick ≠ Identifier.wildcard) ∧
        (value.isWildcard = false → AliasLegible parameters)
  | _ => True

def AllLegible : List Value → Prop
  | [] => True
  | value :: rest => value.Legible ∧ AllLegible rest

def AliasLegible : List Value → Prop
  | [] => True
  | value :: _ =>
      value.Legible ∧
        (value.isArgument = true → value.settled.uniform Identifier.backtick ≠ "")

end

theorem Composed.eq_text {value : Value} (h : value.Composed) (hargument : value.isArgument = false) :
    ∃ characters, value = text characters := by
  cases value with
  | text characters => exact ⟨characters, rfl⟩
  | argument => cases hargument
  | _ => cases h

theorem isWildcard_eq_false {value : Value} (h : value.isArgument = true) :
    value.isWildcard = false := by
  cases value with
  | argument => rfl
  | _ => cases h

theorem truthy_of_isArgument {value : Value} (h : value.isArgument = true) :
    value.truthy = true := by
  cases value with
  | argument => rfl
  | _ => cases h

/-! ### What an argument is written as -/

theorem settled_text (characters : String) : (text characters).settled = text characters :=
  rfl

theorem uniform_text (quote : Quoting) (characters : String) :
    (text characters).uniform quote = characters :=
  Tokens.render_literal quote characters

theorem isArgument_settled {value : Value} : value.settled.isArgument = value.isArgument := by
  cases value with
  | argument kind value parameters => cases kind <;> rfl
  | _ => rfl

theorem placed_settled {value : Value} (h : value.isArgument = true) (names : String → Tokens) :
    value.settled.placed names value.settled.pieces = value.settled.pieces := by
  rw [← isArgument_settled] at h
  cases hsettled : value.settled with
  | argument => rfl
  | _ =>
      rw [hsettled] at h
      cases h

mutual

/-- A tree is written with its names quoted uniformly once the arguments in the place of texts are
texts. -/
theorem written_settled (scope : Scope) (quote : Quoting) : ∀ value : Value, value.Composed →
    value.Legible → value.written scope quote = .ok (value.settled.uniform quote)
  | .text characters, _, _ => congrArg Except.ok (uniform_text quote characters).symm
  | .argument .raw value parameters, hcomposed, hlegible => by
      rw [written, written_settled scope _ value hcomposed.1 hlegible]
      exact congrArg Except.ok (uniform_text quote _).symm
  | .argument .method value parameters, hcomposed, hlegible => by
      rw [written, written_settled scope _ value hcomposed.1 hlegible.1,
        parametersWritten_settled scope quote parameters hcomposed.2 hlegible.2, settled]
      simp only [ok_bind, uniform, pieces, Tokens.render_append, Tokens.render_cons,
        Tokens.render_joined, Tokens.render_nil, Token.render, String.append_empty,
        String.append_assoc]
      rfl
  | .argument .column value parameters, hcomposed, hlegible
  | .argument .table value parameters, hcomposed, hlegible => by
      have hpath := written_settled scope Identifier.backtick value hcomposed.1 hlegible.1
      rw [written, settled, uniform, pieces]
      cases hwild : value.isWildcard with
      | true =>
          obtain rfl := eq_of_isWildcard hwild
          exact congrArg Except.ok (Tokens.render_literal quote _).symm
      | false =>
          have halias := aliasWritten_settled scope quote parameters hcomposed.2
            (hlegible.2.2 hwild)
          have hshown : (text (value.settled.uniform Identifier.backtick)).isWildcard = false := by
            cases hargument : value.isArgument with
            | true => exact beq_eq_false_iff_ne.2 (hlegible.2.1 hargument)
            | false =>
                obtain ⟨characters, rfl⟩ := hcomposed.1.eq_text hargument
                rwa [settled_text, uniform_text]
          simp only [hshown, hpath, halias, ok_bind, placed, Bool.false_eq_true, if_false,
            Tokens.render_append, render_path]
          rfl
  | .null, h, _ | .bool _, h, _ | .int _, h, _ | .float _, h, _ | .undefined _, h, _
  | .bytes _, h, _ | .list _, h, _ | .tuple _, h, _ | .set _, h, _ | .frozenset _, h, _
  | .map _, h, _ | .fragment _, h, _ | .group _, h, _ | .query _, h, _ | .queryBlueprint _, h, _
  | .blueprint _, h, _ | .callback _, h, _ => h.elim

theorem parametersWritten_settled (scope : Scope) (quote : Quoting) : ∀ values : List Value,
    AllComposed values → AllLegible values →
    parametersWritten scope quote values =
      .ok ((parameterPieces (settledParameters values)).map (Tokens.render quote))
  | [], _, _ => rfl
  | value :: rest, hcomposed, hlegible => by
      have hrest := parametersWritten_settled scope quote rest hcomposed.2 hlegible.2
      rw [parametersWritten, hrest, settledParameters, parameterPieces]
      cases hargument : value.isArgument with
      | true =>
          have hsettled : value.settled.isArgument = true := isArgument_settled.trans hargument
          rw [written_settled scope quote value hcomposed.1 hlegible.1,
            isWildcard_eq_false hsettled, placed_settled hargument]
          rfl
      | false =>
          obtain ⟨characters, rfl⟩ := hcomposed.1.eq_text hargument
          rw [settled_text, placed, List.map_cons]
          cases (text characters).isWildcard with
          | true =>
              rw [if_pos rfl, if_pos rfl, Tokens.render_literal]
              rfl
          | false =>
              rw [if_neg Bool.false_ne_true, if_neg Bool.false_ne_true,
                if_neg Bool.false_ne_true, render_path]
              rfl

theorem aliasWritten_settled (scope : Scope) (quote : Quoting) : ∀ values : List Value,
    AllComposed values → AliasLegible values →
    aliasWritten scope quote values = .ok ((aliasPieces (settledAlias values)).render quote)
  | [], _, _ => congrArg Except.ok (Tokens.render_nil quote).symm
  | value :: rest, hcomposed, hlegible => by
      have hname := written_settled scope Identifier.backtick value hcomposed.1 hlegible.1
      have htruthy : (text (value.settled.uniform Identifier.backtick)).truthy = value.truthy := by
        cases hargument : value.isArgument with
        | true =>
            rw [truthy_of_isArgument hargument, truthy, Bool.not_eq_true',
              String.isEmpty_eq_false_iff]
            exact hlegible.2 hargument
        | false =>
            obtain ⟨characters, rfl⟩ := hcomposed.1.eq_text hargument
            rw [settled_text, uniform_text]
      rw [aliasWritten, hname, settledAlias, aliasPieces, htruthy]
      cases value.truthy with
      | true => simp [placed, Token.render]
      | false => exact congrArg Except.ok (Tokens.render_nil quote).symm

end

/-! ### Trees in which only texts stand in the place of texts -/

theorem settledAlias_eq_self {parameters : List Value} (hcomposed : AllComposed parameters)
    (h : (parameters.take 1).filter isArgument = []) :
    settledAlias parameters = parameters ∧ AliasLegible parameters := by
  cases parameters with
  | nil => exact ⟨rfl, trivial⟩
  | cons value rest =>
      have hargument : value.isArgument = false :=
        Bool.eq_false_iff.2 (List.filter_eq_nil_iff.1 h value List.mem_cons_self)
      obtain ⟨characters, rfl⟩ := hcomposed.1.eq_text hargument
      exact ⟨rfl, trivial, fun hargument => nomatch hargument⟩

mutual

theorem settled_eq_self : ∀ value : Value, value.Composed → value.embedded = [] →
    value.settled = value ∧ value.Legible
  | .text characters, _, _ => ⟨rfl, trivial⟩
  | .argument .raw value parameters, hcomposed, h => by
      have hargument : value.isArgument = false :=
        Bool.eq_false_iff.2 (List.filter_eq_nil_iff.1 h value List.mem_cons_self)
      obtain ⟨characters, rfl⟩ := hcomposed.1.eq_text hargument
      exact ⟨rfl, trivial⟩
  | .argument .method value parameters, hcomposed, h => by
      obtain ⟨hname, hparameters⟩ := List.append_eq_nil_iff.1 h
      have hargument : value.isArgument = false :=
        Bool.eq_false_iff.2 (List.filter_eq_nil_iff.1 hname value List.mem_cons_self)
      obtain ⟨characters, rfl⟩ := hcomposed.1.eq_text hargument
      obtain ⟨hsettled, hlegible⟩ := settledParameters_eq_self parameters hcomposed.2 hparameters
      exact ⟨congrArg (argument .method (text characters)) hsettled, trivial, hlegible⟩
  | .argument .column value parameters, hcomposed, h
  | .argument .table value parameters, hcomposed, h => by
      rw [embedded] at h
      cases hwild : value.isWildcard with
      | true =>
          obtain rfl := eq_of_isWildcard hwild
          exact ⟨rfl, trivial, fun hargument => (nomatch hargument), fun hplain => nomatch hplain⟩
      | false =>
          rw [hwild, if_neg Bool.false_ne_true] at h
          obtain ⟨hpath, halias⟩ := List.append_eq_nil_iff.1 h
          have hargument : value.isArgument = false :=
            Bool.eq_false_iff.2 (List.filter_eq_nil_iff.1 hpath value List.mem_cons_self)
          obtain ⟨characters, rfl⟩ := hcomposed.1.eq_text hargument
          obtain ⟨hsettled, hlegible⟩ := settledAlias_eq_self hcomposed.2 halias
          rw [settled, hwild, hsettled]
          exact ⟨rfl, trivial, fun hargument => (nomatch hargument), fun _ => hlegible⟩
  | .null, h, _ | .bool _, h, _ | .int _, h, _ | .float _, h, _ | .undefined _, h, _
  | .bytes _, h, _ | .list _, h, _ | .tuple _, h, _ | .set _, h, _ | .frozenset _, h, _
  | .map _, h, _ | .fragment _, h, _ | .group _, h, _ | .query _, h, _ | .queryBlueprint _, h, _
  | .blueprint _, h, _ | .callback _, h, _ => h.elim

theorem settledParameters_eq_self : ∀ values : List Value, AllComposed values →
    allEmbedded values = [] → settledParameters values = values ∧ AllLegible values
  | [], _, _ => ⟨rfl, trivial⟩
  | value :: rest, hcomposed, h => by
      obtain ⟨hvalue, hrest⟩ := List.append_eq_nil_iff.1 h
      obtain ⟨hfirst, hlegible⟩ := settled_eq_self value hcomposed.1 hvalue
      obtain ⟨hothers, hothersLegible⟩ := settledParameters_eq_self rest hcomposed.2 hrest
      exact ⟨congrArg₂ List.cons hfirst hothers, hlegible, hothersLegible⟩

end

end Value

/-! ### Default quotes under another quoting -/

/-- A quoting that neither brings default quotes in nor takes any away. -/
def Quoting.Foreign (quote : Quoting) : Prop :=
  ∀ name, '\x60' ∈ (quote name).toList ↔ '\x60' ∈ name.toList

theorem Text.mem_intercalate {c : Char} {separator : String} (hseparator : c ∉ separator.toList)
    (texts : List String) :
    c ∈ (separator.intercalate texts).toList ↔ ∃ text ∈ texts, c ∈ text.toList := by
  induction texts with
  | nil => simp
  | cons first rest ih =>
      cases rest with
      | nil => simp
      | cons next others =>
          rw [String.intercalate_cons_cons, String.toList_append, String.toList_append,
            List.mem_append, List.mem_append, ih]
          simp [hseparator]

theorem Identifier.mem_segments {c : Char} (hdot : c ≠ '.') (cs : List Char) :
    (∃ segment ∈ segments cs, c ∈ segment) ↔ c ∈ cs := by
  fun_induction segments cs with
  | case1 => simp
  | case2 rest ih => simp [ih, hdot]
  | case3 first rest hfirst hnil ih => exact absurd hnil (segments_ne_nil rest)
  | case4 first rest hfirst segment others hrest ih =>
      rw [hrest] at ih
      rw [List.mem_cons, ← ih]
      simp [or_assoc]

namespace Value

variable {quote : Quoting} (hquote : quote.Foreign)
include hquote

theorem mem_quotedPath (path : String) :
    '\x60' ∈ (quotedPath quote path).toList ↔ '\x60' ∈ path.toList := by
  have hsegment : ∀ segment : List Char,
      '\x60' ∈ (if segment.isEmpty then "" else quote (String.ofList segment)).toList ↔
        '\x60' ∈ segment := by
    intro segment
    cases segment with
    | nil => simp
    | cons first rest =>
        rw [List.isEmpty_cons, if_neg Bool.false_ne_true, hquote, String.toList_ofList]
  rw [quotedPath, Text.mem_intercalate (by decide), ← Identifier.mem_segments (by decide)]
  simp only [List.mem_map, exists_exists_and_eq_and, hsegment]

/-- It reads with a default quote in it in the default quoting. -/
def Marked (scope : Scope) (value : Value) : Prop :=
  ∃ reading, value.sql scope Identifier.backtick = .ok reading ∧ '\x60' ∈ reading.toList

def Unmarked (texts : List String) : Prop :=
  ∀ characters ∈ texts, '\x60' ∉ characters.toList

omit hquote in
theorem Unmarked.append {front back : List String} :
    Unmarked (front ++ back) ↔ Unmarked front ∧ Unmarked back :=
  List.forall_mem_append

omit hquote in
/-- In the place of a text there is a default quote only if an argument stands there. -/
theorem mem_reading {scope : Scope} {value : Value} {reading : String} (hcomposed : value.Composed)
    (htexts : Unmarked value.texts)
    (h : value.written scope Identifier.backtick = .ok reading) :
    '\x60' ∈ reading.toList ↔ ∃ inner ∈ [value].filter isArgument, inner.Marked scope := by
  cases hargument : value.isArgument with
  | true =>
      rw [List.filter_cons_of_pos hargument, List.filter_nil]
      simp only [List.mem_singleton, exists_eq_left, Marked, sql_eq_written, h]
      constructor
      · intro hmem
        exact ⟨reading, rfl, hmem⟩
      · rintro ⟨_, ⟨⟩, hmem⟩
        exact hmem
  | false =>
      obtain ⟨characters, rfl⟩ := hcomposed.eq_text hargument
      obtain rfl := Except.ok.inj h
      have hfree := htexts characters List.mem_cons_self
      simp [hfree, isArgument]

theorem mem_aliasWritten {scope : Scope} {values : List Value} {reading : String}
    (hcomposed : AllComposed values) (htexts : Unmarked (allTexts values))
    (h : aliasWritten scope quote values = .ok reading) :
    '\x60' ∈ reading.toList ↔
      ∃ inner ∈ (values.take 1).filter isArgument, inner.Marked scope := by
  cases values with
  | nil =>
      obtain rfl := Except.ok.inj h
      simp
  | cons value rest =>
      have hvalue := (Unmarked.append.1 htexts).1
      rw [List.take_succ_cons, List.take_zero]
      rw [aliasWritten] at h
      split at h
      · obtain ⟨name, hname, h⟩ := bind_eq_ok.1 h
        obtain rfl := pure_eq_ok.1 h
        rw [← mem_reading hcomposed.1 hvalue hname, String.toList_append, List.mem_append, hquote]
        simp
      · next habsent =>
          have hargument : value.isArgument = false :=
            Bool.eq_false_iff.2 fun hargument => habsent (truthy_of_isArgument hargument)
          obtain rfl := Except.ok.inj h
          rw [List.filter_cons_of_neg (Bool.eq_false_iff.1 hargument)]
          simp

omit hquote in
/-- The first parameter is written as the argument it is, or as the wildcard or a path. -/
theorem exists_written_cons {scope : Scope} {value : Value} {rest : List Value}
    {readings : List String} (h : parametersWritten scope quote (value :: rest) = .ok readings) :
    ∃ first others,
      (value.written scope quote = .ok first ∨
        value.isArgument = false ∧ (first = Identifier.wildcard ∨
          ∃ path, value.written scope Identifier.backtick = .ok path ∧
            first = quotedPath quote path)) ∧
      parametersWritten scope quote rest = .ok others ∧ readings = first :: others := by
  rw [parametersWritten] at h
  split at h
  · obtain ⟨first, hfirst, h⟩ := bind_eq_ok.1 h
    obtain ⟨others, hrest, h⟩ := bind_eq_ok.1 h
    exact ⟨first, others, .inl hfirst, hrest, (pure_eq_ok.1 h).symm⟩
  · next hargument =>
      rw [Bool.not_eq_true] at hargument
      split at h
      · obtain ⟨first, hfirst, h⟩ := bind_eq_ok.1 h
        obtain rfl := Except.ok.inj hfirst
        obtain ⟨others, hrest, h⟩ := bind_eq_ok.1 h
        exact ⟨_, others, .inr ⟨hargument, .inl rfl⟩, hrest, (pure_eq_ok.1 h).symm⟩
      · obtain ⟨first, hfirst, h⟩ := bind_eq_ok.1 h
        obtain ⟨path, hpath, rfl⟩ := map_eq_ok.1 hfirst
        obtain ⟨others, hrest, h⟩ := bind_eq_ok.1 h
        exact ⟨_, others, .inr ⟨hargument, .inr ⟨path, hpath, rfl⟩⟩, hrest,
          (pure_eq_ok.1 h).symm⟩

mutual

/-- Under a quoting that has nothing to do with default quotes, a tree is written with one in it
only if an argument in the place of a text reads so. -/
theorem mem_written (scope : Scope) : ∀ (value : Value) {reading : String}, value.Composed →
    Unmarked value.texts → value.written scope quote = .ok reading →
    ('\x60' ∈ reading.toList ↔ ∃ inner ∈ value.embedded, inner.Marked scope)
  | .text characters, reading, _, htexts, h => by
      obtain rfl := Except.ok.inj h
      have hfree := htexts characters List.mem_cons_self
      simp [hfree, embedded]
  | .argument .raw value parameters, reading, hcomposed, htexts, h =>
      mem_reading hcomposed.1 (Unmarked.append.1 htexts).1 h
  | .argument .method value parameters, reading, hcomposed, htexts, h => by
      obtain ⟨hvalue, hparameters⟩ := Unmarked.append.1 htexts
      rw [written] at h
      obtain ⟨readings, hreadings, h⟩ := bind_eq_ok.1 h
      obtain ⟨name, hname, h⟩ := bind_eq_ok.1 h
      obtain rfl := pure_eq_ok.1 h
      have hfront := mem_reading hcomposed.1 hvalue hname
      have hback := mem_parametersWritten scope parameters hcomposed.2 hparameters hreadings
      simp only [String.toList_append, List.mem_append, hfront,
        Text.mem_intercalate (show '\x60' ∉ ", ".toList by decide), hback, embedded, or_and_right,
        exists_or]
      simp
  | .argument .column value parameters, reading, hcomposed, htexts, h
  | .argument .table value parameters, reading, hcomposed, htexts, h => by
      obtain ⟨hvalue, hparameters⟩ := Unmarked.append.1 htexts
      rw [embedded]
      rw [written] at h
      split at h
      · next hwild =>
          obtain rfl := Except.ok.inj h
          simp [hwild, Identifier.wildcard]
      · next hwild =>
          obtain ⟨path, hpath, h⟩ := bind_eq_ok.1 h
          obtain ⟨suffix, hsuffix, h⟩ := bind_eq_ok.1 h
          obtain rfl := pure_eq_ok.1 h
          rw [if_neg hwild, String.toList_append, List.mem_append, mem_quotedPath hquote,
            mem_reading hcomposed.1 hvalue hpath,
            mem_aliasWritten hquote hcomposed.2 hparameters hsuffix]
          simp only [List.mem_append, or_and_right, exists_or]
  | .null, _, h, _, _ | .bool _, _, h, _, _ | .int _, _, h, _, _ | .float _, _, h, _, _
  | .undefined _, _, h, _, _ | .bytes _, _, h, _, _ | .list _, _, h, _, _ | .tuple _, _, h, _, _
  | .set _, _, h, _, _ | .frozenset _, _, h, _, _ | .map _, _, h, _, _ | .fragment _, _, h, _, _
  | .group _, _, h, _, _ | .query _, _, h, _, _ | .queryBlueprint _, _, h, _, _
  | .blueprint _, _, h, _, _ | .callback _, _, h, _, _ => h.elim

theorem mem_parametersWritten (scope : Scope) : ∀ (values : List Value) {readings : List String},
    AllComposed values → Unmarked (allTexts values) →
    parametersWritten scope quote values = .ok readings →
    ((∃ reading ∈ readings, '\x60' ∈ reading.toList) ↔
      ∃ inner ∈ allEmbedded values, inner.Marked scope)
  | [], readings, _, _, h => by
      obtain rfl := Except.ok.inj h
      simp [allEmbedded]
  | value :: rest, readings, hcomposed, htexts, h => by
      obtain ⟨hvalue, hothers⟩ := Unmarked.append.1 htexts
      obtain ⟨first, others, hfirst, hrest, rfl⟩ := exists_written_cons h
      have hback := mem_parametersWritten scope rest hcomposed.2 hothers hrest
      have hfront : '\x60' ∈ first.toList ↔ ∃ inner ∈ value.embedded, inner.Marked scope := by
        rcases hfirst with hfirst | ⟨hargument, hfirst⟩
        · exact mem_written scope value hcomposed.1 hvalue hfirst
        · obtain ⟨characters, rfl⟩ := hcomposed.1.eq_text hargument
          have hfree := hvalue characters List.mem_cons_self
          have hplain : '\x60' ∉ first.toList := by
            rcases hfirst with rfl | ⟨path, hpath, rfl⟩
            · decide
            · obtain rfl := Except.ok.inj hpath
              rwa [mem_quotedPath hquote]
          simp [hplain, embedded]
      simp only [List.mem_cons, or_and_right, exists_or, exists_eq_left, hfront, hback, allEmbedded,
        List.mem_append]

end

omit hquote

mutual

theorem exists_written (scope : Scope) (quote : Quoting) : ∀ value : Value, value.Composed →
    ∃ reading, value.written scope quote = .ok reading
  | .text characters, _ => ⟨characters, rfl⟩
  | .argument .raw value parameters, hcomposed =>
      exists_written scope Identifier.backtick value hcomposed.1
  | .argument .method value parameters, hcomposed => by
      obtain ⟨name, hname⟩ := exists_written scope Identifier.backtick value hcomposed.1
      obtain ⟨readings, hreadings⟩ := exists_parametersWritten scope quote parameters hcomposed.2
      rw [written, hreadings, hname]
      exact ⟨_, rfl⟩
  | .argument .column value parameters, hcomposed
  | .argument .table value parameters, hcomposed => by
      obtain ⟨path, hpath⟩ := exists_written scope Identifier.backtick value hcomposed.1
      obtain ⟨suffix, hsuffix⟩ := exists_aliasWritten scope quote parameters hcomposed.2
      rw [written, hpath, hsuffix]
      split
      · exact ⟨_, rfl⟩
      · exact ⟨_, rfl⟩
  | .null, h | .bool _, h | .int _, h | .float _, h | .undefined _, h | .bytes _, h | .list _, h
  | .tuple _, h | .set _, h | .frozenset _, h | .map _, h | .fragment _, h | .group _, h
  | .query _, h | .queryBlueprint _, h | .blueprint _, h | .callback _, h => h.elim

theorem exists_parametersWritten (scope : Scope) (quote : Quoting) : ∀ values : List Value,
    AllComposed values → ∃ readings, parametersWritten scope quote values = .ok readings
  | [], _ => ⟨[], rfl⟩
  | value :: rest, hcomposed => by
      obtain ⟨first, hfirst⟩ := exists_written scope quote value hcomposed.1
      obtain ⟨path, hpath⟩ := exists_written scope Identifier.backtick value hcomposed.1
      obtain ⟨others, hothers⟩ := exists_parametersWritten scope quote rest hcomposed.2
      rw [parametersWritten, hfirst, hpath, hothers]
      split
      · exact ⟨_, rfl⟩
      · split
        · exact ⟨_, rfl⟩
        · exact ⟨_, rfl⟩

theorem exists_aliasWritten (scope : Scope) (quote : Quoting) : ∀ values : List Value,
    AllComposed values → ∃ reading, aliasWritten scope quote values = .ok reading
  | [], _ => ⟨"", rfl⟩
  | value :: rest, hcomposed => by
      obtain ⟨name, hname⟩ := exists_written scope Identifier.backtick value hcomposed.1
      rw [aliasWritten, hname]
      split
      · exact ⟨_, rfl⟩
      · exact ⟨_, rfl⟩

end

/-- A tree of arguments in whose values and aliases only texts stand is written with each of its
names quoted once, under any quoting. Any other tree is written as the one in which those arguments
are the texts that they read as in the default quoting, so what they quote is quoted by default, and
the place they stand in quotes it again. Under a quoting that has nothing to do with default quotes,
a tree without any is therefore written with one in it exactly when an argument that stands in the
place of a text reads so. -/
theorem sql_of_composed (scope : Scope) (quote : Quoting) {tree : Value} (h : tree.Composed) :
    (tree.embedded = [] → tree.sql scope quote = .ok (tree.uniform quote)) ∧
      (tree.Legible → tree.sql scope quote = .ok (tree.settled.uniform quote)) ∧
      (quote.Foreign → Unmarked tree.texts → ∃ reading, tree.sql scope quote = .ok reading ∧
        ('\x60' ∈ reading.toList ↔ ∃ inner ∈ tree.embedded, inner.Marked scope)) := by
  rw [sql_eq_written]
  refine ⟨?direct, written_settled scope quote tree h, ?marked⟩
  case direct =>
    intro hembedded
    obtain ⟨hsettled, hlegible⟩ := settled_eq_self tree h hembedded
    rw [written_settled scope quote tree h hlegible, hsettled]
  case marked =>
    intro hquote htexts
    obtain ⟨reading, hreading⟩ := exists_written scope quote tree h
    exact ⟨reading, hreading, mem_written hquote scope tree h htexts hreading⟩

def coalesced : Value :=
  method "COALESCE" [method "SUM" [column "o.total"], raw (text "0")]

/-- Under double quotes the column is written between double quotes, at the depth it stands. -/
theorem sql_of_composed_coalesced :
    coalesced.sql Store.empty.scope Identifier.bare =
      .ok "COALESCE(SUM(\x22o\x22.\x22total\x22), 0)" := by
  have hcomposed : coalesced.Composed :=
    ⟨trivial, ⟨trivial, ⟨trivial, trivial⟩, trivial⟩, ⟨trivial, trivial⟩, trivial⟩
  rw [(sql_of_composed Store.empty.scope Identifier.bare hcomposed).1 rfl]
  rfl

/-! ### Arguments in the place of texts -/

theorem foreign_bare : Quoting.Foreign Identifier.bare := by
  intro name
  simp [Identifier.bare]

/-- Under double quotes a column in the place of a raw text is written between default quotes,
although neither the quoting nor a text of the tree has any; and in the place of a path, a column
that is quoted already is quoted again. -/
theorem embedded_column_is_quoted_otherwise :
    (raw (column "a")).Composed ∧ Quoting.Foreign Identifier.bare ∧
      Unmarked (raw (column "a")).texts ∧
      (raw (column "a")).uniform Identifier.bare = "\x22a\x22" ∧
      (raw (column "a")).sql Store.empty.scope Identifier.bare = .ok "\x60a\x60" ∧
      (argument .column (column "a") []).uniform Identifier.bare = "\x22a\x22" ∧
      (argument .column (column "a") []).sql Store.empty.scope Identifier.bare =
        .ok "\x22\x60a\x60\x22" := by
  refine ⟨⟨⟨trivial, trivial⟩, trivial⟩, foreign_bare, ?_, rfl, rfl, rfl, rfl⟩
  intro characters hcharacters
  obtain rfl := List.mem_singleton.1 hcharacters
  decide

end Value

end SqlBuilder
