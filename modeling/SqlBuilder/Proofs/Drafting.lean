import SqlBuilder.Proofs.Emission
import SqlBuilder.Proofs.Rendering

/-!
# Statements that are written at once

A statement need not go through tokens. Written at once, every identifier is quoted where it stands,
and all that follows looks at text that has names in it already: whether a clause has come out
empty, whether a level begins with a keyword, whether there are blanks at the ends. None of this
takes a name for anything else, as long as the quoting leaves no name empty and puts no blank at its
ends. So a draft is the text and the parameters of the tokens, whatever the quoting is, and what is
quoted in it is what the tokens have for names.
-/

namespace SqlBuilder

open Outcome

/-- A piece of a statement as text, with the values for the placeholders in it. -/
structure Draft where
  text : String
  parameters : List Value

namespace Draft

instance : Append Draft :=
  ⟨fun front back => ⟨front.text ++ back.text, front.parameters ++ back.parameters⟩⟩

def plain (text : String) : Draft :=
  ⟨text, []⟩

def placeholder (value : Value) : Draft :=
  ⟨"?", [value]⟩

def joined (separator : String) (pieces : List Draft) : Draft :=
  ⟨separator.intercalate (pieces.map text), pieces.flatMap parameters⟩

def headed (keyword : String) (body : Draft) : Draft :=
  ⟨Text.lead keyword body.text, body.parameters⟩

def spaced (pieces : List Draft) : Draft :=
  ⟨" ".intercalate ((pieces.map text).filter fun text => !text.isEmpty),
    pieces.flatMap parameters⟩

def beheaded (draft : Draft) : Draft :=
  ⟨String.ofList (Condition.dropKeyword draft.text.toList), draft.parameters⟩

def trimmed (draft : Draft) : Draft :=
  ⟨String.ofList (Text.trim draft.text.toList), draft.parameters⟩

end Draft

namespace Tokens

/-- Tokens as they read under a quoting. -/
def draft (quote : Quoting) (tokens : Tokens) : Draft :=
  ⟨tokens.render quote, tokens.parameters⟩

variable {quote : Quoting}

theorem draft_nil : draft quote [] = .plain "" := by
  rw [draft, render_nil]
  rfl

theorem draft_append (front back : Tokens) :
    draft quote (front ++ back) = draft quote front ++ draft quote back := by
  rw [draft, render_append, parameters_append]
  rfl

theorem draft_literal (text : String) (rest : Tokens) :
    draft quote (.literal text :: rest) = .plain text ++ draft quote rest := by
  rw [draft, render_cons, parameters_literal]
  rfl

theorem draft_name (segment : String) (rest : Tokens) :
    draft quote (.name segment :: rest) = .plain (quote segment) ++ draft quote rest := by
  rw [draft, render_cons, parameters_name]
  rfl

theorem draft_slot (value : Value) (rest : Tokens) :
    draft quote (.slot value :: rest) = .placeholder value ++ draft quote rest := by
  rw [draft, render_cons, parameters_slot]
  rfl

theorem render_literal (quote : Quoting) (text : String) : render quote [.literal text] = text := by
  simp [Token.render]

theorem parameters_joined (separator : String) (pieces : List Tokens) :
    (joined separator pieces).parameters = pieces.flatMap parameters :=
  filterMap_joined (fun _ => rfl) separator pieces

theorem draft_joined (separator : String) (pieces : List Tokens) :
    draft quote (joined separator pieces) = .joined separator (pieces.map (draft quote)) := by
  rw [draft, render_joined, parameters_joined, Draft.joined, List.map_map, List.flatMap_map]
  rfl

section Framed

variable (hquote : quote.Framed)
include hquote

/-- Whether a clause is empty shows in its text. -/
theorem draft_headed (keyword : String) (body : Tokens) :
    draft quote (headed keyword body) = .headed keyword (draft quote body) := by
  rw [draft, render_headed hquote, parameters_headed]
  rfl

theorem draft_spaced (pieces : List Tokens) :
    draft quote (spaced pieces) = .spaced (pieces.map (draft quote)) := by
  have hkept : ∀ piece : Tokens, (render quote piece).isEmpty = piece.vanishes := fun piece =>
    Bool.eq_iff_iff.2 (String.isEmpty_iff.trans (render_eq_empty_iff hquote))
  rw [draft, parameters_spaced, spaced, render_joined, Draft.spaced, List.map_map,
    List.flatMap_map, List.filter_map]
  simp only [Function.comp_def, draft, hkept]

theorem draft_trim (tokens : Tokens) :
    draft quote (trim tokens) = (draft quote tokens).trimmed := by
  rw [draft, parameters_trim, ← String.ofList_toList (s := render quote (trim tokens)),
    render_trim hquote]
  rfl

end Framed

/-- Tokens that begin with a text that has a blank in it. -/
def Begun : Tokens → Prop
  | .literal text :: _ => ' ' ∈ text.toList
  | _ => False

end Tokens

namespace Condition

/-- A word without blanks that begins a text begins it before its first blank. -/
theorem prefix_of_append {word front back : List Char} (hword : ' ' ∉ word) (hfront : ' ' ∈ front)
    (h : word <+: front ++ back) : word <+: front := by
  rcases List.prefix_or_prefix_of_prefix h (List.prefix_append front back) with hshort | hlong
  · exact hshort
  · exact absurd (hlong.subset hfront) hword

theorem dropKeyword_eq_self {cs : List Char} (hand : ¬ ['A', 'N', 'D'] <+: cs)
    (hor : ¬ ['O', 'R'] <+: cs) : dropKeyword cs = cs := by
  unfold dropKeyword
  dsimp only
  split
  · exact absurd (List.prefix_append ['A', 'N', 'D'] _) hand
  · exact absurd (List.prefix_append ['O', 'R'] _) hor
  · rfl

/-- Whether a text begins with a keyword is settled before its first blank. -/
theorem dropKeyword_append {front : List Char} (h : ' ' ∈ front) (back : List Char) :
    dropKeyword (front ++ back) = dropKeyword front ++ back := by
  by_cases hand : ['A', 'N', 'D'] <+: front
  · obtain ⟨rest, rfl⟩ := hand
    cases rest with
    | nil => exact absurd h (by decide)
    | cons c rest =>
        simp only [dropKeyword, List.cons_append, List.nil_append, apply_ite (· ++ back)]
  · by_cases hor : ['O', 'R'] <+: front
    · obtain ⟨rest, rfl⟩ := hor
      cases rest with
      | nil => exact absurd h (by decide)
      | cons c rest =>
          simp only [dropKeyword, List.cons_append, List.nil_append, apply_ite (· ++ back)]
    · rw [dropKeyword_eq_self hand hor, dropKeyword_eq_self]
      · exact fun hprefix => hand (prefix_of_append (by decide) h hprefix)
      · exact fun hprefix => hor (prefix_of_append (by decide) h hprefix)

end Condition

theorem Tokens.Begun.append {front : Tokens} (h : front.Begun) (back : Tokens) :
    Tokens.Begun (front ++ back) := by
  match front, h with
  | .literal _ :: _, h => exact h

/-- The keyword of the first condition of a level is in its first token already, so it does not
matter whether it is looked for there or in the text. -/
theorem Tokens.Begun.draft_dropLeading {quote : Quoting} {tokens : Tokens} (h : tokens.Begun) :
    (Condition.dropLeading tokens).draft quote = (tokens.draft quote).beheaded := by
  match tokens, h with
  | .literal text :: rest, h =>
      rw [Condition.dropLeading, draft_literal, draft_literal]
      have htext :
          (Draft.plain text ++ draft quote rest).text = text ++ render quote rest := rfl
      rw [Draft.beheaded, htext, String.toList_append, Condition.dropKeyword_append h,
        String.ofList_append, String.ofList_toList]
      rfl

/-! ### Values -/

namespace Value

/-- A dotted path with each of its segments quoted. An empty segment stays empty. -/
def quotedPath (quote : Quoting) (path : String) : String :=
  ".".intercalate ((Identifier.segments path.toList).map fun segment =>
    if segment.isEmpty then "" else quote (String.ofList segment))

mutual

/-- The text of a value: an argument is quoted where its names stand, and what it is made from is
text in the default quoting. -/
def written (scope : Scope) (quote : Quoting) : Value → Except Error String
  | text characters => .ok characters
  | query id => scope.statement id
  | argument .raw value _ => value.written scope Identifier.backtick
  | argument .method value parameters => do
      let parameters ← parametersWritten scope quote parameters
      let name ← value.written scope Identifier.backtick
      return name ++ "(" ++ ", ".intercalate parameters ++ ")"
  | argument .column value parameters | argument .table value parameters =>
      if value.isWildcard then .ok Identifier.wildcard
      else do
        let path ← value.written scope Identifier.backtick
        let suffix ← aliasWritten scope quote parameters
        return quotedPath quote path ++ suffix
  | value => value.shown scope.toReferences

def parametersWritten (scope : Scope) (quote : Quoting) : List Value → Except Error (List String)
  | [] => .ok []
  | value :: rest => do
      let first ←
        if value.isArgument then value.written scope quote
        else if value.isWildcard then .ok Identifier.wildcard
        else quotedPath quote <$> value.written scope Identifier.backtick
      let others ← parametersWritten scope quote rest
      return first :: others

def aliasWritten (scope : Scope) (quote : Quoting) : List Value → Except Error String
  | [] => .ok ""
  | value :: _ =>
      if value.truthy then do
        let name ← value.written scope Identifier.backtick
        return " AS " ++ quote name
      else .ok ""

end

theorem eq_of_isWildcard {value : Value} (h : value.isWildcard = true) :
    value = text Identifier.wildcard := by
  cases value with
  | text characters => exact congrArg text (eq_of_beq h)
  | _ => cases h

theorem render_path (quote : Quoting) (path : String) :
    (Tokens.path path).render quote = quotedPath quote path := by
  rw [Tokens.path, Tokens.render_joined, List.map_map, quotedPath]
  congr 1
  refine List.map_congr_left fun segment _ => ?_
  simp only [Function.comp_def]
  split
  · exact Tokens.render_nil quote
  · simp [Token.render]

mutual

theorem written_eq (scope : Scope) : ∀ (quote : Quoting) (value : Value),
    value.written scope quote = Tokens.render quote <$> value.tokens scope
  | quote, .text characters => by
      rw [written, tokens]
      exact congrArg Except.ok (Tokens.render_literal quote _).symm
  | quote, .query id => by
      simp only [written, tokens, map_bind, map_pure, Tokens.render_literal, bind_pure]
  | quote, .argument .raw value parameters => by
      simp only [written, tokens, written_eq scope _ value, plainText, map_eq_pure_bind,
        bind_assoc, pure_bind, Tokens.render_literal]
  | quote, .argument .method value parameters => by
      simp only [written, tokens, written_eq scope _ value, parametersWritten_eq scope _ parameters,
        plainText, map_eq_pure_bind, bind_assoc, pure_bind, Tokens.render_append,
        Tokens.render_cons, Tokens.render_joined, Tokens.render_nil, Token.render,
        String.append_empty]
  | quote, .argument .column value parameters | quote, .argument .table value parameters => by
      simp only [written, tokens]
      split
      · exact congrArg Except.ok (Tokens.render_literal quote _).symm
      · simp only [written_eq scope _ value, aliasWritten_eq scope _ parameters, plainText,
          map_eq_pure_bind, bind_assoc, pure_bind, Tokens.render_append, render_path]
  | quote, .null | quote, .bool _ | quote, .int _ | quote, .float _ | quote, .undefined _
  | quote, .bytes _ | quote, .list _ | quote, .tuple _ | quote, .set _ | quote, .frozenset _
  | quote, .map _ | quote, .fragment _ | quote, .group _ | quote, .queryBlueprint _
  | quote, .blueprint _ | quote, .callback _ => by
      simp only [written, tokens, map_bind, map_pure, Tokens.render_literal, bind_pure]

theorem parametersWritten_eq (scope : Scope) : ∀ (quote : Quoting) (values : List Value),
    parametersWritten scope quote values =
      List.map (Tokens.render quote) <$> parameterTokens scope values
  | quote, [] => rfl
  | quote, value :: rest => by
      simp only [parametersWritten, parameterTokens, parametersWritten_eq scope _ rest,
        written_eq scope _ value, plainText, map_eq_pure_bind, bind_assoc, pure_bind,
        List.map_cons]
      by_cases hargument : value.isArgument = true
      · simp only [hargument, if_true]
      · by_cases hwild : value.isWildcard = true
        · obtain rfl := eq_of_isWildcard hwild
          simp only [hargument, hwild, if_true, Bool.false_eq_true, if_false, tokens,
            Outcome.ok_bind, Tokens.render_literal]
        · simp only [hargument, hwild, Bool.false_eq_true, if_false, render_path]

theorem aliasWritten_eq (scope : Scope) : ∀ (quote : Quoting) (values : List Value),
    aliasWritten scope quote values = Tokens.render quote <$> aliasTokens scope values
  | quote, [] => by
      rw [aliasWritten, aliasTokens]
      exact congrArg Except.ok (Tokens.render_nil quote).symm
  | quote, value :: rest => by
      simp only [aliasWritten, aliasTokens]
      split
      · simp only [written_eq scope _ value, plainText, map_eq_pure_bind, bind_assoc, pure_bind,
          Tokens.render_cons, Tokens.render_nil, Token.render, String.append_empty]
      · exact congrArg Except.ok (Tokens.render_nil quote).symm

end

theorem sql_eq_written (scope : Scope) (quote : Quoting) (value : Value) :
    value.sql scope quote = value.written scope quote := by
  rw [written_eq, sql, map_eq_pure_bind]

end Value

/-! ### Conditions -/

namespace Draft

theorem append_assoc (front middle back : Draft) :
    front ++ middle ++ back = front ++ (middle ++ back) := by
  change Draft.mk _ _ = Draft.mk _ _
  rw [Draft.mk.injEq]
  exact ⟨String.append_assoc, List.append_assoc ..⟩

theorem append_plain_empty (draft : Draft) : draft ++ plain "" = draft := by
  change Draft.mk _ _ = _
  rw [plain, String.append_empty, List.append_nil]

variable (scope : Scope) (quote : Quoting)

def identifier (value : Value) : Except Error Draft :=
  if value.isArgument then plain <$> value.written scope quote
  else if value.truthy then do
    let name ← value.written scope Identifier.backtick
    return plain (quote name)
  else .ok (plain "")

def aliased (value aliasName : Value) : Except Error Draft := do
  let name ← identifier scope quote value
  if aliasName.truthy then
    return name ++ plain " AS " ++ (← identifier scope quote aliasName)
  else return name

def bound (clause : Clause) (value : Value) : Except Error Draft :=
  match value with
  | .argument .. => plain <$> value.written scope quote
  | .list items | .tuple items | .set items | .frozenset items =>
      if items.isEmpty then .error (.emptyList clause)
      else .ok (plain "(" ++ joined ", " (items.map placeholder) ++ plain ")")
  | _ => .ok (placeholder value)

mutual

def pieces (clause : Clause) : List Condition → Except Error (List Draft)
  | [] => .ok []
  | condition :: rest => do
      let piece ← piece? clause condition
      let others ← pieces clause rest
      return piece.toList ++ others

def piece? (clause : Clause) : Condition → Except Error (Option Draft)
  | .comparison keyword column operator value => do
      let value ← bound scope quote clause value
      let keyword ← keyword.written scope Identifier.backtick
      let column ← identifier scope quote column
      let operator ← operator.written scope Identifier.backtick
      return some (plain (keyword ++ " ") ++ column ++ plain (" " ++ operator ++ " ") ++ value)
  | .group _ [] => .ok none
  | .group keyword members => do
      let inner ← pieces clause members
      let keyword ← keyword.written scope Identifier.backtick
      return some (plain (keyword ++ " (") ++ (joined " " inner).beheaded ++ plain ")")
  | .malformed value => do
      discard (bound scope quote clause value)
      throw .noAttribute

end

def level (clause : Clause) (conditions : List Condition) : Except Error Draft := do
  return (joined " " (← pieces scope quote clause conditions)).beheaded

theorem toText_eq (value : Value) :
    value.toText scope = value.written scope Identifier.backtick := by
  rw [Value.written_eq, Value.toText, map_eq_pure_bind]
  rfl

theorem plain_written {value : Value} (h : value.isArgument = true) :
    plain <$> value.written scope quote = Tokens.draft quote <$> value.tokens scope := by
  rw [Value.written_eq]
  cases htokens : value.tokens scope with
  | error cause => rfl
  | ok tokens =>
      have hparameters : tokens.parameters = [] :=
        (Assembled.argument h htokens).parameters.trans (Value.bound_ingredients value)
      change Except.ok (Draft.mk _ []) = Except.ok (Draft.mk _ _)
      rw [hparameters]

theorem identifier_eq (value : Value) :
    identifier scope quote value = Tokens.draft quote <$> value.identifier scope := by
  rw [identifier, Value.identifier]
  split
  · next h => exact plain_written scope quote h
  · split
    · simp only [toText_eq, map_eq_pure_bind, bind_assoc, pure_bind, Tokens.draft_name,
        Tokens.draft_nil, append_plain_empty]
    · exact congrArg Except.ok Tokens.draft_nil.symm

theorem aliased_eq (value aliasName : Value) :
    aliased scope quote value aliasName = Tokens.draft quote <$> value.aliased scope aliasName := by
  rw [aliased, Value.aliased]
  split
  · simp only [identifier_eq, map_eq_pure_bind, bind_assoc, pure_bind, Tokens.draft_append,
      Tokens.draft_literal, append_assoc]
  · simp only [identifier_eq, map_eq_pure_bind, bind_assoc, pure_bind]

theorem draft_slot (value : Value) : Tokens.draft quote [.slot value] = placeholder value := by
  rw [Tokens.draft_slot, Tokens.draft_nil, append_plain_empty]

theorem draft_slots (items : List Value) :
    Tokens.draft quote (.literal "(" :: Tokens.joined ", " (items.map fun item => [.slot item]) ++
        [.literal ")"]) =
      plain "(" ++ joined ", " (items.map placeholder) ++ plain ")" := by
  simp only [Tokens.draft_append, Tokens.draft_literal, Tokens.draft_joined, draft_slot,
    Tokens.draft_nil, append_plain_empty, List.map_map, Function.comp_def]

theorem bound_eq (clause : Clause) (value : Value) :
    bound scope quote clause value =
      Tokens.draft quote <$> Condition.boundTokens scope clause value := by
  cases value with
  | argument kind value parameters => exact plain_written scope quote rfl
  | list items | tuple items | set items | frozenset items =>
      rw [bound, Condition.boundTokens]
      split
      · rfl
      · exact congrArg Except.ok (draft_slots quote items).symm
  | _ => exact congrArg Except.ok (draft_slot quote _).symm

theorem begun_piece {clause : Clause} {condition : Condition} {piece : Tokens}
    (h : condition.piece? scope clause = .ok (some piece)) : piece.Begun := by
  cases condition with
  | comparison keyword column operator value =>
      rw [Condition.piece?] at h
      obtain ⟨bound, -, h⟩ := bind_eq_ok.1 h
      obtain ⟨word, -, h⟩ := bind_eq_ok.1 h
      obtain ⟨name, -, h⟩ := bind_eq_ok.1 h
      obtain ⟨sign, -, h⟩ := bind_eq_ok.1 h
      obtain rfl := Option.some.inj (pure_eq_ok.1 h)
      simp [Tokens.Begun]
  | group keyword members =>
      cases members with
      | nil => cases h
      | cons member rest =>
          rw [Condition.piece?] at h
          · obtain ⟨inner, -, h⟩ := bind_eq_ok.1 h
            obtain ⟨word, -, h⟩ := bind_eq_ok.1 h
            obtain rfl := Option.some.inj (pure_eq_ok.1 h)
            simp [Tokens.Begun]
          · exact fun hnil => nomatch hnil
  | malformed value =>
      rw [Condition.piece?] at h
      obtain ⟨_, -, h⟩ := bind_eq_ok.1 h
      cases h

theorem begun_pieces {clause : Clause} {conditions : List Condition} {pieces : List Tokens}
    (h : Condition.pieces scope clause conditions = .ok pieces) :
    ∀ piece ∈ pieces, piece.Begun := by
  induction conditions generalizing pieces with
  | nil =>
      cases h
      simp
  | cons condition rest ih =>
      rw [Condition.pieces] at h
      obtain ⟨first, hfirst, h⟩ := bind_eq_ok.1 h
      obtain ⟨others, hothers, h⟩ := bind_eq_ok.1 h
      obtain rfl := pure_eq_ok.1 h
      intro piece hpiece
      rcases List.mem_append.1 hpiece with hmem | hmem
      · obtain rfl := Option.mem_toList.1 hmem
        exact begun_piece scope hfirst
      · exact ih hothers piece hmem

theorem draft_leading {pieces : List Tokens} (h : ∀ piece ∈ pieces, piece.Begun) :
    Tokens.draft quote (Condition.dropLeading (Tokens.joined " " pieces)) =
      (joined " " (pieces.map (Tokens.draft quote))).beheaded := by
  rw [← Tokens.draft_joined]
  cases pieces with
  | nil =>
      change Tokens.draft quote [] = (Tokens.draft quote []).beheaded
      rw [Tokens.draft_nil]
      rfl
  | cons piece rest =>
      have hpiece := h piece List.mem_cons_self
      cases rest with
      | nil =>
          rw [Tokens.joined_singleton]
          exact hpiece.draft_dropLeading
      | cons next others =>
          rw [Tokens.joined_cons_cons]
          exact (hpiece.append _).draft_dropLeading

mutual

theorem pieces_eq (clause : Clause) : ∀ conditions : List Condition,
    pieces scope quote clause conditions =
      List.map (Tokens.draft quote) <$> Condition.pieces scope clause conditions
  | [] => rfl
  | condition :: rest => by
      rw [pieces, Condition.pieces, piece_eq clause condition, pieces_eq clause rest]
      simp only [map_eq_pure_bind, bind_assoc, pure_bind, List.map_append,
        Option.toList_map]

theorem piece_eq (clause : Clause) : ∀ condition : Condition,
    piece? scope quote clause condition =
      Option.map (Tokens.draft quote) <$> condition.piece? scope clause
  | .comparison keyword column operator value => by
      rw [piece?, Condition.piece?]
      simp only [bound_eq, identifier_eq, toText_eq, map_eq_pure_bind, bind_assoc, pure_bind,
        Option.map_some, Tokens.draft_append, Tokens.draft_literal, append_assoc]
  | .group _ [] => rfl
  | .group keyword (member :: rest) => by
      rw [piece?, Condition.piece?]
      · rw [pieces_eq clause (member :: rest)]
        cases hinner : Condition.pieces scope clause (member :: rest) with
        | error cause => rfl
        | ok inner =>
            simp only [toText_eq, map_eq_pure_bind, bind_assoc, pure_bind, ok_bind,
              Option.map_some, Tokens.draft_append, Tokens.draft_literal, Tokens.draft_nil,
              draft_leading quote (begun_pieces scope hinner), append_plain_empty, append_assoc]
      · exact fun hnil => nomatch hnil
      · exact fun hnil => nomatch hnil
  | .malformed value => by
      rw [piece?, Condition.piece?, bound_eq]
      cases Condition.boundTokens scope clause value <;> rfl

end

theorem level_eq (clause : Clause) (conditions : List Condition) :
    level scope quote clause conditions =
      Tokens.draft quote <$> Condition.levelTokens scope clause conditions := by
  rw [level, Condition.levelTokens, pieces_eq]
  cases hpieces : Condition.pieces scope clause conditions with
  | error cause => rfl
  | ok pieces => exact congrArg Except.ok (draft_leading quote (begun_pieces scope hpieces)).symm

end Draft

end SqlBuilder
