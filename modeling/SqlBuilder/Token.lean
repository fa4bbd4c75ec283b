import SqlBuilder.Identifier
import SqlBuilder.Text.Blank
import SqlBuilder.Value

/-!
# Tokens of a statement

A statement is compiled to tokens before it is text. A token is text that stands as it is, a segment
of an identifier that is still to be quoted, or a placeholder together with the value bound to it.
So the text and the parameters are two readings of one list, which keeps them aligned, and nothing
in the list depends on how identifiers are quoted.
-/

namespace SqlBuilder

inductive Token where
  | literal (characters : String)
  | name (segment : String)
  | slot (value : Value)

namespace Token

def render (quote : Quoting) : Token → String
  | literal characters => characters
  | name segment => quote segment
  | slot _ => "?"

def parameter? : Token → Option Value
  | slot value => some value
  | _ => none

/-- Whether the token leaves nothing in the text. -/
def vanishes : Token → Bool
  | literal characters => characters.isEmpty
  | _ => false

end Token

/-- A piece of a statement. -/
abbrev Tokens := List Token

namespace Tokens

def render (quote : Quoting) (tokens : Tokens) : String :=
  String.join (tokens.map (Token.render quote))

def parameters (tokens : Tokens) : List Value :=
  tokens.filterMap Token.parameter?

def vanishes (tokens : Tokens) : Bool :=
  tokens.all Token.vanishes

@[simp] theorem render_nil (quote : Quoting) : render quote [] = "" := by
  simp [render]

@[simp] theorem render_cons (quote : Quoting) (token : Token) (rest : Tokens) :
    render quote (token :: rest) = token.render quote ++ render quote rest := by
  simp [render]

@[simp] theorem render_append (quote : Quoting) (front back : Tokens) :
    render quote (front ++ back) = render quote front ++ render quote back := by
  simp [render]

@[simp] theorem parameters_nil : parameters [] = [] := rfl

@[simp] theorem parameters_literal (characters : String) (rest : Tokens) :
    parameters (.literal characters :: rest) = parameters rest := rfl

@[simp] theorem parameters_name (segment : String) (rest : Tokens) :
    parameters (.name segment :: rest) = parameters rest := rfl

@[simp] theorem parameters_slot (value : Value) (rest : Tokens) :
    parameters (.slot value :: rest) = value :: parameters rest := rfl

@[simp] theorem parameters_append (front back : Tokens) :
    parameters (front ++ back) = parameters front ++ parameters back := by
  simp [parameters]

@[simp] theorem vanishes_nil : vanishes [] = true := rfl

@[simp] theorem vanishes_append (front back : Tokens) :
    vanishes (front ++ back) = (vanishes front && vanishes back) := by
  simp [vanishes]

/-- Pieces with a text between each two of them. -/
def joined (separator : String) (pieces : List Tokens) : Tokens :=
  List.intercalate [Token.literal separator] pieces

@[simp] theorem joined_singleton (separator : String) (piece : Tokens) :
    joined separator [piece] = piece := by
  simp [joined, List.intercalate]

@[simp] theorem joined_cons_cons (separator : String) (piece next : Tokens) (rest : List Tokens) :
    joined separator (piece :: next :: rest) =
      piece ++ .literal separator :: joined separator (next :: rest) := by
  simp [joined, List.intercalate]

/-- A piece behind its keyword; an empty piece leaves nothing, not even the keyword. -/
def headed (keyword : String) (body : Tokens) : Tokens :=
  if body.vanishes then []
  else if keyword.isEmpty then body
  else .literal (keyword ++ " ") :: body

/-- The pieces that are not empty, separated by spaces. -/
def spaced (pieces : List Tokens) : Tokens :=
  joined " " (pieces.filter fun piece => !piece.vanishes)

/-- A dotted path: its segments are names, except the empty ones. -/
def path (characters : String) : Tokens :=
  joined "." ((Identifier.segments characters.toList).map fun segment =>
    if segment.isEmpty then [] else [.name (String.ofList segment)])

theorem headed_of_vanishes (keyword : String) {body : Tokens} (h : body.vanishes = true) :
    headed keyword body = [] := by
  simp [headed, h]

/-- A piece that leaves nothing in the text binds nothing. -/
theorem parameters_of_vanishes {body : Tokens} (h : body.vanishes = true) :
    body.parameters = [] := by
  induction body with
  | nil => rfl
  | cons token rest ih =>
      cases token with
      | literal characters =>
          rw [parameters_literal]
          exact ih (by simp_all [vanishes])
      | name segment => simp [vanishes, Token.vanishes] at h
      | slot value => simp [vanishes, Token.vanishes] at h

@[simp] theorem parameters_headed (keyword : String) (body : Tokens) :
    (headed keyword body).parameters = body.parameters := by
  by_cases hbody : body.vanishes = true
  · rw [headed_of_vanishes keyword hbody, parameters_of_vanishes hbody]
    rfl
  · by_cases hkeyword : keyword.isEmpty = true
    · simp [headed, hbody, hkeyword]
    · simp [headed, hbody, hkeyword]

/-- Drops what is blank at the front, up to the first token that is not. -/
def trimStart : Tokens → Tokens
  | .literal characters :: rest =>
      match Text.trimStart characters.toList with
      | [] => trimStart rest
      | trimmed => .literal (String.ofList trimmed) :: rest
  | tokens => tokens

/-- Drops what is blank at the back, given the tokens from the last to the first. -/
def trimBack : Tokens → Tokens
  | .literal characters :: rest =>
      match Text.trimEnd characters.toList with
      | [] => trimBack rest
      | trimmed => .literal (String.ofList trimmed) :: rest
  | tokens => tokens

@[simp] theorem parameters_trimStart (tokens : Tokens) :
    (trimStart tokens).parameters = tokens.parameters := by
  fun_induction trimStart tokens <;> simp_all

@[simp] theorem parameters_trimBack (tokens : Tokens) :
    (trimBack tokens).parameters = tokens.parameters := by
  fun_induction trimBack tokens <;> simp_all

/-- The tokens of the text without the blanks at its two ends. -/
def trim (tokens : Tokens) : Tokens :=
  (trimBack (trimStart tokens).reverse).reverse

@[simp] theorem parameters_trim (tokens : Tokens) :
    (trim tokens).parameters = tokens.parameters := by
  have hreverse : ∀ tokens : Tokens,
      Tokens.parameters tokens.reverse = (Tokens.parameters tokens).reverse :=
    fun tokens => List.filterMap_reverse
  rw [trim, hreverse, parameters_trimBack, hreverse, List.reverse_reverse, parameters_trimStart]

end Tokens

end SqlBuilder
