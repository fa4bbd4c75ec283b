import SqlBuilder.Error
import SqlBuilder.Token

/-!
# Arguments and the text of values

An argument is written into the statement instead of being bound: raw text as it is, a method as a
call whose parameters are identifiers, a column or table as a quoted path with an optional alias.
The text of a query is the statement it stands for, which may be one that cannot be compiled. The
text of any other value is the way a dump shows it, except that text stands for itself. The text of
an argument is its statement text in the default quoting, so an argument inside raw text or used as
a name is quoted that way before anything else happens to it.
-/

namespace SqlBuilder

/-- What the queries and blueprints that a statement mentions stand for: in dumps, and as text the
statement of a query. -/
structure Scope extends References where
  statement : Nat → Except Error String

namespace Value

/-- A value as a dump shows it. -/
def shown (references : References) (value : Value) : Except Error String :=
  match value.quoted? references with
  | some characters => .ok characters
  | none => .error .badValue

/-- Text in the default quoting. -/
def plainText (tokens : Tokens) : String :=
  tokens.render Identifier.backtick

mutual

def tokens (scope : Scope) : Value → Except Error Tokens
  | text characters => .ok [.literal characters]
  | query id => do return [.literal (← scope.statement id)]
  | argument .raw value _ => do return [.literal (plainText (← value.tokens scope))]
  | argument .method value parameters => do
      let parameters ← parameterTokens scope parameters
      let name ← value.tokens scope
      return .literal (plainText name ++ "(") :: Tokens.joined ", " parameters ++ [.literal ")"]
  | argument .column value parameters | argument .table value parameters =>
      if value.isWildcard then .ok [.literal Identifier.wildcard]
      else do
        let path ← value.tokens scope
        let aliased ← aliasTokens scope parameters
        return Tokens.path (plainText path) ++ aliased
  | value => do return [.literal (← value.shown scope.toReferences)]

/-- The parameters of a call: arguments as they are written, the wildcard, and identifiers. -/
def parameterTokens (scope : Scope) : List Value → Except Error (List Tokens)
  | [] => .ok []
  | value :: rest => do
      let tokens ← value.tokens scope
      let others ← parameterTokens scope rest
      let first :=
        if value.isArgument then tokens
        else if value.isWildcard then [.literal Identifier.wildcard]
        else Tokens.path (plainText tokens)
      return first :: others

/-- The first parameter of a column or table, if there is one, is its alias. -/
def aliasTokens (scope : Scope) : List Value → Except Error Tokens
  | [] => .ok []
  | value :: _ =>
      if value.truthy then do
        let name ← value.tokens scope
        return [.literal " AS ", .name (plainText name)]
      else .ok []

end

/-- A value as text. -/
def toText (scope : Scope) (value : Value) : Except Error String := do
  return plainText (← value.tokens scope)

@[simp] theorem toText_text (scope : Scope) (characters : String) :
    (text characters).toText scope = .ok characters := by
  simp [toText, tokens, plainText, Token.render, bind, Except.bind, pure, Except.pure]

/-- The statement text of an argument under a quoting. -/
def sql (scope : Scope) (quote : Quoting) (value : Value) : Except Error String := do
  return (← value.tokens scope).render quote

/-- A value in a place for an identifier: an argument is written as such, an absent value leaves the
place empty, and anything else is one undivided name. -/
def identifier (scope : Scope) (value : Value) : Except Error Tokens :=
  if value.isArgument then value.tokens scope
  else if value.truthy then do return [.name (← value.toText scope)]
  else .ok []

/-- An identifier with its alias, if it has one. -/
def aliased (scope : Scope) (value aliasName : Value) : Except Error Tokens := do
  let name ← value.identifier scope
  if aliasName.truthy then
    return name ++ .literal " AS " :: (← aliasName.identifier scope)
  else return name

end Value

end SqlBuilder
