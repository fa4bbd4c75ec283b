import SqlBuilder.Clause
import SqlBuilder.Value.Quoted

/-!
# What can go wrong

Every failure is a cause: a clause that cannot be compiled, a connection that cannot be used,
options that are refused, a value of the wrong kind, a driver that reports a failure of its own. The
wording of a failure is one function of its cause and of what the queries and blueprints it names
look like. Causes that any misuse of a value can have carry no wording.
-/

namespace SqlBuilder

/-- The names from which a value was expected to be one. -/
inductive Vocabulary where
  | statementType
  | clause
  | dialect
deriving DecidableEq

def Vocabulary.name : Vocabulary → String
  | .statementType => "StatementType"
  | .clause => "Clause"
  | .dialect => "Dialect"

/-- Why an option is refused. -/
inductive Problem where
  | tooSmall
  | unknownField
  | tooShort
  | notText
  | notWhole
  | unreadable
  | outsized
  | fraction
  | notFinite
  | invalidOctets
  | frozen
deriving DecidableEq

inductive Error where
  | missingTable (type : StatementType)
  | missingValues
  | unevenRow (number : Nat) (row first : List Value)
  | missingAssignments
  | missingConflictTarget
  | emptyList (clause : Clause)
  | unsupportedStatement (type : Value)
  | unknownDialect (dialect : Value) (registered : List String)
  | unsupportedConnection (typeName : String) (dialect : Value) (registered : List String)
  | noDefaultConnection
  | dialectNotInferred (name : Value)
  | unsupportedParamstyle (style : Value)
  | driver (message : String)
  | refusedOptions (problems : List (String × Problem))
  | chunkSize (size : Value)
  | insertData
  | immutableFragment
  | immutableArgument
  | unknownLevel (level : Value)
  | notAMember (value : Value) (vocabulary : Vocabulary)
  | wrongKind
  | badValue
  | noAttribute
  | noField (name : String)
  | missingKey
  | outOfRange
  | tooLarge
  | outOfMemory
  | endless
deriving Inhabited

namespace Error

/-- The names of the registered dialects, as a list. -/
def dialectList? (references : References) (names : List String) : Option String :=
  Value.quotedList? references (names.map Value.text)

def unknownDialectMessage? (references : References) (dialect : Value)
    (registered : List String) : Option String := do
  let shown ← dialect.quoted? references
  let names ← dialectList? references registered
  return "Unsupported dialect: " ++ shown ++ ". Registered dialects: " ++ names ++ "."

/-- The wording of a failure, for those that have one. -/
def message? (references : References) : Error → Option String
  | missingTable type => some (type.title ++ " requires a table.")
  | missingValues => some "INSERT requires values."
  | unevenRow number row first => do
      let own ← Value.quotedList? references row
      let expected ← Value.quotedList? references first
      return "INSERT row " ++ toString number ++ " columns " ++ own ++
        " do not match the first row's " ++ expected ++ "."
  | missingAssignments => some "UPDATE requires at least one column."
  | missingConflictTarget => some "SQLite upsert requires the conflict target columns."
  | emptyList _ => some "Cannot bind an empty value list."
  | unsupportedStatement type => do
      return "Unsupported statement type: " ++ (← type.quoted? references)
  | unknownDialect dialect registered => unknownDialectMessage? references dialect registered
  | unsupportedConnection typeName dialect registered => do
      let shown ← dialect.quoted? references
      let reason ← unknownDialectMessage? references dialect registered
      return "Unsupported connection " ++ Text.quoted typeName ++ " (dialect: " ++ shown ++ "): " ++
        reason
  | noDefaultConnection => some "No default connection; call QueryFactory.set_connection()."
  | dialectNotInferred name => do
      return "Cannot infer a mortar dialect from engine dialect " ++ (← name.quoted? references) ++
        "."
  | unsupportedParamstyle style => do
      return "Unsupported driver paramstyle: " ++ (← style.quoted? references)
  | driver message => some message
  | chunkSize size => do return "chunk size must be positive, got " ++ (← size.quoted? references)
  | insertData => some "insert data must be a mapping or a sequence of mappings"
  | immutableFragment => some "Fragment is immutable"
  | unknownLevel level => do return "Unknown log level: " ++ (← level.quoted? references)
  | notAMember value vocabulary => do
      return (← value.quoted? references) ++ " is not a valid " ++ vocabulary.name
  | noField name => some name
  | refusedOptions _ | immutableArgument | wrongKind | badValue | noAttribute | missingKey
  | outOfRange | tooLarge | outOfMemory | endless => none

/-- What stands in the wording of a failure that is not one of a value itself. -/
def shown : Error → List Value
  | unevenRow _ row first => row ++ first
  | unsupportedStatement value | unknownDialect value _ | unsupportedConnection _ value _
  | dialectNotInferred value | unsupportedParamstyle value => [value]
  | _ => []

/-- What a failure comes to once it is worded. Where that takes a number that is too long to be
written, the writing fails first, and that is a failure of a value. -/
def worded (cause : Error) : Error :=
  if cause.shown.all Value.isWritable then cause else .badValue

/-- The clause that could not be compiled. -/
def clause? : Error → Option Clause
  | missingTable _ => some .tables
  | missingValues | unevenRow .. | missingConflictTarget => some .insert
  | missingAssignments => some .update
  | emptyList clause => some clause
  | _ => none

/-- The dialect for which there is no compiler. -/
def dialect : Error → Value
  | unknownDialect dialect _ | unsupportedConnection _ dialect _ | dialectNotInferred dialect =>
      dialect
  | _ => .null

end Error

end SqlBuilder
