import SqlBuilder.Connection

/-!
# Recording connections

A connection that keeps count of what it is sent and answers from rows prepared beforehand: the same
rows every time, a list of rows for each select, or the rows of a table with the keys from one to a
total, of which a statement's cursor and limit cut out a page. The parameters of a statement are
recorded one by one, so they have to be a sequence. Chosen statements can be made to fail, and after
`statementLimit` statements all do.
-/

namespace SqlBuilder

inductive Prepared where
  | nothing
  | same (rows : List Value)
  | inTurn (pages : List (List Value))
  | keyed (total : Int) (index : String)

structure RecordingConnection where
  dialect : Value
  prepared : Prepared
  failing : List Nat
  statements : Nat
  selects : Nat
  insertId : Int

namespace RecordingConnection

def statementLimit : Nat := 60

def start (dialect : Value) (prepared : Prepared) (failing : List Nat) : RecordingConnection :=
  ⟨dialect, prepared, failing, 0, 0, 0⟩

/-- The values of the digits that a text ends with, and what stands before them. The end of a line
may follow the digits. -/
def splitDigits (cs : List Char) : List Nat × List Char :=
  let reversed :=
    match cs.reverse with
    | '\n' :: rest => rest
    | reversed => reversed
  let digits := reversed.takeWhile fun c => (Text.digit? c).isSome
  (digits.reverse.filterMap Text.digit?, (reversed.drop digits.length).reverse)

/-- The number of a limit that ends a statement and has no offset. -/
def trailingLimit? (sql : String) : Option Int :=
  let (digits, before) := splitDigits sql.toList
  if !digits.isEmpty && "LIMIT ".toList.isSuffixOf before then
    some (Decimal.ofDigitValues digits)
  else none

/-- The cursor of a page: the last parameter, which has to be a whole number. -/
def cursor? (parameters : List Value) : Option Int :=
  match parameters.getLast? with
  | none => some 0
  | some (.int number) => some number
  | some _ => none

/-- The keys behind a cursor, at most `size` of them and none above `total`. -/
def pageKeys (total cursor size : Int) : List Int :=
  let last := min (cursor + size) total
  (List.range (last - cursor).toNat).map fun (place : Nat) => cursor + 1 + (place : Int)

def keyedRow (index : String) (key : Int) : Value :=
  .map (Entries.put [(.text index, .int key)] (.text "total") (.int (key * 10)))

def keyedRows (total : Int) (index sql : String) (parameters : List Value) : List Value :=
  match cursor? parameters with
  | none => []
  | some cursor =>
      (pageKeys total cursor ((trailingLimit? sql).getD total)).map (keyedRow index)

def rows (connection : RecordingConnection) (sql : String) (parameters : List Value) :
    List Value :=
  match connection.prepared with
  | .nothing => []
  | .same rows => rows
  | .inTurn pages => pages[connection.selects]?.getD []
  | .keyed total index => keyedRows total index sql parameters

/-- What the statement of a given number fails with, if it does. -/
def failure? (connection : RecordingConnection) (number : Nat) : Option Error :=
  if statementLimit < number then some (.driver "statement limit")
  else if connection.failing.contains number then
    some (.driver ("statement " ++ toString number ++ " failed"))
  else none

def insertKeyword : List Char := "INSERT".toList

def run (connection : RecordingConnection) (sql : String) (parameters : Value)
    (mapper : Option Mapper) : Run RecordingConnection :=
  let number := connection.statements + 1
  let counted := { connection with statements := number }
  match parameters.items with
  | .error cause => ⟨.error cause, [], [], counted⟩
  | .ok values =>
      let sent := [Sent.statement sql (.list values)]
      match connection.failure? number, mapper with
      | some cause, _ => ⟨.error cause, sent, [], counted⟩
      | none, none =>
          let grown := if insertKeyword.isPrefixOf sql.toList then 1 else 0
          ⟨.ok (.count (.int 1)), sent, [],
            { counted with insertId := counted.insertId + grown }⟩
      | none, some mapper =>
          ⟨.fetched <$> mapper.map (connection.rows sql values), sent, [],
            { counted with selects := counted.selects + 1 }⟩

instance : Connection RecordingConnection where
  typeName _ := "RecordingConnection"
  dialect connection := connection.dialect
  run := run
  lastInsertId connection := .ok (.int connection.insertId)

end RecordingConnection

end SqlBuilder
