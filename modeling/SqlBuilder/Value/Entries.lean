import SqlBuilder.Assoc
import SqlBuilder.Error
import SqlBuilder.Value.Equality

/-!
# Entries

Maps, rows and fragments are lists of entries in the order in which their keys first came. Giving a
key a value a second time replaces the value and keeps the place.
-/

namespace SqlBuilder.Entries

def find? (entries : Entries) (key : Value) : Option Value :=
  Assoc.find? entries key

theorem find?_cons_text (name other : String) (value : Value) (rest : Entries) :
    find? ((.text name, value) :: rest) (.text other) =
      if name = other then some value else find? rest (.text other) := by
  have hsame : (Value.text name == Value.text other) = decide (name = other) := by
    rw [Bool.eq_iff_iff, decide_eq_true_iff]
    exact beq_iff_eq (a := name) (b := other)
  rw [find?, Assoc.find?, List.find?_cons, hsame]
  by_cases h : name = other
  · simp [h]
  · simp [h, find?, Assoc.find?]

/-- The value under a name, absent if there is none. -/
def read (entries : Entries) (name : String) : Value :=
  (find? entries (.text name)).getD .null

def contains (entries : Entries) (key : Value) : Bool :=
  (find? entries key).isSome

def keys (entries : Entries) : List Value :=
  entries.map Prod.fst

def values (entries : Entries) : List Value :=
  entries.map Prod.snd

def put (entries : Entries) (key value : Value) : Entries :=
  Assoc.place entries key value

/-- Adds each of the second entries in turn. -/
def update (entries additions : Entries) : Entries :=
  additions.foldl (fun entries entry => put entries entry.1 entry.2) entries

/-- Entries from pairs, whose keys must be values that do not change. -/
def ofPairs (pairs : List (Value × Value)) : Except Error Entries :=
  if pairs.all fun pair => pair.1.hashable then .ok (update [] pairs) else .error .wrongKind

end SqlBuilder.Entries
