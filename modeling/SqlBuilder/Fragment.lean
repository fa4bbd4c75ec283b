import SqlBuilder.Value.Entries

/-!
# Fragments

A fragment is one piece of a clause: a record of attributes that never changes. An attribute that is
not there reads as absent, so optional attributes need no special care where fragments are compiled.
-/

namespace SqlBuilder

structure Fragment where
  attributes : Entries
deriving Inhabited

namespace Fragment

/-- A fragment with the given attributes in the given order. -/
def of (attributes : List (String × Value)) : Fragment :=
  ⟨attributes.map fun entry => (.text entry.1, entry.2)⟩

/-- A fragment of some attributes and of further ones, which win. -/
def merge (attributes additions : Entries) : Fragment :=
  ⟨Entries.update attributes additions⟩

def read (fragment : Fragment) (name : String) : Value :=
  fragment.attributes.read name

def toValue (fragment : Fragment) : Value :=
  .fragment fragment.attributes

def ofValue? : Value → Option Fragment
  | .fragment attributes => some ⟨attributes⟩
  | _ => none

/-- What a fragment shows under a name: all its attributes under `data`, nothing under names that
begin with two underscores, and the attribute of that name otherwise. -/
def shown (fragment : Fragment) (name : String) : Except Error Value :=
  match name.toList with
  | '_' :: '_' :: _ => .error .noAttribute
  | _ => if name == "data" then .ok (.map fragment.attributes) else .ok (fragment.read name)

/-- What stands under a key, which must be a value that does not change. -/
def find (fragment : Fragment) (key : Value) : Except Error (Option Value) :=
  if key.hashable then .ok (Entries.find? fragment.attributes key) else .error .wrongKind

/-- Reading an item fails where an attribute would read as absent. -/
def item (fragment : Fragment) (key : Value) : Except Error Value := do
  match ← fragment.find key with
  | some value => return value
  | none => throw .missingKey

def get (fragment : Fragment) (key fallback : Value) : Except Error Value := do
  return (← fragment.find key).getD fallback

def has (fragment : Fragment) (key : Value) : Except Error Bool := do
  return (← fragment.find key).isSome

/-- Nothing can be written to a fragment. -/
def set (_ : Fragment) (_ : String) (_ : Value) : Except Error Fragment :=
  .error .immutableFragment

end Fragment

end SqlBuilder
