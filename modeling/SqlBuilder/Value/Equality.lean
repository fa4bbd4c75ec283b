import SqlBuilder.Value.Number

/-!
# Equality and order of values

Numbers are equal across their kinds, sets across theirs, and maps are equal when they have the same
entries in any order. Lists and tuples are compared item by item. Queries, blueprints, callbacks and
doubles that are no numbers are equal only to themselves. The order is partial: numbers, texts,
octets and sequences are ordered among themselves, sets by proper inclusion, and two values of
different kinds not at all.
-/

namespace SqlBuilder.Value

/-- Equality of values that are not built from other values. -/
def sameAtom (v w : Value) : Bool :=
  match v, w with
  | null, null => true
  | text s, text t => s == t
  | bytes a, bytes b => a == b
  | undefined a, undefined b => a == b
  | query a, query b => a == b
  | queryBlueprint a, queryBlueprint b => a == b
  | blueprint a, blueprint b => a == b
  | callback a, callback b => a == b
  | v, w =>
      match v.number?, w.number? with
      | some a, some b => a.equals b
      | _, _ => false

mutual

def same (v w : Value) : Bool :=
  match v, w with
  | list a, list b | tuple a, tuple b | group a, group b => sameItems a b
  | set a, set b | set a, frozenset b | frozenset a, set b | frozenset a, frozenset b =>
      a.length == b.length && itemsIn a b
  | map a, map b | fragment a, fragment b => a.length == b.length && entriesIn a b
  | argument kind value parameters, argument kind' value' parameters' =>
      kind == kind' && same value value' && sameItems parameters parameters'
  | v, w => sameAtom v w
termination_by structural v

def sameItems (as bs : List Value) : Bool :=
  match as, bs with
  | [], [] => true
  | a :: as, b :: bs => same a b && sameItems as bs
  | _, _ => false
termination_by structural as

def itemsIn (as bs : List Value) : Bool :=
  match as with
  | [] => true
  | a :: as => bs.any (same a ·) && itemsIn as bs
termination_by structural as

def entriesIn (as bs : Entries) : Bool :=
  match as with
  | [] => true
  | (key, value) :: as =>
      bs.any (fun entry => same key entry.1 && same value entry.2) && entriesIn as bs
termination_by structural as

end

instance : BEq Value := ⟨same⟩

/-- Whether one list of octets comes before another. -/
def octetsBelow : List UInt8 → List UInt8 → Bool
  | [], [] | _ :: _, [] => false
  | [], _ :: _ => true
  | a :: as, b :: bs => if a == b then octetsBelow as bs else a < b

mutual

/-- Whether one value comes before another, if the two are ordered at all. -/
def below? (v w : Value) : Option Bool :=
  match v, w with
  | text s, text t => some (s < t)
  | bytes a, bytes b => some (octetsBelow a b)
  | list a, list b | tuple a, tuple b => itemsBelow? a b
  | set a, set b | set a, frozenset b | frozenset a, set b | frozenset a, frozenset b =>
      some (a.length < b.length && itemsIn a b)
  | v, w =>
      match v.number?, w.number? with
      | some a, some b => some (a.below b)
      | _, _ => none
termination_by structural v

/-- Sequences are ordered by the first place where they differ. -/
def itemsBelow? (as bs : List Value) : Option Bool :=
  match as, bs with
  | [], [] | _ :: _, [] => some false
  | [], _ :: _ => some true
  | a :: as, b :: bs => if same a b then itemsBelow? as bs else below? a b
termination_by structural as

end

end SqlBuilder.Value
