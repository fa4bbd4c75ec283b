import SqlBuilder.Blueprint

/-!
# Snapshots

A union refers to other queries, which go on changing; what is compiled is the state they have at
that moment. A snapshot is a blueprint together with the blueprints of its union members, theirs,
and so on down. Something in the place of a member that is no query is kept as the failure it leads
to.
-/

namespace SqlBuilder

inductive Member where
  | statement (blueprint : Blueprint) (members : List Member)
  | invalid (cause : Error)

structure Snapshot where
  blueprint : Blueprint
  members : List Member

namespace Snapshot

/-- The members of a blueprint's union, followed to the given depth. -/
def membersOf (resolve : Value → Except Error Blueprint) : Nat → Blueprint → List Member
  | 0, blueprint => (blueprint.fragments .union).map fun _ => .invalid .endless
  | depth + 1, blueprint =>
      (blueprint.fragments .union).map fun fragment =>
        match resolve (fragment.read "query") with
        | .ok member => .statement member (membersOf resolve depth member)
        | .error cause => .invalid cause

def take (resolve : Value → Except Error Blueprint) (depth : Nat) (blueprint : Blueprint) :
    Snapshot :=
  ⟨blueprint, membersOf resolve depth blueprint⟩

end Snapshot

end SqlBuilder
