import SqlBuilder.Assoc
import SqlBuilder.Compiler

/-!
# The registry of compilers

Each dialect has the compiler that was registered for it last. A query looks its compiler up when it
is made and keeps it. Registering under a name that is no dialect fails and changes nothing.
-/

namespace SqlBuilder

structure Registry where
  entries : List (Dialect × Compiler)

namespace Registry

def standard : Registry :=
  ⟨[(.mysql, Compiler.mysql), (.sqlite, Compiler.sqlite)]⟩

def find? (registry : Registry) (dialect : Dialect) : Option Compiler :=
  Assoc.find? registry.entries dialect

def register (registry : Registry) (dialect : Value) (compiler : Compiler) :
    Except Error Registry := do
  let dialect ← Dialect.read dialect
  return ⟨Assoc.place registry.entries dialect compiler⟩

theorem find?_register {registry registered : Registry} {dialect : Value} {compiler : Compiler}
    (h : registry.register dialect compiler = .ok registered) (other : Dialect) :
    registered.find? other =
      if Dialect.ofValue? dialect = some other then some compiler else registry.find? other := by
  simp only [register, Dialect.read] at h
  split at h
  · next known hknown =>
      simp only [bind, Except.bind, pure, Except.pure, Except.ok.injEq] at h
      subst h
      simp only [find?, Assoc.find?_place, hknown, Option.some.injEq, beq_iff_eq]
  · simp [bind, Except.bind] at h

/-- The names of the registered dialects in order. -/
def dialects (registry : Registry) : List String :=
  (registry.entries.map fun entry => entry.1.name).mergeSort fun a b => a ≤ b

/-- The compiler of a dialect. -/
def create (registry : Registry) (dialect : Value) : Except Error Compiler :=
  match (Dialect.ofValue? dialect).bind registry.find? with
  | some compiler => .ok compiler
  | none => .error (Error.unknownDialect dialect registry.dialects).worded

end Registry

end SqlBuilder
