import SqlBuilder.Proofs.Play
import SqlBuilder.Proofs.Writable
import SqlBuilder.Session.Defaults

/-!
# How a query is made

A query is made on a connection with the compiler that the dialect of the connection has then. When
there is none, this is logged, for which the dialect is written out as text; only if that works out
the making fails for the want of a compiler. A dialect can be any value, also a query that cannot be
written out, and then what keeps it from that is what the making fails with. With a dialect that
cannot even be shown nothing is logged.
-/

namespace SqlBuilder.Session

variable {κ σ : Type} {session : Session κ σ}

/-! ### Registering -/

theorem play_register (session : Session κ σ) (dialect : Value) (compiler : Compiler) :
    play (register dialect compiler) session =
      match session.registry.register dialect compiler with
      | .ok registry => (.ok (), { session with registry })
      | .error cause => (.error cause, session) := by
  rw [register, play_bind_ok (play_get session), play_bind, play_lift]
  cases session.registry.register dialect compiler <;> rfl

theorem play_register_unknown {dialect : Value} (h : Dialect.ofValue? dialect = none)
    (session : Session κ σ) (compiler : Compiler) :
    play (register dialect compiler) session =
      (.error (.notAMember dialect .dialect), session) := by
  rw [play_register, Registry.register, Dialect.read, h]
  rfl

theorem play_register_known {dialect : Value} {known : Dialect}
    (h : Dialect.ofValue? dialect = some known) (session : Session κ σ) (compiler : Compiler) :
    ∃ registry, play (register dialect compiler) session = (.ok (), { session with registry }) ∧
      ∀ other, registry.find? other =
        if known = other then some compiler else session.registry.find? other := by
  cases hregister : session.registry.register dialect compiler with
  | error cause =>
      rw [Registry.register, Dialect.read, h] at hregister
      cases hregister
  | ok registry =>
      rw [play_register, hregister]
      refine ⟨registry, rfl, fun other => ?_⟩
      rw [Registry.find?_register hregister, h]
      simp only [Option.some.injEq]

/-! ### Making a query -/

variable [Connection κ]

/-- The connection that a query is to be made on, and its dialect, if it speaks one. -/
def spoken? (session : Session κ σ) (connection : Option Nat) : Option (Nat × Dialect) := do
  let slot ← connection
  let held ← session.connections[slot]?
  let dialect ← Dialect.ofValue? (Connection.dialect held)
  return (slot, dialect)

variable {connection : Option Nat} {typeName : String} {dialect : Value}

theorem spoken?_eq_some {slot : Nat} {known : Dialect} :
    session.spoken? connection = some (slot, known) ↔
      connection = some slot ∧ ∃ held, session.connections[slot]? = some held ∧
        Dialect.ofValue? (Connection.dialect held) = some known := by
  simp only [spoken?, bind, Option.bind_eq_some_iff, pure, Option.some.injEq, Prod.mk.injEq]
  constructor
  · rintro ⟨_, hslot, held, hheld, _, hknown, rfl, rfl⟩
    exact ⟨hslot, held, hheld, hknown⟩
  · rintro ⟨hslot, held, hheld, hknown⟩
    exact ⟨slot, hslot, held, hheld, known, hknown, rfl, rfl⟩

/-- Without a compiler for its dialect no query is made on a connection. -/
theorem play_newQuery_unsupported
    (hintroduce : play (introduce connection) session = (.ok (typeName, dialect), session))
    (hnone : (Dialect.ofValue? dialect).bind session.registry.find? = none) (options : Options) :
    ∃ logging, play (newQuery connection options) session =
      if dialect.isWritable then
        match dialect.toText session.store.scope with
        | .ok _ => (.error (.unsupportedConnection typeName dialect session.registry.dialects),
            { session with logging })
        | .error cause => (.error cause, session)
      else (.error .badValue, session) := by
  have hcreate : session.registry.create dialect =
      .error (Error.unknownDialect dialect session.registry.dialects).worded := by
    rw [Registry.create, hnone]
  have hworded : (Error.unknownDialect dialect session.registry.dialects).worded = _ :=
    Error.worded_of_shown rfl
  rw [newQuery, play_bind_ok hintroduce]
  dsimp only
  rw [play_bind_ok (play_get session), hcreate, hworded]
  cases dialect.isWritable with
  | false => exact ⟨session.logging, rfl⟩
  | true =>
      rw [if_pos rfl]
      dsimp only
      rw [play_bind_ok (play_get session), play_bind, play_lift]
      cases dialect.toText session.store.scope with
      | error cause => exact ⟨session.logging, rfl⟩
      | ok name => exact ⟨_, rfl⟩

theorem play_newQuery_made {slot : Nat} {known : Dialect} {compiler : Compiler}
    (h : session.spoken? connection = some (slot, known))
    (hcompiler : session.registry.find? known = some compiler) (options : Options) :
    play (newQuery connection options) session =
      (.ok session.store.queries.size, session.withAdded (Query.new slot compiler options)) := by
  obtain ⟨rfl, held, hheld, hknown⟩ := spoken?_eq_some.1 h
  have hcreate : session.registry.create (Connection.dialect held) = .ok compiler := by
    rw [Registry.create, hknown, Option.bind_some, hcompiler]
  rw [newQuery, introduce, bind_assoc, play_bind_ok (play_connection hheld), pure_bind]
  dsimp only
  rw [play_bind_ok (play_get session), hcreate]
  exact play_addQuery _ session

theorem play_newQuery_failed
    (h : ∀ slot known, session.spoken? connection = some (slot, known) →
      session.registry.find? known = none) (options : Options) :
    ∃ cause logging, play (newQuery connection options) session =
      (.error cause, { session with logging }) := by
  have hunsupported : ∀ typeName dialect,
      play (introduce connection) session = (.ok (typeName, dialect), session) →
      (Dialect.ofValue? dialect).bind session.registry.find? = none →
      ∃ cause logging, play (newQuery connection options) session =
        (.error cause, { session with logging }) := by
    intro typeName dialect hintroduce hnone
    obtain ⟨logging, hplay⟩ := play_newQuery_unsupported hintroduce hnone options
    rw [hplay]
    cases dialect.isWritable with
    | false => exact ⟨_, session.logging, rfl⟩
    | true =>
        cases dialect.toText session.store.scope with
        | error cause => exact ⟨cause, session.logging, rfl⟩
        | ok name => exact ⟨_, logging, rfl⟩
  cases connection with
  | none => exact hunsupported _ _ rfl rfl
  | some slot =>
      cases hheld : session.connections[slot]? with
      | none =>
          refine ⟨.noAttribute, session.logging, ?_⟩
          rw [newQuery, introduce, Session.connection, play_bind, play_bind,
            play_bind_ok (play_get session), hheld]
          rfl
      | some held =>
          refine hunsupported _ _ (play_bind_ok (play_connection hheld)) ?_
          cases hknown : Dialect.ofValue? (Connection.dialect held) with
          | none => rfl
          | some known =>
              exact h slot known (spoken?_eq_some.2 ⟨rfl, held, hheld, hknown⟩)

end SqlBuilder.Session
