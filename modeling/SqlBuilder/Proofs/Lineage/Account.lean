import SqlBuilder.Proofs.Construction
import SqlBuilder.Proofs.Lineage
import SqlBuilder.Proofs.Unions

/-!
# Which compiler a query comes with

What happens to the queries of a program is a sequence of moments: a compiler is registered, a query
is made on a connection, a piece of work is done on a query, or something is done that concerns no
query. From the moments alone an account is kept. It has the compilers that were registered for the
dialects, the latest first. It has a root for each query: a query that is made on a connection is a
root itself, with the compiler that its dialect had last at that moment, and whatever a piece of
work adds has the root of the query that is worked on.

The account is right at every moment: the registry is what it says, and every query has the
connection and the compiler of its root. So what is sent was compiled by the compiler of the root,
and so was all that stands in it of the members of unions.
-/

namespace SqlBuilder

open Outcome Session

/-! ### Members of unions -/

namespace Store

variable {store : Store} {compiler : Compiler} {blueprint : Blueprint} {compiled : Compiled}

theorem compile_member (htype : blueprint.type = .select)
    (h : store.compile compiler blueprint = .ok compiled) {place : Place}
    (hmember : place ∈ blueprint.memberPlaces) :
    ∃ member inner, store.at? place = some member ∧ store.compile compiler member = .ok inner := by
  -- the clauses of a select are all compiled, so the union is, and with it each of its members
  obtain ⟨fragment, hfragment, hplace⟩ := List.mem_filterMap.1 hmember
  obtain ⟨tokens, htokens, -⟩ := bind_eq_ok.1 h
  have hwhole : (Clauses.of store.scope blueprint
      (Statement.membersTokens store.scope compiler.dialect compiler.emptying
        (store.snapshot blueprint).members)).whole = .ok tokens :=
    (Clauses.whole_of htype compiler.dialect compiler.emptying).symm.trans htokens
  obtain ⟨union, hunion⟩ := Clauses.exists_whole_iff.1 ⟨tokens, hwhole⟩
    (Statement.unions "UNION" <$> Statement.membersTokens store.scope compiler.dialect
      compiler.emptying (store.snapshot blueprint).members) (by simp [Clauses.list, Clauses.of])
  obtain ⟨members, hmembers, -⟩ := map_eq_ok.1 hunion
  rw [membersTokens_snapshot] at hmembers
  obtain ⟨piece, hpiece⟩ := exists_of_mapM hmembers hfragment
  obtain ⟨member, hresolve, hpiece⟩ := bind_eq_ok.1 hpiece
  obtain ⟨standing, hstanding, hat⟩ := store.at?_of_resolve hresolve
  obtain rfl : place = standing := Option.some.inj (hplace.symm.trans hstanding)
  refine ⟨member, compiler.finish piece, hat, ?_⟩
  rw [compile, Compiler.compile, hpiece]
  rfl

/-- Whatever the union of a blueprint leads to is compiled by the same compiler, and its text stands
in the text of the statement. -/
def UnionsBy (store : Store) (compiler : Compiler) (blueprint : Blueprint) (compiled : Compiled) :
    Prop :=
  ∀ place, store.Contributes blueprint place → ∃ member inner,
    store.at? place = some member ∧ store.compile compiler member = .ok inner ∧
    (compiler.quote.Framed → inner.sql.toList <:+: compiled.sql.toList)

theorem unionsBy (h : store.compile compiler blueprint = .ok compiled) :
    store.UnionsBy compiler blueprint compiled := by
  intro place hplace
  have hcompiled : ∃ member inner, store.at? place = some member ∧
      store.compile compiler member = .ok inner := by
    induction hplace with
    | member htype hmember => exact compile_member htype h hmember
    | deeper _ hat htype hmember ih =>
        obtain ⟨standing, inner, hstanding, hinner⟩ := ih
        obtain rfl := Option.some.inj (hat.symm.trans hstanding)
        exact compile_member htype hinner hmember
  obtain ⟨member, inner, hat, hinner⟩ := hcompiled
  refine ⟨member, inner, hat, hinner, fun hquote => ?_⟩
  obtain ⟨standing, text, hstanding, htext, hinfix⟩ := hplace.exists_infix hquote h
  obtain rfl := Option.some.inj (hat.symm.trans hstanding)
  obtain rfl := Except.ok.inj (hinner.symm.trans htext)
  exact hinfix

end Store

/-! ### Moments -/

variable {κ σ : Type}

/-- What is done at a moment. -/
inductive Moment.Kind where
  | aside
  | register (dialect : Value) (compiler : Compiler)
  | create (connection : Option Nat) (options : Options)
  | work (id : Nat)

structure Moment (κ σ : Type) where
  kind : Moment.Kind
  before : Session κ σ
  after : Session κ σ

/-- Neither queries nor the registry are changed, and nothing is sent. -/
structure Session.Apart (before after : Session κ σ) : Prop where
  queries : after.store.queries = before.store.queries
  registry : after.registry = before.registry
  journal : after.journal = before.journal

section Connections

variable [Connection κ]

/-- What is done at a moment makes of the session before it the session after it. -/
def Moment.Holds : Moment κ σ → Prop
  | ⟨.aside, before, after⟩ => before.Apart after
  | ⟨.register dialect compiler, before, after⟩ =>
      (play (register dialect compiler) before).2 = after
  | ⟨.create connection options, before, after⟩ =>
      (play (newQuery connection options) before).2 = after
  | ⟨.work id, before, after⟩ => before.Works id after

/-- A sequence of moments leads from one session to another. -/
inductive Session.Runs : Session κ σ → List (Moment κ σ) → Session κ σ → Prop where
  | nil (session : Session κ σ) : Runs session [] session
  | cons {moment : Moment κ σ} {rest : List (Moment κ σ)} {last : Session κ σ}
      (hholds : moment.Holds) (hrest : Runs moment.after rest last) :
      Runs moment.before (moment :: rest) last

namespace Session.Runs

variable {first middle last : Session κ σ} {front rest : List (Moment κ σ)} {moment : Moment κ σ}

theorem single (hholds : moment.Holds) : moment.before.Runs [moment] moment.after :=
  .cons hholds (.nil _)

theorem append (hfront : first.Runs front middle) (hrest : middle.Runs rest last) :
    first.Runs (front ++ rest) last := by
  induction hfront with
  | nil session => exact hrest
  | cons hholds _ ih => exact .cons hholds (ih hrest)

end Session.Runs

/-! ### Accounts -/

/-- A query that was made on a connection: its number, the connection and the compiler that it was
made with. -/
structure Root where
  place : Nat
  slot : Nat
  compiler : Compiler

/-- The compilers that were registered, the latest first, and the roots of the queries. -/
structure Account where
  registered : List (Dialect × Compiler)
  roots : List Root

namespace Account

def opening : Account :=
  ⟨Registry.standard.entries, []⟩

def latest? (account : Account) (dialect : Dialect) : Option Compiler :=
  Assoc.find? account.registered dialect

/-- What is no dialect has no compiler registered. -/
def register (account : Account) (dialect : Value) (compiler : Compiler) : Account :=
  match Dialect.ofValue? dialect with
  | some known => { account with registered := (known, compiler) :: account.registered }
  | none => account

/-- The root that a query becomes when it is made on a connection. -/
def root? (account : Account) (session : Session κ σ) (connection : Option Nat) : Option Root := do
  let (slot, known) ← session.spoken? connection
  let compiler ← account.latest? known
  return ⟨account.roots.length, slot, compiler⟩

/-- What is on record once a moment is over: a query that was made is a root, and what a piece of
work has added has the root of the query that was worked on. -/
def next (account : Account) : Moment κ σ → Account
  | ⟨.aside, _, _⟩ => account
  | ⟨.register dialect compiler, _, _⟩ => account.register dialect compiler
  | ⟨.create connection _, before, _⟩ =>
      { account with roots := account.roots ++ (account.root? before connection).toList }
  | ⟨.work id, before, after⟩ =>
      let added := after.store.queries.size - before.store.queries.size
      { account with roots := account.roots ++ (account.roots[id]?).elim [] (List.replicate added) }

def after (account : Account) (moments : List (Moment κ σ)) : Account :=
  moments.foldl next account

/-- What is on record after a sequence of moments from the start. -/
def of (moments : List (Moment κ σ)) : Account :=
  opening.after moments

end Account

/-! ### The account is right -/

/-- A query has the connection and the compiler of a root. -/
structure Query.From (query : Query) (root : Root) : Prop where
  connection : query.connection = root.slot
  compiler : query.compiler = root.compiler

theorem Query.Kin.from {query other : Query} {root : Root} (hkin : query.Kin other)
    (h : query.From root) : other.From root where
  connection := hkin.connection.trans h.connection
  compiler := hkin.compiler.trans h.compiler

/-- The registry is what the account says, and so is every query. -/
structure Session.Tallies (session : Session κ σ) (account : Account) : Prop where
  registry : ∀ dialect, session.registry.find? dialect = account.latest? dialect
  size : account.roots.length = session.store.queries.size
  roots : ∀ {id : Nat} {query : Query}, session.store.queries[id]? = some query →
    ∃ root, account.roots[id]? = some root ∧ query.From root

omit [Connection κ] in
theorem Session.Tallies.compilers {session : Session κ σ} {account : Account}
    (h : session.Tallies account) :
    session.store.queries.toList.map Query.compiler = account.roots.map Root.compiler := by
  refine List.ext_getElem (by simp [h.size]) fun id hquery hroot => ?_
  rw [List.getElem_map, List.getElem_map]
  rw [List.length_map, Array.length_toList] at hquery
  obtain ⟨root, hrecord, hfrom⟩ := h.roots (Array.getElem?_eq_getElem hquery)
  obtain ⟨_, rfl⟩ := List.getElem?_eq_some_iff.1 hrecord
  exact hfrom.compiler

/-- A query is made as a root, with the compiler that its dialect had last. -/
structure Moment.Begins (moment : Moment κ σ) (account : Account) (root : Root) : Prop where
  kind : ∃ options, moment.kind = .create (some root.slot) options ∧
    moment.after = moment.before.withAdded (Query.new root.slot root.compiler options)
  place : root.place = moment.before.store.queries.size
  compiler : ∃ held known, moment.before.connections[root.slot]? = some held ∧
    Dialect.ofValue? (Connection.dialect held) = some known ∧
    account.latest? known = some root.compiler

/-- A query of the line of a root is built, by the compiler of the root, and what it is built to is
handed to the connection of the root. -/
structure Moment.Sends (moment : Moment κ σ) (account : Account) (root : Root) (place : Nat)
    (sender : Query) (compiled : Compiled) (run : Run κ) : Prop where
  work : ∃ id, moment.kind = .work id ∧ account.roots[id]? = some root
  line : (account.next moment).roots[place]? = some root
  found : moment.after.store.queries[place]? = some sender
  connection : sender.connection = root.slot
  built : moment.after.store.compile root.compiler sender.blueprint = .ok compiled
  unions : moment.after.store.UnionsBy root.compiler sender.blueprint compiled
  handed : ∃ connection mapper, moment.before.connections[root.slot]? = some connection ∧
    run = Connection.run connection compiled.sql (.list compiled.parameters) mapper
  journal : moment.after.journal = moment.before.journal ++
    (run.sent.map fun sent => (⟨root.slot, sent⟩ : Dispatch)).toArray

namespace Account

variable {account : Account} {session : Session κ σ}

theorem root?_eq_some {connection : Option Nat} {root : Root} :
    account.root? session connection = some root ↔
      ∃ known, session.spoken? connection = some (root.slot, known) ∧
        account.latest? known = some root.compiler ∧ root.place = account.roots.length := by
  simp only [root?, bind, Option.bind_eq_some_iff, pure, Option.some.injEq, Prod.exists]
  constructor
  · rintro ⟨slot, known, hspoken, compiler, hcompiler, rfl⟩
    exact ⟨known, hspoken, hcompiler, rfl⟩
  · rintro ⟨known, hspoken, hcompiler, hplace⟩
    exact ⟨root.slot, known, hspoken, root.compiler, hcompiler, by rw [← hplace]⟩

theorem latest?_register {dialect : Value} {known : Dialect}
    (h : Dialect.ofValue? dialect = some known) (compiler : Compiler) (other : Dialect) :
    (account.register dialect compiler).latest? other =
      if known = other then some compiler else account.latest? other := by
  rw [register, h, latest?, latest?, Assoc.find?, List.find?_cons]
  by_cases hother : known = other
  · simp [hother]
  · have hne : (known == other) = false := beq_false_of_ne hother
    simp [hne, hother, Assoc.find?]

theorem register_unknown {dialect : Value} (h : Dialect.ofValue? dialect = none)
    (compiler : Compiler) : account.register dialect compiler = account := by
  rw [register, h]

end Account

namespace Session.Tallies

variable {account : Account} {session before after : Session κ σ}

omit [Connection κ] in
theorem apart (h : before.Tallies account) (hapart : before.Apart after) :
    after.Tallies account where
  registry dialect := by rw [hapart.registry, h.registry]
  size := by rw [hapart.queries, h.size]
  roots hquery := h.roots (hapart.queries ▸ hquery)

omit [Connection κ] in
theorem registered (h : session.Tallies account) (dialect : Value) (compiler : Compiler) :
    (play (Session.register dialect compiler) session).2.Tallies
      (account.register dialect compiler) := by
  cases hknown : Dialect.ofValue? dialect with
  | none =>
      rw [play_register_unknown hknown, Account.register_unknown hknown]
      exact h
  | some known =>
      obtain ⟨registry, hplay, hfind⟩ := play_register_known hknown session compiler
      have hroots : (account.register dialect compiler).roots = account.roots := by
        rw [Account.register, hknown]
      rw [hplay]
      refine ⟨fun other => ?_, hroots ▸ h.size, fun hquery => hroots ▸ h.roots hquery⟩
      rw [Account.latest?_register hknown, hfind, h.registry]

/-- A query that is made is a root; if none is made, nothing happens to the others. -/
theorem create (h : session.Tallies account) (connection : Option Nat) (options : Options) :
    (∃ root, account.root? session connection = some root ∧ Moment.Begins
      ⟨.create connection options, session, (play (newQuery connection options) session).2⟩
      account root) ∨
    (account.root? session connection = none ∧
      session.Apart (play (newQuery connection options) session).2) := by
  cases hroot : account.root? session connection with
  | some root =>
      obtain ⟨known, hspoken, hcompiler, hplace⟩ := Account.root?_eq_some.1 hroot
      obtain ⟨rfl, held, hheld, hknown⟩ := spoken?_eq_some.1 hspoken
      have hfound : session.registry.find? known = some root.compiler := by
        rw [h.registry, hcompiler]
      refine .inl ⟨root, rfl, ⟨options, rfl, ?_⟩, hplace.trans h.size,
        held, known, hheld, hknown, hcompiler⟩
      rw [play_newQuery_made hspoken hfound]
  | none =>
      have hnone : ∀ slot known, session.spoken? connection = some (slot, known) →
          session.registry.find? known = none := by
        intro slot known hspoken
        by_contra hfound
        obtain ⟨compiler, hcompiler⟩ := Option.ne_none_iff_exists'.1 hfound
        rw [h.registry] at hcompiler
        have hsome : account.root? session connection =
            some ⟨account.roots.length, slot, compiler⟩ :=
          Account.root?_eq_some.2 ⟨known, hspoken, hcompiler, rfl⟩
        rw [hroot] at hsome
        cases hsome
      obtain ⟨cause, logging, hplay⟩ := play_newQuery_failed hnone options
      rw [hplay]
      exact .inr ⟨rfl, rfl, rfl, rfl⟩

omit [Connection κ] in
theorem added (h : session.Tallies account) {root : Root} {query : Query}
    (hfrom : query.From root) :
    (session.withAdded query).Tallies { account with roots := account.roots ++ [root] } where
  registry := h.registry
  size := by simp [withAdded, Store.add, h.size]
  roots {id other} hother := by
    obtain hid | rfl | hid := Nat.lt_trichotomy id session.store.queries.size
    · have hold : session.store.queries[id]? = some other := by
        simpa [withAdded, Store.add, Array.getElem?_push, Nat.ne_of_lt hid] using hother
      obtain ⟨known, hknown, hmore⟩ := h.roots hold
      exact ⟨known, by rw [List.getElem?_append_left (h.size ▸ hid), hknown], hmore⟩
    · obtain rfl := Option.some.inj ((queries_withAdded session query).symm.trans hother)
      exact ⟨root, by rw [← h.size, List.getElem?_concat_length], hfrom⟩
    · have hbeyond : (session.withAdded query).store.queries.size ≤ id := by
        simpa [withAdded, Store.add, Nat.succ_le_iff] using hid
      rw [Array.getElem?_eq_none hbeyond] at hother
      cases hother

/-- What a piece of work has added has the root of the query that was worked on. -/
theorem roots_worked (h : before.Tallies account) {id : Nat}
    (hdescends : before.store.Descends id after.store) {place : Nat} {query : Query}
    (hquery : after.store.queries[place]? = some query) :
    ∃ root, (account.next ⟨.work id, before, after⟩).roots[place]? = some root ∧
      query.From root ∧
      (place = id ∨ before.store.queries.size ≤ place → account.roots[id]? = some root) := by
  obtain hplace | hplace := Nat.lt_or_ge place before.store.queries.size
  · obtain ⟨later, hlater, hkin⟩ := hdescends.kept (Array.getElem?_eq_getElem hplace)
    obtain rfl := Option.some.inj (hlater.symm.trans hquery)
    obtain ⟨root, hroot, hfrom⟩ := h.roots (Array.getElem?_eq_getElem hplace)
    refine ⟨root, ?recorded, hkin.from hfrom, fun hline => ?line⟩
    case recorded => rw [Account.next, List.getElem?_append_left (h.size ▸ hplace), hroot]
    case line => rw [← hline.resolve_right (Nat.not_le.2 hplace), hroot]
  · obtain ⟨worked, hworked, hkin⟩ := hdescends.made hplace hquery
    obtain ⟨root, hroot, hfrom⟩ := h.roots hworked
    obtain ⟨hlater, _⟩ := Array.getElem?_eq_some_iff.1 hquery
    refine ⟨root, ?_, hkin.from hfrom, fun _ => hroot⟩
    rw [Account.next, List.getElem?_append_right (h.size ▸ hplace), hroot, Option.elim,
      List.getElem?_replicate, if_pos]
    rw [h.size]
    omega

theorem worked (h : before.Tallies account) {id : Nat} (hworks : before.Works id after) :
    after.Tallies (account.next ⟨.work id, before, after⟩) where
  registry dialect := by rw [hworks.registry, h.registry]; rfl
  size := by
    have hgrown := hworks.store.size
    cases hroot : account.roots[id]? with
    | some root => simp [Account.next, hroot, h.size, hgrown]
    | none =>
        -- without the query that is worked on, nothing can have been added
        have hsame : after.store.queries.size ≤ before.store.queries.size := by
          by_contra hmore
          obtain ⟨worked, hworked, -⟩ := hworks.store.made (le_refl _)
            (Array.getElem?_eq_getElem (Nat.not_le.1 hmore))
          obtain ⟨root, hsome, -⟩ := h.roots hworked
          rw [hroot] at hsome
          cases hsome
        simp [Account.next, hroot, h.size]
        omega
  roots hquery := by
    obtain ⟨root, hroot, hfrom, -⟩ := h.roots_worked hworks.store hquery
    exact ⟨root, hroot, hfrom⟩

/-- The account is kept moment by moment. -/
theorem next {moment : Moment κ σ} (h : moment.before.Tallies account) (hholds : moment.Holds) :
    moment.after.Tallies (account.next moment) := by
  obtain ⟨kind, before, after⟩ := moment
  replace h : before.Tallies account := h
  cases kind with
  | aside => exact h.apart hholds
  | register dialect compiler =>
      obtain rfl : (play (Session.register dialect compiler) before).2 = after := hholds
      exact h.registered dialect compiler
  | create connection options =>
      obtain rfl : (play (newQuery connection options) before).2 = after := hholds
      obtain ⟨root, hroot, hbegins⟩ | ⟨hroot, hapart⟩ := h.create connection options
      · obtain ⟨options, -, hafter⟩ := hbegins.kind
        have hfrom : (Query.new root.slot root.compiler options).From root := ⟨rfl, rfl⟩
        rw [Account.next, hroot]
        exact hafter ▸ h.added hfrom
      · rw [Account.next, hroot, Option.toList_none, List.append_nil]
        exact h.apart hapart
  | work id => exact h.worked hholds

theorem roots_next {moment : Moment κ σ} (h : moment.before.Tallies account)
    (hholds : moment.Holds) {root : Root} (hroot : root ∈ (account.next moment).roots) :
    root ∈ account.roots ∨ moment.Begins account root := by
  obtain ⟨kind, before, after⟩ := moment
  replace h : before.Tallies account := h
  cases kind with
  | aside => exact .inl hroot
  | register dialect compiler =>
      have hsame : (account.register dialect compiler).roots = account.roots := by
        rw [Account.register]
        split <;> rfl
      exact .inl (hsame ▸ hroot)
  | create connection options =>
      obtain rfl : (play (newQuery connection options) before).2 = after := hholds
      rw [Account.next, List.mem_append] at hroot
      refine hroot.imp_right fun hnew => ?_
      obtain ⟨made, hmade, hbegins⟩ | ⟨hnone, -⟩ := h.create connection options
      · rw [hmade, Option.toList_some, List.mem_singleton] at hnew
        exact hnew ▸ hbegins
      · rw [hnone] at hnew
        cases hnew
  | work id =>
      rw [Account.next, List.mem_append] at hroot
      obtain hroot | hadded := hroot
      · exact .inl hroot
      · cases hid : account.roots[id]? with
        | none =>
            rw [hid] at hadded
            cases hadded
        | some worked =>
            rw [hid, Option.elim] at hadded
            exact .inl (List.eq_of_mem_replicate hadded ▸ List.mem_of_getElem? hid)

/-- At a moment nothing is sent, or what a query is built to by the compiler of its root. -/
theorem sends {moment : Moment κ σ} (h : moment.before.Tallies account) (hholds : moment.Holds) :
    moment.after.journal = moment.before.journal ∨ ∃ root place sender compiled run,
      moment.Sends account root place sender compiled run := by
  obtain ⟨kind, before, after⟩ := moment
  replace h : before.Tallies account := h
  cases kind with
  | aside =>
      have hapart : before.Apart after := hholds
      exact .inl hapart.journal
  | register dialect compiler =>
      obtain rfl : (play (Session.register dialect compiler) before).2 = after := hholds
      left
      cases hknown : Dialect.ofValue? dialect with
      | none => rw [play_register_unknown hknown]
      | some known =>
          obtain ⟨registry, hplay, -⟩ := play_register_known hknown before compiler
          rw [hplay]
  | create connection options =>
      obtain rfl : (play (newQuery connection options) before).2 = after := hholds
      obtain ⟨root, -, hbegins⟩ | ⟨-, hapart⟩ := h.create connection options
      · obtain ⟨options, -, hafter⟩ := hbegins.kind
        left
        rw [hafter]
        rfl
      · exact .inl hapart.journal
  | work id =>
      have hworks : before.Works id after := hholds
      cases hworks with
      | quiet hquiet => exact .inl hquiet.journal
      | @sending opened _ place sender compiled connection mapper hopened hline hsender hbuild
          hconnection hhanded =>
          right
          have hlater : after.store.queries[place]? = some sender := by
            rw [hhanded.store, hsender]
          have hdescends : before.store.Descends id after.store := hhanded.store ▸ hopened.store
          obtain ⟨root, hroot, hfrom, hworked⟩ := h.roots_worked hdescends hlater
          have hcompiled : after.store.compile root.compiler sender.blueprint = .ok compiled := by
            rw [hhanded.store, ← hfrom.compiler]
            exact hbuild
          have hheld : before.connections[root.slot]? = some connection := by
            rw [← hfrom.connection, ← hopened.connections, hconnection]
          refine ⟨root, place, sender, compiled, _, ⟨id, rfl, hworked hline⟩, hroot, hlater,
            hfrom.connection, hcompiled, Store.unionsBy hcompiled, ⟨connection, mapper, hheld, rfl⟩,
            ?_⟩
          rw [← hfrom.connection, ← hopened.journal, hhanded.journal]

end Session.Tallies

/-! ### Runs -/

namespace Session.Runs

variable {account : Account} {first last : Session κ σ} {moments front rest : List (Moment κ σ)}
  {moment : Moment κ σ}

/-- A run can be interrupted at any of its moments. -/
theorem split (h : first.Runs (front ++ moment :: rest) last) :
    first.Runs front moment.before ∧ moment.Holds ∧ moment.after.Runs rest last := by
  induction front generalizing first with
  | nil =>
      cases h with
      | cons hholds hrest => exact ⟨.nil _, hholds, hrest⟩
  | cons earlier front ih =>
      cases h with
      | cons hholds hrest =>
          obtain ⟨hfront, hmoment, hlater⟩ := ih hrest
          exact ⟨.cons hholds hfront, hmoment, hlater⟩

theorem tallies (h : first.Runs moments last) (htallies : first.Tallies account) :
    last.Tallies (account.after moments) := by
  induction h generalizing account with
  | nil session => exact htallies
  | cons hholds _ ih => exact ih (htallies.next hholds)

theorem dispatched (h : first.Runs moments last) (htallies : first.Tallies account)
    {dispatch : Dispatch} (hdispatch : dispatch ∈ last.journal) :
    dispatch ∈ first.journal ∨ ∃ front moment rest root place sender compiled run,
      moments = front ++ moment :: rest ∧
      moment.Sends (account.after front) root place sender compiled run ∧
      ∃ sent ∈ run.sent, dispatch = ⟨root.slot, sent⟩ := by
  induction h generalizing account with
  | nil session => exact .inl hdispatch
  | @cons moment rest last hholds _ ih =>
      obtain hearlier | ⟨front, later, behind, root, place, sender, compiled, run, rfl, hsends,
        hsent⟩ := ih (htallies.next hholds) hdispatch
      · obtain hquiet | ⟨root, place, sender, compiled, run, hsends⟩ := htallies.sends hholds
        · exact .inl (hquiet ▸ hearlier)
        · rw [hsends.journal, Array.mem_append] at hearlier
          refine hearlier.imp_right fun hnew => ?_
          obtain ⟨sent, hsent, rfl⟩ := List.mem_map.1 (List.mem_toArray.1 hnew)
          exact ⟨[], moment, rest, root, place, sender, compiled, run, rfl, hsends, sent, hsent,
            rfl⟩
      · exact .inr ⟨moment :: front, later, behind, root, place, sender, compiled, run, rfl, hsends,
          hsent⟩

theorem begun (h : first.Runs moments last) (htallies : first.Tallies account) {root : Root}
    (hroot : root ∈ (account.after moments).roots) :
    root ∈ account.roots ∨ ∃ front moment rest, moments = front ++ moment :: rest ∧
      moment.Begins (account.after front) root := by
  induction h generalizing account with
  | nil session => exact .inl hroot
  | @cons moment rest last hholds _ ih =>
      obtain hnext | ⟨front, later, behind, rfl, hbegins⟩ := ih (htallies.next hholds) hroot
      · have hrecord : root ∈ account.roots ∨ moment.Begins account root :=
          htallies.roots_next hholds hnext
        exact hrecord.imp_right fun hbegins => ⟨[], moment, rest, rfl, hbegins⟩
      · exact .inr ⟨moment :: front, later, behind, rfl, hbegins⟩

end Session.Runs

omit [Connection κ] in
theorem Session.tallies_start (host : σ) :
    (Session.start host : Session κ σ).Tallies Account.opening where
  registry _ := rfl
  size := rfl
  roots hquery := by cases hquery

/-- All that has been sent after a run from the start was compiled by the compiler that the dialect
of its connection had last when the root of its sender was made. -/
theorem Session.Runs.accounted {host : σ} {moments : List (Moment κ σ)} {last : Session κ σ}
    (h : (Session.start host).Runs moments last) {dispatch : Dispatch}
    (hdispatch : dispatch ∈ last.journal) :
    ∃ earlier creation between moment rest root place sender compiled run,
      moments = earlier ++ creation :: between ++ moment :: rest ∧
      creation.Begins (Account.of earlier) root ∧
      moment.Sends (Account.of (earlier ++ creation :: between)) root place sender compiled run ∧
      ∃ sent ∈ run.sent, dispatch = ⟨root.slot, sent⟩ := by
  obtain hstart | ⟨front, moment, rest, root, place, sender, compiled, run, rfl, hsends, hsent⟩ :=
    h.dispatched (tallies_start host) hdispatch
  · exact absurd hstart (Array.not_mem_empty _)
  · obtain ⟨id, -, hroot⟩ := hsends.work
    obtain ⟨hfront, -, -⟩ := h.split
    obtain hopening | ⟨earlier, creation, between, rfl, hbegins⟩ :=
      hfront.begun (tallies_start host) (List.mem_of_getElem? hroot)
    · exact absurd hopening List.not_mem_nil
    · exact ⟨earlier, creation, between, moment, rest, root, place, sender, compiled, run, rfl,
        hbegins, hsends, hsent⟩

end Connections

end SqlBuilder
