import SqlBuilder.Proofs.Depth
import SqlBuilder.Proofs.Headline
import SqlBuilder.Proofs.Lasting
import SqlBuilder.Proofs.Select

/-!
# What stands behind UNION

A select writes the texts of its union's members behind UNION. Each of them is what the member at
that moment compiles to, as the statement that it is at that moment, and the same goes for the
members of the members. So the text of every statement that a union leads to stands in the text of
the select. A member that was a select when it was handed over is one still, unless a write has been
run on it since.
-/

namespace SqlBuilder

open Outcome Session

def Clauses.own (scope : Scope) (blueprint : Blueprint) : List (Except Error Tokens) :=
  (Clauses.of scope blueprint (.ok [])).list.dropLast

/-- A compiled text has no blanks at its ends. -/
theorem Compiler.trim_compile {compiler : Compiler} (hquote : compiler.quote.Framed) {scope : Scope}
    {snapshot : Snapshot} {compiled : Compiled}
    (h : compiler.compile scope snapshot = .ok compiled) :
    Text.trim compiled.sql.toList = compiled.sql.toList := by
  obtain ⟨tokens, htokens, h⟩ := bind_eq_ok.1 h
  obtain rfl := pure_eq_ok.1 h
  obtain ⟨parts, -, htokens⟩ := bind_eq_ok.1 htokens
  obtain rfl := pure_eq_ok.1 htokens
  have htext := Tokens.render_trim hquote (Tokens.spaced parts)
  rw [finish, htext, Text.trim_trim]

namespace Store

variable (store : Store)

theorem membersTokens_snapshot (compiler : Compiler) (scope : Scope) (blueprint : Blueprint) :
    Statement.membersTokens scope compiler.dialect compiler.emptying
        (store.snapshot blueprint).members =
      (blueprint.fragments .union).mapM fun fragment => (do
        let member ← store.resolve (fragment.read "query")
        compiler.tokens scope (store.snapshot member)) := by
  have hcard := store.card_region_lt
  -- past the number of statements in the store, one more level of unions changes nothing
  have hstable :
      Statement.unionTokens scope compiler.dialect compiler.emptying store.resolve store.depth
          blueprint =
        Statement.unionTokens scope compiler.dialect compiler.emptying store.resolve
          (store.depth + 1) blueprint :=
    (store.rising_unionTokens scope compiler.dialect compiler.emptying).stable (by omega) (by omega)
      blueprint
  exact hstable.trans (Statement.unionTokens_succ store.depth)

/-- The text of a select is that of its own clauses and, behind UNION, what the members of its union
compile to. -/
structure UnionText (compiler : Compiler) (blueprint : Blueprint) (sql own : String)
    (members : List Compiled) : Prop where
  own_eq : (fun pieces => (Tokens.spaced pieces).render compiler.quote) <$>
    (Clauses.own store.scope blueprint).mapM id = .ok own
  members_eq : List.Forall₂ (fun fragment inner => ∃ member,
    store.resolve (fragment.read "query") = .ok member ∧
      store.compile compiler member = .ok inner) (blueprint.fragments .union) members
  text : sql.toList = Text.trim (Text.beside own
    (Text.lead "UNION" (", ".intercalate (members.map Compiled.sql)))).toList

variable {store} {compiler : Compiler} (hquote : compiler.quote.Framed) {blueprint : Blueprint}
  {compiled : Compiled}
include hquote

theorem exists_unionText (htype : blueprint.type = .select)
    (h : store.compile compiler blueprint = .ok compiled) :
    ∃ own members, store.UnionText compiler blueprint compiled.sql own members := by
  obtain ⟨tokens, htokens, h⟩ := bind_eq_ok.1 h
  obtain rfl := pure_eq_ok.1 h
  have hwhole : (Clauses.of store.scope blueprint
      (Statement.membersTokens store.scope compiler.dialect compiler.emptying
        (store.snapshot blueprint).members)).whole = .ok tokens :=
    (Clauses.whole_of htype compiler.dialect compiler.emptying).symm.trans htokens
  obtain ⟨pieces, hpieces, htokens⟩ := bind_eq_ok.1 hwhole
  obtain rfl := pure_eq_ok.1 htokens
  -- the union is the last clause, and the members count for no other
  have hlist : ∀ members, (Clauses.of store.scope blueprint members).list =
      Clauses.own store.scope blueprint ++ [Statement.unions "UNION" <$> members] :=
    fun _ => rfl
  rw [hlist, List.mapM_append] at hpieces
  obtain ⟨front, hfront, hpieces⟩ := bind_eq_ok.1 hpieces
  obtain ⟨back, hback, hpieces⟩ := bind_eq_ok.1 hpieces
  obtain rfl := pure_eq_ok.1 hpieces
  rw [List.mapM_cons, List.mapM_nil] at hback
  obtain ⟨union, hunion, hback⟩ := bind_eq_ok.1 hback
  obtain rfl := pure_eq_ok.1 hback
  obtain ⟨members, hmembers, rfl⟩ := map_eq_ok.1 hunion
  rw [membersTokens_snapshot] at hmembers
  refine ⟨(Tokens.spaced front).render compiler.quote, members.map compiler.finish, ?_, ?_, ?_⟩
  · rw [hfront]
    rfl
  · rw [List.forall₂_map_right_iff]
    refine (mapM_eq_ok.1 hmembers).imp fun fragment piece hpiece => ?_
    obtain ⟨member, hmember, hpiece⟩ := bind_eq_ok.1 hpiece
    refine ⟨member, hmember, ?_⟩
    rw [compile, Compiler.compile, hpiece]
    rfl
  · have hunions : (Tokens.spaced [Statement.unions "UNION" members]).render compiler.quote =
        Text.lead "UNION" (", ".intercalate (members.map (Tokens.render compiler.quote))) := by
      have hnil : (Tokens.spaced []).render compiler.quote = "" := Tokens.render_nil _
      rw [Tokens.render_spaced_cons hquote, hnil, Text.beside_empty, Statement.unions,
        Statement.listed, Tokens.render_headed hquote, Tokens.render_joined]
    have htexts : (members.map compiler.finish).map Compiled.sql =
        members.map (Tokens.render compiler.quote) := by
      rw [List.map_map]
      rfl
    rw [Compiler.finish, Tokens.render_trim hquote, Tokens.render_spaced_append hquote, hunions,
      htexts]

theorem UnionText.infix_member {own : String} {members : List Compiled}
    (h : store.UnionText compiler blueprint compiled.sql own members) {fragment : Fragment}
    (hfragment : fragment ∈ blueprint.fragments .union) :
    ∃ member inner, store.resolve (fragment.read "query") = .ok member ∧
      store.compile compiler member = .ok inner ∧ inner.sql.toList <:+: compiled.sql.toList := by
  obtain ⟨inner, hinner, member, hmember, hcompile⟩ := exists_of_forall₂ h.members_eq hfragment
  refine ⟨member, inner, hmember, hcompile, ?_⟩
  have hmem : inner.sql ∈ members.map Compiled.sql := List.mem_map_of_mem hinner
  have hinfix := (Text.infix_intercalate ", " hmem).trans
    ((Text.infix_lead "UNION" _).trans (Text.infix_beside_right own _))
  rw [← Compiler.trim_compile hquote hcompile, h.text]
  exact Text.trim_infix_trim hinfix

omit hquote in
variable (store) in
/-- The places of the members of the union of a blueprint, of the unions of those, and so on. Only
what is a select has its union compiled. -/
inductive Contributes (blueprint : Blueprint) : Place → Prop where
  | member {place : Place} (htype : blueprint.type = .select)
      (hmember : place ∈ blueprint.memberPlaces) : Contributes blueprint place
  | deeper {place next : Place} {member : Blueprint} (h : Contributes blueprint place)
      (hat : store.at? place = some member) (htype : member.type = .select)
      (hmember : next ∈ member.memberPlaces) : Contributes blueprint next

theorem exists_infix_of_mem {place : Place} (htype : blueprint.type = .select)
    (h : store.compile compiler blueprint = .ok compiled)
    (hmember : place ∈ blueprint.memberPlaces) :
    ∃ member inner, store.at? place = some member ∧
      store.compile compiler member = .ok inner ∧ inner.sql.toList <:+: compiled.sql.toList := by
  obtain ⟨own, members, htext⟩ := exists_unionText hquote htype h
  obtain ⟨fragment, hfragment, hplace⟩ := List.mem_filterMap.1 hmember
  obtain ⟨member, inner, hresolve, hcompile, hinfix⟩ := htext.infix_member hquote hfragment
  obtain ⟨standing, hstanding, hat⟩ := store.at?_of_resolve hresolve
  obtain rfl : place = standing := Option.some.inj (hplace.symm.trans hstanding)
  exact ⟨member, inner, hat, hcompile, hinfix⟩

/-- Whatever a union leads to is compiled, and its text stands in that of the select. -/
theorem Contributes.exists_infix {place : Place} (hplace : store.Contributes blueprint place)
    (h : store.compile compiler blueprint = .ok compiled) :
    ∃ member inner, store.at? place = some member ∧
      store.compile compiler member = .ok inner ∧ inner.sql.toList <:+: compiled.sql.toList := by
  induction hplace with
  | member htype hmember => exact exists_infix_of_mem hquote htype h hmember
  | @deeper place next member _ hat htype hmember ih =>
      obtain ⟨standing, inner, hstanding, hcompile, hinfix⟩ := ih
      obtain rfl : member = standing := Option.some.inj (hat.symm.trans hstanding)
      obtain ⟨further, innermost, hfurther, hinnermost, hwithin⟩ :=
        exists_infix_of_mem hquote htype hcompile hmember
      exact ⟨further, innermost, hfurther, hinnermost, hwithin.trans hinfix⟩

end Store

variable {κ σ : Type} [Connection κ]

/-- After any operations, what a select has behind UNION is what each member compiles to at that
moment, and the same goes for the unions of the members that are selects. The text of every
statement that the union leads to stands in the text of the select and begins as a statement of its
type. It is a select if it was one before and no write has been run on it since. -/
theorem Session.unions_compiled {places : Set Place} {operations : List (Nat × Operation κ σ)}
    {session : Session κ σ} (hselects : ∀ place ∈ places, session.store.Selects place)
    (hoperations : ∀ entry ∈ operations, entry.2.Lasting places entry.1) {query : Query}
    (hquote : query.compiler.quote.Framed)
    (hemptying : Text.Framed query.compiler.emptying.toList)
    (htype : query.blueprint.type = .select) {compiled : Compiled}
    (hbuild : (session.through operations).store.build query = .ok compiled) :
    let store := (session.through operations).store
    (∃ own members, store.UnionText query.compiler query.blueprint compiled.sql own members) ∧
    ∀ place, store.Contributes query.blueprint place → ∃ member inner,
      store.at? place = some member ∧ store.compile query.compiler member = .ok inner ∧
      inner.sql.toList <:+: compiled.sql.toList ∧
      (∃ operand rest,
        query.compiler.Heads store.scope (store.snapshot member) inner.sql operand rest) ∧
      (member.type = .select →
        ∃ own members, store.UnionText query.compiler member inner.sql own members) ∧
      (place ∈ places → member.type = .select) := by
  refine ⟨Store.exists_unionText hquote htype hbuild, fun place hplace => ?_⟩
  obtain ⟨member, inner, hat, hcompile, hinfix⟩ := hplace.exists_infix hquote hbuild
  refine ⟨member, inner, hat, hcompile, hinfix,
    Compiler.exists_heads hquote hemptying hcompile,
    fun hselect => Store.exists_unionText hquote hselect hcompile, fun hmem => ?_⟩
  obtain ⟨standing, hstanding, hselect⟩ := selects_through hoperations hmem (hselects place hmem)
  obtain rfl : member = standing := Option.some.inj (hat.symm.trans hstanding)
  exact hselect

namespace Unions

open Heads

def selection : Query :=
  ((Query.new 0 .mysql Options.standard).setTable (.text "t") (.text "")).addUnion (.query 1)

def session : Session RecordingConnection Unit :=
  Heads.session.through [(0, .call (.table (.text "t") (.text ""))),
    (1, .call (.table (.text "u") (.text ""))), (0, .call (.union (.query 1)))]

/-- The first is deleted from and made a select again, and the second gets a condition. -/
def operations : List (Nat × Operation RecordingConnection Unit) :=
  [(0, .call .delete), (1, .call comparison), (0, .call (.select (.bool false)))]

theorem selects_session : session.store.Selects (.query 1) := by
  have htype : (session.store.at? (.query 1)).map Blueprint.type = some .select := by
    decide +kernel
  exact Option.map_eq_some_iff.1 htype

theorem lasting_operations :
    ∀ entry ∈ operations, entry.2.Lasting {.query 1} entry.1 := by
  intro entry hentry
  simp only [operations, List.mem_cons, List.not_mem_nil, or_false] at hentry
  rcases hentry with rfl | rfl | rfl
  · intro _ hmem
    cases hmem
  · trivial
  · exact False.elim

end Unions

open Unions

/-- The member is compiled as the select it is, with the condition that it has been given. -/
theorem Session.unions_compiled_lasting :
    ∃ compiled member inner,
      (session.through operations).store.build selection = .ok compiled ∧
      compiled.sql = "SELECT * FROM \x60t\x60 UNION SELECT * FROM \x60u\x60 WHERE \x60id\x60 = ?" ∧
      (session.through operations).store.at? (.query 1) = some member ∧
      member.type = .select ∧
      (session.through operations).store.compile selection.compiler member = .ok inner ∧
      inner.sql.toList <:+: compiled.sql.toList := by
  have hsql : ((session.through operations).store.build selection).toOption.map Compiled.sql =
      some "SELECT * FROM \x60t\x60 UNION SELECT * FROM \x60u\x60 WHERE \x60id\x60 = ?" := by
    decide +kernel
  have hselects : ∀ place ∈ ({.query 1} : Set Place), session.store.Selects place := by
    rintro place rfl
    exact selects_session
  obtain ⟨compiled, hbuild, htext⟩ := toOption_map_eq_some.1 hsql
  obtain ⟨-, hmembers⟩ := Session.unions_compiled hselects lasting_operations
    Identifier.framed_backtick (by decide) rfl hbuild
  have hmember : (session.through operations).store.Contributes selection.blueprint (.query 1) :=
    .member rfl List.mem_cons_self
  obtain ⟨member, inner, hat, hcompile, hinfix, -, -, hselect⟩ := hmembers _ hmember
  exact ⟨compiled, member, inner, hbuild, htext, hat, hselect rfl, hcompile, hinfix⟩

/-- A write on a member after it has been handed over turns up behind UNION. -/
theorem Session.unions_written :
    Heads.built [(0, .table (.text "t") .null), (1, .table (.text "u") .null),
        (0, .union (.query 1)), (1, .delete)] =
      some "SELECT * FROM \x60t\x60 UNION DELETE FROM \x60u\x60" := by
  decide +kernel

end SqlBuilder
