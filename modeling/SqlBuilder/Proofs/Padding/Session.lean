import SqlBuilder.Connection.Recording
import SqlBuilder.Proofs.Padding.Insertion
import SqlBuilder.Proofs.Paging.Sending

/-!
# What a session shows of an inserted empty group

A session shows of a query what it is built to and what a walk in chunks sends. Neither tells
whether a program has called for an empty group, wherever the call is, as long as the group is not
the only member of another one: that the members of a group are empty themselves does not keep it
from being written. A page has all conditions of its template in a group, so there the program has
to add a condition besides.
-/

namespace SqlBuilder

open Outcome Session

/-- All that a blueprint depends on is there, and is none of the given queries. -/
structure Store.Independent (store : Store) (changing : Set Nat) (blueprint : Blueprint) :
    Prop where
  anchors : store.Anchors blueprint
  free : ∀ other ∈ changing, ¬ store.Depends blueprint (.query other)

theorem Store.Independent.of_places_eq_nil {blueprint : Blueprint} (h : blueprint.places = [])
    (store : Store) (changing : Set Nat) : store.Independent changing blueprint where
  anchors := by
    rintro place ⟨first, hfirst, -⟩
    rw [h] at hfirst
    cases hfirst
  free := by
    rintro other - ⟨first, hfirst, -⟩
    rw [h] at hfirst
    cases hfirst

namespace Session

variable {κ σ : Type} [Connection κ]

/-- Two sessions show the same of a query, though its record is not the same in both. It is built to
what it would be built to in the store that both come from, and a walk over it begins in the same
way and sends the same statement for the page behind a cursor. That goes for statements that depend
on nothing that has changed, and for pages if the query has conditions in both sessions or in
neither. -/
structure Alike (base : Store) (changing : Set Nat) (id : Nat) (query padded : Query)
    (session other : Session κ σ) : Prop where
  builds : base.Independent changing query.blueprint →
    play (build id) session = (base.build query, session) ∧
      play (build id) other = (base.build query, other)
  begins : ∀ (fuel : Nat) (size index : Value) (visit : Visit κ σ),
    (∃ cause, play (chunk fuel id size index visit) session = (.error cause, session) ∧
      play (chunk fuel id size index visit) other = (.error cause, other)) ∨
    ∃ walk, play (chunk fuel id size index visit) session =
        play (walkFrom id walk visit fuel 1 (.int 0)) session ∧
      play (chunk fuel id size index visit) other =
        play (walkFrom id walk visit fuel 1 (.int 0)) other
  turns : (query.blueprint.fragments .where = [] → padded.blueprint.fragments .where = []) →
    ∀ (walk : Walk) (cursor : Value), ∃ page paddedPage,
      query.pageAfter walk.index cursor walk.size = .ok page ∧
      padded.pageAfter walk.index cursor walk.size = .ok paddedPage ∧
      (base.Independent changing (page.withType .select).blueprint →
        ∀ (visit : Visit κ σ) (fuel number : Nat),
          let statement := base.build (page.withType .select)
          play (walkFrom id walk visit (fuel + 1) number cursor) session =
              play (walk.turnPage id visit fuel number page session.store.queries.size statement)
                (session.opening page) ∧
            play (walkFrom id walk visit (fuel + 1) number cursor) other =
              play (walk.turnPage id visit fuel number page other.store.queries.size statement)
                (other.opening paddedPage))

variable {base : Store} {changing : Set Nat} {id : Nat} {query padded : Query}
  {session other : Session κ σ}

theorem alike (h : query.Pads padded) (hsession : base.Keeps changing session.store)
    (hother : base.Keeps changing other.store) (hrecord : session.store.queries[id]? = some query)
    (hpadded : other.store.queries[id]? = some padded) :
    Alike base changing id query padded session other where
  builds hindependent := by
    constructor
    · rw [play_build hrecord, hsession.build_eq hindependent.anchors hindependent.free]
    · rw [play_build hpadded, other.store.build_pads h,
        hother.build_eq hindependent.anchors hindependent.free]
  begins fuel size index visit := by
    rw [chunk, play_bind_ok (play_query hrecord), play_bind_ok (play_query hpadded), h.options]
    dsimp only
    cases hplan : Walk.plan query.options size index with
    | error cause => exact .inl ⟨cause, rfl, rfl⟩
    | ok walk => exact .inr ⟨walk, rfl, rfl⟩
  turns hwhere walk cursor := by
    have hempty : query.blueprint.fragments .where = [] ↔
        padded.blueprint.fragments .where = [] := ⟨hwhere, h.where_eq_nil⟩
    obtain ⟨page, hpage⟩ := query.exists_pageAfter walk.index cursor walk.size
    obtain ⟨paddedPage, hpaddedPage, hpads⟩ :=
      (h.pageAfter hempty walk.index cursor walk.size).exists_ok hpage
    refine ⟨page, paddedPage, hpage, hpaddedPage, fun hindependent visit fuel number => ⟨?_, ?_⟩⟩
    · have hopening :=
        hsession.trans ((keeps_opening session page).mono (Set.empty_subset changing))
      rw [play_walkFrom_page hrecord hpage,
        hopening.build_eq hindependent.anchors hindependent.free]
    · have hopening :=
        hother.trans ((keeps_opening other paddedPage).mono (Set.empty_subset changing))
      have hsend : (send paddedPage other.store.queries.size :
          Compiled → Action κ σ (List Record)) = send page other.store.queries.size := by
        rw [← hpads.record]
        rfl
      rw [play_walkFrom_page hpadded hpaddedPage, (other.opening paddedPage).store.build_pads
        (hpads.withType .select), hopening.build_eq hindependent.anchors hindependent.free,
        Walk.turnPage, Walk.turnPage, hsend]

/-- A call whose callback adds no condition can be inserted anywhere into a program, except where it
would be the only condition of another callback. The program is refused as before or succeeds as
before, and afterwards the session shows the same of the query, whatever becomes of other
queries. -/
theorem insert_idle {program inserted : List Step} {current : Query}
    (hrecord : session.store.queries[id]? = some current)
    (hinserts : Step.Inserts current.nested none program inserted) :
    ∃ (answer : Except Error Unit) (query padded : Query) (first second : Session κ σ),
      play (Step.runAll id program) session = (answer, first) ∧
      play (Step.runAll id inserted) session = (answer, second) ∧
      first.store.queries[id]? = some query ∧ second.store.queries[id]? = some padded ∧
      ∀ (changing : Set Nat) (later other : Session κ σ), id ∉ changing →
        first.store.Keeps changing later.store → second.store.Keeps changing other.store →
        Alike session.store ({id} ∪ changing) id query padded later other := by
  obtain ⟨first, hfirst, hquery⟩ := Step.playsAll hrecord program
  obtain ⟨second, hsecond, hpadded⟩ := Step.playsAll hrecord inserted
  obtain ⟨hanswer, hpads⟩ := hinserts.effects_pads rfl (.refl current)
  rw [hanswer] at hsecond
  have hconfined : ∀ steps : List Step,
      Confined {id} (Step.runAll id steps : Action κ σ Unit) :=
    Step.confinedAll (Set.mem_singleton id)
  have hfirstKeeps : session.store.Keeps {id} first.store := by
    have hkeeps := hconfined program session
    rwa [hfirst] at hkeeps
  have hsecondKeeps : session.store.Keeps {id} second.store := by
    have hkeeps := hconfined inserted session
    rwa [hsecond] at hkeeps
  refine ⟨_, _, _, first, second, hfirst, hsecond, hquery, hpadded, ?_⟩
  intro changing later other hid hlater hother
  have hsingle : {id} ⊆ {id} ∪ changing := Set.subset_union_left
  have hrest : changing ⊆ {id} ∪ changing := Set.subset_union_right
  exact alike hpads ((hfirstKeeps.mono hsingle).trans (hlater.mono hrest))
    ((hsecondKeeps.mono hsingle).trans (hother.mono hrest)) (hlater.record hquery hid)
    (hother.record hpadded hid)

end Session

/-! ### A group inside a group -/

namespace Inserted

def fresh : Session RecordingConnection Unit :=
  let session : Session RecordingConnection Unit := Session.start ()
  { session.withAdded (Query.new 0 .mysql Options.standard) with
    connections := #[.start (.text "mysql") .nothing []] }

def onTable : Step := .plain (.table (.text "t") (.text ""))

def comparison : Step := .condition .rows (.text "a") (.ok (.int 1)) (.text "=") (.text "AND")

def call (steps : List Step) : Step := .within .rows steps (.ok .null) (.text "=") (.text "AND")

def built (program : List Step) : Option String :=
  (play (Step.runAll 0 program >>= fun _ => build 0) fresh).1.toOption.map Compiled.sql

def visit : Visit RecordingConnection Unit := fun _ _ _ => return true

def sent (program : List Step) : List String :=
  (play (Step.runAll 0 program >>= fun _ => chunk 1 0 (.int 2) (.text "id") visit)
    fresh).2.journal.toList.filterMap fun dispatch =>
      match dispatch.sent with
      | .statement sql _ => some sql
      | _ => none

end Inserted

open Inserted

/-- The call is inserted behind the condition of another callback. -/
theorem Session.insert_idle_member :
    ∃ (query padded : Query) (first second : Session RecordingConnection Unit)
        (compiled : Compiled),
      play (Step.runAll 0 [onTable, call [comparison]]) fresh = (.ok (), first) ∧
      play (Step.runAll 0 [onTable, call [comparison, call []]]) fresh =
        (.ok (), second) ∧
      Alike fresh.store ({0} ∪ ∅) 0 query padded first second ∧
      fresh.store.Independent ({0} ∪ ∅) query.blueprint ∧
      query.blueprint.fragments .where ≠ [] ∧
      (∃ page, query.pageAfter (.text "id") (.int 0) (.int 2) = .ok page ∧
        fresh.store.Independent ({0} ∪ ∅) (page.withType .select).blueprint) ∧
      play (build 0) first = (.ok compiled, first) ∧
      play (build 0) second = (.ok compiled, second) ∧
      compiled.sql = "SELECT * FROM \x60t\x60 WHERE (\x60a\x60 = ?)" := by
  have hrecord : fresh.store.queries[0]? = some (Query.new 0 .mysql Options.standard) := rfl
  have hinserts : Step.Inserts (Query.new 0 .mysql Options.standard).nested none
      [onTable, call [comparison]]
      [onTable, call [comparison, call []]] :=
    .inside [onTable] [] (.ok .null) (.text "=") (.text "AND")
      (.here [comparison] [] .null (.text "=") "AND" ⟨rfl, rfl⟩ fun _ => rfl)
  obtain ⟨answer, query, padded, first, second, hfirst, hsecond, hquery, -, hshows⟩ :=
    Session.insert_idle hrecord hinserts
  have halike := hshows ∅ first second (Set.notMem_empty 0) (.refl ∅ _) (.refl ∅ _)
  -- The record that the program leaves, as far as it matters here.
  have hleft : (play (Step.runAll 0 [onTable, call [comparison]])
      fresh).2.store.queries[0]?.map (fun query =>
        (query.blueprint.places, (query.blueprint.fragments .where).isEmpty,
          (query.pageAfter (.text "id") (.int 0) (.int 2)).toOption.map fun page =>
            (page.withType .select).blueprint.places)) = some ([], false, some []) := by
    decide +kernel
  have hbuilt : built [onTable, call [comparison]] =
      some "SELECT * FROM \x60t\x60 WHERE (\x60a\x60 = ?)" := by decide +kernel
  have hanswer : (play (Step.runAll 0 [onTable, call [comparison]]) fresh).1 = .ok () := rfl
  rw [hfirst] at hleft hanswer
  dsimp only at hleft hanswer
  subst hanswer
  rw [hquery, Option.map_some] at hleft
  simp only [Option.some.injEq, Prod.mk.injEq, List.isEmpty_eq_false_iff] at hleft
  obtain ⟨hplaces, hwhere, hpages⟩ := hleft
  have hindependent : fresh.store.Independent ({0} ∪ ∅) query.blueprint :=
    .of_places_eq_nil hplaces fresh.store _
  obtain ⟨page, hpage⟩ := query.exists_pageAfter (.text "id") (.int 0) (.int 2)
  rw [hpage] at hpages
  obtain ⟨hbuild, hother⟩ := halike.builds hindependent
  rw [built, play_bind_ok hfirst, hbuild] at hbuilt
  cases hresult : fresh.store.build query with
  | error cause =>
      rw [hresult] at hbuilt
      cases hbuilt
  | ok compiled =>
      rw [hresult] at hbuild hother hbuilt
      exact ⟨query, padded, first, second, compiled, hfirst, hsecond, halike, hindependent, hwhere,
        ⟨page, hpage, .of_places_eq_nil (Option.some.inj hpages) fresh.store _⟩, hbuild, hother,
        Option.some.inj hbuilt⟩

/-- A group whose only member is empty is written, and so is the group that holds the conditions of
a template on its pages. -/
theorem Session.insert_alone :
    built [onTable, call []] = some "SELECT * FROM \x60t\x60" ∧
      built [onTable, call [call []]] = some "SELECT * FROM \x60t\x60 WHERE ()" ∧
      sent [onTable] =
        ["SELECT * FROM \x60t\x60 WHERE \x60id\x60 > ? ORDER BY \x60id\x60 ASC LIMIT 2"] ∧
      sent [onTable, call []] =
        ["SELECT * FROM \x60t\x60 WHERE () AND \x60id\x60 > ? " ++
          "ORDER BY \x60id\x60 ASC LIMIT 2"] := by
  refine ⟨?_, ?_, ?_, ?_⟩
  · decide +kernel
  · decide +kernel
  · decide +kernel
  · decide +kernel

end SqlBuilder
