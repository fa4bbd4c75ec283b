import SqlBuilder.Proofs.Fault.Statement
import SqlBuilder.Proofs.Isolation

/-!
# Building fails exactly when it should

A union that leads to nothing that is missing and never back to where it started unrolls into
finitely many statements, and the depth to which a store follows its unions is enough for all of
them. So a query that well typed calls have filled builds unless one of these statements has a
fault, and what it fails with is the first.
-/

namespace SqlBuilder

open Outcome Session

namespace Store

/-- The members of all unions are there, and no union leads back to itself. -/
structure Unrolls (store : Store) : Prop where
  there : ∀ place member, store.Unites place member → ∃ blueprint, store.at? member = some blueprint
  acyclic : ∀ place, ¬ Relation.TransGen store.Unites place place

variable {store : Store}

open Classical in
/-- The queries that unions lead to from a place. -/
noncomputable def below (store : Store) (place : Place) : Finset Nat :=
  (Finset.range store.queries.size).filter fun id =>
    Relation.TransGen store.Unites place (.query id)

theorem mem_below {place : Place} {id : Nat} :
    id ∈ store.below place ↔
      id < store.queries.size ∧ Relation.TransGen store.Unites place (.query id) := by
  simp only [below, Finset.mem_filter, Finset.mem_range]

theorem card_below_lt (store : Store) (place : Place) :
    (store.below place).card < store.depth := by
  have hcard : (store.below place).card ≤ (Finset.range store.queries.size).card :=
    Finset.card_le_card fun id hid => Finset.mem_range.2 (mem_below.1 hid).1
  rw [Finset.card_range] at hcard
  rw [depth]
  omega

namespace Unrolls

variable (h : store.Unrolls)
include h

/-- Fewer queries are below a member of a union than below the union. -/
theorem card_below {place : Place} {id : Nat} (hmember : store.Unites place (.query id)) :
    (store.below (.query id)).card < (store.below place).card := by
  obtain ⟨blueprint, hat⟩ := h.there _ _ hmember
  obtain ⟨query, hquery, -⟩ := Option.map_eq_some_iff.1 hat
  obtain ⟨hsize, -⟩ := Array.getElem?_eq_some_iff.1 hquery
  apply Finset.card_lt_card
  refine Finset.ssubset_iff_subset_ne.2 ⟨?_, ?_⟩
  · intro other hother
    obtain ⟨hother, hbelow⟩ := mem_below.1 hother
    exact mem_below.2 ⟨hother, .head hmember hbelow⟩
  · intro heq
    have hitself := mem_below.1 (heq ▸ mem_below.2 ⟨hsize, .single hmember⟩)
    exact h.acyclic _ hitself.2

variable (htyped : ∀ (id : Nat) (query : Query), store.queries[id]? = some query →
  query.blueprint.Typed)
include htyped

theorem resolve {id : Nat} {query : Query} (hquery : store.queries[id]? = some query)
    {fragment : Fragment} (hfragment : fragment ∈ query.blueprint.fragments .union) :
    ∃ other member, store.resolve (fragment.read "query") = .ok (Query.blueprint member) ∧
      store.queries[other]? = some member ∧ store.Unites (.query id) (.query other) := by
  obtain ⟨other, hread⟩ := htyped id query hquery .union fragment hfragment
  have hunites : store.Unites (.query id) (.query other) := by
    refine ⟨query.blueprint, by rw [at?, hquery]; rfl, ?_⟩
    exact List.mem_filterMap.2 ⟨fragment, hfragment, by rw [hread]; rfl⟩
  obtain ⟨blueprint, hat⟩ := h.there _ _ hunites
  obtain ⟨member, hmember, -⟩ := Option.map_eq_some_iff.1 hat
  refine ⟨other, member, ?_, hmember, hunites⟩
  rw [hread]
  simp only [Store.resolve, hmember]

theorem fragments_eq_nil {id : Nat} {query : Query} (hquery : store.queries[id]? = some query)
    (hnone : (store.below (.query id)).card = 0) : query.blueprint.fragments .union = [] := by
  rw [List.eq_nil_iff_forall_not_mem]
  intro fragment hfragment
  obtain ⟨other, -, -, -, hunites⟩ := h.resolve htyped hquery hfragment
  have hless := h.card_below hunites
  omega

theorem typed_membersOf {depth id : Nat} {query : Query}
    (hquery : store.queries[id]? = some query)
    (hdepth : (store.below (.query id)).card ≤ depth) :
    Member.AllTyped (Snapshot.membersOf store.resolve depth query.blueprint) := by
  -- one step less is left for a member, and fewer queries are below it
  induction depth generalizing id query with
  | zero =>
      rw [Snapshot.membersOf, h.fragments_eq_nil htyped hquery (Nat.le_zero.1 hdepth)]
      trivial
  | succ depth ih =>
      rw [Snapshot.membersOf, Member.allTyped_iff]
      intro member hmember
      obtain ⟨fragment, hfragment, rfl⟩ := List.mem_map.1 hmember
      obtain ⟨other, standing, hresolve, hother, hunites⟩ := h.resolve htyped hquery hfragment
      have hless := h.card_below hunites
      rw [hresolve]
      exact ⟨htyped other standing hother, ih hother (by omega)⟩

/-- Followed far enough, a union has the same members as when it is followed one step further. -/
theorem membersOf_succ {depth id : Nat} {query : Query}
    (hquery : store.queries[id]? = some query)
    (hdepth : (store.below (.query id)).card ≤ depth) :
    Snapshot.membersOf store.resolve (depth + 1) query.blueprint =
      Snapshot.membersOf store.resolve depth query.blueprint := by
  induction depth generalizing id query with
  | zero =>
      rw [Snapshot.membersOf, Snapshot.membersOf,
        h.fragments_eq_nil htyped hquery (Nat.le_zero.1 hdepth)]
      rfl
  | succ depth ih =>
      rw [Snapshot.membersOf, Snapshot.membersOf]
      apply List.map_congr_left
      intro fragment hfragment
      obtain ⟨other, standing, hresolve, hother, hunites⟩ := h.resolve htyped hquery hfragment
      have hless := h.card_below hunites
      rw [hresolve]
      exact congrArg (Member.statement standing.blueprint) (ih hother (by omega))

/-- The faults of a statement are its own and, at the end, those of the statements that the members
of its union are. -/
theorem faults_snapshot (dialect : Dialect) {id : Nat} {query : Query}
    (hquery : store.queries[id]? = some query) :
    (store.snapshot query.blueprint).faults dialect =
      query.blueprint.faults dialect
        ((query.blueprint.fragments .union).flatMap (store.memberFaults dialect)) := by
  have hmembers : (store.snapshot query.blueprint).members =
      Snapshot.membersOf store.resolve (store.depth + 1) query.blueprint :=
    (h.membersOf_succ htyped hquery (le_of_lt (store.card_below_lt _))).symm
  rw [Snapshot.faults, hmembers, Snapshot.membersOf, Member.allFaults_eq, List.flatMap_map]
  apply congrArg (query.blueprint.faults dialect)
  apply List.flatMap_congr
  intro fragment hfragment
  obtain ⟨other, standing, hresolve, -⟩ := h.resolve htyped hquery hfragment
  rw [memberFaults, hresolve]
  rfl

/-- A query fails with the first fault of the statements that it is made of. -/
theorem ends_build {id : Nat} {query : Query} (hquery : store.queries[id]? = some query) :
    Ends (store.build query) (store.faults query) :=
  query.compiler.ends_compile (htyped id query hquery)
    (h.typed_membersOf htyped hquery (le_of_lt (store.card_below_lt _)))

end Unrolls

end Store

variable {κ σ : Type} [Connection κ]

/-- In every run of well typed moves after which no union leads back to itself, building a query
answers a statement if the query has no faults, and otherwise fails with the first of them: the
clause that is refused, or a number that has too many digits to be written. The faults are those of
the query's own clauses and then those of the queries in its union, one after the other. In any case
nothing changes. -/
theorem Session.build_fails_exactly {start : Session κ σ} (hstart : start.Holds Query.Typed)
    {moves : List (Move κ σ)} (hmoves : ∀ move ∈ moves, move.Typed)
    (hunrolls : (start.progress moves).store.Unrolls) {id : Nat} {query : Query}
    (hquery : (start.progress moves).store.queries[id]? = some query) :
    let session := start.progress moves
    let faults := session.store.faults query
    let dialect := query.compiler.dialect
    faults = query.blueprint.faults dialect
        ((query.blueprint.fragments .union).flatMap (session.store.memberFaults dialect)) ∧
      ∃ outcome, play (build id) session = (outcome, session) ∧
      ((∃ compiled, outcome = .ok compiled) ↔ faults = []) ∧
      (∀ clause, (∃ cause, outcome = .error cause ∧ cause.clause? = some clause) ↔
        faults.head? = some (.refused clause)) ∧
      (outcome = .error .badValue ↔ faults.head? = some .unwritable) := by
  intro session faults dialect
  have htyped : ∀ (id : Nat) (query : Query), session.store.queries[id]? = some query →
      query.blueprint.Typed :=
    fun id query hquery => (typed_progress hmoves hstart id query hquery).2
  have hends := hunrolls.ends_build htyped hquery
  exact ⟨hunrolls.faults_snapshot htyped dialect hquery, _, play_build hquery,
    hends.exists_ok_iff, hends.clause?_iff, hends.badValue_iff⟩

def Session.recorded (moves : List (Move RecordingConnection Unit)) :
    Session RecordingConnection Unit :=
  (Session.start ()).progress moves

/-- Two queries, of which the second has an empty list in a group of conditions and becomes a member
of the union of the first. -/
def Session.unitingMoves : List (Move RecordingConnection Unit) :=
  [.connect (.start (.text "mysql") .nothing []),
    .create (some 0) Options.standard,
    .operate 0 (.call (.table (.text "t") (.text ""))),
    .create (some 0) Options.standard,
    .operate 1 (.call (.table (.text "u") (.text ""))),
    .operate 1 (.call (.filter (.callback 0 fun nested =>
      filter nested (.value (.text "id")) (.list []) (.text "IN") (.text "AND"))
      .null (.text "=") (.text "AND"))),
    .operate 0 (.call (.union (.query 1)))]

theorem Session.typed_unitingMoves : ∀ move ∈ Session.unitingMoves, move.Typed := by
  have hfilter : ∀ nested : Nat, Ensures Query.Typed
      (filter nested (.value (.text "id")) (.list []) (.text "IN") (.text "AND") :
        Action RecordingConnection Unit Unit) fun _ => True := by
    intro nested
    rw [filter, Description.run_condition]
    exact Ensures.description Query.invariant_typed
      (Description.keeps_condition (.inl rfl) trivial
        (fun _ => Call.Typed.bindable_ok (Value.bindable_of_not_argument rfl)) trivial trivial)
  intro move hmove
  simp only [Session.unitingMoves, List.mem_cons, List.not_mem_nil, or_false] at hmove
  rcases hmove with rfl | rfl | rfl | rfl | rfl | rfl | rfl
  · trivial
  · trivial
  · exact ⟨trivial, .inr trivial⟩
  · trivial
  · exact ⟨trivial, .inr trivial⟩
  · exact ⟨hfilter, Value.bindable_of_not_argument rfl, trivial, trivial⟩
  · exact ⟨1, rfl⟩

theorem Store.unrolls_uniting {store : Store}
    (hqueries : store.queries.toList.map (·.blueprint.memberPlaces) = [[.query 1], [], []])
    (hdetached : store.detached = #[]) : store.Unrolls := by
  have hmember : ∀ place member, store.Unites place member →
      place = .query 0 ∧ member = .query 1 := by
    rintro (id | id) member ⟨blueprint, hat, hmember⟩
    · obtain ⟨query, hquery, rfl⟩ := Option.map_eq_some_iff.1 hat
      have hplaces : [[.query 1], [], []][id]? = some query.blueprint.memberPlaces := by
        rw [← hqueries, List.getElem?_map, Array.getElem?_toList, hquery]
        rfl
      match id, hplaces with
      | 0, hplaces =>
          rw [← Option.some.inj hplaces] at hmember
          exact ⟨rfl, List.mem_singleton.1 hmember⟩
      | 1, hplaces | 2, hplaces =>
          rw [← Option.some.inj hplaces] at hmember
          cases hmember
    · rw [at?, hdetached] at hat
      cases hat
  constructor
  case there =>
      intro place member hunites
      obtain ⟨-, rfl⟩ := hmember place member hunites
      have hsecond : (store.queries.toList.map (·.blueprint.memberPlaces))[1]? = some [] := by
        rw [hqueries]
        rfl
      rw [List.getElem?_map, Array.getElem?_toList] at hsecond
      obtain ⟨query, hquery, -⟩ := Option.map_eq_some_iff.1 hsecond
      exact ⟨query.blueprint, by rw [at?, hquery]; rfl⟩
  case acyclic =>
      intro place hcycle
      obtain ⟨_, hfirst, -⟩ := Relation.TransGen.head'_iff.1 hcycle
      obtain ⟨_, -, hlast⟩ := Relation.TransGen.tail'_iff.1 hcycle
      have hsame := (hmember _ _ hfirst).1.symm.trans (hmember _ _ hlast).2
      cases hsame

/-- The empty list is what building the first query fails with. -/
theorem Session.build_fails_exactly_uniting :
    ∃ outcome, play (build 0) (recorded unitingMoves) = (outcome, recorded unitingMoves) ∧
      ∃ cause, outcome = .error cause ∧ cause.clause? = some .where := by
  have hstart : (Session.start () : Session RecordingConnection Unit).Holds Query.Typed :=
    holds_start ()
  have hunrolls : (recorded unitingMoves).store.Unrolls :=
    Store.unrolls_uniting (by decide +kernel) (Array.eq_empty_of_size_eq_zero (by decide +kernel))
  have hfaults : ((recorded unitingMoves).store.queries[0]?).map
      (fun query => ((recorded unitingMoves).store.faults query).head?) =
        some (some (.refused .where)) := by decide +kernel
  obtain ⟨query, hquery, hhead⟩ := Option.map_eq_some_iff.1 hfaults
  obtain ⟨-, outcome, hplay, -, hclause, -⟩ :=
    build_fails_exactly hstart Session.typed_unitingMoves hunrolls hquery
  exact ⟨outcome, hplay, (hclause .where).2 hhead⟩

/-- The first query is also turned to a page that lies very far behind. -/
def Session.distantMoves : List (Move RecordingConnection Unit) :=
  Session.unitingMoves ++ [.operate 0 (.call (.page (.int (Decimal.tenTo 4299)) .null))]

/-- Two queries that have an empty list in a condition each. The first is held by an argument in the
place of a column of the second. -/
def Session.quotingMoves : List (Move RecordingConnection Unit) :=
  [.connect (.start (.text "mysql") .nothing []),
    .create (some 0) Options.standard,
    .operate 0 (.call (.filterIn (.value (.text "id")) (.list []) (.text "AND"))),
    .create (some 0) Options.standard,
    .operate 1 (.call (.having (.value (.text "n")) (.list []) (.text "=") (.text "AND"))),
    .operate 1 (.call (.column (.raw (.query 0)) (.text "")))]

/-- What is refused in a query and its members does not say everything about how it fails. A query
whose window cannot be written does not get as far as its union, so the clause that is refused in a
member is not reported. And a query that an argument holds is compiled for its text, so what is
refused in it is reported in the place of what is refused later. -/
theorem Session.refusals_not_exact :
    (¬ ∀ (moves : List (Move RecordingConnection Unit)) (id : Nat) (query : Query)
        (clause : Clause), (∀ move ∈ moves, move.Typed) → (recorded moves).store.Unrolls →
      (recorded moves).store.queries[id]? = some query →
      ((∃ cause, (recorded moves).store.build query = .error cause ∧
          cause.clause? = some clause) ↔
        (((recorded moves).store.faults query).filter (· ≠ .unwritable)).head? =
          some (.refused clause))) ∧
    ∃ query, (recorded quotingMoves).store.queries[1]? = some query ∧
      (recorded quotingMoves).store.faults query = [.refused .having] ∧
      ∃ cause, (recorded quotingMoves).store.build query = .error cause ∧
        cause.clause? = some .where := by
  constructor
  · intro h
    have hmoves : ∀ move ∈ Session.distantMoves, move.Typed := by
      refine List.forall_mem_append.2 ⟨typed_unitingMoves, List.forall_mem_singleton.2 ?_⟩
      exact ⟨⟨_, rfl⟩, .inl rfl⟩
    have hunrolls : (recorded distantMoves).store.Unrolls :=
      Store.unrolls_uniting (by decide +kernel)
        (Array.eq_empty_of_size_eq_zero (by decide +kernel))
    have hfaults : ((recorded distantMoves).store.queries[0]?).map
        (recorded distantMoves).store.faults = some [.unwritable, .refused .where] := by
      decide +kernel
    obtain ⟨query, hquery, hlist⟩ := Option.map_eq_some_iff.1 hfaults
    have htyped : (recorded distantMoves).Holds Query.Typed :=
      typed_progress hmoves (holds_start ())
    have hends := hunrolls.ends_build (fun id query hquery => (htyped id query hquery).2) hquery
    have hclaim := h Session.distantMoves 0 query .where hmoves hunrolls hquery
    rw [hends.clause?_iff, hlist] at hclaim
    exact absurd (hclaim.2 (by decide)) (by decide)
  · have hquoting : ((recorded quotingMoves).store.queries[1]?).map
        (fun query => ((recorded quotingMoves).store.faults query,
          (cause? ((recorded quotingMoves).store.build query)).bind Error.clause?)) =
        some ([.refused .having], some .where) := by decide +kernel
    obtain ⟨query, hquery, hends⟩ := Option.map_eq_some_iff.1 hquoting
    obtain ⟨hfaults, hfailure⟩ := Prod.mk.inj hends
    obtain ⟨cause, hcause, hclause⟩ := Option.bind_eq_some_iff.1 hfailure
    exact ⟨query, hquery, hfaults, cause, cause?_eq_some.1 hcause, hclause⟩

end SqlBuilder
