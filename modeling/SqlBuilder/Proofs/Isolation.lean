import SqlBuilder.Proofs.Depth
import SqlBuilder.Connection.Recording
import SqlBuilder.Proofs.Frame

/-!
# Queries that do not depend on each other

What a query builds to is settled by its own record and by what stands at the places that its
references lead to, through unions and through what its statement mentions. An operation changes
nothing at any place but that of its own query. So all queries that do not depend on that query
build what they have built before, and so does a clone when its original changes, or the original
when its clone does.
-/

namespace SqlBuilder

open Outcome Ingredient Session

namespace Store

/-- Two stores hold the same at the given places, and references lead to no other places from
there. -/
structure Agree (places : Set Place) (store other : Store) : Prop where
  queries : ∀ id, .query id ∈ places → store.queries[id]? = other.queries[id]?
  detached : ∀ id, .blueprint id ∈ places → store.detached[id]? = other.detached[id]?
  closed : ∀ place ∈ places, ∀ blueprint, store.at? place = some blueprint →
    ∀ next ∈ blueprint.places, next ∈ places

namespace Agree

variable {places : Set Place} {store other : Store}

theorem at?_eq (h : Agree places store other) {place : Place} (hplace : place ∈ places) :
    store.at? place = other.at? place := by
  cases place with
  | query id => rw [at?, at?, h.queries id hplace]
  | blueprint id => exact h.detached id hplace

theorem symm (h : Agree places store other) : Agree places other store where
  queries id hid := (h.queries id hid).symm
  detached id hid := (h.detached id hid).symm
  closed place hplace blueprint hat := h.closed place hplace blueprint ((h.at?_eq hplace).trans hat)

theorem region (h : Agree places store other) :
    Statement.Region places store.resolve other.resolve
      {blueprint | ∀ place ∈ blueprint.places, place ∈ places} where
  within blueprint hblueprint ingredient hingredient place hplace :=
    hblueprint place
      (List.mem_append_right _ (List.mem_flatMap.2 ⟨ingredient, hingredient, hplace⟩))
  resolved blueprint hblueprint fragment hfragment := by
    apply store.resolve_congr
    intro place hplace
    have hmember : place ∈ blueprint.memberPlaces :=
      List.mem_filterMap.2 ⟨fragment, hfragment, hplace⟩
    exact h.at?_eq (hblueprint place (List.mem_append_left _ hmember))
  member blueprint hblueprint fragment hfragment member hmember := by
    obtain ⟨place, hplace, hat⟩ := store.at?_of_resolve hmember
    have hmem : place ∈ blueprint.memberPlaces :=
      List.mem_filterMap.2 ⟨fragment, hfragment, hplace⟩
    exact h.closed place (hblueprint place (List.mem_append_left _ hmem)) member hat

theorem references (h : Agree places store other) :
    store.references.Agree places other.references where
  query id hid := by simp only [Store.references, h.queries id hid]
  queryBlueprint id hid := by simp only [Store.references, h.queries id hid]
  blueprint id hid := by simp only [Store.references, h.detached id hid]

/-- The scopes of two stores that agree, at every depth: the snapshots are taken to one depth that
is enough for both. -/
theorem scopeWithin (h : Agree places store other) (depth : Nat) :
    (store.scopeWithin depth).Approximates places (other.scopeWithin depth) := by
  induction depth with
  | zero =>
      refine ⟨?_, fun id _ => .endless _⟩
      rw [store.references_scopeWithin, other.references_scopeWithin]
      exact h.references
  | succ depth ih =>
      refine ⟨?_, fun id hid => ?_⟩
      · rw [store.references_scopeWithin, other.references_scopeWithin]
        exact h.references
      cases hquery : store.queries[id]? with
      | none =>
          have hother : other.queries[id]? = none := (h.queries id hid).symm.trans hquery
          rw [statement_scopeWithin_none hquery, statement_scopeWithin_none hother]
          exact .refl _
      | some query =>
          have hother : other.queries[id]? = some query := (h.queries id hid).symm.trans hquery
          have hdepth : store.depth ≤ max store.depth other.depth := le_max_left _ _
          have hotherDepth : other.depth ≤ max store.depth other.depth := le_max_right _ _
          have hplaces : query.blueprint ∈
              {blueprint : Blueprint | ∀ place ∈ blueprint.places, place ∈ places} :=
            h.closed (.query id) hid query.blueprint (by rw [at?, hquery]; rfl)
          have hcompile := h.region.compile ih (le_refl (max store.depth other.depth)) hplaces
            query.compiler
          rw [store.compile_take hdepth, other.compile_take hotherDepth] at hcompile
          rw [statement_scopeWithin hquery, statement_scopeWithin hother]
          exact hcompile.map Compiled.sql

theorem scope (h : Agree places store other) : store.scope.Approximates places other.scope := by
  have hdepth : store.depth ≤ max store.depth other.depth := le_max_left _ _
  have hotherDepth : other.depth ≤ max store.depth other.depth := le_max_right _ _
  have hscope := h.scopeWithin (max store.depth other.depth)
  rwa [store.scopeWithin_eq hdepth, other.scopeWithin_eq hotherDepth] at hscope

/-- A query that refers only to places at which two stores agree builds the same in both. -/
theorem build_eq (h : Agree places store other) {query : Query}
    (hplaces : ∀ place ∈ query.blueprint.places, place ∈ places) :
    store.build query = other.build query := by
  have hdepth : store.depth ≤ max store.depth other.depth := le_max_left _ _
  have hotherDepth : other.depth ≤ max store.depth other.depth := le_max_right _ _
  have hcompile := h.region.compile h.scope (le_refl (max store.depth other.depth)) hplaces
    query.compiler
  have hreturn := h.symm.region.compile h.symm.scope (le_refl (max store.depth other.depth))
    hplaces query.compiler
  rw [store.compile_take hdepth, other.compile_take hotherDepth] at hcompile hreturn
  exact hcompile.antisymm hreturn

theorem whole_eq (h : Agree places store other) {blueprint : Blueprint}
    (hplaces : ∀ place ∈ blueprint.places, place ∈ places) (dialect : Dialect) (emptying : String)
    (members : Except Error (List Tokens)) :
    Statement.whole store.scope dialect emptying blueprint members =
      Statement.whole other.scope dialect emptying blueprint members := by
  have hwithin := h.region.within blueprint hplaces
  exact (h.scope.whole hwithin (.refl _)).antisymm (h.symm.scope.whole hwithin (.refl _))

/-- References from the given places lead the same way in both stores. -/
theorem reaches (h : Agree places store other) {place next : Place} (hplace : place ∈ places)
    (hreaches : Relation.ReflTransGen other.Refers place next) :
    Relation.ReflTransGen store.Refers place next ∧ next ∈ places := by
  induction hreaches with
  | refl => exact ⟨.refl, hplace⟩
  | tail _ hstep ih =>
      obtain ⟨hbefore, hmem⟩ := ih
      obtain ⟨blueprint, hat, hnext⟩ := hstep
      have hsame := (h.at?_eq hmem).trans hat
      exact ⟨hbefore.tail ⟨blueprint, hsame, hnext⟩, h.closed _ hmem blueprint hsame _ hnext⟩

theorem depends (h : Agree places store other) {blueprint : Blueprint}
    (hplaces : ∀ place ∈ blueprint.places, place ∈ places) {place : Place}
    (hdepends : other.Depends blueprint place) : store.Depends blueprint place := by
  obtain ⟨first, hfirst, hreaches⟩ := hdepends
  exact ⟨first, hfirst, (h.reaches (hplaces first hfirst) hreaches).1⟩

end Agree

theorem depends_of_mem {store : Store} {blueprint : Blueprint} {place : Place}
    (h : place ∈ blueprint.places) : store.Depends blueprint place :=
  ⟨place, h, .refl⟩

theorem Depends.mono {store : Store} {blueprint other : Blueprint} {place : Place}
    (hplaces : ∀ place ∈ blueprint.places, place ∈ other.places)
    (h : store.Depends blueprint place) : store.Depends other place := by
  obtain ⟨first, hfirst, hreaches⟩ := h
  exact ⟨first, hplaces first hfirst, hreaches⟩

theorem Depends.next {store : Store} {blueprint standing : Blueprint} {place next : Place}
    (h : store.Depends blueprint place) (hat : store.at? place = some standing)
    (hnext : next ∈ standing.places) : store.Depends blueprint next := by
  obtain ⟨first, hfirst, hreaches⟩ := h
  exact ⟨first, hfirst, hreaches.tail ⟨standing, hat, hnext⟩⟩

theorem mem_of_refers {store : Store} {place next : Place} {places : List Place}
    (hplaces : (store.at? place).map Blueprint.places = some places)
    (h : store.Refers place next) : next ∈ places := by
  obtain ⟨standing, hat, hnext⟩ := h
  rw [hat] at hplaces
  obtain rfl := Option.some.inj hplaces
  exact hnext

/-- What refers to a single place depends on nothing else if that refers to nothing but itself. -/
theorem Depends.eq_of_single {store : Store} {blueprint : Blueprint} {single place : Place}
    (hplaces : blueprint.places = [single])
    (hsingle : ∀ next, store.Refers single next → next = single)
    (h : store.Depends blueprint place) : place = single := by
  obtain ⟨first, hfirst, hreaches⟩ := h
  rw [hplaces, List.mem_singleton] at hfirst
  induction hreaches with
  | refl => exact hfirst
  | tail _ hstep ih => exact hsingle _ (ih ▸ hstep)

theorem Keeps.queries_of_at? {ids : Set Nat} {store later : Store} (h : store.Keeps ids later)
    {id : Nat} (hat : ∃ standing, store.at? (.query id) = some standing) (hid : id ∉ ids) :
    later.queries[id]? = store.queries[id]? := by
  obtain ⟨standing, hat⟩ := hat
  obtain ⟨query, hquery, _⟩ := Option.map_eq_some_iff.1 hat
  obtain ⟨hsize, _⟩ := Array.getElem?_eq_some_iff.1 hquery
  exact h.queries id hsize hid

theorem Keeps.detached_of_at? {ids : Set Nat} {store later : Store} (h : store.Keeps ids later)
    {id : Nat} (hat : ∃ standing, store.at? (.blueprint id) = some standing) :
    later.detached[id]? = store.detached[id]? := by
  obtain ⟨standing, hat⟩ := hat
  obtain ⟨hsize, _⟩ := Array.getElem?_eq_some_iff.1 hat
  exact h.detached id hsize

/-- What a blueprint depends on is there in both stores and the same, if the change between them
leaves it alone. -/
theorem Keeps.agree {ids : Set Nat} {store later : Store} (h : store.Keeps ids later)
    {blueprint : Blueprint} (hanchors : store.Anchors blueprint)
    (hfree : ∀ id ∈ ids, ¬ store.Depends blueprint (.query id)) :
    Agree {place | store.Depends blueprint place} store later where
  queries id hid := (h.queries_of_at? (hanchors _ hid) fun hmem => hfree id hmem hid).symm
  detached _ hid := (h.detached_of_at? (hanchors _ hid)).symm
  closed _ hplace _ hat _ hnext := Depends.next hplace hat hnext

theorem Keeps.build_eq {ids : Set Nat} {store later : Store} (h : store.Keeps ids later)
    {query : Query} (hanchors : store.Anchors query.blueprint)
    (hfree : ∀ id ∈ ids, ¬ store.Depends query.blueprint (.query id)) :
    later.build query = store.build query :=
  ((h.agree hanchors hfree).build_eq fun _ hplace => depends_of_mem hplace).symm

theorem Keeps.references {ids : Set Nat} {store later : Store} (h : store.Keeps ids later) :
    later.references.Agree
      {place | (∃ standing, store.at? place = some standing) ∧ ∀ id ∈ ids, place ≠ .query id}
      store.references where
  query id hid := by
    simp only [Store.references, h.queries_of_at? hid.1 fun hmem => hid.2 id hmem rfl]
  queryBlueprint id hid := by
    simp only [Store.references, h.queries_of_at? hid.1 fun hmem => hid.2 id hmem rfl]
  blueprint _ hid := by simp only [Store.references, h.detached_of_at? hid.1]

/-- What a query builds to or fails with is the same in a later store in which only `changed` is
another, and so is what it depends on. A failure has the same wording, unless that shows `changed`
itself. -/
structure Preserves (store : Store) (changed : Nat) (later : Store) (query : Query) : Prop where
  build : later.build query = store.build query
  wording : ∀ cause, store.build query = .error cause →
    (∀ place ∈ cause.described,
      place ≠ .query changed ∧ ∃ standing, store.at? place = some standing) →
    cause.message? later.references = cause.message? store.references
  anchors : later.Anchors query.blueprint
  depends : ∀ place, later.Depends query.blueprint place ↔ store.Depends query.blueprint place

theorem Keeps.record {ids : Set Nat} {store later : Store} (h : store.Keeps ids later)
    {id : Nat} {query : Query} (hquery : store.queries[id]? = some query) (hid : id ∉ ids) :
    later.queries[id]? = some query := by
  obtain ⟨hsize, _⟩ := Array.getElem?_eq_some_iff.1 hquery
  rw [h.queries id hsize hid, hquery]

theorem Keeps.preserves {changed : Nat} {store later : Store} (h : store.Keeps {changed} later)
    {query : Query} (hanchors : store.Anchors query.blueprint)
    (hfree : ¬ store.Depends query.blueprint (.query changed)) :
    store.Preserves changed later query := by
  have hagree : Agree {place | store.Depends query.blueprint place} store later :=
    h.agree hanchors (by rintro _ rfl; exact hfree)
  have hplaces : ∀ place ∈ query.blueprint.places,
      place ∈ {place | store.Depends query.blueprint place} :=
    fun place hplace => depends_of_mem hplace
  refine ⟨?build, ?wording, ?anchors, ?depends⟩
  case build => exact h.build_eq hanchors (by rintro _ rfl; exact hfree)
  case wording =>
      intro cause _ hcause
      apply h.references.message?
      intro place hplace
      obtain ⟨hne, hthere⟩ := hcause place hplace
      refine ⟨hthere, ?_⟩
      rintro _ rfl
      exact hne
  case anchors =>
      intro place hdepends
      have hbefore := hagree.depends hplaces hdepends
      obtain ⟨standing, hat⟩ := hanchors place hbefore
      exact ⟨standing, (hagree.at?_eq hbefore).symm.trans hat⟩
  case depends =>
      intro place
      constructor
      · intro hlater
        exact hagree.depends hplaces hlater
      · intro hbefore
        exact hagree.symm.depends hplaces hbefore

end Store

section Connections

variable {κ σ : Type} [Connection κ]

/-- Whatever is done with one query, no other query changes, and all that do not depend on it build
what they have built before. A clone is a query of its own: it builds what its original builds, and
from then on neither is changed by what is done with the other. Only an original that depends on
itself, as one whose union contains it, still shows through its clone. -/
theorem queries_isolated (session : Session κ σ) :
    (∀ changed operations, (∀ operation ∈ operations, operation.Confined {changed}) →
      ∀ id query, session.store.queries[id]? = some query → id ≠ changed →
        (session.after changed operations).store.queries[id]? = some query ∧
        (session.store.Anchors query.blueprint →
          ¬ session.store.Depends query.blueprint (.query changed) →
          session.store.Preserves changed (session.after changed operations).store query)) ∧
    (∀ original query, session.store.queries[original]? = some query →
      session.store.Anchors query.blueprint →
      ∃ copy later, play (clone original) session = (.ok copy, later) ∧ copy ≠ original ∧
        later.store.queries[original]? = some query ∧
        later.store.queries[copy]? = some query ∧
        later.store.build query = session.store.build query ∧
        (∀ operations, (∀ operation ∈ operations, operation.Confined {copy}) →
          (later.after copy operations).store.queries[original]? = some query ∧
          later.store.Preserves copy (later.after copy operations).store query) ∧
        (∀ operations, (∀ operation ∈ operations, operation.Confined {original}) →
          (later.after original operations).store.queries[copy]? = some query ∧
          (¬ session.store.Depends query.blueprint (.query original) →
            later.store.Preserves original (later.after original operations).store query))) := by
  constructor
  · intro changed operations hconfined id query hquery hid
    have hkeeps := Store.Keeps.after hconfined session
    refine ⟨hkeeps.record hquery hid, ?_⟩
    intro hanchors hfree
    exact hkeeps.preserves hanchors hfree
  · intro original query hquery hanchors
    obtain ⟨hsize, _⟩ := Array.getElem?_eq_some_iff.1 hquery
    have hclone : play (clone original) session =
        (.ok session.store.queries.size, session.withAdded query) := by
      rw [clone, play_bind_ok (play_query hquery), play_addQuery]
    have hadd : session.store.Keeps {session.store.queries.size} (session.withAdded query).store :=
      .add session.store query
    have hnew : ¬ session.store.Depends query.blueprint (.query session.store.queries.size) := by
      intro hdepends
      obtain ⟨standing, hat⟩ := hanchors _ hdepends
      simp [Store.at?] at hat
    have hne : original ≠ session.store.queries.size := Nat.ne_of_lt hsize
    have hcopied := hadd.preserves hanchors hnew
    have horiginal := hadd.record hquery hne
    have hcopy := session.queries_withAdded query
    refine ⟨_, _, hclone, hne.symm, horiginal, hcopy, hcopied.build, ?_, ?_⟩
    · intro operations hconfined
      have hkeeps := Store.Keeps.after hconfined (session.withAdded query)
      have hfree := fun hdepends => hnew ((hcopied.depends _).1 hdepends)
      exact ⟨hkeeps.record horiginal hne, hkeeps.preserves hcopied.anchors hfree⟩
    · intro operations hconfined
      have hkeeps := Store.Keeps.after hconfined (session.withAdded query)
      refine ⟨hkeeps.record hcopy hne.symm, ?_⟩
      intro hitself
      have hfree := fun hdepends => hitself ((hcopied.depends _).1 hdepends)
      exact hkeeps.preserves hcopied.anchors hfree

end Connections

def Query.mentioning (id : Nat) : Query :=
  (Query.new 0 .mysql Options.standard).addColumn (.raw (.query id)) (.text "")

def Session.mentioning : Session RecordingConnection Unit :=
  let query := Query.new 0 .mysql Options.standard
  let session := ((Session.start ()).withAdded query).withAdded query
  let named := session.after 0 [.call (.table (.text "t") (.text ""))]
  named.after 1 [.call (.column (.raw (.query 0)) (.text ""))]

theorem Session.query_mentioning :
    Session.mentioning.store.queries[1]? = some (Query.mentioning 0) := rfl

theorem Query.places_mentioning : (Query.mentioning 0).blueprint.places = [.query 0] := by
  decide +kernel

theorem Session.depends_mentioning {place : Place}
    (h : Session.mentioning.store.Depends (Query.mentioning 0).blueprint place) :
    place = .query 0 := by
  have hnone : (Session.mentioning.store.at? (.query 0)).map Blueprint.places = some [] := by
    decide +kernel
  apply h.eq_of_single Query.places_mentioning
  intro next hrefers
  cases Store.mem_of_refers hnone hrefers

/-- What is done with a clone of a query does not show in the query that it mentions. -/
theorem queries_isolated_mentioning :
    ∃ copy later, play (clone 1) Session.mentioning = (.ok copy, later) ∧
      later.store.Preserves copy
        (later.after copy [.call (.union (.query 1)), .call (.table (.text "s") (.text ""))]).store
        (Query.mentioning 0) := by
  have hanchors : Session.mentioning.store.Anchors (Query.mentioning 0).blueprint := by
    intro place hdepends
    rw [Session.depends_mentioning hdepends]
    exact ⟨_, rfl⟩
  obtain ⟨copy, later, hclone, _, _, _, _, hpreserves, _⟩ :=
    (queries_isolated Session.mentioning).2 1 _ Session.query_mentioning hanchors
  refine ⟨copy, later, hclone, (hpreserves _ ?_).2⟩
  intro operation hoperation
  rcases List.mem_cons.1 hoperation with rfl | hrest
  · trivial
  · obtain rfl := List.mem_singleton.1 hrest
    trivial

/-- Whether a place is that of a member of the union at another. -/
def Store.Unites (store : Store) (place member : Place) : Prop :=
  ∃ blueprint, store.at? place = some blueprint ∧ member ∈ blueprint.memberPlaces

theorem Store.not_unites_of_memberPlaces {store : Store}
    (h : ∀ blueprint ∈ store.blueprints, blueprint.memberPlaces = []) (place member : Place) :
    ¬ store.Unites place member := by
  rintro ⟨blueprint, hat, hmember⟩
  rw [h blueprint (store.mem_blueprints_of_at? hat)] at hmember
  cases hmember

theorem Session.not_unites_mentioning (place member : Place) :
    ¬ Session.mentioning.store.Unites place member :=
  Store.not_unites_of_memberPlaces (by decide +kernel) place member

/-- It is not enough that no union leads from one query to another: the first may mention the second
in its text. -/
theorem unions_do_not_isolate :
    ¬ ∀ (session : Session RecordingConnection Unit) (changed id : Nat) (query : Query)
        (operation : Operation RecordingConnection Unit),
      (∀ place, ¬ Relation.TransGen session.store.Unites place place) →
      operation.Confined {changed} → session.store.queries[id]? = some query → id ≠ changed →
      ¬ Relation.ReflTransGen session.store.Unites (.query id) (.query changed) →
      (session.after changed [operation]).store.build query = session.store.build query := by
  intro h
  have hacyclic : ∀ place,
      ¬ Relation.TransGen Session.mentioning.store.Unites place place := by
    intro place hcycle
    obtain ⟨next, hstep, _⟩ := Relation.TransGen.head'_iff.1 hcycle
    exact Session.not_unites_mentioning place next hstep
  have hunreached :
      ¬ Relation.ReflTransGen Session.mentioning.store.Unites (.query 1) (.query 0) := by
    intro hreaches
    rcases hreaches.cases_head with heq | ⟨next, hstep, _⟩
    · cases heq
    · exact Session.not_unites_mentioning _ next hstep
  have hsame := h Session.mentioning 0 1 _ (.call (.table (.text "s") (.text ""))) hacyclic trivial
    Session.query_mentioning one_ne_zero hunreached
  have hother :
      ((Session.mentioning.after 0 [.call (.table (.text "s") (.text ""))]).store.build
        (Query.mentioning 0)).toOption.map Compiled.sql ≠
      (Session.mentioning.store.build (Query.mentioning 0)).toOption.map Compiled.sql := by
    decide +kernel
  exact hother (congrArg (fun outcome => outcome.toOption.map Compiled.sql) hsame)

end SqlBuilder
