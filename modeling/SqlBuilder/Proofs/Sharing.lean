import SqlBuilder.Proofs.Evaluation
import SqlBuilder.Proofs.Isolation

/-!
# Members that several unions share

A union holds references to its members, and two unions may refer to the same one. That a member is
shared does not show in what is built: every union can be given clones of its members that nothing
else refers to, and the members of those clones of their own, and so on down, and what is built
stays the same. What is a member is compiled by the compiler of the query that is built, so it makes
no difference with which compilers the clones are made. Only what is written out as text, in a place
other than a union, is built by its own.
-/

namespace SqlBuilder

open Outcome Ingredient

namespace Store

/-! ### Clones of members -/

/-- A blueprint is put into a store, in a query or on its own, at a place that was not there before.
The last part is what a union refers to it by. -/
inductive Adds (store : Store) (blueprint : Blueprint) : Store → Value → Prop
  | query (query : Query) (h : query.blueprint = blueprint) :
      Adds store blueprint (store.add query).2 (.query (store.add query).1)
  | queryBlueprint (query : Query) (h : query.blueprint = blueprint) :
      Adds store blueprint (store.add query).2 (.queryBlueprint (store.add query).1)
  | blueprint :
      Adds store blueprint (store.addDetached blueprint).2
        (.blueprint (store.addDetached blueprint).1)

/-- The members of a union are replaced one after the other by clones of what they are in a store,
whose members have been replaced in the same way. A clone is put where nothing else refers to it.
What is no member stays. Given are the store to which the clones are added and the fragments of the
union, before and after. -/
inductive Clones (store : Store) : Store → List Fragment → Store → List Fragment → Prop
  | nil {before : Store} : Clones store before [] before []
  | member {before between cloned after : Store} {fragment : Fragment} {blueprint : Blueprint}
      {value : Value} {rest copies others : List Fragment}
      (resolved : store.resolve (fragment.read "query") = .ok blueprint)
      (inner : Clones store before (blueprint.fragments .union) between copies)
      (added : between.Adds (blueprint.replace .union copies) cloned value)
      (behind : Clones store cloned rest after others) :
      Clones store before (fragment :: rest) after (.of [("query", value)] :: others)
  | refused {before after : Store} {fragment : Fragment} {cause : Error}
      {rest others : List Fragment}
      (refused : store.resolve (fragment.read "query") = .error cause)
      (behind : Clones store before rest after others) :
      Clones store before (fragment :: rest) after (fragment :: others)

variable {store before after final : Store} {blueprint : Blueprint}

theorem Keeps.addDetached (ids : Set Nat) (store : Store) (blueprint : Blueprint) :
    store.Keeps ids (store.addDetached blueprint).2 where
  size := le_refl _
  queries _ _ _ := rfl
  detached id hid := by simp [Store.addDetached, Array.getElem?_push, Nat.ne_of_lt hid]

namespace Adds

variable {value : Value}

theorem keeps (h : before.Adds blueprint after value) : before.Keeps ∅ after := by
  cases h with
  | query query => exact .add before query
  | queryBlueprint query => exact .add before query
  | blueprint => exact .addDetached ∅ before blueprint

/-- What has been added is what the union refers to, whatever else is added later. -/
theorem resolve (h : before.Adds blueprint after value) (hlater : after.Keeps ∅ final) :
    final.resolve value = .ok blueprint := by
  cases h with
  | query query hquery | queryBlueprint query hquery =>
      have hadded : (before.add query).2.queries[(before.add query).1]? = some query := by
        simp [add]
      have hkept := hlater.record hadded (Set.notMem_empty _)
      refine final.resolve_of_at? rfl ?_
      rw [at?, hkept, ← hquery]
      rfl
  | blueprint =>
      have hadded : (before.addDetached blueprint).2.at?
          (.blueprint (before.addDetached blueprint).1) = some blueprint := by
        simp [at?, addDetached]
      refine final.resolve_of_at? rfl ?_
      exact (hlater.detached_of_at? ⟨_, hadded⟩).trans hadded

end Adds

theorem Clones.keeps {fragments copies : List Fragment}
    (h : store.Clones before fragments after copies) : before.Keeps ∅ after := by
  induction h with
  | nil => exact .refl ∅ _
  | member _ _ hadded _ hinner hbehind => exact (hinner.trans hadded.keeps).trans hbehind
  | refused _ _ hbehind => exact hbehind

/-! ### What clones are compiled to -/

theorem tokens_eq (store : Store) (compiler : Compiler) (blueprint : Blueprint) :
    store.tokens compiler blueprint =
      Statement.whole store.scope compiler.dialect compiler.emptying blueprint
        ((blueprint.fragments .union).mapM fun fragment =>
          store.resolve (fragment.read "query") >>= store.tokens compiler) := by
  rw [tokens_eq_layer, layer, ← scope_eq]

theorem tokens_replace (hstore : store.Keeps ∅ final) (hanchors : store.Anchors blueprint)
    {compiler : Compiler} {copies : List Fragment}
    (hmembers : ((blueprint.fragments .union).mapM fun fragment =>
        store.resolve (fragment.read "query") >>= store.tokens compiler) =
      copies.mapM fun fragment =>
        final.resolve (fragment.read "query") >>= final.tokens compiler) :
    final.tokens compiler (blueprint.replace .union copies) =
      store.tokens compiler blueprint := by
  have hfragments : (blueprint.replace .union copies).fragments .union = copies := by
    rw [Blueprint.fragments_replace, if_pos (beq_self_eq_true Clause.union)]
  have hagree : Agree {place | store.Depends blueprint place} store final :=
    hstore.agree hanchors fun _ hid => absurd hid (Set.notMem_empty _)
  rw [tokens_eq, tokens_eq store, hfragments, ← hmembers, Statement.whole_replace_union]
  exact (hagree.whole_eq (fun _ hplace => depends_of_mem hplace) _ _ _).symm

theorem Anchors.member (h : store.Anchors blueprint) {fragment : Fragment}
    (hfragment : fragment ∈ blueprint.fragments .union) {place : Place}
    (hplace : Place.ofMember? (fragment.read "query") = some place) :
    ∃ standing, store.at? place = some standing ∧ store.Anchors standing := by
  have hmember : place ∈ blueprint.places :=
    List.mem_append_left _ (List.mem_filterMap.2 ⟨fragment, hfragment, hplace⟩)
  obtain ⟨standing, hat⟩ := h place (depends_of_mem hmember)
  refine ⟨standing, hat, ?_⟩
  rintro next ⟨first, hfirst, hreaches⟩
  exact h next ⟨place, hmember, .head ⟨standing, hat, hfirst⟩ hreaches⟩

/-- Clones are compiled to what the members are that they are clones of, by whatever compiler and
whatever else is added to the store. -/
theorem Clones.members_eq {fragments copies : List Fragment}
    (h : store.Clones before fragments after copies)
    (hanchors : ∀ fragment ∈ fragments, ∀ place,
      Place.ofMember? (fragment.read "query") = some place →
        ∃ standing, store.at? place = some standing ∧ store.Anchors standing)
    (hlater : after.Keeps ∅ final) (hstore : store.Keeps ∅ final) (compiler : Compiler) :
    (fragments.mapM fun fragment =>
        store.resolve (fragment.read "query") >>= store.tokens compiler) =
      copies.mapM fun fragment =>
        final.resolve (fragment.read "query") >>= final.tokens compiler := by
  induction h with
  | nil => rw [List.mapM_nil, List.mapM_nil]
  | @member before between cloned after fragment blueprint value rest copies others hresolved hinner
      hadded hbehind ihinner ihbehind =>
      have hkeeps : cloned.Keeps ∅ final := hbehind.keeps.trans hlater
      obtain ⟨place, hplace, hat⟩ := store.at?_of_resolve hresolved
      obtain ⟨standing, hstanding, hanchored⟩ := hanchors fragment List.mem_cons_self place hplace
      obtain rfl : blueprint = standing := Option.some.inj (hat.symm.trans hstanding)
      have hmembers := ihinner (fun _ hmem _ => hanchored.member hmem) (hadded.keeps.trans hkeeps)
      have hvalue : (Fragment.of [("query", value)]).read "query" = value := rfl
      rw [List.mapM_cons, List.mapM_cons, hresolved, hvalue, hadded.resolve hkeeps, ok_bind,
        ok_bind, tokens_replace hstore hanchored hmembers,
        ihbehind (fun other hother => hanchors other (List.mem_cons_of_mem _ hother)) hlater]
  | @refused before after fragment cause rest others hrefused hbehind ihbehind =>
      have hsame : final.resolve (fragment.read "query") = .error cause := by
        rcases store.resolve_eq (fragment.read "query") with ⟨place, hplace, -⟩ | ⟨-, other, hother⟩
        · obtain ⟨standing, hat, -⟩ := hanchors fragment List.mem_cons_self place hplace
          rw [store.resolve_of_at? hplace hat] at hrefused
          cases hrefused
        · rw [hother, ← hother store, hrefused]
      rw [List.mapM_cons, List.mapM_cons, hrefused, hsame,
        ihbehind (fun other hother => hanchors other (List.mem_cons_of_mem _ hother)) hlater,
        error_bind, error_bind, error_bind, error_bind]

/-- A query with clones in its union builds to what it builds to with the members themselves. -/
theorem Clones.build_eq {query : Query} {later : Store} {copies : List Fragment}
    (h : store.Clones store (query.blueprint.fragments .union) later copies)
    (hanchors : store.Anchors query.blueprint) :
    later.build { query with blueprint := query.blueprint.replace .union copies } =
      store.build query := by
  have hmembers := h.members_eq (fun _ hmem _ => hanchors.member hmem) (.refl ∅ later) h.keeps
    query.compiler
  rw [build_eq_tokens, build_eq_tokens]
  exact congrArg _ (tokens_replace h.keeps hanchors hmembers)

/-! ### Where clones can be made -/

theorem Clones.acc {fragments copies : List Fragment}
    (h : store.Clones before fragments after copies) {fragment : Fragment}
    (hfragment : fragment ∈ fragments) {place : Place}
    (hplace : Place.ofMember? (fragment.read "query") = some place) :
    Acc (fun next place => store.Unites place next) place := by
  induction h generalizing fragment place with
  | nil => cases hfragment
  | member hresolved _ _ _ ihinner ihbehind =>
      rcases List.mem_cons.1 hfragment with rfl | hrest
      · refine .intro place fun next hnext => ?_
        obtain ⟨standing, hat, hmember⟩ := hnext
        rw [store.resolve_of_at? hplace hat] at hresolved
        obtain rfl := Except.ok.inj hresolved
        obtain ⟨inner, hinner, hnext⟩ := List.mem_filterMap.1 hmember
        exact ihinner hinner hnext
      · exact ihbehind hrest hplace
  | refused hrefused _ ihbehind =>
      rcases List.mem_cons.1 hfragment with rfl | hrest
      · refine .intro place fun next hnext => ?_
        obtain ⟨standing, hat, -⟩ := hnext
        rw [store.resolve_of_at? hplace hat] at hrefused
        cases hrefused
      · exact ihbehind hrest hplace

theorem exists_clones_of_members {fragments : List Fragment}
    (h : ∀ fragment ∈ fragments, ∀ blueprint,
      store.resolve (fragment.read "query") = .ok blueprint → ∀ before,
        ∃ after copies, store.Clones before (blueprint.fragments .union) after copies)
    (before : Store) : ∃ after copies, store.Clones before fragments after copies := by
  induction fragments generalizing before with
  | nil => exact ⟨before, [], .nil⟩
  | cons fragment rest ih =>
      have hrest := ih fun other hother => h other (List.mem_cons_of_mem _ hother)
      cases hresolve : store.resolve (fragment.read "query") with
      | error cause =>
          obtain ⟨after, others, hbehind⟩ := hrest before
          exact ⟨after, _, .refused hresolve hbehind⟩
      | ok blueprint =>
          obtain ⟨between, copies, hinner⟩ := h fragment List.mem_cons_self blueprint hresolve before
          obtain ⟨after, others, hbehind⟩ :=
            hrest (between.addDetached (blueprint.replace .union copies)).2
          exact ⟨after, _, .member hresolve hinner .blueprint hbehind⟩

theorem exists_clones_of_acc {place : Place}
    (h : Acc (fun next place => store.Unites place next) place) {standing : Blueprint}
    (hat : store.at? place = some standing) (before : Store) :
    ∃ after copies, store.Clones before (standing.fragments .union) after copies := by
  induction h generalizing standing before with
  | intro place _ ih =>
      refine exists_clones_of_members (fun fragment hfragment inner hresolve => ?_) before
      obtain ⟨next, hnext, hinner⟩ := store.at?_of_resolve hresolve
      exact ih next ⟨standing, hat, List.mem_filterMap.2 ⟨fragment, hfragment, hnext⟩⟩ hinner

/-- The members of a union can be cloned if and only if they lead to no circle of unions. -/
theorem exists_clones_iff :
    (∃ after copies, store.Clones before (blueprint.fragments .union) after copies) ↔
      ∀ next ∈ blueprint.memberPlaces, Unwinds store.Unites next := by
  constructor
  · rintro ⟨after, copies, h⟩ next hnext
    obtain ⟨fragment, hfragment, hplace⟩ := List.mem_filterMap.1 hnext
    exact unwinds_of_acc (h.acc hfragment hplace)
  · intro h
    refine exists_clones_of_members (fun fragment hfragment inner hresolve => ?_) before
    obtain ⟨next, hnext, hinner⟩ := store.at?_of_resolve hresolve
    have hmember : next ∈ blueprint.memberPlaces :=
      List.mem_filterMap.2 ⟨fragment, hfragment, hnext⟩
    have hstands : ∀ place next, store.Unites place next →
        ∃ standing, store.at? place = some standing := by
      rintro place next ⟨standing, hat, -⟩
      exact ⟨standing, hat⟩
    exact exists_clones_of_acc (acc_of_unwinds hstands (h next hmember)) hinner

/-- A query can be evaluated, in finitely many steps and to what it builds to, if and only if
neither its union nor what it writes out leads to a circle. If its union leads to no circle of
unions, the members can be replaced by clones of their own, all the way down, and what is built
stays the same whatever the compilers of the clones are, the wording of a failure included: it is
the compiler of the query that the members are compiled by. What is written out is built by its own
compiler. -/
theorem build_unshared (store : Store) (query : Query) :
    ((∃ result, store.Evaluates query.compiler query.blueprint result) ↔
      ∀ next, store.Leads query.blueprint next → Unwinds store.Follows next) ∧
    (∀ result, store.Evaluates query.compiler query.blueprint result →
      store.build query = query.compiler.finish <$> result) ∧
    ((∃ later copies, store.Clones store (query.blueprint.fragments .union) later copies) ↔
      ∀ next ∈ query.blueprint.memberPlaces, Unwinds store.Unites next) ∧
    (store.Anchors query.blueprint → ∀ later copies,
      store.Clones store (query.blueprint.fragments .union) later copies →
        later.build { query with blueprint := query.blueprint.replace .union copies } =
          store.build query ∧
        ∀ cause, store.build query = .error cause →
          (∀ place ∈ cause.described, ∃ standing, store.at? place = some standing) →
            cause.message? later.references = cause.message? store.references) ∧
    store.build query = query.compiler.finish <$>
      Statement.whole store.scope query.compiler.dialect query.compiler.emptying query.blueprint
        ((query.blueprint.fragments .union).mapM fun fragment =>
          store.resolve (fragment.read "query") >>= store.tokens query.compiler) ∧
    ∀ id mentioned, store.queries[id]? = some mentioned →
      store.scope.statement id = Compiled.sql <$> store.build mentioned := by
  refine ⟨exists_evaluates_iff, ?evaluated, exists_clones_iff, ?cloned, ?compiled, ?mentioned⟩
  case evaluated =>
    intro result hresult
    rw [build_eq_tokens, hresult.eq_tokens]
  case cloned =>
    intro hanchors later copies hclones
    refine ⟨hclones.build_eq hanchors, fun cause _ hcause => ?_⟩
    apply hclones.keeps.references.message?
    intro place hplace
    exact ⟨hcause place hplace, fun _ hid => absurd hid (Set.notMem_empty _)⟩
  case compiled => rw [build_eq_tokens, tokens_eq]
  case mentioned => exact fun id mentioned hmentioned => store.statement_scope hmentioned

/-! ### A member that two unions share -/

theorem Follows.refers {place next : Place} (h : store.Follows place next) :
    store.Refers place next := by
  obtain ⟨standing, hat, hleads⟩ := h
  exact ⟨standing, hat, hleads.mem_places⟩

theorem Unites.refers {place next : Place} (h : store.Unites place next) :
    store.Refers place next := by
  obtain ⟨standing, hat, hmember⟩ := h
  exact ⟨standing, hat, List.mem_append_left _ hmember⟩

theorem anchors_of_blueprints
    (h : ∀ standing ∈ blueprint :: store.blueprints, ∀ next ∈ standing.places,
      (store.at? next).isSome = true) : store.Anchors blueprint := by
  rintro place ⟨first, hfirst, hreaches⟩
  apply Option.isSome_iff_exists.1
  rcases hreaches.cases_tail with rfl | ⟨before, -, standing, hat, hplace⟩
  · exact h blueprint List.mem_cons_self _ hfirst
  · exact h standing (List.mem_cons_of_mem _ (store.mem_blueprints_of_at? hat)) place hplace

end Store

def Query.gathering (compiler : Compiler) (table : String) (members : List Nat) : Query :=
  members.foldl (fun query id => query.addUnion (.query id))
    ((Query.new 0 compiler Options.standard).setTable (.text table) (.text ""))

def Compiler.standard : Compiler :=
  { Compiler.mysql with label := "StandardCompiler", quote := Identifier.standard }

/-- A query that two members of its union have in theirs, and that it writes out as well. -/
def Query.diamond : Query :=
  (Query.gathering .mysql "d" [1, 2]).addColumn (.raw (.query 0)) (.text "")

def Store.diamond : Store :=
  ⟨#[Query.gathering .standard "a" [], Query.gathering .sqlite "b" [0], Query.gathering .standard "c" [0],
    Query.diamond], #[]⟩

def Place.rank : Place → Nat
  | query id => id
  | blueprint _ => 0

theorem Store.rank_diamond (place next : Place) (h : Store.diamond.Refers place next) :
    next.rank < place.rank := by
  have hranks : ∀ id ∈ List.range 4,
      ∀ next ∈ ((Store.diamond.at? (.query id)).map Blueprint.places).getD [],
        next.rank < id := by
    decide +kernel
  obtain ⟨standing, hat, hnext⟩ := h
  cases place with
  | query id =>
      obtain ⟨query, hquery, -⟩ := Option.map_eq_some_iff.1 hat
      obtain ⟨hsize, -⟩ := Array.getElem?_eq_some_iff.1 hquery
      apply hranks id (List.mem_range.2 hsize)
      rw [hat]
      exact hnext
  | blueprint id => cases hat

/-- The query that is shared is compiled by the compiler that quotes with backticks where it is a
member, whatever its own is, and by its own where it is written out. -/
theorem Store.build_unshared_diamond :
    (∃ result, Store.diamond.Evaluates .mysql Query.diamond.blueprint result) ∧
    ∃ later copies,
      Store.diamond.Clones Store.diamond (Query.diamond.blueprint.fragments .union) later copies ∧
      later.build { Query.diamond with
        blueprint := Query.diamond.blueprint.replace .union copies } =
          Store.diamond.build Query.diamond ∧
      (Store.diamond.build Query.diamond).toOption.map Compiled.sql =
        some ("SELECT SELECT * FROM \x22a\x22 FROM \x60d\x60 UNION " ++
          "SELECT * FROM \x60b\x60 UNION SELECT * FROM \x60a\x60, " ++
          "SELECT * FROM \x60c\x60 UNION SELECT * FROM \x60a\x60") := by
  obtain ⟨hends, -, hclones, hsame, -, -⟩ := build_unshared Store.diamond Query.diamond
  have hanchors : Store.diamond.Anchors Query.diamond.blueprint := by
    apply anchors_of_blueprints
    decide +kernel
  obtain ⟨later, copies, h⟩ := hclones.2 fun next _ =>
    unwinds_of_rank (fun _ _ hstep => rank_diamond _ _ (Unites.refers hstep)) next
  refine ⟨hends.2 fun next _ => ?_, later, copies, h, (hsame hanchors later copies h).1, ?_⟩
  · exact unwinds_of_rank (fun _ _ hstep => rank_diamond _ _ (Follows.refers hstep)) next
  · decide +kernel

/-! ### What is written out is no member -/

/-- A single query, whose only column is its own statement. -/
def Store.mirror : Store :=
  ⟨#[Query.mentioning 0], #[]⟩

def Store.single (compiler : Compiler) : Store :=
  ⟨#[Query.gathering compiler "t" []], #[]⟩

/-- A query with another one in its union that it writes out as well. -/
def Query.embedding : Query :=
  ((Query.new 0 .mysql Options.standard).addUnion (.query 0)).addColumn (.raw (.query 0)) (.text "")

theorem Store.unwinds_unites {store : Store}
    (h : ∀ blueprint ∈ store.blueprints, blueprint.memberPlaces = []) (start : Place) :
    Unwinds store.Unites start := by
  have hrank : ∀ place next, store.Unites place next → next.rank < place.rank :=
    fun place next hstep => absurd hstep (store.not_unites_of_memberPlaces h place next)
  exact unwinds_of_rank hrank start

theorem Store.consults_mirror : Store.mirror.Consults (Query.mentioning 0).blueprint 0 := by
  refine ⟨.mysql, "", .ok [], { Store.mirror.references with statement := fun _ => .ok "a" },
    { Store.mirror.references with
      statement := fun id => if id = 0 then .ok "b" else .ok "a" }, rfl, rfl, ?_, ?_⟩
  · intro next hnext
    exact (if_neg hnext).symm
  · intro hsame
    have htexts := congrArg
      (fun result => result.toOption.map (Tokens.render Identifier.backtick)) hsame
    exact absurd htexts (by decide +kernel)

/-- That no union leads to a circle is not enough for an evaluation to end, as a query may write
itself out. And the compiler of a member does play a part where the member is written out. -/
theorem Store.mentions_are_no_members :
    ((∀ start, Unwinds Store.mirror.Unites start) ∧
      ¬ ∃ result, Store.mirror.Evaluates (Query.mentioning 0).compiler
        (Query.mentioning 0).blueprint result) ∧
    (∀ start, Unwinds (Store.single .mysql).Unites start) ∧
    ((Store.single .mysql).build Query.embedding).toOption.map Compiled.sql =
      some "SELECT SELECT * FROM \x60t\x60 UNION SELECT * FROM \x60t\x60" ∧
    (∀ start, Unwinds (Store.single .standard).Unites start) ∧
    ((Store.single .standard).build Query.embedding).toOption.map Compiled.sql =
      some "SELECT SELECT * FROM \x22t\x22 UNION SELECT * FROM \x60t\x60" := by
  refine ⟨⟨unwinds_unites (by decide +kernel), ?endless⟩, unwinds_unites (by decide +kernel),
    by decide +kernel, unwinds_unites (by decide +kernel), by decide +kernel⟩
  case endless =>
    intro hends
    have hleads : Store.mirror.Leads (Query.mentioning 0).blueprint (.query 0) :=
      .inr ⟨0, rfl, consults_mirror⟩
    have hunwinds := exists_evaluates_iff.1 hends (.query 0) hleads
    exact hunwinds (.query 0) .refl (.single ⟨_, rfl, hleads⟩)

end SqlBuilder
