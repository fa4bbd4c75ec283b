import SqlBuilder.Proofs.Ingredient
import SqlBuilder.Store
import Mathlib.Data.Set.Basic
import Mathlib.Logic.Relation

/-!
# What a statement mentions

A blueprint refers to others in two ways. The members of its union are compiled as they are at that
moment. And what its statement writes out may name a query or a blueprint: a query in the place of
a text stands for its own statement, and a query or a blueprint inside a collection for the
description that dumps show. What a statement binds is no mention, for it goes to the driver as it
is. All places that a blueprint leads to by such references are what its compilation depends on.
-/

namespace SqlBuilder

/-- Where a blueprint stands: in a query, or on its own. -/
inductive Place where
  | query (id : Nat)
  | blueprint (id : Nat)
deriving DecidableEq

namespace Value

mutual

/-- The places that a dump of the value describes. -/
def described : Value → List Place
  | query id | queryBlueprint id => [.query id]
  | blueprint id => [.blueprint id]
  | list items | tuple items | set items | frozenset items | group items => describedItems items
  | map entries | fragment entries => describedEntries entries
  | argument _ value parameters => value.described ++ describedItems parameters
  | _ => []

def describedItems : List Value → List Place
  | [] => []
  | value :: rest => value.described ++ describedItems rest

def describedEntries : Entries → List Place
  | [] => []
  | (key, value) :: rest => key.described ++ value.described ++ describedEntries rest

end

mutual

/-- The places that the text of the value depends on. -/
def mentions : Value → List Place
  | text _ => []
  | argument .raw value _ => value.mentions
  | argument .method value parameters => value.mentions ++ parameterMentions parameters
  | argument .column value parameters | argument .table value parameters =>
      if value.isWildcard then [] else value.mentions ++ aliasMentions parameters
  | value => value.described

def parameterMentions : List Value → List Place
  | [] => []
  | value :: rest => value.mentions ++ parameterMentions rest

def aliasMentions : List Value → List Place
  | [] => []
  | value :: _ => if value.truthy then value.mentions else []

end

end Value

/-- Two ways to show references that are the same at the given places. -/
structure References.Agree (places : Set Place) (references other : References) : Prop where
  query : ∀ id, .query id ∈ places → references.query id = other.query id
  queryBlueprint : ∀ id, .query id ∈ places →
    references.queryBlueprint id = other.queryBlueprint id
  blueprint : ∀ id, .blueprint id ∈ places → references.blueprint id = other.blueprint id

namespace References.Agree

variable {places : Set Place} {references other : References}

theorem refl (places : Set Place) (references : References) : references.Agree places references :=
  ⟨fun _ _ => rfl, fun _ _ => rfl, fun _ _ => rfl⟩

mutual

/-- A dump shows a value the same way wherever the places that it describes have the same
texts. -/
theorem quoted? (h : references.Agree places other) : ∀ (value : Value),
    (∀ place ∈ value.described, place ∈ places) →
    value.quoted? references = value.quoted? other
  | .null, _ | .bool _, _ | .float _, _ | .undefined _, _ | .text _, _ | .bytes _, _
  | .callback _, _ | .set [], _ | .frozenset [], _ => rfl
  | .int number, _ => by rw [Value.quoted?, Value.quoted?]
  | .list items, hvalue | .tuple items, hvalue | .group items, hvalue => by
      have hitems := h.quotedItems? items (by simpa [Value.described] using hvalue)
      rw [Value.quoted?, Value.quoted?, hitems]
  | .set (first :: rest), hvalue | .frozenset (first :: rest), hvalue => by
      have hitems := h.quotedItems? (first :: rest) (by simpa [Value.described] using hvalue)
      simp only [Value.quoted?, hitems]
  | .map entries, hvalue | .fragment entries, hvalue => by
      have hentries := h.quotedEntries? entries (by simpa [Value.described] using hvalue)
      rw [Value.quoted?, Value.quoted?, hentries]
  | .argument kind value parameters, hvalue => by
      simp only [Value.described, List.mem_append] at hvalue
      have hinner := h.quoted? value fun place hplace => hvalue place (.inl hplace)
      have hparameters := h.quotedItems? parameters
        fun place hplace => hvalue place (.inr hplace)
      rw [Value.quoted?, Value.quoted?, hinner, hparameters]
  | .query id, hvalue =>
      congrArg some (h.query id (hvalue _ (by simp [Value.described])))
  | .queryBlueprint id, hvalue =>
      congrArg some (h.queryBlueprint id (hvalue _ (by simp [Value.described])))
  | .blueprint id, hvalue =>
      congrArg some (h.blueprint id (hvalue _ (by simp [Value.described])))

theorem quotedItems? (h : references.Agree places other) : ∀ (items : List Value),
    (∀ place ∈ Value.describedItems items, place ∈ places) →
      Value.quotedItems? references items = Value.quotedItems? other items
  | [], _ => rfl
  | value :: rest, hitems => by
      simp only [Value.describedItems, List.mem_append] at hitems
      have hvalue := h.quoted? value fun place hplace => hitems place (.inl hplace)
      have hrest := h.quotedItems? rest fun place hplace => hitems place (.inr hplace)
      rw [Value.quotedItems?, Value.quotedItems?, hvalue, hrest]

theorem quotedEntries? (h : references.Agree places other) : ∀ (entries : Entries),
    (∀ place ∈ Value.describedEntries entries, place ∈ places) →
      Value.quotedEntries? references entries = Value.quotedEntries? other entries
  | [], _ => rfl
  | (key, value) :: rest, hentries => by
      simp only [Value.describedEntries, List.mem_append, or_assoc] at hentries
      have hkey := h.quoted? key fun place hplace => hentries place (.inl hplace)
      have hvalue := h.quoted? value
        fun place hplace => hentries place (.inr (.inl hplace))
      have hrest := h.quotedEntries? rest
        fun place hplace => hentries place (.inr (.inr hplace))
      rw [Value.quotedEntries?, Value.quotedEntries?, hkey, hvalue, hrest]

end

theorem shown (h : references.Agree places other) (value : Value)
    (hvalue : ∀ place ∈ value.described, place ∈ places) :
    value.shown references = value.shown other := by
  rw [Value.shown, Value.shown, h.quoted? value hvalue]

end References.Agree

/-- The places that the wording of a failure describes. -/
def Error.described : Error → List Place
  | unevenRow _ row first => Value.describedItems row ++ Value.describedItems first
  | unsupportedStatement value | unknownDialect value _ | unsupportedConnection _ value _
  | dialectNotInferred value | unsupportedParamstyle value | chunkSize value | unknownLevel value
  | notAMember value _ => value.described
  | _ => []

namespace References.Agree

variable {places : Set Place} {references other : References}

theorem quotedList? (h : references.Agree places other) {items : List Value}
    (hitems : ∀ place ∈ Value.describedItems items, place ∈ places) :
    Value.quotedList? references items = Value.quotedList? other items :=
  h.quoted? (.list items) (by simpa [Value.described] using hitems)

theorem dialectList? (h : references.Agree places other) (names : List String) :
    Error.dialectList? references names = Error.dialectList? other names := by
  apply h.quotedList?
  have hnone : Value.describedItems (names.map Value.text) = [] := by
    induction names with
    | nil => rfl
    | cons name rest ih => exact ih
  simp [hnone]

theorem unknownDialectMessage? (h : references.Agree places other) {dialect : Value}
    (hdialect : ∀ place ∈ dialect.described, place ∈ places) (names : List String) :
    Error.unknownDialectMessage? references dialect names =
      Error.unknownDialectMessage? other dialect names := by
  rw [Error.unknownDialectMessage?, Error.unknownDialectMessage?, h.quoted? _ hdialect,
    h.dialectList? names]

theorem message? (h : references.Agree places other) {cause : Error}
    (hcause : ∀ place ∈ cause.described, place ∈ places) :
    cause.message? references = cause.message? other := by
  cases cause with
  | unevenRow number row first =>
      simp only [Error.described, List.mem_append] at hcause
      have hrow := h.quotedList? fun place hplace => hcause place (.inl hplace)
      have hfirst := h.quotedList? fun place hplace => hcause place (.inr hplace)
      rw [Error.message?, Error.message?, hrow, hfirst]
  | unknownDialect dialect registered => exact h.unknownDialectMessage? hcause registered
  | unsupportedConnection typeName dialect registered =>
      rw [Error.message?, Error.message?, h.quoted? _ hcause,
        h.unknownDialectMessage? hcause registered]
  | unsupportedStatement value | dialectNotInferred value | unsupportedParamstyle value
  | chunkSize value | unknownLevel value | notAMember value vocabulary =>
      rw [Error.message?, Error.message?, h.quoted? _ hcause]
  | _ => rfl

end References.Agree

/-- The places that an ingredient mentions. -/
def Ingredient.mentions (ingredient : Ingredient) : List Place :=
  (ingredient.written?.map Value.mentions).getD []

/-- The place that a member of a union stands for. -/
def Place.ofMember? : Value → Option Place
  | .query id | .queryBlueprint id => some (.query id)
  | .blueprint id => some (.blueprint id)
  | .fragment attributes =>
      match Entries.read attributes "blueprint" with
      | .queryBlueprint id => some (.query id)
      | .blueprint id => some (.blueprint id)
      | _ => none
  | _ => none

/-- The places of the members of a union. -/
def Blueprint.memberPlaces (blueprint : Blueprint) : List Place :=
  (blueprint.fragments .union).filterMap fun fragment => Place.ofMember? (fragment.read "query")

/-- The places that the statement of a blueprint mentions in its own clauses. No dialect writes more
than SQLite, whose upserts name the columns of a collision. -/
def Blueprint.mentions (blueprint : Blueprint) : List Place :=
  (Statement.ingredients .sqlite blueprint []).flatMap Ingredient.mentions

def Blueprint.places (blueprint : Blueprint) : List Place :=
  blueprint.memberPlaces ++ blueprint.mentions

namespace Store

/-- The blueprint that stands at a place. -/
def at? (store : Store) : Place → Option Blueprint
  | .query id => store.queries[id]?.map (·.blueprint)
  | .blueprint id => store.detached[id]?

/-- Whether what stands at one place refers to another place. -/
def Refers (store : Store) (place other : Place) : Prop :=
  ∃ blueprint, store.at? place = some blueprint ∧ other ∈ blueprint.places

/-- Whether the references of a blueprint lead to a place, in any number of steps. -/
def Depends (store : Store) (blueprint : Blueprint) (place : Place) : Prop :=
  ∃ first ∈ blueprint.places, Relation.ReflTransGen store.Refers first place

/-- Whether the references of a blueprint lead only to what is there, as those of a program do. -/
def Anchors (store : Store) (blueprint : Blueprint) : Prop :=
  ∀ place, store.Depends blueprint place → ∃ standing, store.at? place = some standing

variable (store : Store)

def atPlace (place : Place) : Except Error Blueprint :=
  (store.at? place).elim (.error .noAttribute) .ok

theorem atPlace_query (id : Nat) : store.atPlace (.query id) =
    (match store.queries[id]? with
      | some query => .ok query.blueprint
      | none => .error .noAttribute) := by
  rw [atPlace, at?]
  cases store.queries[id]? <;> rfl

theorem atPlace_blueprint (id : Nat) : store.atPlace (.blueprint id) =
    (match store.detached[id]? with
      | some blueprint => .ok blueprint
      | none => .error .noAttribute) := by
  rw [atPlace, at?]
  cases store.detached[id]? <;> rfl

/-- A member of a union stands for the blueprint at its place; what has no place is refused whatever
the store holds. -/
theorem resolve_eq (value : Value) :
    (∃ place, Place.ofMember? value = some place ∧ store.resolve value = store.atPlace place) ∨
      Place.ofMember? value = none ∧
        ∃ cause, ∀ store : Store, store.resolve value = .error cause := by
  cases value with
  | query id => exact .inl ⟨_, rfl, (store.atPlace_query id).symm⟩
  | queryBlueprint id => exact .inl ⟨_, rfl, (store.atPlace_query id).symm⟩
  | blueprint id => exact .inl ⟨_, rfl, (store.atPlace_blueprint id).symm⟩
  | fragment attributes =>
      simp only [Place.ofMember?, resolve]
      cases hinner : Entries.read attributes "blueprint" with
      | queryBlueprint id => exact .inl ⟨_, rfl, (store.atPlace_query id).symm⟩
      | blueprint id => exact .inl ⟨_, rfl, (store.atPlace_blueprint id).symm⟩
      | fragment inner =>
          refine .inr ⟨rfl, ?_⟩
          dsimp only
          split
          · exact ⟨_, fun _ => rfl⟩
          · exact ⟨_, fun _ => rfl⟩
          · exact ⟨_, fun _ => rfl⟩
      | _ => exact .inr ⟨rfl, _, fun _ => rfl⟩
  | _ => exact .inr ⟨rfl, _, fun _ => rfl⟩

theorem at?_of_resolve {value : Value} {blueprint : Blueprint}
    (h : store.resolve value = .ok blueprint) :
    ∃ place, Place.ofMember? value = some place ∧ store.at? place = some blueprint := by
  rcases store.resolve_eq value with ⟨place, hplace, hresolve⟩ | ⟨_, cause, hrefused⟩
  · refine ⟨place, hplace, ?_⟩
    rw [hresolve, atPlace] at h
    cases hat : store.at? place with
    | none =>
        rw [hat] at h
        cases h
    | some standing =>
        rw [hat] at h
        cases h
        rfl
  · rw [hrefused] at h
    cases h

theorem resolve_of_at? {value : Value} {place : Place} {standing : Blueprint}
    (hplace : Place.ofMember? value = some place) (hat : store.at? place = some standing) :
    store.resolve value = .ok standing := by
  rcases store.resolve_eq value with ⟨other, hother, hresolve⟩ | ⟨hnone, -⟩
  · obtain rfl : place = other := Option.some.inj (hplace.symm.trans hother)
    rw [hresolve, atPlace, hat]
    rfl
  · rw [hplace] at hnone
    cases hnone

theorem resolve_congr {other : Store} {value : Value}
    (h : ∀ place, Place.ofMember? value = some place → store.at? place = other.at? place) :
    store.resolve value = other.resolve value := by
  rcases store.resolve_eq value with ⟨place, hplace, hresolve⟩ | ⟨_, cause, hrefused⟩
  · rcases other.resolve_eq value with ⟨same, hsame, hother⟩ | ⟨hnone, _⟩
    · obtain rfl : place = same := Option.some.inj (hplace.symm.trans hsame)
      rw [hresolve, hother, atPlace, atPlace, h place hplace]
    · rw [hplace] at hnone
      cases hnone
  · rw [hrefused, hrefused]

end Store

end SqlBuilder
