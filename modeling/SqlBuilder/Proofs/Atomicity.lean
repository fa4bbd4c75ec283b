import SqlBuilder.Connection.Recording
import SqlBuilder.Proofs.Description
import SqlBuilder.Proofs.Isolation
import SqlBuilder.Proofs.Reordering

/-!
# All of a step or nothing

A call that describes a statement settles its arguments before it changes its query, and then it
changes it at once. So a call that fails leaves the query as it was, wherever the failure comes
from: an argument that is refused, a callback, or a callback of a callback. A call that takes a
callback and answers adds a single fragment, and all that this holds of the nested query are the
conditions of one of its clauses. What else the callback has done to the nested query stays with
that.
-/

namespace SqlBuilder

open Outcome Session

variable {κ σ : Type}

/-! ### Descriptions either way -/

namespace Session

variable {session later : Session κ σ} {id : Nat} {current : Query}

theorem exists_failure {α : Type} {action : Action κ σ α}
    (h : (play action session).1.isOk = false) :
    ∃ cause later, play action session = (.error cause, later) := by
  cases hplay : play action session with
  | mk outcome later =>
      rw [hplay] at h
      cases outcome with
      | ok answer => cases h
      | error cause => exact ⟨cause, later, rfl⟩

theorem exists_answer {α : Type} {action : Action κ σ α}
    (h : (play action session).1.isOk = true) :
    ∃ answer later, play action session = (.ok answer, later) := by
  cases hplay : play action session with
  | mk outcome later =>
      rw [hplay] at h
      cases outcome with
      | ok answer => exact ⟨answer, later, rfl⟩
      | error cause => cases h

theorem play_attempt_error (h : session.store.queries[id]? = some current)
    {step : Query → Except Error Query} {cause : Error} (hstep : step current = .error cause) :
    play (attempt id step) session = (.error cause, session) := by
  rw [attempt, play_bind_ok (play_query h), hstep]
  rfl

/-- A callback that stands for a value has filled the nested query it was handed, and the value is
the group of one of the clauses of that. -/
theorem exists_filled (h : session.store.queries[id]? = some current) {clause : Clause}
    {reference : Value → Value} {mark : Nat} {fill : Nat → Action κ σ Unit} {settled : Value}
    (hplay : play (settle id clause reference (.callback mark fill)) session =
      (.ok settled, later)) :
    ∃ filled, play (fill session.store.queries.size) (session.withAdded current.nested) =
        (.ok (), later) ∧
      later.store.queries[session.store.queries.size]? = some filled ∧
      settled = .group ((filled.blueprint.fragments clause).map Fragment.toValue) := by
  rw [settle, capture, play_bind_ok (play_query h), play_bind_ok (play_addQuery _ session),
    play_bind] at hplay
  cases hfill : play (fill session.store.queries.size) (session.withAdded current.nested) with
  | mk outcome between =>
      rw [hfill] at hplay
      cases outcome with
      | error cause => cases hplay
      | ok =>
          cases hfilled : between.store.queries[session.store.queries.size]? with
          | none =>
              dsimp only at hplay
              rw [play_bind, play_query_none hfilled] at hplay
              cases hplay
          | some filled =>
              dsimp only at hplay
              rw [play_bind_ok (play_query hfilled)] at hplay
              obtain ⟨hsettled, rfl⟩ := Prod.mk.inj hplay
              exact ⟨filled, rfl, hfilled, (Except.ok.inj hsettled).symm⟩

end Session

/-- How a description ends whose callback changes no query but the nested one: in a failure that has
changed nothing, or with one edit of a query that nothing has happened to. -/
inductive Description.Ends (description : Description κ σ) (session : Session κ σ) (id : Nat)
    (query : Query) : Except Error Unit → Session κ σ → Prop
  | failed {cause : Error} {later : Session κ σ} (hkeeps : session.store.Keeps ∅ later.store) :
      Ends description session id query (.error cause) later
  | edited {value settled : Value} {between : Session κ σ} {changed : Query}
      (hsettle : play (settle id description.clause description.reference description.operand)
        session = (.ok settled, between))
      (hkeeps : session.store.Keeps ∅ between.store)
      (hedit : (description.edit value settled).change query = .ok changed) :
      Ends description session id query (.ok ()) (between.withQuery id changed)

namespace Description

variable {session : Session κ σ} {id : Nat} {query : Query}

theorem ends {description : Description κ σ} (hsealed : description.operand.Confined ∅)
    (hquery : session.store.queries[id]? = some query) :
    description.Ends session id query (play (description.run id) session).1
      (play (description.run id) session).2 := by
  cases hvalue : description.value with
  | error cause =>
      rw [Description.run, hvalue]
      exact .failed (.refl _ _)
  | ok value =>
      have hkeeps : session.store.Keeps ∅ (play (settle id description.clause
          description.reference description.operand) session).2.store :=
        Confined.settle hsealed session
      rw [Description.run, hvalue, play_bind_ok (play_lift _ _), play_bind]
      cases hsettle : play (settle id description.clause description.reference
          description.operand) session with
      | mk outcome between =>
          rw [hsettle] at hkeeps
          cases outcome with
          | error cause => exact .failed hkeeps
          | ok settled =>
              have hbetween := hkeeps.record hquery (Set.notMem_empty id)
              dsimp only
              cases hedit : (description.edit value settled).change query with
              | error cause =>
                  rw [play_attempt_error hbetween hedit]
                  exact .failed hkeeps
              | ok changed =>
                  rw [play_attempt hbetween hedit]
                  exact .edited hsettle hkeeps hedit

theorem keeps_of_failed {description : Description κ σ} {cause : Error} {later : Session κ σ}
    (hsealed : description.operand.Confined ∅) (hquery : session.store.queries[id]? = some query)
    (hplay : play (description.run id) session = (.error cause, later)) :
    session.store.Keeps ∅ later.store := by
  have hends := Description.ends hsealed hquery
  rw [hplay] at hends
  cases hends with
  | failed hkeeps => exact hkeeps

end Description

/-! ### Groups -/

/-- How a call makes a group: the callback, the clause of the nested query that is taken, and the
clause and the attribute of a fragment of it that the group is put in. -/
structure Grouping (κ σ : Type) where
  fill : Nat → Action κ σ Unit
  source : Clause
  target : Clause
  slot : String

def Operand.fill? : Operand κ σ → Option (Nat → Action κ σ Unit)
  | value _ => none
  | callback _ fill => some fill

/-- How a call makes a group, if it is given a callback. A join is made on the conditions on
rows. -/
def Call.grouping? : Call κ σ → Option (Grouping κ σ)
  | join _ operand _ _ _ | leftJoin _ operand _ _ | rightJoin _ operand _ _ =>
      operand.fill?.map fun fill => ⟨fill, .where, .join, "first"⟩
  | filter operand _ _ _ | orFilter operand _ _ | filterColumn operand _ _ _
  | filterIn operand _ _ | filterNotIn operand _ _ | filterNull operand _
  | filterNotNull operand _ =>
      operand.fill?.map fun fill => ⟨fill, .where, .where, "column"⟩
  | having operand _ _ _ | havingColumn operand _ _ _ =>
      operand.fill?.map fun fill => ⟨fill, .having, .having, "column"⟩
  | _ => none

/-- A description makes a group: of what its callback adds to the source it makes a single fragment
of the target. -/
structure Description.Groups (description : Description κ σ) (grouping : Grouping κ σ) : Prop where
  callback : ∃ mark, description.operand = .callback mark grouping.fill
  clause : description.clause = grouping.source
  edit : ∀ {value group : Value} {query changed : Query},
    (description.edit value group).change query = .ok changed → ∃ fragment : Fragment,
      changed = { query with blueprint := query.blueprint.add grouping.target fragment } ∧
      fragment.read grouping.slot = group

namespace Description

variable {grouping : Grouping κ σ} {operand : Operand κ σ}

theorem exists_callback {source target : Clause} {slot : String}
    (h : (operand.fill?.map fun fill => Grouping.mk fill source target slot) =
      some grouping) :
    ∃ mark fill, operand = .callback mark fill ∧ grouping = ⟨fill, source, target, slot⟩ := by
  cases operand with
  | value value => cases h
  | callback mark fill => exact ⟨mark, fill, rfl, (Option.some.inj h).symm⟩

theorem groups_join (h : (operand.fill?.map fun fill => Grouping.mk fill .where .join "first") =
      some grouping) (table second operator kind : Value) :
    (join table operand second operator kind).Groups grouping := by
  obtain ⟨mark, fill, rfl, rfl⟩ := exists_callback h
  refine ⟨⟨mark, rfl⟩, rfl, ?_⟩
  intro value group query changed hedit
  obtain ⟨kind, -, hchanged⟩ := bind_eq_ok.1 hedit
  obtain rfl := pure_eq_ok.1 hchanged
  exact ⟨_, rfl, rfl⟩

theorem groups_condition {clause : Clause}
    (h : (operand.fill?.map fun fill => Grouping.mk fill clause clause "column") = some grouping)
    (value : Except Error Value) (operator keyword : Value) :
    (condition clause operand value operator keyword).Groups grouping := by
  obtain ⟨mark, fill, rfl, rfl⟩ := exists_callback h
  refine ⟨⟨mark, rfl⟩, rfl, ?_⟩
  intro value group query changed hedit
  obtain ⟨keyword, -, hchanged⟩ := bind_eq_ok.1 hedit
  obtain rfl := pure_eq_ok.1 hchanged
  exact ⟨_, rfl, rfl⟩

end Description

theorem Description.Groups.exists_grouped {description : Description κ σ}
    {grouping : Grouping κ σ} {session later : Session κ σ} {id : Nat} {query : Query}
    (h : description.Groups grouping) (hsealed : description.operand.Confined ∅)
    (hquery : session.store.queries[id]? = some query)
    (hplay : play (description.run id) session = (.ok (), later)) :
    ∃ between filled fragment,
      play (grouping.fill session.store.queries.size) (session.withAdded query.nested) =
        (.ok (), between) ∧
      between.store.queries[session.store.queries.size]? = some filled ∧
      fragment.read grouping.slot =
        .group ((filled.blueprint.fragments grouping.source).map Fragment.toValue) ∧
      later.store.queries[id]? =
        some { query with blueprint := query.blueprint.add grouping.target fragment } ∧
      session.store.Keeps {id} later.store := by
  have hends := Description.ends hsealed hquery
  rw [hplay] at hends
  cases hends with
  | @edited value settled between changed hsettle hkeeps hedit =>
      have hbetween := hkeeps.record hquery (Set.notMem_empty id)
      obtain ⟨mark, hoperand⟩ := h.callback
      rw [hoperand, h.clause] at hsettle
      obtain ⟨filled, hfill, hfilled, rfl⟩ := exists_filled hquery hsettle
      obtain ⟨fragment, hchanged, hread⟩ := h.edit hedit
      have hrecord := (queries_withQuery hbetween changed).trans (congrArg some hchanged)
      have hset : between.store.Keeps {id} (between.withQuery id changed).store :=
        .set (Set.mem_singleton id) _ _
      exact ⟨between, filled, fragment, hfill, hfilled, hread, hrecord,
        (hkeeps.mono (Set.empty_subset {id})).trans hset⟩

theorem Call.groups {call : Call κ σ} {description : Description κ σ} {grouping : Grouping κ σ}
    (hdescription : call.description? = some description)
    (hgrouping : call.grouping? = some grouping) : description.Groups grouping := by
  cases call with
  | join _ _ _ _ _ | leftJoin _ _ _ _ | rightJoin _ _ _ _ =>
      rw [← Option.some.inj hdescription]
      exact Description.groups_join hgrouping _ _ _ _
  | filter _ _ _ _ | orFilter _ _ _ | filterColumn _ _ _ _ | filterIn _ _ _ | filterNotIn _ _ _
  | filterNull _ _ | filterNotNull _ _ | having _ _ _ _ | havingColumn _ _ _ _ =>
      rw [← Option.some.inj hdescription]
      exact Description.groups_condition hgrouping _ _ _
  | _ => cases hgrouping

/-! ### Callbacks that stay within -/

section Connections

variable [Connection κ]

/-- Callbacks that make calls on the nested query they are handed, change its model, and may fail of
themselves. What comes next may depend on what a call has answered, and the callbacks of the calls
are of the same kind. -/
inductive Filling : (Nat → Action κ σ Unit) → Prop
  | finished (outcome : Except Error Unit) : Filling fun _ => liftM outcome
  | remodelled (model : Option Model) {next : Nat → Action κ σ Unit} (hnext : Filling next) :
      Filling fun id => setModel id model >>= fun _ => next id
  | called {made : Call κ σ} {next : Answer → Nat → Action κ σ Unit}
      (hoperand : ∀ {description : Description κ σ} {mark : Nat} {fill : Nat → Action κ σ Unit},
        made.description? = some description → description.operand = .callback mark fill →
          Filling fill)
      (hnext : ∀ answer, Filling (next answer)) :
      Filling fun id => made.run id >>= fun answer => next answer id

/-- However deep its callbacks go, and wherever they fail, such a callback changes no query but the
one it is handed and those that are made on the way. -/
theorem Filling.confined {fill : Nat → Action κ σ Unit} (h : Filling fill) {ids : Set Nat}
    {id : Nat} (hid : id ∈ ids) : Confined ids (fill id) := by
  induction h generalizing ids id with
  | finished outcome => exact .lift outcome
  | remodelled model _ ih => exact (Confined.change hid _).bind fun _ => ih hid
  | @called made next _ _ ihoperand ihnext =>
      have hmade : made.Confined ids := by
        cases hdescription : made.description? with
        | none => exact Call.confined_of_not_described hdescription ids
        | some description =>
            apply Call.confined_of_description hdescription
            cases hoperand : description.operand with
            | value value => trivial
            | callback mark fill =>
                intro nested
                exact ihoperand hdescription hoperand (Set.mem_union_right ids rfl)
      exact (Confined.call hid hmade).bind fun answer => ihnext answer hid

theorem Filling.operand_confined {fill : Nat → Action κ σ Unit} (h : Filling fill) (mark : Nat) :
    Operand.Confined ∅ (.callback mark fill) :=
  fun _ => h.confined (Set.mem_union_right ∅ rfl)

/-! ### Calls -/

omit [Connection κ] in
theorem Session.play_fluent (step : Action κ σ Unit) (session : Session κ σ) :
    play (Call.fluent step) session =
      ((fun _ => Answer.itself) <$> (play step session).1, (play step session).2) := by
  rw [Call.fluent, play_bind]
  rcases play step session with ⟨_ | _, _⟩ <;> rfl

variable {session : Session κ σ} {id : Nat} {query : Query}

/-- A call that describes a statement, whatever its arguments, and with a callback that changes no
query but the nested one. If it fails, then no query has been changed, and not the one it was made
on either. If it answers and has made a group, then its query is the one it was but for one fragment
at the end of a clause, and in the place of that fragment's column stands what the callback has
added to the clause of the nested query that is taken, in the order in which it was added. -/
theorem Session.atomic {call : Call κ σ} {description : Description κ σ}
    (hdescription : call.description? = some description)
    (hsealed : description.operand.Confined ∅)
    (hquery : session.store.queries[id]? = some query) :
    (∀ cause later, play (call.run id) session = (.error cause, later) →
      session.store.Keeps ∅ later.store ∧ later.store.queries[id]? = some query) ∧
    ∀ grouping answer later, call.grouping? = some grouping →
      play (call.run id) session = (.ok answer, later) →
      ∃ between filled fragment,
        play (grouping.fill session.store.queries.size) (session.withAdded query.nested) =
          (.ok (), between) ∧
        between.store.queries[session.store.queries.size]? = some filled ∧
        fragment.read grouping.slot =
          .group ((filled.blueprint.fragments grouping.source).map Fragment.toValue) ∧
        later.store.queries[id]? =
          some { query with blueprint := query.blueprint.add grouping.target fragment } ∧
        session.store.Keeps {id} later.store := by
  rw [Call.run_eq hdescription, play_fluent]
  refine ⟨fun cause later hplay => ?_, fun grouping answer later hgrouping hplay => ?_⟩
  · cases hrun : play (description.run id) session with
    | mk outcome after =>
        rw [hrun] at hplay
        cases outcome with
        | ok => cases hplay
        | error cause =>
            obtain ⟨-, rfl⟩ := Prod.mk.inj hplay
            have hkeeps := Description.keeps_of_failed hsealed hquery hrun
            exact ⟨hkeeps, hkeeps.record hquery (Set.notMem_empty id)⟩
  · cases hrun : play (description.run id) session with
    | mk outcome after =>
        rw [hrun] at hplay
        cases outcome with
        | error cause => cases hplay
        | ok =>
            obtain ⟨-, rfl⟩ := Prod.mk.inj hplay
            exact (Call.groups hdescription hgrouping).exists_grouped hsealed hquery hrun

end Connections

/-! ### A statement run halfway -/

/-- A condition, and an order that is refused unless it is given by a text. -/
def Session.ordering (sort : Value) (nested : Nat) : Action RecordingConnection Unit Unit := do
  let _ ← (Call.filter (.value (.text "b")) (.int 2) (.text "=") (.text "AND")).run nested
  let _ ← (Call.order (.text "b") sort).run nested

/-- A delete is run on the nested query, and then it gets a group of its own and a condition. -/
def Session.deleting (sort : Value) (nested : Nat) : Action RecordingConnection Unit Unit := do
  let _ ← (Call.table (.text "u") (.text "")).run nested
  let _ ← Call.delete.run nested
  let _ ← (Call.filter (.callback 0 (ordering sort)) .null (.text "=") (.text "AND")).run nested
  let _ ← (Call.filter (.value (.text "a")) (.int 1) (.text "=") (.text "OR")).run nested

theorem Session.filling_ordering (sort : Value) : Filling (ordering sort) :=
  .called (by rintro _ _ _ ⟨⟩ ⟨⟩) fun _ => .called (by rintro _ _ _ ⟨⟩ ⟨⟩) fun _ =>
    .finished (.ok ())

theorem Session.filling_deleting (sort : Value) : Filling (deleting sort) := by
  have hgroup : ∀ {description : Description RecordingConnection Unit} {mark fill},
      (Call.filter (.callback 0 (ordering sort)) .null (.text "=") (.text "AND")).description? =
        some description → description.operand = .callback mark fill → Filling fill := by
    rintro _ _ _ ⟨⟩ ⟨⟩
    exact filling_ordering sort
  exact .called (by rintro _ _ _ ⟨⟩ ⟨⟩) fun _ => .called (by rintro _ _ _ ⟨⟩ ⟨⟩) fun _ =>
    .called hgroup fun _ => .called (by rintro _ _ _ ⟨⟩ ⟨⟩) fun _ => .finished (.ok ())

/-- A query on a table, with a connection that answers no rows. -/
def Query.drafted : Query :=
  (Query.new 0 .mysql Options.standard).setTable (.text "t") (.text "")

def Session.drafting : Session RecordingConnection Unit :=
  let session : Session RecordingConnection Unit := Session.start ()
  let connection := RecordingConnection.start (.text "mysql") .nothing []
  { session with connections := #[connection] }.withAdded Query.drafted

/-- A condition on the group that the callback makes. -/
def Call.deleting (sort : Value) : Call RecordingConnection Unit :=
  .filter (.callback 0 (Session.deleting sort)) .null (.text "=") (.text "AND")

/-- When the order in the innermost query is refused, a statement has been sent but the query is
what it was. When it is not, the query has got one condition, which is the group of the two that its
nested query has got. -/
theorem Session.atomic_deleting :
    (∃ cause later, play ((Call.deleting (.int 1)).run 0) Session.drafting =
        (.error cause, later) ∧ later.journal.size = 1 ∧
      later.store.queries[0]? = some Query.drafted) ∧
    ∃ answer later fragment members,
      play ((Call.deleting (.text "ASC")).run 0) Session.drafting = (.ok answer, later) ∧
      later.store.queries[0]? = some { Query.drafted with
        blueprint := Query.drafted.blueprint.add .where fragment } ∧
      fragment.read "column" = .group members ∧ members.length = 2 := by
  have hsealed : ∀ sort, Operand.Confined ∅ (.callback 0 (Session.deleting sort)) :=
    fun sort => (Session.filling_deleting sort).operand_confined 0
  have hdescribed : ∀ sort, (Call.deleting sort).description? = some (.condition .where
      (.callback 0 (Session.deleting sort)) (.ok .null) (.text "=") (.text "AND")) := fun _ => rfl
  have hquery : Session.drafting.store.queries[0]? = some Query.drafted := rfl
  constructor
  · have hfails : (play ((Call.deleting (.int 1)).run 0) Session.drafting).1.isOk = false := by
      decide +kernel
    have hsent : (play ((Call.deleting (.int 1)).run 0) Session.drafting).2.journal.size = 1 := by
      decide +kernel
    obtain ⟨cause, later, hplay⟩ := exists_failure hfails
    rw [hplay] at hsent
    have hkept := (atomic (hdescribed _) (hsealed _) hquery).1 _ _ hplay
    exact ⟨cause, later, hplay, hsent, hkept.2⟩
  · have hanswers :
        (play ((Call.deleting (.text "ASC")).run 0) Session.drafting).1.isOk = true := by
      decide +kernel
    obtain ⟨answer, later, hplay⟩ := exists_answer hanswers
    obtain ⟨between, filled, fragment, hfill, hfilled, hread, hrecord, -⟩ :=
      (atomic (hdescribed _) (hsealed _) hquery).2
        ⟨Session.deleting (.text "ASC"), .where, .where, "column"⟩ _ _ rfl hplay
    refine ⟨answer, later, fragment, _, hplay, hrecord, hread, ?_⟩
    have hnested : ((play (Session.deleting (.text "ASC") 1)
        (Session.drafting.withAdded Query.drafted.nested)).2.store.queries[1]?).map
          (fun query => (query.blueprint.fragments .where).length) = some 2 := by
      decide +kernel
    have hsize : Session.drafting.store.queries.size = 1 := rfl
    rw [hsize] at hfill hfilled
    rw [hfill, hfilled] at hnested
    rw [List.length_map]
    exact Option.some.inj hnested

end SqlBuilder
