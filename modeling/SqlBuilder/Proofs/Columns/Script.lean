import SqlBuilder.Proofs.Columns
import SqlBuilder.Proofs.Survival

/-!
# Scripts that choose columns

A script makes queries, clones them and does whatever can be done with them, in any order and
depending on what has come of it. In the place of a column it may have a callback, which is a script
that is handed a nested query and may also go on with any other. Along with a script runs a
chronicle of the choices that each query has been told: a new query and a nested one have been told
nothing, and a clone has been told what its original has. At every moment the chronicle tells what
columns each query lists.
-/

namespace SqlBuilder

open Outcome Session

variable {κ σ α β : Type}

/-! ### What leaves the columns of all queries alone -/

namespace Session

/-- An action does nothing to the columns of the queries that are there. -/
def Spares (action : Action κ σ α) : Prop :=
  ∀ (session : Session κ σ) (id : Nat) (current : Query),
    session.store.queries[id]? = some current → ∃ later,
      (play action session).2.store.queries[id]? = some later ∧ current.KeepsColumns later

namespace Spares

theorem of_confined {action : Action κ σ α} (h : Confined ∅ action) : Spares action :=
  fun session id current hcurrent =>
    ⟨current, (h session).record hcurrent (Set.notMem_empty id), .refl current⟩

theorem bind {first : Action κ σ α} {next : α → Action κ σ β} (hfirst : Spares first)
    (hnext : ∀ answer, Spares (next answer)) : Spares (first >>= next) := by
  intro session id current hcurrent
  obtain ⟨between, hbetween, hkeeps⟩ := hfirst session id current hcurrent
  rw [play_bind]
  cases hplay : play first session with
  | mk outcome stage =>
      rw [hplay] at hbetween
      cases outcome with
      | error cause => exact ⟨between, hbetween, hkeeps⟩
      | ok answer =>
          obtain ⟨later, hlater, hagain⟩ := hnext answer stage id between hbetween
          exact ⟨later, hlater, hkeeps.trans hagain⟩

theorem pure (answer : α) : Spares (Pure.pure answer : Action κ σ α) :=
  of_confined (.pure answer)

theorem lift (stage : Except Error α) : Spares (liftM stage : Action κ σ α) :=
  of_confined (.lift stage)

theorem query (id : Nat) : Spares (Session.query id : Action κ σ Query) :=
  of_confined (.query id)

theorem attempt {step : Query → Except Error Query}
    (h : ∀ query changed : Query, step query = .ok changed → query.KeepsColumns changed)
    (id : Nat) :
    Spares (Session.attempt id step : Action κ σ Unit) := by
  intro session other current hcurrent
  by_cases hother : other = id
  · subst hother
    cases hstep : step current with
    | error cause =>
        refine ⟨current, ?_, .refl current⟩
        rw [Session.attempt, play_bind_ok (play_query hcurrent), hstep]
        exact hcurrent
    | ok changed =>
        refine ⟨changed, ?_, h current changed hstep⟩
        rw [play_attempt hcurrent hstep, queries_withQuery hcurrent]
  · have hkept := Confined.attempt (Set.mem_singleton id) step session
    exact ⟨current, hkept.record hcurrent hother, .refl current⟩

theorem change {step : Query → Query} (h : ∀ query : Query, query.KeepsColumns (step query))
    (id : Nat) :
    Spares (Session.change id step : Action κ σ Unit) := by
  rw [change_eq_attempt]
  refine attempt (fun query changed hstep => ?_) id
  exact Except.ok.inj hstep ▸ h query

end Spares

end Session

theorem Call.confined_operand {ids : Set Nat} {call : Call κ σ} {description : Description κ σ}
    (h : call.description? = some description) (hcall : call.Confined ids) :
    description.operand.Confined ids := by
  cases call with
  | select _ | rows | first | count _ | sum _ | minimum _ | maximum _ | average _ => cases h
  | insert _ | upsert _ _ _ | update _ | delete | truncate => cases h
  | table _ _ | fromTable _ _ | column _ _ | group _ | order _ _ | limit _ _ | page _ _ | union _ =>
      rw [← Option.some.inj h]
      trivial
  | _ =>
      rw [← Option.some.inj h]
      exact hcall

namespace Session.Spares

theorem description {description : Description κ σ}
    (hoperand : description.operand.Confined ∅)
    (h : ∀ value settled, .columns ∉ (description.edit value settled).touched) (id : Nat) :
    Spares (description.run id) := by
  refine (lift description.value).bind fun value =>
    (of_confined (.settle hoperand)).bind fun settled =>
      attempt (fun query changed hchanged => ?_) id
  have hsame := Edit.kept hchanged (h value settled)
  exact ⟨hsame.fragments, hsame.blank rfl⟩

variable [Connection κ]

theorem command {made : Call κ σ} {command : Command} (hcommand : made.command? = some command)
    (id : Nat) : Spares (command.run id : Action κ σ Outcome) := by
  have hfill : Spares (command.fill id : Action κ σ Unit) := by
    rw [Command.fill]
    split
    · exact pure ()
    · next clause attributes hdata =>
        have hclause : clause ≠ .columns := by
          rcases Call.data_clause hcommand hdata with rfl | rfl <;> decide
        exact (change (fun query => .reset query hclause) id).bind fun _ =>
          (lift attributes).bind fun attributes =>
            change (fun query => .add query hclause attributes) id
  have hsend : Spares (command.send id : Action κ σ Outcome) := by
    rw [Command.send]
    split
    · exact of_confined (.execute id none)
    · exact (query id).bind fun _ => of_confined (.execute id _)
  exact hfill.bind fun _ => (change (fun query => .withType query command.type) id).bind fun _ =>
    hsend

theorem finish (outcome : Outcome) (made : Call κ σ) (id : Nat) :
    Spares (made.finish id outcome) := by
  cases made with
  | select _ | rows | first => exact (lift _).bind fun _ => pure _
  | insert data =>
      exact (query id).bind fun _ => (of_confined (.lastInsertId _)).bind fun _ => pure _
  | _ => exact pure _

theorem aggregate (function name : String) (column : Value) (id : Nat) :
    Spares (Session.aggregate id function name column : Action κ σ Value) :=
  of_confined (.aggregate function name column)

omit [Connection κ] in
theorem valued {step : Action κ σ Value} (h : Spares step) : Spares (Call.valued step) :=
  h.bind fun _ => pure _

/-- A call does nothing to the columns unless it names a table or a column. -/
theorem call {made : Call κ σ} (hmade : made.Confined ∅) (htouched : .columns ∉ made.touched)
    (id : Nat) : Spares (made.run id) := by
  cases hdescription : made.description? with
  | some described =>
      rw [Call.run_eq hdescription]
      have hkept : ∀ value settled, .columns ∉ (described.edit value settled).touched := by
        intro value settled
        rwa [Call.touched_edit hdescription]
      exact (description (Call.confined_operand hdescription hmade) hkept id).bind fun _ => pure _
  | none =>
      cases hcommand : made.command? with
      | some command =>
          rw [Call.run_eq_command hcommand]
          exact (Spares.command hcommand id).bind fun outcome => finish outcome made id
      | none =>
          cases made with
          | count name =>
              have hcount : Spares (Session.count id name : Action κ σ Int) :=
                (aggregate _ _ _ id).bind fun _ => lift _
              exact valued (hcount.bind fun _ => pure _)
          | sum name | minimum name | maximum name | average name =>
              exact valued (aggregate _ _ _ id)
          | select _ | rows | first | insert _ | upsert _ _ _ | update _ | delete | truncate =>
              cases hcommand
          | _ => cases hdescription

end Session.Spares

/-! ### Chronicles -/

/-- The choices that queries have been told, for those of which it is on record. -/
abbrev Chronicle : Type :=
  Nat → Option (List Choice)

namespace Chronicle

def empty : Chronicle :=
  fun _ => none

/-- A query is put on record, or taken off it. -/
def enter (chronicle : Chronicle) (id : Nat) (choices : Option (List Choice)) : Chronicle :=
  Function.update chronicle id choices

/-- The number that a step answers is put on record. -/
def answered (chronicle : Chronicle) (choices : Option (List Choice)) :
    Except Error Nat → Chronicle
  | .ok id => chronicle.enter id choices
  | .error _ => chronicle

/-- A query is told something more. -/
def told (chronicle : Chronicle) (id : Nat) (choices : List Choice) : Chronicle :=
  chronicle.enter id ((chronicle id).map (· ++ choices))

theorem told_nil (chronicle : Chronicle) (id : Nat) : chronicle.told id [] = chronicle := by
  simp [told, enter]

/-- What a chronicle tells of a query is the beginning of what a later one tells of it. -/
def Begins (chronicle later : Chronicle) : Prop :=
  ∀ (id : Nat) (before : List Choice), chronicle id = some before →
    ∃ more, later id = some (before ++ more)

namespace Begins

variable {chronicle later last : Chronicle} {id : Nat}

theorem refl (chronicle : Chronicle) : chronicle.Begins chronicle :=
  fun _ before h => ⟨[], by rw [h, List.append_nil]⟩

theorem trans (hfirst : chronicle.Begins later) (hsecond : later.Begins last) :
    chronicle.Begins last := by
  intro id before hbefore
  obtain ⟨more, hmore⟩ := hfirst id before hbefore
  obtain ⟨rest, hrest⟩ := hsecond id _ hmore
  exact ⟨more ++ rest, by rw [hrest, List.append_assoc]⟩

theorem enter (hid : chronicle id = none) (choices : Option (List Choice)) :
    chronicle.Begins (chronicle.enter id choices) := by
  intro other before hbefore
  have hother : other ≠ id := by
    rintro rfl
    cases hid.symm.trans hbefore
  exact ⟨[], by rw [Chronicle.enter, Function.update_of_ne hother, hbefore, List.append_nil]⟩

theorem told (chronicle : Chronicle) (id : Nat) (choices : List Choice) :
    chronicle.Begins (chronicle.told id choices) := by
  intro other before hbefore
  by_cases hother : other = id
  · subst hother
    exact ⟨choices, by rw [Chronicle.told, Chronicle.enter, Function.update_self, hbefore]; rfl⟩
  · exact ⟨[], by
      rw [Chronicle.told, Chronicle.enter, Function.update_of_ne hother, hbefore, List.append_nil]⟩

end Begins

end Chronicle

namespace Session

/-- Every query on record is there and lists the columns that it has been told. -/
def Chronicled (session : Session κ σ) (chronicle : Chronicle) : Prop :=
  ∀ (id : Nat) (choices : List Choice), chronicle id = some choices →
    ∃ query, session.store.queries[id]? = some query ∧ query.Lists choices

namespace Chronicled

variable {session : Session κ σ} {chronicle : Chronicle} {id : Nat}

theorem empty (session : Session κ σ) : session.Chronicled .empty :=
  fun _ _ h => by cases h

theorem unrecorded (h : session.Chronicled chronicle) :
    chronicle session.store.queries.size = none := by
  refine Option.eq_none_iff_forall_ne_some.2 fun choices hchoices => ?_
  obtain ⟨query, hquery, -⟩ := h _ choices hchoices
  exact absurd (Array.getElem?_eq_some_iff.1 hquery).1 (Nat.lt_irrefl _)

/-- What leaves the columns alone leaves the record as it is. -/
theorem spared (h : session.Chronicled chronicle) {action : Action κ σ α}
    (haction : Spares action) :
    (play action session).2.Chronicled chronicle := by
  intro id choices hchoices
  obtain ⟨query, hquery, hlists⟩ := h id choices hchoices
  obtain ⟨later, hlater, hkeeps⟩ := haction session id query hquery
  exact ⟨later, hlater, hkeeps.lists hlists⟩

theorem followed {first : Action κ σ α} {next : α → Action κ σ β}
    (h : (play first session).2.Chronicled chronicle) (hnext : ∀ answer, Spares (next answer)) :
    (play (first >>= next) session).2.Chronicled chronicle := by
  rw [play_bind]
  cases hplay : play first session with
  | mk outcome stage =>
      rw [hplay] at h
      cases outcome with
      | error cause => exact h
      | ok answer => exact h.spared (hnext answer)

theorem added (h : session.Chronicled chronicle) {query : Query} {choices : Option (List Choice)}
    (hquery : ∀ told, choices = some told → query.Lists told) :
    (session.withAdded query).Chronicled (chronicle.enter session.store.queries.size choices) := by
  intro id told htold
  by_cases hid : id = session.store.queries.size
  · subst hid
    rw [Chronicle.enter, Function.update_self] at htold
    exact ⟨query, queries_withAdded session query, hquery told htold⟩
  · rw [Chronicle.enter, Function.update_of_ne hid] at htold
    obtain ⟨standing, hstanding, hlists⟩ := h id told htold
    have hkeeps : session.store.Keeps ∅ (session.withAdded query).store := .add session.store query
    exact ⟨standing, hkeeps.record hstanding (Set.notMem_empty id), hlists⟩

theorem answered (h : session.Chronicled chronicle) {action : Action κ σ Nat}
    (haction : Confined ∅ action) {choices : Option (List Choice)}
    (hadded : ∀ id later, play action session = (.ok id, later) → ∃ query : Query,
      id = session.store.queries.size ∧ later = session.withAdded query ∧
        ∀ told, choices = some told → query.Lists told) :
    (play action session).2.Chronicled (chronicle.answered choices (play action session).1) ∧
      chronicle.Begins (chronicle.answered choices (play action session).1) := by
  cases hplay : play action session with
  | mk outcome later =>
      cases outcome with
      | error cause =>
          have hspared := h.spared (.of_confined haction)
          rw [hplay] at hspared
          exact ⟨hspared, .refl chronicle⟩
      | ok id =>
          obtain ⟨query, rfl, rfl, hquery⟩ := hadded id later hplay
          exact ⟨h.added hquery, .enter h.unrecorded choices⟩

theorem change (h : session.Chronicled chronicle) {choices : List Choice} {step : Query → Query}
    (hstep : ∀ query before, query.Lists before → (step query).Lists (before ++ choices)) :
    (play (Session.change id step) session).2.Chronicled (chronicle.told id choices) := by
  intro other after hafter
  by_cases hother : other = id
  · subst hother
    rw [Chronicle.told, Chronicle.enter, Function.update_self] at hafter
    obtain ⟨before, hbefore, rfl⟩ := Option.map_eq_some_iff.1 hafter
    obtain ⟨query, hquery, hlists⟩ := h other before hbefore
    rw [play_change hquery]
    exact ⟨step query, queries_withQuery hquery _, hstep query before hlists⟩
  · rw [Chronicle.told, Chronicle.enter, Function.update_of_ne hother] at hafter
    obtain ⟨query, hquery, hlists⟩ := h other after hafter
    have hkeeps := Confined.change (Set.mem_singleton id) step session
    exact ⟨query, hkeeps.record hquery hother, hlists⟩

end Chronicled

end Session

/-! ### Operations -/

/-- Everything that can be done with a query but to change its blueprint past its own steps. The
callbacks of an operation change no query but those that they are handed and those that they
make. -/
def Operation.Ordinary : Operation κ σ → Prop
  | edit _ => False
  | operation => operation.Confined ∅

/-- What an operation tells its query about its columns. -/
def Operation.choices : Operation κ σ → List Choice
  | call (.table _ _) => [.table]
  | call (.column name aliasName) => [.column name aliasName]
  | _ => []

section Connections

variable [Connection κ]

theorem Session.Spares.operation {operation : Operation κ σ} (h : operation.Ordinary)
    (hchoices : operation.choices = []) (id : Nat) : Spares (operation.run id) := by
  cases operation with
  | call made =>
      have htouched : .columns ∉ made.touched := by
        cases made with
        | table _ _ | column _ _ => cases hchoices
        | _ => simp [Call.touched]
      exact (call h htouched id).bind fun _ => pure _
  | chunk fuel size index visit => exact of_confined (.chunk h fuel size index)
  | setModel model =>
      have hkept : ∀ query : Query, query.KeepsColumns { query with model } :=
        fun _ => ⟨rfl, rfl⟩
      exact change hkept id
  | edit step => exact h.elim
  | clone => exact of_confined (.discard (.clone id))
  | build => exact of_confined (.discard (.build id))
  | dump => exact of_confined (.discard (.dump id))

/-- An operation tells its query what it is recorded to tell it. -/
theorem Session.Chronicled.operate {session : Session κ σ} {chronicle : Chronicle}
    (h : session.Chronicled chronicle) {operation : Operation κ σ} (hordinary : operation.Ordinary)
    (id : Nat) :
    (play (operation.run id) session).2.Chronicled (chronicle.told id operation.choices) := by
  have hspared (hchoices : operation.choices = []) :
      (play (operation.run id) session).2.Chronicled (chronicle.told id operation.choices) := by
    rw [hchoices, Chronicle.told_nil]
    exact h.spared (.operation hordinary hchoices id)
  cases operation with
  | call made =>
      cases made with
      | table name aliasName =>
          rw [Operation.run, discard_eq, play_bind_pure, Call.run, Call.fluent, play_bind_pure]
          exact h.change fun query before hlists => query.lists_setTable hlists name aliasName
      | column name aliasName =>
          rw [Operation.run, discard_eq, play_bind_pure, Call.run, Call.fluent, play_bind_pure]
          exact h.change fun query before hlists => query.lists_addColumn hlists name aliasName
      | _ => exact hspared rfl
  | _ => exact hspared rfl

theorem Session.play_newQuery {connection : Option Nat} {options : Options} {id : Nat}
    {session later : Session κ σ}
    (h : play (newQuery connection options) session = (.ok id, later)) :
    ∃ slot compiler, id = session.store.queries.size ∧
      later = session.withAdded (Query.new slot compiler options) := by
  rw [newQuery] at h
  obtain ⟨cause, hplay⟩ | ⟨⟨typeName, dialect⟩, hplay, -⟩ :=
    Ensures.play_introduce connection session
  · rw [play_bind, hplay] at h
    cases h
  · rw [play_bind_ok hplay] at h
    dsimp only at h
    rw [play_bind_ok (play_get session)] at h
    split at h
    · next compiler slot _ =>
        rw [play_addQuery] at h
        cases h
        exact ⟨slot, compiler, rfl, rfl⟩
    · cases h
    · rw [play_bind_ok (play_get session), play_bind, play_lift] at h
      split at h
      · cases h
      · cases h

omit [Connection κ] in
theorem Session.Confined.logEvent {ids : Set Nat} (level : Log.Level) (event : String)
    (fields : List (String × Value)) :
    Confined ids (Session.logEvent level event fields : Action κ σ Unit) :=
  of_store fun _ => rfl

theorem Session.Confined.newQuery (connection : Option Nat) (options : Options) :
    Confined ∅ (Session.newQuery connection options : Action κ σ Nat) := by
  have hintroduce : Confined ∅ (introduce connection : Action κ σ (String × Value)) := by
    refine of_store fun session => ?_
    obtain ⟨cause, hplay⟩ | ⟨answer, hplay, -⟩ := Ensures.play_introduce connection session
    · rw [hplay]
    · rw [hplay]
  refine hintroduce.bind fun introduced => get.bind fun session => ?_
  dsimp only
  split
  · exact addQuery _
  · exact throw _
  · exact get.bind fun _ => (lift _).bind fun _ => (logEvent _ _ _).bind fun _ => throw _

theorem Session.Chronicled.created {session : Session κ σ} {chronicle : Chronicle}
    (h : session.Chronicled chronicle) (connection : Option Nat) (options : Options) :
    (play (newQuery connection options) session).2.Chronicled
        (chronicle.answered (some []) (play (newQuery connection options) session).1) ∧
      chronicle.Begins
        (chronicle.answered (some []) (play (newQuery connection options) session).1) := by
  refine h.answered (.newQuery connection options) fun id later hplay => ?_
  obtain ⟨slot, compiler, rfl, rfl⟩ := play_newQuery hplay
  refine ⟨_, rfl, rfl, ?_⟩
  rintro _ ⟨⟩
  exact Query.lists_new slot compiler options

end Connections

theorem Session.Chronicled.cloned {session : Session κ σ} {chronicle : Chronicle}
    (h : session.Chronicled chronicle) (id : Nat) :
    (play (clone id) session).2.Chronicled
        (chronicle.answered (chronicle id) (play (clone id) session).1) ∧
      chronicle.Begins (chronicle.answered (chronicle id) (play (clone id) session).1) := by
  refine h.answered (.clone id) fun copy later hplay => ?_
  cases hcurrent : session.store.queries[id]? with
  | none =>
      rw [clone, play_bind, play_query_none hcurrent] at hplay
      cases hplay
  | some current =>
      rw [clone, play_bind_ok (play_query hcurrent), play_addQuery] at hplay
      cases hplay
      refine ⟨current, rfl, rfl, fun choices hchoices => ?_⟩
      obtain ⟨query, hquery, hlists⟩ := h id choices hchoices
      obtain rfl := Option.some.inj (hcurrent.symm.trans hquery)
      exact hlists

/-! ### Callbacks -/

/-- A call that may take a callback in the place of a column. -/
structure Taking (κ σ : Type) where
  call : Operand κ σ → Call κ σ
  value : Except Error Value
  clause : Clause
  reference : Value → Value
  edit : Value → Value → Edit
  description : ∀ operand,
    (call operand).description? = some ⟨value, operand, clause, reference, edit⟩

/-- A call without a callback. -/
def Call.Direct (call : Call κ σ) : Prop :=
  ∀ description, call.description? = some description →
    ∃ value, description.operand = .value value

theorem Call.exists_operand {call : Call κ σ} (h : ¬ call.Direct) :
    ∃ (taking : Taking κ σ) (operand : Operand κ σ), call = taking.call operand := by
  cases call with
  | join name operand second operator kind =>
      exact ⟨⟨fun operand => .join name operand second operator kind, _, _, _, _, fun _ => rfl⟩,
        operand, rfl⟩
  | leftJoin name operand second operator =>
      exact ⟨⟨fun operand => .leftJoin name operand second operator, _, _, _, _, fun _ => rfl⟩,
        operand, rfl⟩
  | rightJoin name operand second operator =>
      exact ⟨⟨fun operand => .rightJoin name operand second operator, _, _, _, _, fun _ => rfl⟩,
        operand, rfl⟩
  | filter operand value operator keyword =>
      exact ⟨⟨fun operand => .filter operand value operator keyword, _, _, _, _, fun _ => rfl⟩,
        operand, rfl⟩
  | orFilter operand value operator =>
      exact ⟨⟨fun operand => .orFilter operand value operator, _, _, _, _, fun _ => rfl⟩,
        operand, rfl⟩
  | filterColumn operand second operator keyword =>
      exact ⟨⟨fun operand => .filterColumn operand second operator keyword, _, _, _, _,
        fun _ => rfl⟩, operand, rfl⟩
  | filterIn operand values keyword =>
      exact ⟨⟨fun operand => .filterIn operand values keyword, _, _, _, _, fun _ => rfl⟩,
        operand, rfl⟩
  | filterNotIn operand values keyword =>
      exact ⟨⟨fun operand => .filterNotIn operand values keyword, _, _, _, _, fun _ => rfl⟩,
        operand, rfl⟩
  | filterNull operand keyword =>
      exact ⟨⟨fun operand => .filterNull operand keyword, _, _, _, _, fun _ => rfl⟩, operand, rfl⟩
  | filterNotNull operand keyword =>
      exact ⟨⟨fun operand => .filterNotNull operand keyword, _, _, _, _, fun _ => rfl⟩,
        operand, rfl⟩
  | having operand value operator keyword =>
      exact ⟨⟨fun operand => .having operand value operator keyword, _, _, _, _, fun _ => rfl⟩,
        operand, rfl⟩
  | havingColumn operand second operator keyword =>
      exact ⟨⟨fun operand => .havingColumn operand second operator keyword, _, _, _, _,
        fun _ => rfl⟩, operand, rfl⟩
  | table _ _ | fromTable _ _ | column _ _ | group _ | order _ _ | limit _ _ | page _ _ | union _ =>
      refine (h fun description hdescription => ?_).elim
      obtain rfl := Option.some.inj hdescription
      exact ⟨.null, rfl⟩
  | _ => exact (h fun _ => nofun).elim

/-- A call with a callback is one of these. -/
theorem Call.exists_taking {call : Call κ σ} (h : ¬ call.Direct) :
    ∃ (taking : Taking κ σ) (mark : Nat) (fill : Nat → Action κ σ Unit),
      call = taking.call (.callback mark fill) := by
  obtain ⟨taking, operand, rfl⟩ := exists_operand h
  cases operand with
  | callback mark fill => exact ⟨taking, mark, fill, rfl⟩
  | value column =>
      refine (h fun description hdescription => ⟨column, ?_⟩).elim
      rw [← Option.some.inj ((taking.description _).symm.trans hdescription)]

theorem Taking.columns_not_touched (taking : Taking κ σ) (value settled : Value) :
    .columns ∉ (taking.edit value settled).touched := by
  have hcall := taking.description (.callback 0 fun _ => pure ())
  rw [Call.touched_edit hcall]
  generalize taking.call (.callback 0 fun _ => pure ()) = call at hcall
  cases call with
  | table _ _ | column _ _ => cases congrArg Description.operand (Option.some.inj hcall)
  | _ => simp [Call.touched]

/-- The chronicle after a call with a callback on a query: what the callback makes of it, which is
handed a nested query. Without the query, or without the value of the call, there is no callback. -/
def Taking.recorded (taking : Taking κ σ) (id : Nat) (session : Session κ σ)
    (chronicle : Chronicle) (fill : Query → Chronicle → Chronicle) : Chronicle :=
  match taking.value, session.store.queries[id]? with
  | .ok _, some current => fill current (chronicle.enter session.store.queries.size (some []))
  | _, _ => chronicle

/-- Once its callback has been run, a call adds a condition or a join, and no column. -/
theorem Session.Chronicled.within [Connection κ] {session : Session κ σ} {chronicle : Chronicle}
    (h : session.Chronicled chronicle) (id : Nat) (taking : Taking κ σ) (mark : Nat)
    (fill : Nat → Action κ σ Unit) (filled : Query → Chronicle → Chronicle)
    (hfill : ∀ (current : Query) (entered : Chronicle),
      (session.withAdded current.nested).Chronicled entered →
      (play (fill session.store.queries.size) (session.withAdded current.nested)).2.Chronicled
          (filled current entered) ∧
        entered.Begins (filled current entered)) :
    (play (discard ((taking.call (.callback mark fill)).run id)) session).2.Chronicled
        (taking.recorded id session chronicle filled) ∧
      chronicle.Begins (taking.recorded id session chronicle filled) := by
  rw [discard_eq, play_bind_pure, Call.run_eq (taking.description _), Call.fluent, play_bind_pure,
    Description.run, Taking.recorded]
  cases taking.value with
  | error cause =>
      rw [play_bind, play_lift]
      exact ⟨h, .refl chronicle⟩
  | ok value =>
      rw [play_bind_ok (play_lift _ session)]
      cases hcurrent : session.store.queries[id]? with
      | none =>
          rw [settle, capture, play_bind, play_bind, play_query_none hcurrent]
          exact ⟨h, .refl chronicle⟩
      | some current =>
          have hnested : (session.withAdded current.nested).Chronicled
              (chronicle.enter session.store.queries.size (some [])) := by
            refine h.added ?_
            rintro _ ⟨⟩
            exact Query.lists_new current.connection current.compiler current.options
          obtain ⟨hfilled, hbegins⟩ := hfill current _ hnested
          refine ⟨?_, (Chronicle.Begins.enter h.unrecorded _).trans hbegins⟩
          have hsettled : (play (settle id taking.clause taking.reference (.callback mark fill))
              session).2.Chronicled (filled current
                (chronicle.enter session.store.queries.size (some []))) := by
            rw [settle, capture, play_bind_ok (play_query hcurrent),
              play_bind_ok (play_addQuery _ session)]
            refine Chronicled.followed hfilled fun _ => ?_
            exact (Spares.query _).bind fun _ => Spares.pure _
          refine hsettled.followed fun settled => .attempt (fun query changed hchanged => ?_) id
          have hsame := Edit.kept hchanged (taking.columns_not_touched value settled)
          exact ⟨hsame.fragments, hsame.blank rfl⟩

/-! ### Scripts -/

/-- A program over queries. What comes of a step decides how it goes on, and so does a failure. -/
inductive Script (κ σ : Type) where
  | done (outcome : Except Error Unit)
  | create (connection : Option Nat) (options : Options) (next : Except Error Nat → Script κ σ)
  | clone (id : Nat) (next : Except Error Nat → Script κ σ)
  | operate (id : Nat) (operation : Operation κ σ) (ordinary : operation.Ordinary)
      (next : Except Error Unit → Script κ σ)
  | within (id : Nat) (taking : Taking κ σ) (mark : Nat) (fill : Nat → Script κ σ)
      (next : Except Error Unit → Script κ σ)

/-- A step whose failure is answered. -/
def Session.caught (action : Action κ σ α) : Action κ σ (Except Error α) :=
  ExceptT.lift action.run

theorem Session.play_caught (action : Action κ σ α) (session : Session κ σ) :
    play (caught action) session = (.ok (play action session).1, (play action session).2) :=
  rfl

theorem Session.play_caught_bind (action : Action κ σ α) (next : Except Error α → Action κ σ β)
    (session : Session κ σ) :
    play (caught action >>= next) session =
      play (next (play action session).1) (play action session).2 :=
  play_bind_ok (play_caught action session)

namespace Script

variable [Connection κ]

def run : Script κ σ → Action κ σ Unit
  | done outcome => liftM outcome
  | create connection options next => do
      let answer ← caught (newQuery connection options)
      (next answer).run
  | clone id next => do
      let answer ← caught (Session.clone id)
      (next answer).run
  | operate id operation _ next => do
      let answer ← caught (operation.run id)
      (next answer).run
  | within id taking mark fill next => do
      let call := taking.call (.callback mark fun nested => (fill nested).run)
      let answer ← caught (discard (call.run id))
      (next answer).run

/-- What a script tells the queries when it is run in a session. -/
def chronicle : Script κ σ → Session κ σ → Chronicle → Chronicle
  | done _, _, chronicle => chronicle
  | create connection options next, session, chronicle =>
      let (answer, later) := play (newQuery connection options) session
      (next answer).chronicle later (chronicle.answered (some []) answer)
  | clone id next, session, chronicle =>
      let (answer, later) := play (Session.clone id) session
      (next answer).chronicle later (chronicle.answered (chronicle id) answer)
  | operate id operation _ next, session, chronicle =>
      let (answer, later) := play (operation.run id) session
      (next answer).chronicle later (chronicle.told id operation.choices)
  | within id taking mark fill next, session, chronicle =>
      let call := taking.call (.callback mark fun nested => (fill nested).run)
      let (answer, later) := play (discard (call.run id)) session
      let filled := taking.recorded id session chronicle fun current =>
        (fill session.store.queries.size).chronicle (session.withAdded current.nested)
      (next answer).chronicle later filled

/-- Every call that takes a callback is a step of a script, as long as its callback runs one. -/
theorem run_within {call : Call κ σ} (h : ¬ call.Direct) :
    ∃ (taking : Taking κ σ) (mark : Nat) (fill : Nat → Action κ σ Unit),
      call = taking.call (.callback mark fill) ∧
      ∀ filled : Nat → Script κ σ, (∀ nested, (filled nested).run = fill nested) →
        ∀ id next, (within id taking mark filled next).run =
          caught (discard (call.run id)) >>= fun answer => (next answer).run := by
  obtain ⟨taking, mark, fill, rfl⟩ := Call.exists_taking h
  refine ⟨taking, mark, fill, rfl, fun filled hfilled id next => ?_⟩
  rw [run, funext hfilled]

/-- At the end of a script every query on record lists what it has been told. Nothing that was on
record before is forgotten. -/
theorem lists_columns (script : Script κ σ) {session : Session κ σ} {chronicle : Chronicle}
    (h : session.Chronicled chronicle) :
    (play script.run session).2.Chronicled (script.chronicle session chronicle) ∧
      chronicle.Begins (script.chronicle session chronicle) := by
  induction script generalizing session chronicle with
  | done outcome =>
      rw [run, play_lift]
      exact ⟨h, .refl chronicle⟩
  | create connection options next ih =>
      rw [run, play_caught_bind]
      obtain ⟨hcreated, hbegins⟩ := h.created connection options
      obtain ⟨hlater, hmore⟩ := ih _ hcreated
      exact ⟨hlater, hbegins.trans hmore⟩
  | clone id next ih =>
      rw [run, play_caught_bind]
      obtain ⟨hcloned, hbegins⟩ := h.cloned id
      obtain ⟨hlater, hmore⟩ := ih _ hcloned
      exact ⟨hlater, hbegins.trans hmore⟩
  | operate id operation hordinary next ih =>
      rw [run, play_caught_bind]
      obtain ⟨hlater, hmore⟩ := ih _ (h.operate hordinary id)
      exact ⟨hlater, (Chronicle.Begins.told chronicle id operation.choices).trans hmore⟩
  | within id taking mark fill next ihfill ihnext =>
      rw [run, play_caught_bind]
      obtain ⟨hfilled, hbegins⟩ := h.within id taking mark (fun nested => (fill nested).run)
        (fun current => (fill session.store.queries.size).chronicle
          (session.withAdded current.nested)) fun _ _ => ihfill _
      obtain ⟨hlater, hmore⟩ := ihnext _ hfilled
      exact ⟨hlater, hbegins.trans hmore⟩

/-- A query with a condition whose callback names a column of the nested query and one of the query
itself. It is cloned then, and something more is named of each of the two. -/
def interleaved : Script RecordingConnection Unit :=
  let column (id : Nat) (name : String) (rest : Script RecordingConnection Unit) :=
    operate id (.call (.column (.text name) (.text ""))) trivial fun _ => rest
  let table (id : Nat) (name : String) (rest : Script RecordingConnection Unit) :=
    operate id (.call (.table (.text name) (.text ""))) trivial fun _ => rest
  let taking : Taking RecordingConnection Unit :=
    ⟨fun operand => .filter operand .null (.text "=") (.text "AND"), _, _, _, _, fun _ => rfl⟩
  let fill (nested : Nat) := column nested "x" <| column 0 "a" <| done (.ok ())
  table 0 "t" <| within 0 taking 0 fill fun _ => clone 0 fun _ =>
    column 2 "b" <| table 0 "u" <| column 0 "*" <| column 0 "c" <| done (.ok ())

/-- A session with a query that has been told nothing. -/
def fresh : Session RecordingConnection Unit :=
  (Session.start ()).withAdded (Query.new 0 .mysql Options.standard)

theorem chronicled_fresh : fresh.Chronicled (Chronicle.empty.enter 0 (some [])) := by
  refine (Chronicled.empty _).added ?_
  rintro _ ⟨⟩
  exact Query.lists_new 0 .mysql Options.standard

theorem lists_columns_interleaved :
    ∃ original nested copy : Query,
      (play interleaved.run fresh).2.store.queries[0]? = some original ∧
      (play interleaved.run fresh).2.store.queries[1]? = some nested ∧
      (play interleaved.run fresh).2.store.queries[2]? = some copy ∧
      original.Lists [.table, .column (.text "a") (.text ""), .table,
        .column (.text "*") (.text ""), .column (.text "c") (.text "")] ∧
      nested.Lists [.column (.text "x") (.text "")] ∧
      copy.Lists [.table, .column (.text "a") (.text ""), .column (.text "b") (.text "")] := by
  have hlists := (interleaved.lists_columns chronicled_fresh).1
  obtain ⟨original, horiginal, hfirst⟩ := hlists 0 _ rfl
  obtain ⟨nested, hnested, hsecond⟩ := hlists 1 _ rfl
  obtain ⟨copy, hcopy, hthird⟩ := hlists 2 _ rfl
  exact ⟨original, nested, copy, horiginal, hnested, hcopy, hfirst, hsecond, hthird⟩

end Script

end SqlBuilder
