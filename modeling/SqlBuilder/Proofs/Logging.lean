import SqlBuilder.Proofs.Play
import SqlBuilder.Session.Defaults
import Mathlib.Data.List.Induction
import Mathlib.Data.List.Nodup
import Mathlib.Tactic.SplitIfs

/-!
# One handler, the latest

Whenever the logging is configured, the handler of the configuration before gives way to a new one,
on a stream of its own. What is reported from then on goes to that stream and to no stream of an
earlier configuration, until the next configuration takes over. A configuration that names no level
takes nothing over, and the handlers that a program has attached itself are never in question.

A configuration in force is therefore a watch: it is kept up by what is reported, and what stands on
its stream can be read off it. The watches of a history are told first, and then that the handlers,
the rank and the streams of a session are those of its watches.
-/

namespace SqlBuilder

open Session

namespace Log

/-! ### Writing to streams -/

theorem find?_appendLine (streams : List (String × List Line)) (stream other : String)
    (line : Line) :
    Assoc.find? (Logging.appendLine streams stream line) other =
      (Assoc.find? streams other).map
        fun lines => if stream == other then lines ++ [line] else lines := by
  induction streams with
  | nil => rfl
  | cons entry rest ih =>
      simp only [Assoc.find?, Logging.appendLine, List.map_cons, List.find?_cons] at ih ⊢
      by_cases hother : entry.1 == other
      · obtain rfl := eq_of_beq hother
        by_cases hstream : stream == entry.1
        · obtain rfl := eq_of_beq hstream
          simp
        · have hne : (entry.1 == stream) = false := by
            rw [Bool.beq_comm]
            simpa using hstream
          simp [hstream, hne]
      · have hkey : ((if entry.1 == stream then (entry.1, entry.2 ++ [line]) else entry).1 ==
            other) = false := by
          split <;> simpa using hother
        simp only [hkey, hother]
        exact ih

def linesOn (handlers : List Handler) (event : Event) (stream : String) : List Line :=
  (handlers.filter fun handler => handler.stream == stream).map fun handler => ⟨handler.json, event⟩

theorem linesOn_eq_nil {handlers : List Handler} {stream : String}
    (h : stream ∉ handlers.map Handler.stream) (event : Event) :
    linesOn handlers event stream = [] := by
  rw [linesOn, List.map_eq_nil_iff, List.filter_eq_nil_iff]
  intro handler hmem hstream
  exact h (eq_of_beq hstream ▸ List.mem_map_of_mem hmem)

theorem find?_written (handlers : List Handler) (event : Event)
    (streams : List (String × List Line)) (stream : String) :
    Assoc.find? (handlers.foldl (fun streams handler =>
        Logging.appendLine streams handler.stream ⟨handler.json, event⟩) streams) stream =
      (Assoc.find? streams stream).map (· ++ linesOn handlers event stream) := by
  induction handlers generalizing streams with
  | nil => cases h : Assoc.find? streams stream <;> simp [linesOn, h]
  | cons handler rest ih =>
      rw [List.foldl_cons, ih, find?_appendLine, Option.map_map]
      congr 1
      funext lines
      by_cases hstream : handler.stream == stream <;> simp [linesOn, hstream]

/-! ### Watches -/

/-- Whether nothing stands in the place of the record that is made of an event. -/
def Event.plain (event : Event) : Bool :=
  match event.fields.read recordField with
  | .null => true
  | _ => false

/-- A configuration that has been in force, and what was reported while it was. -/
structure Watch where
  stream : String
  json : Bool
  rank : Nat
  events : List Event

namespace Watch

def handler (watch : Watch) : Handler :=
  ⟨watch.stream, watch.json, true⟩

def floor (watch : Watch) : Nat :=
  if watch.rank == 0 then inheritedRank else watch.rank

/-- Whether an event is written while a configuration is in force. -/
def heeds (watch : Watch) (event : Event) : Bool :=
  event.plain && inNamespace event.logger && watch.floor ≤ event.level.rank

/-- What stands on the stream of a configuration. -/
def lines (watch : Watch) : List Line :=
  (watch.events.filter watch.heeds).map fun event => ⟨watch.json, event⟩

def hear (watch : Watch) (event : Event) : Watch :=
  { watch with events := watch.events ++ [event] }

theorem lines_hear (watch : Watch) (event : Event) :
    (watch.hear event).lines =
      watch.lines ++ if watch.heeds event then [⟨watch.json, event⟩] else [] := by
  have hheeds : (watch.hear event).heeds = watch.heeds := rfl
  rw [lines, hheeds]
  by_cases h : watch.heeds event <;> simp [lines, hear, h]

end Watch

/-- What can happen to the logging: it is configured, an event is reported, or the program attaches
a handler of its own. -/
inductive Occurrence where
  | configure (stream : String) (level : Value) (json : Bool)
  | report (event : Event)
  | attach (stream : String) (json : Bool)

namespace Occurrence

/-- The stream that a configuration is given. -/
def opened? : Occurrence → Option String
  | configure stream _ _ => some stream
  | report _ | attach _ _ => none

/-- The handler that a program attaches itself. -/
def attached? : Occurrence → Option Handler
  | attach stream json => some ⟨stream, json, false⟩
  | configure _ _ _ | report _ => none

end Occurrence

/-- A configuration that names a level begins a watch, and what is reported is heard by the latest
one. -/
def Watch.next (watches : List Watch) : Occurrence → List Watch
  | .configure stream level json =>
      match threshold level with
      | .ok rank => ⟨stream, json, rank, []⟩ :: watches
      | .error _ => watches
  | .report event => watches.modifyHead (·.hear event)
  | .attach _ _ => watches

/-- The watches of a history, the latest first. -/
def Watch.all (occurrences : List Occurrence) : List Watch :=
  occurrences.foldl Watch.next []

theorem Watch.all_append (front : List Occurrence) (last : Occurrence) :
    Watch.all (front ++ [last]) = Watch.next (Watch.all front) last := by
  simp [Watch.all]

/-- Every watch is on the stream of a configuration, and no two are on that of the same one. -/
theorem Watch.streams_all (occurrences : List Occurrence) :
    ((Watch.all occurrences).map Watch.stream).reverse.Sublist
      (occurrences.filterMap Occurrence.opened?) := by
  induction occurrences using List.reverseRecOn with
  | nil => exact List.Sublist.refl _
  | append_singleton front last ih =>
      rw [Watch.all_append, List.filterMap_append]
      cases last with
      | configure stream level json =>
          rw [Watch.next]
          split
          · rw [List.map_cons, List.reverse_cons]
            exact ih.append (List.Sublist.refl _)
          · exact ih.trans (List.sublist_append_left _ _)
      | report event =>
          have hmap : ((Watch.all front).modifyHead (·.hear event)).map Watch.stream =
              (Watch.all front).map Watch.stream := by
            cases Watch.all front <;> rfl
          rw [Watch.next, hmap]
          exact ih.trans (List.sublist_append_left _ _)
      | attach stream json => exact ih.trans (List.sublist_append_left _ _)

/-! ### The watches of a logging -/

/-- The installed handler, the rank and the streams of a logging are those of its watches, the
latest first. Next to them stand the handlers of the program, and before the first watch a rank. -/
structure Logging.Watched (logging : Logging) (watches : List Watch) (own : List Handler)
    (rank : Nat) : Prop where
  installed : logging.handlers.filter Handler.installed = (watches.head?.map Watch.handler).toList
  own : logging.handlers.filter (fun handler => !handler.installed) = own
  rank : logging.rank = (watches.head?.map Watch.rank).getD rank
  streams : ∀ watch ∈ watches, Assoc.find? logging.streams watch.stream = some watch.lines

/-- The logging once an event has been reported. -/
def Logging.heard (logging : Logging) (event : Event) : Logging :=
  if event.plain then logging.emit event else logging

theorem Logging.handlers_heard (logging : Logging) (event : Event) :
    (logging.heard event).handlers = logging.handlers := by
  rw [heard, emit]
  split_ifs <;> rfl

theorem Logging.rank_heard (logging : Logging) (event : Event) :
    (logging.heard event).rank = logging.rank := by
  rw [heard, emit]
  split_ifs <;> rfl

theorem Logging.find?_heard (logging : Logging) (event : Event) (stream : String) :
    Assoc.find? (logging.heard event).streams stream =
      (Assoc.find? logging.streams stream).map
        (· ++ if event.plain && inNamespace event.logger && logging.passes event then
          linesOn logging.handlers event stream else []) := by
  rw [heard, emit]
  cases event.plain with
  | false => cases h : Assoc.find? logging.streams stream <;> simp [h]
  | true =>
      rw [Bool.true_and]
      cases hlistened : inNamespace event.logger && logging.passes event with
      | false => cases h : Assoc.find? logging.streams stream <;> simp [h]
      | true => simpa [hlistened] using find?_written logging.handlers event logging.streams stream

namespace Logging.Watched

variable {logging : Logging} {watches : List Watch} {own : List Handler} {rank : Nat}

/-- On the stream of a watch only the installed handler writes. -/
theorem linesOn_eq (h : logging.Watched watches own rank) {stream : String}
    (hown : stream ∉ own.map Handler.stream) (event : Event) :
    linesOn logging.handlers event stream =
      linesOn (watches.head?.map Watch.handler).toList event stream := by
  rw [← h.installed, linesOn, linesOn, List.filter_filter]
  congr 1
  apply List.filter_congr
  intro handler hmem
  cases hinstalled : handler.installed with
  | true => rw [Bool.and_true]
  | false =>
      have hmine : handler ∈ own := by
        rw [← h.own]
        exact List.mem_filter.2 ⟨hmem, by rw [hinstalled]; rfl⟩
      rw [Bool.and_false, beq_eq_false_iff_ne]
      rintro rfl
      exact hown (List.mem_map_of_mem hmine)

/-- What is listened to is what the latest watch heeds. -/
theorem heeds_eq {latest : Watch} {earlier : List Watch}
    (h : logging.Watched (latest :: earlier) own rank) (event : Event) :
    (event.plain && inNamespace event.logger && logging.passes event) = latest.heeds event := by
  have hfloor : logging.effectiveRank = latest.floor := by
    rw [Logging.effectiveRank, h.rank]
    rfl
  rw [Watch.heeds, Logging.passes, hfloor]
  cases inNamespace event.logger <;> simp

theorem heard (h : logging.Watched watches own rank) (hnodup : (watches.map Watch.stream).Nodup)
    (hown : ∀ handler ∈ own, handler.stream ∉ watches.map Watch.stream) (event : Event) :
    (logging.heard event).Watched (Watch.next watches (.report event)) own rank := by
  have hhandlers := logging.handlers_heard event
  have hrank := logging.rank_heard event
  have hother : ∀ watch ∈ watches, watch.stream ∉ own.map Handler.stream := by
    intro watch hwatch hmem
    obtain ⟨handler, hhandler, hstream⟩ := List.mem_map.1 hmem
    exact hown handler hhandler (hstream ▸ List.mem_map_of_mem hwatch)
  cases watches with
  | nil => exact ⟨hhandlers ▸ h.installed, hhandlers ▸ h.own, hrank ▸ h.rank, fun _ => nofun⟩
  | cons latest earlier =>
      refine ⟨hhandlers ▸ h.installed, hhandlers ▸ h.own, hrank ▸ h.rank, ?_⟩
      intro watch hwatch
      -- the handlers of the program stand on no stream of a watch, so only the latest can grow
      obtain rfl | hearlier := List.mem_cons.1 hwatch
      · have hlatest : Assoc.find? logging.streams latest.stream = some latest.lines :=
          h.streams latest List.mem_cons_self
        have hwritten : linesOn logging.handlers event latest.stream = [⟨latest.json, event⟩] := by
          rw [h.linesOn_eq (hother latest List.mem_cons_self)]
          simp [linesOn, Watch.handler]
        change Assoc.find? (logging.heard event).streams latest.stream =
          some (latest.hear event).lines
        rw [Logging.find?_heard, h.heeds_eq, hwritten, hlatest, Watch.lines_hear]
        rfl
      · have hne : watch.stream ≠ latest.stream := by
          intro hstream
          rw [List.map_cons, List.nodup_cons] at hnodup
          exact hnodup.1 (hstream ▸ List.mem_map_of_mem hearlier)
        have hnothing : linesOn logging.handlers event watch.stream = [] := by
          rw [h.linesOn_eq (hother watch (List.mem_cons_of_mem _ hearlier))]
          apply linesOn_eq_nil
          simpa [Watch.handler] using hne
        rw [Logging.find?_heard, hnothing, ite_self,
          h.streams watch (List.mem_cons_of_mem _ hearlier)]
        simp

theorem configured (h : logging.Watched watches own rank) {stream : String} {level : Value}
    {json : Bool} {ranked : Nat} (hlevel : threshold level = .ok ranked) {later : Logging}
    (hlater : logging.configure stream level json = .ok later)
    (hfresh : stream ∉ watches.map Watch.stream) :
    later.Watched (⟨stream, json, ranked, []⟩ :: watches) own rank := by
  rw [Logging.configure, hlevel] at hlater
  obtain rfl := Except.ok.inj hlater
  refine ⟨?installed, ?own, rfl, ?streams⟩
  case installed =>
    simp [List.filter_append, List.filter_filter, Watch.handler]
  case own =>
    simp [List.filter_append, List.filter_filter, ← h.own]
  case streams =>
    intro watch hwatch
    simp only [Assoc.find?_place]
    obtain rfl | hearlier := List.mem_cons.1 hwatch
    · rw [if_pos BEq.rfl]
      rfl
    · have hne : (stream == watch.stream) = false := by
        rw [beq_eq_false_iff_ne]
        rintro rfl
        exact hfresh (List.mem_map_of_mem hearlier)
      rw [hne]
      exact h.streams watch hearlier

theorem attached (h : logging.Watched watches own rank) (stream : String) (json : Bool) :
    ({ logging with
      handlers := logging.handlers ++ [⟨stream, json, false⟩]
      streams := Assoc.place logging.streams stream
        ((Assoc.find? logging.streams stream).getD []) } : Logging).Watched watches
      (own ++ [⟨stream, json, false⟩]) rank := by
  refine ⟨?installed, ?own, h.rank, ?streams⟩
  case installed => simp [List.filter_append, h.installed]
  case own => simp [List.filter_append, h.own]
  case streams =>
    intro watch hwatch
    simp only [Assoc.find?_place]
    split
    · next hstream =>
        rw [eq_of_beq hstream, h.streams watch hwatch]
        rfl
    · exact h.streams watch hwatch

end Logging.Watched

/-! ### Levels by name -/

theorem threshold_text (name : String) :
    threshold (.text name) =
      match thresholds.find? fun entry => entry.1 == Text.upper name with
      | some entry => .ok entry.2
      | none => .error (.unknownLevel (.text name)) :=
  rfl

theorem threshold_level {name : String} {level : Level}
    (h : Text.upper name = Text.upper level.name) :
    threshold (.text name) = .ok level.rank := by
  have hfound : (thresholds.find? fun entry => entry.1 == Text.upper level.name) =
      some (Text.upper level.name, level.rank) := by
    cases level <;> decide +kernel
  rw [threshold_text, h, hfound]

theorem Watch.floor_rank (level : Level) (stream : String) (json : Bool) (events : List Event) :
    (⟨stream, json, level.rank, events⟩ : Watch).floor = level.rank := by
  cases level <;> rfl

theorem threshold_unknown {name : String} (h : Text.upper name ∉ thresholds.map Prod.fst) :
    threshold (.text name) = .error (.unknownLevel (.text name)) := by
  have hnone : (thresholds.find? fun entry => entry.1 == Text.upper name) = none := by
    rw [List.find?_eq_none]
    intro entry hentry hname
    exact h (eq_of_beq hname ▸ List.mem_map_of_mem hentry)
  rw [threshold_text, hnone]

end Log

/-! ### Histories -/

variable {κ σ : Type}

open Log

/-- What an occurrence does to a session. -/
def Log.Occurrence.run : Occurrence → Action κ σ Unit
  | configure stream level json => configureLogging stream level json
  | report event => Session.report event
  | attach stream json =>
      modify fun session => { session with
        logging := { session.logging with
          handlers := session.logging.handlers ++ [⟨stream, json, false⟩]
          streams := Assoc.place session.logging.streams stream
            ((Assoc.find? session.logging.streams stream).getD []) } }

namespace Session

/-- The session after a history. What has failed is left behind. -/
def hearing (session : Session κ σ) (occurrences : List Occurrence) : Session κ σ :=
  occurrences.foldl (fun session occurrence => (play occurrence.run session).2) session

theorem hearing_append (session : Session κ σ) (front : List Occurrence) (last : Occurrence) :
    session.hearing (front ++ [last]) = (play last.run (session.hearing front)).2 := by
  simp [hearing]

/-- A configuration that fails changes nothing at all. -/
theorem play_configureLogging (session : Session κ σ) (stream : String) (level : Value)
    (json : Bool) :
    play (configureLogging stream level json) session =
      match session.logging.configure stream level json with
      | .ok logging => (.ok (), { session with logging })
      | .error cause => (.error cause, session) := by
  rw [configureLogging, play_bind_ok (play_get session), play_bind, play_lift]
  cases session.logging.configure stream level json <;> rfl

theorem play_configureLogging_error {level : Value} {cause : Error}
    (h : threshold level = .error cause) (session : Session κ σ) (stream : String) (json : Bool) :
    play (configureLogging stream level json) session = (.error cause, session) := by
  rw [play_configureLogging, Logging.configure, h]
  rfl

theorem play_report (session : Session κ σ) (event : Event) :
    play (Session.report event) session =
      match session.logging.report event with
      | .ok logging => (.ok (), { session with logging })
      | .error cause => (.error cause, session) := by
  rw [Session.report, play_bind_ok (play_get session), play_bind, play_lift]
  cases session.logging.report event <;> rfl

theorem logging_report (session : Session κ σ) (event : Event) :
    (play (Session.report event) session).2.logging = session.logging.heard event := by
  rw [play_report, Logging.report, Logging.heard, Event.plain]
  cases event.fields.read recordField with
  | null => rfl
  | _ => cases session.logging.passes event <;> rfl

variable {session : Session κ σ}

theorem watched_next {watches : List Watch} {own : List Handler} {rank : Nat}
    (h : session.logging.Watched watches own rank) (hnodup : (watches.map Watch.stream).Nodup)
    (hown : ∀ handler ∈ own, handler.stream ∉ watches.map Watch.stream) (occurrence : Occurrence)
    (hopened : ∀ stream ∈ occurrence.opened?, stream ∉ watches.map Watch.stream) :
    (play (occurrence.run : Action κ σ Unit) session).2.logging.Watched
      (Watch.next watches occurrence) (own ++ occurrence.attached?.toList) rank := by
  cases occurrence with
  | configure stream level json =>
      rw [Occurrence.attached?, Option.toList_none, List.append_nil, Occurrence.run, Watch.next]
      cases hlevel : threshold level with
      | error cause =>
          rw [play_configureLogging_error hlevel]
          exact h
      | ok ranked =>
          have hfresh := hopened stream rfl
          rw [play_configureLogging]
          cases hconfigure : session.logging.configure stream level json with
          | error cause =>
              rw [Logging.configure, hlevel] at hconfigure
              cases hconfigure
          | ok later => exact h.configured hlevel hconfigure hfresh
  | report event =>
      rw [Occurrence.attached?, Option.toList_none, List.append_nil, Occurrence.run,
        logging_report]
      exact h.heard hnodup hown event
  | attach stream json => exact h.attached stream json

/-- The logging of a session is that of the watches of its history, if no two configurations share a
stream, and none shares its stream with a handler of the program. -/
theorem watched_hearing {occurrences : List Occurrence}
    (hnone : ∀ handler ∈ session.logging.handlers, handler.installed = false)
    (hopened : (occurrences.filterMap Occurrence.opened?).Nodup)
    (hown : ∀ handler ∈ session.logging.handlers ++ occurrences.filterMap Occurrence.attached?,
      handler.stream ∉ occurrences.filterMap Occurrence.opened?) :
    (session.hearing occurrences).logging.Watched (Watch.all occurrences)
      (session.logging.handlers ++ occurrences.filterMap Occurrence.attached?)
      session.logging.rank := by
  -- what happens last comes upon the watches of all that went before
  induction occurrences using List.reverseRecOn with
  | nil =>
      refine ⟨?_, ?_, rfl, fun _ => nofun⟩
      · refine List.filter_eq_nil_iff.2 fun handler hmem => ?_
        rw [hnone handler hmem]
        exact Bool.false_ne_true
      · rw [List.filterMap_nil, List.append_nil]
        refine List.filter_eq_self.2 fun handler hmem => ?_
        rw [hnone handler hmem]
        rfl
  | append_singleton front last ih =>
      rw [List.filterMap_append] at hopened
      rw [List.filterMap_append, List.filterMap_append, ← List.append_assoc] at hown
      have hsublist := Watch.streams_all front
      have hwatches : ∀ {stream}, stream ∈ (Watch.all front).map Watch.stream →
          stream ∈ front.filterMap Occurrence.opened? :=
        fun hmem => hsublist.subset (List.mem_reverse.2 hmem)
      have hfront := ih (List.nodup_append.1 hopened).1 fun handler hmem hstream =>
        hown handler (List.mem_append_left _ hmem) (List.mem_append_left _ hstream)
      have hnodup : ((Watch.all front).map Watch.stream).Nodup :=
        List.nodup_reverse.1 ((List.nodup_append.1 hopened).1.sublist hsublist)
      rw [hearing_append, Watch.all_append, List.filterMap_append, ← List.append_assoc]
      have hlast : [last].filterMap Occurrence.attached? = last.attached?.toList := by
        cases last <;> rfl
      rw [hlast]
      apply watched_next hfront hnodup
      · intro handler hmem hstream
        exact hown handler (List.mem_append_left _ hmem)
          (List.mem_append_left _ (hwatches hstream))
      · intro stream hstream hmem
        refine (List.nodup_append.1 hopened).2.2 stream (hwatches hmem) stream ?_ rfl
        simpa using hstream

/-- However the logging is configured, each time on a stream of its own, and whatever is reported:
at every moment one installed handler is attached, that of the latest configuration that named a
level, and the rank is that configuration's, while the handlers of the program are kept. On the
stream of each of these configurations stands what was reported while it was in force, an event
once if its logger and its level are listened to, and nothing else; only an event that brings a
record of its own cannot be written. A level is named in any letter case, and a name that is none
fails and changes nothing. -/
theorem one_handler {occurrences : List Occurrence}
    (hnone : ∀ handler ∈ session.logging.handlers, handler.installed = false)
    (hopened : (occurrences.filterMap Occurrence.opened?).Nodup)
    (hown : ∀ handler ∈ session.logging.handlers ++ occurrences.filterMap Occurrence.attached?,
      handler.stream ∉ occurrences.filterMap Occurrence.opened?) :
    (∀ front, front <+: occurrences →
      let logging := (session.hearing front).logging
      let watches := Watch.all front
      logging.handlers.filter Handler.installed = (watches.head?.map Watch.handler).toList ∧
      logging.handlers.filter (fun handler => !handler.installed) =
        session.logging.handlers ++ front.filterMap Occurrence.attached? ∧
      logging.rank = (watches.head?.map Watch.rank).getD session.logging.rank ∧
      ∀ watch ∈ watches, Assoc.find? logging.streams watch.stream = some watch.lines) ∧
    (∀ (level : Log.Level) (name : String), Text.upper name = Text.upper level.name →
      threshold (.text name) = .ok level.rank ∧
      ∀ (stream : String) (json : Bool) (events : List Event) (event : Event),
        (⟨stream, json, level.rank, events⟩ : Watch).heeds event =
          (event.plain && inNamespace event.logger && level.rank ≤ event.level.rank)) ∧
    ∀ (name : String), Text.upper name ∉ thresholds.map Prod.fst →
      ∀ (session : Session κ σ) (stream : String) (json : Bool),
        play (configureLogging stream (.text name) json) session =
          (.error (.unknownLevel (.text name)), session) := by
  refine ⟨?prefixes, ?levels, ?unknown⟩
  case prefixes =>
    rintro front ⟨rest, rfl⟩
    rw [List.filterMap_append] at hopened
    rw [List.filterMap_append, List.filterMap_append, ← List.append_assoc] at hown
    have hwatched := watched_hearing hnone (List.nodup_append.1 hopened).1
      fun handler hmem hstream =>
        hown handler (List.mem_append_left _ hmem) (List.mem_append_left _ hstream)
    exact ⟨hwatched.installed, hwatched.own, hwatched.rank, hwatched.streams⟩
  case levels =>
    intro level name hname
    refine ⟨threshold_level hname, fun stream json events event => ?_⟩
    rw [Watch.heeds, Watch.floor_rank]
  case unknown =>
    intro name hname session stream json
    exact play_configureLogging_error (threshold_unknown hname) session stream json

/-! ### A level that is none, in between -/

def told (level : Log.Level) (text : String) : Event :=
  ⟨"mortar.app", level, .text text, []⟩

/-- The logging is configured three times, the second time with a level that is none. -/
def reconfigured : List Occurrence :=
  [.configure "first" (.text "Debug") true, .report (told .debug "a"),
    .configure "loud" (.text "LOUD") false, .report (told .info "b"), .attach "mine" true,
    .configure "second" (.text "warning") false, .report (told .info "c"),
    .report (told .error "d")]

theorem all_reconfigured :
    Watch.all reconfigured =
      [⟨"second", false, 30, [told .info "c", told .error "d"]⟩,
        ⟨"first", true, 10, [told .debug "a", told .info "b"]⟩] := by
  have hfirst : threshold (.text "Debug") = .ok Log.Level.debug.rank :=
    threshold_level (by decide +kernel)
  have hloud : threshold (.text "LOUD") = .error (.unknownLevel (.text "LOUD")) :=
    threshold_unknown (by decide +kernel)
  have hsecond : threshold (.text "warning") = .ok Log.Level.warning.rank :=
    threshold_level (by decide +kernel)
  simp only [Watch.all, reconfigured, List.foldl_cons, List.foldl_nil, Watch.next, hfirst, hloud,
    hsecond]
  rfl

/-- What was reported before stays on the stream of the first configuration, also what came after
the level that is none. -/
theorem one_handler_reconfigured :
    let session : Session Unit Unit := Session.start ()
    let logging := (session.hearing reconfigured).logging
    logging.handlers.filter Handler.installed = [⟨"second", false, true⟩] ∧
    logging.handlers.filter (fun handler => !handler.installed) = [⟨"mine", true, false⟩] ∧
    Assoc.find? logging.streams "first" =
      some [⟨true, told .debug "a"⟩, ⟨true, told .info "b"⟩] ∧
    Assoc.find? logging.streams "second" = some [⟨false, told .error "d"⟩] ∧
    play (configureLogging "loud" (.text "LOUD") false) session =
      (.error (.unknownLevel (.text "LOUD")), session) := by
  intro session logging
  have hnone : ∀ handler ∈ session.logging.handlers, handler.installed = false := fun _ => nofun
  have hloud : Text.upper "LOUD" ∉ thresholds.map Prod.fst := by decide +kernel
  have hopened : (reconfigured.filterMap Occurrence.opened?).Nodup := by decide
  have happart : ∀ handler ∈
      session.logging.handlers ++ reconfigured.filterMap Occurrence.attached?,
      handler.stream ∉ reconfigured.filterMap Occurrence.opened? := by decide
  obtain ⟨hfronts, -, hunknown⟩ := one_handler hnone hopened happart
  obtain ⟨hinstalled, hown, -, hstreams⟩ := hfronts reconfigured (List.prefix_refl _)
  rw [all_reconfigured] at hinstalled hstreams
  have hsecond := hstreams _ List.mem_cons_self
  have hfirst := hstreams _ (List.mem_cons_of_mem _ List.mem_cons_self)
  exact ⟨hinstalled, hown, hfirst, hsecond, hunknown "LOUD" hloud session "loud" false⟩

end Session

end SqlBuilder
