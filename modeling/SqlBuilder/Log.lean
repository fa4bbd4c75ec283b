import SqlBuilder.Assoc
import SqlBuilder.Value.Reading

/-!
# Logging

Events go to loggers with dotted names. One logger is the root of the namespace that is listened to;
handlers are attached to it, and an event of its namespace is written once to the stream of each
handler if its level is high enough. Configuring the logging replaces the handler that an earlier
configuration installed and keeps those that were attached otherwise; a configuration that fails
changes nothing.
-/

namespace SqlBuilder.Log

inductive Level where
  | debug
  | info
  | warning
  | error
  | critical
deriving DecidableEq

namespace Level

def rank : Level → Nat
  | debug => 10
  | info => 20
  | warning => 30
  | error => 40
  | critical => 50

def name : Level → String
  | debug => "debug"
  | info => "info"
  | warning => "warning"
  | error => "error"
  | critical => "critical"

/-- The level at which a logging call of the given name reports. -/
def ofCall? : String → Option Level
  | "debug" => some debug
  | "info" => some info
  | "warning" | "warn" => some warning
  | "error" | "exception" => some error
  | "critical" | "fatal" => some critical
  | _ => none

end Level

/-- The ranks that a configuration can name. -/
def thresholds : List (String × Nat) :=
  [("DEBUG", 10), ("INFO", 20), ("WARNING", 30), ("WARN", 30), ("ERROR", 40), ("CRITICAL", 50),
    ("FATAL", 50), ("NOTSET", 0)]

/-- The rank that a level has by its name in any letter case. -/
def threshold (level : Value) : Except Error Nat := do
  match ← level.capitals with
  | .text name =>
      match thresholds.find? fun entry => entry.1 == name with
      | some entry => return entry.2
      | none => throw (.unknownLevel level)
  | _ => throw (.unknownLevel level)

/-- What is reported: the event itself, unless it is absent, and fields that go with it. -/
structure Event where
  logger : String
  level : Level
  event : Value
  fields : Entries

/-- The field that stands for the record that is made of an event. -/
def recordField : String := "_record"

structure Handler where
  stream : String
  json : Bool
  installed : Bool

/-- A line on a stream: the whole event where it is rendered as JSON, its level and text
elsewhere. -/
structure Line where
  json : Bool
  event : Event

structure Logging where
  rank : Nat
  handlers : List Handler
  streams : List (String × List Line)

def Logging.silent : Logging :=
  ⟨0, [], []⟩

def root : String := "mortar"

/-- The rank that holds where none is set. -/
def inheritedRank : Nat := 30

/-- Whether a logger belongs to the namespace of the root. -/
def inNamespace (logger : String) : Bool :=
  logger == root || (root ++ ".").toList.isPrefixOf logger.toList

namespace Logging

/-- The rank from which on events are written. -/
def effectiveRank (logging : Logging) : Nat :=
  if logging.rank == 0 then inheritedRank else logging.rank

/-- Whether an event is of a level that its logger passes on. -/
def passes (logging : Logging) (event : Event) : Bool :=
  (if inNamespace event.logger then logging.effectiveRank else inheritedRank) ≤ event.level.rank

def appendLine (streams : List (String × List Line)) (stream : String) (line : Line) :
    List (String × List Line) :=
  streams.map fun entry =>
    if entry.1 == stream then (entry.1, entry.2 ++ [line]) else entry

/-- Replaces the installed handler and sets the rank. -/
def configure (logging : Logging) (stream : String) (level : Value) (json : Bool) :
    Except Error Logging := do
  let rank ← threshold level
  return {
    rank
    handlers := logging.handlers.filter (fun handler => !handler.installed) ++
      [⟨stream, json, true⟩]
    streams := Assoc.place logging.streams stream [] }

/-- Writes an event to every handler, if its logger and its level are listened to. -/
def emit (logging : Logging) (event : Event) : Logging :=
  if inNamespace event.logger && logging.passes event then
    { logging with
      streams := logging.handlers.foldl
        (fun streams handler => appendLine streams handler.stream ⟨handler.json, event⟩)
        logging.streams }
  else logging

/-- Writes an event whose fields come from outside. What stands in the place of the record that is
made of an event is asked for the name of its logger, and no value has one. -/
def report (logging : Logging) (event : Event) : Except Error Logging :=
  match event.fields.read recordField with
  | .null => .ok (logging.emit event)
  | _ => if logging.passes event then .error .noAttribute else .ok logging

end Logging

/-- Fields that ask for an account of a failure or of the calls under way, and fields that the
logging marks its records with: none of them reaches a line. -/
def hiddenFields : List String :=
  ["exc_info", "stack_info", recordField, "_from_structlog"]

def among (names : List String) (entry : Value × Value) : Bool :=
  names.any fun name => entry.1.same (.text name)

/-- What an event says: its fields, and over them the event itself. -/
def Event.said (event : Event) : Entries :=
  match event.event with
  | .null => event.fields
  | said => Entries.put event.fields (.text "event") said

/-- What a JSON line shows: what the event says, its logger and its level. -/
def Event.entries (event : Event) : Entries :=
  (Entries.update event.said
    [(.text "logger", .text event.logger), (.text "level", .text event.level.name)]).filter
      fun entry => !among hiddenFields entry

/-- What a console line shows. -/
def Event.summary (event : Event) : Entries :=
  [(.text "level", .text event.level.name),
    (.text "event", (Entries.find? event.said (.text "event")).getD (.text ""))]

def Line.entries (line : Line) : Entries :=
  if line.json then line.event.entries else line.event.summary

/-- Names that are taken by what a logger is made of. -/
def loggerNames : List String :=
  ["name", "logger", "processors", "wrapper_class", "cache_logger_on_first_use"]

/-- Names of settings of a logger that are no part of its context. -/
def settingNames : List String :=
  ["context_class", "logger_factory_args"]

/-- Names that are taken by what a report is made of. -/
def reportNames : List String :=
  ["event", "self", "method_name"]

/-- The context of a logger, as it is given with the logger's settings. A context is always kept in
the same way, so no other way can be set. -/
def contextOf (given : Entries) : Except Error Entries :=
  if given.any (among loggerNames) || (given.read "context_class").truthy then .error .wrongKind
  else .ok (given.filter fun entry => !among settingNames entry)

/-- The fields of an event on a logger with a context: the event's own win. -/
def withContext (context fields : Entries) : Except Error Entries :=
  if fields.any (among reportNames) then .error .wrongKind
  else .ok (Entries.update context fields)

end SqlBuilder.Log
