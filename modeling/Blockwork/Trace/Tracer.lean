import Blockwork.Trace.Ring

/-!
# Tracers

A tracer takes events. It may write each at once, keep the most recent, do both, or do nothing.
Every event that is taken gets a number, one for each place that takes it, so a number is never
given twice.

Writing happens elsewhere: a tracer only says what is to be written and where.
-/

namespace Blockwork
namespace Trace

/-- A place that text can be written to. -/
inductive Place where
  /-- The error output of the program. -/
  | errorOutput
  /-- A file. -/
  | file (path : Bytes)
  /-- A buffer in memory. -/
  | memory
  /-- A place that takes nothing. -/
  | broken
deriving DecidableEq, Repr

/-- How a place is told to pass on what it holds back. -/
inductive Flushing where
  /-- It holds nothing back. -/
  | unneeded
  /-- It is synchronized. -/
  | sync
  /-- It is flushed, which may fail. -/
  | flush (fails : Bool)
deriving DecidableEq, Repr

/-- A place that text can be written to, and how it is treated. -/
structure Sink where
  /-- The place. -/
  place : Place
  /-- How it is flushed. -/
  flushing : Flushing := .unneeded
  /-- Whether it is closed at the end. -/
  closes : Bool := false
deriving DecidableEq, Repr

namespace Sink

/-- The error output stays open. -/
def errorOutput : Sink := { place := .errorOutput }

/-- A file is synchronized and closed. -/
def file (path : Bytes) : Sink := { place := .file path, flushing := .sync, closes := true }

end Sink

/-- What is asked of a sink. -/
inductive Request where
  /-- To take text. -/
  | write (text : Bytes)
  /-- To pass on what it holds back. -/
  | flush
  /-- To make sure that it has arrived. -/
  | sync
  /-- To take no more. -/
  | close
deriving DecidableEq, Repr

/-- The word for a request. -/
def Request.name : Request → String
  | .write _ => "write"
  | .flush => "flush"
  | .sync => "sync"
  | .close => "close"

/-- A tracer that writes each event at once. -/
structure Stream where
  /-- How much is written. -/
  level : Level
  /-- How it is written. -/
  format : Format
  /-- The instant from which time is counted. -/
  start : Instant
  /-- Where it is written. -/
  sink : Sink
  /-- Whether the sink has been closed. -/
  closed : Bool := false
deriving DecidableEq, Repr

namespace Stream

/-- What is said by a file that has been closed. -/
def closedFailure? (stream : Stream) (action : String) : Option Failure :=
  match stream.sink.place with
  | .file path => if stream.closed then some (.file ⟨action, path, .closed⟩) else none
  | _ => none

/-- Passes on what the sink holds back. -/
def flush (stream : Stream) : List Request × Except Failure Unit :=
  match stream.sink.flushing with
  | .unneeded => ([], .ok ())
  | .sync =>
    match stream.closedFailure? "sync" with
    | some failure => ([], .error failure)
    | none => ([.sync], .ok ())
  | .flush fails => ([.flush], if fails then .error (.text (utf8 "flush failed")) else .ok ())

/-- Flushes the sink and closes it, unless flushing fails. -/
def close (stream : Stream) : Stream × List Request × Except Failure Unit :=
  match stream.flush with
  | (requests, .error failure) => (stream, requests, .error failure)
  | (requests, .ok ()) =>
    if stream.sink.closes then ({ stream with closed := true }, requests ++ [.close], .ok ())
    else (stream, requests, .ok ())

end Stream

/-- One place that takes events. -/
inductive Target where
  /-- The most recent events are kept. -/
  | ring (ring : Ring)
  /-- Each event is written at once. -/
  | stream (stream : Stream)

namespace Target

/-- How much a target takes. -/
def level : Target → Level
  | .ring kept => kept.level
  | .stream written => written.level

/-- The target after it has been given a numbered event, and what it asks of its sink. -/
def take (target : Target) (event : Event) : Target × List (Sink × Request) :=
  match target with
  | .ring kept => (.ring (kept.push event), [])
  | .stream written =>
    let text := event.render written.format written.start
    (target, if written.closed then [] else [(written.sink, .write text)])

/-- Adds a value to what is attached to the ends of a span that are kept. -/
def annotate (span : Nat) (key value : Bytes) : Target → Target
  | .ring kept =>
    .ring (kept.map fun event =>
      match event.extra with
      | .ofSpan pairs =>
        if event.span = span then { event with extra := .ofSpan (assign key value pairs) }
        else event
      | _ => event)
  | target => target

/-- Flushes the sink of a target. -/
def flush : Target → List (Sink × Request) × Except Failure Unit
  | .ring _ => ([], .ok ())
  | .stream written =>
    let (requests, outcome) := written.flush
    (requests.map (written.sink, ·), outcome)

/-- Closes the sink of a target. -/
def close : Target → Target × List (Sink × Request) × Except Failure Unit
  | .ring kept => (.ring kept, [], .ok ())
  | .stream written =>
    let (written, requests, outcome) := written.close
    (.stream written, requests.map (written.sink, ·), outcome)

end Target

/-- What takes events. -/
inductive Tracer where
  /-- Nothing is traced. -/
  | off
  /-- One target takes them. -/
  | single (target : Target)
  /-- Several targets take them, each by its own level; the level of the whole decides what is
  traced at all. -/
  | fan (level : Level) (targets : List Target)

namespace Tracer

/-- How much is traced. -/
def level : Tracer → Level
  | .off => .off
  | .single target => target.level
  | .fan level _ => level

/-- Whether anything is traced. -/
def enabled (tracer : Tracer) : Bool := tracer.level.enabled

/-- The word for the way a tracer works. -/
def name : Tracer → String
  | .off => "nop"
  | .single (.ring _) => "ring"
  | .single (.stream _) => "stream"
  | .fan _ _ => "multi"

/-- The targets of a tracer. -/
def targets : Tracer → List Target
  | .off => []
  | .single target => [target]
  | .fan _ targets => targets

/-- The tracer with other targets. -/
def withTargets : Tracer → List Target → Tracer
  | .single _, [target] => .single target
  | .fan level _, targets => .fan level targets
  | tracer, _ => tracer

/-- The first ring among the targets. -/
def ring? (tracer : Tracer) : Option Ring :=
  tracer.targets.findSome? fun
    | .ring kept => some kept
    | .stream _ => none

/-- The events that a tracer keeps, oldest first. -/
def events (tracer : Tracer) : List Event :=
  match tracer.ring? with
  | some ring => ring.toList
  | none => []

/-- Adds a value to what is attached to the ends of a span that are kept. -/
def annotate (tracer : Tracer) (span : Nat) (key value : Bytes) : Tracer :=
  tracer.withTargets (tracer.targets.map (Target.annotate span key value))

end Tracer

/-- What a tracer is to be. -/
structure Settings where
  /-- How much is traced. -/
  level : Level
  /-- Where events are kept; zero stands for a stream. -/
  storage : Storage := ⟨0⟩
  /-- How they are written. -/
  format : Format := .auto
  /-- Where they are written; if it is left open, the path decides. -/
  sink : Option Sink := none
  /-- The path of the output; empty or a dash for the error output. -/
  path : Bytes := []
  /-- How many events are kept. -/
  ringSize : Int := 0
deriving DecidableEq, Repr

namespace Settings

/-- The way events are kept when none is chosen is a stream. -/
def resolvedStorage (settings : Settings) : Storage :=
  if settings.storage = ⟨0⟩ then .stream else settings.storage

/-- Whether events are written. -/
def writes (settings : Settings) : Bool :=
  settings.level ≠ .off &&
    (settings.resolvedStorage = .stream || settings.resolvedStorage = .both)

/-- Where events are written. -/
def resolvedSink (settings : Settings) : Sink :=
  match settings.sink with
  | some sink => sink
  | none =>
    if settings.path = [] ∨ settings.path = utf8 "-" then .errorOutput else .file settings.path

/-- The file that has to be created before events can be written. -/
def outputFile? (settings : Settings) : Option Bytes :=
  if settings.writes && settings.sink = none then
    match settings.resolvedSink.place with
    | .file path => some path
    | _ => none
  else none

/-- The tracer for the settings. -/
def tracer (settings : Settings) (now : Instant) : Except Failure Tracer :=
  let stream : Stream := {
    level := settings.level
    format := settings.format.resolve settings.path
    start := now
    sink := settings.resolvedSink }
  let ring := Ring.empty settings.ringSize settings.level
  if settings.level = .off then .ok .off
  else if settings.resolvedStorage = .stream then .ok (.single (.stream stream))
  else if settings.resolvedStorage = .ring then .ok (.single (.ring ring))
  else if settings.resolvedStorage = .both then
    .ok (.fan settings.level [.stream stream, .ring ring])
  else .error (.text (utf8 ("unknown storage mode: " ++ settings.resolvedStorage.name)))

end Settings
end Trace
end Blockwork
