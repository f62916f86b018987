import Blockwork.Files.Disk
import Blockwork.Trace.Journal

/-!
# Sessions

A session is everything that a command can see and change: the disk, its outputs, the tools that
can be started, the journal, and whether it has been cancelled. Work is a step from session to
session, so what it does can be read off the sessions before and after.
-/

namespace Blockwork

/-- What a tool does when it is started. -/
structure Tool where
  /-- The status with which it ends; zero is success. -/
  status : Nat := 0
  /-- What it prints. -/
  output : Bytes := []
  /-- What it prints about errors. -/
  complaint : Bytes := []
deriving DecidableEq, Repr

/-- What does not change during a session. -/
structure Environment where
  /-- The directory from which relative paths are followed. -/
  workingDirectory : Location := []
  /-- The tools that can be started, by name or path. -/
  tools : Bytes → Option Tool := fun _ => none
  /-- How often the session can be asked whether it is cancelled before it is; never if absent. -/
  cancelAfter : Option Nat := none
  /-- The instant of the session. -/
  now : Instant := .unset
  /-- The directory for temporary files. -/
  scratch : Bytes := utf8 "/tmp"
  /-- The directory for caches, if it is set. -/
  cacheHome : Bytes := []
  /-- The home directory, if it is known. -/
  home : Bytes := []
  /-- Whether the output is a terminal. -/
  terminal : Bool := false
  /-- Whether colours are unwelcome. -/
  plain : Bool := false

/-- Everything that a command can see and change. -/
structure Session extends Environment where
  /-- The disk. -/
  disk : Disk := {}
  /-- What has been printed. -/
  output : Bytes := []
  /-- What has been printed about errors. -/
  errorOutput : Bytes := []
  /-- What has been written to the buffer in memory. -/
  memory : Bytes := []
  /-- What else has been asked of the buffer in memory. -/
  requests : List Trace.Request := []
  /-- The state of tracing. -/
  journal : Trace.Journal := {}
  /-- How often it has been asked whether the session is cancelled. -/
  asked : Nat := 0

/-- A step from session to session. -/
abbrev Work := StateM Session

namespace Session

/-- Does what a tracer asks of a sink. -/
def deliver (session : Session) (sink : Trace.Sink) (request : Trace.Request) : Session :=
  match sink.place, request with
  | .errorOutput, .write text => { session with errorOutput := session.errorOutput ++ text }
  | .file path, .write text =>
    { session with disk := session.disk.appendFile session.workingDirectory path text }
  | .memory, .write text => { session with memory := session.memory ++ text }
  | .memory, request => { session with requests := session.requests ++ [request] }
  | _, _ => session

/-- Whether the session is cancelled when it is asked for the n-th time, counted from zero. -/
def cancelledAt (session : Session) (asked : Nat) : Bool :=
  match session.cancelAfter with
  | none => false
  | some limit => limit ≤ asked

end Session

namespace Work

/-- Changes the journal and does what it asks of sinks. -/
def journaled {α : Type} (step : StateM Trace.Journal α) : Work α := do
  let session ← get
  let (result, journal) := step.run session.journal
  let quiet := { session with journal := { journal with outbox := [] } }
  set (journal.outbox.foldl (fun session (sink, request) => session.deliver sink request) quiet)
  pure result

/-- Prints. -/
def print (text : Bytes) : Work Unit :=
  modify fun session => { session with output := session.output ++ text }

/-- Prints about errors. -/
def printError (text : Bytes) : Work Unit :=
  modify fun session => { session with errorOutput := session.errorOutput ++ text }

/-- Asks whether the session is cancelled. -/
def isCancelled : Work Bool := do
  let session ← get
  set { session with asked := session.asked + 1 }
  pure (session.cancelledAt session.asked)

/-- Reads a file. -/
def readFile (path : Bytes) : Work (Except Failure Bytes) := do
  let session ← get
  pure ((session.disk.content session.workingDirectory path).mapError .file)

/-- Changes the disk, if that is possible. -/
def changeDisk (change : Disk → Location → Except FileError Disk) : Work (Except Failure Unit) := do
  let session ← get
  match change session.disk session.workingDirectory with
  | .error error => pure (.error (.file error))
  | .ok disk =>
    set { session with disk }
    pure (.ok ())

/-- Writes a file. -/
def writeFile (path content : Bytes) : Work (Except Failure Unit) :=
  changeDisk fun disk workingDirectory => disk.writeFile workingDirectory path content

/-- Makes a directory and all those above it, as far as they are missing. -/
def makeDirectories (path : Bytes) : Work (Except Failure Unit) :=
  changeDisk fun disk workingDirectory => disk.makeDirectories workingDirectory path

/-- Begins a span. -/
def beginSpan (scope : Trace.Scope) (name : String) (parent : Nat) : Work Trace.Span := do
  let session ← get
  journaled (Trace.Journal.begin scope (utf8 name) parent session.now)

/-- Attaches a value to a span. -/
def annotate (span : Trace.Span) (key : String) (value : Bytes) : Work Trace.Span :=
  journaled (Trace.Journal.annotate span (utf8 key) value)

/-- Ends a span. -/
def endSpan (span : Trace.Span) (detail : String) : Work Unit := do
  let session ← get
  journaled (Trace.Journal.finish span (utf8 detail) session.now)

/-- Reports that something happens. -/
def point (scope : Trace.Scope) (name detail : Bytes) (parent : Nat) : Work Unit := do
  let session ← get
  journaled (Trace.Journal.point scope name detail parent session.now)

/-- Reports that something fails. -/
def traceError (name : String) (failure : Failure) (parent : Nat) : Work Unit := do
  let session ← get
  journaled (Trace.Journal.error (utf8 name) failure parent session.now)

/-- The span around what happens in a span: the span itself, or the one around it if it is left
out. -/
def within (span : Trace.Span) (parent : Nat) : Nat := if span.id = 0 then parent else span.id

/-- Replaces the tracer by one for the given settings; the old one stays if that fails. -/
def openTracer (settings : Trace.Settings) : Work (Except Failure Unit) := do
  let session ← get
  match settings.tracer session.now with
  | .error failure => pure (.error failure)
  | .ok tracer =>
    let created ← match settings.outputFile? with
      | some path => writeFile path []
      | none => pure (.ok ())
    match created with
    | .error failure => pure (.error (.within (utf8 "failed to open trace output") failure))
    | .ok () =>
      modify fun session => { session with journal := { session.journal with tracer } }
      pure (.ok ())

/-- Writes pieces of text one after the other, up to the first that fails. -/
def writeAll (write : Bytes → Work (Except Failure Unit)) :
    List Bytes → Work (Except Failure Unit)
  | [] => pure (.ok ())
  | text :: rest => do
    match ← write text with
    | .error failure => pure (.error failure)
    | .ok () => writeAll write rest

/-- Repeats the events that were kept, then flushes and closes the tracer. -/
def closeTracer (write : Bytes → Work (Except Failure Unit)) (format : Trace.Format) :
    Work (Except Failure Unit) := do
  let named (label : String) (outcome : Except Failure Unit) : Except Failure Unit :=
    outcome.mapError (.within (utf8 label))
  let repeated ← match (← get).journal.tracer.ring? with
    | some ring => writeAll write (ring.lines format)
    | none => pure (.ok ())
  let flushed ← journaled Trace.Journal.flush
  let closed ← journaled Trace.Journal.close
  pure (Failure.joinOutcomes [named "dump" repeated, named "flush" flushed, named "close" closed])

end Work
end Blockwork
