import Blockwork.Command.Request
import Blockwork.Json.Quoted
import Blockwork.Program.Listing
import Blockwork.Program.Sample
import Blockwork.Snapshot.Codec
import Blockwork.Source.Snippet
import Blockwork.Version

/-!
# Running a command line

A command line is understood, then its colours and its tracing are set up, then it is done, and at
last the tracer is closed and a failure is reported. The result is the status of the program.
-/

namespace Blockwork
namespace Command

/-- Whether output is coloured, as the flag says or, if that leaves it open, as the session says. -/
def chooseColor (flags : Flags) (session : Session) : Except Failure Bool :=
  let setting := flags.text "color"
  if setting = utf8 "auto" then .ok (session.terminal && !session.plain)
  else if setting = utf8 "on" then .ok true
  else if setting = utf8 "off" then .ok false
  else
    .error (.text (utf8 "invalid --color value " ++ Text.Quoted.text setting ++
      utf8 " (expected auto|on|off)"))

/-- What is to be traced. An output without a level implies the level of phases. -/
def traceLevel (flags : Flags) : Except Failure Trace.Level := do
  let level ← (Trace.Level.parse (flags.text "trace-level")).mapError
    (.within (utf8 "invalid trace level"))
  if level = .off ∧ flags.text "trace" ≠ [] ∧ ¬flags.isChanged "trace-level" then pure .phase
  else pure level

/-- The tracer that the flags ask for; none if nothing is traced. -/
def traceSettings (flags : Flags) : Except Failure (Option Trace.Settings) := do
  let level ← traceLevel flags
  if level = .off then pure none
  else
    let format ← (Trace.Format.parse (flags.text "trace-format")).mapError
      (.within (utf8 "invalid trace format"))
    let storage ← (Trace.Storage.parse (flags.text "trace-mode")).mapError
      (.within (utf8 "invalid trace mode"))
    pure (some {
      level
      storage
      format
      path := flags.text "trace"
      ringSize := flags.integer "trace-ring-size" })

/-- Begins tracing; the result is the format in which kept events are repeated at the end. -/
def beginTracing (flags : Flags) : Work (Except Failure (Option Trace.Format)) := do
  match traceSettings flags with
  | .error failure => pure (.error failure)
  | .ok none => pure (.ok none)
  | .ok (some settings) =>
    match ← Work.openTracer settings with
    | .error failure => pure (.error (.within (utf8 "failed to create tracer") failure))
    | .ok () => pure (.ok (some settings.format))

/-- Ends tracing. -/
def endTracing : Option Trace.Format → Work Unit
  | none => pure ()
  | some format => do
    let write (text : Bytes) : Work (Except Failure Unit) := do
      Work.printError text
      pure (.ok ())
    match ← Work.closeTracer write format with
    | .ok () => pure ()
    | .error failure => Work.printError (utf8 "trace: " ++ failure.message ++ utf8 "\n")

/-- Opens the cache, unless it is to be left alone. One that cannot be opened is done without. -/
def openCache (flags : BuildFlags) (quiet : Bool) : Work (Option Cache) := do
  if flags.noCache then pure none
  else
    match ← Cache.openFor "pcb" with
    | .ok cache => pure (some cache)
    | .error failure =>
      if !quiet then
        Work.printError (utf8 "warning: snapshot cache disabled: " ++ failure.message ++ utf8 "\n")
      pure none

/-- The line about a file that was built. -/
def builtLine (workingDirectory root : Bytes) (result : Build.FileResult) : Bytes :=
  utf8 "built " ++ shownPath workingDirectory root result.output ++
    utf8 (if result.hit then " (cached)\n" else "\n")

/-- Builds files. -/
def build (flags : Flags) (arguments : List Bytes) : Work (Except Failure Unit) := do
  let session ← get
  let quiet := flags.truth "quiet"
  let chosen := BuildFlags.ofFlags flags
  let prepared := do
    let _ ← chosen.check
    buildRequest chosen arguments session.disk session.workingDirectory
  match prepared with
  | .error failure => pure (.error failure)
  | .ok (request, root) =>
    match ← checkToolchain request with
    | .error failure => pure (.error failure)
    | .ok () =>
      let cache ← openCache chosen quiet
      let (report, outcome) ← Build.run (some { request with cache }) 0
      if flags.truth "timings" then Work.print report.timings.text
      if !quiet then
        for result in report.files do
          if result.failure.isNone then
            Work.print (builtLine session.workingDirectory.text root result)
      pure outcome

/-- Writes the snapshot of a context to a file. -/
def packTo (path : Bytes) (context : Context) (quiet : Bool) : Work (Except Failure Unit) := do
  match context.marshal with
  | none => pure (.error (.text (utf8 "types: invalid TypeID")))
  | some bytes =>
    match ← Work.writeFile path bytes with
    | .error failure => pure (.error (.within (utf8 "failed to write snapshot") failure))
    | .ok () =>
      if !quiet then
        Work.print (utf8 "wrote " ++ path ++ utf8 " (" ++ Bytes.decimal bytes.length ++
          utf8 " bytes, " ++ Bytes.decimal context.functionCount ++ utf8 " functions)\n")
      pure (.ok ())

/-- Prints a context. -/
def printContext (context : Context) : Work (Except Failure Unit) := do
  match context.dump with
  | .error fault => pure (.error (.fault fault))
  | .ok text =>
    Work.print text
    pure (.ok ())

/-- Prints a file in its usual form, or writes its snapshot. -/
def dump (flags : Flags) (path : Bytes) : Work (Except Failure Unit) := do
  match ← Build.load path false none 0 with
  | .error failure => pure (.error failure)
  | .ok loaded =>
    let checked := if flags.truth "check" then loaded.context.validate else .ok ()
    match checked with
    | .error failure => pure (.error failure)
    | .ok () =>
      let target := flags.text "pack"
      if target = [] then printContext loaded.context
      else packTo target loaded.context (flags.truth "quiet")

/-- Lowers a context to a file whose name tells the kind of artifact. -/
def lowerTo (output : Bytes) (verbose : Bool) (context : Context) :
    Work (Except Failure Unit) := do
  let session ← get
  let backend : Llvm.Backend := {}
  let (_, session, outcome) := context.lower (some (backend.lower output verbose 0)) session
  set session
  pure (outcome.mapError (.within (utf8 "lower " ++ output)))

/-- Builds the sample program, prints it, and lowers it if an output is given. -/
def sample (flags : Flags) : Work (Except Failure Unit) := do
  let (built, context) :=
    (Sample.fooMain (flags.truth "split")).run.run (Context.new (flags.truth "optimize"))
  match built with
  | .error failure => pure (.error failure)
  | .ok () =>
    let printed ← if flags.truth "quiet" then pure (.ok ()) else printContext context
    match printed with
    | .error failure => pure (.error failure)
    | .ok () =>
      let output := flags.text "output"
      if output = [] then pure (.ok ()) else lowerTo output (flags.truth "verbose") context

/-- The version as a record. -/
def versionRecord (version : Version) : Bytes :=
  let optional (name : String) (value : Bytes) : List (String × Bytes) :=
    if value = [] then [] else [(name, value)]
  let fields := [("tool", utf8 "pcb"), ("version", version.text)] ++
    optional "git_commit" version.revision ++ optional "build_date" version.date
  let lines := fields.map fun (name, value) =>
    utf8 ("  \"" ++ name ++ "\": ") ++ Json.quoted value
  utf8 "\x7b\n" ++ Bytes.join (utf8 ",\n") lines ++ utf8 "\n\x7d\n"

/-- Tells the version. -/
def version (flags : Flags) (colored : Bool) : Work (Except Failure Unit) := do
  let format := Text.lower (flags.text "format")
  if format = utf8 "pretty" then
    Work.print (({} : Version).info colored ++ utf8 "\n")
    pure (.ok ())
  else if format = utf8 "json" then
    Work.print (versionRecord {})
    pure (.ok ())
  else
    pure (.error (.text (utf8 "unsupported format " ++ Text.Quoted.text (flags.text "format") ++
      utf8 " (must be pretty or json)")))

/-- What the program says about itself. -/
def description : Bytes :=
  utf8 ("pcb builds, inspects and lowers programs written in the pcb textual IR\n\n" ++
    "Commands: build, dump, example, version\n")

/-- Does what a verb says. -/
def perform (invocation : Invocation) (colored : Bool) : Work (Except Failure Unit) :=
  match invocation.verb with
  | some .build => build invocation.flags invocation.arguments
  | some .dump => dump invocation.flags (invocation.arguments.headD [])
  | some .sample => sample invocation.flags
  | some .version => version invocation.flags colored
  | _ => do
    Work.print description
    pure (.ok ())

/-- Reports a failure, and shows the line of the source that is at fault. -/
def report (colored : Bool) (failure : Failure) : Work Unit := do
  Work.printError (Color.red.bold colored (utf8 "error:") ++ utf8 " " ++ failure.message ++
    utf8 "\n")
  match failure.source? with
  | none => pure ()
  | some (spot, _, _) =>
    let snippet := spot.snippet
    if snippet ≠ [] then Work.printError (snippet ++ utf8 "\n")

/-- Does an invocation between the beginning and the end of its tracing. The result tells also
whether output is coloured. -/
def carryOut (invocation : Invocation) (colored : Bool) : Work (Bool × Except Failure Unit) := do
  match invocation.checkArguments, chooseColor invocation.flags (← get) with
  | .error failure, _ => pure (colored, .error failure)
  | .ok (), .error failure => pure (colored, .error failure)
  | .ok (), .ok colored =>
    match ← beginTracing invocation.flags with
    | .error failure => pure (colored, .error failure)
    | .ok format =>
      let outcome ← perform invocation colored
      endTracing format
      pure (colored, outcome)

/-- Runs the words of a command line; the result is the status of the program. -/
def run (words : List Bytes) : Work Nat := do
  let session ← get
  let colored := session.terminal && !session.plain
  let (colored, outcome) ← match Invocation.parse words with
    | .error failure => pure (colored, .error failure)
    | .ok invocation =>
      if invocation.flags.truth "help" then
        Work.print description
        pure (colored, .ok ())
      else if invocation.verb.isNone && invocation.flags.truth "version" then
        Work.print (title none ++ utf8 " version " ++ ({} : Version).text ++ utf8 "\n")
        pure (colored, .ok ())
      else if invocation.verb.isNone then
        Work.print description
        pure (colored, .ok ())
      else carryOut invocation colored
  match outcome with
  | .ok () => pure 0
  | .error failure =>
    report colored failure
    pure 1

end Command
end Blockwork
