import Blockwork.Build.Load
import Blockwork.Build.Progress
import Blockwork.Build.Timings
import Blockwork.Llvm.Backend

/-!
# Builds

A build takes files one after the other through the stages: each is loaded, checked for
completeness and lowered. A file that fails does not stop the others; a build that is cancelled
leaves out the files that have not begun. Every step is reported as an event.
-/

namespace Blockwork
namespace Build

/-- What is to be built, and how. -/
structure BuildRequest where
  /-- The source files. -/
  files : List Bytes
  /-- The directory of the artifacts. -/
  directory : Bytes
  /-- What is made. -/
  kind : ArtifactKind
  /-- Whether the compiler is asked to optimize. -/
  optimize : Bool := false
  /-- Whether modules are printed. -/
  verbose : Bool := false
  /-- How many files may be worked on at once; any number if it is not positive. -/
  jobs : Int := 0
  /-- The cache. -/
  cache : Option Cache := none
  /-- The compiler; empty for the usual one. -/
  clang : Bytes := []
  /-- Whether commands are printed before they are run. -/
  printCommands : Bool := false
deriving DecidableEq, Repr

namespace BuildRequest

/-- The path of the artifact of a file. -/
def outputPath (request : BuildRequest) (file : Bytes) : Bytes :=
  request.kind.outputPath request.directory file

/-- The backend for a request. -/
def backend (request : BuildRequest) : Llvm.Backend where
  clang := request.clang
  kind := some request.kind
  printCommands := request.printCommands

/-- Refuses files that have the same artifact. `seen` are the artifacts of the files before, each
with its file. -/
def checkOutputs (request : BuildRequest) (seen : List (Bytes × Bytes)) :
    List Bytes → Except Failure Unit
  | [] => .ok ()
  | file :: rest =>
    let output := request.outputPath file
    match seen.lookup output with
    | some earlier =>
      .error (.text (earlier ++ utf8 " and " ++ file ++ utf8 " both build " ++ output))
    | none => request.checkOutputs ((output, file) :: seen) rest

end BuildRequest

/-- What came of a file. -/
structure FileResult where
  /-- The file. -/
  file : Bytes
  /-- Its artifact; empty if the work on it was not begun. -/
  output : Bytes := []
  /-- Whether it came from the cache. -/
  hit : Bool := false
  /-- Why the work on it failed. -/
  failure : Option Failure := none
deriving DecidableEq, Repr

/-- A context that a build has obtained. -/
structure Holding where
  /-- The context as it is now. -/
  context : Context
  /-- How often a backend was given it. -/
  lowerings : Nat := 0
deriving DecidableEq, Repr

/-- What came of a build. -/
structure Report where
  /-- The files, in the order of the request. -/
  files : List FileResult := []
  /-- The contexts that were obtained, in the order of their files. -/
  holdings : List Holding := []
  /-- The time spent in each stage. -/
  timings : Timings := {}
  /-- The events, in the order in which they happened. -/
  events : List ProgressEvent := []
deriving DecidableEq, Repr

/-- A build under way: its report so far, in a session. -/
abbrev Course := StateT Report Work

/-- Reports that a file has reached a state. -/
def announce (file : Bytes) (stage : Stage) (status : Status) (failure : Option Failure) :
    Course Unit :=
  modify fun report =>
    { report with events := report.events ++ [{ file, stage, status, failure }] }

/-- Adds time spent in a stage. -/
def clock (stage : Stage) (duration : Duration) : Course Unit :=
  modify fun report => { report with timings := report.timings.add stage duration }

/-- Takes over a context; the result is its place among those that were obtained. -/
def hold (context : Context) : Course Nat :=
  modifyGet fun report =>
    (report.holdings.length, { report with holdings := report.holdings ++ [{ context }] })

/-- Changes what is held at a place. -/
def alter (place : Nat) (change : Holding → Holding) : Course Unit :=
  modify fun report => { report with holdings := report.holdings.modify place change }

/-- Destroys the context that is held at a place. -/
def release (place : Nat) : Course Unit :=
  alter place fun holding => { holding with context := holding.context.destroy }

/-- Does the work of a stage: the beginning and the end are reported. -/
def inStage {α : Type} (file : Bytes) (stage : Stage) (finished : α → Status)
    (work : Course (Except Failure α)) : Course (Except Failure α) := do
  announce file stage .working none
  let started := (← getThe Session).now
  let outcome ← work
  clock stage ((← getThe Session).now.since started)
  match outcome with
  | .ok result => announce file stage (finished result) none
  | .error failure => announce file stage .error (some failure)
  pure outcome

/-- Checks a context for completeness, in a span of its own. -/
def validate (context : Context) (parent : Nat) : Work (Except Failure Unit) := do
  let span ← Work.beginSpan .pass "validate" parent
  Work.endSpan span ""
  pure context.validate

/-- Lowers a context. What is left of it, and how often the backend was given it, comes with the
outcome. -/
def lower (request : BuildRequest) (output : Bytes) (context : Context) (parent : Nat) :
    Work (Context × Nat × Except Failure Unit) := do
  let session ← get
  let backend : Backend Session := request.backend.lower output request.verbose parent
  let (left, (session, given), outcome) := context.lower (some backend.counting) (session, 0)
  set session
  pure (left, given, outcome)

/-- Lowers the context that is held at a place, and destroys what is left of it. -/
def lowerHeld (request : BuildRequest) (output : Bytes) (place : Nat) (context : Context)
    (parent : Nat) : Course (Except Failure Unit) := do
  let (left, given, outcome) ← lower request output context parent
  alter place fun holding => { context := left, lowerings := holding.lowerings + given }
  release place
  pure outcome

/-- Takes a file through the stages. -/
def buildStages (request : BuildRequest) (file : Bytes) (parent : Nat) :
    Course FileResult := do
  let output := request.outputPath file
  let result : FileResult := { file, output }
  let loaded ← inStage file .parse (fun loaded => if loaded.hit then .cached else .done)
    (load file request.optimize request.cache parent)
  match loaded with
  | .error failure => pure { result with failure := some failure }
  | .ok loaded =>
    let place ← hold loaded.context
    let result := { result with hit := loaded.hit }
    match ← inStage file .validate (fun _ => .done) (validate loaded.context parent) with
    | .error failure =>
      release place
      pure { result with failure := some failure }
    | .ok () =>
      match ← inStage file .lower (fun _ => .done)
          (lowerHeld request output place loaded.context parent) with
      | .error failure => pure { result with failure := some failure }
      | .ok () => pure result

/-- Works on a file, in a span of its own. -/
def buildFile (request : BuildRequest) (file : Bytes) (parent : Nat) : Course FileResult := do
  let span ← Work.beginSpan .driver "file" parent
  let span ← Work.annotate span "file" file
  let result ← buildStages request file (Work.within span parent)
  Work.endSpan span ""
  pure result

/-- Works on files one after the other. The result tells whether any was left out because the build
was cancelled; from then on all are. -/
def buildFiles (request : BuildRequest) (parent : Nat) (cancelled : Bool) :
    List Bytes → Course Bool
  | [] => pure cancelled
  | file :: rest => do
    if cancelled || (← Work.isCancelled) then
      let failure := Failure.ofKind .canceled
      announce file .parse .error (some failure)
      modify fun report =>
        { report with files := report.files ++ [{ file, failure := some failure }] }
      buildFiles request parent true rest
    else
      let result ← buildFile request file parent
      modify fun report => { report with files := report.files ++ [result] }
      buildFiles request parent cancelled rest

/-- The failure of a build: those of its files, except for being cancelled, and that it was
cancelled. -/
def verdict (report : Report) (cancelled : Bool) : Except Failure Unit :=
  let failures := report.files.filterMap fun result =>
    match result.failure with
    | some failure =>
      if failure.hasKind .canceled then none else some (.within result.file failure)
    | none => none
  Failure.toExcept (failures ++ if cancelled then [.ofKind .canceled] else [])

/-- Refuses a request that cannot be begun, and makes the directory of the artifacts. -/
def prepare (request : BuildRequest) : Work (Except Failure Unit) := do
  if request.files.isEmpty then pure (.error (.text (utf8 "no input files")))
  else
    match request.checkOutputs [] request.files with
    | .error failure => pure (.error failure)
    | .ok () =>
      if request.directory = [] then pure (.ok ())
      else
        let made ← Work.makeDirectories request.directory
        pure (made.mapError (.within (utf8 "failed to create output dir")))

/-- Runs a build. -/
def run (request : Option BuildRequest) (parent : Nat) : Work (Report × Except Failure Unit) := do
  match request with
  | none => pure ({}, .error (.text (utf8 "missing build request")))
  | some request =>
    match ← prepare request with
    | .error failure => pure ({}, .error failure)
    | .ok () =>
      let span ← Work.beginSpan .driver "build" parent
      let queued := request.files.map fun file =>
        { file, stage := .parse, status := .queued : ProgressEvent }
      let (cancelled, report) ←
        (buildFiles request (Work.within span parent) false request.files).run { events := queued }
      Work.endSpan span ""
      pure (report, verdict report cancelled)

end Build
end Blockwork
