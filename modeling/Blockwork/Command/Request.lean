import Blockwork.Build.Run
import Blockwork.Command.Invocation
import Blockwork.Project.Manifest
import Blockwork.View.Choice

/-!
# What the command line asks to build

Files named on the command line are built as its flags say. If none is named, the manifest of the
project tells the files, and decides whatever the flags leave open.
-/

namespace Blockwork
namespace Command

/-- The flags for building. -/
structure BuildFlags where
  /-- The directory of the artifacts. -/
  outDir : Bytes
  /-- Whether that directory was given. -/
  givesOutDir : Bool
  /-- Whether the compiler is asked to optimize. -/
  optimize : Bool
  /-- Whether that was decided. -/
  givesOptimize : Bool
  /-- Whether textual LLVM is made. -/
  emitLlvm : Bool
  /-- Whether assembly is made. -/
  emitAssembly : Bool
  /-- Whether modules are printed. -/
  verbose : Bool
  /-- How many files may be worked on at once. -/
  jobs : Int
  /-- Whether that number was given. -/
  givesJobs : Bool
  /-- Whether the cache is left alone. -/
  noCache : Bool
  /-- The setting of the progress view. -/
  view : Bytes
  /-- Whether commands are printed before they are run. -/
  printCommands : Bool
  /-- The compiler. -/
  clang : Bytes
deriving DecidableEq, Repr

namespace BuildFlags

/-- The flags for building among all flags. -/
def ofFlags (flags : Flags) : BuildFlags where
  outDir := flags.text "out-dir"
  givesOutDir := flags.isChanged "out-dir"
  optimize := flags.truth "optimize"
  givesOptimize := flags.isChanged "optimize"
  emitLlvm := flags.truth "emit-llvm"
  emitAssembly := flags.truth "emit-asm"
  verbose := flags.truth "verbose"
  jobs := flags.integer "jobs"
  givesJobs := flags.isChanged "jobs"
  noCache := flags.truth "no-cache"
  view := flags.text "ui"
  printCommands := flags.truth "print-commands"
  clang := flags.text "clang"

/-- Refuses flags that contradict each other, and reads the setting of the progress view. -/
def check (flags : BuildFlags) : Except Failure View.Choice :=
  if flags.emitLlvm ∧ flags.emitAssembly then
    .error (.text (utf8 "--emit-llvm and --emit-asm are mutually exclusive"))
  else if flags.jobs < 0 then .error (.text (utf8 "--jobs must not be negative"))
  else View.Choice.parse flags.view

/-- The word for what the flags ask to make; empty if they leave it open. -/
def emit (flags : BuildFlags) : Bytes :=
  if flags.emitLlvm then utf8 "llvm" else if flags.emitAssembly then utf8 "asm" else []

/-- The request for files, with the word for what is made. -/
def request (flags : BuildFlags) (files : List Bytes) (emit : Bytes) :
    Except Failure Build.BuildRequest := do
  let kind ← ArtifactKind.parse emit
  pure {
    files
    directory := if flags.outDir = [] then Path.here else flags.outDir
    kind
    optimize := flags.optimize
    verbose := flags.verbose
    jobs := flags.jobs
    clang := flags.clang
    printCommands := flags.printCommands }

/-- The flags with what a manifest decides of those that were left open. -/
def merge (flags : BuildFlags) (manifest : Project.Manifest) : BuildFlags :=
  { flags with
    outDir := if flags.givesOutDir then flags.outDir else manifest.outDir
    optimize :=
      if ¬flags.givesOptimize ∧ manifest.defines "optimize" then manifest.settings.optimize
      else flags.optimize
    jobs :=
      if ¬flags.givesJobs ∧ manifest.defines "jobs" then manifest.settings.jobs else flags.jobs }

end BuildFlags

/-- The failure of a build without files. -/
def noFiles : Failure :=
  .text (utf8 ("no input files and no pcb.toml found\nplease name the files to build, e.g.:\n" ++
    "  pcb build prog.pcb"))

/-- What is to be built, and the directory from which paths are shown. -/
def buildRequest (flags : BuildFlags) (arguments : List Bytes) (disk : Disk)
    (workingDirectory : Location) : Except Failure (Build.BuildRequest × Bytes) := do
  if arguments ≠ [] then
    let request ← flags.request arguments flags.emit
    pure (request, workingDirectory.text)
  else
    match ← Project.Manifest.find disk workingDirectory Path.here with
    | none => throw noFiles
    | some path =>
      let manifest ← Project.Manifest.load disk workingDirectory path
      let files ← manifest.files disk
      let emit :=
        if flags.emit = [] ∧ manifest.defines "emit" then manifest.settings.emit else flags.emit
      let request ← (flags.merge manifest).request files emit
      pure (request, manifest.root)

/-- Refuses a request that needs a compiler that is missing. -/
def checkToolchain (request : Build.BuildRequest) : Work (Except Failure Unit) :=
  if request.kind = .llvm then pure (.ok ())
  else { clang := request.clang : Llvm.Backend }.ensureCompiler

/-- A path as it is shown: relative to a directory if it lies inside. -/
def shownPath (workingDirectory root path : Bytes) : Bytes :=
  if root = [] ∨ path = [] then path
  else
    match Path.relative? root (Path.absolute workingDirectory path) with
    | none => path
    | some shown => if Bytes.beginsWith Path.above shown then path else shown

end Command
end Blockwork
