import Blockwork.Llvm.Artifact
import Blockwork.Llvm.Emit
import Blockwork.Llvm.Text
import Blockwork.Program.Lowering
import Blockwork.Session

/-!
# The LLVM backend

A complete context becomes a module. Textual LLVM is written as it is; for an object file or
assembly the module goes to a temporary file and a compiler is started on it, and if that fails a
second one. What is emitted is traced step by step.
-/

namespace Blockwork
namespace Llvm

/-- An error of emission as a failure. -/
def EmitError.toFailure : EmitError → Failure
  | .failed failure => failure
  | error => .text error.message

/-- Traces a step of emission. -/
def trace (parent : Nat) : Note → Work Unit
  | .function name signature => Work.point .function (utf8 "func:" ++ name) signature parent
  | .value id mnemonic => Work.point .value (valueName id) mnemonic parent

/-- Emits the module of a context, tracing each step. -/
def emitTraced (context : Context) (parent : Nat) : Work (Except EmitError Module) := do
  let session ← get
  let emission := emit context fun asked => session.cancelledAt (session.asked + asked)
  set { session with asked := session.asked + emission.consultations }
  for note in emission.notes do
    trace parent note
  pure emission.outcome

/-- How the backend is set up. -/
structure Backend where
  /-- The compiler; empty for the usual one. -/
  clang : Bytes := []
  /-- The compiler that is tried when the first fails; empty for the usual one. -/
  llc : Bytes := []
  /-- What is made; if it is left open, the name of the output decides. -/
  kind : Option ArtifactKind := none
  /-- Whether commands are printed before they are run. -/
  printCommands : Bool := false
deriving DecidableEq, Repr

namespace Backend

/-- The name of the compiler. -/
def compiler (backend : Backend) : Bytes :=
  if backend.clang = [] then utf8 "clang" else backend.clang

/-- The name of the compiler that is tried when the first fails. -/
def fallback (backend : Backend) : Bytes :=
  if backend.llc = [] then utf8 "llc" else backend.llc

/-- What is made for an output. -/
def kindFor (backend : Backend) (output : Bytes) : ArtifactKind :=
  backend.kind.getD (.ofPath output)

/-- A name without a slash is searched for, a path is not. -/
def isSearched (name : Bytes) : Bool := !name.contains Path.slash

/-- The failure to find a tool by its name. -/
def notFoundFailure (name : Bytes) : Failure :=
  .text (utf8 "exec: " ++ Text.Quoted.text name ++ utf8 ": executable file not found in $PATH")

/-- What comes of a tool that has ended: what it complains about becomes the failure. -/
def verdict (name : Bytes) (tool : Tool) : Except Failure Unit :=
  let complaint := Text.trim tool.complaint
  if tool.status = 0 then .ok ()
  else if complaint = [] then
    .error (.within name (.text (utf8 "exit status " ++ Bytes.decimal tool.status)))
  else .error (.text (name ++ utf8 ": " ++ complaint))

/-- Whether words can be handed to a tool: a zero byte would end them early. -/
def canPass (words : List Bytes) : Bool := words.all fun word => !word.contains 0

/-- Runs a tool. What it prints is passed on. -/
def run (backend : Backend) (name : Bytes) (arguments : List Bytes) :
    Work (Except Failure Unit) := do
  if backend.printCommands then
    Work.print (name ++ utf8 " " ++ Bytes.join (utf8 " ") arguments ++ utf8 "\n")
  let found := (← get).tools name
  if found.isNone && isSearched name then pure (.error (.within name (notFoundFailure name)))
  else if ← Work.isCancelled then pure (.error (.within name (.ofKind .canceled)))
  else if !canPass (name :: arguments) then
    pure (.error (.within name (.file ⟨"fork/exec", name, .invalidArgument⟩)))
  else
    match found with
    | none => pure (.error (.within name (.file ⟨"fork/exec", name, .notFound⟩)))
    | some tool =>
      Work.print tool.output
      pure (verdict name tool)

/-- How much the compilers are asked to optimize. -/
def level (optimize : Bool) : Bytes := utf8 (if optimize then "-O2" else "-O0")

/-- Compiles the module in a file, by the second compiler if the first fails. -/
def compile (backend : Backend) (kind : ArtifactKind) (optimize : Bool) (input output : Bytes) :
    Work (Except Failure Unit) := do
  let level := level optimize
  let mode := utf8 (if kind = .assembly then "-S" else "-c")
  let filetype := utf8 (if kind = .assembly then "-filetype=asm" else "-filetype=obj")
  match ← backend.run backend.compiler
      [mode, level, utf8 "-x", utf8 "ir", input, utf8 "-o", output] with
  | .ok () => pure (.ok ())
  | .error first =>
    if ((← get).tools backend.fallback).isNone then pure (.error first)
    else
      match ← backend.run backend.fallback [filetype, level, input, utf8 "-o", output] with
      | .error second => pure (.error (.both first (utf8 "; llc: ") second))
      | .ok () =>
        if backend.printCommands then
          Work.print (utf8 "note: clang IR compile failed; fell back to llc\n")
        pure (.ok ())

/-- A failure to write an artifact. -/
def failure (cause : Failure) : Failure :=
  .both (.ofKind .backendFailure) (utf8 ": ") cause

/-- Writes the artifact of a module. -/
def write (backend : Backend) (optimize : Bool) (output text : Bytes) :
    Work (Except Failure Unit) := do
  let kind := backend.kindFor output
  let outcome ←
    if kind = .llvm then Work.writeFile output text
    else
      let input := Path.join [(← get).scratch, utf8 "module.ll"]
      backend.compile kind optimize input output
  pure (outcome.mapError failure)

/-- Emits the module of a context and writes its artifact. -/
def emitAndWrite (backend : Backend) (output : Bytes) (verbose : Bool) (parent : Nat)
    (context : Context) : Work (Except Failure Unit) := do
  match ← emitTraced context parent with
  | .error error => pure (.error error.toFailure)
  | .ok emitted =>
    let text := emitted.text
    if verbose then Work.printError text
    backend.write context.optimize output text

/-- Lowers a context to an output, in a span of its own. -/
def lower (backend : Backend) (output : Bytes) (verbose : Bool) (parent : Nat) :
    Blockwork.Backend Session := fun context => show Work (Except Failure Unit) from do
  let span ← Work.beginSpan .pass "lower" parent
  let span ← Work.annotate span "output" output
  let outcome ← backend.emitAndWrite output verbose (Work.within span parent) context
  match outcome with
  | .error failure =>
    Work.traceError "lower" failure span.id
    Work.endSpan span "failed"
  | .ok () => Work.endSpan span ""
  pure outcome

/-- Refuses to work without the compiler. -/
def ensureCompiler (backend : Backend) : Work (Except Failure Unit) := do
  if ((← get).tools backend.compiler).isSome then pure (.ok ())
  else
    pure (.error (.text (backend.compiler ++
      utf8 " not found; install with: sudo apt-get install -y clang llvm")))

end Backend
end Llvm
end Blockwork
