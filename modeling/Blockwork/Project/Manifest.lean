import Blockwork.Files.Pattern
import Blockwork.Llvm.Artifact
import Blockwork.Session
import Blockwork.Toml.Document

/-!
# Manifests

A project is described by a manifest in its directory: the name of the package, and which files are
built and how. The manifest of a directory is the nearest one in it or above it. Words in it are
recognised in any case, but only a key in small letters counts as defined.
-/

namespace Blockwork
namespace Project

/-- The name of the file that describes a project. -/
def manifestName : Bytes := utf8 "pcb.toml"

/-- What a manifest sets. -/
structure Settings where
  /-- The name of the package. -/
  name : Bytes := []
  /-- The patterns of the source files. -/
  files : List Bytes := []
  /-- The directory of the artifacts. -/
  outDir : Bytes := []
  /-- Whether the compiler is asked to optimize. -/
  optimize : Bool := false
  /-- The word for what is made. -/
  emit : Bytes := []
  /-- How many files may be worked on at once. -/
  jobs : Int := 0
deriving DecidableEq, Repr

/-- A manifest. -/
structure Manifest where
  /-- Its path. -/
  path : Bytes
  /-- What it sets. -/
  settings : Settings
  /-- Its text, taken apart. -/
  document : Toml.Document

namespace Settings

/-- A text. -/
def textOf? : Toml.Value → Option Bytes
  | .text value => some value
  | _ => none

/-- A list of texts. -/
def textsOf? : Toml.Value → Option (List Bytes)
  | .array items => items.mapM textOf?
  | _ => none

/-- The keys of the table about the package. -/
def packageKeys : List String := ["name"]

/-- The keys of the table about the build. -/
def buildKeys : List String := ["files", "out_dir", "optimize", "emit", "jobs"]

/-- The word among several that a text is when case is ignored. -/
def wordOf? (words : List String) (text : Bytes) : Option String :=
  words.find? fun word => Text.matchesWord word text

/-- Takes over one entry of the table about the package. -/
def setPackage (settings : Settings) (entry : Bytes × Toml.Value) : Option Settings :=
  match wordOf? packageKeys entry.1 with
  | some _ => do
    let name ← textOf? entry.2
    some { settings with name }
  | none => some settings

/-- Takes over one entry of the table about the build. -/
def setBuild (settings : Settings) (entry : Bytes × Toml.Value) : Option Settings :=
  match wordOf? buildKeys entry.1, entry.2 with
  | some "files", value => do
    let files ← textsOf? value
    some { settings with files }
  | some "out_dir", .text outDir => some { settings with outDir }
  | some "optimize", .boolean optimize => some { settings with optimize }
  | some "emit", .text emit => some { settings with emit }
  | some "jobs", .integer jobs => some { settings with jobs }
  | some _, _ => none
  | none, _ => some settings

/-- Takes over one entry of the outermost table. -/
def setSection (settings : Settings) (entry : Bytes × Toml.Value) : Option Settings :=
  match wordOf? ["package", "build"] entry.1, entry.2 with
  | some "package", .table entries => entries.foldlM setPackage settings
  | some "build", .table entries => entries.foldlM setBuild settings
  | some _, _ => none
  | none, _ => some settings

/-- What a document sets, if its values are of the right types. -/
def ofDocument? (document : Toml.Document) : Option Settings :=
  document.root.foldlM setSection {}

/-- Whether a key has a name that a manifest may use. -/
def isKnown : Toml.Key → Bool
  | [table] => (wordOf? ["package", "build"] table).isSome
  | [table, key] =>
    match wordOf? ["package", "build"] table with
    | some "package" => (wordOf? packageKeys key).isSome
    | some _ => (wordOf? buildKeys key).isSome
    | none => false
  | _ => false

/-- Whether a key of a document is one that settings are taken from. A key whose table was replaced
is not. -/
def takes (document : Toml.Document) (key : Toml.Key) : Bool :=
  isKnown key && (document.get? key).isSome

end Settings

namespace Manifest

/-- The directory of a manifest, which is that of the project. -/
def root (manifest : Manifest) : Bytes := Path.directory manifest.path

/-- Whether a key of the table about the build is defined. -/
def defines (manifest : Manifest) (key : String) : Bool :=
  manifest.document.defines ["build", key]

/-- The manifest with the given text. -/
def ofText (path text : Bytes) : Except Failure Manifest := do
  let refuse (message : String) : Except Failure Manifest :=
    .error (.text (path ++ utf8 (": " ++ message)))
  match Toml.Document.parse? text with
  | none => refuse "failed to parse TOML"
  | some document =>
    match Settings.ofDocument? document with
    | none => refuse "failed to parse TOML"
    | some settings =>
      match document.keys.find? fun key => !Settings.takes document key with
      | some key => .error (.text (path ++ utf8 ": unknown key " ++ key.text))
      | none =>
        if ¬document.defines ["package", "name"] ∨ Text.trim settings.name = [] then
          refuse "missing [package].name"
        else if ¬document.defines ["build", "files"] ∨ settings.files = [] then
          refuse "missing [build].files"
        else
          match ArtifactKind.parse settings.emit with
          | .error failure => .error (.within (path ++ utf8 ": [build].emit") failure)
          | .ok _ =>
            if settings.jobs < 0 then refuse "[build].jobs must not be negative"
            else .ok { path, settings, document }

/-- Reads a manifest. -/
def load (disk : Disk) (workingDirectory : Location) (path : Bytes) : Except Failure Manifest :=
  match disk.content workingDirectory path with
  | .error _ => .error (.text (path ++ utf8 ": failed to parse TOML"))
  | .ok text => ofText path text

/-- The nearest manifest in a directory or above it. `fuel` bounds the number of directories. -/
def findWithin (disk : Disk) : Nat → Bytes → Except Failure (Option Bytes)
  | 0, _ => .ok none
  | fuel + 1, directory =>
    let candidate := Path.join [directory, manifestName]
    match disk.find [] candidate with
    | .ok _ => .ok (some candidate)
    | .error .notFound =>
      let parent := Path.directory directory
      if parent = directory then .ok none else findWithin disk fuel parent
    | .error reason =>
      .error (.within (utf8 "failed to stat " ++ Text.Quoted.text candidate)
        (.file ⟨"stat", candidate, reason⟩))

/-- The path of the nearest manifest in a directory or above it. -/
def find (disk : Disk) (workingDirectory : Location) (directory : Bytes) :
    Except Failure (Option Bytes) :=
  let start := Path.absolute workingDirectory.text directory
  findWithin disk (start.length + 1) start

/-- The source files. Each pattern has to match some. -/
def files (manifest : Manifest) (disk : Disk) : Except Failure (List Bytes) := do
  let matched ← manifest.settings.files.mapM fun pattern =>
    match Pattern.expand disk [] (Path.join [manifest.root, pattern]) with
    | .error _ =>
      .error (.text (manifest.path ++ utf8 ": bad pattern " ++ Text.Quoted.text pattern ++
        utf8 ": syntax error in pattern"))
    | .ok [] =>
      .error (.text (manifest.path ++ utf8 ": " ++ Text.Quoted.text pattern ++
        utf8 " matches no files"))
    | .ok paths => .ok paths
  pure matched.flatten

/-- The directory of the artifacts. -/
def outDir (manifest : Manifest) : Bytes :=
  let chosen := if manifest.settings.outDir = [] then utf8 "target" else manifest.settings.outDir
  if Path.isAbsolute chosen then chosen else Path.join [manifest.root, chosen]

end Manifest
end Project
end Blockwork
