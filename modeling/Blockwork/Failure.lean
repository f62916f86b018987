import Blockwork.Failure.Kind

/-!
# Failures

A failure is a tree: its leaves say what went wrong, its inner nodes where it was noticed or that
several things went wrong at once. It has a text, the kinds of its leaves, and, if a source text
was at fault, the place in it.
-/

namespace Blockwork

/-- A failed call of a construction operation: what was attempted, where, and why it failed. -/
structure BuildError where
  /-- What was attempted. -/
  action : Bytes
  /-- The function it was attempted in; empty if there is none. -/
  function : Bytes := []
  /-- The block it was attempted in. -/
  block : Option Int := none
  /-- Why it failed. -/
  fault : Fault
  /-- More about the arguments; empty if there is nothing to add. -/
  detail : Bytes := []
deriving DecidableEq, Repr

namespace BuildError

/-- The text of a failed construction operation. The block is named only along with its function. -/
def message (error : BuildError) : Bytes :=
  let place :=
    if error.function = [] then []
    else utf8 " in " ++ error.function ++
      match error.block with
      | some block => utf8 "/bb" ++ Bytes.signed block
      | none => []
  let detail := if error.detail = [] then [] else utf8 ": " ++ error.detail
  error.action ++ place ++ utf8 ": " ++ error.fault.message ++ detail

end BuildError

/-- Why a file operation failed. -/
inductive FileReason where
  /-- There is nothing under the name. -/
  | notFound
  /-- A file was expected and a directory found. -/
  | isDirectory
  /-- A directory was expected and a file found. -/
  | notDirectory
  /-- There is already something under the name. -/
  | exists
  /-- The directory to be replaced has entries. -/
  | notEmpty
  /-- The name is longer than the file system allows. -/
  | nameTooLong
  /-- The file has been closed. -/
  | closed
  /-- The name holds a zero byte, or a directory would go into itself. -/
  | invalidArgument
  /-- The root or a working directory would be moved. -/
  | busy
deriving DecidableEq, Repr

namespace FileReason

/-- The text of a reason. -/
def message : FileReason → String
  | .notFound => "no such file or directory"
  | .isDirectory => "is a directory"
  | .notDirectory => "not a directory"
  | .exists => "file exists"
  | .notEmpty => "directory not empty"
  | .nameTooLong => "file name too long"
  | .closed => "file already closed"
  | .invalidArgument => "invalid argument"
  | .busy => "device or resource busy"

end FileReason

/-- A failed file operation. -/
structure FileError where
  /-- The operation. -/
  action : String
  /-- The path it was applied to. -/
  path : Bytes
  /-- Why it failed. -/
  reason : FileReason
deriving DecidableEq, Repr

namespace FileError

/-- The text of a failed file operation. -/
def message (error : FileError) : Bytes :=
  utf8 error.action ++ utf8 " " ++ error.path ++ utf8 ": " ++ utf8 error.reason.message

end FileError

/-- A place in a source text. -/
structure Spot where
  /-- The name of the text; may be empty. -/
  file : Bytes
  /-- The line, counted from one. -/
  line : Nat
  /-- The byte in the line, counted from one. -/
  column : Nat
  /-- The line itself. -/
  text : Bytes
deriving DecidableEq, Repr

namespace Spot

/-- The place as it stands in front of a message. -/
def label (spot : Spot) : Bytes :=
  (if spot.file = [] then utf8 "<input>" else spot.file) ++ utf8 ":" ++ Bytes.decimal spot.line ++
    utf8 ":" ++ Bytes.decimal spot.column

end Spot

/-- A failure. -/
inductive Failure where
  /-- A fault of a known kind. -/
  | fault (fault : Fault)
  /-- A failure of no particular kind. -/
  | text (message : Bytes)
  /-- A failed construction operation. -/
  | build (error : BuildError)
  /-- A failed file operation. -/
  | file (error : FileError)
  /-- A place in a source text where something was not understood. -/
  | source (spot : Spot) (message : Bytes)
  /-- A place in a source text where something was refused, and the reason. -/
  | refused (spot : Spot) (message : Bytes) (cause : Failure)
  /-- A failure inside something that is named. -/
  | within (label : Bytes) (inner : Failure)
  /-- Two failures, with a separator between their texts. -/
  | both (first : Failure) (separator : Bytes) (second : Failure)
deriving DecidableEq, Repr

namespace Failure

/-- The text of a failure. -/
def message : Failure → Bytes
  | .fault reason => reason.message
  | .text words => words
  | .build error => error.message
  | .file error => error.message
  | .source spot words => spot.label ++ utf8 ": " ++ words
  | .refused spot words cause => spot.label ++ utf8 ": " ++ words ++ utf8 ": " ++ cause.message
  | .within label inner => label ++ utf8 ": " ++ inner.message
  | .both first separator second => first.message ++ separator ++ second.message

/-- The kinds of the leaves of a failure. -/
def kinds : Failure → List FailureKind
  | .fault reason => [reason.kind]
  | .text _ => []
  | .build error => [error.fault.kind]
  | .file error => if error.reason = .notFound then [.notExist] else []
  | .source _ _ => []
  | .refused _ _ cause => cause.kinds
  | .within _ inner => inner.kinds
  | .both first _ second => first.kinds ++ second.kinds

/-- The kind under which a failure is reported. -/
def kind? (failure : Failure) : Option FailureKind :=
  FailureKind.all.find? fun kind => failure.kinds.contains kind

/-- Whether some leaf of a failure has the given kind. -/
def hasKind (failure : Failure) (kind : FailureKind) : Bool :=
  failure.kinds.contains kind

/-- The outermost place in a source text, with its message and the reason given there. -/
def source? : Failure → Option (Spot × Bytes × Option Failure)
  | .source spot message => some (spot, message, none)
  | .refused spot message cause => some (spot, message, some cause)
  | .within _ inner => inner.source?
  | .both first _ second => first.source?.orElse fun _ => second.source?
  | _ => none

/-- All failures of a list as one, each on lines of its own; none if there are none. -/
def join : List Failure → Option Failure
  | [] => none
  | first :: rest =>
    match join rest with
    | none => some first
    | some others => some (.both first (utf8 "\n") others)

/-- A list of failures as an outcome: success if it is empty. -/
def toExcept (failures : List Failure) : Except Failure Unit :=
  match join failures with
  | none => .ok ()
  | some failure => .error failure

/-- The failure of an outcome. -/
def ofOutcome? : Except Failure Unit → Option Failure
  | .ok () => none
  | .error failure => some failure

/-- Several outcomes as one, which fails if any does. -/
def joinOutcomes (outcomes : List (Except Failure Unit)) : Except Failure Unit :=
  toExcept (outcomes.filterMap ofOutcome?)

/-- A fault of a kind with nothing to add. -/
def ofKind (kind : FailureKind) : Failure := .fault { kind }

end Failure

/-- A failure to read a source text: the place, the message, and the reason if a construction
operation refused what was read. -/
structure ParseError where
  /-- Where. -/
  spot : Spot
  /-- What was noticed. -/
  message : Bytes
  /-- The reason given by what refused it. -/
  cause : Option Failure := none
deriving DecidableEq, Repr

namespace ParseError

/-- A parse error as a failure. -/
def toFailure (error : ParseError) : Failure :=
  match error.cause with
  | none => .source error.spot error.message
  | some cause => .refused error.spot error.message cause

end ParseError
end Blockwork
