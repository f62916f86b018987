import Blockwork.Text.Bytes

/-!
# Kinds of failure

Every failure that a caller may want to tell apart has a kind, and every kind has a fixed text. A
fault is a kind together with what is known about the occasion.
-/

namespace Blockwork

/-- The failures that callers tell apart, in order of precedence: a failure that has several kinds
is reported under the first. -/
inductive FailureKind where
  /-- The block has already been ended. -/
  | terminatorAlreadySet
  /-- A value has another type than its use asks for. -/
  | typeMismatch
  /-- A call passes another number of arguments than the function takes. -/
  | arityMismatch
  /-- A value or block of one function is used in another. -/
  | crossFunction
  /-- A number names nothing. -/
  | indexOutOfRange
  /-- The instruction cannot be lowered. -/
  | notImplemented
  /-- Writing the artifact failed. -/
  | backendFailure
  /-- The handle refers to nothing, or to another context. -/
  | invalidHandle
  /-- The name cannot be written in the textual form. -/
  | invalidName
  /-- The operation code is no binary operator. -/
  | invalidOpcode
  /-- The context has been consumed or destroyed. -/
  | contextClosed
  /-- The name is taken. -/
  | duplicateFunction
  /-- A block has no end. -/
  | unterminatedBlock
  /-- A function has no block. -/
  | emptyFunction
  /-- The type descriptor is malformed or unknown. -/
  | invalidType
  /-- The snapshot was written by another schema version. -/
  | schema
  /-- The work was cancelled. -/
  | canceled
  /-- The file does not exist. -/
  | notExist
deriving DecidableEq, Repr

namespace FailureKind

/-- The kinds in order of precedence. -/
def all : List FailureKind :=
  [.terminatorAlreadySet, .typeMismatch, .arityMismatch, .crossFunction, .indexOutOfRange,
   .notImplemented, .backendFailure, .invalidHandle, .invalidName, .invalidOpcode, .contextClosed,
   .duplicateFunction, .unterminatedBlock, .emptyFunction, .invalidType, .schema, .canceled,
   .notExist]

/-- The text of a kind. -/
def message : FailureKind → String
  | .terminatorAlreadySet => "terminator already set"
  | .typeMismatch => "type mismatch"
  | .arityMismatch => "arity mismatch"
  | .crossFunction => "cross-function reference"
  | .indexOutOfRange => "index out of range"
  | .notImplemented => "not implemented"
  | .backendFailure => "backend failure"
  | .invalidHandle => "invalid handle"
  | .invalidName => "invalid function name"
  | .invalidOpcode => "invalid opcode"
  | .contextClosed => "context is no longer usable"
  | .duplicateFunction => "duplicate function"
  | .unterminatedBlock => "unterminated block"
  | .emptyFunction => "function has no blocks"
  | .invalidType => "invalid type"
  | .schema => "irpack: unsupported snapshot schema"
  | .canceled => "context canceled"
  | .notExist => "file does not exist"

/-- Every kind has its place in the order of precedence. -/
theorem mem_all (kind : FailureKind) : kind ∈ all := by
  cases kind <;> decide

end FailureKind

/-- A kind of failure with what is known about the occasion. -/
structure Fault where
  /-- What went wrong. -/
  kind : FailureKind
  /-- More about it; empty if there is nothing to add. -/
  detail : Bytes := []
deriving DecidableEq, Repr

namespace Fault

/-- The text of a fault: the kind, and the detail after a colon. -/
def message (fault : Fault) : Bytes :=
  utf8 fault.kind.message ++ if fault.detail = [] then [] else utf8 ": " ++ fault.detail

end Fault
end Blockwork
