import Blockwork.Failure

/-!
# Progress of a build

Each file goes through stages, and in each stage through states. An event says that a file has
reached a state. Stages and states may have names that are not known here.
-/

namespace Blockwork
namespace Build

/-- A stage of the work on one file. -/
inductive Stage where
  /-- The file is read, or taken from the cache. -/
  | parse
  /-- The functions are checked for completeness. -/
  | validate
  /-- The artifact is written. -/
  | lower
  /-- Another stage. -/
  | other (name : Bytes)
deriving DecidableEq, Repr

namespace Stage

/-- The stages of a build, in order. -/
def all : List Stage := [.parse, .validate, .lower]

/-- The name of a stage. -/
def name : Stage → Bytes
  | .parse => utf8 "parse"
  | .validate => utf8 "validate"
  | .lower => utf8 "lower"
  | .other known => known

/-- The stage with a name. -/
def ofName (word : Bytes) : Stage :=
  (all.find? fun stage => stage.name = word).getD (.other word)

end Stage

/-- A state of a stage. -/
inductive Status where
  /-- The work has not begun. -/
  | queued
  /-- The work has begun. -/
  | working
  /-- The work is done. -/
  | done
  /-- The work has been saved by the cache. -/
  | cached
  /-- The work has failed. -/
  | error
  /-- Another state. -/
  | other (name : Bytes)
deriving DecidableEq, Repr

namespace Status

/-- The name of a state. -/
def name : Status → Bytes
  | .queued => utf8 "queued"
  | .working => utf8 "working"
  | .done => utf8 "done"
  | .cached => utf8 "cached"
  | .error => utf8 "error"
  | .other known => known

/-- The state with a name. -/
def ofName (word : Bytes) : Status :=
  ([queued, working, done, cached, error].find? fun status => status.name = word).getD (.other word)

end Status

/-- A file has reached a state. -/
structure ProgressEvent where
  /-- The file. -/
  file : Bytes
  /-- The stage. -/
  stage : Stage
  /-- The state. -/
  status : Status
  /-- Why the work has failed. -/
  failure : Option Failure := none
deriving DecidableEq, Repr

end Build
end Blockwork
