import Blockwork.Typing.Descriptor

/-!
# Snapshots

A snapshot is a context written down without handles: types by descriptor, functions by name,
values and blocks by number. A snapshot may come from a damaged file, so its fields can hold
anything; only restoring it tells whether it makes sense.
-/

namespace Blockwork

/-- A block in a snapshot. -/
structure SnapshotBlock where
  /-- How the block ends: one for a branch, two for a return. -/
  terminator : UInt8 := 0
  /-- The block branched to. -/
  target : Int32 := 0
  /-- The value returned. -/
  result : Int32 := 0
deriving DecidableEq, Repr

/-- A value in a snapshot. Parameters are not written down. -/
structure SnapshotValue where
  /-- The code of its kind. -/
  kind : UInt8 := 0
  /-- The block that computes it. -/
  block : Int32 := 0
  /-- Its type. -/
  type : Descriptor := .invalid
  /-- The literal of a constant. -/
  literal : UInt64 := 0
  /-- The name of the function called. -/
  callee : Bytes := []
  /-- The arguments of a call. -/
  arguments : List Int32 := []
  /-- The left operand. -/
  left : Int32 := 0
  /-- The right operand. -/
  right : Int32 := 0
deriving DecidableEq, Repr

/-- A function in a snapshot. -/
structure SnapshotFunction where
  /-- Its name. -/
  name : Bytes := []
  /-- The types of its arguments. -/
  inputs : List Descriptor := []
  /-- The type of its result. -/
  output : Descriptor := .invalid
  /-- Its blocks in order. -/
  blocks : List SnapshotBlock := []
  /-- Its values other than parameters, in the order of their numbers. -/
  values : List SnapshotValue := []
deriving DecidableEq, Repr

/-- A whole context, written down. -/
structure Snapshot where
  /-- The version of the layout. -/
  schema : UInt16 := 0
  /-- Whether backends are asked to optimize. -/
  optimize : Bool := false
  /-- The functions in order of creation. -/
  functions : List SnapshotFunction := []
deriving DecidableEq, Repr

namespace Snapshot

/-- The version of the layout that is written and understood. -/
def currentSchema : UInt16 := 1

end Snapshot
end Blockwork
