import Blockwork.Program.Store

/-!
# References

What a block or a value refers to is found through its context. To read through a handle that leads
nowhere is a crash. A reference that cannot be resolved is none: it is an absent handle, and what
reads it goes on with nothing.
-/

namespace Blockwork

/-- The crash of reading through a handle. -/
inductive Crash where
  /-- There is nothing behind the handle. -/
  | nothingThere
deriving DecidableEq, Repr

/-- What is read through a handle. -/
abbrev Reading := Except Crash

namespace Store

/-- The block behind a handle, to be read. -/
def readBlock (store : Store) (handle : Option BlockRef) : Reading (BlockRef × Block) :=
  match handle, store.block? handle with
  | some ref, some block => .ok (ref, block)
  | _, _ => .error .nothingThere

/-- The value behind a handle, to be read. -/
def readValue (store : Store) (handle : Option ValueRef) : Reading (ValueRef × Value) :=
  match handle, store.value? handle with
  | some ref, some value => .ok (ref, value)
  | _, _ => .error .nothingThere

/-- The function that a block belongs to. -/
def blockFunction (store : Store) (handle : Option BlockRef) : Reading (Option FunctionRef) := do
  let (ref, _) ← store.readBlock handle
  pure (store.functionById (some ref.context) ref.place.function)

/-- The values that a block lists, in order. -/
def blockValues (store : Store) (handle : Option BlockRef) : Reading (List (Option ValueRef)) := do
  let (ref, block) ← store.readBlock handle
  let function := store.functionById (some ref.context) ref.place.function
  pure (block.values.toList.map fun (id : ValueId) => store.valueById function id)

/-- The block that a block branches to. -/
def blockTarget (store : Store) (handle : Option BlockRef) : Reading (Option BlockRef) := do
  let (ref, block) ← store.readBlock handle
  let function := store.functionById (some ref.context) ref.place.function
  pure (block.target?.bind fun id => store.blockById function id)

/-- The value that a block returns. -/
def blockResult (store : Store) (handle : Option BlockRef) : Reading (Option ValueRef) := do
  let (ref, block) ← store.readBlock handle
  let function := store.functionById (some ref.context) ref.place.function
  pure (block.result?.bind fun id => store.valueById function id)

/-- The function that a value belongs to. -/
def valueFunction (store : Store) (handle : Option ValueRef) : Reading (Option FunctionRef) := do
  let (ref, _) ← store.readValue handle
  pure (store.functionById (some ref.context) ref.function)

/-- The block that computes a value; none for parameters. -/
def valueBlock (store : Store) (handle : Option ValueRef) : Reading (Option BlockRef) := do
  let (ref, value) ← store.readValue handle
  let function := store.functionById (some ref.context) ref.function
  pure (value.origin.block?.bind fun id => store.blockById function id)

/-- The function that a call calls. -/
def valueCallee (store : Store) (handle : Option ValueRef) : Reading (Option FunctionRef) := do
  let (ref, value) ← store.readValue handle
  pure (value.callee?.bind fun id => store.functionById (some ref.context) id)

/-- The arguments of a call, in order; none for any other value. -/
def valueArguments (store : Store) (handle : Option ValueRef) :
    Reading (Option (List (Option ValueRef))) := do
  let (ref, value) ← store.readValue handle
  let function := store.functionById (some ref.context) ref.function
  pure (value.arguments?.map fun ids => ids.map fun (id : ValueId) => store.valueById function id)

/-- The two operands of an operation; none for any other value. -/
def valueSides (store : Store) (handle : Option ValueRef) :
    Reading (Option ValueRef × Option ValueRef) := do
  let (ref, value) ← store.readValue handle
  let function := store.functionById (some ref.context) ref.function
  pure (value.sides?.bind fun (left, _) => store.valueById function left,
    value.sides?.bind fun (_, right) => store.valueById function right)

end Store
end Blockwork
