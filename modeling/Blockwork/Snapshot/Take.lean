import Blockwork.Program.Context
import Blockwork.Snapshot.Basic

/-!
# Taking snapshots

A context is written down function by function. There is no snapshot of a context in which a number
refers to nothing; construction never makes one.
-/

namespace Blockwork
namespace Snapshot

/-- The number written for no block or no value. -/
def absent : Int32 := -1

/-- A terminator written down. -/
def takeTerminator : Option Terminator → SnapshotBlock
  | none => ⟨0, absent, absent⟩
  | some (.branch target) => ⟨1, Int32.ofNat target, absent⟩
  | some (.result value) => ⟨2, absent, Int32.ofNat value⟩

/-- A value written down; nothing is written for a parameter. -/
def takeValue (context : Context) (function : Function) (value : Value) :
    Option (List SnapshotValue) :=
  match value.origin with
  | .parameter _ => some []
  | .instruction block instruction => do
    let type ← context.types.lookup? value.type
    let shared : SnapshotValue := { kind := instruction.code, block := Int32.ofNat block, type }
    match instruction with
    | .const literal => pure [{ shared with literal }]
    | .call callee arguments => do
      let target ← context.function? callee
      if arguments.all (· < function.values.size) then
        pure [{ shared with callee := target.name, arguments := arguments.map Int32.ofNat }]
      else none
    | .binary _ left right =>
      if left < function.values.size ∧ right < function.values.size then
        pure [{ shared with left := Int32.ofNat left, right := Int32.ofNat right }]
      else none

/-- A function written down. -/
def takeFunction (context : Context) (function : Function) : Option SnapshotFunction := do
  let output ← context.types.lookup? function.signature.output
  let inputs ← function.signature.inputs.mapM context.types.lookup?
  let values ← function.values.toList.mapM (takeValue context function)
  pure {
    name := function.name
    inputs
    output
    blocks := function.blocks.toList.map fun block => takeTerminator block.terminator
    values := values.flatten }

end Snapshot

/-- A context written down. -/
def Context.take (context : Context) : Option Snapshot := do
  let functions ← context.listFunctions.mapM (Snapshot.takeFunction context)
  pure { schema := Snapshot.currentSchema, optimize := context.optimize, functions }

end Blockwork
