import Blockwork.Program.Construction
import Blockwork.Snapshot.Basic

/-!
# Restoring snapshots

A snapshot is restored by constructing its functions again, so a restored context is checked like
one built by hand.
-/

namespace Blockwork
namespace Snapshot

/-- The failure of a number in a snapshot that refers to nothing. -/
def outOfRange (what : String) (number : Int32) : Failure :=
  .fault { kind := .indexOutOfRange, detail := utf8 what ++ Bytes.signed number.toInt }

/-- The number of something, if there is something under it. -/
def below? (number : Int32) (size : Nat) : Option Nat :=
  if 0 ≤ number.toInt ∧ number.toInt < size then some number.toInt.toNat else none

/-- The number of a value of the function. -/
def valueNumber (function : Function) (number : Int32) : Except Failure ValueId :=
  match below? number function.values.size with
  | some id => .ok id
  | none => .error (outOfRange "value %" number)

/-- Interns the input types of a function; the position is named if one is refused. -/
def restoreInputs (context : Context) (name : Bytes) (index : Nat) :
    List Descriptor → Except Failure (Context × List TypeId)
  | [] => .ok (context, [])
  | type :: rest =>
    match context.intern type with
    | .error fault =>
      .error (.within (utf8 "function " ++ name)
        (.within (utf8 "input " ++ Bytes.decimal index) (.fault fault)))
    | .ok (context, id) => do
      let (context, ids) ← restoreInputs context name (index + 1) rest
      pure (context, id :: ids)

/-- Declares a function. -/
def restoreHeader (context : Context) (function : SnapshotFunction) : Except Failure Context :=
  match context.intern function.output with
  | .error fault => .error (.within (utf8 "function " ++ function.name) (.fault fault))
  | .ok (context, output) => do
    let (context, inputs) ← restoreInputs context function.name 0 function.inputs
    match context.addFunction function.name ⟨inputs, output⟩ with
    | .ok (context, _) => pure context
    | .error error => .error (.build error)

/-- Declares the functions one after the other. -/
def restoreHeaders (context : Context) : List SnapshotFunction → Except Failure Context
  | [] => .ok context
  | function :: rest => do
    let context ← restoreHeader context function
    restoreHeaders context rest

/-- Adds blocks to a function. -/
def restoreBlocks (context : Context) (id : FunctionId) :
    List SnapshotBlock → Except Failure Context
  | [] => .ok context
  | _ :: rest =>
    match context.addBlock id with
    | .ok (context, _) => restoreBlocks context id rest
    | .error error => .error (.build error)

/-- Builds a value in a block of a function. -/
def restoreInstruction (context : Context) (place : Place) (function : Function) (type : TypeId)
    (value : SnapshotValue) : Except Failure (Context × ValueId) := do
  let built ←
    if value.kind = KindCode.const then
      pure (context.buildConst place type value.literal)
    else if value.kind = KindCode.call then
      match context.functionNamed? value.callee with
      | none =>
        .error (.fault {
          kind := .invalidHandle
          detail := utf8 "unknown callee " ++ Text.Quoted.text value.callee })
      | some callee => do
        let arguments ← value.arguments.mapM (valueNumber function)
        pure (context.buildCall place (.own callee) (arguments.map .own))
    else do
      let left ← valueNumber function value.left
      let right ← valueNumber function value.right
      pure (context.buildBinary place value.kind (.own left) (.own right))
  match built with
  | .ok added => pure added
  | .error error => .error (.build error)

/-- Builds a value. It has to get the type that the snapshot gives it. -/
def restoreValue (context : Context) (id : FunctionId) (value : SnapshotValue) :
    Except Failure Context :=
  match context.functions.get? id with
  | none => .error (.ofKind .invalidHandle)
  | some function =>
    match below? value.block function.blocks.size with
    | none => .error (outOfRange "block bb" value.block)
    | some block =>
      match context.intern value.type with
      | .error fault => .error (.fault fault)
      | .ok (context, type) => do
        let (context, number) ← restoreInstruction context ⟨id, block⟩ function type value
        let rebuilt :=
          match (context.functions.get? id).bind fun content => content.values.get? number with
          | some content => content.type
          | none => TypeId.none
        if rebuilt = type then pure context
        else
          .error (.fault {
            kind := .typeMismatch
            detail := valueName number ++ utf8 " recorded as " ++ context.types.name type ++
              utf8 ", rebuilt as " ++ context.types.name rebuilt })

/-- Builds values one after the other. -/
def restoreValues (context : Context) (id : FunctionId) :
    List SnapshotValue → Except Failure Context
  | [] => .ok context
  | value :: rest => do
    let context ← restoreValue context id value
    restoreValues context id rest

/-- Ends a block. A block whose terminator code is neither that of a branch nor that of a return is
left open. -/
def restoreTerminator (context : Context) (id : FunctionId) (number : BlockId)
    (block : SnapshotBlock) : Except Failure Context :=
  match context.functions.get? id with
  | none => .error (.ofKind .invalidHandle)
  | some function =>
    let ended : Except Failure (Except BuildError Context) :=
      if block.terminator = 1 then
        match below? block.target function.blocks.size with
        | none => .error (outOfRange "branch target bb" block.target)
        | some target => .ok (context.buildBranch ⟨id, number⟩ (.own target))
      else if block.terminator = 2 then do
        let value ← valueNumber function block.result
        pure (context.buildReturn ⟨id, number⟩ (.own value))
      else .ok (.ok context)
    match ended with
    | .error failure => .error failure
    | .ok (.error error) => .error (.build error)
    | .ok (.ok context) => .ok context

/-- Ends blocks one after the other, from the given number on. -/
def restoreTerminators (context : Context) (id : FunctionId) (number : BlockId) :
    List SnapshotBlock → Except Failure Context
  | [] => .ok context
  | block :: rest => do
    let context ← restoreTerminator context id number block
    restoreTerminators context id (number + 1) rest

/-- Builds the body of a function. -/
def restoreBody (context : Context) (id : FunctionId) (function : SnapshotFunction) :
    Except Failure Context := do
  let context ← restoreBlocks context id function.blocks
  let context ← restoreValues context id function.values
  restoreTerminators context id 0 function.blocks

/-- Builds the bodies one after the other, from the given function on. -/
def restoreBodies (context : Context) (id : FunctionId) :
    List SnapshotFunction → Except Failure Context
  | [] => .ok context
  | function :: rest =>
    match restoreBody context id function with
    | .error failure => .error (.within (utf8 "function " ++ function.name) failure)
    | .ok context => restoreBodies context (id + 1) rest

/-- The context that a snapshot describes. -/
def restore (snapshot : Snapshot) : Except Failure Context :=
  if snapshot.schema ≠ currentSchema then
    .error (.fault { kind := .schema, detail := Bytes.decimal snapshot.schema.toNat })
  else do
    let context ← restoreHeaders (.new snapshot.optimize) snapshot.functions
    restoreBodies context 0 snapshot.functions

end Snapshot
end Blockwork
