import Blockwork.Llvm.Module
import Blockwork.Program.Context

/-!
# Emitting LLVM

A context is lowered function by function. The values of a function are emitted in the order of
their numbers, so that every operand is there before its user; each lands in its own block, behind
what was emitted there before. Parameters and blocks are named by their positions. Comparisons have
no lowering.

Emission may be cancelled: before each function it is asked whether it should go on. What is
emitted is noted step by step, for whoever follows the work.
-/

namespace Blockwork
namespace Llvm

/-- Why there is no module. -/
inductive EmitError where
  /-- The context cannot be lowered, or the work was cancelled. -/
  | failed (failure : Failure)
  /-- The context is not one that may be lowered: a block is not ended. -/
  | unterminated (block : BlockId) (function : Bytes)
  /-- The context is not one that may be lowered: a number refers to nothing. -/
  | dangling
deriving DecidableEq, Repr

namespace EmitError

/-- The text of an error. Only a context that is incomplete or was not built by construction leads
to one of the last two. -/
def message : EmitError → Bytes
  | .failed failure => failure.message
  | .unterminated block function =>
    utf8 "pcb: internal error: " ++ blockName block ++ utf8 " of " ++ function ++
      utf8 " has no terminator"
  | .dangling => utf8 "pcb: internal error: reference to nothing"

end EmitError

/-- A step of emission. -/
inductive Note where
  /-- A function was begun. -/
  | function (name signature : Bytes)
  /-- A value was begun. -/
  | value (id : ValueId) (mnemonic : Bytes)
deriving DecidableEq, Repr

/-- The width of a type, by number: truth values have width one. -/
def width (context : Context) (id : TypeId) : Except EmitError Nat :=
  let refuse (detail : Bytes) : Except EmitError Nat :=
    .error (.failed (.fault { kind := .invalidType, detail }))
  match context.types.lookup? id with
  | none => refuse (utf8 "type id " ++ Bytes.decimal id)
  | some type =>
    if type.kind = 2 then .ok 1
    else if type.kind = 1 then .ok type.width.toNat
    else refuse type.spelling

/-- The opcode of an operator that has a lowering. -/
def opcode : Operator → Opcode
  | .mul => .mul
  | .udiv => .udiv
  | .sdiv => .sdiv
  | .urem => .urem
  | .srem => .srem
  | .add => .add
  | .sub => .sub
  | .shl => .shl
  | .lshr => .lshr
  | .ashr => .ashr
  | .and => .and
  | .xor => .xor
  | _ => .or

/-- The part of a literal that a constant of the given width holds. -/
def truncate (width : Nat) (literal : UInt64) : Nat :=
  if width < 64 then literal.toNat % Nat.pow 2 width else literal.toNat

/-- A block under way. -/
structure OpenBlock where
  /-- Its label. -/
  label : Bytes
  /-- Its instructions so far. -/
  instructions : Array Instruction := #[]
deriving DecidableEq, Repr

/-- What has been emitted of a function. -/
structure Progress where
  /-- The blocks. -/
  blocks : Array OpenBlock
  /-- What stands for each value so far. -/
  operands : Array Operand
deriving DecidableEq, Repr

/-- The blocks of a function, with nothing in them yet. -/
def Progress.start (function : Blockwork.Function) : Progress where
  blocks := (Array.range function.blocks.size).map fun id => { label := blockName id }
  operands := #[]

/-- What stands for a value. -/
def Progress.operand (progress : Progress) (id : ValueId) : Except EmitError Operand :=
  match progress.operands[id]? with
  | some operand => .ok operand
  | none => .error .dangling

/-- Appends an instruction to a block; its result stands for the next value. -/
def Progress.append (progress : Progress) (block : BlockId) (instruction : Instruction) :
    Except EmitError Progress :=
  match progress.blocks[block]? with
  | none => .error .dangling
  | some emitted =>
    .ok {
      blocks := progress.blocks.modify block fun target =>
        { target with instructions := target.instructions.push instruction }
      operands := progress.operands.push
        (.result instruction.width block emitted.instructions.size) }

/-- Emits an instruction. -/
def emitInstruction (context : Context) (progress : Progress) (id : ValueId) (type : TypeId)
    (block : BlockId) : Blockwork.Instruction → Except EmitError Progress
  | .const literal => do
    let width ← width context type
    pure { progress with
      operands := progress.operands.push (.constant width (truncate width literal)) }
  | .call callee arguments => do
    match context.function? callee with
    | none => .error .dangling
    | some target =>
      let width ← width context target.signature.output
      let operands ← arguments.mapM progress.operand
      progress.append block (.call width target.name operands)
  | .binary operator left right =>
    if operator.isComparison then
      .error (.failed (.fault {
        kind := .notImplemented
        detail :=
          valueName id ++ utf8 " (" ++ utf8 operator.mnemonic ++ utf8 " has no lowering)" }))
    else do
      let left ← progress.operand left
      let right ← progress.operand right
      progress.append block (.binary (opcode operator) left right)

/-- Emits a value of a function with the given parameters. -/
def emitValue (context : Context) (parameters : List Parameter) (progress : Progress)
    (id : ValueId) (value : Value) : Except EmitError Progress :=
  match value.origin with
  | .parameter index =>
    match parameters[index]? with
    | none => .error .dangling
    | some parameter =>
      .ok { progress with operands := progress.operands.push (.parameter parameter) }
  | .instruction block instruction =>
    emitInstruction context progress id value.type block instruction

/-- Emits values one after the other, noting each that is not a parameter. -/
def emitValues (context : Context) (parameters : List Parameter) (progress : Progress) :
    List (ValueId × Value) → List Note × Except EmitError Progress
  | [] => ([], .ok progress)
  | (id, value) :: rest =>
    let note :=
      if value.isParameter then [] else [Note.value id (KindCode.mnemonic value.origin.code)]
    match emitValue context parameters progress id value with
    | .error error => (note, .error error)
    | .ok progress =>
      let (notes, outcome) := emitValues context parameters progress rest
      (note ++ notes, outcome)

/-- Emits the end of a block. -/
def emitTerminator (function : Blockwork.Function) (progress : Progress) (id : BlockId) :
    Option Blockwork.Terminator → Except EmitError Terminator
  | some (.branch target) =>
    match progress.blocks[target]? with
    | some block => .ok (.branch block.label)
    | none => .error .dangling
  | some (.result value) => do pure (.result (← progress.operand value))
  | none => .error (.unterminated id function.name)

/-- Emits the ends of the blocks and puts the blocks together. -/
def emitBlocks (function : Blockwork.Function) (progress : Progress) :
    Except EmitError (List BasicBlock) :=
  function.blocks.all.mapM fun (id, block) =>
    match progress.blocks[id]? with
    | none => .error .dangling
    | some emitted => do
      let terminator ← emitTerminator function progress id block.terminator
      pure ⟨emitted.label, emitted.instructions.toList, terminator⟩

/-- The name of a parameter, by position. -/
def parameterName (index : Nat) : Bytes := utf8 "p" ++ Bytes.decimal index

/-- The name, the parameters and the type of the result of a function. -/
def emitHead (context : Context) (function : Blockwork.Function) : Except EmitError Function := do
  let widths ← function.signature.inputs.mapM (width context)
  let result ← width context function.signature.output
  let parameters := widths.zipIdx.map fun (width, index) => ⟨parameterName index, width⟩
  pure ⟨function.name, result, parameters, []⟩

/-- Emits the body of a function with the given parameters. -/
def emitBody (context : Context) (function : Blockwork.Function) (parameters : List Parameter) :
    List Note × Except EmitError (List BasicBlock) :=
  let (notes, outcome) :=
    emitValues context parameters (.start function) function.values.all
  let first := Note.function function.name (function.signature.spelling context.types)
  (first :: notes, outcome.bind (emitBlocks function))

/-- A failure inside a function names it. -/
def EmitError.within (name : Bytes) : EmitError → EmitError
  | .failed failure => .failed (.within (utf8 "function " ++ name) failure)
  | error => error

/-- What came of emitting a module. -/
structure Emission where
  /-- The steps taken. -/
  notes : List Note
  /-- How often it was asked whether to go on. -/
  consultations : Nat
  /-- The module, or why there is none. -/
  outcome : Except EmitError Module

/-- Emits bodies one after the other, asking before each whether to go on. -/
def emitBodies (context : Context) (cancelled : Nat → Bool) (asked : Nat) :
    List (Blockwork.Function × Function) → Emission
  | [] => ⟨[], asked, .ok []⟩
  | (function, head) :: rest =>
    if cancelled asked then ⟨[], asked + 1, .error (.failed (.ofKind .canceled))⟩
    else
      let (notes, body) := emitBody context function head.parameters
      match body with
      | .error error => ⟨notes, asked + 1, .error (error.within function.name)⟩
      | .ok blocks =>
        let emission := emitBodies context cancelled (asked + 1) rest
        ⟨notes ++ emission.notes, emission.consultations,
          emission.outcome.map ({ head with blocks } :: ·)⟩

/-- The module of a context. `cancelled` tells what the answer is when emission asks for the n-th
time whether it should stop. -/
def emit (context : Context) (cancelled : Nat → Bool) : Emission :=
  let functions := context.listFunctions
  match functions.mapM (emitHead context) with
  | .error error => ⟨[], 0, .error error⟩
  | .ok heads => emitBodies context cancelled 0 (functions.zip heads)

end Llvm
end Blockwork
