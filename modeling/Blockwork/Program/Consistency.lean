import Blockwork.Program.Store

/-!
# Consistency

A check of what construction promises: parameters take the first numbers in input order, every
operand is numbered before its user, every value listed in a block names that block, and
terminators refer to blocks and values that exist.
-/

namespace Blockwork
namespace Consistency

/-- A complaint about something in a function. -/
def complain (subject : Bytes) (words : String) : Except Bytes Unit :=
  .error (subject ++ utf8 ": " ++ utf8 words)

/-- Checks one value against the signature and its operands. -/
def checkValue (function : Function) (id : ValueId) (value : Value) : Except Bytes Unit :=
  match function.signature.inputs[id]? with
  | some type =>
    if value = ⟨type, .parameter id⟩ then .ok ()
    else .error (valueName id ++ utf8 ": expected parameter " ++ Bytes.decimal id)
  | none =>
    match value.origin with
    | .parameter _ => complain (valueName id) "parameter after the signature inputs"
    | .instruction _ instruction =>
      if instruction.operands.all fun operand => decide (operand < id) then .ok ()
      else complain (valueName id) "operand does not precede its user"

/-- Checks that a value listed in a block names that block. -/
def checkListed (function : Function) (block : BlockId) (id : ValueId) : Except Bytes Unit :=
  match (function.values.get? id).bind fun value => value.origin.block? with
  | some home =>
    if home = block then .ok ()
    else .error (valueName id ++ utf8 ": listed in " ++ blockName block ++ utf8 " but points at " ++
      blockName home)
  | none =>
    .error (valueName id ++ utf8 ": listed in " ++ blockName block ++ utf8 " but points at <nil>")

/-- Checks a block: the values listed in it and what its terminator refers to. -/
def checkBlock (function : Function) (id : BlockId) (block : Block) : Except Bytes Unit := do
  block.values.toList.forM (checkListed function id)
  match block.terminator with
  | none => .ok ()
  | some (.branch target) =>
    if target < function.blocks.size then .ok ()
    else .error (blockName id ++ utf8 ": dangling branch target " ++ blockName target)
  | some (.result value) =>
    if value < function.values.size then .ok ()
    else .error (blockName id ++ utf8 ": dangling return value " ++ valueName value)

/-- Checks a function. -/
def checkFunction (function : Function) : Except Bytes Unit := do
  function.values.all.forM fun (id, value) => checkValue function id value
  function.blocks.all.forM fun (id, block) => checkBlock function id block

end Consistency

namespace Context

/-- Accepts a context that keeps what construction promises. -/
def checkConsistency (context : Context) : Except Failure Unit :=
  context.listFunctions.forM fun function =>
    match Consistency.checkFunction function with
    | .ok () => .ok ()
    | .error words => .error (.within (utf8 "function " ++ function.name) (.text words))

end Context

/-- Accepts a context behind a handle that keeps what construction promises. -/
def Store.checkConsistency (store : Store) (handle : Option ContextId) : Except Failure Unit :=
  match store.context? handle with
  | some context => context.checkConsistency
  | none => .error (.text (utf8 "nil context"))

end Blockwork
