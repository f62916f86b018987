import Blockwork.Text.Bytes

/-!
# LLVM modules

The target of lowering: functions of basic blocks whose instructions compute integers. A result
is referred to by the block and the position of the instruction that computes it; constants and
parameters are used where they stand, and a jump names the label of its target. Types are integer
widths.
-/

namespace Blockwork
namespace Llvm

/-- The code of an operation on two integers. -/
inductive Opcode where
  /-- Product. -/
  | mul
  /-- Quotient of unsigned numbers. -/
  | udiv
  /-- Quotient of signed numbers. -/
  | sdiv
  /-- Remainder of unsigned numbers. -/
  | urem
  /-- Remainder of signed numbers. -/
  | srem
  /-- Sum. -/
  | add
  /-- Difference. -/
  | sub
  /-- Shift to the left. -/
  | shl
  /-- Shift to the right that fills with zeros. -/
  | lshr
  /-- Shift to the right that fills with the sign. -/
  | ashr
  /-- Bitwise conjunction. -/
  | and
  /-- Bitwise exclusive disjunction. -/
  | xor
  /-- Bitwise disjunction. -/
  | or
deriving DecidableEq, Repr

namespace Opcode

/-- The opcodes. -/
def all : List Opcode :=
  [.mul, .udiv, .sdiv, .urem, .srem, .add, .sub, .shl, .lshr, .ashr, .and, .xor, .or]

/-- The word for an opcode. -/
def word : Opcode → String
  | .mul => "mul"
  | .udiv => "udiv"
  | .sdiv => "sdiv"
  | .urem => "urem"
  | .srem => "srem"
  | .add => "add"
  | .sub => "sub"
  | .shl => "shl"
  | .lshr => "lshr"
  | .ashr => "ashr"
  | .and => "and"
  | .xor => "xor"
  | .or => "or"

end Opcode

/-- A parameter of a function. -/
structure Parameter where
  /-- Its name. -/
  name : Bytes
  /-- Its width. -/
  width : Nat
deriving DecidableEq, Repr

/-- A value used by an instruction. -/
inductive Operand where
  /-- A parameter of the function. -/
  | parameter (formal : Parameter)
  /-- A constant. -/
  | constant (width : Nat) (value : Nat)
  /-- The result of an instruction, by block and position in the block. -/
  | result (width : Nat) (block slot : Nat)
deriving DecidableEq, Repr

namespace Operand

/-- The width of an operand. -/
def width : Operand → Nat
  | .parameter formal => formal.width
  | .constant width _ => width
  | .result width _ _ => width

end Operand

/-- An instruction with a result. -/
inductive Instruction where
  /-- An operation on two operands. -/
  | binary (opcode : Opcode) (left right : Operand)
  /-- A call of a function of the module. -/
  | call (width : Nat) (callee : Bytes) (arguments : List Operand)
deriving DecidableEq, Repr

namespace Instruction

/-- The width of the result. -/
def width : Instruction → Nat
  | .binary _ left _ => left.width
  | .call width _ _ => width

end Instruction

/-- The end of a basic block. -/
inductive Terminator where
  /-- A jump to the block with a label. -/
  | branch (label : Bytes)
  /-- A return. -/
  | result (operand : Operand)
deriving DecidableEq, Repr

/-- A basic block. -/
structure BasicBlock where
  /-- The label. -/
  label : Bytes
  /-- The instructions in order. -/
  instructions : List Instruction
  /-- The end of the block. -/
  terminator : Terminator
deriving DecidableEq, Repr

/-- A function; one without blocks is only declared. -/
structure Function where
  /-- Its name. -/
  name : Bytes
  /-- The width of its result. -/
  width : Nat
  /-- Its parameters. -/
  parameters : List Parameter
  /-- Its blocks. -/
  blocks : List BasicBlock
deriving DecidableEq, Repr

/-- A module: functions in order. -/
abbrev Module := List Function

end Llvm
end Blockwork
