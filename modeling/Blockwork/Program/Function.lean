import Blockwork.Program.Operator
import Blockwork.Storage.Arena
import Blockwork.Typing.Interner

/-!
# Functions, blocks and values

A function owns its values and its blocks. Values are numbered through the whole function: first
the parameters, then the results of instructions in the order in which they were built. A block
lists the values built in it and may be ended by a terminator.
-/

namespace Blockwork

/-- The number of a function in its context. -/
abbrev FunctionId := Nat

/-- The number of a block in its function. -/
abbrev BlockId := Nat

/-- The number of a value in its function. -/
abbrev ValueId := Nat

/-- The number that belongs to a handle of an arena. Handles have thirty-two bits and numbers a sign
among as many, so half of the handles have none. -/
def idOfHandle (handle : UInt32) : Except Fault Nat :=
  if handle.toNat < 0x80000000 then .ok handle.toNat
  else
    .error {
      kind := .indexOutOfRange
      detail := utf8 "handle " ++ Bytes.decimal handle.toNat ++ utf8 " exceeds the id space" }

/-- What computes a value. -/
inductive Instruction where
  /-- A constant. -/
  | const (literal : UInt64)
  /-- A call of a function of the same context. -/
  | call (callee : FunctionId) (arguments : List ValueId)
  /-- An operation on two values. -/
  | binary (operator : Operator) (left right : ValueId)
deriving DecidableEq, Repr

namespace Instruction

/-- The code of the kind of value that an instruction computes. -/
def code : Instruction → UInt8
  | .const _ => KindCode.const
  | .call _ _ => KindCode.call
  | .binary operator _ _ => operator.code

/-- The values an instruction uses. -/
def operands : Instruction → List ValueId
  | .const _ => []
  | .call _ arguments => arguments
  | .binary _ left right => [left, right]

end Instruction

/-- Where a value comes from. -/
inductive Origin where
  /-- An argument of the function, by position. -/
  | parameter (index : Nat)
  /-- An instruction in a block. -/
  | instruction (block : BlockId) (instruction : Instruction)
deriving DecidableEq, Repr

namespace Origin

/-- The block that computes a value; none for parameters. -/
def block? : Origin → Option BlockId
  | .parameter _ => none
  | .instruction block _ => some block

/-- The code of the kind of a value. -/
def code : Origin → UInt8
  | .parameter _ => KindCode.parameter
  | .instruction _ computed => computed.code

end Origin

/-- A value of a function. -/
structure Value where
  /-- Its type. -/
  type : TypeId
  /-- Where it comes from. -/
  origin : Origin
deriving DecidableEq, Repr

namespace Value

/-- Whether a value is a parameter. -/
def isParameter (value : Value) : Bool := value.origin.block?.isNone

/-- The number of a constant; zero for any other value. -/
def literal (value : Value) : UInt64 :=
  match value.origin with
  | .instruction _ (.const literal) => literal
  | _ => 0

/-- The position of a parameter; zero for any other value. -/
def parameterIndex (value : Value) : Nat :=
  match value.origin with
  | .parameter index => index
  | _ => 0

/-- The function that a call calls. -/
def callee? (value : Value) : Option FunctionId :=
  match value.origin with
  | .instruction _ (.call callee _) => some callee
  | _ => none

/-- The arguments of a call. -/
def arguments? (value : Value) : Option (List ValueId) :=
  match value.origin with
  | .instruction _ (.call _ arguments) => some arguments
  | _ => none

/-- The two operands of an operation. -/
def sides? (value : Value) : Option (ValueId × ValueId) :=
  match value.origin with
  | .instruction _ (.binary _ left right) => some (left, right)
  | _ => none

end Value

/-- The control transfer that ends a block. -/
inductive Terminator where
  /-- A jump to a block of the same function. -/
  | branch (target : BlockId)
  /-- The end of the function, with its result. -/
  | result (value : ValueId)
deriving DecidableEq, Repr

namespace Terminator

/-- The word for the kind of a terminator; a block that is not ended has none. -/
def kindName : Option Terminator → String
  | none => "none"
  | some (.branch _) => "branch"
  | some (.result _) => "return"

/-- The word for the kind of terminator that a code stands for. -/
def codeName (code : UInt8) : String :=
  if code = 1 then "branch" else if code = 2 then "return" else "none"

end Terminator

/-- A sequence of values, ended by a terminator once it is complete. -/
structure Block where
  /-- The values computed in the block, in order. -/
  values : Array ValueId := #[]
  /-- The end of the block, set at most once. -/
  terminator : Option Terminator := none
deriving DecidableEq, Repr

namespace Block

/-- The block that a block branches to. -/
def target? (block : Block) : Option BlockId :=
  match block.terminator with
  | some (.branch target) => some target
  | _ => none

/-- The value that a block returns. -/
def result? (block : Block) : Option ValueId :=
  match block.terminator with
  | some (.result value) => some value
  | _ => none

end Block

/-- A named unit of code. -/
structure Function where
  /-- The name, in normal form. -/
  name : Bytes
  /-- The types of arguments and result. -/
  signature : Signature
  /-- The blocks; the first is the entry. -/
  blocks : Arena Block := Arena.empty
  /-- The values, parameters first. -/
  values : Arena Value := Arena.empty
deriving DecidableEq, Repr

namespace Function

/-- The numbers of the parameters. -/
def parameters (function : Function) : List ValueId :=
  List.range function.signature.inputs.length

/-- Appends an empty block. -/
def pushBlock (function : Function) : Function :=
  { function with blocks := function.blocks.push {} }

/-- Appends a parameter to the values. -/
def pushParameter (function : Function) (type : TypeId) (index : Nat) : Function :=
  { function with values := function.values.push ⟨type, .parameter index⟩ }

/-- Appends a value of a block to the values. -/
def storeValue (function : Function) (block : BlockId) (type : TypeId)
    (instruction : Instruction) : Function :=
  { function with values := function.values.push ⟨type, .instruction block instruction⟩ }

/-- Appends a number to the list of a block. -/
def listValue (function : Function) (block : BlockId) (value : ValueId) : Function :=
  { function with
    blocks := function.blocks.modify block fun target =>
      { target with values := target.values.push value } }

/-- Ends a block. -/
def terminate (function : Function) (block : BlockId) (terminator : Terminator) : Function :=
  { function with
    blocks := function.blocks.modify block fun target =>
      { target with terminator := some terminator } }

end Function

/-- The way a value is referred to. -/
def valueName (value : ValueId) : Bytes := utf8 "%" ++ Bytes.decimal value

/-- The way a block is referred to. -/
def blockName (block : BlockId) : Bytes := utf8 "bb" ++ Bytes.decimal block

end Blockwork
