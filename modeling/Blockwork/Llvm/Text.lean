import Blockwork.Llvm.Module
import Blockwork.Numeric.Binary64
import Blockwork.Source.Numeral

/-!
# LLVM assembly

The textual form of modules. Results are numbered through a function in block order. A constant is
written in hexadecimal where that has markedly fewer different digits than the decimal form.
-/

namespace Blockwork
namespace Llvm

/-- The way a type is written. -/
def typeText (width : Nat) : Bytes := utf8 "i" ++ Bytes.decimal width

/-- The digits of a number in a base up to sixteen, most significant first. -/
def digits (base number : Nat) : List Char := Nat.toDigits base number

/-- The share of different digits among the most that a numeral of its length could have. -/
def variety (base number : Nat) : Rat :=
  let spelled := digits base number
  Binary64.quotient spelled.eraseDups.length (min spelled.length base)

/-- The greatest variety at which a hexadecimal numeral of the given length is worth it. -/
def varietyLimit (length : Nat) : Rat :=
  if length ≤ 6 then Binary64.quotient 2 length
  else if length ≤ 10 then Binary64.quotient 3 length
  else if length ≤ 16 then Binary64.quotient 4 length
  else Binary64.quotient 4 16

/-- Whether a number is written in hexadecimal. -/
def prefersHex (number : Nat) : Bool :=
  let hex := variety 16 number
  let limit := varietyLimit (digits 16 number).length
  decide (4096 ≤ number) &&
    decide (hex ≤ Binary64.add limit (Binary64.quotient 1 100)) &&
    decide (Binary64.add hex (Binary64.quotient 1 5) ≤ variety 10 number)

/-- A constant. -/
def constantText (width value : Nat) : Bytes :=
  if width = 1 then Bytes.ofBool (value ≠ 0)
  else if prefersHex value then
    utf8 "u0x" ++ (digits 16 value).map fun digit => UInt8.ofNat digit.toUpper.toNat
  else Bytes.decimal value

/-- Whether a byte can stand in a name without quotation marks. -/
def isPlain (byte : UInt8) : Bool :=
  (65 ≤ byte && byte ≤ 90) || (97 ≤ byte && byte ≤ 122) || (48 ≤ byte && byte ≤ 57) ||
    (utf8 "$._-").contains byte

/-- A byte of a quoted name. -/
def nameByte (byte : UInt8) : Bytes :=
  if 0x20 ≤ byte ∧ byte < 0x7F ∧ byte ≠ 0x22 ∧ byte ≠ 0x5C then [byte]
  else utf8 "\\" ++ Bytes.upperHex 2 byte.toNat

/-- The way a name is written. A name that could be taken for a number is quoted. -/
def identifier (name : Bytes) : Bytes :=
  let number := Numeral.isDigits name && (Numeral.fitting? 64 name).isSome
  if name.all isPlain && !number then name
  else utf8 "\"" ++ name.flatMap nameByte ++ utf8 "\""

/-- The name of a function. -/
def globalName (name : Bytes) : Bytes := utf8 "@" ++ identifier name

/-- The name of a parameter, or a label that is referred to. -/
def localName (name : Bytes) : Bytes := utf8 "%" ++ identifier name

/-- The number of the first result of a block. -/
def firstNumber (function : Function) (block : Nat) : Nat :=
  ((function.blocks.take block).map fun content => content.instructions.length).foldl (· + ·) 0

/-- An operand without its type. -/
def operandText (function : Function) : Operand → Bytes
  | .parameter formal => localName formal.name
  | .constant width value => constantText width value
  | .result _ block slot => utf8 "%" ++ Bytes.decimal (firstNumber function block + slot)

/-- An operand with its type. -/
def typedText (function : Function) (operand : Operand) : Bytes :=
  typeText operand.width ++ utf8 " " ++ operandText function operand

/-- What computes a result. -/
def instructionText (function : Function) : Instruction → Bytes
  | .binary opcode left right =>
    utf8 opcode.word ++ utf8 " " ++ typedText function left ++ utf8 ", " ++
      operandText function right
  | .call width callee arguments =>
    utf8 "call " ++ typeText width ++ utf8 " " ++ globalName callee ++ utf8 "(" ++
      Bytes.join (utf8 ", ") (arguments.map (typedText function)) ++ utf8 ")"

/-- The end of a block. -/
def terminatorText (function : Function) : Terminator → Bytes
  | .branch label => utf8 "br label " ++ localName label
  | .result operand => utf8 "ret " ++ typedText function operand

/-- The lines of a block. -/
def blockText (function : Function) (index : Nat) (block : BasicBlock) : Bytes :=
  let first := firstNumber function index
  identifier block.label ++ utf8 ":\n" ++
    (block.instructions.zipIdx.flatMap fun (instruction, slot) =>
      utf8 "\t%" ++ Bytes.decimal (first + slot) ++ utf8 " = " ++
        instructionText function instruction ++ utf8 "\n") ++
    utf8 "\t" ++ terminatorText function block.terminator ++ utf8 "\n"

/-- The type and name of a function with its parameters. -/
def headText (function : Function) : Bytes :=
  let parameters := function.parameters.map fun parameter =>
    typeText parameter.width ++ utf8 " " ++ localName parameter.name
  typeText function.width ++ utf8 " " ++ globalName function.name ++ utf8 "(" ++
    Bytes.join (utf8 ", ") parameters ++ utf8 ")"

/-- The lines of a function. -/
def functionText (function : Function) : Bytes :=
  if function.blocks.isEmpty then utf8 "declare " ++ headText function ++ utf8 "\n"
  else
    utf8 "define " ++ headText function ++ utf8 " \x7b\n" ++
      Bytes.join (utf8 "\n") (function.blocks.zipIdx.map fun (block, index) =>
        blockText function index block) ++
      utf8 "\x7d\n"

/-- The text of a module: functions with an empty line between neighbours. -/
def Module.text (module : Module) : Bytes :=
  Bytes.join (utf8 "\n") (module.map functionText)

end Llvm
end Blockwork
