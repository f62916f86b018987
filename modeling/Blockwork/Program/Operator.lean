import Blockwork.Text.Bytes

/-!
# Operators

The operations on two values, each with its code and its mnemonic. Codes below those of the
operators belong to the other kinds of value: parameters, constants and calls.
-/

namespace Blockwork

/-- An operation on two values of one type. -/
inductive Operator where
  /-- Product. -/
  | mul
  /-- Quotient of unsigned numbers. -/
  | udiv
  /-- Quotient of signed numbers. -/
  | sdiv
  /-- Remainder of unsigned numbers. -/
  | urem
  /-- Remainder of signed numbers. -/
  | srem
  /-- Sum. -/
  | add
  /-- Difference. -/
  | sub
  /-- Shift to the left. -/
  | shl
  /-- Shift to the right that fills with zeros. -/
  | lshr
  /-- Shift to the right that fills with the sign. -/
  | ashr
  /-- Bitwise conjunction. -/
  | and
  /-- Bitwise exclusive disjunction. -/
  | xor
  /-- Bitwise disjunction. -/
  | or
  /-- Equal. -/
  | eq
  /-- Different. -/
  | neq
  /-- Less. -/
  | lt
  /-- Greater. -/
  | gt
  /-- Less or equal. -/
  | lte
  /-- Greater or equal. -/
  | gte
deriving DecidableEq, Repr

namespace Operator

/-- The operators in the order of their codes. -/
def all : List Operator :=
  [.mul, .udiv, .sdiv, .urem, .srem, .add, .sub, .shl, .lshr, .ashr, .and, .xor, .or, .eq, .neq,
   .lt, .gt, .lte, .gte]

/-- The code of an operator. -/
def code : Operator → UInt8
  | .mul => 3
  | .udiv => 4
  | .sdiv => 5
  | .urem => 6
  | .srem => 7
  | .add => 8
  | .sub => 9
  | .shl => 10
  | .lshr => 11
  | .ashr => 12
  | .and => 13
  | .xor => 14
  | .or => 15
  | .eq => 16
  | .neq => 17
  | .lt => 18
  | .gt => 19
  | .lte => 20
  | .gte => 21

/-- The word for an operator. -/
def mnemonic : Operator → String
  | .mul => "mul"
  | .udiv => "udiv"
  | .sdiv => "sdiv"
  | .urem => "urem"
  | .srem => "srem"
  | .add => "add"
  | .sub => "sub"
  | .shl => "shl"
  | .lshr => "lshr"
  | .ashr => "ashr"
  | .and => "and"
  | .xor => "xor"
  | .or => "or"
  | .eq => "eq"
  | .neq => "neq"
  | .lt => "lt"
  | .gt => "gt"
  | .lte => "lte"
  | .gte => "gte"

/-- Whether an operator compares its operands; its result is then a truth value. -/
def isComparison : Operator → Bool
  | .eq | .neq | .lt | .gt | .lte | .gte => true
  | _ => false

/-- The operator with the given code. -/
def ofCode? (code : UInt8) : Option Operator :=
  all.find? fun operator => operator.code = code

/-- The operator with the given word. -/
def ofMnemonic? (word : Bytes) : Option Operator :=
  all.find? fun operator => utf8 operator.mnemonic = word

/-- Codes and operators correspond. -/
theorem ofCode?_code (operator : Operator) : ofCode? operator.code = some operator := by
  cases operator <;> decide

/-- Words and operators correspond. -/
theorem ofMnemonic?_mnemonic (operator : Operator) :
    ofMnemonic? (utf8 operator.mnemonic) = some operator := by
  cases operator <;> decide

end Operator

namespace KindCode

/-- The code of parameters. -/
def parameter : UInt8 := 0

/-- The code of constants. -/
def const : UInt8 := 1

/-- The code of calls. -/
def call : UInt8 := 2

/-- The word for a kind of value, by code. -/
def mnemonic (code : UInt8) : Bytes :=
  if code = parameter then utf8 "param"
  else if code = const then utf8 "const"
  else if code = call then utf8 "call"
  else
    match Operator.ofCode? code with
    | some operator => utf8 operator.mnemonic
    | none => utf8 "ValueKind(" ++ Bytes.decimal code.toNat ++ utf8 ")"

/-- Whether a code is that of an arithmetic or bitwise operator. -/
def isArithmetic (code : UInt8) : Bool :=
  match Operator.ofCode? code with
  | some operator => !operator.isComparison
  | none => false

/-- Whether a code is that of a comparison. -/
def isComparison (code : UInt8) : Bool :=
  match Operator.ofCode? code with
  | some operator => operator.isComparison
  | none => false

end KindCode
end Blockwork
