import Blockwork.Failure
import Blockwork.Text.Quoted

/-!
# Numerals

Numbers are written in decimal. How large a number may be depends on its use: literals fill a
word of sixty-four bits, the numbers of values and blocks a signed word of thirty-two.
-/

namespace Blockwork
namespace Numeral

/-- Whether a byte is a decimal digit. -/
def isDigit (byte : UInt8) : Bool := 48 ≤ byte && byte ≤ 57

/-- Whether a word consists of digits. -/
def isDigits (word : Bytes) : Bool := word ≠ [] && word.all isDigit

/-- The number that digits denote. -/
def value (digits : Bytes) : Nat :=
  digits.foldl (fun number digit => number * 10 + (digit.toNat - 48)) 0

/-- The number that digits denote, if it fits the given number of bits. -/
def fitting? (bits : Nat) (digits : Bytes) : Option Nat :=
  if value digits < Nat.pow 2 bits then some (value digits) else none

/-- The failure of a number that no machine word holds. -/
def rangeFailure (digits : Bytes) : Failure :=
  .text (utf8 "strconv.ParseUint: parsing " ++ Text.Quoted.text digits ++
    utf8 ": value out of range")

/-- The number of a value or block. -/
def index (digits : Bytes) : Except Failure Nat :=
  match fitting? 64 digits with
  | none => .error (rangeFailure digits)
  | some number => if number < 0x80000000 then .ok number else .error (.text (utf8 "out of range"))

end Numeral
end Blockwork
