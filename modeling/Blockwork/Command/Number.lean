import Blockwork.Text.Bytes

/-!
# Numbers on the command line

An integer may have a sign, a base in front of its digits, and underscores between digits. It is
read from left to right, and what is wrong first is what is reported.
-/

namespace Blockwork
namespace Command

/-- Why a word is no value of a flag. -/
inductive WordError where
  /-- It is not written as one. -/
  | malformed
  /-- It is too large or too small. -/
  | outOfRange
deriving DecidableEq, Repr

namespace WordError

/-- The text of an error. -/
def message : WordError → String
  | .malformed => "invalid syntax"
  | .outOfRange => "value out of range"

end WordError

/-- The value of a digit or letter as a digit. -/
def digit? (byte : UInt8) : Option Nat :=
  if 48 ≤ byte ∧ byte ≤ 57 then some (byte.toNat - 48)
  else if 97 ≤ byte ∧ byte ≤ 122 then some (byte.toNat - 87)
  else if 65 ≤ byte ∧ byte ≤ 90 then some (byte.toNat - 55)
  else none

/-- The base that the beginning of a number gives, whether it gives one, and the digits. -/
def splitBase (word : Bytes) : Nat × Bool × Bytes :=
  match word with
  | 48 :: letter :: next :: rest =>
    match Bytes.lowerAscii [letter] with
    | [98] => (2, true, next :: rest)
    | [111] => (8, true, next :: rest)
    | [120] => (16, true, next :: rest)
    | _ => (8, true, letter :: next :: rest)
  | 48 :: rest => (8, true, rest)
  | _ => (10, false, word)

/-- The number that digits denote; underscores do not count, and no number needs more than
sixty-four bits. -/
def accumulate (base : Nat) (number : Nat) : Bytes → Except WordError Nat
  | [] => .ok number
  | byte :: rest =>
    if byte = 95 then accumulate base number rest
    else
      match digit? byte with
      | none => .error .malformed
      | some digit =>
        if base ≤ digit then .error .malformed
        else if 0x10000000000000000 ≤ number * base + digit then .error .outOfRange
        else accumulate base (number * base + digit) rest

/-- A number without a sign. A single underscore may stand between digits and after the base. -/
def magnitude (word : Bytes) : Except WordError Nat := do
  if word = [] then throw .malformed
  let (base, given, digits) := splitBase word
  let number ← accumulate base 0 digits
  let grouped := if given then 48 :: digits else digits
  if (Bytes.splitOnByte 95 grouped).contains [] then throw .malformed
  pure number

/-- An integer that fits sixty-four bits. -/
def integer (word : Bytes) : Except WordError Int :=
  let (negative, rest) := match word with
    | 43 :: rest => (false, rest)
    | 45 :: rest => (true, rest)
    | _ => (false, word)
  match magnitude rest with
  | .error error => .error error
  | .ok number =>
    if negative then if number ≤ 0x8000000000000000 then .ok (-number) else .error .outOfRange
    else if number < 0x8000000000000000 then .ok number
    else .error .outOfRange

/-- A truth value. -/
def truth (word : Bytes) : Except WordError Bool :=
  if ["1", "t", "T", "true", "TRUE", "True"].any fun known => word = utf8 known then .ok true
  else if ["0", "f", "F", "false", "FALSE", "False"].any fun known => word = utf8 known then
    .ok false
  else .error .malformed

end Command
end Blockwork
