/-!
# Byte strings

Names, sources, paths and messages are byte strings, because none of them has to be valid UTF-8.
This module holds the operations on them that mention no character: spelling numbers, splitting,
joining and trimming.
-/

namespace Blockwork

/-- A byte string. -/
abbrev Bytes := List UInt8

/-- The UTF-8 encoding of a text. -/
def utf8 (text : String) : Bytes :=
  text.toList.flatMap String.utf8EncodeChar

namespace Bytes

/-- The UTF-8 encoding of a sequence of characters. -/
def ofChars (chars : List Char) : Bytes :=
  chars.flatMap String.utf8EncodeChar

/-- A number in decimal, without leading zeros. -/
def decimal (number : Nat) : Bytes :=
  (Nat.toDigits 10 number).map fun digit => UInt8.ofNat digit.toNat

/-- A signed number in decimal. -/
def signed : Int → Bytes
  | .ofNat number => decimal number
  | .negSucc number => utf8 "-" ++ decimal (number + 1)

/-- A truth value as a word. -/
def ofBool (flag : Bool) : Bytes :=
  utf8 (if flag then "true" else "false")

/-- The digit of a value below sixteen, in lower case. -/
def lowerHexDigit (value : Nat) : UInt8 :=
  UInt8.ofNat (if value < 10 then 48 + value else 87 + value)

/-- The digit of a value below sixteen, in upper case. -/
def upperHexDigit (value : Nat) : UInt8 :=
  UInt8.ofNat (if value < 10 then 48 + value else 55 + value)

/-- The lowest `count` hexadecimal digits of a number, in lower case. -/
def lowerHex (count number : Nat) : Bytes :=
  (List.range count).reverse.map fun place => lowerHexDigit (number / Nat.pow 16 place % 16)

/-- Every byte by its two hexadecimal digits, in lower case. -/
def hexText (text : Bytes) : Bytes := text.flatMap fun byte => lowerHex 2 byte.toNat

/-- The lowest `count` hexadecimal digits of a number, in upper case. -/
def upperHex (count number : Nat) : Bytes :=
  (List.range count).reverse.map fun place => upperHexDigit (number / Nat.pow 16 place % 16)

/-- The lowest `count` bytes of a number, most significant first. -/
def bigEndian (count number : Nat) : Bytes :=
  (List.range count).reverse.map fun place => UInt8.ofNat (number / Nat.pow 256 place)

/-- The byte strings one after the other, with a separator between neighbours. -/
def join (separator : Bytes) : List Bytes → Bytes
  | [] => []
  | [only] => only
  | first :: second :: rest => first ++ separator ++ join separator (second :: rest)

/-- The pieces between the occurrences of a byte: always one more than there are occurrences. -/
def splitOnByte (separator : UInt8) : Bytes → List Bytes
  | [] => [[]]
  | byte :: rest =>
    if byte = separator then [] :: splitOnByte separator rest
    else
      match splitOnByte separator rest with
      | [] => [[byte]]
      | piece :: pieces => (byte :: piece) :: pieces

/-- The rest of a byte string after a given beginning. -/
def dropBeginning? : Bytes → Bytes → Option Bytes
  | [], text => some text
  | _ :: _, [] => none
  | expected :: beginning, byte :: text =>
    if expected = byte then dropBeginning? beginning text else none

/-- Whether a byte string begins with another. -/
def beginsWith (beginning text : Bytes) : Bool :=
  (dropBeginning? beginning text).isSome

/-- The rest of a byte string before a given ending. -/
def dropEnding? (ending text : Bytes) : Option Bytes :=
  (dropBeginning? ending.reverse text.reverse).map List.reverse

/-- Whether a byte string ends with another. -/
def endsWith (ending text : Bytes) : Bool :=
  (dropEnding? ending text).isSome

/-- A byte string without one occurrence of the given ending, if it has it. -/
def trimEnding (ending text : Bytes) : Bytes :=
  (dropEnding? ending text).getD text

/-- Each occurrence of a byte replaced by a byte string. -/
def replaceByte (byte : UInt8) (replacement : Bytes) (text : Bytes) : Bytes :=
  text.flatMap fun current => if current = byte then replacement else [current]

/-- Blanks are added on the right up to the given number of bytes. -/
def padRight (width : Nat) (text : Bytes) : Bytes :=
  text ++ List.replicate (width - text.length) 32

/-- Blanks are added on the left up to the given number of bytes. -/
def padLeft (width : Nat) (text : Bytes) : Bytes :=
  List.replicate (width - text.length) 32 ++ text

/-- Lexicographic order by byte value. -/
def precedes : Bytes → Bytes → Bool
  | [], _ => true
  | _ :: _, [] => false
  | left :: lefts, right :: rights =>
    if left < right then true else if right < left then false else precedes lefts rights

/-- Whether every byte is an ASCII character. -/
def isAscii (text : Bytes) : Bool :=
  text.all (· < 0x80)

/-- ASCII capitals as small letters. -/
def lowerAscii (text : Bytes) : Bytes :=
  text.map fun byte => if 65 ≤ byte ∧ byte ≤ 90 then byte + 32 else byte

end Bytes
end Blockwork
