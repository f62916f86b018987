import Blockwork.Text.Glyph

/-!
# JSON strings

A string in JSON is written so that it can also stand in a web page: besides quotation marks,
backslashes and control characters, the characters with a meaning in markup and the two line
separators are escaped. Undecodable bytes become the replacement character.
-/

namespace Blockwork
namespace Json

/-- The letter that names a control character in an escape sequence. -/
def escapeLetter? (code : Nat) : Option Char :=
  match code with
  | 0x08 => some 'b'
  | 0x09 => some 't'
  | 0x0A => some 'n'
  | 0x0C => some 'f'
  | 0x0D => some 'r'
  | _ => none

/-- Whether a character is written by its number. -/
def isNumbered (code : Nat) : Bool :=
  code < 0x20 || code = 0x3C || code = 0x3E || code = 0x26 || code = 0x2028 || code = 0x2029

/-- A glyph inside a string. -/
def glyph (glyph : Glyph) : Bytes :=
  let code := glyph.char.toNat
  if code = 0x22 ∨ code = 0x5C then Bytes.ofChars ['\\', glyph.char]
  else
    match escapeLetter? code with
    | some letter => Bytes.ofChars ['\\', letter]
    | none =>
      if isNumbered code then utf8 "\\u" ++ Bytes.lowerHex 4 code
      else Bytes.ofChars [glyph.char]

/-- A string. -/
def quoted (text : Bytes) : Bytes :=
  utf8 "\"" ++ (Glyph.list text).flatMap glyph ++ utf8 "\""

end Json
end Blockwork
