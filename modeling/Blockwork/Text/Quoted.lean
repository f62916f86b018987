import Blockwork.Text.Glyph
import Blockwork.Text.Printable

/-!
# Quoted text

Messages show a piece of input between quotation marks, so that one can see where it begins and
ends: printable characters stand for themselves, a backslash and the quotation mark are escaped by
a backslash, and everything else is written as an escape sequence.
-/

namespace Blockwork
namespace Text
namespace Quoted

/-- The letter that names a control character in an escape sequence. -/
def escapeLetter? (char : Char) : Option Char :=
  match char.toNat with
  | 0x07 => some 'a'
  | 0x08 => some 'b'
  | 0x09 => some 't'
  | 0x0A => some 'n'
  | 0x0B => some 'v'
  | 0x0C => some 'f'
  | 0x0D => some 'r'
  | _ => none

/-- A character that is not printable: by letter, two, four or eight hexadecimal digits. -/
def escape (char : Char) : Bytes :=
  match escapeLetter? char with
  | some letter => Bytes.ofChars ['\\', letter]
  | none =>
    let code := char.toNat
    if code < 0x20 ∨ code = 0x7F then utf8 "\\x" ++ Bytes.lowerHex 2 code
    else if code < 0x10000 then utf8 "\\u" ++ Bytes.lowerHex 4 code
    else utf8 "\\U" ++ Bytes.lowerHex 8 code

/-- A character between the given quotation marks. -/
def char (mark char : Char) : Bytes :=
  if char = mark ∨ char = '\\' then Bytes.ofChars ['\\', char]
  else if isPrintable char then Bytes.ofChars [char]
  else escape char

/-- A glyph inside double quotation marks: an undecodable byte is shown by its value. -/
def glyph (glyph : Glyph) : Bytes :=
  if glyph.isInvalid then glyph.bytes.flatMap fun byte => utf8 "\\x" ++ Bytes.lowerHex 2 byte.toNat
  else char '"' glyph.char

/-- A byte string between double quotation marks. -/
def text (text : Bytes) : Bytes :=
  utf8 "\"" ++ (Glyph.list text).flatMap glyph ++ utf8 "\""

/-- A character between single quotation marks. -/
def single (value : Char) : Bytes :=
  utf8 "'" ++ char '\'' value ++ utf8 "'"

end Quoted
end Text
end Blockwork
