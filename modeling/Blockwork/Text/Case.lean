import Blockwork.Text.CharClass
import Blockwork.Text.Glyph

/-!
# Letter case

Settings are words of ASCII letters, and they are recognised in any mixture of capitals and small
letters. Words are compared byte by byte, so outside ASCII only those capitals matter whose small
letter takes another number of bytes; the small letters of two of them are ASCII. Two characters
outside ASCII count as the same letter as one in it when case is ignored.
-/

namespace Blockwork
namespace Text

/-- Rows `(capital, small)`: the capitals whose small letter takes another number of bytes. -/
def resizedCapitals : List (Nat × Nat) :=
  [(0x130, 0x69), (0x23A, 0x2C65), (0x23E, 0x2C66), (0x1E9E, 0xDF), (0x2126, 0x3C9), (0x212A, 0x6B),
   (0x212B, 0xE5), (0x2C62, 0x26B), (0x2C64, 0x27D), (0x2C6D, 0x251), (0x2C6E, 0x271),
   (0x2C6F, 0x250), (0x2C70, 0x252), (0x2C7E, 0x23F), (0x2C7F, 0x240), (0xA78D, 0x265),
   (0xA7AA, 0x266), (0xA7AB, 0x25C), (0xA7AC, 0x261), (0xA7AD, 0x26C), (0xA7AE, 0x26A),
   (0xA7B0, 0x29E), (0xA7B1, 0x287), (0xA7B2, 0x29D), (0xA7C5, 0x282), (0xA7CB, 0x264),
   (0xA7DC, 0x19B)]

/-- The small letter of a capital that is ASCII or changes its number of bytes. -/
def lowerChar (char : Char) : Char :=
  match resizedCapitals.lookup char.toNat with
  | some small => Char.ofNat small
  | none => char.toLower

/-- A text in small letters, as far as comparing it with ASCII words can show. -/
def lower (text : Bytes) : Bytes :=
  Bytes.ofChars ((Glyph.list text).map fun glyph => lowerChar glyph.char)

/-- The ASCII small letter that a character is the same letter as: the Kelvin sign is a k, the long
s an s. -/
def foldChar (char : Char) : Char :=
  if char.toNat = 0x212A then 'k'
  else if char.toNat = 0x17F then 's'
  else char.toLower

/-- Whether a text is the given ASCII word when case is ignored. -/
def matchesWord (word : String) (text : Bytes) : Bool :=
  (Glyph.list text).map (fun glyph => foldChar glyph.char) = word.toList.map foldChar

/-- A text without the white space at its beginning. -/
def trimBeginning (text : Bytes) : Bytes :=
  Glyph.spell ((Glyph.list text).dropWhile fun glyph => isSpace glyph.char)

/-- A text without the white space at both ends. -/
def trim (text : Bytes) : Bytes :=
  let glyphs := (Glyph.list text).dropWhile fun glyph => isSpace glyph.char
  Glyph.spell (glyphs.reverse.dropWhile fun glyph => isSpace glyph.char).reverse

end Text
end Blockwork
