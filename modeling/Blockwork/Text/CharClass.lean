/-!
# White space and control characters

The two character classes that decide where words end and which names are refused.
-/

namespace Blockwork
namespace Text

/-- Whether a code lies in one of the closed ranges of a table. -/
def inRanges (table : List (Nat × Nat)) (code : Nat) : Bool :=
  table.any fun (first, last) => first ≤ code && code ≤ last

/-- The ranges of white-space characters. -/
def spaces : List (Nat × Nat) :=
  [(0x09, 0x0D), (0x20, 0x20), (0x85, 0x85), (0xA0, 0xA0), (0x1680, 0x1680), (0x2000, 0x200A),
   (0x2028, 0x2029), (0x202F, 0x202F), (0x205F, 0x205F), (0x3000, 0x3000)]

/-- Whether a character is white space. -/
def isSpace (char : Char) : Bool := inRanges spaces char.toNat

/-- Whether a character is a control character: U+0000 to U+001F or U+007F to U+009F. -/
def isControl (char : Char) : Bool := inRanges [(0x00, 0x1F), (0x7F, 0x9F)] char.toNat

end Text
end Blockwork
