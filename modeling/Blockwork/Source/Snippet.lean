import Blockwork.Failure
import Blockwork.Text.Width

/-!
# Snippets

A place in a source text is shown by the line with a caret under the column, so that caret and
character stand above each other on a terminal. Tabulators are shown as four blanks.
-/

namespace Blockwork
namespace Spot

/-- A text with each tabulator replaced by four blanks. -/
def expandTabs (text : Bytes) : Bytes := Bytes.replaceByte 9 (utf8 "    ") text

/-- The line of a place with a caret under its column; nothing for an empty line. -/
def snippet (spot : Spot) : Bytes :=
  if spot.text = [] then []
  else
    let before :=
      if 0 < spot.column ∧ spot.column ≤ spot.text.length + 1 then spot.text.take (spot.column - 1)
      else spot.text
    expandTabs spot.text ++ utf8 "\n" ++
      List.replicate (Text.Width.text (expandTabs before)) 32 ++ utf8 "^"

end Spot
end Blockwork
