import Blockwork.Failure.Kind
import Blockwork.Text.Normal
import Blockwork.Text.Quoted

/-!
# Function names

A name has to stand in the textual form as one word, so it may not be empty or hold white space,
control characters or any of the characters that are punctuation there.
-/

namespace Blockwork
namespace FunctionName

/-- The characters that are punctuation in the textual form or begin a comment. -/
def punctuation : List Char := ['(', ')', ',', ':', '%', '\x7b', '\x7d', ';', '=']

/-- Whether a character cannot stand in a name. -/
def isReserved (char : Char) : Bool :=
  Text.isSpace char || Text.isControl char || punctuation.contains char

/-- Refuses a text that cannot be a name, pointing at the first character that is at fault. -/
def check (name : Bytes) : Except Fault Unit :=
  if name = [] then .error { kind := .invalidName, detail := utf8 "empty" }
  else
    match (Glyph.list name).find? fun glyph => isReserved glyph.char with
    | none => .ok ()
    | some glyph =>
      .error {
        kind := .invalidName
        detail := Text.Quoted.text name ++ utf8 " contains " ++ Text.Quoted.single glyph.char }

end FunctionName
end Blockwork
