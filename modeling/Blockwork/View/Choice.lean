import Blockwork.Failure
import Blockwork.Text.Case
import Blockwork.Text.Quoted

/-!
# Whether the progress view is shown

The view is shown if it is asked for or, unless decided otherwise, if the output is a terminal; but
never when little is to be printed, nor when modules are.
-/

namespace Blockwork
namespace View

/-- The setting of the view. -/
structure Choice where
  /-- The code: zero leaves the choice open, one asks for the view, two declines it. -/
  code : UInt8
deriving DecidableEq, Repr

namespace Choice

/-- The terminal decides. -/
def auto : Choice := ⟨0⟩

/-- The view is shown. -/
def on : Choice := ⟨1⟩

/-- The view is not shown. -/
def off : Choice := ⟨2⟩

/-- The setting that a word names. -/
def parse (word : Bytes) : Except Failure Choice :=
  let setting := Text.trim (Text.lower word)
  if setting = [] ∨ setting = utf8 "auto" then .ok auto
  else if setting = utf8 "on" then .ok on
  else if setting = utf8 "off" then .ok off
  else
    .error (.text (utf8 "invalid --ui value " ++ Text.Quoted.text word ++
      utf8 " (expected auto|on|off)"))

/-- Whether the view is shown. -/
def shows (choice : Choice) (quiet verbose terminal : Bool) : Bool :=
  if quiet || verbose || choice = off then false
  else if choice = on then true
  else terminal

end Choice
end View
end Blockwork
