import Blockwork.Text.Bytes

/-!
# The version of the program

The version is shown with each of its three numbers in a colour of its own, followed by the revision
and the date of the build as far as they are known.
-/

namespace Blockwork

/-- A colour on a terminal, as the number in its escape sequence. -/
structure Color where
  /-- The number. -/
  code : Nat
deriving DecidableEq, Repr

namespace Color

/-- Red. -/
def red : Color := ⟨31⟩

/-- Green. -/
def green : Color := ⟨32⟩

/-- Yellow. -/
def yellow : Color := ⟨33⟩

/-- Blue. -/
def blue : Color := ⟨34⟩

/-- A bold text in a colour, if colours are wanted. -/
def bold (color : Color) (colored : Bool) (text : Bytes) : Bytes :=
  if colored then
    utf8 "\x1b[" ++ Bytes.decimal color.code ++ utf8 ";1m" ++ text ++ utf8 "\x1b[0;22m"
  else text

end Color

/-- What is known about a build of the program. -/
structure Version where
  /-- The version. -/
  text : Bytes := utf8 "0.1.0-dev"
  /-- The revision of the source, if it is known. -/
  revision : Bytes := []
  /-- The date of the build, if it is known. -/
  date : Bytes := []
deriving DecidableEq, Repr

namespace Version

/-- A text before and after the first occurrence of a byte. -/
def cut (separator : UInt8) (text : Bytes) : Bytes × Bytes :=
  (text.takeWhile (· ≠ separator), (text.dropWhile (· ≠ separator)).drop 1)

/-- The version with its three numbers in colours; as it is if it has not three. -/
def shown (version : Version) (colored : Bool) : Bytes :=
  let (core, suffix) := cut 45 version.text
  match Bytes.splitOnByte 46 core with
  | major :: minor :: first :: rest =>
    let patch := Bytes.join (utf8 ".") (first :: rest)
    Color.yellow.bold colored major ++ utf8 "." ++ Color.green.bold colored minor ++ utf8 "." ++
      Color.blue.bold colored patch ++ if suffix = [] then [] else utf8 "-" ++ suffix
  | _ => version.text

/-- The line about the version. -/
def info (version : Version) (colored : Bool) : Bytes :=
  let known := [version.revision.take 12, version.date].filter fun part => part ≠ []
  utf8 "pcb " ++ version.shown colored ++
    if known = [] then [] else utf8 " (" ++ Bytes.join (utf8 ", ") known ++ utf8 ")"

end Version
end Blockwork
