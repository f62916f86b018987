import Blockwork.Text.Width

/-!
# Lines of a terminal

How many columns a line takes on a terminal that obeys control sequences. The terminal reads bytes;
a control sequence takes no column, and it ends where its last byte or a byte that no sequence
contains is read. A lead byte outside a text that belongs to a sequence begins a cluster, which is
read as a whole.
-/

namespace Blockwork
namespace Text
namespace Terminal

/-- What the terminal is reading. -/
inductive Mode where
  /-- Text. -/
  | ground
  /-- A sequence after its escape character. -/
  | escape
  /-- An escape sequence with an intermediate byte. -/
  | escapeMore
  /-- A control sequence at its beginning or in its parameters. -/
  | control
  /-- A control sequence with an intermediate byte. -/
  | controlMore
  /-- A device control string at its beginning. -/
  | deviceStart
  /-- A device control string in its parameters. -/
  | device
  /-- A device control string with an intermediate byte. -/
  | deviceMore
  /-- The text of a device control string. -/
  | deviceText
  /-- The text of an operating system command. -/
  | command
  /-- The text of a message that is ignored. -/
  | message
deriving DecidableEq, Repr

/-- What a byte does. -/
inductive Effect where
  /-- It takes no column. -/
  | none (next : Mode)
  /-- It takes a column. -/
  | column
  /-- It begins a cluster. -/
  | cluster
deriving DecidableEq, Repr

/-- What a byte does if the mode does not say otherwise: it begins a cluster or a sequence, or ends
the sequence. -/
def common (byte : UInt8) : Effect :=
  if 0xC2 ≤ byte ∧ byte < 0xF5 then .cluster
  else if byte = 0x1B then .none .escape
  else if byte = 0x90 then .none .deviceStart
  else if byte = 0x9B then .none .control
  else if byte = 0x9D then .none .command
  else if byte = 0x98 ∨ byte = 0x9E ∨ byte = 0x9F then .none .message
  else .none .ground

/-- Whether a byte is a control character that does not end a sequence. -/
def isQuiet (byte : UInt8) : Bool := byte < 0x20 && byte ≠ 0x18 && byte ≠ 0x1A && byte ≠ 0x1B

/-- Whether a byte is an intermediate byte of a sequence. -/
def isIntermediate (byte : UInt8) : Bool := 0x20 ≤ byte && byte < 0x30

/-- Whether a byte is a parameter of a sequence. -/
def isParameter (byte : UInt8) : Bool := 0x30 ≤ byte && byte < 0x40

/-- The mode after the byte that follows an escape character, if it is no control character. -/
def afterEscape (byte : UInt8) : Mode :=
  if byte = 0x50 then .deviceStart
  else if byte = 0x5B then .control
  else if byte = 0x5D then .command
  else if byte = 0x58 ∨ byte = 0x5E ∨ byte = 0x5F then .message
  else .ground

/-- What a byte does in a mode. -/
def effect (mode : Mode) (byte : UInt8) : Effect :=
  match mode with
  | .ground => if 0x20 ≤ byte ∧ byte < 0x80 then .column else common byte
  | .escape =>
    if isQuiet byte ∨ byte = 0x7F then .none .escape
    else if isIntermediate byte then .none .escapeMore
    else if 0x30 ≤ byte ∧ byte < 0x7F then .none (afterEscape byte)
    else common byte
  | .escapeMore =>
    if isQuiet byte ∨ isIntermediate byte ∨ byte = 0x7F then .none .escapeMore else common byte
  | .control =>
    if isQuiet byte ∨ isParameter byte ∨ byte = 0x7F then .none .control
    else if isIntermediate byte then .none .controlMore
    else common byte
  | .controlMore =>
    if isQuiet byte ∨ isIntermediate byte ∨ byte = 0x7F then .none .controlMore else common byte
  | .deviceStart =>
    if byte = 0x1B ∨ 0x08 ≤ byte ∧ byte < 0x0E ∨ 0x40 ≤ byte ∧ byte < 0x7F then .none .deviceText
    else if isQuiet byte ∨ byte = 0x7F then .none .deviceStart
    else if isIntermediate byte then .none .deviceMore
    else if isParameter byte then .none .device
    else common byte
  | .device =>
    if isQuiet byte ∨ isParameter byte ∨ byte = 0x7F then .none .device
    else if isIntermediate byte then .none .deviceMore
    else if 0x40 ≤ byte ∧ byte < 0x7F then .none .deviceText
    else common byte
  | .deviceMore =>
    if isQuiet byte ∨ isIntermediate byte ∨ byte = 0x7F then .none .deviceMore
    else if 0x30 ≤ byte ∧ byte < 0x7F then .none .deviceText
    else common byte
  | .deviceText =>
    if byte = 0x9C ∨ byte = 0x18 ∨ byte = 0x1A then .none .ground
    else if byte = 0x1B then .none .escape
    else .none .deviceText
  | .command =>
    if byte = 0x07 ∨ byte = 0x9C ∨ byte = 0x18 ∨ byte = 0x1A then .none .ground
    else if byte = 0x1B then .none .escape
    else .none .command
  | .message =>
    if isQuiet byte ∨ 0x20 ≤ byte ∧ byte < 0x80 then .none .message else common byte

/-- Wide pictographs that are shown as text and take one column. -/
def plainPictographs : List (Nat × Nat) :=
  [(0x3030, 0x3030), (0x303D, 0x303D), (0x3297, 0x3297), (0x3299, 0x3299), (0x1F202, 0x1F202),
   (0x1F237, 0x1F237), (0x1F260, 0x1F265)]

/-- The columns of a character by its role. -/
def glyphColumns (glyph : Glyph) : Nat :=
  let code := glyph.char.toNat
  let wide := inRanges Width.wide code
  match Cluster.role glyph.char with
  | .carriageReturn | .lineFeed | .control | .extender | .joiner => 0
  | .regional => 2
  | .pictograph => if wide && !inRanges plainPictographs code then 2 else 1
  | _ =>
    if code = 0x2E3A then 3
    else if code = 0x2E3B then 4
    else if wide then 2
    else 1

/-- The columns of a pictograph with what is attached to it: the last variation selector decides. -/
def pictographColumns (first : Glyph) (rest : List Glyph) : Nat :=
  rest.foldl (fun columns glyph =>
    if glyph.char.toNat = 0xFE0E then 1
    else if glyph.char.toNat = 0xFE0F then 2
    else columns) (glyphColumns first)

/-- The columns of a cluster: those of all its characters, but a pair of regional indicators and a
Hangul syllable are as wide as their first character. -/
def clusterColumns : List Glyph → Nat
  | [] => 0
  | first :: rest =>
    match Cluster.role first.char with
    | .pictograph => pictographColumns first rest
    | .regional | .lead => glyphColumns first
    | _ => rest.foldl (fun columns glyph => columns + glyphColumns glyph) (glyphColumns first)

/-- The first cluster of a text. -/
def firstCluster (text : Bytes) : List Glyph := (Cluster.split (Glyph.list text)).headD []

/-- The columns of a line after its first `skip` bytes. -/
def columnsFrom (skip : Nat) (mode : Mode) : Bytes → Nat
  | [] => 0
  | byte :: rest =>
    match skip with
    | remaining + 1 => columnsFrom remaining mode rest
    | 0 =>
      match effect mode byte with
      | .none next => columnsFrom 0 next rest
      | .column => columnsFrom 0 .ground rest + 1
      | .cluster =>
        let cluster := firstCluster (byte :: rest)
        columnsFrom ((Glyph.spell cluster).length - 1) .ground rest + clusterColumns cluster

/-- The columns of a line. -/
def columns (line : Bytes) : Nat := columnsFrom 0 .ground line

/-- A text with tabulators as four blanks and, if it has several lines, with blanks at their ends
that make them equally wide. -/
def block (text : Bytes) : Bytes :=
  let lines := Bytes.splitOnByte 10 (Bytes.replaceByte 9 (utf8 "    ") text)
  let widest := (lines.map columns).foldl max 0
  Bytes.join (utf8 "\n") (lines.map fun line => line ++ List.replicate (widest - columns line) 32)

end Terminal
end Text
end Blockwork
