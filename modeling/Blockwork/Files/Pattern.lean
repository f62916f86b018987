import Blockwork.Files.Disk
import Blockwork.Text.Glyph

/-!
# File name patterns

In a pattern a star stands for any text without a slash, a question mark for one character that is
no slash, a class in brackets for one of its characters, and a backslash takes away the meaning of
what follows. A pattern is taken apart into chunks, each led by a star or not; a chunk is matched
from left to right, and a star tries the shortest text first.
-/

namespace Blockwork
namespace Pattern

/-- A pattern is not well formed. -/
structure Malformed where
deriving DecidableEq, Repr

/-- One position of a chunk. -/
inductive Item where
  /-- A byte stands for itself. -/
  | byte (value : UInt8)
  /-- Any character but a slash. -/
  | any
  /-- One of the characters in the ranges, or none of them. -/
  | oneOf (negated : Bool) (ranges : List (Char × Char))
deriving DecidableEq, Repr

/-- A part of a pattern between stars. -/
structure Chunk where
  /-- Whether a star stands before it. -/
  star : Bool
  /-- The text of the part. -/
  text : Bytes
deriving DecidableEq, Repr

/-- The first character of a text and the rest. -/
def firstGlyph? (text : Bytes) : Option (Glyph × Bytes) :=
  (Glyph.list text).head?.map fun glyph => (glyph, text.drop glyph.size)

/-- A character in a class and what follows it, which may not be nothing. -/
def classChar (text : Bytes) : Except Malformed (Char × Bytes) :=
  if text.head? = some 45 ∨ text.head? = some 93 then .error ⟨⟩
  else
    let text := if text.head? = some 92 then text.tail else text
    match firstGlyph? text with
    | none => .error ⟨⟩
    | some (glyph, rest) =>
      if glyph.isInvalid ∨ rest = [] then .error ⟨⟩ else .ok (glyph.char, rest)

/-- The ranges of a class up to its closing bracket, and what follows. `fuel` bounds their number;
`first` says that none has been read. -/
def classRanges (fuel : Nat) (first : Bool) (text : Bytes) :
    Except Malformed (List (Char × Char) × Bytes) :=
  match fuel with
  | 0 => .error ⟨⟩
  | fuel + 1 =>
    if text.head? = some 93 ∧ ¬first then .ok ([], text.tail)
    else do
      let (low, rest) ← classChar text
      let (high, rest) ← if rest.head? = some 45 then classChar rest.tail else .ok (low, rest)
      let (ranges, rest) ← classRanges fuel false rest
      pure ((low, high) :: ranges, rest)

/-- The positions of a chunk. `fuel` bounds their number. -/
def items (fuel : Nat) (text : Bytes) : Except Malformed (List Item) :=
  match fuel, text with
  | _, [] => .ok []
  | 0, _ :: _ => .error ⟨⟩
  | fuel + 1, 91 :: rest => do
    let negated := rest.head? = some 94
    let (ranges, rest) ← classRanges text.length true (if negated then rest.tail else rest)
    let others ← items fuel rest
    pure (.oneOf negated ranges :: others)
  | fuel + 1, 63 :: rest => do
    let others ← items fuel rest
    pure (.any :: others)
  | fuel + 1, 92 :: rest =>
    match rest with
    | [] => .error ⟨⟩
    | escaped :: rest => do
      let others ← items fuel rest
      pure (.byte escaped :: others)
  | fuel + 1, byte :: rest => do
    let others ← items fuel rest
    pure (.byte byte :: others)

/-- What is left of a text that begins with the given positions. -/
def matchItems : List Item → Bytes → Option Bytes
  | [], text => some text
  | .byte value :: rest, text =>
    match text with
    | first :: text => if first = value then matchItems rest text else none
    | [] => none
  | .any :: rest, text =>
    match firstGlyph? text with
    | some (_, after) => if text.head? = some Path.slash then none else matchItems rest after
    | none => none
  | .oneOf negated ranges :: rest, text =>
    match firstGlyph? text with
    | some (glyph, after) =>
      let inside := ranges.any fun (low, high) => low ≤ glyph.char && glyph.char ≤ high
      if inside = negated then none else matchItems rest after
    | none => none

/-- The text up to the next star outside a class, and the rest. -/
def scanChunk (inClass : Bool) : Bytes → Bytes × Bytes
  | [] => ([], [])
  | 92 :: escaped :: rest =>
    let (chunk, after) := scanChunk inClass rest
    (92 :: escaped :: chunk, after)
  | byte :: rest =>
    if byte = 42 ∧ ¬inClass then ([], byte :: rest)
    else
      let inClass := if byte = 91 then true else if byte = 93 then false else inClass
      let (chunk, after) := scanChunk inClass rest
      (byte :: chunk, after)

/-- The chunks of a pattern. `fuel` bounds their number. -/
def chunks (fuel : Nat) (pattern : Bytes) : List Chunk :=
  match fuel with
  | 0 => []
  | fuel + 1 =>
    if pattern = [] then []
    else
      let (text, rest) := scanChunk false (pattern.dropWhile (· = 42))
      ⟨pattern.head? = some 42, text⟩ :: chunks fuel rest

/-- A text without its first bytes, for every number of bytes up to the first slash. -/
def skips : Bytes → List Bytes
  | [] => []
  | byte :: rest => if byte = Path.slash then [] else rest :: skips rest

/-- Whether chunks match a text to its end. A chunk that cannot be placed leaves the rest of the
pattern unmatched but not unchecked. -/
def matchChunks : List Chunk → Bytes → Except Malformed Bool
  | [], text => .ok (text = [])
  | chunk :: rest, text => do
    if chunk.star && chunk.text.isEmpty then pure (!text.contains Path.slash)
    else
      let wanted ← items chunk.text.length chunk.text
      let candidates := if chunk.star then text :: skips text else [text]
      let fits (left : Bytes) : Bool := left.isEmpty || !rest.isEmpty
      match (candidates.filterMap (matchItems wanted)).find? fits with
      | some left => matchChunks rest left
      | none =>
        let _ ← rest.mapM fun other => items other.text.length other.text
        pure false

/-- Whether a pattern matches a text to its end. -/
def matchName (pattern name : Bytes) : Except Malformed Bool :=
  matchChunks (chunks (pattern.length + 1) pattern) name

/-- Whether a text has any meaning as a pattern beyond itself. -/
def hasMeta (text : Bytes) : Bool :=
  text.any fun byte => byte = 42 || byte = 63 || byte = 91 || byte = 92

/-- The directory part of a pattern without the slash at its end. -/
def directoryPart (text : Bytes) : Bytes :=
  if text = [] then Path.here else if text = [Path.slash] then text else text.dropLast

/-- The paths in a directory whose names match. -/
def inDirectory (disk : Disk) (workingDirectory : Location) (directory pattern : Bytes) :
    Except Malformed (List Bytes) :=
  match disk.find workingDirectory directory with
  | .ok (location, .directory) => do
    let names ← (disk.names location).filterM (matchName pattern)
    pure (names.map fun name => Path.join [directory, name])
  | _ => .ok []

/-- The paths that match a pattern, directory by directory. `fuel` bounds the depth. -/
def expandWithin (disk : Disk) (workingDirectory : Location) (fuel : Nat) (pattern : Bytes) :
    Except Malformed (List Bytes) :=
  match fuel with
  | 0 => .error ⟨⟩
  | fuel + 1 => do
    let _ ← matchName pattern []
    if ¬hasMeta pattern then
      match disk.find workingDirectory pattern with
      | .ok _ => pure [pattern]
      | .error _ => pure []
    else
      let (before, name) := Path.split pattern
      let directory := directoryPart before
      if ¬hasMeta directory then inDirectory disk workingDirectory directory name
      else if directory = pattern then .error ⟨⟩
      else
        let directories ← expandWithin disk workingDirectory fuel directory
        let found ← directories.mapM fun each => inDirectory disk workingDirectory each name
        pure found.flatten

/-- The paths that match a pattern. -/
def expand (disk : Disk) (workingDirectory : Location) (pattern : Bytes) :
    Except Malformed (List Bytes) :=
  expandWithin disk workingDirectory (pattern.length + 1) pattern

end Pattern
end Blockwork
