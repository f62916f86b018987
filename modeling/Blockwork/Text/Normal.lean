import Blockwork.Text.Lead
import Blockwork.Text.Normal.Table

/-!
# Composed normal form

Two spellings of a name that look the same and mean the same are made equal. A text falls into
segments, each a base and the marks after it. In a segment every character is taken apart, the marks
are put into their canonical order, and base and marks are put together again as far as single
characters exist for them. Bytes that are no character stay as they are and nothing is moved or
combined across them.
-/

namespace Blockwork
namespace Text
namespace Normal

/-- A part of a segment: a character or bytes that are none. -/
structure Part where
  /-- The code of the character; U+FFFD for bytes that are none. -/
  code : Nat
  /-- The combining class; zero for base characters. -/
  rank : Nat
  /-- The bytes that spell it. -/
  bytes : Bytes
deriving DecidableEq, Repr

/-- The combining class of a character; zero for base characters. -/
def combiningClass (code : Nat) : Nat :=
  match combiningClasses.find? fun (first, last, _) => first ≤ code && code ≤ last with
  | some (_, _, rank) => rank
  | none => 0

/-- A character as a part. -/
def Part.ofCode (code : Nat) : Part where
  code := code
  rank := combiningClass code
  bytes := Bytes.ofChars [Char.ofNat code]

/-- The first Hangul syllable. -/
def syllableBase : Nat := 0xAC00

/-- A Hangul syllable taken apart into a leading consonant, a vowel and perhaps a trailing
consonant. -/
def splitSyllable? (code : Nat) : Option (List Nat) :=
  if syllableBase ≤ code ∧ code < syllableBase + 11172 then
    let index := code - syllableBase
    let trailing := index % 28
    some ([0x1100 + index / 588, 0x1161 + index % 588 / 28] ++
      if trailing = 0 then [] else [0x11A7 + trailing])
  else none

/-- The one or two characters that a character is equivalent to, by table. -/
def step? (code : Nat) : Option (List Nat) :=
  match (compositions ++ exclusions).find? fun (whole, _, _) => whole == code with
  | some (_, first, second) => some [first, second]
  | none =>
    match singletons.find? fun (start, targets) =>
        start ≤ code && code < start + targets.length with
    | some (start, targets) => targets[code - start]?.map fun target => [target]
    | none => none

/-- A character taken apart. No chain of equivalences is longer than four, the depth in use. -/
def decompose : Nat → Nat → List Nat
  | 0, code => [code]
  | depth + 1, code =>
    match splitSyllable? code with
    | some parts => parts
    | none =>
      match step? code with
      | some parts => parts.flatMap (decompose depth)
      | none => [code]

/-- The parts of a glyph. -/
def parts (glyph : Glyph) : List Part :=
  if glyph.char = Glyph.replacement then [⟨glyph.char.toNat, 0, glyph.bytes⟩]
  else (decompose 4 glyph.char.toNat).map Part.ofCode

/-! ## Segments -/

/-- Whether a character is a Hangul vowel or trailing consonant that a syllable can end with. -/
def endsSyllable (code : Nat) : Bool :=
  (0x1161 ≤ code && code < 0x1176) || (0x11A7 ≤ code && code < 0x11C3)

/-- Whether a character can be put together with one before it. -/
def combinesBack (code : Nat) : Bool :=
  endsSyllable code || compositions.any fun (_, _, second) => second == code

/-- Whether a part counts as a mark. -/
def Part.isMark (part : Part) : Bool := part.rank ≠ 0 || combinesBack part.code

/-- How many marks a glyph counts as at its beginning and at its end. -/
def markCounts (glyph : Glyph) : Nat × Nat :=
  let code := glyph.char.toNat
  match lookalikes.find? fun (first, last, _) => first ≤ code && code ≤ last with
  | some (_, _, leading, trailing) => (leading, trailing)
  | none =>
    let marks := (parts glyph).map Part.isMark
    ((marks.takeWhile id).length, (marks.reverse.takeWhile id).length)

/-- Marks allowed in a row before a joiner is put in, so that the marks on one base stay few. -/
def markLimit : Nat := 30

/-- The combining grapheme joiner, which carries no marks over to what follows. -/
def joiner : Part := ⟨0x34F, 0, Bytes.ofChars [Char.ofNat 0x34F]⟩

/-- The segments of a text, taken apart. `current` is the segment that has begun, and `count` is the
number of marks at its end. A glyph that counts as no mark begins a new segment; so does one mark
too many, after a joiner. -/
def segmentsFrom (count : Nat) (current : List Part) : List Glyph → List (List Part)
  | [] => [current]
  | glyph :: rest =>
    let (leading, trailing) := markCounts glyph
    if leading = 0 then current :: segmentsFrom trailing (parts glyph) rest
    else if markLimit < count + leading then
      (current ++ [joiner]) :: segmentsFrom leading (parts glyph) rest
    else segmentsFrom (count + leading) (current ++ parts glyph) rest

/-! ## Order and composition -/

/-- Puts a part in front of a sequence in canonical order: a mark moves behind the marks of a
smaller class that follow it directly. -/
def insert (part : Part) : List Part → List Part
  | [] => [part]
  | next :: rest =>
    if part.rank = 0 ∨ next.rank = 0 ∨ part.rank ≤ next.rank then part :: next :: rest
    else next :: insert part rest

/-- Marks that follow each other directly, sorted by class without exchanging equals. -/
def order (segment : List Part) : List Part := segment.foldr insert []

/-- The Hangul syllable that replaces two of its parts. -/
def composeSyllable? (first second : Nat) : Option Nat :=
  if 0x1100 ≤ first ∧ first < 0x1113 ∧ 0x1161 ≤ second ∧ second < 0x1176 then
    some (syllableBase + ((first - 0x1100) * 21 + (second - 0x1161)) * 28)
  else if syllableBase ≤ first ∧ first < syllableBase + 11172 ∧ (first - syllableBase) % 28 = 0 ∧
      0x11A7 < second ∧ second < 0x11C3 then
    some (first + (second - 0x11A7))
  else none

/-- The single character that replaces a pair. Pairs are recognised by the low sixteen bits of their
codes, so a character of a higher plane is taken for the one below it. -/
def compose? (first second : Nat) : Option Nat :=
  (compositions.find? fun (_, left, right) =>
    left % 0x10000 == first % 0x10000 && right % 0x10000 == second % 0x10000).map (·.1)

/-- Whether a part is a single letter of the Hangul script. -/
def Part.isHangulLetter (part : Part) : Bool := 0x1100 ≤ part.code && part.code < 0x1200

/-- Puts a segment in canonical order together again. `done` are the parts so far and `base` is the
place of the one among them that the next part may combine with: the last, if that is a base when a
part that can combine follows it. A part is blocked by a mark of its own or a higher class between
it and the base. From the first Hangul letter on only syllables are put together. -/
def composeFrom (syllables : Bool) (base : Nat) (done : List Part) : List Part → List Part
  | [] => done
  | part :: rest =>
    let syllables := syllables || part.isHangulLetter
    if syllables || combinesBack part.code then
      let last := done.length - 1
      let rank := (done[last]?.map Part.rank).getD 0
      let base := if rank = 0 then last else base
      let whole := do
        let first ← done[base]?
        if base = last ∨ rank < part.rank then
          if syllables then composeSyllable? first.code part.code else compose? first.code part.code
        else none
      match whole with
      | some code =>
        composeFrom syllables base (done.set base { Part.ofCode code with rank := 0 }) rest
      | none => composeFrom syllables base (done ++ [part]) rest
    else composeFrom syllables base (done ++ [part]) rest

/-- The composed form of a segment. -/
def compose (segment : List Part) : List Part :=
  match order segment with
  | [] => []
  | first :: rest => composeFrom false 0 [first] rest

/-- The normal form of the glyphs of a text. -/
def glyphs : List Glyph → Bytes
  | [] => []
  | first :: rest =>
    (segmentsFrom (markCounts first).2 (parts first) rest).flatMap fun segment =>
      (compose segment).flatMap Part.bytes

end Normal

/-- The composed normal form of a byte string. An end that is too short for its lead byte stays as
it is. -/
def normalize (text : Bytes) : Bytes :=
  if text.isAscii then text
  else
    let (glyphs, unread) := Glyph.byLead text
    Normal.glyphs glyphs ++ unread

/-- ASCII text is in normal form. -/
theorem normalize_of_isAscii {text : Bytes} (ascii : text.isAscii) : normalize text = text := by
  simp [normalize, ascii]

end Text
end Blockwork
