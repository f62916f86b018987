import Blockwork.Text.CharClass
import Blockwork.Text.Cluster.Table
import Blockwork.Text.Lead

/-!
# Clusters

A cluster is what a reader sees as one character: a base with its marks, a Hangul syllable, a pair
of regional indicators, a sequence of joined pictographs. A text is read by its lead bytes and falls
into clusters, and their glyphs one after the other are the glyphs of the text. An end that is too
short for its lead byte belongs to the cluster before it.
-/

namespace Blockwork
namespace Text
namespace Cluster

/-- What a character contributes to the boundary rules. -/
inductive Role where
  /-- Carriage return. -/
  | carriageReturn
  /-- Line feed. -/
  | lineFeed
  /-- Any other character that stands alone. -/
  | control
  /-- A mark that attaches to the left. -/
  | extender
  /-- The zero-width joiner. -/
  | joiner
  /-- A regional indicator. -/
  | regional
  /-- A character that attaches to the right. -/
  | prepender
  /-- A mark with a width of its own. -/
  | spacing
  /-- A leading Hangul consonant. -/
  | lead
  /-- A Hangul vowel. -/
  | vowel
  /-- A trailing Hangul consonant. -/
  | trail
  /-- A Hangul syllable without a trailing consonant. -/
  | openSyllable
  /-- A Hangul syllable with a trailing consonant. -/
  | closedSyllable
  /-- A pictograph. -/
  | pictograph
  /-- Everything else. -/
  | other
deriving DecidableEq, Repr

/-- The role of a character. -/
def role (char : Char) : Role :=
  let code := char.toNat
  if code = 0x0D then .carriageReturn
  else if code = 0x0A then .lineFeed
  else if 0x20 ≤ code ∧ code < 0x7F then .other
  else if code = 0x200D then .joiner
  else if 0x1F1E6 ≤ code ∧ code ≤ 0x1F1FF then .regional
  else if 0x1100 ≤ code ∧ code ≤ 0x115F ∨ 0xA960 ≤ code ∧ code ≤ 0xA97C then .lead
  else if 0x1160 ≤ code ∧ code ≤ 0x11A7 ∨ 0xD7B0 ≤ code ∧ code ≤ 0xD7C6 then .vowel
  else if 0x11A8 ≤ code ∧ code ≤ 0x11FF ∨ 0xD7CB ≤ code ∧ code ≤ 0xD7FB then .trail
  else if 0xAC00 ≤ code ∧ code ≤ 0xD7A3 then
    if (code - 0xAC00) % 28 = 0 then .openSyllable else .closedSyllable
  else if inRanges controls code then .control
  else if inRanges extenders code then .extender
  else if inRanges prependers code then .prepender
  else if inRanges spacingMarks code then .spacing
  else if inRanges pictographs code then .pictograph
  else .other

/-- What the boundary rules remember of the text so far. -/
structure Before where
  /-- The role of the last character. -/
  last : Role
  /-- Whether the text ends with a pictograph and marks on it. -/
  pictograph : Bool
  /-- Whether it ends with a pictograph, marks on it and a joiner. -/
  joined : Bool
  /-- Whether it ends with an odd number of regional indicators. -/
  oddRegional : Bool

/-- What is remembered at the beginning of a text that starts with the given role. -/
def Before.start (role : Role) : Before :=
  ⟨role, role == .pictograph, false, role == .regional⟩

/-- What is remembered one character later. -/
def Before.advance (before : Before) (role : Role) : Before where
  last := role
  pictograph := role == .pictograph || (before.pictograph && role == .extender)
  joined := before.pictograph && role == .joiner
  oddRegional := role == .regional && !before.oddRegional

/-- Whether a cluster goes on with a character of the given role. -/
def Before.continues (before : Before) (next : Role) : Bool :=
  match before.last, next with
  | .carriageReturn, .lineFeed => true
  | .carriageReturn, _ | .lineFeed, _ | .control, _ => false
  | _, .carriageReturn | _, .lineFeed | _, .control => false
  | .lead, .lead | .lead, .vowel | .lead, .openSyllable | .lead, .closedSyllable => true
  | .openSyllable, .vowel | .openSyllable, .trail | .vowel, .vowel | .vowel, .trail => true
  | .closedSyllable, .trail | .trail, .trail => true
  | _, .extender | _, .joiner | _, .spacing => true
  | .prepender, _ => true
  | .joiner, .pictograph => before.joined
  | .regional, .regional => before.oddRegional
  | _, _ => false

/-- The clusters of a text whose first cluster begins with the given glyphs, latest first. -/
def splitFrom (before : Before) (current : List Glyph) : List Glyph → List (List Glyph)
  | [] => [current.reverse]
  | glyph :: rest =>
    let next := role glyph.char
    if before.continues next then splitFrom (before.advance next) (glyph :: current) rest
    else current.reverse :: splitFrom (before.advance next) [glyph] rest

/-- The clusters of a text. -/
def split : List Glyph → List (List Glyph)
  | [] => []
  | glyph :: rest => splitFrom (.start (role glyph.char)) [glyph] rest

/-- No glyph is lost by splitting a text whose first cluster has begun. -/
theorem flatten_splitFrom (before : Before) (current rest : List Glyph) :
    (splitFrom before current rest).flatten = current.reverse ++ rest := by
  induction rest generalizing before current with
  | nil => simp [splitFrom]
  | cons glyph rest ih =>
    simp only [splitFrom]
    split <;> simp [ih]

/-- The clusters one after the other are the text. -/
theorem flatten_split (glyphs : List Glyph) : (split glyphs).flatten = glyphs := by
  cases glyphs with
  | nil => rfl
  | cons glyph rest => simp [split, flatten_splitFrom]

/-- Clusters with more glyphs at the end of the last one. -/
def extendLast (more : List Glyph) : List (List Glyph) → List (List Glyph)
  | [] => [more]
  | [last] => [last ++ more]
  | first :: rest => first :: extendLast more rest

/-- The clusters of a byte string. -/
def ofText (text : Bytes) : List (List Glyph) :=
  let (glyphs, unread) := Glyph.byLead text
  if unread = [] then split glyphs else extendLast (Glyph.list unread) (split glyphs)

/-- Extending the last cluster adds the glyphs at the end. -/
theorem flatten_extendLast (more : List Glyph) (clusters : List (List Glyph)) :
    (extendLast more clusters).flatten = clusters.flatten ++ more := by
  fun_induction extendLast more clusters with
  | case1 => simp
  | case2 last => simp
  | case3 first rest _ ih => simp [ih]

/-- No byte is lost by splitting a byte string. -/
theorem spell_flatten_ofText (text : Bytes) : Glyph.spell (ofText text).flatten = text := by
  have whole := Glyph.spell_byLead text
  simp only [ofText]
  split
  · rename_i finished
    rw [flatten_split]
    simpa [finished] using whole
  · rw [flatten_extendLast, flatten_split, Glyph.spell, List.flatMap_append]
    change Glyph.spell _ ++ Glyph.spell _ = text
    rw [Glyph.spell_list]
    exact whole

end Cluster
end Text
end Blockwork
