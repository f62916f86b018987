import Blockwork.Text.Bytes

/-!
# Glyphs

A byte string read from left to right falls into glyphs: each is either the UTF-8 encoding of one
character, or a single byte that starts no valid encoding and stands for U+FFFD. The glyphs put
together again are the byte string, so no byte is lost by decoding.
-/

namespace Blockwork

/-- A decoded character together with the bytes that spell it. -/
structure Glyph where
  /-- The character; U+FFFD for a byte that starts no valid encoding. -/
  char : Char
  /-- The bytes it was read from: one to four of them. -/
  bytes : Bytes
deriving DecidableEq, Repr

namespace Glyph

/-- The character that stands for undecodable bytes. -/
def replacement : Char := Char.ofNat 0xFFFD

/-- Whether the glyph is a byte that starts no valid encoding. -/
def isInvalid (glyph : Glyph) : Bool :=
  glyph.char = replacement && glyph.bytes.length = 1

/-- The number of bytes of a glyph. -/
def size (glyph : Glyph) : Nat := glyph.bytes.length

/-- The payload of a continuation byte. -/
def continuation? (byte : UInt8) : Option Nat :=
  if 0x80 ≤ byte ∧ byte < 0xC0 then some (byte.toNat - 0x80) else none

/-- The character with the given code, if it is one and is at least `least`, so that no shorter
encoding spells it. -/
def scalar? (least code : Nat) : Option Char :=
  if least ≤ code ∧ code.isValidChar then some (Char.ofNat code) else none

/-- The character that a lead byte and the bytes after it spell, and how many of these it takes. -/
def decode? (lead : UInt8) (rest : Bytes) : Option (Char × Nat) :=
  let code := lead.toNat
  if code < 0x80 then some (Char.ofNat code, 0)
  else if code < 0xC0 then none
  else if code < 0xE0 then
    match rest with
    | second :: _ => do
      let low ← continuation? second
      let char ← scalar? 0x80 ((code - 0xC0) * 64 + low)
      pure (char, 1)
    | _ => none
  else if code < 0xF0 then
    match rest with
    | second :: third :: _ => do
      let middle ← continuation? second
      let low ← continuation? third
      let char ← scalar? 0x800 (((code - 0xE0) * 64 + middle) * 64 + low)
      pure (char, 2)
    | _ => none
  else if code < 0xF8 then
    match rest with
    | second :: third :: fourth :: _ => do
      let high ← continuation? second
      let middle ← continuation? third
      let low ← continuation? fourth
      let char ← scalar? 0x10000 ((((code - 0xF0) * 64 + high) * 64 + middle) * 64 + low)
      pure (char, 3)
    | _ => none
  else none

/-- The glyphs of a byte string after its first `skip` bytes. -/
def listFrom (skip : Nat) : Bytes → List Glyph
  | [] => []
  | byte :: rest =>
    match skip with
    | remaining + 1 => listFrom remaining rest
    | 0 =>
      match decode? byte rest with
      | some (char, more) => ⟨char, byte :: rest.take more⟩ :: listFrom more rest
      | none => ⟨replacement, [byte]⟩ :: listFrom 0 rest

/-- The glyphs of a byte string. -/
def list (text : Bytes) : List Glyph := listFrom 0 text

/-- The byte string that a sequence of glyphs spells. -/
def spell (glyphs : List Glyph) : Bytes := glyphs.flatMap Glyph.bytes

/-- Skipping bytes first and decoding then is decoding what is left. -/
theorem listFrom_eq_list_drop (skip : Nat) (text : Bytes) :
    listFrom skip text = list (text.drop skip) := by
  induction text generalizing skip with
  | nil => cases skip <;> simp [list, listFrom]
  | cons byte rest ih =>
    cases skip with
    | zero => simp [list]
    | succ remaining => simpa [listFrom] using ih remaining

/-- Decoding loses no byte. -/
theorem spell_list (text : Bytes) : spell (list text) = text := by
  suffices general : ∀ skip, spell (listFrom skip text) = text.drop skip by
    simpa [list] using general 0
  induction text with
  | nil => intro skip; simp [listFrom, spell]
  | cons byte rest ih =>
    intro skip
    cases skip with
    | succ remaining => simpa [listFrom] using ih remaining
    | zero =>
      simp only [listFrom, List.drop_zero]
      split
      · rename_i char more _
        have tail := ih more
        simp only [spell, List.flatMap_cons] at tail ⊢
        rw [tail]
        simp
      · have tail := ih 0
        simp only [spell, List.flatMap_cons] at tail ⊢
        rw [tail]
        simp

end Glyph

/-- Whether a byte string is valid UTF-8. -/
def Bytes.isUtf8 (text : Bytes) : Bool :=
  (Glyph.list text).all fun glyph => !glyph.isInvalid

end Blockwork
