import Blockwork.Text.Glyph

/-!
# Reading by lead bytes

A lead byte announces how many bytes spell its character. Where marks are sorted or gathered, the
announced bytes stay together even if they spell no character, as far as they are continuation
bytes; and if a text ends before the announced length, what is left of it is not read at all. The
glyphs and the unread end together are the byte string.
-/

namespace Blockwork
namespace Glyph

/-- How many bytes a lead byte announces after itself. -/
def announced (lead : UInt8) : Nat :=
  if lead < 0xC2 then 0
  else if lead < 0xE0 then 1
  else if lead < 0xF0 then 2
  else if lead < 0xF8 then 3
  else 0

/-- How many of the bytes after a lead byte stay with it, unless the text ends too early. -/
def attached? (lead : UInt8) (rest : Bytes) : Option Nat :=
  if rest.length < announced lead then none
  else some ((rest.take (announced lead)).takeWhile fun byte => (continuation? byte).isSome).length

/-- The glyph that a lead byte and the bytes that stay with it make. -/
def ofLead (lead : UInt8) (rest : Bytes) (count : Nat) : Glyph where
  char :=
    match decode? lead rest with
    | some (char, _) => char
    | none => replacement
  bytes := lead :: rest.take count

/-- The glyphs of a byte string after its first `skip` bytes, and its unread end. -/
def byLeadFrom (skip : Nat) : Bytes → List Glyph × Bytes
  | [] => ([], [])
  | byte :: rest =>
    match skip with
    | remaining + 1 => byLeadFrom remaining rest
    | 0 =>
      match attached? byte rest with
      | none => ([], byte :: rest)
      | some count =>
        let (glyphs, unread) := byLeadFrom count rest
        (ofLead byte rest count :: glyphs, unread)

/-- The glyphs of a byte string, and its unread end. -/
def byLead (text : Bytes) : List Glyph × Bytes := byLeadFrom 0 text

/-- The glyphs and the unread end are the byte string. -/
theorem spell_byLead (text : Bytes) : spell (byLead text).1 ++ (byLead text).2 = text := by
  suffices general : ∀ skip,
      spell (byLeadFrom skip text).1 ++ (byLeadFrom skip text).2 = text.drop skip by
    simpa [byLead] using general 0
  induction text with
  | nil => intro skip; simp [byLeadFrom, spell]
  | cons byte rest ih =>
    intro skip
    cases skip with
    | succ remaining => simpa [byLeadFrom] using ih remaining
    | zero =>
      simp only [byLeadFrom, List.drop_zero]
      split
      · simp [spell]
      · rename_i count _
        have tail := ih count
        simp only [spell, List.flatMap_cons, ofLead, List.append_assoc] at tail ⊢
        rw [tail]
        simp

end Glyph
end Blockwork
