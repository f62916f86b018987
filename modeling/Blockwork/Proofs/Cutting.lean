import Blockwork.Proofs.Words

/-!
# Cutting texts between glyphs

A text may be cut wherever a glyph ends: the glyphs of the front are those that it had in the whole
text. The glyphs of both parts are those of the whole text if the front ends with a complete
character, or if the first byte of the back continues none.
-/

namespace Blockwork

/-- The bytes of a text from one place to another. -/
def Bytes.slice (text : Bytes) (first last : Nat) : Bytes :=
  (text.drop first).take (last - first)

theorem Bytes.slice_append_drop (text : Bytes) {first last : Nat} (ordered : first ≤ last) :
    text.slice first last ++ text.drop last = text.drop first := by
  have split := List.take_append_drop (last - first) (text.drop first)
  rwa [List.drop_drop, Nat.add_sub_cancel' ordered] at split

theorem Bytes.length_slice {text : Bytes} {first last : Nat} (inside : last ≤ text.length) :
    (text.slice first last).length = last - first := by
  rw [slice, List.length_take, List.length_drop]
  omega

theorem Bytes.slice_append (front piece back : Bytes) :
    (front ++ piece ++ back).slice front.length (front ++ piece).length = piece := by
  rw [slice, List.append_assoc, List.drop_left, List.length_append, Nat.add_sub_cancel_left,
    List.take_left]

namespace Glyph

variable {lead : UInt8} {rest : Bytes} {char : Char} {more : Nat}

/-- Only its own bytes matter for a complete character. -/
theorem decode?_take_append (decoded : decode? lead rest = some (char, more)) (tail : Bytes) :
    decode? lead (rest.take more ++ tail) = some (char, more) := by
  refine Spells.decode?_eq ?_
  cases Spells.of_decode? decoded with
  | one range => exact .one range _
  | two range continues scalar => exact .two range continues scalar _
  | three range continues scalar => exact .three range continues scalar _
  | four range continues scalar => exact .four range continues scalar _

/-- A complete character does not depend on what follows. -/
theorem decode?_prolonged (decoded : decode? lead rest = some (char, more)) (tail : Bytes) :
    decode? lead (rest ++ tail) = some (char, more) := by
  have whole := decode?_take_append decoded (rest.drop more ++ tail)
  rwa [← List.append_assoc, List.take_append_drop] at whole

theorem list_cons_of_some (decoded : decode? lead rest = some (char, more)) :
    list (lead :: rest) = ⟨char, lead :: rest.take more⟩ :: list (rest.drop more) := by
  rw [list, listFrom, decoded]
  exact congrArg _ (listFrom_eq_list_drop more rest)

theorem list_cons_of_none (undecoded : decode? lead rest = none) :
    list (lead :: rest) = ⟨replacement, [lead]⟩ :: list rest := by
  rw [list, listFrom, undecoded]
  rfl

/-- The first glyph is a complete character, or a byte that stands for none. -/
theorem list_cons_cases (lead : UInt8) (rest : Bytes) :
    (∃ char more, decode? lead rest = some (char, more) ∧
      list (lead :: rest) = ⟨char, lead :: rest.take more⟩ :: list (rest.drop more)) ∨
    decode? lead rest = none ∧ list (lead :: rest) = ⟨replacement, [lead]⟩ :: list rest := by
  cases decoded : decode? lead rest with
  | none => exact .inr ⟨rfl, list_cons_of_none decoded⟩
  | some found => exact .inl ⟨found.1, found.2, rfl, list_cons_of_some decoded⟩

/-- What stands behind the first glyph has the other glyphs. -/
theorem exists_of_list_eq_cons {text : Bytes} {glyph : Glyph} {glyphs : List Glyph}
    (parts : list text = glyph :: glyphs) :
    ∃ rest, text = glyph.bytes ++ rest ∧ list rest = glyphs := by
  cases text with
  | nil => cases parts
  | cons lead rest =>
    obtain ⟨char, more, -, listed⟩ | ⟨-, listed⟩ := list_cons_cases lead rest
    · obtain ⟨rfl, rfl⟩ := List.cons.inj (listed.symm.trans parts)
      exact ⟨rest.drop more, by simp, rfl⟩
    · obtain ⟨rfl, rfl⟩ := List.cons.inj (listed.symm.trans parts)
      exact ⟨rest, rfl, rfl⟩

/-- What stands behind the first glyphs has the others. -/
theorem exists_of_list_eq_append {text : Bytes} {front back : List Glyph}
    (parts : list text = front ++ back) :
    ∃ rest, text = spell front ++ rest ∧ list rest = back := by
  induction front generalizing text with
  | nil => exact ⟨text, rfl, parts⟩
  | cons glyph front ih =>
    obtain ⟨middle, rfl, listed⟩ := exists_of_list_eq_cons parts
    obtain ⟨rest, rfl, listed'⟩ := ih listed
    exact ⟨rest, by simp [spell], listed'⟩

/-- A text that is cut where a glyph ends keeps the glyphs of its front. -/
theorem list_spell {text : Bytes} {front back : List Glyph} (parts : list text = front ++ back) :
    list (spell front) = front := by
  induction front generalizing text with
  | nil => rfl
  | cons glyph front ih =>
    cases text with
    | nil => cases parts
    | cons lead rest =>
      obtain ⟨char, more, decoded, listed⟩ | ⟨undecoded, listed⟩ := list_cons_cases lead rest
      · obtain ⟨rfl, others⟩ := List.cons.inj (listed.symm.trans parts)
        have size : (rest.take more).length = more :=
          List.length_take_of_le (decode?_length decoded)
        have again := list_cons_of_some (decode?_take_append decoded (spell front))
        rw [List.take_left' size, List.drop_left' size, ih others] at again
        simpa [spell] using again
      · obtain ⟨rfl, others⟩ := List.cons.inj (listed.symm.trans parts)
        have split : rest = spell front ++ spell back := by
          rw [← spell_list rest, others]
          simp [spell]
        have still : decode? lead (spell front) = none := by
          rw [Option.eq_none_iff_forall_ne_some]
          intro found decoded
          have longer := decode?_prolonged decoded (spell back)
          rw [← split, undecoded] at longer
          cases longer
        have again := list_cons_of_none still
        rw [ih others] at again
        simpa [spell] using again

/-- Behind complete characters decoding starts anew. -/
theorem list_append_of_complete {text : Bytes}
    (complete : ∀ glyph ∈ list text, glyph.char ≠ replacement) (tail : Bytes) :
    list (text ++ tail) = list text ++ list tail := by
  induction glyphs : list text generalizing text with
  | nil =>
    have empty := spell_list text
    rw [glyphs] at empty
    rw [← empty]
    rfl
  | cons glyph others ih =>
    cases text with
    | nil => cases glyphs
    | cons lead rest =>
      obtain ⟨char, more, decoded, listed⟩ | ⟨-, listed⟩ := list_cons_cases lead rest
      · obtain ⟨rfl, behind⟩ := List.cons.inj (listed.symm.trans glyphs)
        have room := decode?_length decoded
        rw [listed, List.forall_mem_cons] at complete
        rw [List.cons_append, list_cons_of_some (decode?_prolonged decoded tail),
          List.take_append_of_le_length room, List.drop_append_of_le_length room,
          ih complete.2 behind]
        rfl
      · rw [listed, List.forall_mem_cons] at complete
        exact absurd rfl complete.1

/-- The first byte of a complete character continues no other. -/
theorem startsFresh_of_complete {text : Bytes}
    (complete : ∀ glyph ∈ (list text).head?, glyph.char ≠ replacement) : StartsFresh text := by
  intro byte head
  cases text with
  | nil => cases head
  | cons lead rest =>
    obtain rfl := Option.mem_some_iff.mp head
    obtain ⟨char, more, decoded, -⟩ | ⟨-, listed⟩ := list_cons_cases lead rest
    · unfold decode? at decoded
      dsimp only at decoded
      split at decoded
      · rename_i ascii
        exact continuation?_ascii ascii
      · split at decoded
        · cases decoded
        · rename_i high
          have above : ¬ (0x80 ≤ lead ∧ lead < 0xC0) := fun inside =>
            high (UInt8.lt_iff_toNat_lt.mp inside.2)
          rw [continuation?, if_neg above]
    · rw [listed] at complete
      exact absurd rfl (complete _ rfl)

/-- Behind a text that ends with a complete character decoding starts anew. -/
theorem list_append_of_getLast? {text : Bytes}
    (complete : ∀ glyph ∈ (list text).getLast?, glyph.char ≠ replacement) (tail : Bytes) :
    list (text ++ tail) = list text ++ list tail := by
  rcases List.eq_nil_or_concat' (list text) with empty | ⟨front, last, parts⟩
  · refine list_append_of_complete (fun glyph member => ?_) tail
    rw [empty] at member
    cases member
  · rw [parts, List.getLast?_concat] at complete
    obtain ⟨back, rfl, listed⟩ := exists_of_list_eq_append parts
    have whole : ∀ glyph ∈ list back, glyph.char ≠ replacement := by
      intro glyph member
      rw [listed, List.mem_singleton] at member
      exact member ▸ complete last rfl
    have fresh : StartsFresh (back ++ tail) := by
      refine startsFresh_of_complete fun glyph head => whole glyph ?_
      rw [list_append_of_complete whole, listed] at head
      obtain rfl := Option.mem_some_iff.mp head
      rw [listed]
      exact List.mem_singleton_self _
    rw [List.append_assoc, list_append _ fresh, list_spell parts, list_append_of_complete whole,
      parts, listed, List.append_assoc]

end Glyph
end Blockwork
