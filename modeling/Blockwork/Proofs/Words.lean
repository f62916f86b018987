import Blockwork.Proofs.Lexing
import Blockwork.Proofs.Steps
import Blockwork.Source.Grammar
import Mathlib.Tactic.IntervalCases

/-!
# The words of the textual form

Every name that construction accepts is one word, however it is spelled, and so is every numeral and
every type. Numerals and types are read back as what they were written for.
-/

namespace Blockwork

/-! ## Names -/

theorem FunctionName.check_eq_ok_iff {name : Bytes} :
    check name = .ok () ↔
      name ≠ [] ∧ ∀ glyph ∈ Glyph.list name, isReserved glyph.char = false := by
  unfold check
  split
  · simp_all
  · split
    · rename_i nonempty _ found
      simpa [nonempty] using found
    · rename_i nonempty _ glyph found
      have reserved := List.find?_some found
      simp only [reduceCtorEq, false_iff, not_and, not_forall]
      exact fun _ => ⟨glyph, List.mem_of_find?_eq_some found, by simp [reserved]⟩

theorem Mark.mem_punctuation (mark : Mark) : mark.char ∈ FunctionName.punctuation := by
  cases mark <;> decide

theorem FunctionName.isPlain_of_isReserved {char : Char} (free : isReserved char = false) :
    Token.isPlain char = true := by
  simp only [isReserved, Bool.or_eq_false_iff, List.contains_eq_mem, decide_eq_false_iff_not]
    at free
  obtain ⟨⟨space, -⟩, unpunctuated⟩ := free
  have comment : char ≠ Token.commentStart := by
    rintro rfl
    exact unpunctuated (by decide)
  have unmarked : Mark.ofChar? char = none := by
    rw [Option.eq_none_iff_forall_ne_some]
    intro mark found
    have same : mark.char = char := by simpa using List.find?_some found
    exact unpunctuated (same ▸ mark.mem_punctuation)
  simp [Token.isPlain, comment, space, unmarked]

/-- Every name that is accepted is one word. -/
theorem FunctionName.isWord {name : Bytes} (checked : check name = .ok ()) : Token.IsWord name := by
  obtain ⟨nonempty, free⟩ := check_eq_ok_iff.mp checked
  exact ⟨nonempty, fun glyph member => isPlain_of_isReserved (free glyph member)⟩

namespace Glyph

theorem le_of_continuation? {byte : UInt8} {payload : Nat}
    (continues : continuation? byte = some payload) : 0x80 ≤ byte.toNat := by
  by_contra low
  rw [continuation?_ascii (Nat.lt_of_not_le low)] at continues
  cases continues

/-- The bytes behind the first of a character are no ASCII characters. -/
theorem le_of_mem_take_decode? {lead : UInt8} {rest : Bytes} {char : Char} {more : Nat}
    (decoded : decode? lead rest = some (char, more)) {byte : UInt8} (member : byte ∈ rest.take more) :
    0x80 ≤ byte.toNat := by
  cases Spells.of_decode? decoded with
  | one range => cases member
  | two range tail =>
    obtain rfl : byte = _ := by simpa using member
    exact le_of_continuation? tail
  | three range tail =>
    obtain rfl | rfl : byte = _ ∨ byte = _ := by simpa using member
    · exact le_of_continuation? tail.1
    · exact le_of_continuation? tail.2
  | four range tail =>
    obtain rfl | rfl | rfl : byte = _ ∨ byte = _ ∨ byte = _ := by simpa using member
    · exact le_of_continuation? tail.1
    · exact le_of_continuation? tail.2.1
    · exact le_of_continuation? tail.2.2

/-- An ASCII character is never part of another one. -/
theorem exists_of_mem_ascii {text : Bytes} {byte : UInt8} (member : byte ∈ text)
    (ascii : byte.toNat < 0x80) : ∃ glyph ∈ list text, glyph.char = Char.ofNat byte.toNat := by
  induction length : text.length using Nat.strong_induction_on generalizing text with
  | h size ih =>
    cases text with
    | nil => cases member
    | cons lead rest =>
      have inside : ∀ skip, byte ∈ rest.drop skip →
          ∃ glyph ∈ listFrom skip rest, glyph.char = Char.ofNat byte.toNat := by
        intro skip behind
        rw [listFrom_eq_list_drop]
        refine ih _ ?_ behind rfl
        rw [← length, List.length_drop, List.length_cons]
        omega
      by_cases same : byte = lead
      · subst same
        rw [list_cons_ascii ascii]
        exact ⟨_, List.mem_cons_self, rfl⟩
      · have behind : byte ∈ rest := by simpa [same] using member
        rw [list, listFrom]
        split
        · rename_i char more decoded
          rw [← List.take_append_drop more rest, List.mem_append] at behind
          rcases behind with early | late
          · exact absurd ascii (Nat.not_lt.mpr (le_of_mem_take_decode? decoded early))
          · obtain ⟨glyph, held, spelled⟩ := inside more late
            exact ⟨glyph, List.mem_cons_of_mem _ held, spelled⟩
        · obtain ⟨glyph, held, spelled⟩ := inside 0 behind
          exact ⟨glyph, List.mem_cons_of_mem _ held, spelled⟩

end Glyph

/-- A line of text: no byte of it ends a line. -/
def Bytes.Unbroken (text : Bytes) : Prop :=
  ∀ byte ∈ text, byte ≠ 10 ∧ byte ≠ 13

theorem Bytes.Unbroken.append {left right : Bytes} (first : left.Unbroken)
    (second : right.Unbroken) : (left ++ right).Unbroken := by
  intro byte member
  rcases List.mem_append.mp member with early | late
  · exact first byte early
  · exact second byte late

theorem Bytes.Unbroken.cons {byte : UInt8} {rest : Bytes} (first : byte ≠ 10 ∧ byte ≠ 13)
    (unbroken : rest.Unbroken) : Bytes.Unbroken (byte :: rest) := by
  intro other member
  rcases List.mem_cons.mp member with rfl | late
  · exact first
  · exact unbroken other late

/-- No word reaches over the end of a line. -/
theorem Token.IsWord.unbroken {text : Bytes} (isWord : IsWord text) : text.Unbroken := by
  have plain : ∀ byte ∈ text, byte.toNat < 0x80 → isPlain (Char.ofNat byte.toNat) = true := by
    intro byte member ascii
    obtain ⟨glyph, held, spelled⟩ := Glyph.exists_of_mem_ascii member ascii
    exact spelled ▸ isWord.2 glyph held
  intro byte member
  constructor
  · rintro rfl
    exact absurd (plain 10 member (by decide)) (by decide)
  · rintro rfl
    exact absurd (plain 13 member (by decide)) (by decide)

/-! ## Words of ASCII characters -/

/-- A byte that is an ASCII character and belongs to a word. -/
def Token.isPlainByte (byte : UInt8) : Bool :=
  decide (byte.toNat < 0x80) && isPlain (Char.ofNat byte.toNat)

theorem Token.isWord_of_all {text : Bytes} (nonempty : text ≠ [])
    (plain : text.all isPlainByte = true) : IsWord text := by
  refine ⟨nonempty, ?_⟩
  clear nonempty
  induction text with
  | nil => intro glyph member; cases member
  | cons byte rest ih =>
    simp only [List.all_cons, Bool.and_eq_true] at plain
    obtain ⟨ascii, fine⟩ : byte.toNat < 0x80 ∧ isPlain (Char.ofNat byte.toNat) = true := by
      simpa [isPlainByte] using plain.1
    rw [Glyph.list_cons_ascii ascii]
    intro glyph member
    rcases List.mem_cons.mp member with rfl | tail
    · exact fine
    · exact ih plain.2 glyph tail

/-! ## Numerals -/

namespace Numeral

theorem toNat_of_isDigit {char : Char} (digit : char.isDigit = true) :
    (UInt8.ofNat char.toNat).toNat = char.toNat ∧ 48 ≤ char.toNat ∧ char.toNat ≤ 57 := by
  have bounds : 48 ≤ char.toNat ∧ char.toNat ≤ 57 := by
    simpa [Char.isDigit, UInt32.le_iff_toNat_le] using digit
  refine ⟨?_, bounds⟩
  rw [UInt8.toNat_ofNat']
  omega

/-- The digits of a number denote the number. -/
theorem value_decimal (number : Nat) : value (Bytes.decimal number) = number := by
  have general : ∀ (digits : List Char) (start : Nat), (∀ char ∈ digits, char.isDigit = true) →
      (digits.map fun digit => UInt8.ofNat digit.toNat).foldl
        (fun number digit => number * 10 + (digit.toNat - 48)) start =
          Nat.ofDigitChars 10 digits start := by
    intro digits
    induction digits with
    | nil => intro start _; rfl
    | cons char rest ih =>
      intro start all
      have same := (toNat_of_isDigit (all char List.mem_cons_self)).1
      rw [List.map_cons, List.foldl_cons, Nat.ofDigitChars_cons,
        ih _ fun other member => all other (List.mem_cons_of_mem _ member), same,
        Nat.mul_comm start 10]
      rfl
  calc value (Bytes.decimal number)
      = Nat.ofDigitChars 10 (Nat.toDigits 10 number) 0 :=
        general _ 0 fun _ member => Nat.isDigit_of_mem_toDigits (by decide) (by decide) member
    _ = number := Nat.ofDigitChars_ten_toDigits

theorem decimal_injective : Function.Injective Bytes.decimal := fun first second same => by
  rw [← value_decimal first, same, value_decimal]

theorem decimal_ne_nil (number : Nat) : Bytes.decimal number ≠ [] := by
  rw [Bytes.decimal, ne_eq, List.map_eq_nil_iff]
  exact Nat.toDigits_ne_nil

theorem isDigit_of_mem_decimal {number : Nat} {byte : UInt8}
    (member : byte ∈ Bytes.decimal number) : 48 ≤ byte.toNat ∧ byte.toNat ≤ 57 := by
  obtain ⟨char, inside, rfl⟩ := List.mem_map.mp member
  obtain ⟨same, bounds⟩ :=
    toNat_of_isDigit (Nat.isDigit_of_mem_toDigits (by decide) (by decide) inside)
  rwa [same]

theorem isDigits_decimal (number : Nat) : isDigits (Bytes.decimal number) = true := by
  have digits : (Bytes.decimal number).all isDigit = true := by
    rw [List.all_eq_true]
    intro byte member
    simpa [isDigit, UInt8.le_iff_toNat_le] using isDigit_of_mem_decimal member
  simp [isDigits, decimal_ne_nil, digits]

theorem isPlainByte_of_mem_decimal {number : Nat} {byte : UInt8}
    (member : byte ∈ Bytes.decimal number) : Token.isPlainByte byte = true := by
  obtain ⟨low, high⟩ := isDigit_of_mem_decimal member
  rw [Token.isPlainByte]
  generalize byte.toNat = code at low high
  interval_cases code <;> decide

/-- A word of ASCII characters with a number at its end is one word. -/
theorem isWord_append_decimal {text : Bytes} (plain : text.all Token.isPlainByte = true)
    (number : Nat) : Token.IsWord (text ++ Bytes.decimal number) := by
  apply Token.isWord_of_all
  · simp [decimal_ne_nil]
  · rw [List.all_append, plain, Bool.true_and, List.all_eq_true]
    exact fun byte member => isPlainByte_of_mem_decimal member

theorem isWord_decimal (number : Nat) : Token.IsWord (Bytes.decimal number) :=
  isWord_append_decimal (List.all_nil) number

theorem fitting?_decimal {bits number : Nat} (small : number < Nat.pow 2 bits) :
    fitting? bits (Bytes.decimal number) = some number := by
  rw [fitting?, value_decimal, if_pos small]

theorem index_decimal {number : Nat} (small : number < 0x80000000) :
    index (Bytes.decimal number) = .ok number := by
  have fits : number < Nat.pow 2 64 := Nat.lt_trans small (by decide)
  simp only [index, fitting?_decimal fits, if_pos small]

end Numeral

theorem Bytes.dropBeginning?_append (beginning rest : Bytes) :
    dropBeginning? beginning (beginning ++ rest) = some rest := by
  induction beginning with
  | nil => rfl
  | cons byte beginning ih => simpa [dropBeginning?] using ih

theorem Bytes.dropBeginning?_eq_some_iff {beginning text rest : Bytes} :
    dropBeginning? beginning text = some rest ↔ text = beginning ++ rest := by
  constructor
  · intro dropped
    induction beginning generalizing text with
    | nil => exact Option.some.inj dropped
    | cons byte beginning ih =>
      cases text with
      | nil => cases dropped
      | cons first text =>
        rw [dropBeginning?] at dropped
        split at dropped
        · rename_i same
          rw [same, ih dropped, List.cons_append]
        · cases dropped
  · rintro rfl
    exact dropBeginning?_append beginning rest

/-! ## Types -/

namespace Descriptor

theorem isWord_spelling {type : Descriptor} (valid : type.Valid) :
    Token.IsWord type.spelling := by
  rcases valid with ⟨kind, -⟩ | ⟨kind, -⟩
  · rw [spelling, if_pos kind]
    exact Numeral.isWord_append_decimal (by decide) _
  · rw [spelling, if_neg (by rw [kind]; decide), if_pos kind]
    exact Token.isWord_of_all (by decide) (by decide)

/-- A type is read back from the word it is spelled by. -/
theorem descriptor_spelling {type : Descriptor} (valid : type.Valid) (column : Nat) :
    Grammar.descriptor ⟨.word, type.spelling, column⟩ = .ok type := by
  rcases valid with ⟨kind, -, -⟩ | ⟨kind, width⟩
  · have spelled : type.spelling = utf8 "i" ++ Bytes.decimal type.width.toNat := by
      rw [spelling, if_pos kind]
    have other : utf8 "i" ++ Bytes.decimal type.width.toNat ≠ utf8 "bool" := by
      intro same
      exact absurd (List.cons.inj same).1 (by decide)
    have width : Numeral.fitting? 32 (Bytes.decimal type.width.toNat) = some type.width.toNat :=
      Numeral.fitting?_decimal type.width.toNat_lt
    simp only [Grammar.descriptor, spelled, ne_eq, not_true_eq_false, if_false, if_neg other,
      Bytes.dropBeginning?_append, Numeral.isDigits_decimal, if_true, width, UInt32.ofNat_toNat]
    rw [int, ← kind]
  · have spelled : type.spelling = utf8 "bool" := by
      rw [spelling, if_neg (by rw [kind]; decide), if_pos kind]
    simp only [Grammar.descriptor, spelled, ne_eq, not_true_eq_false, if_false, if_true]
    rw [bool, ← kind, ← width]

/-- Types are spelled differently. -/
theorem eq_of_spelling_eq {first second : Descriptor} (valid : first.Valid)
    (valid' : second.Valid) (same : first.spelling = second.spelling) : first = second := by
  have read : (.ok first : Except Complaint Descriptor) = .ok second := by
    rw [← descriptor_spelling valid 0, ← descriptor_spelling valid' 0, same]
  exact Except.ok.inj read

theorem typeOf_spelling {type : Descriptor} (valid : type.Valid) (column : Nat) :
    Grammar.typeOf ⟨.word, type.spelling, column⟩ = .ok type := by
  have checked : type.check = .ok () := if_pos valid
  rw [Grammar.typeOf, descriptor_spelling valid column, ok_bind, checked]
  rfl

end Descriptor

end Blockwork
