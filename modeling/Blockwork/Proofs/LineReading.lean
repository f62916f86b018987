import Blockwork.Proofs.Language
import Blockwork.Proofs.PhraseReading

/-!
# Reading lines of the language

What the grammar makes of a line depends on the words and marks of the line alone, and each kind of
line is read exactly if it is one. The grammar reads from left to right and hands on the tokens that
are left: a part of a line that is read stands at its beginning, and a part that stands there is
read, whatever comes behind it.
-/

namespace Blockwork

open SourceLanguage

/-! ## The words and marks of a line -/

/-- Tokens that are the given words and marks, up to the end of the line. -/
inductive Token.Yields : List Token → List Lexeme → Prop
  /-- Nothing is left. -/
  | stop (text : Bytes) (column : Nat) : Yields [⟨.endOfLine, text, column⟩] []
  /-- A word comes first. -/
  | word {text : Bytes} {column : Nat} {tokens : List Token} {lexemes : List Lexeme}
      (rest : Yields tokens lexemes) :
      Yields (⟨.word, text, column⟩ :: tokens) (.word text :: lexemes)
  /-- A mark comes first. -/
  | mark {sign : Mark} {text : Bytes} {column : Nat} {tokens : List Token} {lexemes : List Lexeme}
      (rest : Yields tokens lexemes) :
      Yields (⟨.mark sign, text, column⟩ :: tokens) (.mark sign :: lexemes)

namespace Token

theorem Yields.filterMap_eq {tokens : List Token} {lexemes : List Lexeme}
    (yields : Yields tokens lexemes) : tokens.filterMap lexeme? = lexemes := by
  induction yields with
  | stop text column => rfl
  | word rest ih => exact congrArg (List.cons _) ih
  | mark rest ih => exact congrArg (List.cons _) ih

theorem Yields.length_eq {tokens : List Token} {lexemes : List Lexeme}
    (yields : Yields tokens lexemes) : tokens.length = lexemes.length + 1 := by
  induction yields with
  | stop text column => rfl
  | word rest ih => rw [List.length_cons, ih, List.length_cons]
  | mark rest ih => rw [List.length_cons, ih, List.length_cons]

theorem exists_yields_prependToWord (glyph : Glyph) (column : Nat) {tokens : List Token}
    {lexemes : List Lexeme} (yields : Yields tokens lexemes) :
    ∃ lexemes', Yields (prependToWord glyph column tokens) lexemes' := by
  cases yields with
  | stop text stop => exact ⟨_, .word (.stop text stop)⟩
  | word rest =>
    rw [prependToWord]
    split
    · exact ⟨_, .word rest⟩
    · exact ⟨_, .word (.word rest)⟩
  | mark rest => exact ⟨_, .word (.mark rest)⟩

theorem length_prependToWord_le (glyph : Glyph) (column : Nat) (tokens : List Token) :
    (prependToWord glyph column tokens).length ≤ tokens.length + 1 := by
  unfold prependToWord
  split
  · split <;> simp
  · simp

/-- The tokens of a line are words and marks and the end of the line, and there are no more of them
than characters. -/
theorem exists_yields_lexFrom (stop column : Nat) (glyphs : List Glyph) :
    (∃ lexemes, Yields (lexFrom stop column glyphs) lexemes) ∧
      (lexFrom stop column glyphs).length ≤ glyphs.length + 1 := by
  induction glyphs generalizing column with
  | nil => exact ⟨⟨_, .stop _ _⟩, Nat.le_refl _⟩
  | cons glyph rest ih =>
    obtain ⟨⟨lexemes, yields⟩, bound⟩ := ih (column + glyph.size)
    rw [lexFrom, List.length_cons]
    split
    · exact ⟨⟨_, .stop _ _⟩, Nat.le_add_left _ _⟩
    · dsimp only
      split
      · exact ⟨⟨lexemes, yields⟩, Nat.le_succ_of_le bound⟩
      · split
        · exact ⟨⟨_, .mark yields⟩, Nat.succ_le_succ bound⟩
        · exact ⟨exists_yields_prependToWord glyph column yields,
            Nat.le_trans (length_prependToWord_le _ _ _) (Nat.succ_le_succ bound)⟩

end Token

theorem Glyph.length_list_le (text : Bytes) : (list text).length ≤ text.length := by
  suffices general : ∀ skip, (listFrom skip text).length ≤ text.length from general 0
  induction text with
  | nil => intro skip; exact Nat.le_refl _
  | cons byte rest ih =>
    intro skip
    cases skip with
    | succ remaining => exact Nat.le_succ_of_le (ih remaining)
    | zero =>
      rw [listFrom]
      split
      · exact Nat.succ_le_succ (ih _)
      · exact Nat.succ_le_succ (ih 0)

theorem Line.yields (line : Line) : Token.Yields line.tokens line.lexemes := by
  obtain ⟨lexemes, yields⟩ :=
    (Token.exists_yields_lexFrom (line.text.length + 1) 1 (Glyph.list line.text)).1
  have yields : Token.Yields line.tokens lexemes := yields
  rw [Line.lexemes, yields.filterMap_eq]
  exact yields

theorem Line.length_lexemes_le (line : Line) : line.lexemes.length ≤ line.text.length := by
  have bound : line.tokens.length ≤ (Glyph.list line.text).length + 1 :=
    (Token.exists_yields_lexFrom _ _ _).2
  rw [line.yields.length_eq] at bound
  exact Nat.le_trans (Nat.le_of_succ_le_succ bound) (Glyph.length_list_le _)

/-! ## Words -/

theorem Numeral.index_eq_ok_iff {digits : Bytes} {number : Nat} :
    index digits = .ok number ↔ value digits = number ∧ number < 0x80000000 := by
  unfold index fitting?
  by_cases fits : value digits < Nat.pow 2 64
  · simp only [if_pos fits]
    split
    · rename_i small
      constructor
      · rintro ⟨⟩
        exact ⟨rfl, small⟩
      · rintro ⟨rfl, -⟩
        rfl
    · rename_i large
      constructor
      · intro impossible
        cases impossible
      · rintro ⟨rfl, small⟩
        exact absurd small large
  · simp only [if_neg fits, reduceCtorEq, false_iff]
    rintro ⟨rfl, small⟩
    exact fits (Nat.lt_trans small (by decide))

namespace Descriptor

theorem toNat_width {width : Nat} (fits : width < Nat.pow 2 32) :
    (UInt32.ofNat width).toNat = width := by
  rw [UInt32.toNat_ofNat']
  exact Nat.mod_eq_of_lt fits

theorem lt_of_le_maxWidth {width : Nat} (bounded : width ≤ maxWidth) : width < Nat.pow 2 32 :=
  Nat.lt_of_le_of_lt bounded (by decide)

theorem valid_int_iff {width : Nat} (fits : width < Nat.pow 2 32) :
    (int (UInt32.ofNat width)).Valid ↔ 1 ≤ width ∧ width ≤ maxWidth := by
  simp [Valid, int, toNat_width fits]

end Descriptor

/-- A word stands for types only. -/
theorem SourceLanguage.IsType.valid {word : Bytes} {type : Descriptor} (spells : IsType word type) :
    type.Valid := by
  cases spells with
  | bool => decide
  | int _ _ positive bounded =>
    have small := Descriptor.lt_of_le_maxWidth bounded
    exact (Descriptor.valid_int_iff small).mpr ⟨positive, bounded⟩

namespace Grammar

theorem utf8_i_append_ne_bool (digits : Bytes) : utf8 "i" ++ digits ≠ utf8 "bool" := by
  intro same
  exact absurd (List.cons.inj same).1 (by decide)

/-- A descriptor is that of truth values, or it has the width that is written. -/
theorem spelt_of_descriptor {token : Token} {type : Descriptor}
    (spelled : descriptor token = .ok type) :
    type = .bool ∧ token.text = utf8 "bool" ∨
      ∃ digits width, token.text = utf8 "i" ++ digits ∧ IsNumeral digits width ∧
        width < Nat.pow 2 32 ∧ type = .int (UInt32.ofNat width) := by
  unfold descriptor at spelled
  obtain ⟨-, spelled⟩ := of_ite_error_eq_ok spelled
  split at spelled
  · rename_i bool
    cases spelled
    exact .inl ⟨rfl, bool⟩
  · split at spelled
    · rename_i digits dropped
      obtain ⟨numeral, spelled⟩ := of_ite_eq_ok spelled
      split at spelled
      · rename_i width fits
        cases spelled
        obtain ⟨small, same⟩ := Option.ite_none_right_eq_some.mp fits
        obtain rfl := Option.some.inj same
        exact .inr ⟨digits, _, Bytes.dropBeginning?_eq_some_iff.mp dropped, ⟨numeral, rfl⟩, small,
          rfl⟩
      · cases spelled
    · cases spelled

theorem isType_of_descriptor {token : Token} {type : Descriptor}
    (spelled : descriptor token = .ok type) (valid : type.Valid) :
    token.kind = .word ∧ IsType token.text type := by
  obtain ⟨word, -⟩ := of_ite_error_eq_ok spelled
  refine ⟨Decidable.not_not.mp word, ?_⟩
  obtain ⟨rfl, written⟩ | ⟨digits, width, written, numeral, small, rfl⟩ :=
    spelt_of_descriptor spelled
  · exact .bool written
  · have bounds := Descriptor.valid_int_iff small |>.mp valid
    exact .int written numeral bounds.1 bounds.2

/-- A token is read as a type exactly if it is a word that stands for the type. -/
theorem typeOf_eq_ok_iff {token : Token} {type : Descriptor} :
    typeOf token = .ok type ↔ token.kind = .word ∧ IsType token.text type := by
  constructor
  · intro read
    have valid := valid_of_typeOf read
    obtain ⟨described, spelled, rest⟩ := bind_eq_ok_iff.mp read
    obtain rfl : described = type := by
      split at rest
      · exact Except.ok.inj rest
      · cases rest
    exact isType_of_descriptor spelled valid
  · rintro ⟨word, spells⟩
    have valid := spells.valid
    obtain ⟨kind, text, column⟩ := token
    obtain rfl : kind = .word := word
    cases spells with
    | bool written =>
      subst written
      exact Descriptor.bool.typeOf_spelling (by decide) column
    | @int digits width written numeral positive bounded =>
      subst written
      have small := Descriptor.lt_of_le_maxWidth bounded
      have fits : Numeral.fitting? 32 digits = some width := by
        rw [Numeral.fitting?, numeral.2, if_pos small]
      have spelled : descriptor ⟨.word, utf8 "i" ++ digits, column⟩ =
          .ok (.int (UInt32.ofNat width)) := by
        simp only [descriptor, ne_eq, not_true_eq_false, if_false,
          if_neg (utf8_i_append_ne_bool digits), Bytes.dropBeginning?_append, numeral.1, if_true,
          fits]
      rw [typeOf, spelled, ok_bind, Interner.check_eq_ok_iff.mpr valid]
      rfl

theorem labelOf_eq_ok_iff {token : Token} {number : BlockId} :
    labelOf token = .ok number ↔ token.kind = .word ∧ number < 0x80000000 ∧
      ∃ digits, IsNumeral digits number ∧ token.text = utf8 "bb" ++ digits := by
  unfold labelOf
  constructor
  · intro read
    obtain ⟨word, read⟩ := of_ite_error_eq_ok read
    split at read
    · cases read
    · rename_i digits dropped
      obtain ⟨numeral, read⟩ := of_ite_eq_ok read
      split at read
      · rename_i index
        cases read
        obtain ⟨value, small⟩ := Numeral.index_eq_ok_iff.mp index
        exact ⟨Decidable.not_not.mp word, small, digits, ⟨numeral, value⟩,
          Bytes.dropBeginning?_eq_some_iff.mp dropped⟩
      · cases read
  · rintro ⟨word, small, digits, ⟨numeral, value⟩, text⟩
    simp only [word, ne_eq, not_true_eq_false, if_false, text, Bytes.dropBeginning?_append, numeral,
      if_true, Numeral.index_eq_ok_iff.mpr ⟨value, small⟩]

theorem referenceOf_eq_ok_iff {percent digits : Token} {number : ValueId} :
    referenceOf percent digits = .ok number ↔ percent.kind = .mark .percent ∧
      digits.kind = .word ∧ IsNumeral digits.text number ∧ number < 0x80000000 := by
  unfold referenceOf
  constructor
  · intro read
    obtain ⟨sign, read⟩ := of_ite_error_eq_ok read
    obtain ⟨numeral, read⟩ := of_ite_error_eq_ok read
    split at read
    · rename_i index
      cases read
      obtain ⟨value, small⟩ := Numeral.index_eq_ok_iff.mp index
      simp only [not_or, ne_eq, Decidable.not_not, Bool.not_eq_false] at sign numeral
      exact ⟨sign, numeral.1, ⟨numeral.2, value⟩, small⟩
    · cases read
  · rintro ⟨sign, word, ⟨numeral, value⟩, small⟩
    simp only [sign, word, numeral, ne_eq, not_true_eq_false, if_false, Bool.true_eq_false, or_self,
      Numeral.index_eq_ok_iff.mpr ⟨value, small⟩]

theorem operandOf_eq_ok_iff {user number : ValueId} {percent digits : Token}
    (bound : user ≤ 0x80000000) :
    operandOf user percent digits = .ok number ↔ percent.kind = .mark .percent ∧
      digits.kind = .word ∧ IsNumeral digits.text number ∧ number < user := by
  unfold operandOf
  rw [bind_eq_ok_iff]
  constructor
  · rintro ⟨found, read, checked⟩
    obtain ⟨earlier, done⟩ := of_ite_eq_ok checked
    cases done
    obtain ⟨sign, word, numeral, -⟩ := referenceOf_eq_ok_iff.mp read
    exact ⟨sign, word, numeral, earlier⟩
  · rintro ⟨sign, word, numeral, earlier⟩
    refine ⟨number, referenceOf_eq_ok_iff.mpr ⟨sign, word, numeral, ?_⟩, if_pos earlier⟩
    exact Nat.lt_of_lt_of_le earlier bound

/-! ## Parts of a line -/

variable {stop : Token} {tokens rest : List Token} {lexemes back : List Lexeme}

theorem tail_of_word (stop : Token) (yields : Token.Yields tokens lexemes)
    (kind : (peek stop tokens).kind = .word) :
    ∃ back, lexemes = .word (peek stop tokens).text :: back ∧
      Token.Yields tokens.tail back := by
  cases yields with
  | stop => cases kind
  | word more => exact ⟨_, rfl, more⟩
  | mark => cases kind

theorem tail_of_mark (stop : Token) {sign : Mark} (yields : Token.Yields tokens lexemes)
    (kind : (peek stop tokens).kind = .mark sign) :
    ∃ back, lexemes = .mark sign :: back ∧ Token.Yields tokens.tail back := by
  cases yields with
  | stop => cases kind
  | word => cases kind
  | mark more =>
    cases kind
    exact ⟨_, rfl, more⟩

theorem peek_word (stop : Token) {text : Bytes}
    (yields : Token.Yields tokens (.word text :: back)) :
    (peek stop tokens).kind = .word ∧ (peek stop tokens).text = text ∧
      Token.Yields tokens.tail back := by
  obtain _ | yields | _ := yields
  exact ⟨rfl, rfl, yields⟩

theorem peek_mark (stop : Token) {sign : Mark}
    (yields : Token.Yields tokens (.mark sign :: back)) :
    (peek stop tokens).kind = .mark sign ∧ Token.Yields tokens.tail back := by
  obtain _ | _ | yields := yields
  exact ⟨rfl, yields⟩

theorem expect_cons (stop : Token) {kind : TokenKind} (what : Bytes) {token : Token}
    (is : token.kind = kind) : expect stop kind what (token :: tokens) = .ok (token, tokens) :=
  if_pos is

theorem mark_cons (stop : Token) {sign : Mark} {token : Token} (is : token.kind = .mark sign) :
    mark stop sign (token :: tokens) = .ok (token, tokens) :=
  expect_cons stop sign.quoted is

theorem keyword_cons (stop : Token) {word : String} {token : Token} (is : token.kind = .word)
    (text : token.text = utf8 word) :
    keyword stop word (token :: tokens) = .ok (token, tokens) :=
  if_pos (isWord_iff.mpr ⟨is, text⟩)

theorem readType_cons (stop : Token) {token : Token} {type : Descriptor} (is : token.kind = .word)
    (spells : IsType token.text type) :
    readType stop (token :: tokens) = .ok (type, tokens) :=
  bind_eq_ok_iff.mpr ⟨type, typeOf_eq_ok_iff.mpr ⟨is, spells⟩, rfl⟩

theorem readReference_cons (stop : Token) {percent digits : Token} {number : ValueId}
    (sign : percent.kind = .mark .percent) (is : digits.kind = .word)
    (numeral : IsNumeral digits.text number) (small : number < 0x80000000) :
    readReference stop (percent :: digits :: tokens) = .ok (number, tokens) :=
  bind_eq_ok_iff.mpr ⟨number, referenceOf_eq_ok_iff.mpr ⟨sign, is, numeral, small⟩, rfl⟩

theorem readOperand_cons (stop : Token) {percent digits : Token} {user number : ValueId}
    (bound : user ≤ 0x80000000) (sign : percent.kind = .mark .percent) (is : digits.kind = .word)
    (numeral : IsNumeral digits.text number) (earlier : number < user) :
    readOperand stop user (percent :: digits :: tokens) = .ok (number, tokens) :=
  bind_eq_ok_iff.mpr ⟨number, (operandOf_eq_ok_iff bound).mpr ⟨sign, is, numeral, earlier⟩, rfl⟩

theorem yields_of_expect_word {what : Bytes} {token : Token}
    (yields : Token.Yields tokens lexemes)
    (read : expect stop .word what tokens = .ok (token, rest)) :
    ∃ back, lexemes = .word token.text :: back ∧ Token.Yields rest back := by
  obtain ⟨kind, done⟩ := of_ite_eq_ok read
  cases done
  exact tail_of_word stop yields kind

theorem yields_of_mark {sign : Mark} {token : Token} (yields : Token.Yields tokens lexemes)
    (read : mark stop sign tokens = .ok (token, rest)) :
    ∃ back, lexemes = .mark sign :: back ∧ Token.Yields rest back := by
  obtain ⟨kind, done⟩ := of_ite_eq_ok read
  cases done
  exact tail_of_mark stop yields kind

theorem yields_of_keyword {word : String} {token : Token} (yields : Token.Yields tokens lexemes)
    (read : keyword stop word tokens = .ok (token, rest)) :
    ∃ back, lexemes = .word (utf8 word) :: back ∧ Token.Yields rest back := by
  obtain ⟨found, done⟩ := of_ite_eq_ok read
  cases done
  obtain ⟨kind, text⟩ := isWord_iff.mp found
  rw [← text]
  exact tail_of_word stop yields kind

theorem finish_eq_ok_iff (yields : Token.Yields tokens lexemes) :
    finish stop tokens = .ok () ↔ lexemes = [] := by
  cases yields with
  | stop => simp [finish, expect, peek, ok_bind, pure, Except.pure]
  | word => simp [finish, expect, peek, bind, Except.bind]
  | mark => simp [finish, expect, peek, bind, Except.bind]

theorem yields_of_readType {type : Descriptor} (yields : Token.Yields tokens lexemes)
    (read : readType stop tokens = .ok (type, rest)) :
    ∃ word back, IsType word type ∧ lexemes = .word word :: back ∧ Token.Yields rest back := by
  obtain ⟨found, typed, done⟩ := bind_eq_ok_iff.mp read
  cases done
  obtain ⟨kind, spells⟩ := typeOf_eq_ok_iff.mp typed
  obtain ⟨back, split, more⟩ := tail_of_word stop yields kind
  exact ⟨_, back, spells, split, more⟩

/-- A percent sign and a word behind it refer to a value. -/
theorem yields_of_reference (stop : Token) (yields : Token.Yields tokens lexemes)
    (sign : (peek stop tokens).kind = .mark .percent)
    (kind : (peek stop tokens.tail).kind = .word) :
    ∃ back, lexemes = reference (peek stop tokens.tail).text ++ back ∧
      Token.Yields tokens.tail.tail back := by
  obtain ⟨_, rfl, behind⟩ := tail_of_mark stop yields sign
  obtain ⟨back, rfl, more⟩ := tail_of_word stop behind kind
  exact ⟨back, rfl, more⟩

theorem yields_of_readReference {number : ValueId} (yields : Token.Yields tokens lexemes)
    (read : readReference stop tokens = .ok (number, rest)) :
    ∃ digits back, IsNumeral digits number ∧ number < 0x80000000 ∧
      lexemes = reference digits ++ back ∧ Token.Yields rest back := by
  obtain ⟨found, referred, done⟩ := bind_eq_ok_iff.mp read
  cases done
  obtain ⟨sign, kind, numeral, small⟩ := referenceOf_eq_ok_iff.mp referred
  obtain ⟨back, split, more⟩ := yields_of_reference stop yields sign kind
  exact ⟨_, back, numeral, small, split, more⟩

theorem yields_of_readOperand {user number : ValueId} (bound : user ≤ 0x80000000)
    (yields : Token.Yields tokens lexemes)
    (read : readOperand stop user tokens = .ok (number, rest)) :
    ∃ digits back, IsNumeral digits number ∧ number < user ∧
      lexemes = reference digits ++ back ∧ Token.Yields rest back := by
  obtain ⟨found, referred, done⟩ := bind_eq_ok_iff.mp read
  cases done
  obtain ⟨sign, kind, numeral, earlier⟩ := (operandOf_eq_ok_iff bound).mp referred
  obtain ⟨back, split, more⟩ := yields_of_reference stop yields sign kind
  exact ⟨_, back, numeral, earlier, split, more⟩

/-! ## Lists between brackets -/

theorem separated_cons {item : List Lexeme} {others : List (List Lexeme)} (more : others ≠ []) :
    separated (item :: others) = item ++ .mark .comma :: separated others := by
  cases others with
  | nil => exact absurd rfl more
  | cons next others => rfl

/-- A reader of the items of a list up to the closing bracket, at least one of them. -/
structure ReadsItems {α : Type} (read : List Token → Except Complaint (List α × List Token))
    (item : Bytes → List Lexeme) (means : Bytes → α → Prop) : Prop where
  /-- No item begins with a closing bracket. -/
  starts : ∀ word, ∃ first others, item word = first :: others ∧ first ≠ .mark .rightParen
  /-- What is read stands there. -/
  sound : ∀ {tokens : List Token} {lexemes : List Lexeme} {results : List α} {rest : List Token},
    Token.Yields tokens lexemes → read tokens = .ok (results, rest) →
      ∃ words back, words ≠ [] ∧ List.Forall₂ means words results ∧
        lexemes = separated (words.map item) ++ .mark .rightParen :: back ∧ Token.Yields rest back
  /-- What stands there is read. -/
  complete : ∀ {tokens : List Token} {back : List Lexeme} {words : List Bytes} {results : List α},
    words ≠ [] → List.Forall₂ means words results →
      Token.Yields tokens (separated (words.map item) ++ .mark .rightParen :: back) →
      ∃ rest, read tokens = .ok (results, rest) ∧ Token.Yields rest back

theorem readsItems_readTypes (stop : Token) : ReadsItems (readTypes stop) typeItem IsType where
  starts word := ⟨_, _, rfl, Lexeme.noConfusion⟩
  sound := by
    intro tokens lexemes types rest yields read
    fun_induction readTypes stop tokens generalizing lexemes types rest with
    | case1 token separator after ih =>
      obtain ⟨type, typed, more⟩ := bind_eq_ok_iff.mp read
      obtain ⟨kind, spells⟩ := typeOf_eq_ok_iff.mp typed
      obtain ⟨_, rfl, behind⟩ := tail_of_word stop yields kind
      split at more
      · rename_i closing
        cases more
        obtain ⟨back, rfl, after⟩ := tail_of_mark stop behind closing
        exact ⟨_, _, List.cons_ne_nil _ _, .cons spells .nil, rfl, after⟩
      · rename_i comma
        obtain ⟨⟨others, last⟩, tail, done⟩ := bind_eq_ok_iff.mp more
        cases done
        obtain ⟨_, rfl, after⟩ := tail_of_mark stop behind comma
        obtain ⟨words, back, nonempty, spell, rfl, done⟩ := ih after tail
        refine ⟨_ :: words, back, List.cons_ne_nil _ _, .cons spells spell, ?_, done⟩
        rw [List.map_cons, separated_cons (by simpa using nonempty)]
        rfl
      · cases more
    | case2 tokens _ =>
      obtain ⟨type, -, done⟩ := bind_eq_ok_iff.mp read
      cases done
  complete := by
    intro tokens back words types nonempty spell yields
    induction spell generalizing tokens with
    | nil => exact absurd rfl nonempty
    | @cons word type words types spells spell ih =>
      cases spell with
      | nil =>
        obtain _ | yields | _ := yields
        obtain _ | _ | yields := yields
        refine ⟨_, ?_, yields⟩
        rw [readTypes, typeOf_eq_ok_iff.mpr ⟨rfl, spells⟩]
        rfl
      | @cons next _ others _ spells' spell' =>
        obtain _ | yields | _ := yields
        obtain _ | _ | yields := yields
        obtain ⟨rest, read, behind⟩ := ih (List.cons_ne_nil _ _) yields
        refine ⟨rest, ?_, behind⟩
        rw [readTypes, typeOf_eq_ok_iff.mpr ⟨rfl, spells⟩, ok_bind]
        dsimp only
        rw [read]
        rfl

theorem readsItems_readOperands (stop : Token) {user : ValueId} (bound : user ≤ 0x80000000) :
    ReadsItems (readOperands stop user) reference
      fun digits number => IsNumeral digits number ∧ number < user where
  starts word := ⟨_, _, rfl, by decide⟩
  sound := by
    intro tokens lexemes numbers rest yields read
    fun_induction readOperands stop user tokens generalizing lexemes numbers rest with
    | case1 percent digits separator after ih =>
      obtain ⟨number, operand, more⟩ := bind_eq_ok_iff.mp read
      obtain ⟨sign, kind, numeral, earlier⟩ := (operandOf_eq_ok_iff bound).mp operand
      obtain ⟨_, rfl, behind⟩ := yields_of_reference stop yields sign kind
      split at more
      · rename_i closing
        cases more
        obtain ⟨back, rfl, after⟩ := tail_of_mark stop behind closing
        exact ⟨_, _, List.cons_ne_nil _ _, .cons ⟨numeral, earlier⟩ .nil, rfl, after⟩
      · rename_i comma
        obtain ⟨⟨others, last⟩, tail, done⟩ := bind_eq_ok_iff.mp more
        cases done
        obtain ⟨_, rfl, after⟩ := tail_of_mark stop behind comma
        obtain ⟨words, back, nonempty, spell, rfl, done⟩ := ih after tail
        refine ⟨_ :: words, back, List.cons_ne_nil _ _, .cons ⟨numeral, earlier⟩ spell, ?_,
          done⟩
        rw [List.map_cons, separated_cons (by simpa using nonempty)]
        rfl
      · cases more
    | case2 tokens _ =>
      obtain ⟨number, -, done⟩ := bind_eq_ok_iff.mp read
      cases done
  complete := by
    intro tokens back words numbers nonempty spell yields
    induction spell generalizing tokens with
    | nil => exact absurd rfl nonempty
    | @cons digits number words numbers spells spell ih =>
      cases spell with
      | nil =>
        obtain _ | _ | yields := yields
        obtain _ | yields | _ := yields
        obtain _ | _ | yields := yields
        refine ⟨_, ?_, yields⟩
        rw [readOperands, (operandOf_eq_ok_iff bound).mpr ⟨rfl, rfl, spells⟩]
        rfl
      | @cons next _ others _ spells' spell' =>
        obtain _ | _ | yields := yields
        obtain _ | yields | _ := yields
        obtain _ | _ | yields := yields
        obtain ⟨rest, read, behind⟩ := ih (List.cons_ne_nil _ _) yields
        refine ⟨rest, ?_, behind⟩
        rw [readOperands, (operandOf_eq_ok_iff bound).mpr ⟨rfl, rfl, spells⟩, ok_bind]
        dsimp only
        rw [read]
        rfl

namespace ReadsItems

variable {α : Type} {read : List Token → Except Complaint (List α × List Token)}
  {item : Bytes → List Lexeme} {means : Bytes → α → Prop}

/-- A list between brackets that is read stands there; it may be empty. -/
theorem sound_bracket (reads : ReadsItems read item means) {results : List α}
    (yields : Token.Yields tokens lexemes)
    (found : (if (peek stop tokens).kind = .mark .rightParen then pure ([], tokens.tail)
      else read tokens) = .ok (results, rest)) :
    ∃ words back, List.Forall₂ means words results ∧
      lexemes = separated (words.map item) ++ .mark .rightParen :: back ∧
      Token.Yields rest back := by
  split at found
  · rename_i closing
    cases found
    obtain ⟨back, split, more⟩ := tail_of_mark stop yields closing
    exact ⟨[], back, .nil, split, more⟩
  · obtain ⟨words, back, -, spell, split, more⟩ := reads.sound yields found
    exact ⟨words, back, spell, split, more⟩

/-- A list between brackets that stands there is read; it may be empty. -/
theorem complete_bracket (reads : ReadsItems read item means) (stop : Token) {results : List α}
    {words : List Bytes} (spell : List.Forall₂ means words results)
    (yields : Token.Yields tokens (separated (words.map item) ++ .mark .rightParen :: back)) :
    ∃ rest, (if (peek stop tokens).kind = .mark .rightParen then pure ([], tokens.tail)
      else read tokens) = .ok (results, rest) ∧ Token.Yields rest back := by
  cases words with
  | nil =>
    cases spell
    obtain _ | _ | yields := yields
    exact ⟨_, rfl, yields⟩
  | cons word words =>
    obtain ⟨rest, found, more⟩ := reads.complete (List.cons_ne_nil _ _) spell yields
    refine ⟨rest, ?_, more⟩
    rw [if_neg ?_, found]
    intro closing
    obtain ⟨first, others, begins, other⟩ := reads.starts word
    obtain ⟨_, same, -⟩ := tail_of_mark stop yields closing
    have head : (separated ((word :: words).map item)).head? = some first := by
      cases words <;> simp [separated, begins]
    have same := congrArg List.head? same
    rw [List.head?_append, head] at same
    exact other (Option.some.inj same)

end ReadsItems

/-! ## Lines -/

/-- A header is read exactly if it is one. -/
theorem readHeader_iff (stop : Token) {name : Bytes} {inputs : List Descriptor}
    {output : Descriptor}
    (yields : Token.Yields tokens lexemes) :
    (∃ column, readHeader stop tokens = .ok ⟨name, column, inputs, output⟩) ↔
      IsHeader (.word (utf8 "define") :: lexemes) ⟨name, inputs, output⟩ := by
  constructor
  · rintro ⟨column, read⟩
    unfold readHeader at read
    obtain ⟨⟨word, afterName⟩, nameRead, read⟩ := bind_eq_ok_iff.mp read
    obtain ⟨_, rfl, nameRest⟩ := yields_of_expect_word yields nameRead
    obtain ⟨⟨opening, afterOpening⟩, openingRead, read⟩ := bind_eq_ok_iff.mp read
    obtain ⟨_, rfl, openingRest⟩ := yields_of_mark nameRest openingRead
    dsimp only at read
    rw [ite_bind] at read
    obtain ⟨⟨types, afterTypes⟩, typesRead, read⟩ := bind_eq_ok_iff.mp read
    obtain ⟨words, _, spell, rfl, typesRest⟩ :=
      (readsItems_readTypes stop).sound_bracket openingRest typesRead
    obtain ⟨⟨arrow, afterArrow⟩, arrowRead, read⟩ := bind_eq_ok_iff.mp read
    obtain ⟨_, rfl, arrowRest⟩ := yields_of_keyword typesRest arrowRead
    obtain ⟨⟨type, afterType⟩, typeRead, read⟩ := bind_eq_ok_iff.mp read
    obtain ⟨result, _, spells, rfl, typeRest⟩ := yields_of_readType arrowRest typeRead
    obtain ⟨⟨brace, afterBrace⟩, braceRead, read⟩ := bind_eq_ok_iff.mp read
    obtain ⟨_, rfl, braceRest⟩ := yields_of_mark typeRest braceRead
    obtain ⟨⟨⟩, finished, done⟩ := bind_eq_ok_iff.mp read
    obtain rfl := (finish_eq_ok_iff braceRest).mp finished
    cases done
    exact ⟨words, result, spell, spells, rfl⟩
  · rintro ⟨words, result, spell, spells, same⟩
    obtain rfl := (List.cons.inj same).2
    obtain _ | @⟨_, column, _, _, yields⟩ | _ := yields
    obtain _ | _ | yields := yields
    obtain ⟨rest, typesRead, yields⟩ :=
      (readsItems_readTypes stop).complete_bracket stop spell yields
    obtain _ | yields | _ := yields
    obtain _ | yields | _ := yields
    obtain _ | _ | yields := yields
    obtain _ | _ | _ := yields
    refine ⟨column, ?_⟩
    unfold readHeader
    refine bind_eq_ok_iff.mpr ⟨_, expect_cons stop _ rfl, ?_⟩
    refine bind_eq_ok_iff.mpr ⟨_, mark_cons stop rfl, ?_⟩
    dsimp only
    rw [ite_bind]
    refine bind_eq_ok_iff.mpr ⟨_, typesRead, ?_⟩
    refine bind_eq_ok_iff.mpr ⟨_, keyword_cons stop rfl rfl, ?_⟩
    refine bind_eq_ok_iff.mpr ⟨_, readType_cons stop rfl spells, ?_⟩
    refine bind_eq_ok_iff.mpr ⟨_, mark_cons stop rfl, ?_⟩
    exact bind_eq_ok_iff.mpr ⟨(), (finish_eq_ok_iff (.stop _ _)).mpr rfl, rfl⟩

/-- A label is read exactly if it is one with a number that can be. -/
theorem readLabel_iff (stop : Token) {number : BlockId} (yields : Token.Yields tokens lexemes) :
    readLabel stop tokens = .ok number ↔ IsLabel lexemes number ∧ number < 0x80000000 := by
  constructor
  · intro read
    obtain ⟨found, labelled, read⟩ := bind_eq_ok_iff.mp read
    obtain ⟨kind, small, digits, numeral, text⟩ := labelOf_eq_ok_iff.mp labelled
    obtain ⟨_, rfl, wordRest⟩ := tail_of_word stop yields kind
    obtain ⟨⟨colon, afterColon⟩, colonRead, read⟩ := bind_eq_ok_iff.mp read
    obtain ⟨_, rfl, colonRest⟩ := yields_of_mark wordRest colonRead
    obtain ⟨⟨⟩, finished, done⟩ := bind_eq_ok_iff.mp read
    obtain rfl := (finish_eq_ok_iff colonRest).mp finished
    cases done
    rw [text]
    exact ⟨⟨digits, numeral, rfl⟩, small⟩
  · rintro ⟨⟨digits, numeral, rfl⟩, small⟩
    obtain _ | yields | _ := yields
    obtain _ | _ | yields := yields
    obtain _ | _ | _ := yields
    unfold readLabel
    refine bind_eq_ok_iff.mpr
      ⟨_, labelOf_eq_ok_iff.mpr ⟨rfl, small, digits, numeral, rfl⟩, ?_⟩
    refine bind_eq_ok_iff.mpr ⟨_, mark_cons stop rfl, ?_⟩
    exact bind_eq_ok_iff.mpr ⟨(), (finish_eq_ok_iff (.stop _ _)).mpr rfl, rfl⟩

/-- A line that is read up to its instruction is a value line. -/
theorem yields_of_readValueHead {number : ValueId} {type : Descriptor} {instruction : List Token}
    (yields : Token.Yields tokens lexemes)
    (read : readValueHead stop tokens = .ok ⟨number, type, instruction⟩) :
    ∃ formula, IsValueLine lexemes ⟨number, type, formula⟩ ∧ number < 0x80000000 ∧
      Token.Yields instruction formula := by
  unfold readValueHead at read
  obtain ⟨⟨found, afterNumber⟩, numberRead, read⟩ := bind_eq_ok_iff.mp read
  obtain ⟨digits, _, numeral, small, rfl, numberRest⟩ := yields_of_readReference yields numberRead
  obtain ⟨⟨colon, afterColon⟩, colonRead, read⟩ := bind_eq_ok_iff.mp read
  obtain ⟨_, rfl, colonRest⟩ := yields_of_mark numberRest colonRead
  obtain ⟨⟨described, afterType⟩, typeRead, read⟩ := bind_eq_ok_iff.mp read
  obtain ⟨word, _, spells, rfl, typeRest⟩ := yields_of_readType colonRest typeRead
  obtain ⟨⟨equals, afterEquals⟩, equalsRead, read⟩ := bind_eq_ok_iff.mp read
  obtain ⟨formula, rfl, equalsRest⟩ := yields_of_mark typeRest equalsRead
  obtain ⟨more, done⟩ := of_ite_error_eq_ok read
  cases done
  refine ⟨formula, ⟨digits, word, numeral, spells, ?_, rfl⟩, small, equalsRest⟩
  rintro rfl
  cases equalsRest
  exact more rfl

/-- A value line with a number that can be is read up to its instruction. -/
theorem exists_readValueHead (stop : Token) {line : ValueLine} (small : line.number < 0x80000000)
    (value : IsValueLine lexemes line) (yields : Token.Yields tokens lexemes) :
    ∃ instruction, readValueHead stop tokens = .ok ⟨line.number, line.type, instruction⟩ ∧
      Token.Yields instruction line.formula := by
  obtain ⟨digits, word, numeral, spells, more, rfl⟩ := value
  obtain _ | _ | yields := yields
  obtain _ | yields | _ := yields
  obtain _ | _ | yields := yields
  obtain _ | yields | _ := yields
  obtain _ | _ | @⟨_, _, _, instruction, _, yields⟩ := yields
  refine ⟨instruction, ?_, yields⟩
  have first : (peek stop instruction).kind ≠ .endOfLine := by
    intro ended
    generalize line.formula = formula at yields more
    cases yields with
    | stop => exact more rfl
    | word => cases ended
    | mark => cases ended
  unfold readValueHead
  refine bind_eq_ok_iff.mpr ⟨_, readReference_cons stop rfl rfl numeral small, ?_⟩
  refine bind_eq_ok_iff.mpr ⟨_, mark_cons stop rfl, ?_⟩
  refine bind_eq_ok_iff.mpr ⟨_, readType_cons stop rfl spells, ?_⟩
  exact bind_eq_ok_iff.mpr ⟨_, mark_cons stop rfl, if_neg first⟩

/-- A line that begins like a terminator line is one, if it is read. -/
theorem isEnding_of_readTerminator {terminator : Terminator} {column : Nat}
    (yields : Token.Yields tokens lexemes)
    (begins : ((peek stop tokens).isWord "branch" || (peek stop tokens).isWord "return") = true)
    (read : readTerminator stop tokens = .ok (terminator, column)) :
    IsEnding lexemes terminator := by
  unfold readTerminator at read
  dsimp only at read
  split at read
  · rename_i branch
    obtain ⟨kind, text⟩ := isWord_iff.mp branch
    obtain ⟨_, rfl, wordRest⟩ := tail_of_word stop yields kind
    obtain ⟨target, labelled, read⟩ := bind_eq_ok_iff.mp read
    obtain ⟨kind, -, digits, numeral, label⟩ := labelOf_eq_ok_iff.mp labelled
    obtain ⟨_, rfl, labelRest⟩ := tail_of_word stop wordRest kind
    obtain ⟨⟨⟩, finished, done⟩ := bind_eq_ok_iff.mp read
    obtain rfl := (finish_eq_ok_iff labelRest).mp finished
    cases done
    rw [text, label]
    exact ⟨digits, numeral, rfl⟩
  · rename_i other
    have result : (peek stop tokens).isWord "return" = true := by simpa [other] using begins
    obtain ⟨kind, text⟩ := isWord_iff.mp result
    obtain ⟨_, rfl, wordRest⟩ := tail_of_word stop yields kind
    obtain ⟨⟨value, afterValue⟩, valueRead, read⟩ := bind_eq_ok_iff.mp read
    obtain ⟨digits, _, numeral, -, rfl, valueRest⟩ := yields_of_readReference wordRest valueRead
    obtain ⟨⟨⟩, finished, done⟩ := bind_eq_ok_iff.mp read
    obtain rfl := (finish_eq_ok_iff valueRest).mp finished
    cases done
    rw [text]
    exact ⟨digits, numeral, rfl⟩

/-- A terminator line that refers to a number that can be is read. -/
theorem exists_readTerminator (stop : Token) {terminator : Terminator}
    (small : terminator.reference < 0x80000000) (ending : IsEnding lexemes terminator)
    (yields : Token.Yields tokens lexemes) :
    ((peek stop tokens).isWord "branch" || (peek stop tokens).isWord "return") = true ∧
      ∃ column, readTerminator stop tokens = .ok (terminator, column) := by
  cases terminator with
  | branch target =>
    obtain ⟨digits, numeral, rfl⟩ := ending
    obtain _ | @⟨_, column, _, _, yields⟩ | _ := yields
    obtain _ | @⟨_, column', _, _, yields⟩ | _ := yields
    obtain _ | _ | _ := yields
    have branch : (⟨.word, utf8 "branch", column⟩ : Token).isWord "branch" = true :=
      isWord_iff.mpr ⟨rfl, rfl⟩
    refine ⟨Bool.or_eq_true_iff.mpr (.inl branch), column', ?_⟩
    simp only [readTerminator, peek, List.headD_cons, List.tail_cons, branch, if_true]
    refine bind_eq_ok_iff.mpr
      ⟨target, labelOf_eq_ok_iff.mpr ⟨rfl, small, digits, numeral, rfl⟩, ?_⟩
    exact bind_eq_ok_iff.mpr ⟨(), (finish_eq_ok_iff (.stop _ _)).mpr rfl, rfl⟩
  | result value =>
    obtain ⟨digits, numeral, rfl⟩ := ending
    obtain _ | @⟨_, column, _, _, yields⟩ | _ := yields
    obtain _ | _ | @⟨_, _, column', _, _, yields⟩ := yields
    obtain _ | yields | _ := yields
    obtain _ | _ | _ := yields
    have result : (⟨.word, utf8 "return", column⟩ : Token).isWord "return" = true :=
      isWord_iff.mpr ⟨rfl, rfl⟩
    have apart : utf8 "return" ≠ utf8 "branch" := by decide
    have other : (⟨.word, utf8 "return", column⟩ : Token).isWord "branch" = false := by
      simp [Token.isWord, apart]
    refine ⟨Bool.or_eq_true_iff.mpr (.inr result), column', ?_⟩
    simp only [readTerminator, peek, List.headD_cons, List.tail_cons, other, Bool.false_eq_true,
      if_false]
    refine bind_eq_ok_iff.mpr ⟨_, readReference_cons stop rfl rfl numeral small, ?_⟩
    exact bind_eq_ok_iff.mpr ⟨(), (finish_eq_ok_iff (.stop _ _)).mpr rfl, rfl⟩

end Grammar

/-! ## Instructions -/

/-- What stands behind an equals sign says what to compute, as far as it can be told without types:
`callable` are the functions that there are, and `user` is the number of the value. -/
inductive SourceLanguage.Tells (callable : Bytes → Option FunctionId) (user : ValueId)
    (formula : List Lexeme) : Instruction → Prop
  /-- A literal. -/
  | const {digits : Bytes} {number : Nat} (written : formula = [.word digits])
      (numeral : IsNumeral digits number) (fits : number < Nat.pow 2 64) :
      Tells callable user formula (.const (UInt64.ofNat number))
  /-- A call. -/
  | call {name : Bytes} {digits : List Bytes} {callee : FunctionId} {arguments : List ValueId}
      (written : formula = .word (utf8 "call") :: .word name :: .mark .leftParen ::
        (separated (digits.map reference) ++ [.mark .rightParen]))
      (named : callable name = some callee) (numerals : List.Forall₂ IsNumeral digits arguments)
      (earlier : ∀ argument ∈ arguments, argument < user) :
      Tells callable user formula (.call callee arguments)
  /-- An operation. -/
  | binary {operator : Operator} {leftDigits rightDigits : Bytes} {left right : ValueId}
      (written : formula =
        .word (utf8 operator.mnemonic) :: (reference leftDigits ++ reference rightDigits))
      (leftNumeral : IsNumeral leftDigits left) (leftEarlier : left < user)
      (rightNumeral : IsNumeral rightDigits right) (rightEarlier : right < user) :
      Tells callable user formula (.binary operator left right)

namespace Grammar

variable {stop : Token} {tokens : List Token} {lexemes : List Lexeme}

theorem forall₂_operand_iff {user : ValueId} {digits : List Bytes} {numbers : List ValueId} :
    List.Forall₂ (fun digits number => IsNumeral digits number ∧ number < user) digits numbers ↔
      List.Forall₂ IsNumeral digits numbers ∧ ∀ number ∈ numbers, number < user := by
  constructor
  · intro both
    refine ⟨both.imp fun _ _ => And.left, ?_⟩
    exact ((List.forall₂_and_left numbers digits).mp (both.flip.imp fun _ _ => And.symm)).1
  · rintro ⟨numerals, earlier⟩
    have both := (List.forall₂_and_left numbers digits).mpr ⟨earlier, numerals.flip⟩
    exact both.flip.imp fun _ _ => And.symm

theorem eq_of_ofMnemonic? {word : Bytes} {operator : Operator}
    (found : Operator.ofMnemonic? word = some operator) : word = utf8 operator.mnemonic := by
  have same : utf8 operator.mnemonic = word := by simpa using List.find?_some found
  exact same.symm

/-- A call is read exactly if it is one of a function that there is. -/
theorem readCall_iff (stop : Token) {callable : Bytes → Option FunctionId} {user : ValueId}
    (bound : user ≤ 0x80000000) {instruction : Instruction}
    (yields : Token.Yields tokens lexemes) :
    readCall stop callable user tokens = .ok instruction ↔
      Tells callable user (.word (utf8 "call") :: lexemes) instruction := by
  constructor
  · intro read
    unfold readCall at read
    obtain ⟨⟨word, afterName⟩, nameRead, read⟩ := bind_eq_ok_iff.mp read
    obtain ⟨_, rfl, nameRest⟩ := yields_of_expect_word yields nameRead
    dsimp only at read
    split at read
    · cases read
    · rename_i callee named
      obtain ⟨⟨opening, afterOpening⟩, openingRead, read⟩ := bind_eq_ok_iff.mp read
      obtain ⟨_, rfl, openingRest⟩ := yields_of_mark nameRest openingRead
      dsimp only at read
      rw [ite_bind] at read
      obtain ⟨⟨arguments, afterArguments⟩, argumentsRead, read⟩ := bind_eq_ok_iff.mp read
      obtain ⟨digits, _, numerals, rfl, argumentsRest⟩ :=
        (readsItems_readOperands stop bound).sound_bracket openingRest argumentsRead
      obtain ⟨⟨⟩, finished, done⟩ := bind_eq_ok_iff.mp read
      obtain rfl := (finish_eq_ok_iff argumentsRest).mp finished
      cases done
      obtain ⟨numerals, earlier⟩ := forall₂_operand_iff.mp numerals
      exact .call rfl named numerals earlier
  · intro tells
    cases tells with
    | @const digits _ written numeral =>
      obtain rfl : utf8 "call" = digits := Lexeme.word.inj (List.cons.inj written).1
      exact absurd numeral.1 (by decide)
    | call written named numerals earlier =>
      obtain rfl := (List.cons.inj written).2
      obtain _ | yields | _ := yields
      obtain _ | _ | yields := yields
      obtain ⟨rest, argumentsRead, yields⟩ :=
        (readsItems_readOperands stop bound).complete_bracket stop
          (forall₂_operand_iff.mpr ⟨numerals, earlier⟩) yields
      obtain _ | _ | _ := yields
      unfold readCall
      refine bind_eq_ok_iff.mpr ⟨_, expect_cons stop _ rfl, ?_⟩
      simp only [named]
      refine bind_eq_ok_iff.mpr ⟨_, mark_cons stop rfl, ?_⟩
      dsimp only
      rw [ite_bind]
      refine bind_eq_ok_iff.mpr ⟨_, argumentsRead, ?_⟩
      exact bind_eq_ok_iff.mpr ⟨(), (finish_eq_ok_iff (.stop _ _)).mpr rfl, rfl⟩
    | @binary operator _ _ _ _ written =>
      have same : utf8 "call" = utf8 operator.mnemonic := Lexeme.word.inj (List.cons.inj written).1
      cases operator <;> exact absurd same (by decide)

/-- What is read as a literal or an operation is one. -/
theorem tells_of_readSimple (callable : Bytes → Option FunctionId) {user : ValueId}
    (bound : user ≤ 0x80000000) {instruction : Instruction}
    (yields : Token.Yields tokens lexemes)
    (read : readSimple stop user tokens = .ok instruction) :
    Tells callable user lexemes instruction := by
  unfold readSimple at read
  dsimp only at read
  obtain ⟨kind, read⟩ := of_ite_error_eq_ok read
  obtain ⟨_, rfl, headRest⟩ := tail_of_word stop yields (Decidable.not_not.mp kind)
  split at read
  · rename_i digits
    split at read
    · cases read
    · rename_i literal fits
      obtain ⟨⟨⟩, finished, done⟩ := bind_eq_ok_iff.mp read
      obtain rfl := (finish_eq_ok_iff headRest).mp finished
      cases done
      obtain ⟨small, same⟩ := Option.ite_none_right_eq_some.mp fits
      obtain rfl := Option.some.inj same
      exact .const rfl ⟨digits, rfl⟩ small
  · split at read
    · cases read
    · rename_i operator found
      obtain ⟨⟨left, afterLeft⟩, leftRead, read⟩ := bind_eq_ok_iff.mp read
      obtain ⟨leftDigits, _, leftNumeral, leftEarlier, rfl, leftRest⟩ :=
        yields_of_readOperand bound headRest leftRead
      obtain ⟨⟨right, afterRight⟩, rightRead, read⟩ := bind_eq_ok_iff.mp read
      obtain ⟨rightDigits, _, rightNumeral, rightEarlier, rfl, rightRest⟩ :=
        yields_of_readOperand bound leftRest rightRead
      obtain ⟨⟨⟩, finished, done⟩ := bind_eq_ok_iff.mp read
      obtain rfl := (finish_eq_ok_iff rightRest).mp finished
      cases done
      rw [eq_of_ofMnemonic? found]
      exact .binary rfl leftNumeral leftEarlier rightNumeral rightEarlier

/-- A literal or an operation is read. -/
theorem readSimple_of_tells (stop : Token) {callable : Bytes → Option FunctionId} {user : ValueId}
    (bound : user ≤ 0x80000000) {instruction : Instruction}
    (yields : Token.Yields tokens lexemes) (other : (peek stop tokens).isWord "call" = false)
    (tells : Tells callable user lexemes instruction) :
    readSimple stop user tokens = .ok instruction := by
  cases tells with
  | @const digits number written numeral fits =>
    subst written
    obtain _ | yields | _ := yields
    obtain _ | _ | _ := yields
    have fitting : Numeral.fitting? 64 digits = some number := by
      rw [Numeral.fitting?, numeral.2, if_pos fits]
    simp only [readSimple, peek, List.headD_cons, List.tail_cons, ne_eq, not_true_eq_false,
      if_false, numeral.1, if_true, fitting]
    exact bind_eq_ok_iff.mpr ⟨(), (finish_eq_ok_iff (.stop _ _)).mpr rfl, rfl⟩
  | call written =>
    subst written
    obtain _ | yields | _ := yields
    cases other
  | @binary operator leftDigits rightDigits left right written leftNumeral leftEarlier
      rightNumeral rightEarlier =>
    subst written
    obtain _ | yields | _ := yields
    obtain _ | _ | yields := yields
    obtain _ | yields | _ := yields
    obtain _ | _ | yields := yields
    obtain _ | yields | _ := yields
    obtain _ | _ | _ := yields
    simp only [readSimple, peek, List.headD_cons, List.tail_cons, ne_eq, not_true_eq_false,
      if_false, isDigits_mnemonic, Bool.false_eq_true, Operator.ofMnemonic?_mnemonic]
    refine bind_eq_ok_iff.mpr
      ⟨_, readOperand_cons stop bound rfl rfl leftNumeral leftEarlier, ?_⟩
    refine bind_eq_ok_iff.mpr
      ⟨_, readOperand_cons stop bound rfl rfl rightNumeral rightEarlier, ?_⟩
    exact bind_eq_ok_iff.mpr ⟨(), (finish_eq_ok_iff (.stop _ _)).mpr rfl, rfl⟩

end Grammar

/-- The instruction of a value line is read exactly if the line says it. -/
theorem Reader.readInstruction_iff (file : Bytes) (context : Context) {value : PendingValue}
    (bound : value.number ≤ 0x80000000) {formula : List Lexeme}
    (yields : Token.Yields value.instruction formula) {instruction : Instruction} :
    readInstruction file context value = .ok instruction ↔
      Tells context.functionNamed? value.number formula instruction := by
  unfold readInstruction
  dsimp only
  split
  · rename_i call
    obtain ⟨kind, text⟩ := Grammar.isWord_iff.mp call
    obtain ⟨back, rfl, rest⟩ := Grammar.tail_of_word _ yields kind
    rw [text, ← Grammar.readCall_iff (stopOf value.line) bound rest]
    split
    · rename_i found callRead
      rw [callRead]
    · rename_i refused
      simp [refused]
  · rename_i other
    exact ⟨Grammar.tells_of_readSimple _ bound yields,
      Grammar.readSimple_of_tells _ bound yields (Bool.not_eq_true _ ▸ other)⟩

end Blockwork
