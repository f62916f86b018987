import Blockwork.Proofs.Tiling

/-!
# Names and words

Which characters a name may hold is written down apart from the tokens of the textual form. The two
agree: the names that are accepted are, control characters aside, the texts that are read as one
word, wherever a name stands.
-/

namespace Blockwork

namespace Token

/-- What is read as a word is one. -/
theorem isWord_of_lex {line text : Bytes} {column : Nat} {tokens : List Token}
    (lexed : lex line = tokens) (member : ⟨.word, text, column⟩ ∈ tokens) : IsWord text := by
  obtain ⟨inner, lexed', tiles, -⟩ := exists_tiles line
  rw [← lexed, lexed', List.mem_append] at member
  rcases member with inside | last
  · exact tiles.formed _ inside
  · cases List.mem_singleton.mp last

theorem lex_of_reads {line : Bytes} {tokens : List Token} (reads : Reads 1 line tokens) :
    lex line = tokens ++ [⟨.endOfLine, [], line.length + 1⟩] :=
  reads.lexFrom_eq (line.length + 1)

theorem reads_nil (column : Nat) : Reads column [] [] :=
  .trail ⟨[], [], rfl, isBlank_nil, nofun⟩

/-- A text that is one word is read as that word. -/
theorem lex_word {word : Bytes} (isWord : IsWord word) :
    lex word = [⟨.word, word, 1⟩, ⟨.endOfLine, [], word.length + 1⟩] := by
  have reads : Reads 1 (word ++ []) _ :=
    Reads.behind_word isWord nofun (reads_nil (1 + word.length))
  rw [List.append_nil] at reads
  exact lex_of_reads reads

/-- Between a word with a blank and a bracket, a word is read as that word. -/
theorem lex_word_bracket {keyword word : Bytes} (isKeyword : IsWord keyword)
    (isWord : IsWord word) :
    lex (keyword ++ utf8 " " ++ word ++ utf8 "(") =
      [⟨.word, keyword, 1⟩, ⟨.word, word, keyword.length + 2⟩,
        ⟨.mark .leftParen, utf8 "(", word.length + (keyword.length + 2)⟩,
        ⟨.endOfLine, [], word.length + (keyword.length + 3)⟩] := by
  have blank : IsBlank (utf8 " ") := by
    intro glyph member
    obtain rfl := List.mem_singleton.mp member
    decide
  have bracket : Bounds (utf8 "(") := bounds_text .leftParen
  have apart : Bounds (utf8 " " ++ (word ++ utf8 "(")) := by
    intro glyph head
    rw [blank.list_append] at head
    obtain rfl := Option.mem_some_iff.mp head
    decide
  have reads : Reads 1 (keyword ++ (utf8 " " ++ (word ++ utf8 "("))) _ :=
    .behind_word isKeyword apart <| .behind_blank blank <| .behind_word isWord bracket <|
      @Reads.behind_mark _ _ _ .leftParen (reads_nil _)
  have lexed := lex_of_reads reads
  have one : (utf8 " ").length = 1 := rfl
  have one' : (utf8 "(").length = 1 := rfl
  have column : 1 + keyword.length + (utf8 " ").length = keyword.length + 2 := by omega
  have column' : keyword.length + 2 + word.length = word.length + (keyword.length + 2) := by omega
  have length : (keyword ++ (utf8 " " ++ (word ++ utf8 "("))).length + 1 =
      word.length + (keyword.length + 3) := by
    simp only [List.length_append]
    omega
  rw [column, column', length] at lexed
  rw [List.append_assoc, List.append_assoc, lexed]
  rfl

end Token

namespace FunctionName

/-- Whether a text holds a control character. -/
def HasControl (text : Bytes) : Prop :=
  ∃ glyph ∈ Glyph.list text, Text.isControl glyph.char = true

theorem isPlain_of_mem_punctuation :
    ∀ char ∈ punctuation, Token.isPlain char = false := by
  intro char member
  simp only [punctuation, List.mem_cons, List.not_mem_nil, or_false] at member
  rcases member with rfl | rfl | rfl | rfl | rfl | rfl | rfl | rfl | rfl <;> rfl

/-- A character may stand in a name exactly if it belongs to a word and is no control character. -/
theorem isReserved_eq_false_iff {char : Char} :
    isReserved char = false ↔ Token.isPlain char = true ∧ Text.isControl char = false := by
  constructor
  · intro free
    refine ⟨isPlain_of_isReserved free, ?_⟩
    simp only [isReserved, Bool.or_eq_false_iff] at free
    exact free.1.2
  · rintro ⟨plain, control⟩
    have space : Text.isSpace char = false := by
      simp only [Token.isPlain, Bool.and_eq_true, Bool.not_eq_true'] at plain
      exact plain.1.2
    have unpunctuated : char ∉ punctuation := fun member => by
      rw [isPlain_of_mem_punctuation char member] at plain
      cases plain
    simp [isReserved, space, control, unpunctuated]

/-- The names that are accepted are the words without control characters. -/
theorem check_eq_ok_iff_isWord {name : Bytes} :
    check name = .ok () ↔ Token.IsWord name ∧ ¬ HasControl name := by
  rw [check_eq_ok_iff, Token.IsWord, HasControl, and_assoc]
  refine and_congr_right fun _ => ?_
  simp only [isReserved_eq_false_iff, not_exists, not_and, Bool.not_eq_true, ← forall_and]

/-- A text is accepted as a name exactly if, behind a word and a blank and in front of a bracket, it
is read as one word, and holds no control character. -/
theorem check_eq_ok_iff_lex_bracket {keyword : Bytes} (isKeyword : Token.IsWord keyword)
    (name : Bytes) :
    check name = .ok () ↔
      Token.lex (keyword ++ utf8 " " ++ name ++ utf8 "(") =
        [⟨.word, keyword, 1⟩, ⟨.word, name, keyword.length + 2⟩,
          ⟨.mark .leftParen, utf8 "(", name.length + (keyword.length + 2)⟩,
          ⟨.endOfLine, [], name.length + (keyword.length + 3)⟩] ∧
        ¬ HasControl name := by
  rw [check_eq_ok_iff_isWord]
  refine and_congr_left fun _ => ⟨Token.lex_word_bracket isKeyword, fun lexed => ?_⟩
  exact Token.isWord_of_lex lexed (List.mem_cons_of_mem _ List.mem_cons_self)

/-- A text is accepted as a name exactly if it holds no control character and is read as one word:
by itself, in a header behind `define`, and in a call behind `call`, where a bracket follows. -/
theorem check_eq_ok_iff_lex (name : Bytes) :
    (check name = .ok () ↔
      Token.lex name = [⟨.word, name, 1⟩, ⟨.endOfLine, [], name.length + 1⟩] ∧
        ¬ HasControl name) ∧
    (check name = .ok () ↔
      Token.lex (utf8 "define " ++ name ++ utf8 "(") =
        [⟨.word, utf8 "define", 1⟩, ⟨.word, name, 8⟩,
          ⟨.mark .leftParen, utf8 "(", name.length + 8⟩,
          ⟨.endOfLine, [], name.length + 9⟩] ∧
        ¬ HasControl name) ∧
    (check name = .ok () ↔
      Token.lex (utf8 "call " ++ name ++ utf8 "(") =
        [⟨.word, utf8 "call", 1⟩, ⟨.word, name, 6⟩,
          ⟨.mark .leftParen, utf8 "(", name.length + 6⟩,
          ⟨.endOfLine, [], name.length + 7⟩] ∧
        ¬ HasControl name) := by
  have define : Token.IsWord (utf8 "define") := Token.isWord_of_all (by decide) (by decide)
  have call : Token.IsWord (utf8 "call") := Token.isWord_of_all (by decide) (by decide)
  refine ⟨?_, check_eq_ok_iff_lex_bracket define name, check_eq_ok_iff_lex_bracket call name⟩
  rw [check_eq_ok_iff_isWord]
  refine and_congr_left fun _ => ⟨Token.lex_word, fun lexed => ?_⟩
  exact Token.isWord_of_lex lexed List.mem_cons_self

end FunctionName
end Blockwork
