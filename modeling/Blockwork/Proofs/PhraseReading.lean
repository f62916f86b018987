import Blockwork.Proofs.Phrases

/-!
# Reading phrases

What the grammar makes of the phrases that are printed. Only messages depend on the columns of the
tokens, so every lemma is about tokens that spell a phrase, wherever they stand.
-/

namespace Blockwork
namespace Grammar

variable {tokens : List Token} {phrase : Phrase}

theorem exists_of_map_cons {kind : TokenKind} {text : Bytes}
    (spells : tokens.map Token.shape = (kind, text) :: phrase) :
    ∃ column rest, tokens = ⟨kind, text, column⟩ :: rest ∧ rest.map Token.shape = phrase := by
  obtain ⟨⟨_, _, column⟩, rest, rfl, same, tail⟩ := List.map_eq_cons_iff.mp spells
  cases same
  exact ⟨column, rest, rfl, tail⟩

/-- Two ways to begin that go on in one way. -/
theorem ite_bind {ε α β : Type} {condition : Prop} [Decidable condition] {first second : Except ε α}
    {next : α → Except ε β} :
    (if condition then first >>= next else second >>= next) =
      (if condition then first else second) >>= next := by
  split <;> rfl

theorem isWord_iff {token : Token} {word : String} :
    token.isWord word = true ↔ token.kind = .word ∧ token.text = utf8 word := by
  simp [Token.isWord]

theorem expect_word (stop : Token) (what : Bytes) {text : Bytes}
    (spells : tokens.map Token.shape = Phrase.word text :: phrase) :
    ∃ column rest, expect stop .word what tokens = .ok (⟨.word, text, column⟩, rest) ∧
      rest.map Token.shape = phrase := by
  obtain ⟨column, rest, rfl, tail⟩ := exists_of_map_cons spells
  exact ⟨column, rest, rfl, tail⟩

theorem mark_mark (stop : Token) {sign : Mark}
    (spells : tokens.map Token.shape = Phrase.mark sign :: phrase) :
    ∃ token rest, mark stop sign tokens = .ok (token, rest) ∧ rest.map Token.shape = phrase := by
  obtain ⟨column, rest, rfl, tail⟩ := exists_of_map_cons spells
  exact ⟨_, rest, if_pos rfl, tail⟩

theorem keyword_word (stop : Token) {word : String}
    (spells : tokens.map Token.shape = Phrase.word (utf8 word) :: phrase) :
    ∃ token rest, keyword stop word tokens = .ok (token, rest) ∧
      rest.map Token.shape = phrase := by
  obtain ⟨column, rest, rfl, tail⟩ := exists_of_map_cons spells
  exact ⟨_, rest, if_pos (isWord_iff.mpr ⟨rfl, rfl⟩), tail⟩

theorem finish_stop (stop : Token) (spells : tokens.map Token.shape = [Phrase.stop]) :
    finish stop tokens = .ok () := by
  obtain ⟨column, rest, rfl, -⟩ := exists_of_map_cons spells
  rfl

/-! ## Headers -/

theorem readType_type (stop : Token) {described : Descriptor} (valid : described.Valid)
    (spells : tokens.map Token.shape = Phrase.type (some described) :: phrase) :
    ∃ rest, readType stop tokens = .ok (described, rest) ∧ rest.map Token.shape = phrase := by
  have spells : tokens.map Token.shape = (.word, described.spelling) :: phrase := spells
  obtain ⟨column, rest, rfl, tail⟩ := exists_of_map_cons spells
  refine ⟨rest, ?_, tail⟩
  rw [readType, peek, List.headD_cons, described.typeOf_spelling valid]
  rfl

/-- The types of a list are read up to the closing bracket. -/
theorem readTypes_enclosed (stop : Token) {types : List Descriptor} (nonempty : types ≠ [])
    (valid : ∀ type ∈ types, type.Valid)
    (spells : tokens.map Token.shape =
      Phrase.enclosed (types.map fun type => [Phrase.type (some type)]) ++ phrase) :
    ∃ rest, readTypes stop tokens = .ok (types, rest) ∧ rest.map Token.shape = phrase := by
  induction types generalizing tokens with
  | nil => exact absurd rfl nonempty
  | cons type others ih =>
    have typed := type.typeOf_spelling (valid type List.mem_cons_self)
    cases others with
    | nil =>
      have spells : tokens.map Token.shape =
          (.word, type.spelling) :: Phrase.mark .rightParen :: phrase := spells
      obtain ⟨column, behind, rfl, closing⟩ := exists_of_map_cons spells
      obtain ⟨bracket, rest, rfl, tail⟩ := exists_of_map_cons closing
      refine ⟨rest, ?_, tail⟩
      rw [readTypes, typed]
      rfl
    | cons next others =>
      have spells : tokens.map Token.shape = (.word, type.spelling) :: Phrase.mark .comma ::
          (Phrase.enclosed ((next :: others).map fun type => [Phrase.type (some type)]) ++
            phrase) := spells
      obtain ⟨column, behind, rfl, separated⟩ := exists_of_map_cons spells
      obtain ⟨comma, rest, rfl, tail⟩ := exists_of_map_cons separated
      obtain ⟨rest', read, done⟩ := ih (List.cons_ne_nil _ _)
        (fun other member => valid other (List.mem_cons_of_mem _ member)) tail
      refine ⟨rest', ?_, done⟩
      rw [readTypes, typed, ok_bind]
      dsimp only
      rw [read]
      rfl

/-- A header is read as what it was printed for. -/
theorem readHeader_header (stop : Token) {name : Bytes} {inputs : List Descriptor}
    {output : Descriptor} (inputsValid : ∀ type ∈ inputs, type.Valid) (outputValid : output.Valid)
    (spells : tokens.map Token.shape = Phrase.word name :: Phrase.mark .leftParen ::
      (Phrase.enclosed (inputs.map fun type => [Phrase.type (some type)]) ++
        [Phrase.word (utf8 "->"), Phrase.type (some output), Phrase.mark .leftBrace,
          Phrase.stop])) :
    ∃ column, readHeader stop tokens = .ok ⟨name, column, inputs, output⟩ := by
  obtain ⟨column, afterName, nameRead, spells⟩ := expect_word stop (utf8 "function name") spells
  obtain ⟨opening, afterOpening, openingRead, spells⟩ := mark_mark stop spells
  obtain ⟨afterInputs, inputsRead, spells⟩ : ∃ rest,
      (if (peek stop afterOpening).kind = .mark .rightParen then
        pure ([], afterOpening.tail) else readTypes stop afterOpening) = .ok (inputs, rest) ∧
      rest.map Token.shape = [Phrase.word (utf8 "->"), Phrase.type (some output),
        Phrase.mark .leftBrace, Phrase.stop] := by
    cases inputs with
    | nil =>
      obtain ⟨bracket, rest, rfl, tail⟩ := exists_of_map_cons spells
      exact ⟨rest, rfl, tail⟩
    | cons first others =>
      obtain ⟨rest, read, tail⟩ :=
        readTypes_enclosed stop (List.cons_ne_nil _ _) inputsValid spells
      refine ⟨rest, ?_, tail⟩
      rw [if_neg ?_, read]
      cases others with
      | nil =>
        obtain ⟨_, _, rfl, -⟩ := exists_of_map_cons spells
        exact TokenKind.noConfusion
      | cons next others =>
        obtain ⟨_, _, rfl, -⟩ := exists_of_map_cons spells
        exact TokenKind.noConfusion
  obtain ⟨arrow, afterArrow, arrowRead, spells⟩ := keyword_word stop spells
  obtain ⟨afterOutput, outputRead, spells⟩ := readType_type stop outputValid spells
  obtain ⟨brace, afterBrace, braceRead, spells⟩ := mark_mark stop spells
  refine ⟨column, ?_⟩
  simp only [readHeader, nameRead, openingRead, ite_bind, inputsRead, arrowRead, outputRead,
    braceRead, finish_stop stop spells, ok_bind]
  rfl

/-! ## Numbers -/

theorem labelOf_blockName {id : BlockId} (small : id < 0x80000000) (column : Nat) :
    labelOf ⟨.word, blockName id, column⟩ = .ok id := by
  simp only [labelOf, blockName, ne_eq, not_true_eq_false, if_false, Bytes.dropBeginning?_append,
    Numeral.isDigits_decimal, if_true, Numeral.index_decimal small]

theorem readLabel_label (stop : Token) {id : BlockId} (small : id < 0x80000000)
    (spells : tokens.map Token.shape = Phrase.label id) : readLabel stop tokens = .ok id := by
  obtain ⟨column, rest, rfl, tail⟩ := exists_of_map_cons spells
  obtain ⟨colon, rest, read, tail⟩ := mark_mark stop tail
  simp only [readLabel, peek, List.headD_cons, List.tail_cons, labelOf_blockName small, ok_bind,
    read, finish_stop stop tail]
  rfl

theorem referenceOf_decimal {id : ValueId} (small : id < 0x80000000) (text : Bytes)
    (column column' : Nat) :
    referenceOf ⟨.mark .percent, text, column⟩ ⟨.word, Bytes.decimal id, column'⟩ = .ok id := by
  simp only [referenceOf, ne_eq, not_true_eq_false, if_false, Numeral.isDigits_decimal,
    Bool.true_eq_false, or_self, Numeral.index_decimal small]

theorem exists_of_reference {id : ValueId}
    (spells : tokens.map Token.shape = Phrase.reference id ++ phrase) :
    ∃ column column' rest, tokens = ⟨.mark .percent, [Mark.percent.byte], column⟩ ::
        ⟨.word, Bytes.decimal id, column'⟩ :: rest ∧ rest.map Token.shape = phrase := by
  obtain ⟨column, behind, rfl, digits⟩ := exists_of_map_cons spells
  obtain ⟨column', rest, rfl, tail⟩ := exists_of_map_cons digits
  exact ⟨column, column', rest, rfl, tail⟩

theorem readReference_reference (stop : Token) {id : ValueId} (small : id < 0x80000000)
    (spells : tokens.map Token.shape = Phrase.reference id ++ phrase) :
    ∃ rest, readReference stop tokens = .ok (id, rest) ∧ rest.map Token.shape = phrase := by
  obtain ⟨column, column', rest, rfl, tail⟩ := exists_of_reference spells
  refine ⟨rest, ?_, tail⟩
  simp only [readReference, peek, List.headD_cons, List.tail_cons, referenceOf_decimal small,
    ok_bind]
  rfl

theorem operandOf_decimal {user id : ValueId} (small : id < 0x80000000) (earlier : id < user)
    (text : Bytes) (column column' : Nat) :
    operandOf user ⟨.mark .percent, text, column⟩ ⟨.word, Bytes.decimal id, column'⟩ =
      .ok id := by
  rw [operandOf, referenceOf_decimal small, ok_bind, if_pos earlier]
  rfl

theorem readOperand_reference (stop : Token) {user id : ValueId} (small : id < 0x80000000)
    (earlier : id < user) (spells : tokens.map Token.shape = Phrase.reference id ++ phrase) :
    ∃ rest, readOperand stop user tokens = .ok (id, rest) ∧ rest.map Token.shape = phrase := by
  obtain ⟨column, column', rest, rfl, tail⟩ := exists_of_reference spells
  refine ⟨rest, ?_, tail⟩
  simp only [readOperand, peek, List.headD_cons, List.tail_cons,
    operandOf_decimal small earlier, ok_bind]
  rfl

/-- The operands of a list are read up to the closing bracket. -/
theorem readOperands_enclosed (stop : Token) {user : ValueId} {ids : List ValueId}
    (nonempty : ids ≠ []) (small : ∀ id ∈ ids, id < 0x80000000) (earlier : ∀ id ∈ ids, id < user)
    (spells : tokens.map Token.shape = Phrase.enclosed (ids.map Phrase.reference) ++ phrase) :
    ∃ rest, readOperands stop user tokens = .ok (ids, rest) ∧ rest.map Token.shape = phrase := by
  induction ids generalizing tokens with
  | nil => exact absurd rfl nonempty
  | cons id others ih =>
    have read := operandOf_decimal (small id List.mem_cons_self) (earlier id List.mem_cons_self)
    cases others with
    | nil =>
      have spells : tokens.map Token.shape =
          Phrase.reference id ++ Phrase.mark .rightParen :: phrase := spells
      obtain ⟨column, column', behind, rfl, closing⟩ := exists_of_reference spells
      obtain ⟨bracket, rest, rfl, tail⟩ := exists_of_map_cons closing
      refine ⟨rest, ?_, tail⟩
      rw [readOperands, read]
      rfl
    | cons next others =>
      have spells : tokens.map Token.shape = Phrase.reference id ++ Phrase.mark .comma ::
          (Phrase.enclosed ((next :: others).map Phrase.reference) ++ phrase) := spells
      obtain ⟨column, column', behind, rfl, separated⟩ := exists_of_reference spells
      obtain ⟨comma, rest, rfl, tail⟩ := exists_of_map_cons separated
      obtain ⟨rest', others, done⟩ := ih (List.cons_ne_nil _ _)
        (fun other member => small other (List.mem_cons_of_mem _ member))
        (fun other member => earlier other (List.mem_cons_of_mem _ member)) tail
      refine ⟨rest', ?_, done⟩
      rw [readOperands, read, ok_bind]
      dsimp only
      rw [others]
      rfl

/-! ## Lines of a body -/

theorem readTerminator_terminator (stop : Token) {terminator : Terminator}
    (small : terminator.reference < 0x80000000)
    (spells : tokens.map Token.shape = Phrase.terminator terminator) :
    ∃ column, readTerminator stop tokens = .ok (terminator, column) := by
  cases terminator with
  | branch target =>
    obtain ⟨column, behind, rfl, label⟩ := exists_of_map_cons spells
    obtain ⟨column', rest, rfl, tail⟩ := exists_of_map_cons label
    refine ⟨column', ?_⟩
    have small : target < 0x80000000 := small
    have keyword : (⟨.word, utf8 "branch", column⟩ : Token).isWord "branch" = true := by
      simp [Token.isWord]
    simp only [readTerminator, peek, List.headD_cons, List.tail_cons, keyword, if_true,
      labelOf_blockName small, ok_bind, finish_stop stop tail]
    rfl
  | result value =>
    obtain ⟨column, behind, rfl, reference⟩ := exists_of_map_cons spells
    have small : value < 0x80000000 := small
    obtain ⟨rest, read, tail⟩ := readReference_reference stop small reference
    refine ⟨(peek stop behind).column, ?_⟩
    have other : utf8 "return" ≠ utf8 "branch" := by decide
    have keyword : (⟨.word, utf8 "return", column⟩ : Token).isWord "branch" = false := by
      simp [Token.isWord, other]
    simp only [readTerminator, peek, List.headD_cons, List.tail_cons, keyword, if_false,
      Bool.false_eq_true, read, ok_bind, finish_stop stop tail]
    rfl

/-- A value line is read up to its instruction. -/
theorem readValueHead_value (stop : Token) {outlines : List Outline} {id : ValueId}
    {described : Descriptor} {computed : Instruction} (small : id < 0x80000000)
    (valid : described.Valid)
    (spells : tokens.map Token.shape = Phrase.value outlines id (some described) computed) :
    ∃ instruction, readValueHead stop tokens = .ok ⟨id, described, instruction⟩ ∧
      instruction.map Token.shape = Phrase.instruction outlines computed := by
  obtain ⟨afterNumber, numberRead, spells⟩ := readReference_reference stop small spells
  obtain ⟨colon, afterColon, colonRead, spells⟩ := mark_mark stop spells
  obtain ⟨afterType, typeRead, spells⟩ := readType_type stop valid spells
  obtain ⟨equals, instruction, equalsRead, spells⟩ := mark_mark stop spells
  have more : (peek stop instruction).kind ≠ .endOfLine := by
    cases computed with
    | const literal =>
      obtain ⟨_, _, rfl, -⟩ := exists_of_map_cons spells
      exact TokenKind.noConfusion
    | call callee arguments =>
      obtain ⟨_, _, rfl, -⟩ := exists_of_map_cons spells
      exact TokenKind.noConfusion
    | binary operator left right =>
      obtain ⟨_, _, rfl, -⟩ := exists_of_map_cons spells
      exact TokenKind.noConfusion
  refine ⟨instruction, ?_, spells⟩
  simp only [readValueHead, numberRead, colonRead, typeRead, equalsRead, ok_bind, if_neg more]
  rfl

/-! ## Instructions -/

theorem readCall_call (stop : Token) {callable : Bytes → Option FunctionId} {user : ValueId}
    {name : Bytes} {callee : FunctionId} {arguments : List ValueId}
    (named : callable name = some callee) (small : ∀ id ∈ arguments, id < 0x80000000)
    (earlier : ∀ id ∈ arguments, id < user)
    (spells : tokens.map Token.shape = Phrase.word name :: Phrase.mark .leftParen ::
      (Phrase.enclosed (arguments.map Phrase.reference) ++ [Phrase.stop])) :
    readCall stop callable user tokens = .ok (.call callee arguments) := by
  obtain ⟨column, afterName, nameRead, spells⟩ := expect_word stop (utf8 "callee name") spells
  obtain ⟨opening, afterOpening, openingRead, spells⟩ := mark_mark stop spells
  obtain ⟨rest, argumentsRead, tail⟩ : ∃ rest,
      (if (peek stop afterOpening).kind = .mark .rightParen then
        pure ([], afterOpening.tail) else readOperands stop user afterOpening) =
          .ok (arguments, rest) ∧ rest.map Token.shape = [Phrase.stop] := by
    cases arguments with
    | nil =>
      obtain ⟨bracket, rest, rfl, tail⟩ := exists_of_map_cons spells
      exact ⟨rest, rfl, tail⟩
    | cons first others =>
      obtain ⟨rest, read, tail⟩ :=
        readOperands_enclosed stop (List.cons_ne_nil _ _) small earlier spells
      refine ⟨rest, ?_, tail⟩
      rw [if_neg ?_, read]
      cases others with
      | nil =>
        obtain ⟨_, _, rfl, -⟩ := exists_of_map_cons spells
        exact fun same => Mark.noConfusion (TokenKind.mark.inj same)
      | cons next others =>
        obtain ⟨_, _, rfl, -⟩ := exists_of_map_cons spells
        exact fun same => Mark.noConfusion (TokenKind.mark.inj same)
  simp only [readCall, nameRead, named, openingRead, ite_bind, argumentsRead,
    finish_stop stop tail, ok_bind]
  rfl

theorem isDigits_mnemonic (operator : Operator) :
    Numeral.isDigits (utf8 operator.mnemonic) = false := by
  cases operator <;> decide

theorem decimal_ne_of_isDigits {word : Bytes} (digits : Numeral.isDigits word = false)
    (number : Nat) : Bytes.decimal number ≠ word := by
  rintro rfl
  rw [Numeral.isDigits_decimal] at digits
  cases digits

end Grammar

/-- An instruction is read as what it was printed for. -/
theorem Reader.readInstruction_instruction (file : Bytes) {context : Context}
    {value : PendingValue} {outlines : List Outline} {computed : Instruction}
    (named : ∀ callee arguments, computed = .call callee arguments →
      context.functionNamed? (Snapshot.nameIn outlines callee) = some callee)
    (small : ∀ operand ∈ computed.operands, operand < 0x80000000)
    (earlier : ∀ operand ∈ computed.operands, operand < value.number)
    (spells : value.instruction.map Token.shape = Phrase.instruction outlines computed) :
    readInstruction file context value = .ok computed := by
  cases computed with
  | const literal =>
    obtain ⟨column, rest, same, tail⟩ := Grammar.exists_of_map_cons spells
    have other : Bytes.decimal literal.toNat ≠ utf8 "call" :=
      Grammar.decimal_ne_of_isDigits (by decide) _
    have fits : Numeral.fitting? 64 (Bytes.decimal literal.toNat) = some literal.toNat :=
      Numeral.fitting?_decimal literal.toNat_lt
    simp only [readInstruction, same, Grammar.peek, List.headD_cons, Token.isWord, other,
      decide_false, Bool.and_false, Bool.false_eq_true, if_false, Grammar.readSimple, ne_eq,
      not_true_eq_false, Numeral.isDigits_decimal, if_true, fits, List.tail_cons,
      Grammar.finish_stop _ tail, ok_bind, UInt64.ofNat_toNat]
    rfl
  | call callee arguments =>
    obtain ⟨column, rest, same, tail⟩ := Grammar.exists_of_map_cons spells
    have small : ∀ argument ∈ arguments, argument < 0x80000000 := small
    have earlier : ∀ argument ∈ arguments, argument < value.number := earlier
    have read := Grammar.readCall_call (stopOf value.line) (named callee arguments rfl) small
      earlier tail
    simp only [readInstruction, same, Grammar.peek, List.headD_cons, Token.isWord, decide_true,
      Bool.and_self, if_true, List.tail_cons, read]
  | binary operator left right =>
    have spells : value.instruction.map Token.shape = Phrase.word (utf8 operator.mnemonic) ::
        (Phrase.reference left ++ (Phrase.reference right ++ [Phrase.stop])) := spells
    obtain ⟨column, rest, same, operands⟩ := Grammar.exists_of_map_cons spells
    obtain ⟨afterLeft, leftRead, spells⟩ := Grammar.readOperand_reference (stopOf value.line)
      (small left (by simp [Instruction.operands]))
      (earlier left (by simp [Instruction.operands])) operands
    obtain ⟨afterRight, rightRead, tail⟩ := Grammar.readOperand_reference (stopOf value.line)
      (small right (by simp [Instruction.operands]))
      (earlier right (by simp [Instruction.operands])) spells
    have other : utf8 operator.mnemonic ≠ utf8 "call" := by cases operator <;> decide
    simp only [readInstruction, same, Grammar.peek, List.headD_cons, Token.isWord, other,
      decide_false, Bool.and_false, Bool.false_eq_true, if_false, Grammar.readSimple, ne_eq,
      not_true_eq_false, Grammar.isDigits_mnemonic, Operator.ofMnemonic?_mnemonic, List.tail_cons,
      leftRead, rightRead, Grammar.finish_stop _ tail, ok_bind]
    rfl

end Blockwork
