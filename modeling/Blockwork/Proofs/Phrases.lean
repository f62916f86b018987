import Blockwork.Proofs.Paths
import Blockwork.Proofs.Restoring
import Blockwork.Proofs.Words
import Mathlib.Data.List.Forall2

/-!
# Phrases

The textual form of a function as tokens, line by line, written down from the outline. Every line
that is printed falls apart into its phrase, whatever the names in it look like.
-/

namespace Blockwork

/-- The tokens of a line, without their columns. -/
abbrev Phrase := List (TokenKind × Bytes)

/-- The byte of a mark. -/
def Mark.byte (mark : Mark) : UInt8 := UInt8.ofNat mark.char.toNat

namespace Phrase

/-- A word. -/
def word (text : Bytes) : TokenKind × Bytes := (.word, text)

/-- A mark. -/
def mark (sign : Mark) : TokenKind × Bytes := (.mark sign, [sign.byte])

/-- The end of a line. -/
def stop : TokenKind × Bytes := (.endOfLine, [])

/-- The elements of a list up to its closing bracket. -/
def enclosed : List Phrase → Phrase
  | [] => [mark .rightParen]
  | [only] => only ++ [mark .rightParen]
  | first :: second :: rest => first ++ mark .comma :: enclosed (second :: rest)

/-- A type. -/
def type (type : Option Descriptor) : TokenKind × Bytes :=
  word ((type.map Descriptor.spelling).getD (utf8 "<invalid>"))

/-- A value. -/
def reference (id : ValueId) : Phrase := [mark .percent, word (Bytes.decimal id)]

/-- What stands to the right of the equals sign. -/
def instruction (outlines : List Outline) : Instruction → Phrase
  | .const literal => [word (Bytes.decimal literal.toNat), stop]
  | .call callee arguments =>
    word (utf8 "call") :: word (Snapshot.nameIn outlines callee) :: mark .leftParen ::
      (enclosed (arguments.map reference) ++ [stop])
  | .binary operator left right =>
    word (utf8 operator.mnemonic) :: (reference left ++ reference right ++ [stop])

/-- The line of a value. -/
def value (outlines : List Outline) (id : ValueId) (described : Option Descriptor)
    (computed : Instruction) : Phrase :=
  reference id ++ mark .colon :: type described :: mark .equals :: instruction outlines computed

/-- The line of a terminator. -/
def terminator : Terminator → Phrase
  | .branch target => [word (utf8 "branch"), word (blockName target), stop]
  | .result value => word (utf8 "return") :: (reference value ++ [stop])

/-- The line of a label. -/
def label (id : BlockId) : Phrase := [word (blockName id), mark .colon, stop]

/-- The first line of a function. -/
def header (outline : Outline) : Phrase :=
  word (utf8 "define") :: word outline.name :: mark .leftParen ::
    (enclosed (outline.inputs.map fun input => [type input]) ++
      [word (utf8 "->"), type outline.output, mark .leftBrace, stop])

/-- The last line of a function. -/
def ending : Phrase := [mark .rightBrace, stop]

end Phrase

namespace Outline

/-- The values of a block, in the order of their numbers. -/
def members (outline : Outline) (block : BlockId) : List ValueId :=
  (List.range outline.values.length).filter fun id =>
    (outline.values[id]?.bind fun value => value.2.block?) = some block

/-- The line of a value, by number. -/
def valuePhrase (outlines : List Outline) (outline : Outline) (id : ValueId) : Phrase :=
  match outline.values[id]? with
  | some (described, .instruction _ computed) => .value outlines id described computed
  | _ => []

/-- The lines of a block. -/
def blockPhrases (outlines : List Outline) (outline : Outline) (block : BlockId)
    (terminator : Option Terminator) : List Phrase :=
  .label block :: ((outline.members block).map (outline.valuePhrase outlines) ++
    (terminator.map .terminator).toList)

/-- The lines of a function between the first and the last. -/
def bodyPhrases (outlines : List Outline) (outline : Outline) : List Phrase :=
  outline.ends.zipIdx.flatMap fun (terminator, block) =>
    outline.blockPhrases outlines block terminator

/-- The lines of a function. -/
def phrases (outlines : List Outline) (outline : Outline) : List Phrase :=
  .header outline :: (outline.bodyPhrases outlines ++ [.ending])

theorem mem_members_iff {outline : Outline} {block : BlockId} {id : ValueId} :
    id ∈ outline.members block ↔
      ∃ described computed, outline.values[id]? = some (described, .instruction block computed) := by
  rw [members, List.mem_filter, List.mem_range, decide_eq_true_iff]
  constructor
  · rintro ⟨-, home⟩
    obtain ⟨⟨described, origin⟩, held, at_⟩ := Option.bind_eq_some_iff.mp home
    cases origin with
    | parameter index => cases at_
    | instruction home computed =>
      cases at_
      exact ⟨described, computed, held⟩
  · rintro ⟨described, computed, held⟩
    exact ⟨(List.getElem?_eq_some_iff.mp held).choose, by rw [held]; rfl⟩

end Outline

/-! ## Writing -/

/-- A text without line ends that falls apart into a phrase. -/
structure Written (text : Bytes) (phrase : Phrase) : Prop where
  /-- Its tokens are those of the phrase. -/
  lexes : Token.Lexes text phrase
  /-- It is a single line. -/
  unbroken : text.Unbroken

namespace Written

variable {rest : Bytes} {phrase : Phrase}

theorem nil : Written [] [Phrase.stop] :=
  ⟨Token.lexes_nil, fun _ member => nomatch member⟩

theorem blank (written : Written rest phrase) : Written (32 :: rest) phrase :=
  ⟨written.lexes.blank, written.unbroken.cons (by decide)⟩

theorem mark (sign : Mark) (written : Written rest phrase) :
    Written (sign.byte :: rest) (Phrase.mark sign :: phrase) := by
  constructor
  · apply written.lexes.mark <;> cases sign <;> decide
  · apply written.unbroken.cons
    cases sign <;> decide

theorem word (written : Written rest phrase) {text : Bytes} (isWord : Token.IsWord text)
    (delimits : Token.Delimits rest) : Written (text ++ rest) (Phrase.word text :: phrase) :=
  ⟨written.lexes.word isWord delimits, isWord.unbroken.append written.unbroken⟩

end Written

theorem Token.delimits_cons {byte : UInt8} {rest : Bytes}
    (delimiter : byte.toNat < 0x80 ∧ isPlain (Char.ofNat byte.toNat) = false) :
    Delimits (byte :: rest) := by
  intro other head
  cases head
  exact delimiter

theorem Token.delimits_nil : Delimits [] :=
  fun _ head => nomatch head

/-- A text that contributes a phrase to any line in which a delimiter follows it. -/
def Fragment (text : Bytes) (phrase : Phrase) : Prop :=
  ∀ rest tail, Token.Delimits rest → Written rest tail → Written (text ++ rest) (phrase ++ tail)

namespace Fragment

theorem word {text : Bytes} (isWord : Token.IsWord text) : Fragment text [Phrase.word text] :=
  fun _ _ delimits written => written.word isWord delimits

theorem reference (id : ValueId) : Fragment (valueName id) (Phrase.reference id) :=
  fun _ _ delimits written => (written.word (Numeral.isWord_decimal id) delimits).mark .percent

/-- Between brackets, the elements of a list may stand next to each other. -/
theorem enclosed {texts : List Bytes} {phrases : List Phrase}
    (elements : List.Forall₂ Fragment texts phrases) {rest : Bytes} {tail : Phrase}
    (written : Written rest tail) :
    Written (Bytes.join (utf8 ", ") texts ++ 41 :: rest) (Phrase.enclosed phrases ++ tail) := by
  have closed : Written (41 :: rest) (Phrase.mark .rightParen :: tail) := written.mark .rightParen
  induction elements with
  | nil => exact closed
  | @cons text phrase texts phrases element others ih =>
    cases others with
    | nil =>
      have last := element _ _ (Token.delimits_cons (by decide)) closed
      simpa [Bytes.join, Phrase.enclosed] using last
    | @cons next nextPhrase texts phrases _ _ =>
      have comma : Written (44 :: 32 :: (Bytes.join (utf8 ", ") (next :: texts) ++ 41 :: rest))
          (Phrase.mark .comma :: (Phrase.enclosed (nextPhrase :: phrases) ++ tail)) :=
        ih.blank.mark .comma
      have first := element _ _ (Token.delimits_cons (by decide)) comma
      rw [Bytes.join, Phrase.enclosed, List.append_assoc, List.append_assoc, List.append_assoc]
      exact first

end Fragment

namespace Listing

variable {context : Context}

theorem word_type {type : TypeId} (formed : context.WellFormed)
    (known : (context.types.lookup? type).isSome) :
    Phrase.type (context.types.lookup? type) = Phrase.word (context.types.name type) ∧
      Token.IsWord (context.types.name type) := by
  obtain ⟨described, found, valid⟩ := formed.exists_valid known
  rw [Interner.name, found]
  exact ⟨rfl, described.isWord_spelling valid⟩

theorem header_written (formed : context.WellFormed) {id : FunctionId} {function : Function}
    (found : context.functions.get? id = some function) :
    Written (header context function) (.header (function.outline context.types)) := by
  obtain ⟨inputsKnown, outputKnown⟩ := (formed.functions id function found).known
  obtain ⟨outputPhrase, outputWord⟩ := word_type formed outputKnown
  have inputs : List.Forall₂ Fragment (function.signature.inputs.map context.types.name)
      (function.signature.inputs.map fun input =>
        [Phrase.type (context.types.lookup? input)]) := by
    rw [List.forall₂_map_left_iff, List.forall₂_map_right_iff, List.forall₂_same]
    intro input member
    obtain ⟨phrase, isWord⟩ := word_type formed (inputsKnown input member)
    rw [phrase]
    exact .word isWord
  have arrow : Token.IsWord (utf8 "->") := Token.isWord_of_all (by decide) (by decide)
  have define : Token.IsWord (utf8 "define") := Token.isWord_of_all (by decide) (by decide)
  have brace : Written [32, 123] [Phrase.mark .leftBrace, Phrase.stop] :=
    (Written.nil.mark .leftBrace).blank
  have output := ((brace.word outputWord (Token.delimits_cons (by decide))).blank.word arrow
    (Token.delimits_cons (by decide))).blank
  have name := ((Fragment.enclosed inputs output).mark .leftParen).word
    (FunctionName.isWord (formed.spelled id function found)) (Token.delimits_cons (by decide))
  have whole := name.blank.word define (Token.delimits_cons (by decide))
  rw [← outputPhrase] at whole
  simp only [header, Signature.spelling, List.append_assoc]
  simp only [Phrase.header, Function.outline, List.map_map]
  exact whole

theorem isWord_blockName (id : BlockId) : Token.IsWord (blockName id) :=
  Numeral.isWord_append_decimal (by decide) id

theorem label_written (id : BlockId) : Written (blockName id ++ utf8 ":") (.label id) :=
  (Written.nil.mark .colon).word (isWord_blockName id) (Token.delimits_cons (by decide))

theorem terminator_written (ending : Terminator) :
    Written (terminator ending) (.terminator ending) := by
  cases ending with
  | branch target =>
    have keyword : Token.IsWord (utf8 "branch") := Token.isWord_of_all (by decide) (by decide)
    have reference := Written.nil.word (isWord_blockName target) Token.delimits_nil
    rw [List.append_nil] at reference
    exact (reference.blank.word keyword (Token.delimits_cons (by decide))).blank.blank
  | result value =>
    have keyword : Token.IsWord (utf8 "return") := Token.isWord_of_all (by decide) (by decide)
    have reference := Fragment.reference value _ _ Token.delimits_nil Written.nil
    rw [List.append_nil] at reference
    exact (reference.blank.word keyword (Token.delimits_cons (by decide))).blank.blank

theorem ending_written : Written (utf8 "\x7d") .ending :=
  Written.nil.mark .rightBrace

theorem isWord_mnemonic (operator : Operator) : Token.IsWord (utf8 operator.mnemonic) := by
  cases operator <;> exact Token.isWord_of_all (by decide) (by decide)

/-- The way a value is computed, as far as it is printed. -/
theorem origin_written (formed : context.WellFormed) {id : FunctionId} {function : Function}
    (found : context.functions.get? id = some function) {number : ValueId} {type : TypeId}
    {block : BlockId} {computed : Instruction}
    (held : function.values.get? number = some ⟨type, .instruction block computed⟩) :
    Written (origin context (.instruction block computed))
      (.instruction context.outlines computed) := by
  cases computed with
  | const literal =>
    have numeral :=
      Written.nil.word (Numeral.isWord_decimal literal.toNat) Token.delimits_nil
    rw [List.append_nil] at numeral
    exact numeral
  | call callee arguments =>
    obtain ⟨-, -, target, targetFound, -, -⟩ :=
      (formed.functions id function found).instruction_laws held
    have name : Snapshot.nameIn context.outlines callee = target.name := by
      rw [Snapshot.nameIn, Context.getElem?_outlines, targetFound]
      rfl
    have isWord := FunctionName.isWord (formed.spelled callee target targetFound)
    have keyword : Token.IsWord (utf8 "call") := Token.isWord_of_all (by decide) (by decide)
    have list : List.Forall₂ Fragment (arguments.map valueName)
        (arguments.map Phrase.reference) := by
      rw [List.forall₂_map_left_iff, List.forall₂_map_right_iff, List.forall₂_same]
      exact fun argument _ => .reference argument
    have bracket := (Fragment.enclosed list .nil).mark .leftParen
    have whole := (bracket.word isWord (Token.delimits_cons (by decide))).blank.word keyword
      (Token.delimits_cons (by decide))
    simp only [origin, targetFound, List.append_assoc, Phrase.instruction, name]
    exact whole
  | binary operator left right =>
    have second := Fragment.reference right _ _ Token.delimits_nil Written.nil
    have first := Fragment.reference left _ _ (Token.delimits_cons (by decide)) second.blank
    have whole := first.blank.word (isWord_mnemonic operator) (Token.delimits_cons (by decide))
    rw [List.append_nil] at whole
    simp only [origin, List.append_assoc, Phrase.instruction]
    exact whole

theorem value_written (formed : context.WellFormed) {id : FunctionId} {function : Function}
    (found : context.functions.get? id = some function) {number : ValueId} {type : TypeId}
    {block : BlockId} {computed : Instruction}
    (held : function.values.get? number = some ⟨type, .instruction block computed⟩) :
    Written (value context number ⟨type, .instruction block computed⟩)
      (.value context.outlines number (context.types.lookup? type) computed) := by
  obtain ⟨phrase, isWord⟩ :=
    word_type formed ((formed.functions id function found).typed number _ held)
  have right := (origin_written formed found held).blank.mark .equals
  have typed := (right.blank.word isWord (Token.delimits_cons (by decide))).blank.mark .colon
  have whole := Fragment.reference number _ _ (Token.delimits_cons (by decide)) typed
  simp only [value, List.append_assoc, Phrase.value, phrase]
  exact whole.blank.blank

theorem filterMap_written {ids : List ValueId} {line? : ValueId → Option Bytes}
    {phrase : ValueId → Phrase}
    (each : ∀ id ∈ ids, ∃ text, line? id = some text ∧ Written text (phrase id)) :
    List.Forall₂ Written (ids.filterMap line?) (ids.map phrase) := by
  induction ids with
  | nil => exact .nil
  | cons id rest ih =>
    obtain ⟨text, found, written⟩ := each id List.mem_cons_self
    rw [List.filterMap_cons_some found, List.map_cons]
    exact .cons written (ih fun other member => each other (List.mem_cons_of_mem _ member))

theorem block_written (formed : context.WellFormed) {id : FunctionId} {function : Function}
    (found : context.functions.get? id = some function) {number : BlockId} {content : Block}
    (held : function.blocks.get? number = some content) :
    List.Forall₂ Written (block context function number content)
      ((function.outline context.types).blockPhrases context.outlines number
        content.terminator) := by
  have inner := formed.functions id function found
  have listed : content.values.toList = (function.outline context.types).members number := by
    rw [inner.listed number content held, Outline.members, Function.length_values]
    simp only [Function.home?_eq_outline context.types]
  have values : List.Forall₂ Written
      (content.values.toList.filterMap fun id =>
        (function.values.get? id).map (value context id))
      (((function.outline context.types).members number).map
        ((function.outline context.types).valuePhrase context.outlines)) := by
    rw [listed]
    apply filterMap_written
    intro member inside
    obtain ⟨described, computed, origin⟩ := Outline.mem_members_iff.mp inside
    rw [Outline.valuePhrase, origin]
    rw [Function.getElem?_values] at origin
    obtain ⟨⟨type, _⟩, valueFound, same⟩ := Option.map_eq_some_iff.mp origin
    cases same
    exact ⟨_, by rw [valueFound]; rfl, value_written formed found valueFound⟩
  have ends : List.Forall₂ Written (content.terminator.map terminator).toList
      (content.terminator.map Phrase.terminator).toList := by
    cases content.terminator with
    | none => exact .nil
    | some ending => exact .cons (terminator_written ending) .nil
  exact .cons (label_written number) (List.rel_append values ends)

/-- Every line of a function falls apart into its phrase. -/
theorem function_written (formed : context.WellFormed) {id : FunctionId} {function : Function}
    (found : context.functions.get? id = some function) :
    List.Forall₂ Written (Listing.function context function)
      ((function.outline context.types).phrases context.outlines) := by
  have body : List.Forall₂ Written
      (function.blocks.all.flatMap fun entry => block context function entry.1 entry.2)
      ((function.outline context.types).bodyPhrases context.outlines) := by
    rw [Arena.all, Outline.bodyPhrases, Function.outline, List.zipIdx_map, List.flatMap_map,
      List.flatMap_map]
    have same : List.Forall₂ (fun left right => left = right ∧ left ∈ function.blocks.toList.zipIdx)
        function.blocks.toList.zipIdx function.blocks.toList.zipIdx :=
      List.forall₂_same.mpr fun _ member => ⟨rfl, member⟩
    refine List.rel_flatMap same ?_
    rintro ⟨content, number⟩ _ ⟨rfl, member⟩
    refine block_written formed found ?_
    rw [Arena.get?_eq_getElem?]
    exact List.mk_mem_zipIdx_iff_getElem?.mp member
  have ending : List.Forall₂ Written [utf8 "\x7d"] [Phrase.ending] := .cons ending_written .nil
  exact .cons (header_written formed found) (List.rel_append body ending)

end Listing

/-- The lines of several functions, with an empty line between neighbours. -/
def Phrase.separate : List (List Phrase) → List Phrase
  | [] => []
  | [only] => only
  | first :: second :: rest => first ++ [stop] :: separate (second :: rest)

theorem Listing.separate_written {groups : List (List Bytes)} {phrases : List (List Phrase)}
    (each : List.Forall₂ (List.Forall₂ Written) groups phrases) :
    List.Forall₂ Written (separate groups) (Phrase.separate phrases) := by
  induction each with
  | nil => exact .nil
  | cons first others ih =>
    cases others with
    | nil => exact first
    | cons second rest =>
      rw [separate, Phrase.separate, List.append_assoc]
      exact List.rel_append first (.cons .nil ih)

/-- Every line of a context falls apart into its phrase. -/
theorem Context.WellFormed.listing_written {context : Context} (formed : context.WellFormed)
    (alive : context.phase ≠ .destroyed) :
    List.Forall₂ Written (Listing.context context)
      (Phrase.separate (context.outlines.map (Outline.phrases context.outlines))) := by
  apply Listing.separate_written
  rw [listFunctions, if_neg alive, outlines, List.map_map, List.forall₂_map_left_iff,
    List.forall₂_map_right_iff, List.forall₂_same]
  intro function member
  obtain ⟨id, found⟩ := Arena.mem_toList_iff.mp member
  exact Listing.function_written formed found

/-! ## Lines -/

theorem Bytes.trimEnding_unbroken {line : Bytes} (unbroken : line.Unbroken) :
    trimEnding [13] line = line := by
  have kept : dropBeginning? [13] line.reverse = none := by
    cases reversed : line.reverse with
    | nil => rfl
    | cons last rest =>
      have member : last ∈ line := by
        rw [← List.mem_reverse, reversed]
        exact List.mem_cons_self
      simp [dropBeginning?, (unbroken last member).2.symm]
  simp [trimEnding, dropEnding?, kept]

/-- A text is split into the lines it was put together from, and an empty one at its end. -/
theorem Line.split_text {lines : List Bytes} (unbroken : ∀ line ∈ lines, Bytes.Unbroken line) :
    (split (Listing.text lines)).map Line.text = lines ++ [[]] := by
  have pieces : Bytes.splitOnByte 10 (Listing.text lines) = lines ++ [[]] := by
    induction lines with
    | nil => rfl
    | cons line rest ih =>
      have free : (10 : UInt8) ∉ line := fun inside =>
        (unbroken line List.mem_cons_self 10 inside).1 rfl
      have text : Listing.text (line :: rest) = line ++ 10 :: Listing.text rest := by
        rw [Listing.text, List.flatMap_cons, List.append_assoc]
        rfl
      rw [text, Bytes.splitOnByte_append, Bytes.splitOnByte_of_not_mem free,
        ih fun other member => unbroken other (List.mem_cons_of_mem _ member)]
      rfl
  have all : ∀ line ∈ lines ++ [[]], Bytes.trimEnding [13] line = line := by
    intro line member
    rcases List.mem_append.mp member with inside | last
    · exact Bytes.trimEnding_unbroken (unbroken line inside)
    · obtain rfl := List.mem_singleton.mp last
      rfl
  calc (split (Listing.text lines)).map Line.text
      = ((lines ++ [[]]).zipIdx.map Prod.fst).map (Bytes.trimEnding [13]) := by
        rw [split, pieces, List.map_map, List.map_map]
        rfl
    _ = (lines ++ [[]]).map id := by
        rw [List.zipIdx_map_fst]
        exact List.map_congr_left all
    _ = lines ++ [[]] := List.map_id _

/-- The tokens of a line, without their columns. -/
def Line.phrase (line : Line) : Phrase := line.tokens.map Token.shape

theorem Written.unbroken_and_map {lines : List Bytes} {phrases : List Phrase}
    (written : List.Forall₂ Written lines phrases) :
    (∀ line ∈ lines, Bytes.Unbroken line) ∧
      lines.map (fun line => (Token.lex line).map Token.shape) = phrases := by
  induction written with
  | nil => exact ⟨fun _ member => (nomatch member), rfl⟩
  | cons first _ ih =>
    refine ⟨fun line member => ?_, ?_⟩
    · rcases List.mem_cons.mp member with rfl | inside
      · exact first.unbroken
      · exact ih.1 line inside
    · rw [List.map_cons, ih.2, Token.lex, first.lexes]

/-- The text of a context falls apart into the phrases of its functions. -/
theorem Context.WellFormed.dump_phrases {context : Context} (formed : context.WellFormed)
    (alive : context.phase ≠ .destroyed) :
    ∃ text, context.dump = .ok text ∧ (Line.split text).map Line.phrase =
      Phrase.separate (context.outlines.map (Outline.phrases context.outlines)) ++
        [[Phrase.stop]] := by
  have readable : context.readable = .ok () := by
    unfold Context.readable
    split
    · rename_i destroyed
      exact absurd destroyed alive
    · rfl
  obtain ⟨unbroken, phrases⟩ := Written.unbroken_and_map (formed.listing_written alive)
  refine ⟨Listing.text (Listing.context context), by rw [dump, readable]; rfl, ?_⟩
  have split : (Line.split (Listing.text (Listing.context context))).map Line.phrase =
      ((Line.split (Listing.text (Listing.context context))).map Line.text).map
        fun line => (Token.lex line).map Token.shape := by
    rw [List.map_map]
    rfl
  rw [split, Line.split_text unbroken, List.map_append, phrases]
  rfl

end Blockwork
