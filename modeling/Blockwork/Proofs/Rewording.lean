import Blockwork.Proofs.Gathering
import Mathlib.Data.List.Chain

/-!
# Words as they are printed

A source text may spell a number with leading zeros, and a name in other characters than its normal
form has. Printing knows one way only. `retold` says what a line is printed as, by its words alone:
a word of digits, behind a letter or not, by its value, and a name in its normal form. The lines of
the language are told again as the phrases that are printed for what they say.

`arranged` says in which order lines are printed: in the order in which they are written, but
neighbouring value lines by their numbers.
-/

namespace Blockwork

/-! ## Lines told again -/

namespace SourceLanguage

/-- A word that consists of the given beginning and digits, by the value of the digits. -/
def respelled? (beginning word : Bytes) : Option Bytes :=
  match Bytes.dropBeginning? beginning word with
  | none => none
  | some digits =>
    if Numeral.isDigits digits then some (beginning ++ Bytes.decimal (Numeral.value digits))
    else none

/-- A word as it is printed, if it is no name: numbers, integer types and blocks by the value of
their digits, anything else as it is. -/
def respelled (word : Bytes) : Bytes :=
  match respelled? [] word, respelled? (utf8 "i") word, respelled? (utf8 "bb") word with
  | some number, _, _ => number
  | none, some type, _ => type
  | none, none, some block => block
  | none, none, none => word

/-- A word or mark as it is printed, if it is no name. -/
def plain : Lexeme → Lexeme
  | .word text => .word (respelled text)
  | .mark sign => .mark sign

/-- A line as it is printed. The word behind `define` is a name that a function gets, the word
behind `call` a name to look for. -/
def retold (title : Bytes → Bytes) : List Lexeme → List Lexeme
  | .word keyword :: .word name :: rest =>
    if keyword = utf8 "define" then .word keyword :: .word (title name) :: rest.map plain
    else (.word keyword :: .word name :: rest).map plain
  | .mark .percent :: number :: colon :: type :: .mark .equals :: .word keyword :: .word name ::
      rest =>
    if keyword = utf8 "call" then
      .mark .percent :: plain number :: plain colon :: plain type :: .mark .equals ::
        .word keyword :: .word (Text.normalize name) :: rest.map plain
    else
      (.mark .percent :: number :: colon :: type :: .mark .equals :: .word keyword :: .word name ::
        rest).map plain
  | line => line.map plain

/-! ## Lines put in order -/

/-- The number of a value line. -/
def lineNumber? : List Lexeme → Option ValueId
  | .mark .percent :: .word digits :: _ =>
    if Numeral.isDigits digits then some (Numeral.value digits) else none
  | _ => none

/-- Whether two neighbouring lines may stay as they are. -/
def InOrder (line next : List Lexeme) : Prop :=
  ∀ number ∈ lineNumber? line, ∀ later ∈ lineNumber? next, number ≤ later

instance (line next : List Lexeme) : Decidable (InOrder line next) :=
  inferInstanceAs (Decidable (∀ number ∈ lineNumber? line, ∀ later ∈ lineNumber? next,
    number ≤ later))

/-- Puts a line in front of others, a value line behind those with smaller numbers that stand
there. -/
def insertLine (line : List Lexeme) : List (List Lexeme) → List (List Lexeme)
  | [] => [line]
  | next :: rest =>
    if InOrder line next then line :: next :: rest else next :: insertLine line rest

/-- Lines with neighbouring value lines in the order of their numbers. -/
def arranged (lines : List (List Lexeme)) : List (List Lexeme) := lines.foldr insertLine []

/-- Neighbouring value lines stand in the order of their numbers. -/
def Ordered (lines : List (List Lexeme)) : Prop := lines.IsChain InOrder

instance (lines : List (List Lexeme)) : Decidable (Ordered lines) :=
  inferInstanceAs (Decidable (lines.IsChain InOrder))

theorem perm_insertLine (line : List Lexeme) (lines : List (List Lexeme)) :
    (insertLine line lines).Perm (line :: lines) := by
  induction lines with
  | nil => exact .refl _
  | cons next rest ih =>
    rw [insertLine]
    split
    · exact .refl _
    · exact (ih.cons next).trans (.swap line next rest)

theorem perm_arranged (lines : List (List Lexeme)) : (arranged lines).Perm lines := by
  induction lines with
  | nil => exact .refl _
  | cons line rest ih => exact (perm_insertLine line (arranged rest)).trans (ih.cons line)

/-- Lines that are not in order are both value lines. -/
theorem inOrder_of_not {line next : List Lexeme} (other : ¬ InOrder line next) :
    InOrder next line := by
  intro number held later laterHeld
  simp only [InOrder, not_forall] at other
  obtain ⟨first, firstHeld, second, secondHeld, before⟩ := other
  cases Option.mem_unique held secondHeld
  cases Option.mem_unique laterHeld firstHeld
  exact Nat.le_of_lt (Nat.lt_of_not_le before)

theorem ordered_insertLine (line : List Lexeme) {lines : List (List Lexeme)}
    (ordered : Ordered lines) : Ordered (insertLine line lines) := by
  induction lines with
  | nil => exact List.isChain_singleton line
  | cons next rest ih =>
    rw [insertLine]
    split
    · rename_i before
      exact List.isChain_cons_cons.mpr ⟨before, ordered⟩
    · rename_i other
      have back := inOrder_of_not other
      have tail := ih ordered.tail
      cases rest with
      | nil => exact List.isChain_cons_cons.mpr ⟨back, tail⟩
      | cons second rest =>
        rw [insertLine] at tail ⊢
        split at tail
        · rename_i before
          rw [if_pos before]
          exact List.isChain_cons_cons.mpr ⟨back, tail⟩
        · rename_i behind
          rw [if_neg behind]
          exact List.isChain_cons_cons.mpr ⟨(List.isChain_cons_cons.mp ordered).1, tail⟩

theorem ordered_arranged (lines : List (List Lexeme)) : Ordered (arranged lines) := by
  induction lines with
  | nil => exact List.isChain_nil
  | cons line rest ih => exact ordered_insertLine line ih

/-- Lines stay as they are exactly if neighbouring value lines stand in the order of their
numbers. -/
theorem arranged_eq_self_iff {lines : List (List Lexeme)} :
    arranged lines = lines ↔ Ordered lines := by
  constructor
  · intro same
    rw [← same]
    exact ordered_arranged lines
  · intro ordered
    induction lines with
    | nil => rfl
    | cons line rest ih =>
      have tail : insertLine line (arranged rest) = insertLine line rest := by
        rw [ih ordered.tail]
      refine tail.trans ?_
      cases rest with
      | nil => rfl
      | cons next rest => rw [insertLine, if_pos (List.isChain_cons_cons.mp ordered).1]

/-- A line that is no value line keeps its place. -/
theorem arranged_cons {line : List Lexeme} (other : lineNumber? line = none)
    (rest : List (List Lexeme)) : arranged (line :: rest) = line :: arranged rest := by
  have before (next : List Lexeme) : InOrder line next := by
    intro number held
    rw [other] at held
    cases held
  change insertLine line (arranged rest) = _
  cases arranged rest with
  | nil => rfl
  | cons next rest => exact if_pos (before next)

/-- Lines keep to their side of a line that is no value line. -/
theorem arranged_append (lines : List (List Lexeme)) {rest : List (List Lexeme)}
    (starts : ∀ line ∈ rest.head?, lineNumber? line = none) :
    arranged (lines ++ rest) = arranged lines ++ arranged rest := by
  cases rest with
  | nil => simp [arranged]
  | cons line rest =>
    have other := starts line rfl
    have after (front : List Lexeme) : InOrder front line := by
      intro _ _ later held
      rw [other] at held
      cases held
    have stops (front : List Lexeme) (lines rest : List (List Lexeme)) :
        insertLine front (lines ++ line :: rest) = insertLine front lines ++ line :: rest := by
      induction lines with
      | nil => exact if_pos (after front)
      | cons next lines ih =>
        rw [List.cons_append, insertLine, insertLine, ih]
        split <;> rfl
    induction lines with
    | nil => rfl
    | cons front lines ih =>
      calc arranged (front :: lines ++ line :: rest)
          = insertLine front (arranged lines ++ arranged (line :: rest)) := by rw [← ih]; rfl
        _ = arranged (front :: lines) ++ arranged (line :: rest) := by
          rw [arranged_cons other]
          exact stops front _ _

/-- Value lines are put in the order of their numbers. -/
theorem arranged_map_eq {lineOf : ValueId → List Lexeme} {ids sorted : List ValueId}
    (numbered : ∀ id ∈ ids, lineNumber? (lineOf id) = some id) (perm : sorted.Perm ids)
    (increasing : sorted.Pairwise (· ≤ ·)) :
    arranged (ids.map lineOf) = sorted.map lineOf := by
  have inserts (id : ValueId) (others : List ValueId) (own : lineNumber? (lineOf id) = some id)
      (each : ∀ other ∈ others, lineNumber? (lineOf other) = some other) :
      insertLine (lineOf id) (others.map lineOf) =
        (others.orderedInsert (· ≤ ·) id).map lineOf := by
    induction others with
    | nil => rfl
    | cons next rest ih =>
      have order : InOrder (lineOf id) (lineOf next) ↔ id ≤ next := by
        simp [InOrder, own, each next List.mem_cons_self]
      rw [List.map_cons, insertLine, List.orderedInsert_cons,
        ih fun other member => each other (List.mem_cons_of_mem _ member)]
      simp only [order]
      split <;> rfl
  have sorts : arranged (ids.map lineOf) = (ids.insertionSort (· ≤ ·)).map lineOf := by
    clear perm
    induction ids with
    | nil => rfl
    | cons id rest ih =>
      have others := ih fun other member => numbered other (List.mem_cons_of_mem _ member)
      rw [List.insertionSort_cons, ← inserts id _ (numbered id List.mem_cons_self)
        fun other member => numbered other
          (List.mem_cons_of_mem _ ((List.mem_insertionSort _).mp member)), ← others]
      rfl
  have same : ids.insertionSort (· ≤ ·) = sorted :=
    ((List.perm_insertionSort _ ids).trans perm.symm).eq_of_pairwise
      (fun _ _ _ _ => Nat.le_antisymm) (List.pairwise_insertionSort _ ids) increasing
  rw [sorts, same]

/-! ## Words -/

variable {digits : Bytes} {number : Nat}

theorem respelled?_append (beginning : Bytes) (numeral : IsNumeral digits number) :
    respelled? beginning (beginning ++ digits) = some (beginning ++ Bytes.decimal number) := by
  rw [respelled?, Bytes.dropBeginning?_append]
  simp only [numeral.1, if_true, numeral.2]

theorem respelled_number (numeral : IsNumeral digits number) :
    respelled digits = Bytes.decimal number := by
  have found := respelled?_append [] numeral
  rw [List.nil_append, List.nil_append] at found
  rw [respelled, found]

/-- Digits behind a letter are no number of their own. -/
theorem respelled?_nil_cons {byte : UInt8} (letter : Numeral.isDigit byte = false)
    (rest : Bytes) : respelled? [] (byte :: rest) = none := by
  simp [respelled?, Bytes.dropBeginning?, Numeral.isDigits, letter]

theorem respelled_int (numeral : IsNumeral digits number) :
    respelled (utf8 "i" ++ digits) = utf8 "i" ++ Bytes.decimal number := by
  have letter : respelled? [] (utf8 "i" ++ digits) = none := respelled?_nil_cons (by decide) digits
  rw [respelled, letter, respelled?_append (utf8 "i") numeral]

theorem respelled_block (numeral : IsNumeral digits number) :
    respelled (utf8 "bb" ++ digits) = blockName number := by
  have letter : respelled? [] (utf8 "bb" ++ digits) = none :=
    respelled?_nil_cons (by decide) (98 :: digits)
  have other : respelled? (utf8 "i") (utf8 "bb" ++ digits) = none := rfl
  rw [respelled, letter, other, respelled?_append (utf8 "bb") numeral]
  rfl

theorem respelled_type {word : Bytes} {type : Descriptor} (spells : IsType word type) :
    respelled word = type.spelling := by
  cases spells with
  | bool written =>
    rw [written]
    decide
  | int written numeral positive bounded =>
    rw [written, respelled_int numeral, Descriptor.spelling]
    simp [Descriptor.int, Descriptor.toNat_width (Descriptor.lt_of_le_maxWidth bounded)]

theorem respelled_mnemonic (operator : Operator) :
    respelled (utf8 operator.mnemonic) = utf8 operator.mnemonic := by
  cases operator <;> decide

theorem isDigits_respelled (word : Bytes) :
    Numeral.isDigits (respelled word) = Numeral.isDigits word ∧
      (Numeral.isDigits word = true → Numeral.value (respelled word) = Numeral.value word) := by
  cases numeral : Numeral.isDigits word with
  | true =>
    rw [respelled_number ⟨numeral, rfl⟩]
    exact ⟨Numeral.isDigits_decimal _, fun _ => Numeral.value_decimal _⟩
  | false =>
    refine ⟨?_, fun impossible => nomatch impossible⟩
    have noNumber : respelled? [] word = none := by
      simp [respelled?, Bytes.dropBeginning?, numeral]
    -- What is respelled otherwise begins with a letter.
    have letter {byte : UInt8} {rest found : Bytes} (other : Numeral.isDigit byte = false)
        (spelled : respelled? (byte :: rest) word = some found) :
        Numeral.isDigits found = false := by
      unfold respelled? at spelled
      split at spelled
      · cases spelled
      · obtain ⟨-, same⟩ := Option.ite_none_right_eq_some.mp spelled
        obtain rfl := Option.some.inj same
        simp [Numeral.isDigits, other]
    unfold respelled
    rw [noNumber]
    split
    · rename_i impossible
      cases impossible
    · rename_i spelled
      exact letter (by decide) spelled
    · rename_i spelled
      exact letter (by decide) spelled
    · exact numeral

theorem map_plain_reference (numeral : IsNumeral digits number) :
    (reference digits).map plain = [.mark .percent, .word (Bytes.decimal number)] := by
  rw [← respelled_number numeral]
  rfl

theorem map_plain_separated (items : List (List Lexeme)) :
    (separated items).map plain = separated (items.map (List.map plain)) := by
  induction items with
  | nil => rfl
  | cons item rest ih =>
    cases rest with
    | nil => rfl
    | cons next rest =>
      calc (separated (item :: next :: rest)).map plain
          = item.map plain ++ .mark .comma :: (separated (next :: rest)).map plain := by
            rw [separated, List.map_append]
            rfl
        _ = separated ((item :: next :: rest).map (List.map plain)) := by
            rw [ih]
            rfl

end SourceLanguage

/-! ## Phrases -/

open SourceLanguage

namespace Phrase

/-- The words and marks of a phrase. -/
def lexemes (phrase : Phrase) : List Lexeme :=
  phrase.filterMap fun
    | (.endOfLine, _) => none
    | (.word, text) => some (.word text)
    | (.mark sign, _) => some (.mark sign)

@[simp]
theorem lexemes_nil : lexemes [] = [] := rfl

@[simp]
theorem lexemes_word (text : Bytes) (rest : Phrase) :
    lexemes (word text :: rest) = .word text :: lexemes rest := rfl

@[simp]
theorem lexemes_mark (sign : Mark) (rest : Phrase) :
    lexemes (mark sign :: rest) = .mark sign :: lexemes rest := rfl

@[simp]
theorem lexemes_stop (rest : Phrase) : lexemes (stop :: rest) = lexemes rest := rfl

@[simp]
theorem lexemes_append (first second : Phrase) :
    lexemes (first ++ second) = lexemes first ++ lexemes second :=
  List.filterMap_append

@[simp]
theorem lexemes_type (described : Descriptor) (rest : Phrase) :
    lexemes (type (some described) :: rest) = .word described.spelling :: lexemes rest := rfl

@[simp]
theorem lexemes_reference (id : ValueId) :
    lexemes (reference id) = [.mark .percent, .word (Bytes.decimal id)] := rfl

theorem lexemes_enclosed (items : List Phrase) :
    lexemes (enclosed items) = separated (items.map lexemes) ++ [.mark .rightParen] := by
  induction items with
  | nil => rfl
  | cons item rest ih =>
    cases rest with
    | nil => simp [enclosed, separated]
    | cons next rest =>
      calc lexemes (enclosed (item :: next :: rest))
          = lexemes item ++ .mark .comma :: lexemes (enclosed (next :: rest)) := by
            rw [enclosed, lexemes_append, lexemes_mark]
        _ = separated ((item :: next :: rest).map lexemes) ++ [.mark .rightParen] := by
            rw [ih, ← List.cons_append, ← List.append_assoc]
            rfl

end Phrase

theorem Line.lexemes_phrase (line : Line) : line.phrase.lexemes = line.lexemes := by
  rw [Line.phrase, Phrase.lexemes, List.filterMap_map, Line.lexemes]
  apply List.filterMap_congr
  intro token _
  obtain ⟨kind, text, column⟩ := token
  cases kind <;> rfl

/-! ## Lines -/

namespace SourceLanguage

variable {title : Bytes → Bytes} {line : List Lexeme}

/-- Items of a list are told again as the elements that are printed for them. -/
theorem map_plain_items {α : Type} {item : Bytes → List Lexeme} {print : α → Phrase}
    {means : Bytes → α → Prop}
    (each : ∀ word element, means word element → (item word).map plain = (print element).lexemes)
    {words : List Bytes} {elements : List α} (all : List.Forall₂ means words elements) :
    (separated (words.map item)).map plain ++ [Lexeme.mark .rightParen] =
      (Phrase.enclosed (elements.map print)).lexemes := by
  have same : (words.map item).map (List.map plain) = (elements.map print).map Phrase.lexemes := by
    induction all with
    | nil => rfl
    | cons first _ ih =>
      simp only [List.map_cons, List.cons.injEq]
      exact ⟨each _ _ first, ih⟩
  rw [map_plain_separated, same, Phrase.lexemes_enclosed]

theorem retold_header {heading : Heading} (head : IsHeader line heading) {outline : Outline}
    (same : outline.head = (title heading.name, heading.inputs.map some, some heading.output)) :
    retold title line = (Phrase.header outline).lexemes := by
  obtain ⟨words, word, spell, spells, rfl⟩ := head
  obtain ⟨name, inputs, output⟩ := Prod.mk.inj same |>.imp id Prod.mk.inj
  have each : ∀ word type, IsType word type →
      (typeItem word).map plain = Phrase.lexemes [Phrase.type (some type)] := by
    intro word type spells
    rw [Phrase.lexemes_type, ← respelled_type spells]
    rfl
  have items := map_plain_items each spell
  have arrow : respelled (utf8 "->") = utf8 "->" := by decide
  simp [retold, Phrase.header, name, inputs, output, plain, arrow, respelled_type spells,
    Function.comp_def, ← items]

theorem retold_label {number : BlockId} (label : IsLabel line number) :
    retold title line = (Phrase.label number).lexemes := by
  obtain ⟨digits, numeral, rfl⟩ := label
  have block := respelled_block numeral
  simp [retold, Phrase.label, plain, block]

theorem retold_ending {terminator : Terminator} (ending : IsEnding line terminator) :
    retold title line = (Phrase.terminator terminator).lexemes := by
  cases terminator with
  | branch target =>
    obtain ⟨digits, numeral, rfl⟩ := ending
    have block := respelled_block numeral
    have keyword : respelled (utf8 "branch") = utf8 "branch" := by decide
    have other : utf8 "branch" ≠ utf8 "define" := by decide
    simp [retold, Phrase.terminator, plain, block, keyword, other]
  | result value =>
    obtain ⟨digits, numeral, rfl⟩ := ending
    have keyword : respelled (utf8 "return") = utf8 "return" := by decide
    simp [retold, Phrase.terminator, plain, reference, respelled_number numeral, keyword]

/-- A value line is told again as what is printed for the value. -/
theorem retold_value {entry : ValueLine} (value : IsValueLine line entry)
    {callable : Bytes → Option FunctionId} {instruction : Instruction}
    (tells : Tells callable entry.number entry.formula instruction) {outlines : List Outline}
    (named : ∀ name callee, callable name = some callee →
      Snapshot.nameIn outlines callee = Text.normalize name) :
    retold title line =
      (Phrase.value outlines entry.number (some entry.type) instruction).lexemes := by
  obtain ⟨digits, word, numeral, spells, -, rfl⟩ := value
  have number := respelled_number numeral
  have type := respelled_type spells
  cases tells with
  | @const digits literal written numeral fits =>
    have kept : (UInt64.ofNat literal).toNat = literal := UInt64.toNat_ofNat_of_lt fits
    rw [written]
    simp [retold, reference, Phrase.value, Phrase.instruction, plain, number, type,
      respelled_number numeral, kept]
  | @call name digits callee arguments written calls numerals earlier =>
    have each : ∀ digits argument, IsNumeral digits argument →
        (reference digits).map plain = (Phrase.reference argument).lexemes :=
      fun _ _ numeral => map_plain_reference numeral
    have items := map_plain_items each numerals
    rw [written]
    simp [retold, reference, Phrase.value, Phrase.instruction, plain, number, type,
      named name callee calls, ← items]
  | @binary operator leftDigits rightDigits left right written leftNumeral _ rightNumeral _ =>
    have keyword := respelled_mnemonic operator
    rw [written]
    simp [retold, reference, Phrase.value, Phrase.instruction, plain, number, type, keyword,
      respelled_number leftNumeral, respelled_number rightNumeral]

/-- A line keeps its number. -/
theorem lineNumber?_retold (title : Bytes → Bytes) (line : List Lexeme) :
    lineNumber? (retold title line) = lineNumber? line := by
  have numeral (digits : Bytes) :
      (if Numeral.isDigits (respelled digits) then some (Numeral.value (respelled digits))
        else none) = if Numeral.isDigits digits then some (Numeral.value digits) else none := by
    obtain ⟨same, value⟩ := isDigits_respelled digits
    rw [same]
    split
    · rename_i isNumeral
      rw [value isNumeral]
    · rfl
  have mapped (line : List Lexeme) : lineNumber? (line.map plain) = lineNumber? line := by
    match line with
    | [] => rfl
    | .word _ :: _ => rfl
    | [.mark sign] => cases sign <;> rfl
    | .mark sign :: .mark _ :: _ => cases sign <;> rfl
    | .mark sign :: .word digits :: _ => cases sign <;> first | rfl | exact numeral digits
  unfold retold
  split
  · split
    · rfl
    · exact mapped _
  · rename_i number _ _ _ _ _
    split
    · cases number with
      | word digits => exact numeral digits
      | mark sign => rfl
    · exact mapped _
  · exact mapped _

theorem retold_ne_nil (title : Bytes → Bytes) {line : List Lexeme} (written : line ≠ []) :
    retold title line ≠ [] := by
  unfold retold
  split
  · split <;> simp
  · split <;> simp
  · simpa using written

/-- What is told again depends only on what the words of the line are as names. -/
theorem retold_congr {title title' : Bytes → Bytes} {line : List Lexeme}
    (agree : ∀ word, .word word ∈ line → title word = title' word) :
    retold title line = retold title' line := by
  unfold retold
  split
  · rename_i name _
    rw [agree name (by simp)]
  · rfl
  · rfl

theorem retold_closing : retold title [.mark .rightBrace] = Phrase.ending.lexemes := rfl

end SourceLanguage
end Blockwork
