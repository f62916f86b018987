import Blockwork.Proofs.LineReading
import Blockwork.Proofs.Rereading

/-!
# Gathering bodies of the language

The lines of a body are gathered exactly if they make up blocks. What has been gathered then are the
value lines and the terminators of these blocks, each with the number of its block.
-/

namespace Blockwork

open SourceLanguage

namespace SourceLanguage

/-- The value lines of blocks, with the numbers of the blocks. -/
def located (passages : List Passage) : List (BlockId × ValueLine) :=
  passages.zipIdx.flatMap fun (passage, block) => passage.entries.map fun entry => (block, entry)

/-- The terminators of blocks, with the numbers of the blocks. -/
def endings (passages : List Passage) : List (BlockId × Terminator) :=
  passages.zipIdx.flatMap fun (passage, block) =>
    passage.ending.toList.map fun terminator => (block, terminator)

theorem located_concat (passages : List Passage) (passage : Passage) :
    located (passages ++ [passage]) =
      located passages ++ passage.entries.map fun entry => (passages.length, entry) := by
  simp [located, List.zipIdx_append]

theorem endings_concat (passages : List Passage) (passage : Passage) :
    endings (passages ++ [passage]) = endings passages ++
      passage.ending.toList.map fun terminator => (passages.length, terminator) := by
  simp [endings, List.zipIdx_append]

/-- Every number of a body can be the number of a value or a block. -/
structure Addressable (passages : List Passage) : Prop where
  /-- There are not too many blocks. -/
  blocks : passages.length ≤ 0x80000000
  /-- The numbers of value lines can be. -/
  values : ∀ item ∈ located passages, item.2.number < 0x80000000
  /-- What terminators refer to can be. -/
  ends : ∀ item ∈ endings passages, item.2.reference < 0x80000000

theorem Addressable.of_continues {passages passages' : List Passage} {line : List Lexeme}
    (next : Continues passages line passages') (addressable : Addressable passages') :
    Addressable passages := by
  obtain ⟨blocks, values, ends⟩ := addressable
  cases next with
  | label label =>
    rw [located_concat] at values
    rw [endings_concat] at ends
    rw [List.length_append] at blocks
    exact ⟨Nat.le_of_succ_le blocks, fun item member => values item (List.mem_append_left _ member),
      fun item member => ends item (List.mem_append_left _ member)⟩
  | entry value =>
    rw [located_concat, List.map_append, ← List.append_assoc] at values
    rw [List.length_append] at blocks
    refine ⟨by rwa [List.length_append], fun item member => values item ?_, ?_⟩
    · rw [located_concat] at member
      exact List.mem_append_left _ member
    · rw [endings_concat] at ends ⊢
      exact ends
  | ending ending =>
    rw [located_concat] at values
    rw [endings_concat] at ends
    rw [List.length_append] at blocks
    refine ⟨by rwa [List.length_append], ?_, fun item member => ends item ?_⟩
    · rw [located_concat]
      exact values
    · rw [endings_concat, Option.toList_none, List.map_nil, List.append_nil] at member
      exact List.mem_append_left _ member

end SourceLanguage

namespace Reader

/-- A value line that waits for its turn, and the value line of the language that it is. -/
structure PendingValue.Stands (types : Interner) (value : PendingValue)
    (item : BlockId × ValueLine) : Prop where
  /-- The block. -/
  block : value.block = item.1
  /-- The number. -/
  number : value.number = item.2.number
  /-- The number can be one. -/
  small : value.number < 0x80000000
  /-- The type. -/
  type : types.lookup? value.type = some item.2.type
  /-- The instruction. -/
  instruction : Token.Yields value.instruction item.2.formula

theorem PendingValue.Stands.extends {types types' : Interner} {value : PendingValue}
    {item : BlockId × ValueLine} (stands : value.Stands types item)
    (extended : types.Extends types') : value.Stands types' item :=
  { stands with type := extended _ _ stands.type }

/-- What has been gathered of a body that makes up the given blocks so far. The function has these
blocks, and nothing else has changed. -/
structure Gathered.Collects (gathered : Gathered) (before : List Outline) (outline : Outline)
    (after : List Outline) (passages : List Passage) : Prop where
  /-- The blocks have been added. -/
  sketches : gathered.context.Sketches
    (before ++ { outline with ends := List.replicate passages.length none } :: after)
  /-- They have been counted. -/
  counted : gathered.blocks = passages.length
  /-- The last block has been ended or not. -/
  ended : gathered.ended = (passages.getLast?.bind Passage.ending).isSome
  /-- The value lines, in order. -/
  values : List.Forall₂ (PendingValue.Stands gathered.context.types) gathered.values.reverse
    (located passages)
  /-- The terminators, in order. -/
  ends : gathered.terminators.reverse.map PendingTerminator.content = endings passages

variable {gathered gathered' : Gathered} {before after : List Outline} {outline : Outline}
  {passages : List Passage} {line : Line}

namespace Gathered.Collects

theorem empty {context : Context}
    (sketches : context.Sketches (before ++ { outline with ends := [] } :: after)) :
    ({ context } : Gathered).Collects before outline after [] :=
  ⟨sketches, rfl, rfl, .nil, rfl⟩

/-- A block that can go on is the last one. -/
theorem exists_open (collects : gathered.Collects before outline after passages)
    (begun : gathered.blocks ≠ 0) (unended : gathered.ended = false) :
    ∃ earlier entries, passages = earlier ++ [⟨entries, none⟩] := by
  rcases List.eq_nil_or_concat passages with rfl | ⟨earlier, ⟨entries, ending⟩, rfl⟩
  · exact absurd collects.counted begun
  · rw [List.concat_eq_append] at collects ⊢
    rw [collects.ended, List.getLast?_concat] at unended
    cases ending with
    | none => exact ⟨earlier, entries, rfl⟩
    | some terminator => cases unended

/-- A block more has been gathered. -/
theorem label (collects : gathered.Collects before outline after passages) :
    ∃ context id, gathered.context.addBlock before.length = .ok (context, id) ∧
      Gathered.Collects { gathered with context, blocks := gathered.blocks + 1, ended := false }
        before outline after (passages ++ [⟨[], none⟩]) := by
  obtain ⟨context, added, types, sketches⟩ := collects.sketches.addBlock
  refine ⟨context, _, added, ?_⟩
  constructor
  case sketches =>
    rw [List.length_append, List.length_singleton, List.replicate_succ']
    exact sketches
  case counted =>
    rw [List.length_append, List.length_singleton, collects.counted]
  case ended => rw [List.getLast?_concat]; rfl
  case values =>
    rw [located_concat, List.map_nil, List.append_nil, types]
    exact collects.values
  case ends =>
    rw [endings_concat, Option.toList_none, List.map_nil, List.append_nil]
    exact collects.ends

/-- A value line more has been gathered. -/
theorem entry {entries : List ValueLine}
    (collects : gathered.Collects before outline after (passages ++ [⟨entries, none⟩]))
    {number : ValueId} {type : Descriptor} {formula : List Lexeme} {instruction : List Token}
    (valid : type.Valid) (small : number < 0x80000000)
    (yields : Token.Yields instruction formula) (line : Line) (column : Nat) :
    Gathered.Collects { gathered with
      context := { gathered.context with types := (gathered.context.types.insert type).1 }
      values := ⟨line, gathered.blocks - 1, number, column,
        (gathered.context.types.insert type).2, instruction⟩ :: gathered.values }
      before outline after (passages ++ [⟨entries ++ [⟨number, type, formula⟩], none⟩]) := by
  have counted := collects.counted
  rw [List.length_append, List.length_singleton] at counted
  constructor
  case sketches =>
    have sketches := collects.sketches.insert valid
    rw [List.length_append] at sketches ⊢
    exact sketches
  case counted => rw [counted, List.length_append, List.length_singleton]
  case ended =>
    have ended := collects.ended
    rw [List.getLast?_concat] at ended ⊢
    exact ended
  case values =>
    have values := collects.values
    rw [located_concat] at values ⊢
    rw [List.map_append, ← List.append_assoc, List.reverse_cons]
    refine List.rel_append ?_ (.cons ?_ .nil)
    · exact values.imp fun _ _ stands =>
        stands.extends (gathered.context.types.extends_insert type)
    · exact ⟨by rw [counted]; rfl, rfl, small, collects.sketches.formed.types.lookup?_insert valid,
        yields⟩
  case ends =>
    have ends := collects.ends
    rw [endings_concat] at ends ⊢
    exact ends

/-- A terminator more has been gathered. -/
theorem ending {entries : List ValueLine}
    (collects : gathered.Collects before outline after (passages ++ [⟨entries, none⟩]))
    (terminator : Terminator) (line : Line) (column referenceColumn : Nat) :
    Gathered.Collects { gathered with
      ended := true
      terminators := ⟨line, gathered.blocks - 1, column, terminator, referenceColumn⟩ ::
        gathered.terminators }
      before outline after (passages ++ [⟨entries, some terminator⟩]) := by
  have counted := collects.counted
  rw [List.length_append, List.length_singleton] at counted
  constructor
  case sketches =>
    have sketches := collects.sketches
    rw [List.length_append] at sketches ⊢
    exact sketches
  case counted => rw [counted, List.length_append, List.length_singleton]
  case ended => rw [List.getLast?_concat]; rfl
  case values =>
    have values := collects.values
    rw [located_concat] at values ⊢
    exact values
  case ends =>
    have ends := collects.ends
    rw [endings_concat, Option.toList_none, List.map_nil, List.append_nil] at ends
    rw [endings_concat, List.reverse_cons, List.map_append, ends, counted]
    rfl

/-- A line that is gathered continues the body. -/
theorem continues_of_gatherLine (collects : gathered.Collects before outline after passages)
    (read : gatherLine before.length gathered line = .ok gathered') :
    ∃ passages', Continues passages line.lexemes passages' ∧
      gathered'.Collects before outline after passages' := by
  unfold gatherLine at read
  dsimp only at read
  split at read
  · unfold gatherLabel at read
    obtain ⟨number, labelled, checked⟩ := bind_eq_ok_iff.mp read
    obtain ⟨expected, accepted⟩ := of_ite_error_eq_ok checked
    rw [Decidable.not_not.mp expected, collects.counted] at labelled
    obtain ⟨label, -⟩ := (Grammar.readLabel_iff _ line.yields).mp labelled
    obtain ⟨context, id, added, done⟩ := collects.label
    rw [added] at accepted
    cases accepted
    exact ⟨_, .label label, done⟩
  · obtain ⟨begun, read⟩ := of_ite_error_eq_ok read
    obtain ⟨unended, read⟩ := of_ite_error_eq_ok read
    obtain ⟨earlier, entries, rfl⟩ := collects.exists_open begun (by simpa using unended)
    unfold gatherContent at read
    dsimp only at read
    split at read
    · obtain ⟨⟨number, type, instruction⟩, headRead, done⟩ := bind_eq_ok_iff.mp read
      cases done
      have valid := Grammar.valid_of_readValueHead headRead
      obtain ⟨formula, value, small, yields⟩ :=
        Grammar.yields_of_readValueHead line.yields headRead
      exact ⟨_, .entry value, collects.entry valid small yields line _⟩
    · obtain ⟨begins, read⟩ := of_ite_eq_ok read
      obtain ⟨⟨terminator, column⟩, terminatorRead, done⟩ := bind_eq_ok_iff.mp read
      cases done
      have ending := Grammar.isEnding_of_readTerminator line.yields begins terminatorRead
      exact ⟨_, .ending ending, collects.ending terminator line _ column⟩

/-- A line behind the first label that is no label is gathered into the last block. -/
theorem gatherLine_content {entries : List ValueLine}
    (collects : gathered.Collects before outline after (passages ++ [⟨entries, none⟩]))
    (other : ¬ ((Grammar.peek (stopOf line) line.tokens).kind = .word ∧
      Bytes.beginsWith (utf8 "bb") (Grammar.peek (stopOf line) line.tokens).text)) :
    gatherLine before.length gathered line =
      gatherContent gathered (gathered.blocks - 1) line
        (Grammar.peek (stopOf line) line.tokens) := by
  have begun : gathered.blocks ≠ 0 := by
    rw [collects.counted, List.length_append]
    exact Nat.succ_ne_zero _
  have unended : gathered.ended = false := by
    rw [collects.ended, List.getLast?_concat]
    rfl
  unfold gatherLine
  dsimp only
  rw [if_neg fun label => other ⟨label.1, label.2.1⟩, if_neg begun, unended]
  rfl

/-- A line that continues the body is gathered. -/
theorem exists_gatherLine (collects : gathered.Collects before outline after passages)
    {passages' : List Passage} (next : Continues passages line.lexemes passages')
    (addressable : SourceLanguage.Addressable passages') :
    ∃ gathered', gatherLine before.length gathered line = .ok gathered' ∧
      gathered'.Collects before outline after passages' := by
  have yields := line.yields
  generalize written : line.lexemes = lexemes at next yields
  cases next with
  | label label =>
    have small : passages.length < 0x80000000 := by
      have blocks := addressable.blocks
      rwa [List.length_append] at blocks
    have read := (Grammar.readLabel_iff (stopOf line) yields).mpr ⟨label, small⟩
    obtain ⟨digits, -, rfl⟩ := label
    obtain ⟨word, text, rest⟩ := Grammar.peek_word (stopOf line) yields
    obtain ⟨colon, -⟩ := Grammar.peek_mark (stopOf line) rest
    have begins : Bytes.beginsWith (utf8 "bb")
        (Grammar.peek (stopOf line) line.tokens).text = true := by
      rw [text, Bytes.beginsWith, Bytes.dropBeginning?_append]
      rfl
    obtain ⟨context, id, added, done⟩ := collects.label
    refine ⟨_, ?_, done⟩
    unfold gatherLine
    dsimp only
    rw [if_pos ⟨word, begins, colon⟩, gatherLabel, read, ok_bind, collects.counted,
      if_neg (fun other => other rfl), added]
    rfl
  | @entry earlier entries _ value written =>
    have small : value.number < 0x80000000 := by
      refine addressable.values (earlier.length, value) ?_
      rw [located_concat, List.map_append]
      exact List.mem_append_right _ (List.mem_append_right _ List.mem_cons_self)
    obtain ⟨instruction, read, content⟩ :=
      Grammar.exists_readValueHead (stopOf line) small written yields
    have valid := Grammar.valid_of_readValueHead read
    obtain ⟨digits, word, -, -, -, rfl⟩ := written
    obtain ⟨percent, -⟩ := Grammar.peek_mark (stopOf line) yields
    refine ⟨_, ?_, collects.entry valid small content line
      (Grammar.peek (stopOf line) line.tokens).column⟩
    have other : (Grammar.peek (stopOf line) line.tokens).kind ≠ .word := by
      rw [percent]
      exact TokenKind.noConfusion
    rw [collects.gatherLine_content fun label => other label.1, gatherContent, if_pos percent, read]
    rfl
  | @ending earlier entries _ terminator ending =>
    have small : terminator.reference < 0x80000000 := by
      refine addressable.ends (earlier.length, terminator) ?_
      rw [endings_concat]
      exact List.mem_append_right _ List.mem_cons_self
    obtain ⟨begins, column, read⟩ :=
      Grammar.exists_readTerminator (stopOf line) small ending yields
    have word : (Grammar.peek (stopOf line) line.tokens).kind = .word ∧
        Bytes.beginsWith (utf8 "bb") (Grammar.peek (stopOf line) line.tokens).text = false := by
      rcases Bool.or_eq_true_iff.mp begins with branch | result
      · obtain ⟨kind, text⟩ := Grammar.isWord_iff.mp branch
        exact ⟨kind, by rw [text]; decide⟩
      · obtain ⟨kind, text⟩ := Grammar.isWord_iff.mp result
        exact ⟨kind, by rw [text]; decide⟩
    refine ⟨_, ?_, collects.ending terminator line
      (Grammar.peek (stopOf line) line.tokens).column column⟩
    rw [collects.gatherLine_content (by simp [word.2]), gatherContent,
      if_neg (by rw [word.1]; exact TokenKind.noConfusion), if_pos begins, read]
    rfl

end Gathered.Collects

/-- Gathering goes line by line. -/
theorem gather_append (file : Bytes) (function : FunctionId) (gathered : Gathered)
    (lines rest : List Line) :
    gather file function gathered (lines ++ rest) =
      (gather file function gathered lines >>= fun gathered =>
        gather file function gathered rest) := by
  induction lines generalizing gathered with
  | nil => rfl
  | cons line lines ih =>
    rw [List.cons_append, gather, gather]
    split
    · exact ih _
    · rfl

/-- Lines that are gathered continue the body. -/
theorem Gathered.Collects.isBody_of_gather {file : Bytes} {lines : List Line}
    (collects : gathered.Collects before outline after passages) {earlier : List (List Lexeme)}
    (body : IsBody earlier passages)
    (read : gather file before.length gathered lines = .ok gathered') :
    ∃ passages', IsBody (earlier ++ lines.map Line.lexemes) passages' ∧
      gathered'.Collects before outline after passages' := by
  induction lines generalizing gathered passages earlier with
  | nil =>
    cases read
    exact ⟨passages, by simpa using body, collects⟩
  | cons line lines ih =>
    rw [gather] at read
    split at read
    · rename_i middle first
      obtain ⟨next, continues, collects'⟩ := collects.continues_of_gatherLine first
      obtain ⟨passages', whole, done⟩ := ih collects' (body.line continues) read
      exact ⟨passages', by simpa using whole, done⟩
    · cases read

/-- The lines of a body are gathered. -/
theorem exists_gather (file : Bytes) {context : Context}
    (sketches : context.Sketches (before ++ { outline with ends := [] } :: after))
    {lexemes : List (List Lexeme)} (body : IsBody lexemes passages)
    (addressable : Addressable passages) {lines : List Line}
    (written : lines.map Line.lexemes = lexemes) :
    ∃ gathered, gather file before.length { context } lines = .ok gathered ∧
      gathered.Collects before outline after passages := by
  induction body generalizing lines with
  | empty =>
    obtain rfl := List.map_eq_nil_iff.mp written
    exact ⟨_, rfl, .empty sketches⟩
  | line body next ih =>
    obtain ⟨earlier, last, rfl, early, late⟩ := List.map_eq_append_iff.mp written
    obtain ⟨line, none, rfl, rfl, nothing⟩ := List.map_eq_cons_iff.mp late
    obtain rfl := List.map_eq_nil_iff.mp nothing
    obtain ⟨middle, read, collects⟩ := ih (addressable.of_continues next) early
    obtain ⟨gathered, lineRead, done⟩ := collects.exists_gatherLine next addressable
    refine ⟨gathered, ?_, done⟩
    rw [gather_append, read, ok_bind, gather, lineRead]
    rfl

end Reader
end Blockwork
