import Blockwork.Proofs.PhraseReading

/-!
# Reading what was printed

A text that falls apart into the phrases of some outlines is read, and the context that comes of it
has these outlines. The lines of a body come block by block, while construction numbers its values
through the whole function: what is gathered from the blocks, put into the order of the numbers, is
every value once.
-/

namespace Blockwork

/-! ## The order of values -/

namespace Outline

variable {outline : Outline} {outlines : List Outline}

/-- The values of all blocks, block by block. -/
def memberList (outline : Outline) : List ValueId :=
  outline.ends.zipIdx.flatMap fun (_, block) => outline.members block

theorem Sound.mem_memberList_iff (sound : outline.Sound outlines) {id : ValueId} :
    id ∈ outline.memberList ↔ outline.inputs.length ≤ id ∧ id < outline.values.length := by
  rw [memberList, List.mem_flatMap]
  constructor
  · rintro ⟨⟨terminator, block⟩, -, member⟩
    obtain ⟨described, computed, held⟩ := mem_members_iff.mp member
    exact ⟨(sound.instruction_laws held).1, (List.getElem?_eq_some_iff.mp held).choose⟩
  · rintro ⟨late, inside⟩
    obtain ⟨described, block, computed, held, -, bound, -⟩ :=
      sound.later id _ (List.getElem?_eq_getElem inside) late
    have listed := List.mk_mem_zipIdx_iff_getElem?.mpr (List.getElem?_eq_getElem bound)
    exact ⟨_, listed, mem_members_iff.mpr ⟨_, _, by rw [List.getElem?_eq_getElem inside, held]⟩⟩

theorem nodup_memberList (outline : Outline) : outline.memberList.Nodup := by
  rw [memberList, List.nodup_flatMap]
  constructor
  · intro pair _
    exact List.nodup_range.filter _
  · have numbers : (outline.ends.zipIdx.map Prod.snd).Nodup := by
      rw [List.zipIdx_map_snd]
      exact List.nodup_range'
    refine (List.pairwise_map.mp numbers).imp ?_
    rintro ⟨_, block⟩ ⟨_, block'⟩ apart id first second
    obtain ⟨_, _, held⟩ := mem_members_iff.mp first
    obtain ⟨_, _, held'⟩ := mem_members_iff.mp second
    cases held.symm.trans held'
    exact apart rfl

/-- The values of all blocks, put in order, are the values from the first that is no parameter on. -/
theorem Sound.perm_memberList (sound : outline.Sound outlines) :
    outline.memberList.Perm
      (List.range' outline.inputs.length (outline.values.length - outline.inputs.length)) := by
  rw [List.perm_ext_iff_of_nodup outline.nodup_memberList List.nodup_range']
  intro id
  rw [sound.mem_memberList_iff, List.mem_range'_1, Nat.add_sub_of_le sound.length_le]

end Outline

namespace Reader

/-! ## Gathering -/

/-- A value line that waits for its turn stands for a value of the outline. -/
def PendingValue.Denotes (outlines : List Outline) (outline : Outline) (types : Interner)
    (value : PendingValue) : Prop :=
  ∃ described computed,
    outline.values[value.number]? = some (some described, .instruction value.block computed) ∧
    types.lookup? value.type = some described ∧
    value.instruction.map Token.shape = Phrase.instruction outlines computed

theorem PendingValue.Denotes.extends {outlines : List Outline} {outline : Outline}
    {types types' : Interner} {value : PendingValue} (denotes : value.Denotes outlines outline types)
    (extended : types.Extends types') : value.Denotes outlines outline types' := by
  obtain ⟨described, computed, held, typed, spells⟩ := denotes
  exact ⟨described, computed, held, extended _ _ typed, spells⟩

/-- A terminator line that waits for its turn, as far as it is not about columns. -/
def PendingTerminator.content (pending : PendingTerminator) : BlockId × Terminator :=
  (pending.block, pending.terminator)

/-- The state after some blocks of a body: the numbers of the values gathered and the ends. -/
structure Gathered.Holds (gathered : Gathered) (before : List Outline) (outline : Outline)
    (after outlines : List Outline) (blocks : Nat) (numbers : List ValueId)
    (ends : List (BlockId × Terminator)) : Prop where
  /-- The blocks have been added. -/
  sketches : gathered.context.Sketches
    (before ++ outline.stage blocks outline.inputs.length 0 :: after)
  /-- They have been counted. -/
  counted : gathered.blocks = blocks
  /-- The values gathered so far, in order. -/
  numbers : gathered.values.reverse.map PendingValue.number = numbers
  /-- Each stands for a value of the outline. -/
  denotes : ∀ value ∈ gathered.values, value.Denotes outlines outline gathered.context.types
  /-- The ends gathered so far, in order. -/
  ends : gathered.terminators.reverse.map PendingTerminator.content = ends

namespace Gathered.Holds

variable {gathered : Gathered} {before after outlines : List Outline} {outline : Outline}
  {blocks : Nat} {numbers : List ValueId} {ends : List (BlockId × Terminator)} {line : Line}

theorem gatherLine_label
    (holds : gathered.Holds before outline after outlines blocks numbers ends)
    (small : blocks < 0x80000000) (spells : line.phrase = Phrase.label blocks) :
    ∃ gathered', gatherLine before.length gathered line = .ok gathered' ∧
      gathered'.ended = false ∧
      gathered'.Holds before outline after outlines (blocks + 1) numbers ends := by
  have read := Grammar.readLabel_label (stopOf line) small spells
  obtain ⟨column, behind, tokens, colon⟩ := Grammar.exists_of_map_cons spells
  obtain ⟨column', rest, rfl, -⟩ := Grammar.exists_of_map_cons colon
  rw [tokens] at read
  obtain ⟨context, added, types, sketches⟩ := holds.sketches.addBlock
  rw [Outline.stage_addBlock] at sketches
  have begins : Bytes.beginsWith (utf8 "bb") (blockName blocks) = true := by
    rw [Bytes.beginsWith, blockName, Bytes.dropBeginning?_append]
    rfl
  refine ⟨{ gathered with context, blocks := blocks + 1, ended := false }, ?_, rfl, ?_⟩
  · simp only [gatherLine, Grammar.peek, tokens, List.headD_cons, List.tail_cons, begins, and_self,
      if_true, gatherLabel, read, ok_bind, holds.counted, ne_eq, not_true_eq_false, if_false, added]
    rfl
  · refine ⟨sketches, rfl, holds.numbers, ?_, holds.ends⟩
    intro value member
    exact types ▸ holds.denotes value member

theorem gatherLine_value (sound : outline.Sound outlines)
    (short : outline.values.length ≤ 0x80000000)
    (holds : gathered.Holds before outline after outlines (blocks + 1) numbers ends)
    (unended : gathered.ended = false) {id : ValueId} (member : id ∈ outline.members blocks)
    (spells : line.phrase = outline.valuePhrase outlines id) :
    ∃ gathered', gatherLine before.length gathered line = .ok gathered' ∧
      gathered'.ended = false ∧
      gathered'.Holds before outline after outlines (blocks + 1) (numbers ++ [id]) ends := by
  obtain ⟨type, computed, held⟩ := Outline.mem_members_iff.mp member
  obtain ⟨-, ⟨described, rfl, valid⟩, -⟩ := sound.instruction_laws held
  have small : id < 0x80000000 :=
    Nat.lt_of_lt_of_le (List.getElem?_eq_some_iff.mp held).choose short
  rw [Outline.valuePhrase, held] at spells
  obtain ⟨instruction, read, spelled⟩ :=
    Grammar.readValueHead_value (stopOf line) small valid spells
  obtain ⟨column, column', rest, tokens, -⟩ := Grammar.exists_of_reference spells
  have extended := gathered.context.types.extends_insert described
  refine ⟨{ gathered with
    context := { gathered.context with types := (gathered.context.types.insert described).1 }
    values := ⟨line, blocks, id, column, (gathered.context.types.insert described).2,
      instruction⟩ :: gathered.values }, ?_, unended, ?_⟩
  · rw [tokens] at read
    simp only [gatherLine, Grammar.peek, tokens, List.headD_cons, List.tail_cons, reduceCtorEq,
      false_and, if_false, holds.counted, Nat.add_one_ne_zero, unended, Bool.false_eq_true,
      gatherContent, if_true, read, ok_bind, Nat.add_sub_cancel]
    rfl
  · constructor
    case sketches => exact holds.sketches.insert valid
    case counted => exact holds.counted
    case numbers =>
      rw [List.reverse_cons, List.map_append, holds.numbers]
      rfl
    case denotes =>
      intro value inside
      rcases List.mem_cons.mp inside with rfl | earlier
      · exact ⟨described, computed, held,
          holds.sketches.formed.types.lookup?_insert valid, spelled⟩
      · exact (holds.denotes value earlier).extends extended
    case ends => exact holds.ends

theorem gatherLine_terminator
    (holds : gathered.Holds before outline after outlines (blocks + 1) numbers ends)
    (unended : gathered.ended = false) {terminator : Terminator}
    (small : terminator.reference < 0x80000000)
    (spells : line.phrase = Phrase.terminator terminator) :
    ∃ gathered', gatherLine before.length gathered line = .ok gathered' ∧
      gathered'.Holds before outline after outlines (blocks + 1) numbers
        (ends ++ [(blocks, terminator)]) := by
  obtain ⟨column, read⟩ := Grammar.readTerminator_terminator (stopOf line) small spells
  obtain ⟨word, column', rest, tokens, other, keyword⟩ : ∃ word column rest,
      line.tokens = ⟨.word, word, column⟩ :: rest ∧
        Bytes.beginsWith (utf8 "bb") word = false ∧
        (word = utf8 "branch" ∨ word = utf8 "return") := by
    cases terminator with
    | branch target =>
      obtain ⟨column, rest, tokens, -⟩ := Grammar.exists_of_map_cons spells
      exact ⟨_, column, rest, tokens, by decide, .inl rfl⟩
    | result value =>
      obtain ⟨column, rest, tokens, -⟩ := Grammar.exists_of_map_cons spells
      exact ⟨_, column, rest, tokens, by decide, .inr rfl⟩
  refine ⟨{ gathered with
    ended := true
    terminators := ⟨line, blocks, column', terminator, column⟩ :: gathered.terminators }, ?_, ?_⟩
  · rw [tokens] at read
    have known : ((⟨.word, word, column'⟩ : Token).isWord "branch" ||
        (⟨.word, word, column'⟩ : Token).isWord "return") = true := by
      simpa [Token.isWord] using keyword
    simp only [gatherLine, Grammar.peek, tokens, List.headD_cons, List.tail_cons, other,
      Bool.false_eq_true, false_and, and_false, if_false, holds.counted, Nat.add_one_ne_zero,
      unended, gatherContent, reduceCtorEq, known, if_true, read, ok_bind, Nat.add_sub_cancel]
    rfl
  · refine ⟨holds.sketches, holds.counted, holds.numbers, holds.denotes, ?_⟩
    rw [List.reverse_cons, List.map_append, holds.ends]
    rfl

/-- The value lines of a block are gathered. -/
theorem gather_values (file : Bytes) (sound : outline.Sound outlines)
    (short : outline.values.length ≤ 0x80000000)
    (holds : gathered.Holds before outline after outlines (blocks + 1) numbers ends)
    (unended : gathered.ended = false) {ids : List ValueId} (members : ∀ id ∈ ids,
      id ∈ outline.members blocks) {lines : List Line}
    (spells : lines.map Line.phrase = ids.map (outline.valuePhrase outlines)) (rest : List Line) :
    ∃ gathered', gather file before.length gathered (lines ++ rest) =
        gather file before.length gathered' rest ∧ gathered'.ended = false ∧
      gathered'.Holds before outline after outlines (blocks + 1) (numbers ++ ids) ends := by
  induction ids generalizing gathered numbers lines with
  | nil =>
    obtain rfl := List.map_eq_nil_iff.mp spells
    exact ⟨gathered, rfl, unended, by simpa using holds⟩
  | cons id ids ih =>
    obtain ⟨line, lines, rfl, first, others⟩ := List.map_eq_cons_iff.mp spells
    obtain ⟨middle, read, open_, holds'⟩ :=
      holds.gatherLine_value sound short unended (members id List.mem_cons_self) first
    obtain ⟨gathered', gathers, done⟩ := ih holds' open_
      (fun other member => members other (List.mem_cons_of_mem _ member)) others
    refine ⟨gathered', ?_, by simpa using done⟩
    rw [List.cons_append, gather, read]
    exact gathers

/-- The lines of a block are gathered. -/
theorem gather_block (file : Bytes) (sound : outline.Sound outlines)
    (short : outline.values.length ≤ 0x80000000) (few : outline.ends.length ≤ 0x80000000)
    (addressable : outline.Addressable)
    (holds : gathered.Holds before outline after outlines blocks numbers ends)
    {terminator : Option Terminator} (held : outline.ends[blocks]? = some terminator)
    {lines : List Line}
    (spells : lines.map Line.phrase = outline.blockPhrases outlines blocks terminator)
    (rest : List Line) :
    ∃ gathered', gather file before.length gathered (lines ++ rest) =
        gather file before.length gathered' rest ∧
      gathered'.Holds before outline after outlines (blocks + 1)
        (numbers ++ outline.members blocks)
        (ends ++ terminator.toList.map fun terminator => (blocks, terminator)) := by
  have inside := (List.getElem?_eq_some_iff.mp held).choose
  obtain ⟨label, behind, rfl, labelSpells, spells⟩ := List.map_eq_cons_iff.mp spells
  obtain ⟨values, last, rfl, valuesSpell, lastSpells⟩ := List.map_eq_append_iff.mp spells
  obtain ⟨first, labelRead, unended, holds⟩ :=
    holds.gatherLine_label (Nat.lt_of_lt_of_le inside few) labelSpells
  obtain ⟨second, valuesRead, unended, holds⟩ := holds.gather_values file sound short unended
    (fun id member => member) valuesSpell (last ++ rest)
  have start : gather file before.length gathered (label :: (values ++ last) ++ rest) =
      gather file before.length second (last ++ rest) := by
    rw [List.cons_append, gather, labelRead, List.append_assoc]
    exact valuesRead
  cases terminator with
  | none =>
    obtain rfl := List.map_eq_nil_iff.mp lastSpells
    exact ⟨second, start, by simpa using holds⟩
  | some terminator =>
    obtain ⟨line, tail, rfl, lineSpells, tailSpells⟩ := List.map_eq_cons_iff.mp lastSpells
    obtain rfl := List.map_eq_nil_iff.mp tailSpells
    obtain ⟨third, read, holds⟩ := holds.gatherLine_terminator unended
      (addressable.ends terminator (List.mem_of_getElem? held)) lineSpells
    refine ⟨third, ?_, holds⟩
    rw [start, List.cons_append, gather, read]
    rfl

/-- The lines of a body are gathered. -/
theorem gather_body (file : Bytes) (sound : outline.Sound outlines)
    (short : outline.values.length ≤ 0x80000000) (few : outline.ends.length ≤ 0x80000000)
    (addressable : outline.Addressable)
    (holds : gathered.Holds before outline after outlines blocks numbers ends)
    (bound : blocks ≤ outline.ends.length)
    {terminators : List (Option Terminator)} (left : outline.ends.drop blocks = terminators)
    {lines : List Line}
    (spells : lines.map Line.phrase = (terminators.zipIdx blocks).flatMap
      fun (terminator, block) => outline.blockPhrases outlines block terminator) :
    ∃ gathered', gather file before.length gathered lines = .ok gathered' ∧
      gathered'.Holds before outline after outlines outline.ends.length
        (numbers ++ (terminators.zipIdx blocks).flatMap fun (_, block) => outline.members block)
        (ends ++ (terminators.zipIdx blocks).flatMap fun (terminator, block) =>
          terminator.toList.map fun terminator => (block, terminator)) := by
  induction terminators generalizing gathered blocks numbers ends lines with
  | nil =>
    obtain rfl := List.map_eq_nil_iff.mp spells
    have all : blocks = outline.ends.length :=
      Nat.le_antisymm bound (List.drop_eq_nil_iff.mp left)
    subst all
    exact ⟨gathered, rfl, by simpa using holds⟩
  | cons terminator terminators ih =>
    have held : outline.ends[blocks]? = some terminator := by
      rw [← List.head?_drop, left]
      rfl
    have tail : outline.ends.drop (blocks + 1) = terminators := by
      rw [← List.tail_drop, left]
      rfl
    rw [List.zipIdx_cons, List.flatMap_cons] at spells
    obtain ⟨first, others, rfl, firstSpells, othersSpell⟩ := List.map_eq_append_iff.mp spells
    obtain ⟨middle, gathers, holds⟩ :=
      holds.gather_block file sound short few addressable held firstSpells others
    obtain ⟨gathered', rest, done⟩ :=
      ih holds (List.getElem?_eq_some_iff.mp held).choose tail othersSpell
    refine ⟨gathered', gathers.trans rest, ?_⟩
    simpa [List.append_assoc] using done

end Gathered.Holds

/-! ## Replaying -/

variable {context : Context} {before after after' : List Outline} {outline : Outline}

/-- A value whose turn it is gets built. -/
theorem replayValue_denotes (file : Bytes) (sound : outline.Sound (before ++ outline :: after))
    (heads : after'.map Outline.head = after.map Outline.head)
    (normal : ∀ other ∈ before ++ outline :: after, Text.normalize other.name = other.name)
    (addressable : outline.Addressable) {value : PendingValue}
    (denotes : value.Denotes (before ++ outline :: after) outline context.types)
    (sketches : context.Sketches
      (before ++ outline.stage outline.ends.length value.number 0 :: after')) :
    ∃ context', replayValue file before.length context value = .ok context' ∧
      context'.types = context.types ∧
      context'.Sketches
        (before ++ outline.stage outline.ends.length (value.number + 1) 0 :: after') := by
  obtain ⟨described, computed, held, typed, spells⟩ := denotes
  obtain ⟨late, -, -, earlier, suits⟩ := sound.instruction_laws held
  have member := List.mem_of_getElem? held
  obtain ⟨function, found, shape⟩ := sketches.exists_function
  have count : function.values.size = value.number := by
    have bound := (List.getElem?_eq_some_iff.mp held).choose
    rw [← Function.length_values context.types, shape, Outline.stage, List.length_take]
    exact Nat.min_eq_left (Nat.le_of_lt bound)
  have named : ∀ callee arguments, computed = .call callee arguments →
      context.functionNamed? (Snapshot.nameIn (before ++ outline :: after) callee) =
        some callee := by
    rintro callee arguments rfl
    obtain ⟨target, targetFound, -⟩ := suits
    refine Snapshot.functionNamed?_nameIn sketches ?_ normal targetFound
    simp [heads, Outline.stage, Outline.head]
  have read := readInstruction_instruction file named (addressable.operands _ _ _ member) earlier
    spells
  obtain ⟨context', builds, rebuilt, types, done⟩ :=
    sound.append_stage heads sketches held late typed
  refine ⟨context', ?_, types, done⟩
  simp only [replayValue, found, count, ne_eq, not_true_eq_false, if_false, read, builds, rebuilt,
    if_true]

/-- The values that are left get built, in the order of their numbers. -/
theorem replayValues_denotes (file : Bytes) (sound : outline.Sound (before ++ outline :: after))
    (heads : after'.map Outline.head = after.map Outline.head)
    (normal : ∀ other ∈ before ++ outline :: after, Text.normalize other.name = other.name)
    (addressable : outline.Addressable) {values : List PendingValue} {start count : Nat}
    (numbers : values.map PendingValue.number = List.range' start count)
    (denotes : ∀ value ∈ values, value.Denotes (before ++ outline :: after) outline context.types)
    (sketches : context.Sketches
      (before ++ outline.stage outline.ends.length start 0 :: after')) :
    ∃ context', replayValues file before.length context values = .ok context' ∧
      context'.Sketches
        (before ++ outline.stage outline.ends.length (start + count) 0 :: after') := by
  induction values generalizing context start count with
  | nil =>
    have none : count = 0 := by simpa using (congrArg List.length numbers).symm
    subst none
    exact ⟨context, rfl, sketches⟩
  | cons value values ih =>
    cases count with
    | zero => cases numbers
    | succ count =>
      rw [List.map_cons, List.range'_succ] at numbers
      obtain ⟨rfl, numbers⟩ := List.cons.inj numbers
      obtain ⟨middle, read, types, sketches⟩ := replayValue_denotes file sound heads normal
        addressable (denotes value List.mem_cons_self) sketches
      have denotes' : ∀ other ∈ values,
          other.Denotes (before ++ outline :: after) outline middle.types := by
        intro other member
        rw [types]
        exact denotes other (List.mem_cons_of_mem _ member)
      obtain ⟨context', others, done⟩ := ih numbers denotes' sketches
      refine ⟨context', ?_, ?_⟩
      · rw [replayValues, read]
        exact others
      · rw [Nat.add_right_comm, Nat.add_assoc] at done
        exact done

/-- A terminator that suits ends its block. -/
theorem exists_replayTerminator {pending : PendingTerminator} {item : BlockId × Terminator}
    (content : pending.content = item) (sketches : context.Sketches (before ++ outline :: after))
    (opened : outline.ends[item.1]? = some none) (suits : item.2.Suits outline) :
    ∃ context', replayTerminator before.length context pending = .ok context' ∧
      context'.Sketches
        (before ++ { outline with ends := outline.ends.set item.1 (some item.2) } :: after) := by
  obtain ⟨line, block, column, terminator, referenceColumn⟩ := pending
  obtain rfl := content
  obtain ⟨function, found, shape⟩ := sketches.exists_function
  obtain ⟨context', builds, done⟩ := sketches.finish opened suits
  refine ⟨context', ?_, done⟩
  cases terminator with
  | branch target =>
    have builds : context.buildBranch ⟨before.length, block⟩ (.own target) = .ok context' := builds
    have known : target < function.blocks.size := by
      rw [← Function.length_ends context.types, shape]
      exact suits
    obtain ⟨content, held⟩ := Arena.exists_get?_of_lt known
    simp only [replayTerminator, found, Option.bind_some, held, Option.isNone_some,
      Bool.false_eq_true, if_false, builds]
  | result value =>
    have builds : context.buildReturn ⟨before.length, block⟩ (.own value) = .ok context' := builds
    obtain ⟨pair, pairFound, -⟩ := Option.map_eq_some_iff.mp suits
    have known : value < function.values.size := by
      rw [← Function.length_values context.types, shape]
      exact (List.getElem?_eq_some_iff.mp pairFound).choose
    obtain ⟨content, held⟩ := Arena.exists_get?_of_lt known
    simp only [replayTerminator, found, Option.bind_some, held, Option.isNone_some,
      Bool.false_eq_true, if_false, builds]

/-- The block of a terminator line gets ended. -/
theorem replayTerminator_content (sound : outline.Sound (before ++ outline :: after))
    {pending : PendingTerminator} {terminator : Terminator} {block : BlockId}
    (content : pending.content = (block, terminator))
    (held : outline.ends[block]? = some (some terminator))
    (sketches : context.Sketches
      (before ++ outline.stage outline.ends.length outline.values.length block :: after')) :
    ∃ context', replayTerminator before.length context pending = .ok context' ∧
      context'.Sketches (before ++
        outline.stage outline.ends.length outline.values.length (block + 1) :: after') := by
  have inside := (List.getElem?_eq_some_iff.mp held).choose
  rw [← Outline.stage_finish held inside]
  exact exists_replayTerminator content sketches
    (Outline.stage_open (Nat.le_refl _) inside (Nat.le_of_lt inside)) (sound.suits_stage held)

/-- The ends of the blocks that are left get set. -/
theorem replayTerminators_content (file : Bytes)
    (sound : outline.Sound (before ++ outline :: after)) {rest : List (Option Terminator)}
    {ends : Nat} (left : outline.ends.drop ends = rest) (bound : ends ≤ outline.ends.length)
    {pending : List PendingTerminator}
    (content : pending.map PendingTerminator.content = (rest.zipIdx ends).flatMap
      fun (terminator, block) => terminator.toList.map fun terminator => (block, terminator))
    (sketches : context.Sketches
      (before ++ outline.stage outline.ends.length outline.values.length ends :: after')) :
    ∃ context', replayTerminators file before.length context pending = .ok context' ∧
      context'.Sketches (before ++ outline :: after') := by
  induction rest generalizing context ends pending with
  | nil =>
    obtain rfl := List.map_eq_nil_iff.mp content
    have all : ends = outline.ends.length :=
      Nat.le_antisymm bound (List.drop_eq_nil_iff.mp left)
    rw [all, Outline.stage_all] at sketches
    exact ⟨context, rfl, sketches⟩
  | cons terminator rest ih =>
    have held : outline.ends[ends]? = some terminator := by
      rw [← List.head?_drop, left]
      rfl
    have tail : outline.ends.drop (ends + 1) = rest := by
      rw [← List.tail_drop, left]
      rfl
    have inside := (List.getElem?_eq_some_iff.mp held).choose
    rw [List.zipIdx_cons, List.flatMap_cons] at content
    cases terminator with
    | none =>
      rw [← Outline.stage_skip held inside] at sketches
      exact ih tail inside content sketches
    | some terminator =>
      obtain ⟨first, others, rfl, firstContent, othersContent⟩ := List.map_eq_cons_iff.mp content
      obtain ⟨middle, read, sketches⟩ := replayTerminator_content sound firstContent held sketches
      obtain ⟨context', replayed, done⟩ := ih tail inside othersContent sketches
      refine ⟨context', ?_, done⟩
      rw [replayTerminators, read]
      exact replayed

/-- The body of a function is read. -/
theorem readBody_phrases (file : Bytes) (sound : outline.Sound (before ++ outline :: after))
    (heads : after'.map Outline.head = after.map Outline.head)
    (normal : ∀ other ∈ before ++ outline :: after, Text.normalize other.name = other.name)
    (addressable : outline.Addressable) (short : outline.values.length ≤ 0x80000000)
    (few : outline.ends.length ≤ 0x80000000) {declaration : Declaration}
    (function : declaration.function = before.length)
    (spells : declaration.body.map Line.phrase =
      outline.bodyPhrases (before ++ outline :: after))
    (sketches : context.Sketches (before ++ outline.declared :: after')) :
    ∃ context', readBody file context declaration = .ok context' ∧
      context'.Sketches (before ++ outline :: after') := by
  have start : (({ context } : Gathered)).Holds before outline after'
      (before ++ outline :: after) 0 [] [] :=
    ⟨sketches, rfl, rfl, fun _ member => (nomatch member), rfl⟩
  obtain ⟨gathered, gathers, holds⟩ := start.gather_body file sound short few addressable
    (Nat.zero_le _) rfl spells
  rw [List.nil_append, List.nil_append] at holds
  have numbers : (sortByNumber gathered.values.reverse).map PendingValue.number =
      List.range' outline.inputs.length (outline.values.length - outline.inputs.length) := by
    have permuted : ((sortByNumber gathered.values.reverse).map PendingValue.number).Perm
        (List.range' outline.inputs.length (outline.values.length - outline.inputs.length)) := by
      refine ((perm_sortByNumber _).map _).trans ?_
      rw [holds.numbers]
      exact sound.perm_memberList
    have sorted : ((sortByNumber gathered.values.reverse).map PendingValue.number).Pairwise
        (· ≤ ·) :=
      List.pairwise_map.mpr (pairwise_sortByNumber _)
    exact permuted.eq_of_pairwise (fun _ _ _ _ => Nat.le_antisymm) sorted List.pairwise_le_range'
  have denotes : ∀ value ∈ sortByNumber gathered.values.reverse,
      value.Denotes (before ++ outline :: after) outline gathered.context.types := by
    intro value member
    exact holds.denotes value
      (List.mem_reverse.mp ((perm_sortByNumber _).mem_iff.mp member))
  obtain ⟨middle, values, sketches⟩ := replayValues_denotes file sound heads normal addressable
    numbers denotes holds.sketches
  rw [Nat.add_sub_of_le sound.length_le] at sketches
  obtain ⟨context', terminators, done⟩ :=
    replayTerminators_content file sound rfl (Nat.zero_le _) holds.ends sketches
  refine ⟨context', ?_, done⟩
  rw [readBody, function, gathers, ok_bind, values, ok_bind, terminators]

/-- A declaration that belongs to an outline with the given number. -/
def Declaration.Belongs (outlines : List Outline) (numbered : Outline × Nat)
    (declaration : Declaration) : Prop :=
  declaration.function = numbered.2 ∧
    declaration.body.map Line.phrase = numbered.1.bodyPhrases outlines

/-- The bodies of the functions that are left are read. -/
theorem readBodies_phrases (file : Bytes) {outlines : List Outline}
    (split : outlines = before ++ after)
    (sound : ∀ outline ∈ outlines, outline.Sound outlines)
    (normal : ∀ outline ∈ outlines, Text.normalize outline.name = outline.name)
    (addressable : ∀ outline ∈ outlines, outline.Addressable)
    (short : ∀ outline ∈ outlines,
      outline.values.length ≤ 0x80000000 ∧ outline.ends.length ≤ 0x80000000)
    {declarations : List Declaration}
    (belong : List.Forall₂ (Declaration.Belongs outlines) (after.zipIdx before.length) declarations)
    (sketches : context.Sketches (before ++ after.map Outline.declared)) :
    ∃ context', (readBodies file context declarations).outcome = .ok context' ∧
      context'.Sketches outlines := by
  induction after generalizing context before declarations with
  | nil =>
    subst split
    cases belong
    exact ⟨context, rfl, sketches⟩
  | cons outline after ih =>
    cases belong with
    | @cons _ declaration _ declarations first others =>
      have member : outline ∈ outlines := by simp [split]
      have spells := first.2
      rw [split] at spells
      obtain ⟨middle, read, sketches'⟩ := readBody_phrases file (split ▸ sound outline member)
        (Outline.map_head_declared after) (split ▸ normal) (addressable outline member)
        (short outline member).1 (short outline member).2 first.1 spells sketches
      have split' : outlines = (before ++ [outline]) ++ after := by simp [split]
      obtain ⟨context', rest, done⟩ := ih split' (by simpa using others) (by simpa using sketches')
      refine ⟨context', ?_, done⟩
      rw [readBodies, read]
      exact rest

/-! ## Declaring -/

theorem internAll_spec {outlines : List Outline} {types : List Descriptor}
    (valid : ∀ type ∈ types, type.Valid) (sketches : context.Sketches outlines) :
    { context with types := (internAll context.types types).1 }.Sketches outlines ∧
      context.types.Extends (internAll context.types types).1 ∧
      (internAll context.types types).2.map (internAll context.types types).1.lookup? =
        types.map some := by
  induction types generalizing context with
  | nil => exact ⟨sketches, .refl _, rfl⟩
  | cons type rest ih =>
    have typeValid := valid type List.mem_cons_self
    obtain ⟨done, extended, described⟩ :=
      ih (fun other member => valid other (List.mem_cons_of_mem _ member))
        (sketches.insert typeValid)
    have first := extended _ _ (sketches.formed.types.lookup?_insert typeValid)
    refine ⟨done, (context.types.extends_insert type).trans extended, ?_⟩
    rw [internAll, List.map_cons, List.map_cons, first, described]

/-- The types of a header are known once they are interned. -/
theorem internSignature_spec {outlines : List Outline} {inputs : List Descriptor}
    {output : Descriptor} (inputsValid : ∀ type ∈ inputs, type.Valid) (outputValid : output.Valid)
    (sketches : context.Sketches outlines) :
    { context with
      types := ((internAll context.types inputs).1.insert output).1 }.Sketches outlines ∧
      (internAll context.types inputs).2.map
        ((internAll context.types inputs).1.insert output).1.lookup? = inputs.map some ∧
      ((internAll context.types inputs).1.insert output).1.lookup?
        ((internAll context.types inputs).1.insert output).2 = some output := by
  obtain ⟨interned, -, described⟩ := internAll_spec inputsValid sketches
  have extended := (internAll context.types inputs).1.extends_insert output
  refine ⟨interned.insert outputValid, ?_, interned.formed.types.lookup?_insert outputValid⟩
  rw [← described]
  apply List.map_congr_left
  intro id member
  have known : (internAll context.types inputs).1.lookup? id ∈ inputs.map some := by
    rw [← described]
    exact List.mem_map_of_mem member
  obtain ⟨type, -, found⟩ := List.mem_map.mp known
  rw [← found, extended id type found.symm]

/-- A function is declared under the normal form of its name. -/
theorem exists_declareHeader {raw name : Bytes} {inputs : List Descriptor} {output : Descriptor}
    (normal : Text.normalize (Text.normalize raw) = name)
    (inputsValid : ∀ type ∈ inputs, type.Valid) (outputValid : output.Valid)
    (spelled : FunctionName.check name = .ok ()) (fresh : ∀ other ∈ before, other.name ≠ name)
    (sketches : context.Sketches before) (column : Nat) :
    ∃ context', declareHeader context ⟨raw, column, inputs, output⟩ =
        .ok (context', before.length) ∧
      context'.Sketches (before ++ [{
        name
        inputs := inputs.map some
        output := some output
        ends := []
        values := (inputs.map some).zipIdx.map fun (type, index) => (type, .parameter index) }]) := by
  obtain ⟨interned, inputsTyped, outputTyped⟩ :=
    internSignature_spec inputsValid outputValid sketches
  have known : (⟨(internAll context.types inputs).2,
      ((internAll context.types inputs).1.insert output).2⟩ : Signature).Known
        ((internAll context.types inputs).1.insert output).1 := by
    constructor
    · intro id member
      have inside : ((internAll context.types inputs).1.insert output).1.lookup? id ∈
          inputs.map some := by
        rw [← inputsTyped]
        exact List.mem_map_of_mem member
      obtain ⟨type, -, found⟩ := List.mem_map.mp inside
      rw [← found]
      rfl
    · rw [outputTyped]
      rfl
  obtain ⟨context', added, -, done⟩ := interned.addFunction normal spelled fresh known
  refine ⟨context', declareHeader_eq_ok_iff.mpr added, ?_⟩
  rw [Context.outline_declare, inputsTyped, outputTyped] at done
  exact done

/-- The next function is declared. -/
theorem declareHeader_spec {outlines : List Outline} (sound : outline.Sound outlines)
    (normal : Text.normalize outline.name = outline.name) {inputs : List Descriptor}
    {output : Descriptor} (inputsEq : outline.inputs = inputs.map some)
    (outputEq : outline.output = some output)
    (fresh : ∀ other ∈ before, other.name ≠ outline.name) (sketches : context.Sketches before)
    (column : Nat) :
    ∃ context', declareHeader context ⟨outline.name, column, inputs, output⟩ =
        .ok (context', before.length) ∧
      context'.Sketches (before ++ [outline.declared]) := by
  have inputsValid : ∀ type ∈ inputs, type.Valid := by
    intro type member
    obtain ⟨_, same, valid⟩ :=
      sound.inputs (some type) (inputsEq ▸ List.mem_map_of_mem member)
    cases same
    exact valid
  obtain ⟨_, same, outputValid⟩ := sound.output
  cases outputEq.symm.trans same
  rw [sound.declared_eq, inputsEq, outputEq]
  exact exists_declareHeader (by rw [normal, normal]) inputsValid outputValid sound.spelled fresh
    sketches column

/-- A phrase that neither is empty nor ends a body. -/
def Inner (phrase : Phrase) : Prop :=
  ∃ kind text tail, phrase = (kind, text) :: tail ∧ kind ≠ .endOfLine ∧
    kind ≠ .mark .rightBrace

theorem inner_bodyPhrases {outlines : List Outline} {phrase : Phrase}
    (member : phrase ∈ outline.bodyPhrases outlines) : Inner phrase := by
  obtain ⟨⟨terminator, block⟩, -, member⟩ := List.mem_flatMap.mp member
  rcases List.mem_cons.mp member with rfl | member
  · exact ⟨_, _, _, rfl, by decide, by decide⟩
  · rcases List.mem_append.mp member with value | ending
    · obtain ⟨id, inside, rfl⟩ := List.mem_map.mp value
      obtain ⟨described, computed, held⟩ := Outline.mem_members_iff.mp inside
      rw [Outline.valuePhrase, held]
      exact ⟨_, _, _, rfl, by decide, by decide⟩
    · obtain ⟨last, -, rfl⟩ := Option.map_eq_some_iff.mp (Option.mem_toList.mp ending)
      rcases last with target | value
      · exact ⟨_, _, _, rfl, by decide, by decide⟩
      · exact ⟨_, _, _, rfl, by decide, by decide⟩

variable {line : Line}

theorem declare_blank (file : Bytes) (last : Line) (current : Option Declaration)
    (blank : line.phrase = [Phrase.stop]) (rest : List Line) :
    declare file last context current (line :: rest) = declare file line context current rest := by
  obtain ⟨column, tail, tokens, -⟩ := Grammar.exists_of_map_cons blank
  simp only [declare, Grammar.peek, tokens, List.headD_cons, if_true]

/-- The lines of a body are put aside. -/
theorem declare_inner (file : Bytes) (last : Line) (context : Context)
    (declaration : Declaration) {lines : List Line}
    (inner : ∀ line ∈ lines, Inner line.phrase) (rest : List Line) :
    ∃ last', declare file last context (some declaration) (lines ++ rest) =
      declare file last' context
        (some { declaration with body := lines.reverse ++ declaration.body }) rest := by
  induction lines generalizing last declaration with
  | nil => exact ⟨last, rfl⟩
  | cons line lines ih =>
    obtain ⟨kind, text, tail, phrase, notEnd, notBrace⟩ := inner line List.mem_cons_self
    obtain ⟨column, behind, tokens, -⟩ := Grammar.exists_of_map_cons phrase
    obtain ⟨last', others⟩ := ih line { declaration with body := line :: declaration.body }
      fun other member => inner other (List.mem_cons_of_mem _ member)
    refine ⟨last', ?_⟩
    rw [List.reverse_cons, List.append_assoc, List.singleton_append, ← others]
    simp only [List.cons_append, declare, Grammar.peek, tokens, List.headD_cons, notEnd, notBrace,
      if_false]

/-- The lines of a function declare it. -/
theorem declare_function (file : Bytes) (last : Line) {outlines : List Outline}
    (sound : outline.Sound outlines) (normal : Text.normalize outline.name = outline.name)
    (fresh : ∀ other ∈ before, other.name ≠ outline.name) (sketches : context.Sketches before)
    {lines : List Line} (spells : lines.map Line.phrase = outline.phrases outlines)
    (rest : List Line) :
    ∃ last' context' declaration,
      declare file last context none (lines ++ rest) =
        (do
          let (context, declarations) ← declare file last' context' none rest
          pure (context, declaration :: declarations)) ∧
      declaration.Belongs outlines (outline, before.length) ∧
      context'.Sketches (before ++ [outline.declared]) := by
  obtain ⟨header, behind, rfl, headerSpells, spells⟩ := List.map_eq_cons_iff.mp spells
  obtain ⟨body, closing, rfl, bodySpells, closingSpells⟩ := List.map_eq_append_iff.mp spells
  obtain ⟨ending, none, rfl, endingSpells, noneSpells⟩ := List.map_eq_cons_iff.mp closingSpells
  obtain rfl := List.map_eq_nil_iff.mp noneSpells
  obtain ⟨inputs, inputsEq, inputsValid⟩ := sound.exists_inputs
  obtain ⟨output, outputEq, outputValid⟩ := sound.output
  rw [Phrase.header, inputsEq, outputEq, List.map_map] at headerSpells
  obtain ⟨column, afterDefine, headerTokens, headerSpells⟩ :=
    Grammar.exists_of_map_cons headerSpells
  obtain ⟨nameColumn, headerRead⟩ := Grammar.readHeader_header (stopOf header) inputsValid
    outputValid headerSpells
  obtain ⟨context', declared, done⟩ :=
    declareHeader_spec sound normal inputsEq outputEq fresh sketches nameColumn
  obtain ⟨last', aside⟩ := declare_inner file header context' ⟨before.length, outline.name, []⟩
    (fun line member => inner_bodyPhrases (bodySpells ▸ List.mem_map_of_mem member))
    (ending :: rest)
  obtain ⟨braceColumn, afterBrace, endingTokens, stop⟩ := Grammar.exists_of_map_cons endingSpells
  obtain ⟨stopColumn, _, rfl, -⟩ := Grammar.exists_of_map_cons stop
  refine ⟨ending, context', ⟨before.length, outline.name, body⟩, ?_, ⟨rfl, bodySpells⟩, done⟩
  have keyword : (⟨.word, utf8 "define", column⟩ : Token).isWord "define" = true :=
    Grammar.isWord_iff.mpr ⟨rfl, rfl⟩
  have begun : declare file last context none (header :: (body ++ [ending]) ++ rest) =
      declare file header context' (some ⟨before.length, outline.name, []⟩)
        (body ++ ending :: rest) := by
    rw [List.cons_append, List.append_assoc, declare]
    simp only [Grammar.peek, headerTokens, List.headD_cons, List.tail_cons, reduceCtorEq, if_false,
      keyword, if_true, headerRead, declared, normal]
    rfl
  rw [begun, aside, List.append_nil, declare]
  simp only [Grammar.peek, endingTokens, List.headD_cons, List.tail_cons, reduceCtorEq, if_false,
    if_true, List.reverse_reverse]

/-- The functions that are left are declared. -/
theorem declare_phrases (file : Bytes) (last : Line) {outlines : List Outline}
    (sound : ∀ outline ∈ after, outline.Sound outlines)
    (normal : ∀ outline ∈ after, Text.normalize outline.name = outline.name)
    (distinct : ((before ++ after).map Outline.name).Nodup)
    (sketches : context.Sketches (before.map Outline.declared)) {lines : List Line}
    (spells : lines.map Line.phrase =
      Phrase.separate (after.map (Outline.phrases outlines)) ++ [[Phrase.stop]]) :
    ∃ context' declarations, declare file last context none lines = .ok (context', declarations) ∧
      List.Forall₂ (Declaration.Belongs outlines) (after.zipIdx before.length) declarations ∧
      context'.Sketches ((before ++ after).map Outline.declared) := by
  induction after generalizing context before lines last with
  | nil =>
    obtain ⟨blank, none, rfl, blankSpells, noneSpells⟩ := List.map_eq_cons_iff.mp spells
    obtain rfl := List.map_eq_nil_iff.mp noneSpells
    refine ⟨context, [], ?_, .nil, by simpa using sketches⟩
    rw [declare_blank file last none blankSpells]
    rfl
  | cons outline after ih =>
    have fresh : ∀ other ∈ before.map Outline.declared, other.name ≠ outline.name := by
      intro other member same
      obtain ⟨original, inside, rfl⟩ := List.mem_map.mp member
      rw [List.map_append, List.map_cons] at distinct
      exact (List.nodup_append.mp distinct).2.2 _ (List.mem_map_of_mem inside) _
        List.mem_cons_self same
    -- Between two functions there is an empty line, which declares nothing.
    obtain ⟨first, others, rest, rfl, firstSpells, skip, restSpells⟩ :
        ∃ first others rest, lines = first ++ others ∧
          first.map Line.phrase = outline.phrases outlines ∧
          (∀ last context, ∃ last', declare file last context none others =
            declare file last' context none rest) ∧
          rest.map Line.phrase =
            Phrase.separate (after.map (Outline.phrases outlines)) ++ [[Phrase.stop]] := by
      cases after with
      | nil =>
        obtain ⟨first, others, rfl, firstSpells, othersSpell⟩ := List.map_eq_append_iff.mp spells
        exact ⟨first, others, others, rfl, firstSpells, fun last _ => ⟨last, rfl⟩, othersSpell⟩
      | cons next after =>
        rw [List.map_cons, List.map_cons, Phrase.separate, List.append_assoc] at spells
        obtain ⟨first, others, rfl, firstSpells, othersSpell⟩ := List.map_eq_append_iff.mp spells
        obtain ⟨blank, rest, rfl, blankSpells, restSpells⟩ := List.map_eq_cons_iff.mp othersSpell
        exact ⟨first, blank :: rest, rest, rfl, firstSpells,
          fun last _ => ⟨blank, declare_blank file last none blankSpells rest⟩, restSpells⟩
    obtain ⟨last', middle, declaration, begins, belongs, sketches'⟩ := declare_function file last
      (sound outline List.mem_cons_self) (normal outline List.mem_cons_self) fresh sketches
      firstSpells others
    obtain ⟨last'', skipped⟩ := skip last' middle
    have distinct' : (((before ++ [outline]) ++ after).map Outline.name).Nodup := by
      simpa using distinct
    obtain ⟨context', declarations, declares, belong, done⟩ := ih last''
      (fun other member => sound other (List.mem_cons_of_mem _ member))
      (fun other member => normal other (List.mem_cons_of_mem _ member)) distinct'
      (by simpa using sketches') restSpells
    rw [List.length_map] at belongs
    refine ⟨context', declaration :: declarations, ?_, ?_, by simpa using done⟩
    · rw [begins, skipped, declares]
      rfl
    · rw [List.zipIdx_cons]
      exact .cons belongs (by simpa using belong)

end Reader

/-- Reading the text of a context builds its outlines again. -/
theorem Context.WellFormed.parse_dump {context : Context} (formed : context.WellFormed)
    (alive : context.phase ≠ .destroyed)
    (normal : ∀ outline ∈ context.outlines, Text.normalize outline.name = outline.name)
    (addressable : ∀ outline ∈ context.outlines, outline.Addressable)
    (short : ∀ outline ∈ context.outlines,
      outline.values.length ≤ 0x80000000 ∧ outline.ends.length ≤ 0x80000000)
    (file : Bytes) (optimize : Bool) :
    ∃ text parsed, context.dump = .ok text ∧ Context.parse file text optimize = .ok parsed ∧
      parsed.optimize = optimize ∧ parsed.Sketches context.outlines := by
  have sound : ∀ outline ∈ context.outlines, outline.Sound context.outlines :=
    fun outline member => formed.sound member
  obtain ⟨text, dumped, spells⟩ := formed.dump_phrases alive
  have start : (Context.new optimize).Sketches (([] : List Outline).map Outline.declared) :=
    .new optimize
  obtain ⟨middle, declarations, declares, belong, sketches⟩ := Reader.declare_phrases file ⟨1, []⟩
    sound normal formed.nodup_names start spells
  have split : context.outlines = [] ++ context.outlines := rfl
  obtain ⟨parsed, bodies, done⟩ := Reader.readBodies_phrases file split sound normal addressable
    short belong sketches
  have whole : Context.parse file text optimize = .ok parsed := by
    simp only [Context.parse, Reader.read, declares]
    exact bodies
  exact ⟨text, parsed, dumped, whole, (Context.builds_of_parse whole).optimize_eq, done⟩

end Blockwork
