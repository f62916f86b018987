import Blockwork.Proofs.Acceptance
import Blockwork.Proofs.Rewording

/-!
# Printing what was read

A text that is read and printed again says the same: every line of it is told again, none is
missing and none is added. Reading builds for every definition the function whose value lines and
terminators are those of the definition, and printing goes through its blocks one by one. Within a
block the values come in the order of their numbers, whatever the order in which they were written;
that is the only thing that may move a line.
-/

namespace Blockwork

open SourceLanguage

namespace SourceLanguage

/-! ## Blocks of a body -/

theorem mem_located_iff {passages : List Passage} {item : BlockId × ValueLine} :
    item ∈ located passages ↔
      ∃ passage, passages[item.1]? = some passage ∧ item.2 ∈ passage.entries := by
  constructor
  · intro member
    obtain ⟨⟨passage, block⟩, listed, inside⟩ := List.mem_flatMap.mp member
    obtain ⟨entry, held, rfl⟩ := List.mem_map.mp inside
    exact ⟨passage, List.mk_mem_zipIdx_iff_getElem?.mp listed, held⟩
  · rintro ⟨passage, found, held⟩
    refine List.mem_flatMap.mpr ⟨(passage, item.1), List.mk_mem_zipIdx_iff_getElem?.mpr found, ?_⟩
    exact List.mem_map.mpr ⟨item.2, held, rfl⟩

/-- The lines of a block with the given number: its label, its value lines, and its terminator line
if it has one. -/
def IsBlock (lines : List (List Lexeme)) (item : Passage × BlockId) : Prop :=
  ∃ label values endings, IsLabel label item.2 ∧
    List.Forall₂ IsValueLine values item.1.entries ∧
    List.Forall₂ IsEnding endings item.1.ending.toList ∧ lines = label :: (values ++ endings)

theorem IsBlock.entry {lines : List (List Lexeme)} {entries : List ValueLine} {number : BlockId}
    (block : IsBlock lines (⟨entries, none⟩, number)) {line : List Lexeme} {entry : ValueLine}
    (value : IsValueLine line entry) :
    IsBlock (lines ++ [line]) (⟨entries ++ [entry], none⟩, number) := by
  obtain ⟨label, values, _, labelled, each, ⟨⟩, rfl⟩ := block
  exact ⟨label, values ++ [line], [], labelled, List.rel_append each (.cons value .nil), .nil,
    by simp⟩

theorem IsBlock.ending {lines : List (List Lexeme)} {entries : List ValueLine} {number : BlockId}
    (block : IsBlock lines (⟨entries, none⟩, number)) {line : List Lexeme}
    {terminator : Terminator} (ending : IsEnding line terminator) :
    IsBlock (lines ++ [line]) (⟨entries, some terminator⟩, number) := by
  obtain ⟨label, values, _, labelled, each, ⟨⟩, rfl⟩ := block
  exact ⟨label, values, [line], labelled, each, .cons ending .nil, by simp⟩

/-- A line that goes to the last block changes no other. -/
theorem exists_extended {groups : List (List (List Lexeme))} {passages : List Passage}
    {passage passage' : Passage} {line : List Lexeme}
    (grows : ∀ group, IsBlock group (passage, passages.length) →
      IsBlock (group ++ [line]) (passage', passages.length))
    (blocks : List.Forall₂ IsBlock groups (passages ++ [passage]).zipIdx) :
    ∃ groups', groups'.flatten = groups.flatten ++ [line] ∧
      List.Forall₂ IsBlock groups' (passages ++ [passage']).zipIdx := by
  rw [List.zipIdx_append] at blocks ⊢
  have early := List.forall₂_take_append _ _ _ blocks
  have last := List.forall₂_drop_append _ _ _ blocks
  rw [← List.take_append_drop passages.zipIdx.length groups]
  generalize groups.take passages.zipIdx.length = front at early ⊢
  generalize groups.drop passages.zipIdx.length = back at last ⊢
  cases last with
  | @cons group _ _ _ block nothing =>
    cases nothing
    refine ⟨front ++ [group ++ [line]], by simp, List.rel_append early (.cons ?_ .nil)⟩
    simpa using grows group (by simpa using block)

/-- The lines of a body are those of its blocks. -/
theorem IsBody.exists_blocks {lines : List (List Lexeme)} {passages : List Passage}
    (body : IsBody lines passages) :
    ∃ groups, groups.flatten = lines ∧ List.Forall₂ IsBlock groups passages.zipIdx := by
  induction body with
  | empty => exact ⟨[], rfl, .nil⟩
  | @line lines passages _ line body next ih =>
    obtain ⟨groups, rfl, blocks⟩ := ih
    cases next with
    | label label =>
      refine ⟨groups ++ [[line]], by simp, ?_⟩
      rw [List.zipIdx_append]
      exact List.rel_append blocks
        (.cons ⟨line, [], [], by simpa using label, .nil, .nil, rfl⟩ .nil)
    | entry value => exact exists_extended (fun _ block => block.entry value) blocks
    | ending ending => exact exists_extended (fun _ block => block.ending ending) blocks

/-! ## What has been built -/

/-- A value that is printed as its value line is told again. -/
def Printed (outlines : List Outline) (item : BlockId × ValueLine)
    (value : Option Descriptor × Origin) : Prop :=
  ∃ instruction, value = (some item.2.type, .instruction item.1 instruction) ∧
    ∀ title line, IsValueLine line item.2 → retold title line =
      (Phrase.value outlines item.2.number (some item.2.type) instruction).lexemes

theorem Printed.congr {outlines outlines' : List Outline}
    (heads : outlines'.map Outline.head = outlines.map Outline.head) {item : BlockId × ValueLine}
    {value : Option Descriptor × Origin} (printed : Printed outlines item value) :
    Printed outlines' item value := by
  obtain ⟨instruction, rfl, tells⟩ := printed
  refine ⟨instruction, rfl, fun title line written => ?_⟩
  rw [tells title line written]
  cases instruction <;> simp [Phrase.value, Phrase.instruction, Snapshot.nameIn_congr heads]

/-- A function that is printed as its definition is told again, block by block. -/
structure Prints (title : Bytes → Bytes) (outlines : List Outline) (definition : Definition)
    (outline : Outline) : Prop where
  /-- The heading is that of the definition. -/
  head : outline.head = definition.toHeading.head title
  /-- The blocks end as they are written. -/
  ends : outline.ends = definition.passages.map Passage.ending
  /-- There are no more values than parameters and value lines. -/
  length : outline.values.length = definition.inputs.length + definition.entries.length
  /-- The value lines are numbered one by one. -/
  numbered : definition.Numbered
  /-- The value of each value line has its number. -/
  values : ∀ item ∈ located definition.passages, ∃ value,
    outline.values[item.2.number]? = some value ∧ Printed outlines item value

theorem Prints.congr {title : Bytes → Bytes} {outlines outlines' : List Outline}
    {definition : Definition} {outline : Outline}
    (heads : outlines'.map Outline.head = outlines.map Outline.head)
    (prints : Prints title outlines definition outline) :
    Prints title outlines' definition outline := by
  refine { prints with values := fun item member => ?_ }
  obtain ⟨value, held, printed⟩ := prints.values item member
  exact ⟨value, held, printed.congr heads⟩

/-- Blocks with some of their ends set. -/
def settle (ends : List (Option Terminator)) (items : List (BlockId × Terminator)) :
    List (Option Terminator) :=
  items.foldl (fun ends item => ends.set item.1 (some item.2)) ends

theorem settle_concat {ends : List (Option Terminator)} {items : List (BlockId × Terminator)}
    (inside : ∀ item ∈ items, item.1 < ends.length) (last : Option Terminator) :
    settle (ends ++ [last]) items = settle ends items ++ [last] := by
  induction items generalizing ends with
  | nil => rfl
  | cons item items ih =>
    have first : (ends ++ [last]).set item.1 (some item.2) =
        ends.set item.1 (some item.2) ++ [last] :=
      List.set_append_left _ _ (inside item List.mem_cons_self)
    calc settle (ends ++ [last]) (item :: items)
        = settle (ends.set item.1 (some item.2) ++ [last]) items := by rw [← first]; rfl
      _ = settle ends (item :: items) ++ [last] := ih fun other member => by
          rw [List.length_set]
          exact inside other (List.mem_cons_of_mem _ member)

/-- Setting every end that is written gives the ends that are written. -/
theorem settle_endings (passages : List Passage) :
    settle (List.replicate passages.length none) (endings passages) =
      passages.map Passage.ending := by
  induction passages using List.reverseRecOn with
  | nil => rfl
  | append_singleton passages passage ih =>
    have inside : ∀ item ∈ endings passages,
        item.1 < (List.replicate passages.length (none : Option Terminator)).length := by
      intro item member
      obtain ⟨_, found, -⟩ := mem_endings_iff.mp member
      rw [List.length_replicate]
      exact (List.getElem?_eq_some_iff.mp found).choose
    have early := settle_concat inside none
    rw [ih] at early
    rw [endings_concat, List.length_append, List.length_singleton, List.replicate_succ', settle,
      List.foldl_append]
    change settle (settle _ _) _ = _
    rw [early, List.map_append]
    cases ended : passage.ending with
    | none => simp [settle, ended]
    | some terminator => simp [settle, ended]

end SourceLanguage

namespace Reader

variable {file : Bytes} {context context' : Context} {before after : List Outline}
  {outline : Outline}

/-- The values that are built are printed as their lines are told again. -/
theorem exists_of_replayValues {values : List PendingValue} {items : List (BlockId × ValueLine)}
    (sketches : context.Sketches (before ++ outline :: after))
    (stand : List.Forall₂ (PendingValue.Stands context.types) values items)
    (opened : ∀ item ∈ items, outline.ends[item.1]? = some none)
    (replayed : replayValues file before.length context values = .ok context') :
    ∃ added, context'.Sketches
        (before ++ { outline with values := outline.values ++ added } :: after) ∧
      List.Forall₂ (Printed (before ++ outline :: after)) items added := by
  induction values generalizing context outline items with
  | nil =>
    cases stand
    cases replayed
    exact ⟨[], by simpa using sketches, .nil⟩
  | cons value values ih =>
    cases stand with
    | @cons _ item _ items stands stand =>
      rw [replayValues] at replayed
      split at replayed
      · rename_i middle first
        obtain ⟨number, instruction, tells, suits⟩ := suits_of_replayValue sketches stands first
        obtain ⟨_, again, types, sketches'⟩ := exists_replayValue file sketches stands
          (opened item List.mem_cons_self) number tells suits
        cases first.symm.trans again
        rw [← types] at stand
        obtain ⟨added, done, others⟩ := ih sketches' stand
          (fun other member => opened other (List.mem_cons_of_mem _ member)) replayed
        refine ⟨_ :: added, by simpa using done, .cons ⟨instruction, rfl, ?_⟩ ?_⟩
        · exact fun title line written => retold_value written tells fun name callee found =>
            Snapshot.nameIn_of_functionNamed? sketches found
        · exact others.imp fun _ _ printed => printed.congr (by simp [Outline.head])
      · cases replayed

/-- The blocks are ended by their terminators. -/
theorem sketches_of_replayTerminators {pending : List PendingTerminator}
    {items : List (BlockId × Terminator)}
    (content : pending.map PendingTerminator.content = items)
    (distinct : (items.map Prod.fst).Nodup)
    (sketches : context.Sketches (before ++ outline :: after))
    (opened : ∀ item ∈ items, outline.ends[item.1]? = some none)
    (replayed : replayTerminators file before.length context pending = .ok context') :
    context'.Sketches (before ++ { outline with ends := settle outline.ends items } :: after) := by
  induction pending generalizing context outline items with
  | nil =>
    subst content
    cases replayed
    exact sketches
  | cons next rest ih =>
    subst content
    rw [replayTerminators] at replayed
    split at replayed
    · rename_i middle first
      have suits := suits_of_replayTerminator rfl sketches first
      obtain ⟨_, again, sketches'⟩ :=
        exists_replayTerminator rfl sketches (opened _ List.mem_cons_self) suits
      cases first.symm.trans again
      have done := ih rfl (List.nodup_cons.mp distinct).2 sketches' (open_of_set distinct opened)
        replayed
      exact done
    · cases replayed

variable {title : Bytes → Bytes} {headings : List Heading}

theorem exists_getElem?_of_forall₂ {α β : Type} {related : α → β → Prop} {ones : List α}
    {twos : List β} (all : List.Forall₂ related ones twos) {index : Nat} {one : α}
    (held : ones[index]? = some one) : ∃ two, twos[index]? = some two ∧ related one two := by
  induction all generalizing index with
  | nil => cases held
  | cons head _ ih =>
    cases index with
    | zero =>
      cases held
      exact ⟨_, rfl, head⟩
    | succ index => exact ih held

/-- A body that is read is that of a function which is printed as the definition is told again. -/
theorem prints_of_readBody {heading : Heading} {declaration : Declaration}
    (surrounds : before.map Outline.head ++ heading.head title :: after.map Outline.head =
      headings.map (Heading.head title))
    (function : declaration.function = before.length)
    (sketches : context.Sketches (before ++ heading.declared title :: after))
    (read : readBody file context declaration = .ok context') :
    ∃ definition outline, Fills (heading, declaration.body) definition ∧
      context'.Sketches (before ++ outline :: after) ∧
      Prints title (before ++ heading.declared title :: after) definition outline := by
  obtain ⟨gathered, gathers, read⟩ := bind_eq_ok_iff.mp read
  obtain ⟨middle, values, terminators⟩ := bind_eq_ok_iff.mp read
  rw [function] at gathers values terminators
  have start : ({ context } : Gathered).Collects before (heading.declared title) after [] :=
    .empty sketches
  obtain ⟨passages, body, collects⟩ := start.isBody_of_gather .empty gathers
  have surrounds : Surrounds title headings { heading with passages } before after := surrounds
  have numbered := (collects.valid_of_replay surrounds values terminators).numbered
  obtain ⟨items, stand, perm, sorted⟩ := collects.exists_items
  have inside : ∀ item ∈ items,
      (List.replicate passages.length none)[item.1]? = some none :=
    fun item member => open_replicate (lt_of_mem_located (perm.mem_iff.mp member))
  obtain ⟨added, sketches', printed⟩ :=
    exists_of_replayValues collects.sketches stand inside values
  have numbers := numbers_of_replayValues collects.sketches stand inside values
  have done := sketches_of_replayTerminators collects.ends (nodup_map_fst_endings _) sketches'
    (fun item member => by
      obtain ⟨_, found, -⟩ := mem_endings_iff.mp member
      exact open_replicate (List.getElem?_eq_some_iff.mp found).choose) terminators
  have parameters : (heading.declared title).values.length = heading.inputs.length := by
    simp [Heading.declared]
  refine ⟨{ heading with passages }, _, ⟨rfl, body⟩, done, ?_⟩
  constructor
  case head => rfl
  case ends => exact settle_endings passages
  case length =>
    have count : items.length = ({ heading with passages } : Definition).entries.length :=
      Definition.length_eq_of_perm perm
    simp only [List.length_append, parameters, ← printed.length_eq, count]
  case numbered => exact numbered
  case values =>
    intro item member
    obtain ⟨index, held⟩ := List.mem_iff_getElem?.mp (perm.mem_iff.mpr member)
    obtain ⟨value, valueHeld, prints⟩ := exists_getElem?_of_forall₂ printed held
    have number : item.2.number = heading.inputs.length + index := by
      obtain ⟨bound, here⟩ := List.getElem?_eq_some_iff.mp held
      have same := congrArg (fun list => list[index]?) numbers
      simpa [parameters, List.getElem?_range', bound, here] using same
    refine ⟨value, ?_, prints.congr (by simp [Outline.head])⟩
    rw [number, ← parameters, List.getElem?_append_right (Nat.le_add_right _ _),
      Nat.add_sub_cancel_left, valueHeld]

/-- Bodies that are read are those of functions which are printed as the definitions are told
again. -/
theorem prints_of_readBodies {parts : List (Heading × List Line)} {outlines : List Outline}
    (heads : (before ++ outlinesOf parts).map Outline.head = outlines.map Outline.head)
    (headed : outlines.map Outline.head = headings.map (Heading.head Reader.title))
    (sketches : context.Sketches (before ++ outlinesOf parts))
    (read : (readBodies file context (declarations before.length parts)).outcome = .ok context') :
    ∃ program bodies, List.Forall₂ Fills parts program ∧ context'.Sketches (before ++ bodies) ∧
      List.Forall₂ (Prints Reader.title outlines) program bodies := by
  induction parts generalizing context before with
  | nil =>
    cases read
    exact ⟨[], [], .nil, sketches, .nil⟩
  | cons part parts ih =>
    obtain ⟨heading, body⟩ := part
    rw [declarations, readBodies] at read
    split at read
    · cases read
    · rename_i middle first
      have surrounds : before.map Outline.head ++ heading.head Reader.title ::
          (outlinesOf parts).map Outline.head = headings.map (Heading.head Reader.title) := by
        rw [← headed, ← heads, List.map_append]
        rfl
      obtain ⟨definition, outline, fills, sketches', prints⟩ :=
        prints_of_readBody surrounds rfl sketches first
      have split : before ++ outline :: outlinesOf parts =
          (before ++ [outline]) ++ outlinesOf parts := by simp
      have heads' : ((before ++ [outline]) ++ outlinesOf parts).map Outline.head =
          outlines.map Outline.head := by
        rw [← split, List.map_append, List.map_cons, prints.head, fills.heading, headed]
        exact surrounds
      obtain ⟨program, bodies, others, done, othersPrint⟩ := ih heads' (split ▸ sketches') (by
        rw [List.length_append]
        exact read)
      exact ⟨definition :: program, outline :: bodies, .cons fills others, by simpa using done,
        .cons (prints.congr heads.symm) othersPrint⟩

end Reader

/-! ## What is printed -/

namespace SourceLanguage

theorem lineNumber?_value (outlines : List Outline) (id : ValueId) (described : Option Descriptor)
    (instruction : Instruction) :
    lineNumber? (Phrase.value outlines id described instruction).lexemes = some id := by
  simp [Phrase.value, lineNumber?, Numeral.isDigits_decimal, Numeral.value_decimal]

theorem lineNumber?_terminator (terminator : Terminator) :
    lineNumber? (Phrase.terminator terminator).lexemes = none := by
  cases terminator <;> rfl

namespace Prints

variable {title : Bytes → Bytes} {outlines others : List Outline} {definition : Definition}
  {outline : Outline}

/-- A value line is told again as what is printed under its number. -/
theorem retold_eq (prints : Prints title outlines definition outline)
    {item : BlockId × ValueLine} (member : item ∈ located definition.passages)
    {line : List Lexeme} (written : IsValueLine line item.2) :
    retold title line = (outline.valuePhrase outlines item.2.number).lexemes := by
  obtain ⟨_, held, instruction, rfl, tells⟩ := prints.values item member
  rw [Outline.valuePhrase, held]
  exact tells title line written

theorem lineNumber?_valuePhrase (prints : Prints title outlines definition outline)
    {item : BlockId × ValueLine} (member : item ∈ located definition.passages) :
    lineNumber? (outline.valuePhrase outlines item.2.number).lexemes = some item.2.number := by
  obtain ⟨_, held, instruction, rfl, -⟩ := prints.values item member
  rw [Outline.valuePhrase, held]
  exact lineNumber?_value ..

/-- The values of a block are those of its value lines. -/
theorem perm_members (prints : Prints title outlines definition outline)
    (sound : outline.Sound others) {block : BlockId} {passage : Passage}
    (found : definition.passages[block]? = some passage) :
    (outline.members block).Perm (passage.entries.map ValueLine.number) := by
  have distinct : (passage.entries.map ValueLine.number).Nodup := by
    have all : (definition.entries.map ValueLine.number).Nodup :=
      prints.numbered.nodup_iff.mpr List.nodup_range'
    rw [Definition.entries, List.map_flatMap] at all
    exact (List.nodup_flatMap.mp all).1 passage (List.mem_of_getElem? found)
  have inputs : outline.inputs.length = definition.inputs.length := by
    have same : outline.inputs = definition.inputs.map some :=
      congrArg (fun head => head.2.1) prints.head
    rw [same, List.length_map]
  have nodup : (outline.members block).Nodup := List.nodup_range.filter _
  refine (List.perm_ext_iff_of_nodup nodup distinct).mpr fun id => ?_
  rw [Outline.mem_members_iff]
  constructor
  · rintro ⟨described, computed, held⟩
    have late := (sound.instruction_laws held).1
    have bound := (List.getElem?_eq_some_iff.mp held).choose
    rw [prints.length] at bound
    rw [inputs] at late
    -- Behind the parameters, every number is that of a value line.
    have numbered : id ∈ definition.entries.map ValueLine.number :=
      prints.numbered.mem_iff.mpr (List.mem_range'_1.mpr ⟨late, bound⟩)
    obtain ⟨entry, listed, rfl⟩ := List.mem_map.mp numbered
    rw [Definition.entries, ← map_snd_located] at listed
    obtain ⟨item, located, rfl⟩ := List.mem_map.mp listed
    obtain ⟨_, again, _, rfl, -⟩ := prints.values item located
    cases held.symm.trans again
    obtain ⟨_, foundAgain, inside⟩ := mem_located_iff.mp located
    cases found.symm.trans foundAgain
    exact List.mem_map_of_mem inside
  · intro member
    obtain ⟨entry, inside, rfl⟩ := List.mem_map.mp member
    obtain ⟨_, held, instruction, rfl, -⟩ :=
      prints.values (block, entry) (mem_located_iff.mpr ⟨passage, found, inside⟩)
    exact ⟨_, instruction, held⟩

/-- The lines of a block are told again as what is printed of it, its value lines in order. -/
theorem arranged_block (prints : Prints title outlines definition outline)
    (sound : outline.Sound others) {block : BlockId} {passage : Passage}
    (found : definition.passages[block]? = some passage) {lines : List (List Lexeme)}
    (isBlock : IsBlock lines (passage, block)) :
    arranged (lines.map (retold title)) =
      (outline.blockPhrases outlines block passage.ending).map Phrase.lexemes := by
  obtain ⟨label, values, endings, labelled, each, ends, rfl⟩ := isBlock
  have inside : ∀ entry ∈ passage.entries, (block, entry) ∈ located definition.passages :=
    fun entry member => mem_located_iff.mpr ⟨passage, found, member⟩
  have valueLines : values.map (retold title) = (passage.entries.map ValueLine.number).map
      fun id => (outline.valuePhrase outlines id).lexemes := by
    have both := (List.forall₂_and_left passage.entries values).mpr ⟨inside, each.flip⟩
    rw [List.map_map, ← List.forall₂_eq_eq_eq, List.forall₂_map_left_iff,
      List.forall₂_map_right_iff]
    exact both.flip.imp fun _ _ ⟨member, written⟩ => prints.retold_eq member written
  have sorted : (outline.members block).Pairwise (· ≤ ·) := List.pairwise_le_range.filter _
  have inOrder : arranged (values.map (retold title)) =
      (outline.members block).map fun id => (outline.valuePhrase outlines id).lexemes := by
    rw [valueLines]
    refine arranged_map_eq (fun id member => ?_) (prints.perm_members sound found) sorted
    obtain ⟨entry, held, rfl⟩ := List.mem_map.mp member
    exact prints.lineNumber?_valuePhrase (inside entry held)
  have endLines : endings.map (retold title) =
      (passage.ending.map Phrase.terminator).toList.map Phrase.lexemes := by
    have same : endings.map (retold title) =
        passage.ending.toList.map fun terminator => (Phrase.terminator terminator).lexemes := by
      rw [← List.forall₂_eq_eq_eq, List.forall₂_map_left_iff, List.forall₂_map_right_iff]
      exact ends.imp fun _ _ ending => retold_ending ending
    rw [same]
    cases passage.ending <;> rfl
  have starts : ∀ line ∈ ((passage.ending.map Phrase.terminator).toList.map
      Phrase.lexemes).head?, lineNumber? line = none := by
    intro line first
    cases ended : passage.ending with
    | none => simp [ended] at first
    | some terminator =>
      obtain rfl : (Phrase.terminator terminator).lexemes = line := by simpa [ended] using first
      exact lineNumber?_terminator terminator
  have last : arranged ((passage.ending.map Phrase.terminator).toList.map Phrase.lexemes) =
      (passage.ending.map Phrase.terminator).toList.map Phrase.lexemes := by
    cases passage.ending <;> rfl
  have label : retold title label = (Phrase.label block).lexemes := retold_label labelled
  rw [List.map_cons, label, arranged_cons rfl, List.map_append, endLines,
    arranged_append _ starts, inOrder, last, Outline.blockPhrases, List.map_cons, List.map_append,
    List.map_map]
  rfl

/-- Every block begins with a label. -/
theorem starts_of_blocks {groups : List (List (List Lexeme))} {items : List (Passage × BlockId)}
    (blocks : List.Forall₂ IsBlock groups items) (title : Bytes → Bytes) :
    ∀ line ∈ (groups.flatten.map (retold title)).head?, lineNumber? line = none := by
  intro line first
  cases blocks with
  | nil => cases first
  | cons block others =>
    obtain ⟨label, values, endings, ⟨digits, -, rfl⟩, -, -, rfl⟩ := block
    cases first
    exact lineNumber?_retold title _

/-- The lines of a body are told again as what is printed of it. -/
theorem arranged_body (prints : Prints title outlines definition outline)
    (sound : outline.Sound others) {lines : List (List Lexeme)}
    (body : IsBody lines definition.passages) :
    arranged (lines.map (retold title)) =
      (outline.bodyPhrases outlines).map Phrase.lexemes := by
  obtain ⟨groups, rfl, blocks⟩ := body.exists_blocks
  have all {groups : List (List (List Lexeme))} {items : List (Passage × BlockId)}
      (blocks : List.Forall₂ IsBlock groups items)
      (found : ∀ item ∈ items, definition.passages[item.2]? = some item.1) :
      arranged (groups.flatten.map (retold title)) = items.flatMap fun item =>
        (outline.blockPhrases outlines item.2 item.1.ending).map Phrase.lexemes := by
    induction blocks with
    | nil => rfl
    | @cons group item groups items block others ih =>
      have first := prints.arranged_block sound (found item List.mem_cons_self) block
      have rest := ih fun other member => found other (List.mem_cons_of_mem _ member)
      rw [List.flatten_cons, List.map_append, arranged_append _ (starts_of_blocks others title),
        first, rest, List.flatMap_cons]
  have found : ∀ item ∈ definition.passages.zipIdx,
      definition.passages[item.2]? = some item.1 :=
    fun item member => List.mk_mem_zipIdx_iff_getElem?.mp member
  rw [all blocks found, Outline.bodyPhrases, prints.ends, List.zipIdx_map, List.flatMap_map,
    List.map_flatMap]
  rfl

end Prints

/-- The lines of a program are told again as what is printed of its functions. -/
theorem arranged_program {title : Bytes → Bytes} {outlines others bodies : List Outline}
    {lines : List (List Lexeme)} {program : List Definition} (whole : IsProgram lines program)
    (prints : List.Forall₂ (Prints title outlines) program bodies)
    (sound : ∀ outline ∈ bodies, outline.Sound others) :
    arranged (lines.map (retold title)) =
      (bodies.flatMap (Outline.phrases outlines)).map Phrase.lexemes := by
  induction whole generalizing bodies with
  | empty =>
    cases prints
    rfl
  | @define header body rest definition definitions head content _ ih =>
    cases prints with
    | @cons _ outline _ bodies first others =>
      have header : retold title header = (Phrase.header outline).lexemes :=
        retold_header head first.head
      have inner := first.arranged_body (sound outline List.mem_cons_self) content
      have tail := ih others fun other member => sound other (List.mem_cons_of_mem _ member)
      have closing : ∀ line ∈ (Phrase.ending.lexemes :: rest.map (retold title)).head?,
          lineNumber? line = none := by
        intro line first
        cases first
        rfl
      rw [List.map_cons, header, arranged_cons rfl, List.map_append, List.map_cons, retold_closing,
        arranged_append _ closing, arranged_cons rfl, inner, tail]
      simp [Outline.phrases]

end SourceLanguage

/-- Empty lines between functions do not count. -/
theorem Phrase.filter_separate (groups : List (List Phrase)) :
    ((separate groups).map lexemes).filter (· ≠ []) =
      (groups.flatten.map lexemes).filter (· ≠ []) := by
  induction groups with
  | nil => rfl
  | cons group rest ih =>
    cases rest with
    | nil => simp [separate]
    | cons next rest =>
      rw [separate, List.flatten_cons, List.map_append, List.map_append, List.filter_append,
        List.filter_append, ← ih, List.map_cons]
      rfl

/-- The lines of the text of a context that hold anything are those of its functions. -/
theorem Context.WellFormed.sentences_dump {context : Context} (formed : context.WellFormed)
    (alive : context.phase ≠ .destroyed) :
    ∃ text, context.dump = .ok text ∧ sentences text =
      ((context.outlines.flatMap (Outline.phrases context.outlines)).map Phrase.lexemes).filter
        (· ≠ []) := by
  obtain ⟨text, dumped, phrases⟩ := formed.dump_phrases alive
  refine ⟨text, dumped, ?_⟩
  have lines : (Line.split text).map Line.lexemes =
      ((Line.split text).map Line.phrase).map Phrase.lexemes := by
    rw [List.map_map]
    exact List.map_congr_left fun line _ => line.lexemes_phrase.symm
  rw [sentences, lines, phrases, List.map_append, List.filter_append, Phrase.filter_separate,
    List.flatMap_def]
  simp

/-- What was read is printed as the lines of the text are told again, in order. -/
theorem Context.sentences_dump_of_parse {file source : Bytes} {optimize : Bool} {context : Context}
    (parsed : Context.parse file source optimize = .ok context) :
    ∃ text, context.dump = .ok text ∧
      sentences text = arranged ((sentences source).map (retold Reader.title)) := by
  obtain ⟨middle, found, declared, read⟩ := Context.parse_eq_ok_iff.mp parsed
  obtain ⟨parts, divided, rfl, sketches⟩ := Reader.parts_of_declare
    (Reader.written_of_filter source) (.new optimize) ((Reader.declare_filter_iff ..).mpr declared)
  obtain ⟨program, bodies, fills, done, prints⟩ := Reader.prints_of_readBodies rfl
    (Reader.map_head_outlinesOf parts) sketches read
  rw [List.nil_append] at done
  have whole : IsProgram (sentences source) program :=
    Reader.map_lexemes_filter source ▸ divided.isProgram fills
  have heads : bodies.map Outline.head = (Reader.outlinesOf parts).map Outline.head := by
    have same : (program.map Definition.toHeading).map (Heading.head Reader.title) =
        bodies.map Outline.head := by
      rw [List.map_map, ← List.forall₂_eq_eq_eq, List.forall₂_map_left_iff,
        List.forall₂_map_right_iff]
      exact prints.imp fun _ _ print => print.head.symm
    rw [← same, Reader.Fills.map_toHeading fills, Reader.map_head_outlinesOf]
  have prints : List.Forall₂ (Prints Reader.title bodies) program bodies :=
    prints.imp fun _ _ print => print.congr heads
  have alive : context.phase ≠ .destroyed := by
    rw [done.building]
    decide
  obtain ⟨text, dumped, lines⟩ := done.formed.sentences_dump alive
  have sound : ∀ outline ∈ bodies, outline.Sound bodies := by
    intro outline member
    have held := done.formed.sound (done.outlines_eq.symm ▸ member)
    rwa [done.outlines_eq] at held
  have told := arranged_program whole prints sound
  rw [done.outlines_eq, ← told, List.filter_eq_self.mpr] at lines
  · exact ⟨text, dumped, lines⟩
  · -- No line of the text is empty, so none is told again as nothing.
    intro line member
    obtain ⟨original, inside, rfl⟩ := List.mem_map.mp ((perm_arranged _).mem_iff.mp member)
    have written : original ≠ [] := of_decide_eq_true (List.mem_filter.mp inside).2
    simpa using retold_ne_nil Reader.title written

/-- A text that is read is printed again as it was told, the value lines of a block by their
numbers. So no line is lost and none is added, and no line has moved exactly if the value lines of
each block stand in the order of their numbers. If putting a name into normal form twice changes no
word of the text, once is enough. -/
theorem Context.dump_of_parse (file source : Bytes) (optimize : Bool) (context : Context)
    (parsed : Context.parse file source optimize = .ok context) :
    ∃ text, context.dump = .ok text ∧
      sentences text = arranged ((sentences source).map (retold Reader.title)) ∧
      (sentences text).Perm ((sentences source).map (retold Reader.title)) ∧
      (sentences text = (sentences source).map (retold Reader.title) ↔
        Ordered (sentences source)) ∧
      ((∀ line ∈ sentences source, ∀ word, .word word ∈ line →
          Text.normalize (Text.normalize word) = Text.normalize word) →
        sentences text = arranged ((sentences source).map (retold Text.normalize))) := by
  obtain ⟨text, dumped, told⟩ := sentences_dump_of_parse parsed
  refine ⟨text, dumped, told, ?_, ?_, fun settled => ?_⟩
  · rw [told]
    exact perm_arranged _
  · rw [told, arranged_eq_self_iff, Ordered, Ordered, List.isChain_map]
    simp only [InOrder, lineNumber?_retold]
    exact Iff.rfl
  · rw [told]
    refine congrArg arranged (List.map_congr_left fun line inside => ?_)
    exact retold_congr fun word listed => settled line inside word listed

/-- A text whose two value lines stand in one block, the second first. -/
def SourceLanguage.swappedSource : Bytes :=
  utf8 "define f(i08) -> i8 \x7b ; swapped\nbb0:\n%02: i8 = add %0 %0\n\n  %1: i8 = 007\n" ++
    utf8 "return %2\n\x7d"

theorem Context.dump_of_parse_swappedSource :
    ∃ context text, Context.parse [] swappedSource true = .ok context ∧
      context.dump = .ok text ∧
      (sentences text).Perm ((sentences swappedSource).map (retold Reader.title)) ∧
      sentences text ≠ (sentences swappedSource).map (retold Reader.title) := by
  have facts : (Context.parse [] swappedSource true).isOk ∧
      ¬ Ordered (sentences swappedSource) := by
    decide +kernel
  cases parsed : Context.parse [] swappedSource true with
  | error error =>
    rw [parsed] at facts
    cases facts.1
  | ok context =>
    obtain ⟨text, dumped, -, perm, stays, -⟩ :=
      dump_of_parse [] swappedSource true context parsed
    exact ⟨context, text, rfl, dumped, perm, fun same => facts.2 (stays.mp same)⟩

/-- Not every text is printed again line by line as it was told: the swapped lines are put in
order. -/
theorem Context.swappedSource_not_kept :
    ¬ ∀ (file source : Bytes) (optimize : Bool) (context : Context),
      Context.parse file source optimize = .ok context →
        ∃ text, context.dump = .ok text ∧
          sentences text = (sentences source).map (retold Reader.title) := by
  intro kept
  have facts : (Context.parse [] swappedSource true).isOk ∧
      ¬ Ordered ((sentences swappedSource).map (retold Reader.title)) := by
    decide +kernel
  cases parsed : Context.parse [] swappedSource true with
  | error error =>
    rw [parsed] at facts
    cases facts.1
  | ok context =>
    obtain ⟨text, dumped, same⟩ := kept [] swappedSource true context parsed
    obtain ⟨text', dumped', told⟩ := sentences_dump_of_parse parsed
    cases dumped.symm.trans dumped'
    exact facts.2 (arranged_eq_self_iff.mp (told.symm.trans same))

end Blockwork
