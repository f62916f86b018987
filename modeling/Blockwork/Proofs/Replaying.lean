import Blockwork.Proofs.Gathering
import Mathlib.Data.List.Induction
import Mathlib.Data.List.Perm.Basic

/-!
# Building bodies of the language

The value lines of a body, put into the order of their numbers, are built exactly if the numbers
come one by one and every line computes a value of its type; the blocks are ended exactly if every
terminator refers to what is there. While values are built, the types of the values below a number
are the ones that the definition gives them, so an instruction suits what has been built exactly if
its line computes what the definition says.
-/

namespace Blockwork

open SourceLanguage

namespace SourceLanguage

/-- What the outline of a function shows of its heading. -/
def Heading.head (title : Bytes → Bytes) (heading : Heading) :
    Bytes × List (Option Descriptor) × Option Descriptor :=
  (title heading.name, heading.inputs.map some, some heading.output)

/-- A function that has only been declared. -/
def Heading.declared (title : Bytes → Bytes) (heading : Heading) : Outline where
  name := title heading.name
  inputs := heading.inputs.map some
  output := some heading.output
  ends := []
  values := (heading.inputs.map some).zipIdx.map fun (type, index) => (type, .parameter index)

/-! ## Value lines by number -/

theorem map_snd_located (passages : List Passage) :
    (located passages).map Prod.snd = passages.flatMap Passage.entries := by
  induction passages using List.reverseRecOn with
  | nil => rfl
  | append_singleton passages passage ih =>
    rw [located_concat, List.map_append, ih, List.flatMap_append, List.map_map]
    simp [Function.comp_def]

theorem lt_of_mem_located {passages : List Passage} {item : BlockId × ValueLine}
    (member : item ∈ located passages) : item.1 < passages.length := by
  obtain ⟨⟨passage, block⟩, listed, inside⟩ := List.mem_flatMap.mp member
  obtain ⟨entry, -, rfl⟩ := List.mem_map.mp inside
  exact (List.getElem?_eq_some_iff.mp (List.mk_mem_zipIdx_iff_getElem?.mp listed)).choose

theorem mem_endings_iff {passages : List Passage} {item : BlockId × Terminator} :
    item ∈ endings passages ↔
      ∃ passage, passages[item.1]? = some passage ∧ passage.ending = some item.2 := by
  constructor
  · intro member
    obtain ⟨⟨passage, block⟩, listed, inside⟩ := List.mem_flatMap.mp member
    obtain ⟨terminator, ends, rfl⟩ := List.mem_map.mp inside
    exact ⟨passage, List.mk_mem_zipIdx_iff_getElem?.mp listed, Option.mem_toList.mp ends⟩
  · rintro ⟨passage, found, ends⟩
    refine List.mem_flatMap.mpr ⟨(passage, item.1), List.mk_mem_zipIdx_iff_getElem?.mpr found, ?_⟩
    exact List.mem_map.mpr ⟨item.2, Option.mem_toList.mpr ends, rfl⟩

theorem nodup_map_fst_endings (passages : List Passage) :
    ((endings passages).map Prod.fst).Nodup := by
  induction passages using List.reverseRecOn with
  | nil => exact List.nodup_nil
  | append_singleton passages passage ih =>
    rw [endings_concat, List.map_append]
    cases passage.ending with
    | none => simpa using ih
    | some terminator =>
      refine List.nodup_append.mpr ⟨ih, List.nodup_singleton _, ?_⟩
      intro block early last member same
      have last : last = passages.length := List.mem_singleton.mp member
      obtain ⟨item, inside, rfl⟩ := List.mem_map.mp early
      obtain ⟨_, found, -⟩ := mem_endings_iff.mp inside
      exact absurd (same.trans last) (Nat.ne_of_lt (List.getElem?_eq_some_iff.mp found).choose)

namespace Definition

variable {definition : Definition}

theorem Numbered.bounds (numbered : definition.Numbered) {entry : ValueLine}
    (member : entry ∈ definition.entries) :
    definition.inputs.length ≤ entry.number ∧
      entry.number < definition.inputs.length + definition.entries.length :=
  List.mem_range'_1.mp (numbered.mem_iff.mp (List.mem_map_of_mem member))

theorem mem_entries_of_perm {items : List (BlockId × ValueLine)}
    (perm : items.Perm (located definition.passages)) {item : BlockId × ValueLine}
    (member : item ∈ items) : item.2 ∈ definition.entries := by
  rw [entries, ← map_snd_located]
  exact List.mem_map_of_mem (perm.mem_iff.mp member)

theorem length_eq_of_perm {items : List (BlockId × ValueLine)}
    (perm : items.Perm (located definition.passages)) :
    items.length = definition.entries.length := by
  rw [perm.length_eq, entries, ← map_snd_located, List.length_map]

/-- The numbers do not depend on the order in which the value lines are taken. -/
theorem numbered_iff_of_perm {items : List (BlockId × ValueLine)}
    (perm : items.Perm (located definition.passages)) :
    definition.Numbered ↔ (items.map fun item => item.2.number).Perm
      (List.range' definition.inputs.length items.length) := by
  have same : (items.map fun item => item.2.number).Perm
      (definition.entries.map ValueLine.number) := by
    rw [entries, ← map_snd_located, List.map_map]
    exact perm.map _
  rw [length_eq_of_perm perm]
  exact ⟨same.trans, same.symm.trans⟩

/-- A value line is the only one with its number. -/
theorem Numbered.hasType_iff (numbered : definition.Numbered) {entry : ValueLine}
    (member : entry ∈ definition.entries) {type : Descriptor} :
    definition.HasType entry.number type ↔ type = entry.type := by
  constructor
  · rintro (parameter | ⟨other, inside, same, rfl⟩)
    · have bound := (List.getElem?_eq_some_iff.mp parameter).choose
      exact absurd bound (Nat.not_lt.mpr (numbered.bounds member).1)
    · have distinct := numbered.nodup_iff.mpr List.nodup_range'
      rw [List.inj_on_of_nodup_map distinct inside member same]
  · rintro rfl
    exact .inr ⟨entry, member, rfl, rfl⟩

theorem Numbered.lt_of_hasType (numbered : definition.Numbered) {number : ValueId}
    {type : Descriptor} (typed : definition.HasType number type) :
    number < definition.inputs.length + definition.entries.length := by
  rcases typed with parameter | ⟨entry, member, rfl, -⟩
  · exact Nat.lt_add_right _ (List.getElem?_eq_some_iff.mp parameter).choose
  · exact (numbered.bounds member).2

end Definition

/-! ## What has been built -/

/-- What there is of a definition once the values below a number have been built: the types of these
values are the ones that the definition gives them. -/
structure Stage (title : Bytes → Bytes) (definition : Definition) (outline : Outline)
    (count : Nat) : Prop where
  /-- Others see the heading. -/
  head : outline.head = definition.toHeading.head title
  /-- The values. -/
  length : outline.values.length = count
  /-- Their types. -/
  typed : ∀ number < count, ∀ type, outline.typeOf? number = some type ↔
    ∃ described, type = some described ∧ definition.HasType number described

namespace Stage

variable {title : Bytes → Bytes} {definition : Definition} {outline : Outline} {count : Nat}

/-- At first there are the parameters. -/
theorem declared (title : Bytes → Bytes) (numbered : definition.Numbered)
    (ends : List (Option Terminator)) :
    Stage title definition { definition.toHeading.declared title with ends }
      definition.inputs.length where
  head := rfl
  length := by simp [Heading.declared]
  typed := by
    intro number early type
    have parameter : ∀ described, definition.HasType number described ↔
        definition.inputs[number]? = some described := by
      intro described
      refine ⟨?_, .inl⟩
      rintro (held | ⟨entry, member, rfl, -⟩)
      · exact held
      · exact absurd early (Nat.not_lt.mpr (numbered.bounds member).1)
    simp only [parameter]
    simp [Outline.typeOf?, Heading.declared, List.getElem?_eq_getElem early, eq_comm]

/-- The next value is that of a value line. -/
theorem append (numbered : definition.Numbered) {entry : ValueLine}
    (member : entry ∈ definition.entries) (stage : Stage title definition outline entry.number)
    (origin : Origin) :
    Stage title definition
      { outline with values := outline.values ++ [(some entry.type, origin)] }
      (entry.number + 1) where
  head := stage.head
  length := by rw [List.length_append, stage.length, List.length_singleton]
  typed := by
    intro number early type
    rcases Nat.lt_succ_iff_lt_or_eq.mp early with earlier | rfl
    · rw [← stage.typed number earlier type, Outline.typeOf?, Outline.typeOf?,
        List.getElem?_append_left (stage.length ▸ earlier)]
    · simp only [numbered.hasType_iff member]
      simp [Outline.typeOf?, ← stage.length, eq_comm]

/-- A terminator suits what has been built exactly if it refers to what the definition has. -/
theorem suits_iff (numbered : definition.Numbered)
    (stage : Stage title definition outline
      (definition.inputs.length + definition.entries.length))
    (blocks : outline.ends.length = definition.passages.length) {terminator : Terminator} :
    terminator.Suits outline ↔ Ends definition terminator := by
  cases terminator with
  | branch target => rw [Terminator.Suits, blocks, Ends]
  | result value =>
    have output : outline.output = some definition.output :=
      congrArg (fun head => head.2.2) stage.head
    rw [Terminator.Suits, Ends, output]
    constructor
    · intro suits
      obtain ⟨pair, held, -⟩ := Option.map_eq_some_iff.mp suits
      have early := (List.getElem?_eq_some_iff.mp held).choose
      obtain ⟨described, same, typed⟩ := (stage.typed value (stage.length ▸ early) _).mp suits
      cases same
      exact typed
    · intro typed
      exact (stage.typed value (numbered.lt_of_hasType typed) _).mpr ⟨_, rfl, typed⟩

/-- Arguments have the types that are asked for. -/
theorem passed_iff (stage : Stage title definition outline count) {arguments : List ValueId}
    (earlier : ∀ argument ∈ arguments, argument < count) {inputs : List Descriptor} :
    arguments.map outline.typeOf? = (inputs.map some).map some ↔
      List.Forall₂ definition.HasType arguments inputs := by
  induction arguments generalizing inputs with
  | nil => cases inputs <;> simp
  | cons argument arguments ih =>
    cases inputs with
    | nil => simp
    | cons input inputs =>
      have first := stage.typed argument (earlier argument List.mem_cons_self) (some input)
      have others : arguments.map outline.typeOf? = (inputs.map some).map some ↔
          List.Forall₂ definition.HasType arguments inputs :=
        ih fun other member => earlier other (List.mem_cons_of_mem _ member)
      simp only [List.map_cons, List.cons.injEq, List.forall₂_cons, first, others,
        Option.some.injEq, exists_eq_left']

/-- A value line computes what it should exactly if it says an instruction that suits what has been
built before it. -/
theorem computes_iff {headings : List Heading} {outlines : List Outline} {entry : ValueLine}
    (stage : Stage title definition outline entry.number)
    (heads : outlines.map Outline.head = headings.map (Heading.head title))
    {callable : Bytes → Option FunctionId}
    (named : ∀ {name callee}, callable name = some callee ↔
      ∃ heading, headings[callee]? = some heading ∧ title heading.name = Text.normalize name) :
    Computes title headings definition entry ↔
      ∃ instruction, Tells callable entry.number entry.formula instruction ∧
        instruction.Suits outlines outline (some entry.type) := by
  have target : ∀ {callee : FunctionId} {heading : Heading}, headings[callee]? = some heading →
      ∃ target, outlines[callee]? = some target ∧ target.head = heading.head title := by
    intro callee heading found
    have held := congrArg (fun list => list[callee]?) heads
    rw [List.getElem?_map, List.getElem?_map, found] at held
    exact Option.map_eq_some_iff.mp held
  constructor
  · intro computes
    cases computes with
    | literal written numeral fits => exact ⟨_, .const written numeral fits, trivial⟩
    | @operation operator _ _ left right shared written leftNumeral rightNumeral leftEarlier
        rightEarlier leftTyped rightTyped typed =>
      refine ⟨_, .binary written leftNumeral leftEarlier rightNumeral rightEarlier, some shared,
        (stage.typed left leftEarlier _).mpr ⟨shared, rfl, leftTyped⟩,
        (stage.typed right rightEarlier _).mpr ⟨shared, rfl, rightTyped⟩, ?_⟩
      rw [typed]
      split <;> rfl
    | @call name digits arguments heading written numerals earlier known same passed typed =>
      obtain ⟨callee, found⟩ := List.mem_iff_getElem?.mp known
      obtain ⟨called, calledFound, head⟩ := target found
      obtain ⟨-, inputs, output⟩ := Prod.mk.inj head |>.imp id Prod.mk.inj
      refine ⟨_, .call written (named.mpr ⟨heading, found, same⟩) numerals earlier, called,
        calledFound, ?_, ?_⟩
      · rw [inputs]
        exact (stage.passed_iff earlier).mpr passed
      · rw [output, typed]
  · rintro ⟨instruction, tells, suits⟩
    cases tells with
    | const written numeral fits => exact .literal written numeral fits
    | @call name digits callee arguments written calls numerals earlier =>
      obtain ⟨heading, found, same⟩ := named.mp calls
      obtain ⟨called, calledFound, head⟩ := target found
      obtain ⟨-, inputs, output⟩ := Prod.mk.inj head |>.imp id Prod.mk.inj
      obtain ⟨_, again, passed, typed⟩ := suits
      cases calledFound.symm.trans again
      rw [inputs] at passed
      rw [output] at typed
      exact .call written numerals earlier (List.mem_of_getElem? found) same
        ((stage.passed_iff earlier).mp passed) (Option.some.inj typed)
    | @binary operator _ _ left right written leftNumeral leftEarlier rightNumeral rightEarlier =>
      obtain ⟨shared, leftTyped, rightTyped, typed⟩ := suits
      obtain ⟨described, rfl, leftHas⟩ := (stage.typed left leftEarlier _).mp leftTyped
      obtain ⟨_, same, rightHas⟩ := (stage.typed right rightEarlier _).mp rightTyped
      cases same
      refine .operation written leftNumeral rightNumeral leftEarlier rightEarlier leftHas
        rightHas ?_
      split at typed <;> rename_i comparison <;> simpa [comparison] using typed

end Stage
end SourceLanguage

/-- A name leads to the function that is called so. -/
theorem Context.Sketches.functionNamed?_iff {context : Context} {outlines : List Outline}
    (sketches : context.Sketches outlines) {title : Bytes → Bytes} {headings : List Heading}
    (heads : outlines.map Outline.head = headings.map (Heading.head title)) {name : Bytes}
    {callee : FunctionId} :
    context.functionNamed? name = some callee ↔
      ∃ heading, headings[callee]? = some heading ∧ title heading.name = Text.normalize name := by
  have alive : context.phase ≠ .destroyed := by
    rw [sketches.building]
    decide
  have names : (context.functions.get? callee).map Function.name =
      headings[callee]?.map fun heading => title heading.name := by
    have held := congrArg (fun list => list[callee]?.map Prod.fst) heads
    simpa [← sketches.outlines_eq, getElem?_outlines, Function.comp_def, Outline.head,
      Heading.head, Function.outline] using held
  rw [functionNamed?, if_neg alive, sketches.formed.names]
  calc (∃ function, context.functions.get? callee = some function ∧
          function.name = Text.normalize name)
      ↔ (context.functions.get? callee).map Function.name = some (Text.normalize name) :=
        Option.map_eq_some_iff.symm
    _ ↔ ∃ heading, headings[callee]? = some heading ∧
          title heading.name = Text.normalize name := by
        rw [names]
        exact Option.map_eq_some_iff

namespace Reader

variable {file : Bytes} {context context' : Context} {before after : List Outline}
  {outline : Outline}

/-! ## Building values -/

/-- What an instruction is built from. -/
theorem exists_of_buildInstruction {place : Place} {type : TypeId} {instruction : Instruction}
    {added : Context × ValueId}
    (built : buildInstruction context place type instruction = .ok added) :
    ∃ function block type', context.Open place function block ∧
      instruction.Fits context function type' ∧
      added = context.append place function type' instruction := by
  cases instruction with
  | const literal =>
    obtain ⟨function, block, opened, fits, same⟩ := Context.buildConst_eq_ok_iff.mp built
    exact ⟨function, block, type, opened, fits, same⟩
  | call callee arguments =>
    have built : context.buildCall place (.own callee) (arguments.map .own) = .ok added := built
    obtain ⟨function, block, id, type', ids, opened, own, operands, fits, same⟩ :=
      Context.buildCall_eq_ok_iff.mp built
    cases own
    obtain rfl := List.map_injective_iff.mpr (fun _ _ => Operand.own.inj) operands
    exact ⟨function, block, type', opened, fits, same⟩
  | binary operator left right =>
    obtain ⟨function, block, operator', type', leftId, rightId, opened, decoded, leftOwn, rightOwn,
      fits, same⟩ := Context.buildBinary_eq_ok_iff.mp built
    cases leftOwn
    cases rightOwn
    cases (operator.ofCode?_code).symm.trans decoded
    exact ⟨function, block, type', opened, fits, same⟩

/-- A value that is built has the next number and comes from an instruction that suits. -/
theorem suits_of_replayValue {value : PendingValue} {item : BlockId × ValueLine}
    (sketches : context.Sketches (before ++ outline :: after))
    (stands : value.Stands context.types item)
    (replayed : replayValue file before.length context value = .ok context') :
    item.2.number = outline.values.length ∧
      ∃ instruction, Tells context.functionNamed? item.2.number item.2.formula instruction ∧
        instruction.Suits (before ++ outline :: after) outline (some item.2.type) := by
  obtain ⟨function, found, shape⟩ := sketches.exists_function
  have count : function.values.size = outline.values.length := by
    rw [← Function.length_values context.types, shape]
  unfold replayValue at replayed
  simp only [found] at replayed
  obtain ⟨number, accepted⟩ := of_ite_error_eq_ok replayed
  refine ⟨?_, ?_⟩
  · rw [← stands.number, Decidable.not_not.mp number, count]
  · split at accepted
    · cases accepted
    · rename_i instruction read
      split at accepted
      · cases accepted
      · rename_i middle id built
        obtain ⟨typed, -⟩ := of_ite_eq_ok accepted
        obtain ⟨holder, block, type, opened, fits, same⟩ := exists_of_buildInstruction built
        cases found.symm.trans opened.function_eq
        obtain ⟨rfl, rfl⟩ := Prod.mk.inj same
        have typed : type = value.type := by
          simpa [Context.get?_replace, found, Function.get?_pushValue] using typed
        have known : context.types.lookup? type = some item.2.type := by
          rw [← stands.type, ← typed]
        have bound := Nat.le_of_lt stands.small
        have tells := (readInstruction_iff file context bound stands.instruction).mp read
        rw [stands.number] at tells
        refine ⟨instruction, tells, ?_⟩
        rw [← sketches.outlines_eq, ← shape, ← known]
        exact fits.suits sketches.formed

/-- A value with the next number gets built from an instruction that suits. -/
theorem exists_replayValue (file : Bytes) {value : PendingValue} {item : BlockId × ValueLine}
    (sketches : context.Sketches (before ++ outline :: after))
    (stands : value.Stands context.types item) (opened : outline.ends[item.1]? = some none)
    (number : item.2.number = outline.values.length) {instruction : Instruction}
    (tells : Tells context.functionNamed? item.2.number item.2.formula instruction)
    (suits : instruction.Suits (before ++ outline :: after) outline (some item.2.type)) :
    ∃ context', replayValue file before.length context value = .ok context' ∧
      context'.types = context.types ∧
      context'.Sketches (before ++ { outline with
        values := outline.values ++
          [(some item.2.type, .instruction item.1 instruction)] } :: after) := by
  obtain ⟨function, found, shape⟩ := sketches.exists_function
  have count : function.values.size = value.number := by
    rw [← Function.length_values context.types, shape, stands.number, number]
  rw [← stands.number] at tells
  have read :=
    (readInstruction_iff file context (Nat.le_of_lt stands.small) stands.instruction).mpr tells
  obtain ⟨context', builds, rebuilt, types, done⟩ := sketches.append opened stands.type suits
  refine ⟨context', ?_, types, done⟩
  simp only [replayValue, found, count, ne_eq, not_true_eq_false, if_false, read, stands.block,
    builds, rebuilt, if_true]

/-- Values that are built have the next numbers. -/
theorem numbers_of_replayValues {values : List PendingValue} {items : List (BlockId × ValueLine)}
    (sketches : context.Sketches (before ++ outline :: after))
    (stand : List.Forall₂ (PendingValue.Stands context.types) values items)
    (opened : ∀ item ∈ items, outline.ends[item.1]? = some none)
    (replayed : replayValues file before.length context values = .ok context') :
    items.map (fun item => item.2.number) =
      List.range' outline.values.length items.length := by
  induction values generalizing context outline items with
  | nil =>
    cases stand
    rfl
  | cons value values ih =>
    cases stand with
    | @cons _ item _ items stands stand =>
      rw [replayValues] at replayed
      split at replayed
      · rename_i middle first
        obtain ⟨number, instruction, tells, suits⟩ := suits_of_replayValue sketches stands first
        obtain ⟨_, again, types, sketches'⟩ := exists_replayValue file sketches stands
          (opened item List.mem_cons_self) number tells suits
        cases first.symm.trans again
        rw [← types] at stand
        have others := ih sketches' stand
          (fun other member => opened other (List.mem_cons_of_mem _ member)) replayed
        rw [List.map_cons, others, number, List.length_append, List.length_singleton,
          List.length_cons, List.range'_succ]
      · cases replayed

section

variable {title : Bytes → Bytes} {headings : List Heading} {definition : Definition}

/-- The functions of a program around the one whose body is read. -/
def Surrounds (title : Bytes → Bytes) (headings : List Heading) (definition : Definition)
    (before after : List Outline) : Prop :=
  before.map Outline.head ++ definition.toHeading.head title :: after.map Outline.head =
    headings.map (Heading.head title)

theorem Surrounds.heads (surrounds : Surrounds title headings definition before after) {count : Nat}
    (stage : Stage title definition outline count) :
    (before ++ outline :: after).map Outline.head = headings.map (Heading.head title) := by
  rw [List.map_append, List.map_cons, stage.head]
  exact surrounds

variable (surrounds : Surrounds title headings definition before after)
  (numbered : definition.Numbered)
include surrounds

/-- A value that is built is what its line computes. -/
theorem computes_of_replayValue {value : PendingValue} {item : BlockId × ValueLine}
    (stage : Stage title definition outline item.2.number)
    (sketches : context.Sketches (before ++ outline :: after))
    (stands : value.Stands context.types item)
    (replayed : replayValue file before.length context value = .ok context') :
    Computes title headings definition item.2 := by
  have heads := surrounds.heads stage
  exact (stage.computes_iff heads (sketches.functionNamed?_iff heads)).mpr
    (suits_of_replayValue sketches stands replayed).2

include numbered

/-- A value gets built if its line computes it. -/
theorem exists_replayValue_of_computes (file : Bytes) {value : PendingValue}
    {item : BlockId × ValueLine} (member : item.2 ∈ definition.entries)
    (stage : Stage title definition outline item.2.number)
    (sketches : context.Sketches (before ++ outline :: after))
    (stands : value.Stands context.types item) (opened : outline.ends[item.1]? = some none)
    (computes : Computes title headings definition item.2) :
    ∃ context' outline', replayValue file before.length context value = .ok context' ∧
      context'.types = context.types ∧ context'.Sketches (before ++ outline' :: after) ∧
      Stage title definition outline' (item.2.number + 1) ∧ outline'.ends = outline.ends := by
  have heads := surrounds.heads stage
  obtain ⟨instruction, tells, suits⟩ :=
    (stage.computes_iff heads (sketches.functionNamed?_iff heads)).mp computes
  obtain ⟨context', replayed, types, sketches'⟩ :=
    exists_replayValue file sketches stands opened stage.length.symm tells suits
  exact ⟨context', _, replayed, types, sketches', stage.append numbered member _, rfl⟩

/-- Values that are built are what their lines compute. -/
theorem computes_of_replayValues {values : List PendingValue}
    {items : List (BlockId × ValueLine)} {count : Nat}
    (numbers : items.map (fun item => item.2.number) = List.range' count items.length)
    (members : ∀ item ∈ items, item.2 ∈ definition.entries)
    (stage : Stage title definition outline count)
    (sketches : context.Sketches (before ++ outline :: after))
    (stand : List.Forall₂ (PendingValue.Stands context.types) values items)
    (opened : ∀ item ∈ items, outline.ends[item.1]? = some none)
    (replayed : replayValues file before.length context values = .ok context') :
    ∀ item ∈ items, Computes title headings definition item.2 := by
  induction values generalizing context outline items count with
  | nil =>
    cases stand
    exact fun item member => nomatch member
  | cons value values ih =>
    cases stand with
    | @cons _ item _ items stands stand =>
      rw [List.map_cons, List.length_cons, List.range'_succ] at numbers
      obtain ⟨rfl, numbers⟩ := List.cons.inj numbers
      rw [replayValues] at replayed
      split at replayed
      · rename_i middle first
        have computes := computes_of_replayValue surrounds stage sketches stands first
        obtain ⟨_, outline', again, types, sketches', stage', ends⟩ :=
          exists_replayValue_of_computes surrounds numbered file (members item List.mem_cons_self)
            stage sketches stands (opened item List.mem_cons_self) computes
        cases first.symm.trans again
        rw [← types] at stand
        rw [← ends] at opened
        intro other member
        rcases List.mem_cons.mp member with rfl | inside
        · exact computes
        · exact ih numbers (fun other member => members other (List.mem_cons_of_mem _ member))
            stage' sketches' stand (fun other member => opened other (List.mem_cons_of_mem _ member))
            replayed other inside
      · cases replayed

/-- Values get built if their lines compute them. -/
theorem exists_replayValues (file : Bytes) {values : List PendingValue}
    {items : List (BlockId × ValueLine)} {count : Nat}
    (numbers : items.map (fun item => item.2.number) = List.range' count items.length)
    (members : ∀ item ∈ items, item.2 ∈ definition.entries)
    (stage : Stage title definition outline count)
    (sketches : context.Sketches (before ++ outline :: after))
    (stand : List.Forall₂ (PendingValue.Stands context.types) values items)
    (opened : ∀ item ∈ items, outline.ends[item.1]? = some none)
    (computes : ∀ item ∈ items, Computes title headings definition item.2) :
    ∃ context' outline', replayValues file before.length context values = .ok context' ∧
      context'.Sketches (before ++ outline' :: after) ∧
      Stage title definition outline' (count + items.length) ∧ outline'.ends = outline.ends := by
  induction values generalizing context outline items count with
  | nil =>
    cases stand
    exact ⟨context, outline, rfl, sketches, stage, rfl⟩
  | cons value values ih =>
    cases stand with
    | @cons _ item _ items stands stand =>
      rw [List.map_cons, List.length_cons, List.range'_succ] at numbers
      obtain ⟨rfl, numbers⟩ := List.cons.inj numbers
      obtain ⟨middle, outline', first, types, sketches', stage', ends⟩ :=
        exists_replayValue_of_computes surrounds numbered file (members item List.mem_cons_self)
          stage sketches stands (opened item List.mem_cons_self)
          (computes item List.mem_cons_self)
      rw [← types] at stand
      rw [← ends] at opened ⊢
      obtain ⟨context', last, others, done⟩ := ih numbers
        (fun other member => members other (List.mem_cons_of_mem _ member)) stage' sketches' stand
        (fun other member => opened other (List.mem_cons_of_mem _ member))
        (fun other member => computes other (List.mem_cons_of_mem _ member))
      refine ⟨context', last, ?_, ?_⟩
      · rw [replayValues, first]
        exact others
      · rw [List.length_cons, ← Nat.add_assoc, Nat.add_right_comm]
        exact done

end

/-! ## Ending blocks -/

/-- A terminator that ends a block suits. -/
theorem suits_of_replayTerminator {pending : PendingTerminator} {item : BlockId × Terminator}
    (content : pending.content = item) (sketches : context.Sketches (before ++ outline :: after))
    (replayed : replayTerminator before.length context pending = .ok context') :
    item.2.Suits outline := by
  obtain ⟨function, found, rfl⟩ := sketches.exists_function
  obtain rfl := content
  rcases replayTerminator_cases replayed with ⟨target, ends, built⟩ | ⟨value, ends, built⟩
  · obtain ⟨holder, block, id, opened, own, fits, -⟩ := Context.buildBranch_eq_ok_iff.mp built
    cases own
    cases found.symm.trans opened.function_eq
    rw [PendingTerminator.content, ends]
    exact fits.suits context.types
  · obtain ⟨holder, block, id, opened, own, fits, -⟩ := Context.buildReturn_eq_ok_iff.mp built
    cases own
    cases found.symm.trans opened.function_eq
    rw [PendingTerminator.content, ends]
    exact fits.suits context.types

/-- A block that is ended leaves the others open. -/
theorem open_of_set {ends : List (Option Terminator)} {item : BlockId × Terminator}
    {items : List (BlockId × Terminator)} (distinct : ((item :: items).map Prod.fst).Nodup)
    (opened : ∀ other ∈ item :: items, ends[other.1]? = some none) :
    ∀ other ∈ items, (ends.set item.1 (some item.2))[other.1]? = some none := by
  intro other member
  rw [List.map_cons, List.nodup_cons] at distinct
  have apart : item.1 ≠ other.1 := fun same => distinct.1 (same ▸ List.mem_map_of_mem member)
  rw [List.getElem?_set_ne apart]
  exact opened other (List.mem_cons_of_mem _ member)

section

variable {title : Bytes → Bytes} {definition : Definition} (numbered : definition.Numbered)
include numbered

/-- Terminators that end blocks refer to what the definition has. -/
theorem ends_of_replayTerminators {pending : List PendingTerminator}
    {items : List (BlockId × Terminator)}
    (content : pending.map PendingTerminator.content = items)
    (distinct : (items.map Prod.fst).Nodup)
    (sketches : context.Sketches (before ++ outline :: after))
    (stage : Stage title definition outline
      (definition.inputs.length + definition.entries.length))
    (blocks : outline.ends.length = definition.passages.length)
    (opened : ∀ item ∈ items, outline.ends[item.1]? = some none)
    (replayed : replayTerminators file before.length context pending = .ok context') :
    ∀ item ∈ items, Ends definition item.2 := by
  induction pending generalizing context outline items with
  | nil =>
    subst content
    exact fun item member => nomatch member
  | cons next rest ih =>
    subst content
    rw [replayTerminators] at replayed
    split at replayed
    · rename_i middle first
      have suits := suits_of_replayTerminator rfl sketches first
      obtain ⟨_, again, sketches'⟩ :=
        exists_replayTerminator rfl sketches (opened _ List.mem_cons_self) suits
      cases first.symm.trans again
      have others := ih rfl (List.nodup_cons.mp distinct).2 sketches'
        ⟨stage.head, stage.length, stage.typed⟩ (by rw [List.length_set, blocks])
        (open_of_set distinct opened) replayed
      intro item member
      rcases List.mem_cons.mp member with rfl | inside
      · exact (stage.suits_iff numbered blocks).mp suits
      · exact others item inside
    · cases replayed

/-- Terminators that refer to what the definition has end their blocks. -/
theorem exists_replayTerminators (file : Bytes) {pending : List PendingTerminator}
    {items : List (BlockId × Terminator)}
    (content : pending.map PendingTerminator.content = items)
    (distinct : (items.map Prod.fst).Nodup)
    (sketches : context.Sketches (before ++ outline :: after))
    (stage : Stage title definition outline
      (definition.inputs.length + definition.entries.length))
    (blocks : outline.ends.length = definition.passages.length)
    (opened : ∀ item ∈ items, outline.ends[item.1]? = some none)
    (ends : ∀ item ∈ items, Ends definition item.2) :
    ∃ context' outline', replayTerminators file before.length context pending = .ok context' ∧
      context'.Sketches (before ++ outline' :: after) ∧
      outline'.head = definition.toHeading.head title := by
  induction pending generalizing context outline items with
  | nil => exact ⟨context, outline, rfl, sketches, stage.head⟩
  | cons next rest ih =>
    subst content
    have suits := (stage.suits_iff numbered blocks).mpr (ends _ List.mem_cons_self)
    obtain ⟨middle, first, sketches'⟩ :=
      exists_replayTerminator rfl sketches (opened _ List.mem_cons_self) suits
    obtain ⟨context', outline', others, done⟩ := ih rfl (List.nodup_cons.mp distinct).2 sketches'
      ⟨stage.head, stage.length, stage.typed⟩ (by rw [List.length_set, blocks])
      (open_of_set distinct opened) (fun item member => ends item (List.mem_cons_of_mem _ member))
    refine ⟨context', outline', ?_, done⟩
    rw [replayTerminators, first]
    exact others

end

/-! ## Bodies -/

theorem map_number_of_stand {types : Interner} {values : List PendingValue}
    {items : List (BlockId × ValueLine)}
    (stand : List.Forall₂ (PendingValue.Stands types) values items) :
    values.map PendingValue.number = items.map fun item => item.2.number := by
  induction stand with
  | nil => rfl
  | cons stands _ ih => rw [List.map_cons, List.map_cons, stands.number, ih]

/-- The value lines that wait for their turn, put in order. -/
theorem Gathered.Collects.exists_items {gathered : Gathered} {passages : List Passage}
    (collects : gathered.Collects before outline after passages) :
    ∃ items, List.Forall₂ (PendingValue.Stands gathered.context.types)
        (sortByNumber gathered.values.reverse) items ∧
      items.Perm (located passages) ∧
      (items.map fun item => item.2.number).Pairwise (· ≤ ·) := by
  obtain ⟨items, stand, perm⟩ :=
    List.perm_comp_forall₂ (perm_sortByNumber gathered.values.reverse) collects.values
  refine ⟨items, stand, perm, ?_⟩
  rw [← map_number_of_stand stand]
  exact List.pairwise_map.mpr (pairwise_sortByNumber _)

theorem open_replicate {passages : List Passage} {block : BlockId}
    (inside : block < passages.length) :
    (List.replicate passages.length (none : Option Terminator))[block]? = some none := by
  rw [List.getElem?_replicate, if_pos inside]

variable {title : Bytes → Bytes} {headings : List Heading}

/-- A body whose values and ends are built fits into the program. -/
theorem Gathered.Collects.valid_of_replay {gathered : Gathered} {definition : Definition}
    {middle : Context} (surrounds : Surrounds title headings definition before after)
    (collects : gathered.Collects before (definition.toHeading.declared title) after
      definition.passages)
    (values : replayValues file before.length gathered.context
      (sortByNumber gathered.values.reverse) = .ok middle)
    (terminators : replayTerminators file before.length middle gathered.terminators.reverse =
      .ok context') : definition.Valid title headings := by
  obtain ⟨items, stand, perm, -⟩ := collects.exists_items
  have opened : ∀ item ∈ items,
      (List.replicate definition.passages.length none)[item.1]? = some none :=
    fun item member => open_replicate (lt_of_mem_located (perm.mem_iff.mp member))
  have members : ∀ item ∈ items, item.2 ∈ definition.entries :=
    fun item member => Definition.mem_entries_of_perm perm member
  have numbers := numbers_of_replayValues collects.sketches stand opened values
  have parameters : (definition.toHeading.declared title).values.length =
      definition.inputs.length := by
    simp [Heading.declared]
  rw [parameters] at numbers
  have numbered : definition.Numbered := by
    rw [Definition.numbered_iff_of_perm perm, numbers]
  have stage := Stage.declared title numbered (List.replicate definition.passages.length none)
  have computes := computes_of_replayValues surrounds numbered numbers members stage
    collects.sketches stand opened values
  obtain ⟨_, outline', again, sketches', stage', ends⟩ := exists_replayValues surrounds numbered
    file numbers members stage collects.sketches stand opened computes
  cases values.symm.trans again
  rw [Definition.length_eq_of_perm perm] at stage'
  have ended := ends_of_replayTerminators numbered collects.ends (nodup_map_fst_endings _) sketches'
    stage' (by rw [ends, List.length_replicate]) (fun item member => by
      obtain ⟨_, found, -⟩ := mem_endings_iff.mp member
      rw [ends]
      exact open_replicate (List.getElem?_eq_some_iff.mp found).choose) terminators
  refine ⟨numbered, fun entry member => ?_, fun passage member terminator ending => ?_⟩
  · rw [Definition.entries, ← map_snd_located] at member
    obtain ⟨item, inside, rfl⟩ := List.mem_map.mp member
    exact computes item (perm.mem_iff.mpr inside)
  · obtain ⟨block, found⟩ := List.mem_iff_getElem?.mp member
    exact ended (block, terminator) (mem_endings_iff.mpr ⟨passage, found, ending⟩)

/-- The values and ends of a body that fits into the program are built. -/
theorem Gathered.Collects.exists_replay (file : Bytes) {gathered : Gathered}
    {definition : Definition} (surrounds : Surrounds title headings definition before after)
    (collects : gathered.Collects before (definition.toHeading.declared title) after
      definition.passages)
    (valid : definition.Valid title headings) :
    ∃ middle context' outline', replayValues file before.length gathered.context
        (sortByNumber gathered.values.reverse) = .ok middle ∧
      replayTerminators file before.length middle gathered.terminators.reverse = .ok context' ∧
      context'.Sketches (before ++ outline' :: after) ∧
      outline'.head = definition.toHeading.head title := by
  obtain ⟨items, stand, perm, sorted⟩ := collects.exists_items
  have opened : ∀ item ∈ items,
      (List.replicate definition.passages.length none)[item.1]? = some none :=
    fun item member => open_replicate (lt_of_mem_located (perm.mem_iff.mp member))
  have members : ∀ item ∈ items, item.2 ∈ definition.entries :=
    fun item member => Definition.mem_entries_of_perm perm member
  have numbers : (items.map fun item => item.2.number) =
      List.range' definition.inputs.length items.length :=
    ((Definition.numbered_iff_of_perm perm).mp valid.numbered).eq_of_pairwise
      (fun _ _ _ _ => Nat.le_antisymm) sorted List.pairwise_le_range'
  have stage := Stage.declared title valid.numbered
    (List.replicate definition.passages.length none)
  obtain ⟨middle, outline', values, sketches', stage', ends⟩ := exists_replayValues surrounds
    valid.numbered file numbers members stage collects.sketches stand opened
    fun item member => valid.computes item.2 (members item member)
  rw [Definition.length_eq_of_perm perm] at stage'
  obtain ⟨context', last, terminators, done⟩ := exists_replayTerminators valid.numbered file
    collects.ends (nodup_map_fst_endings _) sketches' stage' (by rw [ends, List.length_replicate])
    (fun item member => by
      obtain ⟨_, found, -⟩ := mem_endings_iff.mp member
      rw [ends]
      exact open_replicate (List.getElem?_eq_some_iff.mp found).choose)
    (fun item member => by
      obtain ⟨passage, found, ending⟩ := mem_endings_iff.mp member
      exact valid.ends passage (List.mem_of_getElem? found) item.2 ending)
  exact ⟨middle, context', last, values, terminators, done⟩

/-- A body that is read makes up blocks and fits into the program. -/
theorem valid_of_readBody {heading : Heading} {declaration : Declaration}
    (surrounds : before.map Outline.head ++ heading.head title :: after.map Outline.head =
      headings.map (Heading.head title))
    (function : declaration.function = before.length)
    (sketches : context.Sketches (before ++ heading.declared title :: after))
    (read : readBody file context declaration = .ok context') :
    ∃ passages outline', IsBody (declaration.body.map Line.lexemes) passages ∧
      Definition.Valid title headings { heading with passages } ∧
      context'.Sketches (before ++ outline' :: after) ∧ outline'.head = heading.head title := by
  obtain ⟨gathered, gathers, read⟩ := bind_eq_ok_iff.mp read
  obtain ⟨middle, values, terminators⟩ := bind_eq_ok_iff.mp read
  rw [function] at gathers values terminators
  have start : ({ context } : Gathered).Collects before (heading.declared title) after [] :=
    .empty sketches
  obtain ⟨passages, body, collects⟩ := start.isBody_of_gather .empty gathers
  have surrounds : Surrounds title headings { heading with passages } before after := surrounds
  have valid := collects.valid_of_replay surrounds values terminators
  obtain ⟨_, _, outline', valuesAgain, terminatorsAgain, done⟩ :=
    collects.exists_replay file surrounds valid
  cases values.symm.trans valuesAgain
  cases terminators.symm.trans terminatorsAgain
  exact ⟨passages, outline', body, valid, done⟩

/-- A body that makes up blocks and fits into the program is read. -/
theorem exists_readBody (file : Bytes) {definition : Definition} {declaration : Declaration}
    (surrounds : Surrounds title headings definition before after)
    (function : declaration.function = before.length)
    (sketches : context.Sketches (before ++ definition.toHeading.declared title :: after))
    (body : IsBody (declaration.body.map Line.lexemes) definition.passages)
    (addressable : Addressable definition.passages) (valid : definition.Valid title headings) :
    ∃ context' outline', readBody file context declaration = .ok context' ∧
      context'.Sketches (before ++ outline' :: after) ∧
      outline'.head = definition.toHeading.head title := by
  have start : context.Sketches
      (before ++ { definition.toHeading.declared title with ends := [] } :: after) := sketches
  obtain ⟨gathered, gathers, collects⟩ := exists_gather file start body addressable rfl
  obtain ⟨middle, context', outline', values, terminators, done⟩ :=
    collects.exists_replay file surrounds valid
  refine ⟨context', outline', ?_, done⟩
  rw [readBody, function, gathers, ok_bind, values, ok_bind, terminators]

end Reader
end Blockwork
