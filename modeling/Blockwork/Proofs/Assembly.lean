import Blockwork.Llvm.Text
import Blockwork.Proofs.Emission
import Blockwork.Proofs.Words

/-!
# The text of a translation

Assembly refers to the result of an instruction by a number, and numbers the instructions of a
function through in the order in which they stand. So the text of a module can be read off block by
block as well: a computed value is referred to by its place among all computed values of its
function, and its line has the word of its operator.
-/

namespace Blockwork
namespace Llvm

/-- A name that begins with a letter and ends with a number is written as it is. -/
theorem identifier_append_decimal (letter : UInt8) (rest : Bytes)
    (word : Numeral.isDigit letter = false) (plain : (letter :: rest).all isPlain = true)
    (number : Nat) :
    identifier (letter :: rest ++ Bytes.decimal number) = letter :: rest ++ Bytes.decimal number := by
  have digits : (Bytes.decimal number).all isPlain = true := by
    rw [List.all_eq_true]
    intro byte member
    have digit := Numeral.isDigit_of_mem_decimal member
    simp [isPlain, UInt8.le_iff_toNat_le, digit]
  have all : (letter :: rest ++ Bytes.decimal number).all isPlain = true := by
    rw [List.all_append, plain, digits, Bool.and_self]
  have named : Numeral.isDigits (letter :: rest ++ Bytes.decimal number) = false := by
    simp [Numeral.isDigits, word]
  simp only [identifier, all, named, Bool.false_and, Bool.not_false, Bool.and_self, if_true]

namespace Translation

theorem identifier_parameter (index width : Nat) :
    identifier (parameter index width).name = (parameter index width).name :=
  identifier_append_decimal 112 [] (by decide) (by decide) index

theorem identifier_label (block : BlockId) : identifier (label block) = label block :=
  identifier_append_decimal 98 [98] (by decide) (by decide) block

/-! ## What is written -/

/-- The way a type is written, by number. -/
def typeName (context : Context) (id : TypeId) : Bytes :=
  match width? context id with
  | some width => utf8 "i" ++ Bytes.decimal width
  | none => []

/-- The way the type of a value is written. -/
def valueType (context : Context) (function : Blockwork.Function) (id : ValueId) : Bytes :=
  match function.typeOf? id with
  | some type => typeName context type
  | none => []

/-- The values of a function for which instructions stand, block by block. -/
def numbered (function : Blockwork.Function) : List ValueId :=
  function.blocks.toList.flatMap (computed function)

/-- The way a value is referred to. -/
def reference (context : Context) (function : Blockwork.Function) (id : ValueId) : Bytes :=
  match operand? context function id with
  | some (.parameter formal) => utf8 "%" ++ formal.name
  | some (.constant width value) => constantText width value
  | some (.result _ _ _) => utf8 "%" ++ Bytes.decimal ((numbered function).idxOf id)
  | none => []

/-- A value with its type. -/
def typed (context : Context) (function : Blockwork.Function) (id : ValueId) : Bytes :=
  valueType context function id ++ utf8 " " ++ reference context function id

/-- The operation that computes a value. -/
def operation (context : Context) (function : Blockwork.Function) (id : ValueId) : Bytes :=
  match (function.values.get? id).map Value.origin with
  | some (.instruction _ (.binary operator left right)) =>
    utf8 operator.mnemonic ++ utf8 " " ++ typed context function left ++ utf8 ", " ++
      reference context function right
  | some (.instruction _ (.call callee arguments)) =>
    match context.function? callee with
    | some target =>
      utf8 "call " ++ typeName context target.signature.output ++ utf8 " " ++
        globalName target.name ++ utf8 "(" ++
        Bytes.join (utf8 ", ") (arguments.map (typed context function)) ++ utf8 ")"
    | none => []
  | _ => []

/-- The line of a computed value. -/
def line (context : Context) (function : Blockwork.Function) (id : ValueId) : Bytes :=
  utf8 "\t%" ++ Bytes.decimal ((numbered function).idxOf id) ++ utf8 " = " ++
    operation context function id ++ utf8 "\n"

/-- The end of a block. -/
def ending (context : Context) (function : Blockwork.Function) :
    Option Blockwork.Terminator → Bytes
  | some (.branch target) => utf8 "br label %" ++ label target
  | some (.result value) => utf8 "ret " ++ typed context function value
  | none => []

/-- The lines of a block. -/
def paragraph (context : Context) (function : Blockwork.Function) (id : BlockId)
    (content : Block) : Bytes :=
  label id ++ utf8 ":\n" ++ (computed function content).flatMap (line context function) ++
    utf8 "\t" ++ ending context function content.terminator ++ utf8 "\n"

/-- The lines of a function. -/
def definition (context : Context) (function : Blockwork.Function) : Bytes :=
  let parameters := function.signature.inputs.mapIdx fun index type =>
    typeName context type ++ utf8 " %p" ++ Bytes.decimal index
  utf8 "define " ++ typeName context function.signature.output ++ utf8 " " ++
    globalName function.name ++ utf8 "(" ++ Bytes.join (utf8 ", ") parameters ++
    utf8 ")" ++ utf8 " \x7b\n" ++
    Bytes.join (utf8 "\n") (function.blocks.all.map fun (id, content) =>
      paragraph context function id content) ++
    utf8 "\x7d\n"

/-- The text of a context: its functions in order of creation. -/
def text (context : Context) : Bytes :=
  Bytes.join (utf8 "\n") (context.listFunctions.map (definition context))

/-! ## The text of the image -/

/-- Where each result is written as its item is, so are all together, each by its place. -/
theorem map_zipIdx_eq_of_mapM {α β γ : Type} {find : α → Option β} {items : List α}
    {results : List β} (found : items.mapM find = some results) {render : β × Nat → γ}
    {wording : α × Nat → γ}
    (same : ∀ place item result, items[place]? = some item → find item = some result →
      render (result, place) = wording (item, place)) :
    results.zipIdx.map render = items.zipIdx.map wording := by
  refine List.ext_getElem? fun place => ?_
  have here := congrArg (·[place]?) (mapM_eq_some_iff.mp found)
  simp only [List.getElem?_map, List.getElem?_zipIdx, Nat.zero_add] at here ⊢
  cases held : items[place]? with
  | none =>
    rw [held] at here
    rw [Option.map_eq_none_iff.mp here.symm]
    rfl
  | some item =>
    rw [held] at here
    obtain ⟨result, there, image⟩ := Option.map_eq_some_iff.mp here.symm
    simp only [there, Option.map_some, same place item result held image.symm]

theorem map_eq_of_mapM {α β γ : Type} {find : α → Option β} {items : List α} {results : List β}
    (found : items.mapM find = some results) {render : β → γ} {wording : α → γ}
    (same : ∀ item ∈ items, ∀ result, find item = some result → render result = wording item) :
    results.map render = items.map wording := by
  have indexed : results.zipIdx.map (render ∘ Prod.fst) = items.zipIdx.map (wording ∘ Prod.fst) :=
    map_zipIdx_eq_of_mapM found fun _ item result held image =>
      same item (List.mem_of_getElem? held) result image
  rwa [← List.map_map, ← List.map_map, List.zipIdx_map_fst, List.zipIdx_map_fst] at indexed

section

variable {context : Context} {function : Blockwork.Function} {image : Function}

/-- Every parameter has a name of its own. -/
theorem nodup_names (translated : function? context function = some image) :
    (image.parameters.map Parameter.name).Nodup := by
  simp only [function?, Option.bind_eq_bind, Option.bind_eq_some_iff] at translated
  obtain ⟨widths, -, result, -, images, -, same⟩ := translated
  cases same
  have names : (widths.mapIdx parameter).map Parameter.name =
      (List.range widths.length).map fun index => utf8 "p" ++ Bytes.decimal index := by
    refine List.ext_getElem (by simp) fun index inside _ => ?_
    simp [parameter]
  rw [names]
  exact List.nodup_range.map fun first second same =>
    Numeral.decimal_injective (List.append_cancel_left same)

/-- Every block has a label of its own. -/
theorem nodup_labels (translated : function? context function = some image) :
    (image.blocks.map BasicBlock.label).Nodup := by
  have labels : image.blocks.map BasicBlock.label =
      function.blocks.all.map fun (id, _) => label id := by
    refine map_eq_of_mapM (mapM_eq_some_iff.mpr (map_block? translated)) ?_
    rintro ⟨id, content⟩ - basic stands
    simp only [block?, Option.bind_eq_bind, Option.bind_eq_some_iff] at stands
    obtain ⟨instructions, -, terminator, -, same⟩ := stands
    cases same
    rfl
  have numbers : (function.blocks.all.map fun (id, _) => label id) =
      (List.range function.blocks.size).map label := by
    refine List.ext_getElem (by simp [Arena.all]) fun id inside _ => ?_
    simp [Arena.all]
  rw [labels, numbers]
  exact List.nodup_range.map fun first second same =>
    Numeral.decimal_injective (List.append_cancel_left same)

theorem nodup_computed (inner : function.WellFormed context) {id : BlockId} {content : Block}
    (held : function.blocks.get? id = some content) : (computed function content).Nodup := by
  rw [computed_eq inner held, computedBelow]
  exact List.nodup_range.filter _

/-- A value is computed in one block only. -/
theorem home_of_mem_computed (inner : function.WellFormed context) {id : BlockId} {content : Block}
    (held : function.blocks.get? id = some content) {value : ValueId}
    (member : value ∈ computed function content) : function.home? value = some id := by
  rw [computed_eq inner held, computedBelow, List.mem_filter, Bool.and_eq_true,
    decide_eq_true_iff] at member
  exact member.2.1

theorem length_instructions {id : BlockId} {content : Block} {basic : BasicBlock}
    (translated : block? context function id content = some basic) :
    basic.instructions.length = (computed function content).length := by
  simp only [block?, Option.bind_eq_bind, Option.bind_eq_some_iff] at translated
  obtain ⟨instructions, listed, terminator, -, same⟩ := translated
  cases same
  simpa using (congrArg List.length (mapM_eq_some_iff.mp listed)).symm

/-- The first number of a block is the number of values that are computed in the blocks before. -/
theorem firstNumber_eq (translated : function? context function = some image) (id : BlockId) :
    firstNumber image id =
      ((function.blocks.toList.take id).flatMap (computed function)).length := by
  have lengths : image.blocks.map (fun basic => basic.instructions.length) =
      function.blocks.toList.map (fun content => (computed function content).length) := by
    rw [map_eq_of_mapM (mapM_eq_some_iff.mpr (map_block? translated))
      fun _ _ _ same => length_instructions same, Arena.all, List.map_map]
    conv_rhs => rw [← List.zipIdx_map_fst 0 function.blocks.toList, List.map_map]
    rfl
  rw [firstNumber, List.map_take, lengths, ← List.map_take, List.length_flatMap, List.sum_eq_foldl]

/-- The number of a result is the place of its value among all that are computed. -/
theorem number_eq (inner : function.WellFormed context)
    (translated : function? context function = some image) {id : BlockId} {content : Block}
    (held : function.blocks.get? id = some content) {value : ValueId}
    (member : value ∈ computed function content) :
    firstNumber image id + (computed function content).idxOf value =
      (numbered function).idxOf value := by
  have earlier : value ∉ (function.blocks.toList.take id).flatMap (computed function) := by
    intro inside
    obtain ⟨other, taken, elsewhere⟩ := List.mem_flatMap.mp inside
    obtain ⟨place, before, rfl⟩ := List.mem_take_iff_getElem.mp taken
    have found := List.getElem?_eq_getElem (Nat.lt_of_lt_of_le before (Nat.min_le_right _ _))
    rw [← Arena.get?_eq_getElem?] at found
    have same := (home_of_mem_computed inner found elsewhere).symm.trans
      (home_of_mem_computed inner held member)
    have here : place = id := Option.some.inj same
    omega
  have split : function.blocks.toList = function.blocks.toList.take id ++
      content :: function.blocks.toList.drop (id + 1) := by
    rw [Arena.get?_eq_getElem?] at held
    obtain ⟨inside, rfl⟩ := List.getElem?_eq_some_iff.mp held
    rw [List.getElem_cons_drop, List.take_append_drop]
  have parts : numbered function = (function.blocks.toList.take id).flatMap (computed function) ++
      (computed function content ++
        (function.blocks.toList.drop (id + 1)).flatMap (computed function)) := by
    rw [numbered, ← List.flatMap_cons, ← List.flatMap_append, ← split]
  rw [firstNumber_eq translated, parts, List.idxOf_append_of_notMem earlier,
    List.idxOf_append_of_mem member]

/-- What stands for a value is written the way the value is referred to. -/
theorem operandText_eq (inner : function.WellFormed context)
    (translated : function? context function = some image) {id : ValueId} {operand : Operand}
    (stands : operand? context function id = some operand) :
    operandText image operand = reference context function id := by
  simp only [reference, stands]
  cases operand with
  | constant width value => rfl
  | parameter formal =>
    obtain ⟨index, width, rfl⟩ : ∃ index width, formal = parameter index width := by
      simp only [operand?, Option.bind_eq_bind, Option.bind_eq_some_iff] at stands
      obtain ⟨value, -, width, -, stands⟩ := stands
      split at stands
      · split at stands <;> cases stands
        exact ⟨_, _, rfl⟩
      · cases stands
      · obtain ⟨content, -, stands⟩ := Option.bind_eq_some_iff.mp stands
        split at stands <;> cases stands
    rw [operandText, localName, identifier_parameter]
  | result width block slot =>
    obtain ⟨content, held, member, rfl⟩ : ∃ content, function.blocks.get? block = some content ∧
        id ∈ computed function content ∧ slot = (computed function content).idxOf id := by
      simp only [operand?, Option.bind_eq_bind, Option.bind_eq_some_iff] at stands
      obtain ⟨value, -, width, -, stands⟩ := stands
      split at stands
      · split at stands <;> cases stands
      · cases stands
      · obtain ⟨content, held, stands⟩ := Option.bind_eq_some_iff.mp stands
        split at stands <;> cases stands
        exact ⟨content, held, ‹_›, rfl⟩
    rw [operandText, number_eq inner translated held member]

theorem typedText_eq (inner : function.WellFormed context)
    (translated : function? context function = some image) {id : ValueId} {operand : Operand}
    (stands : operand? context function id = some operand) :
    typedText image operand = typed context function id := by
  obtain ⟨value, found⟩ : ∃ value, function.values.get? id = some value := by
    simp only [operand?, Option.bind_eq_bind, Option.bind_eq_some_iff] at stands
    obtain ⟨value, found, -⟩ := stands
    exact ⟨value, found⟩
  have known : function.typeOf? id = some value.type :=
    Function.typeOf?_eq_some_iff.mpr ⟨value, found, rfl⟩
  have wide := width_operand? known stands
  rw [typedText, typed, operandText_eq inner translated stands, valueType, known]
  simp only [typeName, wide, typeText]

theorem map_typedText_eq (inner : function.WellFormed context)
    (translated : function? context function = some image) {ids : List ValueId}
    {operands : List Operand} (stand : ids.mapM (operand? context function) = some operands) :
    operands.map (typedText image) = ids.map (typed context function) := by
  exact map_eq_of_mapM stand fun _ _ _ stands => typedText_eq inner translated stands

/-- An operator is written as the opcode that stands for it. -/
theorem word_of_opcode? {operator : Operator} {opcode : Opcode}
    (coded : opcode? operator = some opcode) : opcode.word = operator.mnemonic := by
  simpa using List.find?_some coded

theorem instructionText_eq (inner : function.WellFormed context)
    (translated : function? context function = some image) {id : ValueId}
    {instruction : Instruction} (stands : instruction? context function id = some instruction) :
    instructionText image instruction = operation context function id := by
  simp only [instruction?, Option.bind_eq_bind, Option.bind_eq_some_iff] at stands
  obtain ⟨⟨type, origin⟩, found, stands⟩ := stands
  rcases origin with index | ⟨block, literal | ⟨callee, arguments⟩ | ⟨operator, left, right⟩⟩
  · cases stands
  · cases stands
  · simp only [Option.bind_eq_some_iff] at stands
    obtain ⟨target, reached, width, wide, operands, stand, same⟩ := stands
    cases same
    simp only [operation, found, Option.map_some, reached, instructionText, typeName, wide,
      typeText, map_typedText_eq inner translated stand]
  · simp only [Option.bind_eq_some_iff] at stands
    obtain ⟨opcode, coded, leftOperand, leftStands, rightOperand, rightStands, same⟩ := stands
    cases same
    simp only [operation, found, Option.map_some, instructionText, word_of_opcode? coded,
      typedText_eq inner translated leftStands, operandText_eq inner translated rightStands]

theorem terminatorText_eq (inner : function.WellFormed context)
    (translated : function? context function = some image)
    {ends : Option Blockwork.Terminator} {terminator : Terminator}
    (stands : terminator? context function ends = some terminator) :
    terminatorText image terminator = ending context function ends := by
  rcases ends with _ | target | value
  · cases stands
  · simp only [terminator?, Option.ite_none_right_eq_some, Option.some.injEq] at stands
    obtain ⟨-, rfl⟩ := stands
    rw [terminatorText, localName, identifier_label, ending, ← List.append_assoc]
    rfl
  · obtain ⟨operand, found, rfl⟩ := Option.map_eq_some_iff.mp stands
    rw [terminatorText, typedText_eq inner translated found, ending]

theorem blockText_eq (inner : function.WellFormed context)
    (translated : function? context function = some image) {id : BlockId} {content : Block}
    (held : function.blocks.get? id = some content) {basic : BasicBlock}
    (stands : block? context function id content = some basic) :
    blockText image id basic = paragraph context function id content := by
  simp only [block?, Option.bind_eq_bind, Option.bind_eq_some_iff] at stands
  obtain ⟨instructions, listed, terminator, ends, same⟩ := stands
  cases same
  have lines : (instructions.zipIdx.map fun entry =>
      utf8 "\t%" ++ Bytes.decimal (firstNumber image id + entry.2) ++ utf8 " = " ++
        instructionText image entry.1 ++ utf8 "\n") =
      (computed function content).map (line context function) := by
    rw [← List.zipIdx_map_fst 0 (computed function content), List.map_map]
    refine map_zipIdx_eq_of_mapM listed fun slot value instruction found image => ?_
    obtain ⟨inside, rfl⟩ := List.getElem?_eq_some_iff.mp found
    have number := number_eq inner translated held (List.getElem_mem inside)
    rw [(nodup_computed inner held).idxOf_getElem] at number
    simp only [Function.comp_apply, number, line, instructionText_eq inner translated image]
  rw [blockText, paragraph, terminatorText_eq inner translated ends, List.flatMap_def,
    List.flatMap_def, ← lines]
  simp only [identifier_label]

theorem functionText_eq (inner : function.WellFormed context) (entered : 0 < function.blocks.size)
    (translated : function? context function = some image) :
    functionText image = definition context function := by
  have blocks : (image.blocks.zipIdx.map fun entry => blockText image entry.2 entry.1) =
      function.blocks.all.map fun entry => paragraph context function entry.1 entry.2 := by
    rw [← List.zipIdx_map_fst 0 function.blocks.all, List.map_map]
    refine map_zipIdx_eq_of_mapM (mapM_eq_some_iff.mpr (map_block? translated)) ?_
    rintro place ⟨id, content⟩ basic found stands
    rw [getElem?_all, Option.map_eq_some_iff] at found
    obtain ⟨_, held, same⟩ := found
    cases same
    exact blockText_eq inner translated held stands
  have defined : image.blocks.isEmpty = false := by
    rw [List.isEmpty_eq_false_iff, ← List.length_pos_iff, length_blocks translated]
    exact entered
  have opened := translated
  simp only [function?, Option.bind_eq_bind, Option.bind_eq_some_iff] at opened
  obtain ⟨widths, inputs, result, output, images, -, same⟩ := opened
  have parameters : (image.parameters.map fun formal =>
      typeText formal.width ++ utf8 " " ++ localName formal.name) =
      function.signature.inputs.mapIdx fun index type =>
        typeName context type ++ utf8 " %p" ++ Bytes.decimal index := by
    cases same
    rw [List.mapIdx_eq_zipIdx_map, List.map_map, List.mapIdx_eq_zipIdx_map]
    refine map_zipIdx_eq_of_mapM inputs fun index type width _ wide => ?_
    simp only [Function.comp_apply, typeName, wide, localName, identifier_parameter]
    simp [typeText, parameter, utf8]
  rw [functionText, defined, if_neg Bool.false_ne_true, blocks, headText, parameters, definition]
  cases same
  simp only [typeName, output, typeText, List.append_assoc]

end

/-- The text of the image of a complete context is read off the context. -/
theorem text_eq {context : Context} (formed : context.WellFormed)
    (complete : context.validate = .ok ()) {module : Module}
    (translated : module? context = some module) : module.text = text context := by
  obtain ⟨alive, completes⟩ := Context.validate_eq_ok_iff.mp complete
  have listed : context.listFunctions = context.functions.toList := by
    rw [Context.listFunctions, if_neg alive]
  rw [Module.text, text]
  congr 1
  refine map_eq_of_mapM translated fun function member image same => ?_
  rw [listed] at member
  obtain ⟨position, held⟩ := Arena.mem_toList_iff.mp member
  exact functionText_eq (formed.functions position function held)
    (completes position function held).entry same

end Translation
end Llvm
namespace Store

variable {World : Type}

open Llvm in
/-- After every run, a context that is complete and has no comparison is emitted exactly as it is
translated block by block, and written as it is read off block by block. Each function is defined,
not only declared, no two of its parameters and no two of its blocks have one name, and what stands
for a value that is computed is the instruction of that very value, at its place in its block. -/
theorem run_translation (world : World) (operations : List (Operation World)) (context : Context)
    (member : context ∈ (run {} world operations).contexts) (complete : context.validate = .ok ())
    (plain : ∀ function ∈ context.listFunctions, ∀ value ∈ function.values.toList,
      value.comparison? = none) :
    ∃ module, Translation.module? context = some module ∧
      (emit context fun _ => false).outcome = .ok module ∧
      module.text = Translation.text context ∧
      ∀ position function, context.function? position = some function →
        ∃ image, module[position]? = some image ∧ image.blocks ≠ [] ∧
          (image.parameters.map Parameter.name).Nodup ∧ (image.blocks.map BasicBlock.label).Nodup ∧
          ∀ id bits block slot,
            Translation.operand? context function id = some (.result bits block slot) →
            ∃ basic instruction, image.blocks[block]? = some basic ∧
              basic.instructions[slot]? = some instruction ∧
              Translation.instruction? context function id = some instruction := by
  obtain ⟨alive, completes⟩ := Context.validate_eq_ok_iff.mp complete
  have listed : context.listFunctions = context.functions.toList := by
    rw [Context.listFunctions, if_neg alive]
  have plainAt (id : FunctionId) (function : Function)
      (found : context.functions.get? id = some function) : function.Plain := by
    intro number value held
    refine plain function ?_ value (Arena.mem_toList_iff.mpr ⟨number, held⟩)
    exact listed ▸ Arena.mem_toList_iff.mpr ⟨id, found⟩
  obtain ⟨module, translated, emitted⟩ :=
    Translation.module_agree (wellFormed_of_mem_run member) complete plainAt
  have formed := wellFormed_of_mem_run member
  refine ⟨module, translated, emitted, Translation.text_eq formed complete translated,
    fun position function found => ?_⟩
  have held : context.functions.get? position = some function := by
    simpa [Context.function?, alive] using found
  rw [Translation.module?, listed] at translated
  have here := congrArg (·[position]?) (Translation.mapM_eq_some_iff.mp translated)
  simp only [List.getElem?_map, ← Arena.get?_eq_getElem?, held, Option.map_some] at here
  obtain ⟨image, imageFound, imageTranslated⟩ := Option.map_eq_some_iff.mp here.symm
  refine ⟨image, imageFound, ?_, Translation.nodup_names imageTranslated.symm,
    Translation.nodup_labels imageTranslated.symm, fun id bits block slot stands =>
      Translation.instruction_of_operand? imageTranslated.symm stands⟩
  rw [← List.length_pos_iff, Translation.length_blocks imageTranslated.symm]
  exact (completes position function held).entry

/-- A run that builds the values of a function across its two blocks: a sum in the second, of a
parameter and of a literal that is too large for its type, and a call in the first that takes the
sum. -/
def crossedRun : List (Operation Unit) := [
  .newContext false,
  .addFunction (some 0) (utf8 "f") ⟨[3], 3⟩,
  .addBlock (some ⟨0, 0⟩),
  .addBlock (some ⟨0, 0⟩),
  .const (some ⟨0, 0, 0⟩) 3 300,
  .binary (some ⟨0, 0, 1⟩) Operator.add.code (some ⟨0, 0, 0⟩) (some ⟨0, 0, 1⟩),
  .call (some ⟨0, 0, 0⟩) (some ⟨0, 0⟩) [some ⟨0, 0, 2⟩],
  .branch (some ⟨0, 0, 0⟩) (some ⟨0, 0, 1⟩),
  .result (some ⟨0, 0, 1⟩) (some ⟨0, 0, 3⟩)]

open Llvm in
theorem run_translation_crossedRun :
    ∃ context ∈ (run {} () crossedRun).contexts,
      (emit context fun _ => false).outcome = .ok [{
        name := utf8 "f"
        width := 8
        parameters := [⟨utf8 "p0", 8⟩]
        blocks := [
          ⟨utf8 "bb0", [.call 8 (utf8 "f") [.result 8 1 0]], .branch (utf8 "bb1")⟩,
          ⟨utf8 "bb1", [.binary .add (.parameter ⟨utf8 "p0", 8⟩) (.constant 8 44)],
            .result (.result 8 0 0)⟩] }] := by
  have facts : ((run {} () crossedRun).contexts[0]?.map fun context =>
      (context.validate.toOption, context.listFunctions.all fun function =>
        function.values.toList.all fun value => value.comparison? = none,
        Translation.module? context)) = some (some (), true, some [{
          name := utf8 "f"
          width := 8
          parameters := [⟨utf8 "p0", 8⟩]
          blocks := [
            ⟨utf8 "bb0", [.call 8 (utf8 "f") [.result 8 1 0]], .branch (utf8 "bb1")⟩,
            ⟨utf8 "bb1", [.binary .add (.parameter ⟨utf8 "p0", 8⟩) (.constant 8 44)],
              .result (.result 8 0 0)⟩] }]) := by
    decide
  obtain ⟨context, held, summary⟩ := Option.map_eq_some_iff.mp facts
  obtain ⟨complete, plain, expected⟩ := by simpa only [Prod.mk.injEq] using summary
  have member := Array.mem_of_getElem? held
  have accepted : context.validate = .ok () := by
    cases verdict : context.validate with
    | error failure => simp [verdict, Except.toOption] at complete
    | ok _ => rfl
  obtain ⟨module, translated, emitted, -⟩ :=
    run_translation () crossedRun context member accepted (by simpa using plain)
  rw [expected] at translated
  cases translated
  exact ⟨context, member, emitted⟩

end Store
end Blockwork
