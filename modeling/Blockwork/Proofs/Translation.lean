import Blockwork.Llvm.Emit
import Blockwork.Proofs.Order

/-!
# Translation block by block

The module of a context can be read off block by block: the instructions of a block are the images of
the values that it lists, each with the opcode that is spelled like its operator, and an operand is
known from the value that it stands for. Emission goes another way, by number through the whole
function, and keeps what it has emitted. After any number of values, what it keeps is what the
translation of these values is.
-/

namespace Blockwork

/-- The operator of a comparison; none for any other value. -/
def Value.comparison? (value : Value) : Option Operator :=
  match value.origin with
  | .instruction _ (.binary operator _ _) => if operator.isComparison then some operator else none
  | _ => none

namespace Llvm
namespace Translation

/-- The width of the integers that stand for a type: one for truth values, its own for an
integer. -/
def width? (context : Context) (id : TypeId) : Option Nat := do
  let type ← context.types.lookup? id
  if type = .bool then some 1
  else if type = .int type.width then some type.width.toNat
  else none

/-- The opcode with the word of an operator. Comparisons have none. -/
def opcode? (operator : Operator) : Option Opcode :=
  Opcode.all.find? fun opcode => opcode.word = operator.mnemonic

/-- The parameter at a position. -/
def parameter (index width : Nat) : Parameter := ⟨utf8 "p" ++ Bytes.decimal index, width⟩

/-- The label of the block with a number. -/
def label (block : BlockId) : Bytes := utf8 "bb" ++ Bytes.decimal block

/-- Whether an instruction stands for a value. Parameters and constants are used where they
stand. -/
def isComputed (function : Blockwork.Function) (id : ValueId) : Bool :=
  match (function.values.get? id).map Value.origin with
  | some (.instruction _ (.binary _ _ _)) => true
  | some (.instruction _ (.call _ _)) => true
  | _ => false

/-- The values of a block for which instructions stand, in order. -/
def computed (function : Blockwork.Function) (content : Block) : List ValueId :=
  content.values.toList.filter (isComputed function)

/-- What stands for a value: a parameter, the part of a literal that its width can hold, or the
result of the instruction of that very value, found in its block at the place that the value has
there. -/
def operand? (context : Context) (function : Blockwork.Function) (id : ValueId) :
    Option Operand := do
  let value ← function.values.get? id
  let width ← width? context value.type
  match value.origin with
  | .parameter index =>
    if index < function.signature.inputs.length then some (.parameter (parameter index width))
    else none
  | .instruction _ (.const literal) => some (.constant width (literal.toNat % Nat.pow 2 width))
  | .instruction block _ =>
    let content ← function.blocks.get? block
    if id ∈ computed function content then
      some (.result width block ((computed function content).idxOf id))
    else none

/-- The instruction that stands for a value. Comparisons have none. -/
def instruction? (context : Context) (function : Blockwork.Function) (id : ValueId) :
    Option Instruction := do
  let value ← function.values.get? id
  match value.origin with
  | .instruction _ (.binary operator left right) =>
    let opcode ← opcode? operator
    let left ← operand? context function left
    let right ← operand? context function right
    some (.binary opcode left right)
  | .instruction _ (.call callee arguments) =>
    let target ← context.function? callee
    let width ← width? context target.signature.output
    let arguments ← arguments.mapM (operand? context function)
    some (.call width target.name arguments)
  | _ => none

/-- The end of a block. -/
def terminator? (context : Context) (function : Blockwork.Function) :
    Option Blockwork.Terminator → Option Terminator
  | some (.branch target) =>
    if target < function.blocks.size then some (.branch (label target)) else none
  | some (.result value) => (operand? context function value).map .result
  | none => none

/-- A block: its label, the images of its values in order, and its end. -/
def block? (context : Context) (function : Blockwork.Function) (id : BlockId) (content : Block) :
    Option BasicBlock := do
  let instructions ← (computed function content).mapM (instruction? context function)
  let terminator ← terminator? context function content.terminator
  some ⟨label id, instructions, terminator⟩

/-- A function: its name, the width of its result, its parameters and its blocks in order. -/
def function? (context : Context) (function : Blockwork.Function) : Option Function := do
  let widths ← function.signature.inputs.mapM (width? context)
  let result ← width? context function.signature.output
  let blocks ← function.blocks.all.mapM fun (id, content) => block? context function id content
  some ⟨function.name, result, widths.mapIdx parameter, blocks⟩

/-- The module of a context: its functions in order of creation. -/
def module? (context : Context) : Option Module :=
  context.listFunctions.mapM (function? context)

/-! ## Results that are there -/

theorem mapM_eq_some_iff {α β : Type} {find : α → Option β} {items : List α} {results : List β} :
    items.mapM find = some results ↔ items.map find = results.map some := by
  induction items generalizing results with
  | nil => cases results <;> simp
  | cons item rest ih =>
    simp only [List.mapM_cons, Option.bind_eq_bind, Option.bind_eq_some_iff, Option.pure_def,
      Option.some.injEq, ih]
    cases results with
    | nil => simp
    | cons result results => simp [and_comm]

/-- Where each item is translated to what is emitted for it, so are all together. -/
theorem mapM_agree {α β ε : Type} {find : α → Option β} {make : α → Except ε β} {items : List α}
    (each : ∀ item ∈ items, ∃ result, find item = some result ∧ make item = .ok result) :
    ∃ results, items.mapM find = some results ∧ items.mapM make = .ok results := by
  induction items with
  | nil => exact ⟨[], rfl, rfl⟩
  | cons item rest ih =>
    obtain ⟨result, found, made⟩ := each item List.mem_cons_self
    obtain ⟨results, allFound, allMade⟩ :=
      ih fun other member => each other (List.mem_cons_of_mem _ member)
    refine ⟨result :: results, ?_, ?_⟩
    · rw [List.mapM_cons, found, allFound]
      rfl
    · rw [List.mapM_cons, made, allMade]
      rfl

/-! ## Types, slots and literals -/

variable {context : Context} {function : Blockwork.Function}

/-- The width of a known type is emitted as it is translated. -/
theorem width_agree (formed : context.WellFormed) {id : TypeId}
    (known : (context.types.lookup? id).isSome) :
    ∃ bits, width? context id = some bits ∧ width context id = .ok bits := by
  obtain ⟨type, found⟩ := Option.isSome_iff_exists.mp known
  obtain ⟨kind, bits⟩ := type
  have valid := formed.types.valid id _ found
  simp only [width?, width, found, Option.bind_eq_bind, Option.bind_some]
  rcases valid with ⟨isInt, -, -⟩ | ⟨isBool, isZero⟩
  · obtain rfl : kind = 1 := isInt
    exact ⟨bits.toNat, by simp [Descriptor.bool, Descriptor.int], rfl⟩
  · obtain rfl : kind = 2 := isBool
    obtain rfl : bits = 0 := isZero
    exact ⟨1, rfl, rfl⟩

/-- The opcode of an operator is the one that is spelled like it. -/
theorem opcode_agree {operator : Operator} (arithmetic : operator.isComparison = false) :
    opcode? operator = some (opcode operator) := by
  cases operator <;> first | rfl | cases arithmetic

/-- A literal is below what its type can hold from sixty-four bits on. -/
theorem truncate_eq (bits : Nat) (literal : UInt64) :
    truncate bits literal = literal.toNat % Nat.pow 2 bits := by
  unfold truncate
  split
  · rfl
  · rename_i wide
    have small : literal.toNat < 2 ^ bits :=
      Nat.lt_of_lt_of_le literal.toNat_lt (Nat.pow_le_pow_right (by decide) (Nat.le_of_not_lt wide))
    exact (Nat.mod_eq_of_lt small).symm

/-- The values of a block for which instructions stand, among those with a number below a bound. -/
def computedBelow (function : Blockwork.Function) (block : BlockId) (bound : Nat) : List ValueId :=
  (List.range bound).filter fun id => function.home? id = some block && isComputed function id

theorem computed_eq (formed : function.WellFormed context) {block : BlockId} {content : Block}
    (found : function.blocks.get? block = some content) :
    computed function content = computedBelow function block function.values.size := by
  rw [computed, formed.listed block content found, List.filter_filter, computedBelow]
  congr 1
  funext id
  exact Bool.and_comm _ _

theorem idxOf_filter_range {accepts : Nat → Bool} {number bound : Nat} (below : number < bound)
    (accepted : accepts number = true) :
    ((List.range bound).filter accepts).idxOf number =
      ((List.range number).filter accepts).length := by
  obtain ⟨rest, rfl⟩ := Nat.exists_eq_add_of_lt below
  have outside : number ∉ (List.range number).filter accepts := by simp
  rw [Nat.add_assoc, List.range_add, List.filter_append, List.idxOf_append_of_notMem outside,
    List.range_succ_eq_map, List.map_cons, Nat.add_zero, List.filter_cons_of_pos accepted,
    List.idxOf_cons_self, Nat.add_zero]

theorem computedBelow_succ (function : Blockwork.Function) (block : BlockId) (bound : Nat) :
    computedBelow function block (bound + 1) = computedBelow function block bound ++
      if function.home? bound = some block && isComputed function bound then [bound] else [] := by
  simp only [computedBelow, List.range_succ, List.filter_append, List.filter_singleton,
    cond_eq_ite]

/-! ## What stands for a value -/

theorem operand?_parameter {id : ValueId} {type : TypeId} {bits index : Nat}
    (found : function.values.get? id = some ⟨type, .parameter index⟩)
    (inside : index < function.signature.inputs.length) (wide : width? context type = some bits) :
    operand? context function id = some (.parameter (parameter index bits)) := by
  simp [operand?, found, wide, inside]

theorem operand?_const {id : ValueId} {type : TypeId} {bits : Nat} {block : BlockId}
    {literal : UInt64}
    (found : function.values.get? id = some ⟨type, .instruction block (.const literal)⟩)
    (wide : width? context type = some bits) :
    operand? context function id = some (.constant bits (truncate bits literal)) := by
  simp [operand?, found, wide, truncate_eq]

/-- The place of an instruction in its block is the number of instructions of the block that belong
to earlier values. -/
theorem operand?_computed (formed : function.WellFormed context) {id : ValueId} {type : TypeId}
    {bits : Nat} {block : BlockId} {instruction : Blockwork.Instruction}
    (found : function.values.get? id = some ⟨type, .instruction block instruction⟩)
    (standing : isComputed function id = true) (wide : width? context type = some bits) :
    operand? context function id =
      some (.result bits block (computedBelow function block id).length) := by
  obtain ⟨content, blockFound⟩ := Arena.exists_get?_of_lt (formed.instruction_laws found).1
  have home : function.home? id = some block := Function.home?_eq_some_iff.mpr ⟨type, _, found⟩
  have accepted : (function.home? id = some block && isComputed function id) = true := by
    simp [home, standing]
  have below := Arena.get?_eq_some_lt found
  have member : id ∈ computed function content := by
    rw [computed_eq formed blockFound, computedBelow, List.mem_filter]
    exact ⟨List.mem_range.mpr below, accepted⟩
  have place : (computed function content).idxOf id = (computedBelow function block id).length := by
    rw [computed_eq formed blockFound]
    exact idxOf_filter_range below accepted
  cases instruction with
  | const literal => simp [isComputed, found] at standing
  | call callee arguments => simp [operand?, found, wide, blockFound, member, place]
  | binary operator left right => simp [operand?, found, wide, blockFound, member, place]

/-- The width of what stands for a value is that of its type. -/
theorem width_operand? {id : ValueId} {type : TypeId} {operand : Operand}
    (typed : function.typeOf? id = some type)
    (stands : operand? context function id = some operand) :
    width? context type = some operand.width := by
  obtain ⟨value, found, rfl⟩ := Function.typeOf?_eq_some_iff.mp typed
  simp only [operand?, found, Option.bind_eq_bind, Option.bind_some,
    Option.bind_eq_some_iff] at stands
  obtain ⟨bits, wide, stands⟩ := stands
  rw [wide]
  split at stands
  · split at stands <;> cases stands
    rfl
  · cases stands
    rfl
  · obtain ⟨content, -, stands⟩ := Option.bind_eq_some_iff.mp stands
    split at stands <;> cases stands
    rfl

/-! ## Emission by number -/

/-- What has been emitted is the translation of the values with a number below a bound. -/
structure Covers (context : Context) (function : Blockwork.Function) (bound : Nat)
    (progress : Progress) : Prop where
  /-- What stands for each of the values. -/
  operands : progress.operands.toList.map some =
    (List.range bound).map (operand? context function)
  /-- Every block has been begun. -/
  size : progress.blocks.size = function.blocks.size
  /-- The label and the instructions of each block. -/
  blocks : ∀ block emitted, progress.blocks[block]? = some emitted →
    emitted.label = label block ∧ emitted.instructions.toList.map some =
      (computedBelow function block bound).map (instruction? context function)

namespace Covers

variable {bound : Nat} {progress : Progress}

theorem start (context : Context) (function : Blockwork.Function) :
    Covers context function 0 (.start function) where
  operands := rfl
  size := by simp [Progress.start]
  blocks block emitted found := by
    obtain ⟨inside, rfl⟩ := Array.getElem?_eq_some_iff.mp found
    simp [Progress.start, computedBelow, blockName, label]

/-- What stands for a value with a smaller number is at hand. -/
theorem operand (covers : Covers context function bound progress) {id : ValueId}
    (below : id < bound) :
    ∃ operand, operand? context function id = some operand ∧ progress.operand id = .ok operand := by
  have lookup := congrArg (·[id]?) covers.operands
  simp only [List.getElem?_map, Array.getElem?_toList, List.getElem?_range below,
    Option.map_some] at lookup
  obtain ⟨operand, held, stands⟩ := Option.map_eq_some_iff.mp lookup
  exact ⟨operand, stands.symm, by rw [Progress.operand, held]⟩

/-- A value that is used where it stands leaves the blocks as they are. -/
theorem push (covers : Covers context function bound progress) {operand : Operand}
    (inline : isComputed function bound = false)
    (stands : operand? context function bound = some operand) :
    Covers context function (bound + 1)
      { progress with operands := progress.operands.push operand } where
  operands := by simp [List.range_succ, covers.operands, stands]
  size := covers.size
  blocks block emitted found := by
    simpa [computedBelow_succ, inline] using covers.blocks block emitted found

/-- An instruction lands in its block behind those that have been emitted there. -/
theorem append (covers : Covers context function bound progress) {block : BlockId}
    {instruction : Instruction} (inside : block < function.blocks.size)
    (home : function.home? bound = some block) (standing : isComputed function bound = true)
    (image : instruction? context function bound = some instruction)
    (stands : operand? context function bound =
      some (.result instruction.width block (computedBelow function block bound).length)) :
    ∃ progress', progress.append block instruction = .ok progress' ∧
      Covers context function (bound + 1) progress' := by
  rw [← covers.size] at inside
  have emitted := Array.getElem?_eq_getElem inside
  obtain ⟨labelled, listed⟩ := covers.blocks block _ emitted
  have length : progress.blocks[block].instructions.size =
      (computedBelow function block bound).length := by
    simpa using congrArg List.length listed
  refine ⟨_, by simp only [Progress.append, emitted]; rfl, ?_, ?_, ?_⟩
  · simp [List.range_succ, covers.operands, stands, ← length]
  · simpa using covers.size
  · intro other content found
    rw [Array.getElem?_modify] at found
    rw [computedBelow_succ, List.map_append]
    by_cases here : block = other
    · subst here
      rw [if_pos rfl, emitted] at found
      cases found
      simp [labelled, listed, home, standing, image]
    · rw [if_neg here] at found
      simp [covers.blocks other content found, home, here]

theorem call (formed : context.WellFormed) (alive : context.phase ≠ .destroyed)
    (inner : function.WellFormed context) (covers : Covers context function bound progress)
    {type : TypeId} {block : BlockId} {callee : FunctionId} {arguments : List ValueId}
    (found : function.values.get? bound =
      some ⟨type, .instruction block (.call callee arguments)⟩) :
    ∃ progress',
      emitInstruction context progress bound type block (.call callee arguments) = .ok progress' ∧
      Covers context function (bound + 1) progress' := by
  obtain ⟨inside, earlier, target, targetFound, -, rfl⟩ := inner.instruction_laws found
  have home : function.home? bound = some block := Function.home?_eq_some_iff.mpr ⟨_, _, found⟩
  have standing : isComputed function bound = true := by simp [isComputed, found]
  have reached : context.function? callee = some target := by
    simp [Context.function?, alive, targetFound]
  obtain ⟨bits, wide, widthEmitted⟩ := width_agree formed (inner.typed bound _ found)
  obtain ⟨operands, translated, emitted⟩ :
      ∃ operands, arguments.mapM (operand? context function) = some operands ∧
        arguments.mapM progress.operand = .ok operands :=
    mapM_agree fun argument member => covers.operand (earlier argument member)
  have image : instruction? context function bound = some (.call bits target.name operands) := by
    simp [instruction?, found, reached, wide, translated]
  obtain ⟨progress', appended, covers'⟩ := covers.append inside home standing image
    (operand?_computed inner found standing wide)
  refine ⟨progress', ?_, covers'⟩
  simp only [emitInstruction, reached, widthEmitted, emitted, ok_bind, appended]

theorem binary (inner : function.WellFormed context)
    (covers : Covers context function bound progress) {type : TypeId} {block : BlockId}
    {operator : Operator} {left right : ValueId}
    (found : function.values.get? bound =
      some ⟨type, .instruction block (.binary operator left right)⟩)
    (arithmetic : operator.isComparison = false) :
    ∃ progress', emitInstruction context progress bound type block
        (.binary operator left right) = .ok progress' ∧
      Covers context function (bound + 1) progress' := by
  obtain ⟨inside, earlier, shared, leftTyped, -, result⟩ := inner.instruction_laws found
  obtain rfl : type = shared := by simpa [arithmetic] using result
  have home : function.home? bound = some block := Function.home?_eq_some_iff.mpr ⟨_, _, found⟩
  have standing : isComputed function bound = true := by simp [isComputed, found]
  obtain ⟨leftOperand, leftStands, leftEmitted⟩ :=
    covers.operand (earlier left (by simp [Blockwork.Instruction.operands]))
  obtain ⟨rightOperand, rightStands, rightEmitted⟩ :=
    covers.operand (earlier right (by simp [Blockwork.Instruction.operands]))
  have image : instruction? context function bound =
      some (.binary (opcode operator) leftOperand rightOperand) := by
    simp [instruction?, found, opcode_agree arithmetic, leftStands, rightStands]
  -- The width of a result is that of its left operand, which has the type of the value.
  have wide : width? context type =
      some (Instruction.binary (opcode operator) leftOperand rightOperand).width :=
    width_operand? leftTyped leftStands
  obtain ⟨progress', appended, covers'⟩ := covers.append inside home standing image
    (operand?_computed inner found standing wide)
  refine ⟨progress', ?_, covers'⟩
  simp only [emitInstruction, arithmetic, Bool.false_eq_true, if_false, leftEmitted, rightEmitted,
    ok_bind, appended]

/-- Every value but a comparison can be emitted once those before it are. -/
theorem step (formed : context.WellFormed) (alive : context.phase ≠ .destroyed)
    (inner : function.WellFormed context) (covers : Covers context function bound progress)
    {widths : List Nat} (translated : function.signature.inputs.mapM (width? context) = some widths)
    {value : Value} (found : function.values.get? bound = some value)
    (plain : value.comparison? = none) :
    ∃ progress', emitValue context (widths.mapIdx parameter) progress bound value = .ok progress' ∧
      Covers context function (bound + 1) progress' := by
  obtain ⟨type, origin⟩ := value
  obtain ⟨bits, wide, widthEmitted⟩ := width_agree formed (inner.typed bound _ found)
  cases origin with
  | parameter index =>
    obtain ⟨inside, declared⟩ : ∃ inside : index < function.signature.inputs.length,
        function.signature.inputs[index] = type := by
      rcases inner.parameter_or_instruction found with ⟨early, -⟩ | ⟨-, block, instruction, other⟩
      · have parameter := inner.parameters bound _ (List.getElem?_eq_getElem early)
        cases found.symm.trans parameter
        exact ⟨early, rfl⟩
      · cases other
    have formal : (widths.mapIdx parameter)[index]? = some (parameter index bits) := by
      have here := congrArg (·[index]?) (mapM_eq_some_iff.mp translated)
      simp only [List.getElem?_map, List.getElem?_eq_getElem inside, declared, Option.map_some,
        wide] at here
      obtain ⟨_, held, same⟩ := Option.map_eq_some_iff.mp here.symm
      rw [List.getElem?_mapIdx, held, Option.some.inj same, Option.map_some]
    refine ⟨_, by simp only [emitValue, formal]; rfl, covers.push ?_ ?_⟩
    · simp [isComputed, found]
    · exact operand?_parameter found inside wide
  | instruction block instruction =>
    cases instruction with
    | const literal =>
      refine ⟨_, by simp only [emitValue, emitInstruction, widthEmitted, ok_bind]; rfl,
        covers.push ?_ ?_⟩
      · simp [isComputed, found]
      · exact operand?_const found wide
    | call callee arguments => exact covers.call formed alive inner found
    | binary operator left right =>
      refine covers.binary inner found ?_
      simpa [Value.comparison?] using plain

end Covers

theorem emitValues_append (context : Context) (parameters : List Parameter) (progress : Progress)
    (first second : List (ValueId × Value)) :
    (emitValues context parameters progress (first ++ second)).2 =
      (emitValues context parameters progress first).2.bind fun progress =>
        (emitValues context parameters progress second).2 := by
  induction first generalizing progress with
  | nil => rfl
  | cons entry rest ih =>
    rw [List.cons_append, emitValues, emitValues]
    cases emitValue context parameters progress entry.1 entry.2 with
    | error error => rfl
    | ok next => exact ih next

theorem getElem?_all {α : Type} (arena : Arena α) (handle : Nat) :
    arena.all[handle]? = (arena.get? handle).map (handle, ·) := by
  rw [Arena.all, List.getElem?_map, List.getElem?_zipIdx, Arena.get?_eq_getElem?]
  cases arena.toList[handle]? <;> simp

theorem take_all_succ {α : Type} {arena : Arena α} {handle : Nat} {entry : α}
    (found : arena.get? handle = some entry) :
    arena.all.take (handle + 1) = arena.all.take handle ++ [(handle, entry)] := by
  rw [List.take_add_one, getElem?_all, found]
  rfl

/-- As long as no comparison is met, emission covers one value after the other. -/
theorem exists_covers (formed : context.WellFormed) (alive : context.phase ≠ .destroyed)
    (inner : function.WellFormed context) {widths : List Nat}
    (translated : function.signature.inputs.mapM (width? context) = some widths)
    {bound : Nat} (inside : bound ≤ function.values.size)
    (plain : ∀ id value, id < bound → function.values.get? id = some value →
      value.comparison? = none) :
    ∃ progress, (emitValues context (widths.mapIdx parameter) (.start function)
        (function.values.all.take bound)).2 = .ok progress ∧
      Covers context function bound progress := by
  induction bound with
  | zero => exact ⟨_, by rw [List.take_zero]; rfl, .start context function⟩
  | succ bound ih =>
    obtain ⟨progress, emitted, covers⟩ := ih (Nat.le_of_succ_le inside) fun id value below =>
      plain id value (Nat.lt_succ_of_lt below)
    obtain ⟨value, found⟩ := Arena.exists_get?_of_lt inside
    obtain ⟨progress', stepped, covers'⟩ := covers.step formed alive inner translated found
      (plain bound value (Nat.lt_succ_self bound) found)
    refine ⟨progress', ?_, covers'⟩
    rw [take_all_succ found, emitValues_append, emitted]
    simp [Except.bind, emitValues, stepped]

end Translation
end Llvm
end Blockwork
