import Blockwork.Proofs.Decoding
import Blockwork.Proofs.Observation
import Blockwork.Proofs.Rebuild
import Blockwork.Snapshot.Restore
import Blockwork.Snapshot.Take

/-!
# Restoring what was taken

The snapshot of a well-formed context can be written down from its outlines, so there always is one.
Restoring it builds the outlines again, step by step: all headers, and then function by function the
blocks, the values and the ends.
-/

namespace Blockwork

theorem mapM_eq_some_map {α β : Type} {find : α → Option β} {make : α → β} {list : List α}
    (found : ∀ item ∈ list, find item = some (make item)) :
    list.mapM find = some (list.map make) := by
  induction list with
  | nil => rfl
  | cons item rest ih =>
    rw [List.mapM_cons, found item List.mem_cons_self,
      ih fun other member => found other (List.mem_cons_of_mem _ member)]
    rfl

/-- What a terminator refers to, by number. -/
def Terminator.reference : Terminator → Nat
  | .branch target => target
  | .result value => value

/-- Every number in a function fits a signed word of thirty-two bits. -/
structure Outline.Addressable (outline : Outline) : Prop where
  /-- The numbers of the blocks that values name. -/
  blocks : ∀ type block instruction, (type, .instruction block instruction) ∈ outline.values →
    block < 0x80000000
  /-- The numbers of operands. -/
  operands : ∀ type block instruction, (type, .instruction block instruction) ∈ outline.values →
    ∀ operand ∈ Instruction.operands instruction, operand < 0x80000000
  /-- The numbers in terminators. -/
  ends : ∀ terminator, some terminator ∈ outline.ends → terminator.reference < 0x80000000

namespace Snapshot

/-! ## Taking -/

/-- The name of a function among others. -/
def nameIn (outlines : List Outline) (id : FunctionId) : Bytes :=
  (outlines[id]?.map Outline.name).getD []

/-- An instruction written down. -/
def record (outlines : List Outline) (type : Descriptor) (block : BlockId) :
    Instruction → SnapshotValue
  | .const literal => { kind := KindCode.const, block := Int32.ofNat block, type, literal }
  | .call callee arguments =>
    { kind := KindCode.call
      block := Int32.ofNat block
      type
      callee := nameIn outlines callee
      arguments := arguments.map Int32.ofNat }
  | .binary operator left right =>
    { kind := operator.code
      block := Int32.ofNat block
      type
      left := Int32.ofNat left
      right := Int32.ofNat right }

/-- A value written down; a parameter leaves no trace. -/
def recordValue (outlines : List Outline) : Option Descriptor × Origin → List SnapshotValue
  | (_, .parameter _) => []
  | (type, .instruction block instruction) =>
    [record outlines (type.getD .invalid) block instruction]

/-- A function written down. -/
def recordFunction (outlines : List Outline) (outline : Outline) : SnapshotFunction where
  name := outline.name
  inputs := outline.inputs.map fun type => type.getD .invalid
  output := outline.output.getD .invalid
  blocks := outline.ends.map takeTerminator
  values := outline.values.flatMap (recordValue outlines)

/-- Functions written down. -/
def recordAll (optimize : Bool) (outlines : List Outline) : Snapshot where
  schema := currentSchema
  optimize := optimize
  functions := outlines.map (recordFunction outlines)

variable {context : Context}

theorem takeValue_eq_record (alive : context.phase ≠ .destroyed) {function : Function}
    (formed : function.WellFormed context) {id : ValueId} {value : Value}
    (found : function.values.get? id = some value) :
    takeValue context function value =
      some (recordValue context.outlines (value.described context.types)) := by
  obtain ⟨type, known⟩ := Option.isSome_iff_exists.mp (formed.typed id value found)
  obtain ⟨number, origin⟩ := value
  cases origin with
  | parameter index => rfl
  | instruction block instruction =>
    have known : context.types.lookup? number = some type := known
    obtain ⟨-, -, fits⟩ := formed.instruction_laws found
    have inside := fits.lt_size
    simp only [takeValue, recordValue, Value.described, known, Option.bind_eq_bind,
      Option.bind_some, Option.getD_some]
    cases instruction with
    | const literal => rfl
    | call callee arguments =>
      obtain ⟨target, targetFound, -, -⟩ := fits
      have all : arguments.all (· < function.values.size) = true := by
        simpa [Instruction.operands] using inside
      have name : nameIn context.outlines callee = target.name := by
        rw [nameIn, Context.getElem?_outlines, targetFound]
        rfl
      simp [Context.function?, alive, targetFound, all, record, name, Instruction.code]
    | binary operator left right =>
      have both : left < function.values.size ∧ right < function.values.size :=
        ⟨inside left (by simp [Instruction.operands]), inside right (by simp [Instruction.operands])⟩
      simp [both, record, Instruction.code]

theorem takeFunction_eq_record (formed : context.WellFormed) (alive : context.phase ≠ .destroyed)
    {id : FunctionId} {function : Function} (found : context.functions.get? id = some function) :
    takeFunction context function =
      some (recordFunction context.outlines (function.outline context.types)) := by
  have inner := formed.functions id function found
  obtain ⟨output, outputKnown⟩ := Option.isSome_iff_exists.mp inner.known.2
  have inputs : function.signature.inputs.mapM context.types.lookup? =
      some (function.signature.inputs.map fun input =>
        (context.types.lookup? input).getD .invalid) := by
    apply mapM_eq_some_map
    intro input member
    obtain ⟨type, known⟩ := Option.isSome_iff_exists.mp (inner.known.1 input member)
    rw [known]
    rfl
  have values : function.values.toList.mapM (takeValue context function) =
      some (function.values.toList.map fun value =>
        recordValue context.outlines (value.described context.types)) := by
    apply mapM_eq_some_map
    intro value member
    obtain ⟨number, held⟩ := Arena.mem_toList_iff.mp member
    exact takeValue_eq_record alive inner held
  simp [takeFunction, recordFunction, Function.outline, outputKnown, inputs, values,
    List.flatMap_def, Function.comp_def]

end Snapshot

/-- The snapshot of a well-formed context follows from its outlines. -/
theorem Context.WellFormed.take_eq {context : Context} (formed : context.WellFormed)
    (alive : context.phase ≠ .destroyed) :
    context.take = some (Snapshot.recordAll context.optimize context.outlines) := by
  have functions : context.listFunctions.mapM (Snapshot.takeFunction context) =
      some (context.functions.toList.map fun function =>
        Snapshot.recordFunction context.outlines (function.outline context.types)) := by
    rw [listFunctions, if_neg alive]
    apply mapM_eq_some_map
    intro function member
    obtain ⟨id, found⟩ := Arena.mem_toList_iff.mp member
    exact Snapshot.takeFunction_eq_record formed alive found
  simp [take, functions, Snapshot.recordAll, outlines, Function.comp_def]

/-- Contexts that look alike have the same snapshot. -/
theorem Context.Alike.take_eq {context context' : Context} (alike : context.Alike context') :
    context.take = context'.take := by
  rw [alike.formed.take_eq alike.alive, alike.formed'.take_eq alike.alive', alike.optimize,
    alike.outlines]

/-! ## Restoring -/

namespace Snapshot

theorem below?_ofNat {number size : Nat} (inside : number < size)
    (small : number < 0x80000000) : below? (Int32.ofNat number) size = some number := by
  have value : (Int32.ofNat number).toInt = number := Int32.toInt_ofNat_of_lt small
  rw [below?, value, if_pos (by omega)]
  rfl

theorem valueNumber_ofNat {function : Function} {number : ValueId}
    (inside : number < function.values.size) (small : number < 0x80000000) :
    valueNumber function (Int32.ofNat number) = .ok number := by
  rw [valueNumber, below?_ofNat inside small]

theorem mapM_valueNumber {function : Function} {numbers : List ValueId}
    (inside : ∀ number ∈ numbers, number < function.values.size)
    (small : ∀ number ∈ numbers, number < 0x80000000) :
    (numbers.map Int32.ofNat).mapM (valueNumber function) = .ok numbers := by
  induction numbers with
  | nil => rfl
  | cons number rest ih =>
    have first := valueNumber_ofNat (inside number List.mem_cons_self)
      (small number List.mem_cons_self)
    rw [List.map_cons, List.mapM_cons, first,
      ih (fun other member => inside other (List.mem_cons_of_mem _ member))
        fun other member => small other (List.mem_cons_of_mem _ member)]
    rfl

/-- What was written down of an instruction is the instruction. -/
theorem restoreInstruction_record {context built : Context} {place : Place} {function : Function}
    {type : TypeId} {number : ValueId} {outlines : List Outline} {described : Descriptor}
    {block : BlockId} {instruction : Instruction}
    (inside : ∀ operand ∈ instruction.operands, operand < function.values.size)
    (small : ∀ operand ∈ instruction.operands, operand < 0x80000000)
    (named : ∀ callee arguments, instruction = .call callee arguments →
      context.functionNamed? (nameIn outlines callee) = some callee)
    (builds : Reader.buildInstruction context place type instruction = .ok (built, number)) :
    restoreInstruction context place function type
      (record outlines described block instruction) = .ok (built, number) := by
  cases instruction with
  | const literal =>
    have builds : context.buildConst place type literal = .ok (built, number) := builds
    simp [restoreInstruction, record, builds]
    rfl
  | call callee arguments =>
    have builds : context.buildCall place (.own callee) (arguments.map .own) =
        .ok (built, number) := builds
    have arguments_eq : (arguments.map Int32.ofNat).mapM (valueNumber function) = .ok arguments :=
      mapM_valueNumber inside small
    have code : KindCode.call ≠ KindCode.const := by decide
    simp [restoreInstruction, record, code, named callee arguments rfl, arguments_eq, ok_bind,
      builds]
    rfl
  | binary operator left right =>
    have builds : context.buildBinary place operator.code (.own left) (.own right) =
        .ok (built, number) := builds
    have leftNumber : valueNumber function (Int32.ofNat left) = .ok left :=
      valueNumber_ofNat (inside left (by simp [Instruction.operands]))
        (small left (by simp [Instruction.operands]))
    have rightNumber : valueNumber function (Int32.ofNat right) = .ok right :=
      valueNumber_ofNat (inside right (by simp [Instruction.operands]))
        (small right (by simp [Instruction.operands]))
    have noConst : operator.code ≠ KindCode.const := by cases operator <;> decide
    have noCall : operator.code ≠ KindCode.call := by cases operator <;> decide
    simp [restoreInstruction, record, noConst, noCall, leftNumber, rightNumber, ok_bind, builds]
    rfl

/-- The names are part of what functions see of each other. -/
theorem nameIn_congr {outlines outlines' : List Outline}
    (heads : outlines'.map Outline.head = outlines.map Outline.head) :
    nameIn outlines' = nameIn outlines := by
  funext id
  have held := congrArg (fun list => list[id]?.map Prod.fst) heads
  simp only [List.getElem?_map, Option.map_map] at held
  exact congrArg (fun name => name.getD []) held

/-- The name by which a function is found is, in its normal form, the function's own. -/
theorem nameIn_of_functionNamed? {context : Context} {outlines : List Outline}
    (sketches : context.Sketches outlines) {name : Bytes} {callee : FunctionId}
    (found : context.functionNamed? name = some callee) :
    nameIn outlines callee = Text.normalize name := by
  have alive : context.phase ≠ .destroyed := by
    rw [sketches.building]
    decide
  rw [Context.functionNamed?, if_neg alive, sketches.formed.names] at found
  obtain ⟨function, held, same⟩ := found
  rw [nameIn, ← sketches.outlines_eq, Context.getElem?_outlines, held]
  exact same

section Bodies

variable {context : Context} {before after after' : List Outline} {outline : Outline}

/-- A name leads to its function, whatever has been built of it. -/
theorem functionNamed?_nameIn {outlines outlines' : List Outline}
    (sketches : context.Sketches outlines')
    (heads : outlines'.map Outline.head = outlines.map Outline.head)
    (normal : ∀ outline ∈ outlines, Text.normalize outline.name = outline.name)
    {callee : FunctionId} {target : Outline} (found : outlines[callee]? = some target) :
    context.functionNamed? (nameIn outlines callee) = some callee := by
  have name : nameIn outlines callee = target.name := by
    rw [nameIn, found]
    rfl
  have alive : context.phase ≠ .destroyed := by
    rw [sketches.building]
    decide
  have heads := congrArg (fun list => list[callee]?) heads
  simp only [List.getElem?_map, found, Option.map_some, ← sketches.outlines_eq,
    Context.getElem?_outlines, Option.map_map] at heads
  obtain ⟨function, functionFound, same⟩ := Option.map_eq_some_iff.mp heads
  rw [Context.functionNamed?, if_neg alive, name, normal target (List.mem_of_getElem? found),
    sketches.formed.names]
  exact ⟨function, functionFound, congrArg Prod.fst same⟩

/-- The next value is restored. -/
theorem restoreValue_record (sound : outline.Sound (before ++ outline :: after))
    (heads : after'.map Outline.head = after.map Outline.head)
    (normal : ∀ other ∈ before ++ outline :: after, Text.normalize other.name = other.name)
    (addressable : outline.Addressable) {values : Nat}
    (sketches : context.Sketches
      (before ++ outline.stage outline.ends.length values 0 :: after'))
    {described : Descriptor} {block : BlockId} {instruction : Instruction}
    (held : outline.values[values]? = some (some described, .instruction block instruction))
    (late : outline.inputs.length ≤ values) :
    ∃ context', restoreValue context before.length
        (record (before ++ outline :: after) described block instruction) = .ok context' ∧
      context'.Sketches
        (before ++ outline.stage outline.ends.length (values + 1) 0 :: after') := by
  obtain ⟨_, _, _, same, valid, inside, earlier, suits⟩ := sound.later values _ held late
  cases same
  have member := List.mem_of_getElem? held
  obtain ⟨function, found, shape⟩ := sketches.exists_function
  have blocks : function.blocks.size = outline.ends.length := by
    rw [← Function.length_ends context.types, shape]
    simp [Outline.stage]
  have count : function.values.size = values := by
    have bound := (List.getElem?_eq_some_iff.mp held).choose
    rw [← Function.length_values context.types, shape, Outline.stage, List.length_take]
    omega
  have interned := sketches.intern valid
  have sketches' := sketches.insert valid
  obtain ⟨context', builds, rebuilt, -, done⟩ := sound.append_stage heads sketches' held late
    (sketches.formed.types.lookup?_insert valid)
  have recorded : ∀ instruction : Instruction,
      (record (before ++ outline :: after) described block instruction).block = Int32.ofNat block ∧
        (record (before ++ outline :: after) described block instruction).type = described := by
    intro instruction
    cases instruction <;> exact ⟨rfl, rfl⟩
  have named : ∀ callee arguments, instruction = .call callee arguments →
      { context with types := (context.types.insert described).1 }.functionNamed?
        (nameIn (before ++ outline :: after) callee) = some callee := by
    rintro callee arguments rfl
    obtain ⟨target, targetFound, -⟩ := suits
    refine functionNamed?_nameIn sketches' ?_ normal targetFound
    simp [heads, Outline.stage, Outline.head]
  have known : ∀ operand ∈ instruction.operands, operand < function.values.size := by
    rw [count]
    exact earlier
  have restored : restoreInstruction { context with types := (context.types.insert described).1 }
      ⟨before.length, block⟩ function (context.types.insert described).2
      (record (before ++ outline :: after) described block instruction) = .ok (context', values) :=
    restoreInstruction_record known (addressable.operands _ _ _ member) named builds
  refine ⟨context', ?_, done⟩
  simp only [restoreValue, found, recorded, blocks,
    below?_ofNat inside (addressable.blocks _ _ _ member), interned, restored, ok_bind, rebuilt,
    if_true]
  rfl

/-- The values from a number on are restored. -/
theorem restoreValues_record (sound : outline.Sound (before ++ outline :: after))
    (heads : after'.map Outline.head = after.map Outline.head)
    (normal : ∀ other ∈ before ++ outline :: after, Text.normalize other.name = other.name)
    (addressable : outline.Addressable) {rest : List (Option Descriptor × Origin)} {values : Nat}
    (left : outline.values.drop values = rest) (late : outline.inputs.length ≤ values)
    (sketches : context.Sketches
      (before ++ outline.stage outline.ends.length values 0 :: after')) :
    ∃ context', restoreValues context before.length
        (rest.flatMap (recordValue (before ++ outline :: after))) = .ok context' ∧
      context'.Sketches
        (before ++ outline.stage outline.ends.length outline.values.length 0 :: after') := by
  induction rest generalizing context values with
  | nil =>
    have all : outline.values.length ≤ values := List.drop_eq_nil_iff.mp left
    refine ⟨context, rfl, ?_⟩
    simpa [Outline.stage, List.take_of_length_le all] using sketches
  | cons value rest ih =>
    have held : outline.values[values]? = some value := by
      rw [← List.head?_drop, left]
      rfl
    obtain ⟨described, block, instruction, rfl, -⟩ := sound.later values value held late
    have tail : outline.values.drop (values + 1) = rest := by
      rw [← List.tail_drop, left]
      rfl
    obtain ⟨middle, first, sketches'⟩ :=
      restoreValue_record sound heads normal addressable sketches held late
    obtain ⟨context', others, done⟩ := ih tail (by omega) sketches'
    refine ⟨context', ?_, done⟩
    rw [List.flatMap_cons, recordValue, Option.getD_some, List.singleton_append, restoreValues,
      first, ok_bind, others]

/-- Blocks are added one by one. -/
theorem restoreBlocks_record {values blocks : Nat} (list : List SnapshotBlock)
    (sketches : context.Sketches (before ++ outline.stage blocks values 0 :: after)) :
    ∃ context', restoreBlocks context before.length list = .ok context' ∧
      context'.Sketches (before ++ outline.stage (blocks + list.length) values 0 :: after) := by
  induction list generalizing context blocks with
  | nil => exact ⟨context, rfl, sketches⟩
  | cons block rest ih =>
    obtain ⟨middle, added, -, sketches'⟩ := sketches.addBlock
    rw [Outline.stage_addBlock] at sketches'
    obtain ⟨context', others, done⟩ := ih sketches'
    refine ⟨context', ?_, ?_⟩
    · rw [restoreBlocks, added]
      exact others
    · rw [List.length_cons, Nat.add_comm rest.length, ← Nat.add_assoc]
      exact done

/-- The next end is restored. -/
theorem restoreTerminator_record (sound : outline.Sound (before ++ outline :: after))
    (addressable : outline.Addressable) {ends : Nat} {terminator : Option Terminator}
    (held : outline.ends[ends]? = some terminator)
    (sketches : context.Sketches
      (before ++ outline.stage outline.ends.length outline.values.length ends :: after')) :
    ∃ context', restoreTerminator context before.length ends (takeTerminator terminator) =
        .ok context' ∧
      context'.Sketches (before ++
        outline.stage outline.ends.length outline.values.length (ends + 1) :: after') := by
  have inside := (List.getElem?_eq_some_iff.mp held).choose
  obtain ⟨function, found, shape⟩ := sketches.exists_function
  cases terminator with
  | none =>
    refine ⟨context, ?_, ?_⟩
    · simp [restoreTerminator, found, takeTerminator]
    · rw [Outline.stage_skip held inside]
      exact sketches
  | some terminator =>
    obtain ⟨context', builds, done⟩ := sound.finish_stage sketches held
    have small := addressable.ends terminator (List.mem_of_getElem? held)
    have suits := sound.ended ends terminator held
    refine ⟨context', ?_, done⟩
    cases terminator with
    | branch target =>
      have blocks : function.blocks.size = outline.ends.length := by
        rw [← Function.length_ends context.types, shape, Outline.stage, List.length_append,
          List.length_take, List.length_replicate]
        omega
      have builds : context.buildBranch ⟨before.length, ends⟩ (.own target) = .ok context' := builds
      have number : below? (Int32.ofNat target) function.blocks.size = some target :=
        below?_ofNat (blocks ▸ suits) small
      simp [restoreTerminator, found, takeTerminator, number, builds]
    | result value =>
      have count : function.values.size = outline.values.length := by
        rw [← Function.length_values context.types, shape]
        simp [Outline.stage]
      have bound : value < function.values.size := by
        obtain ⟨pair, pairFound, -⟩ := Option.map_eq_some_iff.mp suits
        rw [count]
        exact (List.getElem?_eq_some_iff.mp pairFound).choose
      have builds : context.buildReturn ⟨before.length, ends⟩ (.own value) = .ok context' := builds
      have number : valueNumber function (Int32.ofNat value) = .ok value :=
        valueNumber_ofNat bound small
      simp only [restoreTerminator, found, takeTerminator, number, ok_bind, builds]
      rfl

/-- The ends from a block on are restored. -/
theorem restoreTerminators_record (sound : outline.Sound (before ++ outline :: after))
    (addressable : outline.Addressable) {rest : List (Option Terminator)} {ends : Nat}
    (left : outline.ends.drop ends = rest) (bound : ends ≤ outline.ends.length)
    (sketches : context.Sketches
      (before ++ outline.stage outline.ends.length outline.values.length ends :: after')) :
    ∃ context', restoreTerminators context before.length ends (rest.map takeTerminator) =
        .ok context' ∧ context'.Sketches (before ++ outline :: after') := by
  induction rest generalizing context ends with
  | nil =>
    have all : ends = outline.ends.length :=
      Nat.le_antisymm bound (List.drop_eq_nil_iff.mp left)
    rw [all, Outline.stage_all] at sketches
    exact ⟨context, rfl, sketches⟩
  | cons terminator rest ih =>
    have held : outline.ends[ends]? = some terminator := by
      rw [← List.head?_drop, left]
      rfl
    have tail : outline.ends.drop (ends + 1) = rest := by
      rw [← List.tail_drop, left]
      rfl
    obtain ⟨middle, first, sketches'⟩ := restoreTerminator_record sound addressable held sketches
    obtain ⟨context', others, done⟩ :=
      ih tail (List.getElem?_eq_some_iff.mp held).choose sketches'
    refine ⟨context', ?_, done⟩
    rw [List.map_cons, restoreTerminators, first, ok_bind, others]

/-- The body of a function is restored. -/
theorem restoreBody_record (sound : outline.Sound (before ++ outline :: after))
    (heads : after'.map Outline.head = after.map Outline.head)
    (normal : ∀ other ∈ before ++ outline :: after, Text.normalize other.name = other.name)
    (addressable : outline.Addressable)
    (sketches : context.Sketches (before ++ outline.declared :: after')) :
    ∃ context', restoreBody context before.length
        (recordFunction (before ++ outline :: after) outline) = .ok context' ∧
      context'.Sketches (before ++ outline :: after') := by
  obtain ⟨first, blocks, sketches⟩ :=
    restoreBlocks_record (outline.ends.map takeTerminator) sketches
  rw [List.length_map, Nat.zero_add] at sketches
  obtain ⟨second, values, sketches⟩ :=
    restoreValues_record sound heads normal addressable rfl (Nat.le_refl _) sketches
  obtain ⟨context', terminators, done⟩ :=
    restoreTerminators_record sound addressable rfl (Nat.zero_le _) sketches
  refine ⟨context', ?_, done⟩
  -- The parameters come first and leave no trace.
  have recorded : outline.values.flatMap (recordValue (before ++ outline :: after)) =
      (outline.values.drop outline.inputs.length).flatMap
        (recordValue (before ++ outline :: after)) := by
    have none : (outline.values.take outline.inputs.length).flatMap
        (recordValue (before ++ outline :: after)) = [] := by
      rw [sound.parameters, List.flatMap_map]
      simp [recordValue]
    conv_lhs => rw [← List.take_append_drop outline.inputs.length outline.values]
    rw [List.flatMap_append, none, List.nil_append]
  rw [List.drop_zero] at terminators
  rw [restoreBody, recordFunction, blocks, ok_bind, recorded, values, ok_bind, terminators]

/-- The bodies from a function on are restored. -/
theorem restoreBodies_record {outlines : List Outline} (split : outlines = before ++ after)
    (sound : ∀ outline ∈ outlines, outline.Sound outlines)
    (normal : ∀ outline ∈ outlines, Text.normalize outline.name = outline.name)
    (addressable : ∀ outline ∈ outlines, outline.Addressable)
    (sketches : context.Sketches (before ++ after.map Outline.declared)) :
    ∃ context', restoreBodies context before.length (after.map (recordFunction outlines)) =
        .ok context' ∧ context'.Sketches outlines := by
  induction after generalizing context before with
  | nil =>
    subst split
    exact ⟨context, rfl, sketches⟩
  | cons outline after ih =>
    have member : outline ∈ outlines := by simp [split]
    obtain ⟨middle, body, sketches'⟩ := restoreBody_record (split ▸ sound outline member)
      (Outline.map_head_declared after) (split ▸ normal) (addressable outline member) sketches
    have split' : outlines = (before ++ [outline]) ++ after := by simp [split]
    obtain ⟨context', others, done⟩ := ih split' (by simpa using sketches')
    refine ⟨context', ?_, done⟩
    rw [← split] at body
    rw [List.map_cons, restoreBodies, body]
    simpa using others

end Bodies

section Headers

variable {context : Context} {outlines : List Outline}

theorem restoreInputs_spec (name : Bytes) (index : Nat) {types : List Descriptor}
    (valid : ∀ type ∈ types, type.Valid) (sketches : context.Sketches outlines) :
    ∃ context' ids, restoreInputs context name index types = .ok (context', ids) ∧
      context.types.Extends context'.types ∧
      ids.map context'.types.lookup? = types.map some ∧ context'.Sketches outlines := by
  induction types generalizing context index with
  | nil => exact ⟨context, [], rfl, .refl _, rfl, sketches⟩
  | cons type rest ih =>
    have typeValid := valid type List.mem_cons_self
    obtain ⟨context', ids, others, extended, described, done⟩ := ih (index + 1)
      (fun other member => valid other (List.mem_cons_of_mem _ member)) (sketches.insert typeValid)
    refine ⟨context', (context.types.insert type).2 :: ids, ?_, ?_, ?_, done⟩
    · rw [restoreInputs, sketches.intern typeValid]
      dsimp only
      rw [others]
      rfl
    · exact (context.types.extends_insert type).trans extended
    · have first := extended _ _ (sketches.formed.types.lookup?_insert typeValid)
      rw [List.map_cons, List.map_cons, first, described]

/-- The next function is declared. -/
theorem restoreHeader_record {outline : Outline} (sound : outline.Sound outlines)
    (normal : Text.normalize outline.name = outline.name) {before : List Outline}
    (fresh : ∀ other ∈ before, other.name ≠ outline.name) (sketches : context.Sketches before) :
    ∃ context', restoreHeader context (recordFunction outlines outline) = .ok context' ∧
      context'.Sketches (before ++ [outline.declared]) := by
  obtain ⟨output, outputEq, outputValid⟩ := sound.output
  obtain ⟨inputs, inputsEq, valid⟩ := sound.exists_inputs
  have recorded : (outline.inputs.map fun type => type.getD .invalid) = inputs := by
    rw [inputsEq, List.map_map]
    exact List.map_id inputs
  obtain ⟨middle, ids, interned, extended, described, sketches'⟩ :=
    restoreInputs_spec outline.name 0 valid (sketches.insert outputValid)
  have outputKnown := extended _ _ (sketches.formed.types.lookup?_insert outputValid)
  rw [← inputsEq] at described
  obtain ⟨context', added, done⟩ :=
    sound.declare normal fresh sketches' described (outputKnown.trans outputEq.symm)
  refine ⟨context', ?_, done⟩
  rw [restoreHeader, recordFunction, outputEq, Option.getD_some, sketches.intern outputValid]
  dsimp only
  rw [recorded, interned, ok_bind, added]
  rfl

/-- The functions that are left are declared. -/
theorem restoreHeaders_record {before after : List Outline}
    (sound : ∀ outline ∈ after, outline.Sound outlines)
    (normal : ∀ outline ∈ after, Text.normalize outline.name = outline.name)
    (distinct : ((before ++ after).map Outline.name).Nodup)
    (sketches : context.Sketches (before.map Outline.declared)) :
    ∃ context', restoreHeaders context (after.map (recordFunction outlines)) = .ok context' ∧
      context'.Sketches ((before ++ after).map Outline.declared) := by
  induction after generalizing context before with
  | nil => exact ⟨context, rfl, by simpa using sketches⟩
  | cons outline after ih =>
    have fresh : ∀ other ∈ before.map Outline.declared, other.name ≠ outline.name := by
      intro other member same
      obtain ⟨original, inside, rfl⟩ := List.mem_map.mp member
      rw [List.map_append, List.map_cons] at distinct
      exact (List.nodup_append.mp distinct).2.2 _ (List.mem_map_of_mem inside) _
        List.mem_cons_self same
    obtain ⟨middle, first, sketches'⟩ := restoreHeader_record (sound outline List.mem_cons_self)
      (normal outline List.mem_cons_self) fresh sketches
    have distinct' : (((before ++ [outline]) ++ after).map Outline.name).Nodup := by
      simpa using distinct
    obtain ⟨context', others, done⟩ := ih
      (fun other member => sound other (List.mem_cons_of_mem _ member))
      (fun other member => normal other (List.mem_cons_of_mem _ member)) distinct'
      (by simpa using sketches')
    refine ⟨context', ?_, by simpa using done⟩
    rw [List.map_cons, restoreHeaders, first, ok_bind, others]

end Headers

end Snapshot

/-- Restoring the snapshot of a context builds its outlines again. -/
theorem Context.WellFormed.restore_recordAll {context : Context} (formed : context.WellFormed)
    (normal : ∀ outline ∈ context.outlines, Text.normalize outline.name = outline.name)
    (addressable : ∀ outline ∈ context.outlines, outline.Addressable) (optimize : Bool) :
    ∃ restored, (Snapshot.recordAll optimize context.outlines).restore = .ok restored ∧
      restored.optimize = optimize ∧ restored.Sketches context.outlines := by
  have sound : ∀ outline ∈ context.outlines, outline.Sound context.outlines :=
    fun outline member => formed.sound member
  have start : (Context.new optimize).Sketches (([] : List Outline).map Outline.declared) :=
    .new optimize
  obtain ⟨middle, headers, sketches⟩ :=
    Snapshot.restoreHeaders_record sound normal formed.nodup_names start
  have split : context.outlines = [] ++ context.outlines := rfl
  obtain ⟨restored, bodies, done⟩ :=
    Snapshot.restoreBodies_record split sound normal addressable sketches
  have whole : (Snapshot.recordAll optimize context.outlines).restore = .ok restored := by
    rw [Snapshot.restore, if_neg (by simp [Snapshot.recordAll])]
    simp only [Snapshot.recordAll, headers, ok_bind]
    exact bodies
  exact ⟨restored, whole, (Snapshot.builds_of_restore whole).optimize_eq, done⟩

end Blockwork
