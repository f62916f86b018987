import Blockwork.Proofs.Runs

/-!
# Order in every function

The laws that hold of every function of every context, whatever was done to the contexts before:
how values are numbered, in which block each is listed, what its operands are and of which types.
-/

namespace Blockwork

/-- The laws of a function under its number in a context. -/
structure Function.Orderly (context : Context) (id : FunctionId) (function : Function) : Prop where
  /-- The number under which the name is registered is the position of the function. -/
  registered : context.names.lookup function.name = some id
  /-- The first values are exactly the parameters, in order and with the types of the inputs. -/
  parameters : function.values.toList.take function.signature.inputs.length =
    function.signature.inputs.zipIdx.map fun (type, index) => ⟨type, .parameter index⟩
  /-- No later value is a parameter. -/
  instructions : ∀ number value, function.values.get? number = some value →
    function.signature.inputs.length ≤ number → value.isParameter = false
  /-- A value that is no parameter names a block, and that block lists it exactly once. -/
  listed : ∀ number value, function.values.get? number = some value → value.isParameter = false →
    ∃ block content, value.origin.block? = some block ∧
      function.blocks.get? block = some content ∧ content.values.toList.count number = 1
  /-- A block lists no value that names another block, and no parameter. -/
  exclusive : ∀ block content number, function.blocks.get? block = some content →
    number ∈ content.values.toList →
    ∃ value, function.values.get? number = some value ∧ value.origin.block? = some block
  /-- A block lists its values in strictly increasing order. -/
  increasing : ∀ block content, function.blocks.get? block = some content →
    content.values.toList.Pairwise (· < ·)
  /-- Operands are values of the same function with smaller numbers. -/
  operands : ∀ number type block instruction,
    function.values.get? number = some ⟨type, .instruction block instruction⟩ →
    ∀ operand ∈ instruction.operands, operand < number ∧ (function.values.get? operand).isSome
  /-- The type of a constant is known. -/
  constants : ∀ number type block literal,
    function.values.get? number = some ⟨type, .instruction block (.const literal)⟩ →
    (context.types.lookup? type).isSome
  /-- A call passes as many arguments as the function takes, of the types that it takes, and has
  the type that it returns. -/
  calls : ∀ number type block callee arguments,
    function.values.get? number = some ⟨type, .instruction block (.call callee arguments)⟩ →
    ∃ target, context.functions.get? callee = some target ∧
      arguments.length = target.signature.inputs.length ∧
      arguments.map function.typeOf? = target.signature.inputs.map some ∧
      type = target.signature.output
  /-- The two operands of an operator have one type. It is that of the result, unless the operator
  compares; then the result is a truth value. -/
  operators : ∀ number type block operator left right,
    function.values.get? number = some ⟨type, .instruction block (.binary operator left right)⟩ →
    ∃ shared, function.typeOf? left = some shared ∧ function.typeOf? right = some shared ∧
      (operator.isComparison = false → type = shared) ∧
      (operator.isComparison = true → context.types.lookup? type = some Descriptor.bool)
  /-- A branch leads to a block of the same function. -/
  branches : ∀ block content target, function.blocks.get? block = some content →
    content.terminator = some (.branch target) → (function.blocks.get? target).isSome
  /-- A returned value is one of the same function, of the type that the function returns. -/
  returns : ∀ block content value, function.blocks.get? block = some content →
    content.terminator = some (.result value) →
    function.typeOf? value = some function.signature.output

namespace Function.WellFormed

variable {context : Context} {function : Function}

/-- The first values are the parameters, as a list. -/
theorem take_toList (formed : function.WellFormed context) :
    function.values.toList.take function.signature.inputs.length =
      function.signature.inputs.zipIdx.map fun (type, index) => ⟨type, .parameter index⟩ := by
  apply List.ext_getElem?
  intro position
  rw [List.getElem?_take, List.getElem?_map, List.getElem?_zipIdx]
  by_cases early : position < function.signature.inputs.length
  · have input := List.getElem?_eq_getElem early
    rw [if_pos early, ← Arena.get?_eq_getElem?, formed.parameters position _ input, input]
    simp
  · rw [if_neg early, List.getElem?_eq_none (Nat.le_of_not_lt early)]
    rfl

/-- A value either is a parameter and stands among the first, or comes from an instruction. -/
theorem parameter_or_instruction (formed : function.WellFormed context) {id : ValueId}
    {value : Value} (found : function.values.get? id = some value) :
    (id < function.signature.inputs.length ∧ value.isParameter = true) ∨
      (function.signature.inputs.length ≤ id ∧ ∃ block instruction,
        value.origin = .instruction block instruction) := by
  by_cases early : id < function.signature.inputs.length
  · have parameter := formed.parameters id _ (List.getElem?_eq_getElem early)
    cases found.symm.trans parameter
    exact .inl ⟨early, rfl⟩
  · have late := Nat.le_of_not_lt early
    obtain ⟨block, instruction, origin, -⟩ := formed.later id value found late
    exact .inr ⟨late, block, instruction, origin⟩

/-- What is known of an instruction, by the number of its value. -/
theorem instruction_laws (formed : function.WellFormed context) {id : ValueId} {type : TypeId}
    {block : BlockId} {instruction : Instruction}
    (found : function.values.get? id = some ⟨type, .instruction block instruction⟩) :
    block < function.blocks.size ∧ (∀ operand ∈ instruction.operands, operand < id) ∧
      instruction.Fits context function type := by
  rcases formed.parameter_or_instruction found with ⟨-, parameter⟩ | ⟨late, -⟩
  · cases parameter
  · obtain ⟨home, same, origin, inside, earlier, fits⟩ := formed.later id _ found late
    cases origin
    exact ⟨inside, earlier, fits⟩

/-- A value is listed in a block exactly if the block is its home. -/
theorem mem_values_iff (formed : function.WellFormed context) {block : BlockId} {content : Block}
    (found : function.blocks.get? block = some content) {id : ValueId} :
    id ∈ content.values.toList ↔ function.home? id = some block := by
  rw [formed.listed block content found, List.mem_filter, List.mem_range, decide_eq_true_iff]
  constructor
  · exact fun member => member.2
  · intro home
    obtain ⟨type, instruction, held⟩ := home?_eq_some_iff.mp home
    exact ⟨Arena.get?_eq_some_lt held, home⟩

theorem pairwise_values (formed : function.WellFormed context) {block : BlockId} {content : Block}
    (found : function.blocks.get? block = some content) :
    content.values.toList.Pairwise (· < ·) := by
  rw [formed.listed block content found]
  exact List.pairwise_lt_range.filter _

end Function.WellFormed

/-- A function of a well-formed context obeys the laws. -/
theorem Context.WellFormed.orderly {context : Context} (formed : context.WellFormed)
    {id : FunctionId} {function : Function} (found : context.functions.get? id = some function) :
    function.Orderly context id := by
  have inner := formed.functions id function found
  constructor
  case registered => exact (formed.names function.name id).mpr ⟨function, found, rfl⟩
  case parameters => exact inner.take_toList
  case instructions =>
    intro number value held late
    rcases inner.parameter_or_instruction held with ⟨early, -⟩ | ⟨-, block, instruction, origin⟩
    · exact absurd early (Nat.not_lt.mpr late)
    · simp [Value.isParameter, origin, Origin.block?]
  case listed =>
    intro number value held parameter
    rcases inner.parameter_or_instruction held with ⟨-, isOne⟩ | ⟨-, block, instruction, origin⟩
    · rw [parameter] at isOne
      cases isOne
    · obtain ⟨type, _⟩ := value
      cases origin
      obtain ⟨inside, -⟩ := inner.instruction_laws held
      obtain ⟨content, blockFound⟩ := Arena.exists_get?_of_lt inside
      have member : number ∈ content.values.toList :=
        (inner.mem_values_iff blockFound).mpr (Function.home?_eq_some_iff.mpr ⟨type, _, held⟩)
      have distinct : content.values.toList.Nodup :=
        (inner.pairwise_values blockFound).imp Nat.ne_of_lt
      exact ⟨block, content, rfl, blockFound, by rw [distinct.count, if_pos member]⟩
  case exclusive =>
    intro block content number blockFound member
    obtain ⟨type, instruction, held⟩ :=
      Function.home?_eq_some_iff.mp ((inner.mem_values_iff blockFound).mp member)
    exact ⟨_, held, rfl⟩
  case increasing => exact fun block content blockFound => inner.pairwise_values blockFound
  case operands =>
    intro number type block instruction held operand member
    obtain ⟨-, earlier, fits⟩ := inner.instruction_laws held
    exact ⟨earlier operand member,
      (function.values.get?_isSome_iff operand).mpr (fits.lt_size operand member)⟩
  case constants =>
    intro number type block literal held
    exact (inner.instruction_laws held).2.2
  case calls =>
    intro number type block callee arguments held
    obtain ⟨target, targetFound, types, output⟩ := (inner.instruction_laws held).2.2
    exact ⟨target, targetFound, by simpa using congrArg List.length types, types, output⟩
  case operators =>
    intro number type block operator left right held
    obtain ⟨shared, leftTyped, rightTyped, result⟩ := (inner.instruction_laws held).2.2
    refine ⟨shared, leftTyped, rightTyped, ?_, ?_⟩
    · intro arithmetic
      simpa [arithmetic] using result
    · intro comparison
      rw [result, if_pos comparison]
      exact formed.truth
  case branches =>
    intro block content target blockFound ends
    exact (function.blocks.get?_isSome_iff target).mpr (inner.ended block content _ blockFound ends)
  case returns =>
    intro block content value blockFound ends
    exact inner.ended block content _ blockFound ends

namespace Store

variable {World : Type}

/-- After every run, every function of every context that is not destroyed obeys the laws; and
whatever operation comes next, what it answers with is the position of something in the store. -/
theorem run_orderly (world : World) (operations : List (Operation World)) :
    (∀ context ∈ (run {} world operations).contexts, context.phase ≠ .destroyed →
      ∀ id function, context.functions.get? id = some function → function.Orderly context id) ∧
    (∀ (next : World) (operation : Operation World) (handle : Handle),
      ((run {} world operations).perform next operation).2.2 = .ok handle →
      ((run {} world operations).perform next operation).1.Holds handle) := by
  constructor
  · intro context member _ id function found
    exact (wellFormed_of_mem_run member).orderly found
  · intro next operation handle done
    exact (Lived.empty.run world operations).holds_perform next operation done

/-- A run that declares a function of two parameters and returns their sum from its only block. -/
def sumRun : List (Operation Unit) := [
  .newContext false,
  .addFunction (some 0) (utf8 "sum") ⟨[5, 5], 5⟩,
  .addBlock (some ⟨0, 0⟩),
  .binary (some ⟨0, 0, 0⟩) Operator.add.code (some ⟨0, 0, 0⟩) (some ⟨0, 0, 1⟩),
  .result (some ⟨0, 0, 0⟩) (some ⟨0, 0, 2⟩)]

theorem run_orderly_sumRun :
    ∃ context ∈ (run {} () sumRun).contexts, context.phase = .building ∧
      ∃ function, context.functions.get? 0 = some function ∧ function.values.size = 3 ∧
        function.Orderly context 0 := by
  have summary : (run {} () sumRun).contexts[0]?.map (fun context =>
      (context.phase, (context.functions.get? 0).map (·.values.size))) =
        some (.building, some 3) := by
    decide
  obtain ⟨context, held, facts⟩ := Option.map_eq_some_iff.mp summary
  obtain ⟨building, sized⟩ := Prod.mk.inj facts
  obtain ⟨function, found, size⟩ := Option.map_eq_some_iff.mp sized
  have member := Array.mem_of_getElem? held
  have alive : context.phase ≠ .destroyed := by
    rw [building]
    decide
  exact ⟨context, member, building, function, found, size,
    (run_orderly () sumRun).1 context member alive 0 function found⟩

end Store
end Blockwork
