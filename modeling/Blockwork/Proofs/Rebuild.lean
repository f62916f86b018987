import Blockwork.Proofs.Outline
import Blockwork.Source.Reader
import Mathlib.Data.List.Nodup

/-!
# Building outlines again

What construction asks of an instruction or a terminator can be read off the outlines. So the parts
of a well-formed context can be put together once more in another context, as long as they come in
an order in which nothing refers to what is not there yet: first the headers of all functions, then
function by function the blocks, the values in the order of their numbers, and the ends.
-/

namespace Blockwork

namespace Outline

/-- The type of a value, by number. -/
def typeOf? (outline : Outline) (id : ValueId) : Option (Option Descriptor) :=
  outline.values[id]?.map Prod.fst

/-- What other functions see of a function. -/
def head (outline : Outline) : Bytes × List (Option Descriptor) × Option Descriptor :=
  (outline.name, outline.inputs, outline.output)

end Outline

theorem Function.typeOf?_outline (types : Interner) (function : Function) (id : ValueId) :
    (function.outline types).typeOf? id = (function.typeOf? id).map types.lookup? := by
  rw [Outline.typeOf?, getElem?_values, Function.typeOf?]
  cases function.values.get? id <;> rfl

/-- Whether an instruction can compute a value of the given type, as far as outlines tell. -/
def Instruction.Suits (outlines : List Outline) (outline : Outline) (type : Option Descriptor) :
    Instruction → Prop
  | .const _ => True
  | .call callee arguments =>
    ∃ target, outlines[callee]? = some target ∧
      arguments.map outline.typeOf? = target.inputs.map some ∧ type = target.output
  | .binary operator left right =>
    ∃ shared, outline.typeOf? left = some shared ∧ outline.typeOf? right = some shared ∧
      type = if operator.isComparison then some Descriptor.bool else shared

/-- Whether a terminator refers to what is there, as far as the outline tells. -/
def Terminator.Suits (outline : Outline) : Terminator → Prop
  | .branch target => target < outline.ends.length
  | .result value => outline.typeOf? value = some outline.output

section Fits

variable {context : Context} {function : Function}

theorem Instruction.Fits.suits (formed : context.WellFormed) {type : TypeId}
    {instruction : Instruction} (fits : instruction.Fits context function type) :
    instruction.Suits context.outlines (function.outline context.types)
      (context.types.lookup? type) := by
  cases instruction with
  | const literal => trivial
  | call callee arguments =>
    obtain ⟨target, found, types, rfl⟩ := fits
    refine ⟨target.outline context.types, by rw [Context.getElem?_outlines, found]; rfl, ?_, rfl⟩
    calc arguments.map (function.outline context.types).typeOf?
        = (arguments.map function.typeOf?).map (Option.map context.types.lookup?) := by
          rw [List.map_map]
          exact List.map_congr_left fun argument _ =>
            Function.typeOf?_outline context.types function argument
      _ = (target.outline context.types).inputs.map some := by
          rw [types, Function.outline, List.map_map, List.map_map]
          rfl
  | binary operator left right =>
    obtain ⟨shared, leftTyped, rightTyped, rfl⟩ := fits
    refine ⟨context.types.lookup? shared, ?_, ?_, ?_⟩
    · rw [Function.typeOf?_outline, leftTyped]
      rfl
    · rw [Function.typeOf?_outline, rightTyped]
      rfl
    · split
      · exact formed.truth
      · rfl

/-- A type has one number, so what suits the outlines fits. -/
theorem Instruction.Suits.fits (formed : context.WellFormed) {id : FunctionId}
    (found : context.functions.get? id = some function) {type : TypeId}
    {instruction : Instruction} (known : (context.types.lookup? type).isSome)
    (suits : instruction.Suits context.outlines (function.outline context.types)
      (context.types.lookup? type)) :
    instruction.Fits context function type := by
  have unique : ∀ first second, (context.types.lookup? first).isSome →
      context.types.lookup? first = context.types.lookup? second → first = second := by
    intro first second known same
    obtain ⟨type, held⟩ := Option.isSome_iff_exists.mp known
    exact formed.types.lookup?_injective held (same ▸ held)
  have typed : ∀ value shared, (function.outline context.types).typeOf? value = some shared →
      ∃ type, function.typeOf? value = some type ∧ context.types.lookup? type = shared := by
    intro value shared held
    rw [Function.typeOf?_outline] at held
    exact Option.map_eq_some_iff.mp held
  cases instruction with
  | const literal => exact known
  | call callee arguments =>
    obtain ⟨target, targetFound, types, output⟩ := suits
    obtain ⟨target, held, rfl⟩ := Context.exists_of_outlines targetFound
    have targetKnown := (formed.functions callee target held).known
    refine ⟨target, held, ?_, unique type _ known output⟩
    have types : arguments.map (function.outline context.types).typeOf? =
        target.signature.inputs.map fun input => some (context.types.lookup? input) := by
      simpa [Function.outline, Function.comp_def] using types
    refine map_eq_map_of_imp types fun argument _ input member same => ?_
    obtain ⟨argumentType, argumentTyped, argumentSame⟩ := typed argument _ same
    rw [argumentTyped, unique input argumentType (targetKnown.1 input member) argumentSame.symm]
  | binary operator left right =>
    obtain ⟨shared, leftTyped, rightTyped, result⟩ := suits
    obtain ⟨leftType, leftHeld, leftSame⟩ := typed left shared leftTyped
    obtain ⟨rightType, rightHeld, rightSame⟩ := typed right shared rightTyped
    have leftKnown : (context.types.lookup? leftType).isSome := by
      obtain ⟨value, held, rfl⟩ := Function.typeOf?_eq_some_iff.mp leftHeld
      exact (formed.functions id function found).typed left value held
    have equal := unique leftType rightType leftKnown (leftSame.trans rightSame.symm)
    refine ⟨leftType, leftHeld, equal ▸ rightHeld, ?_⟩
    split
    · rename_i comparison
      rw [if_pos comparison, ← formed.truth] at result
      exact unique type _ known result
    · rename_i arithmetic
      rw [if_neg arithmetic, ← leftSame] at result
      exact unique type _ known result

theorem Terminator.Fits.suits {terminator : Terminator} (fits : terminator.Fits function)
    (types : Interner) : terminator.Suits (function.outline types) := by
  cases terminator with
  | branch target =>
    rw [Suits, Function.length_ends]
    exact fits
  | result value =>
    have fits : function.typeOf? value = some function.signature.output := fits
    rw [Suits, Function.typeOf?_outline, fits]
    rfl

theorem Terminator.Suits.fits (formed : context.WellFormed) {id : FunctionId}
    (found : context.functions.get? id = some function) {terminator : Terminator}
    (suits : terminator.Suits (function.outline context.types)) : terminator.Fits function := by
  have inner := formed.functions id function found
  cases terminator with
  | branch target =>
    rw [Suits, Function.length_ends] at suits
    exact suits
  | result value =>
    rw [Suits, Function.typeOf?_outline] at suits
    obtain ⟨type, typed, same⟩ := Option.map_eq_some_iff.mp suits
    obtain ⟨output, held⟩ := Option.isSome_iff_exists.mp inner.known.2
    have same : context.types.lookup? type = some output := same.trans held
    rw [Fits, typed, formed.types.lookup?_injective same held]

end Fits

theorem Instruction.Suits.transfer {outlines outlines' : List Outline} {outline outline' : Outline}
    {type : Option Descriptor} {instruction : Instruction}
    (heads : outlines'.map Outline.head = outlines.map Outline.head)
    (agree : ∀ operand ∈ instruction.operands, outline'.typeOf? operand = outline.typeOf? operand)
    (suits : instruction.Suits outlines outline type) :
    instruction.Suits outlines' outline' type := by
  cases instruction with
  | const literal => trivial
  | call callee arguments =>
    obtain ⟨target, found, types, output⟩ := suits
    have heads := congrArg (fun list => list[callee]?) heads
    simp only [List.getElem?_map, found, Option.map_some] at heads
    obtain ⟨target', found', same⟩ := Option.map_eq_some_iff.mp heads
    obtain ⟨-, inputs, output'⟩ := Prod.mk.inj same |>.imp id Prod.mk.inj
    refine ⟨target', found', ?_, output.trans output'.symm⟩
    rw [inputs, ← types]
    exact List.map_congr_left agree
  | binary operator left right =>
    obtain ⟨shared, leftTyped, rightTyped, result⟩ := suits
    refine ⟨shared, ?_, ?_, result⟩
    · rw [agree left (by simp [operands]), leftTyped]
    · rw [agree right (by simp [operands]), rightTyped]

/-! ## Outlines of well-formed contexts -/

/-- What construction keeps true of an outline among others. -/
structure Outline.Sound (outlines : List Outline) (outline : Outline) : Prop where
  /-- The name can stand in the textual form. -/
  spelled : FunctionName.check outline.name = .ok ()
  /-- The arguments have types. -/
  inputs : ∀ input ∈ outline.inputs, ∃ type : Descriptor, input = some type ∧ type.Valid
  /-- The result has a type. -/
  output : ∃ type : Descriptor, outline.output = some type ∧ type.Valid
  /-- The first values are the parameters. -/
  parameters : outline.values.take outline.inputs.length =
    outline.inputs.zipIdx.map fun (type, index) => (type, .parameter index)
  /-- Every later value comes from an instruction that suits. -/
  later : ∀ (id : ValueId) value, outline.values[id]? = some value → outline.inputs.length ≤ id →
    ∃ (type : Descriptor) (block : BlockId) (instruction : Instruction),
      value = (some type, .instruction block instruction) ∧ type.Valid ∧
      block < outline.ends.length ∧ (∀ operand ∈ instruction.operands, operand < id) ∧
      instruction.Suits outlines outline (some type)
  /-- What a terminator refers to is there. -/
  ended : ∀ (block : BlockId) terminator, outline.ends[block]? = some (some terminator) →
    terminator.Suits outline

theorem Outline.Sound.length_le {outlines : List Outline} {outline : Outline}
    (sound : outline.Sound outlines) : outline.inputs.length ≤ outline.values.length := by
  have lengths := congrArg List.length sound.parameters
  simp only [List.length_take, List.length_map, List.length_zipIdx] at lengths
  omega

theorem Outline.Sound.exists_inputs {outlines : List Outline} {outline : Outline}
    (sound : outline.Sound outlines) :
    ∃ inputs : List Descriptor, outline.inputs = inputs.map some ∧
      ∀ type ∈ inputs, type.Valid := by
  have each := sound.inputs
  generalize outline.inputs = list at each
  induction list with
  | nil => exact ⟨[], rfl, fun _ member => (nomatch member)⟩
  | cons input rest ih =>
    obtain ⟨type, rfl, valid⟩ := each input List.mem_cons_self
    obtain ⟨types, rfl, others⟩ := ih fun other member => each other (List.mem_cons_of_mem _ member)
    refine ⟨type :: types, rfl, fun other member => ?_⟩
    rcases List.mem_cons.mp member with rfl | inside
    · exact valid
    · exact others other inside

/-- What is known of an instruction, by the number of its value. -/
theorem Outline.Sound.instruction_laws {outlines : List Outline} {outline : Outline}
    (sound : outline.Sound outlines) {id : ValueId} {type : Option Descriptor} {block : BlockId}
    {instruction : Instruction}
    (held : outline.values[id]? = some (type, .instruction block instruction)) :
    outline.inputs.length ≤ id ∧ (∃ described : Descriptor, type = some described ∧
      described.Valid) ∧ block < outline.ends.length ∧
      (∀ operand ∈ instruction.operands, operand < id) ∧
      instruction.Suits outlines outline type := by
  have late : outline.inputs.length ≤ id := by
    by_contra early
    have parameter := congrArg (fun list => list[id]?) sound.parameters
    simp only [List.getElem?_take, if_pos (Nat.lt_of_not_le early), held, List.getElem?_map]
      at parameter
    obtain ⟨pair, -, same⟩ := Option.map_eq_some_iff.mp parameter.symm
    cases same
  obtain ⟨_, _, _, same, valid, inside, earlier, suits⟩ := sound.later id _ held late
  cases same
  exact ⟨late, ⟨_, rfl, valid⟩, inside, earlier, suits⟩

namespace Context.WellFormed

variable {context : Context}

theorem exists_valid (formed : context.WellFormed) {id : TypeId}
    (known : (context.types.lookup? id).isSome) :
    ∃ type, context.types.lookup? id = some type ∧ type.Valid := by
  obtain ⟨type, found⟩ := Option.isSome_iff_exists.mp known
  exact ⟨type, found, formed.types.valid id type found⟩

/-- The outlines of a well-formed context are sound. -/
theorem sound (formed : context.WellFormed) {outline : Outline}
    (member : outline ∈ context.outlines) : outline.Sound context.outlines := by
  obtain ⟨id, held⟩ := List.mem_iff_getElem?.mp member
  obtain ⟨function, found, rfl⟩ := exists_of_outlines held
  have inner := formed.functions id function found
  constructor
  case spelled => exact formed.spelled id function found
  case inputs =>
    intro input inside
    obtain ⟨number, numberInside, rfl⟩ := List.mem_map.mp inside
    exact formed.exists_valid (inner.known.1 number numberInside)
  case output => exact formed.exists_valid inner.known.2
  case parameters =>
    have described := congrArg (List.map (Value.described context.types)) inner.take_toList
    simpa [Function.outline, List.zipIdx_map, Value.described, Function.comp_def] using described
  case later =>
    intro number value valueHeld late
    rw [Function.getElem?_values] at valueHeld
    obtain ⟨original, originalFound, rfl⟩ := Option.map_eq_some_iff.mp valueHeld
    have late : function.signature.inputs.length ≤ number := by
      simpa [Function.outline] using late
    obtain ⟨block, instruction, origin, inside, earlier, fits⟩ :=
      inner.later number original originalFound late
    obtain ⟨type, typeFound, valid⟩ :=
      formed.exists_valid (inner.typed number original originalFound)
    refine ⟨type, block, instruction, ?_, valid, ?_, earlier, typeFound ▸ fits.suits formed⟩
    · rw [Value.described, typeFound, origin]
    · rw [Function.length_ends]
      exact inside
  case ended =>
    intro block terminator blockHeld
    rw [Function.getElem?_ends] at blockHeld
    obtain ⟨content, contentFound, ends⟩ := Option.map_eq_some_iff.mp blockHeld
    exact (inner.ended block content terminator contentFound ends).suits context.types

/-- No two functions have one name. -/
theorem nodup_names (formed : context.WellFormed) :
    (context.outlines.map Outline.name).Nodup := by
  rw [List.nodup_iff_getElem?_ne_getElem?]
  intro first second before inside same
  have named : ∀ id name, (context.outlines.map Outline.name)[id]? = some name →
      context.names.lookup name = some id := by
    intro id name held
    rw [List.getElem?_map, getElem?_outlines] at held
    obtain ⟨outline, outlineHeld, rfl⟩ := Option.map_eq_some_iff.mp held
    obtain ⟨function, found, rfl⟩ := Option.map_eq_some_iff.mp outlineHeld
    exact (formed.names _ id).mpr ⟨function, found, rfl⟩
  have held := List.getElem?_eq_getElem inside
  have equal := (named first _ (same.trans held)).symm.trans (named second _ held)
  exact Nat.ne_of_lt before (Option.some.inj equal)

end Context.WellFormed

/-! ## Steps that rebuild -/

/-- The way an instruction is built is a step of construction. -/
theorem Context.Open.buildInstruction {context : Context} {place : Place} {function : Function}
    {block : Block} (opened : context.Open place function block) {type : TypeId}
    {instruction : Instruction} (fits : instruction.Fits context function type) :
    Reader.buildInstruction context place type instruction =
      .ok (context.append place function type instruction) := by
  cases instruction with
  | const literal => exact buildConst_eq_ok_iff.mpr ⟨function, block, opened, fits, rfl⟩
  | call callee arguments =>
    exact buildCall_eq_ok_iff.mpr
      ⟨function, block, callee, type, arguments, opened, rfl, rfl, fits, rfl⟩
  | binary operator left right =>
    exact buildBinary_eq_ok_iff.mpr ⟨function, block, operator, type, left, right, opened,
      operator.ofCode?_code, rfl, rfl, fits, rfl⟩

/-- The way a terminator is built. -/
def Terminator.build (context : Context) (place : Place) : Terminator → Except BuildError Context
  | .branch target => context.buildBranch place (.own target)
  | .result value => context.buildReturn place (.own value)

theorem Context.Open.build {context : Context} {place : Place} {function : Function}
    {block : Block} (opened : context.Open place function block) {terminator : Terminator}
    (fits : terminator.Fits function) :
    terminator.build context place =
      .ok (context.replace place.function (function.terminate place.block terminator)) := by
  cases terminator with
  | branch target =>
    exact buildBranch_eq_ok_iff.mpr ⟨function, block, target, opened, rfl, fits, rfl⟩
  | result value =>
    exact buildReturn_eq_ok_iff.mpr ⟨function, block, value, opened, rfl, fits, rfl⟩

namespace Context

/-- A context under construction whose functions have the given outlines. -/
structure Sketches (context : Context) (outlines : List Outline) : Prop where
  /-- It is well-formed. -/
  formed : context.WellFormed
  /-- It is under construction. -/
  building : context.phase = .building
  /-- Its functions have the outlines. -/
  outlines_eq : context.outlines = outlines

namespace Sketches

variable {context context' : Context} {outlines : List Outline}

theorem new (optimize : Bool) : (Context.new optimize).Sketches [] :=
  ⟨.new optimize, rfl, rfl⟩

/-- What a step of construction makes of a sketch. -/
theorem step (sketches : context.Sketches outlines) (built : context.Build context')
    {outlines' : List Outline} (changed : context'.outlines = outlines') :
    context'.Sketches outlines' :=
  ⟨sketches.formed.build built, built.phase_eq.trans sketches.building, changed⟩

/-- A type can be interned; this shows in no outline. -/
theorem insert (sketches : context.Sketches outlines) {type : Descriptor} (valid : type.Valid) :
    { context with types := (context.types.insert type).1 }.Sketches outlines :=
  sketches.step (.intern type sketches.building valid)
    ((sketches.formed.outlines_intern type).trans sketches.outlines_eq)

theorem intern (sketches : context.Sketches outlines) {type : Descriptor} (valid : type.Valid) :
    context.intern type = .ok ({ context with types := (context.types.insert type).1 },
      (context.types.insert type).2) :=
  intern_eq_ok_iff.mpr ⟨sketches.building, valid, rfl⟩

/-- A function with a new name can be declared. -/
theorem addFunction (sketches : context.Sketches outlines) {raw name : Bytes}
    {signature : Signature} (normal : Text.normalize raw = name)
    (spelled : FunctionName.check name = .ok ()) (fresh : ∀ outline ∈ outlines, outline.name ≠ name)
    (known : signature.Known context.types) :
    ∃ context', context.addFunction raw signature = .ok (context', outlines.length) ∧
      context'.types = context.types ∧
      context'.Sketches (outlines ++ [(Function.declare name signature).outline context.types]) := by
  subst normal
  have unused : context.names.lookup (Text.normalize raw) = none := by
    rw [Option.eq_none_iff_forall_ne_some]
    intro id used
    obtain ⟨function, found, same⟩ := (sketches.formed.names _ id).mp used
    have member : function.outline context.types ∈ outlines := by
      rw [← sketches.outlines_eq]
      exact List.mem_map_of_mem (Arena.mem_toList_iff.mpr ⟨id, found⟩)
    exact fresh _ member same
  have added := addFunction_eq_ok_iff.mpr
    ⟨sketches.building, spelled, unused, known, rfl⟩
  have count : context.functions.size = outlines.length := by
    rw [← sketches.outlines_eq, length_outlines]
  refine ⟨_, ?_, ?_, sketches.step (build_of_addFunction added) ?_⟩
  · rw [added, count]
  · rfl
  · rw [← sketches.outlines_eq]
    simp [Context.outlines]

variable {before after : List Outline} {outline : Outline}

theorem exists_function (sketches : context.Sketches (before ++ outline :: after)) :
    ∃ function, context.functions.get? before.length = some function ∧
      function.outline context.types = outline := by
  apply exists_of_outlines
  rw [sketches.outlines_eq, List.getElem?_append_right (Nat.le_refl _)]
  simp

theorem set_outlines (sketches : context.Sketches (before ++ outline :: after))
    (changed : Outline) :
    context.outlines.set before.length changed = before ++ changed :: after := by
  rw [sketches.outlines_eq]
  simp

theorem exists_open (sketches : context.Sketches (before ++ outline :: after)) {block : BlockId}
    (opened : outline.ends[block]? = some none) :
    ∃ function content, context.Open ⟨before.length, block⟩ function content ∧
      function.outline context.types = outline := by
  obtain ⟨function, found, rfl⟩ := sketches.exists_function
  rw [Function.getElem?_ends] at opened
  obtain ⟨content, contentFound, unended⟩ := Option.map_eq_some_iff.mp opened
  exact ⟨function, content, ⟨sketches.building, found, contentFound, unended⟩, rfl⟩

/-- A block can be added. -/
theorem addBlock (sketches : context.Sketches (before ++ outline :: after)) :
    ∃ context', context.addBlock before.length = .ok (context', outline.ends.length) ∧
      context'.types = context.types ∧
      context'.Sketches
        (before ++ { outline with ends := outline.ends ++ [none] } :: after) := by
  obtain ⟨function, found, rfl⟩ := sketches.exists_function
  have added := addBlock_eq_ok_iff.mpr ⟨function, found, sketches.building, rfl⟩
  refine ⟨_, ?_, ?_, sketches.step (build_of_addBlock added) ?_⟩
  · rw [added, Function.length_ends]
  · rfl
  · rw [outlines_addBlock found, sketches.set_outlines]

/-- An instruction that suits can be appended to an open block. -/
theorem append (sketches : context.Sketches (before ++ outline :: after)) {block : BlockId}
    (opened : outline.ends[block]? = some none) {type : TypeId} {described : Descriptor}
    (typed : context.types.lookup? type = some described) {instruction : Instruction}
    (suits : instruction.Suits (before ++ outline :: after) outline (some described)) :
    ∃ context', Reader.buildInstruction context ⟨before.length, block⟩ type instruction =
        .ok (context', outline.values.length) ∧
      (context'.functions.get? before.length).bind
        (fun content => content.values.get? outline.values.length) =
          some ⟨type, .instruction block instruction⟩ ∧
      context'.types = context.types ∧
      context'.Sketches (before ++
        { outline with
          values := outline.values ++ [(some described, .instruction block instruction)] } ::
          after) := by
  obtain ⟨function, content, place, rfl⟩ := sketches.exists_open opened
  have known : (context.types.lookup? type).isSome := by rw [typed]; rfl
  have fits : instruction.Fits context function type := by
    apply Instruction.Suits.fits sketches.formed place.function_eq known
    rw [sketches.outlines_eq, typed]
    exact suits
  refine ⟨_, ?_, ?_, ?_, sketches.step (.append type instruction place fits) ?_⟩
  · rw [place.buildInstruction fits, Context.append, Function.length_values]
  · have found : context.functions.get? before.length = some function := place.function_eq
    rw [Context.append, get?_replace, if_pos rfl, found]
    simp [Function.length_values, Function.get?_pushValue]
  · rfl
  · rw [outlines_append, typed, sketches.set_outlines]

/-- An open block can be ended by a terminator that suits. -/
theorem finish (sketches : context.Sketches (before ++ outline :: after)) {block : BlockId}
    (opened : outline.ends[block]? = some none) {terminator : Terminator}
    (suits : terminator.Suits outline) :
    ∃ context', terminator.build context ⟨before.length, block⟩ = .ok context' ∧
      context'.Sketches
        (before ++ { outline with ends := outline.ends.set block (some terminator) } :: after) := by
  obtain ⟨function, content, place, rfl⟩ := sketches.exists_open opened
  have fits := suits.fits sketches.formed place.function_eq
  refine ⟨_, place.build fits, sketches.step (.finish terminator place fits) ?_⟩
  rw [outlines_finish, sketches.set_outlines]

end Sketches
end Context

/-! ## Functions in the making -/

namespace Outline

/-- What there is of a function of which some blocks, values and ends have been built. -/
def stage (outline : Outline) (blocks values ends : Nat) : Outline :=
  { outline with
    ends := outline.ends.take ends ++ List.replicate (blocks - ends) none
    values := outline.values.take values }

/-- What there is of a function that has only been declared. -/
def declared (outline : Outline) : Outline := outline.stage 0 outline.inputs.length 0

variable {outline : Outline} {blocks values ends : Nat}

theorem stage_all (outline : Outline) :
    outline.stage outline.ends.length outline.values.length outline.ends.length = outline := by
  simp [stage]

theorem map_head_declared (outlines : List Outline) :
    (outlines.map declared).map head = outlines.map head := by
  simp [Function.comp_def, declared, stage, head]

theorem stage_addBlock :
    { outline.stage blocks values 0 with ends := (outline.stage blocks values 0).ends ++ [none] } =
      outline.stage (blocks + 1) values 0 := by
  simp [stage, List.replicate_succ']

theorem stage_append {value : Option Descriptor × Origin}
    (held : outline.values[values]? = some value) :
    { outline.stage blocks values ends with
      values := (outline.stage blocks values ends).values ++ [value] } =
      outline.stage blocks (values + 1) ends := by
  simp [stage, List.take_add_one, held]

theorem stage_skip (held : outline.ends[ends]? = some none) (inside : ends < blocks) :
    outline.stage blocks values (ends + 1) = outline.stage blocks values ends := by
  have count : blocks - ends = (blocks - (ends + 1)) + 1 := by omega
  simp [stage, List.take_add_one, held, count, List.replicate_succ]

theorem stage_finish {terminator : Terminator}
    (held : outline.ends[ends]? = some (some terminator)) (inside : ends < blocks) :
    { outline.stage blocks values ends with
      ends := (outline.stage blocks values ends).ends.set ends (some terminator) } =
      outline.stage blocks values (ends + 1) := by
  have length : (outline.ends.take ends).length = ends := by
    have bound := (List.getElem?_eq_some_iff.mp held).choose
    rw [List.length_take]
    omega
  have count : blocks - ends = (blocks - (ends + 1)) + 1 := by omega
  simp [stage, List.take_add_one, held, count, List.replicate_succ, length]

theorem stage_open {block : BlockId} (late : ends ≤ block) (inside : block < blocks)
    (bound : ends ≤ outline.ends.length) :
    (outline.stage blocks values ends).ends[block]? = some none := by
  have length : (outline.ends.take ends).length = ends := by
    rw [List.length_take]
    omega
  rw [stage, List.getElem?_append_right (by omega), length, List.getElem?_replicate,
    if_pos (Nat.sub_lt_sub_right late inside)]

theorem typeOf?_stage {id : ValueId} (early : id < values) :
    (outline.stage blocks values ends).typeOf? id = outline.typeOf? id := by
  rw [typeOf?, typeOf?, stage, List.getElem?_take, if_pos early]

namespace Sound

variable {before after after' : List Outline} {context : Context}

theorem declared_eq {outlines : List Outline} (sound : outline.Sound outlines) :
    outline.declared =
      { outline with
        ends := []
        values := outline.inputs.zipIdx.map fun (type, index) => (type, .parameter index) } := by
  simp [declared, stage, sound.parameters]

/-- The function can be declared, once its types are known. -/
theorem declare {outlines : List Outline} (sound : outline.Sound outlines)
    (normal : Text.normalize outline.name = outline.name)
    (fresh : ∀ other ∈ before, other.name ≠ outline.name) (sketches : context.Sketches before)
    {inputs : List TypeId} {output : TypeId}
    (inputsTyped : inputs.map context.types.lookup? = outline.inputs)
    (outputTyped : context.types.lookup? output = outline.output) :
    ∃ context', context.addFunction outline.name ⟨inputs, output⟩ =
        .ok (context', before.length) ∧
      context'.Sketches (before ++ [outline.declared]) := by
  have known : (⟨inputs, output⟩ : Signature).Known context.types := by
    constructor
    · intro id member
      have inside : context.types.lookup? id ∈ outline.inputs := by
        rw [← inputsTyped]
        exact List.mem_map_of_mem member
      obtain ⟨type, found, -⟩ := sound.inputs _ inside
      rw [found]
      rfl
    · obtain ⟨type, found, -⟩ := sound.output
      rw [outputTyped, found]
      rfl
  obtain ⟨context', added, -, done⟩ := sketches.addFunction normal sound.spelled fresh known
  refine ⟨context', added, ?_⟩
  rw [Context.outline_declare, inputsTyped, outputTyped] at done
  rw [sound.declared_eq]
  exact done

/-- The next value can be built. -/
theorem append_stage (sound : outline.Sound (before ++ outline :: after))
    (heads : after'.map head = after.map head)
    (sketches : context.Sketches
      (before ++ outline.stage outline.ends.length values 0 :: after'))
    {described : Descriptor} {block : BlockId} {instruction : Instruction}
    (held : outline.values[values]? = some (some described, .instruction block instruction))
    (late : outline.inputs.length ≤ values) {type : TypeId}
    (typed : context.types.lookup? type = some described) :
    ∃ context', Reader.buildInstruction context ⟨before.length, block⟩ type instruction =
        .ok (context', values) ∧
      (context'.functions.get? before.length).bind (fun content => content.values.get? values) =
        some ⟨type, .instruction block instruction⟩ ∧
      context'.types = context.types ∧
      context'.Sketches
        (before ++ outline.stage outline.ends.length (values + 1) 0 :: after') := by
  obtain ⟨described', block', instruction', same, -, inside, earlier, suits⟩ :=
    sound.later values _ held late
  cases same
  have bound := (List.getElem?_eq_some_iff.mp held).choose
  have count : (outline.stage outline.ends.length values 0).values.length = values := by
    rw [stage, List.length_take]
    omega
  have suits' : instruction.Suits (before ++ outline.stage outline.ends.length values 0 :: after')
      (outline.stage outline.ends.length values 0) (some described) := by
    refine suits.transfer ?_ fun operand member => typeOf?_stage (earlier operand member)
    simp [heads, stage, head]
  obtain ⟨context', built, found, types, sketches'⟩ :=
    sketches.append (stage_open (Nat.zero_le _) inside (Nat.zero_le _)) typed suits'
  rw [count] at built found
  rw [stage_append held] at sketches'
  exact ⟨context', built, found, types, sketches'⟩

/-- What suits the whole suits all of its values. -/
theorem suits_stage (sound : outline.Sound (before ++ outline :: after)) {terminator : Terminator}
    {block : BlockId} (held : outline.ends[block]? = some (some terminator)) :
    terminator.Suits (outline.stage outline.ends.length outline.values.length block) := by
  have inside := (List.getElem?_eq_some_iff.mp held).choose
  have length : (outline.stage outline.ends.length outline.values.length block).ends.length =
      outline.ends.length := by
    rw [stage, List.length_append, List.length_take, List.length_replicate]
    omega
  have suits := sound.ended block terminator held
  cases terminator with
  | branch target =>
    rw [Terminator.Suits, length]
    exact suits
  | result value =>
    have suits : outline.typeOf? value = some outline.output := suits
    have early : value < outline.values.length := by
      obtain ⟨pair, found, -⟩ := Option.map_eq_some_iff.mp suits
      exact (List.getElem?_eq_some_iff.mp found).choose
    rw [Terminator.Suits, typeOf?_stage early]
    exact suits

/-- The next end can be set. -/
theorem finish_stage (sound : outline.Sound (before ++ outline :: after))
    (sketches : context.Sketches
      (before ++ outline.stage outline.ends.length outline.values.length ends :: after'))
    {terminator : Terminator} (held : outline.ends[ends]? = some (some terminator)) :
    ∃ context', terminator.build context ⟨before.length, ends⟩ = .ok context' ∧
      context'.Sketches (before ++
        outline.stage outline.ends.length outline.values.length (ends + 1) :: after') := by
  have inside := (List.getElem?_eq_some_iff.mp held).choose
  obtain ⟨context', built, sketches'⟩ := sketches.finish
    (stage_open (Nat.le_refl _) inside (Nat.le_of_lt inside)) (sound.suits_stage held)
  rw [stage_finish held inside] at sketches'
  exact ⟨context', built, sketches'⟩

end Sound
end Outline

end Blockwork
