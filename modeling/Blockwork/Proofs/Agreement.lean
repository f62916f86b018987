import Blockwork.Proofs.Observation
import Blockwork.Proofs.Rebuild

/-!
# Contexts that agree about a function

What can be built in a function depends on the function itself, on the names, arguments and results
of the others, and on the stage of life of the context; types matter by what they are, not by their
numbers. So if two contexts agree about these, the same thing built in both has the same outcome, a
failure to the last word, and they agree afterwards.
-/

namespace Blockwork

/-- Two outcomes are the same failure, or successes that are related. -/
inductive Matches {ε α β : Type} (related : α → β → Prop) : Except ε α → Except ε β → Prop
  /-- Both fail, in the same way. -/
  | error (failure : ε) : Matches related (.error failure) (.error failure)
  /-- Both succeed. -/
  | ok {left : α} {right : β} (same : related left right) : Matches related (.ok left) (.ok right)

theorem Matches.cases {ε α β : Type} {related : α → β → Prop} {first : Except ε α}
    {second : Except ε β} (matched : Matches related first second) :
    (∃ failure, first = .error failure ∧ second = .error failure) ∨
      ∃ left right, first = .ok left ∧ second = .ok right ∧ related left right := by
  cases matched with
  | error failure => exact .inl ⟨failure, rfl, rfl⟩
  | ok same => exact .inr ⟨_, _, rfl, rfl, same⟩

/-- Calls that answer with nothing but a state. -/
theorem Matches.of_map_fst {ε σ τ : Type} {related : σ → τ → Prop} {first : Except ε (σ × Unit)}
    {second : Except ε (τ × Unit)}
    (matched : Matches related (first.map Prod.fst) (second.map Prod.fst)) :
    Matches (fun made made' => made.2 = made'.2 ∧ related made.1 made'.1) first second := by
  cases first <;> cases second <;> cases matched
  · exact .error _
  · exact .ok ⟨rfl, ‹_›⟩

theorem Matches.bind {ε α β γ δ : Type} {related : α → β → Prop} {related' : γ → δ → Prop}
    {first : Except ε α} {second : Except ε β} {next : α → Except ε γ} {next' : β → Except ε δ}
    (matched : Matches related first second)
    (continues : ∀ left right, related left right → Matches related' (next left) (next' right)) :
    Matches related' (first >>= next) (second >>= next') := by
  cases matched with
  | error failure => exact .error failure
  | ok same => exact continues _ _ same

/-- Two types are one type in one interner exactly if their counterparts are in the other. -/
theorem Interner.WellFormed.eq_iff_eq {types types' : Interner} (formed : types.WellFormed)
    (formed' : types'.WellFormed) {first second first' second' : TypeId}
    (known : (types.lookup? first).isSome) (same : types.lookup? first = types'.lookup? first')
    (other : types.lookup? second = types'.lookup? second') :
    first = second ↔ first' = second' := by
  obtain ⟨type, found⟩ := Option.isSome_iff_exists.mp known
  have found' : types'.lookup? first' = some type := same ▸ found
  constructor
  · rintro rfl
    exact formed'.lookup?_injective found' (other ▸ found)
  · rintro rfl
    exact formed.lookup?_injective found (other ▸ found')

namespace Context

/-- Two contexts are at the same stage and agree about the function with the given number, and about
what it can see of the others. -/
structure AgreeOn (id : FunctionId) (context context' : Context) : Prop where
  /-- Both ask for optimization, or none. -/
  optimize : context.optimize = context'.optimize
  /-- They are at the same stage of life. -/
  phase : context.phase = context'.phase
  /-- Names lead to the same functions. -/
  names : context.names = context'.names
  /-- All functions have the same names, arguments and results. -/
  heads : context.outlines.map Outline.head = context'.outlines.map Outline.head
  /-- The function has the same outline. -/
  outline : context.outlines[id]? = context'.outlines[id]?

/-- Two functions under one number, with one outline. -/
structure Mirrors (id : FunctionId) (context context' : Context) (function function' : Function) :
    Prop where
  /-- The function of the first context. -/
  found : context.functions.get? id = some function
  /-- The function of the second context. -/
  found' : context'.functions.get? id = some function'
  /-- Their outlines are the same. -/
  outline : function.outline context.types = function'.outline context'.types

namespace Mirrors

variable {id : FunctionId} {context context' : Context} {function function' : Function}
  (mirrors : Mirrors id context context' function function')

include mirrors

theorem name : function.name = function'.name := congrArg Outline.name mirrors.outline

theorem size_blocks : function.blocks.size = function'.blocks.size := by
  rw [← Function.length_ends context.types, ← Function.length_ends context'.types, mirrors.outline]

theorem size_values : function.values.size = function'.values.size := by
  rw [← Function.length_values context.types, ← Function.length_values context'.types,
    mirrors.outline]

end Mirrors

/-- Two values under one number, with one type. -/
structure SameValue (context context' : Context) (function function' : Function)
    (held held' : ValueId × Value) : Prop where
  /-- They have the same number. -/
  number : held.1 = held'.1
  /-- The value of the first function. -/
  found : function.values.get? held.1 = some held.2
  /-- The value of the second function. -/
  found' : function'.values.get? held'.1 = some held'.2
  /-- Their types are the same. -/
  type : context.types.lookup? held.2.type = context'.types.lookup? held'.2.type

/-- A value of the function has an expected type in both, or in neither. -/
theorem Mirrors.type_eq_iff {id : FunctionId} {context context' : Context}
    {function function' : Function} (mirrors : Mirrors id context context' function function')
    (formed : context.WellFormed) (formed' : context'.WellFormed) {held held' : ValueId × Value}
    (sameValue : SameValue context context' function function' held held')
    {expected expected' : TypeId}
    (same : context.types.lookup? expected = context'.types.lookup? expected') :
    held.2.type = expected ↔ held'.2.type = expected' :=
  formed.types.eq_iff_eq formed'.types
    ((formed.functions id function mirrors.found).typed _ _ sameValue.found) sameValue.type same

/-- The same has been added to both, so that they agree. -/
def SameAdded (id : FunctionId) (added added' : Context × Nat) : Prop :=
  added.2 = added'.2 ∧ added.1.AgreeOn id added'.1

namespace AgreeOn

variable {id : FunctionId} {context context' : Context}

theorem refl (id : FunctionId) (context : Context) : context.AgreeOn id context :=
  ⟨rfl, rfl, rfl, rfl, rfl⟩

theorem symm (agree : context.AgreeOn id context') : context'.AgreeOn id context :=
  ⟨agree.optimize.symm, agree.phase.symm, agree.names.symm, agree.heads.symm, agree.outline.symm⟩

theorem trans {context'' : Context} (early : context.AgreeOn id context')
    (late : context'.AgreeOn id context'') : context.AgreeOn id context'' :=
  ⟨early.optimize.trans late.optimize, early.phase.trans late.phase, early.names.trans late.names,
    early.heads.trans late.heads, early.outline.trans late.outline⟩

/-- Contexts that agree about every function look alike, as long as they can be read. -/
theorem alike (agree : ∀ id, context.AgreeOn id context') (formed : context.WellFormed)
    (formed' : context'.WellFormed) (alive : context.phase ≠ .destroyed) :
    context.Alike context' where
  formed := formed
  formed' := formed'
  alive := alive
  alive' := (agree 0).phase ▸ alive
  optimize := (agree 0).optimize
  outlines := List.ext_getElem? fun id => (agree id).outline

section

variable (agree : context.AgreeOn id context')

include agree

/-- Under the number there are two functions with one outline, or none at all. -/
theorem function_cases :
    (context.functions.get? id = none ∧ context'.functions.get? id = none) ∨
      ∃ function function', Mirrors id context context' function function' := by
  have same := agree.outline
  rw [getElem?_outlines, getElem?_outlines] at same
  rcases cases_of_map_eq_map same with absent | ⟨function, function', found, found', outline⟩
  · exact .inl absent
  · exact .inr ⟨function, function', found, found', outline⟩

/-- Under any number there are two functions that look the same to others, or none at all. -/
theorem target_cases (target : FunctionId) :
    (context.functions.get? target = none ∧ context'.functions.get? target = none) ∨
      ∃ function function', context.functions.get? target = some function ∧
        context'.functions.get? target = some function' ∧
        (function.outline context.types).head = (function'.outline context'.types).head := by
  have same := congrArg (·[target]?) agree.heads
  simp only [List.getElem?_map, getElem?_outlines, Option.map_map] at same
  exact cases_of_map_eq_map same

theorem usable_eq : context.usable = context'.usable := by
  rw [usable, usable, agree.phase]

/-- Failures in the function are worded the same. -/
theorem blockError_eq (action : Bytes) (block : BlockId) (fault : Fault) (detail : Bytes) :
    context.blockError action ⟨id, block⟩ fault detail =
      context'.blockError action ⟨id, block⟩ fault detail := by
  have name : (context.function? id).map Function.name =
      (context'.function? id).map Function.name := by
    rw [function?, function?, agree.phase]
    split
    · rfl
    · rcases agree.function_cases with ⟨left, right⟩ | ⟨function, function', mirrors⟩
      · rw [left, right]
      · rw [mirrors.found, mirrors.found', Option.map_some, Option.map_some, mirrors.name]
  rcases cases_of_map_eq_map name with ⟨left, right⟩ | ⟨function, function', left, right, same⟩
  · rw [blockError, blockError, left, right]
  · simp only [blockError, left, right, same]

/-! ## Looking things up -/

theorem matches_openBlock (action : Bytes) (block : BlockId) :
    Matches (Mirrors id context context') (context.openBlock action ⟨id, block⟩)
      (context'.openBlock action ⟨id, block⟩) := by
  rcases agree.function_cases with ⟨left, right⟩ | ⟨function, function', mirrors⟩
  · simp only [openBlock, at?, left, right]
    exact .error _
  · have ends : (function.blocks.get? block).map Block.terminator =
        (function'.blocks.get? block).map Block.terminator := by
      rw [← Function.getElem?_ends context.types, ← Function.getElem?_ends context'.types,
        mirrors.outline]
    rcases cases_of_map_eq_map ends with ⟨left, right⟩ | ⟨content, content', left, right, same⟩
    · have place : context.at? ⟨id, block⟩ = none := by simp [at?, mirrors.found, left]
      have place' : context'.at? ⟨id, block⟩ = none := by simp [at?, mirrors.found', right]
      rw [openBlock, openBlock, place, place']
      exact .error _
    · have place : context.at? ⟨id, block⟩ = some (function, content) := by
        simp [at?, mirrors.found, left]
      have place' : context'.at? ⟨id, block⟩ = some (function', content') := by
        simp [at?, mirrors.found', right]
      simp only [openBlock, place, place', agree.usable_eq, same, agree.blockError_eq]
      split
      · exact .error _
      · split
        · exact .ok mirrors
        · exact .error _

theorem matches_ownValue {function function' : Function}
    (mirrors : Mirrors id context context' function function') (action role : Bytes)
    (block : BlockId) (operand : Operand) :
    Matches (SameValue context context' function function')
      (context.ownValue action ⟨id, block⟩ function role operand)
      (context'.ownValue action ⟨id, block⟩ function' role operand) := by
  simp only [ownValue, agree.blockError_eq]
  cases operand with
  | missing => exact .error _
  | foreign other owner => exact .error _
  | own number =>
    have described : (function.values.get? number).map (Value.described context.types) =
        (function'.values.get? number).map (Value.described context'.types) := by
      rw [← Function.getElem?_values, ← Function.getElem?_values, mirrors.outline]
    rcases cases_of_map_eq_map described with ⟨left, right⟩ | ⟨value, value', left, right, same⟩
    · simp only [left, right]
      exact .error _
    · simp only [left, right]
      exact .ok ⟨rfl, left, right, congrArg Prod.fst same⟩

theorem matches_ownBlock {function function' : Function}
    (mirrors : Mirrors id context context' function function') (action : Bytes) (block : BlockId)
    (target : Target) :
    Matches Eq (context.ownBlock action ⟨id, block⟩ function target)
      (context'.ownBlock action ⟨id, block⟩ function' target) := by
  simp only [ownBlock, agree.blockError_eq]
  cases target with
  | missing => exact .error _
  | foreign other owner => exact .error _
  | own other =>
    simp only [mirrors.size_blocks]
    split
    · exact .ok rfl
    · exact .error _

theorem matches_ownFunction (action : Bytes) (block : BlockId) (callee : Callee) :
    Matches (fun held held' => held.1 = held'.1 ∧
        (held.2.outline context.types).head = (held'.2.outline context'.types).head)
      (context.ownFunction action ⟨id, block⟩ callee)
      (context'.ownFunction action ⟨id, block⟩ callee) := by
  simp only [ownFunction, agree.blockError_eq]
  cases callee with
  | missing => exact .error _
  | foreign name => exact .error _
  | own called =>
    rcases agree.target_cases called with ⟨left, right⟩ | ⟨target, target', left, right, heads⟩
    · simp only [left, right]
      exact .error _
    · simp only [left, right]
      exact .ok ⟨rfl, heads⟩

/-! ## Adding -/

/-- Contexts still agree after their functions have changed to the same outline. -/
theorem withFunctions {functions functions' : Arena Function} {outline outline' : Outline}
    (left : { context with functions }.outlines = context.outlines.set id outline)
    (right : { context' with functions := functions' }.outlines = context'.outlines.set id outline')
    (same : outline = outline') :
    { context with functions }.AgreeOn id { context' with functions := functions' } := by
  have sizes : context.outlines.length = context'.outlines.length := by
    simpa using congrArg List.length agree.heads
  refine ⟨agree.optimize, agree.phase, agree.names, ?_, ?_⟩
  · rw [left, right, same, List.map_set, List.map_set, agree.heads]
  · rw [left, right, same, List.getElem?_set, List.getElem?_set, sizes, agree.outline]

section

variable {function function' : Function} (mirrors : Mirrors id context context' function function')

include mirrors

theorem sameAdded_append (block : BlockId) {type type' : TypeId}
    (same : context.types.lookup? type = context'.types.lookup? type') (instruction : Instruction) :
    SameAdded id (context.append ⟨id, block⟩ function type instruction)
      (context'.append ⟨id, block⟩ function' type' instruction) := by
  refine ⟨mirrors.size_values, agree.withFunctions
    (outlines_append context ⟨id, block⟩ function type instruction)
    (outlines_append context' ⟨id, block⟩ function' type' instruction) ?_⟩
  rw [mirrors.outline, same]

theorem agreeOn_finish (block : BlockId) (terminator : Terminator) :
    (context.replace id (function.terminate block terminator)).AgreeOn id
      (context'.replace id (function'.terminate block terminator)) := by
  refine agree.withFunctions (outlines_finish context ⟨id, block⟩ function terminator)
    (outlines_finish context' ⟨id, block⟩ function' terminator) ?_
  rw [mirrors.outline]

end

theorem matches_addBlock : Matches (SameAdded id) (context.addBlock id) (context'.addBlock id) := by
  rcases agree.function_cases with ⟨left, right⟩ | ⟨function, function', mirrors⟩
  · simp only [addBlock_eq, usableFunction, left, right]
    exact .error _
  · simp only [addBlock_eq, usableFunction, mirrors.found, mirrors.found', agree.usable_eq,
      mirrors.name]
    cases context'.usable with
    | error fault => exact .error _
    | ok _ =>
      refine .ok ⟨mirrors.size_blocks, agree.withFunctions (outlines_addBlock mirrors.found)
        (outlines_addBlock mirrors.found') ?_⟩
      rw [mirrors.outline]

theorem matches_buildConst (block : BlockId) {type type' : TypeId}
    (known : (context.types.lookup? type).isSome)
    (same : context.types.lookup? type = context'.types.lookup? type') (literal : UInt64) :
    Matches (SameAdded id) (context.buildConst ⟨id, block⟩ type literal)
      (context'.buildConst ⟨id, block⟩ type' literal) := by
  rw [buildConst_eq, buildConst_eq]
  refine (agree.matches_openBlock _ block).bind fun function function' mirrors => ?_
  rw [if_pos known, if_pos (same ▸ known)]
  exact .ok (agree.sameAdded_append mirrors block same _)

theorem matches_buildBranch (block : BlockId) (target : Target) :
    Matches (AgreeOn id) (context.buildBranch ⟨id, block⟩ target)
      (context'.buildBranch ⟨id, block⟩ target) := by
  rw [buildBranch_eq, buildBranch_eq]
  refine (agree.matches_openBlock _ block).bind fun function function' mirrors => ?_
  refine (agree.matches_ownBlock mirrors _ block target).bind fun other other' same => ?_
  rw [same]
  exact .ok (agree.agreeOn_finish mirrors block _)

variable (formed : context.WellFormed) (formed' : context'.WellFormed)

include formed formed'

theorem agreeOn_intern (type : Descriptor) :
    { context with types := (context.types.insert type).1 }.AgreeOn id
      { context' with types := (context'.types.insert type).1 } := by
  refine ⟨agree.optimize, agree.phase, agree.names, ?_, ?_⟩
  · rw [formed.outlines_intern, formed'.outlines_intern, agree.heads]
  · rw [formed.outlines_intern, formed'.outlines_intern, agree.outline]

/-- A type that is interned in both has the same meaning in both, whatever its numbers. -/
theorem matches_intern (type : Descriptor) :
    Matches (fun added added' => added.1.AgreeOn id added'.1 ∧
        added.1.types.lookup? added.2 = some type ∧ added'.1.types.lookup? added'.2 = some type)
      (context.intern type) (context'.intern type) := by
  rw [intern_eq, intern_eq, agree.usable_eq]
  cases context'.usable with
  | error fault => exact .error fault
  | ok _ =>
    rw [ok_bind, ok_bind, Interner.intern_eq, Interner.intern_eq]
    cases checked : type.check with
    | error fault => exact .error fault
    | ok _ =>
      have valid := Interner.check_eq_ok_iff.mp checked
      exact .ok ⟨agree.agreeOn_intern formed formed' type, formed.types.lookup?_insert valid,
        formed'.types.lookup?_insert valid⟩

theorem matches_buildReturn (block : BlockId) (operand : Operand) :
    Matches (AgreeOn id) (context.buildReturn ⟨id, block⟩ operand)
      (context'.buildReturn ⟨id, block⟩ operand) := by
  rw [buildReturn_eq, buildReturn_eq]
  refine (agree.matches_openBlock _ block).bind fun function function' mirrors => ?_
  refine (agree.matches_ownValue mirrors _ _ block operand).bind fun held held' sameValue => ?_
  have output : context.types.lookup? function.signature.output =
      context'.types.lookup? function'.signature.output := congrArg Outline.output mirrors.outline
  simp only [agree.blockError_eq, mirrors.type_eq_iff formed formed' sameValue output,
    Alike.name_eq_of_lookup?_eq output, Alike.name_eq_of_lookup?_eq sameValue.type]
  split
  · rw [sameValue.number]
    exact .ok (agree.agreeOn_finish mirrors block _)
  · exact .error _

theorem matches_buildBinary (block : BlockId) (code : UInt8) (left right : Operand) :
    Matches (SameAdded id) (context.buildBinary ⟨id, block⟩ code left right)
      (context'.buildBinary ⟨id, block⟩ code left right) := by
  rw [buildBinary_eq, buildBinary_eq]
  refine (agree.matches_openBlock _ block).bind fun function function' mirrors => ?_
  simp only [agree.blockError_eq]
  cases Operator.ofCode? code with
  | none => exact .error _
  | some operator =>
    refine (agree.matches_ownValue mirrors _ _ block left).bind fun one one' sameOne => ?_
    refine (agree.matches_ownValue mirrors _ _ block right).bind fun two two' sameTwo => ?_
    simp only [mirrors.type_eq_iff formed formed' sameOne sameTwo.type,
      Alike.name_eq_of_lookup?_eq sameOne.type, Alike.name_eq_of_lookup?_eq sameTwo.type,
      sameOne.number, sameTwo.number]
    split
    · refine .ok (agree.sameAdded_append mirrors block ?_ _)
      split
      · exact formed.truth.trans formed'.truth.symm
      · exact sameOne.type
    · exact .error _

theorem matches_callArguments {function function' : Function}
    (mirrors : Mirrors id context context' function function') (callee : Bytes) (block : BlockId)
    {inputs inputs' : List TypeId}
    (same : inputs.map context.types.lookup? = inputs'.map context'.types.lookup?) (index : Nat)
    (operands : List Operand) :
    Matches Eq (context.callArguments ⟨id, block⟩ function callee index inputs operands)
      (context'.callArguments ⟨id, block⟩ function' callee index inputs' operands) := by
  induction inputs generalizing inputs' index operands with
  | nil =>
    obtain rfl := List.map_eq_nil_iff.mp same.symm
    exact .ok rfl
  | cons expected inputs ih =>
    cases inputs' with
    | nil => cases same
    | cons expected' inputs' =>
      obtain ⟨type, rest⟩ := List.cons.inj same
      cases operands with
      | nil => exact .ok rfl
      | cons operand operands =>
        refine (agree.matches_ownValue mirrors _ _ block operand).bind
          fun held held' sameValue => ?_
        simp only [agree.blockError_eq, mirrors.type_eq_iff formed formed' sameValue type,
          Alike.name_eq_of_lookup?_eq type, Alike.name_eq_of_lookup?_eq sameValue.type]
        split
        · refine (ih rest (index + 1) operands).bind fun ids ids' equal => ?_
          rw [equal, sameValue.number]
          exact .ok rfl
        · exact .error _

theorem matches_buildCall (block : BlockId) (callee : Callee) (arguments : List Operand) :
    Matches (SameAdded id) (context.buildCall ⟨id, block⟩ callee arguments)
      (context'.buildCall ⟨id, block⟩ callee arguments) := by
  rw [buildCall_eq, buildCall_eq]
  refine (agree.matches_openBlock _ block).bind fun function function' mirrors => ?_
  refine (agree.matches_ownFunction _ block callee).bind ?_
  rintro ⟨called, target⟩ ⟨called', target'⟩ ⟨number, heads⟩
  obtain ⟨name, inputs, output⟩ : target.name = target'.name ∧
      target.signature.inputs.map context.types.lookup? =
        target'.signature.inputs.map context'.types.lookup? ∧
      context.types.lookup? target.signature.output =
        context'.types.lookup? target'.signature.output := by
    simpa only [Outline.head, Function.outline, Prod.mk.injEq] using heads
  obtain rfl : called = called' := number
  have arity : target.signature.inputs.length = target'.signature.inputs.length := by
    simpa using congrArg List.length inputs
  simp only [agree.blockError_eq, name, arity]
  split
  · refine (agree.matches_callArguments formed formed' mirrors _ block inputs 0 arguments).bind
      fun ids ids' equal => ?_
    rw [equal]
    exact .ok (agree.sameAdded_append mirrors block output _)
  · exact .error _

end

end AgreeOn
end Context
end Blockwork
