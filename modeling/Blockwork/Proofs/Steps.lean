import Blockwork.Proofs.InPlace
import Mathlib.Logic.Relation

/-!
# Construction step by step

Everything that construction does to a context is one of five steps: a type is interned, a function
declared, a block added, a value appended to a block, or a block ended. This file says what each
step requires and does, and that the construction operations succeed exactly if they make such a
step. What holds along every construction is proved from the steps alone.
-/

namespace Blockwork

namespace Function

/-- The type of a value, by number. -/
def typeOf? (function : Function) (id : ValueId) : Option TypeId :=
  (function.values.get? id).map Value.type

theorem typeOf?_eq_some_iff {function : Function} {id : ValueId} {type : TypeId} :
    function.typeOf? id = some type ↔
      ∃ value, function.values.get? id = some value ∧ value.type = type := by
  simp [typeOf?]

theorem lt_of_typeOf? {function : Function} {id : ValueId} {type : TypeId}
    (typed : function.typeOf? id = some type) : id < function.values.size := by
  obtain ⟨value, found, -⟩ := typeOf?_eq_some_iff.mp typed
  exact Arena.get?_eq_some_lt found

end Function

/-- Whether an instruction can compute a value of the given type: the type of a constant is known,
a call passes what the function takes and yields what it returns, and the operands of an operator
have one type. -/
def Instruction.Fits (context : Context) (function : Function) (type : TypeId) :
    Instruction → Prop
  | .const _ => (context.types.lookup? type).isSome
  | .call callee arguments =>
    ∃ target, context.functions.get? callee = some target ∧
      arguments.map function.typeOf? = target.signature.inputs.map some ∧
      type = target.signature.output
  | .binary operator left right =>
    ∃ shared, function.typeOf? left = some shared ∧ function.typeOf? right = some shared ∧
      type = if operator.isComparison then Interner.boolId else shared

/-- Whether a terminator refers to what the function has: a block, or a value of the type that is
returned. -/
def Terminator.Fits (function : Function) : Terminator → Prop
  | .branch target => target < function.blocks.size
  | .result value => function.typeOf? value = some function.signature.output

namespace Context

/-- A place where a value can be added: a block without an end in a context under construction. -/
structure Open (context : Context) (place : Place) (function : Function) (block : Block) :
    Prop where
  /-- The context is under construction. -/
  building : context.phase = .building
  /-- The function of the place. -/
  function_eq : context.functions.get? place.function = some function
  /-- The block of the place. -/
  block_eq : function.blocks.get? place.block = some block
  /-- The block has no end. -/
  unended : block.terminator = none

/-- One step of construction. -/
inductive Build : Context → Context → Prop
  /-- A type is interned. -/
  | intern {context : Context} (type : Descriptor) (building : context.phase = .building)
      (valid : type.Valid) : Build context { context with types := (context.types.insert type).1 }
  /-- A function is declared under a new name. -/
  | declare {context : Context} (raw : Bytes) (signature : Signature)
      (building : context.phase = .building)
      (checked : FunctionName.check (Text.normalize raw) = .ok ())
      (fresh : context.names.lookup (Text.normalize raw) = none)
      (known : signature.Known context.types) :
      Build context { context with
        functions := context.functions.push (.declare (Text.normalize raw) signature)
        names := (Text.normalize raw, context.functions.size) :: context.names }
  /-- A block is added. -/
  | addBlock {context : Context} (id : FunctionId) (function : Function)
      (building : context.phase = .building)
      (found : context.functions.get? id = some function) :
      Build context { context with functions := context.functions.modify id Function.pushBlock }
  /-- A value is appended to a block. -/
  | append {context : Context} {place : Place} {function : Function} {block : Block}
      (type : TypeId) (instruction : Instruction) (opened : context.Open place function block)
      (fits : instruction.Fits context function type) :
      Build context (context.append place function type instruction).1
  /-- A block is ended. -/
  | finish {context : Context} {place : Place} {function : Function} {block : Block}
      (terminator : Terminator) (opened : context.Open place function block)
      (fits : terminator.Fits function) :
      Build context
        (context.replace place.function (function.terminate place.block terminator))

/-- What construction makes of a context. -/
def Builds : Context → Context → Prop := Relation.ReflTransGen Build

/-- One step in the life of a context. -/
inductive Step : Context → Context → Prop
  /-- Something is added. -/
  | build {context context' : Context} (built : context.Build context') : Step context context'
  /-- A backend is given the context. -/
  | consume {context : Context} (building : context.phase = .building) :
      Step context { context with phase := .consumed }
  /-- The context is destroyed. -/
  | destroy (context : Context) : Step context context.destroy

/-- What life makes of a context. -/
def Reaches : Context → Context → Prop := Relation.ReflTransGen Step

theorem Build.building {context context' : Context} (built : context.Build context') :
    context.phase = .building := by
  cases built with
  | intern _ building _ => exact building
  | declare _ _ building _ _ _ => exact building
  | addBlock _ _ building _ => exact building
  | append _ _ opened _ => exact opened.building
  | finish _ opened _ => exact opened.building

theorem Build.phase_eq {context context' : Context} (built : context.Build context') :
    context'.phase = context.phase := by
  cases built <;> rfl

theorem Build.optimize_eq {context context' : Context} (built : context.Build context') :
    context'.optimize = context.optimize := by
  cases built <;> rfl

theorem Builds.phase_eq {context context' : Context} (built : context.Builds context') :
    context'.phase = context.phase := by
  induction built with
  | refl => rfl
  | tail _ step ih => exact step.phase_eq.trans ih

theorem Builds.optimize_eq {context context' : Context} (built : context.Builds context') :
    context'.optimize = context.optimize := by
  induction built with
  | refl => rfl
  | tail _ step ih => exact step.optimize_eq.trans ih

theorem Builds.reaches {context context' : Context} (built : context.Builds context') :
    context.Reaches context' := by
  induction built with
  | refl => exact .refl
  | tail _ step ih => exact ih.tail (.build step)

/-! ## Operations that make a step -/

variable {context : Context}

theorem usable_eq_ok_iff : context.usable = .ok () ↔ context.phase = .building := by
  unfold usable
  cases context.phase <;> simp

theorem readable_eq_ok_iff : context.readable = .ok () ↔ context.phase ≠ .destroyed := by
  unfold readable
  cases context.phase <;> simp

/-- A type is interned exactly if it is one and the context is under construction. -/
theorem intern_eq_ok_iff {type : Descriptor} {added : Context × TypeId} :
    context.intern type = .ok added ↔
      context.phase = .building ∧ type.Valid ∧
        added = ({ context with types := (context.types.insert type).1 },
          (context.types.insert type).2) := by
  rw [intern_eq, bind_eq_ok_iff]
  constructor
  · rintro ⟨⟨⟩, usable, rest⟩
    obtain ⟨⟨types, id⟩, interned, done⟩ := bind_eq_ok_iff.mp rest
    obtain ⟨valid, same⟩ := Interner.intern_eq_ok_iff.mp interned
    refine ⟨usable_eq_ok_iff.mp usable, valid, ?_⟩
    rw [← same]
    exact (Except.ok.inj done).symm
  · rintro ⟨building, valid, rfl⟩
    refine ⟨(), usable_eq_ok_iff.mpr building, ?_⟩
    rw [Interner.intern_eq_ok_iff.mpr ⟨valid, rfl⟩]
    rfl

/-- A function is added exactly if the context is under construction, the name is one and new, and
the types are known. -/
theorem addFunction_eq_ok_iff {raw : Bytes} {signature : Signature} {added : Context × Nat} :
    context.addFunction raw signature = .ok added ↔
      context.phase = .building ∧ FunctionName.check (Text.normalize raw) = .ok () ∧
        context.names.lookup (Text.normalize raw) = none ∧ signature.Known context.types ∧
        added = ({ context with
          functions := context.functions.push (.declare (Text.normalize raw) signature)
          names := (Text.normalize raw, context.functions.size) :: context.names },
          context.functions.size) := by
  rw [addFunction_eq]
  cases usable : context.usable with
  | error fault =>
    have closed : context.phase ≠ .building := by
      rw [Ne, ← usable_eq_ok_iff, usable]
      simp
    simp [closed]
  | ok _ =>
    have building := usable_eq_ok_iff.mp usable
    simp only [building, true_and]
    cases FunctionName.check (Text.normalize raw) with
    | error fault => simp
    | ok _ =>
      cases context.names.lookup (Text.normalize raw) with
      | some id => simp
      | none => by_cases known : signature.Known context.types <;> simp [known, eq_comm]

theorem usableFunction_eq_ok_iff {action : Bytes} {id : FunctionId} {function : Function} :
    context.usableFunction action id = .ok function ↔
      context.functions.get? id = some function ∧ context.phase = .building := by
  unfold usableFunction
  cases context.functions.get? id with
  | none => simp
  | some holder =>
    cases usable : context.usable with
    | error fault =>
      have closed : context.phase ≠ .building := by
        rw [Ne, ← usable_eq_ok_iff, usable]
        simp
      simp [closed]
    | ok _ => simp [usable_eq_ok_iff.mp usable]

/-- A block is added exactly if the function is there and the context under construction. -/
theorem addBlock_eq_ok_iff {id : FunctionId} {added : Context × Nat} :
    context.addBlock id = .ok added ↔
      ∃ function, context.functions.get? id = some function ∧ context.phase = .building ∧
        added = ({ context with functions := context.functions.modify id Function.pushBlock },
          function.blocks.size) := by
  rw [addBlock_eq, bind_eq_ok_iff]
  simp only [usableFunction_eq_ok_iff, pure, Except.pure, Except.ok.injEq, and_assoc,
    eq_comm (b := added)]

theorem argument_eq_ok_iff {id : FunctionId} {index : Int} {value : ValueId} :
    context.argument id index = .ok value ↔
      ∃ function, context.functions.get? id = some function ∧ context.phase = .building ∧
        0 ≤ index ∧ index < function.signature.inputs.length ∧ value = index.toNat := by
  unfold argument
  rw [bind_eq_ok_iff]
  simp only [usableFunction_eq_ok_iff, and_assoc]
  refine exists_congr fun function => and_congr_right fun _ => and_congr_right fun _ => ?_
  by_cases inside : 0 ≤ index ∧ index < function.signature.inputs.length
  · simp [inside, eq_comm]
  · rw [if_neg inside, ← and_assoc]
    simp [inside]

/-- A block can be added to exactly if it is open. -/
theorem openBlock_eq_ok_iff {action : Bytes} {place : Place} {function : Function} :
    context.openBlock action place = .ok function ↔ ∃ block, context.Open place function block := by
  unfold openBlock at?
  constructor
  · intro opened
    split at opened
    · cases opened
    · rename_i found block resolved
      simp only [Option.bind_eq_bind, Option.bind_eq_some_iff] at resolved
      obtain ⟨holder, holderFound, content, contentFound, same⟩ := resolved
      cases same
      cases usable : context.usable with
      | error fault =>
        rw [usable] at opened
        cases opened
      | ok _ =>
        rw [usable] at opened
        cases unended : block.terminator with
        | some terminator =>
          simp only [unended] at opened
          cases opened
        | none =>
          simp only [unended] at opened
          cases opened
          exact ⟨block, usable_eq_ok_iff.mp usable, holderFound, contentFound, unended⟩
  · rintro ⟨block, opened⟩
    simp [opened.function_eq, opened.block_eq, usable_eq_ok_iff.mpr opened.building,
      opened.unended]

/-- A value of the function at hand is the only operand that is accepted. -/
theorem ownValue_eq_ok_iff {action role : Bytes} {place : Place} {function : Function}
    {operand : Operand} {id : ValueId} {value : Value} :
    context.ownValue action place function role operand = .ok (id, value) ↔
      operand = .own id ∧ function.values.get? id = some value := by
  unfold ownValue
  cases operand with
  | missing => simp
  | foreign other owner => simp
  | own other =>
    cases found : function.values.get? other with
    | none =>
      simp only [found, reduceCtorEq, false_iff]
      rintro ⟨same, held⟩
      cases same
      rw [found] at held
      cases held
    | some held =>
      simp only [found, Except.ok.injEq, Prod.mk.injEq, Operand.own.injEq]
      constructor
      · rintro ⟨rfl, rfl⟩
        exact ⟨rfl, found⟩
      · rintro ⟨rfl, again⟩
        exact ⟨rfl, Option.some.inj (found.symm.trans again)⟩

theorem buildConst_eq_ok_iff {place : Place} {type : TypeId} {literal : UInt64}
    {added : Context × ValueId} :
    context.buildConst place type literal = .ok added ↔
      ∃ function block, context.Open place function block ∧
        (Instruction.const literal).Fits context function type ∧
        added = context.append place function type (.const literal) := by
  rw [buildConst_eq, bind_eq_ok_iff]
  constructor
  · rintro ⟨function, opened, rest⟩
    obtain ⟨block, opened⟩ := openBlock_eq_ok_iff.mp opened
    split at rest
    · exact ⟨function, block, opened, ‹_›, (Except.ok.inj rest).symm⟩
    · cases rest
  · rintro ⟨function, block, opened, known, rfl⟩
    exact ⟨function, openBlock_eq_ok_iff.mpr ⟨block, opened⟩, if_pos known⟩

/-- The arguments of a call are accepted exactly if each is a value of the function at hand and of
the type that is expected at its place. -/
theorem callArguments_eq_ok_iff {place : Place} {function : Function} {callee : Bytes}
    {index : Nat} {inputs : List TypeId} {operands : List Operand}
    (arity : operands.length = inputs.length) {ids : List ValueId} :
    context.callArguments place function callee index inputs operands = .ok ids ↔
      operands = ids.map .own ∧ ids.map function.typeOf? = inputs.map some := by
  induction inputs generalizing index operands ids with
  | nil =>
    obtain rfl := List.length_eq_zero_iff.mp arity
    simp only [callArguments, Except.ok.injEq, List.map_nil]
    constructor
    · rintro rfl
      simp
    · rintro ⟨-, empty⟩
      exact (List.map_eq_nil_iff.mp empty).symm
  | cons expected inputs ih =>
    cases operands with
    | nil => simp at arity
    | cons operand operands =>
      have tail : operands.length = inputs.length := by simpa using arity
      simp only [callArguments]
      constructor
      · intro accepted
        obtain ⟨⟨id, value⟩, own, rest⟩ := bind_eq_ok_iff.mp accepted
        obtain ⟨rfl, found⟩ := ownValue_eq_ok_iff.mp own
        split at rest
        · rename_i typed
          obtain ⟨others, accepted, done⟩ := bind_eq_ok_iff.mp rest
          obtain ⟨rfl, types⟩ := (ih tail).mp accepted
          obtain rfl := Except.ok.inj done
          have headTyped : function.typeOf? id = some expected :=
            Function.typeOf?_eq_some_iff.mpr ⟨value, found, typed⟩
          simp [headTyped, types]
        · cases rest
      · rintro ⟨operandsEq, types⟩
        cases ids with
        | nil => simp at types
        | cons id ids =>
          simp only [List.map_cons, List.cons.injEq] at operandsEq types
          obtain ⟨rfl, rfl⟩ := operandsEq
          obtain ⟨value, found, typed⟩ := Function.typeOf?_eq_some_iff.mp types.1
          refine bind_eq_ok_iff.mpr ⟨(id, value), ownValue_eq_ok_iff.mpr ⟨rfl, found⟩, ?_⟩
          rw [if_pos typed]
          exact bind_eq_ok_iff.mpr ⟨ids, (ih tail).mpr ⟨rfl, types.2⟩, rfl⟩

theorem ownFunction_eq_ok_iff {action : Bytes} {place : Place} {callee : Callee}
    {id : FunctionId} {target : Function} :
    context.ownFunction action place callee = .ok (id, target) ↔
      callee = .own id ∧ context.functions.get? id = some target := by
  cases callee with
  | missing => simp [ownFunction]
  | foreign name => simp [ownFunction]
  | own other =>
    cases found : context.functions.get? other with
    | none =>
      simp only [ownFunction, found, reduceCtorEq, Callee.own.injEq, false_iff, not_and]
      rintro rfl
      simp [found]
    | some function =>
      simp only [ownFunction, found, Except.ok.injEq, Prod.mk.injEq, Callee.own.injEq]
      refine and_congr_right ?_
      rintro rfl
      simp [found]

theorem buildCall_eq_ok_iff {place : Place} {callee : Callee} {operands : List Operand}
    {added : Context × ValueId} :
    context.buildCall place callee operands = .ok added ↔
      ∃ function block id type ids, context.Open place function block ∧
        callee = .own id ∧ operands = ids.map .own ∧
        (Instruction.call id ids).Fits context function type ∧
        added = context.append place function type (.call id ids) := by
  rw [buildCall_eq, bind_eq_ok_iff]
  constructor
  · rintro ⟨function, opened, rest⟩
    obtain ⟨block, opened⟩ := openBlock_eq_ok_iff.mp opened
    obtain ⟨⟨id, target⟩, own, rest⟩ := bind_eq_ok_iff.mp rest
    obtain ⟨calleeEq, found⟩ := ownFunction_eq_ok_iff.mp own
    simp only at rest
    split at rest
    · rename_i arity
      obtain ⟨ids, accepted, done⟩ := bind_eq_ok_iff.mp rest
      obtain ⟨own, types⟩ := (callArguments_eq_ok_iff arity).mp accepted
      exact ⟨function, block, id, _, ids, opened, calleeEq, own, ⟨target, found, types, rfl⟩,
        (Except.ok.inj done).symm⟩
    · cases rest
  · rintro ⟨function, block, id, type, ids, opened, rfl, rfl, ⟨target, found, types, rfl⟩, rfl⟩
    refine ⟨function, openBlock_eq_ok_iff.mpr ⟨block, opened⟩, ?_⟩
    have arity : (ids.map Operand.own).length = target.signature.inputs.length := by
      simpa using congrArg List.length types
    refine bind_eq_ok_iff.mpr ⟨(id, target), ownFunction_eq_ok_iff.mpr ⟨rfl, found⟩, ?_⟩
    dsimp only
    rw [if_pos arity]
    exact bind_eq_ok_iff.mpr ⟨ids, (callArguments_eq_ok_iff arity).mpr ⟨rfl, types⟩, rfl⟩

theorem buildBinary_eq_ok_iff {place : Place} {code : UInt8} {left right : Operand}
    {added : Context × ValueId} :
    context.buildBinary place code left right = .ok added ↔
      ∃ function block operator type leftId rightId, context.Open place function block ∧
        Operator.ofCode? code = some operator ∧ left = .own leftId ∧ right = .own rightId ∧
        (Instruction.binary operator leftId rightId).Fits context function type ∧
        added = context.append place function type (.binary operator leftId rightId) := by
  rw [buildBinary_eq, bind_eq_ok_iff]
  constructor
  · rintro ⟨function, opened, rest⟩
    obtain ⟨block, opened⟩ := openBlock_eq_ok_iff.mp opened
    cases decoded : Operator.ofCode? code with
    | none =>
      rw [decoded] at rest
      cases rest
    | some operator =>
      rw [decoded] at rest
      obtain ⟨⟨leftId, leftValue⟩, leftOwn, afterLeft⟩ := bind_eq_ok_iff.mp rest
      obtain ⟨⟨rightId, rightValue⟩, rightOwn, afterRight⟩ := bind_eq_ok_iff.mp afterLeft
      obtain ⟨leftEq, leftFound⟩ := ownValue_eq_ok_iff.mp leftOwn
      obtain ⟨rightEq, rightFound⟩ := ownValue_eq_ok_iff.mp rightOwn
      simp only at afterRight
      split at afterRight
      · rename_i same
        refine ⟨function, block, operator, _, leftId, rightId, opened, rfl, leftEq, rightEq,
          ⟨leftValue.type, ?_, ?_, rfl⟩, (Except.ok.inj afterRight).symm⟩
        · exact Function.typeOf?_eq_some_iff.mpr ⟨leftValue, leftFound, rfl⟩
        · exact Function.typeOf?_eq_some_iff.mpr ⟨rightValue, rightFound, same.symm⟩
      · cases afterRight
  · rintro ⟨function, block, operator, type, leftId, rightId, opened, decoded, rfl, rfl,
      ⟨shared, leftTyped, rightTyped, rfl⟩, rfl⟩
    obtain ⟨leftValue, leftFound, rfl⟩ := Function.typeOf?_eq_some_iff.mp leftTyped
    obtain ⟨rightValue, rightFound, same⟩ := Function.typeOf?_eq_some_iff.mp rightTyped
    refine ⟨function, openBlock_eq_ok_iff.mpr ⟨block, opened⟩, ?_⟩
    rw [decoded]
    refine bind_eq_ok_iff.mpr ⟨_, ownValue_eq_ok_iff.mpr ⟨rfl, leftFound⟩, ?_⟩
    exact bind_eq_ok_iff.mpr
      ⟨_, ownValue_eq_ok_iff.mpr ⟨rfl, rightFound⟩, if_pos same.symm⟩

theorem ownBlock_eq_ok_iff {action : Bytes} {place : Place} {function : Function}
    {target : Target} {id : BlockId} :
    context.ownBlock action place function target = .ok id ↔
      target = .own id ∧ id < function.blocks.size := by
  cases target with
  | missing => simp [ownBlock]
  | foreign other owner => simp [ownBlock]
  | own other =>
    by_cases inside : other < function.blocks.size
    · simp only [ownBlock, if_pos inside, Except.ok.injEq, Target.own.injEq]
      exact ⟨fun same => ⟨same, same ▸ inside⟩, And.left⟩
    · simp only [ownBlock, if_neg inside, reduceCtorEq, Target.own.injEq, false_iff, not_and]
      rintro rfl
      exact inside

theorem buildBranch_eq_ok_iff {place : Place} {target : Target} {context' : Context} :
    context.buildBranch place target = .ok context' ↔
      ∃ function block id, context.Open place function block ∧ target = .own id ∧
        (Terminator.branch id).Fits function ∧
        context' = context.replace place.function (function.terminate place.block (.branch id)) := by
  rw [buildBranch_eq, bind_eq_ok_iff]
  constructor
  · rintro ⟨function, opened, rest⟩
    obtain ⟨block, opened⟩ := openBlock_eq_ok_iff.mp opened
    obtain ⟨id, own, done⟩ := bind_eq_ok_iff.mp rest
    obtain ⟨targetEq, inside⟩ := ownBlock_eq_ok_iff.mp own
    exact ⟨function, block, id, opened, targetEq, inside, (Except.ok.inj done).symm⟩
  · rintro ⟨function, block, id, opened, rfl, inside, rfl⟩
    refine ⟨function, openBlock_eq_ok_iff.mpr ⟨block, opened⟩, ?_⟩
    exact bind_eq_ok_iff.mpr ⟨id, ownBlock_eq_ok_iff.mpr ⟨rfl, inside⟩, rfl⟩

theorem buildBranch_of_outcome {place : Place} {target : Target} {context' : Context} {done : Unit}
    (ended : (Construct.branch place target).outcome context = .ok (context', done)) :
    context.buildBranch place target = .ok context' :=
  congrArg (Except.map Prod.fst) ended

theorem buildReturn_eq_ok_iff {place : Place} {operand : Operand} {context' : Context} :
    context.buildReturn place operand = .ok context' ↔
      ∃ function block id, context.Open place function block ∧ operand = .own id ∧
        (Terminator.result id).Fits function ∧
        context' = context.replace place.function (function.terminate place.block (.result id)) := by
  rw [buildReturn_eq, bind_eq_ok_iff]
  constructor
  · rintro ⟨function, opened, rest⟩
    obtain ⟨block, opened⟩ := openBlock_eq_ok_iff.mp opened
    obtain ⟨⟨id, value⟩, own, after⟩ := bind_eq_ok_iff.mp rest
    obtain ⟨operandEq, found⟩ := ownValue_eq_ok_iff.mp own
    simp only at after
    split at after
    · rename_i typed
      exact ⟨function, block, id, opened, operandEq,
        Function.typeOf?_eq_some_iff.mpr ⟨value, found, typed⟩, (Except.ok.inj after).symm⟩
    · cases after
  · rintro ⟨function, block, id, opened, rfl, typed, rfl⟩
    obtain ⟨value, found, same⟩ := Function.typeOf?_eq_some_iff.mp typed
    refine ⟨function, openBlock_eq_ok_iff.mpr ⟨block, opened⟩, ?_⟩
    exact bind_eq_ok_iff.mpr ⟨_, ownValue_eq_ok_iff.mpr ⟨rfl, found⟩, if_pos same⟩

theorem buildReturn_of_outcome {place : Place} {operand : Operand} {context' : Context}
    {done : Unit} (ended : (Construct.result place operand).outcome context = .ok (context', done)) :
    context.buildReturn place operand = .ok context' :=
  congrArg (Except.map Prod.fst) ended

/-! ## Every successful operation is a step -/

theorem build_of_intern {type : Descriptor} {context' : Context} {id : TypeId}
    (interned : context.intern type = .ok (context', id)) : context.Build context' := by
  obtain ⟨building, valid, same⟩ := intern_eq_ok_iff.mp interned
  cases same
  exact .intern type building valid

theorem build_of_addFunction {raw : Bytes} {signature : Signature} {context' : Context}
    {id : FunctionId} (added : context.addFunction raw signature = .ok (context', id)) :
    context.Build context' := by
  obtain ⟨building, checked, fresh, known, same⟩ := addFunction_eq_ok_iff.mp added
  cases same
  exact .declare raw signature building checked fresh known

theorem build_of_addBlock {id : FunctionId} {context' : Context} {block : BlockId}
    (added : context.addBlock id = .ok (context', block)) : context.Build context' := by
  obtain ⟨function, found, building, same⟩ := addBlock_eq_ok_iff.mp added
  cases same
  exact .addBlock id function building found

theorem build_of_buildConst {place : Place} {type : TypeId} {literal : UInt64}
    {context' : Context} {id : ValueId}
    (added : context.buildConst place type literal = .ok (context', id)) :
    context.Build context' := by
  obtain ⟨function, block, opened, fits, same⟩ := buildConst_eq_ok_iff.mp added
  cases same
  exact .append type _ opened fits

theorem build_of_buildCall {place : Place} {callee : Callee} {operands : List Operand}
    {context' : Context} {id : ValueId}
    (added : context.buildCall place callee operands = .ok (context', id)) :
    context.Build context' := by
  obtain ⟨function, block, called, type, ids, opened, -, -, fits, same⟩ :=
    buildCall_eq_ok_iff.mp added
  cases same
  exact .append type _ opened fits

theorem build_of_buildBinary {place : Place} {code : UInt8} {left right : Operand}
    {context' : Context} {id : ValueId}
    (added : context.buildBinary place code left right = .ok (context', id)) :
    context.Build context' := by
  obtain ⟨function, block, operator, type, leftId, rightId, opened, -, -, -, fits, same⟩ :=
    buildBinary_eq_ok_iff.mp added
  cases same
  exact .append type _ opened fits

theorem build_of_buildBranch {place : Place} {target : Target} {context' : Context}
    (ended : context.buildBranch place target = .ok context') : context.Build context' := by
  obtain ⟨function, block, id, opened, -, fits, rfl⟩ := buildBranch_eq_ok_iff.mp ended
  exact .finish _ opened fits

theorem build_of_buildReturn {place : Place} {operand : Operand} {context' : Context}
    (ended : context.buildReturn place operand = .ok context') : context.Build context' := by
  obtain ⟨function, block, id, opened, -, fits, rfl⟩ := buildReturn_eq_ok_iff.mp ended
  exact .finish _ opened fits

/-! ## What building adds -/

/-- Something was appended to the block at a place, which was open. -/
def Appends (context : Context) (place : Place) (added : Context × ValueId) : Prop :=
  ∃ function block type instruction, context.Open place function block ∧
    added = context.append place function type instruction

/-- The block at a place, which was open, was ended. -/
def Finishes (context : Context) (place : Place) (context' : Context) : Prop :=
  ∃ function block terminator, context.Open place function block ∧
    context' = context.replace place.function (function.terminate place.block terminator)

theorem appends_of_buildConst {place : Place} {type : TypeId} {literal : UInt64}
    {added : Context × ValueId} (built : context.buildConst place type literal = .ok added) :
    context.Appends place added := by
  obtain ⟨function, block, opened, -, same⟩ := buildConst_eq_ok_iff.mp built
  exact ⟨function, block, type, _, opened, same⟩

theorem appends_of_buildCall {place : Place} {callee : Callee} {operands : List Operand}
    {added : Context × ValueId} (built : context.buildCall place callee operands = .ok added) :
    context.Appends place added := by
  obtain ⟨function, block, called, type, ids, opened, -, -, -, same⟩ :=
    buildCall_eq_ok_iff.mp built
  exact ⟨function, block, type, _, opened, same⟩

theorem appends_of_buildBinary {place : Place} {code : UInt8} {left right : Operand}
    {added : Context × ValueId} (built : context.buildBinary place code left right = .ok added) :
    context.Appends place added := by
  obtain ⟨function, block, operator, type, leftId, rightId, opened, -, -, -, -, same⟩ :=
    buildBinary_eq_ok_iff.mp built
  exact ⟨function, block, type, _, opened, same⟩

theorem finishes_of_buildBranch {place : Place} {target : Target} {context' : Context}
    (ended : context.buildBranch place target = .ok context') :
    context.Finishes place context' := by
  obtain ⟨function, block, id, opened, -, -, same⟩ := buildBranch_eq_ok_iff.mp ended
  exact ⟨function, block, _, opened, same⟩

theorem finishes_of_buildReturn {place : Place} {operand : Operand} {context' : Context}
    (ended : context.buildReturn place operand = .ok context') :
    context.Finishes place context' := by
  obtain ⟨function, block, id, opened, -, -, same⟩ := buildReturn_eq_ok_iff.mp ended
  exact ⟨function, block, _, opened, same⟩

end Context
end Blockwork
