import Blockwork.Proofs.ArenaView
import Blockwork.Proofs.Interning
import Blockwork.Program.Construction

/-!
# Construction in place

The operations of construction write to a context piece by piece. This file says what context has
come about when an operation is done, and that an operation that fails has not written anything: all
its demands come before the first write.
-/

namespace Blockwork

namespace Function

/-- A function without blocks, whose only values are its parameters. -/
def declare (name : Bytes) (signature : Signature) : Function where
  name := name
  signature := signature
  values := Arena.ofList (signature.inputs.zipIdx.map fun (type, index) => ⟨type, .parameter index⟩)

/-- A function with a value more, which one of its blocks lists. -/
def pushValue (function : Function) (block : BlockId) (type : TypeId) (instruction : Instruction) :
    Function :=
  { function with
    values := function.values.push ⟨type, .instruction block instruction⟩
    blocks := function.blocks.modify block fun target =>
      { target with values := target.values.push function.values.size } }

/-- Parameters are written one after the other. -/
theorem foldl_pushParameter (inputs : List (TypeId × Nat)) (function : Function) :
    inputs.foldl (fun function input => function.pushParameter input.1 input.2) function =
      { function with
        values := (inputs.map fun input => (⟨input.1, .parameter input.2⟩ : Value)).foldl
          Arena.push function.values } := by
  induction inputs generalizing function with
  | nil => rfl
  | cons input rest ih => exact ih _

end Function

namespace Context

/-- Puts a changed function back. -/
def replace (context : Context) (id : FunctionId) (function : Function) : Context :=
  { context with functions := context.functions.set id function }

/-- A context with an instruction more at the end of a block, and the number of its value. -/
def append (context : Context) (place : Place) (function : Function) (type : TypeId)
    (instruction : Instruction) : Context × ValueId :=
  (context.replace place.function (function.pushValue place.block type instruction),
    function.values.size)

theorem modifyFunction_modifyFunction (context : Context) (id : FunctionId)
    (first second : Function → Function) :
    (context.modifyFunction id first).modifyFunction id second =
      context.modifyFunction id (second ∘ first) := by
  simp only [modifyFunction, Arena.modify_modify]

theorem modifyFunction_eq_replace {context : Context} {id : FunctionId} {function : Function}
    (found : context.functions.get? id = some function) (change : Function → Function) :
    context.modifyFunction id change = context.replace id (change function) := by
  rw [modifyFunction, replace, Arena.modify_eq_set found]

theorem open_of_openBlock {context : Context} {action : Bytes} {place : Place}
    {function : Function} (opened : context.openBlock action place = .ok function) :
    context.functions.get? place.function = some function := by
  unfold openBlock at? at opened
  split at opened
  · cases opened
  · rename_i found block resolved
    simp only [Option.bind_eq_bind, Option.bind_eq_some_iff] at resolved
    obtain ⟨holder, holderFound, content, -, same⟩ := resolved
    cases same
    split at opened
    · cases opened
    · split at opened <;> cases opened
      exact holderFound

end Context

namespace Construct

open Change

variable (context : Context)

/-! ## What the operations make -/

theorem outcome_demand_bind {α : Type} (condition : Context → Bool) (error : Context → BuildError)
    (next : Unit → Construct α) :
    (demand condition error >>= next).outcome context =
      if condition context then (next ()).outcome context else .error (error context) := by
  rw [demand, outcome_ask_bind]
  split <;> rfl

/-- What follows the opening of a block may rely on the function that has the block. -/
theorem map_outcome_open_bind {context : Context} {α β : Type} {action : Bytes} {place : Place}
    {next : Function → Construct α} {view : Context × α → β} {rest : Function → Except BuildError β}
    (same : ∀ function, context.functions.get? place.function = some function →
      ((next function).outcome context).map view = rest function) :
    ((ask (·.openBlock action place) >>= next).outcome context).map view =
      context.openBlock action place >>= rest := by
  rw [outcome_ask_bind]
  cases opened : context.openBlock action place with
  | error error => rfl
  | ok function => exact same function (Context.open_of_openBlock opened)

theorem outcome_open_bind {context : Context} {α : Type} {action : Bytes} {place : Place}
    {next : Function → Construct α} {rest : Function → Except BuildError (Context × α)}
    (same : ∀ function, context.functions.get? place.function = some function →
      (next function).outcome context = rest function) :
    (ask (·.openBlock action place) >>= next).outcome context =
      context.openBlock action place >>= rest := by
  rw [← id_map (outcome _ context)]
  refine map_outcome_open_bind fun function found => ?_
  exact (id_map _).trans (same function found)

theorem outcome_append {context : Context} {place : Place} {function : Function}
    (found : context.functions.get? place.function = some function) (type : TypeId)
    (instruction : Instruction) :
    (append place function type instruction).outcome context =
      .ok (context.append place function type instruction) := by
  rw [append, outcome_modify_bind, outcome_modify_bind, outcome_pure,
    Context.modifyFunction_modifyFunction, Context.modifyFunction_eq_replace found]
  rfl

theorem outcome_terminate {context : Context} {place : Place} {function : Function}
    (found : context.functions.get? place.function = some function) (terminator : Terminator) :
    (terminate place terminator).outcome context =
      .ok (context.replace place.function (function.terminate place.block terminator), ()) := by
  rw [terminate, outcome_modify, Context.modifyFunction_eq_replace found]

theorem outcome_argument (id : FunctionId) (index : Int) :
    (argument id index).outcome context = (context.argument id index).map (context, ·) :=
  outcome_ask _

/-- Parameters that are written to the function that was added last are added with it. -/
theorem foldl_pushParameter (inputs : List (TypeId × Nat)) (functions : Arena Function)
    (function : Function) :
    inputs.foldl (fun context input =>
        context.modifyFunction functions.size (·.pushParameter input.1 input.2))
        { context with functions := functions.push function } =
      { context with
        functions := functions.push
          (inputs.foldl (fun function input => function.pushParameter input.1 input.2) function) } := by
  induction inputs generalizing function with
  | nil => rfl
  | cons input rest ih =>
    rw [List.foldl_cons, List.foldl_cons, ← ih, Context.modifyFunction, Arena.modify_push_size]

end Construct

namespace Context

variable (context : Context)

theorem intern_eq (type : Descriptor) :
    context.intern type = (do
      context.usable
      let (types, id) ← context.types.intern type
      pure ({ context with types }, id)) := by
  rw [intern, Construct.intern, Change.outcome_ask_bind]
  refine congrArg (context.usable >>= ·) (funext fun _ => ?_)
  rw [Change.outcome_within, Interner.intern]
  cases (Interner.present type).outcome context.types <;> rfl

theorem addFunction_eq (name : Bytes) (signature : Signature) :
    context.addFunction name signature =
      match context.usable with
      | .error fault => .error (functionError name fault)
      | .ok () =>
        let name := Text.normalize name
        match FunctionName.check name with
        | .error fault => .error (functionError name fault)
        | .ok () =>
          if (context.names.lookup name).isSome then
            .error (functionError name { kind := .duplicateFunction })
          else if signature.Known context.types then
            .ok ({ context with
              functions := context.functions.push (.declare name signature)
              names := (name, context.functions.size) :: context.names }, context.functions.size)
          else .error (functionError name { kind := .invalidType } (utf8 "signature")) := by
  rw [addFunction, Construct.addFunction, Change.outcome_ask_bind]
  cases context.usable with
  | error fault => rfl
  | ok _ =>
    dsimp only [Except.mapError]
    rw [ok_bind, Change.outcome_ask_bind]
    cases FunctionName.check (Text.normalize name) with
    | error fault => rfl
    | ok _ =>
      dsimp only [Except.mapError]
      rw [ok_bind, Construct.outcome_demand_bind]
      cases context.names.lookup (Text.normalize name) with
      | some id => rfl
      | none =>
        dsimp only [Option.isNone_none, Option.isSome_none]
        rw [if_pos rfl, if_neg Bool.false_ne_true, Change.outcome_ask_bind, Signature.check]
        by_cases known : signature.Known context.types
        · rw [if_pos known, if_pos known]
          refine Eq.trans (ok_bind _ _) ?_
          rw [Change.outcome_get_bind, Change.outcome_modify_bind]
          refine (Change.outcome_forM_modify_bind signature.inputs.zipIdx
            (fun (type, index) (context : Context) =>
              context.modifyFunction _ (·.pushParameter type index)) _).trans ?_
          rw [Construct.foldl_pushParameter, Function.foldl_pushParameter]
          rfl
        · rw [if_neg known, if_neg known]
          rfl

theorem addBlock_eq (id : FunctionId) :
    context.addBlock id = (do
      let function ← context.usableFunction (utf8 "add block") id
      pure ({ context with functions := context.functions.modify id Function.pushBlock },
        function.blocks.size)) := by
  rw [addBlock, Construct.addBlock, Change.outcome_ask_bind]
  rfl

theorem buildConst_eq (place : Place) (type : TypeId) (literal : UInt64) :
    context.buildConst place type literal = (do
      let action := utf8 "const"
      let function ← context.openBlock action place
      if (context.types.lookup? type).isSome then
        pure (context.append place function type (.const literal))
      else
        .error (context.blockError action place { kind := .invalidType }
          (utf8 "type id " ++ Bytes.decimal type))) := by
  refine Construct.outcome_open_bind fun function found => ?_
  rw [Construct.outcome_demand_bind, Construct.outcome_append found]
  rfl

theorem buildCall_eq (place : Place) (callee : Callee) (arguments : List Operand) :
    context.buildCall place callee arguments = (do
      let action := utf8 "call"
      let function ← context.openBlock action place
      let (id, target) ← context.ownFunction action place callee
      let inputs := target.signature.inputs
      if arguments.length = inputs.length then
        let ids ← context.callArguments place function target.name 0 inputs arguments
        pure (context.append place function target.signature.output (.call id ids))
      else
        .error (context.blockError action place { kind := .arityMismatch }
          (target.name ++ utf8 " takes " ++ Bytes.decimal inputs.length ++
            utf8 " arguments, got " ++ Bytes.decimal arguments.length))) := by
  refine Construct.outcome_open_bind fun function found => ?_
  rw [Change.outcome_ask_bind]
  refine congrArg (context.ownFunction _ _ _ >>= ·) (funext fun ⟨id, target⟩ => ?_)
  rw [Construct.outcome_demand_bind]
  refine if_congr decide_eq_true_iff ?_ rfl
  rw [Change.outcome_ask_bind]
  refine congrArg (context.callArguments _ _ _ _ _ _ >>= ·) (funext fun ids => ?_)
  exact Construct.outcome_append found _ _

theorem buildBinary_eq (place : Place) (code : UInt8) (left right : Operand) :
    context.buildBinary place code left right = (do
      let action := KindCode.mnemonic code
      let function ← context.openBlock action place
      match Operator.ofCode? code with
      | none => .error (context.blockError action place { kind := .invalidOpcode })
      | some operator =>
        let (leftId, leftValue) ← context.ownValue action place function (utf8 "lhs") left
        let (rightId, rightValue) ← context.ownValue action place function (utf8 "rhs") right
        if leftValue.type = rightValue.type then
          let type := if operator.isComparison then Interner.boolId else leftValue.type
          pure (context.append place function type (.binary operator leftId rightId))
        else
          .error (context.blockError action place { kind := .typeMismatch }
            (context.types.name leftValue.type ++ utf8 " vs " ++
              context.types.name rightValue.type))) := by
  refine Construct.outcome_open_bind fun function found => ?_
  rw [Change.outcome_ask_bind]
  cases Operator.ofCode? code with
  | none => rfl
  | some operator =>
    rw [ok_bind, Change.outcome_ask_bind]
    refine congrArg (context.ownValue _ _ _ _ _ >>= ·) (funext fun ⟨leftId, leftValue⟩ => ?_)
    rw [Change.outcome_ask_bind]
    refine congrArg (context.ownValue _ _ _ _ _ >>= ·) (funext fun ⟨rightId, rightValue⟩ => ?_)
    rw [Construct.outcome_demand_bind]
    exact if_congr decide_eq_true_iff (Construct.outcome_append found _ _) rfl

theorem buildBranch_eq (place : Place) (target : Target) :
    context.buildBranch place target = (do
      let action := utf8 "branch"
      let function ← context.openBlock action place
      let block ← context.ownBlock action place function target
      pure (context.replace place.function
        (function.terminate place.block (.branch block)))) := by
  refine Construct.map_outcome_open_bind fun function found => ?_
  rw [Change.outcome_ask_bind]
  cases context.ownBlock (utf8 "branch") place function target with
  | error error => rfl
  | ok block =>
    rw [ok_bind, ok_bind, Construct.outcome_terminate found]
    rfl

theorem buildReturn_eq (place : Place) (operand : Operand) :
    context.buildReturn place operand = (do
      let action := utf8 "return"
      let function ← context.openBlock action place
      let (id, value) ← context.ownValue action place function (utf8 "value") operand
      if value.type = function.signature.output then
        pure (context.replace place.function (function.terminate place.block (.result id)))
      else
        .error (context.blockError action place { kind := .typeMismatch }
          (utf8 "function returns " ++ context.types.name function.signature.output ++
            utf8 ", got " ++ context.types.name value.type))) := by
  refine Construct.map_outcome_open_bind fun function found => ?_
  rw [Change.outcome_ask_bind]
  cases context.ownValue (utf8 "return") place function (utf8 "value") operand with
  | error error => rfl
  | ok own =>
    rw [ok_bind, ok_bind, Construct.outcome_demand_bind, Construct.outcome_terminate found]
    simp only [decide_eq_true_eq]
    split <;> rfl

end Context

/-! ## Demands come before writes -/

namespace Construct

open Change

theorem spares_demand_bind {α : Type} {condition : Context → Bool} {error : Context → BuildError}
    {next : Unit → Construct α} (rest : (next ()).Spares) :
    Spares (demand condition error >>= next) :=
  .ask_bind fun _ => rest

theorem sure_append (place : Place) (function : Function) (type : TypeId)
    (instruction : Instruction) : (append place function type instruction).Sure :=
  (Sure.modify _).bind fun _ => (Sure.modify _).bind fun _ => .pure _

theorem spares_intern (type : Descriptor) : (intern type).Spares :=
  .ask_bind fun _ => .within (Interner.spares_present type) fun _ => rfl

/-- The name, the context and the signature are checked before there is a function, which is filled
and then entered under its name. -/
theorem spares_addFunction (name : Bytes) (signature : Signature) :
    (addFunction name signature).Spares := by
  refine .ask_bind fun _ => .ask_bind fun _ => spares_demand_bind (.ask_bind fun _ => ?_)
  refine .get_bind fun context => Sure.spares ?_
  refine (Sure.modify _).bind fun _ => (Sure.forM fun _ => .modify _).bind fun _ => ?_
  exact (Sure.modify _).bind fun _ => .pure _

theorem spares_addBlock (id : FunctionId) : (addBlock id).Spares :=
  .ask_bind fun _ => ((Sure.modify _).bind fun _ => .pure _).spares

theorem spares_argument (id : FunctionId) (index : Int) : (argument id index).Spares :=
  .ask _

theorem spares_const (place : Place) (type : TypeId) (literal : UInt64) :
    (const place type literal).Spares :=
  .ask_bind fun function => spares_demand_bind (sure_append place function type _).spares

/-- All arguments are checked before the call is written anywhere. -/
theorem spares_call (place : Place) (callee : Callee) (arguments : List Operand) :
    (call place callee arguments).Spares := by
  refine .ask_bind fun function => .ask_bind fun (_, target) => spares_demand_bind ?_
  exact .ask_bind fun ids => (sure_append place function target.signature.output _).spares

theorem spares_binary (place : Place) (code : UInt8) (left right : Operand) :
    (binary place code left right).Spares := by
  refine .ask_bind fun function => .ask_bind fun operator => ?_
  refine .ask_bind fun (leftId, _) => .ask_bind fun (rightId, _) => spares_demand_bind ?_
  exact (sure_append place function _ (.binary operator leftId rightId)).spares

theorem spares_branch (place : Place) (target : Target) : (branch place target).Spares :=
  .ask_bind fun _ => .ask_bind fun _ => (Sure.modify _).spares

theorem spares_result (place : Place) (operand : Operand) : (result place operand).Spares :=
  .ask_bind fun _ => .ask_bind fun (_, _) => spares_demand_bind (Sure.modify _).spares

end Construct
end Blockwork
