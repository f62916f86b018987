import Blockwork.Program.Context

/-!
# Construction

The operations that add to a context: types, functions, blocks, values and terminators. Each works
on the context in place, by asking for what it demands and writing what it adds. Arguments that may
belong elsewhere say so: an operand is missing, a value of the function at hand, or a value of some
other function.
-/

namespace Blockwork

/-- A block, by the numbers of its function and of itself. -/
structure Place where
  /-- The function. -/
  function : FunctionId
  /-- The block. -/
  block : BlockId
deriving DecidableEq, Repr

/-- A value offered to an instruction. -/
inductive Operand where
  /-- No value at all. -/
  | missing
  /-- A value of the function at hand. -/
  | own (value : ValueId)
  /-- A value of another function. -/
  | foreign (value : ValueId) (owner : Bytes)
deriving DecidableEq, Repr

/-- A function offered to a call. -/
inductive Callee where
  /-- No function at all. -/
  | missing
  /-- A function of the context at hand. -/
  | own (function : FunctionId)
  /-- A function of another context. -/
  | foreign (name : Bytes)
deriving DecidableEq, Repr

/-- A block offered to a branch. -/
inductive Target where
  /-- No block at all. -/
  | missing
  /-- A block of the function at hand. -/
  | own (block : BlockId)
  /-- A block of another function. -/
  | foreign (block : BlockId) (owner : Bytes)
deriving DecidableEq, Repr

namespace Context

/-- A failure to add a function. -/
def functionError (name : Bytes) (fault : Fault) (detail : Bytes := []) : BuildError :=
  { action := utf8 "add function", function := name, fault, detail }

/-- The function with a number, in a context that can be used. -/
def usableFunction (context : Context) (action : Bytes) (id : FunctionId) :
    Except BuildError Function :=
  match context.functions.get? id with
  | none => .error { action, fault := { kind := .invalidHandle } }
  | some function =>
    match context.usable with
    | .error fault => .error { action, function := function.name, fault }
    | .ok () => .ok function

/-- The number of the parameter for an argument position. -/
def argument (context : Context) (id : FunctionId) (index : Int) : Except BuildError ValueId := do
  let action := utf8 "get argument"
  let function ← context.usableFunction action id
  let count := function.signature.inputs.length
  if 0 ≤ index ∧ index < count then .ok index.toNat
  else
    .error {
      action
      function := function.name
      fault := { kind := .indexOutOfRange }
      detail := utf8 "index " ++ Bytes.signed index ++ utf8 ", function takes " ++
        Bytes.decimal count }

/-- The function and block behind a place. -/
def at? (context : Context) (place : Place) : Option (Function × Block) := do
  let function ← context.functions.get? place.function
  let block ← function.blocks.get? place.block
  pure (function, block)

/-- A failure in a block. The function is named as long as the context is not destroyed. -/
def blockError (context : Context) (action : Bytes) (place : Place) (fault : Fault)
    (detail : Bytes := []) : BuildError where
  action := action
  function :=
    match context.function? place.function with
    | some function => function.name
    | none => []
  block := some place.block
  fault := fault
  detail := detail

/-- The function of a block that can still be added to. -/
def openBlock (context : Context) (action : Bytes) (place : Place) : Except BuildError Function :=
  match context.at? place with
  | none => .error { action, fault := { kind := .invalidHandle }, detail := utf8 "nil block" }
  | some (function, block) =>
    match context.usable with
    | .error fault => .error (context.blockError action place fault)
    | .ok () =>
      match block.terminator with
      | none => .ok function
      | some terminator =>
        .error (context.blockError action place { kind := .terminatorAlreadySet }
          (utf8 "block ends with " ++ utf8 (Terminator.kindName (some terminator))))

/-- The value behind an operand. -/
def ownValue (context : Context) (action : Bytes) (place : Place) (function : Function)
    (role : Bytes) (operand : Operand) : Except BuildError (ValueId × Value) :=
  let missing := context.blockError action place { kind := .invalidHandle } (utf8 "nil " ++ role)
  match operand with
  | .missing => .error missing
  | .own id =>
    match function.values.get? id with
    | some value => .ok (id, value)
    | none => .error missing
  | .foreign id owner =>
    .error (context.blockError action place { kind := .crossFunction }
      (role ++ utf8 " " ++ valueName id ++ utf8 " belongs to " ++ owner))

/-- The function behind a callee. -/
def ownFunction (context : Context) (action : Bytes) (place : Place) (callee : Callee) :
    Except BuildError (FunctionId × Function) :=
  let missing := context.blockError action place { kind := .invalidHandle } (utf8 "nil callee")
  match callee with
  | .missing => .error missing
  | .foreign name =>
    .error (context.blockError action place { kind := .invalidHandle }
      (utf8 "callee " ++ name ++ utf8 " belongs to another context"))
  | .own id =>
    match context.functions.get? id with
    | none => .error missing
    | some target => .ok (id, target)

/-- The block behind the target of a branch. -/
def ownBlock (context : Context) (action : Bytes) (place : Place) (function : Function)
    (target : Target) : Except BuildError BlockId :=
  let missing := context.blockError action place { kind := .invalidHandle } (utf8 "nil target")
  match target with
  | .missing => .error missing
  | .foreign block owner =>
    .error (context.blockError action place { kind := .crossFunction }
      (utf8 "target " ++ blockName block ++ utf8 " belongs to " ++ owner))
  | .own block => if block < function.blocks.size then .ok block else .error missing

/-- The values behind the arguments of a call, checked one by one against the expected types. -/
def callArguments (context : Context) (place : Place) (function : Function) (callee : Bytes)
    (index : Nat) : List TypeId → List Operand → Except BuildError (List ValueId)
  | expected :: inputs, operand :: operands => do
    let action := utf8 "call"
    let role := utf8 "argument " ++ Bytes.decimal index
    let (id, value) ← context.ownValue action place function role operand
    if value.type = expected then
      let rest ← callArguments context place function callee (index + 1) inputs operands
      pure (id :: rest)
    else
      .error (context.blockError action place { kind := .typeMismatch }
        (role ++ utf8 " of " ++ callee ++ utf8 ": want " ++ context.types.name expected ++
          utf8 ", got " ++ context.types.name value.type))
  | _, _ => .ok []

/-- Changes the function with a number. -/
def modifyFunction (context : Context) (id : FunctionId) (change : Function → Function) : Context :=
  { context with functions := context.functions.modify id change }

end Context

/-! ## Operations in place -/

/-- Steps of construction on a context. -/
abbrev Construct (α : Type) := Change BuildError Context α

namespace Construct

/-- Refuses with an error unless a condition holds of the context. -/
def demand (condition : Context → Bool) (error : Context → BuildError) : Construct Unit :=
  Change.ask fun context => if condition context then .ok () else .error (error context)

/-- Interns a type. -/
def intern (type : Descriptor) : Change Fault Context TypeId := do
  Change.ask Context.usable
  Change.within Context.types (fun context types => { context with types }) (Interner.present type)

/-- Adds a function. Its parameters are its first values. -/
def addFunction (name : Bytes) (signature : Signature) : Construct FunctionId := do
  Change.ask fun context => context.usable.mapError (Context.functionError name)
  let name := Text.normalize name
  Change.ask fun _ => (FunctionName.check name).mapError (Context.functionError name)
  demand (fun context => (context.names.lookup name).isNone) fun _ =>
    Context.functionError name { kind := .duplicateFunction }
  Change.ask fun context => (signature.check context.types).mapError fun fault =>
    Context.functionError name fault (utf8 "signature")
  let id := (← get).functions.size
  modify fun context => { context with functions := context.functions.push { name, signature } }
  signature.inputs.zipIdx.forM fun (type, index) =>
    modify (·.modifyFunction id (·.pushParameter type index))
  modify fun context => { context with names := (name, id) :: context.names }
  pure id

/-- Adds a block to a function. -/
def addBlock (id : FunctionId) : Construct BlockId := do
  let function ← Change.ask (·.usableFunction (utf8 "add block") id)
  modify (·.modifyFunction id Function.pushBlock)
  pure function.blocks.size

/-- Finds the value of an argument. -/
def argument (id : FunctionId) (index : Int) : Construct ValueId :=
  Change.ask (·.argument id index)

/-- Appends an instruction to a block. -/
def append (place : Place) (function : Function) (type : TypeId) (instruction : Instruction) :
    Construct ValueId := do
  let id := function.values.size
  modify (·.modifyFunction place.function (·.storeValue place.block type instruction))
  modify (·.modifyFunction place.function (·.listValue place.block id))
  pure id

/-- Ends a block. -/
def terminate (place : Place) (terminator : Terminator) : Construct Unit :=
  modify (·.modifyFunction place.function (·.terminate place.block terminator))

/-- Adds a constant. -/
def const (place : Place) (type : TypeId) (literal : UInt64) : Construct ValueId := do
  let action := utf8 "const"
  let function ← Change.ask (·.openBlock action place)
  demand (fun context => (context.types.lookup? type).isSome) fun context =>
    context.blockError action place { kind := .invalidType } (utf8 "type id " ++ Bytes.decimal type)
  append place function type (.const literal)

/-- Adds a call. Number and types of the arguments have to be those that the function takes. -/
def call (place : Place) (callee : Callee) (arguments : List Operand) : Construct ValueId := do
  let action := utf8 "call"
  let function ← Change.ask (·.openBlock action place)
  let (id, target) ← Change.ask (·.ownFunction action place callee)
  let inputs := target.signature.inputs
  demand (fun _ => arguments.length = inputs.length) fun context =>
    context.blockError action place { kind := .arityMismatch }
      (target.name ++ utf8 " takes " ++ Bytes.decimal inputs.length ++
        utf8 " arguments, got " ++ Bytes.decimal arguments.length)
  let ids ← Change.ask (·.callArguments place function target.name 0 inputs arguments)
  append place function target.signature.output (.call id ids)

/-- Adds an operation on two values, by the code of its kind. Both have to be of one type, which is
also that of the result unless the operator compares. -/
def binary (place : Place) (code : UInt8) (left right : Operand) : Construct ValueId := do
  let action := KindCode.mnemonic code
  let function ← Change.ask (·.openBlock action place)
  let operator ← Change.ask fun context =>
    match Operator.ofCode? code with
    | some operator => .ok operator
    | none => .error (context.blockError action place { kind := .invalidOpcode })
  let (leftId, leftValue) ← Change.ask (·.ownValue action place function (utf8 "lhs") left)
  let (rightId, rightValue) ← Change.ask (·.ownValue action place function (utf8 "rhs") right)
  demand (fun _ => leftValue.type = rightValue.type) fun context =>
    context.blockError action place { kind := .typeMismatch }
      (context.types.name leftValue.type ++ utf8 " vs " ++ context.types.name rightValue.type)
  let type := if operator.isComparison then Interner.boolId else leftValue.type
  append place function type (.binary operator leftId rightId)

/-- Ends a block by a jump. -/
def branch (place : Place) (target : Target) : Construct Unit := do
  let action := utf8 "branch"
  let function ← Change.ask (·.openBlock action place)
  let block ← Change.ask (·.ownBlock action place function target)
  terminate place (.branch block)

/-- Ends a block by returning a value of the type that the function returns. -/
def result (place : Place) (operand : Operand) : Construct Unit := do
  let action := utf8 "return"
  let function ← Change.ask (·.openBlock action place)
  let (id, value) ← Change.ask (·.ownValue action place function (utf8 "value") operand)
  let output := function.signature.output
  demand (fun _ => value.type = output) fun context =>
    context.blockError action place { kind := .typeMismatch }
      (utf8 "function returns " ++ context.types.name output ++ utf8 ", got " ++
        context.types.name value.type)
  terminate place (.result id)

end Construct

/-! ## The contexts they make -/

namespace Context

/-- What comes of an operation that adds something with a number. -/
abbrev Added := Except BuildError (Context × Nat)

/-- The context after a type is interned. -/
def intern (context : Context) (type : Descriptor) : Except Fault (Context × TypeId) :=
  (Construct.intern type).outcome context

/-- The context after a function is added. -/
def addFunction (context : Context) (name : Bytes) (signature : Signature) : Added :=
  (Construct.addFunction name signature).outcome context

/-- The context after a block is added. -/
def addBlock (context : Context) (id : FunctionId) : Added :=
  (Construct.addBlock id).outcome context

/-- The context after a constant is added. -/
def buildConst (context : Context) (place : Place) (type : TypeId) (literal : UInt64) : Added :=
  (Construct.const place type literal).outcome context

/-- The context after a call is added. -/
def buildCall (context : Context) (place : Place) (callee : Callee) (arguments : List Operand) :
    Added :=
  (Construct.call place callee arguments).outcome context

/-- The context after an operation on two values is added. -/
def buildBinary (context : Context) (place : Place) (code : UInt8) (left right : Operand) :
    Added :=
  (Construct.binary place code left right).outcome context

/-- The context after a block is ended by a jump. -/
def buildBranch (context : Context) (place : Place) (target : Target) :
    Except BuildError Context :=
  ((Construct.branch place target).outcome context).map Prod.fst

/-- The context after a block is ended by returning a value. -/
def buildReturn (context : Context) (place : Place) (operand : Operand) :
    Except BuildError Context :=
  ((Construct.result place operand).outcome context).map Prod.fst

end Context
end Blockwork
