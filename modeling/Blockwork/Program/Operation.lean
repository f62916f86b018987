import Blockwork.Program.Lowering
import Blockwork.Program.Store
import Blockwork.Snapshot.Restore
import Blockwork.Source.Reader

/-!
# Operations

Everything that can be done to contexts, as data. A run is a sequence of operations on a store;
each either succeeds with a handle of what it made or fails, and a handle may come from anywhere,
so every operation is defined on every argument.
-/

namespace Blockwork

/-- Something that can be done to contexts. -/
inductive Operation (World : Type) where
  /-- Makes an empty context. -/
  | newContext (optimize : Bool)
  /-- Makes the context that a source text describes. -/
  | parse (file source : Bytes) (optimize : Bool)
  /-- Makes the context that a snapshot describes. -/
  | restore (snapshot : Snapshot)
  /-- Interns a type. -/
  | intern (context : Option ContextId) (type : Descriptor)
  /-- Adds a function. -/
  | addFunction (context : Option ContextId) (name : Bytes) (signature : Signature)
  /-- Adds a block. -/
  | addBlock (function : Option FunctionRef)
  /-- Finds the value of an argument. -/
  | argument (function : Option FunctionRef) (index : Int)
  /-- Adds a constant. -/
  | const (block : Option BlockRef) (type : TypeId) (literal : UInt64)
  /-- Adds a call. -/
  | call (block : Option BlockRef) (callee : Option FunctionRef)
      (arguments : List (Option ValueRef))
  /-- Adds an operation on two values, by the code of its kind. -/
  | binary (block : Option BlockRef) (kind : UInt8) (left right : Option ValueRef)
  /-- Ends a block by a jump. -/
  | branch (block : Option BlockRef) (target : Option BlockRef)
  /-- Ends a block by returning a value. -/
  | result (block : Option BlockRef) (value : Option ValueRef)
  /-- Hands a context to a backend. -/
  | lower (context : Option ContextId) (backend : Option (Backend World))
  /-- Destroys a context. -/
  | destroy (context : Option ContextId)

/-- What an operation made. -/
inductive Handle where
  /-- Nothing. -/
  | nothing
  /-- A context. -/
  | context (id : ContextId)
  /-- A type. -/
  | type (id : TypeId)
  /-- A function. -/
  | function (ref : FunctionRef)
  /-- A block. -/
  | block (ref : BlockRef)
  /-- A value. -/
  | value (ref : ValueRef)
deriving DecidableEq, Repr

namespace Store

/-- The outcome of an operation on a store: the store after it, and what it made. -/
abbrev Outcome := Store × Except Failure Handle

/-- Refuses an operation before anything is done. -/
def refuse (store : Store) (error : BuildError) : Outcome := (store, .error (.build error))

/-- Does something to a context of the store. What has been written to the context stays written,
also if it fails. -/
def change {ε α : Type} (store : Store) (id : ContextId) (context : Context)
    (steps : Change ε Context α) (failure : ε → Failure) (handle : α → Handle) : Outcome :=
  match steps.run context with
  | .ok made context => (store.set id context, .ok (handle made))
  | .error error context => (store.set id context, .error (failure error))

/-- Adds a context that was made, if it was. -/
def adopt (store : Store) (made : Except Failure Context) : Outcome :=
  match made with
  | .error failure => (store, .error failure)
  | .ok context =>
    let (store, id) := store.push context
    (store, .ok (.context id))

/-- The failure of an operation in an absent block. -/
def absentBlock (action : Bytes) : BuildError :=
  { action, fault := { kind := .invalidHandle }, detail := utf8 "nil block" }

/-- An operation in a block. -/
def inBlock {α : Type} (store : Store) (action : Bytes) (block : Option BlockRef)
    (steps : BlockRef → Construct α) (handle : BlockRef → α → Handle) : Outcome :=
  match block with
  | none => store.refuse (absentBlock action)
  | some ref =>
    match store.contexts[ref.context]? with
    | none => store.refuse (absentBlock action)
    | some context => store.change ref.context context (steps ref) .build (handle ref)

/-- An operation in a block that adds a value. -/
def addValue (store : Store) (action : Bytes) (block : Option BlockRef)
    (add : BlockRef → Construct ValueId) : Outcome :=
  store.inBlock action block add fun ref value => .value ⟨ref.context, ref.place.function, value⟩

/-- An operation that ends a block. -/
def endBlock (store : Store) (action : Bytes) (block : Option BlockRef)
    (finish : BlockRef → Construct Unit) : Outcome :=
  store.inBlock action block finish fun _ _ => .nothing

/-- Interns a type in the context behind a handle. -/
def intern (store : Store) (handle : Option ContextId) (type : Descriptor) : Outcome :=
  match handle, store.context? handle with
  | some id, some context => store.change id context (Construct.intern type) .fault .type
  | _, _ => (store, .error (.ofKind .invalidHandle))

/-- Adds a function to the context behind a handle. -/
def addFunction (store : Store) (handle : Option ContextId) (name : Bytes)
    (signature : Signature) : Outcome :=
  match handle, store.context? handle with
  | some id, some context =>
    store.change id context (Construct.addFunction name signature) .build fun function =>
      .function ⟨id, function⟩
  | _, _ => store.refuse (Context.functionError name { kind := .invalidHandle })

/-- An operation on a function. -/
def inFunction {α : Type} (store : Store) (action : Bytes) (function : Option FunctionRef)
    (steps : FunctionRef → Construct α) (handle : FunctionRef → α → Handle) : Outcome :=
  let absent : BuildError := { action, fault := { kind := .invalidHandle } }
  match function with
  | none => store.refuse absent
  | some ref =>
    match store.contexts[ref.context]? with
    | none => store.refuse absent
    | some context => store.change ref.context context (steps ref) .build (handle ref)

/-- Adds a block to the function behind a handle. -/
def addBlock (store : Store) (handle : Option FunctionRef) : Outcome :=
  store.inFunction (utf8 "add block") handle (fun ref => Construct.addBlock ref.function)
    fun ref block => .block ⟨ref.context, ref.function, block⟩

/-- Finds the value of an argument of the function behind a handle. -/
def argument (store : Store) (handle : Option FunctionRef) (index : Int) : Outcome :=
  store.inFunction (utf8 "get argument") handle (fun ref => Construct.argument ref.function index)
    fun ref value => .value ⟨ref.context, ref.function, value⟩

/-- Hands the context behind a handle to a backend. -/
def lower {World : Type} (store : Store) (handle : Option ContextId)
    (backend : Option (Backend World)) (world : World) : Store × World × Except Failure Unit :=
  match handle, store.context? handle with
  | some id, some context =>
    let (context, world, outcome) := context.lower backend world
    (store.set id context, world, outcome)
  | _, _ => (store, world, .error (.ofKind .invalidHandle))

/-- Destroys the context behind a handle. -/
def destroy (store : Store) (handle : Option ContextId) : Store :=
  match handle, store.context? handle with
  | some id, some context => store.set id context.destroy
  | _, _ => store

/-- Performs an operation. -/
def perform {World : Type} (store : Store) (world : World) :
    Operation World → Store × World × Except Failure Handle
  | .newContext optimize =>
    let (store, id) := store.push (.new optimize)
    (store, world, .ok (.context id))
  | .parse file source optimize =>
    let (store, outcome) := store.adopt
      ((Context.parse file source optimize).mapError ParseError.toFailure)
    (store, world, outcome)
  | .restore snapshot =>
    let (store, outcome) := store.adopt snapshot.restore
    (store, world, outcome)
  | .intern context type =>
    let (store, outcome) := store.intern context type
    (store, world, outcome)
  | .addFunction context name signature =>
    let (store, outcome) := store.addFunction context name signature
    (store, world, outcome)
  | .addBlock function =>
    let (store, outcome) := store.addBlock function
    (store, world, outcome)
  | .argument function index =>
    let (store, outcome) := store.argument function index
    (store, world, outcome)
  | .const block type literal =>
    let (store, outcome) := store.addValue (utf8 "const") block fun ref =>
      Construct.const ref.place type literal
    (store, world, outcome)
  | .call block callee arguments =>
    let (store, outcome) := store.addValue (utf8 "call") block fun ref =>
      Construct.call ref.place (store.callee ref callee) (arguments.map (store.operand ref))
    (store, world, outcome)
  | .binary block kind left right =>
    let (store, outcome) := store.addValue (KindCode.mnemonic kind) block fun ref =>
      Construct.binary ref.place kind (store.operand ref left) (store.operand ref right)
    (store, world, outcome)
  | .branch block target =>
    let (store, outcome) := store.endBlock (utf8 "branch") block fun ref =>
      Construct.branch ref.place (store.target ref target)
    (store, world, outcome)
  | .result block value =>
    let (store, outcome) := store.endBlock (utf8 "return") block fun ref =>
      Construct.result ref.place (store.operand ref value)
    (store, world, outcome)
  | .lower context backend =>
    let (store, world, outcome) := store.lower context backend world
    (store, world, outcome.map fun _ => .nothing)
  | .destroy context => (store.destroy context, world, .ok .nothing)

end Store
end Blockwork
