import Blockwork.Program.Completeness
import Blockwork.Program.Construction
import Blockwork.Program.Listing

/-!
# Many contexts

Contexts live side by side in a store, and handles name what is in them: a context, a function, a
block, a value. A handle may be absent, and it may outlive the context it belongs to. This module
resolves handles; a handle that leads nowhere counts as absent.
-/

namespace Blockwork

/-- The number of a context in its store. -/
abbrev ContextId := Nat

/-- A handle of a function. -/
structure FunctionRef where
  /-- The context. -/
  context : ContextId
  /-- The function. -/
  function : FunctionId
deriving DecidableEq, Repr

/-- A handle of a block. -/
structure BlockRef where
  /-- The context. -/
  context : ContextId
  /-- The block and its function. -/
  place : Place
deriving DecidableEq, Repr

/-- A handle of a value. -/
structure ValueRef where
  /-- The context. -/
  context : ContextId
  /-- The function. -/
  function : FunctionId
  /-- The value. -/
  value : ValueId
deriving DecidableEq, Repr

/-- Contexts side by side. -/
structure Store where
  /-- The contexts in order of creation. -/
  contexts : Array Context := #[]
deriving DecidableEq, Repr

namespace Store

/-- Adds a context. -/
def push (store : Store) (context : Context) : Store × ContextId :=
  (⟨store.contexts.push context⟩, store.contexts.size)

/-- Replaces a context. -/
def set (store : Store) (id : ContextId) (context : Context) : Store :=
  ⟨store.contexts.setIfInBounds id context⟩

/-- The context behind a handle. -/
def context? (store : Store) (handle : Option ContextId) : Option Context := do
  store.contexts[← handle]?

/-- The context behind a handle, which has to be there. -/
def resolve (store : Store) (handle : Option ContextId) : Except Fault Context :=
  match store.context? handle with
  | some context => .ok context
  | none => .error { kind := .invalidHandle }

/-- The textual form of the context behind a handle, or the reason why there is none between angle
brackets. -/
def display (store : Store) (handle : Option ContextId) : Bytes :=
  match store.resolve handle with
  | .ok context => context.display
  | .error fault => utf8 "<" ++ fault.message ++ utf8 ">"

/-- The function behind a handle, whether or not its context is destroyed. -/
def function? (store : Store) (handle : Option FunctionRef) : Option Function := do
  let ref ← handle
  let context ← store.contexts[ref.context]?
  context.functions.get? ref.function

/-- The block behind a handle, whether or not its context is destroyed. -/
def block? (store : Store) (handle : Option BlockRef) : Option Block := do
  let ref ← handle
  let context ← store.contexts[ref.context]?
  let (_, block) ← context.at? ref.place
  pure block

/-- The value behind a handle, whether or not its context is destroyed. -/
def value? (store : Store) (handle : Option ValueRef) : Option Value := do
  let ref ← handle
  let context ← store.contexts[ref.context]?
  let function ← context.functions.get? ref.function
  function.values.get? ref.value

/-- The function that owns something, found through its context. -/
def owner? (store : Store) (context : ContextId) (function : FunctionId) : Option Function := do
  (← store.contexts[context]?).function? function

/-- The name of the function that owns something; empty if its context is destroyed. -/
def ownerName (store : Store) (context : ContextId) (function : FunctionId) : Bytes :=
  match store.owner? context function with
  | some owner => owner.name
  | none => []

/-- The handle of a function by number, found through its context. -/
def functionById (store : Store) (handle : Option ContextId) (id : Int) : Option FunctionRef := do
  let number ← handle
  let context ← store.contexts[number]?
  let _ ← context.function? id.toNat
  if 0 ≤ id then some ⟨number, id.toNat⟩ else none

/-- The handle of a function by name, found through its context. -/
def functionByName (store : Store) (handle : Option ContextId) (name : Bytes) :
    Option FunctionRef := do
  let number ← handle
  let context ← store.contexts[number]?
  let id ← context.functionNamed? name
  some ⟨number, id⟩

/-- The handle of a block by number. -/
def blockById (store : Store) (handle : Option FunctionRef) (id : Int) : Option BlockRef := do
  let ref ← handle
  let function ← store.function? handle
  if 0 ≤ id ∧ id < function.blocks.size then some ⟨ref.context, ref.function, id.toNat⟩ else none

/-- The handle of a value by number. -/
def valueById (store : Store) (handle : Option FunctionRef) (id : Int) : Option ValueRef := do
  let ref ← handle
  let function ← store.function? handle
  if 0 ≤ id ∧ id < function.values.size then some ⟨ref.context, ref.function, id.toNat⟩ else none

/-- A value offered to an instruction in a block. -/
def operand (store : Store) (block : BlockRef) (handle : Option ValueRef) : Operand :=
  match handle with
  | none => .missing
  | some ref =>
    if ref.context = block.context ∧ ref.function = block.place.function then .own ref.value
    else .foreign ref.value (store.ownerName ref.context ref.function)

/-- A function offered to a call in a block. -/
def callee (store : Store) (block : BlockRef) (handle : Option FunctionRef) : Callee :=
  match handle, store.function? handle with
  | some ref, some function =>
    if ref.context = block.context then .own ref.function else .foreign function.name
  | _, _ => .missing

/-- A block offered to a branch in a block. -/
def target (store : Store) (block : BlockRef) (handle : Option BlockRef) : Target :=
  match handle with
  | none => .missing
  | some ref =>
    if ref.context = block.context ∧ ref.place.function = block.place.function then
      .own ref.place.block
    else .foreign ref.place.block (store.ownerName ref.context ref.place.function)

/-- The textual form of the function behind a handle. -/
def dumpFunction (store : Store) (handle : Option FunctionRef) : Except Fault Bytes :=
  match handle, store.function? handle with
  | some ref, some function =>
    match store.contexts[ref.context]? with
    | some context => context.dumpFunction function
    | none => .error { kind := .invalidHandle }
  | _, _ => .error { kind := .invalidHandle }

end Store
end Blockwork
