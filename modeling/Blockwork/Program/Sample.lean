import Blockwork.Program.Store

/-!
# Sample programs

Small programs built step by step. A step that fails ends the building; what was built before it
stays.
-/

namespace Blockwork

/-- Construction as a sequence of steps on one context. -/
abbrev Building (α : Type) := ExceptT Failure (StateM Context) α

namespace Building

/-- A change of the context, which stays as it is written even if the change fails. -/
def change {ε α : Type} (steps : Change ε Context α) (failure : ε → Failure) : Building α := do
  match steps.run (← get) with
  | .ok value context =>
    set context
    pure value
  | .error error context =>
    set context
    throw (failure error)

/-- A step of construction. -/
def step {α : Type} (steps : Construct α) : Building α := change steps .build

/-- Interns a type. -/
def intern (type : Descriptor) : Building TypeId := change (Construct.intern type) .fault

/-- Adds a function. -/
def addFunction (name : String) (signature : Signature) : Building FunctionId :=
  step (Construct.addFunction (utf8 name) signature)

/-- Adds a block. -/
def addBlock (function : FunctionId) : Building Place := do
  let block ← step (Construct.addBlock function)
  pure ⟨function, block⟩

/-- The value of an argument. -/
def argument (function : FunctionId) (index : Nat) : Building ValueId :=
  step (Construct.argument function index)

/-- Adds a constant. -/
def const (place : Place) (type : TypeId) (literal : UInt64) : Building ValueId :=
  step (Construct.const place type literal)

/-- Adds a call. -/
def call (place : Place) (callee : FunctionId) (arguments : List ValueId) : Building ValueId :=
  step (Construct.call place (.own callee) (arguments.map .own))

/-- Adds an operation on two values. -/
def binary (place : Place) (operator : Operator) (left right : ValueId) : Building ValueId :=
  step (Construct.binary place operator.code (.own left) (.own right))

/-- Ends a block by a jump. -/
def branch (place target : Place) : Building Unit :=
  step (Construct.branch place (.own target.block))

/-- Ends a block by returning a value. -/
def result (place : Place) (value : ValueId) : Building Unit :=
  step (Construct.result place (.own value))

end Building

/-- Builds in the context behind a handle. -/
def Store.build (store : Store) (handle : Option ContextId) (steps : Building Unit) :
    Store × Except Failure Unit :=
  match handle, store.context? handle with
  | some id, some context =>
    let (outcome, context) := steps.run.run context
    (store.set id context, outcome)
  | _, _ => (store, .error (.ofKind .invalidHandle))

namespace Sample

/-- A function `foo` that returns zero and a function `main` that returns the result of `foo`. With
`split`, `main` calls `foo` in its entry block, jumps to a second block that calls `foo` again, and
returns the first result. -/
def fooMain (split : Bool) : Building Unit := do
  let i32 ← Building.intern (.int 32)
  let signature : Signature := ⟨[], i32⟩
  let foo ← Building.addFunction "foo" signature
  let fooStart ← Building.addBlock foo
  let naught ← Building.const fooStart i32 0
  Building.result fooStart naught
  let main ← Building.addFunction "main" signature
  let mainStart ← Building.addBlock main
  let answer ← Building.call mainStart foo []
  if split then
    let mainEnd ← Building.addBlock main
    Building.branch mainStart mainEnd
    let _ ← Building.call mainEnd foo []
    Building.result mainEnd answer
  else Building.result mainStart answer

/-- A function of two blocks with parameters, arithmetic and a call of itself. -/
def arith : Building Unit := do
  let i32 ← Building.intern (.int 32)
  let function ← Building.addFunction "arith" ⟨[i32, i32], i32⟩
  let first ← Building.argument function 0
  let second ← Building.argument function 1
  let entry ← Building.addBlock function
  let tail ← Building.addBlock function
  let sum ← Building.binary entry .add first second
  let three ← Building.const entry i32 3
  let product ← Building.binary entry .mul sum three
  Building.branch entry tail
  let recursive ← Building.call tail function [product, second]
  let quotient ← Building.binary tail .sdiv recursive first
  let mixed ← Building.binary tail .xor quotient second
  Building.result tail mixed

end Sample
end Blockwork
