import Blockwork.Failure
import Blockwork.Program.Function
import Blockwork.Program.Name

/-!
# Contexts

A context owns the types and the functions built in it. It starts out open to construction, may be
consumed by a backend, and may be destroyed. What a context holds is kept after its destruction,
because handles to it survive, but nothing can be looked up through it any more.
-/

namespace Blockwork

/-- The stages in the life of a context. -/
inductive Phase where
  /-- Construction is possible. -/
  | building
  /-- A backend has been given the context; it can be read but no longer changed. -/
  | consumed
  /-- The context is gone. -/
  | destroyed
deriving DecidableEq, Repr

/-- The owner of types and functions. -/
structure Context where
  /-- Whether backends are asked to optimize. -/
  optimize : Bool
  /-- The types. -/
  types : Interner := Interner.initial
  /-- The functions in order of creation. -/
  functions : Arena Function := Arena.empty
  /-- The number of each function by name. -/
  names : List (Bytes × FunctionId) := []
  /-- The stage of its life. -/
  phase : Phase := .building
deriving DecidableEq, Repr

namespace Context

instance : Inhabited Context := ⟨{ optimize := false }⟩

/-- A context without functions. -/
def new (optimize : Bool) : Context := { optimize }

/-- The fault of using a context that is closed. -/
def closedFault (how : String) : Fault := { kind := .contextClosed, detail := utf8 how }

/-- Refuses construction once the context is closed. -/
def usable (context : Context) : Except Fault Unit :=
  match context.phase with
  | .building => .ok ()
  | .consumed => .error (closedFault "consumed by a backend")
  | .destroyed => .error (closedFault "destroyed")

/-- Refuses inspection once the context is destroyed. -/
def readable (context : Context) : Except Fault Unit :=
  match context.phase with
  | .destroyed => .error (closedFault "destroyed")
  | _ => .ok ()

/-- The functions that can be reached through the context, in order of creation. -/
def listFunctions (context : Context) : List Function :=
  if context.phase = .destroyed then [] else context.functions.toList

/-- The number of functions that can be reached through the context. -/
def functionCount (context : Context) : Nat :=
  if context.phase = .destroyed then 0 else context.functions.size

/-- The function with the given number, reached through the context. -/
def function? (context : Context) (id : FunctionId) : Option Function :=
  if context.phase = .destroyed then none else context.functions.get? id

/-- The number of the function with the given name, in whatever spelling. -/
def functionNamed? (context : Context) (name : Bytes) : Option FunctionId :=
  if context.phase = .destroyed then none else context.names.lookup (Text.normalize name)

/-- The context after its destruction. -/
def destroy (context : Context) : Context := { context with phase := .destroyed }

end Context
end Blockwork
