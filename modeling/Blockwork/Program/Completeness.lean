import Blockwork.Program.Context

/-!
# Completeness

A context is complete if every function has a block and every block has an end. A backend is only
ever given a complete context. What is missing is reported item by item, in order.
-/

namespace Blockwork

/-- Something that is missing from a function. -/
inductive Gap where
  /-- The function has no block. -/
  | noBlocks
  /-- A block has no end. -/
  | openBlock (block : BlockId)
deriving DecidableEq, Repr

namespace Gap

/-- A gap as a failure. -/
def failure : Gap → Failure
  | .noBlocks => .ofKind .emptyFunction
  | .openBlock block => .within (blockName block) (.ofKind .unterminatedBlock)

end Gap

namespace Function

/-- What is missing from a function, in order. -/
def gaps (function : Function) : List Gap :=
  if function.blocks.size = 0 then [.noBlocks]
  else
    function.blocks.all.filterMap fun (id, block) =>
      if block.terminator.isNone then some (.openBlock id) else none

end Function

namespace Context

/-- What is missing, function by function; functions from which nothing is missing are left out. -/
def failures (context : Context) : List Failure :=
  context.listFunctions.filterMap fun function =>
    (Failure.join (function.gaps.map Gap.failure)).map
      (.within (utf8 "function " ++ function.name))

/-- Accepts a complete context that is not destroyed. -/
def validate (context : Context) : Except Failure Unit :=
  match context.readable with
  | .error fault => .error (.fault fault)
  | .ok () => Failure.toExcept context.failures

end Context
end Blockwork
