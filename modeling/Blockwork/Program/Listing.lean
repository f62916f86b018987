import Blockwork.Program.Context

/-!
# The textual form

A context is written function by function, with an empty line between neighbours:

    define foo() -> i32 {
    bb0:
      %0: i32 = 0
      return %0
    }

A block without a terminator has no terminator line.
-/

namespace Blockwork
namespace Listing

/-- Lines of text, each ended by a line feed. -/
def text (lines : List Bytes) : Bytes :=
  lines.flatMap fun line => line ++ utf8 "\n"

/-- What stands to the right of the equals sign: how a value is computed. -/
def origin (context : Context) : Origin → Bytes
  | .parameter index => utf8 "param " ++ Bytes.decimal index
  | .instruction _ (.const literal) => Bytes.decimal literal.toNat
  | .instruction _ (.call callee arguments) =>
    let name :=
      match context.functions.get? callee with
      | some function => function.name
      | none => []
    utf8 "call " ++ name ++ utf8 "(" ++ Bytes.join (utf8 ", ") (arguments.map valueName) ++
      utf8 ")"
  | .instruction _ (.binary operator left right) =>
    utf8 operator.mnemonic ++ utf8 " " ++ valueName left ++ utf8 " " ++ valueName right

/-- The line of a value. -/
def value (context : Context) (id : ValueId) (value : Value) : Bytes :=
  utf8 "  " ++ valueName id ++ utf8 ": " ++ context.types.name value.type ++ utf8 " = " ++
    origin context value.origin

/-- The line of a terminator. -/
def terminator : Terminator → Bytes
  | .branch target => utf8 "  branch " ++ blockName target
  | .result value => utf8 "  return " ++ valueName value

/-- The lines of a block. -/
def block (context : Context) (function : Function) (id : BlockId) (block : Block) : List Bytes :=
  [blockName id ++ utf8 ":"] ++
    (block.values.toList.filterMap fun id => (function.values.get? id).map (value context id)) ++
    (block.terminator.map terminator).toList

/-- The first line of a function. -/
def header (context : Context) (function : Function) : Bytes :=
  utf8 "define " ++ function.name ++ function.signature.spelling context.types ++ utf8 " \x7b"

/-- The lines of a function. -/
def function (context : Context) (function : Function) : List Bytes :=
  [header context function] ++
    (function.blocks.all.flatMap fun (id, content) => block context function id content) ++
    [utf8 "\x7d"]

/-- Groups of lines with an empty line between neighbours. -/
def separate : List (List Bytes) → List Bytes
  | [] => []
  | [only] => only
  | first :: second :: rest => first ++ [[]] ++ separate (second :: rest)

/-- The lines of a context. -/
def context (context : Context) : List Bytes :=
  separate (context.listFunctions.map (function context))

end Listing

namespace Context

/-- The textual form of a context, as long as it is not destroyed. -/
def dump (context : Context) : Except Fault Bytes := do
  context.readable
  pure (Listing.text (Listing.context context))

/-- The textual form of a context, or the reason why there is none between angle brackets. -/
def display (context : Context) : Bytes :=
  match context.dump with
  | .ok text => text
  | .error fault => utf8 "<" ++ fault.message ++ utf8 ">"

/-- The textual form of one function. -/
def dumpFunction (context : Context) (function : Function) : Except Fault Bytes := do
  context.readable
  pure (Listing.text (Listing.function context function))

end Context
end Blockwork
