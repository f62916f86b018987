import Blockwork.Session
import Blockwork.Source.Reader

/-!
# Reading sources in a session

Reading a source text takes a span; each function whose body is begun is a point in it.
-/

namespace Blockwork
namespace Work

/-- Reads a source text. `file` names it in messages. -/
def parse (file source : Bytes) (optimize : Bool) (parent : Nat) :
    Work (Except Failure Context) := do
  let span ← beginSpan .pass "parse" parent
  let span ← annotate span "file" file
  let reading := Reader.read file source optimize
  for name in reading.begun do
    point .function (utf8 "func:" ++ name) [] span.id
  match reading.outcome with
  | .error error =>
    endSpan span "failed"
    pure (.error error.toFailure)
  | .ok context =>
    let span ← annotate span "funcs" (Bytes.decimal context.functionCount)
    endSpan span ""
    pure (.ok context)

/-- Reads a source file. -/
def parseFile (path : Bytes) (optimize : Bool) (parent : Nat) :
    Work (Except Failure Context) := do
  match ← readFile path with
  | .error failure => pure (.error failure)
  | .ok source => parse path source optimize parent

end Work
end Blockwork
