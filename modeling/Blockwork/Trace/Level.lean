import Blockwork.Failure
import Blockwork.Text.Case
import Blockwork.Text.Quoted

/-!
# Trace settings

How much is traced, how it is kept and how it is written. Each setting is a code with a name; codes
without a name are possible and are called unknown.
-/

namespace Blockwork
namespace Trace

/-- The name of a code that has none. -/
def unknown : String := "unknown"

/-- The setting whose name the word is, in whatever case. -/
def settingNamed? {α : Type} (names : List (String × α)) (word : Bytes) : Option α :=
  (names.find? fun entry => utf8 entry.1 = Text.lower word).map Prod.snd

/-- A word that names no setting. -/
def invalidSetting (what : String) (word : Bytes) (expected : String) : Failure :=
  .text (utf8 ("invalid " ++ what ++ ": ") ++ Text.Quoted.text word ++
    utf8 (" (expected: " ++ expected ++ ")"))

/-- The granularity of an event; a smaller code is coarser. -/
structure Scope where
  /-- The code. -/
  code : UInt8
deriving DecidableEq, Repr

namespace Scope

/-- A whole command or build. -/
def driver : Scope := ⟨1⟩

/-- A stage of the work on one file. -/
def pass : Scope := ⟨2⟩

/-- A function. -/
def function : Scope := ⟨3⟩

/-- A value. -/
def value : Scope := ⟨4⟩

/-- The name of a scope. -/
def name (scope : Scope) : String :=
  if scope = driver then "driver"
  else if scope = pass then "pass"
  else if scope = function then "function"
  else if scope = value then "value"
  else unknown

end Scope

/-- How much is traced. -/
structure Level where
  /-- The code. -/
  code : UInt8
deriving DecidableEq, Repr

namespace Level

/-- Nothing. -/
def off : Level := ⟨0⟩

/-- Failures only. -/
def error : Level := ⟨1⟩

/-- Commands and stages. -/
def phase : Level := ⟨2⟩

/-- Functions as well. -/
def detail : Level := ⟨3⟩

/-- Everything. -/
def debug : Level := ⟨4⟩

/-- The name of a level. -/
def name (level : Level) : String :=
  if level = off then "off"
  else if level = error then "error"
  else if level = phase then "phase"
  else if level = detail then "detail"
  else if level = debug then "debug"
  else unknown

/-- The level that a word names; nothing named is off. -/
def parse (word : Bytes) : Except Failure Level :=
  let names :=
    [("off", off), ("", off), ("error", error), ("phase", phase), ("detail", detail),
     ("debug", debug)]
  match settingNamed? names word with
  | some level => .ok level
  | none => .error (invalidSetting "trace level" word "off|error|phase|detail|debug")

/-- Whether anything is traced. -/
def enabled (level : Level) : Bool := 0 < level.code

/-- Whether events of a scope are traced. -/
def passes (level : Level) (scope : Scope) : Bool :=
  if level = phase then scope.code ≤ Scope.pass.code
  else if level = detail then scope.code ≤ Scope.function.code
  else level = debug

end Level

/-- What an event reports. -/
structure EventKind where
  /-- The code. -/
  code : UInt8
deriving DecidableEq, Repr

namespace EventKind

/-- A span begins. -/
def opening : EventKind := ⟨1⟩

/-- A span ends. -/
def closing : EventKind := ⟨2⟩

/-- Something happens. -/
def point : EventKind := ⟨3⟩

/-- Something fails. -/
def error : EventKind := ⟨4⟩

/-- The name of a kind of event. -/
def name (kind : EventKind) : String :=
  if kind = opening then "begin"
  else if kind = closing then "end"
  else if kind = point then "point"
  else if kind = error then "error"
  else unknown

/-- The mark in front of an event. -/
def mark (kind : EventKind) : String :=
  if kind = opening then "→ "
  else if kind = closing then "← "
  else if kind = point then "• "
  else if kind = error then "! "
  else ""

end EventKind

/-- Where events are kept. -/
structure Storage where
  /-- The code. -/
  code : UInt8
deriving DecidableEq, Repr

namespace Storage

/-- Events are written at once. -/
def stream : Storage := ⟨1⟩

/-- The last events are kept. -/
def ring : Storage := ⟨2⟩

/-- Both. -/
def both : Storage := ⟨3⟩

/-- The name of a way to keep events. -/
def name (storage : Storage) : String :=
  if storage = stream then "stream"
  else if storage = ring then "ring"
  else if storage = both then "both"
  else unknown

/-- The way to keep events that a word names. -/
def parse (word : Bytes) : Except Failure Storage :=
  match settingNamed? [("stream", stream), ("ring", ring), ("both", both)] word with
  | some storage => .ok storage
  | none => .error (invalidSetting "storage mode" word "stream|ring|both")

end Storage

/-- How events are written. -/
structure Format where
  /-- The code. -/
  code : UInt8
deriving DecidableEq, Repr

namespace Format

/-- Chosen by the name of the output. -/
def auto : Format := ⟨0⟩

/-- For people. -/
def text : Format := ⟨1⟩

/-- One JSON object a line. -/
def json : Format := ⟨2⟩

/-- The format that a word names; nothing named leaves the choice open. -/
def parse (word : Bytes) : Except Failure Format :=
  let names := [("", auto), ("auto", auto), ("text", text), ("ndjson", json), ("json", json)]
  match settingNamed? names word with
  | some format => .ok format
  | none => .error (invalidSetting "trace format" word "auto|text|ndjson")

/-- The choice made for an output of the given name. -/
def resolve (format : Format) (path : Bytes) : Format :=
  if format ≠ auto then format
  else if Bytes.endsWith (utf8 ".ndjson") path || Bytes.endsWith (utf8 ".jsonl") path then json
  else text

end Format
end Trace
end Blockwork
