import Blockwork.Clock.Instant
import Blockwork.Json.Quoted
import Blockwork.Numeric.Binary64
import Blockwork.Trace.Level

/-!
# Trace events

An event says that a span begins or ends, that something happens or that something fails. It is
written as a line for people or as a line of JSON.
-/

namespace Blockwork
namespace Trace

/-- What is attached to an event: keys with values. -/
inductive Extra where
  /-- Nothing. -/
  | absent
  /-- What came with the event. -/
  | listed (pairs : List (Bytes × Bytes))
  /-- What is attached to the span that the event ends, now or later. -/
  | ofSpan (pairs : List (Bytes × Bytes))
deriving DecidableEq, Repr

/-- Sets the value of a key. -/
def assign (key value : Bytes) : List (Bytes × Bytes) → List (Bytes × Bytes)
  | [] => [(key, value)]
  | (other, old) :: rest =>
    if other = key then (key, value) :: rest else (other, old) :: assign key value rest

namespace Extra

/-- The keys and values, if anything is attached. -/
def pairs? : Extra → Option (List (Bytes × Bytes))
  | .absent => none
  | .listed pairs => some pairs
  | .ofSpan pairs => some pairs

/-- The keys and values in the order of the keys. -/
def sorted (extra : Extra) : List (Bytes × Bytes) :=
  (extra.pairs?.getD []).mergeSort fun left right => Bytes.precedes left.1 right.1

end Extra

/-- A trace event. -/
structure Event where
  /-- When it was noticed. -/
  time : Instant := .unset
  /-- Its number among all events. -/
  sequence : Nat := 0
  /-- What it reports. -/
  kind : EventKind
  /-- Its granularity. -/
  scope : Scope
  /-- The span that begins or ends; zero if none does. -/
  span : Nat := 0
  /-- The span around it; zero if there is none. -/
  parent : Nat := 0
  /-- What it is about. -/
  name : Bytes
  /-- More about it; may be empty. -/
  detail : Bytes := []
  /-- How long the span lasted that ends. -/
  elapsed : Duration := 0
  /-- What is attached to it. -/
  extra : Extra := .absent
deriving DecidableEq, Repr

namespace Event

/-- An event as a line for people. `start` is the instant from which time is counted; if it is not
known, no time has passed. -/
def line (event : Event) (start : Instant) : Bytes :=
  let passed := if start.isUnset then 0 else event.time.since start
  let stamp := Binary64.fixed 3 (Binary64.quotient (Duration.microseconds passed) 1000)
  let extra := event.extra.sorted.map fun (key, value) => key ++ utf8 "=" ++ value
  utf8 "[" ++ Bytes.padLeft 9 stamp ++ utf8 "ms] " ++
    (if 0 < event.parent then utf8 "  " else []) ++
    utf8 event.kind.mark ++ event.name ++
    (if event.detail = [] then [] else utf8 " (" ++ event.detail ++ utf8 ")") ++
    (if event.kind = .closing then
      utf8 " [" ++ Duration.text (Duration.roundToMicroseconds event.elapsed) ++ utf8 "]"
      else []) ++
    (if extra = [] then []
      else utf8 " \x7b" ++ Bytes.join (utf8 ", ") extra ++ utf8 "\x7d") ++
    utf8 "\n"

/-- A member of a JSON object. -/
def member (key : String) (value : Bytes) : Bytes :=
  Json.quoted (utf8 key) ++ utf8 ":" ++ value

/-- An event as a line of JSON; members that say nothing are left out. -/
def json (event : Event) : Bytes :=
  let optional (absent : Bool) (key : String) (value : Bytes) : List Bytes :=
    if absent then [] else [member key value]
  let elapsed := Duration.microseconds event.elapsed
  let extra := event.extra.sorted.map fun (key, value) =>
    Json.quoted key ++ utf8 ":" ++ Json.quoted value
  let members :=
    [member "time" (Json.quoted event.time.text),
      member "seq" (Bytes.decimal event.sequence),
      member "kind" (Json.quoted (utf8 event.kind.name)),
      member "scope" (Json.quoted (utf8 event.scope.name))] ++
    optional (event.span == 0) "span_id" (Bytes.decimal event.span) ++
    optional (event.parent == 0) "parent_id" (Bytes.decimal event.parent) ++
    [member "name" (Json.quoted event.name)] ++
    optional event.detail.isEmpty "detail" (Json.quoted event.detail) ++
    optional (elapsed == 0) "elapsed_us" (Bytes.signed elapsed) ++
    optional extra.isEmpty "extra" (utf8 "\x7b" ++ Bytes.join (utf8 ",") extra ++ utf8 "\x7d")
  utf8 "\x7b" ++ Bytes.join (utf8 ",") members ++ utf8 "\x7d\n"

/-- An event in the given format. -/
def render (event : Event) (format : Format) (start : Instant) : Bytes :=
  if format = .json then event.json else event.line start

end Event
end Trace
end Blockwork
