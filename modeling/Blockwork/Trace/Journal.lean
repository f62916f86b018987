import Blockwork.Trace.Tracer

/-!
# The journal

The journal numbers events and spans and hands events to the tracer. A span is begun, may have
values attached, and is ended; a span that the level leaves out makes no event at all. What is to be
written stands in the outbox until it is delivered.
-/

namespace Blockwork
namespace Trace

/-- A stretch of work. -/
structure Span where
  /-- Its number; zero if it is left out. -/
  id : Nat := 0
  /-- The span around it. -/
  parent : Nat := 0
  /-- Its granularity. -/
  scope : Scope := ⟨0⟩
  /-- What it is about. -/
  name : Bytes := []
  /-- When it began. -/
  started : Instant := .unset
  /-- What is attached to it, once anything is. -/
  extra : Option (List (Bytes × Bytes)) := none
deriving DecidableEq, Repr

/-- The state of tracing. Its counts have no end; a counter of sixty-four bits gives the same numbers
until it goes around. -/
structure Journal where
  /-- What takes the events. -/
  tracer : Tracer := .off
  /-- The last number given to an event. -/
  sequence : Nat := 0
  /-- The last number given to a span. -/
  spans : Nat := 0
  /-- What is asked of sinks and not yet done. -/
  outbox : List (Sink × Request) := []
  /-- The events that have been handed to the tracer, in order. -/
  handed : List Event := []

namespace Journal

/-- Hands an event to targets one after the other; each that accepts it gives it a number of its
own. The event is returned with the last number that a stream gave it. -/
def distribute (event : Event) :
    List Target → Nat → List Target × Nat × List (Sink × Request) × Event
  | [], sequence => ([], sequence, [], event)
  | target :: rest, sequence =>
    if target.level.accepts event then
      let numbered := { event with sequence := sequence + 1 }
      let (target', requests) := target.take numbered
      let (rest, sequence, others, _) := distribute event rest (sequence + 1)
      let seen := match target with
        | .stream _ => numbered
        | .ring _ => event
      (target' :: rest, sequence, requests ++ others, seen)
    else
      let (rest, sequence, others, _) := distribute event rest sequence
      (target :: rest, sequence, others, event)

/-- Hands an event to the tracer. The result is the event as the caller sees it afterwards: only a
stream that is alone writes its number into it. -/
def emit (event : Event) : StateM Journal Event := do
  let journal ← get
  let (targets, sequence, requests, seen) :=
    distribute event journal.tracer.targets journal.sequence
  set { journal with
    tracer := journal.tracer.withTargets targets
    sequence
    outbox := journal.outbox ++ requests
    handed := journal.handed ++ [event] }
  match journal.tracer with
  | .single _ => pure seen
  | _ => pure event

/-- Whether events of a scope are traced. -/
def traces (journal : Journal) (scope : Scope) : Bool :=
  journal.tracer.enabled && journal.tracer.level.passes scope

/-- Begins a span. -/
def begin (scope : Scope) (name : Bytes) (parent : Nat) (now : Instant) : StateM Journal Span := do
  let journal ← get
  if journal.traces scope then
    let id := journal.spans + 1
    set { journal with spans := id }
    let _ ← emit { time := now, kind := .opening, scope, span := id, parent, name }
    pure { id, parent, scope, name, started := now }
  else pure {}

/-- Ends a span. -/
def finish (span : Span) (detail : Bytes) (now : Instant) : StateM Journal Unit := do
  let journal ← get
  if span.id ≠ 0 && journal.tracer.enabled then
    let _ ← emit {
      time := now
      kind := .closing
      scope := span.scope
      span := span.id
      parent := span.parent
      name := span.name
      detail
      elapsed := now.since span.started
      extra := match span.extra with
        | none => .absent
        | some pairs => .ofSpan pairs }

/-- Attaches a value to a span. If the span has ended and had values then, its end shows the new
one too. -/
def annotate (span : Span) (key value : Bytes) : StateM Journal Span := do
  let journal ← get
  if span.id ≠ 0 && journal.tracer.enabled then
    set { journal with tracer := journal.tracer.annotate span.id key value }
    pure { span with extra := some (assign key value (span.extra.getD [])) }
  else pure span

/-- Reports that something happens. -/
def point (scope : Scope) (name detail : Bytes) (parent : Nat) (now : Instant) :
    StateM Journal Unit := do
  if (← get).traces scope then
    let _ ← emit { time := now, kind := .point, scope, parent, name, detail }

/-- Reports that something fails, whatever the level. -/
def error (name : Bytes) (failure : Failure) (parent : Nat) (now : Instant) :
    StateM Journal Unit := do
  if (← get).tracer.enabled then
    let _ ← emit {
      time := now, kind := .error, scope := .driver, parent, name, detail := failure.message }

/-- Flushes all sinks. -/
def flush : StateM Journal (Except Failure Unit) := do
  let journal ← get
  let results := journal.tracer.targets.map Target.flush
  set { journal with outbox := journal.outbox ++ results.flatMap Prod.fst }
  pure (Failure.joinOutcomes (results.map Prod.snd))

/-- Closes all sinks. -/
def close : StateM Journal (Except Failure Unit) := do
  let journal ← get
  let results : List (Target × List (Sink × Request) × Except Failure Unit) :=
    journal.tracer.targets.map Target.close
  let tracer := journal.tracer.withTargets (results.map (·.1))
  let requests := results.flatMap (·.2.1)
  set { journal with tracer, outbox := journal.outbox ++ requests }
  pure (Failure.joinOutcomes (results.map (·.2.2)))

end Journal
end Trace
end Blockwork
