import Blockwork.Trace.Event

/-!
# The ring of recent events

A ring has a fixed number of slots. Events fill them in turn, and once all are filled the oldest
event gives way to the newest. What is kept is read oldest first.
-/

namespace Blockwork
namespace Trace

/-- Whether a level lets an event through: failures always pass. -/
def Level.accepts (level : Level) (event : Event) : Bool :=
  event.kind = .error || level.passes event.scope

/-- The most recent events. -/
structure Ring where
  /-- How much is kept. -/
  level : Level
  /-- The slots. -/
  slots : Array (Option Event)
  /-- The slot that is filled next. -/
  head : Nat
  /-- Whether every slot has been filled. -/
  full : Bool
  /-- The next slot exists. -/
  head_lt : head < slots.size

namespace Ring

/-- The number of slots for a requested number: a request that is not positive asks for the usual
number. -/
def capacity (requested : Int) : Nat :=
  if requested ≤ 0 then 4096 else requested.toNat

/-- Every ring has slots. -/
theorem capacity_pos (requested : Int) : 0 < capacity requested := by
  unfold capacity
  split <;> omega

/-- A ring without events. -/
def empty (requested : Int) (level : Level) : Ring where
  level := level
  slots := Array.replicate (capacity requested) none
  head := 0
  full := false
  head_lt := by simpa using capacity_pos requested

/-- Fills the next slot. -/
def push (ring : Ring) (event : Event) : Ring where
  level := ring.level
  slots := ring.slots.set ring.head (some event) ring.head_lt
  head := (ring.head + 1) % ring.slots.size
  full := ring.full || (ring.head + 1) % ring.slots.size = 0
  head_lt := by
    simpa using Nat.mod_lt _ (Nat.lt_of_le_of_lt (Nat.zero_le _) ring.head_lt)

/-- The events that are kept, oldest first. -/
def toList (ring : Ring) : List Event :=
  let slots := ring.slots.toList
  let kept :=
    if ring.full then slots.drop ring.head ++ slots.take ring.head else slots.take ring.head
  kept.filterMap id

/-- Changes events that are kept. -/
def map (ring : Ring) (change : Event → Event) : Ring where
  level := ring.level
  slots := ring.slots.map (Option.map change)
  head := ring.head
  full := ring.full
  head_lt := by simpa using ring.head_lt

/-- The events that are kept as text, one piece an event. Time is counted from the oldest. -/
def lines (ring : Ring) (format : Format) : List Bytes :=
  let events := ring.toList
  let start := (events.head?.map Event.time).getD .unset
  events.map fun event => event.render format start

end Ring
end Trace
end Blockwork
