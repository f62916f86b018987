import Blockwork.Trace.Ring
import Mathlib.Tactic.Common

/-!
# What a ring keeps

Read from its head on, a ring is a window on all the events that it has been given: each new event
moves the window on by one. So a ring keeps the newest events, as many as it has slots, oldest
first.
-/

namespace Blockwork
namespace Trace
namespace Ring

/-- The slots in the order in which they were filled, those that never were first. -/
def unrolled (ring : Ring) : List (Option Event) :=
  ring.slots.toList.drop ring.head ++ ring.slots.toList.take ring.head

/-- The last places of a history in front of which nothing happened. -/
def window (count : Nat) (history : List Event) : List (Option Event) :=
  (List.replicate count none ++ history.map some).drop history.length

/-- A ring has been given the events of a history, and no others. -/
structure Holds (ring : Ring) (history : List Event) : Prop where
  /-- The slots show the end of the history. -/
  shown : ring.unrolled = window ring.slots.size history
  /-- The head goes around. -/
  head : ring.head = history.length % ring.slots.size
  /-- Every slot has been filled once there have been enough events. -/
  full : ring.full = true ↔ ring.slots.size ≤ history.length

theorem window_append {count : Nat} (positive : 0 < count) (history : List Event) (event : Event) :
    window count (history ++ [event]) = (window count history).tail ++ [some event] := by
  have longer : history.length + 1 ≤
      (List.replicate count (none : Option Event) ++ history.map some).length := by
    rw [List.length_append, List.length_replicate, List.length_map]
    omega
  rw [window, window, List.map_append, List.map_singleton, ← List.append_assoc,
    List.length_append, List.length_singleton, List.drop_append_of_le_length longer,
    List.tail_drop]

theorem window_of_le {count : Nat} {history : List Event} (few : history.length ≤ count) :
    window count history =
      List.replicate (count - history.length) none ++ history.map some := by
  rw [window, List.drop_append_of_le_length (by rwa [List.length_replicate]), List.drop_replicate]

theorem window_of_ge {count : Nat} {history : List Event} (many : count ≤ history.length) :
    window count history = (history.drop (history.length - count)).map some := by
  rw [window, List.drop_append, List.drop_eq_nil_of_le (by rwa [List.length_replicate]),
    List.nil_append, List.length_replicate, List.map_drop]

theorem size_push (ring : Ring) (event : Event) :
    (ring.push event).slots.size = ring.slots.size :=
  Array.size_set ring.head_lt

/-- A new event takes the place of the oldest slot. -/
theorem unrolled_push (ring : Ring) (event : Event) :
    (ring.push event).unrolled = ring.unrolled.tail ++ [some event] := by
  have inside : ring.head < ring.slots.toList.length := ring.head_lt
  have filled : (ring.push event).slots.toList =
      ring.slots.toList.take ring.head ++ [some event] ++
        ring.slots.toList.drop (ring.head + 1) := by
    rw [push, Array.toList_set, List.set_eq_take_append_cons_drop, if_pos inside,
      List.append_assoc, List.singleton_append]
  have behind : ring.unrolled.tail =
      ring.slots.toList.drop (ring.head + 1) ++ ring.slots.toList.take ring.head := by
    rw [unrolled, List.tail_append_of_ne_nil (by simpa using ring.head_lt), List.tail_drop]
  have head : (ring.push event).head = (ring.head + 1) % ring.slots.size := rfl
  rw [behind, unrolled, filled, head]
  by_cases last : ring.head + 1 = ring.slots.size
  · have nothing : ring.slots.toList.drop (ring.head + 1) = [] :=
      List.drop_eq_nil_of_le (by simp [last])
    rw [last, Nat.mod_self, ← last, nothing]
    simp
  · have front : (ring.slots.toList.take ring.head ++ [some event]).length = ring.head + 1 := by
      rw [List.length_append, List.length_take_of_le (Nat.le_of_lt inside), List.length_singleton]
    rw [Nat.mod_eq_of_lt (by have := ring.head_lt; omega), List.drop_left' front,
      List.take_left' front, List.append_assoc]

theorem holds_empty (requested : Int) (level : Level) : (empty requested level).Holds [] where
  shown := by simp [unrolled, empty, window]
  head := by simp [empty]
  full := by simp [empty, Nat.ne_of_gt (capacity_pos requested)]

theorem Holds.push {ring : Ring} {history : List Event} (holds : ring.Holds history)
    (event : Event) : (ring.push event).Holds (history ++ [event]) := by
  have positive : 0 < ring.slots.size := Nat.zero_lt_of_lt ring.head_lt
  have head : (ring.push event).head = (ring.head + 1) % ring.slots.size := rfl
  refine ⟨?_, ?_, ?_⟩
  · rw [unrolled_push, holds.shown, size_push, window_append positive]
  · rw [head, size_push, holds.head, List.length_append, List.length_singleton, Nat.mod_add_mod]
  · have again : (ring.head + 1) % ring.slots.size = (history.length + 1) % ring.slots.size := by
      rw [holds.head, Nat.mod_add_mod]
    have filled : (ring.push event).full = true ↔
        ring.full = true ∨ (ring.head + 1) % ring.slots.size = 0 := by
      simp [Ring.push]
    rw [filled, holds.full, again, size_push, List.length_append, List.length_singleton]
    by_cases few : history.length + 1 < ring.slots.size
    · rw [Nat.mod_eq_of_lt few]
      omega
    · by_cases last : history.length + 1 = ring.slots.size
      · rw [last, Nat.mod_self]
        omega
      · omega

/-- What is kept is the end of the history. -/
theorem Holds.toList_eq {ring : Ring} {history : List Event} (holds : ring.Holds history) :
    ring.toList = history.drop (history.length - ring.slots.size) := by
  by_cases many : ring.slots.size ≤ history.length
  · rw [toList, if_pos (holds.full.mpr many), ← Ring.unrolled, holds.shown, window_of_ge many,
      List.filterMap_map]
    exact List.filterMap_some
  · have few := Nat.lt_of_not_le many
    have notFull : ¬ ring.full = true := mt holds.full.mp many
    have head : ring.head = history.length := holds.head.trans (Nat.mod_eq_of_lt few)
    have parts := holds.shown
    rw [window_of_le (Nat.le_of_lt few), unrolled] at parts
    have kept := (List.append_inj parts (by rw [List.length_drop]; simp [head])).2
    rw [toList, if_neg notFull, kept, Nat.sub_eq_zero_of_le (Nat.le_of_lt few), List.drop_zero,
      List.filterMap_map]
    exact List.filterMap_some

theorem Holds.foldl_push {ring : Ring} {history : List Event} (holds : ring.Holds history)
    (events : List Event) : (events.foldl Ring.push ring).Holds (history ++ events) := by
  induction events generalizing ring history with
  | nil => rwa [List.append_nil]
  | cons event rest ih =>
    rw [List.foldl_cons, List.append_cons]
    exact ih (holds.push event)

theorem size_foldl_push (ring : Ring) (history : List Event) :
    (history.foldl push ring).slots.size = ring.slots.size := by
  induction history generalizing ring with
  | nil => rfl
  | cons event rest ih => rw [List.foldl_cons, ih, size_push]

end Ring
end Trace
end Blockwork
