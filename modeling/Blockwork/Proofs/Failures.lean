import Blockwork.Failure
import Mathlib.Tactic.Common

/-!
# Joined failures

Several failures are joined into one. There is none if there were none; otherwise it has the kinds
and the texts of all of them, in order.
-/

namespace Blockwork
namespace Failure

theorem join_eq_none_iff {failures : List Failure} : join failures = none ↔ failures = [] := by
  cases failures with
  | nil => simp [join]
  | cons first rest =>
    rw [join]
    split <;> simp

theorem toExcept_eq_ok_iff {failures : List Failure} :
    toExcept failures = .ok () ↔ failures = [] := by
  rw [← join_eq_none_iff, toExcept]
  cases join failures <;> simp

variable {failures : List Failure} {failure : Failure}

/-- A failure alone stays as it is; before others it comes first. -/
theorem join_cons_cases {first : Failure} {rest : List Failure}
    (joined : join (first :: rest) = some failure) :
    (rest = [] ∧ failure = first) ∨
      ∃ others, join rest = some others ∧ failure = .both first (utf8 "\n") others := by
  rw [join] at joined
  cases others : join rest with
  | none =>
    rw [others] at joined
    exact .inl ⟨join_eq_none_iff.mp others, (Option.some.inj joined).symm⟩
  | some other =>
    rw [others] at joined
    exact .inr ⟨other, rfl, (Option.some.inj joined).symm⟩

/-- The kinds of joined failures are those of all of them. -/
theorem kinds_of_join (joined : join failures = some failure) :
    failure.kinds = failures.flatMap kinds := by
  induction failures generalizing failure with
  | nil => cases joined
  | cons first rest ih =>
    rcases join_cons_cases joined with ⟨rfl, rfl⟩ | ⟨others, joinedRest, rfl⟩
    · simp
    · rw [kinds, ih joinedRest, List.flatMap_cons]

/-- The text of joined failures has the texts of all of them, each on lines of its own. -/
theorem message_of_join (joined : join failures = some failure) :
    failure.message = Bytes.join (utf8 "\n") (failures.map message) := by
  induction failures generalizing failure with
  | nil => cases joined
  | cons first rest ih =>
    rcases join_cons_cases joined with ⟨rfl, rfl⟩ | ⟨others, joinedRest, rfl⟩
    · rfl
    · cases rest with
      | nil => cases joinedRest
      | cons second rest =>
        rw [message, ih joinedRest]
        rfl

end Failure
end Blockwork
