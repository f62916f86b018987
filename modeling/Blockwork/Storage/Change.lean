/-!
# Changes

What is done to a state in place, step by step. A step reads the state, writes it, or fails, and a
failure takes nothing back: what has been written before stays written.
-/

namespace Blockwork

/-- Steps on a state, which is left as they have written it whether they succeed or fail. -/
abbrev Change (ε σ α : Type) := EStateM ε σ α

namespace Change

variable {ε ρ σ α : Type}

/-- Asks something of the state, which may be a reason to fail. -/
def ask (question : σ → Except ε α) : Change ε σ α := fun state =>
  match question state with
  | .ok answer => .ok answer state
  | .error error => .error error state

/-- The steps of a change on a part of the state. -/
def within (part : σ → ρ) (put : σ → ρ → σ) (change : Change ε ρ α) : Change ε σ α := fun state =>
  match change.run (part state) with
  | .ok value changed => .ok value (put state changed)
  | .error error changed => .error error (put state changed)

/-- What a change makes of a state if it succeeds. The state that a failure leaves is forgotten. -/
def outcome (change : Change ε σ α) (state : σ) : Except ε (σ × α) :=
  match change.run state with
  | .ok value changed => .ok (changed, value)
  | .error error _ => .error error

end Change
end Blockwork
