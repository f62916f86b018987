import Blockwork.Storage.Change
import Mathlib.Tactic.Common

/-!
# Changes that fail

A failure takes nothing back, so a change leaves the state alone when it fails only if it asks all
it has to ask before it writes. Of such a change it is enough to know what it makes of a state when
it succeeds.
-/

namespace Blockwork

theorem bind_eq_ok_iff {ε α β : Type} {first : Except ε α} {next : α → Except ε β} {result : β} :
    (first >>= next) = .ok result ↔ ∃ value, first = .ok value ∧ next value = .ok result := by
  cases first <;> simp [bind, Except.bind]

theorem ok_bind {ε α β : Type} (value : α) (next : α → Except ε β) :
    (Except.ok value >>= next) = next value := rfl

theorem of_ite_eq_ok {ε α : Type} {condition : Prop} [Decidable condition] {outcome : Except ε α}
    {error : ε} {result : α}
    (accepted : (if condition then outcome else .error error) = .ok result) :
    condition ∧ outcome = .ok result := by
  split at accepted
  · exact ⟨‹_›, accepted⟩
  · cases accepted

theorem of_ite_error_eq_ok {ε α : Type} {condition : Prop} [Decidable condition]
    {outcome : Except ε α} {error : ε} {result : α}
    (accepted : (if condition then .error error else outcome) = .ok result) :
    ¬ condition ∧ outcome = .ok result := by
  split at accepted
  · cases accepted
  · exact ⟨‹_›, accepted⟩

namespace Change

variable {ε ρ σ α β : Type}

/-! ## What a change makes of a state -/

section

variable {state : σ}

theorem outcome_pure (value : α) : (pure value : Change ε σ α).outcome state = .ok (state, value) :=
  rfl

theorem outcome_get_bind (next : σ → Change ε σ α) :
    (get >>= next).outcome state = (next state).outcome state := rfl

theorem outcome_modify (write : σ → σ) :
    (modify write : Change ε σ Unit).outcome state = .ok (write state, ()) := rfl

theorem outcome_modify_bind (write : σ → σ) (next : PUnit → Change ε σ α) :
    (modify write >>= next).outcome state = (next ⟨⟩).outcome (write state) := rfl

theorem outcome_ask (question : σ → Except ε α) :
    (ask question).outcome state = (question state).map (state, ·) := by
  rw [outcome, EStateM.run, ask]
  cases question state <;> rfl

theorem outcome_ask_bind (question : σ → Except ε α) (next : α → Change ε σ β) :
    (ask question >>= next).outcome state =
      question state >>= fun answer => (next answer).outcome state := by
  change Change.outcome (EStateM.bind _ _) _ = _
  rw [outcome, EStateM.run, EStateM.bind, ask]
  cases question state <;> rfl

/-- Writes one after the other. -/
theorem outcome_forM_modify_bind (items : List β) (write : β → σ → σ)
    (next : PUnit → Change ε σ α) :
    ((items.forM fun item => modify (write item)) >>= next).outcome state =
      (next ⟨⟩).outcome (items.foldl (fun state item => write item state) state) := by
  induction items generalizing state with
  | nil => rfl
  | cons item rest ih =>
    rw [List.forM, bind_assoc, outcome_modify_bind, ih, List.foldl_cons]

theorem outcome_within (part : σ → ρ) (put : σ → ρ → σ) (change : Change ε ρ α) :
    (within part put change).outcome state =
      (change.outcome (part state)).map fun made => (put state made.1, made.2) := by
  rw [outcome, outcome, EStateM.run, within]
  cases change.run (part state) <;> rfl

end

/-! ## Failures that leave the state alone -/

/-- A change that does not fail. -/
def Sure (change : Change ε σ α) : Prop :=
  ∀ state, ∃ value written, change.run state = .ok value written

/-- A change that leaves the state alone if it fails. -/
def Spares (change : Change ε σ α) : Prop :=
  ∀ state error left, change.run state = .error error left → left = state

namespace Sure

theorem pure (value : α) : Sure (pure value : Change ε σ α) :=
  fun state => ⟨value, state, rfl⟩

theorem modify (write : σ → σ) : Sure (modify write : Change ε σ Unit) :=
  fun state => ⟨(), write state, rfl⟩

theorem bind {change : Change ε σ α} {next : α → Change ε σ β} (first : change.Sure)
    (second : ∀ value, (next value).Sure) : Sure (change >>= next) := by
  intro state
  obtain ⟨value, middle, made⟩ := first state
  obtain ⟨result, written, done⟩ := second value middle
  refine ⟨result, written, ?_⟩
  change EStateM.bind change next state = _
  have made : change state = .ok value middle := made
  rw [EStateM.bind, made]
  exact done

theorem get_bind {next : σ → Change ε σ β} (second : ∀ state, (next state).Sure) :
    Sure (get >>= next) :=
  fun state => second state state

theorem forM {items : List α} {each : α → Change ε σ PUnit} (sure : ∀ item, (each item).Sure) :
    Sure (items.forM each) := by
  induction items with
  | nil => exact .pure PUnit.unit
  | cons item rest ih => exact (sure item).bind fun _ => ih

/-- What does not fail has nothing to leave alone. -/
theorem spares {change : Change ε σ α} (sure : change.Sure) : change.Spares := by
  intro state error left failed
  obtain ⟨value, written, done⟩ := sure state
  cases done.symm.trans failed

end Sure

namespace Spares

theorem ask (question : σ → Except ε α) : (ask question).Spares := by
  intro state error left failed
  rw [EStateM.run, Change.ask] at failed
  split at failed <;> cases failed
  rfl

/-- What is asked first is asked of the state that was there before. -/
theorem ask_bind {question : σ → Except ε α} {next : α → Change ε σ β}
    (rest : ∀ answer, (next answer).Spares) : Spares (Change.ask question >>= next) := by
  intro state error left failed
  change EStateM.bind (Change.ask question) next state = _ at failed
  rw [EStateM.bind, Change.ask] at failed
  cases asked : question state with
  | error refusal =>
    rw [asked] at failed
    cases failed
    rfl
  | ok answer =>
    rw [asked] at failed
    exact rest answer state error left failed

theorem get_bind {next : σ → Change ε σ α} (rest : ∀ state, (next state).Spares) :
    Spares (get >>= next) :=
  fun state error left failed => rest state state error left failed

theorem within {part : σ → ρ} {put : σ → ρ → σ} {change : Change ε ρ α} (spares : change.Spares)
    (same : ∀ state, put state (part state) = state) : (within part put change).Spares := by
  intro state error left failed
  rw [EStateM.run, Change.within] at failed
  split at failed
  case h_1 => cases failed
  case h_2 refusal changed refused =>
    cases failed
    rw [spares _ _ _ refused, same]

/-- A change that leaves the state alone if it fails is known by what it makes of it. -/
theorem run_eq {change : Change ε σ α} (spares : change.Spares) (state : σ) :
    change.run state =
      match change.outcome state with
      | .ok (written, value) => .ok value written
      | .error error => .error error state := by
  cases ran : change.run state with
  | ok value written => rw [outcome, ran]
  | error error left => rw [outcome, ran, spares state error left ran]

end Spares
end Change
end Blockwork
