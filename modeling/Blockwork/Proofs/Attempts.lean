import Blockwork.Proofs.Order

/-!
# Attempts

An operation may be tried on any arguments, and most arguments make it fail. A failed attempt to
construct something leaves no trace: the store is the one from before, so every later operation
answers as if the attempt had not been made. A run may therefore drop its failed constructions.

Lowering is apart: a backend that fails has consumed the context all the same.
-/

namespace Blockwork

variable {World : Type}

/-- Whether an operation hands a context to a backend. -/
def Operation.isLowering : Operation World → Bool
  | .lower _ _ => true
  | _ => false

namespace Store

/-! ## One attempt -/

/-- An outcome that is either a success or leaves the store alone. -/
def Spared (store : Store) (outcome : Outcome) : Prop :=
  ∀ failure, outcome.2 = .error failure → outcome.1 = store

theorem spared_of_failed {store : Store} (failure : Failure) :
    store.Spared (store, .error failure) :=
  fun _ _ => rfl

theorem spared_of_done {store after : Store} (handle : Handle) :
    store.Spared (after, .ok handle) :=
  fun _ failed => nomatch failed

theorem spared_adopt (store : Store) (made : Except Failure Context) :
    store.Spared (store.adopt made) := by
  cases made with
  | error failure => exact spared_of_failed failure
  | ok context => exact spared_of_done _

/-- A change that writes nothing before it fails spares the store, although what it leaves of the
context is written back. -/
theorem spared_change {ε α : Type} {store : Store} {id : ContextId} {context : Context}
    (found : store.contexts[id]? = some context) {steps : Change ε Context α}
    (spares : steps.Spares) (failure : ε → Failure) (handle : α → Handle) :
    store.Spared (store.change id context steps failure handle) := by
  cases outcome : steps.outcome context with
  | error error =>
    rw [change_of_error found spares outcome]
    exact spared_of_failed _
  | ok changed =>
    rw [change_of_ok outcome]
    exact spared_of_done _

theorem spared_intern (store : Store) (handle : Option ContextId) (type : Descriptor) :
    store.Spared (store.intern handle type) := by
  unfold intern
  split
  · rename_i resolved
    obtain ⟨_, ⟨⟩, found⟩ := found_of_context? resolved
    exact spared_change found (Construct.spares_intern type) _ _
  · exact spared_of_failed _

theorem spared_addFunction (store : Store) (handle : Option ContextId) (name : Bytes)
    (signature : Signature) : store.Spared (store.addFunction handle name signature) := by
  unfold addFunction
  split
  · rename_i resolved
    obtain ⟨_, ⟨⟩, found⟩ := found_of_context? resolved
    exact spared_change found (Construct.spares_addFunction name signature) _ _
  · exact spared_of_failed _

theorem spared_inFunction {α : Type} (store : Store) (action : Bytes)
    (function : Option FunctionRef) {steps : FunctionRef → Construct α}
    (spares : ∀ ref, (steps ref).Spares) (handle : FunctionRef → α → Handle) :
    store.Spared (store.inFunction action function steps handle) := by
  unfold inFunction
  dsimp only
  split
  · exact spared_of_failed _
  · rename_i ref
    split
    · exact spared_of_failed _
    · exact spared_change ‹_› (spares ref) _ _

theorem spared_inBlock {α : Type} (store : Store) (action : Bytes) (block : Option BlockRef)
    {steps : BlockRef → Construct α} (spares : ∀ ref, (steps ref).Spares)
    (handle : BlockRef → α → Handle) :
    store.Spared (store.inBlock action block steps handle) := by
  unfold inBlock
  split
  · exact spared_of_failed _
  · rename_i ref
    split
    · exact spared_of_failed _
    · exact spared_change ‹_› (spares ref) _ _

/-- Only lowering can change the store, or the world, and fail. -/
theorem perform_of_failed {store : Store} {world : World} {operation : Operation World}
    {failure : Failure} (constructs : operation.isLowering = false)
    (failed : (store.perform world operation).2.2 = .error failure) :
    store.perform world operation = (store, world, .error failure) := by
  have settle {outcome : Outcome} (spared : store.Spared outcome)
      (fails : outcome.2 = .error failure) :
      (outcome.1, world, outcome.2) = (store, world, .error failure) := by
    rw [spared failure fails, fails]
  cases operation with
  | newContext optimize => cases failed
  | parse file source optimize => exact settle (store.spared_adopt _) failed
  | restore snapshot => exact settle (store.spared_adopt _) failed
  | intern context type => exact settle (store.spared_intern context type) failed
  | addFunction context name signature =>
    exact settle (store.spared_addFunction context name signature) failed
  | addBlock function =>
    exact settle (store.spared_inFunction _ _ (fun _ => Construct.spares_addBlock _) _) failed
  | argument function index =>
    exact settle (store.spared_inFunction _ _ (fun _ => Construct.spares_argument _ _) _) failed
  | const block type literal =>
    exact settle (store.spared_inBlock _ _ (fun _ => Construct.spares_const _ _ _) _) failed
  | call block callee arguments =>
    exact settle (store.spared_inBlock _ _ (fun _ => Construct.spares_call _ _ _) _) failed
  | binary block kind left right =>
    exact settle (store.spared_inBlock _ _ (fun _ => Construct.spares_binary _ _ _ _) _) failed
  | branch block target =>
    exact settle (store.spared_inBlock _ _ (fun _ => Construct.spares_branch _ _) _) failed
  | result block value =>
    exact settle (store.spared_inBlock _ _ (fun _ => Construct.spares_result _ _) _) failed
  | lower context backend => cases constructs
  | destroy context => cases failed

/-! ## The attempts of a run -/

/-- The operations of a run, each with its answer. -/
def log (store : Store) (world : World) :
    List (Operation World) → List (Operation World × Except Failure Handle)
  | [] => []
  | operation :: rest =>
    let (store, world, answer) := store.perform world operation
    (operation, answer) :: store.log world rest

/-- Whether an operation of a run has to be kept: all but the failed constructions. -/
def counts (entry : Operation World × Except Failure Handle) : Bool :=
  entry.1.isLowering || entry.2.isOk

/-- The operations of a run without the failed constructions. -/
def effective (store : Store) (world : World) (operations : List (Operation World)) :
    List (Operation World) :=
  ((store.log world operations).filter counts).map Prod.fst

theorem not_counts_iff {entry : Operation World × Except Failure Handle} :
    counts entry = false ↔
      entry.1.isLowering = false ∧ ∃ failure, entry.2 = .error failure := by
  obtain ⟨operation, answer⟩ := entry
  cases answer <;> simp [counts, Except.isOk, Except.toBool]

/-- A run and the same run without its failed constructions lead to the same store, and what is
left of the run gets the answers that it got. -/
theorem run_effective (store : Store) (world : World) (operations : List (Operation World)) :
    store.run world (store.effective world operations) = store.run world operations ∧
      store.log world (store.effective world operations) =
        (store.log world operations).filter counts := by
  induction operations generalizing store world with
  | nil => exact ⟨rfl, rfl⟩
  | cons operation rest ih =>
    obtain ⟨sameRun, sameLog⟩ :=
      ih (store.perform world operation).1 (store.perform world operation).2.1
    unfold effective at sameRun sameLog ⊢
    cases kept : counts (operation, (store.perform world operation).2.2) with
    | true => simp only [log, run, List.filter_cons_of_pos kept, List.map_cons, sameRun, sameLog,
        and_self]
    | false =>
      obtain ⟨constructs, failure, failed⟩ := not_counts_iff.mp kept
      have same := perform_of_failed constructs failed
      have dropped : ¬ counts (operation, (store.perform world operation).2.2) = true := by
        simp [kept]
      simp only [log, run, List.filter_cons_of_neg dropped]
      rw [same] at sameRun sameLog ⊢
      exact ⟨sameRun, sameLog⟩

/-- In every state that a run has led to, a construction that fails changes nothing at all, and
whatever is tried after it ends in the same store with the same answers as without it. -/
theorem run_spared_of_failed (world next : World) (operations : List (Operation World))
    (operation : Operation World) (failure : Failure)
    (constructs : operation.isLowering = false)
    (failed : ((run {} world operations).perform next operation).2.2 = .error failure) :
    (run {} world operations).perform next operation =
        (run {} world operations, next, .error failure) ∧
      ∀ later : List (Operation World),
        (run {} world operations).run next (operation :: later) =
          (run {} world operations).run next later ∧
        (run {} world operations).log next (operation :: later) =
          (operation, .error failure) :: (run {} world operations).log next later := by
  have same := perform_of_failed constructs failed
  refine ⟨same, fun later => ?_⟩
  simp only [run, log, same, and_self]

/-- A run that declares a function of two integers and, in a block of another function, an integer
and a truth value. -/
def pairRun : List (Operation Unit) := [
  .newContext false,
  .addFunction (some 0) (utf8 "pair") ⟨[5, 5], 5⟩,
  .addFunction (some 0) (utf8 "main") ⟨[], 5⟩,
  .addBlock (some ⟨0, 1⟩),
  .const (some ⟨0, 1, 0⟩) 5 7,
  .const (some ⟨0, 1, 0⟩) 1 1]

/-- A call whose first argument suits and whose second does not. -/
def wrongCall : Operation Unit :=
  .call (some ⟨0, 1, 0⟩) (some ⟨0, 0⟩) [some ⟨0, 1, 0⟩, some ⟨0, 1, 1⟩]

/-- The wrong call leaves everything as it was: the next constant is the third value. -/
theorem run_spared_of_wrongCall :
    ∃ failure, failure.hasKind .typeMismatch = true ∧
      (run {} () pairRun).perform () wrongCall = (run {} () pairRun, (), .error failure) ∧
      ((run {} () pairRun).log () [wrongCall, .const (some ⟨0, 1, 0⟩) 5 9]).map Prod.snd =
        [.error failure, .ok (.value ⟨0, 1, 2⟩)] := by
  have fails : (match ((run {} () pairRun).perform () wrongCall).2.2 with
      | .error failure => failure.hasKind .typeMismatch
      | .ok _ => false) = true := by
    decide +kernel
  split at fails
  case h_2 => cases fails
  case h_1 failure failed =>
    have next : ((run {} () pairRun).log () [.const (some ⟨0, 1, 0⟩) 5 9]).map Prod.snd =
        [.ok (.value ⟨0, 1, 2⟩)] := by
      decide +kernel
    obtain ⟨same, later⟩ := run_spared_of_failed () () pairRun wrongCall failure rfl failed
    refine ⟨failure, fails, same, ?_⟩
    rw [(later _).2, List.map_cons, next]

end Store
end Blockwork
