import Blockwork.Program.Access
import Blockwork.Proofs.Failures
import Blockwork.Proofs.Growth
import Blockwork.Proofs.Handover
import Blockwork.Snapshot.Take

/-!
# The life of a context

A context is under construction, then perhaps consumed, then perhaps destroyed, and never goes back.
This file says what holds at every stage: what can be read, what is refused, and what is left behind
the handles once the context is gone.
-/

namespace Blockwork

variable {World : Type}

namespace Context

/-! ## What can be read -/

/-- What is seen of a context at two moments of a run. -/
structure Succeeds (before after : Context) : Prop where
  /-- Construction does not start again. -/
  forward : after.phase = .building → before.phase = .building
  /-- What is destroyed stays so. -/
  gone : before.phase = .destroyed → after.phase = .destroyed
  /-- A context that is consumed stays so, with the same text, the same snapshot and the same
  parts missing, unless it is destroyed. -/
  frozen : before.phase = .consumed → after.phase ≠ .destroyed →
    after.phase = .consumed ∧ after.dump = before.dump ∧ after.take = before.take ∧
      after.validate = before.validate

theorem Ages.succeeds {before after : Context} (aged : before.Ages after) :
    before.Succeeds after where
  forward building := by
    by_contra closed
    exact aged.closed closed building
  gone destroyed := by rw [aged.destroyed destroyed, destroyed]
  frozen consumed alive := by
    rcases aged.consumed consumed with rfl | rfl
    · exact ⟨consumed, rfl, rfl, rfl⟩
    · exact absurd rfl alive

/-- When a context can be read. -/
structure Legible (context : Context) : Prop where
  /-- There is a text unless the context is destroyed. -/
  text : (∃ text, context.dump = .ok text) ↔ context.phase ≠ .destroyed
  /-- The text is refused, as that of a closed context, exactly if the context is destroyed. -/
  dump : (∃ fault, context.dump = .error fault ∧ fault.kind = .contextClosed) ↔
    context.phase = .destroyed
  /-- So is the text of each function. -/
  part : ∀ function, (∃ fault, context.dumpFunction function = .error fault ∧
    fault.kind = .contextClosed) ↔ context.phase = .destroyed
  /-- The search for what is missing is refused in this way exactly if the context is destroyed. -/
  validate : (∃ failure, context.validate = .error failure ∧
    failure.hasKind .contextClosed = true) ↔ context.phase = .destroyed

theorem kinds_of_mem_failures {context : Context} {failure : Failure}
    (member : failure ∈ context.failures) {kind : FailureKind} (inside : kind ∈ failure.kinds) :
    kind = .emptyFunction ∨ kind = .unterminatedBlock := by
  obtain ⟨function, -, found⟩ := List.mem_filterMap.mp member
  obtain ⟨joined, same, rfl⟩ := Option.map_eq_some_iff.mp found
  rw [Failure.kinds, Failure.kinds_of_join same, List.mem_flatMap] at inside
  obtain ⟨part, listed, inside⟩ := inside
  obtain ⟨gap, -, rfl⟩ := List.mem_map.mp listed
  cases gap with
  | noBlocks => exact .inl (List.mem_singleton.mp inside)
  | openBlock block => exact .inr (List.mem_singleton.mp inside)

theorem legible (context : Context) : context.Legible := by
  by_cases gone : context.phase = .destroyed
  · have readable : context.readable = .error (closedFault "destroyed") := by
      rw [readable, gone]
    have dumped : context.dump = .error (closedFault "destroyed") := by
      rw [dump, readable]
      rfl
    have part (function : Function) :
        context.dumpFunction function = .error (closedFault "destroyed") := by
      rw [dumpFunction, readable]
      rfl
    have validated : context.validate = .error (.fault (closedFault "destroyed")) := by
      rw [validate, readable]
    refine ⟨by simp [gone, dumped], by simp [gone, dumped, closedFault], fun function => ?_, ?_⟩
    · simp [gone, part, closedFault]
    · simp [gone, validated, closedFault, Failure.hasKind, Failure.kinds]
  · have readable := readable_eq_ok_iff.mpr gone
    have dumped : context.dump = .ok (Listing.text (Listing.context context)) := by
      rw [dump, readable]
      rfl
    have part (function : Function) :
        context.dumpFunction function = .ok (Listing.text (Listing.function context function)) := by
      rw [dumpFunction, readable]
      rfl
    refine ⟨by simp [gone, dumped], by simp [gone, dumped], by simp [gone, part], ?_⟩
    simp only [gone, iff_false, not_exists, not_and]
    intro failure failed closed
    rw [validate, readable, Failure.toExcept] at failed
    cases joined : Failure.join context.failures with
    | none =>
      rw [joined] at failed
      cases failed
    | some missing =>
      rw [joined] at failed
      obtain rfl := Except.error.inj failed
      have inside : FailureKind.contextClosed ∈ missing.kinds := by
        simpa [Failure.hasKind] using closed
      rw [Failure.kinds_of_join joined, List.mem_flatMap] at inside
      obtain ⟨part, member, inside⟩ := inside
      rcases kinds_of_mem_failures member inside with other | other <;> cases other

end Context

namespace Store

/-! ## What is left behind handles -/

/-- Reading through the handles of a context that is destroyed: nothing crashes, and whatever is
referred to is gone. -/
structure Bereft (store : Store) (id : ContextId) : Prop where
  /-- No function is found by its number. -/
  functions : ∀ number, store.functionById (some id) number = none
  /-- No function is found by its name. -/
  names : ∀ name, store.functionByName (some id) name = none
  /-- A block belongs to no function, lists as many values as before, all of them gone, and leads
  nowhere. -/
  blocks : ∀ ref block, ref.context = id → store.block? (some ref) = some block →
    store.blockFunction (some ref) = .ok none ∧
      store.blockValues (some ref) = .ok (List.replicate block.values.size none) ∧
      store.blockTarget (some ref) = .ok none ∧ store.blockResult (some ref) = .ok none
  /-- A value belongs to no function and to no block, calls nothing, passes as many arguments as
  before, all of them gone, and has no operands. -/
  values : ∀ ref value, ref.context = id → store.value? (some ref) = some value →
    store.valueFunction (some ref) = .ok none ∧ store.valueBlock (some ref) = .ok none ∧
      store.valueCallee (some ref) = .ok none ∧
      store.valueArguments (some ref) =
        .ok (value.arguments?.map fun ids => List.replicate ids.length none) ∧
      store.valueSides (some ref) = .ok (none, none)

theorem bereft_of_destroyed {store : Store} {id : ContextId} {context : Context}
    (found : store.contexts[id]? = some context) (gone : context.phase = .destroyed) :
    store.Bereft id := by
  have function (number : Int) : store.functionById (some id) number = none := by
    simp [functionById, found, Context.function?, gone]
  have block (number : Int) : store.blockById none number = none := rfl
  have value (number : Int) : store.valueById none number = none := rfl
  refine ⟨function, ?_, ?_, ?_⟩
  · intro name
    simp [functionByName, found, Context.functionNamed?, gone]
  · rintro ref content rfl held
    have read : store.readBlock (some ref) = .ok (ref, content) := by
      simp only [readBlock, held]
    refine ⟨?_, ?_, ?_, ?_⟩
    · simp [blockFunction, read, function]
    · simp [blockValues, read, function, value, List.map_const']
    · simp [blockTarget, read, function, block]
    · simp [blockResult, read, function, value]
  · rintro ref content rfl held
    have read : store.readValue (some ref) = .ok (ref, content) := by
      simp only [readValue, held]
    refine ⟨?_, ?_, ?_, ?_, ?_⟩
    · simp [valueFunction, read, function]
    · simp [valueBlock, read, function, block]
    · simp [valueCallee, read, function]
    · simp [valueArguments, read, function, value, List.map_const']
    · simp [valueSides, read, function, value]

theorem destroy_of_found {store : Store} {id : ContextId} {context : Context}
    (found : store.contexts[id]? = some context) :
    store.destroy (some id) = store.set id context.destroy := by
  have resolved : store.context? (some id) = some context := found
  simp only [destroy, resolved]

/-- Destroying a context again changes nothing. -/
theorem destroy_destroy (store : Store) (handle : Option ContextId) :
    (store.destroy handle).destroy handle = store.destroy handle := by
  cases found : store.context? handle with
  | none => simp [destroy, found]
  | some context =>
    obtain ⟨id, rfl, held⟩ := found_of_context? found
    have gone := contexts_set_self held context.destroy
    rw [destroy_of_found held, destroy_of_found gone]
    exact set_of_found gone

/-- What is behind a handle stays there. -/
theorem holds_of_grows {store store' : Store} (grown : store.Grows store') {handle : Handle}
    (held : store.Holds handle) : store'.Holds handle := by
  have size : store.contexts.size ≤ store'.contexts.size := by
    by_contra! fewer
    obtain ⟨context, found, -⟩ := grown _ _ (Array.getElem?_eq_getElem fewer)
    exact Nat.lt_irrefl _ (Array.getElem?_eq_some_iff.mp found).choose
  cases handle with
  | nothing => trivial
  | context id => exact Nat.lt_of_lt_of_le held size
  | type id =>
    obtain ⟨context, member, known⟩ := held
    obtain ⟨position, found⟩ := Array.mem_iff_getElem?.mp member
    obtain ⟨context', found', larger⟩ := grown position context found
    exact ⟨context', Array.mem_of_getElem? found', larger.types.isSome known⟩
  | function ref =>
    obtain ⟨function, resolved⟩ := Option.isSome_iff_exists.mp held
    simp only [function?, Option.bind_eq_bind, Option.bind_some,
      Option.bind_eq_some_iff] at resolved
    obtain ⟨context, found, held⟩ := resolved
    obtain ⟨context', found', larger⟩ := grown _ _ found
    obtain ⟨function', held', -⟩ := larger.functions _ _ held
    simp [Holds, function?, found', held']
  | block ref =>
    obtain ⟨block, resolved⟩ := Option.isSome_iff_exists.mp held
    simp only [block?, Context.at?, Option.bind_eq_bind, Option.bind_some,
      Option.bind_eq_some_iff] at resolved
    obtain ⟨context, found, content, ⟨function, held, block, inside, -⟩, -⟩ := resolved
    obtain ⟨context', found', larger⟩ := grown _ _ found
    obtain ⟨function', held', grownFunction⟩ := larger.functions _ _ held
    obtain ⟨block', inside', -⟩ := grownFunction.blocks _ _ inside
    simp [Holds, block?, Context.at?, found', held', inside']
  | value ref =>
    obtain ⟨value, resolved⟩ := Option.isSome_iff_exists.mp held
    simp only [value?, Option.bind_eq_bind, Option.bind_some, Option.bind_eq_some_iff] at resolved
    obtain ⟨context, found, function, held, inside⟩ := resolved
    obtain ⟨context', found', larger⟩ := grown _ _ found
    obtain ⟨function', held', grownFunction⟩ := larger.functions _ _ held
    simp [Holds, value?, found', held', grownFunction.values _ _ inside]

/-! ## Runs -/

/-- In every state that a run has led to: contexts only go forward, whatever comes next, and a
consumed one is frozen until it is destroyed; each context was given to a backend at most once, and
then nothing was missing from it; what an operation answers with leads to something, and goes on to
do so, but no operation on a closed context gets through, by whatever handle of it; texts and
verdicts are refused exactly for destroyed contexts; and destroying a context again changes nothing,
while no reading through a handle that it leaves behind crashes. -/
theorem run_lifecycle (world : World) (operations : List (Operation World)) :
    let store := run {} world operations
    (∀ (next : World) (later : List (Operation World)) (id : ContextId) (context : Context),
      store.contexts[id]? = some context →
      ∃ context', (store.run next later).contexts[id]? = some context' ∧
        context.Succeeds context') ∧
    (∃ notes : Notes,
      runWith {} (world, []) (operations.map Operation.noting) =
        (store, (runWith {} world operations).2, notes) ∧
      (notes.map Prod.fst).Nodup ∧ ∀ call ∈ notes, GivenIn {} world operations call) ∧
    (∀ (next : World) (operation : Operation World) (made : Handle),
      (store.perform next operation).2.2 = .ok made →
        (store.perform next operation).1.Holds made) ∧
    (∀ (next : World) (later : List (Operation World)) (handle : Handle),
      store.Holds handle → (store.run next later).Holds handle) ∧
    (∀ (id : ContextId) (context : Context), store.contexts[id]? = some context →
      context.phase ≠ .building →
      ∀ (next : World) (operation : Operation World) (receiver : Handle),
        operation.receiver? = some receiver → receiver.home? = some id →
        store.Holds receiver → store.Rejects next operation) ∧
    (∀ context ∈ store.contexts, context.Legible) ∧
    (∀ handle, (store.destroy handle).destroy handle = store.destroy handle) ∧
    ∀ (id : ContextId) (context : Context), store.contexts[id]? = some context →
      context.phase = .destroyed → store.Bereft id := by
  intro store
  have lived : store.Lived := Lived.empty.run world operations
  refine ⟨?_, ?_, ?_, ?_, ?_, fun context _ => context.legible, store.destroy_destroy, ?_⟩
  · intro next later id context found
    obtain ⟨context', found', reached⟩ := exists_reaches_run next later found
    exact ⟨context', found', reached.ages.succeeds⟩
  · obtain ⟨handed, same, distinct, -, given⟩ := exists_notes_runWith {} world [] operations
    rw [runWith_fst] at same
    exact ⟨handed, same, distinct, given⟩
  · exact fun next operation made done => lived.holds_perform next operation done
  · exact fun next later handle held => holds_of_grows (store.grows_run next later) held
  · intro id context found closed next operation receiver applied home held
    exact rejects_of_closed found closed applied home held next
  · exact fun id context found gone => bereft_of_destroyed found gone

/-- A run that lowers the context of `sumRun`. -/
def loweringRun : List (Operation Unit) :=
  sumRun ++ [.lower (some 0) (some fun _ => pure (.ok ()))]

/-- A run that lowers the context of `sumRun`, tries to lower it again, and destroys it. -/
def destroyingRun : List (Operation Unit) :=
  loweringRun ++ [.lower (some 0) (some fun _ => pure (.ok ())), .destroy (some 0)]

theorem run_lifecycle_destroyingRun :
    (run {} () loweringRun).Rejects () (.const (some ⟨0, 0, 0⟩) 5 7) ∧
    (∃ call, (runWith {} ((), []) (destroyingRun.map Operation.noting)).2.2 = [call] ∧
      GivenIn {} () destroyingRun call) ∧
    (run {} () destroyingRun).blockValues (some ⟨0, 0, 0⟩) = .ok [none] ∧
    (run {} () destroyingRun).valueSides (some ⟨0, 0, 2⟩) = .ok (none, none) := by
  have consumed : (run {} () loweringRun).contexts[0]?.map Context.phase = some .consumed := by
    decide
  have gone : (run {} () destroyingRun).contexts[0]?.map Context.phase = some .destroyed := by
    decide
  obtain ⟨context, found, stage⟩ := Option.map_eq_some_iff.mp consumed
  obtain ⟨context', found', stage'⟩ := Option.map_eq_some_iff.mp gone
  obtain ⟨-, -, -, -, refuses, -⟩ := run_lifecycle () loweringRun
  obtain ⟨-, ⟨notes, same, -, given⟩, -, -, -, -, -, bereft⟩ := run_lifecycle () destroyingRun
  refine ⟨?_, ?_, ?_, ?_⟩
  · refine refuses 0 context found (by simp [stage]) () _ (.block ⟨0, 0, 0⟩) rfl rfl ?_
    change (block? _ (some ⟨0, 0, 0⟩)).isSome = true
    decide
  · have once : (runWith {} ((), []) (destroyingRun.map Operation.noting)).2.2.length = 1 := by
      decide
    rw [same] at once ⊢
    obtain ⟨call, rfl⟩ := List.length_eq_one_iff.mp once
    exact ⟨call, rfl, given call List.mem_cons_self⟩
  · have block : (block? (run {} () destroyingRun) (some ⟨0, 0, 0⟩)).map
        (fun block => block.values.size) = some 1 := by
      decide
    obtain ⟨block, held, size⟩ := Option.map_eq_some_iff.mp block
    obtain ⟨-, values, -⟩ := (bereft 0 context' found' stage').blocks _ block rfl held
    rw [values, size]
    rfl
  · have value : (value? (run {} () destroyingRun) (some ⟨0, 0, 2⟩)).isSome = true := by decide
    obtain ⟨value, held⟩ := Option.isSome_iff_exists.mp value
    exact ((bereft 0 context' found' stage').values _ value rfl held).2.2.2.2

end Store
end Blockwork
