import Blockwork.Program.Operation
import Blockwork.Proofs.Decoding
import Blockwork.Proofs.WellFormed

/-!
# Runs

A run is a sequence of operations on a store, each successful or failing. Whatever the operations
and the handles they are given, every context of the store has come from the empty one by the steps
of its own life. So each context is well-formed after every run, and what an operation answers with
is there.
-/

namespace Blockwork
namespace Store

variable {World : Type}

/-- The store after a run. -/
def run (store : Store) (world : World) : List (Operation World) → Store
  | [] => store
  | operation :: rest =>
    let (store, world, _) := store.perform world operation
    store.run world rest

/-- What an operation can do to a store. -/
inductive Moves : Store → Store → Prop
  /-- Everything stays as it is. -/
  | stay (store : Store) : Moves store store
  /-- A context that was constructed is added. -/
  | adopt {store : Store} {optimize : Bool} {context : Context}
      (made : (Context.new optimize).Builds context) : Moves store (store.push context).1
  /-- One context makes a step. -/
  | step {store : Store} {id : ContextId} {context context' : Context}
      (found : store.contexts[id]? = some context) (stepped : context.Step context') :
      Moves store (store.set id context')

theorem set_of_found {store : Store} {id : ContextId} {context : Context}
    (found : store.contexts[id]? = some context) : store.set id context = store := by
  obtain ⟨inside, rfl⟩ := Array.getElem?_eq_some_iff.mp found
  simp [set, Array.setIfInBounds, inside]

theorem contexts_set_self {store : Store} {id : ContextId} {context : Context}
    (found : store.contexts[id]? = some context) (changed : Context) :
    (store.set id changed).contexts[id]? = some changed := by
  have inside := (Array.getElem?_eq_some_iff.mp found).choose
  simp [set, inside]

theorem found_of_context? {store : Store} {handle : Option ContextId} {context : Context}
    (found : store.context? handle = some context) :
    ∃ id, handle = some id ∧ store.contexts[id]? = some context := by
  cases handle with
  | none => simp [context?] at found
  | some id => exact ⟨id, rfl, by simpa [context?] using found⟩

theorem moves_adopt (store : Store) {made : Except Failure Context}
    (constructed : ∀ context, made = .ok context →
      ∃ optimize, (Context.new optimize).Builds context) :
    store.Moves (store.adopt made).1 := by
  cases made with
  | error failure => exact .stay store
  | ok context =>
    obtain ⟨optimize, built⟩ := constructed context rfl
    exact .adopt built

/-! ## Changes of one context -/

section

variable {ε α : Type} {store : Store} {id : ContextId} {context : Context}
  {steps : Change ε Context α} {failure : ε → Failure} {handle : α → Handle}

theorem change_of_ok {context' : Context} {value : α}
    (done : steps.outcome context = .ok (context', value)) :
    store.change id context steps failure handle = (store.set id context', .ok (handle value)) := by
  rw [change]
  rw [Change.outcome] at done
  cases ran : steps.run context with
  | ok made written =>
    rw [ran] at done
    cases done
    rfl
  | error error left =>
    rw [ran] at done
    cases done

/-- What is written back after a failure is what was there, if the failure has left it alone. -/
theorem change_of_error (found : store.contexts[id]? = some context) (spares : steps.Spares)
    {error : ε} (failed : steps.outcome context = .error error) :
    store.change id context steps failure handle = (store, .error (failure error)) := by
  rw [change, spares.run_eq, failed]
  dsimp only
  rw [set_of_found found]

theorem answer_change :
    (store.change id context steps failure handle).2 =
      match steps.outcome context with
      | .ok (_, value) => .ok (handle value)
      | .error error => .error (failure error) := by
  rw [change, Change.outcome]
  cases steps.run context <;> rfl

theorem of_change_eq_ok {made : Handle}
    (done : (store.change id context steps failure handle).2 = .ok made) :
    ∃ context' value, steps.outcome context = .ok (context', value) ∧ made = handle value ∧
      (store.change id context steps failure handle).1 = store.set id context' := by
  rw [answer_change] at done
  cases outcome : steps.outcome context with
  | error error =>
    rw [outcome] at done
    cases done
  | ok changed =>
    obtain ⟨context', value⟩ := changed
    rw [outcome] at done
    cases done
    exact ⟨context', value, rfl, rfl, by rw [change_of_ok outcome]⟩

theorem moves_change (found : store.contexts[id]? = some context) (spares : steps.Spares)
    (builds : ∀ context' value, steps.outcome context = .ok (context', value) →
      context.Build context') :
    store.Moves (store.change id context steps failure handle).1 := by
  cases outcome : steps.outcome context with
  | error error =>
    rw [change_of_error found spares outcome]
    exact .stay store
  | ok changed =>
    rw [change_of_ok outcome]
    exact .step found (.build (builds _ _ outcome))

theorem moves_inBlock {steps : BlockRef → Construct α} {handle : BlockRef → α → Handle}
    (spares : ∀ ref, (steps ref).Spares)
    (builds : ∀ ref context context' value, (steps ref).outcome context = .ok (context', value) →
      context.Build context') (action : Bytes) (block : Option BlockRef) :
    store.Moves (store.inBlock action block steps handle).1 := by
  unfold inBlock
  split
  · exact .stay store
  · rename_i ref
    split
    · exact .stay store
    · rename_i context found
      exact moves_change found (spares ref) (builds ref context)

theorem of_inBlock_eq_ok {steps : BlockRef → Construct α} {handle : BlockRef → α → Handle}
    {action : Bytes} {block : Option BlockRef} {made : Handle}
    (done : (store.inBlock action block steps handle).2 = .ok made) :
    ∃ ref context context' value, block = some ref ∧
      store.contexts[ref.context]? = some context ∧
      (steps ref).outcome context = .ok (context', value) ∧ made = handle ref value ∧
      (store.inBlock action block steps handle).1 = store.set ref.context context' := by
  unfold inBlock at done ⊢
  split at done
  · cases done
  · rename_i ref
    split at done
    · cases done
    · rename_i context found
      obtain ⟨context', value, outcome, same, after⟩ := of_change_eq_ok done
      exact ⟨ref, context, context', value, rfl, found, outcome, same, after⟩

end

theorem moves_intern (store : Store) (handle : Option ContextId) (type : Descriptor) :
    store.Moves (store.intern handle type).1 := by
  unfold intern
  split
  · rename_i id context found
    obtain ⟨_, ⟨⟩, held⟩ := found_of_context? found
    exact moves_change held (Construct.spares_intern type) fun _ _ => Context.build_of_intern
  · exact .stay store

theorem moves_addFunction (store : Store) (handle : Option ContextId) (name : Bytes)
    (signature : Signature) : store.Moves (store.addFunction handle name signature).1 := by
  unfold addFunction
  split
  · rename_i id context found
    obtain ⟨_, ⟨⟩, held⟩ := found_of_context? found
    exact moves_change held (Construct.spares_addFunction name signature) fun _ _ =>
      Context.build_of_addFunction
  · exact .stay store

theorem moves_addBlock (store : Store) (handle : Option FunctionRef) :
    store.Moves (store.addBlock handle).1 := by
  unfold addBlock inFunction
  dsimp only
  split
  · exact .stay store
  · rename_i ref
    split
    · exact .stay store
    · rename_i found
      exact moves_change found (Construct.spares_addBlock ref.function) fun _ _ =>
        Context.build_of_addBlock

/-- The context is only asked for an argument. -/
theorem argument_store (store : Store) (handle : Option FunctionRef) (index : Int) :
    (store.argument handle index).1 = store := by
  unfold argument inFunction
  dsimp only
  split
  · rfl
  · rename_i ref
    split
    · rfl
    · rename_i context found
      have asked := Construct.outcome_argument context ref.function index
      cases got : context.argument ref.function index with
      | error error =>
        rw [got] at asked
        rw [change_of_error found (Construct.spares_argument ref.function index) asked]
      | ok value =>
        rw [got] at asked
        rw [change_of_ok asked, set_of_found found]

theorem moves_lower (store : Store) (handle : Option ContextId)
    (backend : Option (Backend World)) (world : World) :
    store.Moves (store.lower handle backend world).1 := by
  unfold lower
  split
  · rename_i id context found
    obtain ⟨_, ⟨⟩, held⟩ := found_of_context? found
    have same : store.Moves (store.set id context) := by
      rw [set_of_found held]
      exact .stay store
    have consume (building : context.phase = .building) :
        store.Moves (store.set id { context with phase := .consumed }) :=
      .step held (.consume building)
    unfold Context.lower
    cases usable : context.usable with
    | error fault => exact same
    | ok _ =>
      have building := Context.usable_eq_ok_iff.mp usable
      cases backend with
      | none => exact same
      | some run =>
        dsimp only
        split <;> exact consume building
  · exact .stay store

theorem moves_destroy (store : Store) (handle : Option ContextId) :
    store.Moves (store.destroy handle) := by
  unfold destroy
  split
  · rename_i id context found
    obtain ⟨_, ⟨⟩, held⟩ := found_of_context? found
    exact .step held (.destroy context)
  · exact .stay store

/-- Every operation, on whatever handles, leaves the store alone, adds a constructed context, or
lets one context make a step. -/
theorem moves_perform (store : Store) (world : World) (operation : Operation World) :
    store.Moves (store.perform world operation).1 := by
  cases operation with
  | newContext optimize =>
    have made : (Context.new optimize).Builds (Context.new optimize) := .refl
    exact .adopt made
  | parse file source optimize =>
    refine moves_adopt store fun context made => ⟨optimize, ?_⟩
    cases parsed : Context.parse file source optimize with
    | error error =>
      rw [parsed] at made
      cases made
    | ok result =>
      rw [parsed] at made
      cases made
      exact Context.builds_of_parse parsed
  | restore snapshot =>
    exact moves_adopt store fun context made => ⟨_, Snapshot.builds_of_restore made⟩
  | intern context type => exact moves_intern store context type
  | addFunction context name signature => exact moves_addFunction store context name signature
  | addBlock function => exact moves_addBlock store function
  | argument function index =>
    have same := argument_store store function index
    simp only [perform, same]
    exact .stay store
  | const block type literal =>
    exact moves_inBlock (fun _ => Construct.spares_const _ _ _)
      (fun _ _ _ _ => Context.build_of_buildConst) _ _
  | call block callee arguments =>
    exact moves_inBlock (fun _ => Construct.spares_call _ _ _)
      (fun _ _ _ _ => Context.build_of_buildCall) _ _
  | binary block kind left right =>
    exact moves_inBlock (fun _ => Construct.spares_binary _ _ _ _)
      (fun _ _ _ _ => Context.build_of_buildBinary) _ _
  | branch block target =>
    exact moves_inBlock (fun _ => Construct.spares_branch _ _)
      (fun _ _ _ _ ended => Context.build_of_buildBranch (Context.buildBranch_of_outcome ended)) _ _
  | result block value =>
    exact moves_inBlock (fun _ => Construct.spares_result _ _)
      (fun _ _ _ _ ended => Context.build_of_buildReturn (Context.buildReturn_of_outcome ended)) _ _
  | lower context backend => exact moves_lower store context backend world
  | destroy context => exact moves_destroy store context

/-! ## Every context of a run -/

theorem Moves.exists_reaches {store store' : Store} (moved : store.Moves store')
    {id : ContextId} {context : Context} (found : store.contexts[id]? = some context) :
    ∃ context', store'.contexts[id]? = some context' ∧ context.Reaches context' := by
  cases moved with
  | stay => exact ⟨context, found, .refl⟩
  | adopt made =>
    have inside := (Array.getElem?_eq_some_iff.mp found).choose
    refine ⟨context, ?_, .refl⟩
    simp only [push, Array.getElem?_push]
    rw [if_neg (Nat.ne_of_lt inside), found]
  | @step changedId _ changed held stepped =>
    by_cases here : changedId = id
    · subst here
      cases held.symm.trans found
      exact ⟨changed, contexts_set_self held changed, .single stepped⟩
    · refine ⟨context, ?_, .refl⟩
      simp [set, Array.getElem?_setIfInBounds_ne here, found]

/-- A context is still there after a run, and has gone on from where it was. -/
theorem exists_reaches_run (world : World) (operations : List (Operation World)) {store : Store}
    {id : ContextId} {context : Context} (found : store.contexts[id]? = some context) :
    ∃ context', (store.run world operations).contexts[id]? = some context' ∧
      context.Reaches context' := by
  induction operations generalizing store world context with
  | nil => exact ⟨context, found, .refl⟩
  | cons operation rest ih =>
    obtain ⟨middle, foundMiddle, early⟩ :=
      (store.moves_perform world operation).exists_reaches found
    obtain ⟨context', found', late⟩ := ih (store.perform world operation).2.1 foundMiddle
    exact ⟨context', found', early.trans late⟩

/-- Every context of the store has come from the empty one by the steps of its life. -/
def Lived (store : Store) : Prop :=
  ∀ context ∈ store.contexts, ∃ optimize, (Context.new optimize).Reaches context

theorem Lived.empty : ({} : Store).Lived := by
  intro context member
  simp at member

theorem Lived.moves {store store' : Store} (lived : store.Lived) (moved : store.Moves store') :
    store'.Lived := by
  cases moved with
  | stay => exact lived
  | adopt made =>
    intro context member
    rcases Array.mem_push.mp member with old | rfl
    · exact lived context old
    · exact ⟨_, made.reaches⟩
  | step found stepped =>
    intro context member
    rcases Array.mem_or_eq_of_mem_setIfInBounds member with old | rfl
    · exact lived context old
    · obtain ⟨optimize, reached⟩ := lived _ (Array.mem_of_getElem? found)
      exact ⟨optimize, reached.tail stepped⟩

theorem Lived.run {store : Store} (lived : store.Lived) (world : World)
    (operations : List (Operation World)) : (store.run world operations).Lived := by
  induction operations generalizing store world with
  | nil => exact lived
  | cons operation rest ih => exact ih (lived.moves (store.moves_perform world operation)) _

theorem Lived.wellFormed {store : Store} (lived : store.Lived) {context : Context}
    (member : context ∈ store.contexts) : context.WellFormed := by
  obtain ⟨optimize, reached⟩ := lived context member
  exact (Context.WellFormed.new optimize).reaches reached

/-- Every context is well-formed after every run. -/
theorem wellFormed_of_mem_run {world : World} {operations : List (Operation World)}
    {context : Context} (member : context ∈ (run {} world operations).contexts) :
    context.WellFormed :=
  (Lived.empty.run world operations).wellFormed member

/-! ## Successful operations -/

section

variable {store : Store} {made : Handle}

theorem of_intern_eq_ok {handle : Option ContextId} {type : Descriptor}
    (done : (store.intern handle type).2 = .ok made) :
    ∃ id context, handle = some id ∧ store.contexts[id]? = some context ∧ type.Valid ∧
      made = .type (context.types.insert type).2 ∧
      (store.intern handle type).1 =
        store.set id { context with types := (context.types.insert type).1 } := by
  unfold intern at done ⊢
  split at done
  · rename_i id context resolved
    obtain ⟨_, ⟨⟩, found⟩ := found_of_context? resolved
    obtain ⟨context', number, interned, rfl, after⟩ := of_change_eq_ok done
    obtain ⟨-, valid, same⟩ := Context.intern_eq_ok_iff.mp interned
    cases same
    exact ⟨id, context, rfl, found, valid, rfl, after⟩
  · cases done

theorem of_addFunction_eq_ok {handle : Option ContextId} {name : Bytes} {signature : Signature}
    (done : (store.addFunction handle name signature).2 = .ok made) :
    ∃ id context, handle = some id ∧ store.contexts[id]? = some context ∧
      made = .function ⟨id, context.functions.size⟩ ∧
      (store.addFunction handle name signature).1 = store.set id { context with
        functions := context.functions.push (.declare (Text.normalize name) signature)
        names := (Text.normalize name, context.functions.size) :: context.names } := by
  unfold addFunction at done ⊢
  split at done
  · rename_i id context resolved
    obtain ⟨_, ⟨⟩, found⟩ := found_of_context? resolved
    obtain ⟨context', number, added, rfl, after⟩ := of_change_eq_ok done
    obtain ⟨-, -, -, -, same⟩ := Context.addFunction_eq_ok_iff.mp added
    cases same
    exact ⟨id, context, rfl, found, rfl, after⟩
  · cases done

theorem of_addBlock_eq_ok {handle : Option FunctionRef}
    (done : (store.addBlock handle).2 = .ok made) :
    ∃ ref context function, handle = some ref ∧ store.contexts[ref.context]? = some context ∧
      context.functions.get? ref.function = some function ∧
      made = .block ⟨ref.context, ref.function, function.blocks.size⟩ ∧
      (store.addBlock handle).1 = store.set ref.context
        { context with functions := context.functions.modify ref.function Function.pushBlock } := by
  cases handle with
  | none => cases done
  | some ref =>
    unfold addBlock inFunction at done ⊢
    dsimp only at done ⊢
    split at done
    · cases done
    · rename_i context found
      obtain ⟨context', block, added, rfl, after⟩ := of_change_eq_ok done
      obtain ⟨function, held, -, same⟩ := Context.addBlock_eq_ok_iff.mp added
      cases same
      exact ⟨ref, context, function, rfl, found, held, rfl, after⟩

theorem of_addValue_eq_ok {action : Bytes} {handle : Option BlockRef}
    {add : BlockRef → Construct ValueId}
    (done : (store.addValue action handle add).2 = .ok made) :
    ∃ ref context context' id, handle = some ref ∧ store.contexts[ref.context]? = some context ∧
      (add ref).outcome context = .ok (context', id) ∧
      made = .value ⟨ref.context, ref.place.function, id⟩ ∧
      (store.addValue action handle add).1 = store.set ref.context context' :=
  of_inBlock_eq_ok done

theorem of_endBlock_eq_ok {action : Bytes} {handle : Option BlockRef}
    {finish : BlockRef → Construct Unit}
    (done : (store.endBlock action handle finish).2 = .ok made) :
    ∃ ref context context', handle = some ref ∧ store.contexts[ref.context]? = some context ∧
      (finish ref).outcome context = .ok (context', ()) ∧ made = .nothing ∧
      (store.endBlock action handle finish).1 = store.set ref.context context' := by
  obtain ⟨ref, context, context', ⟨⟩, same, found, ended, nothing, after⟩ := of_inBlock_eq_ok done
  exact ⟨ref, context, context', same, found, ended, nothing, after⟩

end

/-! ## What operations answer with -/

/-- Whether there is something behind what an operation answered with. -/
def Holds (store : Store) : Handle → Prop
  | .nothing => True
  | .context id => id < store.contexts.size
  | .type id => ∃ context ∈ store.contexts, (context.types.lookup? id).isSome
  | .function ref => (store.function? (some ref)).isSome
  | .block ref => (store.block? (some ref)).isSome
  | .value ref => (store.value? (some ref)).isSome

theorem holds_adopt (store : Store) (made : Except Failure Context) {handle : Handle}
    (done : (store.adopt made).2 = .ok handle) : (store.adopt made).1.Holds handle := by
  cases made with
  | error failure => cases done
  | ok context =>
    cases done
    simp [adopt, push, Holds]

theorem holds_intern {store : Store} (lived : store.Lived) {id : Option ContextId}
    {type : Descriptor} {handle : Handle} (done : (store.intern id type).2 = .ok handle) :
    (store.intern id type).1.Holds handle := by
  obtain ⟨id, context, rfl, found, valid, rfl, after⟩ := of_intern_eq_ok done
  have formed := lived.wellFormed (Array.mem_of_getElem? found)
  rw [after]
  refine ⟨_, Array.mem_of_getElem? (contexts_set_self found _), ?_⟩
  rw [formed.types.lookup?_insert valid]
  rfl

theorem holds_addFunction {store : Store} {id : Option ContextId} {name : Bytes}
    {signature : Signature} {handle : Handle}
    (done : (store.addFunction id name signature).2 = .ok handle) :
    (store.addFunction id name signature).1.Holds handle := by
  obtain ⟨id, context, rfl, found, rfl, after⟩ := of_addFunction_eq_ok done
  rw [after]
  simp [Holds, function?, contexts_set_self found, Arena.get?_push]

theorem holds_addBlock {store : Store} {ref : Option FunctionRef} {handle : Handle}
    (done : (store.addBlock ref).2 = .ok handle) : (store.addBlock ref).1.Holds handle := by
  obtain ⟨ref, context, function, rfl, found, held, rfl, after⟩ := of_addBlock_eq_ok done
  rw [after]
  simp [Holds, block?, Context.at?, contexts_set_self found, Arena.get?_modify, held,
    Function.pushBlock, Arena.get?_push]

theorem holds_argument {store : Store} (lived : store.Lived) {ref : Option FunctionRef}
    {index : Int} {handle : Handle} (done : (store.argument ref index).2 = .ok handle) :
    (store.argument ref index).1.Holds handle := by
  rw [argument_store]
  unfold argument inFunction at done
  dsimp only at done
  split at done
  · cases done
  · rename_i ref
    split at done
    · cases done
    · rename_i context held
      obtain ⟨context', value, asked, rfl, -⟩ := of_change_eq_ok done
      rw [Construct.outcome_argument] at asked
      cases got : context.argument ref.function index with
      | error error =>
        rw [got] at asked
        cases asked
      | ok position =>
        rw [got] at asked
        cases asked
        obtain ⟨function, found, -, atLeast, below, rfl⟩ := Context.argument_eq_ok_iff.mp got
        have formed := (lived.wellFormed (Array.mem_of_getElem? held)).functions _ _ found
        have inside : index.toNat < function.signature.inputs.length := by omega
        have parameter := formed.parameters index.toNat _ (List.getElem?_eq_getElem inside)
        simp [Holds, value?, held, found, parameter]

theorem holds_addValue {store : Store} {action : Bytes} {ref : Option BlockRef}
    {add : BlockRef → Construct ValueId} {handle : Handle}
    (appends : ∀ ref context added, (add ref).outcome context = .ok added →
      context.Appends ref.place added)
    (done : (store.addValue action ref add).2 = .ok handle) :
    (store.addValue action ref add).1.Holds handle := by
  obtain ⟨ref, context, context', id, rfl, found, added, rfl, after⟩ := of_addValue_eq_ok done
  obtain ⟨function, block, type, instruction, opened, same⟩ := appends _ _ _ added
  cases same
  rw [after]
  simp [Holds, value?, contexts_set_self found, Context.get?_replace, opened.function_eq,
    Function.get?_pushValue]

theorem holds_endBlock {store : Store} {action : Bytes} {ref : Option BlockRef}
    {finish : BlockRef → Construct Unit} {handle : Handle}
    (done : (store.endBlock action ref finish).2 = .ok handle) :
    (store.endBlock action ref finish).1.Holds handle := by
  obtain ⟨-, -, -, -, -, -, rfl, -⟩ := of_endBlock_eq_ok done
  trivial

/-- What a successful operation answers with is the position of something in the store. -/
theorem Lived.holds_perform {store : Store} (lived : store.Lived) (world : World)
    (operation : Operation World) {handle : Handle}
    (done : (store.perform world operation).2.2 = .ok handle) :
    (store.perform world operation).1.Holds handle := by
  cases operation with
  | newContext optimize =>
    cases done
    simp [perform, push, Holds]
  | parse file source optimize => exact holds_adopt store _ done
  | restore snapshot => exact holds_adopt store _ done
  | intern context type => exact holds_intern lived done
  | addFunction context name signature => exact holds_addFunction done
  | addBlock function => exact holds_addBlock done
  | argument function index => exact holds_argument lived done
  | const block type literal =>
    exact holds_addValue (fun _ _ _ built => Context.appends_of_buildConst built) done
  | call block callee arguments =>
    exact holds_addValue (fun _ _ _ built => Context.appends_of_buildCall built) done
  | binary block kind left right =>
    exact holds_addValue (fun _ _ _ built => Context.appends_of_buildBinary built) done
  | branch block target => exact holds_endBlock done
  | result block value => exact holds_endBlock done
  | lower context backend =>
    have nothing : handle = .nothing := by
      simp only [perform] at done
      cases outcome : (store.lower context backend world).2.2 <;> rw [outcome] at done <;>
        cases done
      rfl
    rw [nothing]
    trivial
  | destroy context =>
    cases done
    trivial

end Store
end Blockwork
