import Blockwork.Proofs.Closing
import Blockwork.Proofs.Growth

/-!
# Isolation

Numbers are small and coincide across functions and contexts, so what keeps functions apart is that
every operation looks where its handles belong. An operation that succeeds changes one thing in one
place: a value and the block that lists it, the end of a block, the blocks of a function, the
functions of a context, the types of a context. Everything else is the same afterwards, and what the
operation was given to build with belongs to the function that it builds in.
-/

namespace Blockwork

variable {World : Type}

/-! ## Changes in one place -/

/-- Two look-ups find the same except under one key, where what is found has changed. -/
structure ChangesAt {α : Type} (key : Nat) (change : α → α → Prop) (before after : Nat → Option α) :
    Prop where
  /-- Under the key there is something, and it has changed. -/
  here : ∃ entry entry', before key = some entry ∧ after key = some entry' ∧ change entry entry'
  /-- Under every other key there is the same, or still nothing. -/
  elsewhere : ∀ other, other ≠ key → after other = before other

/-- What holds of an entry and of whatever it may change to holds of what is found later. -/
theorem ChangesAt.exists_of {α : Type} {key : Nat} {change : α → α → Prop}
    {before after : Nat → Option α} (changed : ChangesAt key change before after) {other : Nat}
    {entry : α} (found : before other = some entry) {property : α → Prop} (same : property entry)
    (changes : ∀ entry', other = key → change entry entry' → property entry') :
    ∃ entry', after other = some entry' ∧ property entry' := by
  by_cases here : other = key
  · obtain ⟨old, new, foundOld, foundNew, altered⟩ := changed.here
    rw [here] at found ⊢
    cases found.symm.trans foundOld
    exact ⟨new, foundNew, changes new here altered⟩
  · exact ⟨entry, (changed.elsewhere other here).trans found, same⟩

theorem Arena.changesAt_modify {α : Type} {arena : Arena α} {handle : Nat} {entry : α}
    {change : α → α → Prop} {write : α → α} (found : arena.get? handle = some entry)
    (changes : change entry (write entry)) :
    ChangesAt handle change arena.get? (arena.modify handle write).get? where
  here := ⟨entry, write entry, found, by simp [get?_modify, found], changes⟩
  elsewhere other apart := by rw [get?_modify, if_neg (Ne.symm apart)]

/-- One context of a store has changed. -/
def Store.Changes (before : Store) (id : ContextId) (change : Context → Context → Prop)
    (after : Store) : Prop :=
  ChangesAt id change (before.contexts[·]?) (after.contexts[·]?)

theorem Store.changes_set {store : Store} {id : ContextId} {context context' : Context}
    {change : Context → Context → Prop} (found : store.contexts[id]? = some context)
    (changes : change context context') : store.Changes id change (store.set id context') where
  here := ⟨context, context', found, contexts_set_self found context', changes⟩
  elsewhere other apart := by simp [set, Array.getElem?_setIfInBounds_ne (Ne.symm apart)]

/-- A block lists one more value. -/
def Block.Lists (id : ValueId) (before after : Block) : Prop :=
  after = { before with values := before.values.push id }

/-- A block that had no end has got one. -/
def Block.Ends (before after : Block) : Prop :=
  before.terminator = none ∧ ∃ terminator, after = { before with terminator := some terminator }

namespace Function

/-- A function has one more value, computed in the given block and listed there under its number. -/
structure GainsValue (block : BlockId) (before after : Function) : Prop where
  /-- The name is the same. -/
  name : after.name = before.name
  /-- The types of arguments and result are the same. -/
  signature : after.signature = before.signature
  /-- The new value comes behind the others. -/
  values : ∃ value : Value, value.origin.block? = some block ∧
    after.values.toList = before.values.toList ++ [value]
  /-- No block but that one changes. -/
  blocks : ChangesAt block (Block.Lists before.values.size) before.blocks.get? after.blocks.get?

/-- The given block of a function has been ended. -/
structure EndsBlock (block : BlockId) (before after : Function) : Prop where
  /-- Name, types and values are the same. -/
  same : after = { before with blocks := after.blocks }
  /-- No block but that one changes. -/
  blocks : ChangesAt block Block.Ends before.blocks.get? after.blocks.get?

/-- A function has one more block, which is empty. -/
structure GainsBlock (before after : Function) : Prop where
  /-- Name, types and values are the same. -/
  same : after = { before with blocks := after.blocks }
  /-- The new block comes behind the others. -/
  blocks : after.blocks.toList = before.blocks.toList ++ [({} : Block)]

end Function

namespace Context

/-- One function of a context has changed. -/
structure ChangesFunction (id : FunctionId) (change : Function → Function → Prop)
    (before after : Context) : Prop where
  /-- The types, the names and the stage of life are the same. -/
  same : after = { before with functions := after.functions }
  /-- No function but that one changes. -/
  functions : ChangesAt id change before.functions.get? after.functions.get?

/-- A context has one more function, which is registered under its name. -/
structure GainsFunction (before after : Context) : Prop where
  /-- The types and the stage of life are the same. -/
  same : after = { before with functions := after.functions, names := after.names }
  /-- The new function comes behind the others, and its name before the other names. -/
  functions : ∃ function : Function,
    after.functions.toList = before.functions.toList ++ [function] ∧
      after.names = (function.name, before.functions.size) :: before.names

/-- A context knows more types, or just as many. -/
structure GainsTypes (before after : Context) : Prop where
  /-- The functions, the names and the stage of life are the same. -/
  same : after = { before with types := after.types }
  /-- Types keep their numbers. -/
  types : before.types.Extends after.types

theorem changesFunction_modify {context : Context} {id : FunctionId} {function : Function}
    {change : Function → Function → Prop} {write : Function → Function}
    (found : context.functions.get? id = some function)
    (changes : change function (write function)) :
    context.ChangesFunction id change
      { context with functions := context.functions.modify id write } where
  same := rfl
  functions := Arena.changesAt_modify found changes

section

variable {context : Context} {place : Place} {function : Function} {block : Block}
  (opened : context.Open place function block)

include opened

theorem Open.changesFunction_append (type : TypeId) (instruction : Instruction) :
    context.ChangesFunction place.function (Function.GainsValue place.block)
      (context.append place function type instruction).1 := by
  refine changesFunction_modify opened.function_eq ⟨rfl, rfl, ?_, ?_⟩
  · exact ⟨⟨type, .instruction place.block instruction⟩, rfl, Arena.toList_push _ _⟩
  · exact Arena.changesAt_modify opened.block_eq rfl

theorem Open.changesFunction_finish (terminator : Terminator) :
    context.ChangesFunction place.function (Function.EndsBlock place.block)
      (context.replace place.function (function.terminate place.block terminator)) := by
  refine changesFunction_modify opened.function_eq ⟨rfl, ?_⟩
  exact Arena.changesAt_modify opened.block_eq ⟨opened.unended, terminator, rfl⟩

end

end Context

/-! ## What an operation may change -/

/-- The function that a block belongs to. -/
def BlockRef.home (ref : BlockRef) : FunctionRef := ⟨ref.context, ref.place.function⟩

/-- The function that a value belongs to. -/
def ValueRef.home (ref : ValueRef) : FunctionRef := ⟨ref.context, ref.function⟩

namespace Operation

/-- The block that an operation builds in. -/
def block? : Operation World → Option BlockRef
  | .const block _ _ => block
  | .call block _ _ => block
  | .binary block _ _ _ => block
  | .branch block _ => block
  | .result block _ => block
  | _ => none

/-- The function that an operation builds in. -/
def site? : Operation World → Option FunctionRef
  | .addBlock function => function
  | operation => operation.block?.map BlockRef.home

/-- The values that are offered to an operation. -/
def offered : Operation World → List (Option ValueRef)
  | .call _ _ arguments => arguments
  | .binary _ _ left right => [left, right]
  | .result _ value => [value]
  | _ => []

/-- The blocks that an operation is to lead to. -/
def targets : Operation World → List (Option BlockRef)
  | .branch _ target => [target]
  | _ => []

/-- The functions that an operation is to call. -/
def callees : Operation World → List (Option FunctionRef)
  | .call _ callee _ => [callee]
  | _ => []

/-- The one thing that an operation changes. -/
def Confined (before after : Store) : Operation World → Prop
  | .newContext _ | .parse _ _ _ | .restore _ =>
    ∃ context, after.contexts = before.contexts.push context
  | .intern context _ => ∃ id, context = some id ∧ before.Changes id Context.GainsTypes after
  | .addFunction context _ _ =>
    ∃ id, context = some id ∧ before.Changes id Context.GainsFunction after
  | .addBlock function =>
    ∃ ref, function = some ref ∧
      before.Changes ref.context (Context.ChangesFunction ref.function Function.GainsBlock) after
  | .argument _ _ => after = before
  | .const block _ _ | .call block _ _ | .binary block _ _ _ =>
    ∃ ref, block = some ref ∧
      before.Changes ref.context
        (Context.ChangesFunction ref.place.function (Function.GainsValue ref.place.block)) after
  | .branch block _ | .result block _ =>
    ∃ ref, block = some ref ∧
      before.Changes ref.context
        (Context.ChangesFunction ref.place.function (Function.EndsBlock ref.place.block)) after
  | .lower context _ =>
    ∃ id, context = some id ∧
      before.Changes id (fun context context' => context' = { context with phase := .consumed })
        after
  | .destroy context =>
    after = before ∨ ∃ id, context = some id ∧
      before.Changes id (fun context context' => context' = context.destroy) after

end Operation

namespace Store

/-- What an operation is given to build with belongs where it builds: values and blocks to the same
function, a function that is called to the same context. -/
structure Accepts (store : Store) (operation : Operation World) : Prop where
  /-- A value is one of the function that is built in. -/
  values : ∀ handle ∈ operation.offered, ∃ ref, handle = some ref ∧
    operation.site? = some ref.home ∧ (store.value? (some ref)).isSome
  /-- A block is one of the function that is built in. -/
  blocks : ∀ handle ∈ operation.targets, ∃ ref, handle = some ref ∧
    operation.site? = some ref.home ∧ (store.block? (some ref)).isSome
  /-- A function that is called is one of the context that is built in. -/
  callees : ∀ handle ∈ operation.callees, ∃ ref site, handle = some ref ∧
    operation.site? = some site ∧ ref.context = site.context ∧
      (store.function? (some ref)).isSome

/-! ## What is accepted -/

theorem operand_eq_own_iff {store : Store} {site : BlockRef} {handle : Option ValueRef}
    {id : ValueId} :
    store.operand site handle = .own id ↔
      handle = some ⟨site.context, site.place.function, id⟩ := by
  unfold operand
  cases handle with
  | none => simp
  | some ref =>
    obtain ⟨context, function, value⟩ := ref
    simp only
    split
    · rename_i same
      simp [same]
    · rename_i apart
      simp only [reduceCtorEq, Option.some.injEq, ValueRef.mk.injEq, false_iff]
      rintro ⟨sameContext, sameFunction, -⟩
      exact apart ⟨sameContext, sameFunction⟩

theorem target_eq_own_iff {store : Store} {site : BlockRef} {handle : Option BlockRef}
    {id : BlockId} :
    store.target site handle = .own id ↔
      handle = some ⟨site.context, site.place.function, id⟩ := by
  unfold target
  cases handle with
  | none => simp
  | some ref =>
    obtain ⟨context, function, block⟩ := ref
    simp only
    split
    · rename_i same
      simp [same]
    · rename_i apart
      simp only [reduceCtorEq, Option.some.injEq, BlockRef.mk.injEq, Place.mk.injEq, false_iff]
      rintro ⟨sameContext, sameFunction, -⟩
      exact apart ⟨sameContext, sameFunction⟩

theorem eq_of_callee_eq_own {store : Store} {site : BlockRef} {handle : Option FunctionRef}
    {id : FunctionId} (called : store.callee site handle = .own id) :
    handle = some ⟨site.context, id⟩ ∧ (store.function? handle).isSome := by
  unfold callee at called
  split at called
  · rename_i ref function found
    split at called
    · rename_i same
      cases called
      refine ⟨by rw [← same], ?_⟩
      rw [found]
      rfl
    · cases called
  · cases called

section

variable {store : Store} {site : BlockRef} {context : Context} {function : Function}
  (found : store.contexts[site.context]? = some context)
  (held : context.functions.get? site.place.function = some function)

include found held

theorem value?_isSome_of_typeOf? {id : ValueId} {type : TypeId}
    (typed : function.typeOf? id = some type) :
    (store.value? (some ⟨site.context, site.place.function, id⟩)).isSome := by
  obtain ⟨value, present, -⟩ := Function.typeOf?_eq_some_iff.mp typed
  simp [value?, found, held, present]

theorem block?_isSome_of_lt {id : BlockId} (inside : id < function.blocks.size) :
    (store.block? (some ⟨site.context, site.place.function, id⟩)).isSome := by
  obtain ⟨block, present⟩ := Arena.exists_get?_of_lt inside
  simp [block?, Context.at?, found, held, present]

end

/-! ## Successful operations -/

section

variable {store : Store} {made : Handle}

theorem confined_adopt {outcome : Except Failure Context}
    (done : (store.adopt outcome).2 = .ok made) :
    ∃ context, (store.adopt outcome).1.contexts = store.contexts.push context := by
  cases outcome with
  | error failure => cases done
  | ok context => exact ⟨context, rfl⟩

theorem confined_intern {handle : Option ContextId} {type : Descriptor}
    (done : (store.intern handle type).2 = .ok made) :
    ∃ id, handle = some id ∧
      store.Changes id Context.GainsTypes (store.intern handle type).1 := by
  obtain ⟨id, context, same, found, -, -, after⟩ := of_intern_eq_ok done
  rw [after]
  exact ⟨id, same, changes_set found ⟨rfl, context.types.extends_insert type⟩⟩

theorem confined_addFunction {handle : Option ContextId} {name : Bytes} {signature : Signature}
    (done : (store.addFunction handle name signature).2 = .ok made) :
    ∃ id, handle = some id ∧
      store.Changes id Context.GainsFunction (store.addFunction handle name signature).1 := by
  obtain ⟨id, context, same, found, -, after⟩ := of_addFunction_eq_ok done
  rw [after]
  exact ⟨id, same, changes_set found ⟨rfl, _, Arena.toList_push _ _, rfl⟩⟩

theorem confined_addBlock {handle : Option FunctionRef}
    (done : (store.addBlock handle).2 = .ok made) :
    ∃ ref, handle = some ref ∧
      store.Changes ref.context (Context.ChangesFunction ref.function Function.GainsBlock)
        (store.addBlock handle).1 := by
  obtain ⟨ref, context, function, same, found, held, -, after⟩ := of_addBlock_eq_ok done
  have gains : function.GainsBlock function.pushBlock := ⟨rfl, Arena.toList_push _ _⟩
  rw [after]
  exact ⟨ref, same, changes_set found (Context.changesFunction_modify held gains)⟩

theorem confined_addValue {action : Bytes} {handle : Option BlockRef}
    {add : BlockRef → Construct ValueId}
    (appends : ∀ ref context added, (add ref).outcome context = .ok added →
      context.Appends ref.place added)
    (done : (store.addValue action handle add).2 = .ok made) :
    ∃ ref, handle = some ref ∧
      store.Changes ref.context
        (Context.ChangesFunction ref.place.function (Function.GainsValue ref.place.block))
        (store.addValue action handle add).1 := by
  obtain ⟨ref, context, context', id, same, found, added, -, after⟩ := of_addValue_eq_ok done
  obtain ⟨function, block, type, instruction, opened, appended⟩ := appends _ _ _ added
  cases appended
  rw [after]
  exact ⟨ref, same, changes_set found (opened.changesFunction_append type instruction)⟩

theorem confined_endBlock {action : Bytes} {handle : Option BlockRef}
    {finish : BlockRef → Construct Unit}
    (ends : ∀ ref context context', (finish ref).outcome context = .ok (context', ()) →
      context.Finishes ref.place context')
    (done : (store.endBlock action handle finish).2 = .ok made) :
    ∃ ref, handle = some ref ∧
      store.Changes ref.context
        (Context.ChangesFunction ref.place.function (Function.EndsBlock ref.place.block))
        (store.endBlock action handle finish).1 := by
  obtain ⟨ref, context, context', same, found, ended, -, after⟩ := of_endBlock_eq_ok done
  obtain ⟨function, block, terminator, opened, rfl⟩ := ends _ _ _ ended
  rw [after]
  exact ⟨ref, same, changes_set found (opened.changesFunction_finish terminator)⟩

theorem confined_lower {handle : Option ContextId} {backend : Option (Backend World)}
    {world : World} (done : (store.lower handle backend world).2.2 = .ok ()) :
    ∃ id, handle = some id ∧
      store.Changes id (fun context context' => context' = { context with phase := .consumed })
        (store.lower handle backend world).1 := by
  unfold lower at done ⊢
  split at done
  · rename_i id context resolved
    obtain ⟨_, ⟨⟩, found⟩ := found_of_context? resolved
    have building : context.phase = .building := by
      by_contra closed
      obtain ⟨fault, failed, -⟩ := Context.lower_of_closed closed backend world
      rw [failed] at done
      cases done
    cases backend with
    | none =>
      rw [Context.lower, Context.usable_eq_ok_iff.mpr building] at done
      cases done
    | some run =>
      refine ⟨id, rfl, ?_⟩
      simp only [Context.phase_lower building]
      exact changes_set found rfl
  · cases done

theorem confined_destroy (handle : Option ContextId) :
    store.destroy handle = store ∨ ∃ id, handle = some id ∧
      store.Changes id (fun context context' => context' = context.destroy)
        (store.destroy handle) := by
  unfold destroy
  split
  · rename_i id context resolved
    obtain ⟨_, ⟨⟩, found⟩ := found_of_context? resolved
    exact .inr ⟨id, rfl, changes_set found rfl⟩
  · exact .inl rfl

end

theorem exists_of_map_eq_ok {α β ε : Type} {outcome : Except ε α} {change : α → β} {made : β}
    (done : outcome.map change = .ok made) : ∃ value, outcome = .ok value := by
  cases outcome with
  | error failure => cases done
  | ok value => exact ⟨value, rfl⟩

/-- An operation that succeeds changes one thing in one place. -/
theorem confined_perform (store : Store) (world : World) (operation : Operation World)
    {made : Handle} (done : (store.perform world operation).2.2 = .ok made) :
    operation.Confined store (store.perform world operation).1 := by
  cases operation with
  | newContext optimize => exact ⟨_, rfl⟩
  | parse file source optimize => exact confined_adopt done
  | restore snapshot => exact confined_adopt done
  | intern context type => exact confined_intern done
  | addFunction context name signature => exact confined_addFunction done
  | addBlock function => exact confined_addBlock done
  | argument function index => exact argument_store store function index
  | const block type literal =>
    exact confined_addValue (fun _ _ _ built => Context.appends_of_buildConst built) done
  | call block callee arguments =>
    exact confined_addValue (fun _ _ _ built => Context.appends_of_buildCall built) done
  | binary block kind left right =>
    exact confined_addValue (fun _ _ _ built => Context.appends_of_buildBinary built) done
  | branch block target =>
    exact confined_endBlock (fun _ _ _ ended =>
      Context.finishes_of_buildBranch (Context.buildBranch_of_outcome ended)) done
  | result block value =>
    exact confined_endBlock (fun _ _ _ ended =>
      Context.finishes_of_buildReturn (Context.buildReturn_of_outcome ended)) done
  | lower context backend =>
    obtain ⟨⟨⟩, lowered⟩ := exists_of_map_eq_ok done
    exact confined_lower lowered
  | destroy context => exact confined_destroy context

/-- What a successful operation was given belongs where it builds. -/
theorem accepts_perform (store : Store) (world : World) (operation : Operation World)
    {made : Handle} (done : (store.perform world operation).2.2 = .ok made) :
    store.Accepts operation := by
  cases operation with
  | call block callee arguments =>
    obtain ⟨ref, context, context', id, rfl, found, built, -, -⟩ := of_addValue_eq_ok done
    obtain ⟨function, content, called, type, ids, opened, own, offered, ⟨target, -, typed, -⟩, -⟩ :=
      Context.buildCall_eq_ok_iff.mp built
    obtain ⟨same, resolved⟩ := eq_of_callee_eq_own own
    refine ⟨fun handle member => ?_, by simp [Operation.targets], fun handle member => ?_⟩
    · have mapped : store.operand ref handle ∈ ids.map Operand.own :=
        offered ▸ List.mem_map_of_mem member
      obtain ⟨id, listed, value⟩ := List.mem_map.mp mapped
      obtain ⟨type, -, typedId⟩ :
          ∃ type ∈ target.signature.inputs, some type = function.typeOf? id :=
        List.mem_map.mp (typed ▸ List.mem_map_of_mem listed)
      exact ⟨_, operand_eq_own_iff.mp value.symm, rfl,
        value?_isSome_of_typeOf? found opened.function_eq typedId.symm⟩
    · obtain rfl := List.mem_singleton.mp member
      exact ⟨_, _, same, rfl, rfl, same ▸ resolved⟩
  | binary block kind left right =>
    obtain ⟨ref, context, context', id, rfl, found, built, -, -⟩ := of_addValue_eq_ok done
    obtain ⟨function, content, operator, type, leftId, rightId, opened, -, leftOwn, rightOwn,
      ⟨shared, leftTyped, rightTyped, -⟩, -⟩ := Context.buildBinary_eq_ok_iff.mp built
    refine ⟨fun handle member => ?_, by simp [Operation.targets], by simp [Operation.callees]⟩
    rcases List.mem_cons.mp member with rfl | member
    · exact ⟨_, operand_eq_own_iff.mp leftOwn, rfl,
        value?_isSome_of_typeOf? found opened.function_eq leftTyped⟩
    · obtain rfl := List.mem_singleton.mp member
      exact ⟨_, operand_eq_own_iff.mp rightOwn, rfl,
        value?_isSome_of_typeOf? found opened.function_eq rightTyped⟩
  | branch block target =>
    obtain ⟨ref, context, context', rfl, found, built, -, -⟩ := of_endBlock_eq_ok done
    obtain ⟨function, content, id, opened, own, inside, -⟩ :=
      Context.buildBranch_eq_ok_iff.mp (Context.buildBranch_of_outcome built)
    refine ⟨by simp [Operation.offered], fun handle member => ?_, by simp [Operation.callees]⟩
    obtain rfl := List.mem_singleton.mp member
    exact ⟨_, target_eq_own_iff.mp own, rfl, block?_isSome_of_lt found opened.function_eq inside⟩
  | result block value =>
    obtain ⟨ref, context, context', rfl, found, built, -, -⟩ := of_endBlock_eq_ok done
    obtain ⟨function, content, id, opened, own, typed, -⟩ :=
      Context.buildReturn_eq_ok_iff.mp (Context.buildReturn_of_outcome built)
    refine ⟨fun handle member => ?_, by simp [Operation.targets], by simp [Operation.callees]⟩
    obtain rfl := List.mem_singleton.mp member
    exact ⟨_, operand_eq_own_iff.mp own, rfl,
      value?_isSome_of_typeOf? found opened.function_eq typed⟩
  | _ =>
    exact ⟨by simp [Operation.offered], by simp [Operation.targets], by simp [Operation.callees]⟩

/-! ## What the other functions look like -/

/-- An operation that does not build in a function leaves it as it is. Nor does it destroy the
context, unless that is what it is there for. -/
theorem exists_of_confined {before after : Store} {operation : Operation World}
    (confined : operation.Confined before after) {ref : FunctionRef} {context : Context}
    {function : Function} (found : before.contexts[ref.context]? = some context)
    (held : context.functions.get? ref.function = some function)
    (elsewhere : operation.site? ≠ some ref) :
    ∃ context', after.contexts[ref.context]? = some context' ∧
      context'.functions.get? ref.function = some function ∧
      ((∀ handle, operation ≠ .destroy handle) →
        context'.phase = .destroyed → context.phase = .destroyed) := by
  have same : context.functions.get? ref.function = some function ∧
      ((∀ handle, operation ≠ .destroy handle) →
        context.phase = .destroyed → context.phase = .destroyed) := ⟨held, fun _ gone => gone⟩
  -- Where a function changes, it is another one, or one of another context.
  have inFunction (site : FunctionRef) {change : Function → Function → Prop}
      (changed : before.Changes site.context (Context.ChangesFunction site.function change) after)
      (apart : site ≠ ref) :
      ∃ context', after.contexts[ref.context]? = some context' ∧
        context'.functions.get? ref.function = some function ∧
        ((∀ handle, operation ≠ .destroy handle) →
          context'.phase = .destroyed → context.phase = .destroyed) := by
    refine changed.exists_of found same fun context' here altered => ?_
    have other : ref.function ≠ site.function := by
      intro there
      exact apart (by rw [FunctionRef.mk.injEq]; exact ⟨here.symm, there.symm⟩)
    refine ⟨(altered.functions.elsewhere _ other).trans held, fun _ gone => ?_⟩
    rw [altered.same] at gone
    exact gone
  cases operation with
  | newContext _ | parse _ _ _ | restore _ =>
    obtain ⟨added, pushed⟩ := confined
    have inside := (Array.getElem?_eq_some_iff.mp found).choose
    refine ⟨context, ?_, same⟩
    rw [pushed, Array.getElem?_push, if_neg (Nat.ne_of_lt inside), found]
  | argument _ _ =>
    obtain rfl := confined
    exact ⟨context, found, same⟩
  | intern _ _ =>
    obtain ⟨id, -, changed⟩ := confined
    refine changed.exists_of found same fun context' _ altered => ?_
    rw [altered.same]
    exact same
  | addFunction _ _ _ =>
    obtain ⟨id, -, changed⟩ := confined
    refine changed.exists_of found same fun context' _ altered => ?_
    obtain ⟨added, functions, -⟩ := altered.functions
    refine ⟨Arena.get?_of_toList_eq_append functions held, fun _ gone => ?_⟩
    rw [altered.same] at gone
    exact gone
  | addBlock _ =>
    obtain ⟨site, rfl, changed⟩ := confined
    exact inFunction site changed fun here => elsewhere (congrArg some here)
  | const _ _ _ | call _ _ _ | binary _ _ _ _ | branch _ _ | result _ _ =>
    obtain ⟨block, rfl, changed⟩ := confined
    exact inFunction block.home changed fun here => elsewhere (congrArg some here)
  | lower _ _ =>
    obtain ⟨id, -, changed⟩ := confined
    refine changed.exists_of found same fun context' _ altered => ?_
    subst altered
    exact ⟨held, fun _ gone => by cases gone⟩
  | destroy handle =>
    rcases confined with rfl | ⟨id, -, changed⟩
    · exact ⟨context, found, same⟩
    · refine changed.exists_of found same fun context' _ altered => ?_
      subst altered
      exact ⟨held, fun never => absurd rfl (never handle)⟩

end Store

section

variable {before after : Context} {function : Function} (formed : function.WellFormed before)
  (grown : before.Grows after)

include formed grown

/-- A value that stays the same reads the same in a context that has grown. -/
theorem Listing.value_eq_of_grows {number : ValueId} {content : Value}
    (found : function.values.get? number = some content) (id : ValueId) :
    Listing.value after id content = Listing.value before id content := by
  obtain ⟨type, known⟩ := Option.isSome_iff_exists.mp (formed.typed number content found)
  have name : after.types.name content.type = before.types.name content.type := by
    rw [Interner.name, Interner.name, known, grown.types _ _ known]
  have origin : Listing.origin after content.origin = Listing.origin before content.origin := by
    by_cases late : function.signature.inputs.length ≤ number
    · obtain ⟨block, instruction, origin, -, -, fits⟩ := formed.later number content found late
      rw [origin]
      cases instruction with
      | const literal => rfl
      | call callee arguments =>
        obtain ⟨target, held, -, -⟩ := fits
        obtain ⟨target', held', larger⟩ := grown.functions callee target held
        simp only [Listing.origin, held, held', larger.name]
      | binary operator left right => rfl
    · have early := Nat.lt_of_not_le late
      have parameter := formed.parameters number _ (List.getElem?_eq_getElem early)
      cases found.symm.trans parameter
      rfl
  rw [Listing.value, Listing.value, name, origin]

/-- A function that stays the same reads the same in a context that has grown. -/
theorem Listing.function_eq_of_grows :
    Listing.function after function = Listing.function before function := by
  have name (id : TypeId) (known : (before.types.lookup? id).isSome) :
      after.types.name id = before.types.name id := by
    obtain ⟨type, found⟩ := Option.isSome_iff_exists.mp known
    rw [Interner.name, Interner.name, found, grown.types _ _ found]
  have inputs : function.signature.inputs.map after.types.name =
      function.signature.inputs.map before.types.name :=
    List.map_congr_left fun input member => name input (formed.known.1 input member)
  have header : Listing.header after function = Listing.header before function := by
    rw [Listing.header, Listing.header, Signature.spelling, Signature.spelling, inputs,
      name _ formed.known.2]
  have values (id : ValueId) : (function.values.get? id).map (Listing.value after id) =
      (function.values.get? id).map (Listing.value before id) := by
    cases found : function.values.get? id with
    | none => rfl
    | some content => exact congrArg some (Listing.value_eq_of_grows formed grown found id)
  have blocks : Listing.block after function = Listing.block before function := by
    funext id content
    simp only [Listing.block, values]
  rw [Listing.function, Listing.function, header, blocks]

/-- Its text is the same as long as both contexts can be read. -/
theorem Context.dumpFunction_eq_of_grows
    (alive : after.phase = .destroyed → before.phase = .destroyed) :
    after.dumpFunction function = before.dumpFunction function := by
  have readable : after.readable = before.readable := by
    by_cases gone : before.phase = .destroyed
    · rw [readable, readable, gone, grown.gone gone]
    · rw [readable_eq_ok_iff.mpr gone, readable_eq_ok_iff.mpr fun later => gone (alive later)]
  rw [dumpFunction, dumpFunction, readable, Listing.function_eq_of_grows formed grown]

end

namespace Store

theorem function?_eq_some_iff {store : Store} {ref : FunctionRef} {function : Function} :
    store.function? (some ref) = some function ↔
      ∃ context, store.contexts[ref.context]? = some context ∧
        context.functions.get? ref.function = some function := by
  simp [function?, Option.bind_eq_some_iff]

theorem dumpFunction_eq {store : Store} {ref : FunctionRef} {context : Context}
    {function : Function} (found : store.contexts[ref.context]? = some context)
    (held : context.functions.get? ref.function = some function) :
    store.dumpFunction (some ref) = context.dumpFunction function := by
  simp only [dumpFunction, function?_eq_some_iff.mpr ⟨context, found, held⟩, found]

/-- In every state that a run has led to: an operation that succeeds changes one thing in one place;
the values and blocks it was given belong to the function it builds in, and the function it calls to
the same context; and every function but that one is as before, and reads as before unless its
context was destroyed. -/
theorem run_isolated (world next : World) (operations : List (Operation World))
    (operation : Operation World) (made : Handle)
    (done : ((run {} world operations).perform next operation).2.2 = .ok made) :
    let before := run {} world operations
    let after := (before.perform next operation).1
    operation.Confined before after ∧ before.Accepts operation ∧
      ∀ ref : FunctionRef, operation.site? ≠ some ref → (before.function? (some ref)).isSome →
        after.function? (some ref) = before.function? (some ref) ∧
          ((∀ handle, operation ≠ .destroy handle) →
            after.dumpFunction (some ref) = before.dumpFunction (some ref)) := by
  intro before after
  have confined : operation.Confined before after := confined_perform before next operation done
  refine ⟨confined, accepts_perform before next operation done, fun ref elsewhere there => ?_⟩
  obtain ⟨function, resolved⟩ := Option.isSome_iff_exists.mp there
  obtain ⟨context, found, held⟩ := function?_eq_some_iff.mp resolved
  obtain ⟨context', found', held', alive⟩ := exists_of_confined confined found held elsewhere
  refine ⟨(function?_eq_some_iff.mpr ⟨context', found', held'⟩).trans resolved.symm, fun kept => ?_⟩
  -- The context has grown, which does not change how the function reads.
  obtain ⟨later, foundLater, grown⟩ :=
    (before.moves_perform next operation).grows ref.context context found
  obtain rfl : later = context' := Option.some.inj (foundLater.symm.trans found')
  have formed := (wellFormed_of_mem_run (Array.mem_of_getElem? found)).functions _ _ held
  rw [dumpFunction_eq found held, dumpFunction_eq found' held']
  exact Context.dumpFunction_eq_of_grows formed grown (alive kept)

/-- Two contexts that begin alike: each with a function of the same name and numbers, the first with
one more. -/
def twinRun : List (Operation Unit) := [
  .newContext false,
  .addFunction (some 0) (utf8 "first") ⟨[5], 5⟩,
  .addFunction (some 0) (utf8 "second") ⟨[5], 5⟩,
  .newContext false,
  .addFunction (some 1) (utf8 "first") ⟨[5], 5⟩,
  .addBlock (some ⟨0, 0⟩),
  .addBlock (some ⟨0, 1⟩),
  .addBlock (some ⟨1, 0⟩)]

/-- The first function calls the second. -/
def twinCall : Operation Unit := .call (some ⟨0, 0, 0⟩) (some ⟨0, 1⟩) [some ⟨0, 0, 0⟩]

theorem run_isolated_twinCall :
    let after := ((run {} () twinRun).perform () twinCall).1
    twinCall.Confined (run {} () twinRun) after ∧
      after.dumpFunction (some ⟨0, 1⟩) = (run {} () twinRun).dumpFunction (some ⟨0, 1⟩) ∧
      after.dumpFunction (some ⟨1, 0⟩) = (run {} () twinRun).dumpFunction (some ⟨1, 0⟩) := by
  have done : ((run {} () twinRun).perform () twinCall).2.2 = .ok (.value ⟨0, 0, 1⟩) := by decide
  obtain ⟨confined, -, others⟩ := run_isolated () () twinRun twinCall _ done
  have kept (handle : Option ContextId) : twinCall ≠ .destroy handle := nofun
  exact ⟨confined, (others ⟨0, 1⟩ (by decide) (by decide)).2 kept,
    (others ⟨1, 0⟩ (by decide) (by decide)).2 kept⟩

end Store
end Blockwork
