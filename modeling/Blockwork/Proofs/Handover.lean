import Blockwork.Proofs.Closing

/-!
# What backends are given

A backend that takes notes does the same work as before and writes down each context that it is
given. A run whose backends take notes goes like the run without notes. From the notes it shows that
a context is given away at most once, and only while nothing is missing from it.
-/

namespace Blockwork

variable {World : Type}

/-- The contexts that backends were given, each with the handle under which it was lowered. -/
abbrev Notes := List (Option ContextId × Context)

/-- A backend that first writes down what it is given. -/
def Backend.noting (handle : Option ContextId) (backend : Backend World) :
    Backend (World × Notes) := fun context state =>
  let answer := (backend context).run state.1
  (answer.1, answer.2, state.2 ++ [(handle, context)])

/-- An operation whose backend, if it has one, takes notes. -/
def Operation.noting : Operation World → Operation (World × Notes)
  | .newContext optimize => .newContext optimize
  | .parse file source optimize => .parse file source optimize
  | .restore snapshot => .restore snapshot
  | .intern context type => .intern context type
  | .addFunction context name signature => .addFunction context name signature
  | .addBlock function => .addBlock function
  | .argument function index => .argument function index
  | .const block type literal => .const block type literal
  | .call block callee arguments => .call block callee arguments
  | .binary block kind left right => .binary block kind left right
  | .branch block target => .branch block target
  | .result block value => .result block value
  | .lower context backend => .lower context (backend.map (Backend.noting context))
  | .destroy context => .destroy context

/-- The context once it is in the hands of a backend. -/
def Context.given (context : Context) : Context := { context with phase := .consumed }

namespace Context

variable {context : Context} (building : context.phase = .building)

include building

/-- Nothing more is missing from a context because it is given away. -/
theorem validate_given : context.given.validate = context.validate := by
  simp only [validate, given, readable, failures, listFunctions, building, reduceCtorEq, if_false]

/-- A backend is asked if nothing is missing. -/
theorem lower_of_complete (complete : context.validate = .ok ()) (run : Backend World)
    (world : World) : context.lower (some run) world =
      (context.given, (run context.given world).2, (run context.given world).1) := by
  have complete : context.given.validate = .ok () := (validate_given building).trans complete
  unfold lower
  rw [usable_eq_ok_iff.mpr building]
  simp only [given] at complete ⊢
  rw [complete]
  rfl

/-- No backend is asked if something is missing. -/
theorem lower_of_incomplete {failure : Failure} (missing : context.validate = .error failure)
    (run : Backend World) (world : World) :
    context.lower (some run) world = (context.given, world, .error failure) := by
  have missing : context.given.validate = .error failure :=
    (validate_given building).trans missing
  unfold lower
  rw [usable_eq_ok_iff.mpr building]
  simp only [given] at missing ⊢
  rw [missing]

end Context

namespace Store

/-- Store and world after a run. -/
def runWith (store : Store) (world : World) : List (Operation World) → Store × World
  | [] => (store, world)
  | operation :: rest =>
    let (store, world, _) := store.perform world operation
    store.runWith world rest

theorem runWith_fst (store : Store) (world : World) (operations : List (Operation World)) :
    (store.runWith world operations).1 = store.run world operations := by
  induction operations generalizing store world with
  | nil => rfl
  | cons operation rest ih => exact ih _ _

/-- What one operation gives away: nothing, or a complete context that was under construction, which
it consumes. -/
inductive Hands (before after : Store) : Notes → Prop
  /-- No backend is asked. -/
  | nothing : Hands before after []
  /-- A backend is asked. -/
  | given {id : ContextId} {context : Context} (found : before.contexts[id]? = some context)
      (building : context.phase = .building) (complete : context.validate = .ok ())
      (consumed : after.contexts[id]? = some context.given) :
      Hands before after [(some id, context.given)]

theorem exists_hands_lower (store : Store) (world : World) (notes : Notes)
    (handle : Option ContextId) (backend : Option (Backend World)) :
    ∃ handed, store.Hands (store.lower handle backend world).1 handed ∧
      store.lower handle (backend.map (Backend.noting handle)) (world, notes) =
        ((store.lower handle backend world).1,
          ((store.lower handle backend world).2.1, notes ++ handed),
          (store.lower handle backend world).2.2) := by
  cases found : store.context? handle with
  | none => exact ⟨[], .nothing, by simp [lower, found]⟩
  | some context =>
    obtain ⟨id, rfl, held⟩ := found_of_context? found
    cases usable : context.usable with
    | error fault => exact ⟨[], .nothing, by simp [lower, found, Context.lower, usable]⟩
    | ok _ =>
      have building := Context.usable_eq_ok_iff.mp usable
      cases backend with
      | none => exact ⟨[], .nothing, by simp [lower, found, Context.lower, usable]⟩
      | some run =>
        cases complete : context.validate with
        | error failure =>
          refine ⟨[], .nothing, ?_⟩
          simp [lower, found, Context.lower_of_incomplete building complete]
        | ok _ =>
          refine ⟨_, .given held building complete ?_, ?_⟩
          · simpa [lower, found, Context.lower_of_complete building complete]
              using contexts_set_self held context.given
          · simp [lower, found, Context.lower_of_complete building complete, Backend.noting,
              StateT.run]

/-- Notes change nothing in what an operation does, and they tell what it gave away. -/
theorem exists_hands_perform (store : Store) (world : World) (notes : Notes)
    (operation : Operation World) :
    ∃ handed, store.Hands (store.perform world operation).1 handed ∧
      store.perform (world, notes) operation.noting =
        ((store.perform world operation).1, ((store.perform world operation).2.1, notes ++ handed),
          (store.perform world operation).2.2) := by
  cases operation
  case lower handle backend =>
    obtain ⟨handed, hands, same⟩ := store.exists_hands_lower world notes handle backend
    exact ⟨handed, hands, by simp only [perform, Operation.noting, same]⟩
  all_goals exact ⟨[], .nothing, by simp only [perform, Operation.noting, List.append_nil]⟩

/-- What is known of a context that was given away in a run: at some moment it was in the store and
under construction, and nothing was missing from it. -/
def GivenIn (store : Store) (world : World) (operations : List (Operation World))
    (call : Option ContextId × Context) : Prop :=
  ∃ before operation after id context, operations = before ++ operation :: after ∧
    (store.run world before).contexts[id]? = some context ∧ context.phase = .building ∧
    context.validate = .ok () ∧ call = (some id, context.given)

/-- The notes of a run: each context is given away at most once, none that is closed already, and
each while nothing is missing from it. -/
theorem exists_notes_runWith (store : Store) (world : World) (notes : Notes)
    (operations : List (Operation World)) :
    ∃ handed : Notes,
      store.runWith (world, notes) (operations.map Operation.noting) =
        ((store.runWith world operations).1,
          ((store.runWith world operations).2, notes ++ handed)) ∧
      (handed.map Prod.fst).Nodup ∧
      (∀ call ∈ handed, ∀ id context, call.1 = some id → store.contexts[id]? = some context →
        context.phase = .building) ∧
      ∀ call ∈ handed, store.GivenIn world operations call := by
  induction operations generalizing store world notes with
  | nil => exact ⟨[], by simp [runWith], List.nodup_nil, by simp, by simp⟩
  | cons operation rest ih =>
    obtain ⟨first, hands, same⟩ := store.exists_hands_perform world notes operation
    obtain ⟨later, sameRest, distinct, opened, given⟩ :=
      ih (store.perform world operation).1 (store.perform world operation).2.1 (notes ++ first)
    refine ⟨first ++ later, ?_, ?_, ?_, ?_⟩
    · simp only [List.map_cons, runWith, same, sameRest, List.append_assoc]
    · rw [List.map_append]
      cases hands with
      | nothing => exact distinct
      | given found building complete consumed =>
        -- Once consumed the context is not under construction, so it is not given away again.
        refine List.nodup_cons.mpr ⟨fun again => ?_, distinct⟩
        obtain ⟨call, member, id⟩ := List.mem_map.mp again
        cases opened call member _ _ id consumed
    · intro call member id context handle found
      rcases List.mem_append.mp member with now | next
      · cases hands with
        | nothing => cases now
        | given found' building complete consumed =>
          obtain rfl := List.mem_singleton.mp now
          cases handle
          cases found'.symm.trans found
          exact building
      · obtain ⟨context', found', reached⟩ :=
          (store.moves_perform world operation).exists_reaches found
        have open' := opened call next id context' handle found'
        by_contra closed
        exact reached.ages.closed closed open'
    · intro call member
      rcases List.mem_append.mp member with now | next
      · cases hands with
        | nothing => cases now
        | given found building complete consumed =>
          obtain rfl := List.mem_singleton.mp now
          exact ⟨[], operation, rest, _, _, rfl, found, building, complete, rfl⟩
      · obtain ⟨before, other, after, id, context, rfl, found, building, complete, rfl⟩ :=
          given call next
        exact ⟨operation :: before, other, after, id, context, rfl, found, building, complete, rfl⟩

end Store
end Blockwork
