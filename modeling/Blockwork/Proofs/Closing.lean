import Blockwork.Proofs.Order

/-!
# Closed contexts

Construction ends when a backend is given the context or when the context is destroyed, and it never
starts again. Whatever is tried on a closed context, through whatever handle of it, is refused as
such and changes nothing. Lowering closes the context whatever comes of it, as long as there is a
backend to give it to.
-/

namespace Blockwork

variable {World : Type}

/-- The context that a handle belongs to. The number of a type belongs to none. -/
def Handle.home? : Handle → Option ContextId
  | .nothing => none
  | .context id => some id
  | .type _ => none
  | .function ref => some ref.context
  | .block ref => some ref.context
  | .value ref => some ref.context

/-- The handle that an operation is applied to. To make a context takes none, and a context may be
destroyed at any time. -/
def Operation.receiver? : Operation World → Option Handle
  | .newContext _ => none
  | .parse _ _ _ => none
  | .restore _ => none
  | .intern context _ => context.map .context
  | .addFunction context _ _ => context.map .context
  | .addBlock function => function.map .function
  | .argument function _ => function.map .function
  | .const block _ _ => block.map .block
  | .call block _ _ => block.map .block
  | .binary block _ _ _ => block.map .block
  | .branch block _ => block.map .block
  | .result block _ => block.map .block
  | .lower context _ => context.map .context
  | .destroy _ => none

namespace Context

/-! ## What becomes of a closed context -/

/-- What may become of a context once it is closed. -/
structure Ages (before after : Context) : Prop where
  /-- A context that was consumed is the same until it is destroyed. -/
  consumed : before.phase = .consumed → after = before ∨ after = before.destroy
  /-- A context that was destroyed is the same for good. -/
  destroyed : before.phase = .destroyed → after = before

namespace Ages

theorem refl (context : Context) : context.Ages context where
  consumed _ := .inl rfl
  destroyed _ := rfl

theorem trans {first second third : Context} (early : first.Ages second)
    (late : second.Ages third) : first.Ages third where
  consumed closed := by
    rcases early.consumed closed with rfl | rfl
    · exact late.consumed closed
    · exact .inr (late.destroyed rfl)
  destroyed gone := by
    obtain rfl := early.destroyed gone
    exact late.destroyed gone

/-- Construction does not start again. -/
theorem closed {before after : Context} (aged : before.Ages after)
    (closed : before.phase ≠ .building) : after.phase ≠ .building := by
  cases stage : before.phase with
  | building => exact absurd stage closed
  | consumed =>
    rcases aged.consumed stage with rfl | rfl
    · exact closed
    · simp [destroy]
  | destroyed =>
    obtain rfl := aged.destroyed stage
    exact closed

end Ages

theorem Step.ages {before after : Context} (stepped : before.Step after) : before.Ages after := by
  cases stepped with
  | build built => exact ⟨by simp [built.building], by simp [built.building]⟩
  | consume building => exact ⟨by simp [building], by simp [building]⟩
  | destroy => exact ⟨fun _ => .inr rfl, fun gone => by rw [Context.destroy, ← gone]⟩

theorem Reaches.ages {before after : Context} (reached : before.Reaches after) :
    before.Ages after := by
  induction reached with
  | refl => exact .refl before
  | tail _ stepped ih => exact ih.trans stepped.ages

/-! ## What is tried on a closed context -/

/-- An outcome that is a failure because the context is closed. -/
def Barred {α : Type} (outcome : Except BuildError α) : Prop :=
  ∃ error, outcome = .error error ∧ error.fault.kind = .contextClosed

theorem Barred.bind {α β : Type} {outcome : Except BuildError α} (barred : Barred outcome)
    (next : α → Except BuildError β) : Barred (outcome >>= next) := by
  obtain ⟨error, rfl, kind⟩ := barred
  exact ⟨error, rfl, kind⟩

theorem Barred.ask_bind {α β : Type} {context : Context} {question : Context → Except BuildError α}
    (barred : Barred (question context)) (next : α → Construct β) :
    Barred ((Change.ask question >>= next).outcome context) := by
  rw [Change.outcome_ask_bind]
  exact barred.bind _

section

variable {context : Context} (closed : context.phase ≠ .building)

include closed

theorem usable_of_closed : ∃ how, context.usable = .error (closedFault how) := by
  unfold usable
  cases stage : context.phase with
  | building => exact absurd stage closed
  | consumed => exact ⟨_, rfl⟩
  | destroyed => exact ⟨_, rfl⟩

theorem intern_of_closed (type : Descriptor) :
    ∃ fault, context.intern type = .error fault ∧ fault.kind = .contextClosed := by
  obtain ⟨how, usable⟩ := usable_of_closed closed
  rw [intern_eq, usable]
  exact ⟨_, rfl, rfl⟩

theorem addFunction_of_closed (name : Bytes) (signature : Signature) :
    Barred (context.addFunction name signature) := by
  obtain ⟨how, usable⟩ := usable_of_closed closed
  rw [addFunction_eq, usable]
  exact ⟨_, rfl, rfl⟩

theorem usableFunction_of_closed {id : FunctionId} {function : Function}
    (found : context.functions.get? id = some function) (action : Bytes) :
    Barred (context.usableFunction action id) := by
  obtain ⟨how, usable⟩ := usable_of_closed closed
  rw [usableFunction, found, usable]
  exact ⟨_, rfl, rfl⟩

theorem addBlock_of_closed {id : FunctionId} {function : Function}
    (found : context.functions.get? id = some function) : Barred (context.addBlock id) := by
  rw [addBlock_eq]
  exact (usableFunction_of_closed closed found _).bind _

theorem argument_of_closed {id : FunctionId} {function : Function}
    (found : context.functions.get? id = some function) (index : Int) :
    Barred (context.argument id index) :=
  (usableFunction_of_closed closed found _).bind _

/-- Nothing is built in a block of a closed context, because the block is not opened. -/
theorem openBlock_of_closed {place : Place} {content : Function × Block}
    (found : context.at? place = some content) (action : Bytes) :
    Barred (context.openBlock action place) := by
  obtain ⟨how, usable⟩ := usable_of_closed closed
  rw [openBlock, found, usable]
  exact ⟨_, rfl, rfl⟩

theorem argument_outcome_of_closed {id : FunctionId} {function : Function}
    (found : context.functions.get? id = some function) (index : Int) :
    Barred ((Construct.argument id index).outcome context) := by
  obtain ⟨error, failed, kind⟩ := argument_of_closed closed found index
  rw [Construct.outcome_argument, failed]
  exact ⟨error, rfl, kind⟩

theorem lower_of_closed (backend : Option (Backend World)) (world : World) :
    ∃ fault, context.lower backend world = (context, world, .error (.fault fault)) ∧
      fault.kind = .contextClosed := by
  obtain ⟨how, usable⟩ := usable_of_closed closed
  unfold lower
  rw [usable]
  exact ⟨_, rfl, rfl⟩

end

section

variable {context : Context} {place : Place}
  (barred : ∀ action, Barred (context.openBlock action place))

include barred

theorem const_of_barred (type : TypeId) (literal : UInt64) :
    Barred ((Construct.const place type literal).outcome context) := by
  refine .ask_bind ?_ _
  exact barred _

theorem call_of_barred (callee : Callee) (arguments : List Operand) :
    Barred ((Construct.call place callee arguments).outcome context) := by
  refine .ask_bind ?_ _
  exact barred _

theorem binary_of_barred (code : UInt8) (left right : Operand) :
    Barred ((Construct.binary place code left right).outcome context) := by
  refine .ask_bind ?_ _
  exact barred _

theorem branch_of_barred (target : Target) :
    Barred ((Construct.branch place target).outcome context) := by
  refine .ask_bind ?_ _
  exact barred _

theorem result_of_barred (operand : Operand) :
    Barred ((Construct.result place operand).outcome context) := by
  refine .ask_bind ?_ _
  exact barred _

end

/-- Giving a context to a backend closes it, whatever comes of it. -/
theorem phase_lower {context : Context} (building : context.phase = .building)
    (run : Backend World) (world : World) :
    (context.lower (some run) world).1 = { context with phase := .consumed } := by
  rw [lower, usable_eq_ok_iff.mpr building]
  dsimp only
  split <;> rfl

end Context

namespace Store

/-! ## Refusal -/

/-- An outcome that is a failure because the context is closed, with the store as before. -/
def Shut (store : Store) (outcome : Outcome) : Prop :=
  ∃ failure : Failure, failure.kinds = [.contextClosed] ∧ outcome = (store, .error failure)

/-- An operation is refused because its context is closed: it fails with that kind of failure, and
the store and the world are as before. -/
def Rejects (store : Store) (world : World) (operation : Operation World) : Prop :=
  ∃ failure : Failure, failure.kinds = [.contextClosed] ∧
    store.perform world operation = (store, world, .error failure)

theorem Shut.pass {store : Store} {outcome : Outcome} (shut : store.Shut outcome) (world : World) :
    ∃ failure : Failure, failure.kinds = [.contextClosed] ∧
      (outcome.1, world, outcome.2) = (store, world, .error failure) := by
  obtain ⟨failure, kinds, rfl⟩ := shut
  exact ⟨failure, kinds, rfl⟩

theorem shut_refuse (store : Store) {error : BuildError}
    (kind : error.fault.kind = .contextClosed) : store.Shut (store.refuse error) :=
  ⟨.build error, by rw [Failure.kinds, kind], rfl⟩

section

variable {store : Store} {id : ContextId} {context : Context}
  (found : store.contexts[id]? = some context) (closed : context.phase ≠ .building)

include found closed

omit closed in
theorem shut_change {α : Type} {steps : Construct α} (spares : steps.Spares)
    (barred : Context.Barred (steps.outcome context)) (handle : α → Handle) :
    store.Shut (store.change id context steps .build handle) := by
  obtain ⟨error, failed, kind⟩ := barred
  rw [change_of_error found spares failed]
  exact store.shut_refuse kind

theorem shut_intern (type : Descriptor) : store.Shut (store.intern (some id) type) := by
  obtain ⟨fault, failed, kind⟩ := Context.intern_of_closed closed type
  refine ⟨.fault fault, by rw [Failure.kinds, kind], ?_⟩
  have resolved : store.context? (some id) = some context := found
  simp only [intern, resolved]
  exact change_of_error found (Construct.spares_intern type) failed

theorem shut_addFunction (name : Bytes) (signature : Signature) :
    store.Shut (store.addFunction (some id) name signature) := by
  have resolved : store.context? (some id) = some context := found
  simp only [addFunction, resolved]
  exact shut_change found (Construct.spares_addFunction name signature)
    (Context.addFunction_of_closed closed name signature) _

theorem rejects_lower (backend : Option (Backend World)) (world : World) :
    store.Rejects world (.lower (some id) backend) := by
  obtain ⟨fault, failed, kind⟩ := Context.lower_of_closed closed backend world
  refine ⟨.fault fault, by rw [Failure.kinds, kind], ?_⟩
  simp [perform, lower, context?, found, failed, set_of_found found, Except.map]

end

section

variable {store : Store} {ref : FunctionRef} {context : Context} {function : Function}
  (found : store.contexts[ref.context]? = some context) (closed : context.phase ≠ .building)
  (resolved : context.functions.get? ref.function = some function)

include found closed resolved

theorem shut_addBlock : store.Shut (store.addBlock (some ref)) := by
  simp only [addBlock, inFunction, found]
  exact shut_change found (Construct.spares_addBlock ref.function)
    (Context.addBlock_of_closed closed resolved) _

theorem shut_argument (index : Int) : store.Shut (store.argument (some ref) index) := by
  simp only [argument, inFunction, found]
  exact shut_change found (Construct.spares_argument ref.function index)
    (Context.argument_outcome_of_closed closed resolved index) _

end

theorem shut_inBlock {α : Type} {store : Store} {ref : BlockRef} {context : Context}
    {action : Bytes} (found : store.contexts[ref.context]? = some context)
    {steps : BlockRef → Construct α} (spares : (steps ref).Spares)
    (barred : Context.Barred ((steps ref).outcome context)) (handle : BlockRef → α → Handle) :
    store.Shut (store.inBlock action (some ref) steps handle) := by
  simp only [inBlock, found]
  exact shut_change found spares barred _

theorem exists_of_holds_function {store : Store} {ref : FunctionRef} {context : Context}
    (held : store.Holds (.function ref)) (found : store.contexts[ref.context]? = some context) :
    ∃ function, context.functions.get? ref.function = some function := by
  simpa [Holds, function?, found, Option.isSome_iff_exists] using held

theorem exists_of_holds_block {store : Store} {ref : BlockRef} {context : Context}
    (held : store.Holds (.block ref)) (found : store.contexts[ref.context]? = some context) :
    ∃ content, context.at? ref.place = some content := by
  simp only [Holds, block?, Option.bind_eq_bind, Option.bind_some, found,
    Option.isSome_iff_exists, Option.bind_eq_some_iff] at held
  obtain ⟨block, content, resolved, -⟩ := held
  exact ⟨content, resolved⟩

/-- Every operation on a closed context, through whatever handle of it, is refused. -/
theorem rejects_of_closed {store : Store} {id : ContextId} {context : Context}
    (found : store.contexts[id]? = some context) (closed : context.phase ≠ .building)
    {operation : Operation World} {receiver : Handle}
    (applied : operation.receiver? = some receiver) (home : receiver.home? = some id)
    (held : store.Holds receiver) (world : World) : store.Rejects world operation := by
  -- The receiver is a context, a function or a block, according to the operation.
  have ofContext {handle : Option ContextId} (applied : handle.map Handle.context = some receiver) :
      handle = some id := by
    obtain ⟨id', rfl, rfl⟩ := Option.map_eq_some_iff.mp applied
    exact home
  have ofFunction {handle : Option FunctionRef}
      (applied : handle.map Handle.function = some receiver) :
      ∃ ref function, handle = some ref ∧ store.contexts[ref.context]? = some context ∧
        context.functions.get? ref.function = some function := by
    obtain ⟨ref, rfl, rfl⟩ := Option.map_eq_some_iff.mp applied
    obtain rfl : ref.context = id := Option.some.inj home
    obtain ⟨function, resolved⟩ := exists_of_holds_function held found
    exact ⟨ref, function, rfl, found, resolved⟩
  have ofBlock {handle : Option BlockRef} (applied : handle.map Handle.block = some receiver) :
      ∃ ref, handle = some ref ∧ store.contexts[ref.context]? = some context ∧
        ∀ action, Context.Barred (context.openBlock action ref.place) := by
    obtain ⟨ref, rfl, rfl⟩ := Option.map_eq_some_iff.mp applied
    obtain rfl : ref.context = id := Option.some.inj home
    obtain ⟨content, resolved⟩ := exists_of_holds_block held found
    exact ⟨ref, rfl, found, Context.openBlock_of_closed closed resolved⟩
  cases operation with
  | newContext optimize => cases applied
  | parse file source optimize => cases applied
  | restore snapshot => cases applied
  | destroy context => cases applied
  | intern handle type =>
    obtain rfl := ofContext applied
    exact (shut_intern found closed type).pass world
  | addFunction handle name signature =>
    obtain rfl := ofContext applied
    exact (shut_addFunction found closed name signature).pass world
  | addBlock handle =>
    obtain ⟨ref, function, rfl, here, resolved⟩ := ofFunction applied
    exact (shut_addBlock here closed resolved).pass world
  | argument handle index =>
    obtain ⟨ref, function, rfl, here, resolved⟩ := ofFunction applied
    exact (shut_argument here closed resolved index).pass world
  | const handle type literal =>
    obtain ⟨ref, rfl, here, barred⟩ := ofBlock applied
    have shut : store.Shut (store.addValue (utf8 "const") (some ref) fun ref =>
        Construct.const ref.place type literal) :=
      shut_inBlock here (Construct.spares_const _ _ _) (Context.const_of_barred barred _ _) _
    exact shut.pass world
  | call handle callee arguments =>
    obtain ⟨ref, rfl, here, barred⟩ := ofBlock applied
    have shut : store.Shut (store.addValue (utf8 "call") (some ref) fun ref =>
        Construct.call ref.place (store.callee ref callee)
          (arguments.map (store.operand ref))) :=
      shut_inBlock here (Construct.spares_call _ _ _) (Context.call_of_barred barred _ _) _
    exact shut.pass world
  | binary handle code left right =>
    obtain ⟨ref, rfl, here, barred⟩ := ofBlock applied
    have shut : store.Shut (store.addValue (KindCode.mnemonic code) (some ref) fun ref =>
        Construct.binary ref.place code (store.operand ref left) (store.operand ref right)) :=
      shut_inBlock here (Construct.spares_binary _ _ _ _) (Context.binary_of_barred barred _ _ _) _
    exact shut.pass world
  | branch handle target =>
    obtain ⟨ref, rfl, here, barred⟩ := ofBlock applied
    have shut : store.Shut (store.endBlock (utf8 "branch") (some ref) fun ref =>
        Construct.branch ref.place (store.target ref target)) :=
      shut_inBlock here (Construct.spares_branch _ _) (Context.branch_of_barred barred _) _
    exact shut.pass world
  | result handle value =>
    obtain ⟨ref, rfl, here, barred⟩ := ofBlock applied
    have shut : store.Shut (store.endBlock (utf8 "return") (some ref) fun ref =>
        Construct.result ref.place (store.operand ref value)) :=
      shut_inBlock here (Construct.spares_result _ _) (Context.result_of_barred barred _) _
    exact shut.pass world
  | lower handle backend =>
    obtain rfl := ofContext applied
    exact rejects_lower found closed backend world

/-! ## Lowering -/

/-- From any state that a run has led to: once a context under construction is lowered by a backend,
with whatever outcome, every operation on it or on a handle of it is refused, whatever was done in
between. Without a backend nothing happens, and construction may go on. -/
theorem run_closed_of_lower (world next : World) (operations : List (Operation World))
    (id : ContextId) (context : Context)
    (found : (run {} world operations).contexts[id]? = some context)
    (building : context.phase = .building) :
    (∀ (backend : Backend World) (world' world'' : World) (later : List (Operation World))
        (operation : Operation World) (receiver : Handle),
      let store := ((run {} world operations).perform next (.lower (some id) (some backend))).1.run
        world' later
      operation.receiver? = some receiver → receiver.home? = some id → store.Holds receiver →
        store.Rejects world'' operation) ∧
      ∃ failure : Failure, failure.kinds = [.invalidHandle] ∧
        (run {} world operations).perform next (.lower (some id) none) =
          (run {} world operations, next, .error failure) := by
  have resolved : (run {} world operations).context? (some id) = some context := found
  constructor
  · intro backend world' world'' later operation receiver store applied home held
    -- The context is consumed at once, and it stays closed through what follows.
    have consumed : ((run {} world operations).perform next
        (.lower (some id) (some backend))).1.contexts[id]? =
          some { context with phase := .consumed } := by
      simp only [perform, lower, resolved, Context.phase_lower building]
      exact contexts_set_self found _
    obtain ⟨context', found', reached⟩ := exists_reaches_run world' later consumed
    have closed : context'.phase ≠ .building := reached.ages.closed (by simp)
    exact rejects_of_closed found' closed applied home held world''
  · refine ⟨.fault { kind := .invalidHandle, detail := utf8 "nil backend" }, rfl, ?_⟩
    simp only [perform, lower, resolved, Context.lower, Context.usable_eq_ok_iff.mpr building,
      set_of_found found, Except.map]

/-- A backend that fails closes the context of `sumRun` all the same. -/
theorem run_closed_of_lower_sumRun :
    (((run {} () sumRun).perform () (.lower (some 0)
        (some fun _ => pure (.error (.ofKind .backendFailure))))).1.run ()
      [.destroy (some 1), .newContext true]).Rejects () (.addBlock (some ⟨0, 0⟩)) := by
  have open_ : ((run {} () sumRun).contexts[0]?.map Context.phase) = some .building := by decide
  obtain ⟨context, found, building⟩ := Option.map_eq_some_iff.mp open_
  refine (run_closed_of_lower () () sumRun 0 context found building).1 _ () () _ _
    (.function ⟨0, 0⟩) rfl rfl ?_
  change (function? _ (some ⟨0, 0⟩)).isSome = true
  decide

/-- Lowering does not always close a context: without a backend, construction goes on. -/
theorem lower_without_backend_not_closing :
    ¬ ∀ (operations later : List (Operation Unit)) (backend : Option (Backend Unit))
        (id : ContextId) (context : Context),
      (run {} () operations).contexts[id]? = some context → context.phase = .building →
      ∀ (operation : Operation Unit) (receiver : Handle),
        operation.receiver? = some receiver → receiver.home? = some id →
        let store := ((run {} () operations).perform () (.lower (some id) backend)).1.run () later
        store.Holds receiver → store.Rejects () operation := by
  intro closing
  have open_ : ((run {} () sumRun).contexts[0]?.map Context.phase) = some .building := by decide
  obtain ⟨context, found, building⟩ := Option.map_eq_some_iff.mp open_
  obtain ⟨failure, -, refused⟩ := closing sumRun [] none 0 context found building
    (.intern (some 0) .bool) (.context 0) rfl rfl (show 0 < _ by decide)
  have accepted : ((((run {} () sumRun).perform () (.lower (some 0) none)).1.run () []).perform ()
      (.intern (some 0) .bool)).2.2.isOk = true := by
    decide
  rw [refused] at accepted
  cases accepted

end Store
end Blockwork
