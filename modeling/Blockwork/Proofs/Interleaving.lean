import Blockwork.Proofs.Agreement
import Blockwork.Proofs.Attempts
import Blockwork.Proofs.Isolation
import Blockwork.Proofs.Restoring

/-!
# Independent construction

The bodies of the functions of a context may be built one after the other or in turns. An edit names
blocks and values by their numbers in its function, other functions by name and types by what they
are. However the edits of several functions are interleaved, each has the outcome that it has when
the edits of the other functions are left out, and what comes out is the same to every observer:
only the numbers of types may differ.
-/

namespace Blockwork

/-- Something done to the body of a function, told without handles. -/
inductive Edit where
  /-- Interns a type. -/
  | intern (type : Descriptor)
  /-- Adds a block. -/
  | addBlock
  /-- Adds a constant of a type, which is interned. -/
  | const (block : Int) (type : Descriptor) (literal : UInt64)
  /-- Adds a call. -/
  | call (block : Int) (callee : Bytes) (arguments : List Int)
  /-- Adds an operation on two values, by the code of its kind. -/
  | binary (block : Int) (kind : UInt8) (left right : Int)
  /-- Ends a block by a jump. -/
  | branch (block target : Int)
  /-- Ends a block by returning a value. -/
  | result (block value : Int)
deriving DecidableEq, Repr

/-- The number of a block or value that was made. The number of a type is none of the function. -/
def Handle.number? : Handle → Option Nat
  | .block ref => some ref.place.block
  | .value ref => some ref.value
  | _ => none

/-- What there is for one function in a list of items for several, in order. -/
def itemsOf {α : Type} (function : FunctionId) (items : List (FunctionId × α)) : List α :=
  items.filterMap fun (owner, item) => if owner = function then some item else none

namespace Store

/-- Performs an operation that is given no world. -/
def act (store : Store) (operation : Operation Unit) : Outcome :=
  let (store, _, outcome) := store.perform () operation
  (store, outcome)

/-- Makes an edit in the function behind a handle. -/
def edit (store : Store) (ref : FunctionRef) : Edit → Outcome
  | .intern type => store.act (.intern (some ref.context) type)
  | .addBlock => store.act (.addBlock (some ref))
  | .const block type literal =>
    match store.act (.intern (some ref.context) type) with
    | (store, .ok (.type id)) =>
      store.act (.const (store.blockById (some ref) block) id literal)
    | failed => failed
  | .call block callee arguments =>
    store.act (.call (store.blockById (some ref) block)
      (store.functionByName (some ref.context) callee)
      (arguments.map fun argument => store.valueById (some ref) argument))
  | .binary block kind left right =>
    store.act (.binary (store.blockById (some ref) block) kind (store.valueById (some ref) left)
      (store.valueById (some ref) right))
  | .branch block target =>
    store.act (.branch (store.blockById (some ref) block) (store.blockById (some ref) target))
  | .result block value =>
    store.act (.result (store.blockById (some ref) block) (store.valueById (some ref) value))

/-- Makes edits in the functions of a context, one after the other, and tells what came of each. -/
def editAll (store : Store) (id : ContextId) :
    List (FunctionId × Edit) → Store × List (FunctionId × Except Failure (Option Nat))
  | [] => (store, [])
  | (function, change) :: rest =>
    let (store, outcome) := store.edit ⟨id, function⟩ change
    let (store, outcomes) := store.editAll id rest
    (store, (function, outcome.map Handle.number?) :: outcomes)

/-- Two stores each have a context under the same number, and these agree about a function. -/
def AgreeOn (ref : FunctionRef) (store store' : Store) : Prop :=
  ∃ context context', store.contexts[ref.context]? = some context ∧
    store'.contexts[ref.context]? = some context' ∧ context.AgreeOn ref.function context'

/-- Two outcomes are the same up to the numbers of types, and their stores agree. -/
def SameOutcome (ref : FunctionRef) (outcome outcome' : Outcome) : Prop :=
  outcome.2.map Handle.number? = outcome'.2.map Handle.number? ∧
    outcome.1.AgreeOn ref outcome'.1

/-! ## Names instead of handles -/

theorem eq_of_blockById {store : Store} {ref : FunctionRef} {number : Int} {site : BlockRef}
    (resolved : store.blockById (some ref) number = some site) :
    site = ⟨ref.context, ref.function, number.toNat⟩ := by
  simp only [blockById, Option.bind_eq_bind, Option.bind_some, Option.bind_eq_some_iff] at resolved
  obtain ⟨function, -, resolved⟩ := resolved
  split at resolved
  · exact (Option.some.inj resolved).symm
  · cases resolved

theorem eq_of_valueById {store : Store} {ref : FunctionRef} {number : Int} {value : ValueRef}
    (resolved : store.valueById (some ref) number = some value) :
    value = ⟨ref.context, ref.function, number.toNat⟩ := by
  simp only [valueById, Option.bind_eq_bind, Option.bind_some, Option.bind_eq_some_iff] at resolved
  obtain ⟨function, -, resolved⟩ := resolved
  split at resolved
  · exact (Option.some.inj resolved).symm
  · cases resolved

section

variable {store store' : Store} {ref : FunctionRef} {context context' : Context}
  (found : store.contexts[ref.context]? = some context)
  (found' : store'.contexts[ref.context]? = some context')
  (agree : context.AgreeOn ref.function context')

include found found' agree

theorem blockById_eq (number : Int) :
    store.blockById (some ref) number = store'.blockById (some ref) number := by
  simp only [blockById, function?, Option.bind_eq_bind, Option.bind_some, found, found']
  rcases agree.function_cases with ⟨left, right⟩ | ⟨function, function', mirrors⟩
  · rw [left, right]
  · simp only [mirrors.found, mirrors.found', Option.bind_some, mirrors.size_blocks]

theorem valueById_eq (number : Int) :
    store.valueById (some ref) number = store'.valueById (some ref) number := by
  simp only [valueById, function?, Option.bind_eq_bind, Option.bind_some, found, found']
  rcases agree.function_cases with ⟨left, right⟩ | ⟨function, function', mirrors⟩
  · rw [left, right]
  · simp only [mirrors.found, mirrors.found', Option.bind_some, mirrors.size_values]

/-- A value that is named by its number is the same operand. -/
theorem operand_eq (block : BlockId) (number : Int) :
    store.operand ⟨ref.context, ref.function, block⟩ (store.valueById (some ref) number) =
      store'.operand ⟨ref.context, ref.function, block⟩ (store'.valueById (some ref) number) := by
  rw [valueById_eq found found' agree]
  cases resolved : store'.valueById (some ref) number with
  | none => rfl
  | some value =>
    obtain rfl := eq_of_valueById resolved
    simp [operand]

/-- A block that is named by its number is the same target. -/
theorem target_eq (block : BlockId) (number : Int) :
    store.target ⟨ref.context, ref.function, block⟩ (store.blockById (some ref) number) =
      store'.target ⟨ref.context, ref.function, block⟩ (store'.blockById (some ref) number) := by
  rw [blockById_eq found found' agree]
  cases resolved : store'.blockById (some ref) number with
  | none => rfl
  | some other =>
    obtain rfl := eq_of_blockById resolved
    simp [target]

/-- A function that is named by its name is the same callee. -/
theorem callee_eq (block : BlockId) (name : Bytes) :
    store.callee ⟨ref.context, ref.function, block⟩
        (store.functionByName (some ref.context) name) =
      store'.callee ⟨ref.context, ref.function, block⟩
        (store'.functionByName (some ref.context) name) := by
  have named : context.functionNamed? name = context'.functionNamed? name := by
    rw [Context.functionNamed?, Context.functionNamed?, agree.phase, agree.names]
  simp only [functionByName, Option.bind_eq_bind, Option.bind_some, found, found', named]
  cases context'.functionNamed? name with
  | none => rfl
  | some called =>
    simp only [callee, function?, Option.bind_eq_bind, Option.bind_some, found, found']
    rcases agree.target_cases called with ⟨left, right⟩ | ⟨function, function', left, right, -⟩
    · rw [left, right]
    · simp [left, right]

end

/-! ## One edit in both -/

section

variable {store store' : Store} {ref : FunctionRef} {context context' : Context}
  (found : store.contexts[ref.context]? = some context)
  (found' : store'.contexts[ref.context]? = some context')
  (agree : context.AgreeOn ref.function context')

include found found' agree

theorem sameOutcome_fail (failure : Failure) :
    SameOutcome ref (store, .error failure) (store', .error failure) :=
  ⟨rfl, context, context', found, found', agree⟩

omit agree in
theorem agreeOn_set {changed changed' : Context} (agree : changed.AgreeOn ref.function changed') :
    (store.set ref.context changed).AgreeOn ref (store'.set ref.context changed') :=
  ⟨changed, changed', contexts_set_self found changed, contexts_set_self found' changed', agree⟩

/-- A change of a context has the same outcome in both, if it makes the same of both contexts. -/
theorem sameOutcome_change {α : Type} {steps steps' : Construct α} (spares : steps.Spares)
    (spares' : steps'.Spares) {handle handle' : α → Handle}
    (alike : ∀ value, (handle value).number? = (handle' value).number?)
    (changed : Matches (fun made made' => made.2 = made'.2 ∧ made.1.AgreeOn ref.function made'.1)
      (steps.outcome context) (steps'.outcome context')) :
    SameOutcome ref (store.change ref.context context steps .build handle)
      (store'.change ref.context context' steps' .build handle') := by
  rcases changed.cases with
    ⟨failure, left, right⟩ | ⟨⟨changed, value⟩, ⟨changed', value'⟩, left, right, same, agree⟩
  · rw [change_of_error found spares left, change_of_error found' spares' right]
    exact sameOutcome_fail found found' agree _
  · obtain rfl : value = value' := same
    rw [change_of_ok left, change_of_ok right]
    exact ⟨congrArg Except.ok (alike value), agreeOn_set found found' agree⟩

theorem sameOutcome_inBlock {α : Type} (action : Bytes) (number : Int)
    {steps steps' : BlockRef → Construct α} (spares : ∀ site, (steps site).Spares)
    (spares' : ∀ site, (steps' site).Spares) (handle : BlockRef → α → Handle)
    (changed : ∀ block,
      Matches (fun made made' => made.2 = made'.2 ∧ made.1.AgreeOn ref.function made'.1)
        ((steps ⟨ref.context, ref.function, block⟩).outcome context)
        ((steps' ⟨ref.context, ref.function, block⟩).outcome context')) :
    SameOutcome ref (store.inBlock action (store.blockById (some ref) number) steps handle)
      (store'.inBlock action (store'.blockById (some ref) number) steps' handle) := by
  rw [blockById_eq found found' agree]
  cases resolved : store'.blockById (some ref) number with
  | none => exact sameOutcome_fail found found' agree _
  | some site =>
    obtain rfl := eq_of_blockById resolved
    simp only [inBlock, found, found']
    exact sameOutcome_change found found' agree (spares _) (spares' _) (fun _ => rfl)
      (changed number.toNat)

theorem sameOutcome_addBlock :
    SameOutcome ref (store.addBlock (some ref)) (store'.addBlock (some ref)) := by
  simp only [addBlock, inFunction, found, found']
  exact sameOutcome_change found found' agree (Construct.spares_addBlock _)
    (Construct.spares_addBlock _) (fun _ => rfl) agree.matches_addBlock

/-- A type is interned in both with the same outcome, and means the same in both. -/
theorem sameOutcome_intern (formed : context.WellFormed) (formed' : context'.WellFormed)
    (type : Descriptor) :
    (∃ failure, store.intern (some ref.context) type = (store, .error failure) ∧
      store'.intern (some ref.context) type = (store', .error failure)) ∨
    ∃ changed changed' id id',
      store.intern (some ref.context) type = (store.set ref.context changed, .ok (.type id)) ∧
      store'.intern (some ref.context) type = (store'.set ref.context changed', .ok (.type id')) ∧
      changed.AgreeOn ref.function changed' ∧ changed.types.lookup? id = some type ∧
      changed'.types.lookup? id' = some type := by
  have resolved : store.context? (some ref.context) = some context := found
  have resolved' : store'.context? (some ref.context) = some context' := found'
  rcases (agree.matches_intern formed formed' type).cases with
    ⟨fault, left, right⟩ | ⟨⟨changed, id⟩, ⟨changed', id'⟩, left, right, agree, known, known'⟩
  · refine .inl ⟨.fault fault, ?_, ?_⟩
    · simp only [intern, resolved]
      exact change_of_error found (Construct.spares_intern type) left
    · simp only [intern, resolved']
      exact change_of_error found' (Construct.spares_intern type) right
  · refine .inr ⟨changed, changed', id, id', ?_, ?_, agree, known, known'⟩
    · simp only [intern, resolved]
      exact change_of_ok left
    · simp only [intern, resolved']
      exact change_of_ok right

/-- An edit of a function has the same outcome wherever the contexts agree about the function. -/
theorem sameOutcome_edit (formed : context.WellFormed) (formed' : context'.WellFormed)
    (change : Edit) : SameOutcome ref (store.edit ref change) (store'.edit ref change) := by
  cases change with
  | intern type =>
    change SameOutcome ref (store.intern _ type) (store'.intern _ type)
    rcases sameOutcome_intern found found' agree formed formed' type with
      ⟨failure, left, right⟩ | ⟨changed, changed', id, id', left, right, agree, -, -⟩
    · rw [left, right]
      exact sameOutcome_fail found found' agree _
    · rw [left, right]
      exact ⟨rfl, agreeOn_set found found' agree⟩
  | addBlock => exact sameOutcome_addBlock found found' agree
  | const block type literal =>
    have act (store : Store) :
        store.act (.intern (some ref.context) type) = store.intern (some ref.context) type := rfl
    rcases sameOutcome_intern found found' agree formed formed' type with
      ⟨failure, left, right⟩ | ⟨changed, changed', id, id', left, right, agree, known, known'⟩
    · simp only [edit, act, left, right]
      exact sameOutcome_fail found found' agree _
    · have here := contexts_set_self found changed
      have here' := contexts_set_self found' changed'
      simp only [edit, act, left, right]
      refine sameOutcome_inBlock here here' agree _ block (fun _ => Construct.spares_const _ _ _)
        (fun _ => Construct.spares_const _ _ _) _ fun place => ?_
      exact agree.matches_buildConst place (by rw [known]; rfl) (known.trans known'.symm) literal
  | call block callee arguments =>
    refine sameOutcome_inBlock found found' agree _ block (fun _ => Construct.spares_call _ _ _)
      (fun _ => Construct.spares_call _ _ _) _ fun place => ?_
    simp only [callee_eq found found' agree, List.map_map, Function.comp_def,
      operand_eq found found' agree]
    exact agree.matches_buildCall formed formed' place _ _
  | binary block kind left right =>
    refine sameOutcome_inBlock found found' agree _ block (fun _ => Construct.spares_binary _ _ _ _)
      (fun _ => Construct.spares_binary _ _ _ _) _ fun place => ?_
    simp only [operand_eq found found' agree]
    exact agree.matches_buildBinary formed formed' place kind _ _
  | branch block target =>
    refine sameOutcome_inBlock found found' agree _ block (fun _ => Construct.spares_branch _ _)
      (fun _ => Construct.spares_branch _ _) _ fun place => .of_map_fst ?_
    simp only [target_eq found found' agree]
    exact agree.matches_buildBranch place _
  | result block value =>
    refine sameOutcome_inBlock found found' agree _ block (fun _ => Construct.spares_result _ _)
      (fun _ => Construct.spares_result _ _) _ fun place => .of_map_fst ?_
    simp only [operand_eq found found' agree]
    exact agree.matches_buildReturn formed formed' place _

end

end Store

/-! ## An edit of another function -/

namespace Context

/-- More types make no difference to any function. -/
theorem GainsTypes.agreeOn {before after : Context} (gained : before.GainsTypes after)
    (formed : before.WellFormed) (id : FunctionId) : before.AgreeOn id after := by
  obtain ⟨types, rfl⟩ : ∃ types, after = { before with types } := ⟨_, gained.same⟩
  have outlines : { before with types }.outlines = before.outlines := by
    refine List.map_congr_left fun function member => ?_
    obtain ⟨number, found⟩ := Arena.mem_toList_iff.mp member
    exact (formed.functions number function found).outline_extends gained.types
  exact ⟨rfl, rfl, rfl, by rw [outlines], by rw [outlines]⟩

/-- A change of one function that keeps its name and its types makes no difference to another. -/
theorem ChangesFunction.agreeOn {id other : FunctionId} {change : Function → Function → Prop}
    {before after : Context} (changed : before.ChangesFunction id change after)
    (keeps : ∀ function function', change function function' →
      function'.name = function.name ∧ function'.signature = function.signature)
    (apart : other ≠ id) : before.AgreeOn other after := by
  obtain ⟨functions, rfl⟩ : ∃ functions, after = { before with functions } := ⟨_, changed.same⟩
  refine ⟨rfl, rfl, rfl, List.ext_getElem? fun number => ?_, ?_⟩
  · simp only [List.getElem?_map, getElem?_outlines]
    by_cases here : number = id
    · subst here
      obtain ⟨function, function', found, found', changes⟩ := changed.functions.here
      obtain ⟨name, signature⟩ := keeps function function' changes
      simp [found, found', Outline.head, Function.outline, name, signature]
    · rw [changed.functions.elsewhere number here]
  · rw [getElem?_outlines, getElem?_outlines, changed.functions.elsewhere other apart]

end Context

/-- An operation that only interns types for a function or works on its body. -/
def Operation.WorksIn {World : Type} (ref : FunctionRef) : Operation World → Prop
  | .intern context _ => context = some ref.context
  | .addBlock function => function = some ref
  | .const block _ _ | .call block _ _ | .binary block _ _ _ | .branch block _ | .result block _ =>
    ∀ site, block = some site → site.home = ref
  | _ => False

namespace Store

theorem AgreeOn.symm {ref : FunctionRef} {store store' : Store} (agree : store.AgreeOn ref store') :
    store'.AgreeOn ref store := by
  obtain ⟨context, context', found, found', agree⟩ := agree
  exact ⟨context', context, found', found, agree.symm⟩

theorem AgreeOn.trans {ref : FunctionRef} {store store' store'' : Store}
    (early : store.AgreeOn ref store') (late : store'.AgreeOn ref store'') :
    store.AgreeOn ref store'' := by
  obtain ⟨context, context', found, found', early⟩ := early
  obtain ⟨between, context'', foundBetween, found'', late⟩ := late
  obtain rfl := Option.some.inj (found'.symm.trans foundBetween)
  exact ⟨context, context'', found, found'', early.trans late⟩

section

variable {store : Store} {ref : FunctionRef} {other : FunctionId} {context : Context}
  (found : store.contexts[ref.context]? = some context) (formed : context.WellFormed)
  (apart : other ≠ ref.function)

include found

theorem agreeOn_of_changes {after : Store} {id : ContextId} {change : Context → Context → Prop}
    (changed : store.Changes id change after)
    (agrees : ∀ context', change context context' → context.AgreeOn other context') :
    store.AgreeOn ⟨ref.context, other⟩ after := by
  obtain ⟨context', found', agree⟩ :=
    changed.exists_of found (.refl other context) fun context' _ => agrees context'
  exact ⟨context, context', found, found', agree⟩

include formed apart

theorem agreeOn_of_confined {after : Store} {operation : Operation Unit}
    (works : operation.WorksIn ref) (confined : operation.Confined store after) :
    store.AgreeOn ⟨ref.context, other⟩ after := by
  have inFunction {site : FunctionRef} {change : Function → Function → Prop} (same : site = ref)
      (changed : store.Changes site.context (Context.ChangesFunction site.function change) after)
      (keeps : ∀ function function', change function function' →
        function'.name = function.name ∧ function'.signature = function.signature) :
      store.AgreeOn ⟨ref.context, other⟩ after := by
    subst same
    exact agreeOn_of_changes found changed fun context' altered => altered.agreeOn keeps apart
  cases operation with
  | intern handle type =>
    obtain ⟨id, -, changed⟩ := confined
    exact agreeOn_of_changes found changed fun context' gained => gained.agreeOn formed other
  | addBlock handle =>
    obtain ⟨site, rfl, changed⟩ := confined
    refine inFunction (Option.some.inj works) changed fun function function' gained => ?_
    rw [gained.same]
    exact ⟨rfl, rfl⟩
  | const _ _ _ | call _ _ _ | binary _ _ _ _ =>
    obtain ⟨site, rfl, changed⟩ := confined
    exact inFunction (works site rfl) changed fun _ _ gained => ⟨gained.name, gained.signature⟩
  | branch _ _ | result _ _ =>
    obtain ⟨site, rfl, changed⟩ := confined
    refine inFunction (works site rfl) changed fun function function' ended => ?_
    rw [ended.same]
    exact ⟨rfl, rfl⟩
  | _ => exact works.elim

/-- Work in one function makes no difference to another, whether it succeeds or fails. -/
theorem agreeOn_act {operation : Operation Unit} (works : operation.WorksIn ref) :
    store.AgreeOn ⟨ref.context, other⟩ (store.act operation).1 := by
  cases outcome : (store.perform () operation).2.2 with
  | error failure =>
    have constructs : operation.isLowering = false := by
      cases operation <;> first | rfl | exact works.elim
    rw [act, perform_of_failed constructs outcome]
    exact ⟨context, context, found, found, .refl other context⟩
  | ok made =>
    exact agreeOn_of_confined found formed apart works (confined_perform store () operation outcome)

end

theorem Lived.act {store : Store} (lived : store.Lived) (operation : Operation Unit) :
    (store.act operation).1.Lived :=
  lived.moves (store.moves_perform () operation)

/-- An edit is one operation, or the interning of a type and one operation after it. -/
theorem edit_cases (store : Store) (ref : FunctionRef) (change : Edit) :
    (∃ operation : Operation Unit, store.edit ref change = store.act operation ∧
      operation.WorksIn ref) ∨
    ∃ (type : Descriptor) (operation : Operation Unit), store.edit ref change =
        (store.act (.intern (some ref.context) type)).1.act operation ∧
      operation.WorksIn ref := by
  have within {store : Store} {number : Int} (site : BlockRef)
      (resolved : store.blockById (some ref) number = some site) : site.home = ref := by
    obtain rfl := eq_of_blockById resolved
    rfl
  cases change with
  | intern type => exact .inl ⟨.intern (some ref.context) type, rfl, rfl⟩
  | addBlock => exact .inl ⟨.addBlock (some ref), rfl, rfl⟩
  | const block type literal =>
    rcases interned : store.act (.intern (some ref.context) type) with ⟨after, failure | handle⟩
    · exact .inl ⟨.intern (some ref.context) type, by simp only [edit, interned], rfl⟩
    · cases handle
      case type id =>
        refine .inr ⟨type, .const (after.blockById (some ref) block) id literal, ?_, within⟩
        simp only [edit, interned]
      all_goals exact .inl ⟨.intern (some ref.context) type, by simp only [edit, interned], rfl⟩
  | call block callee arguments => exact .inl ⟨.call _ _ _, rfl, within⟩
  | binary block kind left right => exact .inl ⟨.binary _ _ _ _, rfl, within⟩
  | branch block target => exact .inl ⟨.branch _ _, rfl, within⟩
  | result block value => exact .inl ⟨.result _ _, rfl, within⟩

theorem Lived.edit {store : Store} (lived : store.Lived) (ref : FunctionRef) (change : Edit) :
    (store.edit ref change).1.Lived := by
  rcases store.edit_cases ref change with ⟨operation, same, -⟩ | ⟨type, operation, same, -⟩
  · rw [same]
    exact lived.act operation
  · rw [same]
    exact (lived.act _).act operation

/-- An edit of one function makes no difference to another, whether it succeeds or fails. -/
theorem agreeOn_edit {store : Store} (lived : store.Lived) (ref : FunctionRef) {context : Context}
    (found : store.contexts[ref.context]? = some context) {other : FunctionId}
    (apart : other ≠ ref.function) (change : Edit) :
    store.AgreeOn ⟨ref.context, other⟩ (store.edit ref change).1 := by
  have formed := lived.wellFormed (Array.mem_of_getElem? found)
  rcases store.edit_cases ref change with ⟨operation, same, works⟩ | ⟨type, operation, same, works⟩
  · rw [same]
    exact agreeOn_act found formed apart works
  · -- The type is interned first, so the operation starts from a context that agrees already.
    have interned : store.AgreeOn ⟨ref.context, other⟩
        (store.act (.intern (some ref.context) type)).1 := agreeOn_act found formed apart rfl
    have ⟨_, context', _, held, _⟩ := interned
    have found' : (store.act (.intern (some ref.context) type)).1.contexts[ref.context]? =
      some context' := held
    have formed' := (lived.act _).wellFormed (Array.mem_of_getElem? found')
    rw [same]
    exact interned.trans (agreeOn_act found' formed' apart works)

/-! ## Edits of several functions -/

theorem itemsOf_cons_self {α : Type} (function : FunctionId) (item : α)
    (items : List (FunctionId × α)) :
    itemsOf function ((function, item) :: items) = item :: itemsOf function items := by
  simp [itemsOf]

theorem itemsOf_cons_of_ne {α : Type} {function owner : FunctionId} (apart : owner ≠ function)
    (item : α) (items : List (FunctionId × α)) :
    itemsOf function ((owner, item) :: items) = itemsOf function items := by
  simp [itemsOf, apart]

theorem Lived.editAll {store : Store} (lived : store.Lived) (id : ContextId)
    (edits : List (FunctionId × Edit)) : (store.editAll id edits).1.Lived := by
  induction edits generalizing store with
  | nil => exact lived
  | cons first rest ih => exact ih (lived.edit ⟨id, first.1⟩ first.2)

/-- To a function it is as if nobody had edited the others: its edits have the outcomes that they
have alone, and it ends up the same. -/
theorem editAll_alone (id : ContextId) (function : FunctionId)
    (edits : List (FunctionId × Edit)) {store store' : Store} (lived : store.Lived)
    (lived' : store'.Lived) (agree : store.AgreeOn ⟨id, function⟩ store') :
    let alone := (itemsOf function edits).map (Prod.mk function)
    itemsOf function (store.editAll id edits).2 =
        itemsOf function (store'.editAll id alone).2 ∧
      (store.editAll id edits).1.AgreeOn ⟨id, function⟩ (store'.editAll id alone).1 := by
  -- By induction on the edits: an edit of the function is made in both runs, any other in one.
  induction edits generalizing store store' with
  | nil => exact ⟨rfl, agree⟩
  | cons first rest ih =>
    obtain ⟨owner, change⟩ := first
    obtain ⟨context, context', found, found', same⟩ := agree
    have formed := lived.wellFormed (Array.mem_of_getElem? found)
    have formed' := lived'.wellFormed (Array.mem_of_getElem? found')
    by_cases here : owner = function
    · subst here
      obtain ⟨outcomes, agreed⟩ := sameOutcome_edit found found' same formed formed' change
      obtain ⟨others, final⟩ := ih (lived.edit _ change) (lived'.edit _ change) agreed
      rw [itemsOf_cons_self, List.map_cons]
      simp only [editAll, itemsOf_cons_self]
      exact ⟨by rw [outcomes, others], final⟩
    · have kept : store.AgreeOn ⟨id, function⟩ (store.edit ⟨id, owner⟩ change).1 :=
        agreeOn_edit lived ⟨id, owner⟩ found (Ne.symm here) change
      rw [itemsOf_cons_of_ne here]
      simp only [editAll, itemsOf_cons_of_ne here]
      exact ih (lived.edit _ change) lived' (kept.symm.trans ⟨_, _, found, found', same⟩)

end Store

/-! ## What comes out -/

/-- Two contexts that no observer can tell apart. -/
structure Context.LooksLike (context context' : Context) : Prop where
  /-- They are written down the same. -/
  snapshot : context.take = context'.take
  /-- They read the same. -/
  text : context.dump = context'.dump
  /-- They miss the same, or nothing. -/
  verdict : context.validate = context'.validate
  /-- They are lowered to the same module, whenever it is cancelled. -/
  module : ∀ cancelled, Llvm.emit context cancelled = Llvm.emit context' cancelled

theorem Context.AgreeOn.looksLike {context context' : Context}
    (agree : ∀ id, context.AgreeOn id context') (formed : context.WellFormed)
    (formed' : context'.WellFormed) : context.LooksLike context' := by
  by_cases gone : context.phase = .destroyed
  · -- There is nothing to be seen of a context that is destroyed.
    have gone' : context'.phase = .destroyed := (agree 0).phase ▸ gone
    have refused {context : Context} (gone : context.phase = .destroyed) :
        context.readable = .error (closedFault "destroyed") := by rw [readable, gone]
    constructor
    case snapshot => simp [take, listFunctions, gone, gone', (agree 0).optimize]
    case text => simp only [dump, refused gone, refused gone', bind, Except.bind]
    case verdict => simp only [validate, refused gone, refused gone']
    case module => simp [Llvm.emit, listFunctions, gone, gone', Llvm.emitBodies]
  · have alike := Context.AgreeOn.alike agree formed formed' gone
    exact ⟨alike.take_eq, alike.dump_eq, alike.validate_eq, alike.emit_eq⟩

/-- A list of edits that interleaves the edits of each function, which keep their order. -/
def Interleaves (bodies : FunctionId → List Edit) (edits : List (FunctionId × Edit)) : Prop :=
  ∀ function, itemsOf function edits = bodies function

namespace Store

variable {World : Type}

/-- In every state that a run has led to, let the bodies of the functions of a context be given as
lists of edits. However these are interleaved, each edit has the same outcome, and no observer can
tell apart what comes out. -/
theorem run_interleaved (world : World) (operations : List (Operation World)) (id : ContextId)
    (present : ((run {} world operations).contexts[id]?).isSome)
    (bodies : FunctionId → List Edit) (one other : List (FunctionId × Edit))
    (ordered : Interleaves bodies one) (ordered' : Interleaves bodies other) :
    let made := (run {} world operations).editAll id one
    let made' := (run {} world operations).editAll id other
    (∀ function, itemsOf function made.2 = itemsOf function made'.2) ∧
      ∃ context context', made.1.contexts[id]? = some context ∧
        made'.1.contexts[id]? = some context' ∧ context.LooksLike context' := by
  intro made made'
  have lived : (run {} world operations).Lived := Lived.empty.run world operations
  obtain ⟨start, found⟩ := Option.isSome_iff_exists.mp present
  -- Both lists do to a function what its own edits do alone.
  have same (function : FunctionId) :
      itemsOf function made.2 = itemsOf function made'.2 ∧
        made.1.AgreeOn ⟨id, function⟩ made'.1 := by
    have agree : (run {} world operations).AgreeOn ⟨id, function⟩ (run {} world operations) :=
      ⟨start, start, found, found, .refl function start⟩
    obtain ⟨outcomes, final⟩ := editAll_alone id function one lived lived agree
    obtain ⟨outcomes', final'⟩ := editAll_alone id function other lived lived agree
    rw [ordered function] at outcomes final
    rw [ordered' function] at outcomes' final'
    exact ⟨outcomes.trans outcomes'.symm, final.trans final'.symm⟩
  refine ⟨fun function => (same function).1, ?_⟩
  obtain ⟨context, context', held, held', -⟩ := (same 0).2
  refine ⟨context, context', held, held', Context.AgreeOn.looksLike (fun function => ?_) ?_ ?_⟩
  · obtain ⟨_, _, again, again', agree⟩ := (same function).2
    cases held.symm.trans again
    cases held'.symm.trans again'
    exact agree
  · exact (lived.editAll id one).wellFormed (Array.mem_of_getElem? held)
  · exact (lived.editAll id other).wellFormed (Array.mem_of_getElem? held')

/-- A context with two functions that are only declared. -/
def siblingRun : List (Operation Unit) := [
  .newContext false,
  .addFunction (some 0) (utf8 "first") ⟨[5], 5⟩,
  .addFunction (some 0) (utf8 "second") ⟨[5], 5⟩]

/-- The bodies of two functions, one after the other. -/
def inSequence : List (FunctionId × Edit) := [
  (0, .addBlock), (0, .const 0 (.int 7) 3), (0, .call 0 (utf8 "second") [0]), (0, .result 0 2),
  (1, .addBlock), (1, .const 0 (.int 9) 4), (1, .result 0 1), (1, .result 0 0)]

/-- The same bodies in turns, the second function first. -/
def inTurns : List (FunctionId × Edit) := [
  (1, .addBlock), (1, .const 0 (.int 9) 4), (0, .addBlock), (0, .const 0 (.int 7) 3),
  (1, .result 0 1), (0, .call 0 (utf8 "second") [0]), (1, .result 0 0), (0, .result 0 2)]

theorem run_interleaved_inTurns :
    let made := (run {} () siblingRun).editAll 0 inSequence
    let made' := (run {} () siblingRun).editAll 0 inTurns
    (∀ function, itemsOf function made.2 = itemsOf function made'.2) ∧
      (∃ context context', made.1.contexts[0]? = some context ∧
        made'.1.contexts[0]? = some context' ∧ context.LooksLike context') ∧
      made.1.contexts[0]?.map Context.types ≠ made'.1.contexts[0]?.map Context.types := by
  have ordered : Interleaves (fun function => itemsOf function inSequence) inTurns := by
    intro function
    rcases function with _ | _ | function
    · decide
    · decide
    · simp [itemsOf, inSequence, inTurns]
  obtain ⟨outcomes, alike⟩ := run_interleaved () siblingRun 0 (by decide) _ inSequence inTurns
    (fun _ => rfl) ordered
  exact ⟨outcomes, alike, by decide⟩

end Store
end Blockwork
