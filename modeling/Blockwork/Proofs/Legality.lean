import Blockwork.Proofs.Attempts
import Blockwork.Proofs.Isolation
import Blockwork.Proofs.Kinds

/-!
# Which calls are accepted

A call that constructs something looks at its arguments one after the other. It makes demands, and
the first demand that is not met decides how the call is refused; and it goes on to use things
without asking whether they are there. This file lists the demands and the uses of every call, in
their order. A call succeeds exactly if all its demands are met, a call that is refused is refused
for the first demand that is not, and whatever is used is there.
-/

namespace Blockwork

variable {World : Type}

/-! ## Courses of checks -/

/-- One thing that matters in the course of a call. -/
inductive Check where
  /-- A demand; a call that does not meet it is refused with a failure of the given kind. -/
  | demand (kind : FailureKind) (met : Prop)
  /-- Something is used, whether or not it is there. -/
  | use (there : Prop)

/-- Whether a call gets past a check. -/
def Check.Passes : Check → Prop
  | .demand _ met => met
  | .use there => there

/-- An outcome is what a course of checks leads to: a success if the call gets past all of them, and
a failure of the right kind if it comes to a demand that is not met. What is used has to be there;
there is no outcome otherwise. -/
inductive Follows {ε α : Type} (kinds : ε → List FailureKind) :
    Except ε α → List Check → Prop
  /-- Nothing is left to check. -/
  | accepted (value : α) : Follows kinds (.ok value) []
  /-- A demand is met. -/
  | met {outcome : Except ε α} {kind : FailureKind} {met : Prop} {rest : List Check}
      (holds : met) (more : Follows kinds outcome rest) :
      Follows kinds outcome (.demand kind met :: rest)
  /-- A demand is not met. -/
  | refused {error : ε} {kind : FailureKind} {met : Prop} {rest : List Check} (unmet : ¬ met)
      (same : kinds error = [kind]) : Follows kinds (.error error) (.demand kind met :: rest)
  /-- Something is used, and is there. -/
  | used {outcome : Except ε α} {there : Prop} {rest : List Check} (holds : there)
      (more : Follows kinds outcome rest) : Follows kinds outcome (.use there :: rest)

namespace Follows

variable {ε α β : Type} {kinds : ε → List FailureKind} {outcome : Except ε α} {checks : List Check}

/-- One course after another. -/
theorem bind {next : α → Except ε β} {others : List Check} (first : Follows kinds outcome checks)
    (second : ∀ value, outcome = .ok value → Follows kinds (next value) others) :
    Follows kinds (outcome >>= next) (checks ++ others) := by
  induction first with
  | accepted value => exact second value rfl
  | met holds _ ih => exact .met holds (ih second)
  | refused unmet same => exact .refused unmet same
  | used holds _ ih => exact .used holds (ih second)

/-- Another call that succeeds along with one that takes the checks. -/
theorem of_ok {ε' : Type} {kinds' : ε' → List FailureKind} {value : α} {value' : β}
    (follows : Follows kinds outcome checks) (done : outcome = .ok value) :
    Follows kinds' (.ok value') checks := by
  induction follows with
  | accepted _ => exact .accepted value'
  | met holds _ ih => exact .met holds (ih done)
  | refused _ _ => cases done
  | used holds _ ih => exact .used holds (ih done)

/-- Another call that fails along with one that takes the checks, and with the same kinds. -/
theorem of_error {ε' : Type} {kinds' : ε' → List FailureKind} {error : ε} {error' : ε'}
    (follows : Follows kinds outcome checks) (failed : outcome = .error error)
    (same : kinds' error' = kinds error) :
    Follows kinds' (.error error' : Except ε' β) checks := by
  induction follows with
  | accepted _ => cases failed
  | met holds _ ih => exact .met holds (ih failed)
  | refused unmet kind =>
    cases failed
    exact .refused unmet (same.trans kind)
  | used holds _ ih => exact .used holds (ih failed)

theorem of_map {change : α → β} (follows : Follows kinds (outcome.map change) checks) :
    Follows kinds outcome checks := by
  cases outcome with
  | error error => exact follows.of_error rfl rfl
  | ok value => exact follows.of_ok rfl

/-- A call succeeds exactly if it gets past all its checks. -/
theorem granted_iff (follows : Follows kinds outcome checks) :
    (∃ value, outcome = .ok value) ↔ ∀ check ∈ checks, check.Passes := by
  induction follows with
  | accepted value => simp
  | met holds _ ih => simpa [Check.Passes, holds] using ih
  | refused unmet _ => simp [Check.Passes, unmet]
  | used holds _ ih => simpa [Check.Passes, holds] using ih

/-- A call that fails has come to a demand that is not met, and fails with its kind. -/
theorem exists_of_error {error : ε} (follows : Follows kinds outcome checks)
    (failed : outcome = .error error) :
    ∃ before kind met after, checks = before ++ .demand kind met :: after ∧
      (∀ check ∈ before, check.Passes) ∧ ¬ met ∧ kinds error = [kind] := by
  induction follows with
  | accepted value => cases failed
  | @met _ kind met _ holds _ ih =>
    obtain ⟨before, other, unmet, after, rfl, passed, rest⟩ := ih failed
    exact ⟨.demand kind met :: before, other, unmet, after, rfl,
      List.forall_mem_cons.mpr ⟨holds, passed⟩, rest⟩
  | @refused _ kind met rest unmet same =>
    cases failed
    exact ⟨[], kind, met, rest, rfl, by simp, unmet, same⟩
  | @used _ there _ holds _ ih =>
    obtain ⟨before, other, unmet, after, rfl, passed, rest⟩ := ih failed
    exact ⟨.use there :: before, other, unmet, after, rfl,
      List.forall_mem_cons.mpr ⟨holds, passed⟩, rest⟩

/-- What a call comes to use is there. -/
theorem there_of_use (follows : Follows kinds outcome checks) {before after : List Check}
    {there : Prop} (split : checks = before ++ .use there :: after)
    (passed : ∀ check ∈ before, check.Passes) : there := by
  induction follows generalizing before with
  | accepted value => simp at split
  | met holds _ ih =>
    cases before with
    | nil => cases split
    | cons first before =>
      cases split
      exact ih rfl fun check member => passed check (List.mem_cons_of_mem _ member)
  | refused unmet same =>
    cases before with
    | nil => cases split
    | cons first before =>
      cases split
      exact absurd (passed _ List.mem_cons_self) unmet
  | used holds _ ih =>
    cases before with
    | nil =>
      cases split
      exact holds
    | cons first before =>
      cases split
      exact ih rfl fun check member => passed check (List.mem_cons_of_mem _ member)

end Follows

/-! ## What the calls check -/

/-- The operators have consecutive codes. -/
theorem Operator.isSome_ofCode?_iff {code : UInt8} :
    (ofCode? code).isSome ↔ 3 ≤ code ∧ code ≤ 21 := by
  constructor
  · intro decoded
    obtain ⟨operator, decoded⟩ := Option.isSome_iff_exists.mp decoded
    obtain rfl : operator.code = code := by simpa using List.find?_some decoded
    cases operator <;> decide
  · rintro ⟨least, greatest⟩
    have low : 3 ≤ code.toNat := UInt8.le_iff_toNat_le.mp least
    have high : code.toNat ≤ 21 := UInt8.le_iff_toNat_le.mp greatest
    rw [← UInt8.ofNat_toNat (x := code)]
    generalize code.toNat = number at low high
    interval_cases number <;> rfl

namespace Store

variable (store : Store)

/-- Whether something can be built in a context. -/
def Building (context : Option ContextId) : Prop :=
  ∃ content, store.context? context = some content ∧ content.phase = .building

/-- Whether a number names a type of a context. -/
def Knows (context : Option ContextId) (type : TypeId) : Prop :=
  ∃ content, store.context? context = some content ∧ (content.types.lookup? type).isSome

/-- The types of the arguments and the result of a function. -/
def signature? (function : Option FunctionRef) : Option Signature :=
  (store.function? function).map Function.signature

/-- The type of a value. -/
def typeOf? (value : Option ValueRef) : Option TypeId := (store.value? value).map Value.type

/-- The function that a block belongs to, found through its context. -/
def holder? (block : Option BlockRef) : Option Function := do
  let ref ← block
  store.owner? ref.context ref.place.function

/-- What every call checks that adds to a block: the block is there, its context is open, and it has
no end. -/
def blockChecks (block : Option BlockRef) : List Check := [
  .demand .invalidHandle (store.block? block).isSome,
  .demand .contextClosed (store.Building (block.map BlockRef.context)),
  .demand .terminatorAlreadySet
    (∃ content, store.block? block = some content ∧ content.terminator = none)]

/-- What is checked of a value that is offered to an instruction: there is one, and it is one of the
function that the block belongs to. -/
def valueChecks (block : Option BlockRef) (value : Option ValueRef) : List Check := [
  .demand .invalidHandle value.isSome,
  .demand .crossFunction (value.map ValueRef.home = block.map BlockRef.home),
  .demand .invalidHandle (store.value? value).isSome]

/-- What is checked of the arguments of a call, one after the other. -/
def argumentChecks (block : Option BlockRef) :
    List TypeId → List (Option ValueRef) → List Check
  | type :: types, value :: values =>
    store.valueChecks block value ++
      .demand .typeMismatch (store.typeOf? value = some type) :: argumentChecks block types values
  | _, _ => []

/-- What is checked before a type is interned. -/
def internChecks (context : Option ContextId) (type : Descriptor) : List Check := [
  .demand .invalidHandle (store.context? context).isSome,
  .demand .contextClosed (store.Building context),
  .demand .invalidType type.Valid]

/-- What is checked before a function is added. -/
def functionChecks (context : Option ContextId) (name : Bytes) (signature : Signature) :
    List Check := [
  .demand .invalidHandle (store.context? context).isSome,
  .demand .contextClosed (store.Building context),
  .demand .invalidName (Text.normalize name ≠ [] ∧
    ∀ glyph ∈ Glyph.list (Text.normalize name), FunctionName.isReserved glyph.char = false),
  .demand .duplicateFunction (∀ ref : FunctionRef, context = some ref.context →
    ∀ function, store.function? (some ref) = some function →
      function.name ≠ Text.normalize name),
  .demand .invalidType (∀ type ∈ signature.output :: signature.inputs, store.Knows context type),
  .use (∃ content, store.context? context = some content ∧ content.phase ≠ .destroyed)]

/-- What is checked before something is done with a function. -/
def handleChecks (function : Option FunctionRef) : List Check := [
  .demand .invalidHandle (store.function? function).isSome,
  .demand .contextClosed (store.Building (function.map FunctionRef.context))]

/-- What is checked before an argument is handed out. -/
def positionChecks (function : Option FunctionRef) (index : Int) : List Check :=
  store.handleChecks function ++ [
    .demand .indexOutOfRange (∃ signature, store.signature? function = some signature ∧
      0 ≤ index ∧ index < signature.inputs.length)]

/-- What is checked before a constant is added. -/
def constChecks (block : Option BlockRef) (type : TypeId) : List Check :=
  store.blockChecks block ++ [
    .demand .invalidType (store.Knows (block.map BlockRef.context) type),
    .use (store.holder? block).isSome]

/-- What is checked before a call is added. -/
def callChecks (block : Option BlockRef) (callee : Option FunctionRef)
    (arguments : List (Option ValueRef)) : List Check :=
  store.blockChecks block ++ ([
    .demand .invalidHandle (store.function? callee).isSome,
    .demand .invalidHandle (callee.map FunctionRef.context = block.map BlockRef.context),
    .demand .arityMismatch (∃ signature, store.signature? callee = some signature ∧
      arguments.length = signature.inputs.length)] ++
    (store.argumentChecks block (((store.signature? callee).map Signature.inputs).getD [])
      arguments ++ [.use (store.holder? block).isSome]))

/-- What is checked before an operation on two values is added. -/
def binaryChecks (block : Option BlockRef) (kind : UInt8) (left right : Option ValueRef) :
    List Check :=
  store.blockChecks block ++ .demand .invalidOpcode (3 ≤ kind ∧ kind ≤ 21) ::
    (store.valueChecks block left ++ (store.valueChecks block right ++ [
      .demand .typeMismatch (store.typeOf? left = store.typeOf? right),
      .use (store.holder? block).isSome]))

/-- What is checked before a block is ended by a jump. -/
def branchChecks (block target : Option BlockRef) : List Check :=
  store.blockChecks block ++ [
    .demand .invalidHandle target.isSome,
    .demand .crossFunction (target.map BlockRef.home = block.map BlockRef.home),
    .demand .invalidHandle (store.block? target).isSome]

/-- What is checked before a block is ended by returning a value. -/
def resultChecks (block : Option BlockRef) (value : Option ValueRef) : List Check :=
  store.blockChecks block ++ (store.valueChecks block value ++ [
    .use (store.holder? block).isSome,
    .demand .typeMismatch (∃ function, store.holder? block = some function ∧
      store.typeOf? value = some function.signature.output)])

/-- The checks of an operation that constructs something, in their order. -/
def checks? : Operation World → Option (List Check)
  | .intern context type => some (store.internChecks context type)
  | .addFunction context name signature => some (store.functionChecks context name signature)
  | .addBlock function => some (store.handleChecks function)
  | .argument function index => some (store.positionChecks function index)
  | .const block type _ => some (store.constChecks block type)
  | .call block callee arguments => some (store.callChecks block callee arguments)
  | .binary block kind left right => some (store.binaryChecks block kind left right)
  | .branch block target => some (store.branchChecks block target)
  | .result block value => some (store.resultChecks block value)
  | .newContext _ | .parse _ _ _ | .restore _ | .lower _ _ | .destroy _ => none

/-! ## Calls take their checks in order -/

/-- The outcome of a construction operation is what a course of checks leads to. -/
abbrev Proceeds {α : Type} (outcome : Except BuildError α) (checks : List Check) : Prop :=
  Follows (fun error => (Failure.build error).kinds) outcome checks

theorem building_iff {store : Store} {id : ContextId} {context : Context}
    (found : store.contexts[id]? = some context) :
    store.Building (some id) ↔ context.phase = .building := by
  simp [Building, context?, found]

theorem knows_iff {store : Store} {id : ContextId} {context : Context}
    (found : store.contexts[id]? = some context) {type : TypeId} :
    store.Knows (some id) type ↔ (context.types.lookup? type).isSome := by
  simp [Knows, context?, found]

/-- The refusal of a closed context. -/
theorem follows_of_unusable {ε α : Type} {kinds : ε → List FailureKind} {store : Store}
    {id : ContextId} {context : Context} (found : store.contexts[id]? = some context)
    {fault : Fault} (unusable : context.usable = .error fault) {error : ε}
    (same : kinds error = [fault.kind]) {rest : List Check} :
    Follows kinds (.error error : Except ε α)
      (.demand .contextClosed (store.Building (some id)) :: rest) := by
  refine .refused ?_ ?_
  · rw [building_iff found, ← Context.usable_eq_ok_iff, unusable]
    rintro ⟨⟩
  · rw [same, context.blames_usable fault unusable]

section Context

variable {store : Store} {id : ContextId} {context : Context}
  (found : store.contexts[id]? = some context)

include found

theorem proceeds_intern (type : Descriptor) :
    Follows (fun fault => (Failure.fault fault).kinds) (context.intern type)
      (store.internChecks (some id) type) := by
  refine .met (by simp [context?, found]) ?_
  rw [Context.intern_eq, Interner.intern_eq, Descriptor.check]
  cases usable : context.usable with
  | error fault => exact follows_of_unusable found usable (by rfl)
  | ok _ =>
    refine .met ((building_iff found).mpr (Context.usable_eq_ok_iff.mp usable)) ?_
    by_cases valid : type.Valid
    · simp only [if_pos valid]
      exact .met valid (.accepted _)
    · simp only [if_neg valid]
      exact .refused valid rfl

theorem proceeds_addFunction (formed : context.WellFormed) (name : Bytes) (signature : Signature) :
    Proceeds (context.addFunction name signature)
      (store.functionChecks (some id) name signature) := by
  refine .met (by simp [context?, found]) ?_
  rw [Context.addFunction_eq]
  cases usable : context.usable with
  | error fault => exact follows_of_unusable found usable (by rfl)
  | ok _ =>
    have building := Context.usable_eq_ok_iff.mp usable
    refine .met ((building_iff found).mpr building) ?_
    dsimp only
    cases checked : FunctionName.check (Text.normalize name) with
    | error fault =>
      refine .refused ?_ ?_
      · rw [← FunctionName.check_eq_ok_iff, checked]
        rintro ⟨⟩
      · simp only [Failure.kinds, Context.functionError,
          FunctionName.blames_check _ fault checked]
    | ok _ =>
      refine .met (FunctionName.check_eq_ok_iff.mp checked) ?_
      -- The register of names and the functions agree on which names are in use.
      have taken_iff : (context.names.lookup (Text.normalize name)).isSome ↔
          ∃ ref : FunctionRef, some id = some ref.context ∧ ∃ function,
            store.function? (some ref) = some function ∧ function.name = Text.normalize name := by
        rw [Option.isSome_iff_exists]
        constructor
        · rintro ⟨number, registered⟩
          obtain ⟨function, held, named⟩ := (formed.names _ number).mp registered
          exact ⟨⟨id, number⟩, rfl, function, function?_eq_some_iff.mpr ⟨context, found, held⟩,
            named⟩
        · rintro ⟨ref, same, function, held, named⟩
          cases same
          obtain ⟨holder, here, held⟩ := function?_eq_some_iff.mp held
          cases found.symm.trans here
          exact ⟨ref.function, (formed.names _ _).mpr ⟨function, held, named⟩⟩
      dsimp only
      split
      · rename_i taken
        obtain ⟨ref, same, function, held, named⟩ := taken_iff.mp taken
        exact .refused (fun unused => unused ref same function held named) rfl
      · rename_i free
        refine .met (fun ref same function held named => free ?_) ?_
        · exact taken_iff.mpr ⟨ref, same, function, held, named⟩
        have known : signature.Known context.types ↔
            ∀ type ∈ signature.output :: signature.inputs, store.Knows (some id) type := by
          simp only [Signature.Known, List.forall_mem_cons, knows_iff found]
          exact And.comm
        split
        · rename_i all
          refine .met (known.mp all) (.used ⟨context, ?_, ?_⟩ (.accepted _))
          · simp [context?, found]
          · simp [building]
        · rename_i unknown
          exact .refused (fun all => unknown (known.mpr all)) rfl

end Context

section Function

variable {store : Store} {ref : FunctionRef} {context : Context}
  (found : store.contexts[ref.context]? = some context)

include found

theorem proceeds_usableFunction (action : Bytes) :
    Proceeds (context.usableFunction action ref.function) (store.handleChecks (some ref)) := by
  unfold Context.usableFunction
  cases held : context.functions.get? ref.function with
  | none => exact .refused (by simp [function?, found, held]) rfl
  | some function =>
    refine .met (by simp [function?, found, held]) ?_
    cases usable : context.usable with
    | error fault => exact follows_of_unusable found usable (by rfl)
    | ok _ =>
      have building := Context.usable_eq_ok_iff.mp usable
      exact .met ((building_iff found).mpr building) (.accepted _)

theorem proceeds_addBlock :
    Proceeds (context.addBlock ref.function) (store.handleChecks (some ref)) := by
  rw [Context.addBlock_eq, ← List.append_nil (store.handleChecks (some ref))]
  exact (proceeds_usableFunction found _).bind fun _ _ => .accepted _

theorem proceeds_argument (index : Int) :
    Proceeds (context.argument ref.function index) (store.positionChecks (some ref) index) := by
  refine (proceeds_usableFunction found _).bind fun function usable => ?_
  obtain ⟨held, -⟩ := Context.usableFunction_eq_ok_iff.mp usable
  have signed : store.signature? (some ref) = some function.signature := by
    simp [signature?, function?, found, held]
  dsimp only
  split
  · exact .met ⟨_, signed, ‹_›⟩ (.accepted _)
  · rename_i outside
    refine .refused ?_ rfl
    rintro ⟨signature, same, inside⟩
    cases signed.symm.trans same
    exact outside inside

end Function

section Block

variable {store : Store} {ref : BlockRef} {context : Context} {function : Function}
  (found : store.contexts[ref.context]? = some context)

include found

theorem proceeds_openBlock (action : Bytes) :
    Proceeds (context.openBlock action ref.place) (store.blockChecks (some ref)) := by
  unfold Context.openBlock
  cases resolved : context.at? ref.place with
  | none => exact .refused (by simp [block?, found, resolved]) rfl
  | some content =>
    obtain ⟨function, block⟩ := content
    have held : store.block? (some ref) = some block := by simp [block?, found, resolved]
    refine .met (by simp [held]) ?_
    cases usable : context.usable with
    | error fault => exact follows_of_unusable found usable (by rfl)
    | ok _ =>
      have building := Context.usable_eq_ok_iff.mp usable
      refine .met ((building_iff found).mpr building) ?_
      dsimp only
      cases ended : block.terminator with
      | none => exact .met ⟨block, held, ended⟩ (.accepted _)
      | some terminator =>
        refine .refused ?_ rfl
        rintro ⟨other, same, unended⟩
        cases held.symm.trans same
        rw [ended] at unended
        cases unended

theorem holder?_of_openBlock {action : Bytes}
    (opened : context.openBlock action ref.place = .ok function) :
    store.holder? (some ref) = some function := by
  obtain ⟨block, opened⟩ := Context.openBlock_eq_ok_iff.mp opened
  simp [holder?, owner?, found, Context.function?, opened.building, opened.function_eq]

theorem proceeds_ownValue (held : context.functions.get? ref.place.function = some function)
    (action role : Bytes) (handle : Option ValueRef) :
    Proceeds (context.ownValue action ref.place function role (store.operand ref handle))
      (store.valueChecks (some ref) handle) := by
  cases handle with
  | none => exact .refused nofun rfl
  | some value =>
    refine .met rfl ?_
    unfold operand
    dsimp only
    split
    · rename_i home
      refine .met (by simp [ValueRef.home, BlockRef.home, home]) ?_
      unfold Context.ownValue
      dsimp only
      cases present : function.values.get? value.value with
      | none => exact .refused (by simp [value?, home, found, held, present]) rfl
      | some content =>
        exact .met (by simp [value?, home, found, held, present]) (.accepted _)
    · rename_i abroad
      refine .refused (fun same => abroad ?_) rfl
      simpa [ValueRef.home, BlockRef.home] using same

theorem typeOf?_of_ownValue (held : context.functions.get? ref.place.function = some function)
    {action role : Bytes} {handle : Option ValueRef} {own : ValueId × Value}
    (got : context.ownValue action ref.place function role (store.operand ref handle) = .ok own) :
    store.typeOf? handle = some own.2.type := by
  obtain ⟨mine, present⟩ := Context.ownValue_eq_ok_iff.mp got
  obtain rfl := operand_eq_own_iff.mp mine
  simp [typeOf?, value?, found, held, present]

theorem proceeds_callArguments
    (held : context.functions.get? ref.place.function = some function) (callee : Bytes)
    (index : Nat) (inputs : List TypeId) (arguments : List (Option ValueRef)) :
    Proceeds (context.callArguments ref.place function callee index inputs
        (arguments.map (store.operand ref)))
      (store.argumentChecks (some ref) inputs arguments) := by
  induction inputs generalizing index arguments with
  | nil => exact .accepted _
  | cons type types ih =>
    cases arguments with
    | nil => exact .accepted _
    | cons handle rest =>
      refine (proceeds_ownValue found held _ _ handle).bind ?_
      intro own got
      have typed := typeOf?_of_ownValue found held got
      dsimp only
      split
      · rename_i same
        refine .met (by rw [typed, same]) ?_
        rw [← List.append_nil (store.argumentChecks (some ref) types rest)]
        exact (ih _ rest).bind fun _ _ => .accepted _
      · rename_i differs
        refine .refused (fun same => differs ?_) rfl
        exact Option.some.inj (typed.symm.trans same)

theorem proceeds_buildConst (type : TypeId) (literal : UInt64) :
    Proceeds (context.buildConst ref.place type literal)
      (store.constChecks (some ref) type) := by
  rw [Context.buildConst_eq]
  refine (proceeds_openBlock found _).bind fun function opened => ?_
  split
  · rename_i known
    refine .met ((knows_iff found).mpr known) (.used ?_ (.accepted _))
    simp [holder?_of_openBlock found opened]
  · rename_i unknown
    exact .refused (fun known => unknown ((knows_iff found).mp known)) rfl

theorem proceeds_buildCall (callee : Option FunctionRef) (arguments : List (Option ValueRef)) :
    Proceeds (context.buildCall ref.place (store.callee ref callee)
        (arguments.map (store.operand ref)))
      (store.callChecks (some ref) callee arguments) := by
  rw [Context.buildCall_eq]
  refine (proceeds_openBlock found _).bind fun function opened => ?_
  obtain ⟨block, opening⟩ := Context.openBlock_eq_ok_iff.mp opened
  have holder := holder?_of_openBlock found opened
  cases callee with
  | none => exact .refused nofun rfl
  | some called =>
    cases present : store.function? (some called) with
    | none =>
      simp only [Store.callee, present]
      exact .refused nofun rfl
    | some target =>
      have signed : store.signature? (some called) = some target.signature := by
        simp [signature?, present]
      simp only [Store.callee, present]
      refine .met rfl ?_
      by_cases home : called.context = ref.context
      · refine .met (by simp [home]) ?_
        obtain ⟨owner, here, held⟩ := function?_eq_some_iff.mp present
        rw [home] at here
        cases found.symm.trans here
        simp only [home, if_true, Context.ownFunction, held, ok_bind]
        split
        · rename_i arity
          rw [List.length_map] at arity
          refine .met ⟨_, signed, arity⟩ ?_
          simp only [signed, Option.map_some, Option.getD_some]
          refine (proceeds_callArguments found opening.function_eq _ 0 _ arguments).bind ?_
          exact fun ids _ => .used (by simp [holder]) (.accepted _)
        · rename_i arity
          refine .refused ?_ rfl
          rintro ⟨signature, same, fits⟩
          cases signed.symm.trans same
          exact arity ((List.length_map _).trans fits)
      · simp only [home, if_false]
        exact .refused (fun same => home (Option.some.inj same)) rfl

theorem proceeds_buildBinary (kind : UInt8) (left right : Option ValueRef) :
    Proceeds (context.buildBinary ref.place kind (store.operand ref left)
        (store.operand ref right))
      (store.binaryChecks (some ref) kind left right) := by
  rw [Context.buildBinary_eq]
  refine (proceeds_openBlock found _).bind fun function opened => ?_
  obtain ⟨block, opening⟩ := Context.openBlock_eq_ok_iff.mp opened
  have holder := holder?_of_openBlock found opened
  rw [← Operator.isSome_ofCode?_iff]
  cases decoded : Operator.ofCode? kind with
  | none => exact .refused nofun rfl
  | some operator =>
    refine .met rfl ?_
    refine (proceeds_ownValue found opening.function_eq _ _ left).bind fun first gotFirst => ?_
    refine (proceeds_ownValue found opening.function_eq _ _ right).bind fun second gotSecond => ?_
    have firstTyped := typeOf?_of_ownValue found opening.function_eq gotFirst
    have secondTyped := typeOf?_of_ownValue found opening.function_eq gotSecond
    dsimp only
    split
    · rename_i same
      exact .met (by rw [firstTyped, secondTyped, same]) (.used (by simp [holder]) (.accepted _))
    · rename_i differs
      refine .refused (fun same => differs ?_) rfl
      rw [firstTyped, secondTyped] at same
      exact Option.some.inj same

theorem proceeds_buildBranch (target : Option BlockRef) :
    Proceeds (context.buildBranch ref.place (store.target ref target))
      (store.branchChecks (some ref) target) := by
  rw [Context.buildBranch_eq]
  refine (proceeds_openBlock found _).bind fun function opened => ?_
  obtain ⟨block, opening⟩ := Context.openBlock_eq_ok_iff.mp opened
  cases target with
  | none => exact .refused nofun rfl
  | some goal =>
    refine .met rfl ?_
    unfold Store.target
    by_cases home : goal.context = ref.context ∧ goal.place.function = ref.place.function
    · refine .met (by simp [BlockRef.home, home]) ?_
      have present : (store.block? (some goal)).isSome ↔
          goal.place.block < function.blocks.size := by
        rw [← Arena.get?_isSome_iff]
        cases held : function.blocks.get? goal.place.block <;>
          simp [block?, Context.at?, home, found, opening.function_eq, held]
      simp only [home, and_self, if_true, Context.ownBlock]
      split
      · rename_i inside
        exact .met (present.mpr inside) (.accepted _)
      · rename_i outside
        exact .refused (fun there => outside (present.mp there)) rfl
    · simp only [home, if_false]
      refine .refused (fun same => home ?_) rfl
      simpa [BlockRef.home] using same

theorem proceeds_buildReturn (value : Option ValueRef) :
    Proceeds (context.buildReturn ref.place (store.operand ref value))
      (store.resultChecks (some ref) value) := by
  rw [Context.buildReturn_eq]
  refine (proceeds_openBlock found _).bind fun function opened => ?_
  obtain ⟨block, opening⟩ := Context.openBlock_eq_ok_iff.mp opened
  have holder := holder?_of_openBlock found opened
  refine (proceeds_ownValue found opening.function_eq _ _ value).bind fun own got => ?_
  have typed := typeOf?_of_ownValue found opening.function_eq got
  refine .used (by simp [holder]) ?_
  dsimp only
  split
  · rename_i same
    exact .met ⟨function, holder, by rw [typed, same]⟩ (.accepted _)
  · rename_i differs
    refine .refused ?_ rfl
    rintro ⟨other, same, fits⟩
    cases holder.symm.trans same
    exact differs (Option.some.inj (typed.symm.trans fits))

end Block

/-! ## Operations take their checks in order -/

section

variable {store : Store}

theorem follows_change {ε α : Type} {kinds : ε → List FailureKind} {id : ContextId}
    {context : Context} {steps : Change ε Context α} {failure : ε → Failure} {handle : α → Handle}
    {checks : List Check} (proceeds : Follows kinds (steps.outcome context) checks)
    (same : ∀ error, (failure error).kinds = kinds error) :
    Follows Failure.kinds (store.change id context steps failure handle).2 checks := by
  rw [answer_change]
  cases outcome : steps.outcome context with
  | error error => exact proceeds.of_error outcome (same error)
  | ok made => exact proceeds.of_ok outcome

theorem follows_inBlock {α : Type} {action : Bytes} {block : Option BlockRef}
    {steps : BlockRef → Construct α} {handle : BlockRef → α → Handle} {rest : List Check}
    (inside : ∀ ref context, block = some ref → store.contexts[ref.context]? = some context →
      Proceeds ((steps ref).outcome context) (store.blockChecks block ++ rest)) :
    Follows Failure.kinds (store.inBlock action block steps handle).2
      (store.blockChecks block ++ rest) := by
  unfold inBlock
  cases block with
  | none => exact .refused nofun rfl
  | some ref =>
    dsimp only
    cases found : store.contexts[ref.context]? with
    | none => exact .refused (by simp [block?, found]) rfl
    | some context => exact follows_change (inside ref context rfl found) fun _ => rfl

theorem follows_inFunction {α : Type} {action : Bytes} {function : Option FunctionRef}
    {steps : FunctionRef → Construct α} {handle : FunctionRef → α → Handle} {rest : List Check}
    (inside : ∀ ref context, function = some ref → store.contexts[ref.context]? = some context →
      Proceeds ((steps ref).outcome context) (store.handleChecks function ++ rest)) :
    Follows Failure.kinds (store.inFunction action function steps handle).2
      (store.handleChecks function ++ rest) := by
  unfold inFunction
  cases function with
  | none => exact .refused nofun rfl
  | some ref =>
    dsimp only
    cases found : store.contexts[ref.context]? with
    | none => exact .refused (by simp [function?, found]) rfl
    | some context => exact follows_change (inside ref context rfl found) fun _ => rfl

theorem follows_intern (handle : Option ContextId) (type : Descriptor) :
    Follows Failure.kinds (store.intern handle type).2 (store.internChecks handle type) := by
  unfold intern
  cases resolved : store.context? handle with
  | none => cases handle <;> exact .refused (by simp [resolved]) rfl
  | some context =>
    obtain ⟨id, rfl, found⟩ := found_of_context? resolved
    exact follows_change (proceeds_intern found type) fun _ => rfl

theorem follows_addFunction (lived : store.Lived) (handle : Option ContextId) (name : Bytes)
    (signature : Signature) :
    Follows Failure.kinds (store.addFunction handle name signature).2
      (store.functionChecks handle name signature) := by
  unfold addFunction
  cases resolved : store.context? handle with
  | none => cases handle <;> exact .refused (by simp [resolved]) rfl
  | some context =>
    obtain ⟨id, rfl, found⟩ := found_of_context? resolved
    have formed := lived.wellFormed (Array.mem_of_getElem? found)
    exact follows_change (proceeds_addFunction found formed name signature) fun _ => rfl

theorem follows_addBlock (handle : Option FunctionRef) :
    Follows Failure.kinds (store.addBlock handle).2 (store.handleChecks handle) := by
  rw [← List.append_nil (store.handleChecks handle)]
  refine follows_inFunction fun ref context same found => ?_
  cases same
  rw [List.append_nil]
  exact proceeds_addBlock found

theorem follows_argument (handle : Option FunctionRef) (index : Int) :
    Follows Failure.kinds (store.argument handle index).2 (store.positionChecks handle index) := by
  refine follows_inFunction fun ref context same found => ?_
  cases same
  have proceeds := proceeds_argument found index
  rw [Construct.outcome_argument]
  cases outcome : context.argument ref.function index with
  | error error => exact proceeds.of_error outcome rfl
  | ok value => exact proceeds.of_ok outcome

/-- Every operation that constructs something takes its checks in order. -/
theorem Lived.follows_perform (lived : store.Lived) (world : World) {operation : Operation World}
    {checks : List Check} (decided : store.checks? operation = some checks) :
    Follows Failure.kinds (store.perform world operation).2.2 checks := by
  cases operation with
  | newContext optimize => cases decided
  | parse file source optimize => cases decided
  | restore snapshot => cases decided
  | lower context backend => cases decided
  | destroy context => cases decided
  | intern context type =>
    cases decided
    exact follows_intern context type
  | addFunction context name signature =>
    cases decided
    exact follows_addFunction lived context name signature
  | addBlock function =>
    cases decided
    exact follows_addBlock function
  | argument function index =>
    cases decided
    exact follows_argument function index
  | const block type literal =>
    cases decided
    exact follows_inBlock fun ref context same found => by
      cases same
      exact proceeds_buildConst found type literal
  | call block callee arguments =>
    cases decided
    exact follows_inBlock fun ref context same found => by
      cases same
      exact proceeds_buildCall found callee arguments
  | binary block kind left right =>
    cases decided
    exact follows_inBlock fun ref context same found => by
      cases same
      exact proceeds_buildBinary found kind left right
  | branch block target =>
    cases decided
    exact follows_inBlock fun ref context same found => by
      cases same
      exact (proceeds_buildBranch found target).of_map
  | result block value =>
    cases decided
    exact follows_inBlock fun ref context same found => by
      cases same
      exact (proceeds_buildReturn found value).of_map

end

/-! ## Calls are accepted exactly if they are legal -/

/-- An operation is decided by checks: it succeeds, with a handle of something that is there,
exactly if all demands are met; it is refused for the first demand that is not met, and then changes
nothing; and whatever it comes to use is there. -/
structure Decides (store : Store) (world : World) (operation : Operation World)
    (checks : List Check) : Prop where
  /-- The operation succeeds exactly if it gets past all checks. -/
  accepted : (∃ made, (store.perform world operation).2.2 = .ok made) ↔
    ∀ check ∈ checks, check.Passes
  /-- What a successful operation answers with is there. -/
  made : ∀ made, (store.perform world operation).2.2 = .ok made →
    (store.perform world operation).1.Holds made
  /-- A refused operation has come to a demand that is not met, and changes nothing. -/
  refused : ∀ failure, (store.perform world operation).2.2 = .error failure →
    store.perform world operation = (store, world, .error failure) ∧
      ∃ before kind met after, checks = before ++ .demand kind met :: after ∧
        (∀ check ∈ before, check.Passes) ∧ ¬ met ∧ failure.kinds = [kind]
  /-- Nothing is missing that is used. -/
  present : ∀ before there after, checks = before ++ .use there :: after →
    (∀ check ∈ before, check.Passes) → there

/-- In every state that a run has led to, every operation that constructs something, on whatever
arguments, is decided by its checks. -/
theorem run_decided (world next : World) (operations : List (Operation World))
    (operation : Operation World) (checks : List Check)
    (constructs : (run {} world operations).checks? operation = some checks) :
    (run {} world operations).Decides next operation checks := by
  have lived := Lived.empty.run world operations
  have follows := lived.follows_perform next constructs
  refine ⟨follows.granted_iff, fun made done => lived.holds_perform next operation done, ?_,
    fun _ _ _ => follows.there_of_use⟩
  intro failure failed
  have constructive : operation.isLowering = false := by
    cases operation <;> first | rfl | cases constructs
  exact ⟨perform_of_failed constructive failed, follows.exists_of_error failed⟩

/-- The second argument of the wrong call is of a wrong type, and that is what it is refused for. -/
theorem run_decided_wrongCall :
    (run {} () pairRun).Decides () wrongCall
        ((run {} () pairRun).callChecks (some ⟨0, 1, 0⟩) (some ⟨0, 0⟩)
          [some ⟨0, 1, 0⟩, some ⟨0, 1, 1⟩]) ∧
      ((run {} () pairRun).perform () wrongCall).2.2.mapError Failure.kinds =
        .error [.typeMismatch] := by
  refine ⟨run_decided () () pairRun wrongCall _ rfl, ?_⟩
  decide +kernel

end Store

end Blockwork
