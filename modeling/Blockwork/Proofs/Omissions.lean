import Blockwork.Proofs.Attempts
import Blockwork.Proofs.Failures
import Blockwork.Proofs.Isolation

/-!
# What validation reports

A context lacks something where a function has no block or a block has no end. Validation reports
each of these, once, function by function and block by block, under the name of the function and the
number of the block. As long as no function and no block is added, what is lacking only becomes
less: an end is missing until the block is ended, and nothing else takes it off the report.
-/

namespace Blockwork

variable {World : Type}

/-! ## The leaves of a failure -/

namespace Failure

/-- The leaves of a failure in order, each with the labels that it stands under, outermost first. -/
def leaves : Failure → List (List Bytes × Failure)
  | .within label inner => inner.leaves.map fun (labels, leaf) => (label :: labels, leaf)
  | .both first _ second => first.leaves ++ second.leaves
  | leaf => [([], leaf)]

/-- Joining loses no leaf and adds none. -/
theorem leaves_of_join {failures : List Failure} {failure : Failure}
    (joined : join failures = some failure) : failure.leaves = failures.flatMap leaves := by
  induction failures generalizing failure with
  | nil => cases joined
  | cons first rest ih =>
    rcases join_cons_cases joined with ⟨rfl, rfl⟩ | ⟨others, joinedRest, rfl⟩
    · simp
    · rw [leaves, ih joinedRest, List.flatMap_cons]

/-- A failure has at least one leaf. -/
theorem leaves_ne_nil (failure : Failure) : failure.leaves ≠ [] := by
  induction failure with
  | within label inner ih => simpa [leaves] using ih
  | both first separator second ih _ => simp [leaves, ih]
  | _ => simp [leaves]

/-- The leaves of what an outcome reports; none if it is a success. -/
def reported (outcome : Except Failure Unit) : List (List Bytes × Failure) :=
  (ofOutcome? outcome).toList.flatMap leaves

theorem reported_eq_nil_iff {outcome : Except Failure Unit} :
    reported outcome = [] ↔ outcome = .ok () := by
  cases outcome with
  | ok _ => simp [reported, ofOutcome?]
  | error failure => simp [reported, ofOutcome?, leaves_ne_nil]

theorem reported_toExcept (failures : List Failure) :
    reported (toExcept failures) = failures.flatMap leaves := by
  rw [reported, toExcept]
  cases joined : join failures with
  | none =>
    obtain rfl := join_eq_none_iff.mp joined
    rfl
  | some failure => simp [ofOutcome?, leaves_of_join joined]

end Failure

/-! ## What a context lacks -/

/-- Something that a context lacks. -/
inductive Omission where
  /-- A function has no block. -/
  | blocks (function : FunctionId)
  /-- A block has no end. -/
  | ending (function : FunctionId) (block : BlockId)
deriving DecidableEq, Repr

namespace Omission

/-- The function that something is missing from. -/
def function : Omission → FunctionId
  | .blocks function => function
  | .ending function _ => function

/-- The order of reports: by functions, and in a function by blocks. -/
def Before (first second : Omission) : Prop :=
  first.function < second.function ∨
    ∃ function early late, first = .ending function early ∧ second = .ending function late ∧
      early < late

end Omission

theorem Arena.pairwise_all {α : Type} (arena : Arena α) :
    arena.all.Pairwise fun first second => first.1 < second.1 := by
  have handles : arena.all.map Prod.fst = List.range arena.toList.length := by
    rw [Arena.all, List.map_map, List.range_eq_range']
    exact List.zipIdx_map_snd 0 arena.toList
  have increasing := List.pairwise_lt_range (n := arena.toList.length)
  rw [← handles] at increasing
  exact List.pairwise_map.mp increasing

/-- What a function lacks, under its number, in the order of the blocks. -/
def Function.omissions (function : Function) (id : FunctionId) : List Omission :=
  function.gaps.map fun gap =>
    match gap with
    | .noBlocks => .blocks id
    | .openBlock block => .ending id block

/-- Whether a function has a block that has no end. -/
def Function.LeavesOpen (function : Function) (id : BlockId) : Prop :=
  ∃ block, function.blocks.get? id = some block ∧ block.terminator = none

/-- Whether a function has a block that has an end. -/
def Function.HasEnded (function : Function) (id : BlockId) : Prop :=
  ∃ block, function.blocks.get? id = some block ∧ block.terminator ≠ none

namespace Context

/-- What a context lacks, in order. -/
def omissions (context : Context) : List Omission :=
  context.functions.all.flatMap fun (id, function) => function.omissions id

/-- Whether a context lacks something. -/
def Lacks (context : Context) : Omission → Prop
  | .blocks id => ∃ function, context.functions.get? id = some function ∧
      function.blocks.size = 0
  | .ending id block => ∃ function, context.functions.get? id = some function ∧
      function.LeavesOpen block

/-- Whether a context has what was missing once. -/
def Supplies (context : Context) : Omission → Prop
  | .blocks id => ∃ function, context.functions.get? id = some function ∧
      function.blocks.size ≠ 0
  | .ending id block => ∃ function, context.functions.get? id = some function ∧
      function.HasEnded block

/-- The name of a function, by number. -/
def functionName (context : Context) (id : FunctionId) : Bytes :=
  match context.functions.get? id with
  | some function => function.name
  | none => []

/-- The way something that is missing is reported: under the name of its function, and under its
block if there is one. -/
def report (context : Context) : Omission → List Bytes × Failure
  | .blocks id => ([utf8 "function " ++ context.functionName id], .ofKind .emptyFunction)
  | .ending id block =>
    ([utf8 "function " ++ context.functionName id, blockName block], .ofKind .unterminatedBlock)

variable {context context' : Context}

theorem mem_gaps_iff {function : Function} {gap : Gap} :
    gap ∈ function.gaps ↔
      match gap with
      | .noBlocks => function.blocks.size = 0
      | .openBlock place => function.LeavesOpen place := by
  unfold Function.gaps
  split
  · rename_i empty
    cases gap with
    | noBlocks => simp [empty]
    | openBlock place =>
      simp only [List.mem_singleton, reduceCtorEq, false_iff]
      rintro ⟨block, found, -⟩
      have inside := Arena.get?_eq_some_lt found
      omega
  · rename_i some_
    rw [List.mem_filterMap]
    constructor
    · rintro ⟨⟨place, block⟩, member, shown⟩
      obtain ⟨unended, same⟩ := Option.ite_none_right_eq_some.mp shown
      cases same
      exact ⟨block, Arena.mem_all_iff.mp member, Option.isNone_iff_eq_none.mp unended⟩
    · intro lacking
      cases gap with
      | noBlocks => exact absurd lacking some_
      | openBlock place =>
        obtain ⟨block, found, unended⟩ := lacking
        exact ⟨(place, block), Arena.mem_all_iff.mpr found, by simp [unended]⟩

/-- The list of omissions names what the context lacks and nothing else. -/
theorem mem_omissions_iff {omission : Omission} :
    omission ∈ context.omissions ↔ context.Lacks omission := by
  simp only [omissions, Function.omissions, List.mem_flatMap, List.mem_map, Prod.exists,
    Arena.mem_all_iff]
  constructor
  · rintro ⟨id, function, found, gap, member, rfl⟩
    cases gap with
    | noBlocks => exact ⟨function, found, mem_gaps_iff.mp member⟩
    | openBlock place => exact ⟨function, found, mem_gaps_iff.mp member⟩
  · intro lacks
    cases omission with
    | blocks id =>
      obtain ⟨function, found, empty⟩ := lacks
      exact ⟨id, function, found, .noBlocks, mem_gaps_iff.mpr empty, rfl⟩
    | ending id place =>
      obtain ⟨function, found, open_⟩ := lacks
      exact ⟨id, function, found, .openBlock place, mem_gaps_iff.mpr open_, rfl⟩

theorem pairwise_function_omissions (function : Function) (id : FunctionId) :
    (function.omissions id).Pairwise Omission.Before := by
  unfold Function.omissions Function.gaps
  split
  · exact List.pairwise_singleton _ _
  · rw [List.map_filterMap]
    refine function.blocks.pairwise_all.filterMap _ ?_
    rintro ⟨early, first⟩ ⟨late, second⟩ before one shown two shown'
    simp only [Option.map_eq_some_iff, Option.ite_none_right_eq_some] at shown shown'
    obtain ⟨gap, ⟨-, same⟩, rfl⟩ := shown
    obtain ⟨gap', ⟨-, same'⟩, rfl⟩ := shown'
    cases same
    cases same'
    exact .inr ⟨id, early, late, rfl, rfl, before⟩

/-- The list of omissions is in order, and so names nothing twice. -/
theorem pairwise_omissions (context : Context) : context.omissions.Pairwise Omission.Before := by
  have owned {function : Function} {id : FunctionId} {omission : Omission}
      (member : omission ∈ function.omissions id) : omission.function = id := by
    obtain ⟨gap, -, rfl⟩ := List.mem_map.mp member
    cases gap <;> rfl
  rw [omissions, List.pairwise_flatMap]
  refine ⟨fun entry _ => pairwise_function_omissions entry.2 entry.1, ?_⟩
  refine context.functions.pairwise_all.imp fun before first member second member' => .inl ?_
  rw [owned member, owned member']
  exact before

/-- What is missing from a function is reported under the name of the function. -/
theorem map_report {id : FunctionId} {function : Function}
    (found : context.functions.get? id = some function) :
    (function.omissions id).map context.report =
      (function.gaps.flatMap fun gap => gap.failure.leaves).map fun (labels, leaf) =>
        ((utf8 "function " ++ function.name) :: labels, leaf) := by
  have name : context.functionName id = function.name := by simp only [functionName, found]
  rw [Function.omissions, List.map_map, List.map_eq_flatMap, List.map_flatMap]
  apply List.flatMap_congr
  intro gap member
  cases gap <;> simp only [Function.comp_apply, report, name] <;> rfl

/-- Validation reports what the context lacks, item by item. -/
theorem reported_validate (alive : context.phase ≠ .destroyed) :
    Failure.reported context.validate = context.omissions.map context.report := by
  have listed : context.functions.toList = context.functions.all.map Prod.snd := by
    simp [Arena.all, Function.comp_def]
  rw [validate, readable_eq_ok_iff.mpr alive]
  dsimp only
  rw [Failure.reported_toExcept, failures, listFunctions, if_neg alive, omissions,
    List.map_flatMap, listed, List.filterMap_map, List.filterMap_eq_flatMap_toList,
    List.flatMap_assoc]
  apply List.flatMap_congr
  rintro ⟨id, function⟩ member
  dsimp only [Function.comp_apply]
  have gathered : function.gaps.flatMap (fun gap => gap.failure.leaves) =
      (function.gaps.map Gap.failure).flatMap Failure.leaves := by
    rw [List.flatMap_map]
  rw [map_report (Arena.mem_all_iff.mp member), gathered]
  cases joined : Failure.join (function.gaps.map Gap.failure) with
  | none =>
    rw [Failure.join_eq_none_iff.mp joined]
    rfl
  | some failure =>
    rw [← Failure.leaves_of_join joined]
    exact List.flatMap_singleton Failure.leaves _

/-- How validation judges a context: it reports exactly what the context lacks. -/
structure Accounted (context : Context) : Prop where
  /-- The leaves of the failure are what is missing, in order, each under its labels. -/
  reported : Failure.reported context.validate = context.omissions.map context.report
  /-- The context is accepted exactly if nothing is missing. -/
  accepted : context.validate = .ok () ↔ context.omissions = []
  /-- What is missing is listed in order, and nothing twice. -/
  ordered : context.omissions.Pairwise Omission.Before
  /-- Exactly what the context lacks is listed. -/
  exact : ∀ omission, omission ∈ context.omissions ↔ context.Lacks omission

theorem accounted (alive : context.phase ≠ .destroyed) : context.Accounted where
  reported := reported_validate alive
  accepted := by
    rw [← Failure.reported_eq_nil_iff, reported_validate alive, List.map_eq_nil_iff]
  ordered := context.pairwise_omissions
  exact _ := mem_omissions_iff

/-! ## What becomes of it -/

/-- No function and no block has been added to a context: it has as many functions, and each of them
has as many blocks. -/
def SameParts (before after : Context) : Prop :=
  after.functions.toList.map (·.blocks.size) = before.functions.toList.map (·.blocks.size)

instance (before after : Context) : Decidable (before.SameParts after) :=
  inferInstanceAs (Decidable (_ = _))

namespace SameParts

variable {before after : Context} (same : before.SameParts after)

include same

theorem functions : after.functions.size = before.functions.size := by
  simpa using congrArg List.length same

theorem blocks {id : FunctionId} {function function' : Function}
    (found : before.functions.get? id = some function)
    (found' : after.functions.get? id = some function') :
    function'.blocks.size = function.blocks.size := by
  rw [Arena.get?_eq_getElem?] at found found'
  have sizes := congrArg (·[id]?) same
  simpa [found, found'] using sizes

end SameParts

section

variable {before after : Context} (grown : before.Grows after)

include grown

/-- What is missing stays so unless it is supplied, and nothing else comes to be missing. -/
theorem Grows.lacks_iff (same : before.SameParts after) (omission : Omission) :
    after.Lacks omission ↔ before.Lacks omission ∧ ¬ after.Supplies omission := by
  have earlier {id : FunctionId} {function' : Function}
      (found' : after.functions.get? id = some function') :
      ∃ function, before.functions.get? id = some function ∧ function.Grows function' ∧
        function'.blocks.size = function.blocks.size := by
    have inside := Arena.get?_eq_some_lt found'
    rw [same.functions] at inside
    obtain ⟨function, found⟩ := Arena.exists_get?_of_lt inside
    obtain ⟨other, foundOther, larger⟩ := grown.functions id function found
    obtain rfl := Option.some.inj (foundOther.symm.trans found')
    exact ⟨function, found, larger, same.blocks found found'⟩
  cases omission with
  | blocks id =>
    constructor
    · rintro ⟨function', found', empty⟩
      obtain ⟨function, found, -, size⟩ := earlier found'
      refine ⟨⟨function, found, size ▸ empty⟩, ?_⟩
      rintro ⟨other, foundOther, some_⟩
      cases found'.symm.trans foundOther
      exact some_ empty
    · rintro ⟨⟨function, found, empty⟩, -⟩
      obtain ⟨function', found', -⟩ := grown.functions id function found
      exact ⟨function', found', (same.blocks found found').trans empty⟩
  | ending id place =>
    constructor
    · rintro ⟨function', found', block', held', unended⟩
      obtain ⟨function, found, larger, size⟩ := earlier found'
      have inside := Arena.get?_eq_some_lt held'
      rw [size] at inside
      obtain ⟨block, held⟩ := Arena.exists_get?_of_lt inside
      obtain ⟨other, heldOther, extended⟩ := larger.blocks place block held
      obtain rfl := Option.some.inj (heldOther.symm.trans held')
      refine ⟨⟨function, found, block, held, ?_⟩, ?_⟩
      · by_contra ended
        have settled := extended.settled (Option.isSome_iff_ne_none.mpr ended)
        exact ended (settled ▸ unended)
      · rintro ⟨third, foundThird, content, heldContent, ended⟩
        cases found'.symm.trans foundThird
        cases held'.symm.trans heldContent
        exact ended unended
    · rintro ⟨⟨function, found, block, held, -⟩, missing⟩
      obtain ⟨function', found', larger⟩ := grown.functions id function found
      obtain ⟨block', held', -⟩ := larger.blocks place block held
      refine ⟨function', found', block', held', ?_⟩
      by_contra ended
      exact missing ⟨function', found', block', held', ended⟩

/-- What is missing is reported under the same labels as long as it is reported. -/
theorem Grows.report_eq {omission : Omission} (lacks : before.Lacks omission) :
    after.report omission = before.report omission := by
  have name {id : FunctionId} {function : Function}
      (found : before.functions.get? id = some function) :
      after.functionName id = before.functionName id := by
    obtain ⟨function', found', larger⟩ := grown.functions id function found
    simp only [functionName, found, found', larger.name]
  cases omission with
  | blocks id =>
    obtain ⟨function, found, -⟩ := lacks
    simp only [report, name found]
  | ending id place =>
    obtain ⟨function, found, -⟩ := lacks
    simp only [report, name found]

end

theorem functions_lower (context : Context) (backend : Option (Backend World)) (world : World) :
    (context.lower backend world).1.functions = context.functions := by
  unfold lower
  split
  · rfl
  · split
    · rfl
    · dsimp only
      split <;> rfl

end Context

namespace Operation

/-- Whether an operation is there to end a block. -/
def Ends (operation : Operation World) (ref : BlockRef) : Prop :=
  (∃ target, operation = .branch (some ref) target) ∨
    ∃ value, operation = .result (some ref) value

end Operation

section

variable {before after : Function} {id block : BlockId}

theorem Function.GainsBlock.leavesOpen (gains : before.GainsBlock after)
    (open_ : before.LeavesOpen id) : after.LeavesOpen id := by
  obtain ⟨content, found, unended⟩ := open_
  exact ⟨content, Arena.get?_of_toList_eq_append gains.blocks found, unended⟩

theorem Function.GainsValue.leavesOpen (gains : before.GainsValue block after)
    (open_ : before.LeavesOpen id) : after.LeavesOpen id := by
  obtain ⟨content, found, unended⟩ := open_
  exact gains.blocks.exists_of found unended fun content' _ lists => lists ▸ unended

theorem Function.EndsBlock.leavesOpen (ends : before.EndsBlock block after) (other : id ≠ block)
    (open_ : before.LeavesOpen id) : after.LeavesOpen id := by
  obtain ⟨content, found, unended⟩ := open_
  exact ⟨content, (ends.blocks.elsewhere id other).trans found, unended⟩

theorem Function.EndsBlock.hasEnded (ends : before.EndsBlock block after) :
    after.HasEnded block := by
  obtain ⟨content, content', -, found, -, terminator, rfl⟩ := ends.blocks.here
  exact ⟨_, found, Option.some_ne_none terminator⟩

end

namespace Store

variable {before after : Store} {operation : Operation World} {ref : BlockRef}
  {context context' : Context}

/-- A failed operation changes the functions of no context. -/
theorem functions_of_failed {store : Store} {world : World} {failure : Failure}
    (failed : (store.perform world operation).2.2 = .error failure) {id : ContextId}
    (found : store.contexts[id]? = some context)
    (found' : (store.perform world operation).1.contexts[id]? = some context') :
    context'.functions = context.functions := by
  by_cases lowers : operation.isLowering = false
  · rw [perform_of_failed lowers failed] at found'
    rw [Option.some.inj (found.symm.trans found')]
  · cases operation with
    | lower handle backend =>
      simp only [perform, lower] at found'
      split at found'
      · rename_i id' held resolved
        obtain ⟨_, ⟨⟩, here⟩ := found_of_context? resolved
        by_cases same : id' = id
        · subst same
          rw [contexts_set_self here] at found'
          rw [← Option.some.inj found', Context.functions_lower,
            Option.some.inj (here.symm.trans found)]
        · simp only [set, Array.getElem?_setIfInBounds_ne same, found] at found'
          rw [Option.some.inj found']
      · rw [Option.some.inj (found.symm.trans found')]
    | _ => exact absurd rfl lowers

theorem eq_of_home {site : BlockRef} (home : ref.home = site.home)
    (same : ref.place.block = site.place.block) : ref = site := by
  obtain ⟨_, _, _⟩ := ref
  obtain ⟨_, _, _⟩ := site
  cases home
  cases same
  rfl

/-- An operation that succeeds leaves an end missing, unless it is there to end the block. -/
theorem lacks_of_confined (confined : operation.Confined before after)
    (spares : ¬ operation.Ends ref) (found : before.contexts[ref.context]? = some context)
    (lacks : context.Lacks (.ending ref.place.function ref.place.block)) :
    ∃ context', after.contexts[ref.context]? = some context' ∧
      context'.Lacks (.ending ref.place.function ref.place.block) := by
  obtain ⟨function, held, open_⟩ := lacks
  have lacks : context.Lacks (.ending ref.place.function ref.place.block) :=
    ⟨function, held, open_⟩
  -- A change in a function may only concern the block if it is its function.
  have inFunction (site : FunctionRef) {change : Function → Function → Prop}
      (changed : before.Changes site.context (Context.ChangesFunction site.function change) after)
      (keeps : ∀ function', ref.home = site → change function function' →
        function'.LeavesOpen ref.place.block) :
      ∃ context', after.contexts[ref.context]? = some context' ∧
        context'.Lacks (.ending ref.place.function ref.place.block) := by
    refine changed.exists_of found lacks fun context' here altered => ?_
    refine altered.functions.exists_of held open_ fun function' there changes => ?_
    exact keeps function' (FunctionRef.mk.injEq .. ▸ ⟨here, there⟩) changes
  cases operation with
  | newContext _ | parse _ _ _ | restore _ =>
    obtain ⟨added, pushed⟩ := confined
    have inside := (Array.getElem?_eq_some_iff.mp found).choose
    refine ⟨context, ?_, lacks⟩
    rw [pushed, Array.getElem?_push, if_neg (Nat.ne_of_lt inside), found]
  | argument _ _ =>
    obtain rfl := confined
    exact ⟨context, found, lacks⟩
  | intern _ _ =>
    obtain ⟨id, -, changed⟩ := confined
    refine changed.exists_of found lacks fun context' _ altered => ?_
    rw [altered.same]
    exact lacks
  | addFunction _ _ _ =>
    obtain ⟨id, -, changed⟩ := confined
    refine changed.exists_of found lacks fun context' _ altered => ?_
    obtain ⟨added, functions, -⟩ := altered.functions
    exact ⟨function, Arena.get?_of_toList_eq_append functions held, open_⟩
  | addBlock _ =>
    obtain ⟨site, -, changed⟩ := confined
    exact inFunction site changed fun _ _ gains => gains.leavesOpen open_
  | const _ _ _ | call _ _ _ | binary _ _ _ _ =>
    obtain ⟨block, -, changed⟩ := confined
    exact inFunction block.home changed fun _ _ gains => gains.leavesOpen open_
  | branch _ target =>
    obtain ⟨site, rfl, changed⟩ := confined
    refine inFunction site.home changed fun _ home ends => ends.leavesOpen ?_ open_
    exact fun same => spares (.inl ⟨target, by rw [eq_of_home home same]⟩)
  | result _ value =>
    obtain ⟨site, rfl, changed⟩ := confined
    refine inFunction site.home changed fun _ home ends => ends.leavesOpen ?_ open_
    exact fun same => spares (.inr ⟨value, by rw [eq_of_home home same]⟩)
  | lower _ _ =>
    obtain ⟨id, -, changed⟩ := confined
    refine changed.exists_of found lacks fun context' _ altered => ?_
    rw [altered]
    exact lacks
  | destroy _ =>
    rcases confined with rfl | ⟨id, -, changed⟩
    · exact ⟨context, found, lacks⟩
    · refine changed.exists_of found lacks fun context' _ altered => ?_
      rw [altered]
      exact lacks

/-- If it is there to end the block then the end is no longer missing. -/
theorem supplies_of_confined (confined : operation.Confined before after)
    (ends : operation.Ends ref) :
    ∃ context', after.contexts[ref.context]? = some context' ∧
      context'.Supplies (.ending ref.place.function ref.place.block) := by
  have ended (changed : before.Changes ref.context
      (Context.ChangesFunction ref.place.function (Function.EndsBlock ref.place.block)) after) :
      ∃ context', after.contexts[ref.context]? = some context' ∧
        context'.Supplies (.ending ref.place.function ref.place.block) := by
    obtain ⟨context, context', -, found', altered⟩ := changed.here
    obtain ⟨function, function', -, held', ends⟩ := altered.functions.here
    exact ⟨context', found', function', held', ends.hasEnded⟩
  rcases ends with ⟨target, rfl⟩ | ⟨value, rfl⟩
  · obtain ⟨_, ⟨⟩, changed⟩ := confined
    exact ended changed
  · obtain ⟨_, ⟨⟩, changed⟩ := confined
    exact ended changed

/-- An end stops being missing exactly when an operation that is there to end the block succeeds. -/
theorem not_lacks_iff {store : Store} {world : World} (ref : BlockRef)
    (found : store.contexts[ref.context]? = some context)
    (found' : (store.perform world operation).1.contexts[ref.context]? = some context')
    (lacks : context.Lacks (.ending ref.place.function ref.place.block)) :
    ¬ context'.Lacks (.ending ref.place.function ref.place.block) ↔
      operation.Ends ref ∧ ∃ made, (store.perform world operation).2.2 = .ok made := by
  cases outcome : (store.perform world operation).2.2 with
  | error failure =>
    have kept : context'.Lacks (.ending ref.place.function ref.place.block) := by
      simpa only [Context.Lacks, functions_of_failed outcome found found'] using lacks
    simp [kept]
  | ok made =>
    have confined := confined_perform store world operation outcome
    constructor
    · intro gone
      refine ⟨?_, made, rfl⟩
      by_contra spares
      obtain ⟨other, foundOther, kept⟩ := lacks_of_confined confined spares found lacks
      exact gone (Option.some.inj (foundOther.symm.trans found') ▸ kept)
    · rintro ⟨ends, -⟩ ⟨function, held, block, listed, unended⟩
      obtain ⟨other, foundOther, function', held', block', listed', ended⟩ :=
        supplies_of_confined confined ends
      cases foundOther.symm.trans found'
      cases held.symm.trans held'
      cases listed.symm.trans listed'
      exact ended unended

/-- In every state that a run has led to: validation reports exactly what a context lacks, in order,
unless the context is destroyed. Whatever comes next, as long as no function and no block is added
and the context is not destroyed, the report only becomes shorter: it keeps what it said, under the
same labels, but for the ends that are there by then. And an end comes off the report exactly when
an operation that is there to end the block succeeds. -/
theorem run_accounted (world next : World) (operations : List (Operation World)) (id : ContextId)
    (context : Context) (found : (run {} world operations).contexts[id]? = some context)
    (alive : context.phase ≠ .destroyed) :
    context.Accounted ∧
      (∀ (later : List (Operation World)) (context' : Context),
        ((run {} world operations).run next later).contexts[id]? = some context' →
        context'.phase ≠ .destroyed → context.SameParts context' →
        context'.Accounted ∧
          (∀ omission, omission ∈ context'.omissions ↔
            omission ∈ context.omissions ∧ ¬ context'.Supplies omission) ∧
          ∀ omission ∈ context.omissions, context'.report omission = context.report omission) ∧
      ∀ (operation : Operation World) (context' : Context) (place : Place),
        ((run {} world operations).perform next operation).1.contexts[id]? = some context' →
        .ending place.function place.block ∈ context.omissions →
        (.ending place.function place.block ∉ context'.omissions ↔
          operation.Ends ⟨id, place⟩ ∧
            ∃ made, ((run {} world operations).perform next operation).2.2 = .ok made) := by
  refine ⟨Context.accounted alive, ?_, ?_⟩
  · intro later context' found' alive' same
    obtain ⟨other, foundOther, grown⟩ := grows_run _ next later id context found
    obtain rfl := Option.some.inj (foundOther.symm.trans found')
    refine ⟨Context.accounted alive', fun omission => ?_, fun omission listed => ?_⟩
    · rw [Context.mem_omissions_iff, Context.mem_omissions_iff]
      exact grown.lacks_iff same omission
    · exact grown.report_eq (Context.mem_omissions_iff.mp listed)
  · intro operation context' place found' listed
    rw [Context.mem_omissions_iff] at listed ⊢
    exact not_lacks_iff ⟨id, place⟩ found found' listed

/-- A run that leaves two things open: a function without blocks, and the second block of
another. -/
def patchyRun : List (Operation Unit) := [
  .newContext false,
  .addFunction (some 0) (utf8 "void") ⟨[], 5⟩,
  .addFunction (some 0) (utf8 "main") ⟨[], 5⟩,
  .addBlock (some ⟨0, 1⟩),
  .addBlock (some ⟨0, 1⟩),
  .branch (some ⟨0, 1, 0⟩) (some ⟨0, 1, 1⟩)]

/-- What may come next: the first block cannot be ended again, the second is given a value. -/
def fillingRun : List (Operation Unit) := [
  .branch (some ⟨0, 1, 0⟩) (some ⟨0, 1, 0⟩),
  .const (some ⟨0, 1, 1⟩) 5 7]

/-- Then the second block is ended. -/
def endingRun : List (Operation Unit) :=
  fillingRun ++ [.result (some ⟨0, 1, 1⟩) (some ⟨0, 1, 0⟩)]

theorem run_accounted_patchyRun :
    ∃ context filled ended,
      (run {} () patchyRun).contexts[0]? = some context ∧
      ((run {} () patchyRun).run () fillingRun).contexts[0]? = some filled ∧
      ((run {} () patchyRun).run () endingRun).contexts[0]? = some ended ∧
      Failure.reported context.validate = [
        ([utf8 "function void"], .ofKind .emptyFunction),
        ([utf8 "function main", utf8 "bb1"], .ofKind .unterminatedBlock)] ∧
      Failure.reported filled.validate = Failure.reported context.validate ∧
      Failure.reported ended.validate = [([utf8 "function void"], .ofKind .emptyFunction)] := by
  let summary (context : Context) : Phase × List Omission × List Nat :=
    (context.phase, context.omissions, context.functions.toList.map (·.blocks.size))
  have before : (run {} () patchyRun).contexts[0]?.map (fun context =>
      (summary context, context.functionName 0, context.functionName 1)) =
        some ((.building, [.blocks 0, .ending 1 1], [0, 2]), utf8 "void", utf8 "main") := by
    decide
  have middle : ((run {} () patchyRun).run () fillingRun).contexts[0]?.map summary =
      some (.building, [.blocks 0, .ending 1 1], [0, 2]) := by
    decide
  have after : ((run {} () patchyRun).run () endingRun).contexts[0]?.map summary =
      some (.building, [.blocks 0], [0, 2]) := by
    decide
  obtain ⟨context, found, facts⟩ := Option.map_eq_some_iff.mp before
  obtain ⟨filled, foundFilled, factsFilled⟩ := Option.map_eq_some_iff.mp middle
  obtain ⟨ended, foundEnded, factsEnded⟩ := Option.map_eq_some_iff.mp after
  simp only [summary, Prod.mk.injEq] at facts factsFilled factsEnded
  obtain ⟨⟨building, omissions, sizes⟩, first, second⟩ := facts
  obtain ⟨alive, omissions', sizes'⟩ := factsFilled
  obtain ⟨alive', omissions'', sizes''⟩ := factsEnded
  obtain ⟨judged, later, -⟩ := run_accounted () () patchyRun 0 context found (by simp [building])
  obtain ⟨judged', -, kept⟩ :=
    later fillingRun filled foundFilled (by simp [alive]) (sizes'.trans sizes.symm)
  obtain ⟨judged'', -, kept'⟩ :=
    later endingRun ended foundEnded (by simp [alive']) (sizes''.trans sizes.symm)
  have void : context.report (.blocks 0) =
      ([utf8 "function void"], .ofKind .emptyFunction) := by
    rw [Context.report, first]
    rfl
  have main : context.report (.ending 1 1) =
      ([utf8 "function main", utf8 "bb1"], .ofKind .unterminatedBlock) := by
    rw [Context.report, second]
    rfl
  have listed (omission : Omission) (member : omission ∈ [Omission.blocks 0, .ending 1 1]) :
      omission ∈ context.omissions := omissions ▸ member
  refine ⟨context, filled, ended, found, foundFilled, foundEnded, ?_, ?_, ?_⟩
  · rw [judged.reported, omissions, List.map_cons, List.map_cons, void, main, List.map_nil]
  · rw [judged'.reported, judged.reported, omissions', omissions]
    exact List.map_congr_left fun omission member => kept omission (listed omission member)
  · rw [judged''.reported, omissions'', List.map_singleton,
      kept' (.blocks 0) (listed _ (by simp)), void]

end Store

end Blockwork
