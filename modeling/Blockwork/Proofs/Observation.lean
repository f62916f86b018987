import Blockwork.Llvm.Emit
import Blockwork.Program.Completeness
import Blockwork.Program.Listing
import Blockwork.Proofs.Outline

/-!
# Contexts that look alike

Everything that can be seen of a context follows from its outlines: the text, what is missing, and
the module that it is lowered to. So two contexts with the same outlines cannot be told apart, even
if their types were interned in different orders.
-/

namespace Blockwork

theorem mapM_eq_mapM_of_map_eq {Effect : Type → Type} [Monad Effect] [LawfulMonad Effect]
    {α β γ : Type} {left : α → Effect γ} {right : β → Effect γ} {ones : List α} {twos : List β}
    (same : ones.map left = twos.map right) : ones.mapM left = twos.mapM right := by
  have first : ones.mapM left = (ones.map left).mapM id := by simp
  have second : twos.mapM right = (twos.map right).mapM id := by simp
  rw [first, same, second]

theorem cases_of_map_eq_map {α β γ : Type} {one : Option α} {two : Option β} {first : α → γ}
    {second : β → γ} (same : one.map first = two.map second) :
    (one = none ∧ two = none) ∨
      ∃ left right, one = some left ∧ two = some right ∧ first left = second right := by
  cases one with
  | none => exact .inl ⟨rfl, Option.map_eq_none_iff.mp same.symm⟩
  | some left =>
    obtain ⟨right, rfl, equal⟩ := Option.map_eq_some_iff.mp same.symm
    exact .inr ⟨left, right, rfl, rfl, equal.symm⟩

theorem map_eq_map_of_imp_option {α β γ δ : Type} {first : α → γ} {second : β → γ} {left : α → δ}
    {right : β → δ} {one : Option α} {two : Option β} (same : one.map first = two.map second)
    (imp : ∀ value value', first value = second value' → left value = right value') :
    one.map left = two.map right := by
  rcases cases_of_map_eq_map same with ⟨rfl, rfl⟩ | ⟨value, value', rfl, rfl, equal⟩
  · rfl
  · exact congrArg some (imp value value' equal)

namespace Context

/-- Two living contexts with the same outlines and the same flag. -/
structure Alike (context context' : Context) : Prop where
  /-- The first is well-formed. -/
  formed : context.WellFormed
  /-- The second is well-formed. -/
  formed' : context'.WellFormed
  /-- The first can be read. -/
  alive : context.phase ≠ .destroyed
  /-- The second can be read. -/
  alive' : context'.phase ≠ .destroyed
  /-- Both ask for optimization, or none. -/
  optimize : context.optimize = context'.optimize
  /-- The functions have the same outlines. -/
  outlines : context.outlines = context'.outlines

namespace Alike

variable {context context' : Context}

theorem listFunctions_left (alike : context.Alike context') :
    context.listFunctions = context.functions.toList := by
  rw [listFunctions, if_neg alike.alive]

theorem listFunctions_right (alike : context.Alike context') :
    context'.listFunctions = context'.functions.toList := by
  rw [listFunctions, if_neg alike.alive']

/-- What is computed from each function is the same if it follows from the outline. -/
theorem map_listFunctions (alike : context.Alike context') {α : Type} {left right : Function → α}
    (same : ∀ function function', function.WellFormed context → function'.WellFormed context' →
      function.outline context.types = function'.outline context'.types →
      left function = right function') :
    context.listFunctions.map left = context'.listFunctions.map right := by
  rw [alike.listFunctions_left, alike.listFunctions_right]
  refine map_eq_map_of_imp alike.outlines fun function member function' member' => ?_
  obtain ⟨id, found⟩ := Arena.mem_toList_iff.mp member
  obtain ⟨id', found'⟩ := Arena.mem_toList_iff.mp member'
  exact same function function' (alike.formed.functions id function found)
    (alike.formed'.functions id' function' found')

/-- Under one number there are two functions with one outline, or none at all. -/
theorem function_cases (alike : context.Alike context') (id : FunctionId) :
    (context.functions.get? id = none ∧ context'.functions.get? id = none) ∨
      ∃ function function', context.functions.get? id = some function ∧
        context'.functions.get? id = some function' ∧
        function.outline context.types = function'.outline context'.types := by
  have same : (context.functions.get? id).map (Function.outline context.types) =
      (context'.functions.get? id).map (Function.outline context'.types) := by
    rw [← getElem?_outlines, ← getElem?_outlines, alike.outlines]
  exact cases_of_map_eq_map same

/-! ## Text -/

theorem name_eq_of_lookup?_eq {types types' : Interner} {id id' : TypeId}
    (same : types.lookup? id = types'.lookup? id') : types.name id = types'.name id' := by
  rw [Interner.name, Interner.name, same]

theorem spelling_eq {function function' : Function}
    (same : function.outline context.types = function'.outline context'.types) :
    function.signature.spelling context.types = function'.signature.spelling context'.types := by
  have inputs : function.signature.inputs.map context.types.name =
      function'.signature.inputs.map context'.types.name :=
    map_eq_map_of_imp (congrArg Outline.inputs same) fun _ _ _ _ => name_eq_of_lookup?_eq
  rw [Signature.spelling, Signature.spelling, inputs,
    name_eq_of_lookup?_eq (congrArg Outline.output same)]

/-- A call names the function it calls, so its text is the same. -/
theorem origin_eq (alike : context.Alike context') (origin : Origin) :
    Listing.origin context origin = Listing.origin context' origin := by
  rcases origin with index | ⟨block, literal | ⟨callee, arguments⟩ | ⟨operator, left, right⟩⟩
  case instruction.call =>
    rcases alike.function_cases callee with ⟨left, right⟩ | ⟨function, function', left, right, same⟩
    · simp only [Listing.origin, left, right]
    · have name : function.name = function'.name := congrArg Outline.name same
      simp only [Listing.origin, left, right, name]
  all_goals rfl

theorem value_eq (alike : context.Alike context') (id : ValueId) {value value' : Value}
    (same : value.described context.types = value'.described context'.types) :
    Listing.value context id value = Listing.value context' id value' := by
  obtain ⟨type, origin⟩ := Prod.mk.inj same
  rw [Listing.value, Listing.value, origin, alike.origin_eq, name_eq_of_lookup?_eq type]

theorem function_eq (alike : context.Alike context') {function function' : Function}
    (formed : function.WellFormed context) (formed' : function'.WellFormed context')
    (same : function.outline context.types = function'.outline context'.types) :
    Listing.function context function = Listing.function context' function' := by
  have name : function.name = function'.name := congrArg Outline.name same
  have header : Listing.header context function = Listing.header context' function' := by
    rw [Listing.header, Listing.header, name, spelling_eq same]
  have values : ∀ id, (function.values.get? id).map (Listing.value context id) =
      (function'.values.get? id).map (Listing.value context' id) := by
    intro id
    have described : (function.values.get? id).map (Value.described context.types) =
        (function'.values.get? id).map (Value.described context'.types) := by
      rw [← Function.getElem?_values, ← Function.getElem?_values, same]
    exact map_eq_map_of_imp_option described fun _ _ => alike.value_eq id
  have blocks : Listing.block context function = Listing.block context' function' := by
    funext id content
    simp only [Listing.block, values]
  rw [Listing.function, Listing.function, header, blocks, Arena.all, Arena.all,
    formed.blocks_eq formed' same]

/-- Contexts that look alike have the same text. -/
theorem dump_eq (alike : context.Alike context') : context.dump = context'.dump := by
  have lines : Listing.context context = Listing.context context' := by
    rw [Listing.context, Listing.context, alike.map_listFunctions fun _ _ => alike.function_eq]
  rw [dump, dump, readable_eq_ok_iff.mpr alike.alive, readable_eq_ok_iff.mpr alike.alive', lines]

theorem exists_dump (alike : context.Alike context') :
    ∃ text, context.dump = .ok text ∧ context'.dump = .ok text := by
  have text : context.dump = .ok (Listing.text (Listing.context context)) := by
    rw [dump, readable_eq_ok_iff.mpr alike.alive]
    rfl
  exact ⟨_, text, alike.dump_eq ▸ text⟩

/-! ## Completeness -/

/-- From contexts that look alike the same is missing. -/
theorem validate_eq (alike : context.Alike context') : context.validate = context'.validate := by
  have gaps : ∀ function function' : Function, function.WellFormed context → function'.WellFormed context' →
      function.outline context.types = function'.outline context'.types →
      function.gaps = function'.gaps := by
    intro function function' formed formed' same
    have blocks := formed.blocks_eq formed' same
    rw [Function.gaps, Function.gaps, Arena.all, Arena.all, ← Arena.length_toList,
      ← Arena.length_toList, blocks]
  have failures : context.failures = context'.failures := by
    have mapped : ∀ (report : Function → Option Failure) (list : List Function),
        list.filterMap report = (list.map report).filterMap id := by
      intro report list
      rw [List.filterMap_map]
      rfl
    rw [Context.failures, Context.failures, mapped, mapped, alike.map_listFunctions]
    intro function function' formed formed' same
    rw [gaps function function' formed formed' same,
      show function.name = function'.name from congrArg Outline.name same]
  rw [validate, validate, readable_eq_ok_iff.mpr alike.alive, readable_eq_ok_iff.mpr alike.alive',
    failures]

/-! ## Lowering -/

theorem width_eq {id id' : TypeId} (known : (context.types.lookup? id).isSome)
    (same : context.types.lookup? id = context'.types.lookup? id') :
    Llvm.width context id = Llvm.width context' id' := by
  obtain ⟨type, found⟩ := Option.isSome_iff_exists.mp known
  rw [Llvm.width, Llvm.width, ← same, found]

theorem emitHead_eq {function function' : Function} (formed : function.WellFormed context)
    (same : function.outline context.types = function'.outline context'.types) :
    Llvm.emitHead context function = Llvm.emitHead context' function' := by
  have inputs : function.signature.inputs.mapM (Llvm.width context) =
      function'.signature.inputs.mapM (Llvm.width context') :=
    mapM_eq_mapM_of_map_eq (map_eq_map_of_imp (congrArg Outline.inputs same)
      fun input member _ _ => width_eq (formed.known.1 input member))
  rw [Llvm.emitHead, Llvm.emitHead, inputs,
    width_eq formed.known.2 (congrArg Outline.output same),
    show function.name = function'.name from congrArg Outline.name same]

theorem emitValue_eq (alike : context.Alike context') (parameters : List Llvm.Parameter)
    (progress : Llvm.Progress) (id : ValueId) {value value' : Value}
    (known : (context.types.lookup? value.type).isSome)
    (same : value.described context.types = value'.described context'.types) :
    Llvm.emitValue context parameters progress id value =
      Llvm.emitValue context' parameters progress id value' := by
  obtain ⟨type, origin⟩ := Prod.mk.inj same
  have width := width_eq known type
  simp only [Llvm.emitValue, origin]
  split
  · rfl
  · rename_i block instruction _
    cases instruction with
    | const literal => simp only [Llvm.emitInstruction, width]
    | call callee arguments =>
      simp only [Llvm.emitInstruction, function?, if_neg alike.alive, if_neg alike.alive']
      rcases alike.function_cases callee with
        ⟨left, right⟩ | ⟨target, target', left, right, targets⟩
      · rw [left, right]
      · have name : target.name = target'.name := congrArg Outline.name targets
        have formed := alike.formed.functions callee target left
        have output := width_eq formed.known.2 (congrArg Outline.output targets)
        simp only [left, right, name, output]
    | binary operator left right => rfl

theorem emitValues_eq (alike : context.Alike context') {values values' : List Value}
    (known : ∀ value ∈ values, (context.types.lookup? value.type).isSome)
    (same : values.map (Value.described context.types) =
      values'.map (Value.described context'.types)) (start : Nat)
    (parameters : List Llvm.Parameter) (progress : Llvm.Progress) :
    Llvm.emitValues context parameters progress
        ((values.zipIdx start).map fun (value, id) => (id, value)) =
      Llvm.emitValues context' parameters progress
        ((values'.zipIdx start).map fun (value, id) => (id, value)) := by
  induction values generalizing values' start progress with
  | nil =>
    obtain rfl := List.map_eq_nil_iff.mp same.symm
    rfl
  | cons value values ih =>
    cases values' with
    | nil => cases same
    | cons value' values' =>
      obtain ⟨head, tail⟩ := List.cons.inj same
      have origin : value.origin = value'.origin := congrArg Prod.snd head
      have rest := ih (fun other member => known other (List.mem_cons_of_mem _ member)) tail
        (start + 1)
      simp only [List.zipIdx_cons, List.map_cons, Llvm.emitValues, Value.isParameter, origin, rest,
        alike.emitValue_eq parameters progress start (known value List.mem_cons_self) head]
      rfl

theorem emitBody_eq (alike : context.Alike context') {function function' : Function}
    (formed : function.WellFormed context) (formed' : function'.WellFormed context')
    (same : function.outline context.types = function'.outline context'.types)
    (parameters : List Llvm.Parameter) :
    Llvm.emitBody context function parameters = Llvm.emitBody context' function' parameters := by
  have name : function.name = function'.name := congrArg Outline.name same
  have blocks := formed.blocks_eq formed' same
  have sizes : function.blocks.size = function'.blocks.size := by
    rw [← Arena.length_toList, ← Arena.length_toList, blocks]
  have known : ∀ value ∈ function.values.toList, (context.types.lookup? value.type).isSome := by
    intro value member
    obtain ⟨id, found⟩ := Arena.mem_toList_iff.mp member
    exact formed.typed id value found
  have terminators : Llvm.emitTerminator function = Llvm.emitTerminator function' := by
    funext progress id terminator
    rcases terminator with _ | ⟨target⟩ | ⟨value⟩
    · simp only [Llvm.emitTerminator, name]
    · rfl
    · rfl
  have ends : Llvm.emitBlocks function = Llvm.emitBlocks function' := by
    funext progress
    rw [Llvm.emitBlocks, Llvm.emitBlocks, Arena.all, Arena.all, blocks, terminators]
  have starts : Llvm.Progress.start function = .start function' := by
    rw [Llvm.Progress.start, Llvm.Progress.start, sizes]
  rw [Llvm.emitBody, Llvm.emitBody, Arena.all, Arena.all, starts, ends, name, spelling_eq same,
    alike.emitValues_eq known (congrArg Outline.values same)]

theorem emitBodies_eq (alike : context.Alike context') (cancelled : Nat → Bool) (asked : Nat)
    {functions functions' : List Function} (heads : List Llvm.Function)
    (formed : ∀ function ∈ functions, function.WellFormed context)
    (formed' : ∀ function ∈ functions', function.WellFormed context')
    (same : functions.map (Function.outline context.types) =
      functions'.map (Function.outline context'.types)) :
    Llvm.emitBodies context cancelled asked (functions.zip heads) =
      Llvm.emitBodies context' cancelled asked (functions'.zip heads) := by
  induction functions generalizing functions' heads asked with
  | nil =>
    obtain rfl := List.map_eq_nil_iff.mp same.symm
    rfl
  | cons function functions ih =>
    cases functions' with
    | nil => cases same
    | cons function' functions' =>
      obtain ⟨outline, tail⟩ := List.cons.inj same
      cases heads with
      | nil => rfl
      | cons head heads =>
        have name : function.name = function'.name := congrArg Outline.name outline
        have body := alike.emitBody_eq (formed function List.mem_cons_self)
          (formed' function' List.mem_cons_self) outline head.parameters
        have rest := ih (asked + 1) heads
          (fun other member => formed other (List.mem_cons_of_mem _ member))
          (fun other member => formed' other (List.mem_cons_of_mem _ member)) tail
        simp only [List.zip_cons_cons, Llvm.emitBodies, body, name, rest]

/-- Contexts that look alike are lowered to the same module, by the same steps. -/
theorem emit_eq (alike : context.Alike context') (cancelled : Nat → Bool) :
    Llvm.emit context cancelled = Llvm.emit context' cancelled := by
  have heads : context.listFunctions.mapM (Llvm.emitHead context) =
      context'.listFunctions.mapM (Llvm.emitHead context') :=
    mapM_eq_mapM_of_map_eq (alike.map_listFunctions fun _ _ formed _ => emitHead_eq formed)
  simp only [Llvm.emit, heads]
  split
  · rfl
  · rw [alike.listFunctions_left, alike.listFunctions_right]
    apply alike.emitBodies_eq
    · intro function member
      obtain ⟨id, found⟩ := Arena.mem_toList_iff.mp member
      exact alike.formed.functions id function found
    · intro function member
      obtain ⟨id, found⟩ := Arena.mem_toList_iff.mp member
      exact alike.formed'.functions id function found
    · exact alike.outlines

end Alike
end Context
end Blockwork
