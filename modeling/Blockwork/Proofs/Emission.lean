import Blockwork.Program.Completeness
import Blockwork.Proofs.Failures
import Blockwork.Proofs.Translation

/-!
# Emission of complete contexts

A complete context without comparisons is emitted as it is translated block by block. With a
comparison there is no module: emission stops at the first function that has one, at the comparison
with the lowest number. Nothing that emission looks for is ever missing.
-/

namespace Blockwork

/-- A function with a first block, whose blocks are all ended. -/
structure Function.Complete (function : Function) : Prop where
  /-- There is a block. -/
  entry : 0 < function.blocks.size
  /-- Every block is ended. -/
  ended : ∀ id block, function.blocks.get? id = some block → block.terminator ≠ none

theorem Function.gaps_eq_nil_iff {function : Function} :
    function.gaps = [] ↔ function.Complete := by
  unfold gaps
  constructor
  · intro none
    split at none
    · cases none
    · rename_i entry
      refine ⟨Nat.pos_of_ne_zero entry, fun id block found open_ => ?_⟩
      have gap := List.filterMap_eq_nil_iff.mp none (id, block) (Arena.mem_all_iff.mpr found)
      simp [open_] at gap
  · intro complete
    rw [if_neg (Nat.ne_of_gt complete.entry), List.filterMap_eq_nil_iff]
    rintro ⟨id, block⟩ member
    have ended := complete.ended id block (Arena.mem_all_iff.mp member)
    simp [ended]

/-- A context is accepted exactly if it is not destroyed and all its functions are complete. -/
theorem Context.validate_eq_ok_iff {context : Context} :
    context.validate = .ok () ↔ context.phase ≠ .destroyed ∧
      ∀ id function, context.functions.get? id = some function → function.Complete := by
  unfold validate
  cases readable : context.readable with
  | error fault =>
    have gone : ¬ context.phase ≠ .destroyed := by
      rw [← readable_eq_ok_iff, readable]
      simp
    simp [gone]
  | ok _ =>
    have alive := readable_eq_ok_iff.mp readable
    dsimp only
    rw [Failure.toExcept_eq_ok_iff, failures, listFunctions, if_neg alive]
    simp only [List.filterMap_eq_nil_iff, Option.map_eq_none_iff, Failure.join_eq_none_iff,
      List.map_eq_nil_iff, Function.gaps_eq_nil_iff, Arena.mem_toList_iff, alive, ne_eq,
      not_false_eq_true, true_and]
    exact ⟨fun every id function found => every function ⟨id, found⟩,
      fun every function ⟨id, found⟩ => every id function found⟩

/-- No value of the function is a comparison. -/
def Function.Plain (function : Function) : Prop :=
  ∀ number value, function.values.get? number = some value → value.comparison? = none

namespace Llvm
namespace Translation

variable {context : Context} {function : Blockwork.Function}

/-- The end of a block of a complete function is emitted as it is translated. -/
theorem terminator_agree (inner : function.WellFormed context) (complete : function.Complete)
    {progress : Progress} (covers : Covers context function function.values.size progress)
    {id : BlockId} {content : Block} (found : function.blocks.get? id = some content) :
    ∃ terminator, terminator? context function content.terminator = some terminator ∧
      emitTerminator function progress id content.terminator = .ok terminator := by
  cases ends : content.terminator with
  | none => exact absurd ends (complete.ended id content found)
  | some terminator =>
    have fits := inner.ended id content terminator found ends
    cases terminator with
    | branch target =>
      have begun : target < progress.blocks.size := covers.size ▸ fits
      have held := Array.getElem?_eq_getElem begun
      obtain ⟨labelled, -⟩ := covers.blocks target _ held
      exact ⟨.branch (label target), by simp [terminator?, show target < _ from fits],
        by simp [emitTerminator, held, labelled]⟩
    | result value =>
      obtain ⟨operand, stands, emitted⟩ := covers.operand (Function.lt_of_typeOf? fits)
      exact ⟨.result operand, by simp [terminator?, stands], by simp [emitTerminator, emitted]⟩

/-- Once all values have been emitted, so are the blocks. -/
theorem blocks_agree (inner : function.WellFormed context) (complete : function.Complete)
    {progress : Progress} (covers : Covers context function function.values.size progress) :
    ∃ blocks, (function.blocks.all.mapM fun (id, content) => block? context function id content) =
        some blocks ∧ emitBlocks function progress = .ok blocks := by
  apply mapM_agree
  rintro ⟨id, content⟩ member
  have found := Arena.mem_all_iff.mp member
  obtain ⟨terminator, translated, emitted⟩ := terminator_agree inner complete covers found
  have inside : id < progress.blocks.size := covers.size ▸ Arena.get?_eq_some_lt found
  have held := Array.getElem?_eq_getElem inside
  obtain ⟨labelled, listed⟩ := covers.blocks id _ held
  have images : (computed function content).mapM (instruction? context function) =
      some progress.blocks[id].instructions.toList := by
    rw [mapM_eq_some_iff, computed_eq inner found]
    exact listed.symm
  refine ⟨⟨label id, progress.blocks[id].instructions.toList, terminator⟩, ?_, ?_⟩
  · simp [block?, images, translated]
  · simp only [held, emitted, ok_bind, labelled]
    rfl

/-- The head of a function is emitted whether or not its body can be. -/
theorem head_agree (formed : context.WellFormed) (inner : function.WellFormed context) :
    ∃ widths result, function.signature.inputs.mapM (width? context) = some widths ∧
      width? context function.signature.output = some result ∧
      emitHead context function = .ok ⟨function.name, result, widths.mapIdx parameter, []⟩ := by
  obtain ⟨widths, translated, emitted⟩ :
      ∃ widths, function.signature.inputs.mapM (width? context) = some widths ∧
        function.signature.inputs.mapM (width context) = .ok widths :=
    mapM_agree fun input member => width_agree formed (inner.known.1 input member)
  obtain ⟨result, resultTranslated, resultEmitted⟩ := width_agree formed inner.known.2
  refine ⟨widths, result, translated, resultTranslated, ?_⟩
  simp only [emitHead, emitted, resultEmitted, ok_bind, List.mapIdx_eq_zipIdx_map]
  rfl

/-- A complete function without comparisons is emitted as it is translated. -/
theorem function_agree (formed : context.WellFormed) (alive : context.phase ≠ .destroyed)
    (inner : function.WellFormed context) (complete : function.Complete)
    (plain : function.Plain) :
    ∃ image, function? context function = some image ∧
      emitHead context function = .ok { image with blocks := [] } ∧
      (emitBody context function image.parameters).2 = .ok image.blocks := by
  obtain ⟨widths, result, inputs, output, head⟩ := head_agree formed inner
  obtain ⟨progress, emitted, covers⟩ := exists_covers formed alive inner inputs (Nat.le_refl _)
    fun id value _ found => plain id value found
  obtain ⟨blocks, translated, ended⟩ := blocks_agree inner complete covers
  refine ⟨⟨function.name, result, widths.mapIdx parameter, blocks⟩, ?_, head, ?_⟩
  · simp [function?, inputs, output, translated]
  · have every : function.values.all.take function.values.size = function.values.all := by
      apply List.take_of_length_le
      simp [Arena.all]
    rw [every] at emitted
    simp only [emitBody, emitted, Except.bind, ended]

/-- What is said about a comparison. -/
def noLowering (number : ValueId) (operator : Operator) : EmitError :=
  .failed (.fault {
    kind := .notImplemented
    detail := valueName number ++ utf8 " (" ++ utf8 operator.mnemonic ++ utf8 " has no lowering)" })

/-- The body of a function cannot be emitted past its first comparison. -/
theorem emitBody_comparison (formed : context.WellFormed) (alive : context.phase ≠ .destroyed)
    (inner : function.WellFormed context) {head : Function}
    (headed : emitHead context function = .ok head)
    {number : ValueId} {value : Value} {operator : Operator}
    (found : function.values.get? number = some value)
    (compares : value.comparison? = some operator)
    (lowest : ∀ earlier other, earlier < number → function.values.get? earlier = some other →
      other.comparison? = none) :
    (emitBody context function head.parameters).2 = .error (noLowering number operator) := by
  have inside := Arena.get?_eq_some_lt found
  obtain ⟨widths, result, inputs, -, agreed⟩ := head_agree formed inner
  obtain rfl := Except.ok.inj (headed.symm.trans agreed)
  obtain ⟨progress, emitted, -⟩ :=
    exists_covers formed alive inner inputs (Nat.le_of_lt inside) lowest
  have refused : emitValue context (widths.mapIdx parameter) progress number value =
      .error (noLowering number operator) := by
    obtain ⟨type, origin⟩ := value
    rcases origin with index | ⟨block, literal | ⟨callee, arguments⟩ | ⟨kind, left, right⟩⟩
    · cases compares
    · cases compares
    · cases compares
    · simp only [Value.comparison?, Option.ite_none_right_eq_some, Option.some.injEq] at compares
      obtain ⟨compares, rfl⟩ := compares
      simp [emitValue, emitInstruction, compares, noLowering]
  have split : function.values.all = function.values.all.take number ++
      (number, value) :: function.values.all.drop (number + 1) := by
    refine (List.take_append_drop (number + 1) function.values.all).symm.trans ?_
    rw [take_all_succ found, List.append_assoc, List.singleton_append]
  have outcome : (emitValues context (widths.mapIdx parameter) (.start function)
      function.values.all).2 = .error (noLowering number operator) := by
    rw [split, emitValues_append, emitted]
    simp only [Except.bind, emitValues, refused]
  simp only [emitBody, outcome, Except.bind]

/-! ## Modules -/

theorem emitBodies_outcome (context : Context) (asked : Nat) (function : Blockwork.Function)
    (head : Function) (rest : List (Blockwork.Function × Function)) :
    (emitBodies context (fun _ => false) asked ((function, head) :: rest)).outcome =
      match (emitBody context function head.parameters).2 with
      | .error error => .error (error.within function.name)
      | .ok blocks => (emitBodies context (fun _ => false) (asked + 1) rest).outcome.map
          ({ head with blocks } :: ·) := by
  rw [emitBodies, if_neg (by decide)]
  cases emitBody context function head.parameters with
  | mk notes body => cases body <;> rfl

/-- Functions that are emitted as they are translated make up the module. -/
theorem bodies_agree {functions : List Blockwork.Function}
    (each : ∀ function ∈ functions, ∃ image, function? context function = some image ∧
      emitHead context function = .ok { image with blocks := [] } ∧
      (emitBody context function image.parameters).2 = .ok image.blocks) :
    ∃ module heads, functions.mapM (function? context) = some module ∧
      functions.mapM (emitHead context) = .ok heads ∧
      ∀ asked, (emitBodies context (fun _ => false) asked (functions.zip heads)).outcome =
        .ok module := by
  induction functions with
  | nil => exact ⟨[], [], rfl, rfl, fun _ => rfl⟩
  | cons function rest ih =>
    obtain ⟨image, translated, head, body⟩ := each function List.mem_cons_self
    obtain ⟨module, heads, restTranslated, restHeads, restBodies⟩ :=
      ih fun other member => each other (List.mem_cons_of_mem _ member)
    refine ⟨image :: module, { image with blocks := [] } :: heads, ?_, ?_, fun asked => ?_⟩
    · rw [List.mapM_cons, translated, restTranslated]
      rfl
    · rw [List.mapM_cons, head, restHeads]
      rfl
    · rw [List.zip_cons_cons, emitBodies_outcome, body]
      dsimp only
      rw [restBodies]
      rfl

/-- The first function that cannot be emitted decides. -/
theorem bodies_error {before after : List Blockwork.Function} {error : EmitError}
    (each : ∀ other ∈ before, ∀ head, emitHead context other = .ok head →
      ∃ blocks, (emitBody context other head.parameters).2 = .ok blocks)
    (fails : ∀ head, emitHead context function = .ok head →
      (emitBody context function head.parameters).2 = .error error)
    {heads : List Function}
    (headed : (before ++ function :: after).mapM (emitHead context) = .ok heads) (asked : Nat) :
    (emitBodies context (fun _ => false) asked
      ((before ++ function :: after).zip heads)).outcome = .error (error.within function.name) := by
  induction before generalizing heads asked with
  | nil =>
    rw [List.nil_append, List.mapM_cons] at headed
    obtain ⟨head, here, others⟩ := bind_eq_ok_iff.mp headed
    obtain ⟨rest, -, done⟩ := bind_eq_ok_iff.mp others
    cases done
    rw [List.nil_append, List.zip_cons_cons, emitBodies_outcome, fails head here]
  | cons other rest ih =>
    rw [List.cons_append, List.mapM_cons] at headed
    obtain ⟨head, here, others⟩ := bind_eq_ok_iff.mp headed
    obtain ⟨heads, behind, done⟩ := bind_eq_ok_iff.mp others
    cases done
    obtain ⟨blocks, body⟩ := each other List.mem_cons_self head here
    rw [List.cons_append, List.zip_cons_cons, emitBodies_outcome, body]
    dsimp only
    rw [ih (fun next member => each next (List.mem_cons_of_mem _ member)) behind]
    rfl

theorem map_block? {image : Function} (translated : function? context function = some image) :
    (function.blocks.all.map fun (id, content) => block? context function id content) =
      image.blocks.map some := by
  simp only [function?, Option.bind_eq_bind, Option.bind_eq_some_iff] at translated
  obtain ⟨widths, -, result, -, blocks, images, same⟩ := translated
  cases same
  exact mapM_eq_some_iff.mp images

/-- The image of a block is at the place of the block. -/
theorem getElem?_blocks {image : Function} (translated : function? context function = some image)
    {id : BlockId} {content : Block} (held : function.blocks.get? id = some content) :
    ∃ basic, image.blocks[id]? = some basic ∧
      block? context function id content = some basic := by
  have here := congrArg (·[id]?) (map_block? translated)
  simp only [List.getElem?_map, getElem?_all, held, Option.map_some] at here
  obtain ⟨basic, found, same⟩ := Option.map_eq_some_iff.mp here.symm
  exact ⟨basic, found, same.symm⟩

theorem length_blocks {image : Function} (translated : function? context function = some image) :
    image.blocks.length = function.blocks.size := by
  simpa [Arena.all] using (congrArg List.length (map_block? translated)).symm

/-- An operand that is the result of an instruction leads to the instruction of that very value. -/
theorem instruction_of_operand? {image : Function}
    (translated : function? context function = some image) {id : ValueId} {bits block slot : Nat}
    (stands : operand? context function id = some (.result bits block slot)) :
    ∃ basic instruction, image.blocks[block]? = some basic ∧
      basic.instructions[slot]? = some instruction ∧
      instruction? context function id = some instruction := by
  simp only [operand?, Option.bind_eq_bind, Option.bind_eq_some_iff] at stands
  obtain ⟨value, found, width, wide, stands⟩ := stands
  split at stands
  · split at stands <;> cases stands
  · cases stands
  · obtain ⟨content, held, stands⟩ := Option.bind_eq_some_iff.mp stands
    split at stands
    case isFalse => cases stands
    rename_i member
    cases stands
    obtain ⟨basic, basicFound, basicImage⟩ := getElem?_blocks translated held
    simp only [block?, Option.bind_eq_bind, Option.bind_eq_some_iff] at basicImage
    obtain ⟨instructions, listed, terminator, -, same⟩ := basicImage
    cases same
    -- The place of the value in its block is the place of its image.
    have there := congrArg (·[(computed function content).idxOf id]?) (mapM_eq_some_iff.mp listed)
    simp only [List.getElem?_map, List.getElem?_idxOf member, Option.map_some] at there
    obtain ⟨instruction, instructionFound, image⟩ := Option.map_eq_some_iff.mp there.symm
    exact ⟨_, instruction, basicFound, instructionFound, image.symm⟩

/-- A complete context without comparisons is emitted as it is translated. -/
theorem module_agree (formed : context.WellFormed) (complete : context.validate = .ok ())
    (plain : ∀ id function, context.functions.get? id = some function → function.Plain) :
    ∃ module, module? context = some module ∧
      (emit context fun _ => false).outcome = .ok module := by
  obtain ⟨alive, completes⟩ := Context.validate_eq_ok_iff.mp complete
  obtain ⟨module, heads, translated, headed, bodies⟩ :
      ∃ module heads, context.listFunctions.mapM (function? context) = some module ∧
        context.listFunctions.mapM (emitHead context) = .ok heads ∧
        ∀ asked, (emitBodies context (fun _ => false) asked
          (context.listFunctions.zip heads)).outcome = .ok module := by
    refine bodies_agree fun function member => ?_
    rw [Context.listFunctions, if_neg alive] at member
    obtain ⟨id, found⟩ := Arena.mem_toList_iff.mp member
    exact function_agree formed alive (formed.functions id function found)
      (completes id function found) (plain id function found)
  refine ⟨module, translated, ?_⟩
  simp only [emit, headed]
  exact bodies 0

theorem exists_heads (formed : context.WellFormed) :
    ∃ heads, context.listFunctions.mapM (emitHead context) = .ok heads := by
  obtain ⟨heads, -, headed⟩ : ∃ heads,
      context.listFunctions.mapM (fun function => (emitHead context function).toOption) =
        some heads ∧
        context.listFunctions.mapM (emitHead context) = .ok heads := by
    refine mapM_agree fun function member => ?_
    obtain ⟨id, held⟩ : ∃ id, context.functions.get? id = some function := by
      unfold Context.listFunctions at member
      split at member
      · cases member
      · exact Arena.mem_toList_iff.mp member
    obtain ⟨widths, result, -, -, head⟩ := head_agree formed (formed.functions id function held)
    exact ⟨_, by rw [head]; rfl, head⟩
  exact ⟨heads, headed⟩

/-- A complete context with a comparison is refused for the first function that has one, and there
for the comparison with the lowest number. -/
theorem emit_comparison (formed : context.WellFormed) (complete : context.validate = .ok ())
    {position : FunctionId} (held : context.functions.get? position = some function)
    (first : ∀ earlier other, earlier < position → context.functions.get? earlier = some other →
      other.Plain)
    {number : ValueId} {value : Value} {operator : Operator}
    (found : function.values.get? number = some value)
    (compares : value.comparison? = some operator)
    (lowest : ∀ earlier other, earlier < number → function.values.get? earlier = some other →
      other.comparison? = none) :
    (emit context fun _ => false).outcome =
      .error ((noLowering number operator).within function.name) := by
  obtain ⟨alive, completes⟩ := Context.validate_eq_ok_iff.mp complete
  obtain ⟨heads, headed⟩ := exists_heads formed
  have listed : context.listFunctions = context.functions.toList.take position ++
      function :: context.functions.toList.drop (position + 1) := by
    rw [Arena.get?_eq_getElem?] at held
    obtain ⟨inside, rfl⟩ := List.getElem?_eq_some_iff.mp held
    rw [Context.listFunctions, if_neg alive, List.getElem_cons_drop, List.take_append_drop]
  rw [listed] at headed
  simp only [emit, listed, headed]
  refine bodies_error ?_ ?_ headed 0
  · intro other member head here
    obtain ⟨earlier, before, rfl⟩ := List.mem_take_iff_getElem.mp member
    have otherHeld := List.getElem?_eq_getElem (Nat.lt_of_lt_of_le before (Nat.min_le_right _ _))
    rw [← Arena.get?_eq_getElem?] at otherHeld
    obtain ⟨image, -, again, body⟩ := function_agree formed alive
      (formed.functions earlier _ otherHeld) (completes earlier _ otherHeld)
      (first earlier _ (Nat.lt_of_lt_of_le before (Nat.min_le_left _ _)) otherHeld)
    obtain rfl := Except.ok.inj (here.symm.trans again)
    exact ⟨image.blocks, body⟩
  · exact fun head here => emitBody_comparison formed alive
      (formed.functions position function held) here found compares lowest

end Translation
end Llvm

end Blockwork
