import Blockwork.Proofs.Steps
import Mathlib.Data.List.Basic

/-!
# Well-formed contexts

What construction keeps true of a context. Values are numbered through a function, parameters
first; a block lists the values that name it as their home, in the order of their numbers; operands
are numbered before their users and have the types that their use asks for; terminators refer to
what is there; names lead to functions. Every step of construction keeps all of this, so it holds
of every context that is built from the empty one.
-/

namespace Blockwork

namespace Function

/-- The block that computes a value, by number; none for parameters. -/
def home? (function : Function) (id : ValueId) : Option BlockId :=
  (function.values.get? id).bind fun value => value.origin.block?

theorem home?_eq_some_iff {function : Function} {id : ValueId} {block : BlockId} :
    function.home? id = some block ↔
      ∃ type instruction, function.values.get? id = some ⟨type, .instruction block instruction⟩ := by
  unfold home?
  cases function.values.get? id with
  | none => simp
  | some value =>
    obtain ⟨type, origin⟩ := value
    cases origin <;> simp [Origin.block?]

/-- What construction keeps true of a function of a context. -/
structure WellFormed (context : Context) (function : Function) : Prop where
  /-- The types of arguments and result are known. -/
  known : function.signature.Known context.types
  /-- The first values are the parameters, in order and with the types of the inputs. -/
  parameters : ∀ id type, function.signature.inputs[id]? = some type →
    function.values.get? id = some ⟨type, .parameter id⟩
  /-- Every later value comes from an instruction that fits, in a block of the function, and is
  numbered after its operands. -/
  later : ∀ id value, function.values.get? id = some value → function.signature.inputs.length ≤ id →
    ∃ block instruction, value.origin = .instruction block instruction ∧
      block < function.blocks.size ∧ (∀ operand ∈ instruction.operands, operand < id) ∧
      instruction.Fits context function value.type
  /-- The type of every value is known. -/
  typed : ∀ id value, function.values.get? id = some value →
    (context.types.lookup? value.type).isSome
  /-- A block lists the values it computes, in the order of their numbers. -/
  listed : ∀ block content, function.blocks.get? block = some content →
    content.values.toList =
      (List.range function.values.size).filter fun id => function.home? id = some block
  /-- What a terminator refers to is there. -/
  ended : ∀ block content terminator, function.blocks.get? block = some content →
    content.terminator = some terminator → terminator.Fits function

end Function

namespace Context

/-- What construction keeps true of a context. -/
structure WellFormed (context : Context) : Prop where
  /-- The types are numbered one by one. -/
  types : context.types.WellFormed
  /-- The type of truth values has its number. -/
  truth : context.types.lookup? Interner.boolId = some Descriptor.bool
  /-- Every function is well-formed. -/
  functions : ∀ id function, context.functions.get? id = some function →
    function.WellFormed context
  /-- A name leads to the function that has it. -/
  names : ∀ name id, context.names.lookup name = some id ↔
    ∃ function, context.functions.get? id = some function ∧ function.name = name
  /-- A name can stand in the textual form. -/
  spelled : ∀ id function, context.functions.get? id = some function →
    FunctionName.check function.name = .ok ()
  /-- A name is the normal form of some text. -/
  normalized : ∀ id function, context.functions.get? id = some function →
    ∃ raw, function.name = Text.normalize raw

/-- A context keeps what another knows: the meaning of types and the signatures of functions. -/
structure Keeps (before after : Context) : Prop where
  /-- Types keep their numbers. -/
  types : before.types.Extends after.types
  /-- Functions keep their signatures. -/
  signatures : ∀ id function, before.functions.get? id = some function →
    ∃ function', after.functions.get? id = some function' ∧
      function'.signature = function.signature

end Context

/-! ## What growth keeps -/

theorem map_eq_map_some_of_imp {α β : Type} {before after : α → Option β} {list : List α}
    {expected : List β} (mono : ∀ item value, before item = some value → after item = some value)
    (found : list.map before = expected.map some) : list.map after = expected.map some := by
  induction list generalizing expected with
  | nil => simpa using found
  | cons item rest ih =>
    cases expected with
    | nil => simp at found
    | cons value values =>
      simp only [List.map_cons, List.cons.injEq] at found ⊢
      exact ⟨mono item value found.1, ih found.2⟩

theorem Instruction.Fits.mono {before after : Context} {function function' : Function}
    {type : TypeId} {instruction : Instruction} (keeps : before.Keeps after)
    (grows : ∀ id type, function.typeOf? id = some type → function'.typeOf? id = some type)
    (fits : instruction.Fits before function type) : instruction.Fits after function' type := by
  cases instruction with
  | const literal => exact keeps.types.isSome fits
  | call callee arguments =>
    obtain ⟨target, found, types, output⟩ := fits
    obtain ⟨target', found', same⟩ := keeps.signatures callee target found
    exact ⟨target', found', by rw [same]; exact map_eq_map_some_of_imp grows types,
      by rw [same]; exact output⟩
  | binary operator left right =>
    obtain ⟨shared, leftTyped, rightTyped, result⟩ := fits
    exact ⟨shared, grows left shared leftTyped, grows right shared rightTyped, result⟩

theorem Instruction.Fits.lt_size {context : Context} {function : Function} {type : TypeId}
    {instruction : Instruction} (fits : instruction.Fits context function type) :
    ∀ operand ∈ instruction.operands, operand < function.values.size := by
  intro operand member
  cases instruction with
  | const literal => cases member
  | call callee arguments =>
    obtain ⟨target, -, types, -⟩ := fits
    have mapped : function.typeOf? operand ∈ target.signature.inputs.map some := by
      rw [← types]
      exact List.mem_map_of_mem member
    obtain ⟨input, -, typed⟩ := List.mem_map.mp mapped
    exact Function.lt_of_typeOf? typed.symm
  | binary operator left right =>
    obtain ⟨shared, leftTyped, rightTyped, -⟩ := fits
    simp only [operands, List.mem_cons, List.not_mem_nil, or_false] at member
    rcases member with rfl | rfl
    · exact Function.lt_of_typeOf? leftTyped
    · exact Function.lt_of_typeOf? rightTyped

theorem Signature.Known.mono {signature : Signature} {before after : Interner}
    (keeps : before.Extends after) (known : signature.Known before) : signature.Known after :=
  ⟨fun input member => keeps.isSome (known.1 input member), keeps.isSome known.2⟩

/-- A well-formed function stays so while the context around it grows. -/
theorem Function.WellFormed.mono {before after : Context} {function : Function}
    (keeps : before.Keeps after) (formed : function.WellFormed before) :
    function.WellFormed after where
  known := formed.known.mono keeps.types
  parameters := formed.parameters
  later id value found late := by
    obtain ⟨block, instruction, origin, inside, earlier, fits⟩ := formed.later id value found late
    exact ⟨block, instruction, origin, inside, earlier, fits.mono keeps fun _ _ typed => typed⟩
  typed id value found := keeps.types.isSome (formed.typed id value found)
  listed := formed.listed
  ended := formed.ended

namespace Context

theorem Keeps.refl (context : Context) : context.Keeps context :=
  ⟨.refl _, fun _ function found => ⟨function, found, rfl⟩⟩

theorem Keeps.trans {first second third : Context} (early : first.Keeps second)
    (late : second.Keeps third) : first.Keeps third where
  types := early.types.trans late.types
  signatures id function found := by
    obtain ⟨function', found', same⟩ := early.signatures id function found
    obtain ⟨function'', found'', same'⟩ := late.signatures id function' found'
    exact ⟨function'', found'', same'.trans same⟩

end Context

/-! ## Steps inside a function -/

namespace Function

theorem get?_declare (name : Bytes) (signature : Signature) (id : ValueId) :
    (declare name signature).values.get? id =
      signature.inputs[id]?.map fun type => ⟨type, .parameter id⟩ := by
  rw [Arena.get?_eq_getElem?, declare, Arena.toList_ofList, List.getElem?_map,
    List.getElem?_zipIdx]
  cases signature.inputs[id]? <;> simp

theorem get?_pushValue (function : Function) (block : BlockId) (type : TypeId)
    (instruction : Instruction) (id : ValueId) :
    (function.pushValue block type instruction).values.get? id =
      if id = function.values.size then some ⟨type, .instruction block instruction⟩
      else function.values.get? id :=
  function.values.get?_push _ id

theorem get?_pushValue_of_some {function : Function} {block : BlockId} {type : TypeId}
    {instruction : Instruction} {id : ValueId} {value : Value}
    (found : function.values.get? id = some value) :
    (function.pushValue block type instruction).values.get? id = some value := by
  have inside := Arena.get?_eq_some_lt found
  rw [get?_pushValue, if_neg (Nat.ne_of_lt inside), found]

theorem typeOf?_pushValue_of_some {function : Function} {block : BlockId} {type : TypeId}
    {instruction : Instruction} (id : ValueId) (known : TypeId)
    (typed : function.typeOf? id = some known) :
    (function.pushValue block type instruction).typeOf? id = some known := by
  obtain ⟨value, found, same⟩ := typeOf?_eq_some_iff.mp typed
  exact typeOf?_eq_some_iff.mpr ⟨value, get?_pushValue_of_some found, same⟩

theorem home?_pushValue (function : Function) (block : BlockId) (type : TypeId)
    (instruction : Instruction) (id : ValueId) :
    (function.pushValue block type instruction).home? id =
      if id = function.values.size then some block else function.home? id := by
  unfold home?
  rw [get?_pushValue]
  split <;> rfl

namespace WellFormed

variable {context : Context} {function : Function}

theorem declare (name : Bytes) {signature : Signature} (known : signature.Known context.types) :
    (Function.declare name signature).WellFormed context := by
  refine ⟨known, ?_, ?_, ?_, ?_, ?_⟩
  · intro id type input
    have input : signature.inputs[id]? = some type := input
    rw [get?_declare, input]
    rfl
  · intro id value found late
    have late : signature.inputs.length ≤ id := late
    rw [get?_declare, List.getElem?_eq_none late] at found
    cases found
  · intro id value found
    rw [get?_declare] at found
    obtain ⟨type, input, rfl⟩ := Option.map_eq_some_iff.mp found
    exact known.1 type (List.mem_of_getElem? input)
  · intro block content found
    cases Arena.get?_eq_some_lt found
  · intro block content terminator found
    cases Arena.get?_eq_some_lt found

theorem pushBlock (formed : function.WellFormed context) :
    function.pushBlock.WellFormed context := by
  -- Values stay as they are; only the number of blocks grows.
  have blocks : ∀ block content, function.pushBlock.blocks.get? block = some content →
      (block = function.blocks.size ∧ content = {}) ∨
        function.blocks.get? block = some content := by
    intro block content found
    rw [Function.pushBlock, Arena.get?_push] at found
    split at found
    · exact .inl ⟨‹_›, (Option.some.inj found).symm⟩
    · exact .inr found
  have inside : ∀ block, block < function.blocks.size → block < function.pushBlock.blocks.size := by
    intro block old
    rw [Function.pushBlock, Arena.size_push]
    omega
  refine ⟨formed.known, formed.parameters, ?_, formed.typed, ?_, ?_⟩
  · intro id value found late
    obtain ⟨block, instruction, origin, old, earlier, fits⟩ := formed.later id value found late
    exact ⟨block, instruction, origin, inside block old, earlier,
      fits.mono (.refl context) fun _ _ typed => typed⟩
  · intro block content found
    rcases blocks block content found with ⟨rfl, rfl⟩ | old
    · -- No value has the new block as its home.
      symm
      apply List.filter_eq_nil_iff.mpr
      intro id _ atHome
      obtain ⟨type, instruction, held⟩ := home?_eq_some_iff.mp (of_decide_eq_true atHome)
      by_cases late : function.signature.inputs.length ≤ id
      · obtain ⟨block, other, origin, old, -, -⟩ := formed.later id _ held late
        cases origin
        exact Nat.lt_irrefl _ old
      · have early := formed.parameters id _ (List.getElem?_eq_getElem (Nat.lt_of_not_le late))
        cases (held.symm.trans early)
    · exact formed.listed block content old
  · intro block content terminator found ends
    rcases blocks block content found with ⟨rfl, rfl⟩ | old
    · cases ends
    · have fits := formed.ended block content terminator old ends
      cases terminator with
      | branch target => exact inside target fits
      | result value => exact fits

theorem terminate (formed : function.WellFormed context) (block : BlockId)
    {terminator : Terminator} (fits : terminator.Fits function) :
    (function.terminate block terminator).WellFormed context := by
  have blocks : ∀ other content,
      (function.terminate block terminator).blocks.get? other = some content →
        ∃ old, function.blocks.get? other = some old ∧ content.values = old.values ∧
          (content.terminator = old.terminator ∨ content.terminator = some terminator) := by
    intro other content found
    rw [Function.terminate, Arena.get?_modify] at found
    split at found
    · obtain ⟨old, held, rfl⟩ := Option.map_eq_some_iff.mp found
      exact ⟨old, held, rfl, .inr rfl⟩
    · exact ⟨content, found, rfl, .inl rfl⟩
  have same : ∀ other : Terminator, other.Fits function →
      other.Fits (function.terminate block terminator) := by
    intro other fits
    cases other <;> exact fits
  refine ⟨formed.known, formed.parameters, ?_, formed.typed, ?_, ?_⟩
  · intro id value found late
    obtain ⟨home, instruction, origin, inside, earlier, fits⟩ := formed.later id value found late
    exact ⟨home, instruction, origin, inside, earlier,
      fits.mono (.refl context) fun _ _ typed => typed⟩
  · intro other content found
    obtain ⟨old, held, values, -⟩ := blocks other content found
    rw [values]
    exact formed.listed other old held
  · intro other content ending found ends
    obtain ⟨old, held, -, kept | set⟩ := blocks other content found
    · exact same ending (formed.ended other old ending held (kept ▸ ends))
    · rw [set] at ends
      cases ends
      exact same _ fits

theorem pushValue (formed : function.WellFormed context) {block : BlockId} {type : TypeId}
    {instruction : Instruction} (inside : block < function.blocks.size)
    (known : (context.types.lookup? type).isSome)
    (fits : instruction.Fits context function type) :
    (function.pushValue block type instruction).WellFormed context := by
  have sameBlocks : (function.pushValue block type instruction).blocks.size =
      function.blocks.size := rfl
  refine ⟨formed.known, ?_, ?_, ?_, ?_, ?_⟩
  · intro id input found
    exact get?_pushValue_of_some (formed.parameters id input found)
  · intro id value found late
    rw [get?_pushValue] at found
    split at found
    · rename_i new
      cases found
      exact ⟨block, instruction, rfl, inside, new ▸ fits.lt_size,
        fits.mono (.refl context) typeOf?_pushValue_of_some⟩
    · obtain ⟨home, old, origin, homeInside, earlier, oldFits⟩ := formed.later id value found late
      exact ⟨home, old, origin, homeInside, earlier,
        oldFits.mono (.refl context) typeOf?_pushValue_of_some⟩
  · intro id value found
    rw [get?_pushValue] at found
    split at found
    · cases found
      exact known
    · exact formed.typed id value found
  · intro other content found
    have oldHomes : (List.range function.values.size).filter
          (fun id => (function.pushValue block type instruction).home? id = some other) =
        (List.range function.values.size).filter (fun id => function.home? id = some other) := by
      apply List.filter_congr
      intro id member
      rw [home?_pushValue, if_neg (Nat.ne_of_lt (List.mem_range.mp member))]
    have newHome : (function.pushValue block type instruction).home? function.values.size =
        some block := by
      rw [home?_pushValue, if_pos rfl]
    rw [show (function.pushValue block type instruction).values.size = function.values.size + 1
      from Arena.size_push _ _, List.range_succ, List.filter_append, oldHomes]
    rw [Function.pushValue, Arena.get?_modify] at found
    by_cases here : block = other
    · subst here
      rw [if_pos rfl] at found
      obtain ⟨old, held, rfl⟩ := Option.map_eq_some_iff.mp found
      simp [formed.listed block old held, newHome]
    · rw [if_neg here] at found
      simp [formed.listed other content found, newHome, here]
  · intro other content terminator found ends
    have kept : ∀ ending : Terminator, ending.Fits function →
        ending.Fits (function.pushValue block type instruction) := by
      intro ending endingFits
      cases ending with
      | branch target => exact endingFits
      | result value => exact typeOf?_pushValue_of_some value _ endingFits
    rw [Function.pushValue, Arena.get?_modify] at found
    split at found
    · obtain ⟨old, held, rfl⟩ := Option.map_eq_some_iff.mp found
      exact kept terminator (formed.ended other old terminator held ends)
    · exact kept terminator (formed.ended other content terminator found ends)

end WellFormed
end Function

/-! ## Steps of a context -/

namespace Context

variable {context context' : Context}

theorem get?_replace (context : Context) (id : FunctionId) (function : Function)
    (other : FunctionId) :
    (context.replace id function).functions.get? other =
      if id = other then (context.functions.get? other).map fun _ => function
      else context.functions.get? other :=
  context.functions.get?_set id function other

theorem Keeps.replace {id : FunctionId} {function changed : Function}
    (found : context.functions.get? id = some function)
    (same : changed.signature = function.signature) :
    context.Keeps (context.replace id changed) where
  types := .refl _
  signatures other old held := by
    rw [get?_replace]
    by_cases here : id = other
    · subst here
      cases found.symm.trans held
      exact ⟨changed, by simp [found], same⟩
    · exact ⟨old, by rw [if_neg here, held], rfl⟩

/-- A step keeps the meaning of types and the signatures of functions. -/
theorem Build.keeps (built : context.Build context') : context.Keeps context' := by
  cases built with
  | intern type _ _ =>
    exact ⟨context.types.extends_insert type, fun _ function found => ⟨function, found, rfl⟩⟩
  | declare raw signature _ _ _ _ =>
    refine ⟨.refl _, fun id function found => ⟨function, ?_, rfl⟩⟩
    rw [Arena.get?_push, if_neg (Nat.ne_of_lt (Arena.get?_eq_some_lt found)), found]
  | addBlock id _ _ found =>
    refine ⟨.refl _, fun other old held => ?_⟩
    rw [Arena.get?_modify]
    by_cases here : id = other
    · exact ⟨old.pushBlock, by rw [if_pos here, held]; rfl, rfl⟩
    · exact ⟨old, by rw [if_neg here, held], rfl⟩
  | append type instruction opened _ => exact Keeps.replace opened.function_eq rfl
  | finish terminator opened _ => exact Keeps.replace opened.function_eq rfl

theorem Builds.keeps (built : context.Builds context') : context.Keeps context' := by
  induction built with
  | refl => exact .refl context
  | tail _ step ih => exact ih.trans step.keeps

namespace WellFormed

/-- The type of a value that an instruction can compute is known. -/
theorem known_of_fits (formed : context.WellFormed) {id : FunctionId} {function : Function}
    (found : context.functions.get? id = some function) {type : TypeId}
    {instruction : Instruction} (fits : instruction.Fits context function type) :
    (context.types.lookup? type).isSome := by
  cases instruction with
  | const literal => exact fits
  | call callee arguments =>
    obtain ⟨target, targetFound, -, rfl⟩ := fits
    exact (formed.functions callee target targetFound).known.2
  | binary operator left right =>
    obtain ⟨shared, leftTyped, -, rfl⟩ := fits
    split
    · rw [formed.truth]
      rfl
    · obtain ⟨value, held, rfl⟩ := Function.typeOf?_eq_some_iff.mp leftTyped
      exact (formed.functions id function found).typed left value held

/-- Changing one function, but not its name, into a well-formed one keeps the context
well-formed. -/
theorem replace (formed : context.WellFormed) {id : FunctionId} {function changed : Function}
    (found : context.functions.get? id = some function) (sameName : changed.name = function.name)
    (sameSignature : changed.signature = function.signature)
    (changedFormed : changed.WellFormed context) : (context.replace id changed).WellFormed := by
  have keeps : context.Keeps (context.replace id changed) := Keeps.replace found sameSignature
  have cases : ∀ other held, (context.replace id changed).functions.get? other = some held →
      (other = id ∧ held = changed) ∨ (context.functions.get? other = some held) := by
    intro other held heldFound
    rw [get?_replace] at heldFound
    split at heldFound
    · rename_i here
      subst here
      rw [found] at heldFound
      exact .inl ⟨rfl, (Option.some.inj heldFound).symm⟩
    · exact .inr heldFound
  refine ⟨formed.types, formed.truth, ?_, ?_, ?_, ?_⟩
  · intro other held heldFound
    rcases cases other held heldFound with ⟨rfl, rfl⟩ | old
    · exact changedFormed.mono keeps
    · exact (formed.functions other held old).mono keeps
  · intro name other
    rw [show (context.replace id changed).names = context.names from rfl, formed.names name other]
    rw [get?_replace]
    by_cases here : id = other
    · subst here
      simp [found, sameName]
    · simp [here]
  · intro other held heldFound
    rcases cases other held heldFound with ⟨rfl, rfl⟩ | old
    · rw [sameName]
      exact formed.spelled other function found
    · exact formed.spelled other held old
  · intro other held heldFound
    rcases cases other held heldFound with ⟨rfl, rfl⟩ | old
    · rw [sameName]
      exact formed.normalized other function found
    · exact formed.normalized other held old

theorem intern (formed : context.WellFormed) {type : Descriptor} (valid : type.Valid) :
    { context with types := (context.types.insert type).1 }.WellFormed where
  types := formed.types.insert valid
  truth := context.types.extends_insert type _ _ formed.truth
  functions id function found :=
    (formed.functions id function found).mono
      ⟨context.types.extends_insert type, fun _ other held => ⟨other, held, rfl⟩⟩
  names := formed.names
  spelled := formed.spelled
  normalized := formed.normalized

theorem declare (formed : context.WellFormed) {raw : Bytes} {signature : Signature}
    (building : context.phase = .building)
    (checked : FunctionName.check (Text.normalize raw) = .ok ())
    (fresh : context.names.lookup (Text.normalize raw) = none)
    (known : signature.Known context.types) :
    { context with
      functions := context.functions.push (.declare (Text.normalize raw) signature)
      names := (Text.normalize raw, context.functions.size) :: context.names }.WellFormed := by
  have keeps := (Build.declare raw signature building checked fresh known).keeps
  have cases : ∀ id held,
      (context.functions.push (.declare (Text.normalize raw) signature)).get? id = some held →
        (id = context.functions.size ∧ held = .declare (Text.normalize raw) signature) ∨
          context.functions.get? id = some held := by
    intro id held found
    rw [Arena.get?_push] at found
    split at found
    · exact .inl ⟨‹_›, (Option.some.inj found).symm⟩
    · exact .inr found
  refine ⟨formed.types, formed.truth, ?_, ?_, ?_, ?_⟩
  · intro id held found
    rcases cases id held found with ⟨rfl, rfl⟩ | old
    · exact Function.WellFormed.mono keeps (Function.WellFormed.declare _ known)
    · exact (formed.functions id held old).mono keeps
  · intro name id
    simp only [List.lookup_cons, Arena.get?_push]
    by_cases new : id = context.functions.size
    · subst new
      have unused : context.names.lookup name ≠ some context.functions.size := by
        intro used
        obtain ⟨function, held, -⟩ := (formed.names name _).mp used
        exact Nat.lt_irrefl _ (Arena.get?_eq_some_lt held)
      by_cases same : name = Text.normalize raw
      · simp [same, Function.declare]
      · have differs : (name == Text.normalize raw) = false := by simpa using same
        simp only [differs, unused, if_true, Option.some.injEq, false_iff]
        rintro ⟨function, rfl, same'⟩
        exact same same'.symm
    · rw [if_neg new, ← formed.names name id]
      by_cases same : name = Text.normalize raw
      · subst same
        simp [fresh, Ne.symm new]
      · have differs : (name == Text.normalize raw) = false := by simpa using same
        rw [differs]
  · intro id held found
    rcases cases id held found with ⟨rfl, rfl⟩ | old
    · exact checked
    · exact formed.spelled id held old
  · intro id held found
    rcases cases id held found with ⟨rfl, rfl⟩ | old
    · exact ⟨raw, rfl⟩
    · exact formed.normalized id held old

theorem new (optimize : Bool) : (Context.new optimize).WellFormed where
  types := Interner.wellFormed_initial
  truth := Interner.lookup?_boolId_initial
  functions id function found := by cases Arena.get?_eq_some_lt found
  names name id := by
    constructor
    · intro found
      cases found
    · rintro ⟨function, found, -⟩
      cases Arena.get?_eq_some_lt found
  spelled id function found := by cases Arena.get?_eq_some_lt found
  normalized id function found := by cases Arena.get?_eq_some_lt found

/-- A step of construction keeps a context well-formed. -/
theorem build (formed : context.WellFormed) (built : context.Build context') :
    context'.WellFormed := by
  cases built with
  | intern type _ valid => exact formed.intern valid
  | declare raw signature building checked fresh known =>
    exact formed.declare building checked fresh known
  | addBlock id function _ found =>
    rw [Arena.modify_eq_set found]
    exact formed.replace found rfl rfl (formed.functions id function found).pushBlock
  | append type instruction opened fits =>
    have inner := formed.functions _ _ opened.function_eq
    exact formed.replace opened.function_eq rfl rfl
      (inner.pushValue (Arena.get?_eq_some_lt opened.block_eq)
        (formed.known_of_fits opened.function_eq fits) fits)
  | finish terminator opened fits =>
    have inner := formed.functions _ _ opened.function_eq
    exact formed.replace opened.function_eq rfl rfl (inner.terminate _ fits)

theorem builds (formed : context.WellFormed) (built : context.Builds context') :
    context'.WellFormed := by
  induction built with
  | refl => exact formed
  | tail _ step ih => exact ih.build step

/-- The stage of its life does not matter to a well-formed context. -/
theorem withPhase (formed : context.WellFormed) (phase : Phase) :
    { context with phase }.WellFormed := by
  have keeps : context.Keeps { context with phase } :=
    ⟨.refl _, fun _ function found => ⟨function, found, rfl⟩⟩
  exact ⟨formed.types, formed.truth,
    fun id function found => (formed.functions id function found).mono keeps,
    formed.names, formed.spelled, formed.normalized⟩

theorem step (formed : context.WellFormed) (stepped : context.Step context') :
    context'.WellFormed := by
  cases stepped with
  | build built => exact formed.build built
  | consume _ => exact formed.withPhase .consumed
  | destroy => exact formed.withPhase .destroyed

/-- A context stays well-formed all its life. -/
theorem reaches (formed : context.WellFormed) (reached : context.Reaches context') :
    context'.WellFormed := by
  induction reached with
  | refl => exact formed
  | tail _ step ih => exact ih.step step

end WellFormed
end Context
end Blockwork
