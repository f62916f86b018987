import Blockwork.Proofs.Order

/-!
# Outlines

The number of a type depends on the order in which types were interned, and nothing else about a
context does. An outline is what is left of a function once every such number is replaced by the
type it stands for. The lists of values in the blocks are left out as well, for they follow from the
homes of the values. Each step of construction changes the outlines in a way that mentions no number
of a type.
-/

namespace Blockwork

/-- A function without the numbers of its types. -/
structure Outline where
  /-- The name. -/
  name : Bytes
  /-- The types of the arguments. -/
  inputs : List (Option Descriptor)
  /-- The type of the result. -/
  output : Option Descriptor
  /-- The ends of the blocks. -/
  ends : List (Option Terminator)
  /-- The values, by type and origin. -/
  values : List (Option Descriptor × Origin)
deriving DecidableEq, Repr

/-- A value by type and origin. -/
def Value.described (types : Interner) (value : Value) : Option Descriptor × Origin :=
  (types.lookup? value.type, value.origin)

/-- The outline of a function whose types have the given numbers. -/
def Function.outline (types : Interner) (function : Function) : Outline where
  name := function.name
  inputs := function.signature.inputs.map types.lookup?
  output := types.lookup? function.signature.output
  ends := function.blocks.toList.map Block.terminator
  values := function.values.toList.map (Value.described types)

/-- The outlines of the functions of a context. -/
def Context.outlines (context : Context) : List Outline :=
  context.functions.toList.map (Function.outline context.types)

theorem map_eq_map_of_imp {α β γ δ : Type} {first : α → γ} {second : β → γ} {left : α → δ}
    {right : β → δ} {ones : List α} {twos : List β} (same : ones.map first = twos.map second)
    (imp : ∀ one ∈ ones, ∀ two ∈ twos, first one = second two → left one = right two) :
    ones.map left = twos.map right := by
  induction ones generalizing twos with
  | nil =>
    obtain rfl := List.map_eq_nil_iff.mp same.symm
    rfl
  | cons one ones ih =>
    cases twos with
    | nil => cases same
    | cons two twos =>
      obtain ⟨head, tail⟩ := List.cons.inj same
      have rest := ih tail fun one member two member' =>
        imp one (List.mem_cons_of_mem _ member) two (List.mem_cons_of_mem _ member')
      rw [List.map_cons, List.map_cons, imp one List.mem_cons_self two List.mem_cons_self head, rest]

namespace Function

variable {context context' : Context} {function function' : Function}

theorem length_ends (types : Interner) (function : Function) :
    (function.outline types).ends.length = function.blocks.size := by
  simp [outline]

theorem length_values (types : Interner) (function : Function) :
    (function.outline types).values.length = function.values.size := by
  simp [outline]

theorem getElem?_ends (types : Interner) (function : Function) (block : BlockId) :
    (function.outline types).ends[block]? = (function.blocks.get? block).map Block.terminator := by
  simp [outline, Arena.get?_eq_getElem?]

theorem getElem?_values (types : Interner) (function : Function) (id : ValueId) :
    (function.outline types).values[id]? =
      (function.values.get? id).map (Value.described types) := by
  simp [outline, Arena.get?_eq_getElem?]

theorem home?_eq_outline (types : Interner) (function : Function) (id : ValueId) :
    function.home? id = ((function.outline types).values[id]?).bind fun value => value.2.block? := by
  rw [getElem?_values, home?]
  cases function.values.get? id <;> rfl

/-- The outline of a function stays the same while more types become known. -/
theorem WellFormed.outline_extends (formed : function.WellFormed context) {types : Interner}
    (extended : context.types.Extends types) :
    function.outline types = function.outline context.types := by
  have same : ∀ id, (context.types.lookup? id).isSome → types.lookup? id = context.types.lookup? id := by
    intro id known
    obtain ⟨type, found⟩ := Option.isSome_iff_exists.mp known
    rw [found, extended id type found]
  have inputs : function.signature.inputs.map types.lookup? =
      function.signature.inputs.map context.types.lookup? :=
    List.map_congr_left fun input member => same input (formed.known.1 input member)
  have values : function.values.toList.map (Value.described types) =
      function.values.toList.map (Value.described context.types) := by
    apply List.map_congr_left
    intro value member
    obtain ⟨id, found⟩ := Arena.mem_toList_iff.mp member
    rw [Value.described, Value.described, same _ (formed.typed id value found)]
  rw [outline, outline, inputs, values, same _ formed.known.2]

/-- The blocks of a function follow from its outline. -/
theorem WellFormed.blocks_eq (formed : function.WellFormed context)
    (formed' : function'.WellFormed context')
    (same : function.outline context.types = function'.outline context'.types) :
    function.blocks.toList = function'.blocks.toList := by
  have homes : ∀ id, function.home? id = function'.home? id := by
    intro id
    rw [home?_eq_outline context.types, home?_eq_outline context'.types, same]
  have sizes : function.values.size = function'.values.size := by
    rw [← length_values context.types, ← length_values context'.types, same]
  apply List.ext_getElem?
  intro block
  rw [← Arena.get?_eq_getElem?, ← Arena.get?_eq_getElem?]
  have ends : (function.blocks.get? block).map Block.terminator =
      (function'.blocks.get? block).map Block.terminator := by
    rw [← getElem?_ends context.types, ← getElem?_ends context'.types, same]
  cases left : function.blocks.get? block with
  | none =>
    cases right : function'.blocks.get? block with
    | none => rfl
    | some content =>
      rw [left, right] at ends
      cases ends
  | some content =>
    cases right : function'.blocks.get? block with
    | none =>
      rw [left, right] at ends
      cases ends
    | some content' =>
      rw [left, right] at ends
      have values : content.values.toList = content'.values.toList := by
        rw [formed.listed block content left, formed'.listed block content' right, sizes]
        simp only [homes]
      obtain ⟨entries, terminator⟩ := content
      obtain ⟨entries', terminator'⟩ := content'
      cases Option.some.inj ends
      cases Array.toList_inj.mp values
      rfl

end Function

namespace Context

variable {context context' : Context}

theorem length_outlines (context : Context) :
    context.outlines.length = context.functions.size := by
  simp [outlines]

theorem getElem?_outlines (context : Context) (id : FunctionId) :
    context.outlines[id]? = (context.functions.get? id).map (Function.outline context.types) := by
  simp [outlines, Arena.get?_eq_getElem?]

/-- The function behind an outline. -/
theorem exists_of_outlines {id : FunctionId} {outline : Outline}
    (found : context.outlines[id]? = some outline) :
    ∃ function, context.functions.get? id = some function ∧
      function.outline context.types = outline := by
  rw [getElem?_outlines] at found
  exact Option.map_eq_some_iff.mp found

/-! ## What steps do to outlines -/

namespace WellFormed

/-- Interning changes no outline. -/
theorem outlines_intern (formed : context.WellFormed) (type : Descriptor) :
    { context with types := (context.types.insert type).1 }.outlines = context.outlines := by
  apply List.map_congr_left
  intro function member
  obtain ⟨id, found⟩ := Arena.mem_toList_iff.mp member
  exact (formed.functions id function found).outline_extends (context.types.extends_insert type)

end WellFormed

/-- A function that is only declared. -/
theorem outline_declare (types : Interner) (name : Bytes) (signature : Signature) :
    (Function.declare name signature).outline types =
      { name
        inputs := signature.inputs.map types.lookup?
        output := types.lookup? signature.output
        ends := []
        values := (signature.inputs.map types.lookup?).zipIdx.map fun (type, index) =>
          (type, .parameter index) } := by
  simp [Function.outline, Function.declare, Value.described, List.zipIdx_map]

theorem outlines_replace (context : Context) (id : FunctionId) (function : Function) :
    (context.replace id function).outlines =
      context.outlines.set id (function.outline context.types) := by
  simp [outlines, replace, List.map_set]

/-- A block more is an open end more. -/
theorem outlines_addBlock {id : FunctionId} {function : Function}
    (found : context.functions.get? id = some function) :
    { context with functions := context.functions.modify id Function.pushBlock }.outlines =
      context.outlines.set id
        { function.outline context.types with
          ends := (function.outline context.types).ends ++ [none] } := by
  have same : { context with functions := context.functions.modify id Function.pushBlock } =
      context.replace id function.pushBlock := by
    rw [replace, Arena.modify_eq_set found]
  rw [same, outlines_replace]
  simp [Function.outline, Function.pushBlock]

/-- An instruction more is a value more. -/
theorem outlines_append (context : Context) (place : Place) (function : Function) (type : TypeId)
    (instruction : Instruction) :
    (context.append place function type instruction).1.outlines =
      context.outlines.set place.function
        { function.outline context.types with
          values := (function.outline context.types).values ++
            [(context.types.lookup? type, .instruction place.block instruction)] } := by
  have ends : (function.blocks.toList.modify place.block fun target =>
      { target with values := target.values.push function.values.size }).map Block.terminator =
        function.blocks.toList.map Block.terminator := by
    apply List.ext_getElem?
    intro block
    rw [List.getElem?_map, List.getElem?_map, List.getElem?_modify]
    split <;> simp [Function.comp_def]
  rw [append, outlines_replace]
  simp [Function.outline, Function.pushValue, Value.described, ends]

/-- Ending a block sets its end. -/
theorem outlines_finish (context : Context) (place : Place) (function : Function)
    (terminator : Terminator) :
    (context.replace place.function (function.terminate place.block terminator)).outlines =
      context.outlines.set place.function
        { function.outline context.types with
          ends := (function.outline context.types).ends.set place.block (some terminator) } := by
  have ends : (function.blocks.toList.modify place.block fun target =>
      { target with terminator := some terminator }).map Block.terminator =
        (function.blocks.toList.map Block.terminator).set place.block (some terminator) := by
    apply List.ext_getElem?
    intro block
    rw [List.getElem?_map, List.getElem?_modify, List.getElem?_set, List.getElem?_map]
    by_cases here : place.block = block
    · subst here
      cases found : function.blocks.toList[place.block]? with
      | none =>
        have outside := List.getElem?_eq_none_iff.mp found
        simpa using outside
      | some content =>
        have inside := (List.getElem?_eq_some_iff.mp found).choose
        simpa using inside
    · simp [here]
  rw [outlines_replace]
  simp [Function.outline, Function.terminate, ends]

end Context
end Blockwork
