import Blockwork.Proofs.Restoring
import Blockwork.Proofs.SnapshotBytes

/-!
# Snapshots of contexts, there and back

Whatever was done to the contexts before, each of them that is not destroyed has a snapshot, and the
context restored from it cannot be told from the original; the same holds of a snapshot that was
written to bytes and read back. Numbers have to fit the words they are written in, and names have to
be in normal form, as names are that were normalized before.
-/

namespace Blockwork
namespace Context

/-- Every value and every block has a number that fits a signed word of thirty-two bits. -/
def Numbered (context : Context) : Prop :=
  ∀ id function, context.functions.get? id = some function →
    function.values.size ≤ 0x80000000 ∧ function.blocks.size ≤ 0x80000000

/-- Normalizing a name again changes nothing. -/
def Normal (context : Context) : Prop :=
  ∀ id function, context.functions.get? id = some function →
    Text.normalize function.name = function.name

/-- The number of functions and the lengths of their names fit the words they are written in. -/
def Portable (context : Context) : Prop :=
  context.functions.size ≤ 0x80000000 ∧
    ∀ id function, context.functions.get? id = some function → function.name.length < 0x100000000

theorem forall_get?_iff {context : Context} {property : Function → Prop} :
    (∀ id function, context.functions.get? id = some function → property function) ↔
      ∀ function ∈ context.functions.toList, property function := by
  constructor
  · intro each function member
    obtain ⟨id, found⟩ := Arena.mem_toList_iff.mp member
    exact each id function found
  · intro each id function found
    exact each function (Arena.mem_toList_iff.mpr ⟨id, found⟩)

instance (context : Context) : Decidable context.Numbered :=
  decidable_of_iff _ forall_get?_iff.symm

instance (context : Context) : Decidable context.Normal :=
  decidable_of_iff _ forall_get?_iff.symm

instance (context : Context) : Decidable context.Portable :=
  decidable_of_iff _ (and_congr_right' forall_get?_iff).symm

variable {context : Context}

theorem Normal.outline (normal : context.Normal) :
    ∀ outline ∈ context.outlines, Text.normalize outline.name = outline.name := by
  intro outline member
  obtain ⟨id, held⟩ := List.mem_iff_getElem?.mp member
  obtain ⟨function, found, rfl⟩ := exists_of_outlines held
  exact normal id function found

theorem Numbered.outline (numbered : context.Numbered) :
    ∀ outline ∈ context.outlines,
      outline.values.length ≤ 0x80000000 ∧ outline.ends.length ≤ 0x80000000 := by
  intro outline member
  obtain ⟨id, held⟩ := List.mem_iff_getElem?.mp member
  obtain ⟨function, found, rfl⟩ := exists_of_outlines held
  rw [Function.length_values, Function.length_ends]
  exact numbered id function found

/-- Numbers that fit are all there are in a well-formed context. -/
theorem WellFormed.addressable (formed : context.WellFormed) (numbered : context.Numbered) :
    ∀ outline ∈ context.outlines, outline.Addressable := by
  intro outline member
  have sound := formed.sound member
  obtain ⟨values, ends⟩ := numbered.outline outline member
  have instruction : ∀ type block instruction,
      (type, .instruction block instruction) ∈ outline.values →
        block < outline.ends.length ∧ ∀ operand ∈ Instruction.operands instruction,
          operand < outline.values.length := by
    intro type block instruction inside
    obtain ⟨id, held⟩ := List.mem_iff_getElem?.mp inside
    have bound := (List.getElem?_eq_some_iff.mp held).choose
    obtain ⟨-, -, inside, earlier, -⟩ := sound.instruction_laws held
    exact ⟨inside, fun operand member => Nat.lt_trans (earlier operand member) bound⟩
  constructor
  · intro type block computed inside
    exact Nat.lt_of_lt_of_le (instruction type block computed inside).1 ends
  · intro type block computed inside operand used
    exact Nat.lt_of_lt_of_le ((instruction type block computed inside).2 operand used) values
  · intro terminator inside
    obtain ⟨block, held⟩ := List.mem_iff_getElem?.mp inside
    have suits := sound.ended block terminator held
    cases terminator with
    | branch target => exact Nat.lt_of_lt_of_le suits ends
    | result value =>
      obtain ⟨pair, found, -⟩ := Option.map_eq_some_iff.mp suits
      exact Nat.lt_of_lt_of_le (List.getElem?_eq_some_iff.mp found).choose values

theorem length_recordValues_le (outlines : List Outline)
    (values : List (Option Descriptor × Origin)) :
    (values.flatMap (Snapshot.recordValue outlines)).length ≤ values.length := by
  induction values with
  | nil => simp
  | cons value rest ih =>
    have one : (Snapshot.recordValue outlines value).length ≤ 1 := by
      obtain ⟨type, index | ⟨block, instruction⟩⟩ := value <;> simp [Snapshot.recordValue]
    rw [List.flatMap_cons, List.length_append, List.length_cons]
    omega

/-- The snapshot of a context can be written to bytes if its numbers and names can. -/
theorem WellFormed.short (formed : context.WellFormed) (numbered : context.Numbered)
    (portable : context.Portable) (optimize : Bool) :
    (Snapshot.recordAll optimize context.outlines).Short := by
  have names : ∀ outline ∈ context.outlines, outline.name.length < 0x100000000 := by
    intro outline member
    obtain ⟨id, held⟩ := List.mem_iff_getElem?.mp member
    obtain ⟨function, found, rfl⟩ := exists_of_outlines held
    exact portable.2 id function found
  have inputs : ∀ outline ∈ context.outlines, outline.inputs.length < 0x100000000 := by
    intro outline member
    have values := (numbered.outline outline member).1
    have parameters := (formed.sound member).length_le
    omega
  have recorded : ∀ function ∈ context.outlines.map (Snapshot.recordFunction context.outlines),
      ∃ outline ∈ context.outlines,
        Snapshot.recordFunction context.outlines outline = function := by
    intro function member
    exact List.mem_map.mp member
  have value : ∀ outline ∈ context.outlines,
      ∀ value ∈ outline.values.flatMap (Snapshot.recordValue context.outlines),
        value.callee.length < 0x100000000 ∧ value.arguments.length < 0x100000000 := by
    intro outline member value inside
    obtain ⟨⟨type, origin⟩, original, written⟩ := List.mem_flatMap.mp inside
    obtain ⟨id, held⟩ := List.mem_iff_getElem?.mp original
    rcases origin with index | ⟨block, literal | ⟨callee, arguments⟩ | ⟨operator, left, right⟩⟩
    case parameter => cases written
    case instruction.call =>
      obtain rfl := List.mem_singleton.mp written
      obtain ⟨-, -, -, -, target, found, types, -⟩ := (formed.sound member).instruction_laws held
      have targetMember := List.mem_of_getElem? found
      have length : arguments.length = target.inputs.length := by
        simpa using congrArg List.length types
      constructor
      · simpa [Snapshot.record, Snapshot.nameIn, found] using names target targetMember
      · simpa [Snapshot.record, length] using inputs target targetMember
    all_goals
      obtain rfl := List.mem_singleton.mp written
      simp [Snapshot.record]
  refine ⟨?_, ?_, ?_, ?_, ?_, ?_, ?_⟩
  · have count := portable.1
    rw [Snapshot.recordAll, List.length_map, length_outlines]
    omega
  · intro function member
    obtain ⟨outline, inside, rfl⟩ := recorded function member
    exact names outline inside
  · intro function member
    obtain ⟨outline, inside, rfl⟩ := recorded function member
    simpa [Snapshot.recordFunction] using inputs outline inside
  · intro function member
    obtain ⟨outline, inside, rfl⟩ := recorded function member
    have ends := (numbered.outline outline inside).2
    rw [Snapshot.recordFunction, List.length_map]
    omega
  · intro function member
    obtain ⟨outline, inside, rfl⟩ := recorded function member
    have values := (numbered.outline outline inside).1
    have few := length_recordValues_le context.outlines outline.values
    rw [Snapshot.recordFunction]
    exact Nat.lt_of_le_of_lt few (by omega)
  · intro function member written inside'
    obtain ⟨outline, inside, rfl⟩ := recorded function member
    exact (value outline inside written inside').1
  · intro function member written inside'
    obtain ⟨outline, inside, rfl⟩ := recorded function member
    exact (value outline inside written inside').2

/-- A context restored from a snapshot cannot be told from the one it was taken of. -/
theorem WellFormed.exists_restore (formed : context.WellFormed)
    (alive : context.phase ≠ .destroyed) (numbered : context.Numbered) (normal : context.Normal) :
    ∃ restored, (Snapshot.recordAll context.optimize context.outlines).restore = .ok restored ∧
      restored.Alike context := by
  obtain ⟨restored, done, optimize, sketches⟩ :=
    formed.restore_recordAll normal.outline (formed.addressable numbered) context.optimize
  refine ⟨restored, done, ⟨sketches.formed, formed, ?_, alive, optimize, sketches.outlines_eq⟩⟩
  rw [sketches.building]
  decide

end Context

namespace Store

variable {World : Type}

/-- After every run, every context that is not destroyed has a snapshot. Restoring it succeeds, and
so does restoring it from its bytes; the restored context has the same snapshot, the same text and
the same flag. -/
theorem run_snapshot (world : World) (operations : List (Operation World)) (context : Context)
    (member : context ∈ (run {} world operations).contexts) (alive : context.phase ≠ .destroyed)
    (numbered : context.Numbered) (normal : context.Normal) :
    ∃ snapshot, context.take = some snapshot ∧
      (∃ restored, snapshot.restore = .ok restored ∧ restored.take = some snapshot ∧
        restored.dump = context.dump ∧ restored.optimize = context.optimize) ∧
      (context.Portable → ∃ bytes restored, context.marshal = some bytes ∧
        Context.unmarshal bytes = .ok restored ∧ restored.take = some snapshot ∧
        restored.dump = context.dump ∧ restored.optimize = context.optimize) := by
  have formed := wellFormed_of_mem_run member
  have taken := formed.take_eq alive
  obtain ⟨restored, done, alike⟩ := formed.exists_restore alive numbered normal
  have same := alike.take_eq.trans taken
  refine ⟨_, taken, ⟨restored, done, same, alike.dump_eq, alike.optimize⟩, ?_⟩
  intro portable
  have decoded := Snapshot.decode?_encode (formed.short numbered portable context.optimize)
  refine ⟨_, restored, by rw [Context.marshal, taken]; rfl, ?_, same, alike.dump_eq,
    alike.optimize⟩
  rw [Context.unmarshal, decoded]
  simp only [done]

theorem run_snapshot_sumRun :
    ∃ context ∈ (run {} () sumRun).contexts, context.functions.size = 1 ∧
      ∃ bytes restored, context.marshal = some bytes ∧ Context.unmarshal bytes = .ok restored ∧
        restored.dump = context.dump := by
  have summary : (run {} () sumRun).contexts[0]?.map (fun context =>
      (decide (context.phase ≠ .destroyed), context.functions.size, decide context.Numbered,
        decide context.Normal, decide context.Portable)) = some (true, 1, true, true, true) := by
    decide
  obtain ⟨context, held, facts⟩ := Option.map_eq_some_iff.mp summary
  simp only [Prod.mk.injEq, decide_eq_true_eq] at facts
  obtain ⟨alive, size, numbered, normal, portable⟩ := facts
  have member := Array.mem_of_getElem? held
  obtain ⟨snapshot, -, -, bytes⟩ := run_snapshot () sumRun context member alive numbered normal
  obtain ⟨written, restored, marshalled, unmarshalled, -, text, -⟩ := bytes portable
  exact ⟨context, member, size, written, restored, marshalled, unmarshalled, text⟩

end Store
end Blockwork
