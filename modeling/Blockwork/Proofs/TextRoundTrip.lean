import Blockwork.Proofs.Rereading
import Blockwork.Proofs.SnapshotRoundTrip

/-!
# The text of contexts, there and back

Whatever was done to the contexts before, the text of each of them that is not destroyed can be read
again, and the context that comes of it has the same snapshot and the same text. Blocks may be open,
values may be numbered across blocks, and names may be any that were accepted.
-/

namespace Blockwork

/-- A context read from the text of another cannot be told from it. -/
theorem Context.WellFormed.exists_parse {context : Context} (formed : context.WellFormed)
    (alive : context.phase ≠ .destroyed) (numbered : context.Numbered) (normal : context.Normal)
    (file : Bytes) :
    ∃ text parsed, context.dump = .ok text ∧
      Context.parse file text context.optimize = .ok parsed ∧ parsed.Alike context := by
  obtain ⟨text, parsed, dumped, done, optimize, sketches⟩ := formed.parse_dump alive normal.outline
    (formed.addressable numbered) numbered.outline file context.optimize
  refine ⟨text, parsed, dumped, done,
    ⟨sketches.formed, formed, ?_, alive, optimize, sketches.outlines_eq⟩⟩
  rw [sketches.building]
  decide

namespace Store

variable {World : Type}

/-- After every run, every context that is not destroyed has a text and a snapshot. Reading the text
succeeds, and the context read from it has the same snapshot and the same text. -/
theorem run_text (world : World) (operations : List (Operation World)) (context : Context)
    (member : context ∈ (run {} world operations).contexts) (alive : context.phase ≠ .destroyed)
    (numbered : context.Numbered) (normal : context.Normal) (file : Bytes) :
    ∃ text snapshot parsed, context.dump = .ok text ∧ context.take = some snapshot ∧
      Context.parse file text context.optimize = .ok parsed ∧
      parsed.take = some snapshot ∧ parsed.dump = .ok text := by
  have formed := wellFormed_of_mem_run member
  have taken := formed.take_eq alive
  obtain ⟨text, parsed, dumped, done, alike⟩ := formed.exists_parse alive numbered normal file
  exact ⟨text, _, parsed, dumped, taken, done, alike.take_eq.trans taken,
    alike.dump_eq.trans dumped⟩

/-- A run that declares two functions with odd names. The first has two blocks, of which only one is
ended; its values are numbered across them, and one of them calls the second function. -/
def tangledRun : List (Operation Unit) := [
  .newContext true,
  .addFunction (some 0) (utf8 "define") ⟨[5], 5⟩,
  .addFunction (some 0) [0xFF, 0x2D, 0x3E] ⟨[], 1⟩,
  .addBlock (some ⟨0, 0⟩),
  .addBlock (some ⟨0, 0⟩),
  .const (some ⟨0, 0, 1⟩) 5 0xFFFFFFFFFFFFFFFF,
  .call (some ⟨0, 0, 0⟩) (some ⟨0, 1⟩) [],
  .binary (some ⟨0, 0, 1⟩) Operator.lte.code (some ⟨0, 0, 0⟩) (some ⟨0, 0, 1⟩),
  .result (some ⟨0, 0, 1⟩) (some ⟨0, 0, 1⟩)]

theorem run_text_tangledRun :
    ∃ context ∈ (run {} () tangledRun).contexts,
      context.functions.toList.map (fun function => (function.values.size, function.blocks.size)) =
        [(4, 2), (0, 0)] ∧
      ∃ text parsed, context.dump = .ok text ∧
        Context.parse (utf8 "tangled") text context.optimize = .ok parsed ∧
        parsed.dump = .ok text := by
  have summary : (run {} () tangledRun).contexts[0]?.map (fun context =>
      (decide (context.phase ≠ .destroyed),
        context.functions.toList.map fun function => (function.values.size, function.blocks.size),
        decide context.Numbered, decide context.Normal)) =
      some (true, [(4, 2), (0, 0)], true, true) := by
    decide +kernel
  obtain ⟨context, held, facts⟩ := Option.map_eq_some_iff.mp summary
  simp only [Prod.mk.injEq, decide_eq_true_eq] at facts
  obtain ⟨alive, sizes, numbered, normal⟩ := facts
  have member := Array.mem_of_getElem? held
  obtain ⟨text, -, parsed, dumped, -, done, -, same⟩ :=
    run_text () tangledRun context member alive numbered normal (utf8 "tangled")
  exact ⟨context, member, sizes, text, parsed, dumped, done, same⟩

end Store
end Blockwork
