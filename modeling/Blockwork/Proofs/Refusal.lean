import Blockwork.Llvm.Backend
import Blockwork.Proofs.Emission
import Blockwork.Proofs.Reports
import Mathlib.Data.Nat.Find

/-!
# Refused contexts

Lowering can fail before anything has been made: the context is not complete, or it cannot be
emitted. In the first case nothing happens at all. In the second, all that happens is that the
failure is traced: no file is written, nothing is printed, and no tool is started. An emission that
fails does so because of a comparison or because the work was cancelled; it never looks for something
that is not there.
-/

namespace Blockwork
namespace Llvm

/-- What is left of lowering when emission fails: the steps are traced, and then the failure. -/
def report (output : Bytes) (parent : Nat) (notes : List Note) (consultations : Nat)
    (failure : Failure) : Work (Except Failure Unit) := do
  let span ← Work.beginSpan .pass "lower" parent
  let span ← Work.annotate span "output" output
  modify fun session => { session with asked := session.asked + consultations }
  for note in notes do
    trace (Work.within span parent) note
  Work.traceError "lower" failure span.id
  Work.endSpan span "failed"
  pure (.error failure)

theorem onlyReports_report (output : Bytes) (parent : Nat) (notes : List Note)
    (consultations : Nat) (failure : Failure) :
    (report output parent notes consultations failure).OnlyReports := by
  refine (Work.OnlyReports.beginSpan _ _ _).bind fun span => ?_
  refine (Work.OnlyReports.annotate _ _ _).bind fun span => ?_
  refine (Work.OnlyReports.consult consultations).bind fun _ => ?_
  refine (Work.OnlyReports.forIn fun note => ?_).bind fun _ => ?_
  · exact (Work.OnlyReports.trace _ note).bind fun _ => .pure _
  · refine (Work.OnlyReports.traceError _ _ _).bind fun _ => ?_
    exact (Work.OnlyReports.endSpan _ _).bind fun _ => .pure _

/-- Tracing does not change when the session is cancelled. -/
theorem cancelledAt_journaled {α : Type} (step : StateM Trace.Journal α) (session : Session) :
    ((Work.journaled step).run session).2.asked = session.asked ∧
      ((Work.journaled step).run session).2.cancelledAt = session.cancelledAt := by
  obtain ⟨environment, -, -⟩ := Session.deliverAll_keeps (step.run session.journal).2.outbox session
  rw [Work.run_journaled]
  refine ⟨rfl, ?_⟩
  funext asked
  have limit := congrArg Environment.cancelAfter environment
  simp only [Session.cancelledAt, Session.moved, limit]

theorem run_emitAndWrite_of_emit_error (backend : Backend) (output : Bytes) (verbose : Bool)
    (parent : Nat) {context : Context} {session : Session} {emission : Emission}
    {error : EmitError}
    (emitted : (emit context fun asked => session.cancelledAt (session.asked + asked)) = emission)
    (failed : emission.outcome = .error error) :
    (backend.emitAndWrite output verbose parent context).run session =
      (.error error.toFailure, ((do
        for note in emission.notes do
          trace parent note : Work Unit).run
        { session with asked := session.asked + emission.consultations }).2) := by
  subst emitted
  have ran : (emitTraced context parent).run session =
      ((emit context fun asked => session.cancelledAt (session.asked + asked)).outcome, _) := rfl
  rw [failed] at ran
  unfold Backend.emitAndWrite
  rw [StateT.run_bind, ran]
  rfl

theorem run_bind_congr {α β : Type} {work : Work α} {next next' : α → Work β} {session : Session}
    (same : (next (work.run session).1).run (work.run session).2 =
      (next' (work.run session).1).run (work.run session).2) :
    (work >>= next).run session = (work >>= next').run session :=
  same

/-- If emission fails then lowering only reports. -/
theorem run_lower_of_emit_error (backend : Backend) (output : Bytes) (verbose : Bool)
    (parent : Nat) {context : Context} (session : Session) {emission : Emission}
    {error : EmitError}
    (emitted : (emit context fun asked => session.cancelledAt (session.asked + asked)) = emission)
    (failed : emission.outcome = .error error) :
    (backend.lower output verbose parent context).run session =
      (report output parent emission.notes emission.consultations error.toFailure).run session := by
  let begun := (Work.beginSpan .pass "lower" parent).run session
  let named := (Work.annotate begun.1 "output" output).run begun.2
  have asked : named.2.asked = session.asked :=
    (cancelledAt_journaled _ begun.2).1.trans (cancelledAt_journaled _ session).1
  have cancelled : named.2.cancelledAt = session.cancelledAt :=
    (cancelledAt_journaled _ begun.2).2.trans (cancelledAt_journaled _ session).2
  have same : (emit context fun question =>
      named.2.cancelledAt (named.2.asked + question)) = emission := by
    rw [asked, cancelled, emitted]
  have traced := run_emitAndWrite_of_emit_error backend output verbose (Work.within named.1 parent)
    same failed
  unfold Backend.lower report
  refine run_bind_congr (run_bind_congr ?_)
  rw [StateT.run_bind, traced]
  rfl

end Llvm

/-- Nothing has been made of a session: nothing was printed, and its disk and its error output are
what the sinks of the tracer make of them. -/
structure Session.LeftAlone (session session' : Session) : Prop where
  /-- Nothing has been printed. -/
  output : session'.output = session.output
  /-- The environment is the same. -/
  environment : session'.toEnvironment = session.toEnvironment
  /-- If anything was written, it was sent to sinks of the tracer. -/
  written : ∃ requests : List (Trace.Sink × Trace.Request),
    requests.map Prod.fst ⊆ session.journal.sinks ∧
      session'.disk = (session.deliverAll requests).disk ∧
      session'.errorOutput = (session.deliverAll requests).errorOutput
  /-- No file has changed, if the tracer writes to none. -/
  disk : (∀ sink ∈ session.journal.sinks, ∀ path, sink.place ≠ .file path) →
    session'.disk = session.disk
  /-- Nothing has been printed about errors, if the tracer does not do so. -/
  errorOutput : (∀ sink ∈ session.journal.sinks, sink.place ≠ .errorOutput) →
    session'.errorOutput = session.errorOutput

theorem Session.Reports.leftAlone {session session' : Session}
    (reports : session.Reports session') :
    session.LeftAlone session' := by
  obtain ⟨requests, inside, same⟩ := reports.delivered
  obtain ⟨environment, -, output⟩ := Session.deliverAll_keeps requests session
  have disk : session'.disk = (session.deliverAll requests).disk := by rw [same]; rfl
  have errorOutput : session'.errorOutput = (session.deliverAll requests).errorOutput := by
    rw [same]; rfl
  have known (request : Trace.Sink × Trace.Request) (member : request ∈ requests) :
      request.1 ∈ session.journal.sinks :=
    inside (List.mem_map_of_mem member)
  constructor
  case output => rw [same]; exact output
  case environment => rw [same]; exact environment
  case written => exact ⟨requests, inside, disk, errorOutput⟩
  case disk =>
    intro elsewhere
    rw [disk, Session.disk_deliverAll session fun request member =>
      elsewhere request.1 (known request member)]
  case errorOutput =>
    intro elsewhere
    rw [errorOutput, Session.errorOutput_deliverAll session fun request member =>
      elsewhere request.1 (known request member)]

namespace Llvm

theorem run_report_fst (output : Bytes) (parent : Nat) (notes : List Note) (consultations : Nat)
    (failure : Failure) (session : Session) :
    ((report output parent notes consultations failure).run session).1 = .error failure := rfl

/-- If emission fails then nothing is made, and the tools are not looked at. -/
theorem exists_leftAlone (backend : Backend) (output : Bytes) (verbose : Bool) (parent : Nat)
    {context consumed : Context} {session : Session} {emission : Emission} {error : EmitError}
    (usable : context.usable = .ok ()) (complete : consumed.validate = .ok ())
    (same : { context with phase := .consumed } = consumed)
    (emitted : (emit consumed fun asked => session.cancelledAt (session.asked + asked)) = emission)
    (failed : emission.outcome = .error error) :
    ∃ session', session.LeftAlone session' ∧
      ∀ tools, context.lower (some (backend.lower output verbose parent)) { session with tools } =
        (consumed, { session' with tools }, .error error.toFailure) := by
  obtain ⟨reports, blind⟩ := onlyReports_report output parent emission.notes
    emission.consultations error.toFailure session
  refine ⟨_, reports.leftAlone, fun tools => ?_⟩
  have again : (emit consumed fun asked =>
      Session.cancelledAt { session with tools } (session.asked + asked)) = emission := emitted
  have lowered := run_lower_of_emit_error backend output verbose parent { session with tools }
    again failed
  rw [blind tools, run_report_fst] at lowered
  simp only [Context.lower, usable, same, complete, lowered]

end Llvm

/-- Everything that is looked for when a function is emitted is there. -/
structure Function.Resolved (context : Context) (function : Function) : Prop where
  /-- The types of the signature. -/
  signature : function.signature.Known context.types
  /-- The type of a value. -/
  types : ∀ number value, function.values.get? number = some value →
    (context.types.lookup? value.type).isSome
  /-- The input that a parameter stands for. -/
  parameters : ∀ number type index,
    function.values.get? number = some ⟨type, .parameter index⟩ →
    index < function.signature.inputs.length
  /-- The block of a value. -/
  blocks : ∀ number type block instruction,
    function.values.get? number = some ⟨type, .instruction block instruction⟩ →
    (function.blocks.get? block).isSome
  /-- The operands of a value, which are emitted before it. -/
  operands : ∀ number type block instruction,
    function.values.get? number = some ⟨type, .instruction block instruction⟩ →
    ∀ operand ∈ instruction.operands, operand < number
  /-- The function that a call calls. -/
  callees : ∀ number type block callee arguments,
    function.values.get? number = some ⟨type, .instruction block (.call callee arguments)⟩ →
    (context.function? callee).isSome
  /-- The end of a block. -/
  ends : ∀ block content, function.blocks.get? block = some content →
    content.terminator.isSome
  /-- The block that a block branches to. -/
  targets : ∀ block content target, function.blocks.get? block = some content →
    content.terminator = some (.branch target) → (function.blocks.get? target).isSome
  /-- The value that a block returns. -/
  results : ∀ block content value, function.blocks.get? block = some content →
    content.terminator = some (.result value) → (function.values.get? value).isSome

theorem Function.WellFormed.resolved {context : Context} {function : Function}
    (formed : function.WellFormed context) (alive : context.phase ≠ .destroyed)
    (complete : function.Complete) : function.Resolved context := by
  constructor
  case signature => exact formed.known
  case types => exact formed.typed
  case parameters =>
    intro number type index found
    rcases formed.parameter_or_instruction found with ⟨early, -⟩ | ⟨-, _, _, other⟩
    · cases found.symm.trans (formed.parameters number _ (List.getElem?_eq_getElem early))
      exact early
    · cases other
  case blocks =>
    intro number type block instruction found
    exact (function.blocks.get?_isSome_iff block).mpr (formed.instruction_laws found).1
  case operands =>
    intro number type block instruction found
    exact (formed.instruction_laws found).2.1
  case callees =>
    intro number type block callee arguments found
    obtain ⟨target, held, -⟩ := (formed.instruction_laws found).2.2
    simp [Context.function?, alive, held]
  case ends =>
    intro block content found
    exact Option.isSome_iff_ne_none.mpr (complete.ended block content found)
  case targets =>
    intro block content target found ends
    exact (function.blocks.get?_isSome_iff target).mpr (formed.ended block content _ found ends)
  case results =>
    intro block content value found ends
    exact (function.values.get?_isSome_iff value).mpr
      (Function.lt_of_typeOf? (formed.ended block content _ found ends))

namespace Llvm

/-- How emission of a context can end, when nobody cancels it. -/
structure Safe (context : Context) : Prop where
  /-- Everything that is looked for is there. -/
  resolved : ∀ function ∈ context.listFunctions, function.Resolved context
  /-- There is a module, or a failure that can be reported. -/
  reported : ∀ error, (emit context fun _ => false).outcome = .error error →
    ∃ failure, error = .failed failure
  /-- There is no module exactly if some function has a comparison. -/
  fails_iff : (∃ error, (emit context fun _ => false).outcome = .error error) ↔
    ∃ function ∈ context.listFunctions, ∃ value ∈ function.values.toList,
      value.comparison?.isSome
  /-- The failure is about the first function that has a comparison, and about its comparison with
  the lowest number. -/
  located : ∀ position function number value operator,
    context.function? position = some function →
    function.values.get? number = some value → value.comparison? = some operator →
    (∀ earlier other, earlier < position → context.function? earlier = some other →
      ∀ value ∈ other.values.toList, value.comparison? = none) →
    (∀ earlier other, earlier < number → function.values.get? earlier = some other →
      other.comparison? = none) →
    (emit context fun _ => false).outcome =
      .error (.failed (.within (utf8 "function " ++ function.name) (.fault {
        kind := .notImplemented
        detail := valueName number ++ utf8 " (" ++ utf8 operator.mnemonic ++
          utf8 " has no lowering)" })))

theorem exists_least {holds : Nat → Prop} (exists_ : ∃ number, holds number) :
    ∃ number, holds number ∧ ∀ smaller, smaller < number → ¬ holds smaller := by
  classical
  exact ⟨Nat.find exists_, Nat.find_spec exists_, fun _ => Nat.find_min exists_⟩

/-- A complete context either has no comparison and is emitted, or is refused for one. -/
theorem emitted_or_refused {context : Context} (formed : context.WellFormed)
    (complete : context.validate = .ok ()) :
    (∃ module, (emit context fun _ => false).outcome = .ok module ∧
        ∀ id function, context.functions.get? id = some function → function.Plain) ∨
      ∃ position function number value operator,
        context.functions.get? position = some function ∧
        function.values.get? number = some value ∧ value.comparison? = some operator ∧
        (emit context fun _ => false).outcome =
          .error ((Translation.noLowering number operator).within function.name) := by
  by_cases plain : ∀ id function, context.functions.get? id = some function → function.Plain
  · obtain ⟨module, -, emitted⟩ := Translation.module_agree formed complete plain
    exact .inl ⟨module, emitted, plain⟩
  · have refusable : ∃ position function, context.functions.get? position = some function ∧
        ¬ function.Plain := by
      simpa using plain
    obtain ⟨position, ⟨function, held, compares⟩, first⟩ := exists_least refusable
    have comparing : ∃ number value, function.values.get? number = some value ∧
        value.comparison? ≠ none := by
      simpa [Function.Plain] using compares
    obtain ⟨number, ⟨value, found, compares⟩, lowest⟩ := exists_least comparing
    obtain ⟨operator, compares⟩ := Option.ne_none_iff_exists'.mp compares
    refine .inr ⟨position, function, number, value, operator, held, found, compares, ?_⟩
    refine Translation.emit_comparison formed complete held ?_ found compares ?_
    · intro earlier other before otherHeld
      by_contra notPlain
      exact first earlier before ⟨other, otherHeld, notPlain⟩
    · intro earlier other before otherFound
      by_contra comparison
      exact lowest earlier before ⟨other, otherFound, comparison⟩

/-- A complete context can be handed to emission. -/
theorem safe_of_complete {context : Context} (formed : context.WellFormed)
    (complete : context.validate = .ok ()) : Safe context := by
  obtain ⟨alive, completes⟩ := Context.validate_eq_ok_iff.mp complete
  have mem_iff (function : Blockwork.Function) : function ∈ context.listFunctions ↔
      ∃ id, context.functions.get? id = some function := by
    rw [Context.listFunctions, if_neg alive, Arena.mem_toList_iff]
  constructor
  case resolved =>
    intro function member
    obtain ⟨id, held⟩ := (mem_iff function).mp member
    exact (formed.functions id function held).resolved alive (completes id function held)
  case reported =>
    intro error failed
    rcases emitted_or_refused formed complete with
      ⟨module, emitted, -⟩ | ⟨_, _, _, _, _, -, -, -, refused⟩
    · cases emitted.symm.trans failed
    · cases refused.symm.trans failed
      exact ⟨_, rfl⟩
  case fails_iff =>
    rcases emitted_or_refused formed complete with
      ⟨module, emitted, plain⟩ | ⟨position, function, number, value, operator, held, found,
        compares, refused⟩
    · constructor
      · rintro ⟨error, failed⟩
        cases emitted.symm.trans failed
      · rintro ⟨function, member, value, valueMember, compares⟩
        obtain ⟨id, held⟩ := (mem_iff function).mp member
        obtain ⟨number, found⟩ := Arena.mem_toList_iff.mp valueMember
        simp [plain id function held number value found] at compares
    · refine ⟨fun _ => ?_, fun _ => ⟨_, refused⟩⟩
      exact ⟨function, (mem_iff function).mpr ⟨position, held⟩, value,
        Arena.mem_toList_iff.mpr ⟨number, found⟩, by simp [compares]⟩
  case located =>
    intro position function number value operator held found compares first lowest
    simp only [Context.function?, alive, if_false] at held first
    refine Translation.emit_comparison formed complete held ?_ found compares lowest
    intro earlier other before otherHeld number value valueFound
    exact first earlier other before otherHeld value (Arena.mem_toList_iff.mpr ⟨number, valueFound⟩)

end Llvm

namespace Store

variable {World : Type}

open Llvm in
/-- After every run, a complete context can be emitted without anything being missing; emission
fails exactly if there is a comparison, and then at the first. And whatever the context, the output,
the kind of artifact and the session: if lowering fails because the context is not complete then
nothing happens at all, and if it fails because emission does then nothing is made, and the tools are
not looked at. -/
theorem run_refusal (World : Type) :
    (∀ (world : World) (operations : List (Operation World)) (context : Context),
      context ∈ (run {} world operations).contexts → context.validate = .ok () → Safe context) ∧
    (∀ (context : Context) (backend : Llvm.Backend) (output : Bytes) (verbose : Bool)
        (parent : Nat) (session : Session), context.phase = .building →
      let consumed := { context with phase := .consumed }
      (∀ failure, consumed.validate = .error failure →
        context.lower (some (backend.lower output verbose parent)) session =
          (consumed, session, .error failure)) ∧
      (∀ error, consumed.validate = .ok () →
        (emit consumed fun asked =>
          session.cancelledAt (session.asked + asked)).outcome = .error error →
        ∃ session', session.LeftAlone session' ∧
          ∀ tools, context.lower (some (backend.lower output verbose parent))
              { session with tools } =
            (consumed, { session' with tools }, .error error.toFailure))) := by
  refine ⟨fun world operations context member complete =>
    safe_of_complete (wellFormed_of_mem_run member) complete, ?_⟩
  intro context backend output verbose parent session building consumed
  have usable : context.usable = .ok () := Context.usable_eq_ok_iff.mpr building
  constructor
  · intro failure invalid
    simp only [Context.lower, usable, consumed] at invalid ⊢
    rw [invalid]
  · intro error complete failed
    exact exists_leftAlone backend output verbose parent usable complete rfl rfl failed

/-- A run that declares a function of two parameters and returns whether the first is less. -/
def comparingRun : List (Operation Unit) := [
  .newContext false,
  .addFunction (some 0) (utf8 "less") ⟨[5, 5], 1⟩,
  .addBlock (some ⟨0, 0⟩),
  .binary (some ⟨0, 0, 0⟩) Operator.lt.code (some ⟨0, 0, 0⟩) (some ⟨0, 0, 1⟩),
  .result (some ⟨0, 0, 0⟩) (some ⟨0, 0, 2⟩)]

open Llvm in
theorem run_refusal_comparingRun :
    ∃ context ∈ (run {} () comparingRun).contexts,
      (∃ error, (emit context fun _ => false).outcome = .error error) ∧
      ∃ session' error, session'.disk = {} ∧ session'.output = [] ∧ session'.errorOutput = [] ∧
        context.lower (some (Backend.lower {} (utf8 "less.ll") true 0)) {} =
          ({ context with phase := .consumed }, session', .error error) := by
  have facts : ((run {} () comparingRun).contexts[0]?.map fun context =>
      (context.phase, context.validate.toOption,
        Context.validate { context with phase := .consumed } |>.toOption,
        (emit { context with phase := .consumed } fun _ => false).outcome.toOption.isNone,
        context.listFunctions.any fun function =>
          function.values.toList.any fun value => value.comparison?.isSome)) =
        some (.building, some (), some (), true, true) := by
    decide
  obtain ⟨context, held, summary⟩ := Option.map_eq_some_iff.mp facts
  simp only [Prod.mk.injEq] at summary
  obtain ⟨building, complete, consumedComplete, refused, compares⟩ := summary
  have accepted {outcome : Except Failure Unit} (done : outcome.toOption = some ()) :
      outcome = .ok () := by
    cases outcome with
    | error failure => cases done
    | ok _ => rfl
  have member := Array.mem_of_getElem? held
  have safe := (run_refusal Unit).1 () comparingRun context member (accepted complete)
  refine ⟨context, member, safe.fails_iff.mpr (by simpa using compares), ?_⟩
  cases failed : (emit { context with phase := .consumed } fun _ => false).outcome with
  | ok module =>
    rw [failed] at refused
    cases refused
  | error error =>
    obtain ⟨-, emission⟩ := (run_refusal Unit).2 context {} (utf8 "less.ll") true 0 {} building
    obtain ⟨session', alone, lowered⟩ := emission error (accepted consumedComplete) failed
    have silent : Trace.Journal.sinks ({} : Session).journal = [] := rfl
    exact ⟨{ session' with tools := fun _ => none }, error.toFailure,
      alone.disk (by simp [silent]), alone.output, alone.errorOutput (by simp [silent]), lowered _⟩

end Store
end Blockwork
