import Blockwork.Llvm.Backend
import Mathlib.Data.List.Basic

/-!
# Work that only reports

What a journal asks for goes to the sinks of its tracer, and the sinks never become more. So work
that does nothing but report changes a session in few ways: the journal moves on, and the sinks of
its tracer are sent something. Work of this kind does not even look at the tools.
-/

namespace Blockwork
namespace Trace

/-- The sink of a target that writes each event at once. -/
def Target.sink? : Target → Option Sink
  | .ring _ => none
  | .stream written => some written.sink

namespace Journal

/-- The sinks that a journal may send something to: those of the tracer, and those for which
something is waiting. -/
def sinks (journal : Journal) : List Sink :=
  journal.tracer.targets.filterMap Target.sink? ++ journal.outbox.map Prod.fst

/-- A step that sends to no further sinks. -/
def Confined {α : Type} (step : StateM Journal α) : Prop :=
  ∀ journal, (step.run journal).2.sinks ⊆ journal.sinks

theorem sink?_take (target : Target) (event : Event) :
    (target.take event).1.sink? = target.sink? := by
  cases target <;> rfl

theorem sink?_annotate (span : Nat) (key value : Bytes) (target : Target) :
    (target.annotate span key value).sink? = target.sink? := by
  cases target <;> rfl

theorem mem_sinks_take {target : Target} {event : Event} {request : Sink × Request}
    (member : request ∈ (target.take event).2) : target.sink? = some request.1 := by
  cases target with
  | ring kept => cases member
  | stream written =>
    simp only [Target.take] at member
    split at member
    · cases member
    · cases List.mem_singleton.mp member
      rfl

/-- Handing out an event keeps the sinks, and asks something of these only. -/
theorem sinks_distribute (event : Event) (targets : List Target) (sequence : Nat) :
    (distribute event targets sequence).1.filterMap Target.sink? =
        targets.filterMap Target.sink? ∧
      (distribute event targets sequence).2.2.1.map Prod.fst ⊆
        targets.filterMap Target.sink? := by
  induction targets generalizing sequence with
  | nil => simp [distribute]
  | cons target rest ih =>
    rw [distribute]
    split
    · obtain ⟨kept, asked⟩ := ih (sequence + 1)
      refine ⟨?_, ?_⟩
      · simp only [List.filterMap_cons, sink?_take, kept]
      · rw [List.map_append, List.append_subset]
        constructor
        · intro sink member
          obtain ⟨request, sent, rfl⟩ := List.mem_map.mp member
          simp [mem_sinks_take sent]
        · intro sink member
          rw [List.filterMap_cons]
          split
          · exact asked member
          · exact List.mem_cons_of_mem _ (asked member)
    · obtain ⟨kept, asked⟩ := ih sequence
      refine ⟨by simp only [List.filterMap_cons, kept], fun sink member => ?_⟩
      rw [List.filterMap_cons]
      split
      · exact asked member
      · exact List.mem_cons_of_mem _ (asked member)

theorem sinks_withTargets {tracer : Tracer} {targets : List Target}
    (same : targets.filterMap Target.sink? = tracer.targets.filterMap Target.sink?) :
    (tracer.withTargets targets).targets.filterMap Target.sink? =
      tracer.targets.filterMap Target.sink? := by
  unfold Tracer.withTargets
  split <;> first | rfl | exact same

/-- The journal after an event has been handed out. -/
theorem state_emit (event : Event) (journal : Journal) :
    ((emit event).run journal).2 = { journal with
      tracer := journal.tracer.withTargets
        (distribute event journal.tracer.targets journal.sequence).1
      sequence := (distribute event journal.tracer.targets journal.sequence).2.1
      outbox := journal.outbox ++
        (distribute event journal.tracer.targets journal.sequence).2.2.1
      handed := journal.handed ++ [event] } := by
  cases journal with
  | mk tracer sequence spans outbox handed => cases tracer <;> rfl

theorem confined_emit (event : Event) : Confined (emit event) := by
  intro journal
  obtain ⟨kept, asked⟩ := sinks_distribute event journal.tracer.targets journal.sequence
  rw [state_emit, sinks, sinks_withTargets kept, List.map_append, ← List.append_assoc,
    List.append_subset]
  exact ⟨List.Subset.refl _, fun sink member => List.mem_append_left _ (asked member)⟩

variable {α β : Type}

theorem Confined.pure (value : α) : Confined (Pure.pure value) :=
  fun journal => List.Subset.refl journal.sinks

theorem Confined.bind {step : StateM Journal α} {next : α → StateM Journal β}
    (first : Confined step) (second : ∀ value, Confined (next value)) : Confined (step >>= next) :=
  fun journal => List.Subset.trans (second _ _) (first journal)

/-- A step that looks at the journal is as confined as what it does with what it sees. -/
theorem Confined.get {next : Journal → StateM Journal α}
    (each : ∀ journal, ((next journal).run journal).2.sinks ⊆ journal.sinks) :
    Confined (MonadState.get >>= next) :=
  each

theorem confined_begin (scope : Scope) (name : Bytes) (parent : Nat) (now : Instant) :
    Confined (begin scope name parent now) := by
  refine .get fun journal => ?_
  split
  · exact confined_emit _ { journal with spans := journal.spans + 1 }
  · exact Confined.pure _ journal

theorem confined_annotate (span : Span) (key value : Bytes) :
    Confined (annotate span key value) := by
  refine .get fun journal => ?_
  split
  · have same : (journal.tracer.annotate span.id key value).targets.filterMap Target.sink? =
        journal.tracer.targets.filterMap Target.sink? :=
      sinks_withTargets (by simp [List.filterMap_map, sink?_annotate])
    change sinks { journal with tracer := journal.tracer.annotate span.id key value } ⊆ _
    rw [sinks, same]
    exact List.Subset.refl _
  · exact Confined.pure _ journal

/-- Points, errors and ends of spans: an event that is handed to the tracer if it wants any. -/
theorem confined_report (wanted : Journal → Bool) (event : Event) :
    Confined (do if wanted (← get) then let _ ← emit event) := by
  refine .get fun journal => ?_
  split
  · exact (confined_emit event).bind (fun _ => .pure _) journal
  · exact Confined.pure _ journal

theorem confined_finish (span : Span) (detail : Bytes) (now : Instant) :
    Confined (finish span detail now) :=
  confined_report (fun journal => span.id ≠ 0 && journal.tracer.enabled) _

theorem confined_point (scope : Scope) (name detail : Bytes) (parent : Nat) (now : Instant) :
    Confined (point scope name detail parent now) :=
  confined_report (fun journal => journal.traces scope) _

theorem confined_error (name : Bytes) (failure : Failure) (parent : Nat) (now : Instant) :
    Confined (error name failure parent now) :=
  confined_report (fun journal => journal.tracer.enabled) _

end Journal
end Trace

namespace Session

/-- The session after requests have been delivered. -/
def deliverAll (session : Session) (requests : List (Trace.Sink × Trace.Request)) : Session :=
  requests.foldl (fun session (sink, request) => session.deliver sink request) session

/-- A change that delivering one request does not see, delivering many does not see either. -/
theorem deliverAll_comm (change : Session → Session)
    (each : ∀ session sink request,
      (change session).deliver sink request = change (session.deliver sink request))
    (requests : List (Trace.Sink × Trace.Request)) (session : Session) :
    (change session).deliverAll requests = change (session.deliverAll requests) := by
  induction requests generalizing session with
  | nil => rfl
  | cons request rest ih =>
    simp only [deliverAll, List.foldl_cons, each] at ih ⊢
    exact ih _

/-- The session with its journal moved on and asked some number of times. -/
def moved (session : Session) (journal : Trace.Journal) (asked : Nat) : Session :=
  { session with journal, asked }

theorem deliverAll_moved (requests : List (Trace.Sink × Trace.Request)) (session : Session)
    (journal : Trace.Journal) (asked : Nat) :
    (session.moved journal asked).deliverAll requests =
      (session.deliverAll requests).moved journal asked := by
  refine deliverAll_comm (fun session => session.moved journal asked) ?_ requests session
  intro session sink request
  unfold deliver
  cases sink.place <;> cases request <;> rfl

theorem deliverAll_tools (requests : List (Trace.Sink × Trace.Request)) (session : Session)
    (tools : Bytes → Option Tool) :
    ({ session with tools } : Session).deliverAll requests =
      { session.deliverAll requests with tools } := by
  refine deliverAll_comm (fun session => { session with tools }) ?_ requests session
  intro session sink request
  unfold deliver
  cases sink.place <;> cases request <;> rfl

/-- What is sent to sinks is all that changes. -/
theorem deliverAll_keeps (requests : List (Trace.Sink × Trace.Request)) (session : Session) :
    (session.deliverAll requests).toEnvironment = session.toEnvironment ∧
      (session.deliverAll requests).asked = session.asked ∧
      (session.deliverAll requests).output = session.output := by
  induction requests generalizing session with
  | nil => exact ⟨rfl, rfl, rfl⟩
  | cons request rest ih =>
    obtain ⟨environment, asked, output⟩ := ih (session.deliver request.1 request.2)
    have kept : (session.deliver request.1 request.2).toEnvironment = session.toEnvironment ∧
        (session.deliver request.1 request.2).asked = session.asked ∧
        (session.deliver request.1 request.2).output = session.output := by
      unfold deliver
      cases request.1.place <;> cases request.2 <;> exact ⟨rfl, rfl, rfl⟩
    exact ⟨environment.trans kept.1, asked.trans kept.2.1, output.trans kept.2.2⟩

/-- The disk changes only if something is sent to a file. -/
theorem disk_deliverAll {requests : List (Trace.Sink × Trace.Request)} (session : Session)
    (elsewhere : ∀ request ∈ requests, ∀ path, request.1.place ≠ .file path) :
    (session.deliverAll requests).disk = session.disk := by
  induction requests generalizing session with
  | nil => rfl
  | cons request rest ih =>
    refine (ih (session.deliver request.1 request.2) fun other member =>
      elsewhere other (List.mem_cons_of_mem _ member)).trans ?_
    have notFile := elsewhere request List.mem_cons_self
    unfold deliver
    cases place : request.1.place with
    | file path => exact absurd place (notFile path)
    | errorOutput => cases request.2 <;> rfl
    | memory => cases request.2 <;> rfl
    | broken => cases request.2 <;> rfl

/-- The error output changes only if something is sent to it. -/
theorem errorOutput_deliverAll {requests : List (Trace.Sink × Trace.Request)} (session : Session)
    (elsewhere : ∀ request ∈ requests, request.1.place ≠ .errorOutput) :
    (session.deliverAll requests).errorOutput = session.errorOutput := by
  induction requests generalizing session with
  | nil => rfl
  | cons request rest ih =>
    refine (ih (session.deliver request.1 request.2) fun other member =>
      elsewhere other (List.mem_cons_of_mem _ member)).trans ?_
    have notThere := elsewhere request List.mem_cons_self
    unfold deliver
    cases place : request.1.place with
    | errorOutput => exact absurd place notThere
    | file path => cases request.2 <;> rfl
    | memory => cases request.2 <;> rfl
    | broken => cases request.2 <;> rfl

/-- Nothing has happened to a session but that its journal moved on, that something was sent to
sinks of the tracer, and that it may have been asked whether it is cancelled. -/
structure Reports (session session' : Session) : Prop where
  /-- The sinks have not become more. -/
  sinks : session'.journal.sinks ⊆ session.journal.sinks
  /-- What was sent, and nothing else, has been done. -/
  delivered : ∃ requests : List (Trace.Sink × Trace.Request),
    requests.map Prod.fst ⊆ session.journal.sinks ∧
      session' = (session.deliverAll requests).moved session'.journal session'.asked

namespace Reports

variable {first second third session session' : Session}

theorem refl (session : Session) : session.Reports session :=
  ⟨List.Subset.refl _, [], List.nil_subset _, rfl⟩

theorem trans (early : first.Reports second) (late : second.Reports third) :
    first.Reports third := by
  obtain ⟨sent, inside, same⟩ := early.delivered
  obtain ⟨further, inside', same'⟩ := late.delivered
  refine ⟨List.Subset.trans late.sinks early.sinks, sent ++ further, ?_, ?_⟩
  · rw [List.map_append, List.append_subset]
    exact ⟨inside, List.Subset.trans inside' early.sinks⟩
  · rw [same', same, deliverAll_moved, deliverAll, deliverAll, deliverAll, List.foldl_append]
    rfl

end Reports
end Session

namespace Work

variable {α β : Type}

/-- What holds of work that does nothing, and is kept when one round of a loop is put before it,
holds of the whole loop. -/
theorem forIn_of_bind {motive : Work PUnit → Prop} (done : motive (Pure.pure ⟨⟩))
    {list : List α} {body : α → PUnit → Work (ForInStep PUnit)}
    (round : ∀ item next, (∀ step, motive (next step)) → motive (body item ⟨⟩ >>= next)) :
    motive (ForIn.forIn list PUnit.unit body) := by
  induction list with
  | nil => exact done
  | cons item rest ih =>
    rw [List.forIn_cons]
    refine round item _ fun step => ?_
    cases step with
    | done _ => exact done
    | yield _ => exact ih

/-- Work that only reports, whatever the tools are. -/
def OnlyReports (work : Work α) : Prop :=
  ∀ session, session.Reports (work.run session).2 ∧
    ∀ tools, work.run { session with tools } =
      ((work.run session).1, { (work.run session).2 with tools })

theorem run_journaled (step : StateM Trace.Journal α) (session : Session) :
    (Work.journaled step).run session = ((step.run session.journal).1,
      (session.deliverAll (step.run session.journal).2.outbox).moved
        { (step.run session.journal).2 with outbox := [] } session.asked) := by
  rw [← Session.deliverAll_moved]
  rfl

namespace OnlyReports

theorem pure (value : α) : OnlyReports (Pure.pure value) :=
  fun session => ⟨.refl session, fun _ => rfl⟩

/-- To be asked whether it is cancelled leaves the rest of a session alone. -/
theorem consult (count : Nat) :
    OnlyReports (modify fun session : Session => { session with asked := session.asked + count }) :=
  fun _ => ⟨⟨List.Subset.refl _, [], List.nil_subset _, rfl⟩, fun _ => rfl⟩

theorem bind {work : Work α} {next : α → Work β} (first : OnlyReports work)
    (second : ∀ value, OnlyReports (next value)) : OnlyReports (work >>= next) := by
  intro session
  obtain ⟨reports, blind⟩ := first session
  obtain ⟨reports', blind'⟩ := second (work.run session).1 (work.run session).2
  refine ⟨reports.trans reports', fun tools => ?_⟩
  change (next (work.run { session with tools }).1).run (work.run { session with tools }).2 = _
  rw [blind tools]
  exact blind' tools

theorem journaled {step : StateM Trace.Journal α} (confined : Trace.Journal.Confined step) :
    OnlyReports (Work.journaled step) := by
  intro session
  have sinks := confined session.journal
  refine ⟨⟨?_, (step.run session.journal).2.outbox, ?_, ?_⟩, fun tools => ?_⟩
  · intro sink member
    rw [run_journaled] at member
    refine sinks (List.mem_append_left _ ?_)
    simpa [Trace.Journal.sinks, Session.moved] using member
  · exact fun sink member => sinks (List.mem_append_right _ member)
  · rw [run_journaled]
    rfl
  · rw [run_journaled, run_journaled, Session.deliverAll_tools]
    rfl

theorem beginSpan (scope : Trace.Scope) (name : String) (parent : Nat) :
    OnlyReports (Work.beginSpan scope name parent) :=
  fun session =>
    journaled (Trace.Journal.confined_begin scope (utf8 name) parent session.now) session

theorem annotate (span : Trace.Span) (key : String) (value : Bytes) :
    OnlyReports (Work.annotate span key value) :=
  journaled (Trace.Journal.confined_annotate span (utf8 key) value)

theorem endSpan (span : Trace.Span) (detail : String) : OnlyReports (Work.endSpan span detail) :=
  fun session => journaled (Trace.Journal.confined_finish span (utf8 detail) session.now) session

theorem point (scope : Trace.Scope) (name detail : Bytes) (parent : Nat) :
    OnlyReports (Work.point scope name detail parent) :=
  fun session =>
    journaled (Trace.Journal.confined_point scope name detail parent session.now) session

theorem traceError (name : String) (failure : Failure) (parent : Nat) :
    OnlyReports (Work.traceError name failure parent) :=
  fun session =>
    journaled (Trace.Journal.confined_error (utf8 name) failure parent session.now) session

/-- A step of emission is only reported. -/
theorem trace (parent : Nat) (note : Llvm.Note) : OnlyReports (Llvm.trace parent note) := by
  cases note with
  | function name signature => exact .point _ _ _ _
  | value id mnemonic => exact .point _ _ _ _

theorem forIn {list : List α} {body : α → PUnit → Work (ForInStep PUnit)}
    (each : ∀ item, OnlyReports (body item ⟨⟩)) :
    OnlyReports (ForIn.forIn list PUnit.unit body) :=
  forIn_of_bind (.pure _) fun item _ rest => (each item).bind rest

end OnlyReports
end Work
end Blockwork
