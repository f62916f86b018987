import Blockwork.Proofs.Disks
import Blockwork.Proofs.Reports
import Blockwork.Source.Traced

/-!
# Tracing

Work that only traces leaves a session where it is and writes on files at most. What comes of
reading a source text does not depend on how it is traced.
-/

namespace Blockwork

/-- Nothing has happened to the files of a session but that text was added to some of them. -/
structure Session.Traced (session session' : Session) : Prop where
  /-- Files have only been written on. -/
  disk : session.disk.Appended session'.disk
  /-- Relative paths are followed from the same directory. -/
  workingDirectory : session'.workingDirectory = session.workingDirectory

namespace Session.Traced

variable {first second third : Session}

theorem refl (session : Session) : session.Traced session := ⟨.refl _, rfl⟩

theorem trans (early : first.Traced second) (late : second.Traced third) : first.Traced third :=
  ⟨early.disk.trans late.disk, late.workingDirectory.trans early.workingDirectory⟩

theorem deliver (session : Session) (sink : Trace.Sink) (request : Trace.Request) :
    session.Traced (session.deliver sink request) := by
  unfold Session.deliver
  split
  · exact ⟨.refl _, rfl⟩
  · exact ⟨Disk.appended_appendFile _ _ _ _, rfl⟩
  · exact ⟨.refl _, rfl⟩
  · exact ⟨.refl _, rfl⟩
  · exact .refl session

theorem deliverAll (requests : List (Trace.Sink × Trace.Request)) (session : Session) :
    session.Traced
      (requests.foldl (fun session (sink, request) => session.deliver sink request) session) := by
  induction requests generalizing session with
  | nil => exact .refl session
  | cons request rest ih => exact (deliver session request.1 request.2).trans (ih _)

end Session.Traced

namespace Work

variable {α β : Type} {session : Session}

/-- From a session on, work ends with a result and a session as described. -/
def Ends (work : Work α) (session : Session) (ending : α → Session → Prop) : Prop :=
  ending (work.run session).1 (work.run session).2

theorem Ends.bind {work : Work α} {next : α → Work β} {middle : α → Session → Prop}
    {ending : β → Session → Prop} (first : Ends work session middle)
    (second : ∀ value session', middle value session' → Ends (next value) session' ending) :
    Ends (work >>= next) session ending :=
  second _ _ first

/-- Changing the disk fails and does nothing, or puts the changed disk in the place of the old one. -/
theorem run_changeDisk (change : Disk → Location → Except FileError Disk) (session : Session) :
    (Work.changeDisk change).run session =
      match change session.disk session.workingDirectory with
      | .error error => (.error (.file error), session)
      | .ok disk => (.ok (), { session with disk }) := by
  simp only [Work.changeDisk, StateT.run_bind, StateT.run_get, pure_bind]
  cases change session.disk session.workingDirectory <;> rfl

/-- From a session on, work does nothing but trace, and its result is as described. -/
def Ensures (work : Work α) (session : Session) (result : α → Prop) : Prop :=
  Ends work session fun value session' => result value ∧ session.Traced session'

namespace Ensures

theorem pure {result : α → Prop} {value : α} (holds : result value) :
    Ensures (Pure.pure value) session result :=
  ⟨holds, .refl session⟩

theorem bind {work : Work α} {next : α → Work β} {result : α → Prop} {result' : β → Prop}
    (first : Ensures work session result)
    (second : ∀ value session', result value → Ensures (next value) session' result') :
    Ensures (work >>= next) session result' := by
  obtain ⟨holds, traced⟩ := first
  obtain ⟨holds', traced'⟩ := second _ _ holds
  exact ⟨holds', traced.trans traced'⟩

theorem journaled (step : StateM Trace.Journal α) (session : Session) :
    Ensures (Work.journaled step) session fun _ => True := by
  refine ⟨trivial, ?_⟩
  let journal := (step.run session.journal).2
  have delivered := Session.Traced.deliverAll journal.outbox
    { session with journal := { journal with outbox := [] } }
  exact ⟨delivered.disk, delivered.workingDirectory⟩

theorem beginSpan (scope : Trace.Scope) (name : String) (parent : Nat) (session : Session) :
    Ensures (Work.beginSpan scope name parent) session fun _ => True :=
  journaled (Trace.Journal.begin scope (utf8 name) parent session.now) session

theorem annotate (span : Trace.Span) (key : String) (value : Bytes) (session : Session) :
    Ensures (Work.annotate span key value) session fun _ => True :=
  journaled (Trace.Journal.annotate span (utf8 key) value) session

theorem endSpan (span : Trace.Span) (detail : String) (session : Session) :
    Ensures (Work.endSpan span detail) session fun _ => True :=
  journaled (Trace.Journal.finish span (utf8 detail) session.now) session

theorem point (scope : Trace.Scope) (name detail : Bytes) (parent : Nat) (session : Session) :
    Ensures (Work.point scope name detail parent) session fun _ => True :=
  journaled (Trace.Journal.point scope name detail parent session.now) session

theorem traceError (name : String) (failure : Failure) (parent : Nat) (session : Session) :
    Ensures (Work.traceError name failure parent) session fun _ => True :=
  journaled (Trace.Journal.error (utf8 name) failure parent session.now) session

theorem forIn {list : List α} {body : α → PUnit → Work (ForInStep PUnit)}
    (each : ∀ item session, Ensures (body item ⟨⟩) session fun _ => True) (session : Session) :
    Ensures (ForIn.forIn list PUnit.unit body) session fun _ => True := by
  refine forIn_of_bind (motive := fun work => ∀ session, Ensures work session fun _ => True)
    (fun _ => .pure trivial) (fun item _ rest session => ?_) session
  exact (each item session).bind fun step session' _ => rest step session'

/-- Reading a source text gives what the reader gives, however it is traced. -/
theorem parse (file source : Bytes) (optimize : Bool) (parent : Nat) (session : Session) :
    Ensures (Work.parse file source optimize parent) session fun outcome =>
      outcome = (Context.parse file source optimize).mapError ParseError.toFailure := by
  unfold Work.parse
  refine (beginSpan _ _ _ session).bind fun span session _ => ?_
  refine (annotate _ _ _ session).bind fun span session _ => ?_
  refine (forIn (fun name session => ?_) session).bind fun _ session _ => ?_
  · exact (point _ _ _ _ session).bind fun _ _ _ => .pure trivial
  · rw [Context.parse]
    cases (Reader.read file source optimize).outcome with
    | error error => exact (endSpan _ _ session).bind fun _ _ _ => .pure rfl
    | ok context =>
      refine (annotate _ _ _ session).bind fun span session _ => ?_
      exact (endSpan _ _ session).bind fun _ _ _ => .pure rfl

end Ensures
end Work
end Blockwork
