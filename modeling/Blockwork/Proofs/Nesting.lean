import Blockwork.Proofs.Brackets
import Blockwork.Proofs.Cancellation
import Blockwork.Proofs.Verdicts

/-!
# Nesting of the trace

What a build traces is well nested, at every level and however the build goes. Work is nested in a
span if all that it traces lies in that span. This passes from the parts of work to the whole, and a
span that is begun before work and ended after it may be left out by the level: then what lies in it
lies in the span around it, too.
-/

namespace Blockwork
namespace Trace
namespace Journal

/-- Whether the span around what happens is one that the level lets through: there is none at a
level that leaves out even whole stages. -/
def Fits (parent : Nat) (journal : Journal) : Prop :=
  journal.traces .pass = false → parent = 0

variable {parent : Nat} {first second : Journal}

theorem Nests.fits {around : Nat} (nests : Nests around first second) (fits : Fits parent first) :
    Fits parent second := by
  have same : second.traces .pass = first.traces .pass := by
    rw [traces, Tracer.enabled, nests.level]
    rfl
  rw [Fits, same]
  exact fits

theorem traces_pass_of_driver {journal : Journal} (traced : journal.traces .driver = true) :
    journal.traces .pass = true := by
  obtain ⟨enabled, passes⟩ := Bool.and_eq_true_iff.mp traced
  refine Bool.and_eq_true_iff.mpr ⟨enabled, ?_⟩
  unfold Level.passes at passes ⊢
  split_ifs at passes ⊢
  · rfl
  · rfl
  · exact passes

/-- What happens in a span of a stage fits if the span fits. -/
theorem Opens.fits {scope : Scope} {span : Span} (opens : Opens scope parent first span second)
    (coarse : scope = .driver ∨ scope = .pass) (fits : Fits parent first) :
    Fits (Work.within span parent) second := by
  have same {journal : Journal} (level : journal.tracer.level = first.tracer.level) :
      journal.traces .pass = first.traces .pass := by
    rw [traces, Tracer.enabled, level]
    rfl
  cases opens with
  | leftOut silent unnumbered level spans handed =>
    rw [Fits, same level, Work.within, if_pos unnumbered]
    exact fits
  | opened traced numbered level spans handed kind inside grain alike =>
    rw [Fits, same level]
    intro silent
    have traced' : first.traces .pass = true := by
      rcases coarse with rfl | rfl
      · exact traces_pass_of_driver traced
      · exact traced
    rw [traced'] at silent
    cases silent

/-- In a span of a stage, that span is around what happens, or none is. -/
theorem Opens.within_eq {span : Span} (opens : Opens .pass parent first span second)
    (fits : Fits parent first) : Work.within span parent = span.id := by
  cases opens with
  | leftOut silent unnumbered level spans handed =>
    rw [Work.within, if_pos unnumbered, unnumbered]
    exact fits silent
  | opened traced numbered level spans handed kind inside grain alike =>
    rw [Work.within, if_neg (by omega)]

/-- What a journal does in a span up to its end. -/
def Shuts (around : Nat) (span : Span) (journal journal' : Journal) : Prop :=
  ∃ last, Nests around journal last ∧ Closes span last journal'

end Journal
end Trace

namespace Work

open Trace.Journal (Fits Shuts)

variable {α β : Type} {parent : Nat} {span : Trace.Span}

/-- Work is nested in a span if whatever it traces is. -/
def Nested (parent : Nat) (work : Work α) : Prop :=
  ∀ session, session.journal.Fits parent →
    Ends work session fun _ session' => session.journal.Nests parent session'.journal

/-- Work that leaves the journal alone. -/
def Silent (work : Work α) : Prop :=
  ∀ session, (work.run session).2.journal = session.journal

namespace Silent

theorem pure (value : α) : Silent (Pure.pure value) := fun _ => rfl

theorem nested {work : Work α} (silent : Silent work) (parent : Nat) : Nested parent work := by
  intro session _
  rw [Ends, silent]
  exact .refl parent _

theorem bind {work : Work α} {next : α → Work β} (first : Silent work)
    (second : ∀ value, Silent (next value)) : Silent (work >>= next) :=
  fun session => (second _ _).trans (first session)

theorem get : Silent (MonadState.get : Work Session) := fun _ => rfl

theorem readFile (path : Bytes) : Silent (Work.readFile path) := fun _ => rfl

theorem isCancelled : Silent Work.isCancelled := fun _ => rfl

theorem print (text : Bytes) : Silent (Work.print text) := fun _ => rfl

theorem printError (text : Bytes) : Silent (Work.printError text) := fun _ => rfl

theorem changeDisk (change : Disk → Location → Except FileError Disk) :
    Silent (Work.changeDisk change) := by
  intro session
  rw [run_changeDisk]
  cases change session.disk session.workingDirectory <;> rfl

end Silent

theorem journal_journaled (step : StateM Trace.Journal α) (session : Session) :
    ((Work.journaled step).run session).2.journal =
      { (step.run session.journal).2 with outbox := [] } := by
  rw [run_journaled]
  rfl

namespace Nested

theorem bind {work : Work α} {next : α → Work β} (first : Nested parent work)
    (second : ∀ value, Nested parent (next value)) : Nested parent (work >>= next) := by
  intro session fits
  have nests := first session fits
  exact nests.trans (second _ _ (nests.fits fits))

/-- Something may be done first or not. -/
theorem optional {condition : Prop} [Decidable condition] {work : Work Unit}
    {next : Unit → Work β} (first : Nested parent work) (second : Nested parent (next ())) :
    Nested parent (if condition then work >>= next else next ()) := by
  split
  · exact first.bind fun _ => second
  · exact second

theorem forIn {list : List α} {body : α → PUnit → Work (ForInStep PUnit)}
    (each : ∀ item, Nested parent (body item ⟨⟩)) :
    Nested parent (ForIn.forIn list PUnit.unit body) :=
  forIn_of_bind ((Silent.pure _).nested parent) fun item _ rest => (each item).bind rest

theorem journaled {step : StateM Trace.Journal α} {session : Session}
    (nests : session.journal.Nests parent (step.run session.journal).2) :
    Ends (Work.journaled step) session fun _ session' =>
      session.journal.Nests parent session'.journal := by
  rw [Ends, journal_journaled]
  exact nests.trans (.quiet parent rfl rfl rfl)

theorem point (scope : Trace.Scope) (name detail : Bytes) (parent : Nat) :
    Nested parent (Work.point scope name detail parent) :=
  fun _ _ => journaled (Trace.Journal.nests_point scope name detail _ _)

theorem traceError (name : String) (failure : Failure) (parent : Nat) :
    Nested parent (Work.traceError name failure parent) :=
  fun _ _ => journaled (Trace.Journal.nests_error (utf8 name) failure _ _)

end Nested

/-- Work is the rest of a span if it ends the span after what lies in it. -/
def Shutting (around : Nat) (span : Trace.Span) (work : Work α) : Prop :=
  ∀ session, session.journal.Fits around →
    Ends work session fun _ session' => session.journal.Shuts around span session'.journal

namespace Shutting

variable {around : Nat}

theorem after {work : Work α} {next : α → Work β} (first : Nested around work)
    (second : ∀ value, Shutting around span (next value)) :
    Shutting around span (work >>= next) := by
  intro session fits
  have nests := first session fits
  obtain ⟨last, nests', closes⟩ := second (work.run session).1 _ (nests.fits fits)
  exact ⟨last, nests.trans nests', closes⟩

theorem silently {work : Work α} {next : α → Work β} (first : Shutting around span work)
    (second : ∀ value, Silent (next value)) : Shutting around span (work >>= next) := by
  intro session fits
  have shuts := first session fits
  change session.journal.Shuts around span ((next _).run _).2.journal
  rw [second]
  exact shuts

/-- A span with a value attached is ended as well as the span itself. -/
theorem annotate {key : String} {value : Bytes} {next : Trace.Span → Work β}
    (rest : ∀ span', Trace.Journal.Alike span span' → Shutting around span' (next span')) :
    Shutting around span (Work.annotate span key value >>= next) := by
  intro session fits
  obtain ⟨alike, nests⟩ := Trace.Journal.annotate_keeps span (utf8 key) value session.journal around
  have nests : session.journal.Nests around
      ((Work.annotate span key value).run session).2.journal := Nested.journaled nests
  obtain ⟨last, nests', closes⟩ := rest _ alike _ (nests.fits fits)
  exact ⟨last, nests.trans nests', closes.of_alike alike⟩

theorem endSpan (around : Nat) (span : Trace.Span) (detail : String) :
    Shutting around span (Work.endSpan span detail) := by
  intro session _
  refine ⟨session.journal, .refl around _, ?_⟩
  have ran : ((Work.endSpan span detail).run session).2.journal =
      { ((Trace.Journal.finish span (utf8 detail) session.now).run session.journal).2 with
        outbox := [] } := journal_journaled _ session
  have closes := Trace.Journal.closes_finish span (utf8 detail) session.now session.journal
  rw [ran]
  exact ⟨closes.level, closes.spans, closes.leftOut, closes.closed⟩

end Shutting

/-- A span is begun in another one, and the rest ends it. In a span of a stage, that span is around
what happens, or none is. -/
theorem Nested.inSpan {scope : Trace.Scope} (coarse : scope = .driver ∨ scope = .pass)
    {name : String} {next : Trace.Span → Work β}
    (rest : ∀ span, (scope = .pass → within span parent = span.id) →
      Shutting (within span parent) span (next span)) :
    Nested parent (beginSpan scope name parent >>= next) := by
  intro session fits
  let begun := (beginSpan scope name parent).run session
  have opens : session.journal.Opens scope parent begun.1 begun.2.journal := by
    have ran : begun.2.journal = { ((Trace.Journal.begin scope (utf8 name) parent
        session.now).run session.journal).2 with outbox := [] } := journal_journaled _ session
    rw [ran]
    cases Trace.Journal.opens_begin scope (utf8 name) parent session.now session.journal with
    | leftOut silent unnumbered level spans handed =>
      exact .leftOut silent unnumbered level spans handed
    | opened traced numbered level spans handed kind inside grain alike =>
      exact .opened traced numbered level spans handed kind inside grain alike
  obtain ⟨last, nests, closes⟩ := rest begun.1
    (by rintro rfl; exact opens.within_eq fits) begun.2 (opens.fits coarse fits)
  exact opens.nests nests closes

/-! ## The parts of a build -/

theorem Nested.parse (file source : Bytes) (optimize : Bool) (parent : Nat) :
    Nested parent (Work.parse file source optimize parent) := by
  refine .inSpan (.inr rfl) fun span around => .annotate fun span' alike => ?_
  rw [around rfl]
  have inner : Nested span.id (do
      for name in (Reader.read file source optimize).begun do
        Work.point .function (utf8 "func:" ++ name) [] span'.id) := by
    rw [alike.1]
    refine .bind (.forIn fun name => ?_) fun _ => (Silent.pure _).nested _
    exact (Nested.point _ _ _ _).bind fun _ => (Silent.pure _).nested _
  refine .after inner fun _ => ?_
  cases (Reader.read file source optimize).outcome with
  | error error => exact .silently (.endSpan _ _ _) fun _ => .pure _
  | ok context =>
    exact .annotate fun _ _ => .silently (.endSpan _ _ _) fun _ => .pure _

end Work

namespace Cache

open Work (Silent)

theorem silent_get (cache : Option Cache) (key : Bytes) : Silent (get cache key) := by
  cases cache with
  | none => exact .pure _
  | some cache => exact .bind .get fun _ => .pure _

theorem silent_put (cache : Option Cache) (key : Bytes) (entry : CacheEntry)
    (trouble : Option Trouble) : Silent (put cache key entry trouble) := by
  cases cache with
  | none => exact .pure _
  | some cache => exact fun _ => rfl

end Cache

namespace Llvm

open Work (Nested Silent Shutting)

variable (context : Context) (parent : Nat)

theorem nested_trace (note : Note) : Nested parent (trace parent note) := by
  cases note <;> exact .point _ _ _ _

theorem nested_emitTraced : Nested parent (emitTraced context parent) := by
  intro session fits
  let emission := emit context fun asked => session.cancelledAt (session.asked + asked)
  have traces : Nested parent (do
      for note in emission.notes do
        trace parent note) := by
    refine .bind (.forIn fun note => ?_) fun _ => (Silent.pure _).nested _
    exact (nested_trace parent note).bind fun _ => (Silent.pure _).nested _
  exact traces { session with asked := session.asked + emission.consultations } fits

namespace Backend

variable (backend : Backend)

theorem silent_run (name : Bytes) (arguments : List Bytes) :
    Silent (backend.run name arguments) := by
  unfold run
  dsimp only
  split
  on_goal 1 => refine .bind (.print _) fun _ => ?_
  -- Whether the command is printed or not, the tool is looked up, and run if that may be.
  all_goals
    refine .bind .get fun held => ?_
    split
    · exact .pure _
    refine .bind .isCancelled fun answer => ?_
    split
    · exact .pure _
    split
    · exact .pure _
    split
    · exact .pure _
    · exact .bind (.print _) fun _ => .pure _

theorem silent_compile (kind : ArtifactKind) (optimize : Bool) (input output : Bytes) :
    Silent (backend.compile kind optimize input output) := by
  refine .bind (silent_run backend _ _) fun outcome => ?_
  cases outcome with
  | ok _ => exact .pure _
  | error first =>
    refine .bind .get fun held => ?_
    split
    · exact .pure _
    refine .bind (silent_run backend _ _) fun outcome => ?_
    cases outcome with
    | error second => exact .pure _
    | ok _ =>
      dsimp only
      split
      · exact .bind (.print _) fun _ => .pure _
      · exact .pure _

theorem silent_write (optimize : Bool) (output text : Bytes) :
    Silent (backend.write optimize output text) := by
  unfold write
  dsimp only
  split
  · exact .bind (.changeDisk _) fun _ => .pure _
  · exact .bind .get fun _ => .bind (silent_compile backend _ _ _ _) fun _ => .pure _

theorem nested_emitAndWrite (output : Bytes) (verbose : Bool) :
    Nested parent (backend.emitAndWrite output verbose parent context) := by
  refine (nested_emitTraced context parent).bind fun outcome => ?_
  cases outcome with
  | error error => exact (Silent.pure _).nested _
  | ok emitted =>
    exact .optional ((Silent.printError _).nested _) ((silent_write backend _ _ _).nested _)

theorem nested_lower (output : Bytes) (verbose : Bool) :
    Nested parent (backend.lower output verbose parent context) := by
  refine .inSpan (.inr rfl) fun span around => .annotate fun span' alike => ?_
  have same : Work.within span' parent = span'.id := by
    rw [Work.within, alike.1]
    exact around rfl
  rw [around rfl, ← alike.1]
  change Shutting span'.id span' (backend.emitAndWrite output verbose (Work.within span' parent)
    context >>= _)
  rw [same]
  refine .after (nested_emitAndWrite context _ backend output verbose) fun outcome => ?_
  cases outcome with
  | error failure =>
    refine .after (.traceError _ _ _) fun _ => .silently (.endSpan _ _ _) fun _ => .pure _
  | ok _ => exact .silently (.endSpan _ _ _) fun _ => .pure _

end Backend
end Llvm

namespace Build

open Work (Nested Silent Shutting)

theorem nested_restoreCached (cache : Cache) (key path : Bytes) (optimize : Bool) (parent : Nat) :
    Nested parent (restoreCached cache key path optimize parent) := by
  refine .bind ((Cache.silent_get _ _).nested _) fun found => ?_
  match found with
  | .error error => exact (Nested.traceError _ _ _).bind fun _ => (Silent.pure _).nested _
  | .ok none => exact (Silent.pure _).nested _
  | .ok (some (_, snapshot)) =>
    dsimp only
    cases { snapshot with optimize }.restore with
    | ok context => exact (Nested.point _ _ _ _).bind fun _ => (Silent.pure _).nested _
    | error failure => exact (Nested.traceError _ _ _).bind fun _ => (Silent.pure _).nested _

theorem nested_keepCached (cache : Cache) (key path : Bytes) (context : Context) (parent : Nat) :
    Nested parent (keepCached cache key path context parent) := by
  refine .bind (Silent.get.nested _) fun session => ?_
  cases context.take with
  | none =>
    refine .bind ((Silent.pure _).nested _) fun outcome => ?_
    cases outcome with
    | ok _ => exact (Silent.pure _).nested _
    | error failure => exact .traceError _ _ _
  | some snapshot =>
    refine .bind ((Cache.silent_put _ _ _ _).nested _) fun outcome => ?_
    cases outcome with
    | ok _ => exact (Silent.pure _).nested _
    | error failure => exact .traceError _ _ _

theorem nested_load (path : Bytes) (optimize : Bool) (cache : Option Cache) (parent : Nat) :
    Nested parent (load path optimize cache parent) := by
  refine .bind ((Silent.readFile path).nested _) fun outcome => ?_
  cases outcome with
  | error failure => exact (Silent.pure _).nested _
  | ok source =>
    cases cache with
    | none => exact (Nested.parse path source optimize parent).bind fun _ => (Silent.pure _).nested _
    | some cache =>
      refine .bind (nested_restoreCached _ _ _ _ _) fun restored => ?_
      cases restored with
      | some context => exact (Silent.pure _).nested _
      | none =>
        refine .bind (.parse path source optimize parent) fun outcome => ?_
        cases outcome with
        | error failure => exact (Silent.pure _).nested _
        | ok context =>
          exact (nested_keepCached _ _ _ _ _).bind fun _ => (Silent.pure _).nested _

theorem nested_validate (context : Context) (parent : Nat) :
    Nested parent (validate context parent) :=
  .inSpan (.inr rfl) fun _ _ => .silently (.endSpan _ _ _) fun _ => .pure _

theorem nested_lower (request : BuildRequest) (output : Bytes) (context : Context) (parent : Nat) :
    Nested parent (lower request output context parent) := by
  intro session fits
  let backend : Backend Session := request.backend.lower output request.verbose parent
  have nests : session.journal.Nests parent
      (context.lower (some backend.counting) (session, 0)).2.1.1.journal := by
    unfold Context.lower
    cases context.usable with
    | error fault => exact .refl parent _
    | ok _ =>
      dsimp only
      cases ({ context with phase := .consumed } : Context).validate with
      | error failure => exact .refl parent _
      | ok _ =>
        exact Llvm.Backend.nested_lower _ parent request.backend output request.verbose session fits
  exact nests

/-! ## The build -/

/-- A course is nested in a span if it is from every report on. -/
def NestedCourse {α : Type} (parent : Nat) (course : Course α) : Prop :=
  ∀ report, Nested parent (course.run report)

namespace NestedCourse

variable {α β : Type} {parent : Nat}

theorem bind {course : Course α} {next : α → Course β} (first : NestedCourse parent course)
    (second : ∀ value, NestedCourse parent (next value)) :
    NestedCourse parent (course >>= next) := by
  intro report
  rw [StateT.run_bind]
  exact (first report).bind fun reached => second reached.1 reached.2

/-- What changes the report only traces nothing. -/
theorem quiet {course : Course α}
    (silent : ∀ report session, ((course.run report).run session).2 = session) :
    NestedCourse parent course :=
  fun report => Silent.nested (fun session => congrArg Session.journal (silent report session)) _

theorem work {work : Work α} (nested : Nested parent work) :
    NestedCourse parent (liftM work : Course α) := by
  intro report
  exact nested.bind fun value => (Silent.pure (value, report)).nested _

theorem lowerHeld (request : BuildRequest) (output : Bytes) (place : Nat) (context : Context)
    (parent : Nat) : NestedCourse parent (lowerHeld request output place context parent) := by
  refine .bind (.work (nested_lower request output context parent)) fun (left, given, outcome) => ?_
  refine .bind (.quiet fun _ _ => rfl) fun _ => ?_
  exact .bind (.quiet fun _ _ => rfl) fun _ => .quiet fun _ _ => rfl

theorem inStage (file : Bytes) (stage : Stage) (finished : α → Status)
    {work : Course (Except Failure α)} (nested : NestedCourse parent work) :
    NestedCourse parent (inStage file stage finished work) := by
  refine .bind (.quiet fun _ _ => rfl) fun _ => .bind (.quiet fun _ _ => rfl) fun started => ?_
  refine .bind nested fun outcome => .bind (.quiet fun _ _ => rfl) fun ended => ?_
  refine .bind (.quiet fun _ _ => rfl) fun _ => ?_
  cases outcome with
  | ok value => exact .bind (.quiet fun _ _ => rfl) fun _ => .quiet fun _ _ => rfl
  | error failure => exact .bind (.quiet fun _ _ => rfl) fun _ => .quiet fun _ _ => rfl

theorem buildStages (request : BuildRequest) (file : Bytes) (parent : Nat) :
    NestedCourse parent (buildStages request file parent) := by
  refine .bind (.inStage _ _ _ (.work (nested_load _ _ _ _))) fun outcome => ?_
  cases outcome with
  | error failure => exact .quiet fun _ _ => rfl
  | ok loaded =>
    refine .bind (.quiet fun _ _ => rfl) fun place => ?_
    refine .bind (.inStage _ _ _ (.work (nested_validate _ _))) fun outcome => ?_
    cases outcome with
    | error failure => exact .bind (.quiet fun _ _ => rfl) fun _ => .quiet fun _ _ => rfl
    | ok _ =>
      refine .bind (.inStage _ _ _ (.lowerHeld _ _ _ _ _)) fun outcome => ?_
      cases outcome with
      | error failure => exact .quiet fun _ _ => rfl
      | ok _ => exact .quiet fun _ _ => rfl

theorem buildFile (request : BuildRequest) (file : Bytes) (parent : Nat) :
    NestedCourse parent (buildFile request file parent) := by
  intro report
  change Nested parent (do
    let span ← Work.beginSpan .driver "file" parent
    let span ← Work.annotate span "file" file
    let (result, report) ← (Build.buildStages request file (Work.within span parent)).run report
    Work.endSpan span ""
    pure (result, report))
  refine .inSpan (.inl rfl) fun span _ => .annotate fun span' alike => ?_
  have same : Work.within span' parent = Work.within span parent := by
    rw [Work.within, alike.1]
    rfl
  rw [← same]
  exact .after (NestedCourse.buildStages request file _ report) fun (result, _) =>
    .silently (.endSpan _ _ _) fun _ => .pure _

theorem buildFiles (request : BuildRequest) (parent : Nat) (cancelled : Bool)
    (files : List Bytes) : NestedCourse parent (buildFiles request parent cancelled files) := by
  induction files generalizing cancelled with
  | nil => exact .quiet fun _ _ => rfl
  | cons file rest ih =>
    refine .bind (.work (Silent.isCancelled.nested _)) fun answer => ?_
    split
    · refine .bind (.quiet fun _ _ => rfl) fun _ => ?_
      exact .bind (.quiet fun _ _ => rfl) fun _ => ih true
    · refine .bind (.buildFile request file parent) fun result => ?_
      exact .bind (.quiet fun _ _ => rfl) fun _ => ih cancelled

end NestedCourse

theorem silent_prepare (request : BuildRequest) : Silent (prepare request) := by
  unfold prepare
  split
  · exact .pure _
  split
  · exact .pure _
  split
  · exact .pure _
  · exact .bind (.changeDisk _) fun _ => .pure _

theorem nested_run (request : Option BuildRequest) (parent : Nat) :
    Nested parent (run request parent) := by
  cases request with
  | none => exact (Silent.pure _).nested _
  | some request =>
    refine .bind ((silent_prepare request).nested _) fun outcome => ?_
    cases outcome with
    | error failure => exact (Silent.pure _).nested _
    | ok _ =>
      refine .inSpan (.inl rfl) fun span _ => ?_
      refine .after (NestedCourse.buildFiles request _ false request.files _) fun _ => ?_
      exact .silently (.endSpan _ _ _) fun _ => .pure _

open Trace (nest begun ended ticks) in
/-- The events of a build that has no span around it are a well bracketed forest, at every level,
for every request and session, and however the build goes: taken one after the other, each end
closes the span that was opened last and repeats what it says, everything else names that span as
the one around it, and in the end no span is open. No span begins twice: they are numbered one by
one, as a counter of sixty-four bits does until it goes around. Those that end are those that begin;
and no event is one that the level leaves out. -/
theorem run_wellNested (request : Option BuildRequest) (session : Session) :
    ∃ events, ((run request 0).run session).2.journal.handed = session.journal.handed ++ events ∧
      events.foldlM nest [] = some [] ∧ (begun events).Nodup ∧
      begun events = List.range' (session.journal.spans + 1) (begun events).length ∧
      (session.journal.spans + (begun events).length < Nat.pow 2 64 → begun events =
        (ticks (UInt64.ofNat session.journal.spans) (begun events).length).map UInt64.toNat) ∧
      (ended events).Perm (begun events) ∧
      ∀ event ∈ events, session.journal.tracer.level.accepts event = true := by
  obtain ⟨-, events, handed, balanced, counted, accepted⟩ :=
    nested_run request 0 session fun _ => rfl
  have closed := balanced [] rfl
  have numbers := counted.begun_eq
  refine ⟨events, handed, closed, numbers ▸ List.nodup_range', numbers,
    fun room => numbers.trans (Trace.map_toNat_ticks room).symm, ?_, accepted⟩
  simpa using (Trace.perm_of_nest closed).symm

/-- A file that is not there is a span in that of the build. -/
example :
    let tracer : Trace.Tracer := .single (.ring (.empty 8 .phase))
    let request : BuildRequest := { files := [utf8 "a"], directory := [], kind := .llvm }
    (((run (some request) 0).run { journal := { tracer } }).2.journal.handed.map
      fun event => (event.kind.name, event.span, event.parent)) =
        [("begin", 1, 0), ("begin", 2, 1), ("end", 2, 1), ("end", 1, 0)] := by
  decide +kernel

end Build
end Blockwork
