import Blockwork.Proofs.Cancellation
import Blockwork.Proofs.Emission

/-!
# Verdicts

What a build says about its files. They are worked on from the front, until the session is
cancelled; the rest is left out. The verdict of a build names every failure that is no cancellation,
each with its file and in their order, and says that the build was cancelled if a file was left out.
So a build that is never cancelled succeeds exactly if all its files do. One thing goes unsaid: that
the work on the last file was cancelled after it had begun.
-/

namespace Blockwork
namespace Build

open Work

/-- From a report and a session on, a course ends with a result, a report and a session as
described. -/
def Goes {α : Type} (course : Course α) (report : Report) (session : Session)
    (ending : α → Report → Session → Prop) : Prop :=
  Ends (course.run report) session fun (value, report') session' => ending value report' session'

theorem Goes.imp {α : Type} {course : Course α} {report : Report} {session : Session}
    {ending ending' : α → Report → Session → Prop} (goes : Goes course report session ending)
    (weaker : ∀ value report' session', ending value report' session' →
      ending' value report' session') : Goes course report session ending' :=
  weaker _ _ _ goes

theorem Goes.bind {α β : Type} {course : Course α} {next : α → Course β} {report : Report}
    {session : Session} {middle : α → Report → Session → Prop}
    {ending : β → Report → Session → Prop} (first : Goes course report session middle)
    (second : ∀ value report' session', middle value report' session' →
      Goes (next value) report' session' ending) :
    Goes (course >>= next) report session ending :=
  second _ _ _ first

/-- Work takes its time and leaves the report alone. -/
theorem Goes.work {α : Type} {work : Work α} {report : Report} {session : Session}
    {ending : α → Session → Prop} (ends : Ends work session ending) :
    Goes (liftM work) report session fun value report' session' =>
      report = report' ∧ ending value session' :=
  ⟨rfl, ends⟩

/-- What a part of a build that adds no file to the report leaves behind: a later session, and a
failure by cancellation only if that is cancelled. -/
structure Passes {α : Type} (report : Report) (session : Session) (outcome : Except Failure α)
    (report' : Report) (session' : Session) : Prop where
  /-- The session is a later one. -/
  later : session.Later session'
  /-- The files of the report are the same. -/
  files : report'.files = report.files
  /-- A failure by cancellation is accounted for. -/
  blames : Blames outcome fun failure => failure.Genuine ∨ session'.Cancelled

section Stages

variable (request : BuildRequest) (file : Bytes) (parent : Nat) (report : Report)
  (session : Session)

theorem goes_announce (stage : Stage) (status : Status) (failure : Option Failure) :
    Goes (announce file stage status failure) report session fun _ report' session' =>
      report'.files = report.files ∧ session = session' :=
  ⟨rfl, rfl⟩

theorem goes_clock (stage : Stage) (duration : Duration) :
    Goes (clock stage duration) report session fun _ report' session' =>
      report'.files = report.files ∧ session = session' :=
  ⟨rfl, rfl⟩

theorem goes_add (result : FileResult) :
    Goes (modify fun report : Report => { report with files := report.files ++ [result] }) report
      session fun _ report' session' =>
        report'.files = report.files ++ [result] ∧ session = session' :=
  ⟨rfl, rfl⟩

theorem goes_hold (context : Context) :
    Goes (hold context) report session fun _ report' session' =>
      report'.files = report.files ∧ session = session' :=
  ⟨rfl, rfl⟩

theorem goes_alter (place : Nat) (change : Holding → Holding) :
    Goes (alter place change) report session fun _ report' session' =>
      report'.files = report.files ∧ session = session' :=
  ⟨rfl, rfl⟩

variable {session} in
theorem goes_of_heeds {α : Type} {work : Work (Except Failure α)} (heeds : Heeds work session) :
    Goes (liftM work) report session (Passes report session) := by
  refine (Goes.work heeds).imp ?_
  rintro outcome _ session' ⟨rfl, later, blames⟩
  exact ⟨later, rfl, blames⟩

/-- What is left of a context is destroyed, whatever came of lowering it. -/
theorem goes_lowerHeld (output : Bytes) (place : Nat) (context : Context) :
    Goes (lowerHeld request output place context parent) report session
      (Passes report session) := by
  refine (Goes.work (ends_lower request output context parent session)).bind ?_
  rintro ⟨left, given, outcome⟩ _ session' ⟨rfl, later, blames⟩
  refine (goes_alter report session' _ _).bind ?_
  rintro _ first _ ⟨kept, rfl⟩
  refine (goes_alter first session' _ _).bind ?_
  rintro _ second _ ⟨kept', rfl⟩
  exact ⟨later, kept'.trans kept, blames⟩

/-- A stage passes the outcome of its work and the session on. -/
theorem goes_inStage_of {α : Type} (stage : Stage) (finished : α → Status)
    {work : Course (Except Failure α)} {ending : Except Failure α → Session → Prop}
    (goes : ∀ report, Goes work report session fun outcome report' session' =>
      report'.files = report.files ∧ ending outcome session') :
    Goes (inStage file stage finished work) report session fun outcome report' session' =>
      report'.files = report.files ∧ ending outcome session' := by
  have asks (report : Report) (session : Session) : Goes (getThe Session) report session
      fun _ report' session' => report = report' ∧ session = session' := ⟨rfl, rfl⟩
  refine (goes_announce file report session _ _ _).bind ?_
  rintro _ first _ ⟨kept, rfl⟩
  refine (asks first _).bind ?_
  rintro started _ _ ⟨rfl, rfl⟩
  refine (goes first).bind ?_
  rintro outcome middle session ⟨same, ends⟩
  refine (asks middle session).bind ?_
  rintro ended _ _ ⟨rfl, rfl⟩
  refine (goes_clock middle session _ _).bind ?_
  rintro _ second _ ⟨kept', rfl⟩
  replace kept := kept'.trans (same.trans kept)
  cases outcome with
  | ok value =>
    refine (goes_announce file second session _ _ _).bind ?_
    rintro _ third _ ⟨kept'', rfl⟩
    exact ⟨kept''.trans kept, ends⟩
  | error failure =>
    refine (goes_announce file second session _ _ _).bind ?_
    rintro _ third _ ⟨kept'', rfl⟩
    exact ⟨kept''.trans kept, ends⟩

theorem goes_inStage {α : Type} (stage : Stage) (finished : α → Status)
    {work : Course (Except Failure α)}
    (passes : ∀ report, Goes work report session (Passes report session)) :
    Goes (inStage file stage finished work) report session (Passes report session) := by
  have goes (report : Report) : Goes work report session fun outcome report' session' =>
      report'.files = report.files ∧ session.Later session' ∧
        Blames outcome fun failure => failure.Genuine ∨ session'.Cancelled :=
    (passes report).imp fun _ _ _ left => ⟨left.files, left.later, left.blames⟩
  refine (goes_inStage_of file report session stage finished goes).imp ?_
  rintro outcome report' session' ⟨files, later, blames⟩
  exact ⟨later, files, blames⟩

/-- What the work on a file leaves behind: its result, which names its artifact, and a failure by
cancellation only in a session that is cancelled. -/
structure Handles (result : FileResult) (report' : Report) (session' : Session) : Prop where
  /-- The session is a later one. -/
  later : session.Later session'
  /-- The files of the report are the same. -/
  files : report'.files = report.files
  /-- The result is that of the file. -/
  named : result.file = file
  /-- The artifact is named. -/
  output : result.output = request.outputPath file
  /-- A failure by cancellation is accounted for. -/
  accounted : ∀ failure ∈ result.failure, failure.Genuine ∨ session'.Cancelled

variable {request file report session} in
theorem Handles.before {session₀ session' : Session} {result : FileResult} {report' : Report}
    (handles : Handles request file report session result report' session')
    (later : session₀.Later session) :
    Handles request file report session₀ result report' session' :=
  { handles with later := later.trans handles.later }

variable {request file report session} in
theorem Handles.fails {α : Type} {hit : Bool} {failure : Failure} {report' : Report}
    {session' : Session} (later : session.Later session') (files : report'.files = report.files)
    (blames : Blames (.error failure : Except Failure α) fun failure =>
      failure.Genuine ∨ session'.Cancelled) :
    Handles request file report session
      { file, output := request.outputPath file, hit, failure := some failure } report'
      session' where
  later := later
  files := files
  named := rfl
  output := rfl
  accounted other same := by
    cases same
    exact blames failure rfl

theorem goes_buildStages :
    Goes (buildStages request file parent) report session
      (Handles request file report session) := by
  refine (goes_inStage file report session _ _ fun report =>
    goes_of_heeds report (heeds_load _ _ _ _ session)).bind fun outcome first session' parsed => ?_
  cases outcome with
  | error failure => exact .fails parsed.later parsed.files parsed.blames
  | ok loaded =>
    refine (goes_hold first session' loaded.context).bind ?_
    rintro place held _ ⟨kept, rfl⟩
    refine (goes_inStage file held session' _ _ fun report =>
      goes_of_heeds report (heeds_validate _ _ session')).bind
        fun outcome second session'' checked => ?_
    have later := parsed.later.trans checked.later
    have files := checked.files.trans (kept.trans parsed.files)
    cases outcome with
    | error failure =>
      refine (goes_alter second session'' _ _).bind ?_
      rintro _ third _ ⟨kept', rfl⟩
      exact .fails later (kept'.trans files) checked.blames
    | ok _ =>
      refine (goes_inStage file second session'' _ _ fun report =>
        goes_lowerHeld request parent report session'' _ _ _).bind
          fun outcome third last lowered => ?_
      replace later := later.trans lowered.later
      replace files := lowered.files.trans files
      cases outcome with
      | error failure => exact .fails later files lowered.blames
      | ok _ => exact ⟨later, files, rfl, rfl, nofun⟩

theorem goes_buildFile :
    Goes (buildFile request file parent) report session (Handles request file report session) := by
  refine (Goes.work (Lasts.beginSpan _ _ _)).bind ?_
  rintro span _ session' ⟨rfl, later⟩
  refine (Goes.work (Lasts.annotate _ _ _)).bind ?_
  rintro span _ session' ⟨rfl, later'⟩
  refine (goes_buildStages request file _ report session').bind fun result first last handles => ?_
  refine (Goes.work (Lasts.endSpan _ _)).bind ?_
  rintro _ _ final ⟨rfl, later''⟩
  have handles := handles.before (later.trans later')
  exact { handles with
    later := handles.later.trans later''
    accounted := fun failure failed =>
      (handles.accounted failure failed).imp_right later''.cancelled }

end Stages

/-- How the files of a build fare: those that are begun, and those that are left out because the
session is cancelled. -/
structure Fare (request : BuildRequest) (session : Session) (files : List Bytes)
    (begun leftOut : List FileResult) : Prop where
  /-- Every file is reported, in the order of the request. -/
  files : (begun ++ leftOut).map FileResult.file = files
  /-- The artifact of a file that is begun is named. -/
  output : ∀ result ∈ begun, result.output = request.outputPath result.file
  /-- A file that is left out has no artifact, and is said to be cancelled. -/
  omitted : ∀ result ∈ leftOut,
    result = { file := result.file, failure := some (.ofKind .canceled) }
  /-- Only the last file that is begun can be cancelled in its course. -/
  genuine : ∀ result ∈ begun.dropLast, ∀ failure ∈ result.failure, failure.Genuine
  /-- No file is begun if the session is cancelled already. -/
  cancelled : session.Cancelled → begun = []
  /-- If the session is never cancelled then no file is left out or fails by being cancelled. -/
  undisturbed : session.cancelAfter = none →
    leftOut = [] ∧ ∀ result ∈ begun, ∀ failure ∈ result.failure, failure.Genuine

namespace Fare

variable {request : BuildRequest} {session session' : Session} {rest : List Bytes}
  {begun leftOut : List FileResult}

theorem nil (request : BuildRequest) (session : Session) : Fare request session [] [] [] where
  files := rfl
  output := nofun
  omitted := nofun
  genuine := nofun
  cancelled _ := rfl
  undisturbed _ := ⟨rfl, nofun⟩

theorem before {files : List Bytes} (fare : Fare request session' files begun leftOut)
    (later : session.Later session') : Fare request session files begun leftOut :=
  { fare with
    cancelled := fun cancelled => fare.cancelled (later.cancelled cancelled)
    undisturbed := fun never => fare.undisturbed (later.limit.trans never) }

/-- A file whose turn comes in a cancelled session is left out, and so are those behind it. -/
theorem leave (file : Bytes) (cancelled : session.Cancelled) (later : session.Later session')
    (fare : Fare request session' rest begun leftOut) :
    begun = [] ∧ Fare request session (file :: rest) []
      ({ file, failure := some (.ofKind .canceled) } :: leftOut) := by
  have none := fare.cancelled (later.cancelled cancelled)
  subst none
  refine ⟨rfl, ?_⟩
  constructor
  case files => exact congrArg (file :: ·) fare.files
  case output => nofun
  case omitted =>
    intro result listed
    rcases List.mem_cons.mp listed with rfl | listed
    · rfl
    · exact fare.omitted result listed
  case genuine => nofun
  case cancelled => exact fun _ => rfl
  case undisturbed =>
    intro never
    exact absurd cancelled (Session.not_cancelled never)

/-- A file whose turn comes before is begun. If it fails by being cancelled then no other is. -/
theorem start {result : FileResult} (going : ¬ session.Cancelled)
    (output : result.output = request.outputPath result.file)
    (accounted : ∀ failure ∈ result.failure, failure.Genuine ∨ session'.Cancelled)
    (later : session.Later session') (fare : Fare request session' rest begun leftOut) :
    Fare request session (result.file :: rest) (result :: begun) leftOut := by
  constructor
  case files => exact congrArg (result.file :: ·) fare.files
  case output =>
    intro other listed
    rcases List.mem_cons.mp listed with rfl | listed
    · exact output
    · exact fare.output other listed
  case omitted => exact fare.omitted
  case genuine =>
    cases begun with
    | nil => nofun
    | cons next others =>
      intro other listed failure failed
      rw [List.dropLast_cons_cons] at listed
      rcases List.mem_cons.mp listed with rfl | listed
      · refine (accounted failure failed).resolve_right fun stopped => ?_
        cases fare.cancelled stopped
      · exact fare.genuine other listed failure failed
  case cancelled => exact fun stopped => absurd stopped going
  case undisturbed =>
    intro never
    have never' : session'.cancelAfter = none := later.limit.trans never
    obtain ⟨all, genuine⟩ := fare.undisturbed never'
    refine ⟨all, fun other listed failure failed => ?_⟩
    rcases List.mem_cons.mp listed with rfl | listed
    · exact (accounted failure failed).resolve_right (Session.not_cancelled never')
    · exact genuine other listed failure failed

end Fare

theorem goes_buildFiles (request : BuildRequest) (parent : Nat) (cancelled : Bool)
    (files : List Bytes) (report : Report) (session : Session)
    (stopped : cancelled = true → session.Cancelled) :
    Goes (buildFiles request parent cancelled files) report session fun left report' session' =>
      session.Later session' ∧ ∃ begun leftOut, Fare request session files begun leftOut ∧
        report'.files = report.files ++ (begun ++ leftOut) ∧
        (left = true ↔ cancelled = true ∨ leftOut ≠ []) := by
  induction files generalizing cancelled report session with
  | nil =>
    refine ⟨.refl session, [], [], .nil request session, (List.append_nil _).symm, ?_⟩
    change cancelled = true ↔ _
    simp
  | cons file rest ih =>
    rw [buildFiles]
    refine (Goes.work (ends_isCancelled session)).bind ?_
    rintro answer _ session' ⟨rfl, later, told⟩
    split
    case isTrue halt =>
      have cancelled : session.Cancelled := by
        rcases Bool.or_eq_true_iff.mp halt with already | now
        · exact stopped already
        · exact told.mp now
      refine (goes_announce file report session' _ _ _).bind ?_
      rintro _ first _ ⟨kept, rfl⟩
      refine (goes_add first session' _).bind ?_
      rintro _ second _ ⟨added, rfl⟩
      refine (ih true second session' fun _ => later.cancelled cancelled).imp ?_
      rintro left last session'' ⟨later', begun, leftOut, fare, listed, known⟩
      obtain ⟨rfl, whole⟩ := fare.leave file cancelled later
      refine ⟨later.trans later', [], _, whole, ?_, ?_⟩
      · rw [listed, added, kept, List.append_assoc]
        rfl
      · simp [known.mpr (.inl rfl)]
    case isFalse go =>
      have going : ¬ session.Cancelled := fun cancelled =>
        go (Bool.or_eq_true_iff.mpr (.inr (told.mpr cancelled)))
      refine (goes_buildFile request file parent report session').bind
        fun result first session'' handles => ?_
      refine (goes_add first session'' result).bind ?_
      rintro _ second _ ⟨added, rfl⟩
      refine (ih cancelled second session'' fun already => absurd (stopped already) going).imp ?_
      rintro left last _ ⟨later', begun, leftOut, fare, listed, known⟩
      have started := later.trans handles.later
      have output : result.output = request.outputPath result.file := by
        rw [handles.named]
        exact handles.output
      have whole := Fare.start going output handles.accounted started fare
      rw [handles.named] at whole
      refine ⟨started.trans later', result :: begun, leftOut, whole, ?_, known⟩
      rw [listed, added, handles.files, List.append_assoc]
      rfl

/-- What a verdict says about a file: its failure with the name of the file in front, unless that is
a cancellation. -/
def FileResult.fault? (result : FileResult) : Option Failure :=
  match result.failure with
  | some failure => if failure.Genuine then some (.within result.file failure) else none
  | none => none

theorem FileResult.fault?_eq_none_iff {result : FileResult} :
    result.fault? = none ↔ ∀ failure ∈ result.failure, ¬ failure.Genuine := by
  unfold fault?
  cases result.failure with
  | none => simp
  | some failure => simp

theorem FileResult.fault?_eq_none_iff_of_genuine {result : FileResult}
    (genuine : ∀ failure ∈ result.failure, failure.Genuine) :
    result.fault? = none ↔ result.failure = none := by
  rw [fault?_eq_none_iff]
  cases failed : result.failure with
  | none => simp
  | some failure => simpa using genuine failure failed

theorem verdict_eq (report : Report) (cancelled : Bool) :
    verdict report cancelled = Failure.toExcept (report.files.filterMap FileResult.fault? ++
      if cancelled then [.ofKind .canceled] else []) := by
  unfold verdict
  dsimp only
  congr 2
  refine List.filterMap_congr fun result _ => ?_
  unfold FileResult.fault?
  cases result.failure with
  | none => rfl
  | some failure =>
    by_cases genuine : failure.Genuine
    · simp [Failure.genuine_iff.mp genuine, genuine]
    · simp [genuine, mt Failure.genuine_iff.mpr genuine]

theorem lasts_prepare (request : BuildRequest) (session : Session) :
    Lasts (prepare request) session := by
  unfold prepare
  split
  · exact .pure _
  split
  · exact .pure _
  split
  · exact .pure _
  · exact Lasts.bind (Heeds.changeDisk _).1 fun _ _ => .pure _

end Build

namespace Build

open Work

/-- A build that has been prepared takes its files in turn, and its verdict joins what there is to
say about them. -/
theorem ends_run (request : BuildRequest) (parent : Nat) (session : Session)
    (prepared : ((prepare request).run session).1 = .ok ()) :
    Ends (run (some request) parent) session fun (report, outcome) _ =>
      ∃ begun leftOut, report.files = begun ++ leftOut ∧
        Fare request session request.files begun leftOut ∧
        outcome = Failure.toExcept (report.files.filterMap FileResult.fault? ++
          if leftOut = [] then [] else [.ofKind .canceled]) := by
  have start : Ends (prepare request) session fun outcome session' =>
      outcome = .ok () ∧ session.Later session' := ⟨prepared, lasts_prepare request session⟩
  refine start.bind ?_
  rintro outcome first ⟨rfl, later⟩
  refine Ends.bind (Lasts.beginSpan _ _ _) fun span second later' => ?_
  refine Ends.bind (goes_buildFiles request _ false request.files _ second nofun) ?_
  rintro ⟨left, report⟩ third ⟨_, begun, leftOut, fare, listed, known⟩
  refine Ends.bind (Lasts.endSpan _ _) fun _ _ _ => ?_
  refine ⟨begun, leftOut, listed, fare.before (later.trans later'),
    (verdict_eq report left).trans ?_⟩
  congr 2
  by_cases none : leftOut = []
  · have quiet : left = false := by simpa [none] using known
    simp [none, quiet]
  · simp [none, known.mpr (.inr none)]

/-- Among the files that are begun, only the last can have failed without a word in the verdict. -/
theorem Fare.quiet_iff {request : BuildRequest} {session : Session} {files : List Bytes}
    {begun leftOut : List FileResult} (fare : Fare request session files begun leftOut) :
    (∀ result ∈ begun, result.fault? = none) ↔
      (∀ result ∈ begun.dropLast, result.failure = none) ∧
        ∀ result ∈ begun.getLast?, result.fault? = none := by
  have genuine := fare.genuine
  rcases List.eq_nil_or_concat begun with rfl | ⟨early, last, rfl⟩
  · simp
  · rw [List.concat_eq_append, List.dropLast_concat] at genuine
    have early_iff : (∀ result ∈ early, result.fault? = none) ↔
        ∀ result ∈ early, result.failure = none := by
      exact forall₂_congr fun result listed =>
        FileResult.fault?_eq_none_iff_of_genuine (genuine result listed)
    simp [or_imp, forall_and, early_iff]

/-- A build that has been prepared reports all its files, and its verdict names every failure that
is no cancellation, with its file and in their order. It succeeds exactly if no file was left out
and none failed, except that the last may have been cancelled after it was begun. -/
theorem run_verdict (request : BuildRequest) (parent : Nat) (session : Session)
    (prepared : ((prepare request).run session).1 = .ok ()) :
    ∃ report outcome begun leftOut,
      ((run (some request) parent).run session).1 = (report, outcome) ∧
      report.files = begun ++ leftOut ∧ Fare request session request.files begun leftOut ∧
      (outcome = .ok () ↔ leftOut = [] ∧ (∀ result ∈ begun.dropLast, result.failure = none) ∧
        ∀ result ∈ begun.getLast?, result.fault? = none) ∧
      ∀ failure, outcome = .error failure → failure.message = Bytes.join (utf8 "\n")
        ((report.files.filterMap FileResult.fault? ++
          if leftOut = [] then [] else [Failure.ofKind .canceled]).map Failure.message) := by
  obtain ⟨begun, leftOut, listed, fare, same⟩ := ends_run request parent session prepared
  refine ⟨_, _, begun, leftOut, rfl, listed, fare, ?_, fun failure failed => ?_⟩
  · rw [same, Failure.toExcept_eq_ok_iff, listed, ← fare.quiet_iff]
    by_cases none : leftOut = []
    · simp [none, List.filterMap_eq_nil_iff]
    · simp [none]
  · rw [same, Failure.toExcept] at failed
    split at failed
    · cases failed
    case h_2 other joined =>
      cases failed
      exact Failure.message_of_join joined

theorem files_ne_nil_of_prepare {request : BuildRequest} {session : Session}
    (prepared : ((prepare request).run session).1 = .ok ()) : request.files ≠ [] := by
  intro empty
  rw [prepare, empty] at prepared
  cases prepared

/-- A build that is cancelled before it begins, or never, succeeds exactly if all its files do. -/
theorem run_eq_ok_iff (request : BuildRequest) (parent : Nat) (session : Session)
    (prepared : ((prepare request).run session).1 = .ok ())
    (outside : session.Cancelled ∨ session.cancelAfter = none) :
    ((run (some request) parent).run session).1.2 = .ok () ↔
      ∀ result ∈ ((run (some request) parent).run session).1.1.files, result.failure = none := by
  obtain ⟨report, outcome, begun, leftOut, ran, listed, fare, accepted, -⟩ :=
    run_verdict request parent session prepared
  rw [ran]
  dsimp only
  rw [accepted, listed]
  rcases outside with cancelled | never
  · -- all files are left out, and there is one
    have none := fare.cancelled cancelled
    have files := fare.files
    subst none
    cases leftOut with
    | nil => exact absurd files.symm (files_ne_nil_of_prepare prepared)
    | cons result rest =>
      have failed := congrArg FileResult.failure (fare.omitted result List.mem_cons_self)
      constructor
      · rintro ⟨⟨⟩, -⟩
      · intro fine
        rw [fine result List.mem_cons_self] at failed
        cases failed
  · obtain ⟨rfl, genuine⟩ := fare.undisturbed never
    rw [← fare.quiet_iff, List.append_nil, eq_self, true_and]
    exact forall₂_congr fun result listed =>
      FileResult.fault?_eq_none_iff_of_genuine (genuine result listed)

/-- A session that is cancelled after it has been asked once. -/
def lateSession : Session where
  disk := ⟨[([utf8 "a"], .file (utf8 "define f() -> i8 \x7b\nbb0:\n%0: i8 = 7\nreturn %0\n\x7d"))]⟩
  cancelAfter := some 1

/-- A request to build one file. -/
def lateRequest : BuildRequest where
  files := [utf8 "a"]
  directory := []
  kind := .llvm

/-- A build may succeed although a file of it failed: what is cancelled after it has begun, and is
the last, goes unsaid. -/
theorem lateRequest_unsaid :
    ¬ ∀ (request : BuildRequest) (parent : Nat) (session : Session),
      ((prepare request).run session).1 = .ok () →
        (((run (some request) parent).run session).1.2 = .ok () ↔
          ∀ result ∈ ((run (some request) parent).run session).1.1.files,
            result.failure = none) := by
  intro told
  have facts : ((prepare lateRequest).run lateSession).1 = .ok () ∧
      ((run (some lateRequest) 0).run lateSession).1.2 = .ok () ∧
      ((run (some lateRequest) 0).run lateSession).1.1.files.map FileResult.failure =
        [some (.ofKind .canceled)] := by
    decide +kernel
  obtain ⟨prepared, fine, failed⟩ := facts
  have none := (told lateRequest 0 lateSession prepared).mp fine
  have present : some (Failure.ofKind .canceled) ∈
      ((run (some lateRequest) 0).run lateSession).1.1.files.map FileResult.failure := by
    rw [failed]
    exact List.mem_cons_self
  obtain ⟨result, listed, same⟩ := List.mem_map.mp present
  rw [none result listed] at same
  cases same

end Build
end Blockwork
