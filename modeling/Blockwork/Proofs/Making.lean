import Blockwork.Proofs.Revisions
import Blockwork.Proofs.Verdicts

/-!
# What a build makes

A build that writes textual modules and is never cancelled is a function of the disk: each file is
read, comes to a text or a failure, and the text is put where its artifact belongs. Whatever is
traced at the same time, this is what is reported, and what is found on the disk afterwards wherever
nothing is traced.
-/

namespace Blockwork

/-- The text of the module of a context that is handed over, if nobody cancels. -/
def Context.moduleText (context : Context) : Except Failure Bytes := do
  let () ← context.usable.mapError .fault
  let consumed := { context with phase := .consumed }
  let () ← consumed.validate
  let module ← (Llvm.emit consumed fun _ => false).outcome.mapError Llvm.EmitError.toFailure
  pure module.text

namespace Build

variable (request : BuildRequest) (workingDirectory : Location)

/-- What comes of loading a file from a disk, without a cache. -/
def loading (disk : Disk) (file : Bytes) : Except Failure Context := do
  let source ← (disk.content workingDirectory file).mapError .file
  (Context.parse file source request.optimize).mapError ParseError.toFailure

/-- The disk after a text was written as the artifact of a file. -/
def writeArtifact (disk : Disk) (file text : Bytes) : Except Failure Disk :=
  (disk.writeFile workingDirectory (request.outputPath file) text).mapError fun error =>
    Llvm.Backend.failure (.file error)

/-- The disk after a context was lowered as that of a file. -/
def lowering (disk : Disk) (file : Bytes) (context : Context) : Except Failure Disk :=
  context.moduleText >>= writeArtifact request workingDirectory disk file

/-- What a file comes to on a disk. -/
def outcome (disk : Disk) (file : Bytes) : Except Failure Disk := do
  let context ← loading request workingDirectory disk file
  let () ← context.validate
  lowering request workingDirectory disk file context

/-- The disk after something was tried that may fail and change nothing. -/
def after (disk : Disk) : Except Failure Disk → Disk
  | .error _ => disk
  | .ok changed => changed

/-- What is reported about a file, and the disk afterwards. -/
def make (disk : Disk) (file : Bytes) : FileResult × Disk :=
  let outcome := outcome request workingDirectory disk file
  let failure := match outcome with
    | .error failure => some failure
    | .ok _ => none
  ({ file, output := request.outputPath file, failure }, after disk outcome)

/-- What is reported about files that are made one after the other, and the disk afterwards. -/
def makeAll (disk : Disk) : List Bytes → List FileResult × Disk
  | [] => ([], disk)
  | file :: rest =>
    let made := make request workingDirectory disk file
    let others := makeAll made.2 rest
    (made.1 :: others.1, others.2)

end Build

/-! ## Tracing on the side -/

/-- A session whose disk is the given one, except for what files hold in which is traced. -/
structure Session.Tracks (around : Environment) (traced : Location → Prop) (disk : Disk)
    (session : Session) : Prop where
  /-- The environment is the given one. -/
  environment : session.toEnvironment = around
  /-- The tracer writes to the given files at most. -/
  sinks : ∀ sink ∈ session.journal.sinks, ∀ path, sink.place = .file path →
    traced (Disk.destination around.workingDirectory path)
  /-- The disk is the given one otherwise. -/
  disk : disk.Revises traced (fun _ => False) session.disk

namespace Session

variable {around : Environment} {traced : Location → Prop} {disk : Disk}
  {session session' : Session}

theorem revises_deliver (sink : Trace.Sink) (request : Trace.Request)
    (known : ∀ path, sink.place = .file path →
      traced (Disk.destination session.workingDirectory path))
    (revises : disk.Revises traced (fun _ => False) session.disk) :
    disk.Revises traced (fun _ => False) (session.deliver sink request).disk := by
  unfold deliver
  split
  · exact revises
  · rename_i path text place
    exact revises.appendFile text (known path place)
  · exact revises
  · exact revises
  · exact revises

theorem revises_deliverAll (requests : List (Trace.Sink × Trace.Request))
    (known : ∀ request ∈ requests, ∀ path, request.1.place = .file path →
      traced (Disk.destination session.workingDirectory path))
    (revises : disk.Revises traced (fun _ => False) session.disk) :
    disk.Revises traced (fun _ => False) (session.deliverAll requests).disk := by
  induction requests generalizing session with
  | nil => exact revises
  | cons request rest ih =>
    have same : (session.deliver request.1 request.2).workingDirectory =
        session.workingDirectory :=
      congrArg Environment.workingDirectory (deliverAll_keeps [request] session).1
    refine ih (fun other member => ?_)
      (revises_deliver request.1 request.2 (known request List.mem_cons_self) revises)
    rw [same]
    exact known other (List.mem_cons_of_mem _ member)

/-- Reports are traced where that is known. -/
theorem Reports.tracks (reports : session.Reports session')
    (tracks : session.Tracks around traced disk) :
    session'.Tracks around traced disk := by
  obtain ⟨requests, inside, same⟩ := reports.delivered
  obtain ⟨kept, -, -⟩ := deliverAll_keeps requests session
  have standing : disk.Revises traced (fun _ => False) (session.deliverAll requests).disk := by
    refine revises_deliverAll requests (fun request member path place => ?_) tracks.disk
    rw [tracks.environment]
    exact tracks.sinks request.1 (inside (List.mem_map_of_mem member)) path place
  constructor
  case environment =>
    rw [same]
    exact kept.trans tracks.environment
  case sinks => exact fun sink member => tracks.sinks sink (reports.sinks member)
  case disk =>
    rw [same]
    exact standing

theorem Tracks.start (session : Session)
    (known : ∀ sink ∈ session.journal.sinks, ∀ path, sink.place = .file path →
      traced (Disk.destination session.workingDirectory path)) :
    session.Tracks session.toEnvironment traced session.disk :=
  ⟨rfl, known, .refl _ _ _⟩

end Session

namespace Work

variable {α β : Type} {around : Environment} {traced : Location → Prop} {disk : Disk}

/-- Work that does nothing but trace, with a result as described. -/
def Aside (around : Environment) (traced : Location → Prop) (disk : Disk) (work : Work α)
    (result : α → Prop) : Prop :=
  ∀ session : Session, session.Tracks around traced disk →
    Ends work session fun value session' => result value ∧ session'.Tracks around traced disk

/-- Work that fails or changes the disk, as an outcome tells. -/
def Changes (around : Environment) (traced : Location → Prop) (disk : Disk)
    (work : Work (Except Failure Unit)) (outcome : Except Failure Disk) : Prop :=
  ∀ session : Session, session.Tracks around traced disk →
    Ends work session fun value session' => value = outcome.map (fun _ => ()) ∧
      session'.Tracks around traced (Build.after disk outcome)

theorem OnlyReports.aside {work : Work α} (reports : OnlyReports work) :
    Aside around traced disk work fun _ => True :=
  fun session tracks => ⟨trivial, (reports session).1.tracks tracks⟩

namespace Aside

variable {result : α → Prop} {result' : β → Prop}

theorem pure {value : α} (holds : result value) :
    Aside around traced disk (Pure.pure value) result :=
  fun _ tracks => ⟨holds, tracks⟩

theorem bind {work : Work α} {next : α → Work β} (first : Aside around traced disk work result)
    (second : ∀ value, result value → Aside around traced disk (next value) result') :
    Aside around traced disk (work >>= next) result' := by
  intro session tracks
  obtain ⟨holds, tracks'⟩ := first session tracks
  exact second _ holds _ tracks'

theorem before {work : Work α} {next : α → Work (Except Failure Unit)}
    {outcome : Except Failure Disk} (first : Aside around traced disk work result)
    (second : ∀ value, result value → Changes around traced disk (next value) outcome) :
    Changes around traced disk (work >>= next) outcome := by
  intro session tracks
  obtain ⟨holds, tracks'⟩ := first session tracks
  exact second _ holds _ tracks'

end Aside

theorem Changes.bind {work : Work (Except Failure Unit)} {outcome outcome' : Except Failure Disk}
    {next : Except Failure Unit → Work (Except Failure Unit)}
    (first : Changes around traced disk work outcome)
    (second : Aside around traced (Build.after disk outcome) (next (outcome.map fun _ => ()))
      fun value => value = outcome'.map (fun _ => ()))
    (same : Build.after disk outcome' = Build.after disk outcome) :
    Changes around traced disk (work >>= next) outcome' := by
  intro session tracks
  obtain ⟨holds, tracks'⟩ := first session tracks
  have ends := second _ tracks'
  rw [← holds, ← same] at ends
  exact ends

theorem OnlyReports.parse (file source : Bytes) (optimize : Bool) (parent : Nat) :
    OnlyReports (Work.parse file source optimize parent) := by
  refine (beginSpan _ _ _).bind fun span => (annotate _ _ _).bind fun span => ?_
  refine (forIn fun name => ?_).bind fun _ => ?_
  · exact (point _ _ _ _).bind fun _ => .pure _
  · cases (Reader.read file source optimize).outcome with
    | error error => exact (endSpan _ _).bind fun _ => .pure _
    | ok context => exact (annotate _ _ _).bind fun _ => (endSpan _ _).bind fun _ => .pure _

namespace Aside

theorem parse (file source : Bytes) (optimize : Bool) (parent : Nat) :
    Aside around traced disk (Work.parse file source optimize parent) fun outcome =>
      outcome = (Context.parse file source optimize).mapError ParseError.toFailure :=
  fun session tracks => ⟨(Ensures.parse file source optimize parent session).1,
    ((OnlyReports.parse file source optimize parent) session).1.tracks tracks⟩

theorem readFile {path : Bytes}
    (apart : ¬ traced (Disk.destination around.workingDirectory path)) :
    Aside around traced disk (Work.readFile path) fun outcome =>
      outcome = (disk.content around.workingDirectory path).mapError Failure.file := by
  intro session tracks
  refine ⟨?_, tracks⟩
  have same := Disk.content_congr tracks.disk.locate_eq (tracks.disk.get?_eq apart id)
  change (session.disk.content session.workingDirectory path).mapError Failure.file = _
  rw [tracks.environment, same]

end Aside

theorem changes_writeFile {path : Bytes} (text : Bytes)
    (apart : ¬ traced (Disk.destination around.workingDirectory path)) :
    Changes around traced disk (Work.writeFile path text)
      ((disk.writeFile around.workingDirectory path text).mapError Failure.file) := by
  rintro session ⟨rfl, sinks, revises⟩
  have same : session.disk.admits session.workingDirectory path =
      disk.admits session.workingDirectory path :=
    Disk.admits_congr revises.locate_eq (revises.get?_eq apart id)
  rw [Ends, Work.writeFile, run_changeDisk, Disk.writeFile_eq, Disk.writeFile_eq, same]
  cases allowed : disk.admits session.workingDirectory path with
  | error error => exact ⟨rfl, rfl, sinks, revises⟩
  | ok _ =>
    obtain ⟨below, -⟩ := Disk.of_admits_eq_ok allowed
    exact ⟨rfl, rfl, sinks, revises.put_both below _⟩

end Work

namespace Llvm

open Work

variable {around : Environment} {traced : Location → Prop} {disk : Disk}
  (never : around.cancelAfter = none)
include never

theorem aside_emitTraced (context : Context) (parent : Nat) :
    Aside around traced disk (emitTraced context parent) fun outcome =>
      outcome = (emit context fun _ => false).outcome := by
  intro session tracks
  have quiet : (fun asked => session.cancelledAt (session.asked + asked)) = fun _ => false := by
    funext asked
    rw [Session.cancelledAt, tracks.environment, never]
  let emission := emit context fun asked => session.cancelledAt (session.asked + asked)
  have traces : OnlyReports (do
      modify fun session : Session => { session with asked := session.asked + emission.consultations }
      for note in emission.notes do
        trace parent note) := by
    refine (OnlyReports.consult _).bind fun _ => ?_
    refine (OnlyReports.forIn fun note => ?_).bind fun _ => .pure _
    exact (OnlyReports.trace _ note).bind fun _ => .pure _
  refine ⟨?_, (traces session).1.tracks tracks⟩
  change emission.outcome = _
  rw [← quiet]

namespace Backend

variable {backend : Backend} (textual : backend.kind = some .llvm)
include textual

omit never in
theorem changes_write {output : Bytes} (optimize : Bool) (text : Bytes)
    (apart : ¬ traced (Disk.destination around.workingDirectory output)) :
    Changes around traced disk (backend.write optimize output text)
      ((disk.writeFile around.workingDirectory output text).mapError fun error =>
        failure (.file error)) := by
  have kind : backend.kindFor output = .llvm := by rw [kindFor, textual]; rfl
  unfold write
  rw [kind]
  refine (changes_writeFile text apart).bind (.pure ?_) ?_
  · cases disk.writeFile around.workingDirectory output text <;> rfl
  · cases disk.writeFile around.workingDirectory output text <;> rfl

theorem changes_emitAndWrite {output : Bytes} (verbose : Bool) (parent : Nat) (context : Context)
    (apart : ¬ traced (Disk.destination around.workingDirectory output)) :
    Changes around traced disk (backend.emitAndWrite output verbose parent context) (do
      let module ← (emit context fun _ => false).outcome.mapError EmitError.toFailure
      (disk.writeFile around.workingDirectory output module.text).mapError fun error =>
        failure (.file error)) := by
  refine (aside_emitTraced never context parent).before ?_
  rintro _ rfl
  cases (emit context fun _ => false).outcome with
  | error error => exact fun _ tracks => ⟨rfl, tracks⟩
  | ok emitted =>
    have prints : Aside around traced disk (Work.printError emitted.text) fun _ => True :=
      fun _ tracks => ⟨trivial, tracks.environment, tracks.sinks, tracks.disk⟩
    have writes : Changes around traced disk (backend.write context.optimize output emitted.text)
        ((disk.writeFile around.workingDirectory output emitted.text).mapError fun error =>
          failure (.file error)) := changes_write textual context.optimize emitted.text apart
    cases verbose with
    | false => exact writes
    | true => exact prints.before fun _ _ => writes

theorem changes_lower {output : Bytes} (verbose : Bool) (parent : Nat) (context : Context)
    (apart : ¬ traced (Disk.destination around.workingDirectory output)) :
    Changes around traced disk (backend.lower output verbose parent context) (do
      let module ← (emit context fun _ => false).outcome.mapError EmitError.toFailure
      (disk.writeFile around.workingDirectory output module.text).mapError fun error =>
        failure (.file error)) := by
  refine (OnlyReports.beginSpan _ _ _).aside.before fun span _ => ?_
  refine (OnlyReports.annotate _ _ _).aside.before fun span _ => ?_
  refine (changes_emitAndWrite never textual verbose _ context apart).bind ?_ rfl
  generalize (do
    let module ← (emit context fun _ => false).outcome.mapError EmitError.toFailure
    (disk.writeFile around.workingDirectory output module.text).mapError fun error =>
      failure (.file error)) = outcome
  cases outcome with
  | error failure =>
    refine (OnlyReports.traceError _ _ _).aside.bind fun _ _ => ?_
    exact (OnlyReports.endSpan _ _).aside.bind fun _ _ => .pure rfl
  | ok _ => exact (OnlyReports.endSpan _ _).aside.bind fun _ _ => .pure rfl

end Backend
end Llvm

/-! ## The build as a function of the disk -/

namespace Build

open Work

variable {request : BuildRequest} {around : Environment} {traced : Location → Prop} {disk : Disk}
  {session : Session} {file : Bytes}

theorem aside_load (parent : Nat) (uncached : request.cache = none)
    (apart : ¬ traced (Disk.destination around.workingDirectory file)) :
    Aside around traced disk (load file request.optimize request.cache parent) fun loaded =>
      loaded = (loading request around.workingDirectory disk file).map (⟨·, false⟩) := by
  rw [uncached]
  refine (Aside.readFile apart).bind ?_
  rintro _ rfl
  rw [loading]
  cases disk.content around.workingDirectory file with
  | error error => exact .pure rfl
  | ok source =>
    refine (Aside.parse file source request.optimize parent).bind ?_
    rintro _ rfl
    exact .pure rfl

theorem aside_validate (context : Context) (parent : Nat) :
    Aside around traced disk (validate context parent) fun checked => checked = context.validate :=
  (OnlyReports.beginSpan _ _ _).aside.bind fun _ _ =>
    (OnlyReports.endSpan _ _).aside.bind fun _ _ => .pure rfl

variable (textual : request.kind = .llvm) (never : around.cancelAfter = none)
  (apart : ¬ traced (Disk.destination around.workingDirectory (request.outputPath file)))
include textual never apart

/-- Lowering a context writes its text as the artifact, if it has one. -/
theorem ends_lower_of_tracks (context : Context) (parent : Nat)
    (tracks : session.Tracks around traced disk) :
    Ends (lower request (request.outputPath file) context parent) session
      fun (_, _, lowered) session' =>
        lowered = (lowering request around.workingDirectory disk file context).map (fun _ => ()) ∧
        session'.Tracks around traced
          (after disk (lowering request around.workingDirectory disk file context)) := by
  have backend : request.backend.kind = some .llvm := congrArg some textual
  let lowers : Backend Session :=
    request.backend.lower (request.outputPath file) request.verbose parent
  let run := context.lower (some lowers.counting) (session, 0)
  have lowered : run.2.2 =
        (lowering request around.workingDirectory disk file context).map (fun _ => ()) ∧
      run.2.1.1.Tracks around traced
        (after disk (lowering request around.workingDirectory disk file context)) := by
    unfold run Context.lower lowering Context.moduleText
    cases context.usable with
    | error fault => exact ⟨rfl, tracks⟩
    | ok _ =>
      dsimp only
      cases complete : ({ context with phase := .consumed } : Context).validate with
      | error failure => exact ⟨rfl, tracks⟩
      | ok _ =>
        let emitted := (Llvm.emit { context with phase := .consumed } fun _ => false).outcome
        have written := Llvm.Backend.changes_lower never backend request.verbose parent
          { context with phase := .consumed } apart session tracks
        have same : (do
            let module ← emitted.mapError Llvm.EmitError.toFailure
            (disk.writeFile around.workingDirectory (request.outputPath file) module.text).mapError
              fun error => Llvm.Backend.failure (.file error)) =
            ((do
              let module ← emitted.mapError Llvm.EmitError.toFailure
              pure module.text) >>= writeArtifact request around.workingDirectory disk file) := by
          cases emitted <;> rfl
        rw [same] at written
        exact written
  exact lowered

variable {report : Report}

theorem goes_lowerHeld_of_tracks (place : Nat) (context : Context) (parent : Nat)
    (tracks : session.Tracks around traced disk) :
    Goes (lowerHeld request (request.outputPath file) place context parent) report session
      fun lowered report' session' => report'.files = report.files ∧
        lowered = (lowering request around.workingDirectory disk file context).map (fun _ => ()) ∧
        session'.Tracks around traced
          (after disk (lowering request around.workingDirectory disk file context)) := by
  refine (Goes.work (ends_lower_of_tracks textual never apart context parent tracks)).bind ?_
  rintro ⟨left, given, lowered⟩ _ session' ⟨rfl, same, tracks'⟩
  refine (goes_alter report session' _ _).bind ?_
  rintro _ first _ ⟨kept, rfl⟩
  refine (goes_alter first session' _ _).bind ?_
  rintro _ second _ ⟨kept', rfl⟩
  exact ⟨kept'.trans kept, same, tracks'⟩

variable (uncached : request.cache = none)
  (apart' : ¬ traced (Disk.destination around.workingDirectory file))
include uncached apart'

/-- The stages of a file make what the file comes to. -/
theorem goes_buildStages_of_tracks (parent : Nat) (tracks : session.Tracks around traced disk) :
    Goes (buildStages request file parent) report session fun result report' session' =>
      report'.files = report.files ∧
        result = (make request around.workingDirectory disk file).1 ∧
        session'.Tracks around traced (make request around.workingDirectory disk file).2 := by
  have aside {α : Type} {work : Work (Except Failure α)} {expected : Except Failure α}
      (aside : Aside around traced disk work fun outcome => outcome = expected)
      {session : Session} (tracks : session.Tracks around traced disk) (report : Report) :
      Goes (liftM work) report session fun outcome report' session' =>
        report'.files = report.files ∧ outcome = expected ∧
          session'.Tracks around traced disk := by
    refine (Goes.work (aside session tracks)).imp ?_
    rintro _ _ _ ⟨rfl, same, tracks'⟩
    exact ⟨rfl, same, tracks'⟩
  refine (goes_inStage_of file report session _ _
    (aside (aside_load parent uncached apart') tracks)).bind ?_
  rintro _ first session₁ ⟨kept₁, rfl, tracks₁⟩
  rw [make, outcome]
  cases loading request around.workingDirectory disk file with
  | error failure => exact ⟨kept₁, rfl, tracks₁⟩
  | ok context =>
    rw [ok_bind]
    refine (goes_hold first session₁ context).bind ?_
    rintro place held _ ⟨kept₂, rfl⟩
    replace kept₂ := kept₂.trans kept₁
    refine (goes_inStage_of file held session₁ _ _
      (aside (aside_validate context parent) tracks₁)).bind ?_
    rintro _ second session₂ ⟨kept₃, rfl, tracks₂⟩
    replace kept₃ := kept₃.trans kept₂
    cases context.validate with
    | error failure =>
      refine (goes_alter second session₂ _ _).bind ?_
      rintro _ third _ ⟨kept₄, rfl⟩
      exact ⟨kept₄.trans kept₃, rfl, tracks₂⟩
    | ok _ =>
      refine (goes_inStage_of file second session₂ _ _ fun report =>
        goes_lowerHeld_of_tracks textual never apart place context parent tracks₂).bind ?_
      rintro _ third session₃ ⟨kept₄, rfl, tracks₃⟩
      replace kept₄ := kept₄.trans kept₃
      rw [ok_bind]
      generalize lowering request around.workingDirectory disk file context = came at tracks₃ ⊢
      cases came with
      | error failure => exact ⟨kept₄, rfl, tracks₃⟩
      | ok changed => exact ⟨kept₄, rfl, tracks₃⟩

theorem goes_buildFile_of_tracks (parent : Nat) (tracks : session.Tracks around traced disk) :
    Goes (buildFile request file parent) report session fun result report' session' =>
      report'.files = report.files ∧
        result = (make request around.workingDirectory disk file).1 ∧
        session'.Tracks around traced (make request around.workingDirectory disk file).2 := by
  refine (Goes.work ((OnlyReports.beginSpan _ _ _).aside session tracks)).bind ?_
  rintro span _ session₁ ⟨rfl, -, tracks₁⟩
  refine (Goes.work ((OnlyReports.annotate _ _ _).aside session₁ tracks₁)).bind ?_
  rintro span _ session₂ ⟨rfl, -, tracks₂⟩
  refine (goes_buildStages_of_tracks textual never apart uncached apart' _ tracks₂).bind ?_
  rintro _ first session₃ ⟨kept, rfl, tracks₃⟩
  refine (Goes.work ((OnlyReports.endSpan _ _).aside session₃ tracks₃)).bind ?_
  rintro _ _ session₄ ⟨rfl, -, tracks₄⟩
  exact ⟨kept, rfl, tracks₄⟩

omit apart apart' in
theorem goes_buildFiles_of_tracks (parent : Nat) {files : List Bytes}
    (apart : ∀ file ∈ files, ¬ traced (Disk.destination around.workingDirectory file) ∧
      ¬ traced (Disk.destination around.workingDirectory (request.outputPath file)))
    (tracks : session.Tracks around traced disk) :
    Goes (buildFiles request parent false files) report session fun _ report' session' =>
      report'.files = report.files ++ (makeAll request around.workingDirectory disk files).1 ∧
        session'.Tracks around traced (makeAll request around.workingDirectory disk files).2 := by
  induction files generalizing disk report session with
  | nil => exact ⟨(List.append_nil _).symm, tracks⟩
  | cons file rest ih =>
    have asks : Ends Work.isCancelled session fun answer session' =>
        answer = false ∧ session'.Tracks around traced disk := by
      refine ⟨?_, tracks.environment, tracks.sinks, tracks.disk⟩
      change session.cancelledAt session.asked = false
      rw [Session.cancelledAt, tracks.environment, never]
    refine (Goes.work asks).bind ?_
    rintro _ _ session₁ ⟨rfl, rfl, tracks₁⟩
    obtain ⟨source, output⟩ := apart file List.mem_cons_self
    refine (goes_buildFile_of_tracks textual never output uncached source parent tracks₁).bind ?_
    rintro _ first session₂ ⟨kept, rfl, tracks₂⟩
    refine (goes_add first session₂ _).bind ?_
    rintro _ second _ ⟨added, rfl⟩
    refine (ih (fun other member => apart other (List.mem_cons_of_mem _ member)) tracks₂).imp ?_
    rintro _ report' session' ⟨listed, tracks₃⟩
    refine ⟨?_, tracks₃⟩
    rw [listed, added, kept, List.append_assoc]
    rfl

omit apart apart' textual never uncached in
/-- Preparing a build whose files have different artifacts makes the directory for these. -/
theorem run_prepare (filled : request.files ≠ [])
    (distinct : request.checkOutputs [] request.files = .ok ()) :
    (prepare request).run session =
      if request.directory = [] then (.ok (), session)
      else
        match session.disk.makeDirectories session.workingDirectory request.directory with
        | .error error =>
          (.error (.within (utf8 "failed to create output dir") (.file error)), session)
        | .ok disk => (.ok (), { session with disk }) := by
  have some : request.files.isEmpty = false := by simpa using filled
  unfold prepare
  rw [some, if_neg Bool.false_ne_true, distinct]
  dsimp only
  by_cases empty : request.directory = []
  · rw [if_pos empty, if_pos empty]
    rfl
  · rw [if_neg empty, if_neg empty, StateT.run_bind, Work.makeDirectories, run_changeDisk]
    cases session.disk.makeDirectories session.workingDirectory request.directory <;> rfl

omit apart apart' in
/-- A build reports what is made of its files, and leaves the disk that this leaves, except for what
is traced. -/
theorem ends_run_of_tracks (parent : Nat) {begun : Session}
    (prepared : (prepare request).run session = (.ok (), begun))
    (apart : ∀ file ∈ request.files, ¬ traced (Disk.destination around.workingDirectory file) ∧
      ¬ traced (Disk.destination around.workingDirectory (request.outputPath file)))
    (tracks : begun.Tracks around traced disk) :
    Ends (run (some request) parent) session fun (report, _) session' =>
      report.files = (makeAll request around.workingDirectory disk request.files).1 ∧
        session'.Tracks around traced
          (makeAll request around.workingDirectory disk request.files).2 := by
  have start : Ends (prepare request) session fun outcome session' =>
      outcome = .ok () ∧ session' = begun := by
    rw [Ends, prepared]
    exact ⟨rfl, rfl⟩
  refine start.bind ?_
  rintro _ _ ⟨rfl, rfl⟩
  refine Ends.bind ((OnlyReports.beginSpan _ _ _).aside _ tracks) ?_
  rintro span session₁ ⟨-, tracks₁⟩
  refine Ends.bind (goes_buildFiles_of_tracks textual never uncached _ apart tracks₁) ?_
  rintro ⟨left, report⟩ session₂ ⟨listed, tracks₂⟩
  refine Ends.bind ((OnlyReports.endSpan _ _).aside _ tracks₂) ?_
  rintro _ session₃ ⟨-, tracks₃⟩
  exact ⟨listed, tracks₃⟩

end Build
end Blockwork
