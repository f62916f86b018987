import Blockwork.Build.Run
import Blockwork.Proofs.Kinds
import Blockwork.Proofs.Reports
import Blockwork.Proofs.Tracing

/-!
# Cancellation

Whether a session is cancelled depends on how often it has been asked, and a session that is
cancelled stays so. Whatever work of a build fails by being cancelled leaves a cancelled session
behind: a cancellation is never made up, and never forgotten by what comes next.
-/

namespace Blockwork

/-- A session that is cancelled when it is asked next. -/
def Session.Cancelled (session : Session) : Prop := session.cancelledAt session.asked = true

/-- A session as it may be later on: in the same environment, and asked at least as often. -/
structure Session.Later (session session' : Session) : Prop where
  /-- The environment is the same. -/
  environment : session'.toEnvironment = session.toEnvironment
  /-- It has been asked at least as often. -/
  asked : session.asked ≤ session'.asked

namespace Session

variable {first second third : Session}

theorem cancelledAt_eq (same : second.toEnvironment = first.toEnvironment) :
    second.cancelledAt = first.cancelledAt := by
  have limit := congrArg Environment.cancelAfter same
  funext asked
  simp only [cancelledAt, limit]

/-- Once a session is cancelled, it is cancelled whenever it is asked again. -/
theorem cancelledAt_mono {session : Session} {asked asked' : Nat} (more : asked ≤ asked')
    (cancelled : session.cancelledAt asked = true) : session.cancelledAt asked' = true := by
  unfold cancelledAt at cancelled ⊢
  cases limit : session.cancelAfter with
  | none =>
    rw [limit] at cancelled
    cases cancelled
  | some limit' =>
    rw [limit] at cancelled
    rw [decide_eq_true_iff] at cancelled ⊢
    exact cancelled.trans more

theorem not_cancelled {session : Session} (never : session.cancelAfter = none) :
    ¬ session.Cancelled := by
  rw [Cancelled, cancelledAt, never]
  exact Bool.false_ne_true

namespace Later

theorem refl (session : Session) : session.Later session := ⟨rfl, Nat.le_refl _⟩

theorem trans (early : first.Later second) (late : second.Later third) : first.Later third :=
  ⟨late.environment.trans early.environment, early.asked.trans late.asked⟩

theorem limit (later : first.Later second) : second.cancelAfter = first.cancelAfter :=
  congrArg Environment.cancelAfter later.environment

theorem cancelled (later : first.Later second) (cancelled : first.Cancelled) :
    second.Cancelled := by
  rw [Cancelled, cancelledAt_eq later.environment]
  exact cancelledAt_mono later.asked cancelled

end Later
end Session

namespace Work

variable {α β : Type} {session : Session}

/-- From a session on, work ends in a later one. -/
def Lasts (work : Work α) (session : Session) : Prop :=
  Ends work session fun _ session' => session.Later session'

namespace Lasts

theorem pure (value : α) : Lasts (Pure.pure value) session := .refl session

theorem bind {work : Work α} {next : α → Work β} (first : Lasts work session)
    (second : ∀ value session', Lasts (next value) session') : Lasts (work >>= next) session :=
  Session.Later.trans first (second _ _)

theorem journaled (step : StateM Trace.Journal α) : Lasts (Work.journaled step) session := by
  rw [Lasts, Ends, run_journaled]
  exact ⟨(Session.deliverAll_keeps _ session).1, Nat.le_refl _⟩

theorem beginSpan (scope : Trace.Scope) (name : String) (parent : Nat) :
    Lasts (Work.beginSpan scope name parent) session :=
  journaled (Trace.Journal.begin scope (utf8 name) parent session.now)

theorem annotate (span : Trace.Span) (key : String) (value : Bytes) :
    Lasts (Work.annotate span key value) session :=
  journaled (Trace.Journal.annotate span (utf8 key) value)

theorem endSpan (span : Trace.Span) (detail : String) :
    Lasts (Work.endSpan span detail) session :=
  journaled (Trace.Journal.finish span (utf8 detail) session.now)

theorem point (scope : Trace.Scope) (name detail : Bytes) (parent : Nat) :
    Lasts (Work.point scope name detail parent) session :=
  journaled (Trace.Journal.point scope name detail parent session.now)

theorem traceError (name : String) (failure : Failure) (parent : Nat) :
    Lasts (Work.traceError name failure parent) session :=
  journaled (Trace.Journal.error (utf8 name) failure parent session.now)

theorem print (text : Bytes) : Lasts (Work.print text) session := ⟨rfl, Nat.le_refl _⟩

theorem printError (text : Bytes) : Lasts (Work.printError text) session := ⟨rfl, Nat.le_refl _⟩

theorem forIn {list : List α} {body : α → PUnit → Work (ForInStep PUnit)}
    (each : ∀ item session, Lasts (body item ⟨⟩) session) (session : Session) :
    Lasts (ForIn.forIn list PUnit.unit body) session := by
  refine forIn_of_bind (motive := fun work => ∀ session, Lasts work session) (fun _ => .pure _)
    (fun item _ rest session => ?_) session
  exact (each item session).bind rest

end Lasts

theorem ends_isCancelled (session : Session) :
    Ends Work.isCancelled session fun answer session' =>
      session.Later session' ∧ (answer = true ↔ session.Cancelled) :=
  ⟨⟨rfl, Nat.le_succ _⟩, Iff.rfl⟩

/-- From a session on, work fails by being cancelled only if the session is cancelled then. -/
def Heeds (work : Work (Except Failure α)) (session : Session) : Prop :=
  Ends work session fun outcome session' => session.Later session' ∧
    Blames outcome fun failure => failure.Genuine ∨ session'.Cancelled

namespace Heeds

/-- Work goes on in a later session, with what is known about it. -/
theorem bind {work : Work α} {next : α → Work (Except Failure β)} {middle : α → Session → Prop}
    (first : Ends work session fun value session' => session.Later session' ∧ middle value session')
    (second : ∀ value session', session.Later session' → middle value session' →
      Heeds (next value) session') : Heeds (work >>= next) session := by
  obtain ⟨later, holds⟩ := first
  obtain ⟨later', blames⟩ := second _ _ later holds
  exact ⟨later.trans later', blames⟩

theorem after {work : Work α} {next : α → Work (Except Failure β)} (first : Lasts work session)
    (second : ∀ value session', session.Later session' → Heeds (next value) session') :
    Heeds (work >>= next) session := by
  obtain ⟨later, blames⟩ := second _ _ first
  exact ⟨Session.Later.trans first later, blames⟩

/-- Something may be done first or not. -/
theorem optional {condition : Prop} [Decidable condition] {work : Work Unit}
    {next : Unit → Work (Except Failure β)} (first : Lasts work session)
    (second : ∀ session', session.Later session' → Heeds (next ()) session') :
    Heeds (if condition then work >>= next else next ()) session := by
  split
  · exact after first fun _ => second
  · exact second session (.refl session)

theorem pure {outcome : Except Failure α}
    (blames : Blames outcome fun failure => failure.Genuine ∨ session.Cancelled) :
    Heeds (Pure.pure outcome) session :=
  ⟨.refl session, blames⟩

theorem ok (value : α) : Heeds (Pure.pure (.ok value)) session := .pure (.ok value)

theorem error {failure : Failure} (accounted : failure.Genuine ∨ session.Cancelled) :
    Heeds (Pure.pure (.error failure : Except Failure α)) session :=
  .pure (.error accounted)

theorem changeDisk (change : Disk → Location → Except FileError Disk) :
    Heeds (Work.changeDisk change) session := by
  have start : Ends get session fun held session' => session.Later session' ∧ held = session' :=
    ⟨.refl session, rfl⟩
  refine bind start fun held session' _ same => ?_
  subst same
  cases change held.disk held.workingDirectory with
  | error error => exact .error (.inl (Failure.genuine_file error))
  | ok disk => exact ⟨⟨rfl, Nat.le_refl _⟩, .ok ()⟩

end Heeds
end Work

theorem Work.Lasts.parse (file source : Bytes) (optimize : Bool) (parent : Nat)
    (session : Session) : Lasts (Work.parse file source optimize parent) session := by
  unfold Work.parse
  refine (beginSpan _ _ _).bind fun span session => ?_
  refine (annotate _ _ _).bind fun span session => ?_
  refine (forIn (fun name session => ?_) session).bind fun _ session => ?_
  · exact (point _ _ _ _).bind fun _ _ => .pure _
  · cases (Reader.read file source optimize).outcome with
    | error error => exact (endSpan _ _).bind fun _ _ => .pure _
    | ok context =>
      refine (annotate _ _ _).bind fun span session => ?_
      exact (endSpan _ _).bind fun _ _ => .pure _

theorem Work.Heeds.parse (file source : Bytes) (optimize : Bool) (parent : Nat)
    (session : Session) : Heeds (Work.parse file source optimize parent) session := by
  refine ⟨Lasts.parse file source optimize parent session, ?_⟩
  rw [(Ensures.parse file source optimize parent session).1]
  cases parsed : Context.parse file source optimize with
  | ok context => exact .ok context
  | error error =>
    exact .error (.inl (Context.blames_parse file source optimize error parsed).toFailure)

namespace Build

open Work

theorem lasts_restoreCached (cache : Cache) (key path : Bytes) (optimize : Bool) (parent : Nat)
    (session : Session) : Lasts (restoreCached cache key path optimize parent) session := by
  refine Lasts.bind (.refl session : Lasts (Cache.get (some cache) key) session)
    fun found session => ?_
  rcases found with error | _ | ⟨_, snapshot⟩
  · exact (Lasts.traceError _ _ _).bind fun _ _ => .pure _
  · exact .pure _
  · dsimp only
    cases { snapshot with optimize }.restore with
    | ok context => exact (Lasts.point _ _ _ _).bind fun _ _ => .pure _
    | error failure => exact (Lasts.traceError _ _ _).bind fun _ _ => .pure _

theorem lasts_keepCached (cache : Cache) (key path : Bytes) (context : Context) (parent : Nat)
    (session : Session) : Lasts (keepCached cache key path context parent) session := by
  refine Lasts.bind (.refl session : Lasts get session) fun held session => ?_
  cases context.take with
  | none => exact .traceError _ _ _
  | some snapshot =>
    have put (entry : CacheEntry) : Lasts (Cache.put (some cache) key entry) session :=
      ⟨rfl, Nat.le_refl _⟩
    refine (put _).bind fun outcome session => ?_
    cases outcome with
    | ok _ => exact .pure _
    | error failure => exact .traceError _ _ _

theorem heeds_load (path : Bytes) (optimize : Bool) (cache : Option Cache) (parent : Nat)
    (session : Session) : Heeds (load path optimize cache parent) session := by
  unfold load
  have read : Ends (Work.readFile path) session fun outcome session' => session.Later session' ∧
      Blames outcome Failure.Genuine := by
    refine ⟨.refl session, ?_⟩
    change Blames ((session.disk.content session.workingDirectory path).mapError Failure.file) _
    cases session.disk.content session.workingDirectory path with
    | error error => exact .error (Failure.genuine_file error)
    | ok content => exact .ok content
  refine Heeds.bind read fun outcome session _ blames => ?_
  cases outcome with
  | error failure => exact .error (.inl (blames failure rfl))
  | ok source =>
    cases cache with
    | none =>
      refine Heeds.bind (Heeds.parse path source optimize parent session)
        fun outcome session _ blames => .pure ?_
      cases outcome with
      | error failure => exact .error (blames failure rfl)
      | ok context => exact .ok _
    | some cache =>
      refine Heeds.after (lasts_restoreCached cache _ path optimize parent session)
        fun found session _ => ?_
      cases found with
      | some context => exact .ok _
      | none =>
        refine Heeds.bind (Heeds.parse path source optimize parent session)
          fun outcome session _ blames => ?_
        cases outcome with
        | error failure => exact .error (blames failure rfl)
        | ok context =>
          exact Heeds.after (lasts_keepCached cache _ path context parent session)
            fun _ _ _ => .ok _

theorem heeds_validate (context : Context) (parent : Nat) (session : Session) :
    Heeds (validate context parent) session := by
  refine Heeds.after (Lasts.beginSpan _ _ _) fun span session _ => ?_
  refine Heeds.after (Lasts.endSpan _ _) fun _ session _ => ?_
  exact .pure (context.blames_validate.imp fun _ => .inl)

end Build

namespace Llvm

open Work

/-- A failure of emission, cancellation apart. -/
def EmitError.Genuine (error : EmitError) : Prop := error.toFailure.Genuine

theorem EmitError.Genuine.within {error : EmitError} (genuine : error.Genuine) (name : Bytes) :
    (error.within name).Genuine := by
  cases error with
  | failed failure => exact genuine
  | unterminated block function => exact genuine
  | dangling => exact genuine

variable (context : Context) (parameters : List Parameter) (progress : Progress)

theorem blames_width (id : TypeId) : Blames (width context id) EmitError.Genuine := by
  unfold width
  cases context.types.lookup? id with
  | some type =>
    exact .ite (.ok _) (.ite (.ok _) (.error (Failure.genuine_fault .invalidType rfl rfl)))
  | none => exact .error (Failure.genuine_fault .invalidType rfl rfl)

theorem blames_operand (id : ValueId) : Blames (progress.operand id) EmitError.Genuine := by
  unfold Progress.operand
  cases progress.operands[id]? with
  | some operand => exact .ok _
  | none => exact .error Failure.genuine_text

theorem blames_append (block : BlockId) (instruction : Instruction) :
    Blames (progress.append block instruction) EmitError.Genuine := by
  unfold Progress.append
  cases progress.blocks[block]? with
  | none => exact .error Failure.genuine_text
  | some emitted => exact .ok _

theorem blames_emitInstruction (id : ValueId) (type : TypeId) (block : BlockId)
    (instruction : Blockwork.Instruction) :
    Blames (emitInstruction context progress id type block instruction) EmitError.Genuine := by
  cases instruction with
  | const literal => exact (blames_width context type).bind fun _ => .ok _
  | call callee operands =>
    rw [emitInstruction]
    cases context.function? callee with
    | none => exact .error Failure.genuine_text
    | some target =>
      refine (blames_width context _).bind fun width => ?_
      refine (Blames.mapM (blames_operand progress)).bind fun operands => ?_
      exact blames_append progress block _
  | binary operator left right =>
    refine .ite (.error (Failure.genuine_fault .notImplemented rfl rfl)) ?_
    refine (blames_operand progress left).bind fun left => ?_
    refine (blames_operand progress right).bind fun right => ?_
    exact blames_append progress block _

theorem blames_emitValue (id : ValueId) (value : Value) :
    Blames (emitValue context parameters progress id value) EmitError.Genuine := by
  unfold emitValue
  cases value.origin with
  | parameter index =>
    dsimp only
    cases parameters[index]? with
    | none => exact .error Failure.genuine_text
    | some parameter => exact .ok _
  | instruction block instruction =>
    exact blames_emitInstruction context progress id _ block instruction

theorem blames_emitValues (values : List (ValueId × Value)) :
    Blames (emitValues context parameters progress values).2 EmitError.Genuine := by
  induction values generalizing progress with
  | nil => exact .ok _
  | cons item rest ih =>
    obtain ⟨id, value⟩ := item
    rw [emitValues]
    cases emitted : emitValue context parameters progress id value with
    | error error =>
      exact .error (blames_emitValue context parameters progress id value error emitted)
    | ok progress => exact ih progress

theorem blames_emitTerminator (function : Blockwork.Function) (id : BlockId)
    (terminator : Option Blockwork.Terminator) :
    Blames (emitTerminator function progress id terminator) EmitError.Genuine := by
  rcases terminator with _ | target | value
  · exact .error Failure.genuine_text
  · rw [emitTerminator]
    cases progress.blocks[target]? with
    | none => exact .error Failure.genuine_text
    | some block => exact .ok _
  · exact (blames_operand progress value).bind fun _ => .ok _

theorem blames_emitBody (function : Blockwork.Function) :
    Blames (emitBody context function parameters).2 EmitError.Genuine := by
  refine Blames.bind (blames_emitValues context parameters _ _) fun progress => ?_
  refine Blames.mapM ?_
  rintro ⟨id, block⟩
  dsimp only
  cases progress.blocks[id]? with
  | none => exact .error Failure.genuine_text
  | some emitted => exact (blames_emitTerminator progress function id _).bind fun _ => .ok _

theorem blames_emitHead (function : Blockwork.Function) :
    Blames (emitHead context function) EmitError.Genuine := by
  refine (Blames.mapM (blames_width context)).bind fun parameters => ?_
  exact (blames_width context _).bind fun _ => .ok _

/-- Emission that fails by being cancelled has been told to stop. -/
theorem blames_emitBodies (cancelled : Nat → Bool) (asked : Nat)
    (functions : List (Blockwork.Function × Function)) :
    asked ≤ (emitBodies context cancelled asked functions).consultations ∧
      Blames (emitBodies context cancelled asked functions).outcome fun error =>
        error.Genuine ∨
          ∃ last < (emitBodies context cancelled asked functions).consultations,
            cancelled last = true := by
  induction functions generalizing asked with
  | nil => exact ⟨Nat.le_refl asked, .ok _⟩
  | cons item rest ih =>
    obtain ⟨function, head⟩ := item
    rw [emitBodies]
    by_cases stopped : cancelled asked = true
    · rw [if_pos stopped]
      exact ⟨Nat.le_succ asked, .error (.inr ⟨asked, Nat.lt_succ_self asked, stopped⟩)⟩
    · rw [if_neg stopped]
      have blames := blames_emitBody context head.parameters function
      generalize emitBody context function head.parameters = emitted at blames
      obtain ⟨notes, body⟩ := emitted
      cases body with
      | error error => exact ⟨Nat.le_succ asked, .error (.inl ((blames error rfl).within _))⟩
      | ok blocks =>
        obtain ⟨more, rest⟩ := ih (asked + 1)
        refine ⟨(Nat.le_succ asked).trans more, ?_⟩
        dsimp only
        cases failed : (emitBodies context cancelled (asked + 1) _).outcome with
        | error error => exact .error (rest error failed)
        | ok emitted => exact .ok _

theorem blames_emit (cancelled : Nat → Bool) :
    Blames (emit context cancelled).outcome fun error => error.Genuine ∨
      ∃ last < (emit context cancelled).consultations, cancelled last = true := by
  unfold emit
  dsimp only
  cases headed : context.listFunctions.mapM (emitHead context) with
  | error error => exact .error (.inl (Blames.mapM (blames_emitHead context) error headed))
  | ok heads => exact (blames_emitBodies context cancelled 0 _).2

theorem lasts_trace (parent : Nat) (note : Note) (session : Session) :
    Lasts (trace parent note) session := by
  cases note with
  | function name signature => exact .point _ _ _ _
  | value id mnemonic => exact .point _ _ _ _

/-- Emission that fails by being cancelled leaves a cancelled session behind. -/
theorem ends_emitTraced (parent : Nat) (session : Session) :
    Ends (emitTraced context parent) session fun outcome session' => session.Later session' ∧
      Blames outcome fun error => error.Genuine ∨ session'.Cancelled := by
  let emission := emit context fun asked => session.cancelledAt (session.asked + asked)
  let asked : Session := { session with asked := session.asked + emission.consultations }
  have traced : Lasts (do
      for note in emission.notes do
        trace parent note : Work Unit) asked := by
    refine Lasts.bind (Lasts.forIn (fun note session => ?_) asked) fun _ _ => .pure _
    exact (lasts_trace parent note session).bind fun _ _ => .pure _
  have later : session.Later asked := ⟨rfl, Nat.le_add_right _ _⟩
  refine ⟨later.trans traced, fun error failed => ?_⟩
  obtain genuine | ⟨last, before, stopped⟩ := blames_emit context _ error failed
  · exact .inl genuine
  · refine .inr (traced.cancelled ?_)
    exact Session.cancelledAt_mono (Nat.add_le_add_left (Nat.le_of_lt before) _) stopped

namespace Backend

variable (backend : Backend)

theorem blames_verdict (name : Bytes) (tool : Tool) :
    Blames (verdict name tool) Failure.Genuine := by
  refine .ite (.ok ()) (.ite (.error ?_) (.error Failure.genuine_text))
  exact Failure.genuine_within.mpr Failure.genuine_text

theorem heeds_run (name : Bytes) (words : List Bytes) (session : Session) :
    Heeds (backend.run name words) session := by
  unfold Backend.run
  dsimp only
  refine Heeds.optional (Lasts.print _) fun session _ => ?_
  refine Heeds.after (.refl session : Lasts get session) fun held session _ => ?_
  split
  · exact .error (.inl (Failure.genuine_within.mpr Failure.genuine_text))
  · refine Heeds.bind (ends_isCancelled session) fun answer session later told => ?_
    split
    · exact .error (.inr (later.cancelled (told.mp ‹_›)))
    split
    · exact .error (.inl (Failure.genuine_within.mpr (Failure.genuine_file _)))
    split
    · exact .error (.inl (Failure.genuine_within.mpr (Failure.genuine_file _)))
    · refine Heeds.after (Lasts.print _) fun _ session _ => .pure ?_
      exact (blames_verdict name _).imp fun _ => .inl

/-- Two failures are as accounted for as each of them. -/
theorem accounted_both {first second : Failure} {separator : Bytes} {cancelled : Prop}
    (left : first.Genuine ∨ cancelled) (right : second.Genuine ∨ cancelled) :
    (Failure.both first separator second).Genuine ∨ cancelled := by
  rcases left with genuine | stopped
  · exact right.imp_left fun genuine' => Failure.genuine_both.mpr ⟨genuine, genuine'⟩
  · exact .inr stopped

theorem heeds_compile (kind : ArtifactKind) (optimize : Bool) (input output : Bytes)
    (session : Session) : Heeds (backend.compile kind optimize input output) session := by
  unfold compile
  refine Heeds.bind (heeds_run backend _ _ session) fun outcome session _ blames => ?_
  cases outcome with
  | ok _ => exact .ok ()
  | error first =>
    have accounted := blames first rfl
    refine Heeds.after (.refl session : Lasts get session) fun held session later => ?_
    replace accounted := accounted.imp_right later.cancelled
    split
    · exact .error accounted
    · refine Heeds.bind (heeds_run backend _ _ session) fun outcome session later blames => ?_
      cases outcome with
      | error second =>
        exact .error (accounted_both (accounted.imp_right later.cancelled) (blames second rfl))
      | ok _ => exact Heeds.optional (Lasts.print _) fun session _ => .ok ()

/-- A failure to write an artifact is accounted for if its cause is. -/
theorem heeds_write (optimize : Bool) (output text : Bytes) (session : Session) :
    Heeds (backend.write optimize output text) session := by
  have wrap (outcome : Except Failure Unit) (session : Session)
      (blames : Blames outcome fun failure => failure.Genuine ∨ session.Cancelled) :
      Heeds (pure (outcome.mapError failure)) session := by
    cases outcome with
    | ok _ => exact .ok ()
    | error cause =>
      have known : (Failure.ofKind .backendFailure).Genuine :=
        Failure.genuine_fault .backendFailure rfl rfl
      exact .error (accounted_both (.inl known) (blames cause rfl))
  unfold write
  dsimp only
  split
  · exact Heeds.bind (Heeds.changeDisk _) fun outcome session _ => wrap outcome session
  · refine Heeds.after (.refl session : Lasts get session) fun held session _ => ?_
    exact Heeds.bind (heeds_compile backend _ _ _ _ session) fun outcome session _ =>
      wrap outcome session

theorem heeds_emitAndWrite (output : Bytes) (verbose : Bool) (parent : Nat) (context : Context)
    (session : Session) : Heeds (backend.emitAndWrite output verbose parent context) session := by
  unfold emitAndWrite
  refine Heeds.bind (ends_emitTraced context parent session) fun outcome session _ blames => ?_
  cases outcome with
  | error error => exact .error (blames error rfl)
  | ok emitted =>
    exact Heeds.optional (Lasts.printError _) fun session _ => heeds_write backend _ _ _ session

theorem heeds_lower (output : Bytes) (verbose : Bool) (parent : Nat) (context : Context)
    (session : Session) : Heeds (backend.lower output verbose parent context) session := by
  refine Heeds.after (Lasts.beginSpan _ _ _) fun span session _ => ?_
  refine Heeds.after (Lasts.annotate _ _ _) fun span session _ => ?_
  refine Heeds.bind (heeds_emitAndWrite backend output verbose _ context session)
    fun outcome session _ blames => ?_
  cases outcome with
  | ok _ => exact Heeds.after (Lasts.endSpan _ _) fun _ _ _ => .ok ()
  | error failure =>
    refine Heeds.after (Lasts.traceError _ _ _) fun _ session later => ?_
    refine Heeds.after (Lasts.endSpan _ _) fun _ session later' => ?_
    exact .error ((blames failure rfl).imp_right fun stopped =>
      later'.cancelled (later.cancelled stopped))

end Backend
end Llvm

namespace Build

open Work

theorem ends_lower (request : BuildRequest) (output : Bytes) (context : Context) (parent : Nat)
    (session : Session) : Ends (lower request output context parent) session
      fun (_, _, outcome) session' => session.Later session' ∧
        Blames outcome fun failure => failure.Genuine ∨ session'.Cancelled := by
  let backend : Backend Session := request.backend.lower output request.verbose parent
  let run := context.lower (some backend.counting) (session, 0)
  have lowered : session.Later run.2.1.1 ∧
      Blames run.2.2 fun failure => failure.Genuine ∨ run.2.1.1.Cancelled := by
    unfold run Context.lower
    cases usable : context.usable with
    | error fault =>
      have genuine : (Failure.fault fault).Genuine :=
        Failure.genuine_fault .contextClosed (context.blames_usable fault usable) rfl
      exact ⟨.refl session, .error (.inl genuine)⟩
    | ok _ =>
      dsimp only
      cases missing : ({ context with phase := .consumed } : Context).validate with
      | error failure =>
        exact ⟨.refl session, .error (.inl (Context.blames_validate _ failure missing))⟩
      | ok _ =>
        exact Llvm.Backend.heeds_lower request.backend output request.verbose parent _ session
  exact lowered

end Build
end Blockwork
