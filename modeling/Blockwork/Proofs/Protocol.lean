import Blockwork.Proofs.Decoding
import Blockwork.Proofs.Handover
import Blockwork.Proofs.Loading
import Blockwork.Proofs.Verdicts

/-!
# The protocol of a build

What a build reports while it is under way. First all files are queued; then each has its turn, and
goes through the stages as far as it comes. Its result tells how far that was, just as its last event
does. A stage is timed exactly if a file has entered it. Every context that was obtained is destroyed
in the end, and was lowered once before if it was complete.
-/

namespace Blockwork
namespace Build

open Work

/-! ## How the turn of a file ends -/

/-- How the turn of a file ends. -/
inductive Ending where
  /-- It does not begin, because the build was cancelled. -/
  | leftOut
  /-- The file cannot be loaded. -/
  | unread (failure : Failure)
  /-- The context is not complete. It may be from the cache. -/
  | incomplete (hit : Bool) (failure : Failure)
  /-- The context cannot be lowered. It may be from the cache. -/
  | unlowered (hit : Bool) (failure : Failure)
  /-- The context is lowered. It may be from the cache. -/
  | lowered (hit : Bool)

/-- The events of a stage that a file gets through. -/
def passed (file : Bytes) (stage : Stage) (status : Status) : List ProgressEvent :=
  [⟨file, stage, .working, none⟩, ⟨file, stage, status, none⟩]

/-- The events of a stage in which a file fails. -/
def failed (file : Bytes) (stage : Stage) (failure : Failure) : List ProgressEvent :=
  [⟨file, stage, .working, none⟩, ⟨file, stage, .error, some failure⟩]

/-- The state in which a file is loaded. -/
def loadedAs (hit : Bool) : Status := if hit then .cached else .done

namespace Ending

/-- The events of the turn. -/
def events (file : Bytes) : Ending → List ProgressEvent
  | leftOut => [⟨file, .parse, .error, some (.ofKind .canceled)⟩]
  | unread failure => failed file .parse failure
  | incomplete hit failure => passed file .parse (loadedAs hit) ++ failed file .validate failure
  | unlowered hit failure =>
    passed file .parse (loadedAs hit) ++ passed file .validate .done ++ failed file .lower failure
  | lowered hit =>
    passed file .parse (loadedAs hit) ++ passed file .validate .done ++ passed file .lower .done

/-- Why the turn ends before the context is lowered. -/
def failure? : Ending → Option Failure
  | leftOut => some (.ofKind .canceled)
  | unread failure | incomplete _ failure | unlowered _ failure => some failure
  | lowered _ => none

/-- Whether the context is from the cache. -/
def hit : Ending → Bool
  | leftOut | unread _ => false
  | incomplete hit _ | unlowered hit _ | lowered hit => hit

/-- The result for the file. -/
def result (request : BuildRequest) (file : Bytes) (ending : Ending) : FileResult where
  file := file
  output := match ending with
    | leftOut => []
    | _ => request.outputPath file
  hit := ending.hit
  failure := ending.failure?

/-- How often the context was lowered, if one was obtained. -/
def lowerings? : Ending → Option Nat
  | leftOut | unread _ => none
  | incomplete _ _ => some 0
  | unlowered _ _ | lowered _ => some 1

end Ending

/-! ## One stage -/

/-- What a part of the work on a file adds to a report: events, and time for the stages that begin
with them. The results of files stay as they are, and what is held changes as given. -/
structure Adds (report : Report) (new : List ProgressEvent) (held : List Holding → List Holding)
    (report' : Report) : Prop where
  /-- The results are the same. -/
  files : report'.files = report.files
  /-- The events are added. -/
  events : report'.events = report.events ++ new
  /-- The stages that begin are timed. -/
  timings : ∀ stage, report'.timings.has stage = true ↔ report.timings.has stage = true ∨
    ∃ event ∈ new, event.stage = stage ∧ event.status = .working
  /-- What is held changes. -/
  holdings : report'.holdings = held report.holdings

namespace Adds

variable {report report' report'' : Report} {new new' : List ProgressEvent}
  {held held' : List Holding → List Holding}

theorem of_holdings (report : Report) (held : List Holding → List Holding) :
    Adds report [] held { report with holdings := held report.holdings } where
  files := rfl
  events := (List.append_nil _).symm
  timings stage := by simp
  holdings := rfl

theorem of_events (report : Report) (quiet : ∀ event ∈ new, event.status ≠ .working) :
    Adds report new id { report with events := report.events ++ new } where
  files := rfl
  events := rfl
  timings stage := by
    have none : ¬ ∃ event ∈ new, event.stage = stage ∧ event.status = .working :=
      fun ⟨event, member, _, working⟩ => quiet event member working
    rw [or_iff_left none]
  holdings := rfl

theorem trans (early : Adds report new held report') (late : Adds report' new' held' report'') :
    Adds report (new ++ new') (held' ∘ held) report'' where
  files := late.files.trans early.files
  events := by rw [late.events, early.events, List.append_assoc]
  timings stage := by
    rw [late.timings, early.timings, or_assoc]
    simp only [List.mem_append, or_and_right, exists_or]
  holdings := by rw [late.holdings, early.holdings, Function.comp_apply]

end Adds

theorem Timings.has_add (timings : Timings) (stage other : Stage) (duration : Duration) :
    (timings.add stage duration).has other = true ↔ timings.has other = true ∨ other = stage := by
  obtain ⟨stages⟩ := timings
  rw [add, has, has]
  induction stages with
  | nil =>
    by_cases same : other = stage
    · simp [addTo, same]
    · simp [addTo, same, List.lookup_cons, beq_eq_false_iff_ne.mpr same]
  | cons first rest ih =>
    obtain ⟨known, old⟩ := first
    rw [addTo]
    by_cases here : known = stage
    · subst here
      rw [if_pos rfl, List.lookup_cons, List.lookup_cons]
      by_cases same : other = known
      · simp [same]
      · simp [same, beq_eq_false_iff_ne.mpr same]
    · rw [if_neg here, List.lookup_cons, List.lookup_cons]
      by_cases same : other = known
      · simp [same]
      · rw [beq_eq_false_iff_ne.mpr same]
        exact ih

section Stages

variable (request : BuildRequest) (file : Bytes) (parent : Nat) (report : Report)
  (session : Session)

theorem adds_alter (place : Nat) (change : Holding → Holding) :
    Goes (alter place change) report session fun _ report' _ =>
      Adds report [] (·.modify place change) report' :=
  .of_holdings report _

theorem adds_hold (context : Context) :
    Goes (hold context) report session fun place report' _ =>
      place = report.holdings.length ∧ Adds report [] (· ++ [⟨context, 0⟩]) report' :=
  ⟨rfl, .of_holdings report _⟩

variable {session} in
theorem adds_work {α : Type} {work : Work α} {known : α → Prop}
    (ends : Ends work session fun value _ => known value) :
    Goes (liftM work) report session fun value report' _ =>
      known value ∧ Adds report [] id report' :=
  (Goes.work ends).imp fun _ _ _ ⟨same, known⟩ => ⟨known, same ▸ .of_holdings report id⟩

/-- Work of which nothing needs to be known. -/
theorem adds_any {α : Type} (work : Work α) :
    Goes (liftM work) report session fun _ report' _ => Adds report [] id report' := by
  have ends : Ends work session fun _ _ => True := trivial
  exact (adds_work report ends).imp fun _ _ _ => And.right

/-- The events of a stage, from its outcome. -/
def attempted {α : Type} (file : Bytes) (stage : Stage) (finished : α → Status) :
    Except Failure α → List ProgressEvent
  | .ok value => passed file stage (finished value)
  | .error failure => failed file stage failure

theorem exists_mem_attempted_iff {α : Type} {stage : Stage} {finished : α → Status}
    (outcome : Except Failure α) (other : Stage) :
    (∃ event ∈ attempted file stage finished outcome,
      event.stage = other ∧ event.status = .working) ↔ other = stage := by
  cases outcome with
  | ok value => simp +contextual [attempted, passed, eq_comm]
  | error failure => simp [attempted, failed, eq_comm]

/-- A stage begins, does its work, is timed, and ends as the outcome says. -/
theorem adds_inStage {α : Type} (stage : Stage) (finished : α → Status)
    {work : Course (Except Failure α)}
    {changes : Except Failure α → (List Holding → List Holding) → Prop}
    (adds : ∀ report session, Goes work report session fun outcome report' _ =>
      ∃ held, changes outcome held ∧ Adds report [] held report') :
    Goes (inStage file stage finished work) report session fun outcome report' _ =>
      ∃ held, changes outcome held ∧
        Adds report (attempted file stage finished outcome) held report' := by
  have asks (report : Report) (session : Session) : Goes (getThe Session) report session
      fun _ report' session' => report = report' ∧ session = session' := ⟨rfl, rfl⟩
  have start : Goes (announce file stage .working none) report session fun _ report' session' =>
      { report with events := report.events ++ [⟨file, stage, .working, none⟩] } = report' ∧
        session = session' := ⟨rfl, rfl⟩
  refine start.bind ?_
  rintro _ _ _ ⟨rfl, rfl⟩
  refine (asks _ _).bind ?_
  rintro started _ _ ⟨rfl, rfl⟩
  refine (adds _ _).bind ?_
  rintro outcome second session' ⟨held, kind, ⟨files, events, timings, holdings⟩⟩
  refine (asks _ _).bind ?_
  rintro ended _ _ ⟨rfl, rfl⟩
  have timed (other : Stage) (duration : Duration) :
      (second.timings.add stage duration).has other = true ↔ report.timings.has other = true ∨
        ∃ event ∈ attempted file stage finished outcome,
          event.stage = other ∧ event.status = .working := by
    rw [Timings.has_add, timings, exists_mem_attempted_iff file]
    simp
  rw [List.append_nil] at events
  cases outcome with
  | ok value =>
    refine ⟨held, kind, files, ?_, fun other => timed other _, holdings⟩
    exact (congrArg (· ++ [_]) events).trans (List.append_assoc _ _ _)
  | error failure =>
    refine ⟨held, kind, files, ?_, fun other => timed other _, holdings⟩
    exact (congrArg (· ++ [_]) events).trans (List.append_assoc _ _ _)

/-- What is held in the last place is destroyed, after it was lowered some more times. -/
def Settles (place more : Nat) (held : List Holding → List Holding) : Prop :=
  ∀ before context lowerings, before.length = place → ∃ left : Context, left.phase = .destroyed ∧
    held (before ++ [⟨context, lowerings⟩]) = before ++ [⟨left, lowerings + more⟩]

theorem modify_concat (before : List Holding) (last : Holding) (change : Holding → Holding) :
    (before ++ [last]).modify before.length change = before ++ [change last] := by
  induction before with
  | nil => rfl
  | cons first rest ih => exact congrArg (first :: ·) ih

theorem settles_destroy (place : Nat) :
    Settles place 0 (·.modify place fun holding =>
      { holding with context := holding.context.destroy }) := by
  rintro before context lowerings rfl
  exact ⟨context.destroy, rfl, modify_concat ..⟩

/-- The backend is given a complete context once. -/
theorem ends_lower_of_complete {context : Context} (building : context.phase = .building)
    (complete : context.validate = .ok ()) (output : Bytes) :
    Ends (lower request output context parent) session fun (_, given, _) _ => given = 1 := by
  let backend : Backend Session := request.backend.lower output request.verbose parent
  have once : (context.lower (some backend.counting) (session, 0)).2.1.2 = 1 := by
    rw [Context.lower_of_complete building complete]
    rfl
  exact once

theorem adds_lowerHeld (output : Bytes) (place : Nat) {context : Context}
    (building : context.phase = .building) (complete : context.validate = .ok ()) :
    Goes (lowerHeld request output place context parent) report session fun _ report' _ =>
      ∃ held, Settles place 1 held ∧ Adds report [] held report' := by
  refine (adds_work report
    (ends_lower_of_complete request parent session building complete output)).bind ?_
  rintro ⟨left, given, outcome⟩ first session' ⟨rfl, adds⟩
  refine (adds_alter first session' _ _).bind fun _ second session'' adds' => ?_
  refine (adds_alter second session'' _ _).bind fun _ third _ adds'' => ?_
  refine ⟨_, ?_, (adds.trans adds').trans adds''⟩
  rintro before old lowerings rfl
  obtain ⟨last, destroyed, same⟩ := settles_destroy before.length before left (lowerings + 1) rfl
  refine ⟨last, destroyed, Eq.trans ?_ same⟩
  change ((before ++ [(⟨old, lowerings⟩ : Holding)]).modify before.length _).modify before.length _ = _
  rw [modify_concat]

/-- What is loaded is under construction, from the cache or not. -/
theorem ends_load_building (optimize : Bool) (cache : Option Cache) :
    Ends (load file optimize cache parent) session fun outcome _ =>
      ∀ loaded, outcome = .ok loaded → loaded.context.phase = .building := by
  have read {loaded : Loaded} (came : plain file optimize session = .ok loaded) :
      loaded.context.phase = .building := by
    unfold plain at came
    split at came
    · cases came
    · rename_i source _
      cases parsed : Context.parse file source optimize with
      | error error =>
        rw [parsed] at came
        cases came
      | ok context =>
        rw [parsed] at came
        cases came
        exact (Context.builds_of_parse parsed).phase_eq
  cases cache with
  | none =>
    intro loaded came
    exact read ((ends_load_none file optimize parent session).symm.trans came)
  | some cache =>
    intro loaded came
    obtain ⟨same | ⟨source, context, -, restorable, same⟩, -⟩ :=
      ends_load_some cache file optimize parent session
    · exact read (same.symm.trans came)
    · obtain rfl := Except.ok.inj (same.symm.trans came)
      unfold restorable? at restorable
      split at restorable
      · rename_i snapshot _
        cases restored : ({ snapshot with optimize } : Snapshot).restore with
        | error failure =>
          rw [restored] at restorable
          cases restorable
        | ok whole =>
          rw [restored] at restorable
          cases restorable
          exact (Snapshot.builds_of_restore restored).phase_eq
      · cases restorable

theorem ends_validate (context : Context) :
    Ends (validate context parent) session fun outcome _ => outcome = context.validate :=
  rfl

/-! ## One file -/

/-- Whether the contexts that were obtained in a turn are as its ending says: destroyed, and lowered
as often as that tells. -/
structure Ending.Settled (ending : Ending) (held : List Holding) : Prop where
  /-- The contexts are destroyed. -/
  destroyed : ∀ holding ∈ held, holding.context.phase = .destroyed
  /-- They were lowered as often as the ending tells. -/
  lowerings : held.map Holding.lowerings = ending.lowerings?.toList

/-- Where no context is obtained, none is left. -/
theorem Ending.settled_nil {ending : Ending} (none : ending.lowerings? = none) :
    ending.Settled [] where
  destroyed _ inside := absurd inside List.not_mem_nil
  lowerings := by rw [none]; rfl

variable {report} in
/-- A context that is obtained, and settled by what follows, is all that is added. -/
theorem exists_settled {ending : Ending} {first second report' : Report} {context : Context}
    {early late : List ProgressEvent} {held : List Holding → List Holding} {more : Nat}
    (before : Adds report early id first) (holds : Adds first [] (· ++ [⟨context, 0⟩]) second)
    (after : Adds second late held report') (settles : Settles first.holdings.length more held)
    (counted : ending.lowerings? = some more) (told : early ++ late = ending.events file) :
    ∃ new, ending.Settled new ∧ Adds report (ending.events file) (· ++ new) report' := by
  obtain ⟨left, destroyed, same⟩ := settles first.holdings context 0 rfl
  have adds := (before.trans holds).trans after
  rw [List.append_nil, told] at adds
  refine ⟨[⟨left, 0 + more⟩], ⟨by simpa using destroyed, by simp [counted]⟩,
    { adds with holdings := ?_ }⟩
  rw [after.holdings, holds.holdings, same, before.holdings, id_eq]

theorem adds_buildStages :
    Goes (buildStages request file parent) report session fun result report' _ =>
      ∃ ending : Ending, result = ending.result request file ∧ ∃ new, ending.Settled new ∧
        Adds report (ending.events file) (· ++ new) report' := by
  have stage {α : Type} {work : Work (Except Failure α)} {known : Except Failure α → Prop}
      (ends : ∀ session, Ends work session fun outcome _ => known outcome) (report : Report)
      (session : Session) : Goes (liftM work) report session fun outcome report' _ =>
        ∃ held, (held = id ∧ known outcome) ∧ Adds report [] held report' :=
    (adds_work report (ends session)).imp fun _ _ _ ⟨known, adds⟩ => ⟨id, ⟨rfl, known⟩, adds⟩
  refine (adds_inStage file report session _ _
    (stage fun session => ends_load_building file parent session _ _)).bind ?_
  rintro outcome first session' ⟨_, ⟨rfl, building⟩, parsed⟩
  cases outcome with
  | error failure =>
    exact ⟨.unread failure, rfl, [], Ending.settled_nil rfl,
      { parsed with holdings := parsed.holdings.trans (List.append_nil _).symm }⟩
  | ok loaded =>
    refine (adds_hold first session' loaded.context).bind ?_
    rintro _ second session' ⟨rfl, holds⟩
    refine (adds_inStage file second session' _ _
      (stage fun session => ends_validate parent session _)).bind ?_
    rintro outcome third session'' ⟨_, ⟨rfl, validated⟩, checked⟩
    cases outcome with
    | error failure =>
      refine (adds_alter third session'' _ _).bind fun _ fourth _ released => ?_
      exact ⟨.incomplete loaded.hit failure, rfl, exists_settled file parsed holds
        (checked.trans released) (settles_destroy _) rfl rfl⟩
    | ok _ =>
      refine (adds_inStage file third session'' _ _ fun report session =>
        adds_lowerHeld request parent report session _ _ (building loaded rfl)
          validated.symm).bind ?_
      rintro outcome fourth _ ⟨held, settles, lowered⟩
      cases outcome with
      | error failure =>
        exact ⟨.unlowered loaded.hit failure, rfl, exists_settled file parsed holds
          (checked.trans lowered) settles rfl rfl⟩
      | ok _ =>
        exact ⟨.lowered loaded.hit, rfl, exists_settled file parsed holds
          (checked.trans lowered) settles rfl rfl⟩

theorem adds_buildFile :
    Goes (buildFile request file parent) report session fun result report' _ =>
      ∃ ending : Ending, result = ending.result request file ∧ ∃ new, ending.Settled new ∧
        Adds report (ending.events file) (· ++ new) report' := by
  refine (adds_any report session _).bind fun span first session' begun => ?_
  refine (adds_any first session' _).bind fun span second session'' named => ?_
  refine (adds_buildStages request file _ second session'').bind ?_
  rintro result third last ⟨ending, rfl, new, settled, adds⟩
  refine (adds_any third last _).bind fun _ fourth _ ended => ?_
  refine ⟨ending, rfl, new, settled, ?_⟩
  have whole := ((begun.trans named).trans adds).trans ended
  rw [List.append_nil] at whole
  exact whole

end Stages

/-! ## All files -/

/-- The turn of a file, with its ending. -/
structure Trail where
  /-- The file. -/
  file : Bytes
  /-- How the turn ends. -/
  ending : Ending

namespace Trail

/-- The events of the turn. -/
def events (trail : Trail) : List ProgressEvent := trail.ending.events trail.file

/-- The result of the turn. -/
def result (request : BuildRequest) (trail : Trail) : FileResult :=
  trail.ending.result request trail.file

end Trail

/-- What files add to a report when they have had their turns. -/
structure Records (request : BuildRequest) (report : Report) (trails : List Trail)
    (report' : Report) : Prop where
  /-- Each result is added. -/
  files : report'.files = report.files ++ trails.map (Trail.result request)
  /-- The events are added, turn by turn. -/
  events : report'.events = report.events ++ trails.flatMap Trail.events
  /-- The stages that begin are timed. -/
  timings : ∀ stage, report'.timings.has stage = true ↔ report.timings.has stage = true ∨
    ∃ event ∈ trails.flatMap Trail.events, event.stage = stage ∧ event.status = .working
  /-- The contexts that were obtained are settled. -/
  holdings : ∃ new, report'.holdings = report.holdings ++ new ∧
    (∀ holding ∈ new, holding.context.phase = .destroyed) ∧
    new.map Holding.lowerings = trails.filterMap fun trail => trail.ending.lowerings?

namespace Records

variable {request : BuildRequest} {report report' report'' : Report} {trails : List Trail}

theorem nil (request : BuildRequest) (report : Report) : Records request report [] report where
  files := (List.append_nil _).symm
  events := (List.append_nil _).symm
  timings stage := by simp
  holdings := ⟨[], (List.append_nil _).symm, nofun, rfl⟩

/-- One more turn in front. -/
theorem cons {trail : Trail} {new : List Holding} (settled : trail.ending.Settled new)
    (adds : Adds report trail.events (· ++ new) report')
    (rest : Records request { report' with files := report'.files ++ [trail.result request] } trails
      report'') : Records request report (trail :: trails) report'' := by
  obtain ⟨others, held, destroyed, lowerings⟩ := rest.holdings
  constructor
  case files =>
    rw [rest.files, adds.files, List.append_assoc]
    rfl
  case events =>
    rw [rest.events, adds.events, List.append_assoc, List.flatMap_cons]
  case timings =>
    intro stage
    rw [rest.timings, adds.timings, or_assoc, List.flatMap_cons]
    simp only [List.mem_append, or_and_right, exists_or]
  case holdings =>
    refine ⟨new ++ others, ?_, ?_, ?_⟩
    · rw [held, adds.holdings, List.append_assoc]
    · intro holding member
      rcases List.mem_append.mp member with inside | inside
      · exact settled.destroyed holding inside
      · exact destroyed holding inside
    · rw [List.map_append, settled.lowerings, lowerings, List.filterMap_cons]
      cases trail.ending.lowerings? <;> rfl

end Records

theorem records_buildFiles (request : BuildRequest) (parent : Nat) (cancelled : Bool)
    (files : List Bytes) (report : Report) (session : Session) :
    Goes (buildFiles request parent cancelled files) report session fun _ report' _ =>
      ∃ trails : List Trail, trails.map Trail.file = files ∧
        Records request report trails report' := by
  have add (report : Report) (session : Session) (result : FileResult) :
      Goes (modify fun report : Report => { report with files := report.files ++ [result] }) report
        session fun _ report' _ => { report with files := report.files ++ [result] } = report' := rfl
  induction files generalizing cancelled report session with
  | nil => exact ⟨[], rfl, .nil request report⟩
  | cons file rest ih =>
    rw [buildFiles]
    refine (Goes.work (ends_isCancelled session)).bind ?_
    rintro answer _ session' ⟨rfl, -⟩
    split
    · have omits : Goes (announce file .parse .error (some (.ofKind .canceled))) report session'
          fun _ report' _ => Adds report (Ending.leftOut.events file) id report' :=
        .of_events report (by simp [Ending.events])
      refine omits.bind fun _ first _ adds => ?_
      refine (add first _ _).bind ?_
      rintro _ _ last rfl
      refine (ih true _ last).imp ?_
      rintro _ report' _ ⟨trails, rfl, records⟩
      refine ⟨⟨file, .leftOut⟩ :: trails, rfl, .cons (Ending.settled_nil rfl) ?_ records⟩
      exact { adds with holdings := adds.holdings.trans (List.append_nil _).symm }
    · refine (adds_buildFile request file parent report session').bind ?_
      rintro _ first session'' ⟨ending, rfl, new, settled, adds⟩
      refine (add first session'' _).bind ?_
      rintro _ _ last rfl
      refine (ih cancelled _ last).imp ?_
      rintro _ report' _ ⟨trails, rfl, records⟩
      exact ⟨⟨file, ending⟩ :: trails, rfl, .cons settled adds records⟩

/-! ## The whole build -/

/-- Whether a turn has an event of a stage with a state. -/
def Trail.Has (trail : Trail) (stage : Stage) (status : Status) : Prop :=
  ∃ event ∈ trail.events, event.stage = stage ∧ event.status = status

/-- What a turn leaves has to do with its events: the result has no failure exactly if the last
event is that the context was lowered, and otherwise the failure of the last event; the context is
from the cache exactly if loading it ended so; and it was lowered once exactly if checking it
ended well, and never exactly if that failed. -/
structure Trail.Told (trail : Trail) (result : FileResult) (lowerings? : Option Nat) : Prop where
  /-- The last event tells whether and why the work failed. -/
  last : ∃ event, trail.events.getLast? = some event ∧ result.failure = event.failure ∧
    (result.failure = none ↔ event.stage = .lower ∧ event.status = .done)
  /-- The end of loading tells where the context is from. -/
  hit : result.hit = true ↔ trail.Has .parse .cached
  /-- A context that is not complete is not lowered. -/
  never : lowerings? = some 0 ↔ trail.Has .validate .error
  /-- A context that is complete is lowered once. -/
  once : lowerings? = some 1 ↔ trail.Has .validate .done

theorem loadedAs_eq_cached_iff (hit : Bool) : loadedAs hit = .cached ↔ hit = true := by
  cases hit <;> decide

theorem Trail.told (request : BuildRequest) (trail : Trail) :
    trail.Told (trail.result request) trail.ending.lowerings? := by
  obtain ⟨file, ending⟩ := trail
  cases ending with
  | leftOut =>
    constructor
    case last => exact ⟨_, rfl, rfl, by simp [result, Ending.result, Ending.failure?]⟩
    all_goals simp [Has, events, result, Ending.result, Ending.hit, Ending.events, Ending.lowerings?]
  | unread failure =>
    constructor
    case last => exact ⟨_, rfl, rfl, by simp [result, Ending.result, Ending.failure?]⟩
    all_goals simp [Has, events, result, Ending.result, Ending.hit, Ending.events,
      Ending.lowerings?, failed]
  | incomplete hit failure =>
    constructor
    case last =>
      exact ⟨⟨file, .validate, .error, some failure⟩, rfl, rfl,
        by simp [result, Ending.result, Ending.failure?]⟩
    all_goals simp [Has, events, result, Ending.result, Ending.hit, Ending.events,
      Ending.lowerings?, passed, failed, loadedAs_eq_cached_iff]
  | unlowered hit failure =>
    constructor
    case last =>
      exact ⟨⟨file, .lower, .error, some failure⟩, rfl, rfl,
        by simp [result, Ending.result, Ending.failure?]⟩
    all_goals simp [Has, events, result, Ending.result, Ending.hit, Ending.events,
      Ending.lowerings?, passed, failed, loadedAs_eq_cached_iff]
  | lowered hit =>
    constructor
    case last =>
      exact ⟨⟨file, .lower, .done, none⟩, rfl, rfl,
        by simp [result, Ending.result, Ending.failure?]⟩
    all_goals simp [Has, events, result, Ending.result, Ending.hit, Ending.events,
      Ending.lowerings?, passed, loadedAs_eq_cached_iff]

/-- The events with which a build begins. -/
def queued (files : List Bytes) : List ProgressEvent :=
  files.map fun file => ⟨file, .parse, .queued, none⟩

theorem records_run (request : BuildRequest) (parent : Nat) (session : Session)
    (prepared : ((prepare request).run session).1 = .ok ()) :
    Ends (run (some request) parent) session fun (report, _) _ =>
      ∃ trails : List Trail, trails.map Trail.file = request.files ∧
        Records request { events := queued request.files } trails report := by
  have start : Ends (prepare request) session fun outcome _ => outcome = .ok () := prepared
  refine start.bind ?_
  rintro _ first rfl
  refine Ends.bind (Lasts.beginSpan _ _ _) fun span second _ => ?_
  refine Ends.bind (records_buildFiles request _ false request.files _ second) ?_
  rintro ⟨left, report⟩ third ⟨trails, same, records⟩
  exact Ends.bind (Lasts.endSpan _ _) fun _ _ _ => ⟨trails, same, records⟩

/-- A build that has been prepared follows its protocol, whenever it is cancelled. All files are
queued first; then each has its turn, in their order, with the events of one of the endings and the
result that goes with them. A stage is timed exactly if a file has begun it, and all contexts that
were obtained are destroyed in the end: they were never lowered if they were incomplete, and once
otherwise. -/
theorem run_protocol (request : BuildRequest) (parent : Nat) (session : Session)
    (prepared : ((prepare request).run session).1 = .ok ()) :
    ∃ report outcome, ((run (some request) parent).run session).1 = (report, outcome) ∧
      ∃ trails : List Trail, trails.map Trail.file = request.files ∧
        report.events = queued request.files ++ trails.flatMap Trail.events ∧
        report.files = trails.map (Trail.result request) ∧
        (∀ trail ∈ trails, trail.Told (trail.result request) trail.ending.lowerings?) ∧
        (∀ stage, report.timings.has stage = true ↔
          ∃ event ∈ report.events, event.stage = stage ∧ event.status = .working) ∧
        (∀ holding ∈ report.holdings, holding.context.phase = .destroyed) ∧
        report.holdings.map Holding.lowerings =
          trails.filterMap fun trail => trail.ending.lowerings? := by
  obtain ⟨trails, same, records⟩ := records_run request parent session prepared
  obtain ⟨new, held, destroyed, lowerings⟩ := records.holdings
  rw [List.nil_append] at held
  refine ⟨_, _, rfl, trails, same, records.events, ?_, fun trail _ => trail.told request, ?_, ?_, ?_⟩
  · exact records.files.trans (List.nil_append _)
  · intro stage
    have none : ({} : Timings).has stage = false := rfl
    rw [records.timings, records.events, none]
    simp [queued, or_and_right, exists_or]
  · rwa [held]
  · rwa [held]

/-- A request for a file that is complete, one that is not, one that is not there, and one more. -/
def mixedRequest : BuildRequest where
  files := [utf8 "a", utf8 "b", utf8 "c", utf8 "d"]
  directory := utf8 "out"
  kind := .llvm

/-- A session with the files, which is cancelled before the last of them has its turn. -/
def mixedSession : Session where
  disk := ⟨[([utf8 "a"], .file (utf8 "define f() -> i8 \x7b\nbb0:\n%0: i8 = 7\nreturn %0\n\x7d")),
    ([utf8 "b"], .file (utf8 "define f() -> i8 \x7b\nbb0:\n\x7d"))]⟩
  cancelAfter := some 4

/-- The four files end their turns in four ways: the first is lowered, the second is not complete, the
third cannot be loaded, and the last is left out. -/
theorem run_protocol_mixedRequest :
    ∃ report outcome, ((run (some mixedRequest) 0).run mixedSession).1 = (report, outcome) ∧
      ∃ trails : List Trail, trails.map Trail.file = mixedRequest.files ∧
        report.events = queued mixedRequest.files ++ trails.flatMap Trail.events ∧
        report.files.map FileResult.failure = trails.map (fun trail => trail.ending.failure?) ∧
        report.events.map ProgressEvent.status =
          [.queued, .queued, .queued, .queued, .working, .done, .working, .done, .working, .done,
            .working, .done, .working, .error, .working, .error, .error] ∧
        report.holdings.map Holding.lowerings = [1, 0] ∧
        ∀ holding ∈ report.holdings, holding.context.phase = .destroyed := by
  have prepared : ((prepare mixedRequest).run mixedSession).1 = .ok () := by decide +kernel
  have facts : ((run (some mixedRequest) 0).run mixedSession).1.1.events.map ProgressEvent.status =
        [.queued, .queued, .queued, .queued, .working, .done, .working, .done, .working, .done,
          .working, .done, .working, .error, .working, .error, .error] ∧
      ((run (some mixedRequest) 0).run mixedSession).1.1.holdings.map Holding.lowerings =
        [1, 0] := by
    decide +kernel
  obtain ⟨report, outcome, ran, trails, same, events, files, -, -, destroyed, -⟩ :=
    run_protocol mixedRequest 0 mixedSession prepared
  rw [ran] at facts
  refine ⟨report, outcome, ran, trails, same, events, ?_, facts.1, facts.2, destroyed⟩
  rw [files, List.map_map]
  rfl

end Build
end Blockwork
