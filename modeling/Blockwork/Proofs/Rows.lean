import Blockwork.View.Model
import Mathlib.Data.List.Nodup

/-!
# The rows of the progress view

Each file has a row, and an event changes the row of its file only. So what a row shows comes from
the events of its file alone, and it does not matter how the events of several files are mixed.
-/

namespace Blockwork
namespace View

open Build

/-! ## One row -/

namespace Row

/-- A row after events of its file. -/
def applyAll (row : Row) (events : List ProgressEvent) : Row := events.foldl Row.apply row

theorem applyAll_append (row : Row) (early late : List ProgressEvent) :
    row.applyAll (early ++ late) = (row.applyAll early).applyAll late :=
  List.foldl_append

/-- All that an event does to a row: a failure fills it, and anything else never takes back. -/
theorem apply_eq (row : Row) (event : ProgressEvent) :
    row.apply event =
      { path := row.path
        status := label event.stage event.status
        share := if event.status = .error then 10
          else max row.share (tenths event.stage event.status)
        failed := row.failed || decide (event.status = .error) } := by
  by_cases error : event.status = .error
  · simp [apply, error]
  · simp [apply, error]

@[simp]
theorem path_apply (row : Row) (event : ProgressEvent) : (row.apply event).path = row.path := by
  rw [apply_eq]

@[simp]
theorem failed_apply (row : Row) (event : ProgressEvent) :
    (row.apply event).failed = (row.failed || decide (event.status = .error)) := by
  rw [apply_eq]

theorem share_apply (row : Row) (event : ProgressEvent) :
    (row.apply event).share =
      if event.status = .error then 10 else max row.share (tenths event.stage event.status) := by
  rw [apply_eq]

@[simp]
theorem path_applyAll (row : Row) (events : List ProgressEvent) :
    (row.applyAll events).path = row.path := by
  induction events generalizing row with
  | nil => rfl
  | cons event rest ih => exact (ih (row.apply event)).trans (path_apply row event)

/-- A row has failed once an event says so. -/
theorem failed_applyAll (row : Row) (events : List ProgressEvent) :
    (row.applyAll events).failed = true ↔
      row.failed = true ∨ ∃ event ∈ events, event.status = .error := by
  induction events generalizing row with
  | nil => simp [applyAll]
  | cons event rest ih =>
    have later := ih (row.apply event)
    rw [failed_apply, Bool.or_eq_true, decide_eq_true_eq, or_assoc] at later
    rw [applyAll, List.foldl_cons, ← applyAll]
    simpa only [List.mem_cons, exists_eq_or_imp] using later

/-- The shares of the work that can be done, in tenths. -/
def shares : List Nat := [0, 1, 4, 5, 10]

theorem share_mem_shares (file : Bytes) : ({ path := file } : Row).share ∈ shares :=
  List.mem_cons_self

theorem tenths_mem_shares (stage : Stage) (status : Status) : tenths stage status ∈ shares := by
  unfold tenths
  cases stage with
  | other name => exact List.mem_cons_self
  | _ => dsimp only; split_ifs <;> decide

theorem share_apply_mem {row : Row} (share : row.share ∈ shares) (event : ProgressEvent) :
    (row.apply event).share ∈ shares := by
  have most : 10 ∈ shares := by decide
  rw [share_apply]
  split
  · exact most
  · rw [Nat.max_def]
    split
    · exact tenths_mem_shares event.stage event.status
    · exact share

theorem le_of_mem_shares {tenths : Nat} (share : tenths ∈ shares) : tenths ≤ 10 := by
  have all : ∀ tenths ∈ shares, tenths ≤ 10 := by decide
  exact all tenths share

/-- An event never takes anything back. -/
theorem share_le_apply {row : Row} (share : row.share ∈ shares) (event : ProgressEvent) :
    row.share ≤ (row.apply event).share := by
  rw [share_apply]
  split
  · exact le_of_mem_shares share
  · exact Nat.le_max_left _ _

theorem share_applyAll {row : Row} (share : row.share ∈ shares) (events : List ProgressEvent) :
    (row.applyAll events).share ∈ shares ∧ row.share ≤ (row.applyAll events).share := by
  induction events generalizing row with
  | nil => exact ⟨share, Nat.le_refl _⟩
  | cons event rest ih =>
    obtain ⟨inside, more⟩ := ih (share_apply_mem share event)
    exact ⟨inside, Nat.le_trans (share_le_apply share event) more⟩

end Row

/-- The events of a file. -/
def eventsOf (file : Bytes) (events : List ProgressEvent) : List ProgressEvent :=
  events.filter fun event => event.file = file

theorem eventsOf_cons (file : Bytes) (event : ProgressEvent) (rest : List ProgressEvent) :
    eventsOf file (event :: rest) =
      if event.file = file then event :: eventsOf file rest else eventsOf file rest := by
  rw [eventsOf, List.filter_cons]
  split <;> simp_all [eventsOf]

theorem eventsOf_append (file : Bytes) (early late : List ProgressEvent) :
    eventsOf file (early ++ late) = eventsOf file early ++ eventsOf file late :=
  List.filter_append ..

theorem eventsOf_eq_nil {file : Bytes} {events : List ProgressEvent}
    (others : ∀ event ∈ events, event.file ≠ file) : eventsOf file events = [] := by
  rw [eventsOf, List.filter_eq_nil_iff]
  simpa using others

/-- A row after an event of whatever file. -/
def Row.see (row : Row) (event : ProgressEvent) : Row :=
  if event.file = row.path then row.apply event else row

theorem Row.path_see (row : Row) (event : ProgressEvent) : (row.see event).path = row.path := by
  unfold see
  split
  · exact path_apply row event
  · rfl

/-- A row comes from the events of its file. -/
theorem Row.foldl_see (row : Row) (events : List ProgressEvent) :
    events.foldl see row = row.applyAll (eventsOf row.path events) := by
  induction events generalizing row with
  | nil => rfl
  | cons event rest ih =>
    rw [List.foldl_cons, ih, path_see, see, eventsOf_cons]
    split <;> rfl

/-! ## All rows -/

/-- The event that a message brings. -/
def Message.event? : Message → Option ProgressEvent
  | .event news => some news
  | _ => none

namespace Model

/-- The view after events. -/
def applyAll (model : Model) (events : List ProgressEvent) : Model := events.foldl Model.apply model

variable {model : Model}

theorem path_of_rowOf? {file : Bytes} {index : Nat} (found : model.rowOf? file = some index) :
    (model.rows.map Row.path)[index]? = some file := by
  rw [List.getElem?_map]
  simpa using List.find?_some found

theorem path_ne_of_rowOf? {file : Bytes} (missing : model.rowOf? file = none) {row : Row}
    (member : row ∈ model.rows) : file ≠ row.path := by
  obtain ⟨index, inside, rfl⟩ := List.mem_iff_getElem.mp member
  have other := List.find?_eq_none.mp missing index (by simpa using inside)
  simpa [List.getElem?_eq_getElem inside, eq_comm] using other

/-- An event changes the row of its file, and no other. -/
theorem apply_eq (distinct : (model.rows.map Row.path).Nodup) (event : ProgressEvent) :
    model.apply event = { model with rows := model.rows.map (Row.see · event) } := by
  rw [apply]
  cases found : model.rowOf? event.file with
  | none =>
    have kept : model.rows.map (Row.see · event) = model.rows.map id :=
      List.map_congr_left fun row member => if_neg (path_ne_of_rowOf? found member)
    rw [kept, List.map_id]
  | some index =>
    have here := path_of_rowOf? found
    have inside := (List.getElem?_eq_some_iff.mp here).choose
    have changed : model.rows.modify index (·.apply event) = model.rows.map (Row.see · event) := by
      refine List.ext_getElem? fun place => ?_
      rw [List.getElem?_modify, List.getElem?_map]
      cases held : model.rows[place]? with
      | none => rfl
      | some row =>
        have listed : (model.rows.map Row.path)[place]? = some row.path := by
          rw [List.getElem?_map, held]
          rfl
        have same : index = place ↔ event.file = row.path := by
          rw [← List.getElem?_inj inside distinct, here, listed, Option.some.injEq]
        simp [same, Row.see]
    exact congrArg (fun rows => { model with rows }) changed

theorem paths_apply (distinct : (model.rows.map Row.path).Nodup) (event : ProgressEvent) :
    (model.apply event).rows.map Row.path = model.rows.map Row.path := by
  rw [apply_eq distinct, List.map_map]
  exact List.map_congr_left fun row _ => row.path_see event

/-- Each row changes by the events of its file, and nothing else changes. -/
theorem applyAll_eq (distinct : (model.rows.map Row.path).Nodup) (events : List ProgressEvent) :
    model.applyAll events = { model with
      rows := model.rows.map fun row => row.applyAll (eventsOf row.path events) } := by
  simp only [← Row.foldl_see]
  induction events generalizing model with
  | nil => simp [applyAll]
  | cons event rest ih =>
    have distinct' : ((model.apply event).rows.map Row.path).Nodup := by
      rwa [paths_apply distinct]
    have later : model.applyAll (event :: rest) = (model.apply event).applyAll rest := rfl
    rw [later, ih distinct', apply_eq distinct, List.map_map]
    rfl

/-- What an event does to the rows does not depend on the rest of the view. -/
theorem rows_apply_congr {model model' : Model} (same : model.rows = model'.rows)
    (event : ProgressEvent) : (model.apply event).rows = (model'.apply event).rows := by
  have found : model.rowOf? event.file = model'.rowOf? event.file := by
    rw [rowOf?, rowOf?, same]
  rw [apply, apply, found]
  cases model'.rowOf? event.file with
  | none => exact same
  | some index => exact congrArg (List.modify · index (·.apply event)) same

theorem rows_applyAll_congr {model model' : Model} (same : model.rows = model'.rows)
    (events : List ProgressEvent) :
    (model.applyAll events).rows = (model'.applyAll events).rows := by
  induction events generalizing model model' with
  | nil => exact same
  | cons event rest ih => exact ih (rows_apply_congr same event)

/-- The view after messages. -/
def updateAll (model : Model) (messages : List Message) : Model :=
  messages.foldl (fun model message => (model.update message).1) model

theorem rows_update_of_none (model : Model) {message : Message} (silent : message.event? = none) :
    (model.update message).1.rows = model.rows := by
  cases message with
  | event event => cases silent
  | tick => rw [update]; split <;> rfl
  | resize width => rw [update]; split <;> rfl
  | closed => rfl
  | frame => rfl
  | key => rfl

/-- Rows come from events, whatever else the view reacts to in between. -/
theorem rows_updateAll (model : Model) (messages : List Message) :
    (model.updateAll messages).rows =
      (model.applyAll (messages.filterMap Message.event?)).rows := by
  induction messages generalizing model with
  | nil => rfl
  | cons message rest ih =>
    have later : model.updateAll (message :: rest) = (model.update message).1.updateAll rest := rfl
    rw [later, ih]
    cases brings : message.event? with
    | none =>
      rw [List.filterMap_cons_none brings]
      exact rows_applyAll_congr (model.rows_update_of_none brings) _
    | some event =>
      rw [List.filterMap_cons_some brings]
      cases message with
      | event event' =>
        cases brings
        rfl
      | _ => cases brings

theorem paths_new (title : Bytes) (files : List Bytes) :
    (new title files).rows.map Row.path = files := by
  rw [new, List.map_map]
  exact List.map_id files

/-- The rows of a new view after events. -/
theorem rows_applyAll_new {files : List Bytes} (distinct : files.Nodup) (title : Bytes)
    (events : List ProgressEvent) :
    ((new title files).applyAll events).rows =
      files.map fun file => ({ path := file } : Row).applyAll (eventsOf file events) := by
  rw [applyAll_eq (by rwa [paths_new]), new, List.map_map]
  rfl

theorem applyAll_new_congr {files : List Bytes} (distinct : files.Nodup) (title : Bytes)
    {events events' : List ProgressEvent}
    (same : ∀ file ∈ files, eventsOf file events = eventsOf file events') :
    (new title files).applyAll events = (new title files).applyAll events' := by
  rw [applyAll_eq (by rwa [paths_new]), applyAll_eq (by rwa [paths_new])]
  refine congrArg (fun rows => { new title files with rows })
    (List.map_congr_left fun row member => ?_)
  rw [same row.path (paths_new title files ▸ List.mem_map_of_mem member)]

/-- The line at the end counts each row once. -/
theorem summary_eq (model : Model) :
    ∃ built failed, built = model.rows.countP (fun row => !row.failed) ∧
      failed = model.rows.countP Row.failed ∧ built + failed = model.rows.length ∧
      model.summary = Bytes.decimal built ++ utf8 " ok" ++
        (if failed = 0 then [] else utf8 ", " ++ Bytes.decimal failed ++ utf8 " failed") := by
  have all : model.rows.length =
      model.rows.countP Row.failed + model.rows.countP (fun row => !row.failed) := by
    rw [model.rows.length_eq_countP_add_countP Row.failed]
    simp only [Bool.not_eq_true, Bool.decide_eq_false]
  refine ⟨_, _, rfl, rfl, by omega, ?_⟩
  have built : model.rows.length - model.rows.countP Row.failed =
      model.rows.countP (fun row => !row.failed) := by omega
  rw [summary, built]
  split
  · exact (List.append_nil _).symm
  · simp only [List.append_assoc]

/-- The view of a build of distinct files. Two runs of events that are the same for each file, in
whatever way they are mixed, give the same view. And after any events: the rows are those of the
files; a row shows a share of the work that can be done, and has failed exactly if an event of its
file said so; later events never take anything back from a row, and leave it as it is if none of
them is of its file; and the line at the end counts each row once. -/
theorem applyAll_independent {files : List Bytes} (distinct : files.Nodup) (title : Bytes) :
    (∀ events events', (∀ file ∈ files, eventsOf file events = eventsOf file events') →
        (new title files).applyAll events = (new title files).applyAll events') ∧
      ∀ events,
        ((new title files).applyAll events).rows.map Row.path = files ∧
        (∀ row ∈ ((new title files).applyAll events).rows,
          row.share ∈ Row.shares ∧ row.share ≤ 10 ∧
          (row.failed = true ↔
            ∃ event ∈ events, event.file = row.path ∧ event.status = .error)) ∧
        (∀ later (place : Nat) (row : Row),
          ((new title files).applyAll events).rows[place]? = some row →
          ∃ row', ((new title files).applyAll (events ++ later)).rows[place]? = some row' ∧
            row.share ≤ row'.share ∧
            ((∀ event ∈ later, event.file ≠ row.path) → row' = row)) ∧
        ∃ built failed,
          built = ((new title files).applyAll events).rows.countP (fun row => !row.failed) ∧
          failed = ((new title files).applyAll events).rows.countP Row.failed ∧
          built + failed = ((new title files).applyAll events).rows.length ∧
          ((new title files).applyAll events).summary =
            Bytes.decimal built ++ utf8 " ok" ++
              (if failed = 0 then [] else utf8 ", " ++ Bytes.decimal failed ++ utf8 " failed") := by
  have shown := rows_applyAll_new distinct title
  refine ⟨fun events events' same => applyAll_new_congr distinct title same, fun events => ?_⟩
  refine ⟨?_, fun row member => ?_, fun later place row held => ?_, summary_eq _⟩
  · rw [applyAll_eq (by rwa [paths_new]), List.map_map]
    refine Eq.trans (List.map_congr_left fun row _ => ?_) (paths_new title files)
    exact Row.path_applyAll row _
  · rw [shown] at member
    obtain ⟨file, -, rfl⟩ := List.mem_map.mp member
    have share := (Row.share_applyAll (Row.share_mem_shares file) (eventsOf file events)).1
    refine ⟨share, Row.le_of_mem_shares share, ?_⟩
    rw [Row.failed_applyAll, Row.path_applyAll]
    simp [eventsOf, and_assoc]
  · rw [shown, List.getElem?_map] at held ⊢
    obtain ⟨file, listed, rfl⟩ := Option.map_eq_some_iff.mp held
    have share := (Row.share_applyAll (Row.share_mem_shares file) (eventsOf file events)).1
    refine ⟨({ path := file } : Row).applyAll (eventsOf file (events ++ later)),
      by rw [listed]; rfl, ?_, fun others => ?_⟩
    · rw [eventsOf_append, Row.applyAll_append]
      exact (Row.share_applyAll share _).2
    · rw [Row.path_applyAll] at others
      rw [eventsOf_append, eventsOf_eq_nil others, List.append_nil]

/-- Two files. -/
def twoFiles : List Bytes := [utf8 "a", utf8 "b"]

/-- Events of two files and of a third one. The second file fails, and goes on nevertheless. -/
def mixedEvents : List ProgressEvent := [
  ⟨utf8 "a", .parse, .working, none⟩,
  ⟨utf8 "b", .parse, .error, none⟩,
  ⟨utf8 "c", .lower, .done, none⟩,
  ⟨utf8 "a", .parse, .cached, none⟩,
  ⟨utf8 "b", .parse, .working, none⟩]

/-- The events of the two files, one file after the other. -/
def sortedEvents : List ProgressEvent :=
  eventsOf (utf8 "b") mixedEvents ++ eventsOf (utf8 "a") mixedEvents

theorem applyAll_independent_twoFiles :
    twoFiles.Nodup ∧
      (new [] twoFiles).applyAll mixedEvents = (new [] twoFiles).applyAll sortedEvents ∧
      ((new [] twoFiles).applyAll mixedEvents).summary = utf8 "1 ok, 1 failed" := by
  have distinct : twoFiles.Nodup := by decide
  obtain ⟨same, shown⟩ := applyAll_independent distinct []
  obtain ⟨-, -, -, built, failed, builtEq, failedEq, -, line⟩ := shown mixedEvents
  have one : built = 1 := builtEq.trans (by decide)
  have other : failed = 1 := failedEq.trans (by decide)
  refine ⟨distinct, same mixedEvents sortedEvents (by decide), ?_⟩
  rw [line, one, other]
  rfl

end Model
end View
end Blockwork
