import Blockwork.Build.Progress
import Blockwork.Text.Terminal

/-!
# The progress view

While a build runs, a terminal shows one row for each file with the state it is in, a spinner and a
bar. Events change rows; a row's share of the work never shrinks, and a row that has failed stays
failed.
-/

namespace Blockwork
namespace View

open Build

/-- The share of the work on a file that is done, in tenths. -/
def tenths (stage : Stage) (status : Status) : Nat :=
  let finished := status = .done ∨ status = .cached
  match stage with
  | .parse => if finished then 4 else if status = .working then 1 else 0
  | .validate => if finished then 5 else 4
  | .lower => if finished then 10 else 5
  | .other _ => 0

/-- The word for a state of a file. -/
def label (stage : Stage) (status : Status) : String :=
  match status, stage with
  | .queued, _ => "queued"
  | .error, _ => "error"
  | .cached, _ => "cached"
  | .working, .parse => "parsing"
  | .working, .validate => "checking"
  | .working, _ => "lowering"
  | _, .parse => "parsed"
  | _, .validate => "checked"
  | _, _ => "done"

/-- The row of a file. -/
structure Row where
  /-- The file. -/
  path : Bytes
  /-- The word for its state. -/
  status : String := "queued"
  /-- The share of the work that is done, in tenths. -/
  share : Nat := 0
  /-- Whether the work has failed. -/
  failed : Bool := false
deriving DecidableEq, Repr

/-- A row after an event of its file. -/
def Row.apply (row : Row) (event : ProgressEvent) : Row :=
  let status := label event.stage event.status
  if event.status = .error then { row with status, share := 10, failed := true }
  else { row with status, share := max row.share (tenths event.stage event.status) }

/-- The state of the view. -/
structure Model where
  /-- What is being done. -/
  title : Bytes
  /-- The rows. -/
  rows : List Row
  /-- The columns of the terminal. -/
  width : Int := 80
  /-- The columns of the bar. -/
  barWidth : Int := 76
  /-- How far the spinner has turned. -/
  turns : Nat := 0
  /-- Whether the build is over. -/
  done : Bool := false
deriving DecidableEq, Repr

/-- Something that the view reacts to. -/
inductive Message where
  /-- A file has reached a state. -/
  | event (event : ProgressEvent)
  /-- There will be no more events. -/
  | closed
  /-- It is time to turn the spinner. -/
  | tick
  /-- It is time to draw the bar. -/
  | frame
  /-- A key was pressed. -/
  | key
  /-- The terminal has another number of columns. -/
  | resize (width : Int)
deriving DecidableEq, Repr

namespace Model

/-- The view of a build of files. -/
def new (title : Bytes) (files : List Bytes) : Model where
  title := title
  rows := files.map fun path => { path }

/-- The number of the row of a file; if a file is listed more than once, the last. -/
def rowOf? (model : Model) (file : Bytes) : Option Nat :=
  (List.range model.rows.length).reverse.find? fun index =>
    (model.rows[index]?).map Row.path = some file

/-- The view after an event. Events of files without a row change nothing. -/
def apply (model : Model) (event : ProgressEvent) : Model :=
  match model.rowOf? event.file with
  | none => model
  | some index => { model with rows := model.rows.modify index (·.apply event) }

/-- The view after a message, and whether something is left to be waited for. -/
def update (model : Model) : Message → Model × Bool
  | .event event => (model.apply event, true)
  | .closed => ({ model with done := true }, true)
  | .tick => if model.done then (model, false) else ({ model with turns := model.turns + 1 }, true)
  | .frame => (model, false)
  | .key => (model, false)
  | .resize width =>
    if 0 < width then ({ model with width, barWidth := width - 4 }, false) else (model, false)

/-- How many files were built and how many failed. -/
def summary (model : Model) : Bytes :=
  let failed := model.rows.countP Row.failed
  let built := Bytes.decimal (model.rows.length - failed) ++ utf8 " ok"
  if failed = 0 then built else built ++ utf8 ", " ++ Bytes.decimal failed ++ utf8 " failed"

/-- The positions of the spinner. -/
def spinner : List String := ["⣾", "⣽", "⣻", "⢿", "⡿", "⣟", "⣯", "⣷"]

/-- What is being done, or what has become of it; several lines if the title has them. -/
def header (model : Model) : Bytes :=
  Text.Terminal.block
    (if model.done then utf8 "done: " ++ model.title ++ utf8 " (" ++ model.summary ++ utf8 ")"
    else utf8 (spinner.getD (model.turns % spinner.length) "") ++ utf8 "  " ++ model.title)

/-- The columns of a file name. -/
def nameWidth (model : Model) : Int := max (model.width - 14) 20

/-- A row as a line. -/
def line (model : Model) (row : Row) : Bytes :=
  utf8 "  " ++ Bytes.padLeft 10 (utf8 row.status) ++ utf8 " " ++
    Text.Width.elide model.nameWidth row.path ++ utf8 "\n"

/-- The bar: empty until the build is over, and full then. -/
def bar (model : Model) : Bytes :=
  let cells := (model.barWidth - 5).toNat
  if model.done then (List.replicate cells (utf8 "█")).flatten ++ utf8 " 100%"
  else (List.replicate cells (utf8 "░")).flatten ++ utf8 "   0%"

/-- The whole view. -/
def view (model : Model) : Bytes :=
  if model.rows.isEmpty then []
  else
    model.header ++ utf8 "\n\n" ++ model.rows.flatMap model.line ++ utf8 "\n" ++ model.bar ++
      utf8 "\n"

end Model
end View
end Blockwork
