import Blockwork.Build.Progress
import Blockwork.Clock.Duration
import Blockwork.Numeric.Binary64

/-!
# Timings

The time spent in each stage, over all files. A stage that nothing was spent in yet is unknown,
which is not the same as no time.
-/

namespace Blockwork
namespace Build

/-- The time spent in each stage that was entered. -/
structure Timings where
  /-- Stages with durations, each stage once. -/
  stages : List (Stage × Duration) := []
deriving DecidableEq, Repr

namespace Timings

/-- Adds to the duration of a stage, which wraps around like any number of sixty-four bits. -/
def addTo (stage : Stage) (duration : Duration) :
    List (Stage × Duration) → List (Stage × Duration)
  | [] => [(stage, duration)]
  | (other, old) :: rest =>
    if other = stage then (stage, Int.bmod (old + duration) 0x10000000000000000) :: rest
    else (other, old) :: addTo stage duration rest

/-- Adds time spent in a stage. -/
def add (timings : Timings) (stage : Stage) (duration : Duration) : Timings :=
  ⟨addTo stage duration timings.stages⟩

/-- Whether a stage was entered. -/
def has (timings : Timings) (stage : Stage) : Bool := (timings.stages.lookup stage).isSome

/-- The time spent in a stage. -/
def duration (timings : Timings) (stage : Stage) : Duration :=
  (timings.stages.lookup stage).getD 0

/-- The time spent in several stages together. -/
def sum (timings : Timings) (stages : List Stage) : Duration :=
  stages.foldl (fun total stage => Int.bmod (total + timings.duration stage) 0x10000000000000000) 0

/-- A line for each stage that was entered, in milliseconds. -/
def text (timings : Timings) : Bytes :=
  (Stage.all.filter timings.has).flatMap fun stage =>
    let milliseconds := Binary64.quotient (timings.duration stage) (1000000)
    Bytes.padRight 8 stage.name ++ utf8 " " ++ Binary64.fixed 1 milliseconds ++ utf8 " ms\n"

end Timings
end Build
end Blockwork
