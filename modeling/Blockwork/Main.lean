import Std.Data.HashSet.Basic
import Blockwork.Command.Run

/-!
# The program

What a command may need is read from the disk of the machine, the command is run on that, and what
it changed is written back. The library decides everything; here is only the exchange with the
machine. No tool is started: a command that asks for one is told that it is missing.
-/

namespace Blockwork
namespace Machine

/-- Bytes as the text of a path; undecodable bytes have none. -/
def pathText (bytes : Bytes) : String :=
  (String.fromUTF8? ⟨bytes.toArray⟩).getD ""

/-- The location of a path that starts at the root. -/
def location (path : String) : Location := Path.elements (utf8 path)

/-- Reads a file, or a directory with everything below it. Hidden directories and what cannot be
read are left out. -/
partial def read (entry : IO.FS.DirEntry) : IO (List (Location × Entry)) := do
  let place := location entry.path.toString
  try
    if ← entry.path.isDir then
      let children ← entry.path.readDir
      let visible := children.toList.filter fun child => !child.fileName.startsWith "."
      pure ((place, .directory) :: (← visible.mapM read).flatten)
    else if ← entry.path.pathExists then
      let content ← IO.FS.readBinFile entry.path
      pure [(place, .file content.toList)]
    else pure []
  catch _ => pure []

/-- The directories above a location, each with its manifest. -/
def readAbove (place : Location) : IO (List (Location × Entry)) := do
  let above := (List.range place.length).map fun depth => place.take (depth + 1)
  let manifests ← above.mapM fun directory =>
    read ⟨pathText (Location.text directory), pathText Project.manifestName⟩
  pure (above.map (·, .directory) ++ manifests.flatten)

/-- A disk with the first entry of each location. -/
def disk (entries : List (Location × Entry)) : Disk :=
  let (_, kept) := entries.foldl (fun (seen, kept) (place, entry) =>
    if seen.contains place then (seen, kept) else (seen.insert place, (place, entry) :: kept))
    ((∅ : Std.HashSet Location), [])
  ⟨kept.reverse⟩

/-- Reads what a command in a directory may need: the directory, the project around it, the files
that are named, and the cache. -/
def readDisk (here : String) (environment : Environment) (words : List String) : IO Disk := do
  let place := environment.workingDirectory
  let above ← readAbove place
  let project := match Project.Manifest.find ⟨above⟩ place [] with
    | .ok (some manifest) => pathText (Path.directory manifest)
    | _ => here
  let cacheRoots := [environment.cacheHome,
    if environment.home = [] then [] else Path.join [environment.home, utf8 ".cache"]]
  let caches ← (cacheRoots.filter (· ≠ [])).mapM fun directory => do
    let around ← readAbove (Path.elements directory)
    pure (around ++ (← read ⟨pathText directory, "pcb"⟩))
  let named ← words.mapM fun word => do
    let path := Path.absolute place.text (utf8 word)
    let around ← readAbove (Path.elements (Path.directory path))
    let (directory, name) := Path.split path
    let entry : IO.FS.DirEntry := ⟨pathText directory, pathText name⟩
    if ← entry.path.isDir then pure around else pure (around ++ (← read entry))
  let tree ← read ⟨project, ""⟩
  pure (disk (above ++ tree ++ caches.flatten ++ named.flatten))

/-- Writes what has changed on a disk. -/
def writeBack (before after : Disk) : IO Unit := do
  for (place, entry) in before.changes after do
    let path := pathText place.text
    match entry with
    | .directory => IO.FS.createDirAll path
    | .file content => IO.FS.writeBinFile path ⟨content.toArray⟩
  for place in before.losses after do
    IO.FS.removeFile (pathText place.text)

/-- What the machine tells about itself. -/
def environment (here : String) : IO Environment := do
  let known (name : String) : IO Bytes := do
    pure (utf8 ((← IO.getEnv name).getD ""))
  let clock ← IO.monoNanosNow
  pure {
    workingDirectory := location here
    now := .ofUnix 0 clock 0
    cacheHome := ← known "XDG_CACHE_HOME"
    home := ← known "HOME"
    terminal := ← (← IO.getStdout).isTty
    plain := (← known "NO_COLOR") ≠ [] || (← known "TERM") = utf8 "dumb" }

end Machine
end Blockwork

open Blockwork in
/-- Runs the command line. -/
def main (words : List String) : IO UInt32 := do
  let here := (← IO.currentDir).toString
  let environment ← Machine.environment here
  let disk ← Machine.readDisk here environment words
  let (status, session) := (Command.run (words.map utf8)).run { environment with disk }
  Machine.writeBack disk session.disk
  (← IO.getStdout).write ⟨session.output.toArray⟩
  (← IO.getStderr).write ⟨session.errorOutput.toArray⟩
  pure status.toUInt32
