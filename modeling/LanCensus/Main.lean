/-
# LanCensus.Main -- the program

The program on the files of the machine it is started on. The files that its arguments and its
configuration name are read, `Rehearsal.runProgram` says how it ends and what it leaves, and that is
written. Neither sockets nor tools of the system are within reach from here, so that no host answers
and a service stops as soon as nothing is left to do.
-/

import LanCensus.Rehearsal.Machine
import Std.Time.DateTime.Timestamp

namespace LanCensus.Main

/-! ## Files -/

/-- What is at a path. Something that is there and cannot be read is taken for a directory. -/
def entryAt (path : String) : IO (Option Archive.Entry) := do
  try
    return some (.file (← IO.FS.readBinFile path).toList)
  catch
    | .noFileOrDirectory .. => return none
    | _ => return some .directory

/-- The files with what is at a path. -/
def fetched (files : Archive.Files) (path : String) : IO Archive.Files := do
  let parts := (Archive.Path.ofText path).parts
  let (above, _) := files.makeDirectories parts.dropLast
  match ← entryAt path, above.resolve parts with
  | some e, .ok place => return above.put place e
  | _, _ => return files

/-- The files that a run with these arguments looks at. -/
def filesFor (args : List String) : IO Archive.Files := do
  match Service.directive args with
  | .run i =>
    let files ← fetched .empty i.configPath
    match i.configure files with
    | .ok c => fetched (← fetched files c.devicesPath) c.settingsPath
    | .error _ => return files
  | _ => return .empty

/-- Writes the content of a file, and the directories above it. -/
def write (path : String) (content : List UInt8) : IO Unit := do
  let above := "/".intercalate (path.splitOn "/").dropLast
  if above ≠ "" then IO.FS.createDirAll above
  IO.FS.writeBinFile path ⟨content.toArray⟩

/-- Writes what a run has changed. -/
def writeChanges (before after : Archive.Files) (paths : List String) : IO Unit := do
  for path in paths do
    let place := Archive.Path.ofText path
    if let .ok content := after.read place then
      if (before.read place).toOption ≠ some content then write path content

/-- The files that a run with these arguments may write. -/
def written (files : Archive.Files) (args : List String) : List String :=
  match Service.directive args with
  | .run i =>
    match i.configure files with
    | .ok c => [c.devicesPath, c.settingsPath]
    | .error _ => []
  | _ => []

/-! ## The machine -/

/-- The machine as it can be seen from here: its clock, and nothing of its network. -/
def machine : IO Rehearsal.Machine := do
  let now ← Std.Time.Timestamp.now
  return {
    now := .ofNanos now.toNanosecondsSinceUnixEpoch.val
    pings := []
    neighbours := .missing
    nameOf := fun _ => none
    interfaces := []
    lan := none }

/-- A run with these arguments; what comes of it is its code. -/
def run (args : List String) : IO UInt32 := do
  let files ← filesFor args
  let (exit, after) := Rehearsal.runProgram (← machine) files args
  writeChanges files after (written files args)
  (← IO.getStdout).putStr exit.output
  (← IO.getStderr).putStr exit.complaint
  return exit.code.toUInt32

end LanCensus.Main

/-- **`main args`** — the program. -/
def main (args : List String) : IO UInt32 := LanCensus.Main.run args
