import BlockTemplates.Command.Run

/-! The program. The part of the disk that a command line is about is read into a file system, the
command line is carried out on it, and what has come of that is printed and written. -/

namespace BlockTemplates.Disk

/-- What is at a path of the disk, links followed. A folder inside of itself is a link to the path
at which it has been found first, and what cannot be read is a link to nothing. -/
partial def readNode (above : List (String × String)) (path : String) : IO Node := do
  let place := (← IO.currentDir) / path
  try
    if ← place.isDir then
      let real := toString (← IO.FS.realPath path)
      match above.lookup real with
      | some first => return .link ⟨first⟩
      | none =>
        let mut entries : Dict Node := .empty
        for entry in ← place.readDir do
          let inner ← readNode ((real, path) :: above) (path ++ "/" ++ entry.fileName)
          entries := entries.insert entry.fileName inner
        return .folder entries.entries
    else return .file (String.fromUTF8? (← IO.FS.readBinFile path))
  catch _ => return .link ⟨"\x00"⟩

def mountAll (files : FileSystem) (paths : List Path) : IO FileSystem :=
  paths.foldlM (fun files path => do
    if ← ((← IO.currentDir) / path.text).pathExists then
      return files.mount path (← readNode [] path.text)
    else return files) files

def workingFolder : IO FileSystem := do
  let working : Path := ⟨toString (← IO.currentDir)⟩
  let names := working.components.filterMap (fun component =>
    match component with | .name s => some s | _ => none)
  return { FileSystem.empty.mount working .empty with working := names }

def writeOutput (files : FileSystem) (path : Path) : IO Unit := do
  match files.readText path with
  | .ok content =>
    match path.parent? with
    | some folder => if !folder.text.isEmpty then IO.FS.createDirAll folder.text
    | none => pure ()
    IO.FS.writeFile path.text content
  | .error _ => pure ()

/-- A command line is carried out on the disk; the exit code. -/
def run (line : CommandLine) (color : Bool) : IO Nat := do
  let files ← workingFolder
  let files ← mountAll files (line.configPaths files)
  let files ← mountAll files (line.paths files)
  let outcome := line.run files color
  for complaint in outcome.complaints do
    for text in complaint.lines do
      IO.eprintln text
  if outcome.code = 0 then
    match line.output? files with
    | some path => writeOutput outcome.files path
    | none => pure ()
  IO.print outcome.output
  return outcome.code

end BlockTemplates.Disk

def main (arguments : List String) : IO UInt32 := do
  match BlockTemplates.CommandLine.ofArguments arguments with
  | .ok line =>
    let color := (← IO.getEnv "NO_COLOR").isNone
    return (← BlockTemplates.Disk.run line color).toUInt32
  | .error refusal =>
    if refusal.exitCode = 0 then IO.println refusal.message else IO.eprintln refusal.message
    return refusal.exitCode.toUInt32
