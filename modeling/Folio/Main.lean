import Folio.Lua
import Folio.Program
import Folio.Watch.Loop
import Std.Time

/-!
# The executable

The files that a command can read are loaded, the command is run on them, and what it changed is
written back. A watch looks at the files again and again.
-/

namespace Folio.Main

/-! ## Section 1: Files on disk -/

/-- Add a file to files in memory. -/
def loadFile (fs : FileSystem) (path : String) : IO FileSystem := do
  let real ← IO.FS.realPath path
  let content ← IO.FS.readBinFile real
  return fs.set (Path.ofString real.toString).names (.file content)

/-- Add everything below a directory to files in memory. -/
partial def loadTree (fs : FileSystem) (path : String) : IO FileSystem := do
  let real ← IO.FS.realPath path
  let mut fs := fs.set (Path.ofString real.toString).names .directory
  for entry in ← real.readDir do
    if ← entry.path.isDir then fs ← loadTree fs entry.path.toString
    else
      let content ← IO.FS.readBinFile entry.path
      fs := fs.set (Path.ofString entry.path.toString).names (.file content)
  return fs

/-- Add the directories on the way to a place. -/
def addWay (fs : FileSystem) (place : Place) : FileSystem :=
  (List.range place.length).foldl (fun fs n =>
    let way := place.take n
    if way.isEmpty || (fs.entry? way).isSome then fs else fs.set way .directory) fs

/-- Add what a path leads to on disk, if there is something. -/
def load (fs : FileSystem) (path : Path) : IO FileSystem := do
  try
    let real ← IO.FS.realPath path.display
    let place := (Path.ofString real.toString).names
    let fs := addWay fs place
    if ← real.isDir then loadTree fs real.toString else loadFile fs real.toString
  catch _ => return fs

/-- The files that a command line can read: those of its project, and those that its settings
name. -/
def snapshot (commandLine : CommandLine) : IO FileSystem := do
  let here := Path.ofString (← IO.currentDir).toString
  let root := Config.projectRoot commandLine
  let path := root.join commandLine.config
  let fs : FileSystem := { workingDirectory := here.names }
  let fs := (addWay fs here.names).set here.names .directory
  let fs ← load fs root
  let fs ← load fs path
  match Config.readFile fs path with
  | .error _ => return fs
  | .ok config =>
      let config := Config.override commandLine.command config
      let fs ← load fs (root.join config.build.root)
      let fs ← load fs (root.join config.build.output)
      config.compilers.scripts.foldlM (fun fs script => load fs (root.join script.program)) fs

/-- The places that hold something else than before. -/
def changedPlaces (before after : FileSystem) : List Place :=
  let gone := before.entries.filterMap fun (place, _) =>
    if (after.entry? place).isNone then some place else none
  let new := after.entries.filterMap fun (place, entry) =>
    if before.entry? place = some entry then none else some place
  gone ++ new

/-- Write to disk what has changed. -/
def store (before after : FileSystem) : IO Unit := do
  for (place, entry) in before.entries.reverse do
    if (after.entry? place).isNone then
      let path := (Path.ofRootNames place).display
      match entry with
      | .file _ => IO.FS.removeFile path
      | .directory => IO.FS.removeDir path
  for (place, entry) in after.entries do
    if before.entry? place ≠ some entry then
      let path := (Path.ofRootNames place).display
      match entry with
      | .file content => IO.FS.writeBinFile path content
      | .directory => IO.FS.createDirAll path

/-! ## Section 2: The terminal -/

/-- A number with two digits. -/
def twoDigits (n : Int) : String := (if n < 10 then "0" else "") ++ toString n

/-- The time of day. -/
def timeOfDay : IO String := do
  let now ← Std.Time.PlainTime.now
  return twoDigits now.hour.val ++ ":" ++ twoDigits now.minute.val ++ ":"
    ++ twoDigits now.second.val

/-- Tell the user. -/
def tell (console : Console) (notices : List Notice) : IO Console := do
  let (text, console) := console.writeAll (← timeOfDay) notices
  IO.eprint text
  return console

/-! ## Section 3: Watching -/

/-- The changes between two looks at the files, as far as they are watched. -/
def changes (config : Config) (before after : FileSystem) : FileEvent :=
  let targets := config.watchTargets after
  let paths := (changedPlaces before after).map Path.ofRootNames
  { kind := .modify
    paths := paths.filter fun p => targets.any fun (target, _) => p.startsWith target }

/-- Look at the files again and again, and handle what has changed. -/
partial def watch (console : Console) (watching : Watch Lua.Runtime) : IO Unit := do
  IO.sleep 100
  let state := watching.state
  let files ← snapshot state.session.commandLine
  let event := changes state.session.config state.fs files
  let message : Debouncer.Message := if event.paths.isEmpty then .timeout else .event event
  let (batch, watching) := watching.turn Lua.language { time := ← IO.monoMsNow, message, files }
  let state := watching.state
  if batch.isSome then store files state.fs
  let console ← tell console state.notices
  watch console { watching with state := { state with notices := [] } }

/-! ## Section 4: Commands -/

/-- Do what arguments ask for: the exit status. -/
def start (arguments : List String) : IO UInt32 := do
  match CommandLine.parse arguments with
  | .error e =>
      match e.helpText? with
      | some text => IO.print text; return 0
      | none => IO.eprintln e.summary; return 2
  | .ok commandLine =>
      let fs ← snapshot commandLine
      let console : Console := {}
      match Program.runCommand Lua.language fs commandLine with
      | .ok state =>
          store fs state.fs
          let console ← tell console state.notices
          watch console (.start { state with notices := [] })
          return 0
      | .error report =>
          store fs report.fs
          let _ ← tell console report.notices
          IO.print report.output
          for line in Program.causeLines report.errors do IO.eprintln line
          return report.status.toUInt32

end Folio.Main

/-- The executable. -/
def main (arguments : List String) : IO UInt32 := Folio.Main.start arguments
