import EventScript.CommandLine

/-!
The program: it copies the files that a command needs, carries the command out on the copy, and
writes the data file back. Handlers that pause are waited for in real time.
-/

namespace EventScript.Terminal

open CommandLine

def copyOne (files : Files) (path : String) : IO Files := do
  let real := (← IO.currentDir) / path
  if ← real.isDir then return (files.makeFolders path).toOption.getD files
  else if ← real.pathExists then
    let files := match Path.parent? path with
      | some folder => (files.makeFolders folder).toOption.getD files
      | none => files
    try
      let bytes ← IO.FS.readBinFile real
      return (files.write path (.ofBytes bytes)).toOption.getD files
    catch _ =>
      let files := (files.write path .binary).toOption.getD files
      return { files with refusal := fun request =>
        if request = .read path then some .denied else files.refusal request }
  else return files

def copyPath (files : Files) (path : String) : IO Files := do
  let steps := Path.steps path
  let mut files := files
  for count in List.range steps.length do
    files ← copyOne files (Path.ofSegments (steps.take (count + 1)))
  return files

def copyFolder (files : Files) (folder : String) : IO Files := do
  let mut files ← copyPath files folder
  let real := (← IO.currentDir) / folder
  if ← real.isDir then
    for entry in ← real.readDir do
      files ← copyOne files (Path.join folder entry.fileName)
  return files

def writeBack (path : String) (before after : Files) : IO Unit := do
  match after.read path with
  | .error _ => return
  | .ok content =>
    if (before.read path).toOption != some content then
      let current ← IO.currentDir
      if let some folder := Path.parent? path then IO.FS.createDirAll (current / folder)
      let draft := current / Store.draftPath path
      IO.FS.writeFile draft content
      IO.FS.rename draft (current / path)

def printFrom (printed : Nat) (output : Output) : IO Nat := do
  for line in output.toList.drop printed do IO.println line
  (← IO.getStdout).flush
  return output.size

partial def follow (watch : Watch) (printed : Nat) :
    IO (Except (Stop StoreError) Unit × Watch × Nat) := do
  let printed ← printFrom printed watch.engine.world.host
  if watch.isOver then return (.ok (), watch, printed)
  let (signal, later) := watch.nextSignal
  IO.sleep (min (later.now - watch.now) longestWait).toUInt32
  match later.receive signal with
  | (.error stop, later) => return (.error stop, later, printed)
  | (.ok (), later) =>
    writeBack later.settings.dataFile watch.files later.files
    follow later printed

def carryOut (settings : Settings) (files : Files) (action : Action) :
    IO (Except Loss Result) := do
  let files ← copyPath files settings.dataFile
  match action with
  | .check paths => return .ok (check (← paths.foldlM copyPath files) paths)
  | .info folder =>
    let files ← copyFolder files (folder.getD settings.scriptsFolder)
    return perform .merging settings files action
  | .run folder target ticks =>
    let folder := folder.getD settings.scriptsFolder
    let files ← copyFolder files folder
    match fire .merging settings files folder target ticks with
    | .error (.lost loss) => return .error loss
    | .error (.failed result) => return .ok result
    | .ok watch =>
      let (followed, watch, printed) ← follow watch 0
      match finish watch followed ticks with
      | .error loss => return .error loss
      | .ok result =>
        writeBack settings.dataFile watch.files result.files
        return .ok { result with output := result.output.extract printed result.output.size }
  | action =>
    let outcome := perform .merging settings files action
    if let .ok result := outcome then writeBack settings.dataFile files result.files
    return outcome

partial def endLost : Loss → IO UInt32
  | .panicked => return 101
  | loss => do
    IO.sleep 1000
    endLost loss

def homeSettings : IO (Option String) := do
  match ← IO.getEnv "HOME" with
  | none => return none
  | some home =>
    let path := Path.join home usualSettingsPath
    let real := (← IO.currentDir) / path
    return if ← real.pathExists then some path else none

def runProgram (arguments : List String) : IO UInt32 := do
  match Arguments.read? arguments with
  | none =>
    IO.eprintln "Usage: flok [--config FILE] (check FILES | run | storage | info)"
    return 2
  | some arguments =>
    let path := arguments.settings.or (← homeSettings)
    let files ← match path with
      | some path => copyPath {} path
      | none => pure {}
    let outcome ← match findSettings files path with
      | .error error => pure (.ok { outcome := .error (.settings error), files })
      | .ok settings => carryOut settings files arguments.action
    match outcome with
    | .error loss => endLost loss
    | .ok result =>
      let _ ← printFrom 0 result.output
      match result.outcome with
      | .ok () => return 0
      | .error error =>
        IO.eprintln ("flok: " ++ error.message)
        return 1

end EventScript.Terminal

def main (arguments : List String) : IO UInt32 := EventScript.Terminal.runProgram arguments
