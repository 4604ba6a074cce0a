import EventScript.CommandLine.Watch

/-!
The commands of the command line: compiling scripts to see whether they are sound, firing an event
or a command, looking at the store and changing it, and summing up the scripts.
-/

namespace EventScript.CommandLine

inductive SettingsError where
  | unreadable (path : String) (cause : FileError)
  | malformed
  deriving DecidableEq, Repr

inductive CommandError where
  | usage
  | settings (error : SettingsError)
  | store (error : StoreError)
  | checkFailed (count : Nat)
  | unknownCommand (name : String)
  deriving DecidableEq, Repr

def CommandError.message : CommandError → String
  | .usage => "the arguments are not understood"
  | .settings (.unreadable path cause) => "cannot read " ++ path ++ ": " ++ cause.message
  | .settings .malformed => "invalid configuration"
  | .store error => error.message
  | .checkFailed count => Nat.repr count ++ " script(s) failed to compile"
  | .unknownCommand name => "no such command: " ++ name

structure Result where
  outcome : Except CommandError Unit := .ok ()
  output : Output := #[]
  files : Files
  deriving Inhabited

def usualSettingsPath : String := ".config/flok/flok.toml"

def readSettings (files : Files) (path : String) : Except SettingsError Settings :=
  match files.read path with
  | .error cause => .error (.unreadable path cause)
  | .ok source =>
    match Settings.read? source with
    | some settings => .ok settings
    | none => .error .malformed

def findSettings (files : Files) : Option String → Except SettingsError Settings
  | some path => readSettings files path
  | none => if files.isFile usualSettingsPath then readSettings files usualSettingsPath else .ok {}

def checkFile (files : Files) (path : String) : Bool × String :=
  let name := Path.label path
  match files.read path with
  | .error cause => (false, "  ERR " ++ name ++ ": " ++ cause.message)
  | .ok source =>
    match Script.compile name source with
    | .error error =>
      (false, "  ERR " ++ name ++ ": line " ++ Nat.repr error.line ++ ": " ++ error.message)
    | .ok script =>
      (true, "  ok  " ++ name ++ ": " ++ Nat.repr script.handlers.size ++ " event(s), " ++
        Nat.repr script.commands.size ++ " command(s), " ++ Nat.repr script.functions.size ++
        " function(s)")

def check (files : Files) (paths : List String) : Result :=
  let lines := paths.map (checkFile files)
  let failed := (lines.filter fun line => !line.1).length
  { outcome := if failed = 0 then .ok () else .error (.checkFailed failed)
    output := (lines.map (·.2)).toArray
    files }

def withStore (settings : Settings) (files : Files) (use : Store → Heap → Result) : Result :=
  let (loading, store, heap) := Store.openAt settings.dataFile files {}
  match loading.outcome with
  | .error error => { outcome := .error (.store error), files }
  | .ok () => use store heap

def listStore (settings : Settings) (files : Files) : Result :=
  withStore settings files fun store heap =>
    let lines := store.keys.map fun key => key ++ " = " ++ (store.get key).render heap
    { output := (lines ++ [Nat.repr store.size ++ " variable(s)"]).toArray, files }

def getStored (settings : Settings) (files : Files) (key : String) : Result :=
  withStore settings files fun store heap =>
    let value := store.get key
    { output := #[if value.isNull then "null" else value.render heap], files }

/-- Saves a store that was changed. What is printed comes after the save. -/
def saveChange (files : Files) (store : Store) (heap : Heap) (output : Output) : Result :=
  let (saving, _, files) := store.save files heap
  match saving.outcome with
  | .error error => { outcome := .error (.store error), files }
  | .ok () => { output, files }

def setStored (settings : Settings) (files : Files) (key content : String) : Result :=
  withStore settings files fun store heap =>
    let (value, heap) := match Document.read? content with
      | some document => Value.ofDocument document heap
      | none => (.text content, heap)
    saveChange files (store.set key value) heap #[]

def resetStore (settings : Settings) (files : Files) : Result :=
  withStore settings files fun store heap =>
    saveChange files store.reset heap #["storage cleared"]

def engineFor (machine : Machine) (settings : Settings) (store : Store) (heap : Heap)
    (effects : Effects Output) : Engine Output :=
  let engine : Engine Output :=
    { store, effects, machine, scheduler := .timers [], world := { heap, host := #[] } }
  engine.withSettings settings

def info (settings : Settings) (files : Files) (folder : String) : Result :=
  let (results, engine) := (engineFor .strict settings {} {} {}).loadAll files folder
  let loaded := (results.filter LoadResult.isOk).length
  let counted (names : List String) : String :=
    Nat.repr names.length ++ " (" ++ ", ".intercalate names ++ ")"
  let functions := engine.orderedScripts.foldl (fun total script => total + script.functions.size) 0
  { output := #["scripts:  " ++ Nat.repr loaded ++ "/" ++ Nat.repr results.length ++
        " loaded from " ++ folder,
      "events:   " ++ counted engine.eventNames, "commands: " ++ counted engine.commandNames,
      "functions: " ++ Nat.repr functions]
    files }

def loadScripts (engine : Engine Output) (files : Files) (folder : String) : Engine Output :=
  let (results, engine) := engine.loadAll files folder
  let failed := results.filter fun result => !result.isOk
  let host := engine.world.host ++ (failed.map fun result => "  ERR " ++ result.text).toArray
  { engine with world := { engine.world with host } }

/-- The end of a run: the store is saved and the engine shut down, unless saving failed before. -/
def finish (watch : Watch) (followed : Except (Stop StoreError) Unit) (ticks : Nat) :
    Except Loss Result :=
  match followed with
  | .error (.lost loss) => .error loss
  | .error (.failed error) => .ok
    { outcome := .error (.store error), output := watch.engine.world.host, files := watch.files }
  | .ok () =>
    let watch := watch.farewell ticks
    let (outcome, engine, files) := watch.engine.shutdown watch.files
    let outcome := match outcome with
      | .error error => .error (.store error)
      | .ok () => .ok ()
    .ok { outcome, output := engine.world.host, files }

def fire (machine : Machine) (settings : Settings) (files : Files) (folder : String)
    (target : Target) (ticks : Nat) : Except (Stop Result) Watch :=
  let (loading, store, heap) := Store.openAt settings.dataFile files {}
  match loading.outcome with
  | .error error => .error (.failed { outcome := .error (.store error), files })
  | .ok () =>
    let engine := loadScripts (engineFor machine settings store heap consoleEffects) files folder
    match Watch.start settings engine files target ticks with
    | some outcome => outcome.mapError .lost
    | none =>
      let name := match target with
        | .event name | .command name _ => name
      .error (.failed
        { outcome := .error (.unknownCommand name), output := engine.world.host, files })

def run (machine : Machine) (settings : Settings) (files : Files) (folder : String)
    (target : Target) (ticks : Nat) : Except Loss Result :=
  match fire machine settings files folder target ticks with
  | .error (.lost loss) => .error loss
  | .error (.failed result) => .ok result
  | .ok watch =>
    let (followed, watch) := Watch.follow watch.signalBound watch
    finish watch followed ticks

def perform (machine : Machine) (settings : Settings) (files : Files) : Action → Except Loss Result
  | .check paths => .ok (check files paths)
  | .run scripts target ticks =>
    run machine settings files (scripts.getD settings.scriptsFolder) target ticks
  | .listStore => .ok (listStore settings files)
  | .getStored key => .ok (getStored settings files key)
  | .setStored key value => .ok (setStored settings files key value)
  | .resetStore => .ok (resetStore settings files)
  | .info scripts => .ok (info settings files (scripts.getD settings.scriptsFolder))

def execute (machine : Machine) (files : Files) (arguments : List String) : Except Loss Result :=
  match Arguments.read? arguments with
  | none => .ok { outcome := .error .usage, files }
  | some arguments =>
    match findSettings files arguments.settings with
    | .error error => .ok { outcome := .error (.settings error), files }
    | .ok settings => perform machine settings files arguments.action

end EventScript.CommandLine
