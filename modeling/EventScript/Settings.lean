import EventScript.Interpreter.Basic
import EventScript.Toml.Reader

/-!
The settings of an engine. Each has a usual value, so that a document need not name it; names that
mean nothing are passed over.
-/

namespace EventScript

structure Settings where
  operations : Nat := 50000
  depth : Nat := 64
  tickMillis : Nat := 50
  actorPrefix : String := "player-"
  scriptsFolder : String := "scripts"
  scriptExtension : String := "fk"
  dataFile : String := "data.json"
  debug : Bool := false
  autosaveSeconds : Nat := 300
  deriving DecidableEq, Repr

namespace Settings

instance : Inhabited Settings := ⟨{}⟩

def natural (table : Toml.Table) (name : String) (usual : Nat) : Option Nat :=
  match table.get? name with
  | none => some usual
  | some (.integer number) => if 0 ≤ number then some number.toNat else none
  | some _ => none

def text (table : Toml.Table) (name : String) (usual : String) : Option String :=
  match table.get? name with
  | none => some usual
  | some (.text content) => some content
  | some _ => none

def truth (table : Toml.Table) (name : String) (usual : Bool) : Option Bool :=
  match table.get? name with
  | none => some usual
  | some (.bool truth) => some truth
  | some _ => none

def ofTable? (table : Toml.Table) : Option Settings := do
  let usual : Settings := {}
  let operations ← natural table "max_ops" usual.operations
  let depth ← natural table "max_call_depth" usual.depth
  let tickMillis ← natural table "tick_millis" usual.tickMillis
  let actorPrefix ← text table "actor_prefix" usual.actorPrefix
  let scriptsFolder ← text table "scripts_dir" usual.scriptsFolder
  let scriptExtension ← text table "script_extension" usual.scriptExtension
  let dataFile ← text table "data_file" usual.dataFile
  let debug ← truth table "debug" usual.debug
  let autosaveSeconds ← natural table "autosave_seconds" usual.autosaveSeconds
  some ⟨operations, depth, tickMillis, actorPrefix, scriptsFolder, scriptExtension, dataFile, debug,
    autosaveSeconds⟩

def read? (source : String) : Option Settings := (Toml.read? source).bind ofTable?

def limits (settings : Settings) : Limits :=
  ⟨settings.operations, settings.depth, settings.actorPrefix⟩

def tickLength (settings : Settings) : Nat := max 1 settings.tickMillis

def autosaveInterval? (settings : Settings) : Option Nat :=
  if settings.autosaveSeconds = 0 then none else some settings.autosaveSeconds

end Settings

end EventScript
