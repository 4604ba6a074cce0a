import EventScript.Engine.Basic

/-!
Loading scripts from files and texts. A script that cannot be loaded is reported and left out; the
others are not touched.
-/

namespace EventScript

inductive LoadFault where
  | source (error : SourceError)
  | missing
  | unreadable (cause : FileError)
  | notText

structure LoadResult where
  file : String
  fault : Option LoadFault := none

namespace LoadFault

def message : LoadFault → String
  | .source error => error.message
  | .missing => "File not found"
  | .unreadable cause => cause.message
  | .notText => "not valid UTF-8"

def line? : LoadFault → Option Nat
  | .source error => some error.line
  | _ => none

end LoadFault

namespace LoadResult

def isOk (result : LoadResult) : Bool := result.fault.isNone

def text (result : LoadResult) : String :=
  match result.fault with
  | none => result.file ++ ": ok"
  | some (.source error) =>
    result.file ++ " (line " ++ Nat.repr error.line ++ "): " ++ error.message
  | some .notText => result.file ++ ": unexpected error: " ++ LoadFault.notText.message
  | some fault => result.file ++ ": " ++ fault.message

end LoadResult

namespace Engine

variable {σ : Type}

def install (engine : Engine σ) (name source : String) : LoadResult × Engine σ :=
  match Script.compile name source with
  | .error error => (⟨name, some (.source error)⟩, engine)
  | .ok script =>
    let engine := if script.strayCount = 0 then engine
      else engine.report .debug (name ++ ": " ++ Nat.repr script.strayCount ++
        " top-level statement(s) outside any block are ignored")
    (⟨name, none⟩, { engine with scripts := engine.scripts.put name script })

def installFile (engine : Engine σ) (files : Files) (path : String) : LoadResult × Engine σ :=
  let name := Path.label path
  match files.content path with
  | .error cause => (⟨name, some (.unreadable cause)⟩, engine)
  | .ok .binary => (⟨name, some .notText⟩, engine)
  | .ok (.text source) => engine.install name source

def warnUnlessOk (engine : Engine σ) (result : LoadResult) : Engine σ :=
  if result.isOk then engine else engine.report .warn result.text

def loadSource (engine : Engine σ) (name source : String) : LoadResult × Engine σ :=
  let (result, engine) := engine.install name source
  (result, (engine.warnUnlessOk result).rebuild)

def fileName (engine : Engine σ) (name : String) : String :=
  let ending := "." ++ engine.extension
  if Text.finishesWith name ending then name else name ++ ending

def loadSingle (engine : Engine σ) (files : Files) (folder name : String) :
    LoadResult × Engine σ :=
  let name := engine.fileName name
  let path := Path.join folder name
  if files.isFile path then
    let (result, engine) := engine.installFile files path
    (result, (engine.warnUnlessOk result).rebuild)
  else (⟨name, some .missing⟩, engine)

def installAll (files : Files) : List String → Engine σ → List LoadResult × Engine σ
  | [], engine => ([], engine)
  | path :: paths, engine =>
    let (result, engine) := engine.installFile files path
    let (results, engine) := installAll files paths engine
    (result :: results, engine)

def scriptFiles (engine : Engine σ) (files : Files) (folder : String) (names : List String) :
    List String :=
  (names.map (Path.join folder)).filter fun path =>
    files.isFile path && Path.extension? path == some engine.extension

def loadAll (engine : Engine σ) (files : Files) (folder : String) :
    List LoadResult × Engine σ :=
  match files.list folder with
  | .error cause =>
    ([], engine.report .warn ("scripts folder " ++ folder ++ " not readable: " ++ cause.message))
  | .ok names =>
    let paths := engine.scriptFiles files folder names
    let (results, engine) := installAll files paths { engine with scripts := {} }
    let engine := results.foldl (fun engine result =>
      if result.isOk then engine.report .debug ("loaded " ++ result.file)
      else engine.report .warn result.text) engine
    let loaded := (results.filter LoadResult.isOk).length
    let engine := engine.rebuild
    (results, engine.report .info
      ("Loaded " ++ Nat.repr loaded ++ "/" ++ Nat.repr results.length ++ " script(s)"))

end Engine

end EventScript
