import EventScript.Files.Path

/-!
Files and folders below a working folder. A file holds a text, or bytes that are no text. Whoever
owns the files may refuse a request, which then changes nothing.
-/

namespace EventScript

inductive FileError where
  | notFound
  | denied
  | alreadyThere
  | notFolder
  | isFolder
  | notText
  deriving DecidableEq, Repr

def FileError.message : FileError → String
  | .notFound => "No such file or directory (os error 2)"
  | .denied => "Permission denied (os error 13)"
  | .alreadyThere => "File exists (os error 17)"
  | .notFolder => "Not a directory (os error 20)"
  | .isFolder => "Is a directory (os error 21)"
  | .notText => "stream did not contain valid UTF-8"

inductive Content where
  | text (content : String)
  | binary
  deriving DecidableEq, Repr

def Content.ofBytes (bytes : ByteArray) : Content :=
  match String.fromUTF8? bytes with
  | some content => .text content
  | none => .binary

inductive FileNode where
  | folder
  | file (content : Content)
  deriving DecidableEq, Repr

abbrev Location := List String

inductive FileRequest where
  | read (path : String)
  | list (path : String)
  | makeFolders (path : String)
  | write (path : String)
  | rename (source target : String)
  deriving DecidableEq, Repr

structure Files where
  nodes : List (Location × FileNode) := []
  refusal : FileRequest → Option FileError := fun _ => none

namespace Files

instance : Inhabited Files := ⟨{}⟩

/-- A location that is always a folder: the working folder, the root, or a way up from them. -/
def IsBase (location : Location) : Prop :=
  location = [] ∨ location = ["/"] ∨ location.getLast? = some ".."

instance (location : Location) : Decidable (IsBase location) :=
  inferInstanceAs (Decidable (_ ∨ _ ∨ _))

def node? (files : Files) (location : Location) : Option FileNode :=
  if IsBase location then some .folder else files.nodes.lookup location

def place (files : Files) (location : Location) (node : FileNode) : Files :=
  { files with nodes := (location, node) :: files.nodes.filter fun entry => entry.1 != location }

def removeAt (files : Files) (location : Location) : Files :=
  { files with nodes := files.nodes.filter fun entry => entry.1 != location }

def step (here : Location) (segment : String) : Location :=
  if segment = "." then here
  else if segment = ".." ∧ here.getLast?.any (fun name => name != ".." && name != "/") then
    here.dropLast
  else here ++ [segment]

def follow (files : Files) : Location → List String → Except FileError Location
  | here, [] => .ok here
  | here, segment :: rest =>
    match files.node? here with
    | some .folder => follow files (step here segment) rest
    | some (.file _) => .error .notFolder
    | none => .error .notFound

def locate (files : Files) (path : String) : Except FileError Location :=
  if path.isEmpty then .error .notFound else files.follow [] (Path.segments path)

def find (files : Files) (path : String) : Except FileError FileNode := do
  let location ← files.locate path
  match files.node? location with
  | some node => .ok node
  | none => .error .notFound

def has (files : Files) (path : String) : Bool := (files.find path).isOk

def isFile (files : Files) (path : String) : Bool :=
  match files.find path with
  | .ok (.file _) => true
  | _ => false

def permitted {α : Type} (files : Files) (request : FileRequest) (run : Except FileError α) :
    Except FileError α :=
  match files.refusal request with
  | some error => .error error
  | none => run

def content (files : Files) (path : String) : Except FileError Content :=
  files.permitted (.read path) do
    match ← files.find path with
    | .folder => .error .isFolder
    | .file content => .ok content

def read (files : Files) (path : String) : Except FileError String := do
  match ← files.content path with
  | .text content => .ok content
  | .binary => .error .notText

def list (files : Files) (path : String) : Except FileError (List String) :=
  files.permitted (.list path) do
    let location ← files.locate path
    match files.node? location with
    | none => .error .notFound
    | some (.file _) => .error .notFolder
    | some .folder =>
      let names := files.nodes.filterMap fun entry =>
        if entry.1.dropLast = location then entry.1.getLast? else none
      .ok (names.mergeSort fun left right => !decide (right < left))

/-- Makes the folders that are missing along segments. If a file is in the way, the folders that
were made before it stay. It is met as one of the folders to make if it is the last one or another
one was made, and else on the way to them. -/
def makeFoldersFrom (files : Files) (made : Bool) :
    Location → List String → Except (FileError × Files) Files
  | _, [] => .ok files
  | here, segment :: rest =>
    let next := step here segment
    match files.node? next with
    | some .folder => makeFoldersFrom files made next rest
    | some (.file _) =>
      .error (if made || rest.isEmpty then .alreadyThere else .notFolder, files)
    | none => makeFoldersFrom (files.place next .folder) true next rest

def makeFolders (files : Files) (path : String) : Except (FileError × Files) Files :=
  match files.refusal (.makeFolders path) with
  | some error => .error (error, files)
  | none => makeFoldersFrom files false [] (Path.steps path)

def write (files : Files) (path : String) (content : Content) : Except FileError Files :=
  files.permitted (.write path) do
    if Path.namesFolder path then .error .isFolder
    else
      let location ← files.locate path
      match files.node? location with
      | some .folder => .error .isFolder
      | _ => .ok (files.place location (.file content))

def rename (files : Files) (source target : String) : Except FileError Files :=
  files.permitted (.rename source target) do
    let origin ← files.locate source
    match files.node? origin with
    | none => .error .notFound
    | some node =>
      if Path.namesFolder target then .error .notFolder
      else
        let location ← files.locate target
        match files.node? location with
        | some .folder => .error .isFolder
        | _ => .ok ((files.removeAt origin).place location node)

def remove (files : Files) (path : String) : Files :=
  match files.locate path with
  | .ok location => files.removeAt location
  | .error _ => files

end Files

end EventScript
