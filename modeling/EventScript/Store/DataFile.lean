import EventScript.Document.Reader
import EventScript.Document.Writer
import EventScript.Files
import EventScript.Log
import EventScript.Store
import EventScript.Value.Document

/-!
The file behind a store. It holds one object with a member for each entry, in ascending order of the
keys. A new version is written to a file beside it and then moved over it, so that the file is never
half written.
-/

namespace EventScript

inductive StoreError where
  | access (path : String) (cause : FileError)
  | malformed (path : String)
  deriving DecidableEq, Repr

def StoreError.message : StoreError → String
  | .access path cause => "cannot access " ++ path ++ ": " ++ cause.message
  | .malformed path => "malformed data file " ++ path

namespace Store

inductive Loading where
  | inMemory
  | missing (path : String)
  | loaded (count : Nat)
  | failed (error : StoreError)
  deriving DecidableEq, Repr

def Loading.outcome : Loading → Except StoreError Unit
  | .failed error => .error error
  | _ => .ok ()

def Loading.entries : Loading → List LogEntry
  | .missing path => [⟨.debug, "no data file at " ++ path ++ ", starting empty"⟩]
  | .loaded count => [⟨.info, "Loaded " ++ Nat.repr count ++ " persistent variable(s)"⟩]
  | _ => []

inductive Saving where
  | inMemory
  | upToDate
  | saved (path : String)
  | endless
  | failed (error : StoreError)
  deriving DecidableEq, Repr

def Saving.outcome : Saving → Except StoreError Unit
  | .failed error => .error error
  | _ => .ok ()

def Saving.entries : Saving → List LogEntry
  | .saved path => [⟨.debug, "saved persistent store to " ++ path⟩]
  | _ => []

/-- The entries that a document stands for. What is no object stands for none. -/
def entriesOf (document : Document) (heap : Heap) : Dictionary Value × Heap :=
  match document with
  | .object members =>
    let (entries, heap) := Value.ofMembers members heap
    (Dictionary.ofList entries, heap)
  | _ => ({}, heap)

def readDocument (files : Files) (path : String) : Except StoreError Document :=
  match files.read path with
  | .error cause => .error (.access path cause)
  | .ok source =>
    match Document.read? source with
    | none => .error (.malformed path)
    | some document => .ok document

/-- Replaces the entries by those in the data file. If there is no such file, or it cannot be read,
everything stays as it is. -/
def load (store : Store) (files : Files) (heap : Heap) : Loading × Store × Heap :=
  match store.path with
  | none => (.inMemory, store, heap)
  | some path =>
    if files.has path then
      match readDocument files path with
      | .error error => (.failed error, store, heap)
      | .ok document =>
        let (entries, heap) := entriesOf document heap
        (.loaded entries.size, { store with entries, dirty := false }, heap)
    else (.missing path, store, heap)

def document? (store : Store) (heap : Heap) : Option Document :=
  let members : Option (List (String × Document)) := store.entries.sorted.mapM fun entry =>
    (entry.2.document? heap).map fun document => (entry.1, document)
  members.map .object

def draftPath (path : String) : String := Path.withExtension path "json.tmp"

def prepareFolder (files : Files) (path : String) : Except (FileError × Files) Files :=
  match Path.parent? path with
  | some folder => files.makeFolders folder
  | none => .ok files

/-- Makes the folder of the data file, writes the draft and moves it over the data file. What was
done before a failure stays done. -/
def writeText (files : Files) (path text : String) : Except FileError Unit × Files :=
  match prepareFolder files path with
  | .error (error, files) => (.error error, files)
  | .ok files =>
    match files.write (draftPath path) (.text text) with
    | .error error => (.error error, files)
    | .ok files =>
      match files.rename (draftPath path) path with
      | .error error => (.error error, files)
      | .ok files => (.ok (), files)

def forceSave (store : Store) (files : Files) (heap : Heap) : Saving × Store × Files :=
  match store.path with
  | none => (.inMemory, { store with dirty := false }, files)
  | some path =>
    match store.document? heap with
    | none => (.endless, { store with dirty := false }, files)
    | some document =>
      match writeText files path document.indented with
      | (.ok (), files) => (.saved path, { store with dirty := false }, files)
      | (.error cause, files) => (.failed (.access path cause), { store with dirty := true }, files)

def save (store : Store) (files : Files) (heap : Heap) : Saving × Store × Files :=
  if store.dirty then store.forceSave files heap else (.upToDate, store, files)

def openAt (path : String) (files : Files) (heap : Heap) : Loading × Store × Heap :=
  ({ path := some path } : Store).load files heap

end Store

end EventScript
