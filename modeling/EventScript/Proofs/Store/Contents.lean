import EventScript.Proofs.Store.Reopening
import EventScript.Proofs.Value.Contents

/-!
What a store holds after it was loaded. It depends on the file alone and not on what else is in the
heap. If the document of a store reads back as itself, then loading the file that it was saved to
gives exactly that document.
-/

namespace EventScript.Store

open Document

def restored : Document → Document
  | .object members => .object (Dictionary.ofList (settledMembers members)).sorted
  | _ => .object []

theorem document?_empty {store : Store} (empty : store.entries = {}) (heap : Heap) :
    store.document? heap = some (.object []) := by
  simp [document?, empty, Dictionary.sorted]

theorem document?_entriesOf (document : Document) (heap : Heap) (store : Store)
    (entries : store.entries = (entriesOf document heap).1) :
    store.document? (entriesOf document heap).2 = some (restored document) := by
  cases document with
  | object members =>
      rw [document?, entries]
      have made := Value.ofMembers_made members heap
      have each := made.reads _ ((Value.ofMembers members heap).2.containerCount + 1) (.refl _)
        (by omega)
      have rows := Dictionary.sorted_map_eq Value.entryTo?_key
        (Dictionary.ofList_map_eq Value.entryTo?_key each)
      exact congrArg (Option.map Document.object) (mapM_eq_some_iff.mpr rows)
  | _ => exact document?_empty entries _

def Reloads (path : String) (files : Files) (document : Document) : Prop :=
  ∀ heap, (openAt path files heap).1.outcome = .ok () ∧
    (openAt path files heap).2.1.document? (openAt path files heap).2.2 = some document

theorem reloads_of_readDocument {files : Files} {path : String} {document : Document}
    (there : files.has path = true) (read : readDocument files path = .ok document) :
    Reloads path files (restored document) := by
  intro heap
  simp only [openAt, load, there, if_true, read]
  exact ⟨rfl, document?_entriesOf document heap _ rfl⟩

theorem reloads_of_missing {files : Files} {path : String} (missing : files.has path = false) :
    Reloads path files (.object []) := by
  intro heap
  simp only [openAt, load, missing, Bool.false_eq_true, if_false]
  exact ⟨rfl, document?_empty rfl heap⟩

theorem restored_of_exact {store : Store} {heap : Heap} {document : Document}
    (saved : store.document? heap = some document)
    (exact : Document.read? document.indented = some document) : restored document = document := by
  obtain ⟨members, rfl, each⟩ := document?_eq_some saved
  rw [read?_indented] at exact
  obtain ⟨distinct, inner⟩ := Value.members_exact exact
  have same := Value.settledMembers_of_rows each fun value member inside saved =>
    Value.settled_of_exact saved (inner member inside)
  have ordered : members.Pairwise fun left right => Dictionary.ascending left.1 right.1 = true := by
    have sorted : (store.entries.sorted.map (·.1)).Pairwise fun left right =>
        Dictionary.ascending left right = true :=
      List.pairwise_map.mpr store.entries.sorted_pairwise
    rw [← Dictionary.keys_of_map_eq Value.entryTo?_key each] at sorted
    exact List.pairwise_map.mp sorted
  rw [restored, same, Dictionary.sorted, Dictionary.entries_ofList distinct,
    List.mergeSort_of_pairwise ordered]

theorem reloads_saved {store : Store} {heap : Heap} {document : Document} {files after : Files}
    {path : String} (saved : store.document? heap = some document)
    (written : writeText files path document.indented = (.ok (), after))
    (readable : files.refusal (.read path) = none)
    (exact : Document.read? document.indented = some document) : Reloads path after document := by
  have found := find_written written
  have read := readDocument_text found (refusal_written written ▸ readable)
  rw [exact] at read
  have reloads := reloads_of_readDocument (has_of_find found) read
  rwa [restored_of_exact saved exact] at reloads

end EventScript.Store
