import Mathlib
import EventScript.Engine.Dispatch
import EventScript.Proofs.Files.Growth
import EventScript.Proofs.Store.Session

/-!
What is left of an attempt to save or to load that fails. A save that fails leaves the entries as
they are, still to be saved, and beside them new folders and perhaps a draft; no other file is
touched. The data file is thus the one that was there, or there is none as before, unless its path
goes up out of a folder that was only made now: then the path leads to what stood there all along. A
load that fails leaves everything as it was.
-/

namespace EventScript

namespace Files

def fileAt? (files : Files) (path : String) : Option Content :=
  match files.find path with
  | .ok (.file content) => some content
  | _ => none

theorem fileAt?_eq_some {files : Files} {path : String} {content : Content} :
    files.fileAt? path = some content ↔ ∃ location, files.locate path = .ok location ∧
      files.node? location = some (.file content) := by
  simp only [fileAt?, find, bind, Except.bind]
  cases files.locate path with
  | error error => simp
  | ok location =>
      cases there : files.node? location with
      | none => simp [there]
      | some node => cases node <;> simp [there]

theorem locate_of_follow {files later : Files} {path : String} {location other : Location}
    (located : later.locate path = .ok other)
    (follows : files.follow [] (Path.segments path) = .ok location) :
    files.locate path = .ok location := by
  unfold locate at located ⊢
  split at located
  · cases located
  · next some => rw [if_neg some, follows]

end Files

namespace Store

open Files

/-- How a failed attempt to write a data file leaves the files: folders were made where nothing was,
a draft may have been written, and nothing else was touched, least of all the data file. -/
structure Spared (path : String) (files ready after : Files) : Prop where
  grown : Grown files ready
  kept : KeepsFolders ready after
  keeps : KeepsFolders after ready
  elsewhere : ∀ location, after.locate (draftPath path) ≠ .ok location →
    after.node? location = ready.node? location
  target : ∀ location, after.locate path = .ok location →
    after.node? location = ready.node? location

theorem Spared.of_grown {path : String} {files after : Files} (grown : Grown files after) :
    Spared path files after after :=
  ⟨grown, fun _ folder => folder, fun _ folder => folder, fun _ _ => rfl, fun _ _ => rfl⟩

theorem prepareFolder_grown (files : Files) (path : String) :
    Grown files (left (prepareFolder files path)) := by
  unfold prepareFolder
  split
  · exact makeFolders_grown _ _
  · exact .refl files

theorem Spared.of_draft {path : String} {files ready drafted : Files} {content : Content}
    (grown : Grown files ready) (draft : ready.write (draftPath path) content = .ok drafted) :
    Spared path files ready drafted := by
  obtain ⟨place, placed, free, rfl⟩ := write_ok draft
  have apart := not_isBase_of_node?_ne free
  have elsewhere : ∀ location, location ≠ place →
      (ready.place place (.file content)).node? location = ready.node? location := by
    intro location other
    rw [node?_place apart, if_neg other]
  have kept := keepsFolders_place free (.file content)
  refine ⟨grown, kept, ?_, ?_, ?_⟩
  · intro location folder
    rw [node?_place apart] at folder
    split at folder
    · cases folder
    · exact folder
  · intro location other
    refine elsewhere location ?_
    rintro rfl
    exact other (locate_keeps kept placed)
  · intro location located
    cases named : Path.name? path with
    | none =>
        rw [draftPath, Path.withExtension, named] at placed
        exact absurd (folder_of_unnamed named placed) free
    | some name => exact elsewhere location (draft_apart named placed located)

theorem spared_of_failed {files after : Files} {path text : String} {cause : FileError}
    (failed : writeText files path text = (.error cause, after)) :
    ∃ ready, Spared path files ready after := by
  have made := prepareFolder_grown files path
  rcases writeText_cases files path text with ⟨error, rest, prepared, outcome⟩ |
    ⟨ready, prepared, ⟨error, _, outcome⟩ | ⟨drafted, draft, ⟨error, _, outcome⟩ |
      ⟨moved, _, outcome⟩⟩⟩
  all_goals
    rw [outcome] at failed
    rw [prepared] at made
    cases failed
  · exact ⟨_, .of_grown made⟩
  · exact ⟨_, .of_grown made⟩
  · exact ⟨_, .of_draft made draft⟩

/-- What a failed save leaves: the entries, still to be saved, and all files but a draft. A path
that does not go up, or whose folders were all there, leads to the same file as before or to none as
before; and in any case to a file only if that stood where the path leads. -/
structure NothingSaved (path : String) (store : Store) (files : Files) (later : Store)
    (after : Files) : Prop where
  store : later = { store with dirty := true }
  elsewhere : ∀ location, after.locate (draftPath path) ≠ .ok location →
    after.node? location = files.node? location ∨
      files.node? location = none ∧ after.node? location = some .folder
  stood : ∀ content, after.fileAt? path = some content → ∃ location,
    after.locate path = .ok location ∧ files.node? location = some (.file content)
  same : ".." ∉ Path.segments path ∨ (∃ location, files.locate path = .ok location) →
    after.fileAt? path = files.fileAt? path

section Spared

variable {path : String} {files ready after : Files}

theorem Spared.stood (spared : Spared path files ready after) {content : Content}
    (found : after.fileAt? path = some content) : ∃ location,
      after.locate path = .ok location ∧ files.node? location = some (.file content) := by
  obtain ⟨location, located, there⟩ := fileAt?_eq_some.mp found
  rw [spared.target location located] at there
  exact ⟨location, located, spared.grown.file there⟩

theorem Spared.locate (spared : Spared path files ready after) {location : Location}
    (located : files.locate path = .ok location) : after.locate path = .ok location :=
  locate_keeps spared.kept (locate_keeps spared.grown.keepsFolders located)

theorem Spared.same (spared : Spared path files ready after) (lies : files.InFolders)
    (reached : ".." ∉ Path.segments path ∨ ∃ location, files.locate path = .ok location) :
    after.fileAt? path = files.fileAt? path := by
  refine Option.ext fun content => ?_
  constructor
  · intro found
    obtain ⟨location, located, there⟩ := fileAt?_eq_some.mp found
    obtain ⟨_, again, stood⟩ := spared.stood found
    obtain rfl := Except.ok.inj (located.symm.trans again)
    refine fileAt?_eq_some.mpr ⟨location, ?_, stood⟩
    rcases reached with straight | ⟨before, known⟩
    · exact locate_of_follow located (lies.follow_before straight (by simp) (locate_ok located)
        there (by simp [stood]))
    · rwa [Except.ok.inj (located.symm.trans (spared.locate known))]
  · intro found
    obtain ⟨location, located, there⟩ := fileAt?_eq_some.mp found
    have still := spared.locate located
    refine fileAt?_eq_some.mpr ⟨location, still, ?_⟩
    rw [spared.target location still]
    rcases spared.grown location with kept | ⟨empty, _⟩
    · exact kept.trans there
    · rw [empty] at there
      cases there

theorem Spared.nothingSaved (spared : Spared path files ready after) (lies : files.InFolders)
    (store : Store) : NothingSaved path store files { store with dirty := true } after where
  store := rfl
  elsewhere location other := by
    rw [spared.elsewhere location other]
    exact spared.grown location
  stood _ := spared.stood
  same := spared.same lies

end Spared

section Requests

variable {store : Store} {path : String} {files : Files} {heap : Heap} {error : StoreError}

theorem forceSave_failed (backed : store.path = some path) (lies : files.InFolders)
    (failed : (store.forceSave files heap).1.outcome = .error error) :
    NothingSaved path store files (store.forceSave files heap).2.1
      (store.forceSave files heap).2.2 := by
  obtain ⟨entries, dirty, _⟩ := store
  cases backed
  rcases forceSave_cases ⟨entries, dirty, none⟩ path files heap with ⟨_, outcome⟩ |
    ⟨document, _, ⟨after, _, outcome⟩ | ⟨cause, after, written, outcome⟩⟩
  all_goals
    simp only at outcome
    rw [outcome] at failed ⊢
  · cases failed
  · cases failed
  · obtain ⟨ready, spared⟩ := spared_of_failed written
    exact spared.nothingSaved lies ⟨entries, dirty, some path⟩

theorem save_failed (backed : store.path = some path) (lies : files.InFolders)
    (failed : (store.save files heap).1.outcome = .error error) :
    NothingSaved path store files (store.save files heap).2.1 (store.save files heap).2.2 := by
  unfold save at failed ⊢
  split at failed
  · next dirty =>
    rw [if_pos dirty]
    exact forceSave_failed backed lies failed
  · cases failed

theorem shutdown_failed {σ : Type} {engine : Engine σ} (backed : engine.store.path = some path)
    (lies : files.InFolders) (failed : (engine.shutdown files).1 = .error error) :
    NothingSaved path engine.store files (engine.shutdown files).2.1.store
      (engine.shutdown files).2.2 := by
  simp only [Engine.shutdown, Engine.report_store, Engine.reportAll_store]
  exact forceSave_failed backed lies failed

theorem load_failed (failed : (store.load files heap).1.outcome = .error error) :
    (store.load files heap).2 = (store, heap) := by
  unfold load at failed ⊢
  cases backed : store.path with
  | none => rfl
  | some path =>
      simp only [backed] at failed ⊢
      split
      · next there =>
        rw [if_pos there] at failed
        cases outcome : readDocument files path with
        | error cause => rfl
        | ok document =>
            rw [outcome] at failed
            cases failed
      · rfl

theorem forceSave_saved (backed : store.path = some path)
    (returned : (store.forceSave files heap).1.outcome = .ok ())
    (ends : (store.forceSave files heap).1 ≠ .endless) : ∃ document,
      store.document? heap = some document ∧
      (store.forceSave files heap).2.1 = { store with dirty := false } ∧
      (store.forceSave files heap).2.2.fileAt? path = some (.text document.indented) := by
  obtain ⟨entries, dirty, _⟩ := store
  cases backed
  rcases forceSave_cases ⟨entries, dirty, none⟩ path files heap with ⟨_, outcome⟩ |
    ⟨document, whole, ⟨after, written, outcome⟩ | ⟨cause, after, _, outcome⟩⟩
  all_goals
    simp only at outcome
    rw [outcome] at returned ends ⊢
  · exact absurd rfl ends
  · exact ⟨document, whole, rfl, by simp only [fileAt?, find_written written]⟩
  · cases returned

theorem forceSave_endless_iff (backed : store.path = some path) :
    (store.forceSave files heap).1 = .endless ↔
      ∃ entry ∈ store.entries.entries, Value.Cyclic heap entry.2 := by
  rw [← document?_eq_none_iff]
  obtain ⟨entries, dirty, _⟩ := store
  cases backed
  rcases forceSave_cases ⟨entries, dirty, none⟩ path files heap with ⟨endless, outcome⟩ |
    ⟨document, whole, ⟨after, written, outcome⟩ | ⟨cause, after, _, outcome⟩⟩
  all_goals
    simp only at outcome
    rw [outcome]
  · exact iff_of_true rfl endless
  · exact iff_of_false nofun (fun none => nomatch whole.symm.trans none)
  · exact iff_of_false nofun (fun none => nomatch whole.symm.trans none)

end Requests

/-- A save that fails, also when the engine is shut down, leaves the entries, which are still to be
saved, and touches no file but the draft: the data file is as it was, or there is none as before,
unless its path goes up out of a folder that was missing, and then what it leads to stood there
before. A load that fails changes nothing. A save that succeeds leaves exactly the document of the
entries in the data file, and nothing to be saved; it does not come back at all if a container in
the store holds itself. -/
theorem failures_leave_contents {store : Store} {path : String} {files : Files}
    (backed : store.path = some path) (lies : files.InFolders) (heap : Heap) :
    (∀ error, (store.forceSave files heap).1.outcome = .error error →
      NothingSaved path store files (store.forceSave files heap).2.1
        (store.forceSave files heap).2.2) ∧
    (∀ error, (store.save files heap).1.outcome = .error error →
      NothingSaved path store files (store.save files heap).2.1 (store.save files heap).2.2) ∧
    (∀ (σ : Type) (engine : Engine σ) error, engine.store = store →
      (engine.shutdown files).1 = .error error →
        NothingSaved path store files (engine.shutdown files).2.1.store
          (engine.shutdown files).2.2) ∧
    (∀ error, (store.load files heap).1.outcome = .error error →
      (store.load files heap).2 = (store, heap)) ∧
    ((store.forceSave files heap).1.outcome = .ok () → (store.forceSave files heap).1 ≠ .endless →
      ∃ document, store.document? heap = some document ∧
        (store.forceSave files heap).2.1 = { store with dirty := false } ∧
        (store.forceSave files heap).2.2.fileAt? path = some (.text document.indented)) ∧
    ((store.forceSave files heap).1 = .endless ↔
      ∃ entry ∈ store.entries.entries, Value.Cyclic heap entry.2) := by
  refine ⟨fun error => forceSave_failed backed lies, fun error => save_failed backed lies, ?_,
    fun error => load_failed, forceSave_saved backed, forceSave_endless_iff backed⟩
  rintro σ engine error rfl failed
  exact shutdown_failed backed lies failed

section Detour

theorem inFolders_of_nodes {files : Files}
    (each : ∀ entry ∈ files.nodes, files.node? entry.1.dropLast = some .folder) :
    files.InFolders := by
  intro folder name notUp there
  by_cases base : IsBase (folder ++ [name])
  · rcases base with empty | root | up
    · simp at empty
    · have outer : folder = [] := by simpa using congrArg List.dropLast root
      rw [outer]
      exact node?_base (.inl rfl)
    · simp only [List.getLast?_append, List.getLast?_singleton, Option.some_or,
        Option.some.injEq] at up
      exact absurd up notUp
  · rw [node?, if_neg base] at there
    obtain ⟨node, found⟩ := Option.ne_none_iff_exists'.mp there
    obtain ⟨before, behind, split, _⟩ := List.lookup_eq_some_iff.mp found
    simpa using each (folder ++ [name], node) (by simp [split])

def blocked : Files :=
  { nodes := [(["data.json"], .file (.text "{}")), (["data.json.tmp"], .folder)] }

def unsaved (path : String) : Store :=
  ({ path := some path } : Store).set "a" (.bool true)

/-- The data file does not exist before the save, which fails; but the save makes the folder that
its path goes up from, and then the path leads to another file. -/
theorem detour_leads_to_file :
    let path := "missing/../data.json"
    blocked.InFolders ∧
      ((unsaved path).forceSave blocked {}).1 = .failed (.access path .isFolder) ∧
      blocked.fileAt? path = none ∧
      ((unsaved path).forceSave blocked {}).2.2.fileAt? path = some (.text "{}") :=
  ⟨inFolders_of_nodes (by decide +kernel), by decide +kernel⟩

theorem blocked_leaves_contents :
    let later := (unsaved "data.json").forceSave blocked {}
    (unsaved "data.json").path = some "data.json" ∧ blocked.InFolders ∧
      later.1.outcome = .error (.access "data.json" .isFolder) ∧
      later.2.1 = { unsaved "data.json" with dirty := true } ∧
      later.2.2.fileAt? "data.json" = some (.text "{}") := by
  have lies : blocked.InFolders := inFolders_of_nodes (by decide +kernel)
  have failed : ((unsaved "data.json").forceSave blocked {}).1.outcome =
      .error (.access "data.json" .isFolder) := by decide +kernel
  have whole := @failures_leave_contents (unsaved "data.json") _ _ rfl lies {}
  have nothing := whole.1 _ failed
  refine ⟨rfl, lies, failed, nothing.store, ?_⟩
  rw [nothing.same (.inl (by decide +kernel))]
  decide +kernel

end Detour

end Store

end EventScript
