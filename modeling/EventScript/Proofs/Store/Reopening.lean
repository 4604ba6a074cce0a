import EventScript.Proofs.Dictionary
import EventScript.Proofs.Engine.Request
import EventScript.Proofs.Files
import EventScript.Proofs.Value.Nesting

/-!
Opening a store from the file that it was saved to. Saving comes to an end unless a stored container
holds itself. The file is then accepted unless some stored value has too many containers one inside
the other: the object around all entries counts as one of those that may be open at once.
-/

namespace EventScript.Store

open Document

section Saving

variable {store : Store} {heap : Heap}

theorem document?_eq_none_iff (store : Store) (heap : Heap) :
    store.document? heap = none ↔ ∃ entry ∈ store.entries.entries, Value.Cyclic heap entry.2 := by
  simp only [document?, Option.map_eq_none_iff, mapM_eq_none_iff, Value.document?_eq_none_iff,
    store.entries.sorted_perm.mem_iff]

theorem document?_eq_some {document : Document} (saved : store.document? heap = some document) :
    ∃ members, document = .object members ∧
      store.entries.sorted.map (Value.entryTo? heap (heap.containerCount + 1)) =
        members.map some := by
  obtain ⟨members, each, rfl⟩ := Option.map_eq_some_iff.mp saved
  exact ⟨members, rfl, mapM_eq_some_iff.mp each⟩

theorem forceSave_cases (store : Store) (path : String) (files : Files) (heap : Heap) :
    (store.document? heap = none ∧
      { store with path := some path }.forceSave files heap =
        (.endless, { store with path := some path, dirty := false }, files)) ∨
    ∃ document, store.document? heap = some document ∧
      ((∃ after, writeText files path document.indented = (.ok (), after) ∧
        { store with path := some path }.forceSave files heap =
          (.saved path, { store with path := some path, dirty := false }, after)) ∨
      ∃ cause after, writeText files path document.indented = (.error cause, after) ∧
        { store with path := some path }.forceSave files heap =
          (.failed (.access path cause),
            { store with path := some path, dirty := true }, after)) := by
  have same :
      ({ store with path := some path } : Store).document? heap = store.document? heap := rfl
  simp only [forceSave, same]
  cases store.document? heap with
  | none => exact .inl ⟨rfl, rfl⟩
  | some document =>
      refine .inr ⟨document, rfl, ?_⟩
      simp only
      generalize writeText files path document.indented = outcome
      obtain ⟨result, after⟩ := outcome
      cases result with
      | ok _ => exact .inl ⟨after, rfl, rfl⟩
      | error cause => exact .inr ⟨cause, after, rfl, rfl⟩

end Saving

section Opening

theorem ofMembers_keys (members : List (String × Document)) (heap : Heap) :
    (Value.ofMembers members heap).1.map (·.1) = members.map (·.1) := by
  induction members generalizing heap with
  | nil => rw [Value.ofMembers]; rfl
  | cons member members ih =>
      obtain ⟨key, item⟩ := member
      simp only [Value.ofMembers, List.map_cons, ih]

theorem readDocument_text {files : Files} {path text : String}
    (found : files.find path = .ok (.file (.text text)))
    (readable : files.refusal (.read path) = none) :
    readDocument files path = match Document.read? text with
      | none => .error (.malformed path)
      | some document => .ok document := by
  have read : files.read path = .ok text := by rw [read_of_find found, readable]
  cases outcome : Document.read? text <;> simp [readDocument, read, outcome]

theorem openAt_text {files : Files} {path text : String}
    (found : files.find path = .ok (.file (.text text)))
    (readable : files.refusal (.read path) = none) (heap : Heap) :
    openAt path files heap =
      match Document.read? text with
      | none => (.failed (.malformed path), { path := some path }, heap)
      | some document =>
        let (entries, heap) := entriesOf document heap
        (.loaded entries.size, { entries, path := some path }, heap) := by
  simp only [openAt, load, has_of_find found, if_true, readDocument_text found readable]
  cases Document.read? text <;> rfl

theorem has_reread (levels : Nat) {members : List (String × Document)} {document : Document}
    (read : reading (levels + 1) (.object members) = some document) (heap : Heap) (key : String) :
    (entriesOf document heap).1.contains key = true ↔ key ∈ members.map (·.1) := by
  obtain ⟨back, each, rfl⟩ := Option.map_eq_some_iff.mp read
  rw [entriesOf, Dictionary.contains_iff]
  simp only
  rw [Dictionary.mem_keys_ofList, ofMembers_keys]
  change key ∈ (Dictionary.ofList back).keys ↔ _
  rw [Dictionary.mem_keys_ofList, Dictionary.keys_of_map_eq readingMember_key
    (mapM_eq_some_iff.mp each)]

end Opening

section Reopening

variable {store : Store} {heap : Heap}

theorem has_iff_mem_saved {members : List (String × Document)}
    (each : store.entries.sorted.map (Value.entryTo? heap (heap.containerCount + 1)) =
      members.map some) (key : String) : store.has key = true ↔ key ∈ members.map (·.1) := by
  rw [Dictionary.keys_of_map_eq Value.entryTo?_key each, has, Dictionary.contains_iff]
  exact (store.entries.sorted_perm.map (·.1)).mem_iff.symm

theorem reading_saved_eq_none_iff {levels : Nat} {members : List (String × Document)}
    (each : store.entries.sorted.map (Value.entryTo? heap (heap.containerCount + 1)) =
      members.map some) :
    reading (levels + 1) (.object members) = none ↔
      ∃ entry ∈ store.entries.entries, Value.Nests heap (levels + 1) entry.2 := by
  simp only [← store.entries.sorted_perm.mem_iff]
  rw [reading, Option.map_eq_none_iff, mapM_eq_none_iff]
  refine Value.exists_mem_of_map_eq each fun entry member _ found => ?_
  obtain ⟨document, inner, rfl⟩ := Option.map_eq_some_iff.mp found
  rw [Option.map_eq_none_iff]
  exact Value.reading_eq_none_iff inner

theorem openAt_saved {files after : Files} {path : String} {document : Document}
    (saved : store.document? heap = some document)
    (written : writeText files path document.indented = (.ok (), after))
    (readable : files.refusal (.read path) = none) (later : Heap) :
    let (loading, opened, _) := openAt path after later
    (loading = .failed (.malformed path) ↔
      ∃ entry ∈ store.entries.entries, Value.Nests heap 127 entry.2) ∧
    (loading ≠ .failed (.malformed path) →
      loading = .loaded opened.size ∧ ∀ key, opened.has key = store.has key) := by
  obtain ⟨members, rfl, each⟩ := document?_eq_some saved
  rw [openAt_text (find_written written) (refusal_written written ▸ readable), read?_indented]
  have deep : reading (nestingLimit - 1) (.object members) = none ↔
      ∃ entry ∈ store.entries.entries, Value.Nests heap 127 entry.2 :=
    reading_saved_eq_none_iff each
  rw [← deep]
  cases read : reading (nestingLimit - 1) (.object members) with
  | none => exact ⟨iff_of_true rfl rfl, fun accepted => absurd rfl accepted⟩
  | some document =>
      refine ⟨iff_of_false nofun nofun, fun _ => ⟨rfl, fun key => ?_⟩⟩
      have reread := has_reread 126 read later key
      rw [Bool.eq_iff_iff, has_iff_mem_saved each, ← reread]
      rfl

end Reopening

/-- What becomes of a store that is saved and then opened again. Saving does not come to an end
exactly when a stored container holds itself; the file is refused exactly when 127 containers lie
one inside the other in a stored value; and a file that is not refused has the same keys. -/
theorem saved_reopens (store : Store) (path : String) (files : Files) (heap : Heap) :
    let (saving, _, written) := { store with path := some path }.forceSave files heap
    (saving = .endless ↔ ∃ entry ∈ store.entries.entries, Value.Cyclic heap entry.2) ∧
    (saving = .endless ∨ saving = .saved path ∨ ∃ cause, saving = .failed (.access path cause)) ∧
    (saving = .saved path → files.refusal (.read path) = none → ∀ later : Heap,
      let (loading, opened, _) := openAt path written later
      (loading = .failed (.malformed path) ↔
        ∃ entry ∈ store.entries.entries, Value.Nests heap 127 entry.2) ∧
      (loading ≠ .failed (.malformed path) →
        loading = .loaded opened.size ∧ ∀ key, opened.has key = store.has key)) := by
  have cyclic := document?_eq_none_iff store heap
  rcases forceSave_cases store path files heap with ⟨none, ends⟩ | ⟨document, saved, outcome⟩
  · rw [ends]
    exact ⟨iff_of_true rfl (cyclic.mp none), .inl rfl, nofun⟩
  · have acyclic : ¬∃ entry ∈ store.entries.entries, Value.Cyclic heap entry.2 := by
      rw [← cyclic, saved]
      nofun
    rcases outcome with ⟨after, written, ends⟩ | ⟨cause, after, _, ends⟩
    · rw [ends]
      exact ⟨iff_of_false nofun acyclic, .inr (.inl rfl),
        fun _ readable later => openAt_saved saved written readable later⟩
    · rw [ends]
      exact ⟨iff_of_false nofun acyclic, .inr (.inr ⟨cause, rfl⟩), nofun⟩

section Losses

def afterGo (source : String) : Engine Unit :=
  ({ store := { path := some "d.json" }, world := { host := () } } : Engine Unit).serveAll
    [.loadSource "a.fk" source, .dispatch "go" {} 0]

def nestingScript : String :=
  "on go:\n    %list% = []\n    repeat 126 times:\n        %list% = [%list%]\n" ++
    "    __kept__ = %list%\n"

def loopingScript : String :=
  "on go:\n    %list% = []\n    push(%list%, %list%)\n    __kept__ = %list%\n"

theorem nestingScript_stores :
    let engine := afterGo nestingScript
    (engine.store.path, engine.store.has "kept",
      (Value.documentTo? engine.world.heap 126 (engine.store.get "kept")).isSome,
      (engine.store.document? engine.world.heap).isSome) = (some "d.json", true, false, true) := by
  decide +kernel

theorem writeText_fresh (text : String) : (writeText {} "d.json" text).1 = .ok () := rfl

theorem get_mem {store : Store} {key : String} (there : store.has key = true) :
    (key, store.get key) ∈ store.entries.entries := by
  obtain ⟨value, found⟩ := Option.isSome_iff_exists.mp there
  rw [get, found]
  exact Dictionary.mem_of_get? found

theorem deep_refused {store : Store} {heap : Heap} {key : String}
    (backed : store.path = some "d.json") (there : store.has key = true)
    (deep : Value.documentTo? heap 126 (store.get key) = none)
    (finite : (store.document? heap).isSome = true) :
    (store.forceSave {} heap).1 = .saved "d.json" ∧
      (openAt "d.json" (store.forceSave {} heap).2.2 heap).1 = .failed (.malformed "d.json") := by
  have same : store = { store with path := some "d.json" } := by rw [← backed]
  rcases forceSave_cases store "d.json" {} heap with
    ⟨none, _⟩ | ⟨document, saved, ⟨after, written, ends⟩ | ⟨cause, after, refused, _⟩⟩
  · rw [none] at finite
    exact nomatch finite
  · have nests := (Value.documentTo?_eq_none_iff 126 (store.get key)).mp deep
    have opened := openAt_saved saved written rfl heap
    rw [same, ends]
    exact ⟨rfl, opened.1.mpr ⟨_, get_mem there, nests⟩⟩
  · have allowed := writeText_fresh document.indented
    rw [refused] at allowed
    exact nomatch allowed

/-- One script leaves a file that cannot be opened, another one a store that cannot be saved. -/
theorem nested_lists_lost :
    let nested := afterGo nestingScript
    let looping := afterGo loopingScript
    let outcome := nested.store.forceSave {} nested.world.heap
    outcome.1 = .saved "d.json" ∧
      (openAt "d.json" outcome.2.2 nested.world.heap).1 = .failed (.malformed "d.json") ∧
      (looping.store.forceSave {} looping.world.heap).1 = .endless := by
  have facts := nestingScript_stores
  simp only [Prod.mk.injEq, Option.isSome_eq_false_iff, Option.isNone_iff_eq_none] at facts
  obtain ⟨path, there, deep, finite⟩ := facts
  have lost := deep_refused path there deep finite
  exact ⟨lost.1, lost.2, by decide +kernel⟩

end Losses

end EventScript.Store
