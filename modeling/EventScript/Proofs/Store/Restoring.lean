import EventScript.Proofs.Store.Reopening
import EventScript.Proofs.Value.Contents

/-!
What a store holds after it was saved and opened again: values of the same structure, in new
containers. The encoder and the decoder are followed level by level, from each value to its
document, to what is read back, and to the value that is made from that.
-/

namespace EventScript

open Document

namespace Value

/-- Two values of the same structure, each in its own heap: the same kind of value at every
position, the same truths and texts, the items of lists in the same order, and the keys of maps in
the same order. Which numbers count as the same is left open. -/
inductive Alike (heap other : Heap) (same : Double → Double → Prop) : Value → Value → Prop
  | null : Alike heap other same .null .null
  | bool (truth : Bool) : Alike heap other same (.bool truth) (.bool truth)
  | number {number image : Double} :
      same number image → Alike heap other same (.number number) (.number image)
  | text (content : String) : Alike heap other same (.text content) (.text content)
  | list {place copy : Nat} : (heap.list place).size = (other.list copy).size →
      (∀ (index : Nat) (item image : Value), (heap.list place)[index]? = some item →
        (other.list copy)[index]? = some image → Alike heap other same item image) →
      Alike heap other same (.list place) (.list copy)
  | map {place copy : Nat} : (heap.map place).keys = (other.map copy).keys →
      (∀ key value image, (heap.map place).get? key = some value →
        (other.map copy).get? key = some image → Alike heap other same value image) →
      Alike heap other same (.map place) (.map copy)

abbrev Reaches (heap : Heap) : Value → Value → Prop := Relation.ReflTransGen (Holds heap)

/-- A value that a data file can keep. Each number is finite, and 127 containers never lie one
inside the other, so that none holds itself. -/
structure Savable (heap : Heap) (value : Value) : Prop where
  finite : ∀ number, Reaches heap value (.number number) → Number.isFinite number = true
  shallow : ¬Nests heap 127 value

def Rereads (number image : Double) : Prop :=
  read? (Document.number number).indented = some (.number image)

theorem rereads_iff {number image : Double} :
    Rereads number image ↔ rereadNumber number = .number image := by
  rw [Rereads, read?_indented, nestingLimit, reading, Option.some.injEq]

instance (number image : Double) : Decidable (Rereads number image) :=
  decidable_of_iff ((match rereadNumber number with
    | .number back => some back
    | _ => none) = some image) <| by
      rw [rereads_iff]
      cases rereadNumber number <;> simp

structure Kept (heap : Heap) (same : Double → Double → Prop) (value : Value) : Prop where
  number : ∀ number, Reaches heap value (.number number) →
    Number.isFinite number = true ∧ ∃ image, Rereads number image ∧ same number image

theorem Kept.inner {heap : Heap} {same : Double → Double → Prop} {outer inner : Value}
    (kept : Kept heap same outer) (holds : Holds heap outer inner) : Kept heap same inner where
  number number path := kept.number number (.head holds path)

theorem Savable.rereads {heap : Heap} {value : Value} (savable : Savable heap value) :
    Kept heap Rereads value where
  number number path := by
    obtain ⟨image, rereads⟩ := rereadNumber_of_isFinite (savable.finite number path)
    have same := rereads_iff.mpr rereads
    exact ⟨savable.finite number path, image, same, same⟩

theorem Savable.survives {heap : Heap} {value : Value} (savable : Savable heap value)
    (survives : ∀ number, Reaches heap value (.number number) → Rereads number number) :
    Kept heap Eq value where
  number number path := ⟨savable.finite number path, number, survives number path, rfl⟩

section Rows

variable {α β : Type}

theorem rows_of_map_eq {f : α → Option β} {row : List α} {values : List β}
    (each : row.map f = values.map some) :
    List.Forall₂ (fun item value => f item = some value) row values := by
  have rows : List.Forall₂ Eq (row.map f) (values.map some) := by rw [List.forall₂_eq_eq_eq, each]
  rwa [List.forall₂_map_left_iff, List.forall₂_map_right_iff] at rows

def Matching (holds : α → β → Prop) (entry : String × α) (image : String × β) : Prop :=
  image.1 = entry.1 ∧ holds entry.2 image.2

variable {holds : α → β → Prop} {entries : List (String × α)} {images : List (String × β)}

theorem keys_of_matching (rows : List.Forall₂ (Matching holds) entries images) :
    images.map (·.1) = entries.map (·.1) := by
  induction rows with
  | nil => rfl
  | cons first _ ih => rw [List.map_cons, List.map_cons, first.1, ih]

theorem lookup_of_matching (rows : List.Forall₂ (Matching holds) entries images) (key : String) :
    Option.Rel holds (entries.lookup key) (images.lookup key) := by
  induction rows with
  | nil => exact .none
  | cons first _ ih =>
      rw [Dictionary.lookup_entry, Dictionary.lookup_entry, first.1]
      split
      · exact .some first.2
      · exact ih

end Rows

section Levels

variable {heap later : Heap} {same : Double → Double → Prop}

def Comes (heap later : Heap) (same : Double → Double → Prop) (levels room : Nat) (value : Value) :
    Prop :=
  ∀ document back base, documentTo? heap room value = some document →
    reading levels document = some back → (ofDocument back base).2.Extends later →
    Alike heap later same value (ofDocument back base).1

theorem items_come {levels room : Nat} {items : List Value} {documents backs : List Document}
    {base : Heap}
    (each : List.Forall₂ (fun item document => documentTo? heap room item = some document) items
      documents)
    (read : List.Forall₂ (fun document back => reading levels document = some back) documents backs)
    (extend : (ofItems backs base).2.Extends later)
    (inner : ∀ item ∈ items, Comes heap later same levels room item) :
    List.Forall₂ (Alike heap later same) items (ofItems backs base).1 := by
  induction each generalizing backs base with
  | nil =>
      cases read
      rw [ofItems]
      exact .nil
  | @cons item document items documents saved _ ih =>
      cases read with
      | @cons _ back _ backs found others =>
          simp only [ofItems] at extend ⊢
          have grows := (ofItems_made backs (ofDocument back base).2).grows
          refine .cons ?_ (ih others extend fun item member => inner item (.tail _ member))
          exact inner item (.head _) document back base saved found (grows.trans extend)

theorem members_come {levels room : Nat} {entries : List (String × Value)}
    {members backs : List (String × Document)} {base : Heap}
    (each : List.Forall₂ (fun entry member => entryTo? heap room entry = some member)
      entries members)
    (read : List.Forall₂ (fun member back => readingMember levels member = some back) members backs)
    (extend : (ofMembers backs base).2.Extends later)
    (inner : ∀ entry ∈ entries, Comes heap later same levels room entry.2) :
    List.Forall₂ (Matching (Alike heap later same)) entries (ofMembers backs base).1 := by
  induction each generalizing backs base with
  | nil =>
      cases read
      rw [ofMembers]
      exact .nil
  | @cons entry member entries members saved _ ih =>
      cases read with
      | @cons _ back _ backs found others =>
          obtain ⟨document, whole, rfl⟩ := Option.map_eq_some_iff.mp saved
          obtain ⟨again, reread, rfl⟩ := Option.map_eq_some_iff.mp found
          simp only [ofMembers] at extend ⊢
          have grows := (ofMembers_made backs (ofDocument again base).2).grows
          refine .cons ⟨rfl, ?_⟩ (ih others extend fun entry member => inner entry (.tail _ member))
          exact inner entry (.head _) document again base whole reread (grows.trans extend)

theorem entries_come {levels room : Nat} {entries : List (String × Value)}
    {members backs : List (String × Document)} {base : Heap}
    (distinct : (entries.map (·.1)).Nodup)
    (each : entries.map (entryTo? heap room) = members.map some)
    (read : members.map (readingMember levels) = backs.map some)
    (extend : (ofMembers (Dictionary.ofList backs).entries base).2.Extends later)
    (inner : ∀ entry ∈ entries, Comes heap later same levels room entry.2) :
    List.Forall₂ (Matching (Alike heap later same)) entries
      (Dictionary.ofList (ofMembers (Dictionary.ofList backs).entries base).1).entries := by
  have members := Dictionary.keys_of_map_eq entryTo?_key each
  have backKeys := (Dictionary.keys_of_map_eq readingMember_key read).trans members
  have kept : (Dictionary.ofList backs).entries = backs :=
    Dictionary.entries_ofList (by rw [backKeys]; exact distinct)
  rw [kept] at extend ⊢
  have rows := members_come (rows_of_map_eq each) (rows_of_map_eq read) extend inner
  have made := Dictionary.entries_ofList (by rw [keys_of_matching rows]; exact distinct)
  rw [made]
  exact rows

theorem list_comes {levels room place : Nat}
    (inner : ∀ item ∈ (heap.list place).toList, ∀ room, Comes heap later same levels room item) :
    Comes heap later same (levels + 1) room (.list place) := by
  intro document back base saved read extend
  obtain ⟨fewer, documents, _, rfl, each⟩ := documentTo?_list saved
  obtain ⟨backs, reads, rfl⟩ := Option.map_eq_some_iff.mp read
  simp only [ofDocument] at extend ⊢
  have rows := items_come (rows_of_map_eq each) (rows_of_map_eq (mapM_eq_some_iff.mp reads))
    ((Heap.newList_extends _ _).trans extend) fun item member => inner item member fewer
  have there : later.list (ofItems backs base).2.lists.size = (ofItems backs base).1.toArray := by
    rw [extend.list _ (by simp [Heap.newList])]
    simp [Heap.newList, Heap.list, Array.getD]
  refine .list ?_ fun index item image first second => ?_
  · rw [there]
    simpa using rows.length_eq
  · rw [there] at second
    rw [List.getElem?_toArray] at second
    rw [← Array.getElem?_toList] at first
    obtain ⟨inside, rfl⟩ := List.getElem?_eq_some_iff.mp first
    obtain ⟨within, rfl⟩ := List.getElem?_eq_some_iff.mp second
    exact rows.get inside within

theorem map_comes {levels room place : Nat}
    (inner : ∀ entry ∈ (heap.map place).entries, ∀ room,
      Comes heap later same levels room entry.2) :
    Comes heap later same (levels + 1) room (.map place) := by
  intro document back base saved read extend
  obtain ⟨fewer, members, _, rfl, each⟩ := documentTo?_map saved
  obtain ⟨backs, reads, rfl⟩ := Option.map_eq_some_iff.mp read
  simp only [ofDocument] at extend ⊢
  have rows := entries_come (heap.map place).distinct each (mapM_eq_some_iff.mp reads)
    ((Heap.newMap_extends _ _).trans extend) fun entry member => inner entry member fewer
  generalize ofMembers (Dictionary.ofList backs).entries base = made at extend rows ⊢
  have there : later.map made.2.maps.size = Dictionary.ofList made.1 := by
    rw [extend.map _ (by simp [Heap.newMap])]
    simp [Heap.newMap, Heap.map, Array.getD]
  refine .map ?_ fun key value image first second => ?_
  · rw [there]
    exact (keys_of_matching rows).symm
  · rw [there] at second
    have both := lookup_of_matching rows key
    rw [Dictionary.get?] at first second
    rw [first, second] at both
    cases both with
    | some alike => exact alike

theorem scalar_comes {value : Value} (scalar : value.isContainer = false)
    (kept : Kept heap same value) (levels room : Nat) :
    Comes heap later same levels room value := by
  intro document back base saved read _
  cases value with
  | number number =>
      obtain ⟨finite, image, rereads, alike⟩ := kept.number number .refl
      rw [documentTo?, if_pos finite] at saved
      cases saved
      rw [reading, rereads_iff.mp rereads] at read
      cases read
      rw [ofDocument]
      exact .number alike
  | list place => cases scalar
  | map place => cases scalar
  | _ =>
      rw [documentTo?] at saved
      cases saved
      rw [reading] at read
      cases read
      rw [ofDocument]
      constructor

theorem kept_comes {value : Value} (kept : Kept heap same value) (levels room : Nat) :
    Comes heap later same levels room value := by
  induction levels generalizing room value with
  | zero =>
      cases value with
      | list place =>
          intro document back base saved read
          obtain ⟨fewer, items, _, rfl, _⟩ := documentTo?_list saved
          cases read
      | map place =>
          intro document back base saved read
          obtain ⟨fewer, members, _, rfl, _⟩ := documentTo?_map saved
          cases read
      | _ => exact scalar_comes rfl kept 0 room
  | succ levels ih =>
      cases value with
      | list place => exact list_comes fun item member => ih (kept.inner member)
      | map place =>
          exact map_comes fun entry member => ih (kept.inner ⟨entry.1, member⟩)
      | _ => exact scalar_comes rfl kept (levels + 1) room

end Levels

end Value

namespace Store

open Value

variable {store : Store} {heap : Heap}

/-- Opening the file of a saved store gives entry by entry what was saved. -/
theorem reopened_rows {files after : Files} {path : String} {document : Document}
    (shallow : ∀ entry ∈ store.entries.entries, ¬Nests heap 127 entry.2)
    (saved : store.document? heap = some document)
    (written : writeText files path document.indented = (.ok (), after))
    (readable : files.refusal (.read path) = none) (later : Heap) :
    ∃ entries reread,
      openAt path after later = (.loaded entries.size, { entries, path := some path }, reread) ∧
      ∀ same, (∀ entry ∈ store.entries.entries, Kept heap same entry.2) →
        List.Forall₂ (Matching (Alike heap reread same)) store.entries.sorted entries.entries := by
  obtain ⟨members, rfl, each⟩ := document?_eq_some saved
  have accepted : reading (nestingLimit - 1) (.object members) ≠ none := by
    intro refused
    have deep : ∃ entry ∈ store.entries.entries, Nests heap 127 entry.2 :=
      (reading_saved_eq_none_iff each).mp refused
    obtain ⟨entry, member, nests⟩ := deep
    exact shallow entry member nests
  obtain ⟨back, read⟩ := Option.ne_none_iff_exists'.mp accepted
  obtain ⟨backs, reads, rfl⟩ := Option.map_eq_some_iff.mp read
  rw [openAt_text (find_written written) (refusal_written written ▸ readable), read?_indented, read]
  refine ⟨_, _, rfl, fun same kept => ?_⟩
  exact entries_come store.entries.nodup_sorted each (mapM_eq_some_iff.mp reads) (.refl _)
    fun entry member => kept_comes (kept entry (store.entries.sorted_perm.mem_iff.mp member)) 126 _

theorem get_of_rows {entries : Dictionary Value} {reread : Heap} {same : Double → Double → Prop}
    (rows : List.Forall₂ (Matching (Alike heap reread same)) store.entries.sorted entries.entries)
    (key : String) :
    (entries.get? key).isSome = store.has key ∧
      Alike heap reread same (store.get key) ((entries.get? key).getD .null) := by
  have both := lookup_of_matching rows key
  rw [get, has, Dictionary.contains, ← store.entries.lookup_sorted, Dictionary.get?]
  generalize List.lookup key store.entries.sorted = value at both ⊢
  generalize List.lookup key entries.entries = image at both ⊢
  cases both with
  | some alike => exact ⟨rfl, alike⟩
  | none => exact ⟨rfl, .null⟩

/-- A file-backed store whose values can be kept, saved without an error and then opened again from
its file, is not dirty and has the same keys, with values of the same structure. The numbers in them
are what the reader makes of those that were written; where it gives each of them back, they are the
same numbers. -/
theorem saved_restored (store : Store) (path : String) (files : Files) (heap later : Heap)
    (savable : ∀ entry ∈ store.entries.entries, Savable heap entry.2)
    (saved : ({ store with path := some path }.forceSave files heap).1.outcome = .ok ())
    (readable : files.refusal (.read path) = none) :
    let written := ({ store with path := some path }.forceSave files heap).2.2
    let opened := (openAt path written later).2.1
    let reread := (openAt path written later).2.2
    (openAt path written later).1 = .loaded store.size ∧ opened.dirty = false ∧
      opened.path = some path ∧ (∀ key, opened.has key = store.has key) ∧
      (∀ key, Alike heap reread Rereads (store.get key) (opened.get key)) ∧
      ((∀ entry ∈ store.entries.entries, ∀ number, Reaches heap entry.2 (.number number) →
          Rereads number number) →
        ∀ key, Alike heap reread Eq (store.get key) (opened.get key)) := by
  have shallow entry member := (savable entry member).shallow
  rcases forceSave_cases store path files heap with
    ⟨endless, _⟩ | ⟨document, whole, ⟨after, written, ends⟩ | ⟨cause, after, _, ends⟩⟩
  · obtain ⟨entry, member, cyclic⟩ := (document?_eq_none_iff store heap).mp endless
    exact absurd (cyclic.nests 126) (shallow entry member)
  · obtain ⟨entries, reread, opened, alike⟩ :=
      reopened_rows shallow whole written readable later
    simp only [ends, opened]
    have rows := alike Rereads fun entry member => (savable entry member).rereads
    have size : entries.size = store.size :=
      rows.length_eq.symm.trans store.entries.sorted_perm.length_eq
    refine ⟨by rw [size], trivial, trivial, fun key => (get_of_rows rows key).1,
      fun key => (get_of_rows rows key).2, fun survives key => ?_⟩
    have exact := alike Eq fun entry member =>
      (savable entry member).survives (survives entry member)
    exact (get_of_rows exact key).2
  · rw [ends] at saved
    cases saved

theorem reaches_of_closed {value inner : Value} {closed : List Value} (first : value ∈ closed)
    (holds : ∀ outer ∈ closed, ∀ inner, Holds heap outer inner → inner ∈ closed)
    (reaches : Reaches heap value inner) : inner ∈ closed := by
  induction reaches with
  | refl => exact first
  | tail _ step ih => exact holds _ ih _ step

def mixedHeap : Heap where
  lists := #[#[.ofNat 1, .null, .map 0]]
  maps := #[⟨[("b", .text "x"), ("a", .bool true)], by simp⟩]

def mixedStore : Store where
  entries := ⟨[("k", .list 0)], by simp⟩
  path := some "d.json"

theorem mixed_reaches {inner : Value} (reaches : Reaches mixedHeap (.list 0) inner) :
    inner ∈ [.list 0, .ofNat 1, .null, .map 0, .text "x", .bool true] := by
  refine reaches_of_closed List.mem_cons_self ?_ reaches
  simp [Holds, mixedHeap, Heap.list, Heap.map, Value.ofNat]
  grind

theorem mixed_number {number : Double} (reaches : Reaches mixedHeap (.list 0) (.number number)) :
    number = Number.ofNat 1 := by
  simpa [Value.ofNat] using mixed_reaches reaches

theorem mixed_savable : Savable mixedHeap (.list 0) where
  finite number path := by
    rw [mixed_number path]
    decide +kernel
  shallow := by
    rw [← documentTo?_eq_none_iff]
    intro missing
    cases missing

/-- A list and the map in it are saved and opened again. -/
theorem mixed_restored :
    let opening := openAt "d.json" (mixedStore.forceSave {} mixedHeap).2.2 {}
    opening.1 = .loaded 1 ∧ Alike mixedHeap opening.2.2 Eq (.list 0) (opening.2.1.get "k") := by
  have known : ∀ entry ∈ mixedStore.entries.entries, entry.2 = .list 0 := by simp [mixedStore]
  have saved : (mixedStore.forceSave {} mixedHeap).1 = .saved "d.json" := by decide +kernel
  have restored := saved_restored mixedStore "d.json" {} mixedHeap {}
    (fun entry member => known entry member ▸ mixed_savable) (congrArg Saving.outcome saved) rfl
  refine ⟨restored.1, restored.2.2.2.2.2 (fun entry member number path => ?_) "k"⟩
  rw [known entry member] at path
  rw [mixed_number path]
  decide +kernel

end Store

end EventScript
