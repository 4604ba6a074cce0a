import EventScript.Proofs.Store.Reopening

/-!
Null stands for absence. Storing null takes a key away, and no other change of a store puts null
under a key. Loading does: a key for which the data file gives null is there afterwards, without a
value. Saving brings such keys about by itself, because a number that is not finite is written as
null.
-/

namespace EventScript

def Document.isNull : Document → Bool
  | .null => true
  | _ => false

def Value.writesNull : Value → Bool
  | .null => true
  | .number double => !Number.isFinite double
  | _ => false

theorem Value.writesNull_iff {value : Value} : value.writesNull = true ↔
    value = .null ∨ ∃ double : Double, value = .number double ∧ Number.isFinite double = false := by
  cases value <;> simp [writesNull]

namespace Store

open Document

variable {store : Store} {heap : Heap} {files : Files} {path key : String}

def Hollow (store : Store) (key : String) : Prop := store.has key = true ∧ store.get key = .null

theorem hollow_iff : store.Hollow key ↔ (store.entries.get? key).map Value.isNull = some true := by
  simp only [Hollow, has, get, Dictionary.contains]
  cases found : store.entries.get? key with
  | none => simp
  | some value => cases value <;> simp [Value.isNull]

theorem hollow_congr {store other : Store} (same : store.entries = other.entries) (key : String) :
    store.Hollow key ↔ other.Hollow key := by
  rw [hollow_iff, hollow_iff, same]

theorem has_iff_valued : (store.has key = true ↔ store.get key ≠ .null) ↔ ¬store.Hollow key := by
  have absent : store.has key = false → store.get key = .null := by
    simp only [has, get, Dictionary.contains, Option.isSome_eq_false_iff, Option.isNone_iff_eq_none]
    rintro none
    rw [none]
    rfl
  cases there : store.has key <;> simp_all [Hollow]

section Changes

variable {other : String}

theorem hollow_put {value : Value} (proper : value.isNull = false) {dirty : Bool} :
    Hollow { store with entries := store.entries.put other value, dirty } key ↔
      other ≠ key ∧ store.Hollow key := by
  rw [hollow_iff, hollow_iff, Dictionary.get?_put]
  by_cases same : key = other
  · simp [same, proper]
  · simp [same, Ne.symm same]

theorem has_delete (key : String) : (store.delete key).has key = false := by
  rw [delete]
  split
  · simp [has, Dictionary.contains, Dictionary.get?_erase]
  · rename_i absent
    exact Bool.eq_false_iff.mpr absent

theorem hollow_delete : (store.delete other).Hollow key ↔ other ≠ key ∧ store.Hollow key := by
  rw [delete]
  by_cases same : key = other
  · subst other
    by_cases there : store.has key = true
    · rw [if_pos there, hollow_iff, Dictionary.get?_erase]
      simp
    · rw [if_neg there]
      simp [Hollow, there]
  · split
    · rw [hollow_iff, hollow_iff, Dictionary.get?_erase]
      simp [same, Ne.symm same]
    · simp [Ne.symm same]

theorem hollow_set (value : Value) :
    (store.set other value).Hollow key ↔ other ≠ key ∧ store.Hollow key := by
  rw [set]
  split
  · exact hollow_delete
  · rename_i proper
    exact hollow_put (Bool.eq_false_iff.mpr proper)

theorem hollow_increment (amount : Double) :
    (store.increment other amount).2.Hollow key ↔ other ≠ key ∧ store.Hollow key :=
  hollow_put rfl

theorem not_hollow_reset : ¬store.reset.Hollow key := by
  simp [hollow_iff, reset]

end Changes

section Keys

theorem valued_keys_iff :
    (store.keys.filter fun key => !(store.get key).isNull).length = store.size ↔
      ∀ key, ¬store.Hollow key := by
  have count : store.size = store.keys.length := by
    rw [size, keys, List.length_map, store.entries.sorted_perm.length_eq]
    rfl
  rw [count, List.length_filter_eq_length_iff]
  have known (key : String) : key ∈ store.keys ↔ store.has key = true := by
    rw [has, Dictionary.contains_iff]
    exact (store.entries.sorted_perm.map (·.1)).mem_iff
  refine forall_congr' fun key => ?_
  rw [known, Hollow, not_and]
  refine imp_congr_right fun _ => ?_
  cases store.get key <;> simp [Value.isNull]

end Keys

section Files

def GivesNull (files : Files) (path key : String) : Prop :=
  ∃ members, readDocument files path = .ok (.object members) ∧
    ((Dictionary.ofList members).get? key).map isNull = some true

theorem ofMembers_nulls (members : List (String × Document)) (heap : Heap) :
    (Value.ofMembers members heap).1.map (fun entry => (entry.1, entry.2.isNull)) =
      members.map fun member => (member.1, member.2.isNull) := by
  induction members generalizing heap with
  | nil => rw [Value.ofMembers]; rfl
  | cons member members ih =>
      obtain ⟨key, item⟩ := member
      rw [Value.ofMembers]
      simp only [List.map_cons, ih, List.cons.injEq, Prod.mk.injEq, true_and, and_true]
      cases item <;> simp [Value.ofDocument, Value.isNull, isNull, Heap.newList, Heap.newMap]

theorem entriesOf_nulls (members : List (String × Document)) (heap : Heap) :
    ((entriesOf (.object members) heap).1.get? key).map Value.isNull =
      ((Dictionary.ofList members).get? key).map isNull := by
  rw [← Dictionary.get?_ofList_map, ← ofMembers_nulls members heap]
  exact (Dictionary.get?_ofList_map Value.isNull _ key).symm

theorem has_of_readDocument {document : Document} (read : readDocument files path = .ok document) :
    files.has path = true := by
  simp only [readDocument, Files.read, Files.content, Files.permitted] at read
  cases found : files.find path with
  | ok node => rw [Files.has, found]; rfl
  | error cause =>
      rw [found] at read
      cases refused : files.refusal (.read path) <;> rw [refused] at read <;> cases read

/-- Loading either leaves the store as it is, and the file gives null for no key, or puts the
entries of the file in place of those that were there. -/
theorem load_cases (store : Store) (files : Files) (heap : Heap) :
    ((∀ count, (store.load files heap).1 ≠ .loaded count) ∧ (store.load files heap).2.1 = store ∧
      ∀ path key, store.path = some path → ¬GivesNull files path key) ∨
    ∃ path document, store.path = some path ∧ readDocument files path = .ok document ∧
      store.load files heap =
        (.loaded (entriesOf document heap).1.size,
          { store with entries := (entriesOf document heap).1, dirty := false },
          (entriesOf document heap).2) := by
  cases backed : store.path with
  | none =>
      simp only [load, backed]
      exact .inl ⟨by simp, trivial, by simp⟩
  | some path =>
      have unread (fails : ∀ document, readDocument files path ≠ .ok document) (other key : String)
          (same : some path = some other) : ¬GivesNull files other key := by
        cases same
        rintro ⟨_, read, _⟩
        exact fails _ read
      cases there : files.has path with
      | false =>
          simp only [load, backed, there, Bool.false_eq_true, if_false]
          refine .inl ⟨by simp, trivial, unread fun document read => ?_⟩
          rw [has_of_readDocument read] at there
          cases there
      | true =>
          cases read : readDocument files path with
          | error error =>
              simp only [load, backed, there, if_true, read]
              exact .inl ⟨by simp, trivial, unread fun _ => by simp [read]⟩
          | ok document =>
              simp only [load, backed, there, if_true, read]
              exact .inr ⟨path, document, rfl, read, rfl⟩

theorem hollow_loaded {document : Document} (read : readDocument files path = .ok document)
    (entries : store.entries = (entriesOf document heap).1) :
    store.Hollow key ↔ GivesNull files path key := by
  rw [hollow_iff, entries, GivesNull, read]
  cases document with
  | object members => simp [entriesOf_nulls]
  | _ => simp [entriesOf]

end Files

section Saving

theorem reread_isNull {room levels : Nat} {entry : String × Value} {back : String × Document}
    (found : (Value.entryTo? heap room entry).bind (readingMember levels) = some back) :
    back.1 = entry.1 ∧ back.2.isNull = entry.2.writesNull := by
  obtain ⟨member, written, read⟩ := Option.bind_eq_some_iff.mp found
  obtain ⟨document, saved, rfl⟩ := Option.map_eq_some_iff.mp written
  obtain ⟨image, reread, rfl⟩ := Option.map_eq_some_iff.mp read
  refine ⟨rfl, ?_⟩
  obtain ⟨key, value⟩ := entry
  simp only at saved reread ⊢
  cases value with
  | list place =>
      obtain ⟨fewer, items, _, rfl, _⟩ := Value.documentTo?_list saved
      cases levels with
      | zero => cases reread
      | succ levels =>
          obtain ⟨backs, _, rfl⟩ := Option.map_eq_some_iff.mp reread
          rfl
  | map place =>
      obtain ⟨fewer, members, _, rfl, _⟩ := Value.documentTo?_map saved
      cases levels with
      | zero => cases reread
      | succ levels =>
          obtain ⟨backs, _, rfl⟩ := Option.map_eq_some_iff.mp reread
          rfl
  | number double =>
      rw [Value.documentTo?] at saved
      cases saved
      by_cases finite : Number.isFinite double = true
      · obtain ⟨number, same⟩ := rereadNumber_of_isFinite finite
        rw [if_pos finite, reading, same] at reread
        cases reread
        simp [isNull, Value.writesNull, finite]
      · rw [if_neg finite, reading] at reread
        cases reread
        simp [isNull, Value.writesNull, finite]
  | _ =>
      rw [Value.documentTo?] at saved
      cases saved
      rw [reading] at reread
      cases reread
      rfl

theorem givesNull_saved {document back : Document}
    (saved : store.document? heap = some document)
    (reread : Document.read? document.indented = some back)
    (read : readDocument files path = .ok back) :
    GivesNull files path key ↔ (store.entries.get? key).map Value.writesNull = some true := by
  obtain ⟨members, rfl, each⟩ := document?_eq_some saved
  rw [read?_indented] at reread
  obtain ⟨backs, inner, rfl⟩ := Option.map_eq_some_iff.mp reread
  -- The rows of the store, of what is written and of what is read back hang together entry by
  -- entry; sorting does not matter, since every key stands once.
  have rows : store.entries.sorted.map (fun entry =>
      (Value.entryTo? heap (heap.containerCount + 1) entry).bind (readingMember 126)) =
        backs.map some := by
    rw [← mapM_eq_some_iff.mp inner]
    change store.entries.sorted.map ((·.bind (readingMember 126)) ∘ Value.entryTo? heap _) = _
    rw [← List.map_map, each, List.map_map]
    rfl
  have views : backs.map (fun back => (back.1, back.2.isNull)) =
      store.entries.sorted.map fun entry => (entry.1, entry.2.writesNull) :=
    Dictionary.views_of_map_eq rows fun entry back found =>
      Prod.ext (reread_isNull found).1 (reread_isNull found).2
  have sorted : (Dictionary.ofList store.entries.sorted).entries.Perm store.entries.entries := by
    rw [Dictionary.entries_ofList store.entries.nodup_sorted]
    exact store.entries.sorted_perm
  have nulls : ((Dictionary.ofList backs).get? key).map isNull =
      (store.entries.get? key).map Value.writesNull := by
    rw [← Dictionary.get?_ofList_map, views, Dictionary.get?_ofList_map,
      Dictionary.get?_perm sorted]
  have settled : Dictionary.ofList (Dictionary.ofList backs).entries = Dictionary.ofList backs :=
    Dictionary.ext (Dictionary.entries_ofList (Dictionary.ofList backs).distinct)
  rw [GivesNull, read, ← nulls]
  simp [settled]

theorem read?_of_readDocument {text : String} {document : Document}
    (found : files.find path = .ok (.file (.text text)))
    (read : readDocument files path = .ok document) : Document.read? text = some document := by
  cases refused : files.refusal (.read path) with
  | none =>
      rw [readDocument_text found refused] at read
      cases back : Document.read? text with
      | none =>
          rw [back] at read
          cases read
      | some other =>
          rw [back] at read
          cases read
          rfl
  | some cause =>
      rw [readDocument, read_of_find found, refused] at read
      cases read

theorem forceSave_kept (store : Store) (files : Files) (heap : Heap) :
    (store.forceSave files heap).2.1.entries = store.entries ∧
      (store.forceSave files heap).2.1.path = store.path := by
  unfold forceSave
  split
  · exact ⟨rfl, rfl⟩
  · split
    · exact ⟨rfl, rfl⟩
    · split <;> exact ⟨rfl, rfl⟩

end Saving

end Store

end EventScript
