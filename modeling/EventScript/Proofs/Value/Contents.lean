import EventScript.Proofs.Dictionary
import EventScript.Proofs.Value.Nesting

/-!
Values made from documents. Reading a document makes new containers and leaves those that are there
alone, so what the value holds does not depend on the heap: its document is the one that was read,
up to numbers that are not finite and members that are overridden by later ones of the same name.
-/

namespace EventScript

structure Heap.Extends (heap later : Heap) : Prop where
  listCount : heap.lists.size ≤ later.lists.size
  mapCount : heap.maps.size ≤ later.maps.size
  list : ∀ place < heap.lists.size, later.list place = heap.list place
  map : ∀ place < heap.maps.size, later.map place = heap.map place

namespace Heap

theorem Extends.refl (heap : Heap) : Extends heap heap :=
  ⟨Nat.le_refl _, Nat.le_refl _, fun _ _ => rfl, fun _ _ => rfl⟩

theorem Extends.trans {first second third : Heap} (earlier : Extends first second)
    (later : Extends second third) : Extends first third where
  listCount := earlier.listCount.trans later.listCount
  mapCount := earlier.mapCount.trans later.mapCount
  list place inside :=
    (later.list place (inside.trans_le earlier.listCount)).trans (earlier.list place inside)
  map place inside :=
    (later.map place (inside.trans_le earlier.mapCount)).trans (earlier.map place inside)

theorem Extends.containerCount {heap later : Heap} (extend : Extends heap later) :
    heap.containerCount ≤ later.containerCount :=
  Nat.add_le_add extend.listCount extend.mapCount

theorem newList_extends (heap : Heap) (items : Array Value) :
    Extends heap (heap.newList items).2 := by
  refine ⟨by simp [newList], Nat.le_refl _, fun place inside => ?_, fun _ _ => rfl⟩
  simp [newList, Heap.list, Array.getD, inside, Nat.lt_succ_of_lt inside, Array.getElem_push_lt]

theorem newMap_extends (heap : Heap) (entries : Dictionary Value) :
    Extends heap (heap.newMap entries).2 := by
  refine ⟨Nat.le_refl _, by simp [newMap], fun _ _ => rfl, fun place inside => ?_⟩
  simp [newMap, Heap.map, Array.getD, inside, Nat.lt_succ_of_lt inside, Array.getElem_push_lt]

end Heap

namespace Document

mutual

def settled : Document → Document
  | .null => .null
  | .bool truth => .bool truth
  | .number double => if Number.isFinite double then .number double else .null
  | .text content => .text content
  | .array items => .array (settledItems items)
  | .object members => .object (Dictionary.ofList (settledMembers members)).entries

def settledItems : List Document → List Document
  | [] => []
  | item :: rest => settled item :: settledItems rest

def settledMembers : List (String × Document) → List (String × Document)
  | [] => []
  | (key, item) :: rest => (key, settled item) :: settledMembers rest

end

end Document

namespace Value

open Document

section Making

variable {α β : Type}

/-- Making something leaves the containers alone that are there, and what was made reads as the
image that is given, however the heap grows after that. Each level that reading needs is a container
that was made. -/
structure Made (read : Heap → Nat → α → Option β) (heap : Heap) (image : β) (made : α)
    (after : Heap) : Prop where
  grows : heap.Extends after
  reads : ∀ later levels, after.Extends later →
    after.containerCount ≤ heap.containerCount + levels →
    read later levels made = some image

structure MadeRow (read : Heap → Nat → α → Option β) (heap : Heap) (images : List β)
    (made : List α) (after : Heap) : Prop where
  grows : heap.Extends after
  reads : ∀ later levels, after.Extends later →
    after.containerCount ≤ heap.containerCount + levels →
    made.map (read later levels) = images.map some

theorem MadeRow.nil (read : Heap → Nat → α → Option β) (heap : Heap) :
    MadeRow read heap [] [] heap :=
  ⟨.refl heap, fun _ _ _ _ => rfl⟩

theorem MadeRow.cons {read : Heap → Nat → α → Option β} {heap middle after : Heap} {image : β}
    {images : List β} {first : α} {others : List α} (made : Made read heap image first middle)
    (row : MadeRow read middle images others after) :
    MadeRow read heap (image :: images) (first :: others) after where
  grows := made.grows.trans row.grows
  reads later levels extend fits := by
    have before := made.grows.containerCount
    have behind := row.grows.containerCount
    rw [List.map_cons, List.map_cons, made.reads later levels (row.grows.trans extend) (by omega),
      row.reads later levels extend (by omega)]

end Making

theorem made_list {heap middle : Heap} {items : List Document} {values : List Value}
    (made : MadeRow documentTo? heap items values middle) :
    Made documentTo? heap (.array items) (middle.newList values.toArray).1
      (middle.newList values.toArray).2 where
  grows := made.grows.trans (middle.newList_extends _)
  reads later levels extend fits := by
    have count : (middle.newList values.toArray).2.containerCount = middle.containerCount + 1 := by
      simp [Heap.newList, Heap.containerCount]
      omega
    have more := made.grows.containerCount
    obtain ⟨levels, rfl⟩ : ∃ fewer, levels = fewer + 1 := ⟨levels - 1, by omega⟩
    have there : later.list middle.lists.size = values.toArray := by
      rw [extend.list _ (by simp [Heap.newList])]
      simp [Heap.newList, Heap.list, Array.getD]
    have each := made.reads later levels ((middle.newList_extends _).trans extend) (by omega)
    simp only [Heap.newList, documentTo?, there, mapM_eq_some_iff.mpr each, Option.map_some]

theorem made_map {heap middle : Heap} {members : List (String × Document)}
    {entries : List (String × Value)} (made : MadeRow entryTo? heap members entries middle) :
    Made documentTo? heap (.object (Dictionary.ofList members).entries)
      (middle.newMap (Dictionary.ofList entries)).1
      (middle.newMap (Dictionary.ofList entries)).2 where
  grows := made.grows.trans (middle.newMap_extends _)
  reads later levels extend fits := by
    have count : (middle.newMap (Dictionary.ofList entries)).2.containerCount =
        middle.containerCount + 1 := by
      simp [Heap.newMap, Heap.containerCount]
      omega
    have more := made.grows.containerCount
    obtain ⟨levels, rfl⟩ : ∃ fewer, levels = fewer + 1 := ⟨levels - 1, by omega⟩
    have there : later.map middle.maps.size = Dictionary.ofList entries := by
      rw [extend.map _ (by simp [Heap.newMap])]
      simp [Heap.newMap, Heap.map, Array.getD]
    have each := made.reads later levels ((middle.newMap_extends _).trans extend) (by omega)
    have whole := mapM_eq_some_iff.mpr (Dictionary.ofList_map_eq entryTo?_key each)
    simp only [Heap.newMap, documentTo?, there]
    exact congrArg (Option.map _) whole

theorem Made.entry {heap after : Heap} {document : Document} {value : Value}
    (made : Made documentTo? heap document value after) (key : String) :
    Made entryTo? heap (key, document) (key, value) after where
  grows := made.grows
  reads later levels extend fits := by
    rw [entryTo?, made.reads later levels extend fits]
    rfl

mutual

theorem ofDocument_made : ∀ (document : Document) (heap : Heap),
    Made documentTo? heap document.settled (ofDocument document heap).1 (ofDocument document heap).2
  | .null, heap => ⟨.refl heap, fun _ _ _ _ => by rw [ofDocument, documentTo?, settled]⟩
  | .bool truth, heap => ⟨.refl heap, fun _ _ _ _ => by rw [ofDocument, documentTo?, settled]⟩
  | .number double, heap => ⟨.refl heap, fun _ _ _ _ => by rw [ofDocument, documentTo?, settled]⟩
  | .text content, heap => ⟨.refl heap, fun _ _ _ _ => by rw [ofDocument, documentTo?, settled]⟩
  | .array items, heap => by
      rw [ofDocument, settled]
      exact made_list (ofItems_made items heap)
  | .object members, heap => by
      rw [ofDocument, settled]
      exact made_map (ofMembers_made members heap)

theorem ofItems_made : ∀ (items : List Document) (heap : Heap),
    MadeRow documentTo? heap (settledItems items) (ofItems items heap).1 (ofItems items heap).2
  | [], heap => by
      rw [ofItems, settledItems]
      exact .nil documentTo? heap
  | item :: rest, heap => by
      rw [ofItems, settledItems]
      exact .cons (ofDocument_made item heap) (ofItems_made rest _)

theorem ofMembers_made : ∀ (members : List (String × Document)) (heap : Heap),
    MadeRow entryTo? heap (settledMembers members) (ofMembers members heap).1
      (ofMembers members heap).2
  | [], heap => by
      rw [ofMembers, settledMembers]
      exact .nil entryTo? heap
  | (key, item) :: rest, heap => by
      rw [ofMembers, settledMembers]
      exact .cons ((ofDocument_made item heap).entry key) (ofMembers_made rest _)

end

section Exact

variable {heap : Heap}

theorem settledItems_eq (items : List Document) : settledItems items = items.map settled := by
  induction items with
  | nil => rw [settledItems, List.map_nil]
  | cons item items ih => rw [settledItems, ih, List.map_cons]

theorem settledMembers_eq (members : List (String × Document)) :
    settledMembers members = members.map fun member => (member.1, member.2.settled) := by
  induction members with
  | nil => rw [settledMembers, List.map_nil]
  | cons member members ih =>
      obtain ⟨key, item⟩ := member
      rw [settledMembers, ih, List.map_cons]

theorem items_exact {levels : Nat} {items : List Document}
    (exact : reading (levels + 1) (.array items) = some (.array items)) :
    ∀ item ∈ items, reading levels item = some item := by
  obtain ⟨back, each, same⟩ := Option.map_eq_some_iff.mp exact
  rw [Document.array.inj same] at each
  exact List.map_inj_left.mp (mapM_eq_some_iff.mp each)

theorem members_exact {levels : Nat} {members : List (String × Document)}
    (exact : reading (levels + 1) (.object members) = some (.object members)) :
    (members.map (·.1)).Nodup ∧ ∀ member ∈ members, reading levels member.2 = some member.2 := by
  obtain ⟨back, each, same⟩ := Option.map_eq_some_iff.mp exact
  have rows := mapM_eq_some_iff.mp each
  have kept := Document.object.inj same
  have distinct : (members.map (·.1)).Nodup := kept ▸ (Dictionary.ofList back).distinct
  have sameKeys := Dictionary.keys_of_map_eq readingMember_key rows
  rw [Dictionary.entries_ofList (sameKeys ▸ distinct)] at kept
  rw [kept] at rows
  refine ⟨distinct, fun member inside => ?_⟩
  obtain ⟨value, found, pair⟩ := Option.map_eq_some_iff.mp (List.map_inj_left.mp rows member inside)
  rw [found, ← pair]

theorem settled_scalar {room : Nat} {value : Value} {document : Document}
    (scalar : value.isContainer = false) (saved : documentTo? heap room value = some document) :
    document.settled = document := by
  cases value with
  | number double =>
      rw [documentTo?] at saved
      cases saved
      by_cases finite : Number.isFinite double = true <;> simp [finite, settled]
  | list place => exact nomatch scalar
  | map place => exact nomatch scalar
  | _ =>
      rw [documentTo?] at saved
      cases saved
      rw [settled]

theorem settledMembers_of_rows {room : Nat} {entries : List (String × Value)}
    {members : List (String × Document)}
    (each : entries.map (entryTo? heap room) = members.map some)
    (same : ∀ value member, member ∈ members → documentTo? heap room value = some member.2 →
      member.2.settled = member.2) : settledMembers members = members := by
  rw [settledMembers_eq]
  refine (List.map_congr_left fun member inside => ?_).trans (List.map_id' members)
  obtain ⟨entry, _, found⟩ := List.mem_map.mp (each ▸ List.mem_map_of_mem inside)
  obtain ⟨document, saved, rfl⟩ := Option.map_eq_some_iff.mp found
  rw [same entry.2 _ inside saved]

/-- The document of a value that reads back as itself is the document of the value made from it. -/
theorem settled_of_exact {levels room : Nat} {value : Value} {document : Document}
    (saved : documentTo? heap room value = some document)
    (exact : reading levels document = some document) : document.settled = document := by
  -- The induction is on the levels that reading needs; the object that reads back has its members
  -- under different names, so making a map of them loses none.
  induction levels generalizing room value document with
  | zero =>
      cases value with
      | list place =>
          obtain ⟨fewer, items, _, rfl, _⟩ := documentTo?_list saved
          exact nomatch exact
      | map place =>
          obtain ⟨fewer, members, _, rfl, _⟩ := documentTo?_map saved
          exact nomatch exact
      | _ => exact settled_scalar rfl saved
  | succ levels ih =>
      cases value with
      | list place =>
          obtain ⟨fewer, items, _, rfl, each⟩ := documentTo?_list saved
          have same : ∀ item ∈ items, item.settled = item := by
            intro item inside
            obtain ⟨value, _, saved⟩ := List.mem_map.mp (each ▸ List.mem_map_of_mem inside)
            exact ih saved (items_exact exact item inside)
          rw [settled, settledItems_eq, List.map_congr_left same, List.map_id']
      | map place =>
          obtain ⟨fewer, members, _, rfl, each⟩ := documentTo?_map saved
          obtain ⟨distinct, inner⟩ := members_exact exact
          have same := settledMembers_of_rows each fun value member inside saved =>
            ih saved (inner member inside)
          rw [settled, same, Dictionary.entries_ofList distinct]
      | _ => exact settled_scalar rfl saved

end Exact

end Value

end EventScript
