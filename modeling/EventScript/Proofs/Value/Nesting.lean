import Mathlib.Data.Finset.Card
import Mathlib.Logic.Relation
import EventScript.Proofs.Document.RoundTrip
import EventScript.Value.Document

/-!
How containers lie inside each other. A value has a document unless a container that is reached from
it holds itself, directly or through others; and the text of its document reads back unless too many
containers lie one inside the other.
-/

namespace EventScript.Value

open Document

def Holds (heap : Heap) : Value → Value → Prop
  | .list place, inner => inner ∈ (heap.list place).toList
  | .map place, inner => ∃ key, (key, inner) ∈ (heap.map place).entries
  | _, _ => False

/-- That many containers lie one inside the other, the value being the outermost. -/
inductive Nests (heap : Heap) : Nat → Value → Prop
  | one {value : Value} : value.isContainer = true → Nests heap 1 value
  | more {outer inner : Value} {count : Nat} : Holds heap outer inner → Nests heap count inner →
      Nests heap (count + 1) outer

/-- A container that is reached from the value holds itself, directly or through others. -/
def Cyclic (heap : Heap) (value : Value) : Prop :=
  ∃ container, Relation.ReflTransGen (Holds heap) value container ∧
    Relation.TransGen (Holds heap) container container

section Nesting

variable {heap : Heap} {value : Value}

theorem isContainer_of_holds {inner : Value} (holds : Holds heap value inner) :
    value.isContainer = true := by
  cases value with
  | list place => rfl
  | map place => rfl
  | _ => exact holds.elim

theorem Nests.isContainer {count : Nat} (nests : Nests heap count value) :
    value.isContainer = true := by
  cases nests with
  | one container => exact container
  | more holds _ => exact isContainer_of_holds holds

theorem nests_one : Nests heap 1 value ↔ value.isContainer = true :=
  ⟨Nests.isContainer, .one⟩

theorem nests_more {count : Nat} :
    Nests heap (count + 2) value ↔
      ∃ inner, Holds heap value inner ∧ Nests heap (count + 1) inner := by
  constructor
  · rintro (_ | ⟨holds, nests⟩)
    exact ⟨_, holds, nests⟩
  · rintro ⟨inner, holds, nests⟩
    exact .more holds nests

theorem documentTo?_eq_none_iff (levels : Nat) (value : Value) :
    documentTo? heap levels value = none ↔ Nests heap (levels + 1) value := by
  induction levels generalizing value with
  | zero => cases value <;> simp [documentTo?, nests_one, isContainer]
  | succ levels ih =>
      rw [nests_more]
      cases value with
      | list place => simp only [documentTo?, Option.map_eq_none_iff, mapM_eq_none_iff, ih, Holds]
      | map place =>
          simp only [documentTo?, Option.map_eq_none_iff, mapM_eq_none_iff, ih, Holds, Prod.exists]
          exact ⟨fun ⟨key, inner, member, nests⟩ => ⟨inner, ⟨key, member⟩, nests⟩,
            fun ⟨inner, ⟨key, member⟩, nests⟩ => ⟨key, inner, member, nests⟩⟩
      | _ => simp [documentTo?, Holds]

end Nesting

section Cycles

variable {heap : Heap}

def containers (heap : Heap) : Finset Value :=
  (Finset.range heap.lists.size).image Value.list ∪ (Finset.range heap.maps.size).image Value.map

theorem card_containers_le (heap : Heap) : (containers heap).card ≤ heap.containerCount := by
  refine (Finset.card_union_le _ _).trans (Nat.add_le_add ?_ ?_)
  · exact Finset.card_image_le.trans_eq (Finset.card_range _)
  · exact Finset.card_image_le.trans_eq (Finset.card_range _)

theorem mem_containers_of_holds {outer inner : Value} (holds : Holds heap outer inner) :
    outer ∈ containers heap := by
  simp only [containers, Finset.mem_union, Finset.mem_image, Finset.mem_range]
  cases outer with
  | list place =>
      refine .inl ⟨place, ?_, rfl⟩
      by_contra outside
      simp [Holds, Heap.list, Array.getD, outside] at holds
  | map place =>
      refine .inr ⟨place, ?_, rfl⟩
      by_contra outside
      simp [Holds, Heap.map, Array.getD, outside] at holds
  | _ => exact holds.elim

open Classical in
/-- The containers that are reached from a value, the value itself included. -/
noncomputable def reached (heap : Heap) (value : Value) : Finset Value :=
  (containers heap).filter (Relation.ReflTransGen (Holds heap) value)

theorem mem_reached {value container : Value} : container ∈ reached heap value ↔
    container ∈ containers heap ∧ Relation.ReflTransGen (Holds heap) value container := by
  classical exact Finset.mem_filter

theorem Cyclic.outer {outer inner : Value} (holds : Holds heap outer inner)
    (cyclic : Cyclic heap inner) : Cyclic heap outer := by
  obtain ⟨container, path, back⟩ := cyclic
  exact ⟨container, .head holds path, back⟩

theorem card_reached_lt {outer inner : Value} (holds : Holds heap outer inner)
    (acyclic : ¬Cyclic heap outer) : (reached heap inner).card < (reached heap outer).card := by
  refine Finset.card_lt_card ⟨fun container member => ?_, fun subset => ?_⟩
  · rw [mem_reached] at member ⊢
    exact ⟨member.1, .head holds member.2⟩
  · have self : outer ∈ reached heap outer :=
      mem_reached.mpr ⟨mem_containers_of_holds holds, .refl⟩
    have back := (mem_reached.mp (subset self)).2
    exact acyclic ⟨outer, .refl, .head' holds back⟩

theorem Nests.le_reached {count : Nat} {value : Value} (nests : Nests heap count value)
    (acyclic : ¬Cyclic heap value) : count ≤ (reached heap value).card + 1 := by
  induction nests with
  | one _ => exact Nat.succ_le_succ (Nat.zero_le _)
  | more holds _ ih =>
      have inside := ih fun cyclic => acyclic (cyclic.outer holds)
      have fewer := card_reached_lt holds acyclic
      omega

theorem Cyclic.step {value : Value} (cyclic : Cyclic heap value) :
    ∃ inner, Holds heap value inner ∧ Cyclic heap inner := by
  obtain ⟨container, path, back⟩ := cyclic
  rcases Relation.ReflTransGen.cases_head path with rfl | ⟨inner, holds, rest⟩
  · obtain ⟨inner, holds, rest⟩ := Relation.TransGen.head'_iff.mp back
    exact ⟨inner, holds, value, rest, back⟩
  · exact ⟨inner, holds, container, rest, back⟩

theorem Cyclic.nests {value : Value} (cyclic : Cyclic heap value) (count : Nat) :
    Nests heap (count + 1) value := by
  induction count generalizing value with
  | zero =>
      obtain ⟨inner, holds, _⟩ := cyclic.step
      exact .one (isContainer_of_holds holds)
  | succ count ih =>
      obtain ⟨inner, holds, inside⟩ := cyclic.step
      exact .more holds (ih inside)

/-- A value has no document exactly when a container that is reached from it holds itself. -/
theorem document?_eq_none_iff (heap : Heap) (value : Value) :
    document? heap value = none ↔ Cyclic heap value := by
  rw [document?, documentTo?_eq_none_iff]
  constructor
  · intro nests
    by_contra acyclic
    have few := nests.le_reached acyclic
    have all : (reached heap value).card ≤ (containers heap).card :=
      Finset.card_le_card fun _ member => (mem_reached.mp member).1
    have count := card_containers_le heap
    omega
  · exact fun cyclic => cyclic.nests _

end Cycles

section Reading

variable {heap : Heap}

theorem documentTo?_list {room place : Nat} {document : Document}
    (saved : documentTo? heap room (.list place) = some document) :
    ∃ fewer items, room = fewer + 1 ∧ document = .array items ∧
      (heap.list place).toList.map (documentTo? heap fewer) = items.map some := by
  cases room with
  | zero => exact nomatch saved
  | succ fewer =>
      obtain ⟨items, each, rfl⟩ := Option.map_eq_some_iff.mp saved
      exact ⟨fewer, items, rfl, rfl, mapM_eq_some_iff.mp each⟩

def entryTo? (heap : Heap) (levels : Nat) (entry : String × Value) : Option (String × Document) :=
  (documentTo? heap levels entry.2).map fun document => (entry.1, document)

theorem entryTo?_key {levels : Nat} (entry : String × Value) (member : String × Document)
    (found : entryTo? heap levels entry = some member) : member.1 = entry.1 := by
  obtain ⟨value, _, rfl⟩ := Option.map_eq_some_iff.mp found
  rfl

theorem documentTo?_map {room place : Nat} {document : Document}
    (saved : documentTo? heap room (.map place) = some document) :
    ∃ fewer members, room = fewer + 1 ∧ document = .object members ∧
      (heap.map place).entries.map (entryTo? heap fewer) = members.map some := by
  cases room with
  | zero => exact nomatch saved
  | succ fewer =>
      obtain ⟨members, each, rfl⟩ := Option.map_eq_some_iff.mp saved
      exact ⟨fewer, members, rfl, rfl, mapM_eq_some_iff.mp each⟩

theorem reading_scalar {room : Nat} {value : Value} {document : Document}
    (scalar : value.isContainer = false) (saved : documentTo? heap room value = some document)
    (levels : Nat) : reading levels document ≠ none := by
  cases value with
  | number double =>
      rw [documentTo?] at saved
      cases saved
      split <;> simp [reading]
  | list place => cases scalar
  | map place => cases scalar
  | _ =>
      rw [documentTo?] at saved
      cases saved
      simp [reading]

theorem exists_mem_of_map_eq {α β : Type} {f : α → Option β} {row : List α} {values : List β}
    (each : row.map f = values.map some) {holds : α → Prop} {missing : β → Prop}
    (same : ∀ item value, item ∈ row → f item = some value → (missing value ↔ holds item)) :
    (∃ value ∈ values, missing value) ↔ ∃ item ∈ row, holds item := by
  induction row generalizing values with
  | nil =>
      cases values with
      | nil => simp
      | cons value values => exact nomatch each
  | cons item row ih =>
      cases values with
      | nil => exact nomatch each
      | cons value values =>
          simp only [List.map_cons, List.cons.injEq] at each
          have first := same item value List.mem_cons_self each.1
          have rest := ih each.2 fun item value member =>
              same item value (List.mem_cons_of_mem _ member)
          simp only [List.mem_cons, exists_eq_or_imp, first, rest]

theorem reading_scalar_iff {levels room : Nat} {value : Value} {document : Document}
    (scalar : value.isContainer = false) (saved : documentTo? heap room value = some document) :
    reading levels document = none ↔ Nests heap (levels + 1) value := by
  refine iff_of_false (reading_scalar scalar saved levels) fun nests => ?_
  rw [nests.isContainer] at scalar
  exact nomatch scalar

/-- The document of a value reads back exactly when no more containers lie one inside the other than
the reader allows. -/
theorem reading_eq_none_iff {levels room : Nat} {value : Value} {document : Document}
    (saved : documentTo? heap room value = some document) :
    reading levels document = none ↔ Nests heap (levels + 1) value := by
  induction levels generalizing room value document with
  | zero =>
      cases value with
      | list place =>
          obtain ⟨fewer, items, _, rfl, _⟩ := documentTo?_list saved
          exact iff_of_true rfl (.one rfl)
      | map place =>
          obtain ⟨fewer, members, _, rfl, _⟩ := documentTo?_map saved
          exact iff_of_true rfl (.one rfl)
      | _ => exact reading_scalar_iff rfl saved
  | succ levels ih =>
      cases value with
      | list place =>
          obtain ⟨fewer, items, _, rfl, each⟩ := documentTo?_list saved
          rw [nests_more, reading, Option.map_eq_none_iff, mapM_eq_none_iff]
          exact exists_mem_of_map_eq each fun item document _ saved => ih saved
      | map place =>
          obtain ⟨fewer, members, _, rfl, each⟩ := documentTo?_map saved
          rw [nests_more, reading, Option.map_eq_none_iff, mapM_eq_none_iff]
          have inside : (∃ entry ∈ (heap.map place).entries, Nests heap (levels + 1) entry.2) ↔
              ∃ inner, Holds heap (.map place) inner ∧ Nests heap (levels + 1) inner := by
            constructor
            · rintro ⟨entry, member, nests⟩
              exact ⟨entry.2, ⟨entry.1, member⟩, nests⟩
            · rintro ⟨inner, ⟨key, member⟩, nests⟩
              exact ⟨(key, inner), member, nests⟩
          rw [← inside]
          refine exists_mem_of_map_eq each fun entry member _ found => ?_
          obtain ⟨document, inner, rfl⟩ := Option.map_eq_some_iff.mp found
          rw [Option.map_eq_none_iff]
          exact ih inner
      | _ => exact reading_scalar_iff rfl saved

end Reading

end EventScript.Value
