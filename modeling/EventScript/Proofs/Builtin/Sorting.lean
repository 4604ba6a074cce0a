import Mathlib
import EventScript.Builtin.Call
import EventScript.Proofs.KeyedSort
import EventScript.Proofs.Value.Closed
import EventScript.Proofs.Value.Order

/-!
What the sorting function makes of a list of numbers, and of a list without numbers. In both cases
the comparison of two items is the comparison of two keys, the place of the number in the order of
all numbers or the text of the value, so that the new list is a stable sort of the old one. Nothing
else changes, and as the texts of the items stay the same in the larger heap, sorting the new list
leaves its order alone.
-/

namespace EventScript

namespace Value

variable {heap : Heap}

/-- All numbers, or no number at all. -/
def Homogeneous (items : List Value) : Prop :=
  (∀ item ∈ items, item.isNumber = true) ∨ ∀ item ∈ items, item.isNumber = false

def numberKey : Value → Int
  | .number double => Number.orderKey double
  | _ => 0

def ComparedBy {κ : Type} [LinearOrder κ] (heap : Heap) (key : Value → κ) (items : List Value) :
    Prop :=
  ∀ left ∈ items, ∀ right ∈ items, left.compare heap right = Ord.compare (key left) (key right)

theorem comparedBy_numbers {items : List Value} (numbers : ∀ item ∈ items, item.isNumber = true) :
    ComparedBy heap numberKey items := by
  intro left leftMember right rightMember
  rcases isNumber_cases left with ⟨first, rfl⟩ | other
  · rcases isNumber_cases right with ⟨second, rfl⟩ | other
    · rfl
    · rw [numbers right rightMember] at other
      cases other
  · rw [numbers left leftMember] at other
    cases other

theorem comparedBy_texts {items : List Value} (others : ∀ item ∈ items, item.isNumber = false) :
    ComparedBy heap (render heap) items := by
  intro left leftMember right _
  rw [compare_texts (.inl (others left leftMember))]

end Value

namespace Builtin

open Value KeyedSort

/-- The same items, none before a smaller one, and those that compare equal in their old order. -/
structure StableSort (heap : Heap) (items sorted : List Value) : Prop where
  perm : sorted.Perm items
  ascending : sorted.Pairwise fun left right => left.compare heap right ≠ .gt
  stable : ∀ value ∈ items, sorted.filter (fun other => value.compare heap other == .eq) =
    items.filter fun other => value.compare heap other == .eq

section Keys

variable {κ : Type} [LinearOrder κ] {heap : Heap} {key : Value → κ} {items : List Value}

theorem merged_eq_ofKey (compared : ComparedBy heap key items) :
    merged heap items = items.mergeSort (notAbove key) := by
  have same : ∀ left ∈ items, ∀ right ∈ items,
      (left.compare heap right != .gt) = notAbove key left right := by
    intro left leftMember right rightMember
    rw [compared left leftMember right rightMember, notAbove, Bool.eq_iff_iff, bne_iff_ne,
      decide_eq_true_iff]
    exact compare_le_iff_le
  have mapped := List.map_mergeSort (f := id) (r := fun left right : Value =>
    left.compare heap right != .gt) (s := notAbove key) same
  simpa only [merged, List.map_id] using mapped

theorem equal_eq_ofKey (compared : ComparedBy heap key items) {left right : Value}
    (leftMember : left ∈ items) (rightMember : right ∈ items) :
    (left.compare heap right == .eq) = OfKey key (key left) right := by
  rw [compared left leftMember right rightMember, OfKey, Bool.eq_iff_iff, beq_iff_eq,
    decide_eq_true_iff, compare_eq_iff_eq]
  exact eq_comm

theorem stableSort_of_compared (compared : ComparedBy heap key items) :
    StableSort heap items (merged heap items) := by
  have perm : (merged heap items).Perm items := List.mergeSort_perm _ _
  refine ⟨perm, ?_, ?_⟩
  · have ascending : Ascending key (items.mergeSort (notAbove key)) := ascending_mergeSort items
    rw [← merged_eq_ofKey compared] at ascending
    refine List.Pairwise.imp_of_mem ?_ ascending
    intro left right leftMember rightMember le
    rw [compared left (perm.mem_iff.mp leftMember) right (perm.mem_iff.mp rightMember)]
    exact compare_le_iff_le.mpr le
  · intro value member
    rw [List.filter_congr fun other found => equal_eq_ofKey compared member (perm.mem_iff.mp found),
      List.filter_congr fun other found => equal_eq_ofKey compared member found,
      merged_eq_ofKey compared, filter_mergeSort]

end Keys

theorem merged_stable {heap : Heap} {items : List Value} (homogeneous : Homogeneous items) :
    StableSort heap items (merged heap items) := by
  rcases homogeneous with numbers | others
  · exact stableSort_of_compared (comparedBy_numbers numbers)
  · exact stableSort_of_compared (comparedBy_texts others)

theorem merged_ascending {heap : Heap} {sorted : List Value}
    (ascending : sorted.Pairwise fun left right => left.compare heap right ≠ .gt) :
    merged heap sorted = sorted :=
  List.mergeSort_of_pairwise (ascending.imp fun order => by simpa using order)

theorem consistent_of_homogeneous {heap : Heap} {items : List Value}
    (homogeneous : Homogeneous items) : Consistent heap items := by
  refine consistent_iff.mpr fun low high other lowMember _ otherMember astride => ?_
  have apart := astride.apart
  rcases homogeneous with numbers | others
  · rw [numbers other otherMember] at apart
    cases apart
  · have number := others _ lowMember
    cases number

theorem call?_sort (machine : Machine) {place : Nat} {heap : Heap}
    (homogeneous : Homogeneous (heap.list place).toList) (more : List Value) (dice : Dice) :
    call? machine "sort" (.list place :: more) heap dice =
      some (.ok (.list heap.lists.size),
        (heap.newList (merged heap (heap.list place).toList).toArray).2, dice) := by
  have consistent : Consistent heap (heap.list place).toList :=
    consistent_of_homogeneous homogeneous
  have made : newItems? machine .sort ⟨.list place :: more, heap⟩ =
      some (.ok (merged heap (heap.list place).toList)) := by
    rw [merged_eq]
    exact (sorts machine ⟨.list place :: more, heap⟩).merges consistent
  change some (run machine .sort (.list place :: more) heap dice) = _
  simp only [run, made]
  rfl

theorem homogeneous_perm {items sorted : List Value} (homogeneous : Homogeneous items)
    (perm : sorted.Perm items) : Homogeneous sorted :=
  homogeneous.imp (fun numbers item member => numbers item (perm.mem_iff.mp member))
    fun others item member => others item (perm.mem_iff.mp member)

/-- Sorting a list of numbers, or a list without numbers, makes a new list of its items, sorted and
with equal ones in the order they had. No container that was there is changed, and sorting the new
list, then or later, gives the same items in the same order. -/
theorem sort_stable {heap : Heap} {place : Nat} (closed : heap.Closed)
    (given : place < heap.lists.size) (homogeneous : Homogeneous (heap.list place).toList)
    (machine : Machine) (more : List Value) (dice : Dice) :
    ∃ sorted after, call? machine "sort" (.list place :: more) heap dice =
        some (.ok (.list heap.lists.size), after, dice) ∧
      after = (heap.newList sorted.toArray).2 ∧
      after.list heap.lists.size = sorted.toArray ∧
      StableSort heap (heap.list place).toList sorted ∧
      after.list place = heap.list place ∧ heap.Extends after ∧
      ∀ later, after.Extends later → ∀ machine others second,
        call? machine "sort" (.list heap.lists.size :: others) later second =
          some (.ok (.list later.lists.size), (later.newList sorted.toArray).2, second) := by
  have sorts : StableSort heap (heap.list place).toList
      (merged heap (heap.list place).toList) := merged_stable homogeneous
  generalize mergedList : merged heap (heap.list place).toList = sorted at sorts
  have extend := heap.newList_extends sorted.toArray
  refine ⟨sorted, _, ?_, rfl, heap.newList_list _, sorts, extend.list place given, extend, ?_⟩
  · rw [call?_sort machine homogeneous, mergedList]
  · intro later further machine others second
    have there : later.list heap.lists.size = sorted.toArray := by
      rw [further.list _ (by simp [Heap.newList]), heap.newList_list]
    have again : Homogeneous (later.list heap.lists.size).toList := by
      rw [there]
      exact homogeneous_perm homogeneous sorts.perm
    have itemGiven : ∀ item ∈ sorted, item.Given heap := fun item member =>
      closed (.list place) item (sorts.perm.mem_iff.mp member)
    have ascending : sorted.Pairwise fun left right => left.compare later right ≠ .gt := by
      refine sorts.ascending.imp_of_mem ?_
      intro left right leftMember rightMember order
      rwa [compare_extends closed (extend.trans further) (itemGiven left leftMember)
        (itemGiven right rightMember)]
    rw [call?_sort machine again, there, List.toList_toArray, merged_ascending ascending]

def wordHeap : Heap := { lists := #[#[.text "true", .bool true, .text "b", .null]] }

theorem wordHeap_closed : wordHeap.Closed := by
  intro container inner holds
  cases container with
  | list place =>
      cases place with
      | zero =>
          have member : inner ∈ [Value.text "true", .bool true, .text "b", .null] := holds
          fin_cases member <;> trivial
      | succ place => cases holds
  | map place =>
      obtain ⟨key, member⟩ := holds
      cases member
  | _ => exact holds.elim

theorem words_sort : wordHeap.Closed ∧ 0 < wordHeap.lists.size ∧
    Homogeneous (wordHeap.list 0).toList ∧
    ∃ (sorted : List Value) (after : Heap),
      call? .strict "sort" [.list 0] wordHeap {} = some (.ok (.list 1), after, {}) ∧
      sorted.Perm [.text "true", .bool true, .text "b", .null] ∧
      sorted.filter (fun other => (Value.bool true).compare wordHeap other == .eq) =
        [.text "true", .bool true] ∧
      after.list 0 = wordHeap.list 0 := by
  have homogeneous : Homogeneous (wordHeap.list 0).toList := .inr (by decide +kernel)
  obtain ⟨sorted, after, call, _, _, sorts, input, _⟩ :=
    sort_stable wordHeap_closed (by decide) homogeneous .strict [] {}
  refine ⟨wordHeap_closed, by decide, homogeneous, sorted, after, call, sorts.perm, ?_, input⟩
  rw [sorts.stable (.bool true) (by decide +kernel)]
  decide +kernel

end Builtin

end EventScript
