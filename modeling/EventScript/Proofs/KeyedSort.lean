import Mathlib

/-!
Sorting by a key with a total order, where several items may have the same key. The sorted list is
the only one that ascends by key and has the items of each key in the order they had.
-/

namespace EventScript.KeyedSort

variable {α κ : Type} [LinearOrder κ] (key : α → κ)

def notAbove (left right : α) : Bool := decide (key left ≤ key right)

def OfKey (wanted : κ) (item : α) : Bool := decide (key item = wanted)

def Ascending (items : List α) : Prop := items.Pairwise fun left right => key left ≤ key right

variable {key}

theorem notAbove_total (left right : α) :
    (notAbove key left right || notAbove key right left) = true := by
  simpa [notAbove] using le_total (key left) (key right)

theorem notAbove_trans (first second third : α) (one : notAbove key first second = true)
    (two : notAbove key second third = true) : notAbove key first third = true := by
  simp only [notAbove, decide_eq_true_eq] at one two ⊢
  exact one.trans two

theorem ascending_mergeSort (items : List α) : Ascending key (items.mergeSort (notAbove key)) := by
  have sorted : (items.mergeSort (notAbove key)).Pairwise fun left right =>
      notAbove key left right = true := List.pairwise_mergeSort notAbove_trans notAbove_total items
  simpa only [Ascending, notAbove, decide_eq_true_eq] using sorted

theorem filter_mergeSort (items : List α) (wanted : κ) :
    (items.mergeSort (notAbove key)).filter (OfKey key wanted) =
      items.filter (OfKey key wanted) := by
  have alike : (items.filter (OfKey key wanted)).Pairwise
      fun left right => notAbove key left right = true := by
    refine List.pairwise_of_forall_mem_list ?_
    intro left leftMember right rightMember
    simp only [OfKey, List.mem_filter, decide_eq_true_eq] at leftMember rightMember
    simp [notAbove, leftMember.2, rightMember.2]
  have kept := List.sublist_mergeSort notAbove_trans notAbove_total alike List.filter_sublist
  have inside := kept.filter (OfKey key wanted)
  simp only [List.filter_filter, Bool.and_self] at inside
  have sameLength := ((List.mergeSort_perm items (notAbove key)).filter
    (OfKey key wanted)).length_eq
  exact (inside.eq_of_length sameLength.symm).symm

theorem ofKey_filter (items : List α) (wanted : κ) (keep : κ → Prop) [DecidablePred keep] :
    (items.filter fun item => decide (keep (key item))).filter (OfKey key wanted) =
      if keep wanted then items.filter (OfKey key wanted) else [] := by
  rw [List.filter_filter]
  split
  · next kept =>
    refine List.filter_congr ?_
    intro item _
    simp only [OfKey, Bool.and_eq_left_iff_imp, decide_eq_true_eq]
    rintro rfl
    exact kept
  · next dropped =>
    refine List.filter_eq_nil_iff.mpr ?_
    intro item _
    simp only [OfKey, Bool.and_eq_true, decide_eq_true_eq, not_and]
    rintro rfl
    exact dropped

theorem key_le_of_alike {head item : α} {rest others : List α}
    (ascending : Ascending key (head :: rest)) (member : item ∈ others)
    (alike : ∀ wanted, (head :: rest).filter (OfKey key wanted) =
      others.filter (OfKey key wanted)) : key head ≤ key item := by
  have found : item ∈ others.filter (OfKey key (key item)) := by simp [OfKey, member]
  rw [← alike, List.mem_filter] at found
  rcases List.mem_cons.mp found.1 with rfl | later
  · exact le_refl _
  · exact (List.pairwise_cons.mp ascending).1 item later

theorem eq_of_alike {left right : List α} (leftAscending : Ascending key left)
    (rightAscending : Ascending key right)
    (alike : ∀ wanted, left.filter (OfKey key wanted) = right.filter (OfKey key wanted)) :
    left = right := by
  induction left generalizing right with
  | nil =>
      refine (List.eq_nil_iff_forall_not_mem.mpr ?_).symm
      intro item member
      have found : item ∈ right.filter (OfKey key (key item)) := by simp [OfKey, member]
      rw [← alike] at found
      cases found
  | cons head rest ih =>
      cases right with
      | nil => simpa [OfKey] using alike (key head)
      | cons other others =>
          have same : key head = key other :=
            le_antisymm (key_le_of_alike leftAscending List.mem_cons_self alike)
              (key_le_of_alike rightAscending List.mem_cons_self fun wanted => (alike wanted).symm)
          have heads := alike (key head)
          simp only [OfKey, List.filter_cons, same, decide_true, if_true, List.cons.injEq] at heads
          obtain ⟨rfl, _⟩ := heads
          congr 1
          refine ih (List.Pairwise.of_cons leftAscending) (List.Pairwise.of_cons rightAscending) ?_
          intro wanted
          have both := alike wanted
          simp only [List.filter_cons] at both
          split at both
          · exact (List.cons.inj both).2
          · exact both

theorem mergeSort_eq {items sorted : List α} (ascending : Ascending key sorted)
    (alike : ∀ wanted, sorted.filter (OfKey key wanted) = items.filter (OfKey key wanted)) :
    items.mergeSort (notAbove key) = sorted :=
  eq_of_alike (ascending_mergeSort items) ascending fun wanted =>
    (filter_mergeSort items wanted).trans (alike wanted).symm

end EventScript.KeyedSort
