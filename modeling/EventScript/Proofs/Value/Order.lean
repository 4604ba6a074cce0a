import Mathlib
import EventScript.Builtin.Call

/-!
How far the comparison of values is an order. Numbers are compared as numbers and all other pairs as
texts, so two numbers and a third value bring both rules together, and the rules may disagree:
2 comes before 10, but "10" before "2". A third value whose text lies between the two then closes a
circle. Nothing else goes wrong: without such a third value the comparison is a total preorder.
-/

namespace EventScript

namespace Number

theorem eq_of_orderKey {left right : Double} (same : orderKey left = orderKey right) :
    left = right := by
  refine Double.ext (UInt64.toNat_inj.mp ?_)
  simp only [orderKey] at same
  split at same <;> split at same <;> omega

theorem compareTotal_swap (left right : Double) :
    compareTotal right left = (compareTotal left right).swap := by
  unfold compareTotal
  exact Std.OrientedCmp.eq_swap

theorem compareTotal_isLE {left right : Double} (le : (compareTotal left right).isLE) :
    compareTotal left right = .lt ∨ left = right := by
  rcases Ordering.isLE_iff_eq_lt_or_eq_eq.mp le with less | same
  · exact .inl less
  · exact .inr (eq_of_orderKey (Std.LawfulEqCmp.eq_of_compare same))

end Number

namespace Value

/-- Two numbers, and another value whose text lies between theirs although the numbers stand the
other way round. -/
structure Astride (heap : Heap) (low high : Double) (other : Value) : Prop where
  apart : other.isNumber = false
  ascending : Number.compareTotal low high = .lt
  above : Number.text high ≤ other.render heap
  below : other.render heap ≤ Number.text low

variable {heap : Heap}

theorem compare_texts {left right : Value}
    (mixed : left.isNumber = false ∨ right.isNumber = false) :
    left.compare heap right = Ord.compare (left.render heap) (right.render heap) := by
  unfold compare
  split
  · rcases mixed with left | right
    · cases left
    · cases right
  · rfl

theorem compare_isLE {left right : Value}
    (mixed : left.isNumber = false ∨ right.isNumber = false) :
    (left.compare heap right).isLE ↔ left.render heap ≤ right.render heap := by
  rw [compare_texts mixed, Ordering.isLE_iff_ne_gt]
  exact compare_le_iff_le

theorem isNumber_cases (value : Value) :
    (∃ double, value = .number double) ∨ value.isNumber = false := by
  cases value with
  | number double => exact .inl ⟨double, rfl⟩
  | _ => exact .inr rfl

theorem compare_swap (left right : Value) :
    right.compare heap left = (left.compare heap right).swap := by
  rcases isNumber_cases left with ⟨first, rfl⟩ | other
  · rcases isNumber_cases right with ⟨second, rfl⟩ | other
    · exact Number.compareTotal_swap first second
    · rw [compare_texts (.inl other), compare_texts (.inr other)]
      exact Std.OrientedCmp.eq_swap
  · rw [compare_texts (.inr other), compare_texts (.inl other)]
    exact Std.OrientedCmp.eq_swap

/-- Three values that stand one before the other do so from the first to the last. -/
def Chained (heap : Heap) (first second third : Value) : Prop :=
  (first.compare heap second).isLE → (second.compare heap third).isLE →
    (first.compare heap third).isLE

theorem Astride.not_chained {low high : Double} {other : Value}
    (astride : Astride heap low high other) :
    ¬Chained heap (.number high) other (.number low) := by
  intro chained
  have back : (Number.compareTotal high low).isLE :=
    chained ((compare_isLE (.inr astride.apart)).mpr astride.above)
      ((compare_isLE (.inl astride.apart)).mpr astride.below)
  rw [Number.compareTotal_swap, astride.ascending] at back
  cases back

theorem chained_numbers (first second third : Double) :
    Chained heap (.number first) (.number second) (.number third) := by
  simp only [Chained, compare, Number.compareTotal]
  exact Std.TransCmp.isLE_trans

theorem chained_above {low high : Double} {other : Value} (apart : other.isNumber = false)
    (clear : ¬Astride heap low high other) : Chained heap (.number low) (.number high) other := by
  intro ascending above
  rw [compare_isLE (.inr apart)] at above ⊢
  rcases Number.compareTotal_isLE ascending with less | rfl
  · by_contra beyond
    exact clear ⟨apart, less, above, (not_le.mp beyond).le⟩
  · exact above

theorem chained_below {low high : Double} {other : Value} (apart : other.isNumber = false)
    (clear : ¬Astride heap low high other) : Chained heap other (.number low) (.number high) := by
  intro below ascending
  rw [compare_isLE (.inl apart)] at below ⊢
  rcases Number.compareTotal_isLE ascending with less | rfl
  · by_contra beyond
    exact clear ⟨apart, less, (not_le.mp beyond).le, below⟩
  · exact below

theorem chained_between {low high : Double} {other : Value} (apart : other.isNumber = false)
    (clear : ¬Astride heap low high other) : Chained heap (.number high) other (.number low) := by
  intro above below
  rw [compare_isLE (.inr apart)] at above
  rw [compare_isLE (.inl apart)] at below
  by_contra descending
  refine clear ⟨apart, ?_, above, below⟩
  rw [Number.compareTotal_swap high low]
  change ¬(Number.compareTotal high low).isLE at descending
  cases order : Number.compareTotal high low with
  | gt => rfl
  | lt => simp [order] at descending
  | eq => simp [order] at descending

theorem chained_texts {first second third : Value}
    (left : first.isNumber = false ∨ second.isNumber = false)
    (right : second.isNumber = false ∨ third.isNumber = false)
    (ends : first.isNumber = false ∨ third.isNumber = false) :
    Chained heap first second third := by
  intro earlier later
  rw [compare_isLE left] at earlier
  rw [compare_isLE right] at later
  exact (compare_isLE ends).mpr (earlier.trans later)

theorem chained_of_clear {first second third : Value}
    (clear : ∀ low high other, .number low ∈ [first, second, third] →
      .number high ∈ [first, second, third] → other ∈ [first, second, third] →
        ¬Astride heap low high other) :
    Chained heap first second third := by
  rcases isNumber_cases first with ⟨one, rfl⟩ | firstOther
  · rcases isNumber_cases second with ⟨two, rfl⟩ | secondOther
    · rcases isNumber_cases third with ⟨three, rfl⟩ | thirdOther
      · exact chained_numbers one two three
      · exact chained_above thirdOther (clear one two third (by simp) (by simp) (by simp))
    · rcases isNumber_cases third with ⟨three, rfl⟩ | thirdOther
      · exact chained_between secondOther (clear three one second (by simp) (by simp) (by simp))
      · exact chained_texts (.inr secondOther) (.inl secondOther) (.inr thirdOther)
  · rcases isNumber_cases second with ⟨two, rfl⟩ | secondOther
    · rcases isNumber_cases third with ⟨three, rfl⟩ | thirdOther
      · exact chained_below firstOther (clear two three first (by simp) (by simp) (by simp))
      · exact chained_texts (.inl firstOther) (.inr thirdOther) (.inl firstOther)
    · exact chained_texts (.inl firstOther) (.inl secondOther) (.inl firstOther)

theorem spelled?_eq_some {value : Value} {pair : Double × String}
    (spelled : value.spelled? = some pair) :
    value = .number pair.1 ∧ pair.2 = Number.text pair.1 := by
  cases value with
  | number double =>
      cases spelled
      exact ⟨rfl, rfl⟩
  | _ => cases spelled

theorem isConsistent_iff {values : List Value} :
    isConsistent heap values = true ↔
      ∀ low high other, .number low ∈ values → .number high ∈ values → other ∈ values →
        ¬Astride heap low high other := by
  simp only [isConsistent, List.all_eq_true, List.mem_map, List.mem_filter, List.mem_filterMap,
    Bool.not_eq_true', decide_eq_true_eq, bne_iff_ne]
  constructor
  · intro clear low high other lowMember highMember otherMember astride
    exact clear _ ⟨other, ⟨otherMember, astride.apart⟩, rfl⟩ (low, Number.text low)
      ⟨⟨_, lowMember, rfl⟩, astride.below⟩ (high, Number.text high)
      ⟨⟨_, highMember, rfl⟩, astride.above⟩ astride.ascending
  · rintro clear _ ⟨other, ⟨otherMember, apart⟩, rfl⟩ low ⟨⟨_, lowMember, lowSpelled⟩, below⟩ high
      ⟨⟨_, highMember, highSpelled⟩, above⟩ ascending
    obtain ⟨rfl, lowText⟩ := spelled?_eq_some lowSpelled
    obtain ⟨rfl, highText⟩ := spelled?_eq_some highSpelled
    rw [lowText] at below
    rw [highText] at above
    exact clear _ _ other lowMember highMember otherMember ⟨apart, ascending, above, below⟩

def Consistent (heap : Heap) (values : List Value) : Prop :=
  ∀ first ∈ values, ∀ second ∈ values, ∀ third ∈ values, Chained heap first second third

theorem consistent_iff {values : List Value} : Consistent heap values ↔
    ∀ low high other, .number low ∈ values → .number high ∈ values → other ∈ values →
      ¬Astride heap low high other := by
  constructor
  · intro chained low high other lowMember highMember otherMember astride
    exact astride.not_chained (chained _ highMember _ otherMember _ lowMember)
  · intro clear first firstMember second secondMember third thirdMember
    have among : ∀ value ∈ [first, second, third], value ∈ values := by
      simp [firstMember, secondMember, thirdMember]
    apply chained_of_clear
    intro low high other lowMember highMember otherMember
    exact clear low high other (among _ lowMember) (among _ highMember) (among _ otherMember)

theorem isConsistent_eq {values : List Value} :
    isConsistent heap values = true ↔ Consistent heap values :=
  isConsistent_iff.trans consistent_iff.symm

theorem merged_eq (heap : Heap) (values : List Value) :
    merged heap values = values.mergeSort fun left right => (left.compare heap right).isLE := by
  have same : (fun left right : Value => left.compare heap right != .gt) =
      fun left right => (left.compare heap right).isLE := by
    funext left right
    cases left.compare heap right <;> rfl
  rw [merged, same]

theorem sorted_consistent (machine : Machine) {values : List Value}
    (consistent : Consistent heap values) : sorted machine heap values =
      some (values.mergeSort fun left right => (left.compare heap right).isLE) := by
  rw [sorted, if_pos (isConsistent_eq.mpr consistent), merged_eq]

theorem sorted_contradicting (machine : Machine) {values : List Value}
    (contradicts : ¬Consistent heap values) :
    sorted machine heap values = machine.arrange heap values :=
  if_neg fun accepted => contradicts (isConsistent_eq.mp accepted)

/-- What sorting the items of a list comes to: it merges them as far as there is an order of them,
and otherwise may give them in any order or panic. -/
structure Sorts (machine : Machine) (arguments : Builtin.Arguments) : Prop where
  merges : Consistent arguments.heap arguments.items →
    Builtin.newItems? machine .sort arguments = some (.ok (arguments.items.mergeSort
      fun left right => (left.compare arguments.heap right).isLE))
  arranges : ¬Consistent arguments.heap arguments.items →
    Builtin.newItems? machine .sort arguments = some (.error (.lost .panicked)) ∨
      ∃ arranged : List Value, arranged.Perm arguments.items ∧
        Builtin.newItems? machine .sort arguments = some (.ok arranged)

theorem sorts (machine : Machine) (arguments : Builtin.Arguments) : Sorts machine arguments where
  merges consistent := by
    simp only [Builtin.newItems?, sorted_consistent machine consistent]
  arranges contradicts := by
    simp only [Builtin.newItems?, sorted_contradicting machine contradicts]
    cases answer : machine.arrange arguments.heap arguments.items with
    | none => exact .inl rfl
    | some arranged => exact .inr ⟨arranged, machine.arranges answer, rfl⟩

/-- The comparison can be turned round, and it is transitive among some values exactly if no value
among them is astride of two numbers. The sorting function puts the items of a list in this order
only if there is none of that kind; otherwise a machine need not give any order at all. -/
theorem compare_consistent_iff (heap : Heap) (values : List Value) :
    (∀ left right : Value, right.compare heap left = (left.compare heap right).swap) ∧
    (Consistent heap values ↔
      ∀ low high other, .number low ∈ values → .number high ∈ values → other ∈ values →
        ¬Astride heap low high other) ∧
    (∀ machine arguments, Sorts machine arguments) ∧
    ∀ arguments, ¬Consistent arguments.heap arguments.items →
      Builtin.newItems? .strict .sort arguments = some (.error (.lost .panicked)) := by
  refine ⟨compare_swap, consistent_iff, sorts, fun arguments contradicts => ?_⟩
  simp only [Builtin.newItems?, sorted_contradicting .strict contradicts]
  rfl

/-- 2 comes before 10 and 10 before "10", but not 2 before "10". -/
theorem ten_astride :
    let two := Value.number 2
    let ten := Value.number 10
    let written := Value.text "10"
    Number.isNotANumber 2 = false ∧ Number.isNotANumber 10 = false ∧
      (two.compare {} ten).isLE = true ∧ (ten.compare {} written).isLE = true ∧
      (two.compare {} written).isLE = false := by
  decide +kernel

end Value

end EventScript
