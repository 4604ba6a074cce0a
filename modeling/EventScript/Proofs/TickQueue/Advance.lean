import Mathlib
import EventScript.TickQueue
import EventScript.Proofs.KeyedSort
import EventScript.Proofs.TickQueue

/-!
How the clock may be moved. Any way of dividing a number of ticks into several advances releases the
same work in the same order and leaves the same queue, so a host may choose its steps. It may also
skip ahead by the ticks that `nextDue?` tells: nothing is released by fewer, and something is by
that many.
-/

namespace EventScript.TickQueue

variable {α : Type}

def advanceEach (queue : TickQueue α) : List Nat → List α × TickQueue α
  | [] => ([], queue)
  | ticks :: rest =>
      let first := queue.advance ticks
      let later := first.2.advanceEach rest
      (first.1 ++ later.1, later.2)

theorem laterTick_add (now first second : Nat) :
    laterTick now (first + second) = laterTick (laterTick now first) second := by
  simp only [laterTick]
  omega

section Release

def dueBetween (entries : List (Nat × α)) (after upTo : Nat) : List (Nat × α) :=
  (entries.filter fun entry => decide (after < entry.1 ∧ entry.1 ≤ upTo)).mergeSort
    (KeyedSort.notAbove Prod.fst)

def readyBy (entries : List (Nat × α)) (clock : Nat) : List (Nat × α) :=
  (entries.filter fun entry => decide (entry.1 ≤ clock)).mergeSort (KeyedSort.notAbove Prod.fst)

def waitingAt (entries : List (Nat × α)) (clock : Nat) : List (Nat × α) :=
  entries.filter fun entry => !decide (entry.1 ≤ clock)

theorem advance_fst (queue : TickQueue α) (ticks : Nat) :
    (queue.advance ticks).1 =
      (readyBy queue.entries (laterTick queue.now ticks)).map (·.2) := rfl

@[simp]
theorem advance_now (queue : TickQueue α) (ticks : Nat) :
    (queue.advance ticks).2.now = laterTick queue.now ticks := rfl

@[simp]
theorem advance_entries (queue : TickQueue α) (ticks : Nat) :
    (queue.advance ticks).2.entries = waitingAt queue.entries (laterTick queue.now ticks) := rfl

theorem waitingAt_waitingAt (entries : List (Nat × α)) {first second : Nat}
    (le : first ≤ second) :
    waitingAt (waitingAt entries first) second = waitingAt entries second := by
  simp only [waitingAt, List.filter_filter]
  refine List.filter_congr ?_
  intro entry _
  simp only [Bool.and_eq_left_iff_imp, Bool.not_eq_true', decide_eq_false_iff_not]
  omega

theorem readyBy_waitingAt (entries : List (Nat × α)) (first second : Nat) :
    readyBy (waitingAt entries first) second = dueBetween entries first second := by
  simp only [waitingAt, readyBy, dueBetween, List.filter_filter]
  congr 1
  refine List.filter_congr ?_
  intro entry _
  rw [Bool.eq_iff_iff]
  simp only [Bool.and_eq_true, Bool.not_eq_true', decide_eq_true_eq, decide_eq_false_iff_not]
  omega

/-- What is ready by a later clock is what was ready by an earlier one, and then what has become due
since. -/
theorem readyBy_append (entries : List (Nat × α)) {first second : Nat} (le : first ≤ second) :
    readyBy entries first ++ dueBetween entries first second = readyBy entries second := by
  refine (KeyedSort.mergeSort_eq ?_ ?_).symm
  · refine List.pairwise_append.mpr ⟨KeyedSort.ascending_mergeSort _,
      KeyedSort.ascending_mergeSort _, ?_⟩
    intro early earlyMember late lateMember
    simp only [readyBy, dueBetween, List.mem_mergeSort, List.mem_filter, decide_eq_true_eq]
      at earlyMember lateMember
    omega
  · intro wanted
    simp only [readyBy, dueBetween, List.filter_append, KeyedSort.filter_mergeSort]
    rw [KeyedSort.ofKey_filter _ wanted (· ≤ first), KeyedSort.ofKey_filter _ wanted (· ≤ second),
      KeyedSort.ofKey_filter _ wanted fun due => first < due ∧ due ≤ second]
    by_cases early : wanted ≤ first
    · simp [early, Nat.not_lt.mpr early, early.trans le]
    · simp [early, Nat.lt_of_not_le early]

theorem advance_add (queue : TickQueue α) (first second : Nat) :
    queue.advance (first + second) =
      ((queue.advance first).1 ++ ((queue.advance first).2.advance second).1,
        ((queue.advance first).2.advance second).2) := by
  -- The clock may stop at the last tick in between, so its two steps are compared and not added.
  have le : laterTick queue.now first ≤ laterTick (laterTick queue.now first) second := by
    have most := laterTick_le queue.now first
    simp only [laterTick] at most ⊢
    omega
  refine Prod.ext ?_ (TickQueue.ext (laterTick_add queue.now first second) ?_)
  · simp only [advance_fst, advance_now, advance_entries, laterTick_add, readyBy_waitingAt,
      ← List.map_append, readyBy_append queue.entries le]
  · simp only [advance_now, advance_entries, laterTick_add, waitingAt_waitingAt queue.entries le]

theorem advanceEach_eq (queue : TickQueue α) (ticks : Nat) (rest : List Nat) :
    queue.advanceEach (ticks :: rest) = queue.advance (ticks + rest.sum) := by
  induction rest generalizing queue ticks with
  | nil => simp [advanceEach]
  | cons next rest ih =>
      rw [List.sum_cons, advance_add, ← ih]
      rfl

end Release

section Waiting

theorem advance_nil_iff (queue : TickQueue α) (ticks : Nat) :
    (queue.advance ticks).1 = [] ↔
      ∀ entry ∈ queue.entries, laterTick queue.now ticks < entry.1 := by
  rw [advance_fst, List.map_eq_nil_iff, readyBy, ← List.length_eq_zero_iff, List.length_mergeSort,
    List.length_eq_zero_iff, List.filter_eq_nil_iff]
  simp

/-- For 64-bit numbers the clock stops in no way of an entry: it is released by exactly the advances
of at least the ticks it is away. -/
theorem due_iff {queue : TickQueue α} {entry : Nat × α}
    (member : entry ∈ queue.entries) (ticks : Nat) :
    entry.1 ≤ laterTick queue.now ticks ↔ entry.1 - queue.now ≤ ticks := by
  have most := queue.reachable entry member
  have now := queue.clocked
  simp only [laterTick]
  omega

theorem releases_iff (queue : TickQueue α) (ticks : Nat) :
    (queue.advance ticks).1 ≠ [] ↔ ∃ entry ∈ queue.entries, entry.1 - queue.now ≤ ticks := by
  rw [ne_eq, advance_nil_iff]
  push Not
  exact exists_congr fun entry => and_congr_right fun member => due_iff member ticks

theorem nextDue?_eq_some_iff (queue : TickQueue α) (ticks : Nat) :
    queue.nextDue? = some ticks ↔
      IsLeast { count | (queue.advance count).1 ≠ [] } ticks := by
  rw [nextDue?, List.min?_eq_some_iff]
  constructor
  · rintro ⟨member, least⟩
    obtain ⟨entry, found, rfl⟩ := List.mem_map.mp member
    refine ⟨(queue.releases_iff _).mpr ⟨entry, found, le_refl _⟩, ?_⟩
    intro count released
    obtain ⟨other, otherFound, le⟩ := (queue.releases_iff count).mp released
    exact (least _ (List.mem_map_of_mem otherFound)).trans le
  · rintro ⟨released, least⟩
    have below : ∀ entry ∈ queue.entries, ticks ≤ entry.1 - queue.now := fun entry found =>
      least ((queue.releases_iff _).mpr ⟨entry, found, le_refl _⟩)
    obtain ⟨entry, found, le⟩ := (queue.releases_iff ticks).mp released
    refine ⟨List.mem_map.mpr ⟨entry, found, le_antisymm le (below entry found)⟩, ?_⟩
    intro count member
    obtain ⟨other, otherFound, rfl⟩ := List.mem_map.mp member
    exact below other otherFound

theorem nextDue?_eq_none_iff (queue : TickQueue α) :
    queue.nextDue? = none ↔ ∀ ticks, (queue.advance ticks).1 = [] := by
  rw [nextDue?, List.min?_eq_none_iff, List.map_eq_nil_iff]
  constructor
  · intro empty ticks
    rw [advance_nil_iff, empty]
    simp
  · intro idle
    refine List.eq_nil_iff_forall_not_mem.mpr ?_
    intro entry found
    exact (queue.releases_iff (entry.1 - queue.now)).mpr ⟨entry, found, le_refl _⟩ (idle _)

end Waiting

/-- However a number of ticks is divided into advances, they release the same work in the same order
and leave the same queue and clock; and the ticks to the next due work are the fewest that release
anything, and there are none when no advance does. -/
theorem advance_divides (queue : TickQueue α) :
    (∀ first second, queue.advance (first + second) =
      ((queue.advance first).1 ++ ((queue.advance first).2.advance second).1,
        ((queue.advance first).2.advance second).2)) ∧
    (∀ ticks rest, queue.advanceEach (ticks :: rest) = queue.advance (ticks + rest.sum)) ∧
    (∀ ticks, queue.nextDue? = some ticks ↔
      IsLeast { count | (queue.advance count).1 ≠ [] } ticks) ∧
    (queue.nextDue? = none ↔ ∀ ticks, (queue.advance ticks).1 = []) :=
  ⟨queue.advance_add, queue.advanceEach_eq, queue.nextDue?_eq_some_iff,
    queue.nextDue?_eq_none_iff⟩

/-- Two pieces of work for one tick, with an earlier one between them in the order of scheduling. -/
def crossing : TickQueue Nat := after [.advance 2, .schedule 3 1, .schedule 1 2, .schedule 3 3]

theorem crossing_divides : crossing.nextDue? = some 1 ∧
    (crossing.advanceEach [0, 1, 2]).1 = [2, 1, 3] ∧ (crossing.advance 0).1 = [] := by
  obtain ⟨_, each, next, _⟩ := advance_divides crossing
  have due : crossing.nextDue? = some 1 := by decide +kernel
  refine ⟨due, ?_, ?_⟩
  · rw [each]
    simp [crossing, after, serve, schedule, advance, dueAfter, laterTick, lastTick, List.mergeSort,
      List.MergeSort.Internal.splitInTwo]
  · by_contra released
    exact Nat.not_succ_le_zero _ (((next 1).mp due).2 released)

end EventScript.TickQueue
