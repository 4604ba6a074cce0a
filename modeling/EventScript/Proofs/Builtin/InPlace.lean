import EventScript.Builtin.Call
import EventScript.Proofs.Value.Closed

/-!
Which containers a call of a function changes, and which one it gives back. A call looks at its
arguments, makes one list, or changes the list that is its first argument; whatever else there is,
shared or not, keeps its contents.
-/

namespace EventScript

namespace Builtin

def makesList : Builtin → Bool
  | .range | .split | .sort | .shuffle | .reverse => true
  | _ => false

def changesList : Builtin → Bool
  | .push | .pop | .remove => true
  | _ => false

def Arguments.Names (arguments : Arguments) (place : Nat) : Prop :=
  0 ≤ arguments.integer 1 ∧ arguments.integer 1 < (arguments.heap.list place).size

/-- All that a call can come to: what it answers, and the heap behind it. -/
inductive Deed (builtin : Builtin) (arguments : Arguments) :
    Except (Stop CallError) Value → Heap → Prop
  | looks (result : Except (Stop CallError) Value) (plain : builtin.makesList = false)
      (idle : builtin.changesList = false) : Deed builtin arguments result arguments.heap
  | fails (stop : Stop CallError) (idle : builtin.changesList = false) :
      Deed builtin arguments (.error stop) arguments.heap
  | makes (items : Array Value) (maker : builtin.makesList = true) :
      Deed builtin arguments (.ok (arguments.heap.newList items).1) (arguments.heap.newList items).2
  | pushes (place : Nat) (first : arguments.value 0 = .list place) (push : builtin = .push) :
      Deed builtin arguments (.ok (arguments.value 0))
        (arguments.heap.modifyList place (·.push (arguments.value 1)))
  | passes (other : ∀ place, arguments.value 0 ≠ .list place) (push : builtin = .push) :
      Deed builtin arguments (.ok (arguments.value 0)) arguments.heap
  | pops (place : Nat) (first : arguments.value 0 = .list place) (pop : builtin = .pop)
      (last : Value) : Deed builtin arguments (.ok last) (arguments.heap.modifyList place (·.pop))
  | removes (place : Nat) (first : arguments.value 0 = .list place) (remove : builtin = .remove)
      (inside : arguments.Names place) (item : Value) :
      Deed builtin arguments (.ok item)
        (arguments.heap.modifyList place (·.eraseIdxIfInBounds (arguments.integer 1).toNat))
  | misses (place : Nat) (first : arguments.value 0 = .list place) (remove : builtin = .remove)
      (outside : ¬arguments.Names place) : Deed builtin arguments (.ok .null) arguments.heap
  | declines (other : ∀ place, arguments.value 0 ≠ .list place)
      (taker : builtin = .pop ∨ builtin = .remove) :
      Deed builtin arguments (.ok .null) arguments.heap

theorem newItems?_eq_none {machine : Machine} {builtin : Builtin} {arguments : Arguments}
    (none : newItems? machine builtin arguments = none) :
    builtin.makesList = false ∨ builtin = .shuffle := by
  unfold newItems? at none
  split at none
  · dsimp only at none
    split at none <;> cases none
  · cases none
  · split at none <;> cases none
  · cases none
  · cases builtin <;> simp_all [makesList]

theorem newItems?_eq_some {machine : Machine} {builtin : Builtin} {arguments : Arguments}
    {made : Except (Stop CallError) (List Value)}
    (some : newItems? machine builtin arguments = some made) :
    builtin.makesList = true := by
  unfold newItems? at some
  split at some
  · rfl
  · rfl
  · rfl
  · rfl
  · cases some

theorem run_deed (machine : Machine) (builtin : Builtin) (values : List Value) (heap : Heap)
    (dice : Dice) : Deed builtin ⟨values, heap⟩ (run machine builtin values heap dice).1
      (run machine builtin values heap dice).2.1 := by
  unfold run
  dsimp only
  split
  · next items made =>
    exact .makes items.toArray (newItems?_eq_some made)
  · next error made =>
    have maker := newItems?_eq_some made
    refine .fails error ?_
    cases builtin <;> first | rfl | cases maker
  · next none =>
    have plain := newItems?_eq_none none
    split
    · exact .looks _ rfl rfl
    · split <;> split <;> exact .looks _ rfl rfl
    · exact .makes _ rfl
    · split
      · next place first =>
        rw [← first]
        exact .pushes place first rfl
      · next other => exact .passes other rfl
    · split
      · next place first => exact .pops place first rfl _
      · next other => exact .declines other (.inl rfl)
    · split
      · next place first =>
        split
        · next inside => exact .removes place first rfl inside _
        · next outside => exact .misses place first rfl outside
      · next other => exact .declines other (.inr rfl)
    · next shuffled pushed popped removed =>
      refine .looks _ (plain.resolve_right shuffled) ?_
      cases builtin <;> first | rfl | contradiction

def makerNames : List String := ["range", "split", "sort", "shuffle", "reverse"]

def pushNames : List String := ["push", "add"]

theorem ofName?_deeds {name : String} {builtin : Builtin} (known : ofName? name = some builtin) :
    (builtin.makesList = true ↔ name ∈ makerNames) ∧ (builtin = .push ↔ name ∈ pushNames) ∧
      (builtin = .pop ↔ name = "pop") ∧ (builtin = .remove ↔ name = "remove") := by
  unfold ofName? at known
  split at known <;> cases known <;> simp_all [makesList, makerNames, pushNames]

def itemsAfter (builtin : Builtin) (arguments : Arguments) (place : Nat) : Array Value :=
  let items := arguments.heap.list place
  match builtin with
  | .push => items.push (arguments.value 1)
  | .pop => items.pop
  | .remove =>
    if 0 ≤ arguments.integer 1 ∧ arguments.integer 1 < items.size then
      items.eraseIdxIfInBounds (arguments.integer 1).toNat
    else items
  | _ => items

namespace Deed

variable {builtin : Builtin} {arguments : Arguments} {result : Except (Stop CallError) Value}
  {after : Heap}

theorem itemsAfter_idle (idle : builtin.changesList = false) (place : Nat) :
    itemsAfter builtin arguments place = arguments.heap.list place := by
  cases builtin <;> first | rfl | cases idle

theorem list (deed : Deed builtin arguments result after) {place : Nat}
    (inside : place < arguments.heap.lists.size) :
    after.list place = if arguments.value 0 = .list place then itemsAfter builtin arguments place
      else arguments.heap.list place := by
  have kept (stays : arguments.value 0 = .list place →
      itemsAfter builtin arguments place = arguments.heap.list place) :
      arguments.heap.list place = if arguments.value 0 = .list place then
        itemsAfter builtin arguments place else arguments.heap.list place := by
    split
    · next first => exact (stays first).symm
    · rfl
  have changed {own : Nat} {change : Array Value → Array Value}
      (first : arguments.value 0 = .list own)
      (comes : change (arguments.heap.list own) = itemsAfter builtin arguments own) :
      (arguments.heap.modifyList own change).list place = if arguments.value 0 = .list place then
        itemsAfter builtin arguments place else arguments.heap.list place := by
    rw [Heap.modifyList_list, first]
    by_cases same : own = place
    · subst same
      rw [if_pos ⟨rfl, inside⟩, if_pos rfl, comes]
    · rw [if_neg fun both => same both.1, if_neg fun equal => same (Value.list.inj equal)]
  cases deed with
  | looks _ plain idle => exact kept fun _ => itemsAfter_idle idle place
  | fails stop idle => exact kept fun _ => itemsAfter_idle idle place
  | makes items maker =>
      rw [(arguments.heap.newList_extends items).list place inside]
      refine kept fun _ => itemsAfter_idle ?_ place
      cases builtin <;> first | rfl | cases maker
  | pushes own first push =>
      subst push
      exact changed first rfl
  | passes other push => exact kept fun first => absurd first (other place)
  | pops own first pop last =>
      subst pop
      exact changed first rfl
  | removes own first remove within item =>
      subst remove
      exact changed first (if_pos within).symm
  | misses own first remove outside =>
      subst remove
      refine kept fun same => if_neg ?_
      obtain rfl := Value.list.inj (first.symm.trans same)
      exact outside
  | declines other taker => exact kept fun first => absurd first (other place)

theorem map (deed : Deed builtin arguments result after) (place : Nat) :
    after.map place = arguments.heap.map place := by
  cases deed <;> rfl

theorem made (deed : Deed builtin arguments result after) (maker : builtin.makesList = true)
    {value : Value} (given : result = .ok value) :
    ∃ place, value = .list place ∧
      arguments.heap.lists.size ≤ place ∧ place < after.lists.size := by
  cases deed with
  | looks _ plain idle => rw [plain] at maker; cases maker
  | fails stop idle => cases given
  | makes items maker =>
      cases given
      exact ⟨_, rfl, Nat.le_refl _, by simp [Heap.newList]⟩
  | pushes own first push => subst push; cases maker
  | passes other push => subst push; cases maker
  | pops own first pop last => subst pop; cases maker
  | removes own first remove within item => subst remove; cases maker
  | misses own first remove outside => subst remove; cases maker
  | declines other taker => rcases taker with rfl | rfl <;> cases maker

theorem pushed (deed : Deed builtin arguments result after) (push : builtin = .push) :
    result = .ok (arguments.value 0) := by
  subst push
  cases deed with
  | looks _ plain idle => cases idle
  | fails stop idle => cases idle
  | makes items maker => cases maker
  | pushes own first push => rfl
  | passes other push => rfl
  | pops own first pop last => cases pop
  | removes own first remove within item => cases remove
  | misses own first remove outside => cases remove
  | declines other taker => rcases taker with same | same <;> cases same

end Deed

/-- What a call leaves of the containers that there were, and which container it gives back. Only
the list that is the first argument changes, also where a list lies in another one or in itself, or
is an argument twice. -/
structure InPlace (name : String) (arguments : Arguments) (result : Except (Stop CallError) Value)
    (after : Heap) : Prop where
  maps : ∀ place < arguments.heap.maps.size, after.map place = arguments.heap.map place
  others : ∀ place < arguments.heap.lists.size,
    (arguments.value 0 = .list place → name ∉ pushNames ∧ name ≠ "pop" ∧ name ≠ "remove") →
      after.list place = arguments.heap.list place
  appended : ∀ place < arguments.heap.lists.size, arguments.value 0 = .list place →
    name ∈ pushNames → (after.list place).toList =
      (arguments.heap.list place).toList ++ [arguments.value 1]
  shortened : ∀ place < arguments.heap.lists.size, arguments.value 0 = .list place →
    name = "pop" → (after.list place).toList = (arguments.heap.list place).toList.dropLast
  removed : ∀ place < arguments.heap.lists.size, arguments.value 0 = .list place →
    name = "remove" → ∀ index < (arguments.heap.list place).size, arguments.integer 1 = index →
      (after.list place).toList = (arguments.heap.list place).toList.eraseIdx index
  missed : ∀ place < arguments.heap.lists.size, arguments.value 0 = .list place →
    name = "remove" → (∀ index < (arguments.heap.list place).size, arguments.integer 1 ≠ index) →
      after.list place = arguments.heap.list place
  made : name ∈ makerNames → ∀ value, result = .ok value →
    ∃ place, value = .list place ∧ arguments.heap.lists.size ≤ place ∧ place < after.lists.size
  handedBack : name ∈ pushNames → result = .ok (arguments.value 0)

theorem call_in_place {machine : Machine} {name : String} {values : List Value} {heap after : Heap}
    {dice rolled : Dice}
    {result : Except (Stop CallError) Value}
    (called : call? machine name values heap dice = some (result, after, rolled)) :
    InPlace name ⟨values, heap⟩ result after := by
  obtain ⟨builtin, known, ran⟩ := Option.map_eq_some_iff.mp called
  obtain ⟨makes, pushes, pops, removes⟩ := ofName?_deeds known
  have deed := run_deed machine builtin values heap dice
  rw [ran] at deed
  refine ⟨fun place _ => deed.map place, fun place inside apart => ?_, ?_, ?_, ?_, ?_,
    fun maker value given => deed.made (makes.mpr maker) given,
    fun push => deed.pushed (pushes.mpr push)⟩
  · rw [deed.list inside]
    split
    · next first =>
      obtain ⟨noPush, noPop, noRemove⟩ := apart first
      refine Deed.itemsAfter_idle ?_ place
      cases builtin <;> simp_all [changesList]
    · rfl
  · intro place inside first push
    rw [deed.list inside, if_pos first, pushes.mpr push]
    exact Array.toList_push
  · intro place inside first pop
    rw [deed.list inside, if_pos first, pops.mpr pop]
    exact Array.toList_pop
  · intro place inside first remove index within named
    rw [deed.list inside, if_pos first, removes.mpr remove]
    simp only [itemsAfter, named]
    rw [if_pos ⟨Int.natCast_nonneg index, Int.ofNat_lt.mpr within⟩,
      Array.toList_eraseIdxIfInBounds, Int.toNat_natCast]
  · intro place inside first remove outside
    rw [deed.list inside, if_pos first, removes.mpr remove]
    refine if_neg ?_
    rintro ⟨least, most⟩
    obtain ⟨index, named⟩ := Int.eq_ofNat_of_zero_le least
    rw [named] at most
    exact outside index (Int.ofNat_lt.mp most) named

/-- A list is pushed on itself, and another one holds it. -/
theorem knot_in_place :
    let heap : Heap :=
      { lists := #[#[.list 0, .text "a"], #[.list 0]], maps := #[⟨[("b", .list 0)], by simp⟩] }
    let knotted : Heap := { heap with lists := #[#[.list 0, .text "a", .list 0], #[.list 0]] }
    call? .strict "push" [.list 0, .list 0] heap {} = some (.ok (.list 0), knotted, {}) ∧
      InPlace "push" ⟨[.list 0, .list 0], heap⟩ (.ok (.list 0)) knotted := by
  intro heap knotted
  have called : call? .strict "push" [.list 0, .list 0] heap {} =
      some (.ok (.list 0), knotted, {}) := rfl
  exact ⟨called, call_in_place called⟩

end Builtin

end EventScript
