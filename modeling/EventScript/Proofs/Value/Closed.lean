import Mathlib
import EventScript.Builtin.Call
import EventScript.Value.Comparison
import EventScript.Proofs.Value.Contents

/-!
Places that have been given out. If no container refers to any other place, then containers that are
made later do not change the text of a value or the order of two.
-/

namespace EventScript

namespace Value

/-- A container that has been given out; other values are always there. -/
def Given (heap : Heap) : Value → Prop
  | .list place => place < heap.lists.size
  | .map place => place < heap.maps.size
  | _ => True

end Value

namespace Heap

/-- No container refers to a place that has not been given out. -/
def Closed (heap : Heap) : Prop :=
  ∀ container inner, Value.Holds heap container inner → inner.Given heap

variable {heap later : Heap}

theorem newList_list (heap : Heap) (items : Array Value) :
    (heap.newList items).2.list heap.lists.size = items := by
  simp [newList, Heap.list]

theorem modifyList_list (heap : Heap) (changed place : Nat) (change : Array Value → Array Value) :
    (heap.modifyList changed change).list place =
      if changed = place ∧ place < heap.lists.size then change (heap.list changed)
      else heap.list place := by
  by_cases inside : place < heap.lists.size
  · by_cases same : changed = place
    · subst same
      simp [modifyList, Heap.list, inside, Array.getElem_modify]
    · simp [modifyList, Heap.list, inside, same, Array.getElem_modify]
  · simp [modifyList, Heap.list, inside]

end Heap

namespace Value

variable {heap later : Heap}

theorem renderTo_extends (closed : heap.Closed) (extend : heap.Extends later) {levels : Nat}
    {value : Value} (given : value.Given heap) :
    value.renderTo later levels = value.renderTo heap levels := by
  induction levels generalizing value with
  | zero => cases value <;> simp only [renderTo]
  | succ levels ih =>
      cases value with
      | list place =>
          have same : ∀ item ∈ (heap.list place).toList,
              item.renderTo later levels = item.renderTo heap levels :=
            fun item member => ih (closed (.list place) item member)
          simp only [renderTo, extend.list place given, List.map_congr_left same]
      | map place =>
          have same : ∀ entry ∈ (heap.map place).entries,
              entry.2.renderTo later levels = entry.2.renderTo heap levels :=
            fun entry member => ih (closed (.map place) entry.2 ⟨entry.1, member⟩)
          simp only [renderTo, extend.map place given]
          rw [List.map_congr_left fun entry member => by rw [same entry member]]
      | _ => simp only [renderTo]

theorem compare_extends (closed : heap.Closed) (extend : heap.Extends later) {left right : Value}
    (leftGiven : left.Given heap) (rightGiven : right.Given heap) :
    left.compare later right = left.compare heap right := by
  unfold compare
  split
  · rfl
  · rw [render, render, renderTo_extends closed extend leftGiven,
      renderTo_extends closed extend rightGiven, render, render]

end Value

end EventScript
