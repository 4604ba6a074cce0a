import EventScript.Heap

/-!
The machine that runs scripts, where the text of a script does not settle what happens. A run that
stops there is lost: it gives nothing back and tells nobody why.
-/

namespace EventScript

inductive Loss where
  /-- It waits for a map that it holds itself. -/
  | blocked
  /-- It sorted values whose order contradicts itself. -/
  | panicked
  /-- It is nested deeper than it is followed. -/
  | unfollowed
  deriving DecidableEq, Repr

/-- Why there is no result: an error, or a run that is lost. -/
inductive Stop (ε : Type) where
  | failed (error : ε)
  | lost (loss : Loss)
  deriving DecidableEq, Repr

structure Machine where
  /-- What sorting makes of values whose order contradicts itself, if it does not panic. -/
  arrange : Heap → List Value → Option (List Value)
  arranges : ∀ {heap values arranged}, arrange heap values = some arranged →
    arranged.Perm values
  /-- How far runs are followed past their budget, which the host may raise as they go. -/
  patience : Nat

/-- It panics whenever an order contradicts itself, and follows runs no further than the budget. -/
def Machine.strict : Machine := ⟨fun _ _ => none, nofun, 0⟩

end EventScript
