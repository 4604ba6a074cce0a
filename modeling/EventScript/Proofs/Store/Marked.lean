import EventScript.Store

/-!
What a store shows of its changes: an operation that changes the entries marks the store.
-/

namespace EventScript.Store

/-- The store is as it was, or it is marked as changed. -/
structure Marked (before after : Store) : Prop where
  path : after.path = before.path
  marked : after = before ∨ after.dirty = true

namespace Marked

theorem refl (store : Store) : Marked store store := ⟨rfl, .inl rfl⟩

theorem trans {first second third : Store} (earlier : Marked first second)
    (later : Marked second third) : Marked first third := by
  refine ⟨later.path.trans earlier.path, ?_⟩
  rcases later.marked with rfl | marked
  · exact earlier.marked
  · exact .inr marked

end Marked

theorem delete_marked (store : Store) (key : String) : Marked store (store.delete key) := by
  unfold delete
  split
  · exact ⟨rfl, .inr rfl⟩
  · exact .refl store

theorem set_marked (store : Store) (key : String) (value : Value) :
    Marked store (store.set key value) := by
  unfold set
  split
  · exact delete_marked store key
  · exact ⟨rfl, .inr rfl⟩

theorem increment_marked (store : Store) (key : String) (amount : Double) :
    Marked store (store.increment key amount).2 := ⟨rfl, .inr rfl⟩

theorem reset_marked (store : Store) : Marked store store.reset := ⟨rfl, .inr rfl⟩

end EventScript.Store
