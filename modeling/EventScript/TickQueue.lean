/-!
A queue of work that is due at certain ticks. The clock only moves when it is told to, and stops at
the largest 64-bit number.
-/

namespace EventScript

def lastTick : Nat := 18446744073709551615

def laterTick (now ticks : Nat) : Nat := min (now + ticks) lastTick

theorem laterTick_le (now ticks : Nat) : laterTick now ticks ≤ lastTick := Nat.min_le_right _ _

theorem none_late {α : Type} : ∀ entry ∈ ([] : List (Nat × α)), entry.1 ≤ lastTick := by simp

@[ext]
structure TickQueue (α : Type) where
  now : Nat := 0
  entries : List (Nat × α) := []
  clocked : now ≤ lastTick := by exact Nat.zero_le lastTick
  reachable : ∀ entry ∈ entries, entry.1 ≤ lastTick := by exact none_late

namespace TickQueue

variable {α : Type}

instance : Inhabited (TickQueue α) := ⟨{}⟩

def dueAfter (queue : TickQueue α) (delay : Nat) : Nat := laterTick queue.now delay

def schedule (queue : TickQueue α) (delay : Nat) (work : α) : TickQueue α :=
  { queue with
    entries := queue.entries ++ [(queue.dueAfter delay, work)]
    reachable := fun entry member => (List.mem_append.mp member).elim (queue.reachable entry)
      fun new => List.mem_singleton.mp new ▸ laterTick_le _ _ }

/-- Moves the clock, and releases the work that has become due, earliest first and in the order of
scheduling among equals. -/
def advance (queue : TickQueue α) (ticks : Nat) : List α × TickQueue α :=
  let now := laterTick queue.now ticks
  let ready := queue.entries.filter fun entry => decide (entry.1 ≤ now)
  let waiting := queue.entries.filter fun entry => !decide (entry.1 ≤ now)
  let sorted := ready.mergeSort fun left right => decide (left.1 ≤ right.1)
  (sorted.map (·.2), { now, entries := waiting, clocked := laterTick_le _ _, reachable :=
    fun entry member => queue.reachable entry (List.mem_filter.mp member).1 })

def nextDue? (queue : TickQueue α) : Option Nat :=
  (queue.entries.map fun entry => entry.1 - queue.now).min?

def size (queue : TickQueue α) : Nat := queue.entries.length

def clear (queue : TickQueue α) : TickQueue α := { now := queue.now, clocked := queue.clocked }

end TickQueue

end EventScript
