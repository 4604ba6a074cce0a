import EventScript.Heap

/-!
Frames: what one running handler or function knows. A function gets a frame of its own that shares
the actor, the cancellation flag and the budget with its caller's. A pool keeps the last frame so
that it can be used again.
-/

namespace EventScript

structure Actor where
  id : String
  attributes : List (String × Value) := []

structure Frame where
  locals : Dictionary Value := {}
  actor : Option Actor := none
  cancellation : Option Nat := none
  budget : Nat := 0
  depth : Nat := 0
  returning : Bool := false
  breaking : Bool := false
  continuing : Bool := false
  returnValue : Value := .null
  injected : Bool := false

namespace Frame

instance : Inhabited Frame := ⟨{}⟩

def withBudget (budget : Nat) : Frame := { budget }

def reset (_ : Frame) (budget : Nat) : Frame :=
  { locals := {}, actor := none, cancellation := none, budget, depth := 0, returning := false,
    breaking := false, continuing := false, returnValue := .null, injected := false }

def set (frame : Frame) (name : String) (value : Value) : Frame :=
  { frame with locals := frame.locals.put name value }

def get? (frame : Frame) (name : String) : Option Value := frame.locals.get? name

def interrupted (frame : Frame) : Bool := frame.returning || frame.breaking || frame.continuing

/-- The frame of a function called from this one, before its parameters are bound. -/
def child (frame : Frame) : Frame :=
  { actor := frame.actor, cancellation := frame.cancellation, budget := frame.budget,
    depth := frame.depth + 1 }

def cancelEvent (frame : Frame) (heap : Heap) (cancelled : Bool) : Heap :=
  match frame.cancellation with
  | some place => heap.setFlag place cancelled
  | none => heap

def isCancelled (frame : Frame) (heap : Heap) : Bool := frame.cancellation.any heap.flag

/-- Copies the actor's attributes to the locals under the prefix. What is bound already stays, and
of an attribute given twice the first counts. -/
def inject (frame : Frame) (prefixText : String) : Frame :=
  let attributes := (frame.actor.map (·.attributes)).getD []
  let locals := attributes.foldl (fun locals entry =>
    locals.putIfAbsent (prefixText ++ entry.1) entry.2) frame.locals
  { frame with locals, injected := true }

end Frame

structure FramePool where
  slot : Option Frame := none

namespace FramePool

def acquire (pool : FramePool) (budget : Nat) : Frame × FramePool :=
  match pool.slot with
  | some frame => (frame.reset budget, {})
  | none => (Frame.withBudget budget, {})

def release (pool : FramePool) (frame : Frame) : FramePool := { pool with slot := some frame }

def detach (pool : FramePool) (frame : Frame) : Frame × FramePool := (frame, pool.release frame)

def isEmpty (pool : FramePool) : Bool := pool.slot.isNone

end FramePool

end EventScript
