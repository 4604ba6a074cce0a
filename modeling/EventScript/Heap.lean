import EventScript.Dictionary
import EventScript.Value

/-!
The heap: what scripts and their host share by reference. It holds the lists, the maps and the flags
that say whether a host event was cancelled, each under a place that is never given out twice.
-/

namespace EventScript

structure Heap where
  lists : Array (Array Value) := #[]
  maps : Array (Dictionary Value) := #[]
  flags : Array Bool := #[]

namespace Heap

instance : Inhabited Heap := ⟨{}⟩

def list (heap : Heap) (place : Nat) : Array Value := heap.lists.getD place #[]

def map (heap : Heap) (place : Nat) : Dictionary Value := heap.maps.getD place {}

def flag (heap : Heap) (place : Nat) : Bool := heap.flags.getD place false

def newList (heap : Heap) (items : Array Value) : Value × Heap :=
  (.list heap.lists.size, { heap with lists := heap.lists.push items })

def newMap (heap : Heap) (entries : Dictionary Value) : Value × Heap :=
  (.map heap.maps.size, { heap with maps := heap.maps.push entries })

def newFlag (heap : Heap) : Nat × Heap :=
  (heap.flags.size, { heap with flags := heap.flags.push false })

def modifyList (heap : Heap) (place : Nat) (change : Array Value → Array Value) : Heap :=
  { heap with lists := heap.lists.modify place change }

def setFlag (heap : Heap) (place : Nat) (raised : Bool) : Heap :=
  { heap with flags := heap.flags.modify place fun _ => raised }

def containerCount (heap : Heap) : Nat := heap.lists.size + heap.maps.size

end Heap

end EventScript
