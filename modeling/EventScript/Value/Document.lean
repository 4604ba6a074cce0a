import EventScript.Document
import EventScript.Heap

/-!
Values as documents and back. A value has a document when no container in it holds itself; numbers
that are not finite become null. Reading a document back makes new containers.
-/

namespace EventScript.Value

def documentTo? (heap : Heap) : Nat → Value → Option Document
  | _, .null => some .null
  | _, .bool truth => some (.bool truth)
  | _, .number double => some (if Number.isFinite double then .number double else .null)
  | _, .text content => some (.text content)
  | 0, .list _ => none
  | levels + 1, .list place =>
    ((heap.list place).toList.mapM (documentTo? heap levels)).map .array
  | 0, .map _ => none
  | levels + 1, .map place =>
    ((heap.map place).entries.mapM fun entry =>
      (documentTo? heap levels entry.2).map fun document => (entry.1, document)).map .object

/-- The document of a value; none if a container holds itself. Containers one inside the other that
do not come back to themselves are at most as many as there are, and perhaps one that was never
given out. -/
def document? (heap : Heap) (value : Value) : Option Document :=
  documentTo? heap (heap.containerCount + 1) value

mutual

def ofDocument : Document → Heap → Value × Heap
  | .null, heap => (.null, heap)
  | .bool truth, heap => (.bool truth, heap)
  | .number double, heap => (.number double, heap)
  | .text content, heap => (.text content, heap)
  | .array items, heap =>
    let (values, heap) := ofItems items heap
    heap.newList values.toArray
  | .object members, heap =>
    let (entries, heap) := ofMembers members heap
    heap.newMap (Dictionary.ofList entries)

def ofItems : List Document → Heap → List Value × Heap
  | [], heap => ([], heap)
  | item :: rest, heap =>
    let (value, heap) := ofDocument item heap
    let (values, heap) := ofItems rest heap
    (value :: values, heap)

def ofMembers : List (String × Document) → Heap → List (String × Value) × Heap
  | [], heap => ([], heap)
  | (key, item) :: rest, heap =>
    let (value, heap) := ofDocument item heap
    let (entries, heap) := ofMembers rest heap
    ((key, value) :: entries, heap)

end

end EventScript.Value
