import EventScript.Heap

/-!
The text of a value, its truth, and the items a loop visits. Containers nested deeper than a fixed
number of levels are abbreviated, so that a list that holds itself has a text too.
-/

namespace EventScript.Value

def renderLevels : Nat := 16

/-- The text of a value of which `levels` levels of containers are written out. -/
def renderTo (heap : Heap) : Nat → Value → String
  | _, .null => ""
  | _, .bool truth => if truth then "true" else "false"
  | _, .number double => Number.text double
  | _, .text content => content
  | 0, .list _ => "[...]"
  | levels + 1, .list place =>
    "[" ++ String.intercalate ", " ((heap.list place).toList.map (renderTo heap levels)) ++ "]"
  | 0, .map _ => "\x7b...\x7d"
  | levels + 1, .map place =>
    let parts := (heap.map place).entries.map fun entry =>
      entry.1 ++ ": " ++ renderTo heap levels entry.2
    "\x7b" ++ String.intercalate ", " parts ++ "\x7d"

def render (heap : Heap) (value : Value) : String := renderTo heap renderLevels value

/-- Whether writing out a value takes hold of the map at a place. -/
def takes (heap : Heap) (place : Nat) : Nat → Value → Bool
  | levels + 1, .list own => (heap.list own).toList.any (takes heap place levels)
  | levels + 1, .map own =>
    own == place || (heap.map own).entries.any fun entry => takes heap place levels entry.2
  | _, _ => false

/-- The text of a value, written out while the map at a place is held. There is none if that map is
waited for: it is never free again. -/
def renderHolding (heap : Heap) (place : Nat) (value : Value) : Option String :=
  if takes heap place renderLevels value then none else some (value.render heap)

/-- Null, false, zero and empty texts and containers are false. Not a number is true. -/
def isTrue (heap : Heap) : Value → Bool
  | .null => false
  | .bool truth => truth
  | .number double => !Number.isZero double
  | .text content => !content.isEmpty
  | .list place => !(heap.list place).isEmpty
  | .map place => !(heap.map place).isEmpty

/-- What a loop over a value visits: the items of a list, the keys of a map, the characters of the
text of anything else. -/
def visited (heap : Heap) : Value → List Value
  | .list place => (heap.list place).toList
  | .map place => (heap.map place).keys.map .text
  | value => (value.render heap).toList.map fun char => .text (String.singleton char)

end EventScript.Value
