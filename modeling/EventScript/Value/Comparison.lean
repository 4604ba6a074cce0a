import EventScript.Machine
import EventScript.Text.Search
import EventScript.Value.Render

/-!
Order, equality and containment of values. Two numbers are ordered as numbers and all other pairs by
their texts. A number and a text are equal when the text reads as that number, and containers are
equal only to themselves.
-/

namespace EventScript

namespace Value

def compare (heap : Heap) (left right : Value) : Ordering :=
  match left, right with
  | .number left, .number right => Number.compareTotal left right
  | _, _ => Ord.compare (left.render heap) (right.render heap)

def numberEqualsText (double : Double) (content : String) : Bool :=
  match Number.read? content with
  | some other => Number.equal other double
  | none => Number.text double == content

def equal : Value → Value → Bool
  | .null, .null => true
  | .bool left, .bool right => left == right
  | .number left, .number right => Number.equal left right
  | .text left, .text right => left == right
  | .number double, .text content => numberEqualsText double content
  | .text content, .number double => numberEqualsText double content
  | .list left, .list right => left == right
  | .map left, .map right => left == right
  | _, _ => false

/-- Membership for a list, a key for a map, and a part of the text for anything else. A map is held
while it is asked, and one that is asked for its own text never answers. -/
def contains (heap : Heap) (container value : Value) : Option Bool :=
  match container with
  | .list place => some ((heap.list place).any (·.equal value))
  | .map place => (value.renderHolding heap place).map (heap.map place).contains
  | other => some (Text.occursIn (value.render heap) (other.render heap))

def spelled? : Value → Option (Double × String)
  | .number double => some (double, Number.text double)
  | _ => none

/-- Whether the order of some values does not contradict itself: no text lies between the texts of
two numbers that stand the other way round. -/
def isConsistent (heap : Heap) (values : List Value) : Bool :=
  let texts := (values.filter fun value => !value.isNumber).map (render heap)
  let numbers := values.filterMap spelled?
  texts.all fun text =>
    let highs := numbers.filter fun number => number.2 ≤ text
    let lows := numbers.filter fun number => text ≤ number.2
    lows.all fun low => highs.all fun high => Number.compareTotal low.1 high.1 != .lt

def merged (heap : Heap) (values : List Value) : List Value :=
  values.mergeSort fun left right => left.compare heap right != .gt

/-- Sorts values. What becomes of an order that contradicts itself is the machine's affair. -/
def sorted (machine : Machine) (heap : Heap) (values : List Value) : Option (List Value) :=
  if isConsistent heap values then some (merged heap values) else machine.arrange heap values

end Value

/-- A machine that sorts by merging, whatever the order is. -/
def Machine.merging : Machine where
  arrange heap values := some (Value.merged heap values)
  arranges := by
    rintro heap values _ ⟨⟩
    exact List.mergeSort_perm _ _
  patience := 0

end EventScript
