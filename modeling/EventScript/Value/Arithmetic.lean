import EventScript.Number.Arithmetic
import EventScript.Value.Render

/-!
Arithmetic on values. Addition joins texts and appends to a copy of a list; everything else works on
the numbers the values stand for. Dividing by zero gives not a number, and the remainder of a
division by zero is zero.
-/

namespace EventScript.Value

def add (heap : Heap) (left right : Value) : Value × Heap :=
  match left, right with
  | .text _, _ | _, .text _ => (.text (left.render heap ++ right.render heap), heap)
  | .list place, _ => heap.newList ((heap.list place).push right)
  | _, _ => (.number (left.toNumber + right.toNumber), heap)

def subtract (left right : Value) : Value := .number (left.toNumber - right.toNumber)

def multiply (left right : Value) : Value := .number (left.toNumber * right.toNumber)

def divide (left right : Value) : Value :=
  let divisor := right.toNumber
  .number (if Number.isZero divisor then Number.notANumber else left.toNumber / divisor)

def remainder (left right : Value) : Value :=
  let divisor := right.toNumber
  .number (if Number.isZero divisor then Number.zero false
    else Number.remainder left.toNumber divisor)

def power (left right : Value) : Value :=
  .number (Double.zipWith Float.pow left.toNumber right.toNumber)

def negate : Value → Value
  | .bool truth => .bool !truth
  | value => .number (-value.toNumber)

end EventScript.Value
