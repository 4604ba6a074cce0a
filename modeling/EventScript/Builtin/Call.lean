import EventScript.Builtin
import EventScript.Dice
import EventScript.Pattern.Machine
import EventScript.Pattern.Reader
import EventScript.Text.Case
import EventScript.Value.Arithmetic
import EventScript.Value.Comparison

/-!
What the built-in functions do. Arguments that are missing count as null, so that most calls cannot
fail. Only `push`, `pop` and `remove` change a list; all other functions that give lists make new
ones.
-/

namespace EventScript.Builtin

def generatedLimit : Nat := 1000000

inductive CallError where
  | textTooLong (name : String)
  | tooManyItems
  | invalidPattern
  deriving DecidableEq, Repr

def CallError.message : CallError → String
  | .textTooLong name => name ++ ": result longer than 1000000 characters"
  | .tooManyItems => "range: more than 1000000 elements"
  | .invalidPattern => "split: invalid pattern"

structure Arguments where
  values : List Value
  heap : Heap

namespace Arguments

def value (arguments : Arguments) (index : Nat) : Value := arguments.values.getD index .null

def number (arguments : Arguments) (index : Nat) : Double := (arguments.value index).toNumber

def integer (arguments : Arguments) (index : Nat) : Int := (arguments.value index).toInteger

def text (arguments : Arguments) (index : Nat) : String :=
  (arguments.value index).render arguments.heap

def items (arguments : Arguments) : List Value :=
  match arguments.value 0 with
  | .list place => (arguments.heap.list place).toList
  | _ => []

def count (arguments : Arguments) : Nat := arguments.values.length

end Arguments

def radians (degrees : Double) : Double := degrees * (3.141592653589793 / 180.0)

/-- The part of a text from one position up to another; positions outside are moved to its ends. -/
def textBetween (content : List Char) (first : Int) (last : Option Int) : List Char :=
  let start := first.toNat
  let stop := match last with
    | some last => min last.toNat content.length
    | none => content.length
  (content.take stop).drop start

/-- Whole numbers from the first up to but without the second; downwards the first is included too
and the second is not. -/
def rangeItems (first last : Int) : List Int :=
  if first ≤ last then (List.range (last - first).toNat).map fun index : Nat => first + index
  else (List.range (first - last).toNat).map fun index : Nat => first - index

def dropTrailingEmpty : List (List Char) → List (List Char)
  | [] => []
  | piece :: rest =>
    match dropTrailingEmpty rest with
    | [] => [piece]
    | [last] => if last.isEmpty then [piece] else [piece, last]
    | kept => piece :: kept

/-- The pieces of a text between matches of a pattern. The empty pattern separates all characters.
Empty pieces at the end are dropped, and a text of separators only has no pieces. -/
def splitText (content pattern : String) : Except CallError (List String) :=
  let chars := content.toList
  let cut : Except CallError (List (List Char)) :=
    if pattern.isEmpty then .ok (chars.map fun char => [char])
    else
      match Pattern.read? pattern with
      | some node => .ok (node.split chars)
      | none => .error .invalidPattern
  cut.map fun pieces =>
    match dropTrailingEmpty pieces with
    | [piece] => if piece.isEmpty && !chars.isEmpty then [] else [String.ofList piece]
    | pieces => pieces.map String.ofList

def twoDigits (number : Nat) : String :=
  if number < 10 then "0" ++ Nat.repr number else Nat.repr number

def timeText (seconds : Int) : String :=
  let seconds := seconds.toNat
  twoDigits (seconds / 3600) ++ ":" ++ twoDigits (seconds % 3600 / 60) ++ ":" ++
    twoDigits (seconds % 60)

abbrev Outcome := Except (Stop CallError) Value × Heap × Dice

def pureValue : Builtin → Arguments → Except (Stop CallError) Value
  | .abs, arguments => .ok (.number (Number.absolute (arguments.number 0)))
  | .ceiling, arguments => .ok (.number (Number.ceiling (arguments.number 0)))
  | .floor, arguments => .ok (.number (Number.floor (arguments.number 0)))
  | .round, arguments => .ok (.number (Number.floor (arguments.number 0 + 0.5)))
  | .squareRoot, arguments => .ok (.number ((arguments.number 0).map Float.sqrt))
  | .power, arguments =>
      .ok (.number (Double.zipWith Float.pow (arguments.number 0) (arguments.number 1)))
  | .lesser, arguments => .ok (.number (Number.lesser (arguments.number 0) (arguments.number 1)))
  | .greater, arguments => .ok (.number (Number.greater (arguments.number 0) (arguments.number 1)))
  | .clamp, arguments =>
    let limited := Number.lesser (arguments.number 2) (arguments.number 0)
    .ok (.number (Number.greater (arguments.number 1) limited))
  | .logarithm, arguments => .ok (.number ((arguments.number 0).map Float.log))
  | .decimalLogarithm, arguments => .ok (.number ((arguments.number 0).map Float.log10))
  | .sine, arguments => .ok (.number ((radians (arguments.number 0)).map Float.sin))
  | .cosine, arguments => .ok (.number ((radians (arguments.number 0)).map Float.cos))
  | .tangent, arguments => .ok (.number ((radians (arguments.number 0)).map Float.tan))
  | .upper, arguments => .ok (.text (Text.upper (arguments.text 0)))
  | .lower, arguments => .ok (.text (Text.lower (arguments.text 0)))
  | .trim, arguments => .ok (.text (Text.trim (arguments.text 0)))
  | .length, arguments =>
    match arguments.value 0 with
    | .list place => .ok (.ofNat (arguments.heap.list place).size)
    | _ => .ok (.ofNat (arguments.text 0).length)
  | .startsWith, arguments => .ok (.bool (Text.beginsWith (arguments.text 0) (arguments.text 1)))
  | .endsWith, arguments => .ok (.bool (Text.finishesWith (arguments.text 0) (arguments.text 1)))
  | .contains, arguments =>
    match (arguments.value 0).contains arguments.heap (arguments.value 1) with
    | some found => .ok (.bool found)
    | none => .error (.lost .blocked)
  | .replace, arguments =>
    .ok (.text (Text.replaceAll (arguments.text 0) (arguments.text 1) (arguments.text 2)))
  | .substring, arguments =>
    let last := if 2 < arguments.count then some (arguments.integer 2) else none
    .ok (.text (String.ofList (textBetween (arguments.text 0).toList (arguments.integer 1) last)))
  | .indexOf, arguments =>
    match Text.indexOf? (arguments.text 0) (arguments.text 1) with
    | some position => .ok (.ofNat position)
    | none => .ok (.ofInt (-1))
  | .repeatText name, arguments =>
    let content := arguments.text 0
    let times := (arguments.integer 1).toNat
    if content.isEmpty then .ok (.text "")
    else if generatedLimit < content.length * times then .error (.failed (.textTooLong name))
    else .ok (.text (String.join (List.replicate times content)))
  | .text, arguments => .ok (.text (arguments.text 0))
  | .number, arguments => .ok (.number (arguments.number 0))
  | .truth, arguments => .ok (.bool ((arguments.value 0).isTrue arguments.heap))
  | .join, arguments =>
    let separator := if 1 < arguments.count then arguments.text 1 else ", "
    match arguments.value 0 with
    | .list _ =>
      let parts := arguments.items.map fun item => item.render arguments.heap
      .ok (.text (String.intercalate separator parts))
    | _ => .ok (.text (arguments.text 0))
  | .sum, arguments =>
    .ok (.number (arguments.items.foldl (fun total item => total + item.toNumber)
      (Number.zero true)))
  | .size, arguments =>
    match arguments.value 0 with
    | .list place => .ok (.ofNat (arguments.heap.list place).size)
    | .map place => .ok (.ofNat (arguments.heap.map place).size)
    | _ => .ok (.ofNat (arguments.text 0).length)
  | .isNull, arguments => .ok (.bool (arguments.value 0).isNull)
  | .isNumber, arguments => .ok (.bool (arguments.value 0).isNumber)
  | .isText, arguments =>
    match arguments.value 0 with
    | .text _ => .ok (.bool true)
    | _ => .ok (.bool false)
  | .isList, arguments =>
    match arguments.value 0 with
    | .list _ => .ok (.bool true)
    | _ => .ok (.bool false)
  | .isMap, arguments =>
    match arguments.value 0 with
    | .map _ => .ok (.bool true)
    | _ => .ok (.bool false)
  | .kind, arguments => .ok (.text (arguments.value 0).kind)
  | .formatTime, arguments => .ok (.text (timeText (arguments.integer 0)))
  | _, _ => .ok .null

def newItems? (machine : Machine) : Builtin → Arguments →
    Option (Except (Stop CallError) (List Value))
  | .range, arguments =>
    let first := arguments.integer 0
    let last := arguments.integer 1
    if generatedLimit < (first - last).natAbs then some (.error (.failed .tooManyItems))
    else some (.ok ((rangeItems first last).map .ofInt))
  | .split, arguments =>
    some (((splitText (arguments.text 0) (arguments.text 1)).map fun pieces =>
      pieces.map Value.text).mapError .failed)
  | .sort, arguments =>
    match Value.sorted machine arguments.heap arguments.items with
    | some items => some (.ok items)
    | none => some (.error (.lost .panicked))
  | .reverse, arguments => some (.ok arguments.items.reverse)
  | _, _ => none

def run (machine : Machine) (builtin : Builtin) (values : List Value) (heap : Heap) (dice : Dice) :
    Outcome :=
  let arguments : Arguments := ⟨values, heap⟩
  match newItems? machine builtin arguments with
  | some (.ok items) =>
    let (list, heap) := heap.newList items.toArray
    (.ok list, heap, dice)
  | some (.error error) => (.error error, heap, dice)
  | none =>
    match builtin with
    | .random =>
      let (drawn, dice) := dice.fraction
      (.ok (.number drawn), heap, dice)
    | .randomInteger =>
      let (low, high) :=
        if 1 < arguments.count then (arguments.integer 0, arguments.integer 1)
        else (1, arguments.integer 0)
      if low < high then
        let (offset, dice) := dice.below ((high - low).toNat + 1)
        (.ok (.ofInt (low + offset)), heap, dice)
      else (.ok (.ofInt low), heap, dice)
    | .shuffle =>
      let (items, dice) := Dice.shuffle arguments.items.length arguments.items dice
      let (list, heap) := heap.newList items.toArray
      (.ok list, heap, dice)
    | .push =>
      match arguments.value 0 with
      | .list place => (.ok (.list place), heap.modifyList place (·.push (arguments.value 1)), dice)
      | value => (.ok value, heap, dice)
    | .pop =>
      match arguments.value 0 with
      | .list place =>
        (.ok ((heap.list place).back?.getD .null), heap.modifyList place (·.pop), dice)
      | _ => (.ok .null, heap, dice)
    | .remove =>
      match arguments.value 0 with
      | .list place =>
        let index := arguments.integer 1
        if 0 ≤ index ∧ index < (heap.list place).size then
          (.ok ((heap.list place).getD index.toNat .null),
            heap.modifyList place (·.eraseIdxIfInBounds index.toNat), dice)
        else (.ok .null, heap, dice)
      | _ => (.ok .null, heap, dice)
    | builtin => (pureValue builtin arguments, heap, dice)

def call? (machine : Machine) (name : String) (values : List Value) (heap : Heap) (dice : Dice) :
    Option Outcome :=
  (ofName? name).map fun builtin => run machine builtin values heap dice

end EventScript.Builtin
