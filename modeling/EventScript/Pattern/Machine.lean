import EventScript.Pattern.Basic

/-!
Matching patterns. A pattern is turned into a list of steps, and all ways through the steps are
followed side by side, in the order in which they are preferred. The match that counts is the one
that starts first, and among those the preferred one: earlier alternatives before later ones, more
rounds of a greedy repetition before fewer.
-/

namespace EventScript.Pattern

inductive Step where
  | take (set : CharSet) (next : Nat)
  | check (place : Place) (next : Nat)
  | fork (first second : Nat)
  | accept

abbrev Steps := Array Step

namespace Steps

def add (steps : Steps) (step : Step) : Nat × Steps := (steps.size, steps.push step)

def forkTo (greedy : Bool) (body next : Nat) : Step :=
  if greedy then .fork body next else .fork next body

def addOptional (greedy : Bool) (body : Nat → Steps → Nat × Steps) (next finish : Nat)
    (steps : Steps) : Nat × Steps :=
  let (start, steps) := body next steps
  steps.add (forkTo greedy start finish)

def addLoop (greedy : Bool) (body : Nat → Steps → Nat × Steps) (next : Nat) (steps : Steps) :
    Nat × Nat × Steps :=
  let (turn, steps) := steps.add .accept
  let (start, steps) := body turn steps
  (start, turn, steps.setIfInBounds turn (forkTo greedy start next))

def addTimes (body : Nat → Steps → Nat × Steps) : Nat → Nat → Steps → Nat × Steps
  | 0, next, steps => (next, steps)
  | count + 1, next, steps =>
    let (next, steps) := body next steps
    addTimes body count next steps

def addNested (greedy : Bool) (body : Nat → Steps → Nat × Steps) (finish : Nat) :
    Nat → Nat → Steps → Nat × Steps
  | 0, next, steps => (next, steps)
  | count + 1, next, steps =>
    let (next, steps) := addOptional greedy body next finish steps
    addNested greedy body finish count next steps

def addNode : Node → Nat → Steps → Nat × Steps
  | .empty, next, steps => (next, steps)
  | .one set, next, steps => steps.add (.take set next)
  | .place place, next, steps => steps.add (.check place next)
  | .sequence first second, next, steps =>
    let (next, steps) := addNode second next steps
    addNode first next steps
  | .alternative first second, next, steps =>
    let (secondStart, steps) := addNode second next steps
    let (firstStart, steps) := addNode first next steps
    steps.add (.fork firstStart secondStart)
  | .repeated least (some most) greedy body, next, steps =>
    let (start, steps) := addNested greedy (addNode body) next (most - least) next steps
    addTimes (addNode body) least start steps
  | .repeated 0 none greedy body, next, steps =>
    let (start, turn, steps) := addLoop greedy (addNode body) next steps
    if body.nullable then steps.add (forkTo greedy start next) else (turn, steps)
  | .repeated (least + 1) none greedy body, next, steps =>
    let (start, _, steps) := addLoop greedy (addNode body) next steps
    addTimes (addNode body) least start steps

end Steps

structure Machine where
  steps : Steps
  start : Nat

def Machine.ofNode (node : Node) : Machine :=
  let (accept, steps) := Steps.add #[] .accept
  let (start, steps) := Steps.addNode node accept steps
  ⟨steps, start⟩

namespace Machine

/-- The ways to go on at one position: the places reached, preferred ones first, and which places
have been visited. -/
structure Front where
  places : Array Nat := #[]
  visited : Array Bool

def Front.blank (machine : Machine) : Front := ⟨#[], Array.replicate machine.steps.size false⟩

/-- Follows forks and checks from the places on the stack to the steps that take a character or
accept. No place is visited twice, which bounds the work. -/
def follow (machine : Machine) (before : Option Char) (after : List Char) :
    Nat → List Nat → Front → Front
  | 0, _, front => front
  | _, [], front => front
  | bound + 1, place :: stack, front =>
    if front.visited.getD place true then follow machine before after bound stack front
    else
      let front := { front with visited := front.visited.setIfInBounds place true }
      match machine.steps[place]? with
      | some (.fork first second) =>
        follow machine before after bound (first :: second :: stack) front
      | some (.check condition next) =>
        if condition.holds before after then
          follow machine before after bound (next :: stack) front
        else follow machine before after bound stack front
      | _ =>
        follow machine before after bound stack
          { front with places := front.places.push place }

def reach (machine : Machine) (before : Option Char) (after : List Char) (place : Nat)
    (front : Front) : Front :=
  follow machine before after (3 * machine.steps.size + 3) [place] front

/-- Takes one character on every way, in order, up to the first way that accepts; says whether one
did. -/
def takeChar (machine : Machine) (char : Char) (after : List Char) :
    List Nat → Front → Bool × Front
  | [], front => (false, front)
  | place :: places, front =>
    match machine.steps[place]? with
    | some (.take set next) =>
      if set.contains char then
        takeChar machine char after places (machine.reach (some char) after next front)
      else takeChar machine char after places front
    | some .accept => (true, front)
    | _ => takeChar machine char after places front

def acceptsAtEnd (machine : Machine) (places : List Nat) : Bool :=
  places.any fun place =>
    match machine.steps[place]? with
    | some .accept => true
    | _ => false

/-- The length of the preferred match that begins where the front stands; `best` is the last one
found, and `length` counts the characters taken. -/
def run (machine : Machine) (best : Option Nat) (length : Nat) : List Char → Front → Option Nat
  | [], front => if machine.acceptsAtEnd front.places.toList then some length else best
  | char :: rest, front =>
    if front.places.isEmpty then best
    else
      let (accepted, next) := machine.takeChar char rest front.places.toList (Front.blank machine)
      machine.run (if accepted then some length else best) (length + 1) rest next

def matchHere (machine : Machine) (before : Option Char) (text : List Char) : Option Nat :=
  machine.run none 0 text (machine.reach before text machine.start (Front.blank machine))

def search (machine : Machine) (before : Option Char) : List Char → Option (Nat × Nat)
  | [] => (machine.matchHere before []).map fun length => (0, length)
  | char :: rest =>
    match machine.matchHere before (char :: rest) with
    | some length => some (0, length)
    | none => (machine.search (some char) rest).map fun (skipped, length) => (skipped + 1, length)

/-- The matches in a text, left to right: each with the characters since the one before it and the
length. An empty match right behind another match does not count. -/
def pieces (machine : Machine) : Nat → Option Char → Bool → List Char → List (List Char)
  | 0, _, _, text => [text]
  | bound + 1, before, afterMatch, text =>
    let found : Option (Nat × Nat) :=
      match machine.search before text with
      | some (0, 0) =>
        if afterMatch then
          match text with
          | [] => none
          | char :: rest =>
            (machine.search (some char) rest).map fun (skipped, length) => (skipped + 1, length)
        else some (0, 0)
      | found => found
    match found with
    | none => [text]
    | some (skipped, length) =>
      let stop := skipped + length
      let last := if stop = 0 then before else text[stop - 1]?
      text.take skipped :: machine.pieces bound last true (text.drop stop)

end Machine

def Node.split (node : Node) (text : List Char) : List (List Char) :=
  (Machine.ofNode node).pieces (text.length + 2) none false text

end EventScript.Pattern
