import EventScript.Number.Binary

/-!
A source of chance: a state that each draw moves on. Equal states give equal draws.
-/

namespace EventScript

structure Dice where
  state : UInt64 := 0x9e3779b97f4a7c15
  deriving DecidableEq, Repr

namespace Dice

instance : Inhabited Dice := ⟨{}⟩

def draw (dice : Dice) : Nat × Dice :=
  let state := dice.state + 0x9e3779b97f4a7c15
  let mixed := (state ^^^ (state >>> 30)) * 0xbf58476d1ce4e5b9
  let mixed := (mixed ^^^ (mixed >>> 27)) * 0x94d049bb133111eb
  ((mixed ^^^ (mixed >>> 31)).toNat, ⟨state⟩)

def below (dice : Dice) (bound : Nat) : Nat × Dice :=
  let (number, dice) := dice.draw
  (number % bound, dice)

def fraction (dice : Dice) : Double × Dice :=
  let (number, dice) := dice.draw
  (Number.ofRatio false (number >>> 11) (Number.twoTo 53), dice)

def shuffle {α : Type} : Nat → List α → Dice → List α × Dice
  | 0, items, dice => (items, dice)
  | count + 1, items, dice =>
    let (index, dice) := dice.below items.length
    match items[index]? with
    | none => (items, dice)
    | some item =>
      let (rest, dice) := shuffle count (items.eraseIdx index) dice
      (item :: rest, dice)

end Dice

end EventScript
