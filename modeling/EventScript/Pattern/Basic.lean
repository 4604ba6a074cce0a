import EventScript.Pattern.CharSet

/-!
Patterns for splitting texts: sets of characters, positions that look at their surroundings, and
sequences, alternatives and repetitions of these.
-/

namespace EventScript.Pattern

inductive Place where
  | start
  | finish
  | lineStart
  | lineFinish
  | lineStartBroad
  | lineFinishBroad
  | wordEdge (isWord : Char → Bool)
  | notWordEdge (isWord : Char → Bool)
  | wordStart (isWord : Char → Bool)
  | wordFinish (isWord : Char → Bool)
  | beforeWord (isWord : Char → Bool)
  | afterWord (isWord : Char → Bool)

inductive Node where
  | empty
  | one (set : CharSet)
  | place (place : Place)
  | sequence (first second : Node)
  | alternative (first second : Node)
  | repeated (least : Nat) (most : Option Nat) (greedy : Bool) (body : Node)

def Place.holds (place : Place) (before : Option Char) (after : List Char) : Bool :=
  match place with
  | .start => before.isNone
  | .finish => after.isEmpty
  | .lineStart => before.isNone || before == some '\n'
  | .lineFinish => after.isEmpty || after.head? == some '\n'
  | .lineStartBroad =>
    before.isNone || before == some '\n' || (before == some '\r' && after.head? != some '\n')
  | .lineFinishBroad =>
    after.isEmpty || after.head? == some '\r' || (after.head? == some '\n' && before != some '\r')
  | .wordEdge isWord => before.any isWord != after.head?.any isWord
  | .notWordEdge isWord => before.any isWord == after.head?.any isWord
  | .wordStart isWord => !before.any isWord && after.head?.any isWord
  | .wordFinish isWord => before.any isWord && !after.head?.any isWord
  | .beforeWord isWord => !before.any isWord
  | .afterWord isWord => !after.head?.any isWord

namespace Node

def nullable : Node → Bool
  | .empty | .place _ => true
  | .one _ => false
  | .sequence first second => first.nullable && second.nullable
  | .alternative first second => first.nullable || second.nullable
  | .repeated least _ _ body => least == 0 || body.nullable

def weight : Node → Nat
  | .empty | .place _ | .one _ => 1
  | .sequence first second => first.weight + second.weight
  | .alternative first second => first.weight + second.weight + 1
  | .repeated least most _ body => (max least (most.getD (least + 1)) + 1) * (body.weight + 1)

end Node

end EventScript.Pattern
