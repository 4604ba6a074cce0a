import EventScript.Text.Blank
import EventScript.Text.Case

/-!
Names of events. They are written freely and compared in one form: small letters, with a hyphen
between the words. Events that a host fires all the time are told by their names.
-/

namespace EventScript.Event

def normalize (name : String) : String :=
  String.intercalate "-" ((Text.words name).map Text.lower)

inductive HighFrequency where
  | move
  | tick
  | step
  deriving DecidableEq, Repr

namespace HighFrequency

def name : HighFrequency → String
  | .move => "player-move"
  | .tick => "player-tick"
  | .step => "player-step"

def all : List HighFrequency := [.move, .tick, .step]

def ofName? (name : String) : Option HighFrequency :=
  let key := normalize name
  all.find? (·.name == key)

def refusal (name : String) : String := "not a high-frequency event: " ++ name

end HighFrequency

end EventScript.Event
