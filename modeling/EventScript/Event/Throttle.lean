import EventScript.Event

/-!
The throttle on continuous events: for each event and actor it remembers the last firing that went
through, and lets the next one through no earlier than a second later. Times are nanoseconds.
Firings too old to hold back another one are forgotten whenever one goes through.
-/

namespace EventScript.Event

def throttleInterval : Nat := 1000000000

structure Firing where
  event : HighFrequency
  actor : String
  time : Nat
  deriving DecidableEq, Repr

structure Throttle where
  firings : List Firing := []
  deriving DecidableEq, Repr

namespace Throttle

def isRecent (now : Nat) (firing : Firing) : Bool := now - firing.time < throttleInterval

def last? (throttle : Throttle) (event : HighFrequency) (actor : String) : Option Firing :=
  throttle.firings.find? fun firing => firing.event == event && firing.actor == actor

/-- Whether a firing may go through now, and the throttle afterwards. A firing that is held back
leaves no trace. -/
def allow (throttle : Throttle) (event actor : String) (now : Nat) : Bool × Throttle :=
  match HighFrequency.ofName? event with
  | none => (true, throttle)
  | some event =>
    if (throttle.last? event actor).any (isRecent now) then (false, throttle)
    else
      let recent := throttle.firings.filter (isRecent now)
      (true, ⟨⟨event, actor, now⟩ :: recent⟩)

def clear : Throttle := {}

def size (throttle : Throttle) : Nat := throttle.firings.length

end Throttle

end EventScript.Event
