import EventScript.Dice
import EventScript.Frame
import EventScript.Log
import EventScript.Text.Case
import EventScript.Value.Render

/-!
Effects: the verbs by which a script acts on its host. A host registers a handler under a name; case
does not matter, and a later handler of one name replaces the earlier one.
-/

namespace EventScript

/-- What a script shares with everything around it. The host keeps what it likes in its own part. -/
structure World (σ : Type) where
  heap : Heap := {}
  dice : Dice := {}
  log : Log := #[]
  host : σ

namespace World

variable {σ : Type}

def report (world : World σ) (level : Level) (message : String) : World σ :=
  { world with log := world.log.add level message }

end World

/-- What to do when a script uses a verb: who it runs for, the arguments, the frame it runs in and
the world it acts on. A handler that fails says why. -/
def Handler (σ : Type) : Type :=
  Option Actor → List Value → Frame → World σ → Except String Unit × Frame × World σ

structure Effects (σ : Type) where
  handlers : Dictionary (Handler σ) := {}

namespace Effects

variable {σ : Type}

instance : Inhabited (Effects σ) := ⟨{}⟩

def register (effects : Effects σ) (name : String) (handler : Handler σ) : Effects σ :=
  ⟨effects.handlers.put (Text.lower name) handler⟩

def unregister (effects : Effects σ) (name : String) : Effects σ :=
  ⟨effects.handlers.erase (Text.lower name)⟩

def get? (effects : Effects σ) (name : String) : Option (Handler σ) :=
  (effects.handlers.get? name).or (effects.handlers.get? (Text.lower name))

def isRegistered (effects : Effects σ) (name : String) : Bool :=
  effects.handlers.contains (Text.lower name)

def names (effects : Effects σ) : List String := effects.handlers.sorted.map (·.1)

def size (effects : Effects σ) : Nat := effects.handlers.size

end Effects

namespace Handler

variable {σ : Type}

def joined (heap : Heap) (values : List Value) : String :=
  " ".intercalate (values.map (·.render heap))

def cancelling (cancelled : Bool) : Handler σ := fun _ _ frame world =>
  (.ok (), frame, { world with heap := frame.cancelEvent world.heap cancelled })

def logging : Handler σ := fun actor values frame world =>
  let message := joined world.heap values
  let message := match actor with
    | some actor => "[" ++ actor.id ++ "] " ++ message
    | none => message
  (.ok (), frame, world.report .info message)

def settingLocal : Handler σ := fun _ values frame world =>
  let name := (values.head?.getD .null).render world.heap
  if values.isEmpty || name.isEmpty then (.error "expected a variable name", frame, world)
  else (.ok (), frame.set name (values.getD 1 .null), world)

end Handler

def Effects.core {σ : Type} : Effects σ :=
  let effects : Effects σ := {}
  let effects := effects.register "cancel" (Handler.cancelling true)
  let effects := effects.register "uncancel" (Handler.cancelling false)
  let effects := effects.register "log" Handler.logging
  effects.register "set-local" Handler.settingLocal

end EventScript
