import EventScript.Number.Spelling

/-!
The values of the scripting language. Numbers and texts are held by the value itself; a list or a
map is held by its place in the heap, so that two holders of one list see each other's changes.
-/

namespace EventScript

inductive Value where
  | null
  | bool (truth : Bool)
  | number (number : Double)
  | text (content : String)
  | list (place : Nat)
  | map (place : Nat)
  deriving DecidableEq

namespace Value

instance : Inhabited Value := ⟨.null⟩

def isNull : Value → Bool
  | .null => true
  | _ => false

def isNumber : Value → Bool
  | .number _ => true
  | _ => false

def isContainer : Value → Bool
  | .list _ | .map _ => true
  | _ => false

def kind : Value → String
  | .null => "null"
  | .bool _ => "boolean"
  | .number _ => "number"
  | .text _ => "string"
  | .list _ => "list"
  | .map _ => "map"

/-- The value as a number; what is no number and does not read as one counts as zero. -/
def toNumber : Value → Double
  | .null => Number.zero false
  | .bool truth => if truth then Number.ofNat 1 else Number.zero false
  | .number double => double
  | .text content => (Number.read? content).getD (Number.zero false)
  | .list _ | .map _ => Number.zero false

def toInteger (value : Value) : Int := Number.toInteger value.toNumber

def ofNat (number : Nat) : Value := .number (Number.ofNat number)

def ofInt (number : Int) : Value := .number (Number.ofInt number)

end Value

end EventScript
