import EventScript.Dictionary
import EventScript.Number.Arithmetic
import EventScript.Value

/-!
The persistent store: values under keys that outlive the scripts, and whether they changed since
they were last written down. Storing null takes the key away.
-/

namespace EventScript

structure Store where
  entries : Dictionary Value := {}
  dirty : Bool := false
  path : Option String := none

namespace Store

instance : Inhabited Store := ⟨{}⟩

def get (store : Store) (key : String) : Value := (store.entries.get? key).getD .null

def has (store : Store) (key : String) : Bool := store.entries.contains key

def size (store : Store) : Nat := store.entries.size

def keys (store : Store) : List String := store.entries.sorted.map (·.1)

def delete (store : Store) (key : String) : Store :=
  if store.has key then { store with entries := store.entries.erase key, dirty := true } else store

def set (store : Store) (key : String) (value : Value) : Store :=
  if value.isNull then store.delete key
  else { store with entries := store.entries.put key value, dirty := true }

def increment (store : Store) (key : String) (amount : Double) : Value × Store :=
  let sum := Value.number ((store.get key).toNumber + amount)
  (sum, { store with entries := store.entries.put key sum, dirty := true })

def reset (store : Store) : Store := { store with entries := {}, dirty := true }

end Store

end EventScript
