/-!
Dictionaries keyed by text that keep their entries in the order in which the keys first came in.
Putting a value under a key that is there replaces the value and leaves the key where it was.
-/

namespace EventScript

/-- Every key stands once. -/
@[ext]
structure Dictionary (α : Type) where
  entries : List (String × α) := []
  distinct : (entries.map (·.1)).Nodup := by exact List.nodup_nil
  deriving DecidableEq, Repr

namespace Dictionary

variable {α β : Type}

instance : Inhabited (Dictionary α) := ⟨{}⟩

def keys (dictionary : Dictionary α) : List String := dictionary.entries.map (·.1)

def size (dictionary : Dictionary α) : Nat := dictionary.entries.length

def isEmpty (dictionary : Dictionary α) : Bool := dictionary.entries.isEmpty

def get? (dictionary : Dictionary α) (key : String) : Option α := dictionary.entries.lookup key

def contains (dictionary : Dictionary α) (key : String) : Bool := (dictionary.get? key).isSome

def putIn (key : String) (value : α) : List (String × α) → List (String × α)
  | [] => [(key, value)]
  | entry :: rest =>
    if key == entry.1 then (key, value) :: rest else entry :: putIn key value rest

theorem keys_putIn (key : String) (value : α) (entries : List (String × α)) :
    (putIn key value entries).map (·.1) =
      if key ∈ entries.map (·.1) then entries.map (·.1) else entries.map (·.1) ++ [key] := by
  induction entries with
  | nil => rfl
  | cons entry rest ih =>
      simp only [putIn, beq_iff_eq]
      by_cases same : key = entry.1
      · simp [same]
      · rw [if_neg same, List.map_cons, ih]
        simp only [List.map_cons, List.mem_cons, same, false_or]
        split <;> simp

theorem distinct_putIn {entries : List (String × α)} (distinct : (entries.map (·.1)).Nodup)
    (key : String) (value : α) : ((putIn key value entries).map (·.1)).Nodup := by
  rw [keys_putIn]
  split
  · exact distinct
  · rename_i absent
    exact List.nodup_append.mpr ⟨distinct, by simp, by
      rintro first member _ last rfl
      exact absent (List.mem_singleton.mp last ▸ member)⟩

def put (dictionary : Dictionary α) (key : String) (value : α) : Dictionary α :=
  ⟨putIn key value dictionary.entries, distinct_putIn dictionary.distinct key value⟩

def putIfAbsent (dictionary : Dictionary α) (key : String) (value : α) : Dictionary α :=
  if dictionary.contains key then dictionary else dictionary.put key value

def erase (dictionary : Dictionary α) (key : String) : Dictionary α :=
  ⟨dictionary.entries.filter fun entry => !(key == entry.1),
    dictionary.distinct.sublist (List.filter_sublist.map _)⟩

def ofList (entries : List (String × α)) : Dictionary α :=
  entries.foldl (fun dictionary entry => dictionary.put entry.1 entry.2) {}

def ascending (left right : String) : Bool := !decide (right < left)

def sorted (dictionary : Dictionary α) : List (String × α) :=
  dictionary.entries.mergeSort fun left right => ascending left.1 right.1

end Dictionary

end EventScript
