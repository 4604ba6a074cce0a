import EventScript.Number.Binary

/-!
Documents: trees of nulls, truths, numbers, texts, arrays and objects, the form in which values are
saved. An object keeps its members in order.
-/

namespace EventScript

inductive Document where
  | null
  | bool (truth : Bool)
  | number (number : Double)
  | text (content : String)
  | array (items : List Document)
  | object (members : List (String × Document))

instance : Inhabited Document := ⟨.null⟩

end EventScript
