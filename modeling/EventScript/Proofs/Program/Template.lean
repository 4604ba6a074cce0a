import EventScript.Program.Template

/-!
What texts turn into. The expression for a text or a key is made of four kinds of nodes, all on the
line of the text, so what these pass on holds of it.
-/

namespace EventScript.Program

structure Fillings (line : Nat) (good : Expr → Prop) : Prop where
  text : ∀ {content}, good (.literal line (.text content))
  reference : ∀ {name}, good (.reference line name)
  stored : ∀ {key}, good key → good (.stored line key)
  template : ∀ {parts}, (∀ value, .expr value ∈ parts → good value) → good (.template line parts)

namespace Fillings

variable {line : Nat} {good : Expr → Prop}

theorem collapse (fillings : Fillings line good) {parts : List TemplatePart}
    (inside : ∀ value, .expr value ∈ parts → good value) : good (Program.collapse line parts) := by
  unfold Program.collapse
  split
  · exact fillings.text
  · exact fillings.text
  · exact fillings.template inside

theorem flushText (pending : List Char) {parts : List TemplatePart}
    (inside : ∀ value, .expr value ∈ parts → good value) :
    ∀ value, .expr value ∈ Program.flushText pending parts → good value := by
  unfold Program.flushText
  split
  · exact inside
  · intro value member
    rcases List.mem_cons.mp member with same | later
    · cases same
    · exact inside value later

theorem templateParts (fillings : Fillings line good) (withStored : Bool)
    (pending content : List Char) :
    ∀ value, .expr value ∈ Program.templateParts line withStored pending content → good value := by
  fun_induction Program.templateParts line withStored pending content with
  | case1 => exact flushText _ (by simp)
  | case2 withStored pending char rest name _ keyExpr inKey later =>
      refine flushText _ fun value member => ?_
      rcases List.mem_cons.mp member with same | after
      · cases same
        refine fillings.stored (show good keyExpr from ?_)
        unfold keyExpr
        split
        · exact fillings.collapse inKey
        · exact fillings.text
      · exact later value after
  | case3 withStored pending char rest _ name _ later =>
      refine flushText _ fun value member => ?_
      rcases List.mem_cons.mp member with same | after
      · cases same
        exact fillings.reference
      · exact later value after
  | case4 _ _ _ _ _ _ later => exact later

theorem templateExpr (fillings : Fillings line good) (content : String) :
    good (Program.templateExpr line content) := fillings.collapse (fillings.templateParts _ _ _)

theorem keyExpr (fillings : Fillings line good) (key : String) :
    good (Program.keyExpr line key) := by
  unfold Program.keyExpr
  split
  · exact fillings.collapse (fillings.templateParts _ _ _)
  · exact fillings.text

end Fillings

end EventScript.Program
