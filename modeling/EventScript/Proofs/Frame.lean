import EventScript.Frame
import EventScript.Proofs.Dictionary
import EventScript.Text.Search

/-! The variables of a frame, and the attributes of the actor among them. -/

namespace EventScript

/-- The attributes of an actor as variables. Of an attribute given twice the first counts. -/
def Actor.bindings (prefixText : String) (actor : Option Actor) : Dictionary Value :=
  ((actor.map (·.attributes)).getD []).foldr
    (fun entry bindings => bindings.put (prefixText ++ entry.1) entry.2) {}

theorem Text.beginsWith_append (start rest : String) :
    Text.beginsWith (start ++ rest) start = true := by
  simp [Text.beginsWith]

theorem Actor.get?_bindings {prefixText name : String} (actor : Option Actor)
    (other : Text.beginsWith name prefixText = false) :
    (Actor.bindings prefixText actor).get? name = none := by
  unfold Actor.bindings
  generalize (actor.map (·.attributes)).getD [] = attributes
  induction attributes with
  | nil => rfl
  | cons entry rest ih =>
      have different : name ≠ prefixText ++ entry.1 := by
        rintro rfl
        rw [Text.beginsWith_append] at other
        cases other
      rw [List.foldr_cons, Dictionary.get?_put, if_neg different]
      exact ih

namespace Frame

@[simp]
theorem get?_set (frame : Frame) (name other : String) (value : Value) :
    (frame.set name value).get? other = if other = name then some value else frame.get? other :=
  Dictionary.get?_put frame.locals name other value

theorem get?_inject (frame : Frame) (prefixText name : String) :
    (frame.inject prefixText).get? name =
      (frame.get? name).or ((Actor.bindings prefixText frame.actor).get? name) := by
  simp only [inject, get?, Actor.bindings]
  generalize (frame.actor.map (·.attributes)).getD [] = attributes
  generalize frame.locals = locals
  induction attributes generalizing locals with
  | nil => simp
  | cons entry rest ih =>
      rw [List.foldl_cons, ih, Dictionary.get?_putIfAbsent, List.foldr_cons, Dictionary.get?_put,
        Option.or_assoc]
      by_cases same : name = prefixText ++ entry.1
      · simp [same]
      · simp [same]

theorem prefix_inject (frame : Frame) (prefixText : String) :
    frame.locals.entries <+: (frame.inject prefixText).locals.entries := by
  simp only [inject]
  generalize (frame.actor.map (·.attributes)).getD [] = attributes
  generalize frame.locals = locals
  induction attributes generalizing locals with
  | nil => exact List.prefix_rfl
  | cons entry rest ih =>
      exact (Dictionary.prefix_putIfAbsent locals _ _).trans (ih _)

example :
    ((({ actor := some ⟨"u1", [("level", .bool true)]⟩ } : Frame).set "player-level" .null).inject
      "player-").get? "player-level" = some .null := rfl

end Frame

end EventScript
