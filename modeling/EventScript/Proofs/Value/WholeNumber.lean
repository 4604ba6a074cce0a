import EventScript.Proofs.Number.IntegerText
import EventScript.Value.Comparison

/-!
Whole numbers as values. A script may keep a number as a number or as the text of it: read as an
integer, compared, or written into a key of the store, the two come to the same. So the keys of two
whole numbers are different keys.
-/

namespace EventScript.Number

open Value (numberEqualsText)

def Spaced (text content : String) : Prop :=
  ∃ before after : String, (∀ char ∈ before.toList, Text.isBlank char = true) ∧
    (∀ char ∈ after.toList, Text.isBlank char = true) ∧ content = before ++ text ++ after

/-- The text of a double stands for the integer that the double stands for. -/
structure TextAgrees (double : Double) (integer : Int) : Prop where
  decimal : IsDecimal integer (text double)
  read : ∀ content, Spaced (text double) content → read? content = some (ofInt integer)
  ofNumber : (Value.number double).toInteger = integer
  ofText : ∀ content, Spaced (text double) content → (Value.text content).toInteger = integer
  equal : ∀ content, Spaced (text double) content →
    Value.equal (.number double) (.text content) = true ∧
      Value.equal (.text content) (.number double) = true
  key : ∀ (other : Double) (otherInteger : Int) (heap : Heap) (before after : String),
    whole? other = some otherInteger → otherInteger.natAbs < integerTextLimit →
      String.join [before, (Value.number double).render heap, after] =
        String.join [before, (Value.number other).render heap, after] → integer = otherInteger

variable {double other : Double} {integer otherInteger : Int}

theorem exact_of_small (small : integer.natAbs < integerTextLimit) :
    integer.natAbs < twoTo 53 :=
  Nat.lt_of_lt_of_le small (by decide)

theorem read?_spaced (stands : whole? double = some integer)
    (small : integer.natAbs < integerTextLimit) {content : String}
    (spaced : Spaced (text double) content) : read? content = some (ofInt integer) := by
  obtain ⟨before, after, first, last, rfl⟩ := spaced
  rw [text_of_whole stands small]
  exact read?_integerText small first last

theorem spaced_self (content : String) : Spaced content content :=
  ⟨"", "", by simp, by simp, by simp⟩

theorem integer_of_text (stands : whole? double = some integer)
    (small : integer.natAbs < integerTextLimit) (otherStands : whole? other = some otherInteger)
    (otherSmall : otherInteger.natAbs < integerTextLimit) (same : text double = text other) :
    integer = otherInteger := by
  have one := read?_spaced stands small (spaced_self _)
  have two := read?_spaced otherStands otherSmall (spaced_self _)
  rw [same, two] at one
  have doubles := congrArg whole? (Option.some.inj one)
  rw [whole?_ofInt (exact_of_small small), whole?_ofInt (exact_of_small otherSmall)] at doubles
  exact (Option.some.inj doubles).symm

theorem whole_number_text (small : integer.natAbs < integerTextLimit) :
    whole? (ofInt integer) = some integer ∧
      ∀ double, whole? double = some integer → TextAgrees double integer := by
  have exact := exact_of_small small
  refine ⟨whole?_ofInt exact, fun double stands => ?_⟩
  have equal (content : String) (spaced : Spaced (text double) content) :
      numberEqualsText double content = true := by
    rw [numberEqualsText, read?_spaced stands small spaced]
    exact equal_of_whole (whole?_ofInt exact) stands
  constructor
  case decimal =>
    rw [text_of_whole stands small]
    exact integerText_isDecimal integer
  case read =>
    intro content spaced
    exact read?_spaced stands small spaced
  case ofNumber => exact toInteger_of_whole stands exact
  case ofText =>
    intro content spaced
    rw [Value.toInteger, Value.toNumber, read?_spaced stands small spaced]
    exact toInteger_ofInt exact
  case equal =>
    intro content spaced
    exact ⟨equal content spaced, equal content spaced⟩
  case key =>
    intro other otherInteger heap before after otherStands otherSmall same
    have texts : text double = text other := by
      simpa [String.join, Value.render, Value.renderTo, ← String.toList_inj] using same
    exact integer_of_text stands small otherStands otherSmall texts

theorem least_integer_text : (-999999999999999 : Int).natAbs < integerTextLimit ∧
    whole? (ofInt (-999999999999999)) = some (-999999999999999) ∧
      TextAgrees (ofInt (-999999999999999)) (-999999999999999) := by
  have small : (-999999999999999 : Int).natAbs < integerTextLimit := by decide
  have whole := whole_number_text small
  exact ⟨small, whole.1, whole.2 _ whole.1⟩

end EventScript.Number
