import EventScript.Builtin.Call
import EventScript.Proofs.Number.Whole
import EventScript.Proofs.Text.Search
import EventScript.Value.Arithmetic

/-!
Positions in a text. The functions that find a part of a text, that cut a part out and that count
the characters agree on what a position is, wherever the numbers they hand to one another are exact.
-/

namespace EventScript.Builtin

def Gives (name : String) (values : List Value) (value : Value) : Prop :=
  ∀ machine heap dice, call? machine name values heap dice = some (.ok value, heap, dice)

def IsExact (number : Int) : Prop := number.natAbs < Number.twoTo 53

theorem ofNat_eq (number : Nat) : Value.ofNat number = .ofInt number :=
  congrArg Value.number (Number.ofNat_eq number)

theorem toInteger_ofInt {number : Int} (exact : IsExact number) :
    (Value.ofInt number).toInteger = number := Number.toInteger_ofInt exact

section Parts

variable (chars : List Char)

theorem textBetween_of_nat (first last : Nat) :
    textBetween chars first (some last) = (chars.drop first).take (last - first) := by
  simp only [textBetween, Int.toNat_natCast]
  rw [List.drop_take, List.take_eq_take_iff, List.length_drop]
  omega

theorem textBetween_append (place : Int) :
    textBetween chars 0 (some place) ++ textBetween chars place none = chars := by
  simp only [textBetween, Int.toNat_zero, List.drop_zero, List.take_length]
  rw [← List.take_eq_take_min, List.take_append_drop]

theorem length_textBetween (low high : Int) :
    ((textBetween chars low (some high)).length : Int) =
      max 0 (min high chars.length - max low 0) := by
  simp only [textBetween, List.length_drop, List.length_take]
  omega

end Parts

section Calls

variable (content : String)

theorem gives_length : Gives "length" [.text content] (.ofInt content.length) := by
  rw [← ofNat_eq]
  exact fun _ _ _ => rfl

theorem gives_part (low high : Value) : Gives "substring" [.text content, low, high]
    (.text (String.ofList (textBetween content.toList low.toInteger (some high.toInteger)))) :=
  fun _ _ _ => rfl

theorem gives_rest (low : Value) : Gives "substring" [.text content, low]
    (.text (String.ofList (textBetween content.toList low.toInteger none))) :=
  fun _ _ _ => rfl

theorem gives_contains (pattern : String) : Gives "contains" [.text content, .text pattern]
    (.bool (Text.occursIn pattern content)) :=
  fun _ _ _ => rfl

def positionOf (pattern : String) : Int :=
  match Text.indexOf? content pattern with
  | some position => position
  | none => -1

theorem gives_position (pattern : String) : Gives "index-of" [.text content, .text pattern]
    (.ofInt (positionOf content pattern)) := by
  intro machine heap dice
  have found : pureValue .indexOf ⟨[.text content, .text pattern], heap⟩ =
      .ok (.ofInt (positionOf content pattern)) := by
    rw [positionOf]
    change (match Text.indexOf? content pattern with
      | some position => Except.ok (Value.ofNat position)
      | none => Except.ok (Value.ofInt (-1))) = _
    cases Text.indexOf? content pattern with
    | none => rfl
    | some position => exact congrArg Except.ok (ofNat_eq position)
  change some (pureValue .indexOf ⟨[.text content, .text pattern], heap⟩, heap, dice) = _
  rw [found]

end Calls

/-- The functions on the positions of a text mean the same positions, each of which counts the
characters before it. -/
structure PositionsAgree (content pattern : String) (position : Int) : Prop where
  given : Gives "index-of" [.text content, .text pattern] (.ofInt position)
  least : position = -1 ∨ 0 ≤ position
  found : 0 ≤ position → Gives "substring"
    [.text content, .ofInt position, .ofInt (position + pattern.length)] (.text pattern)
  first : ∀ earlier : Int, 0 ≤ earlier → earlier < position →
    earlier + pattern.length ≤ content.length → ∃ other, other ≠ pattern ∧ Gives "substring"
      [.text content, .ofInt earlier, .ofInt (earlier + pattern.length)] (.text other)
  missing : ∃ truth, Gives "contains" [.text content, .text pattern] (.bool truth) ∧
    (position = -1 ↔ truth = false) ∧ (truth = true ↔ pattern.toList <:+: content.toList)
  divided : ∀ place : Value, ∃ front back,
    Gives "substring" [.text content, .ofInt 0, place] (.text front) ∧
      Gives "substring" [.text content, place] (.text back) ∧
        ∀ heap, Value.add heap (.text front) (.text back) = (.text content, heap)
  measured : ∀ low high, IsExact low → IsExact high → ∃ part,
    Gives "substring" [.text content, .ofInt low, .ofInt high] (.text part) ∧
      (part.length : Int) = max 0 (min high content.length - max low 0)
  counted : Gives "length" [.text content] (.ofInt content.length)

section Agreement

variable {content pattern : String}

theorem positionOf_cases (content pattern : String) :
    (∃ position : Nat, positionOf content pattern = position ∧
      Text.indexIn pattern.toList content.toList = some position) ∨
    positionOf content pattern = -1 ∧ Text.indexIn pattern.toList content.toList = none := by
  rw [positionOf, Text.indexOf?]
  cases Text.indexIn pattern.toList content.toList with
  | none => exact .inr ⟨rfl, rfl⟩
  | some position => exact .inl ⟨position, rfl, rfl⟩

theorem gives_slice {first last : Nat} (short : last ≤ content.length) (before : first ≤ last)
    (exact : IsExact content.length) : Gives "substring" [.text content, .ofInt first, .ofInt last]
      (.text (String.ofList ((content.toList.drop first).take (last - first)))) := by
  have low : (Value.ofInt first).toInteger = first :=
    toInteger_ofInt (Nat.lt_of_le_of_lt (before.trans short) exact)
  have high : (Value.ofInt last).toInteger = last :=
    toInteger_ofInt (Nat.lt_of_le_of_lt short exact)
  have part := gives_part content (.ofInt first) (.ofInt last)
  rwa [low, high, textBetween_of_nat] at part

theorem slice_eq_iff {first : Nat} (inside : first + pattern.length ≤ content.length) :
    String.ofList ((content.toList.drop first).take (first + pattern.length - first)) = pattern ↔
      Text.LiesAt pattern.toList content.toList first := by
  rw [← String.length_toList, ← String.length_toList] at inside
  rw [Nat.add_sub_cancel_left, ← String.toList_inj, String.toList_ofList, ← String.length_toList]
  exact ⟨fun same => ⟨inside, same⟩, Text.LiesAt.same⟩

theorem positions_agree (content pattern : String) (exact : content.length < Number.twoTo 53) :
    PositionsAgree content pattern (positionOf content pattern) where
  given := gives_position content pattern
  least := by
    rcases positionOf_cases content pattern with ⟨position, known, _⟩ | ⟨none, _⟩ <;> omega
  found := by
    intro least
    rcases positionOf_cases content pattern with ⟨position, known, found⟩ | ⟨none, _⟩
    · have lies := (Text.indexIn_some found).1
      have inside : position + pattern.length ≤ content.length := by
        rw [← String.length_toList, ← String.length_toList]
        exact lies.inside
      have slice := gives_slice inside (Nat.le_add_right _ _) exact
      rw [(slice_eq_iff inside).mpr lies] at slice
      rw [known]
      exact slice
    · omega
  first := by
    intro earlier least before inside
    obtain ⟨place, rfl⟩ := Int.eq_ofNat_of_zero_le least
    have within : place + pattern.length ≤ content.length := by omega
    rcases positionOf_cases content pattern with ⟨position, known, found⟩ | ⟨none, _⟩
    · have sooner : place < position := by omega
      refine ⟨_, ?_, gives_slice within (Nat.le_add_right _ _) exact⟩
      rw [Ne, slice_eq_iff within]
      exact (Text.indexIn_some found).2 place sooner
    · omega
  missing := by
    refine ⟨_, gives_contains content pattern, ?_, Text.occursIn_iff pattern content⟩
    rw [Text.occursIn, Text.indexOf?]
    rcases positionOf_cases content pattern with ⟨position, known, found⟩ | ⟨none, lost⟩
    · rw [found, known]
      exact iff_of_false (by omega) (by simp)
    · rw [lost, none]
      exact iff_of_true rfl rfl
  divided := by
    intro place
    refine ⟨_, _, gives_part content (.ofInt 0) place, gives_rest content place, fun heap => ?_⟩
    have start : (Value.ofInt 0).toInteger = 0 := toInteger_ofInt (Number.twoTo_pos 53)
    rw [start]
    change (Value.text (String.ofList (textBetween content.toList 0 (some place.toInteger)) ++
      String.ofList (textBetween content.toList place.toInteger none)), heap) = _
    rw [← String.ofList_append, textBetween_append, String.ofList_toList]
  measured := by
    intro low high lowExact highExact
    have part := gives_part content (.ofInt low) (.ofInt high)
    rw [toInteger_ofInt lowExact, toInteger_ofInt highExact] at part
    refine ⟨_, part, ?_⟩
    rw [String.length_ofList, length_textBetween, String.length_toList]
  counted := gives_length content

theorem umlauts_agree : "héllo wörld".length < Number.twoTo 53 ∧
    PositionsAgree "héllo wörld" "wö" 6 := by
  have exact : "héllo wörld".length < Number.twoTo 53 := by decide
  have place : positionOf "héllo wörld" "wö" = 6 := by decide +kernel
  exact ⟨exact, place ▸ positions_agree "héllo wörld" "wö" exact⟩

end Agreement

end EventScript.Builtin
