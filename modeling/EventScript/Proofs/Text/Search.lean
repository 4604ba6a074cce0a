import Mathlib.Data.List.Infix
import EventScript.Text.Search

/-!
Where one text lies in another. The search gives the first position at which the pattern lies in the
text, and none exactly if the pattern is no part of the text.
-/

namespace EventScript.Text

variable {pattern chars : List Char} {position : Nat}

/-- The pattern fills the text from the position on, as far as it reaches. -/
structure LiesAt (pattern chars : List Char) (position : Nat) : Prop where
  inside : position + pattern.length ≤ chars.length
  same : (chars.drop position).take pattern.length = pattern

theorem liesAt_zero : LiesAt pattern chars 0 ↔ pattern <+: chars := by
  rw [List.prefix_iff_eq_take]
  constructor
  · intro lies
    exact lies.same.symm
  · intro start
    refine ⟨?_, start.symm⟩
    have length := congrArg List.length start
    rw [List.length_take] at length
    omega

theorem liesAt_succ {char : Char} :
    LiesAt pattern (char :: chars) (position + 1) ↔ LiesAt pattern chars position := by
  constructor
  · rintro ⟨inside, same⟩
    rw [List.length_cons] at inside
    exact ⟨by omega, same⟩
  · rintro ⟨inside, same⟩
    refine ⟨?_, same⟩
    rw [List.length_cons]
    omega

theorem LiesAt.isInfix (lies : LiesAt pattern chars position) : pattern <:+: chars := by
  have start : pattern <+: chars.drop position := List.prefix_iff_eq_take.mpr lies.same.symm
  exact start.isInfix.trans (List.drop_suffix position chars).isInfix

theorem liesAt_append {rest : List Char} (inside : position + pattern.length ≤ chars.length) :
    LiesAt pattern (chars ++ rest) position ↔ LiesAt pattern chars position := by
  have same : ((chars ++ rest).drop position).take pattern.length =
      (chars.drop position).take pattern.length := by
    rw [List.drop_append_of_le_length (by omega),
      List.take_append_of_le_length (by rw [List.length_drop]; omega)]
  constructor
  · intro lies
    exact ⟨inside, same ▸ lies.same⟩
  · intro lies
    refine ⟨?_, same ▸ lies.same⟩
    rw [List.length_append]
    omega

theorem LiesAt.split (lies : LiesAt pattern chars position) :
    chars.take position ++ (pattern ++ chars.drop (position + pattern.length)) = chars := by
  have parted := List.take_append_drop pattern.length (chars.drop position)
  rw [lies.same, List.drop_drop] at parted
  rw [parted, List.take_append_drop]

theorem indexIn_some (found : indexIn pattern chars = some position) :
    LiesAt pattern chars position ∧ ∀ earlier < position, ¬LiesAt pattern chars earlier := by
  induction chars generalizing position with
  | nil =>
      rw [indexIn] at found
      split at found
      · next empty =>
        cases found
        rw [List.isEmpty_iff.mp empty]
        exact ⟨⟨Nat.le_refl _, rfl⟩, nofun⟩
      · cases found
  | cons char chars ih =>
      rw [indexIn] at found
      split at found
      · next start =>
        cases found
        exact ⟨liesAt_zero.mpr (List.isPrefixOf_iff_prefix.mp start), nofun⟩
      · next other =>
        obtain ⟨later, sooner, rfl⟩ := Option.map_eq_some_iff.mp found
        obtain ⟨lies, first⟩ := ih sooner
        refine ⟨liesAt_succ.mpr lies, ?_⟩
        intro earlier before
        cases earlier with
        | zero =>
            intro start
            exact other (List.isPrefixOf_iff_prefix.mpr (liesAt_zero.mp start))
        | succ earlier =>
            intro inner
            exact first earlier (by omega) (liesAt_succ.mp inner)

theorem indexIn_none (none : indexIn pattern chars = none) : ¬pattern <:+: chars := by
  induction chars with
  | nil =>
      intro part
      rw [indexIn, List.infix_nil.mp part] at none
      cases none
  | cons char chars ih =>
      rw [indexIn] at none
      split at none
      · cases none
      · next other =>
        intro part
        rcases List.infix_cons_iff.mp part with start | inner
        · exact other (List.isPrefixOf_iff_prefix.mpr start)
        · exact ih (Option.map_eq_none_iff.mp none) inner

theorem indexIn_first (lies : LiesAt pattern chars position)
    (first : ∀ earlier < position, ¬LiesAt pattern chars earlier) :
    indexIn pattern chars = some position := by
  cases found : indexIn pattern chars with
  | none => exact absurd lies.isInfix (indexIn_none found)
  | some place =>
      obtain ⟨here, sooner⟩ := indexIn_some found
      have atMost : place ≤ position := Nat.le_of_not_lt fun later => sooner position later lies
      have atLeast : position ≤ place := Nat.le_of_not_lt fun later => first place later here
      rw [Nat.le_antisymm atMost atLeast]

theorem indexIn_eq_some_iff :
    indexIn pattern chars = some position ↔
      ∃ before after, chars = before ++ (pattern ++ after) ∧ before.length = position ∧
        ∀ place < position, ¬LiesAt pattern (before ++ pattern) place := by
  have cut {before after : List Char} {place : Nat} (earlier : place ≤ before.length) :
      LiesAt pattern (before ++ (pattern ++ after)) place ↔
        LiesAt pattern (before ++ pattern) place := by
    rw [← List.append_assoc, liesAt_append]
    rw [List.length_append]
    omega
  constructor
  · intro found
    obtain ⟨lies, first⟩ := indexIn_some found
    have length : (chars.take position).length = position :=
      List.length_take_of_le (Nat.le_of_add_right_le lies.inside)
    refine ⟨chars.take position, chars.drop (position + pattern.length), lies.split.symm, length,
      fun place before here => ?_⟩
    refine first place before ?_
    rw [← lies.split]
    exact (cut (by omega)).mpr here
  · rintro ⟨before, after, rfl, rfl, first⟩
    refine indexIn_first ⟨by simp, by simp⟩ fun place earlier here => ?_
    exact first place earlier ((cut (Nat.le_of_lt earlier)).mp here)

theorem indexIn_mark_iff {mark : Char} :
    indexIn [mark] chars = some position ↔
      ∃ before after, chars = before ++ mark :: after ∧ before.length = position ∧
        mark ∉ before := by
  rw [indexIn_eq_some_iff]
  refine exists₂_congr fun before after => and_congr_right fun _ => and_congr_right fun length => ?_
  subst length
  constructor
  · intro first member
    obtain ⟨place, within, here⟩ := List.mem_iff_getElem.mp member
    refine first place within ((liesAt_append within).mpr ⟨within, ?_⟩)
    rw [List.drop_eq_getElem_cons within, here]
    rfl
  · intro apart place within here
    exact apart (((liesAt_append within).mp here).isInfix.subset List.mem_cons_self)

theorem occursIn_iff (part text : String) :
    occursIn part text = true ↔ part.toList <:+: text.toList := by
  rw [occursIn, indexOf?]
  cases found : indexIn part.toList text.toList with
  | none => exact iff_of_false Bool.false_ne_true (indexIn_none found)
  | some position => exact iff_of_true rfl (indexIn_some found).1.isInfix

end EventScript.Text
