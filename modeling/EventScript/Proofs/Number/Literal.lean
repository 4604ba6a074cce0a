import EventScript.Number.Spelling
import EventScript.Proofs.Document.Scalar
import EventScript.Proofs.Number.Whole
import EventScript.Text.Blank
import EventScript.Token.Piece

/-!
Numbers as they are written in scripts. A literal is read from its digits, and a minus sign that is
read with the digits gives the opposite number.
-/

namespace EventScript.Number

open Document (span_digits)

section Opposites

theorem neg_ofMagnitude {magnitude : Nat} (bounded : magnitude ≤ infiniteMagnitude) :
    -ofMagnitude false magnitude = ofMagnitude true magnitude := by
  have infinite : infiniteMagnitude < twoTo 63 := by decide
  have bits : (ofMagnitude false magnitude).bits.toNat = magnitude :=
    bits_ofMagnitude false (by omega)
  change ofMagnitude (!isNegative _) (Number.magnitude _) = _
  rw [isNegative, Number.magnitude, bits, Nat.mod_eq_of_lt (by omega),
    decide_eq_false (by omega), Bool.not_false]

theorem neg_ofDecimal (digits : Nat) (exponent : Int) :
    -ofDecimal false digits exponent = ofDecimal true digits exponent := by
  unfold ofDecimal
  dsimp only
  split
  · exact neg_ofMagnitude (Nat.zero_le _)
  split
  · exact neg_ofMagnitude (Nat.le_refl _)
  · exact neg_ofMagnitude (Nat.min_le_right _ _)

theorem readDecimal?_negative (chars : List Char) :
    readDecimal? true chars = (readDecimal? false chars).map (-·) := by
  simp only [readDecimal?]
  split
  all_goals
    split
    · rfl
    · simp only [Option.map_map, Function.comp_def, neg_ofDecimal]

end Opposites

section Digits

theorem isBlank_digit {char : Char} (digit : char.isDigit = true) : Text.isBlank char = false := by
  have bounds : 48 ≤ char.toNat ∧ char.toNat ≤ 57 := by
    simpa [Char.isDigit, UInt32.le_iff_toNat_le] using digit
  simp only [Text.isBlank, Bool.or_eq_false_iff, Bool.and_eq_false_iff, decide_eq_false_iff_not,
    beq_eq_false_iff_ne]
  omega

variable {whole places : List Char}

theorem readDecimal?_digits (negative : Bool) (some : whole ≠ [])
    (all : ∀ char ∈ whole, char.isDigit = true) :
    readDecimal? negative whole = Option.some (ofDecimal negative (ofDigits whole) 0) := by
  have digits : (whole ++ []).span Char.isDigit = (whole, []) := span_digits all (by simp)
  have nonempty : whole.isEmpty = false := by simpa using some
  rw [List.append_nil] at digits
  simp only [readDecimal?, digits, nonempty, readExponent?, List.append_nil]
  rfl

theorem readDecimal?_point (negative : Bool) (some : whole ≠ [])
    (all : ∀ char ∈ whole, char.isDigit = true) (behind : ∀ char ∈ places, char.isDigit = true) :
    readDecimal? negative (whole ++ '.' :: places) =
      Option.some (ofDecimal negative (ofDigits (whole ++ places)) (-places.length)) := by
  have front : (whole ++ '.' :: places).span Char.isDigit = (whole, '.' :: places) :=
    span_digits all (by simp)
  have back : (places ++ []).span Char.isDigit = (places, []) := span_digits behind (by simp)
  have nonempty : whole.isEmpty = false := by simpa using some
  rw [List.append_nil] at back
  simp only [readDecimal?, front, back, nonempty, readExponent?, Bool.false_and, Option.map_some,
    if_neg Bool.false_ne_true, Int.zero_sub]

theorem take_length_takeWhile (goes : Char → Bool) (chars : List Char) :
    chars.take (chars.takeWhile goes).length = chars.takeWhile goes :=
  (List.prefix_iff_eq_take.mp (List.takeWhile_prefix goes)).symm

theorem readDecimal?_numberLength (negative : Bool) {chars : List Char}
    (digit : Token.startsWithDigit chars = true) :
    (readDecimal? negative (chars.take (Token.numberLength chars))).isSome = true := by
  have all (chars : List Char) : ∀ char ∈ chars.takeWhile Char.isDigit, char.isDigit = true :=
    fun char member => List.mem_takeWhile_imp member
  have some : chars.takeWhile Char.isDigit ≠ [] := by
    cases chars with
    | nil => cases digit
    | cons first rest =>
        have first : first.isDigit = true := digit
        simp [first]
  have plain : (readDecimal? negative
      (chars.take (chars.takeWhile Char.isDigit).length)).isSome = true := by
    rw [take_length_takeWhile, readDecimal?_digits negative some (all chars)]
    rfl
  unfold Token.numberLength
  dsimp only
  split
  · next fraction behind =>
    split
    · exact plain
    · have split : chars = chars.takeWhile Char.isDigit ++ '.' :: fraction := by
        rw [← behind, ← take_length_takeWhile, List.length_take_of_le
          (List.takeWhile_prefix Char.isDigit).length_le, List.take_append_drop]
      have taken : chars.take ((chars.takeWhile Char.isDigit).length + 1 +
          (fraction.takeWhile Char.isDigit).length) =
          chars.takeWhile Char.isDigit ++ '.' :: fraction.takeWhile Char.isDigit := by
        generalize chars.takeWhile Char.isDigit = whole at split
        rw [split, Nat.add_assoc, List.take_length_add_append, Nat.add_comm 1, List.take_succ_cons,
          take_length_takeWhile]
      rw [taken, readDecimal?_point negative some (all chars) (all fraction)]
      rfl
  · exact plain

end Digits

end EventScript.Number
