import EventScript.Proofs.Number.Digits
import EventScript.Proofs.Number.Literal

/-!
The decimal texts of integers. A whole number below 10 ^ 15 is written with its digits alone, and
what is written reads back as that number, also with blanks around it.
-/

namespace EventScript.Number

/-- The one text of an integer in decimal: its digits, none of them a zero in front of others, and a
minus sign if it is negative. -/
def IsDecimal (integer : Int) (text : String) : Prop :=
  ∃ digits, text.toList = (if integer < 0 then ['-'] else []) ++ digits ∧ digits ≠ [] ∧
    (∀ digit ∈ digits, digit.isDigit = true) ∧ (digits.head? = some '0' → digits = ['0']) ∧
      ofDigits digits = integer.natAbs

variable {double : Double} {integer : Int}

theorem toList_integerText (integer : Int) : (integerText integer).toList =
    (if integer < 0 then ['-'] else []) ++ Nat.toDigits 10 integer.natAbs := by
  unfold integerText
  split <;> simp [Nat.repr]

theorem integerText_isDecimal (integer : Int) : IsDecimal integer (integerText integer) := by
  refine ⟨_, toList_integerText integer, Nat.toDigits_ne_nil, isDigit_toDigits, ?_,
    ofDigits_toDigits _⟩
  intro zero
  by_cases positive : 0 < integer.natAbs
  · exact absurd zero (head_toDigits positive)
  · rw [Nat.eq_zero_of_not_pos positive]
    rfl

theorem text_of_whole (stands : whole? double = some integer)
    (small : integer.natAbs < integerTextLimit) : text double = integerText integer := by
  obtain ⟨negative, mantissa, power, finite, units, signed⟩ := whole?_eq_some_iff.mp stands
  rw [text, finite]
  dsimp only
  rw [(wholePart_eq_iff mantissa power _).mpr units]
  dsimp only
  rw [if_pos small, ← signed]

section Reading

theorem dropWhile_solid {chars : List Char}
    (solid : ∀ char ∈ chars.head?, Text.isBlank char = false)
    (before : List Char) (blank : ∀ char ∈ before, Text.isBlank char = true) :
    (before ++ chars).dropWhile Text.isBlank = chars := by
  rw [List.dropWhile_append_of_pos blank]
  cases chars with
  | nil => rfl
  | cons char chars => exact List.dropWhile_cons_of_neg (by simp [solid char rfl])

theorem trimChars_blanks {before chars after : List Char}
    (first : ∀ char ∈ before, Text.isBlank char = true)
    (last : ∀ char ∈ after, Text.isBlank char = true) (nonempty : chars ≠ [])
    (solid : ∀ char ∈ chars, Text.isBlank char = false) :
    Text.trimChars (before ++ chars ++ after) = chars := by
  have front : ∀ char ∈ (chars ++ after).head?, Text.isBlank char = false := by
    intro char head
    rw [List.head?_append_of_ne_nil _ nonempty] at head
    exact solid char (List.mem_of_mem_head? head)
  have back : ∀ char ∈ chars.reverse.head?, Text.isBlank char = false := by
    intro char head
    exact solid char (List.mem_reverse.mp (List.mem_of_mem_head? head))
  rw [Text.trimChars, Text.trimStart, List.append_assoc, dropWhile_solid front before first,
    Text.trimEnd, List.reverse_append, dropWhile_solid back after.reverse, List.reverse_reverse]
  intro char member
  exact last char (List.mem_reverse.mp member)

theorem readSign_digits {digits : List Char} (all : ∀ digit ∈ digits, digit.isDigit = true) :
    readSign digits = (false, digits) := by
  unfold readSign
  split
  · exact absurd (all _ List.mem_cons_self) (by decide)
  · exact absurd (all _ List.mem_cons_self) (by decide)
  · rfl

theorem ofDecimal_eq_ofInt (small : integer.natAbs < integerTextLimit) :
    ofDecimal (decide (integer < 0)) integer.natAbs 0 = ofInt integer := by
  by_cases zero : integer = 0
  · subst zero
    decide +kernel
  have count : digitCount integer.natAbs ≤ 15 := by
    rw [digitCount, if_neg (by omega)]
    exact (Nat.length_toDigits_le_iff (by decide) (by decide)).mpr small
  have one : integer.natAbs * tenTo (0 : Int).toNat = integer.natAbs := Nat.mul_one _
  rw [ofDecimal, if_neg (by omega), if_neg (by omega), one]
  rfl

/-- The text of an integer, with any blanks around it, reads as the double of the integer. -/
theorem read?_integerText (small : integer.natAbs < integerTextLimit) {before after : String}
    (first : ∀ char ∈ before.toList, Text.isBlank char = true)
    (last : ∀ char ∈ after.toList, Text.isBlank char = true) :
    read? (before ++ integerText integer ++ after) = some (ofInt integer) := by
  have digits : ∀ char ∈ Nat.toDigits 10 integer.natAbs, char.isDigit = true := isDigit_toDigits
  have trimmed : Text.trimChars (before ++ integerText integer ++ after).toList =
      (integerText integer).toList := by
    rw [String.toList_append, String.toList_append, toList_integerText]
    refine trimChars_blanks first last (by simp [Nat.toDigits_ne_nil]) ?_
    intro char member
    rcases List.mem_append.mp member with sign | digit
    · split at sign
      · rw [List.mem_singleton.mp sign]
        rfl
      · exact nomatch sign
    · exact isBlank_digit (digits char digit)
  have signed : readSign (integerText integer).toList =
      (decide (integer < 0), Nat.toDigits 10 integer.natAbs) := by
    rw [toList_integerText]
    split
    · next negative => rw [decide_eq_true negative]; rfl
    · next positive => rw [decide_eq_false positive]; exact readSign_digits digits
  have named (name : String) (letter : ∃ char ∈ name.toList, char.isDigit = false) :
      ¬(Nat.toDigits 10 integer.natAbs == name.toList) = true := by
    obtain ⟨char, member, other⟩ := letter
    intro same
    rw [← eq_of_beq same] at member
    exact absurd (digits char member) (by simp [other])
  rw [read?, trimmed, signed]
  dsimp only
  rw [if_neg (named "NaN" ⟨'N', by simp, rfl⟩), if_neg (named "Infinity" ⟨'I', by simp, rfl⟩),
    readDecimal?_digits _ Nat.toDigits_ne_nil digits, ofDigits_toDigits, ofDecimal_eq_ofInt small]

end Reading

end EventScript.Number
