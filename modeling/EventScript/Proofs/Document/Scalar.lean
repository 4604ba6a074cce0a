import Mathlib.Data.List.TakeDrop
import EventScript.Document.Reader
import EventScript.Document.Writer

/-!
Texts and numbers as the writer writes them and the reader reads them. A quoted text reads back as
itself. A number is written in a form that the reader takes to its end.
-/

namespace EventScript.Document

theorem hexNumber?_control :
    ∀ code < 32, hexNumber? ['0', '0', hexDigit (code / 16), hexDigit (code % 16)] = some code := by
  decide

theorem readText_escape (char : Char) (bound : Nat) (before rest : List Char) :
    readText (bound + 1) before (escape char ++ rest) = readText bound (char :: before) rest := by
  unfold escape
  split
  · rename_i same
    rw [eq_of_beq same]
    rfl
  split
  · rename_i same
    rw [eq_of_beq same]
    rfl
  split
  · rename_i same
    rw [eq_of_beq same]
    rfl
  split
  · rename_i same
    rw [eq_of_beq same]
    rfl
  split
  · rename_i same
    rw [eq_of_beq same]
    rfl
  split
  · rename_i same
    rw [← Char.ofNat_toNat char, same]
    rfl
  split
  · rename_i same
    rw [← Char.ofNat_toNat char, same]
    rfl
  split
  · rename_i control
    have unit := hexNumber?_control char.toNat control
    have low : ¬(0xdc00 ≤ char.toNat ∧ char.toNat ≤ 0xdfff) := by omega
    have high : ¬(0xd800 ≤ char.toNat ∧ char.toNat ≤ 0xdbff) := by omega
    have escaped : readEscape ('u' :: '0' :: '0' :: hexDigit (char.toNat / 16) ::
        hexDigit (char.toNat % 16) :: rest) = some (char, rest) := by
      simp only [readEscape, unit, Option.bind_eq_bind, Option.bind_some, if_neg low, if_neg high,
        Char.ofNat_toNat]
    simp [readText, escaped]
  · rename_i quote backslash _ _ _ _ _ plain
    simp only [List.singleton_append, readText, quote, backslash, plain, if_false]
    rfl

theorem readText_escaped (content : List Char) {bound : Nat} (enough : content.length < bound)
    (before rest : List Char) :
    readText bound before (content.flatMap escape ++ '"' :: rest) =
      some (String.ofList (before.reverse ++ content), rest) := by
  induction content generalizing bound before with
  | nil =>
      obtain ⟨bound, rfl⟩ := Nat.exists_eq_add_of_lt enough
      simp [readText]
  | cons char content ih =>
      obtain ⟨more, rfl⟩ := Nat.exists_eq_add_of_lt enough
      rw [List.flatMap_cons, List.append_assoc, readText_escape, ih (by simp; omega)]
      simp

theorem length_le_escaped (content : List Char) :
    content.length ≤ (content.flatMap escape).length := by
  induction content with
  | nil => exact Nat.le_refl _
  | cons char content ih =>
      have nonempty : 1 ≤ (escape char).length := by
        unfold escape
        repeat' split
        all_goals simp
      simp only [List.flatMap_cons, List.length_cons, List.length_append]
      omega

theorem readText_quoted (content rest : List Char) :
    readText ((content.flatMap escape ++ '"' :: rest).length + 1) []
        (content.flatMap escape ++ '"' :: rest) = some (String.ofList content, rest) := by
  refine readText_escaped content ?_ [] rest
  have longer := length_le_escaped content
  simp only [List.length_append]
  omega

theorem toList_quoted (content : String) :
    (quoted content).toList = '"' :: (content.toList.flatMap escape ++ ['"']) := by
  simp [quoted]

section Numbers

theorem digit_cases {char : Char} (digit : char.isDigit = true) :
    char ∈ ['0', '1', '2', '3', '4', '5', '6', '7', '8', '9'] := by
  have bounds : 48 ≤ char.toNat ∧ char.toNat ≤ 57 := by
    simpa [Char.isDigit, UInt32.le_iff_toNat_le] using digit
  have code : char.toNat ∈ [48, 49, 50, 51, 52, 53, 54, 55, 56, 57] := by
    simp only [List.mem_cons, List.not_mem_nil, or_false]
    omega
  rw [← Char.ofNat_toNat char]
  generalize char.toNat = number at code
  revert number
  decide

def Stops (rest : List Char) : Prop :=
  ∀ char ∈ rest.head?, char.isDigit = false ∧ char ≠ '.' ∧ char ≠ 'e' ∧ char ≠ 'E'

theorem span_digits {digits rest : List Char} (all : ∀ char ∈ digits, char.isDigit = true)
    (stops : ∀ char ∈ rest.head?, char.isDigit = false) :
    (digits ++ rest).span Char.isDigit = (digits, rest) := by
  rw [List.span_eq_takeWhile_dropWhile]
  induction digits with
  | nil =>
      cases rest with
      | nil => rfl
      | cons char rest => simp [stops char rfl]
  | cons digit digits ih =>
      have later := ih fun char member => all char (List.mem_cons_of_mem _ member)
      simp only [Prod.mk.injEq] at later
      simp [all digit List.mem_cons_self, later]

structure Spelling where
  whole : List Char
  fraction : Option (List Char)
  exponent : Option (Bool × List Char)

namespace Spelling

def exponentChars : Option (Bool × List Char) → List Char
  | none => []
  | some (negative, digits) => 'e' :: (if negative then '-' else '+') :: digits

def fractionChars : Option (List Char) → List Char
  | none => []
  | some digits => '.' :: digits

def chars (spelling : Spelling) : List Char :=
  spelling.whole ++ fractionChars spelling.fraction ++ exponentChars spelling.exponent

structure Valid (spelling : Spelling) : Prop where
  whole : ∀ char ∈ spelling.whole, char.isDigit = true
  some : spelling.whole ≠ []
  single : spelling.whole.head? = .some '0' → spelling.whole.length = 1
  fraction : ∀ digits, spelling.fraction = .some digits →
    digits ≠ [] ∧ ∀ char ∈ digits, char.isDigit = true
  exponent : ∀ negative digits, spelling.exponent = .some (negative, digits) →
    digits ≠ [] ∧ ∀ char ∈ digits, char.isDigit = true

def exponentValue (exponent : Option (Bool × List Char)) : Bool × Nat :=
  (exponent.map fun spelled => (spelled.1, Number.ofDigits spelled.2)).getD (false, 0)

def number? (negative : Bool) (spelling : Spelling) : Option Double :=
  ((Scaled.ofWhole spelling.whole).addFraction (spelling.fraction.getD [])).toNumber? negative
    (exponentValue spelling.exponent).1 (exponentValue spelling.exponent).2

end Spelling

theorem readFraction_spelled {fraction : Option (List Char)} {rest : List Char}
    (all : ∀ digits ∈ fraction, digits ≠ [] ∧ ∀ char ∈ digits, char.isDigit = true)
    (stops : ∀ char ∈ rest.head?, char.isDigit = false ∧ char ≠ '.') :
    readFraction (Spelling.fractionChars fraction ++ rest) = some (fraction.getD [], rest) := by
  cases fraction with
  | none =>
      rw [Spelling.fractionChars, List.nil_append]
      unfold readFraction
      split
      · exact absurd rfl (stops '.' rfl).2
      · rfl
  | some digits =>
      obtain ⟨nonempty, digitsAll⟩ := all digits rfl
      rw [Spelling.fractionChars, List.cons_append, readFraction,
        span_digits digitsAll fun char head => (stops char head).1]
      simp [nonempty]

theorem readExponent_spelled {exponent : Option (Bool × List Char)} {rest : List Char}
    (all : ∀ spelled ∈ exponent, spelled.2 ≠ [] ∧ ∀ char ∈ spelled.2, char.isDigit = true)
    (stops : Stops rest) :
    readExponent (Spelling.exponentChars exponent ++ rest) =
      some (Spelling.exponentValue exponent, rest) := by
  cases exponent with
  | none =>
      cases rest with
      | nil => rfl
      | cons char rest =>
          obtain ⟨_, _, small, large⟩ := stops char rfl
          simp [Spelling.exponentChars, Spelling.exponentValue, readExponent, small, large]
  | some spelled =>
      obtain ⟨negative, digits⟩ := spelled
      obtain ⟨nonempty, digitsAll⟩ := all _ rfl
      have span := span_digits digitsAll fun char head => (stops char head).1
      have sign : readExponentSign ((if negative then '-' else '+') :: (digits ++ rest)) =
          (negative, digits ++ rest) := by
        cases negative <;> rfl
      simp only [Spelling.exponentChars, List.cons_append, readExponent, sign, span]
      simp [Spelling.exponentValue, nonempty]

theorem Spelling.exponentChars_head (exponent : Option (Bool × List Char)) {rest : List Char}
    (stops : Stops rest) :
    ∀ char ∈ (exponentChars exponent ++ rest).head?, char.isDigit = false ∧ char ≠ '.' := by
  cases exponent with
  | none => exact fun char head => ⟨(stops char head).1, (stops char head).2.1⟩
  | some spelled =>
      intro char head
      cases head
      decide

theorem Spelling.fractionChars_head (fraction : Option (List Char)) {rest : List Char}
    (stops : ∀ char ∈ rest.head?, char.isDigit = false) :
    ∀ char ∈ (fractionChars fraction ++ rest).head?, char.isDigit = false := by
  cases fraction with
  | none => exact stops
  | some digits =>
      intro char head
      cases head
      decide

theorem Spelling.Valid.lead {spelling : Spelling} (valid : spelling.Valid) :
    (spelling.whole.isEmpty ||
      (spelling.whole.head? == .some '0' && decide (1 < spelling.whole.length))) = false := by
  have nonempty := valid.some
  simp only [Bool.or_eq_false_iff, List.isEmpty_eq_false_iff, Bool.and_eq_false_iff]
  refine ⟨nonempty, ?_⟩
  by_cases zero : spelling.whole.head? = .some '0'
  · have single := valid.single zero
    exact .inr (decide_eq_false (by omega))
  · exact .inl (by simpa using zero)

theorem readNumber_spelling {spelling : Spelling} (valid : spelling.Valid) (negative : Bool)
    {rest : List Char} (stops : Stops rest) :
    readNumber negative (spelling.chars ++ rest) =
      (spelling.number? negative).map fun number => (number, rest) := by
  have exponentHead := Spelling.exponentChars_head spelling.exponent stops
  have fractionHead := Spelling.fractionChars_head spelling.fraction
    fun char head => (exponentHead char head).1
  have fraction := readFraction_spelled valid.fraction exponentHead
  have exponent := readExponent_spelled
    (fun spelled member => valid.exponent spelled.1 spelled.2 member) stops
  rw [Spelling.chars, List.append_assoc, List.append_assoc, readNumber,
    span_digits valid.whole fractionHead]
  simp only [valid.lead, fraction, exponent, Bool.false_eq_true, if_false, Option.bind_eq_bind,
    Option.bind_some, Spelling.number?]
  exact Option.map_eq_bind.symm

end Numbers

end EventScript.Document
