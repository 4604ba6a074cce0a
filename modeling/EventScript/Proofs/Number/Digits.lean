import Mathlib.Data.List.DropRight
import Mathlib.Tactic.Ring
import EventScript.Proofs.Number.Rounding

/-!
The digits of a number, and the shortest decimal of a double: it lies where every number rounds to
the double, so no row of its leading digits stands for more than the double and half a unit.
-/

namespace EventScript.Number

section Digits

theorem tenTo_add (first second : Nat) : tenTo (first + second) = tenTo first * tenTo second :=
  Nat.pow_add 10 first second

theorem ofDigits_append (first second : List Char) :
    ofDigits (first ++ second) = ofDigits first * tenTo second.length + ofDigits second := by
  have joined : ofDigits (first ++ second) = Nat.ofDigitChars 10 second (ofDigits first) :=
    Nat.ofDigitChars_append 0
  rw [joined, Nat.ofDigitChars_eq_ofDigitChars_zero, Nat.mul_comm]
  rfl

theorem ofDigits_toDigits (number : Nat) : ofDigits (Nat.toDigits 10 number) = number :=
  Nat.ofDigitChars_ten_toDigits

theorem digit_le {char : Char} (digit : char.isDigit = true) : char.toNat - '0'.toNat ≤ 9 := by
  have bounds : 48 ≤ char.toNat ∧ char.toNat ≤ 57 := by
    simpa [Char.isDigit, UInt32.le_iff_toNat_le] using digit
  change char.toNat - 48 ≤ 9
  omega

theorem digit_pos {char : Char} (digit : char.isDigit = true) (nonzero : char ≠ '0') :
    0 < char.toNat - '0'.toNat := by
  have bounds : 48 ≤ char.toNat ∧ char.toNat ≤ 57 := by
    simpa [Char.isDigit, UInt32.le_iff_toNat_le] using digit
  have other : char.toNat ≠ 48 := fun same => nonzero (Char.toNat_inj.mp same)
  change 0 < char.toNat - 48
  omega

theorem ofDigits_lt {digits : List Char} (all : ∀ char ∈ digits, char.isDigit = true) :
    ofDigits digits < tenTo digits.length := by
  induction digits with
  | nil => decide
  | cons digit digits ih =>
      have small := digit_le (all digit List.mem_cons_self)
      have rest := ih fun char member => all char (List.mem_cons_of_mem _ member)
      have split := ofDigits_append [digit] digits
      have first : ofDigits [digit] = digit.toNat - '0'.toNat := Nat.zero_add _
      have most := Nat.mul_le_mul_right (tenTo digits.length) small
      rw [List.singleton_append, first] at split
      rw [split, List.length_cons, tenTo_add, Nat.mul_comm (tenTo _)]
      change _ < 10 * tenTo digits.length
      omega

theorem isDigit_toDigits {number : Nat} :
    ∀ char ∈ Nat.toDigits 10 number, char.isDigit = true :=
  fun _ member => Nat.isDigit_of_mem_toDigits (by decide) (by decide) member

theorem head_toDigits {number : Nat} (positive : 0 < number) :
    (Nat.toDigits 10 number).head? ≠ some '0' := by
  induction number using Nat.base_induction 10 (by decide) with
  | single digit small =>
      rw [Nat.toDigits_of_lt_base small]
      have nonzero : ∀ digit < 10, 0 < digit → [Nat.digitChar digit].head? ≠ some '0' := by decide
      exact nonzero digit small positive
  | digit front last small frontPositive ih =>
      rw [← Nat.toDigits_append_toDigits (by decide) frontPositive small]
      obtain ⟨first, more, digits⟩ := List.exists_cons_of_ne_nil
        (Nat.toDigits_ne_nil : Nat.toDigits 10 front ≠ [])
      rw [digits] at ih ⊢
      exact ih frontPositive

end Digits

section Shortest

theorem Decimal.significant_digits {decimal : Decimal} (positive : 0 < decimal.digits) :
    ∃ first more rest, decimal.significant =
        (first :: more, decimal.exponent + (more ++ rest).length) ∧
      Nat.toDigits 10 decimal.digits = first :: (more ++ rest) ∧ first ≠ '0' := by
  have head := head_toDigits positive
  have kept : decimal.significant =
      ((Nat.toDigits 10 decimal.digits).rdropWhile (· == '0'),
        decimal.exponent + (Nat.toDigits 10 decimal.digits).length - 1) := rfl
  have split : (Nat.toDigits 10 decimal.digits).rdropWhile (· == '0') ++
      (Nat.toDigits 10 decimal.digits).rtakeWhile (· == '0') = Nat.toDigits 10 decimal.digits :=
    List.rdropWhile_append_rtakeWhile
  rw [kept]
  generalize tail : (Nat.toDigits 10 decimal.digits).rtakeWhile (· == '0') = rest at split
  generalize front : (Nat.toDigits 10 decimal.digits).rdropWhile (· == '0') = digits at split ⊢
  cases digits with
  | nil =>
      obtain ⟨first, others, all⟩ := List.exists_cons_of_ne_nil
        (Nat.toDigits_ne_nil : Nat.toDigits 10 decimal.digits ≠ [])
      rw [all] at front head
      have zero := List.rdropWhile_eq_nil_iff.mp front first List.mem_cons_self
      exact absurd (congrArg some (eq_of_beq zero)) head
  | cons first more =>
      rw [← split] at head ⊢
      refine ⟨first, more, rest, ?_, rfl, fun zero => head (congrArg some zero)⟩
      simp only [List.cons_append, List.length_cons, Prod.mk.injEq, true_and]
      omega

/-- The decimal rounds to the double, or stands at most where the rounding changes. -/
structure Decimal.Near (decimal : Decimal) (mantissa power : Nat) : Prop where
  lower : (4 * mantissa - 2) * (twoTo power * tenTo (-decimal.exponent).toNat) ≤
    decimal.digits * (4 * unitsPerOne * tenTo decimal.exponent.toNat)
  upper : decimal.digits * (4 * unitsPerOne * tenTo decimal.exponent.toNat) ≤
    (4 * mantissa + 2) * (twoTo power * tenTo (-decimal.exponent).toNat)

theorem near_of_readsBack {mantissa power grid : Nat} {spacing : Int}
    (reads : readsBack mantissa power (twoTo power * tenTo (-spacing).toNat)
      (4 * unitsPerOne * tenTo spacing.toNat) grid = true) :
    Decimal.Near ⟨grid, spacing⟩ mantissa power := by
  have low : 4 * mantissa - 2 ≤ (roundingInterval mantissa power).1 := by
    simp only [roundingInterval]
    split <;> omega
  have least := Nat.mul_le_mul_right (twoTo power * tenTo (-spacing).toNat) low
  have high : (roundingInterval mantissa power).2 = 4 * mantissa + 2 := rfl
  simp only [readsBack, high] at reads
  split at reads
  · simp only [Bool.and_eq_true, decide_eq_true_eq] at reads
    exact ⟨least.trans reads.1, reads.2⟩
  · simp only [Bool.and_eq_true, decide_eq_true_eq] at reads
    exact ⟨least.trans reads.1.le, reads.2.le⟩

theorem shortestWith_near {tie : Tie} {mantissa power : Nat} {leading : Int} {count : Nat}
    {decimal : Decimal} (found : shortestWith tie mantissa power leading count = some decimal) :
    decimal.Near mantissa power := by
  simp only [shortestWith] at found
  split at found
  · rename_i lowerReads upperReads
    split at found
    · cases found
      exact near_of_readsBack lowerReads
    · cases found
      exact near_of_readsBack upperReads
  · rename_i lowerReads _
    cases found
    exact near_of_readsBack lowerReads
  · rename_i _ upperReads
    cases found
    exact near_of_readsBack upperReads
  · exact nomatch found

theorem shortest_cases (tie : Tie) (mantissa power : Nat) :
    (shortest tie mantissa power).Near mantissa power ∨
      shortest tie mantissa power = ⟨mantissa, 0⟩ := by
  simp only [shortest]
  cases found : (List.range 17).findSome? fun fewer => shortestWith tie mantissa power
      (leadingExponent (mantissa * twoTo power) unitsPerOne) (fewer + 1) with
  | none => exact .inr rfl
  | some decimal =>
      obtain ⟨fewer, _, found⟩ := List.exists_of_findSome?_eq_some found
      exact .inl (shortestWith_near found)

theorem shortest_pos (tie : Tie) {mantissa : Nat} (positive : 0 < mantissa) (power : Nat) :
    0 < (shortest tie mantissa power).digits := by
  rcases shortest_cases tie mantissa power with near | default
  · have lower := near.lower
    have some : 0 < (4 * mantissa - 2) *
        (twoTo power * tenTo (-(shortest tie mantissa power).exponent).toNat) :=
      Nat.mul_pos (by omega) (Nat.mul_pos (Nat.two_pow_pos power) (tenTo_pos _))
    exact Nat.pos_of_mul_pos_right (some.trans_le lower)
  · rw [default]
    exact positive

theorem Decimal.Near.taken {decimal : Decimal} {mantissa power : Nat}
    (near : decimal.Near mantissa power) (taken rest : List Char)
    (split : Nat.toDigits 10 decimal.digits = taken ++ rest) (exponent : Nat)
    (scale : (exponent : Int) = decimal.exponent + rest.length) :
    ofDigits taken * tenTo exponent * (2 * unitsPerOne) ≤ (2 * mantissa + 1) * twoTo power := by
  have part : ofDigits taken * tenTo rest.length ≤ decimal.digits := by
    have whole := ofDigits_append taken rest
    rw [← split, ofDigits_toDigits] at whole
    omega
  have upper := near.upper
  have exponents : exponent + (-decimal.exponent).toNat = rest.length + decimal.exponent.toNat := by
    omega
  have scales := congrArg tenTo exponents
  rw [tenTo_add, tenTo_add] at scales
  have room : 0 < 2 * tenTo (-decimal.exponent).toNat := Nat.mul_pos (by decide) (tenTo_pos _)
  generalize tenTo (-decimal.exponent).toNat = down at upper scales room
  generalize tenTo decimal.exponent.toNat = up at upper scales
  generalize unitsPerOne = unit at upper ⊢
  refine Nat.le_of_mul_le_mul_right ?_ room
  calc ofDigits taken * tenTo exponent * (2 * unit) * (2 * down)
      = ofDigits taken * (tenTo exponent * down) * (4 * unit) := by ring
    _ = ofDigits taken * tenTo rest.length * (4 * unit * up) := by rw [scales]; ring
    _ ≤ decimal.digits * (4 * unit * up) := Nat.mul_le_mul_right _ part
    _ ≤ (4 * mantissa + 2) * (twoTo power * down) := upper
    _ = (2 * mantissa + 1) * twoTo power * (2 * down) := by ring

end Shortest

end EventScript.Number
