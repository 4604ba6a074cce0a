import EventScript.Proofs.Document.Scalar
import EventScript.Proofs.Number.Digits
import EventScript.Proofs.Number.Whole

/-!
The reader accepts every number that the writer writes. A number with a point and no exponent has a
negative scale, which is never refused. A number with an exponent is scaled up only if its digits
stand for no more than the double that was written, and then the product is not infinite. What the
reader makes of the digits need not be the same double, since it rounds several times on the way.
-/

namespace EventScript.Document

open Number

section Scaling

theorem scale?_negative (steps : Nat) (double : Double) {exponent : Int} (negative : exponent < 0) :
    (scale? steps double exponent).isSome = true := by
  induction steps generalizing double exponent with
  | zero => rfl
  | succ steps ih =>
      have sign : ¬0 ≤ exponent := by omega
      simp only [scale?, if_neg sign]
      split
      · rfl
      · split
        · rfl
        · exact ih _ (by omega)

theorem scale?_finite (steps : Nat) {double : Double} {exponent : Nat} (small : exponent ≤ 308)
    (finite : isInfinite (double * ofDecimal false 1 exponent) = false) :
    (scale? (steps + 1) double exponent).isSome = true := by
  have near : (exponent : Int).natAbs ≤ 308 := small
  have sign : (0 : Int) ≤ exponent := Int.natCast_nonneg exponent
  rw [scale?, if_pos near, if_pos sign, Int.natAbs_natCast]
  simp [finite]

theorem Scaled.foldl_wholeStep {digits : List Char} (all : ∀ char ∈ digits, char.isDigit = true)
    {significand : Nat} (fits : (significand + 1) * tenTo digits.length ≤ tenTo 19) :
    digits.foldl wholeStep (⟨significand, 0⟩, false) =
      (⟨Nat.ofDigitChars 10 digits significand, 0⟩, false) := by
  -- The invariant leaves room for all digits to come, so no step reaches the limit.
  induction digits generalizing significand with
  | nil => rfl
  | cons digit digits ih =>
      have small := digit_le (all digit List.mem_cons_self)
      have longer : (10 * significand + (digit.toNat - '0'.toNat) + 1) * tenTo digits.length ≤
          tenTo 19 := by
        refine Nat.le_trans ?_ fits
        have grows : tenTo (digit :: digits).length = 10 * tenTo digits.length := by
          rw [List.length_cons, tenTo_add, Nat.mul_comm]
          rfl
        rw [grows, ← Nat.mul_assoc]
        exact Nat.mul_le_mul_right _ (by omega)
      have inside : ¬significandLimit < 10 * significand + (digit.toNat - '0'.toNat) := by
        have one : 1 ≤ tenTo digits.length := tenTo_pos _
        have bound := Nat.le_trans (Nat.le_mul_of_pos_right _ one) longer
        have limit : tenTo 19 ≤ significandLimit := by decide
        omega
      rw [List.foldl_cons, Nat.ofDigitChars_cons]
      simp only [wholeStep, Bool.false_or, decide_eq_true_eq, if_neg inside]
      exact ih (fun char member => all char (List.mem_cons_of_mem _ member)) longer

theorem Scaled.ofWhole_short {digits : List Char} (all : ∀ char ∈ digits, char.isDigit = true)
    (short : digits.length ≤ 19) : Scaled.ofWhole digits = ⟨ofDigits digits, 0⟩ := by
  have fits : (0 + 1) * tenTo digits.length ≤ tenTo 19 := by simpa using tenTo_mono short
  exact congrArg Prod.fst (foldl_wholeStep all fits)

theorem Scaled.addFraction_taken (scaled : Scaled) (digits : List Char) :
    ∃ taken rest, digits = taken ++ rest ∧ scaled.addFraction digits =
        ⟨Nat.ofDigitChars 10 taken scaled.significand, scaled.exponent - taken.length⟩ := by
  induction digits generalizing scaled with
  | nil => exact ⟨[], [], rfl, by simp [addFraction]⟩
  | cons digit digits ih =>
      simp only [addFraction]
      split
      · exact ⟨[], digit :: digits, rfl, by simp⟩
      · obtain ⟨taken, rest, split, sum⟩ :=
          ih ⟨10 * scaled.significand + (digit.toNat - '0'.toNat), scaled.exponent - 1⟩
        refine ⟨digit :: taken, rest, by rw [split, List.cons_append], ?_⟩
        rw [sum, Nat.ofDigitChars_cons, List.length_cons]
        simp only [mk.injEq, true_and]
        omega

theorem Scaled.addFraction_le (scaled : Scaled) (digits : List Char) :
    (scaled.addFraction digits).exponent ≤ scaled.exponent ∧
      (scaled.significand ≤ significandLimit →
        (scaled.addFraction digits).significand ≤ significandLimit) := by
  induction digits generalizing scaled with
  | nil => exact ⟨Int.le_refl _, id⟩
  | cons digit digits ih =>
      simp only [addFraction]
      split
      · exact ⟨Int.le_refl _, id⟩
      · rename_i fits
        obtain ⟨less, limit⟩ :=
          ih ⟨10 * scaled.significand + (digit.toNat - '0'.toNat), scaled.exponent - 1⟩
        exact ⟨by simp only at less; omega, fun _ => limit (Nat.not_lt.mp fits)⟩

theorem Scaled.addFraction_negative {whole fraction : List Char}
    (wholeAll : ∀ char ∈ whole, char.isDigit = true) (short : whole.length ≤ 18)
    (fractionAll : ∀ char ∈ fraction, char.isDigit = true) (nonempty : fraction ≠ []) :
    ((ofWhole whole).addFraction fraction).exponent < 0 := by
  rw [ofWhole_short wholeAll (by omega)]
  have small : ofDigits whole < tenTo 18 := (ofDigits_lt wholeAll).trans_le (tenTo_mono short)
  cases fraction with
  | nil => exact absurd rfl nonempty
  | cons digit digits =>
      have digitSmall := digit_le (fractionAll digit List.mem_cons_self)
      have fits : ¬significandLimit < 10 * ofDigits whole + (digit.toNat - '0'.toNat) := by
        have limit : 10 * tenTo 18 ≤ significandLimit := by decide
        omega
      simp only [addFraction, if_neg fits]
      have less :=
        (addFraction_le ⟨10 * ofDigits whole + (digit.toNat - '0'.toNat), 0 - 1⟩ digits).1
      simp only at less
      omega

end Scaling

section Acceptance

theorem Scaled.toNumber?_unscaled (negative : Bool) (scaled : Scaled) :
    scaled.toNumber? negative false 0 =
      (scale? 4 (ofNat scaled.significand) scaled.exponent).map (withSign negative) := by
  simp [toNumber?]

/-- A text that the reader takes as a number with the given sign. -/
def Accepted (negative : Bool) (chars : List Char) : Prop :=
  ∃ spelling : Spelling, chars = spelling.chars ∧ spelling.Valid ∧
    (spelling.number? negative).isSome = true

theorem accepted_plain (whole fraction : List Char)
    (wholeAll : ∀ char ∈ whole, char.isDigit = true) (wholeSome : whole ≠ [])
    (single : whole.head? = some '0' → whole.length = 1) (short : whole.length ≤ 18)
    (fractionAll : ∀ char ∈ fraction, char.isDigit = true) (fractionSome : fraction ≠ [])
    (negative : Bool) : Accepted negative (whole ++ '.' :: fraction) := by
  refine ⟨⟨whole, some fraction, none⟩, ?_, ?_, ?_⟩
  · simp [Spelling.chars, Spelling.fractionChars, Spelling.exponentChars]
  · refine ⟨wholeAll, wholeSome, single, ?_, fun _ _ none => by cases none⟩
    rintro digits ⟨⟩
    exact ⟨fractionSome, fractionAll⟩
  · have below := Scaled.addFraction_negative wholeAll short fractionAll fractionSome
    change (Scaled.toNumber? negative _ false 0).isSome = true
    rw [Scaled.toNumber?_unscaled, Option.isSome_map]
    exact scale?_negative _ _ below

def Spelling.scientific (first : Char) (more : List Char) (leading : Int) : Spelling where
  whole := [first]
  fraction := if more.isEmpty then none else some more
  exponent := some (decide (leading < 0), Nat.toDigits 10 leading.natAbs)

theorem Spelling.fraction_scientific (first : Char) (more : List Char) (leading : Int) :
    (scientific first more leading).fraction.getD [] = more := by
  cases more <;> rfl

theorem scaled_room {number exponent top : Nat} (positive : 0 < number)
    (below : number * tenTo exponent * (2 * unitsPerOne) ≤ top)
    (small : top ≤ (2 ^ 54 - 7) * twoTo 2045) :
    exponent ≤ 308 := by
  by_contra large
  have least : tenTo 309 * (2 * unitsPerOne) ≤ top :=
    (Nat.mul_le_mul_right _ ((tenTo_mono (by omega)).trans
      (Nat.le_mul_of_pos_left _ positive))).trans below
  have room : (2 ^ 54 - 7) * twoTo 2045 < tenTo 309 * (2 * unitsPerOne) := by decide +kernel
  omega

theorem Spelling.number?_scientific {decimal : Decimal} {mantissa power : Nat}
    (near : decimal.Near mantissa power)
    (small : (2 * mantissa + 1) * twoTo power ≤ (2 ^ 54 - 7) * twoTo 2045) {first : Char}
    {more rest : List Char} (digits : Nat.toDigits 10 decimal.digits = first :: (more ++ rest))
    (nonzero : first ≠ '0') (negative : Bool) :
    ((scientific first more (decimal.exponent + (more ++ rest).length)).number? negative).isSome =
      true := by
  have isDigit : first.isDigit = true := isDigit_toDigits first (digits ▸ List.mem_cons_self)
  have single : ∀ char ∈ [first], char.isDigit = true := by simpa using isDigit
  have lead : 0 < ofDigits [first] := by
    have value : ofDigits [first] = first.toNat - '0'.toNat := Nat.zero_add _
    rw [value]
    exact digit_pos isDigit nonzero
  obtain ⟨taken, later, split, sum⟩ := Scaled.addFraction_taken (Scaled.ofWhole [first]) more
  have limit := (Scaled.addFraction_le (Scaled.ofWhole [first]) more).2
  rw [sum, Scaled.ofWhole_short single (by simp)] at limit
  rw [Scaled.ofWhole_short single (by simp)] at sum
  have kept : Nat.ofDigitChars 10 taken (ofDigits [first]) = ofDigits (first :: taken) := rfl
  have positive : 0 < ofDigits (first :: taken) := by
    have whole := ofDigits_append [first] taken
    have some := Nat.mul_pos lead (tenTo_pos taken.length)
    rw [List.singleton_append] at whole
    omega
  have bounded : ofDigits (first :: taken) ≤ tenTo 308 := by
    have room : significandLimit ≤ tenTo 20 := by decide
    have head : ofDigits [first] < tenTo 1 := ofDigits_lt single
    have enough : tenTo 1 ≤ significandLimit := by decide
    exact (limit (by simp only; omega)).trans (room.trans (tenTo_mono (by decide)))
  generalize leading : decimal.exponent + ((more ++ rest).length : Int) = exponent
  have leadingSmall : 0 ≤ exponent → exponent.natAbs ≤ 308 := by
    intro sign
    have below := near.taken [first] (more ++ rest) digits exponent.natAbs (by omega)
    exact scaled_room lead below small
  simp only [number?, fraction_scientific]
  simp only [scientific, Scaled.ofWhole_short single (by simp), sum, kept, exponentValue,
    Option.map_some, Option.getD_some, ofDigits_toDigits, Scaled.toNumber?]
  by_cases huge : 2147483648 ≤ exponent.natAbs
  · have sign : exponent < 0 := by omega
    simp [huge, sign]
  · have shift : (if decide (exponent < 0) = true then -(exponent.natAbs : Int)
        else exponent.natAbs) = exponent := by
      simp only [decide_eq_true_eq]
      split <;> omega
    rw [if_neg huge, Option.isSome_map, shift]
    by_cases sign : 0 - (taken.length : Int) + exponent < 0
    · exact scale?_negative _ _ sign
    · obtain ⟨scale, rise⟩ : ∃ scale : Nat, 0 - (taken.length : Int) + exponent = scale :=
        ⟨(0 - (taken.length : Int) + exponent).toNat, by omega⟩
      have lengths := congrArg List.length split
      have below := near.taken (first :: taken) (later ++ rest) (by rw [digits, split]; simp) scale
        (by simp only [List.length_append] at lengths leading ⊢; omega)
      have scaleSmall := scaled_room positive below small
      rw [rise]
      exact scale?_finite 3 scaleSmall
        (isInfinite_scaled positive bounded scaleSmall (below.trans small))

def acceptsShortest (negative : Bool) (mantissa power : Nat) : Bool :=
  match (shortest .even mantissa power).significant with
  | ([], _) => false
  | (first :: more, leading) => ((Spelling.scientific first more leading).number? negative).isSome

theorem accepts_greatest : ∀ negative : Bool,
    ∀ mantissa ∈ [9007199254740989, 9007199254740990, 9007199254740991],
      acceptsShortest negative mantissa 2045 = true := by
  decide +kernel

theorem magnitude_cases {mantissa power : Nat} (digits : mantissa < twoTo 53)
    (range : power ≤ 2045) :
    (2 * mantissa + 1) * twoTo power ≤ (2 ^ 54 - 7) * twoTo 2045 ∨
      power = 2045 ∧ mantissa ∈ [9007199254740989, 9007199254740990, 9007199254740991] := by
  have below : mantissa < 9007199254740992 := digits
  rcases Nat.lt_or_eq_of_le range with less | rfl
  · have half : twoTo power * 2 ≤ twoTo 2045 := twoTo_add power 1 ▸ twoTo_mono less
    have most : 2 * mantissa + 1 ≤ 2 * 9007199254740992 := by omega
    refine .inl ((Nat.mul_le_mul_right _ most).trans ?_)
    calc 2 * 9007199254740992 * twoTo power = 9007199254740992 * (twoTo power * 2) := by ring
      _ ≤ 9007199254740992 * twoTo 2045 := Nat.mul_le_mul_left _ half
      _ ≤ (2 ^ 54 - 7) * twoTo 2045 := Nat.mul_le_mul_right _ (by decide)
  · rcases Nat.lt_or_ge mantissa 9007199254740989 with small | large
    · exact .inl (Nat.mul_le_mul_right _ (by omega))
    · refine .inr ⟨rfl, ?_⟩
      simp only [List.mem_cons, List.not_mem_nil, or_false]
      omega

end Acceptance

section Writing

theorem shape_of_isFinite {number : Double} (finite : isFinite number = true) :
    ∃ negative mantissa power, shape number = .finite negative mantissa power := by
  unfold isFinite at finite
  split at finite
  · exact ⟨_, _, _, ‹_›⟩
  · cases finite

theorem isDigit_zeros (count : Nat) : ∀ char ∈ List.replicate count '0', char.isDigit = true := by
  intro char member
  rw [List.eq_of_mem_replicate member]
  decide

theorem accepted_positional {first : Char} {more : List Char}
    (all : ∀ char ∈ first :: more, char.isDigit = true) (nonzero : first ≠ '0') {leading : Int}
    (small : leading ≤ 17) (negative : Bool) :
    Accepted negative (positional (first :: more) leading ".0".toList) := by
  unfold positional
  split
  · refine accepted_plain ['0'] _ (isDigit_zeros 1) (by decide) (by decide) (by decide) ?_ ?_
      negative
    · exact fun char member => (List.mem_append.mp member).elim (isDigit_zeros _ char) (all char)
    · simp
  · simp only
    split
    · rename_i fits
      rw [List.append_assoc, ← List.append_assoc]
      refine accepted_plain _ ['0'] ?_ ?_ ?_ ?_ (isDigit_zeros 1) (by decide) negative
      · exact fun char member => (List.mem_append.mp member).elim (all char) (isDigit_zeros _ char)
      · simp
      · exact fun head => absurd (Option.some.inj head) nonzero
      · simp only [List.length_append, List.length_replicate]
        omega
    · rename_i more
      refine accepted_plain _ _ ?_ ?_ ?_ ?_ ?_ ?_ negative
      · exact fun char member => all char (List.mem_of_mem_take member)
      · simp
      · exact fun head => absurd (Option.some.inj head) nonzero
      · simp only [List.length_take]
        omega
      · exact fun char member => all char (List.mem_of_mem_drop member)
      · rw [ne_eq, List.drop_eq_nil_iff]
        omega

theorem Spelling.scientific_chars (first : Char) (more : List Char) (leading : Int) :
    (scientific first more leading).chars =
      (match first :: more with
        | [] => []
        | [digit] => [digit]
        | digit :: more => digit :: '.' :: more) ++
      'e' :: (if leading < 0 then '-' else '+') :: (Nat.repr leading.natAbs).toList := by
  cases more <;>
    simp [chars, scientific, fractionChars, exponentChars, Nat.toList_repr]

theorem Spelling.scientific_valid {first : Char} {more : List Char}
    (all : ∀ char ∈ first :: more, char.isDigit = true) (leading : Int) :
    (scientific first more leading).Valid := by
  refine ⟨?_, by simp [scientific], fun _ => rfl, ?_, ?_⟩
  · simpa [scientific] using all first List.mem_cons_self
  · intro digits same
    cases more with
    | nil => exact nomatch same
    | cons second others =>
        cases same
        exact ⟨by simp, fun char member => all char (List.mem_cons_of_mem _ member)⟩
  · rintro negative digits ⟨⟩
    exact ⟨Nat.toDigits_ne_nil, isDigit_toDigits⟩

theorem length_default {mantissa : Nat} (digits : mantissa < twoTo 53) :
    (Nat.toDigits 10 mantissa).length ≤ 16 :=
  (Nat.length_toDigits_le_iff (by decide) (by decide)).mpr (Nat.lt_trans digits (by decide))

theorem accepted_scientific {mantissa power : Nat} (positive : 0 < mantissa)
    (digits : mantissa < twoTo 53) (range : power ≤ 2045) {first : Char} {more : List Char}
    {leading : Int}
    (written : (shortest .even mantissa power).significant = (first :: more, leading))
    (far : ¬(-5 ≤ leading ∧ leading ≤ 15)) (negative : Bool) :
    ((Spelling.scientific first more leading).number? negative).isSome = true := by
  rcases magnitude_cases digits range with small | ⟨rfl, greatest⟩
  · obtain ⟨first', more', rest, significant, all, nonzero⟩ :=
      Decimal.significant_digits (shortest_pos .even positive power)
    rw [written] at significant
    cases significant
    rcases shortest_cases .even mantissa power with near | default
    · exact Spelling.number?_scientific near small all nonzero negative
    · rw [default] at far all
      have short := length_default digits
      rw [all, List.length_cons] at short
      exact absurd ⟨by simp only; omega, by simp only; omega⟩ far
  · have accepted := accepts_greatest negative mantissa greatest
    rw [acceptsShortest, written] at accepted
    exact accepted

theorem numberText_accepted {number : Double} {negative : Bool} {mantissa power : Nat}
    (finite : shape number = .finite negative mantissa power) :
    ∃ body, (numberText number).toList = (if negative then '-' :: body else body) ∧
      Accepted negative body := by
  have normal := (pattern_of_shape finite).1
  simp only [numberText, finite, String.toList_ofList]
  refine ⟨_, rfl, ?_⟩
  split
  · exact accepted_plain ['0'] ['0'] (isDigit_zeros 1) (by decide) (by decide) (by decide)
      (isDigit_zeros 1) (by decide) negative
  · rename_i nonzero
    have positive : 0 < mantissa := Nat.pos_of_ne_zero nonzero
    obtain ⟨first, more, rest, significant, all, lead⟩ :=
      Decimal.significant_digits (shortest_pos .even positive power)
    have isDigit : ∀ char ∈ first :: more, char.isDigit = true := by
      intro char member
      have inside : char ∈ Nat.toDigits 10 (shortest .even mantissa power).digits := by
        rw [all, ← List.cons_append]
        exact List.mem_append_left rest member
      exact isDigit_toDigits char inside
    simp only [significant]
    split
    · rename_i near
      exact accepted_positional isDigit lead (by omega) negative
    · rename_i far
      refine ⟨_, (Spelling.scientific_chars first more _).symm,
        Spelling.scientific_valid isDigit _, ?_⟩
      exact accepted_scientific positive normal.digits normal.range significant far negative

end Writing

end EventScript.Document
