import EventScript.Proofs.Number.Rounding

/-!
Doubles that are whole numbers. A finite double is known by its sign and by how many units it is
worth, and every integer of at most fifty-three binary digits is worth what some double is worth.
That double is the one the integer is turned into, and turning it back gives the integer again.
-/

namespace EventScript.Number

section Shapes

theorem widths : twoTo 11 = 2048 ∧ twoTo 52 = 4503599627370496 ∧ twoTo 53 = 9007199254740992 ∧
    twoTo 63 = 9223372036854775808 ∧ infiniteMagnitude = 2047 * 4503599627370496 := by
  decide

def magnitudeOf (mantissa power : Nat) : Nat :=
  if mantissa < twoTo 52 then mantissa else power * twoTo 52 + mantissa

structure Normal (mantissa power : Nat) : Prop where
  digits : mantissa < twoTo 53
  range : power ≤ 2045
  leading : mantissa < twoTo 52 → power = 0

theorem ofPattern_finite (negative : Bool) {mantissa power : Nat} (normal : Normal mantissa power) :
    Shape.ofPattern (if negative then twoTo 63 + magnitudeOf mantissa power
      else magnitudeOf mantissa power) = .finite negative mantissa power := by
  obtain ⟨fields, half, full, top, _⟩ := widths
  obtain ⟨digits, range, leading⟩ := normal
  rw [Shape.ofPattern, magnitudeOf, fields, half, top]
  rw [half] at leading
  rw [full] at digits
  by_cases short : mantissa < 4503599627370496
  · obtain rfl := leading short
    cases negative <;> simp only [short, if_true, Bool.false_eq_true, if_false]
    · rw [if_neg (by omega), if_pos (by omega), Shape.finite.injEq]
      exact ⟨decide_eq_false (by omega), by omega, rfl⟩
    · rw [if_neg (by omega), if_pos (by omega), Shape.finite.injEq]
      exact ⟨decide_eq_true (by omega), by omega, rfl⟩
  · cases negative <;> simp only [short, if_true, Bool.false_eq_true, if_false]
    · rw [if_neg (by omega), if_neg (by omega), Shape.finite.injEq]
      exact ⟨decide_eq_false (by omega), by omega, by omega⟩
    · rw [if_neg (by omega), if_neg (by omega), Shape.finite.injEq]
      exact ⟨decide_eq_true (by omega), by omega, by omega⟩

theorem bits_ofMagnitude (negative : Bool) {magnitude : Nat} (inside : magnitude < twoTo 63) :
    (ofMagnitude negative magnitude).bits.toNat =
      if negative then twoTo 63 + magnitude else magnitude := by
  have top : twoTo 63 = 2 ^ 63 := rfl
  rw [ofMagnitude, UInt64.toNat_ofNat_of_lt']
  change _ < 2 ^ 64
  split <;> omega

theorem shape_ofMagnitude (negative : Bool) {mantissa power : Nat}
    (normal : Normal mantissa power) :
    shape (ofMagnitude negative (magnitudeOf mantissa power)) =
      .finite negative mantissa power := by
  obtain ⟨_, half, full, top, _⟩ := widths
  have inside : magnitudeOf mantissa power < twoTo 63 := by
    have digits := normal.digits
    have range := normal.range
    rw [magnitudeOf, top, half]
    split <;> omega
  rw [shape, bits_ofMagnitude negative inside, ofPattern_finite negative normal]

theorem pattern_of_shape {double : Double} {negative : Bool} {mantissa power : Nat}
    (finite : shape double = .finite negative mantissa power) :
    Normal mantissa power ∧ double.bits.toNat = if negative then
      twoTo 63 + magnitudeOf mantissa power else magnitudeOf mantissa power := by
  obtain ⟨fields, half, full, top, _⟩ := widths
  have bound : double.bits.toNat < 2 ^ 64 := double.bits.toNat_lt
  rw [shape, Shape.ofPattern, fields, half, top] at finite
  rw [magnitudeOf, half, top]
  generalize double.bits.toNat = pattern at finite bound ⊢
  split at finite
  · split at finite <;> cases finite
  split at finite
  · cases finite
    refine ⟨⟨by omega, by omega, fun _ => rfl⟩, ?_⟩
    simp only [decide_eq_true_eq]
    split <;> split <;> omega
  · cases finite
    refine ⟨⟨by omega, by omega, fun short => by omega⟩, ?_⟩
    simp only [decide_eq_true_eq]
    split <;> split <;> omega

theorem eq_of_shape {left right : Double} {negative : Bool} {mantissa power : Nat}
    (one : shape left = .finite negative mantissa power)
    (two : shape right = .finite negative mantissa power) : left = right :=
  Double.ext (UInt64.toNat_inj.mp ((pattern_of_shape one).2.trans (pattern_of_shape two).2.symm))

end Shapes

section Integers

variable {double other : Double} {integer : Int}

theorem twoTo_pos (exponent : Nat) : 0 < twoTo exponent := Nat.two_pow_pos exponent

theorem roundedQuotient_mul (quotient : Nat) {divisor : Nat} (positive : 0 < divisor) :
    roundedQuotient (quotient * divisor) divisor = quotient := by
  rw [roundedQuotient, Nat.mul_div_cancel _ positive, Nat.mul_mod_left, if_neg (by omega)]

theorem wholePart_eq_iff (mantissa power whole : Nat) :
    wholePart mantissa power = (whole, false) ↔
      mantissa * twoTo power = whole * unitsPerOne := by
  unfold wholePart unitsPerOne
  split
  · next above =>
    obtain ⟨up, rfl⟩ := Nat.exists_eq_add_of_le above
    have positive := twoTo_pos 1074
    rw [Nat.add_sub_cancel_left, Nat.shiftLeft_eq, twoTo_add, ← twoTo_eq]
    generalize twoTo 1074 = unit at positive ⊢
    rw [Nat.mul_left_comm, Nat.mul_comm whole, Nat.mul_right_inj (Nat.ne_of_gt positive)]
    simp
  · next below =>
    have split : twoTo 1074 = twoTo (1074 - power) * twoTo power := by
      rw [← twoTo_add, Nat.sub_add_cancel (by omega)]
    have positive := twoTo_pos power
    have step := twoTo_pos (1074 - power)
    rw [split, ← Nat.mul_assoc, Nat.mul_left_inj (Nat.ne_of_gt positive)]
    dsimp only
    rw [Nat.shiftRight_eq_div_pow, ← twoTo_eq]
    generalize twoTo (1074 - power) = cut at step ⊢
    have whole := Nat.div_add_mod' mantissa cut
    constructor
    · intro parts
      simp only [Prod.mk.injEq, bne_eq_false_iff_eq] at parts
      rw [← whole, parts.1, parts.2, Nat.add_zero]
    · rintro rfl
      rw [Nat.mul_div_cancel _ step, Nat.mul_mod_left]
      rfl

theorem whole?_eq_some_iff : whole? double = some integer ↔ ∃ negative mantissa power,
    shape double = .finite negative mantissa power ∧
      mantissa * twoTo power = integer.natAbs * unitsPerOne ∧
        integer = if negative then -(integer.natAbs : Int) else integer.natAbs := by
  unfold whole?
  constructor
  · intro found
    split at found
    · next negative mantissa power finite =>
      split at found
      · next whole part =>
        cases found
        have same : (if negative = true then -(whole : Int) else whole).natAbs = whole := by
          split <;> simp
        refine ⟨negative, mantissa, power, finite, ?_, ?_⟩
        · rw [same]
          exact (wholePart_eq_iff mantissa power whole).mp part
        · rw [same]
      · cases found
    · cases found
  · rintro ⟨negative, mantissa, power, finite, units, signed⟩
    rw [finite]
    dsimp only
    rw [(wholePart_eq_iff mantissa power integer.natAbs).mpr units]
    dsimp only
    rw [← signed]

theorem log2_mul_twoTo {number : Nat} (positive : 0 < number) (exponent : Nat) :
    (number * twoTo exponent).log2 = number.log2 + exponent := by
  have width := twoTo_pos exponent
  have low := Nat.mul_le_mul_right (twoTo exponent) (Nat.log2_self_le (Nat.ne_of_gt positive))
  have high := Nat.mul_lt_mul_of_pos_right (Nat.lt_log2_self : number < _) width
  rw [← twoTo_eq, ← twoTo_add] at low high
  rw [Nat.add_right_comm] at high
  exact (Nat.log2_eq_iff (Nat.mul_pos positive width).ne').mpr ⟨low, high⟩

theorem shape_ofRatio (negative : Bool) {number : Nat} (positive : 0 < number)
    (small : number < twoTo 53) : ∃ mantissa power,
      shape (ofRatio negative number 1) = .finite negative mantissa power ∧
        mantissa * twoTo power = number * unitsPerOne := by
  have log : number.log2 < 53 := log2_lt_of_lt small (by decide)
  have units : (number * unitsPerOne).log2 = number.log2 + 1074 := log2_mul_twoTo positive 1074
  have shift : number * unitsPerOne =
      number * twoTo (52 - number.log2) * twoTo (number.log2 + 1022) := by
    have exponents : 1074 = 52 - number.log2 + (number.log2 + 1022) := by omega
    rw [Nat.mul_assoc, ← twoTo_add, ← exponents, unitsPerOne]
  have room : twoTo 52 ≤ number * twoTo (52 - number.log2) := by
    have low := Nat.mul_le_mul_right (twoTo (52 - number.log2))
      (Nat.log2_self_le (Nat.ne_of_gt positive))
    rwa [← twoTo_eq, ← twoTo_add, Nat.add_sub_cancel' (by omega)] at low
  have bound : number * twoTo (52 - number.log2) < twoTo 53 := by
    have high := Nat.mul_lt_mul_of_pos_right (Nat.lt_log2_self : number < _)
      (twoTo_pos (52 - number.log2))
    rwa [← twoTo_eq, ← twoTo_add, Nat.add_right_comm, Nat.add_sub_cancel' (by omega)] at high
  generalize number * twoTo (52 - number.log2) = mantissa at shift room bound
  have normal : Normal mantissa (number.log2 + 1022) :=
    ⟨bound, by omega, fun short => absurd room (Nat.not_le.mpr short)⟩
  have magnitude : ofRatio negative number 1 =
      ofMagnitude negative (magnitudeOf mantissa (number.log2 + 1022)) := by
    obtain ⟨_, half, full, _, infinite⟩ := widths
    have power : number.log2 + 1074 - 52 = number.log2 + 1022 := by omega
    rw [full] at bound
    rw [ofRatio, Nat.div_one, units, power, Nat.one_mul, shift, roundedQuotient_mul _ (twoTo_pos _),
      magnitudeOf, if_neg (Nat.not_lt.mpr room), infinite, half, Nat.min_eq_left (by omega)]
  exact ⟨mantissa, number.log2 + 1022, magnitude ▸ shape_ofMagnitude negative normal, shift.symm⟩

theorem ofNat_eq (number : Nat) : ofNat number = ofInt number := by
  rw [ofNat, ofInt, Int.natAbs_natCast, decide_eq_false (by omega)]

theorem sign_iff (negative : Bool) (nonzero : integer ≠ 0) :
    (integer = if negative then -(integer.natAbs : Int) else integer.natAbs) ↔
      negative = decide (integer < 0) := by
  cases negative with
  | false =>
      rw [if_neg Bool.false_ne_true, eq_comm (a := false), decide_eq_false_iff_not]
      omega
  | true =>
      rw [if_pos rfl, eq_comm (a := true), decide_eq_true_eq]
      omega

theorem whole?_ofInt (small : integer.natAbs < twoTo 53) :
    whole? (ofInt integer) = some integer := by
  by_cases zero : integer = 0
  · subst zero
    decide +kernel
  obtain ⟨mantissa, power, finite, units⟩ :=
    shape_ofRatio (decide (integer < 0)) (Int.natAbs_pos.mpr zero) small
  exact whole?_eq_some_iff.mpr ⟨_, mantissa, power, finite, units, (sign_iff _ zero).mpr rfl⟩

theorem toInteger_of_whole (stands : whole? double = some integer)
    (small : integer.natAbs < twoTo 53) : toInteger double = integer := by
  obtain ⟨negative, mantissa, power, finite, units, signed⟩ := whole?_eq_some_iff.mp stands
  obtain ⟨_, _, full, _⟩ := widths
  rw [full] at small
  rw [toInteger, finite]
  dsimp only
  rw [(wholePart_eq_iff mantissa power _).mpr units, ← signed, clampInteger, leastInteger,
    greatestInteger]
  omega

theorem toInteger_ofInt (small : integer.natAbs < twoTo 53) : toInteger (ofInt integer) = integer :=
  toInteger_of_whole (whole?_ofInt small) small

theorem isNotANumber_of_finite {negative : Bool} {mantissa power : Nat}
    (finite : shape double = .finite negative mantissa power) : isNotANumber double = false := by
  rw [isNotANumber, finite]
  rfl

theorem normal_unique {first second firstPower secondPower : Nat}
    (one : Normal first firstPower) (two : Normal second secondPower)
    (firstFull : twoTo 52 ≤ first) (secondFull : twoTo 52 ≤ second)
    (same : first * twoTo firstPower = second * twoTo secondPower) :
    first = second ∧ firstPower = secondPower := by
  have log {mantissa power : Nat} (normal : Normal mantissa power) (full : twoTo 52 ≤ mantissa) :
      (mantissa * twoTo power).log2 = 52 + power := by
    rw [log2_mul_twoTo (Nat.lt_of_lt_of_le (twoTo_pos 52) full),
      (Nat.log2_eq_iff (Nat.lt_of_lt_of_le (twoTo_pos 52) full).ne').mpr ⟨full, normal.digits⟩]
  have powers : firstPower = secondPower := by
    have logs :=
      (log one firstFull).symm.trans ((congrArg Nat.log2 same).trans (log two secondFull))
    omega
  subst powers
  exact ⟨Nat.eq_of_mul_eq_mul_right (twoTo_pos firstPower) same, rfl⟩

theorem leading_of_whole {mantissa power whole : Nat} (normal : Normal mantissa power)
    (positive : 0 < whole) (units : mantissa * twoTo power = whole * unitsPerOne) :
    twoTo 52 ≤ mantissa := by
  by_contra short
  have least := normal.leading (Nat.lt_of_not_ge short)
  subst least
  have large : twoTo 53 ≤ unitsPerOne := twoTo_mono (by decide)
  have more := Nat.mul_le_mul positive large
  have digits := normal.digits
  rw [← units, Nat.one_mul] at more
  have one : twoTo 0 = 1 := rfl
  rw [one] at more
  omega

theorem equal_of_whole (one : whole? double = some integer) (two : whole? other = some integer) :
    equal double other = true := by
  obtain ⟨negative, mantissa, power, finite, units, signed⟩ := whole?_eq_some_iff.mp one
  obtain ⟨otherNegative, otherMantissa, otherPower, otherFinite, otherUnits, otherSigned⟩ :=
    whole?_eq_some_iff.mp two
  rw [equal, isNotANumber_of_finite finite, isNotANumber_of_finite otherFinite]
  by_cases zero : integer = 0
  · subst zero
    have none {mantissa power : Nat}
        (units : mantissa * twoTo power = (0 : Int).natAbs * unitsPerOne) : mantissa = 0 := by
      rw [Int.natAbs_zero, Nat.zero_mul] at units
      exact (Nat.mul_eq_zero.mp units).resolve_right (twoTo_pos power).ne'
    obtain rfl := none units
    obtain rfl := none otherUnits
    simp [isZero, finite, otherFinite]
  · have positive := Int.natAbs_pos.mpr zero
    have normal := (pattern_of_shape finite).1
    have otherNormal := (pattern_of_shape otherFinite).1
    obtain ⟨rfl, rfl⟩ := normal_unique normal otherNormal
      (leading_of_whole normal positive units) (leading_of_whole otherNormal positive otherUnits)
      (units.trans otherUnits.symm)
    obtain rfl := ((sign_iff negative zero).mp signed).trans
      ((sign_iff otherNegative zero).mp otherSigned).symm
    simp [eq_of_shape finite otherFinite]

end Integers

end EventScript.Number
