import EventScript.Proofs.Text.Search
import EventScript.Proofs.Token.Remarks

/-!
Places in a line. A reader of tokens comes to some places of a line and not to others, and what it
has read when it comes to a minus sign does not hang on what stands behind the sign. There only two
things count for it: whether a word would go on, and whether a variable would be closed.
-/

namespace EventScript.Token

section Readers

variable {chars rest other : List Char}

theorem quotedBody_take {quote : Char} {content : List Char} {more : Nat}
    (read : quotedBody quote chars = some (content, more)) :
    quotedBody quote (chars.take more) = some (content, more) := by
  rw [quotedBody_eq_some_iff] at read ⊢
  induction read with
  | closing solid => exact .closing solid
  | escaped _ ih => exact .escaped ih
  | plain solid goes _ ih => exact .plain solid goes ih

theorem quotedBody_behind {quote : Char} {content : List Char} {more : Nat} (other : List Char)
    (read : quotedBody quote (chars ++ rest) = some (content, more))
    (within : more ≤ chars.length) :
    quotedBody quote (chars ++ other) = some (content, more) := by
  have taken := quotedBody_take read
  rw [List.take_append_of_le_length within] at taken
  have again := (quotedBody_append (chars.drop more ++ other) taken).1
  rwa [← List.append_assoc, List.take_append_drop] at again

theorem indexIn_take {pattern : List Char} {position : Nat}
    (found : Text.indexIn pattern chars = some position) :
    Text.indexIn pattern (chars.take (position + pattern.length)) = some position := by
  have lies := (Text.indexIn_some found).1
  have inside : Text.LiesAt pattern (chars.take (position + pattern.length)) position := by
    have room := lies.inside
    refine ⟨by rw [List.length_take]; omega, ?_⟩
    rw [List.drop_take, Nat.add_sub_cancel_left, List.take_take, Nat.min_self]
    exact lies.same
  cases first : Text.indexIn pattern (chars.take (position + pattern.length)) with
  | none => exact absurd inside.isInfix (Text.indexIn_none first)
  | some place =>
      have again := (indexIn_append (chars.drop (position + pattern.length)) first).1
      rw [List.take_append_drop, found] at again
      exact again.symm

theorem indexIn_behind {pattern : List Char} {position : Nat} (other : List Char)
    (found : Text.indexIn pattern (chars ++ rest) = some position)
    (within : position + pattern.length ≤ chars.length) :
    Text.indexIn pattern (chars ++ other) = some position := by
  have taken := indexIn_take found
  rw [List.take_append_of_le_length within] at taken
  have again := (indexIn_append (chars.drop (position + pattern.length) ++ other) taken).1
  rwa [← List.append_assoc, List.take_append_drop] at again

theorem wordLength_minus (chars : List Char)
    (apart : ∀ next ∈ other.head?, Text.isLetterOrNumeral next = false)
    (short : wordLength (chars ++ '-' :: rest) ≤ chars.length) :
    wordLength (chars ++ '-' :: other) = wordLength (chars ++ '-' :: rest) := by
  induction chars with
  | nil =>
      have ended : wordLength ('-' :: other) = 0 := by
        have hyphen : isWordChar '-' = false := by decide
        cases other with
        | nil => rfl
        | cons next other => simp [wordLength, hyphen, apart next rfl]
      rw [List.nil_append] at short ⊢
      rw [List.nil_append, ended]
      exact (Nat.eq_zero_of_le_zero short).symm
  | cons char chars ih =>
      simp only [List.cons_append, wordLength, List.length_cons] at short ⊢
      split
      · next inside =>
        rw [if_pos inside] at short
        rw [ih (by omega)]
      · next outside =>
        rw [if_neg outside] at short
        split
        · next hyphen =>
          rw [if_pos hyphen] at short
          cases chars with
          | nil => rfl
          | cons next chars =>
              simp only [List.cons_append] at short ih ⊢
              split
              · next goes =>
                rw [if_pos goes] at short
                rw [ih (by omega)]
              · rfl
        · rfl

theorem apostropheLength_minus (word chars rest other : List Char) :
    apostropheLength word (chars ++ '-' :: rest) =
      apostropheLength word (chars ++ '-' :: other) := by
  unfold apostropheLength
  split
  · match chars with
    | [] => rfl
    | [mark] =>
        by_cases quote : mark = '\''
        · subst quote
          rfl
        · simp [quote]
    | mark :: letter :: chars =>
        by_cases quote : mark = '\''
        · subst quote
          cases chars <;> rfl
        · simp [quote]
  · rfl

theorem opensVariable_minus (percent : '%' ∈ other ↔ '%' ∈ rest) :
    opensVariable (chars ++ '-' :: other) = opensVariable (chars ++ '-' :: rest) := by
  have marks : (chars ++ '-' :: other).contains '%' = (chars ++ '-' :: rest).contains '%' := by
    rw [Bool.eq_iff_iff, List.contains_iff_mem, List.contains_iff_mem]
    simp [percent]
  rw [opensVariable_eq, opensVariable_eq, marks, startsName_stop (by decide),
    startsName_stop (by decide)]

variable {operand : Bool} {first : Char} {before : List Char} {piece : Piece}

theorem mem_of_takeWhile_lt {mark : Char} {rest : List Char}
    (ended : ((before ++ rest).takeWhile (· != mark)).length < before.length) : mark ∈ before := by
  by_contra none
  have whole : (before ++ rest).takeWhile (· != mark) = before ++ rest.takeWhile (· != mark) :=
    List.takeWhile_append_of_pos fun char member =>
      bne_iff_ne.mpr fun same => none (same ▸ member)
  have longer := congrArg List.length whole
  rw [List.length_append] at longer
  omega

theorem Reading.word_minus {length more : Nat} (begins : Text.isLetter first = true ∨ first = '_')
    (single : first = '_' → (before ++ '-' :: rest).head? ≠ some '_')
    (plain : wordLength (first :: (before ++ '-' :: rest)) - 1 = length)
    (whole : length + apostropheLength ((first :: (before ++ '-' :: rest)).take
      (wordLength (first :: (before ++ '-' :: rest)))) ((before ++ '-' :: rest).drop length) = more)
    (within : more ≤ before.length)
    (apart : ∀ next ∈ other.head?, Text.isLetterOrNumeral next = false) :
    Reading operand first (before ++ '-' :: other)
      ⟨wordKind (String.ofList (first :: (before ++ '-' :: rest).take more)), more, none⟩ := by
  have short : wordLength (first :: (before ++ '-' :: rest)) ≤ (first :: before).length := by
    rw [List.length_cons]
    omega
  have word : wordLength (first :: (before ++ '-' :: other)) =
      wordLength (first :: (before ++ '-' :: rest)) :=
    wordLength_minus (first :: before) apart short
  have name (rest : List Char) : (before ++ '-' :: rest).take more = before.take more :=
    List.take_append_of_le_length within
  have behind (rest : List Char) :
      (before ++ '-' :: rest).drop length = before.drop length ++ '-' :: rest :=
    List.drop_append_of_le_length (by omega)
  have spelled (others : List Char) : (first :: (before ++ '-' :: others)).take
      (wordLength (first :: (before ++ '-' :: rest))) =
        (first :: before).take (wordLength (first :: (before ++ '-' :: rest))) :=
    List.take_append_of_le_length short
  rw [name, ← name other]
  rw [spelled, behind, apostropheLength_minus _ _ rest other, ← behind, ← spelled other,
    ← word] at whole
  refine .word begins (fun under => ?_) (word ▸ plain) whole
  have follows := single under
  cases before with
  | nil => simp
  | cons next before => exact follows

/-- A token that ends before a minus sign is read alike whatever is behind the sign. -/
theorem Reading.minus (reading : Reading operand first (before ++ '-' :: rest) piece)
    (within : piece.more ≤ before.length) (percent : '%' ∈ other ↔ '%' ∈ rest)
    (apart : ∀ next ∈ other.head?, Text.isLetterOrNumeral next = false) :
    Reading operand first (before ++ '-' :: other) piece := by
  have digits (rest : List Char) :
      startsWithDigit (before ++ '-' :: rest) = startsWithDigit before := by
    cases before <;> rfl
  have letters (rest : List Char) :
      startsWithWordChar (before ++ '-' :: rest) = startsWithWordChar before := by
    cases before <;> rfl
  cases reading with
  | quoted quote body => exact .quoted quote (quotedBody_behind _ body within)
  | reference mark opens =>
      have closes : '%' ∈ before := mem_of_takeWhile_lt within
      have name (rest : List Char) : (before ++ rest).takeWhile (· != '%') =
          before.takeWhile (· != '%') := takeWhile_append_of_mem closes (by decide) rest
      rw [name, ← name ('-' :: other)]
      exact .reference mark (by rwa [opensVariable_minus percent])
  | @stored position under again closes =>
      change position + 3 ≤ _ at within
      cases before with
      | nil => simp at within
      | cons next before =>
          rw [List.length_cons] at within
          simp only [List.cons_append, List.tail_cons] at closes ⊢
          have found := indexIn_behind ('-' :: other) closes (by change position + 2 ≤ _; omega)
          have name (rest : List Char) : (before ++ rest).take position = before.take position :=
            List.take_append_of_le_length (by omega)
          rw [name, ← name ('-' :: other)]
          exact .stored under again found
  | number digit =>
      have length (rest : List Char) := numberLength_stop rfl (by decide : '-' ≠ '.')
        (first :: before) rest
      have numeral (rest : List Char) := numeral_stop rfl (by decide : '-' ≠ '.')
        (first :: before) rest
      rw [← List.cons_append, numeral rest, length rest, ← numeral other, ← length other]
      exact .number digit
  | negative minus due digit =>
      have length (rest : List Char) := numberLength_stop rfl (by decide : '-' ≠ '.') before rest
      have numeral (rest : List Char) := numeral_stop rfl (by decide : '-' ≠ '.') before rest
      rw [numeral rest, length rest, ← numeral other, ← length other]
      exact .negative minus due (by rwa [digits] at digit ⊢)
  | word begins single plain whole => exact .word_minus begins single plain whole within apart
  | symbol read unnamed unsigned =>
      refine .symbol ?_ ?_ ?_
      · cases before with
        | nil => exact (symbolAt_cons first '-' other rest).trans read
        | cons next before => exact (symbolAt_cons first next _ _).trans read
      · intro mark
        rw [opensVariable_minus percent, letters, ← letters rest]
        exact unnamed mark
      · rw [digits, ← digits rest]
        exact unsigned

end Readers

/-- What the reader of a line has in front of it, and whether an operand is due and a blank came
before. -/
structure Place where
  operand : Bool
  spaced : Bool
  rest : List Char

/-- The reader comes from one place to the other, reading these tokens on the way. -/
inductive Reads (line : Nat) : Place → List Token → Place → Prop
  | here (place : Place) : Reads line place [] place
  | blank {operand spaced : Bool} {first : Char} {after : List Char} {tokens : List Token}
      {last : Place} (unmarked : first ≠ '#') (blank : Text.isBlank first = true)
      (reads : Reads line ⟨operand, true, after⟩ tokens last) :
      Reads line ⟨operand, spaced, first :: after⟩ tokens last
  | piece {operand spaced : Bool} {first : Char} {after : List Char} {piece : Piece}
      {tokens : List Token} {last : Place} (unmarked : first ≠ '#')
      (solid : Text.isBlank first = false) (found : pieceAt operand first after = .ok piece)
      (reads : Reads line ⟨piece.kind.startsOperand, false, after.drop piece.more⟩ tokens last) :
      Reads line ⟨operand, spaced, first :: after⟩
        (⟨piece.kind, piece.content.getD (String.ofList (first :: after.take piece.more)), line,
          spaced⟩ :: tokens) last

section Places

variable {line : Nat} {start last : Place} {front : List Token}

theorem Reads.length_le (reads : Reads line start front last) :
    last.rest.length ≤ start.rest.length := by
  induction reads with
  | here place => exact Nat.le_refl _
  | blank unmarked blank reads ih => exact Nat.le_succ_of_le ih
  | piece unmarked solid found reads ih =>
      rw [List.length_drop] at ih
      rw [List.length_cons]
      omega

theorem Reads.scanBody_eq (reads : Reads line start front last) :
    scanBody line start.operand start.spaced start.rest =
      (scanBody line last.operand last.spaced last.rest).map
        fun (tokens, trailing) => (front ++ tokens, trailing) := by
  induction reads with
  | @here place =>
      cases scanBody line place.operand place.spaced place.rest <;> rfl
  | @blank operand spaced first after tokens last unmarked blank reads ih =>
      rw [scanBody, if_neg (by simpa using unmarked), if_pos blank]
      exact ih
  | @piece operand spaced first after piece tokens last unmarked solid found reads ih =>
      rw [scanBody_piece unmarked solid found, ih]
      cases scanBody line last.operand last.spaced last.rest <;> rfl

theorem Reads.minus {operand spaced due blank : Bool} {before rest other : List Char}
    (reads : Reads line ⟨operand, spaced, before ++ '-' :: rest⟩ front ⟨due, blank, '-' :: rest⟩)
    (percent : '%' ∈ other ↔ '%' ∈ rest)
    (apart : ∀ next ∈ other.head?, Text.isLetterOrNumeral next = false) :
    Reads line ⟨operand, spaced, before ++ '-' :: other⟩ front ⟨due, blank, '-' :: other⟩ := by
  generalize starting : Place.mk operand spaced (before ++ '-' :: rest) = start at reads
  generalize ending : Place.mk due blank ('-' :: rest) = last at reads
  induction reads generalizing operand spaced before with
  | here place =>
      subst ending
      obtain ⟨rfl, rfl, source⟩ := Place.mk.inj starting
      obtain rfl : before = [] := by simpa using source
      exact .here _
  | blank unmarked blank reads ih =>
      obtain ⟨rfl, rfl, source⟩ := Place.mk.inj starting
      cases before with
      | nil =>
          cases source
          exact absurd blank (by decide)
      | cons next before =>
          rw [List.cons_append] at source
          cases source
          exact .blank unmarked blank (ih rfl ending)
  | @piece operand spaced first after piece tokens last unmarked solid found reads ih =>
      obtain ⟨rfl, rfl, source⟩ := Place.mk.inj starting
      have reach := reads.length_le
      rw [← ending] at reach
      dsimp only at reach
      cases before with
      | nil =>
          cases source
          rw [List.length_drop, List.length_cons] at reach
          omega
      | cons next before =>
          rw [List.cons_append] at source
          cases source
          have within : piece.more ≤ before.length := by
            rw [List.length_drop, List.length_append, List.length_cons] at reach
            omega
          have again := pieceAt_of_reading
            ((reading_of_pieceAt found).minus within percent apart)
          have later (rest : List Char) : (before ++ '-' :: rest).drop piece.more =
              before.drop piece.more ++ '-' :: rest := List.drop_append_of_le_length within
          have name (rest : List Char) : (before ++ '-' :: rest).take piece.more =
              before.take piece.more := List.take_append_of_le_length within
          have rest := ih (by rw [later]) ending
          rw [← later] at rest
          rw [name, ← name other]
          exact .piece unmarked solid again rest

end Places

end EventScript.Token
