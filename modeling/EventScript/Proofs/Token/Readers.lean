import Mathlib
import EventScript.Token.Piece

/-!
What is read where a token begins. One rule for each kind of token says on which characters the
reader depends; none of them looks beyond a comment mark, but for the percent sign: whether it opens
a variable hangs on all that is left of the line.
-/

namespace EventScript.Token

/-- How a token begins with a character, by kinds of tokens. -/
inductive Reading (operand : Bool) (first : Char) (after : List Char) : Piece → Prop
  | quoted {content : List Char} {more : Nat} (quote : first = '"' ∨ first = '\'')
      (body : quotedBody first after = some (content, more)) :
      Reading operand first after
        ⟨.text (String.ofList content), more, some (String.ofList content)⟩
  | reference (percent : first = '%') (opens : opensVariable after = true) :
      Reading operand first after
        ⟨.reference (String.ofList (after.takeWhile (· != '%'))),
          (after.takeWhile (· != '%')).length + 1, none⟩
  | stored {position : Nat} (under : first = '_') (again : after.head? = some '_')
      (closes : Text.indexIn ['_', '_'] after.tail = some position) :
      Reading operand first after
        ⟨.stored (String.ofList (after.tail.take position)), position + 3, none⟩
  | number (digit : first.isDigit = true) :
      Reading operand first after
        (numberPiece false ((first :: after).take (numberLength (first :: after)))
          (numberLength (first :: after) - 1))
  | negative (minus : first = '-') (due : operand = true) (digit : startsWithDigit after = true) :
      Reading operand first after
        (numberPiece true (after.take (numberLength after)) (numberLength after))
  | word {length more : Nat} (begins : Text.isLetter first = true ∨ first = '_')
      (single : first = '_' → after.head? ≠ some '_')
      (plain : wordLength (first :: after) - 1 = length)
      (whole : length +
        apostropheLength ((first :: after).take (wordLength (first :: after)))
          (after.drop length) = more) :
      Reading operand first after ⟨wordKind (String.ofList (first :: after.take more)), more, none⟩
  | symbol {symbol : Symbol} {more : Nat} (read : symbolAt first after = some (symbol, more))
      (unnamed : first = '%' → opensVariable after = false ∧
        (operand = true → startsWithWordChar after = false))
      (unsigned : first = '-' → operand = true → startsWithDigit after = false) :
      Reading operand first after ⟨.symbol symbol, more, none⟩

section Beginnings

variable {operand : Bool} {first : Char} {after : List Char} {piece : Piece}

theorem reading_of_pieceAt (found : pieceAt operand first after = .ok piece) :
    Reading operand first after piece := by
  unfold pieceAt at found
  split at found
  · rename_i quote
    simp only [Bool.or_eq_true, beq_iff_eq] at quote
    split at found
    · rename_i read
      cases found
      exact .quoted quote read
    · cases found
  split at found
  · rename_i name
    simp only [Bool.and_eq_true, beq_iff_eq] at name
    cases found
    exact .reference name.1 name.2
  rename_i unopened
  split at found
  · cases found
  rename_i undue
  split at found
  · rename_i under
    simp only [Bool.and_eq_true, beq_iff_eq] at under
    split at found
    · rename_i read
      cases found
      exact .stored under.1 under.2 read
    · cases found
  rename_i single
  split at found
  · rename_i digit
    cases found
    exact .number digit
  split at found
  · rename_i sign
    simp only [Bool.and_eq_true, beq_iff_eq] at sign
    cases found
    exact .negative sign.1.1 sign.1.2 sign.2
  rename_i unsigned
  split at found
  · rename_i begins
    simp only [Bool.or_eq_true, beq_iff_eq] at begins
    rw [← Except.ok.inj found]
    refine .word begins ?_ rfl rfl
    intro under again
    simp [under, again] at single
  · split at found
    · rename_i read
      cases found
      refine .symbol read ?_ ?_
      · intro percent
        simp only [percent, beq_self_eq_true, Bool.true_and, Bool.and_eq_true] at unopened undue
        exact ⟨by simpa using unopened, fun due => by simpa [due] using undue⟩
      · intro minus due
        simpa [minus, due] using unsigned
    · cases found

theorem wordKind_names (word : String) :
    wordKind word = .word word ∨ wordKind word = .null ∨
      (∃ truth, wordKind word = .bool truth) ∨ ∃ keyword, wordKind word = .keyword keyword := by
  unfold wordKind
  split <;> simp

theorem symbolAt_plain {found : Symbol × Nat} (read : symbolAt first after = some found) :
    first ≠ '"' ∧ first ≠ '\'' ∧ first ≠ '_' ∧ first.isDigit = false ∧
      Text.isLetter first = false ∧ isWordChar first = false := by
  unfold symbolAt at read
  split at read
  all_goals first
    | decide
    | cases read

theorem digit_plain (digit : first.isDigit = true) :
    first ≠ '"' ∧ first ≠ '\'' ∧ first ≠ '%' ∧ first ≠ '_' ∧ first ≠ '-' := by
  refine ⟨?_, ?_, ?_, ?_, ?_⟩ <;>
  · rintro rfl
    revert digit
    decide

theorem letter_plain (letter : Text.isLetter first = true) :
    first ≠ '"' ∧ first ≠ '\'' ∧ first ≠ '%' ∧ first ≠ '-' ∧ first.isDigit = false := by
  refine ⟨?_, ?_, ?_, ?_, ?_⟩
  iterate 4
    rintro rfl
    revert letter
    decide
  refine Bool.eq_false_iff.mpr fun digit => ?_
  simp only [Char.isDigit, Text.isLetter, Char.isAlpha, Char.isUpper, Char.isLower, Char.toNat,
    UInt32.le_iff_toNat_le, ge_iff_le, Bool.and_eq_true, Bool.or_eq_true,
    decide_eq_true_eq] at digit letter
  simp at digit letter
  omega

theorem pieceAt_of_reading (reading : Reading operand first after piece) :
    pieceAt operand first after = .ok piece := by
  unfold pieceAt
  cases reading with
  | quoted quote body =>
      rw [if_pos (by simpa using quote), body]
  | reference percent opens =>
      subst percent
      rw [if_neg (by decide), if_pos (by simpa using opens)]
  | stored under again closes =>
      subst under
      rw [if_neg (by decide), if_neg (by simp), if_neg (by simp), if_pos (by simpa using again),
        closes]
  | number digit =>
      obtain ⟨double, single, percent, under, minus⟩ := digit_plain digit
      rw [if_neg (by simp [double, single]), if_neg (by simp [percent]), if_neg (by simp [percent]),
        if_neg (by simp [under]), if_pos digit]
  | negative minus due digit =>
      subst minus
      rw [if_neg (by decide), if_neg (by simp), if_neg (by simp), if_neg (by simp),
        if_neg (by decide), if_pos (by simpa [due] using digit)]
  | word begins single plain whole =>
      subst plain whole
      have solid : first ≠ '"' ∧ first ≠ '\'' ∧ first ≠ '%' ∧ first ≠ '-' ∧
          first.isDigit = false := by
        rcases begins with letter | rfl
        · exact letter_plain letter
        · decide
      obtain ⟨double, quote, percent, minus, digit⟩ := solid
      rw [if_neg (by simp [double, quote]), if_neg (by simp [percent]), if_neg (by simp [percent]),
        if_neg (by simpa using single), if_neg (by simp [digit]), if_neg (by simp [minus]),
        if_pos (by simpa using begins)]
  | symbol read unnamed unsigned =>
      obtain ⟨double, quote, under, digit, letter, _⟩ := symbolAt_plain read
      have closed : ¬(first == '%' && opensVariable after) = true := by
        intro opens
        simp only [Bool.and_eq_true, beq_iff_eq] at opens
        rw [(unnamed opens.1).1] at opens
        cases opens.2
      have undue : ¬(first == '%' && operand && startsWithWordChar after) = true := by
        intro due
        simp only [Bool.and_eq_true, beq_iff_eq] at due
        rw [(unnamed due.1.1).2 due.1.2] at due
        cases due.2
      have noSign : ¬(first == '-' && operand && startsWithDigit after) = true := by
        intro sign
        simp only [Bool.and_eq_true, beq_iff_eq] at sign
        rw [unsigned sign.1.1 sign.1.2] at sign
        cases sign.2
      rw [if_neg (by simp [double, quote]), if_neg closed, if_neg undue, if_neg (by simp [under]),
        if_neg (by simp [digit]), if_neg noSign, if_neg (by simp [letter, under]), read]

end Beginnings

section Remarks

variable {rest : List Char}

theorem takeWhile_append_stop {goes : Char → Bool} {mark : Char} (stop : goes mark = false)
    (chars rest : List Char) : (chars ++ mark :: rest).takeWhile goes = chars.takeWhile goes := by
  induction chars with
  | nil => simp [stop]
  | cons char chars ih => simp [List.takeWhile_cons, ih]

inductive Quotes (quote : Char) : List Char → List Char → Nat → Prop
  | closing {rest : List Char} : quote ≠ '\\' → Quotes quote (quote :: rest) [] 1
  | escaped {char : Char} {rest content : List Char} {more : Nat} : Quotes quote rest content more →
      Quotes quote ('\\' :: char :: rest) (unescaped char :: content) (more + 2)
  | plain {char : Char} {rest content : List Char} {more : Nat} : char ≠ '\\' → char ≠ quote →
      Quotes quote rest content more → Quotes quote (char :: rest) (char :: content) (more + 1)

theorem quotedBody_eq_some_iff {quote : Char} {chars content : List Char} {more : Nat} :
    quotedBody quote chars = some (content, more) ↔ Quotes quote chars content more := by
  constructor
  · intro read
    have solid {char : Char} {later : List Char} (alone : char = '\\' → later = [] → False)
        (followed : ∀ next others, char = '\\' → later = next :: others → False) : char ≠ '\\' := by
      intro escape
      cases later with
      | nil => exact alone escape rfl
      | cons next others => exact followed next others escape rfl
    fun_induction quotedBody quote chars generalizing content more with
    | case1 => cases read
    | case2 => cases read
    | case3 escaped later ih =>
        obtain ⟨⟨inner, count⟩, found, same⟩ := Option.map_eq_some_iff.mp read
        cases same
        exact .escaped (ih found)
    | case4 char later alone followed ends =>
        obtain rfl := beq_iff_eq.mp ends
        cases read
        exact .closing (solid alone followed)
    | case5 char later alone followed goes ih =>
        obtain ⟨⟨inner, count⟩, found, same⟩ := Option.map_eq_some_iff.mp read
        cases same
        exact .plain (solid alone followed) (by simpa using goes) (ih found)
  · intro quotes
    induction quotes with
    | closing solid =>
        rw [quotedBody, if_pos (beq_self_eq_true quote)]
        · exact fun escape _ => solid escape
        · exact fun _ _ escape _ => solid escape
    | escaped _ ih => rw [quotedBody, ih]; rfl
    | plain solid goes _ ih =>
        rw [quotedBody, if_neg (by simpa using goes), ih]
        · rfl
        · exact fun escape _ => solid escape
        · exact fun _ _ escape _ => solid escape

theorem quotedBody_append (rest : List Char) {quote : Char} {chars content : List Char} {more : Nat}
    (read : quotedBody quote chars = some (content, more)) :
    quotedBody quote (chars ++ rest) = some (content, more) ∧ more ≤ chars.length := by
  rw [quotedBody_eq_some_iff] at read ⊢
  induction read with
  | closing solid => exact ⟨.closing solid, by simp⟩
  | escaped _ ih => exact ⟨.escaped ih.1, by simpa using ih.2⟩
  | plain solid goes _ ih => exact ⟨.plain solid goes ih.1, by simpa using ih.2⟩

theorem indexIn_append (rest : List Char) {pattern chars : List Char} {position : Nat}
    (found : Text.indexIn pattern chars = some position) :
    Text.indexIn pattern (chars ++ rest) = some position ∧
      position + pattern.length ≤ chars.length := by
  induction chars generalizing position with
  | nil =>
      cases pattern with
      | nil =>
          cases found
          cases rest <;> simp [Text.indexIn]
      | cons => simp [Text.indexIn] at found
  | cons char chars ih =>
      rw [Text.indexIn] at found
      rw [List.cons_append, Text.indexIn]
      by_cases here : pattern.isPrefixOf (char :: chars) = true
      · rw [if_pos here] at found
        cases found
        have start := List.isPrefixOf_iff_prefix.mp here
        have longer : pattern.isPrefixOf (char :: (chars ++ rest)) = true :=
          List.isPrefixOf_iff_prefix.mpr (start.trans (List.prefix_append (char :: chars) rest))
        exact ⟨if_pos longer, by simpa using start.length_le⟩
      · rw [if_neg here] at found
        obtain ⟨later, sooner, rfl⟩ := Option.map_eq_some_iff.mp found
        obtain ⟨again, within⟩ := ih sooner
        have still : ¬pattern.isPrefixOf (char :: (chars ++ rest)) = true := by
          intro start
          have both := List.prefix_append (char :: chars) rest
          have fits : pattern.length ≤ (char :: chars).length := by
            rw [List.length_cons]
            omega
          exact here (List.isPrefixOf_iff_prefix.mpr
            (List.prefix_of_prefix_length_le (List.isPrefixOf_iff_prefix.mp start) both fits))
        rw [if_neg still, again]
        refine ⟨rfl, ?_⟩
        rw [List.length_cons]
        omega

theorem startsWithWordChar_remark (after : List Char) :
    startsWithWordChar (after ++ '#' :: rest) = startsWithWordChar after := by
  cases after <;> rfl

theorem startsWithDigit_remark (after : List Char) :
    startsWithDigit (after ++ '#' :: rest) = startsWithDigit after := by
  cases after <;> rfl

theorem numberLength_le (chars : List Char) : numberLength chars ≤ chars.length := by
  have whole := (List.takeWhile_prefix Char.isDigit (l := chars)).length_le
  unfold numberLength
  dsimp only
  split
  · rename_i fraction split
    have places := (List.takeWhile_prefix Char.isDigit (l := fraction)).length_le
    have left := congrArg List.length split
    rw [List.length_drop, List.length_cons] at left
    split <;> omega
  · exact whole

theorem numberLength_stop {mark : Char} (digit : mark.isDigit = false) (point : mark ≠ '.')
    (chars rest : List Char) : numberLength (chars ++ mark :: rest) = numberLength chars := by
  have digits (chars : List Char) :
      (chars ++ mark :: rest).takeWhile Char.isDigit = chars.takeWhile Char.isDigit :=
    takeWhile_append_stop digit chars rest
  have whole := (List.takeWhile_prefix Char.isDigit (l := chars)).length_le
  unfold numberLength
  dsimp only
  rw [digits, List.drop_append_of_le_length whole]
  cases chars.drop (chars.takeWhile Char.isDigit).length with
  | nil => simp [point]
  | cons first fraction =>
      by_cases point : first = '.'
      · subst point
        simp [digits]
      · simp [point]

theorem numeral_stop {mark : Char} (digit : mark.isDigit = false) (point : mark ≠ '.')
    (chars rest : List Char) : (chars ++ mark :: rest).take (numberLength (chars ++ mark :: rest)) =
      chars.take (numberLength chars) := by
  rw [numberLength_stop digit point, List.take_append_of_le_length (numberLength_le chars)]

theorem wordLength_le (chars : List Char) : wordLength chars ≤ chars.length := by
  fun_induction wordLength chars <;> simp_all

theorem wordLength_remark (chars : List Char) :
    wordLength (chars ++ '#' :: rest) = wordLength chars := by
  induction chars with
  | nil => rfl
  | cons char chars ih =>
      simp only [List.cons_append, wordLength, ih]
      cases chars <;> rfl

theorem apostropheLength_le (word after : List Char) :
    apostropheLength word after ≤ after.length := by
  unfold apostropheLength
  split
  · split
    · split <;> simp
    · simp
  · simp

theorem apostropheLength_remark (word after : List Char) :
    apostropheLength word (after ++ '#' :: rest) = apostropheLength word after := by
  unfold apostropheLength
  split
  · match after with
    | [] => rfl
    | [mark] =>
        by_cases quote : mark = '\''
        · subst quote
          rfl
        · simp [quote]
    | mark :: letter :: after =>
        by_cases quote : mark = '\''
        · subst quote
          simp [startsWithWordChar_remark]
        · simp [quote]
  · rfl

theorem symbolAt_le {first : Char} {after : List Char} {symbol : Symbol} {more : Nat}
    (found : symbolAt first after = some (symbol, more)) : more ≤ after.length := by
  unfold symbolAt at found
  split at found <;> cases found <;> simp

theorem symbolAt_cons (first next : Char) (rest other : List Char) :
    symbolAt first (next :: rest) = symbolAt first (next :: other) := by
  conv_lhs => unfold symbolAt
  split
  case h_30 => rw [symbolAt] <;> (intros; contradiction)
  all_goals rename_i heads
  all_goals first
    | rfl
    | (cases heads; rfl)
    | (rw [symbolAt] <;> simp_all)

theorem symbolAt_stop {next : Char} (equal : next ≠ '=') (arrow : next ≠ '>') (first : Char)
    (rest : List Char) : symbolAt first (next :: rest) = symbolAt first [] := by
  conv_lhs => unfold symbolAt
  split
  case h_30 => rw [symbolAt] <;> (intros; contradiction)
  all_goals first
    | rfl
    | next heads => cases heads; contradiction

theorem symbolAt_remark (first : Char) (after : List Char) :
    symbolAt first (after ++ '#' :: rest) = symbolAt first after := by
  cases after with
  | nil => exact symbolAt_stop (by decide) (by decide) first rest
  | cons next after => exact symbolAt_cons first next _ after

def startsName : List Char → Bool
  | '_' :: '_' :: _ => false
  | first :: _ => isWordChar first
  | [] => false

theorem opensVariable_eq (after : List Char) :
    opensVariable after = (startsName after && after.contains '%') := by
  unfold opensVariable startsName
  split <;> simp

theorem startsName_stop {mark : Char} (other : isWordChar mark = false) (after rest : List Char) :
    startsName (after ++ mark :: rest) = startsName after := by
  have plain : mark ≠ '_' := by
    rintro rfl
    exact absurd other (by decide)
  match after with
  | [] => simp [startsName, plain, other]
  | [first] => simp [startsName, plain]
  | first :: second :: after =>
      by_cases both : first = '_' ∧ second = '_'
      · obtain ⟨rfl, rfl⟩ := both
        rfl
      · rw [List.cons_append, List.cons_append, startsName, startsName]
        · simpa using both
        · simpa using both

theorem startsName_remark (after : List Char) :
    startsName (after ++ '#' :: rest) = startsName after :=
  startsName_stop rfl after rest

theorem takeWhile_lt {goes : Char → Bool} {chars : List Char} {mark : Char} (member : mark ∈ chars)
    (stop : goes mark = false) : (chars.takeWhile goes).length < chars.length := by
  obtain ⟨front, back, rfl⟩ := List.append_of_mem member
  have within := (List.takeWhile_prefix goes (l := front)).length_le
  rw [takeWhile_append_stop stop, List.length_append, List.length_cons]
  omega

theorem takeWhile_append_of_mem {goes : Char → Bool} {chars : List Char} {mark : Char}
    (member : mark ∈ chars) (stop : goes mark = false) (rest : List Char) :
    (chars ++ rest).takeWhile goes = chars.takeWhile goes := by
  obtain ⟨front, back, rfl⟩ := List.append_of_mem member
  rw [List.append_assoc, List.cons_append, takeWhile_append_stop stop, takeWhile_append_stop stop]

namespace Reading

variable {operand : Bool} {first : Char} {after : List Char} {piece : Piece}

theorem more_le (reading : Reading operand first after piece) : piece.more ≤ after.length := by
  cases reading with
  | quoted quote body => exact (quotedBody_append [] body).2
  | reference percent opens =>
      rw [opensVariable_eq, Bool.and_eq_true, List.contains_iff_mem] at opens
      exact takeWhile_lt opens.2 (by decide)
  | stored under again closes =>
      have within := (indexIn_append [] closes).2
      rw [List.length_tail] at within
      have two : (['_', '_'] : List Char).length = 2 := rfl
      change _ + 3 ≤ _
      omega
  | number digit =>
      have within := numberLength_le (first :: after)
      rw [List.length_cons] at within
      change numberLength (first :: after) - 1 ≤ _
      omega
  | negative minus due digit => exact numberLength_le after
  | @word length more begins single plain whole =>
      have within := wordLength_le (first :: after)
      have later := apostropheLength_le ((first :: after).take (wordLength (first :: after)))
        (after.drop length)
      rw [List.length_cons] at within
      rw [List.length_drop] at later
      change more ≤ _
      omega
  | symbol read unnamed unsigned => exact symbolAt_le read

/-- A remark behind it does not change how a token begins, unless it closes a variable. -/
theorem remark (reading : Reading operand first after piece) (rest : List Char)
    (same : first = '%' → opensVariable (after ++ '#' :: rest) = opensVariable after) :
    Reading operand first (after ++ '#' :: rest) piece := by
  cases reading with
  | quoted quote body => exact .quoted quote (quotedBody_append _ body).1
  | reference percent opens =>
      have closes := opens
      rw [opensVariable_eq, Bool.and_eq_true, List.contains_iff_mem] at closes
      have name : (after ++ '#' :: rest).takeWhile (· != '%') = after.takeWhile (· != '%') :=
        takeWhile_append_of_mem closes.2 (by decide) _
      rw [← name]
      exact .reference percent ((same percent).trans opens)
  | stored under again closes =>
      cases after with
      | nil => cases again
      | cons next after =>
          obtain ⟨sought, within⟩ := indexIn_append ('#' :: rest) closes
          rw [← List.take_append_of_le_length (Nat.le_of_add_right_le within)]
          exact .stored under again sought
  | number digit =>
      have length := numberLength_stop rfl (by decide : '#' ≠ '.') (first :: after) rest
      have numeral := numeral_stop rfl (by decide : '#' ≠ '.') (first :: after) rest
      rw [← numeral, ← length]
      exact .number digit
  | negative minus due digit =>
      have length := numberLength_stop rfl (by decide : '#' ≠ '.') after rest
      have numeral := numeral_stop rfl (by decide : '#' ≠ '.') after rest
      rw [← numeral, ← length]
      exact .negative minus due (by rwa [startsWithDigit_remark])
  | @word length more begins single plain whole =>
      have word := wordLength_le (first :: after)
      have later := apostropheLength_le ((first :: after).take (wordLength (first :: after)))
        (after.drop length)
      have still : wordLength (first :: (after ++ '#' :: rest)) = wordLength (first :: after) :=
        wordLength_remark (first :: after)
      rw [List.length_cons] at word
      rw [List.length_drop] at later
      have taken : (first :: (after ++ '#' :: rest)).take (wordLength (first :: after)) =
          (first :: after).take (wordLength (first :: after)) := by
        rw [← List.cons_append, List.take_append_of_le_length (by simpa using word)]
      have letters : (after ++ '#' :: rest).take more = after.take more :=
        List.take_append_of_le_length (by omega)
      rw [← letters]
      have again : wordLength (first :: (after ++ '#' :: rest)) - 1 = length := by
        rw [still]
        exact plain
      refine .word begins ?_ again ?_
      · intro under
        cases after with
        | nil => simp
        | cons next after => exact single under
      · rw [still, taken, List.drop_append_of_le_length (by omega), apostropheLength_remark]
        exact whole
  | symbol read unnamed unsigned =>
      refine .symbol (by rwa [symbolAt_remark]) ?_ ?_
      · intro percent
        rw [same percent, startsWithWordChar_remark]
        exact unnamed percent
      · rwa [startsWithDigit_remark]

end Reading

end Remarks

end EventScript.Token
