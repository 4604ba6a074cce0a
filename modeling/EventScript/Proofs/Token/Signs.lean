import EventScript.Proofs.Number.Literal
import EventScript.Proofs.Token.Places

/-!
A minus sign before a literal. Where an operand is due, a sign that is right before a literal is
read as part of it; with a blank between, or where no operand is due, the sign is its own token.
-/

namespace EventScript.Token

/-- A decimal literal that is not the beginning of a longer one. -/
structure IsLiteral (literal behind : List Char) : Prop where
  digit : startsWithDigit literal = true
  whole : numberLength (literal ++ behind) = literal.length

/-- The reader of a line comes to the place behind its start; `due` says whether an operand is due
there. -/
def Reached (start rest : List Char) (due : Bool) : Prop :=
  ∃ spaced, ∀ line, ∃ front,
    Reads line ⟨true, true, (measure (start ++ rest)).2⟩ front ⟨due, spaced, rest⟩

section Literals

variable {line : Nat} {operand spaced : Bool} {literal behind : List Char}

theorem IsLiteral.starts (whole : IsLiteral literal behind) :
    startsWithDigit (literal ++ behind) = true := by
  have digit := whole.digit
  cases literal with
  | nil => cases digit
  | cons first literal => exact digit

theorem IsLiteral.value (whole : IsLiteral literal behind) :
    ∃ value, Number.readDecimal? false literal = some value := by
  have reads := Number.readDecimal?_numberLength false whole.starts
  rw [whole.whole, List.take_left] at reads
  exact Option.isSome_iff_exists.mp reads

theorem numberPiece_eq {value : Double} (read : Number.readDecimal? false literal = some value)
    (negative : Bool) (more : Nat) :
    numberPiece negative literal more =
      ⟨.number (if negative then -value else value), more, none⟩ := by
  rw [numberPiece]
  cases negative with
  | false => rw [read]; rfl
  | true => rw [Number.readDecimal?_negative, read]; rfl

def prepend (front : List Token) : List Token × Bool → List Token × Bool :=
  fun (tokens, trailing) => (front ++ tokens, trailing)

theorem scanBody_literal (whole : IsLiteral literal behind) {value : Double}
    (read : Number.readDecimal? false literal = some value) :
    scanBody line operand spaced (literal ++ behind) = (scanBody line false false behind).map
      (prepend [⟨.number value, String.ofList literal, line, spaced⟩]) := by
  obtain ⟨digit, length⟩ := whole
  cases literal with
  | nil => cases digit
  | cons first literal =>
      have digit : first.isDigit = true := digit
      have unmarked : first ≠ '#' := by
        rintro rfl
        exact absurd digit (by decide)
      have found := pieceAt_of_reading
        (.number digit : Reading operand first (literal ++ behind) _)
      rw [← List.cons_append, length, List.take_left, numberPiece_eq read] at found
      rw [List.cons_append, scanBody_piece unmarked (Number.isBlank_digit digit) found]
      simp only [List.length_cons, Nat.add_sub_cancel, List.drop_left, List.take_left]
      rfl

theorem scanBody_signed (whole : IsLiteral literal behind) {value : Double}
    (read : Number.readDecimal? false literal = some value) :
    scanBody line true spaced ('-' :: (literal ++ behind)) = (scanBody line false false behind).map
      (prepend [⟨.number (-value), String.ofList ('-' :: literal), line, spaced⟩]) := by
  have found := pieceAt_of_reading
    (.negative rfl rfl whole.starts : Reading true '-' (literal ++ behind) _)
  rw [whole.whole, List.take_left, numberPiece_eq read] at found
  rw [scanBody_piece (by decide) (by decide) found]
  simp only [List.drop_left, List.take_left]
  rfl

theorem scanBody_sign {after : List Char} (plain : symbolAt '-' after = some (.minus, 0))
    (unsigned : operand = true → startsWithDigit after = false) :
    scanBody line operand spaced ('-' :: after) = (scanBody line true false after).map
      (prepend [⟨.symbol .minus, "-", line, spaced⟩]) := by
  have found := pieceAt_of_reading
    (Reading.symbol plain (fun percent => absurd percent (by decide)) fun _ => unsigned)
  exact scanBody_piece (by decide) (by decide) found

theorem symbolAt_minus {after : List Char} (apart : ∀ next ∈ after.head?, next ≠ '=' ∧ next ≠ '>') :
    symbolAt '-' after = some (.minus, 0) := by
  cases after with
  | nil => rfl
  | cons next after =>
      obtain ⟨equal, arrow⟩ := apart next rfl
      exact symbolAt_stop equal arrow '-' after

variable (line operand spaced) in
theorem scanBody_apart (whole : IsLiteral literal behind) {value : Double}
    (read : Number.readDecimal? false literal = some value) (blank : Bool)
    (alone : blank = true ∨ operand = false) :
    scanBody line operand spaced ('-' :: ((if blank then [' '] else []) ++ (literal ++ behind))) =
      (scanBody line false false behind).map
        (prepend [⟨.symbol .minus, "-", line, spaced⟩,
          ⟨.number value, String.ofList literal, line, blank⟩]) := by
  have plain : symbolAt '-' ((if blank then [' '] else []) ++ (literal ++ behind)) =
      some (.minus, 0) := by
    apply symbolAt_minus
    intro next head
    have digit := whole.digit
    cases blank with
    | true =>
        cases head
        decide
    | false =>
        cases literal with
        | nil => cases digit
        | cons first literal =>
            cases head
            constructor <;>
            · rintro rfl
              exact Bool.false_ne_true digit
  have unsigned : operand = true →
      startsWithDigit ((if blank then [' '] else []) ++ (literal ++ behind)) = false := by
    rintro rfl
    rcases alone with rfl | due
    · rfl
    · cases due
  have spacing : scanBody line true false ((if blank then [' '] else []) ++ (literal ++ behind)) =
      scanBody line true blank (literal ++ behind) := by
    cases blank with
    | false => rfl
    | true =>
        rw [scanBody.eq_def]
        rfl
  rw [scanBody_sign plain unsigned, spacing, scanBody_literal whole read]
  cases scanBody line false false behind <;> rfl

end Literals

section Scripts

variable {line : Nat} {due blank : Bool} {start rest : List Char} {front : List Token}

theorem Reads.loud {first last : Place} (reads : Reads line first front last)
    (sign : last.rest = '-' :: rest) : isSilent first.rest = false := by
  cases reads with
  | here =>
      rw [sign]
      rfl
  | blank unmarked blank reads => simpa [isSilent] using unmarked
  | piece unmarked solid found reads => simpa [isSilent] using unmarked

theorem readRow_reached {levels : List Nat} {spaced : Bool}
    (reads : Reads line ⟨true, true, (measure (start ++ '-' :: rest)).2⟩ front
      ⟨due, blank, '-' :: rest⟩) :
    readRow line levels spaced (start ++ '-' :: rest) =
      match indentTo (measure start).1 levels with
      | .error fault => .error ⟨fault, line⟩
      | .ok (kinds, kept) =>
        match scanBody line due blank ('-' :: rest) with
        | .error fault => .error ⟨fault, line⟩
        | .ok (tokens, trailing) =>
          .ok ⟨layoutTokens line spaced kinds ++ (front ++ tokens), kept, trailing, false⟩ := by
  have loud := reads.loud rfl
  have body := reads.scanBody_eq
  have margin := measure_stop (rfl : isMargin '-' = false) start rest
  simp only [readRow, margin] at loud body ⊢
  rw [loud, body]
  cases indentTo (measure start).1 levels with
  | error fault => rfl
  | ok opened =>
      dsimp only
      cases scanBody line due blank ('-' :: rest) <;> rfl

theorem scan_lines (above below : String) (boundary : ∀ char ∈ above.toList.getLast?, char = '\n')
    (ends : ∀ char ∈ below.toList.head?, char = '\n') :
    ∃ earlier later, ∀ middle : String, (∀ char ∈ middle.toList, char ≠ '\n') →
      scan (above ++ middle ++ below) =
        scanLines 1 [0] true (earlier ++ middle.toList :: later) := by
  have bounded : ∀ char ∈ above.toList.getLast?, (char == '\n') = true := by simpa using boundary
  obtain ⟨earlier, _, split⟩ := Text.piecesBy_boundary above.toList bounded
  have single {middle : String} (whole : ∀ char ∈ middle.toList, char ≠ '\n') :
      Text.piecesBy (· == '\n') middle.toList = [middle.toList] :=
    Text.piecesBy_single (by simpa using whole)
  cases rest : below.toList with
  | nil =>
      refine ⟨earlier, [], fun middle whole => ?_⟩
      rw [scan, String.toList_append, String.toList_append, rest, List.append_nil, split,
        single whole]
  | cons first behind =>
      obtain rfl : first = '\n' := ends first (by rw [rest]; rfl)
      refine ⟨earlier, Text.piecesBy (· == '\n') behind, fun middle whole => ?_⟩
      rw [scan, String.toList_append, String.toList_append, rest, List.append_assoc, split,
        Text.piecesBy_append_cut (by rfl), single whole]
      rfl

def around (line : Nat) (levels : List Nat) (spaced : Bool) (width : Nat) (front : List Token)
    (behind : List Char) (later : List (List Char)) :
    Except SourceError (List Token × List Token) :=
  match indentTo width levels with
  | .error fault => .error ⟨fault, line⟩
  | .ok (kinds, kept) =>
    match scanBody line false false behind with
    | .error fault => .error ⟨fault, line⟩
    | .ok (tokens, trailing) =>
      (Row.follow line later ⟨[], kept, trailing, false⟩).map fun others =>
        (layoutTokens line spaced kinds ++ front, tokens ++ others)

def joined (own : List Token) : List Token × List Token → List Token :=
  fun (before, after) => before ++ own ++ after

theorem scanLines_reached {levels : List Nat} {spaced : Bool} {behind : List Char}
    {later : List (List Char)} {own : List Token}
    (reads : Reads line ⟨true, true, (measure (start ++ '-' :: rest)).2⟩ front
      ⟨due, blank, '-' :: rest⟩)
    (found : scanBody line due blank ('-' :: rest) =
      (scanBody line false false behind).map (prepend own)) :
    scanLines line levels spaced ((start ++ '-' :: rest) :: later) =
      (around line levels spaced (measure start).1 front behind later).map (joined own) := by
  rw [scanLines_cons, readRow_reached reads, found, around]
  cases indentTo (measure start).1 levels with
  | error fault => rfl
  | ok opened =>
      obtain ⟨kinds, kept⟩ := opened
      dsimp only
      cases scanBody line false false behind with
      | error fault => rfl
      | ok body =>
          obtain ⟨tokens, trailing⟩ := body
          change (Row.follow line later ⟨[], kept, trailing, false⟩).map _ =
            ((Row.follow line later ⟨[], kept, trailing, false⟩).map _).map _
          cases Row.follow line later ⟨[], kept, trailing, false⟩ with
          | error error => rfl
          | ok others => simp [Except.map, joined]

/-- Whatever the reader finds at a place of a script, what it has read before and what it reads
behind stay the same. -/
theorem scan_reached (above start behind below : String)
    (boundary : ∀ char ∈ above.toList.getLast?, char = '\n')
    (ends : ∀ char ∈ below.toList.head?, char = '\n')
    (single : ∀ char ∈ start.toList, char ≠ '\n') :
    ∃ line, ∀ front, ∃ parts : Except SourceError (List Token × List Token),
      ∀ (due blank : Bool) (sign : String) (rest : List Char) (own : List Token),
      sign.toList = '-' :: rest → (∀ char ∈ rest, char ≠ '\n') →
      Reads line ⟨true, true, (measure (start.toList ++ '-' :: rest)).2⟩ front
        ⟨due, blank, '-' :: rest⟩ →
      scanBody line due blank ('-' :: rest) =
        (scanBody line false false behind.toList).map (prepend own) →
      scan (above ++ (start ++ sign) ++ below) = parts.map (joined own) := by
  obtain ⟨earlier, later, lines⟩ := scan_lines above below boundary ends
  refine ⟨1 + earlier.length, fun front => ?_⟩
  refine ⟨(scanRows 1 [0] true earlier).bind fun passed =>
    (around (1 + earlier.length) passed.2.1 passed.2.2 (measure start.toList).1 front behind.toList
      later).map fun parts => (passed.1 ++ parts.1, parts.2), ?_⟩
  intro due blank sign rest own spelled whole reads found
  rw [lines, String.toList_append, spelled, scanLines_append _ _ _ _ (List.cons_ne_nil _ _)]
  · cases scanRows 1 [0] true earlier with
    | error error => rfl
    | ok passed =>
        dsimp only [Except.bind]
        rw [scanLines_reached reads found]
        cases around (1 + earlier.length) passed.2.1 passed.2.2 (measure start.toList).1 front
            behind.toList later with
        | error error => rfl
        | ok parts => simp [Except.map, joined]
  · intro char member
    rw [String.toList_append, spelled] at member
    rcases List.mem_append.mp member with inner | last
    · exact single char inner
    · rcases List.mem_cons.mp last with rfl | later
      · decide
      · exact whole char later

end Scripts

end EventScript.Token
