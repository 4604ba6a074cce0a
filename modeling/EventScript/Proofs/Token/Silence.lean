import EventScript.Proofs.Token.Remarks

/-!
Lines without a token. Such a line hands on what it was given, so putting one in only moves the
lines behind it.
-/

namespace EventScript

def SourceError.renumber (place : Nat → Nat) (error : SourceError) : SourceError :=
  { error with line := place error.line }

def replaced {α β : Type} (place : Nat → Nat) (change : α → β) :
    Except SourceError α → Except SourceError β
  | .ok result => .ok (change result)
  | .error error => .error (error.renumber place)

namespace Token

def renumber (place : Nat → Nat) (token : Token) : Token := { token with line := place token.line }

@[simp] theorem renumber_kind (place : Nat → Nat) (token : Token) :
    (token.renumber place).kind = token.kind := rfl

@[simp] theorem renumber_line (place : Nat → Nat) (token : Token) :
    (token.renumber place).line = place token.line := rfl

@[simp] theorem nameOf?_renumber (place : Nat → Nat) (token : Token) :
    Program.nameOf? (token.renumber place) = Program.nameOf? token := rfl

section Renumbered

variable {place : Nat → Nat}

theorem layoutTokens_renumber (line : Nat) (spaced : Bool) (kinds : List TokenKind) :
    layoutTokens (place line) spaced kinds =
      (layoutTokens line spaced kinds).map (renumber place) := by
  induction kinds generalizing spaced with
  | nil => rfl
  | cons kind kinds ih => rw [layoutTokens, ih, layoutTokens, List.map_cons, renumber]

theorem scanBody_renumber (line : Nat) (operand spaced : Bool) (chars : List Char) :
    scanBody (place line) operand spaced chars =
      (scanBody line operand spaced chars).map fun (tokens, trailing) =>
        (tokens.map (renumber place), trailing) := by
  fun_induction scanBody line operand spaced chars with
  | case1 => rw [scanBody]; rfl
  | case2 operand spaced first after mark => rw [scanBody, if_pos mark]; rfl
  | case3 operand spaced first after plain blank ih => rw [scanBody, if_neg plain, if_pos blank, ih]
  | case4 operand spaced first after plain solid fault found =>
      rw [scanBody, if_neg plain, if_neg solid, found]
      rfl
  | case5 operand spaced first after plain solid =>
      rename_i piece found fault failed ih
      rw [scanBody, if_neg plain, if_neg solid, found]
      dsimp only
      rw [ih, failed]
      rfl
  | case6 operand spaced first after plain solid =>
      rename_i piece found lexeme others ended read ih
      rw [scanBody, if_neg plain, if_neg solid, found]
      dsimp only
      rw [ih, read]
      rfl

def Row.renumber (place : Nat → Nat) (row : Row) : Row :=
  { row with tokens := row.tokens.map (Token.renumber place) }

theorem readRow_renumber (place : Nat → Nat) (line : Nat) (levels : List Nat) (spaced : Bool)
    (source : List Char) :
    readRow (place line) levels spaced source =
      replaced place (Row.renumber place) (readRow line levels spaced source) := by
  simp only [readRow, scanBody_renumber, layoutTokens_renumber]
  split
  · rfl
  · cases indentTo (measure source).1 levels with
    | error fault => rfl
    | ok opened =>
        dsimp only
        cases scanBody line true true (measure source).2 with
        | error fault => rfl
        | ok body => simp [replaced, Row.renumber, Except.map]

theorem closing_renumber (line : Nat) (spaced : Bool) (levels : List Nat) :
    closing (place line) spaced levels = (closing line spaced levels).map (renumber place) :=
  layoutTokens_renumber line spaced _

theorem ended_renumber (place : Nat → Nat) (line : Nat) (row : Row) :
    (row.renumber place).ended (place line) = (row.ended line).map (renumber place) := by
  unfold Row.ended Row.renumber
  cases row.silent
  · simp [renumber]
  · rfl

theorem scanLines_renumber {line : Nat}
    (steps : ∀ other, line ≤ other → place (other + 1) = place other + 1) (levels : List Nat)
    (spaced : Bool) (lines : List (List Char)) :
    scanLines (place line) levels spaced lines =
      replaced place (List.map (renumber place)) (scanLines line levels spaced lines) := by
  induction lines generalizing line levels spaced with
  | nil => rw [scanLines, scanLines, closing_renumber, replaced]
  | cons source later ih =>
      by_cases last : later = []
      · subst last
        rw [scanLines_last, scanLines_last, readRow_renumber]
        cases readRow line levels spaced source with
        | error error => rfl
        | ok row => simp [replaced, Except.map, Row.renumber, closing_renumber]
      · rw [scanLines_next _ _ _ _ last, scanLines_next _ _ _ _ last, readRow_renumber]
        cases readRow line levels spaced source with
        | error error => rfl
        | ok row =>
            have rest := ih (fun other past => steps other (Nat.le_of_succ_le past)) row.levels
              row.left
            rw [steps line (Nat.le_refl line)] at rest
            simp only [replaced, Except.bind, ended_renumber]
            change (scanLines (place line + 1) row.levels row.left later).map _ = _
            rw [rest]
            cases scanLines (line + 1) row.levels row.left later <;> simp [replaced, Except.map]

theorem scanRows_renumber {line : Nat} {earlier : List (List Char)}
    (still : ∀ other < line + earlier.length, place other = other) (levels : List Nat)
    (spaced : Bool) :
    replaced place (fun (tokens, handed) => (tokens.map (renumber place), handed))
      (scanRows line levels spaced earlier) = scanRows line levels spaced earlier := by
  induction earlier generalizing line levels spaced with
  | nil => rfl
  | cons source earlier ih =>
      rw [List.length_cons] at still
      have here : place line = line := still line (by omega)
      have row := readRow_renumber place line levels spaced source
      rw [here] at row
      rw [scanRows]
      cases read : readRow line levels spaced source with
      | error error =>
          rw [read] at row
          exact congrArg Except.error (Except.error.inj row).symm
      | ok found =>
          rw [read] at row
          have own := ended_renumber place line found
          rw [← Except.ok.inj row, here] at own
          have sooner : ∀ other < line + 1 + earlier.length, place other = other :=
            fun other before => still other (by omega)
          have rest := ih sooner found.levels found.left
          simp only [Except.bind]
          cases behind : scanRows (line + 1) found.levels found.left earlier with
          | error error =>
              rw [behind] at rest
              exact rest
          | ok front =>
              obtain ⟨tokens, handed⟩ := front
              rw [behind] at rest
              have same := (Prod.mk.inj (Except.ok.inj rest)).1
              simp [replaced, Except.map, ← own, same]

end Renumbered

theorem closing_ne_nil (line : Nat) (spaced : Bool) (levels : List Nat) :
    closing line spaced levels ≠ [] := by
  unfold closing
  cases List.replicate (levels.length - 1) TokenKind.dedent <;> exact List.cons_ne_nil _ _

theorem ScansTo.ne_nil {line : Nat} {levels : List Nat} {spaced : Bool} {lines : List (List Char)}
    {tokens : List Token} (scans : ScansTo line levels spaced lines tokens) : tokens ≠ [] := by
  induction scans with
  | nothing => exact closing_ne_nil _ _ _
  | silent => exact closing_ne_nil _ _ _
  | passed _ _ ih => exact ih
  | last => exact List.append_ne_nil_of_right_ne_nil _ (closing_ne_nil _ _ _)
  | row => exact List.append_ne_nil_of_right_ne_nil _ (List.cons_ne_nil _ _)

/-- Whether a line has no token: blanks of a margin, and perhaps a remark. -/
def IsSilentLine (chars : List Char) : Prop :=
  ∃ margin remark, chars = margin ++ remark ∧ (∀ char ∈ margin, isMargin char = true) ∧
    ∀ char ∈ remark.head?, char = '#'

theorem readRow_silentLine {chars : List Char} (quiet : IsSilentLine chars) (line : Nat)
    (levels : List Nat) (spaced : Bool) :
    readRow line levels spaced chars = .ok ⟨[], levels, spaced, true⟩ := by
  obtain ⟨margin, remark, rfl, blanks, marked⟩ := quiet
  have body : (measure (margin ++ remark)).2 = remark := by
    rw [measure_eq, List.dropWhile_append_of_pos blanks]
    cases remark with
    | nil => rfl
    | cons first remark =>
        rw [marked first rfl]
        rfl
  have silent : isSilent remark = true := by
    cases remark with
    | nil => rfl
    | cons first remark => simpa [isSilent] using marked first rfl
  simp only [readRow, body]
  exact if_pos silent

/-- Numbers of lines when one line has been put in as number `line`. -/
def shifted (line number : Nat) : Nat := if number < line then number else number + 1

theorem scan_insert (before quiet after : String)
    (boundary : ∀ char ∈ before.toList.getLast?, char = '\n') (silent : IsSilentLine quiet.toList)
    (single : ∀ char ∈ quiet.toList, char ≠ '\n') :
    let place := shifted (before.toList.count '\n' + 1)
    scan (before ++ quiet ++ "\n" ++ after) =
      replaced place (List.map (renumber place)) (scan (before ++ after)) := by
  intro place
  have bounded : ∀ char ∈ before.toList.getLast?, (char == '\n') = true := by simpa using boundary
  obtain ⟨earlier, count, split⟩ := Text.piecesBy_boundary before.toList bounded
  have later : Text.piecesBy (· == '\n') after.toList ≠ [] := Text.piecesBy_ne_nil _
  have cut : Text.piecesBy (· == '\n') (quiet.toList ++ '\n' :: after.toList) =
      quiet.toList :: Text.piecesBy (· == '\n') after.toList := by
    rw [Text.piecesBy_append_cut (by rfl), Text.piecesBy_single (by simpa using single)]
    rfl
  have new : scan (before ++ quiet ++ "\n" ++ after) = scanLines 1 [0] true
      (earlier ++ quiet.toList :: Text.piecesBy (· == '\n') after.toList) := by
    rw [scan, ← cut, ← split]
    simp
  have old : scan (before ++ after) =
      scanLines 1 [0] true (earlier ++ Text.piecesBy (· == '\n') after.toList) := by
    rw [scan, String.toList_append, split]
  have passed : 1 + earlier.length = before.toList.count '\n' + 1 := by
    rw [count, List.count]
    omega
  rw [new, old, scanLines_append _ _ _ _ (List.cons_ne_nil _ _), scanLines_append _ _ _ _ later,
    passed]
  subst place
  generalize before.toList.count '\n' + 1 = line at passed
  have still : ∀ other < 1 + earlier.length, shifted line other = other := by
    intro other sooner
    exact if_pos (by omega)
  have steps : ∀ other, line ≤ other → shifted line (other + 1) = shifted line other + 1 := by
    intro other past
    rw [shifted, shifted, if_neg (by omega), if_neg (by omega)]
  have moved : shifted line line = line + 1 := if_neg (Nat.lt_irrefl line)
  have front := scanRows_renumber still [0] true
  cases read : scanRows 1 [0] true earlier with
  | error error =>
      rw [read] at front
      exact congrArg Except.error (Except.error.inj front).symm
  | ok found =>
      obtain ⟨tokens, kept, blank⟩ := found
      rw [read] at front
      have same := (Prod.mk.inj (Except.ok.inj front)).1
      have rest := scanLines_renumber steps kept blank (Text.piecesBy (· == '\n') after.toList)
      rw [moved] at rest
      dsimp only [Except.bind]
      rw [scanLines_next _ _ _ _ later, readRow_silentLine silent]
      change ((scanLines (line + 1) kept blank _).map _).map _ = _
      rw [rest]
      cases scanLines line kept blank (Text.piecesBy (· == '\n') after.toList) with
      | error error => rfl
      | ok others => simp [replaced, Except.map, Row.ended, same]

end Token

end EventScript
