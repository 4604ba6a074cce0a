import EventScript.Proofs.Token.Margins
import EventScript.Proofs.Token.Readers

/-!
A remark at the end of a line. A comment mark ends the line for every reader but one: a percent sign
opens a variable when another one follows on the line, and a remark may hold that other one. So a
remark is without effect unless it holds a percent sign while, before it, one closes up on the
operand behind it.
-/

namespace EventScript.Token

open EventScript.Program (isLineEnd)

/-- Whether a percent sign right before this token opens a variable, if another one follows. -/
def mayOpen (token : Token) : Bool :=
  match token.kind with
  | .text _ => false
  | _ => !token.spaced && startsName token.lexeme.toList

/-- On the line stands a percent sign, taken as a sign of reckoning, that closes up on a name. -/
def OpenPercent (line : Nat) (tokens : List Token) : Prop :=
  ∃ percent operand, [percent, operand] <:+: tokens ∧ percent.kind = .symbol .percent ∧
    percent.line = line ∧ mayOpen operand = true

section Beginnings

variable {operand : Bool} {first : Char} {after : List Char} {piece : Piece}

theorem isWordChar_blank {char : Char} (blank : Text.isBlank char = true) :
    isWordChar char = false := by
  have codes : ∀ code ∈ List.range' 9 5 ++ List.range' 0x2000 11 ++
      [0x20, 0x85, 0xa0, 0x1680, 0x2028, 0x2029, 0x202f, 0x205f, 0x3000],
      isWordChar (Char.ofNat code) = false := by decide +kernel
  have member := codes char.toNat (by
    simp only [Text.isBlank, Bool.or_eq_true, Bool.and_eq_true, decide_eq_true_eq,
      beq_iff_eq] at blank
    simp only [List.mem_append, List.mem_range'_1, List.mem_cons, List.not_mem_nil]
    omega)
  rwa [Char.ofNat_toNat] at member

theorem mayOpen_plain {kind : TokenKind} (plain : ∀ content, kind ≠ .text content)
    (lexeme : String) (line : Nat) (spaced : Bool) :
    mayOpen ⟨kind, lexeme, line, spaced⟩ = (!spaced && startsName lexeme.toList) := by
  unfold mayOpen
  split
  · rename_i content same
    exact absurd same (plain content)
  · rfl

theorem startsName_take {more : Nat}
    (double : first = '_' → after.head? = some '_' → 0 < more) :
    startsName (first :: after.take more) = startsName (first :: after) := by
  cases after with
  | nil => rw [List.take_nil]
  | cons next after =>
      by_cases both : first = '_' ∧ next = '_'
      · obtain ⟨rfl, rfl⟩ := both
        obtain ⟨fewer, rfl⟩ := Nat.exists_eq_succ_of_ne_zero (double rfl rfl).ne'
        rfl
      · have whole : startsName (first :: next :: after) = isWordChar first := by
          rw [startsName]
          simpa using both
        cases more with
        | zero =>
            by_cases under : first = '_'
            · subst under
              rw [whole]
              rfl
            · rw [whole, List.take_zero, startsName]
              simp
        | succ more =>
            rw [whole, List.take_succ_cons, startsName]
            simpa using both

theorem wordKind_plain (word content : String) : wordKind word ≠ .text content := by
  rcases wordKind_names word with kind | kind | ⟨truth, kind⟩ | ⟨keyword, kind⟩ <;> simp [kind]

theorem wordKind_unsigned (word : String) (symbol : Symbol) : wordKind word ≠ .symbol symbol := by
  rcases wordKind_names word with kind | kind | ⟨truth, kind⟩ | ⟨keyword, kind⟩ <;> simp [kind]

theorem opensVariable_remark (after rest : List Char) :
    opensVariable (after ++ '#' :: rest) =
      (opensVariable after || (startsName after && rest.contains '%')) := by
  rw [opensVariable_eq, opensVariable_eq, startsName_remark]
  cases startsName after <;> simp

theorem Reading.mayOpen_iff (reading : Reading operand first after piece) (line : Nat) :
    mayOpen ⟨piece.kind, piece.content.getD (String.ofList (first :: after.take piece.more)), line,
      false⟩ = startsName (first :: after) := by
  cases reading with
  | quoted quote body =>
      rcases quote with rfl | rfl <;> rfl
  | reference percent opens =>
      subst percent
      rw [mayOpen_plain (by simp)]
      simp [startsName]
  | stored under again closes =>
      rw [mayOpen_plain (by simp)]
      simpa using startsName_take fun _ _ => Nat.succ_pos _
  | number digit =>
      rw [mayOpen_plain (by simp [numberPiece])]
      have other := (digit_plain digit).2.2.2.1
      simpa [numberPiece] using startsName_take fun under => absurd under other
  | negative minus due digit =>
      subst minus
      rw [mayOpen_plain (by simp [numberPiece])]
      simp [numberPiece, startsName]
  | word begins single plain whole =>
      rw [mayOpen_plain (wordKind_plain _)]
      simpa using startsName_take fun under again => absurd again (single under)
  | symbol read unnamed unsigned =>
      rw [mayOpen_plain (by simp)]
      simpa using startsName_take fun under => absurd under (symbolAt_plain read).2.2.1

end Beginnings

section Bodies

variable {line : Nat} {operand spaced trailing : Bool} {chars : List Char} {tokens : List Token}

theorem scanBody_spaced (scanned : scanBody line operand true chars = .ok (tokens, trailing)) :
    ∀ token ∈ tokens.head?, token.spaced = true := by
  induction chars generalizing operand with
  | nil =>
      rw [scanBody] at scanned
      cases scanned
      simp
  | cons first after ih =>
      rw [scanBody] at scanned
      split at scanned
      · cases scanned
        simp
      split at scanned
      · exact ih scanned
      split at scanned
      · cases scanned
      dsimp only at scanned
      split at scanned
      · cases scanned
      · cases scanned
        simp

theorem mayOpen_head (scanned : scanBody line operand false chars = .ok (tokens, trailing)) :
    tokens.head?.any mayOpen = startsName chars := by
  cases chars with
  | nil =>
      rw [scanBody] at scanned
      cases scanned
      rfl
  | cons first after =>
      rw [scanBody] at scanned
      split at scanned
      · rename_i mark
        rw [beq_iff_eq] at mark
        cases scanned
        subst mark
        simp [startsName]
        decide
      split at scanned
      · rename_i blank
        have behind := scanBody_spaced scanned
        have none : startsName (first :: after) = false := by
          unfold startsName
          split
          · rfl
          · rename_i same
            cases same
            exact isWordChar_blank blank
          · rfl
        rw [none]
        cases tokens with
        | nil => rfl
        | cons token rest =>
            have late := behind token rfl
            simp only [List.head?_cons, Option.any_some, mayOpen, late]
            split <;> rfl
      split at scanned
      · cases scanned
      rename_i piece found
      dsimp only at scanned
      split at scanned
      · cases scanned
      · cases scanned
        exact (reading_of_pieceAt found).mayOpen_iff line

theorem scanBody_piece {first : Char} {after : List Char} {piece : Piece}
    (unmarked : first ≠ '#') (solid : Text.isBlank first = false)
    (found : pieceAt operand first after = .ok piece) :
    scanBody line operand spaced (first :: after) =
      (scanBody line piece.kind.startsOperand false (after.drop piece.more)).map
        fun (tokens, trailing) => (⟨piece.kind,
          piece.content.getD (String.ofList (first :: after.take piece.more)), line, spaced⟩ ::
            tokens, trailing) := by
  rw [scanBody, if_neg (by simpa using unmarked), if_neg (by simp [solid]), found]
  dsimp only
  cases scanBody line piece.kind.startsOperand false (after.drop piece.more) <;> rfl

theorem openPercent_nil : ¬OpenPercent line [] := by
  rintro ⟨percent, operand, lies, _⟩
  exact absurd (List.infix_nil.mp lies) (List.cons_ne_nil _ _)

theorem openPercent_cons {token : Token} :
    OpenPercent line (token :: tokens) ↔
      (token.kind = .symbol .percent ∧ token.line = line ∧ tokens.head?.any mayOpen = true) ∨
        OpenPercent line tokens := by
  constructor
  · rintro ⟨percent, operand, lies, sign, onLine, names⟩
    rcases List.infix_cons_iff.mp lies with first | later
    · obtain ⟨rfl, follows⟩ := List.cons_prefix_cons.mp first
      obtain ⟨rest, rfl⟩ := follows
      exact .inl ⟨sign, onLine, by simpa using names⟩
    · exact .inr ⟨percent, operand, later, sign, onLine, names⟩
  · rintro (⟨sign, onLine, names⟩ | ⟨percent, operand, lies, rest⟩)
    · cases tokens with
      | nil => cases names
      | cons operand tokens =>
          have front : [token, operand] <+: token :: operand :: tokens := ⟨tokens, rfl⟩
          exact ⟨token, operand, front.isInfix, sign, onLine, by simpa using names⟩
    · exact ⟨percent, operand, lies.trans (List.suffix_cons token tokens).isInfix, rest⟩

/-- Whatever is read there, it is not these tokens, and more text does not mend that. -/
def Astray (tokens : List Token) (outcome : Except SourceFault (List Token × Bool)) : Prop :=
  ∀ others trailing, outcome = .ok (others, trailing) → ∀ more less, tokens ++ more ≠ others ++ less

theorem Astray.cons {token : Token} {outcome : Except SourceFault (List Token × Bool)}
    (astray : Astray tokens outcome) :
    Astray (token :: tokens)
      (outcome.map fun (others, trailing) => (token :: others, trailing)) := by
  intro others trailing read more less same
  cases outcome with
  | error fault => cases read
  | ok found =>
      cases read
      exact astray _ _ rfl more less (List.cons.inj same).2

theorem Astray.head {token other : Token} {outcome : Except SourceFault (List Token × Bool)}
    (differ : token ≠ other) :
    Astray (token :: tokens)
      (outcome.map fun (others, trailing) => (other :: others, trailing)) := by
  intro others trailing read more less same
  cases outcome with
  | error fault => cases read
  | ok found =>
      cases read
      exact differ (List.cons.inj same).1

theorem Reading.percent {after : List Char} {piece : Piece}
    (reading : Reading operand '%' after piece) (closed : opensVariable after = false) :
    piece = ⟨.symbol .percent, 0, none⟩ := by
  cases reading with
  | quoted quote body => exact absurd quote (by decide)
  | reference percent opens => rw [closed] at opens; cases opens
  | stored under again closes => exact absurd under (by decide)
  | number digit => exact absurd digit (by decide)
  | negative minus due digit => exact absurd minus (by decide)
  | word begins single plain whole => exact absurd begins (by decide)
  | symbol read unnamed unsigned =>
      rw [symbolAt] at read
      cases read
      rfl

theorem Reading.of_percent {first : Char} {after : List Char} {piece : Piece}
    (reading : Reading operand first after piece) (sign : piece.kind = .symbol .percent) :
    first = '%' ∧ opensVariable after = false ∧ piece.more = 0 := by
  cases reading with
  | quoted quote body => cases sign
  | reference percent opens => cases sign
  | stored under again closes => cases sign
  | number digit => cases sign
  | negative minus due digit => cases sign
  | word begins single plain whole => exact absurd sign (wordKind_unsigned _ _)
  | symbol read unnamed unsigned =>
      cases sign
      unfold symbolAt at read
      split at read <;> cases read
      exact ⟨rfl, (unnamed rfl).1, rfl⟩

theorem scanBody_remark (scanned : scanBody line operand spaced chars = .ok (tokens, trailing))
    (rest : List Char) :
    (¬('%' ∈ rest ∧ OpenPercent line tokens) →
      scanBody line operand spaced (chars ++ '#' :: rest) = .ok (tokens, trailing)) ∧
    ('%' ∈ rest ∧ OpenPercent line tokens →
      Astray tokens (scanBody line operand spaced (chars ++ '#' :: rest))) := by
  fun_induction scanBody line operand spaced chars generalizing tokens trailing with
  | case1 operand spaced =>
      cases scanned
      refine ⟨fun _ => ?_, fun opens => absurd opens.2 openPercent_nil⟩
      rw [List.nil_append, scanBody, if_pos (by simp)]
  | case2 operand spaced first after mark =>
      cases scanned
      refine ⟨fun _ => ?_, fun opens => absurd opens.2 openPercent_nil⟩
      rw [List.cons_append, scanBody, if_pos mark]
  | case3 operand spaced first after plain blank ih =>
      rw [List.cons_append, scanBody, if_neg plain, if_pos blank]
      exact ih scanned
  | case4 => cases scanned
  | case5 => cases scanned
  | case6 operand spaced first after plain solid =>
      rename_i piece found lexeme others ended read ih
      cases scanned
      have reading := reading_of_pieceAt found
      have unmarked : first ≠ '#' := by simpa using plain
      have shown := Bool.eq_false_iff.mpr solid
      have behind := mayOpen_head read
      by_cases changes : first = '%' ∧ opensVariable after = false ∧ startsName after = true ∧
          '%' ∈ rest
      · -- the remark closes the variable that this percent sign now opens
        obtain ⟨rfl, closed, names, closes⟩ := changes
        have own := reading.percent closed
        subst own
        have opens : opensVariable (after ++ '#' :: rest) = true := by
          rw [opensVariable_remark, names, List.contains_iff_mem.mpr closes]
          simp
        have opened : OpenPercent line (⟨.symbol .percent, lexeme, line, spaced⟩ :: others) :=
          openPercent_cons.mpr (.inl ⟨rfl, rfl, behind.trans names⟩)
        refine ⟨fun quiet => absurd ⟨closes, opened⟩ quiet, fun _ => ?_⟩
        rw [List.cons_append,
          scanBody_piece unmarked shown (pieceAt_of_reading (.reference rfl opens))]
        exact .head fun same => TokenKind.noConfusion (congrArg Token.kind same)
      · -- the token stays as it is, so all hangs on what is behind it
        have same : first = '%' → opensVariable (after ++ '#' :: rest) = opensVariable after := by
          rintro rfl
          rw [opensVariable_remark]
          cases closed : opensVariable after
          · simpa [closed] using changes
          · rfl
        have again := pieceAt_of_reading (reading.remark rest same)
        have within := reading.more_le
        have quiet : '%' ∈ rest → ¬(piece.kind = .symbol .percent ∧ line = line ∧
            others.head?.any mayOpen = true) := by
          rintro closes ⟨sign, _, names⟩
          obtain ⟨percent, closed, more⟩ := reading.of_percent sign
          rw [behind, more] at names
          exact changes ⟨percent, closed, names, closes⟩
        rw [List.cons_append, scanBody_piece unmarked shown again,
          List.take_append_of_le_length within, List.drop_append_of_le_length within,
          openPercent_cons]
        obtain ⟨kept, lost⟩ := ih read
        refine ⟨fun none => ?_, fun some => ?_⟩
        · rw [kept fun inner => none ⟨inner.1, .inr inner.2⟩]
          rfl
        · exact (lost ⟨some.1, some.2.resolve_left (quiet some.1)⟩).cons

end Bodies

section Lines

variable {line : Nat} {levels : List Nat} {spaced : Bool} {source : List Char} {row : Row}
  {tokens : List Token}

theorem openPercent_skip {front : List Token}
    (quiet : ∀ token ∈ front, ¬(token.kind = .symbol .percent ∧ token.line = line)) :
    OpenPercent line (front ++ tokens) ↔ OpenPercent line tokens := by
  induction front with
  | nil => rfl
  | cons token front ih =>
      rw [List.cons_append, openPercent_cons, ih fun other member =>
        quiet other (List.mem_cons_of_mem token member)]
      refine or_iff_right ?_
      rintro ⟨sign, onLine, _⟩
      exact quiet token List.mem_cons_self ⟨sign, onLine⟩

theorem openPercent_keep {back : List Token}
    (quiet : ∀ token ∈ back, ¬(token.kind = .symbol .percent ∧ token.line = line))
    (apart : tokens = [] ∨ ∀ token ∈ back.head?, mayOpen token = false) :
    OpenPercent line (tokens ++ back) ↔ OpenPercent line tokens := by
  have none : ¬OpenPercent line back := by
    have whole : OpenPercent line (back ++ []) ↔ OpenPercent line [] := openPercent_skip quiet
    rw [List.append_nil] at whole
    exact fun opens => openPercent_nil (whole.mp opens)
  induction tokens with
  | nil => exact iff_of_false none openPercent_nil
  | cons token tokens ih =>
      have heads := apart.resolve_left (List.cons_ne_nil token tokens)
      rw [List.cons_append, openPercent_cons, openPercent_cons]
      refine or_congr ?_ (ih (.inr heads))
      cases tokens with
      | nil =>
          cases back with
          | nil => rfl
          | cons first back => simp [heads first rfl]
      | cons next tokens => rfl

theorem measure_stop {mark : Char} (solid : isMargin mark = false) (source rest : List Char) :
    measure (source ++ mark :: rest) =
      ((measure source).1, (measure source).2 ++ mark :: rest) := by
  have margin : marginWidth (source ++ mark :: rest) = marginWidth source := by
    rw [marginWidth, takeWhile_append_stop solid, marginWidth]
  rw [measure_eq, measure_eq, margin, List.dropWhile_append]
  split
  · rename_i bare
    rw [List.isEmpty_iff.mp bare, List.dropWhile_cons_of_neg (by simp [solid]), List.nil_append]
  · rfl

theorem measure_remark (source rest : List Char) :
    measure (source ++ '#' :: rest) = ((measure source).1, (measure source).2 ++ '#' :: rest) :=
  measure_stop rfl source rest

theorem isSilent_remark (body rest : List Char) :
    isSilent (body ++ '#' :: rest) = isSilent body := by
  cases body <;> rfl

theorem readRow_remark (read : readRow line levels spaced source = .ok row) (rest : List Char) :
    (¬('%' ∈ rest ∧ OpenPercent line row.tokens) →
      readRow line levels spaced (source ++ '#' :: rest) = .ok row) ∧
    ('%' ∈ rest ∧ OpenPercent line row.tokens → ∀ other,
      readRow line levels spaced (source ++ '#' :: rest) = .ok other →
        ∀ more less, row.tokens ++ more ≠ other.tokens ++ less) := by
  simp only [readRow, measure_remark, isSilent_remark] at read ⊢
  split at read
  · rename_i silent
    cases read
    rw [if_pos silent]
    exact ⟨fun _ => rfl, fun opens => absurd opens.2 openPercent_nil⟩
  rename_i loud
  rw [if_neg loud]
  cases opened : indentTo (measure source).1 levels with
  | error fault => rw [opened] at read; cases read
  | ok layout =>
      obtain ⟨kinds, kept⟩ := layout
      rw [opened] at read
      dsimp only at read ⊢
      split at read
      · cases read
      rename_i scanned
      cases read
      obtain ⟨same, lost⟩ := scanBody_remark scanned rest
      rw [openPercent_skip fun token member sign => by
        have outer := indentTo_kinds opened _ (layoutTokens_line token member).2.1
        rw [sign.1] at outer
        cases outer]
      refine ⟨fun quiet => ?_, fun opens other found more less => ?_⟩
      · rw [same quiet]
      · split at found
        · cases found
        · rename_i again
          cases found
          rw [List.append_assoc, List.append_assoc]
          exact fun equal => lost opens _ _ again more less (List.append_cancel_left equal)

theorem mayOpen_layoutTokens {kinds : List TokenKind} :
    ∀ token ∈ layoutTokens line spaced kinds, mayOpen token = false := by
  induction kinds generalizing spaced with
  | nil => exact fun _ member => absurd member List.not_mem_nil
  | cons kind kinds ih =>
      intro token member
      rcases List.mem_cons.mp member with rfl | member
      · unfold mayOpen
        split
        · rfl
        · simp [startsName]
      · exact ih token member

theorem follow_quiet {later : List (List Char)} {back : List Token}
    (read : readRow line levels spaced source = .ok row)
    (follow : row.follow line later = .ok back) :
    (∀ token ∈ back, ¬(token.kind = .symbol .percent ∧ token.line = line)) ∧
      (row.tokens = [] ∨ ∀ token ∈ back.head?, mayOpen token = false) := by
  rw [Row.follow] at follow
  split at follow
  · cases follow
    refine ⟨fun token member sign => ?_, .inr fun token first => ?_⟩
    · rcases (closing_marks token member).1 with dedent | finish
      · rw [dedent] at sign; cases sign.1
      · rw [finish] at sign; cases sign.1
    · exact mayOpen_layoutTokens token (List.mem_of_mem_head? first)
  · cases lines : scanLines (line + 1) row.levels row.left later with
    | error error => rw [lines] at follow; cases follow
    | ok others =>
        rw [lines] at follow
        cases follow
        have far : ∀ token ∈ others, ¬(token.kind = .symbol .percent ∧ token.line = line) := by
          rintro token member ⟨_, onLine⟩
          have past := (scansTo_of_scanLines lines).lined.from_line token member
          omega
        cases silent : row.silent
        · refine ⟨fun token member => ?_, .inr fun token first => ?_⟩
          · rcases List.mem_cons.mp member with rfl | member
            · rintro ⟨⟨⟩, _⟩
            · exact far token member
          · cases first
            have unnamed : startsName "\n".toList = false := rfl
            rw [mayOpen_plain (by simp), unnamed, Bool.and_false]
        · exact ⟨far, .inl (readRow_silent read silent)⟩

theorem scanLines_remark {later : List (List Char)}
    (scanned : scanLines line levels spaced (source :: later) = .ok tokens) (rest : List Char) :
    scanLines line levels spaced ((source ++ '#' :: rest) :: later) = .ok tokens ↔
      ¬('%' ∈ rest ∧ OpenPercent line tokens) := by
  rw [scanLines_cons] at scanned ⊢
  cases read : readRow line levels spaced source with
  | error error => rw [read] at scanned; cases scanned
  | ok row =>
      rw [read] at scanned
      dsimp only [Except.bind] at scanned
      cases follow : row.follow line later with
      | error error => rw [follow] at scanned; cases scanned
      | ok back =>
          rw [follow] at scanned
          cases scanned
          obtain ⟨quiet, apart⟩ := follow_quiet read follow
          rw [openPercent_keep quiet apart]
          obtain ⟨same, lost⟩ := readRow_remark read rest
          constructor
          · intro again opens
            cases other : readRow line levels spaced (source ++ '#' :: rest) with
            | error error => rw [other] at again; cases again
            | ok found =>
                rw [other] at again
                dsimp only [Except.bind] at again
                cases behind : found.follow line later with
                | error error => rw [behind] at again; cases again
                | ok less =>
                    rw [behind] at again
                    exact lost opens found other back less (Except.ok.inj again).symm
          · intro none
            rw [same none]
            dsimp only [Except.bind]
            rw [follow]
            rfl

end Lines

/-- A remark behind a line changes the tokens of the script just when it holds a percent sign and
the line has one that closes up on its operand. -/
theorem scan_remark (before after remark : String) {tokens : List Token}
    (ends : ∀ char ∈ after.toList.head?, char = '\n')
    (single : ∀ char ∈ remark.toList, char ≠ '\n')
    (scanned : scan (before ++ after) = .ok tokens) :
    scan (before ++ "#" ++ remark ++ after) = .ok tokens ↔
      ¬('%' ∈ remark.toList ∧ OpenPercent (before.toList.count '\n' + 1) tokens) := by
  have cut : ∀ char ∈ after.toList.head?, (char == '\n') = true := by simpa using ends
  obtain ⟨earlier, last, later, count, split⟩ := Text.piecesBy_insert before.toList after.toList cut
  have old : scan (before ++ after) = scanLines 1 [0] true (earlier ++ last :: later) := by
    rw [scan, String.toList_append, ← List.nil_append after.toList, split [] (by simp),
      List.append_nil]
  have new : scan (before ++ "#" ++ remark ++ after) =
      scanLines 1 [0] true (earlier ++ (last ++ '#' :: remark.toList) :: later) := by
    rw [scan, ← split ('#' :: remark.toList) (by simpa using single)]
    simp
  rw [old, scanLines_append _ _ _ _ (List.cons_ne_nil _ _)] at scanned
  rw [new, scanLines_append _ _ _ _ (List.cons_ne_nil _ _)]
  cases front : scanRows 1 [0] true earlier with
  | error error => rw [front] at scanned; cases scanned
  | ok found =>
      obtain ⟨start, kept, blank⟩ := found
      rw [front] at scanned
      dsimp only [Except.bind] at scanned ⊢
      have place : 1 + earlier.length = before.toList.count '\n' + 1 := by
        rw [count, List.count]
        omega
      rw [place] at scanned ⊢
      cases row : scanLines (before.toList.count '\n' + 1) kept blank (last :: later) with
      | error error => rw [row] at scanned; cases scanned
      | ok own =>
          rw [row] at scanned
          cases scanned
          have passed : ∀ token ∈ start, ¬(token.kind = .symbol .percent ∧
              token.line = before.toList.count '\n' + 1) := by
            rintro token member ⟨_, onLine⟩
            have sooner := scanRows_line front token member
            omega
          rw [openPercent_skip passed, ← scanLines_remark row]
          constructor
          · intro same
            cases again : scanLines (before.toList.count '\n' + 1) kept blank
                ((last ++ '#' :: remark.toList) :: later) with
            | error error => rw [again] at same; cases same
            | ok other =>
                rw [again] at same
                rw [List.append_cancel_left (Except.ok.inj same)]
          · intro same
            rw [same]
            rfl

theorem total_of_size_remark :
    let before := "on go:\n    send %total% %size"
    let after := "\n"
    let remark := " in 50% steps"
    let tokens : List Token := [⟨.keyword .onEvent, "on", 1, true⟩, ⟨.word "go", "go", 1, true⟩,
      ⟨.symbol .colon, ":", 1, false⟩, ⟨.newline, "\n", 1, false⟩, ⟨.indent, "", 2, false⟩,
      ⟨.word "send", "send", 2, true⟩, ⟨.reference "total", "%total%", 2, true⟩,
      ⟨.symbol .percent, "%", 2, true⟩, ⟨.word "size", "size", 2, false⟩,
      ⟨.newline, "\n", 2, false⟩, ⟨.dedent, "", 3, false⟩, ⟨.finish, "", 3, false⟩]
    (∀ char ∈ after.toList.head?, char = '\n') ∧ (∀ char ∈ remark.toList, char ≠ '\n') ∧
      scan (before ++ after) = .ok tokens ∧
      (scan (before ++ "#" ++ remark ++ after) = .ok tokens ↔
        ¬('%' ∈ remark.toList ∧ OpenPercent (before.toList.count '\n' + 1) tokens)) := by
  intro before after remark tokens
  have ends : ∀ char ∈ after.toList.head?, char = '\n' := by simp [after]
  have single : ∀ char ∈ remark.toList, char ≠ '\n' := by simp [remark]
  have scanned : scan (before ++ after) = .ok tokens := by decide +kernel
  exact ⟨ends, single, scanned, scan_remark before after remark ends single scanned⟩

/-- A remark that holds a percent sign may change what is said before it. -/
theorem remark_may_close_variable :
    ¬∀ (before after remark : String) (tokens : List Token),
      (∀ char ∈ after.toList.head?, char = '\n') → (∀ char ∈ remark.toList, char ≠ '\n') →
      scan (before ++ after) = .ok tokens →
      scan (before ++ "#" ++ remark ++ after) = .ok tokens := by
  intro claim
  have different : (scan ("on go:\n    send %total% %size" ++ "\n")).isOk = true ∧
      (scan ("on go:\n    send %total% %size" ++ "\n")).toOption ≠
        (scan ("on go:\n    send %total% %size" ++ "#" ++ " in 50% steps" ++ "\n")).toOption := by
    decide +kernel
  cases read : scan ("on go:\n    send %total% %size" ++ "\n") with
  | error error =>
      rw [read] at different
      cases different.1
  | ok tokens =>
      have same := claim _ _ " in 50% steps" tokens (by simp) (by simp) read
      rw [read, same] at different
      exact different.2 rfl

end EventScript.Token
