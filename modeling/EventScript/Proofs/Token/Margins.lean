import Mathlib
import EventScript.Proofs.Token.Rows

/-!
Only the order of the widths of lines matters. Widths are compared with each other and with the
bottom level and used for nothing else, so margins may be widened by any strictly increasing
function that leaves the bottom where it is.
-/

namespace EventScript.Token

def isMargin (char : Char) : Bool := char == ' ' || char == '\t' || char == '\r'

def columns (char : Char) : Nat := if char == '\t' then 4 else if char == '\r' then 0 else 1

def marginWidth (line : List Char) : Nat := ((line.takeWhile isMargin).map columns).sum

def reindentLine (widen : Nat → Nat) (line : List Char) : List Char :=
  List.replicate (widen (marginWidth line)) ' ' ++ line.dropWhile isMargin

/-- The text with new margins in all its lines. -/
def reindent (widen : Nat → Nat) (source : String) : String :=
  String.ofList (['\n'].intercalate
    ((Text.piecesBy (· == '\n') source.toList).map (reindentLine widen)))

theorem isMargin_blank {char : Char} (margin : isMargin char = true) :
    Text.isBlank char = true := by
  simp only [isMargin, Bool.or_eq_true, beq_iff_eq] at margin
  obtain (rfl | rfl) | rfl := margin <;> rfl

theorem measure_eq (line : List Char) :
    measure line = (marginWidth line, line.dropWhile isMargin) := by
  fun_induction measure line with
  | case1 rest width body measured ih =>
      rw [measured] at ih
      obtain ⟨rfl, rfl⟩ := Prod.mk.inj ih
      simp [marginWidth, isMargin, columns, Nat.add_comm]
  | case2 rest width body measured ih =>
      rw [measured] at ih
      obtain ⟨rfl, rfl⟩ := Prod.mk.inj ih
      simp [marginWidth, isMargin, columns, tabWidth, Nat.add_comm]
  | case3 rest ih =>
      simp [ih, marginWidth, isMargin, columns]
  | case4 rest noSpace noTab noReturn =>
      cases rest with
      | nil => rfl
      | cons first rest =>
          have solid : isMargin first = false := by
            simp only [isMargin, Bool.or_eq_false_iff, beq_eq_false_iff_ne]
            exact ⟨⟨fun same => noSpace _ (by rw [same]), fun same => noTab _ (by rw [same])⟩,
              fun same => noReturn _ (by rw [same])⟩
          simp [marginWidth, solid]

theorem measure_spaces (width : Nat) {body : List Char}
    (solid : ∀ char ∈ body.head?, isMargin char = false) :
    measure (List.replicate width ' ' ++ body) = (width, body) := by
  induction width with
  | zero =>
      cases body with
      | nil => rfl
      | cons first rest =>
          have plain := solid first rfl
          simp [measure_eq, marginWidth, plain]
  | succ width ih => rw [List.replicate_succ, List.cons_append, measure, ih]

theorem measure_reindentLine (widen : Nat → Nat) (line : List Char) :
    measure (reindentLine widen line) = (widen (measure line).1, (measure line).2) := by
  rw [measure_eq line, reindentLine]
  refine measure_spaces _ fun char first => ?_
  have stops := List.head?_dropWhile_not isMargin line
  rw [Option.mem_def] at first
  simpa [first] using stops

section Widened

variable {widen : Nat → Nat}

theorem headD_map (base : widen 0 = 0) (levels : List Nat) :
    (levels.map widen).headD 0 = widen (levels.headD 0) := by
  cases levels with
  | nil => exact base.symm
  | cons top levels => rfl

theorem indentTo_map (increasing : StrictMono widen) (base : widen 0 = 0) (width : Nat)
    (levels : List Nat) :
    indentTo (widen width) (levels.map widen) =
      (indentTo width levels).map fun (kinds, kept) => (kinds, kept.map widen) := by
  have below : (fun level => decide (widen width < level)) ∘ widen =
      fun level => decide (width < level) := by
    funext level
    simp [increasing.lt_iff_lt]
  simp only [indentTo, headD_map base, increasing.lt_iff_lt, List.dropWhile_map, below,
    increasing.injective.eq_iff, List.length_map]
  split
  · rfl
  · split <;> rfl

def Row.widened (widen : Nat → Nat) (row : Row) : Row :=
  { row with levels := row.levels.map widen }

theorem readRow_reindentLine (increasing : StrictMono widen) (base : widen 0 = 0) (line : Nat)
    (levels : List Nat) (spaced : Bool) (source : List Char) :
    readRow line (levels.map widen) spaced (reindentLine widen source) =
      (readRow line levels spaced source).map (Row.widened widen) := by
  simp only [readRow, measure_reindentLine, indentTo_map increasing base]
  split
  · rfl
  · cases indentTo (measure source).1 levels with
    | error fault => rfl
    | ok opened =>
        dsimp only [Except.map]
        cases scanBody line true true (measure source).2 <;> rfl

theorem closing_map (line : Nat) (spaced : Bool) (levels : List Nat) :
    closing line spaced (levels.map widen) = closing line spaced levels := by
  rw [closing, List.length_map, closing]

theorem scanLines_reindentLine (increasing : StrictMono widen) (base : widen 0 = 0) (line : Nat)
    (levels : List Nat) (spaced : Bool) (lines : List (List Char)) :
    scanLines line (levels.map widen) spaced (lines.map (reindentLine widen)) =
      scanLines line levels spaced lines := by
  induction lines generalizing line levels spaced with
  | nil => simp [scanLines, closing_map]
  | cons source later ih =>
      by_cases last : later = []
      · subst last
        rw [List.map_singleton, scanLines_last, scanLines_last,
          readRow_reindentLine increasing base]
        cases readRow line levels spaced source with
        | error error => rfl
        | ok row => simp [Except.map, Row.widened, closing_map]
      · rw [List.map_cons, scanLines_next _ _ _ _ (by simpa using last),
          scanLines_next _ _ _ _ last, readRow_reindentLine increasing base]
        cases readRow line levels spaced source with
        | error error => rfl
        | ok row =>
            change (scanLines (line + 1) (row.levels.map widen) row.left _).map _ = _
            rw [ih]
            rfl

end Widened

/-- Margins of other widths in the same order give the same tokens, or the same error. -/
theorem scan_reindent (widen : Nat → Nat) (increasing : StrictMono widen) (base : widen 0 = 0)
    (source : String) : scan (reindent widen source) = scan source := by
  have plain : ∀ line ∈ (Text.piecesBy (· == '\n') source.toList).map (reindentLine widen),
      ∀ char ∈ line, (char == '\n') = false := by
    intro line member char found
    obtain ⟨old, among, rfl⟩ := List.mem_map.mp member
    rcases List.mem_append.mp found with space | kept
    · rw [List.eq_of_mem_replicate space]
      rfl
    · exact Text.piecesBy_plain _ old among char ((List.dropWhile_sublist isMargin).mem kept)
  have some : (Text.piecesBy (· == '\n') source.toList).map (reindentLine widen) ≠ [] := by
    simpa using Text.piecesBy_ne_nil source.toList
  have same := scanLines_reindentLine increasing base 1 [0] true
    (Text.piecesBy (· == '\n') source.toList)
  rw [List.map_singleton, base] at same
  rw [scan, reindent, String.toList_ofList, Text.piecesBy_intercalate (by rfl) some plain, same,
    scan]

theorem squared_margins_scan :
    let widen := fun width => width * width
    let source := "on go:\n\tif true:\r\n \r\t stop\n  # done\n\tlog\n"
    StrictMono widen ∧ widen 0 = 0 ∧
      reindent widen source = "on go:\n                if true:\r\n" ++
        "                                    stop\n    # done\n                log\n" ∧
      scan (reindent widen source) = scan source := by
  intro widen source
  have increasing : StrictMono widen := fun first second less => Nat.mul_self_lt_mul_self less
  exact ⟨increasing, rfl, by decide +kernel, scan_reindent widen increasing rfl source⟩

end EventScript.Token
