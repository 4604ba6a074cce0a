import EventScript.Proofs.Program.Copying
import EventScript.Proofs.Token.Rows

/-!
The lines of a source text. Neither its tokens nor what is wrong with it are ever said to stand on
another line: the reader of tokens counts the lines itself, and the parser takes all its numbers
from the tokens.
-/

namespace EventScript

namespace Token

def lastLine (source : String) : Nat := 1 + source.toList.count '\n'

def Spans (first last : Nat) : Except SourceError (List Token) → Prop
  | .ok tokens => ∀ token ∈ tokens, first ≤ token.line ∧ token.line ≤ last
  | .error error => first ≤ error.line ∧ error.line ≤ last

theorem Spans.prepend {first line last : Nat} {front : List Token}
    {result : Except SourceError (List Token)} (spans : Spans line last result)
    (later : first ≤ line) (own : ∀ token ∈ front, first ≤ token.line ∧ token.line ≤ last) :
    Spans first last (result.map (front ++ ·)) := by
  cases result with
  | error error => exact ⟨Nat.le_trans later spans.1, spans.2⟩
  | ok tokens =>
      intro token member
      rcases List.mem_append.mp member with before | after
      · exact own token before
      · exact ⟨Nat.le_trans later (spans token after).1, (spans token after).2⟩

theorem readRow_error_line {line : Nat} {levels : List Nat} {spaced : Bool} {source : List Char}
    {error : SourceError} (failed : readRow line levels spaced source = .error error) :
    error.line = line := by
  rw [readRow] at failed
  dsimp only at failed
  split at failed
  · cases failed
  split at failed
  · cases failed
    rfl
  split at failed
  · cases failed
    rfl
  · cases failed

theorem closing_line {line : Nat} {spaced : Bool} {levels : List Nat} :
    ∀ token ∈ closing line spaced levels, token.line = line :=
  fun token member => (layoutTokens_line token member).1

theorem scanLines_spans {line last : Nat} {levels : List Nat} {spaced : Bool}
    {lines : List (List Char)} (some : lines ≠ []) (bound : line + lines.length ≤ last + 1) :
    Spans line last (scanLines line levels spaced lines) := by
  induction lines generalizing line levels spaced with
  | nil => exact absurd rfl some
  | cons source later ih =>
      rw [List.length_cons] at bound
      have here {token : Token} (same : token.line = line) :
          line ≤ token.line ∧ token.line ≤ last := by omega
      by_cases ended : later = []
      · subst ended
        rw [scanLines_last]
        cases read : readRow line levels spaced source with
        | error error =>
            have same := readRow_error_line read
            exact ⟨by omega, by omega⟩
        | ok row =>
            intro token member
            rcases List.mem_append.mp member with own | mark
            · exact here (readRow_line read token own)
            · exact here (closing_line token mark)
      · rw [scanLines_next line levels spaced source ended]
        cases read : readRow line levels spaced source with
        | error error =>
            have same := readRow_error_line read
            exact ⟨by omega, by omega⟩
        | ok row =>
            refine (ih ended (by omega)).prepend (Nat.le_succ line) fun token member => ?_
            exact here (Row.ended_line (readRow_line read) token member)

theorem scan_spans (source : String) : Spans 1 (lastLine source) (scan source) := by
  refine scanLines_spans (Text.piecesBy_ne_nil _) ?_
  have breaks : source.toList.countP (· == '\n') = source.toList.count '\n' := rfl
  rw [Text.length_piecesBy, breaks, lastLine]
  omega

end Token

namespace Program

theorem ofTokens_error_line {tokens : List Token} {error : SourceError} (some : tokens ≠ [])
    (failed : ofTokens tokens = .error error) : error.line ∈ tokens.map (·.line) := by
  obtain ⟨first, rest, whole⟩ := List.exists_cons_of_ne_nil some
  let place (line : Nat) : Nat := if line ∈ tokens.map (·.line) then line else first.line
  have among : place error.line ∈ tokens.map (·.line) := by
    unfold place
    split
    · assumption
    · simp [whole]
  have kept : tokens.map (Token.renumber place) = tokens := by
    refine (List.map_congr_left fun token member => ?_).trans (List.map_id tokens)
    have own : token.line ∈ tokens.map (·.line) := List.mem_map_of_mem member
    simp only [Token.renumber, place, if_pos own, id_eq]
  have moved : ofTokens (tokens.map (Token.renumber place)) =
      replaced place (renumber place) (ofTokens tokens) := ofTokens_renumber some
  rw [kept, failed] at moved
  have same : error = error.renumber place := Except.error.inj moved
  have line : error.line = place error.line := congrArg SourceError.line same
  rwa [line]

theorem parse_error_line {source : String} {error : SourceError}
    (failed : parse source = .error error) :
    1 ≤ error.line ∧ error.line ≤ Token.lastLine source := by
  have spans := Token.scan_spans source
  rw [parse] at failed
  cases scanned : Token.scan source with
  | error fault =>
      rw [scanned] at failed spans
      cases failed
      exact spans
  | ok tokens =>
      rw [scanned] at failed spans
      obtain ⟨token, member, same⟩ := List.mem_map.mp
        (ofTokens_error_line (Token.scansTo_of_scanLines scanned).ne_nil failed)
      exact same ▸ spans token member

end Program

end EventScript
