import EventScript.Proofs.Text.Pieces
import EventScript.Proofs.Token.Lines

/-!
A script is read line by line. What a line hands on to the next ones are the levels it leaves open
and whether a blank came last; so the lines up to some place are read first, and then those behind
it.
-/

namespace EventScript.Token

open EventScript.Program (isLineEnd)

/-- What one line adds to the tokens, without the mark of its end, and what it hands on. -/
structure Row where
  tokens : List Token
  levels : List Nat
  trailing : Bool
  silent : Bool

def readRow (line : Nat) (levels : List Nat) (spaced : Bool) (source : List Char) :
    Except SourceError Row :=
  let (width, body) := measure source
  if isSilent body then .ok ⟨[], levels, spaced, true⟩
  else
    match indentTo width levels with
    | .error fault => .error ⟨fault, line⟩
    | .ok (kinds, kept) =>
      match scanBody line true true body with
      | .error fault => .error ⟨fault, line⟩
      | .ok (tokens, trailing) =>
        .ok ⟨layoutTokens line spaced kinds ++ tokens, kept, trailing, false⟩

namespace Row

def ended (line : Nat) (row : Row) : List Token :=
  if row.silent then [] else row.tokens ++ [⟨.newline, "\n", line, row.trailing⟩]

def left (row : Row) : Bool := row.silent && row.trailing

end Row

theorem scanBody_silent {body : List Char} (silent : isSilent body = true) (line : Nat)
    (operand spaced : Bool) : scanBody line operand spaced body = .ok ([], spaced) := by
  cases body with
  | nil => rw [scanBody]
  | cons first rest => rw [scanBody, if_pos (by simpa [isSilent] using silent)]

theorem scanLines_last (line : Nat) (levels : List Nat) (spaced : Bool) (source : List Char) :
    scanLines line levels spaced [source] =
      (readRow line levels spaced source).map fun row =>
        row.tokens ++ closing line row.trailing row.levels := by
  simp only [scanLines, readRow]
  split
  · rfl
  · cases indentTo (measure source).1 levels with
    | error fault => rfl
    | ok opened =>
        dsimp only
        cases scanBody line true true (measure source).2 <;> rfl

theorem scanLines_next (line : Nat) (levels : List Nat) (spaced : Bool) (source : List Char)
    {later : List (List Char)} (more : later ≠ []) :
    scanLines line levels spaced (source :: later) =
      (readRow line levels spaced source).bind fun row =>
        (scanLines (line + 1) row.levels row.left later).map (row.ended line ++ ·) := by
  obtain ⟨next, others, rfl⟩ := List.exists_cons_of_ne_nil more
  rw [scanLines]
  simp only [readRow]
  split
  · cases follow : scanLines (line + 1) levels spaced (next :: others) <;>
      simp [Except.bind, Except.map, Row.left, Row.ended, follow]
  · cases indentTo (measure source).1 levels with
    | error fault => rfl
    | ok opened =>
        obtain ⟨kinds, kept⟩ := opened
        dsimp only
        cases scanBody line true true (measure source).2 with
        | error fault => rfl
        | ok body =>
            cases follow : scanLines (line + 1) kept false (next :: others) <;>
              simp [Except.bind, Except.map, Row.left, Row.ended, follow]

def Row.follow (line : Nat) (later : List (List Char)) (row : Row) :
    Except SourceError (List Token) :=
  if later = [] then .ok (closing line row.trailing row.levels)
  else (scanLines (line + 1) row.levels row.left later).map
    ((if row.silent then [] else [⟨.newline, "\n", line, row.trailing⟩]) ++ ·)

theorem readRow_silent {line : Nat} {levels : List Nat} {spaced : Bool} {source : List Char}
    {row : Row} (read : readRow line levels spaced source = .ok row) (silent : row.silent = true) :
    row.tokens = [] := by
  rw [readRow] at read
  dsimp only at read
  split at read
  · cases read
    rfl
  split at read
  · cases read
  split at read
  · cases read
  · cases read
    cases silent

theorem scanLines_cons (line : Nat) (levels : List Nat) (spaced : Bool) (source : List Char)
    (later : List (List Char)) :
    scanLines line levels spaced (source :: later) =
      (readRow line levels spaced source).bind fun row =>
        (row.follow line later).map (row.tokens ++ ·) := by
  by_cases last : later = []
  · subst last
    rw [scanLines_last]
    cases readRow line levels spaced source <;> rfl
  · rw [scanLines_next _ _ _ _ last]
    cases read : readRow line levels spaced source with
    | error error => rfl
    | ok row =>
        simp only [Except.bind, Row.follow, if_neg last, Row.ended]
        cases silent : row.silent
        · cases scanLines (line + 1) row.levels row.left later <;> simp [Except.map]
        · rw [readRow_silent read silent]
          cases scanLines (line + 1) row.levels row.left later <;> rfl

theorem readRow_line {line : Nat} {levels : List Nat} {spaced : Bool} {source : List Char}
    {row : Row} (read : readRow line levels spaced source = .ok row) :
    ∀ token ∈ row.tokens, token.line = line := by
  rw [readRow] at read
  dsimp only at read
  split at read
  · cases read
    exact fun token member => absurd member List.not_mem_nil
  split at read
  · cases read
  split at read
  · cases read
  · rename_i scanned
    cases read
    intro token member
    rcases List.mem_append.mp member with layout | inner
    · exact (layoutTokens_line token layout).1
    · exact (scanBody_inside scanned token inner).1

theorem Row.ended_line {line : Nat} {row : Row} (own : ∀ token ∈ row.tokens, token.line = line) :
    ∀ token ∈ row.ended line, token.line = line := by
  intro token member
  unfold Row.ended at member
  split at member
  · exact absurd member List.not_mem_nil
  · rcases List.mem_append.mp member with inner | newline
    · exact own token inner
    · rw [List.mem_singleton.mp newline]

def scanRows : Nat → List Nat → Bool → List (List Char) →
    Except SourceError (List Token × List Nat × Bool)
  | _, levels, spaced, [] => .ok ([], levels, spaced)
  | line, levels, spaced, source :: later =>
    (readRow line levels spaced source).bind fun row =>
      (scanRows (line + 1) row.levels row.left later).map fun (tokens, handed) =>
        (row.ended line ++ tokens, handed)

theorem scanLines_append (line : Nat) (levels : List Nat) (spaced : Bool)
    (earlier : List (List Char)) {later : List (List Char)} (more : later ≠ []) :
    scanLines line levels spaced (earlier ++ later) =
      (scanRows line levels spaced earlier).bind fun (tokens, kept, blank) =>
        (scanLines (line + earlier.length) kept blank later).map (tokens ++ ·) := by
  induction earlier generalizing line levels spaced with
  | nil =>
      cases scanned : scanLines line levels spaced later <;>
        simp [scanRows, Except.bind, Except.map, scanned]
  | cons source earlier ih =>
      rw [List.cons_append, scanLines_next line levels spaced source (by simp [more]), scanRows]
      cases readRow line levels spaced source with
      | error error => rfl
      | ok row =>
          simp only [Except.bind, ih]
          cases scanRows (line + 1) row.levels row.left earlier with
          | error error => rfl
          | ok front =>
              obtain ⟨tokens, kept, blank⟩ := front
              have position : line + 1 + earlier.length = line + (source :: earlier).length := by
                rw [List.length_cons]
                omega
              simp only [Except.map, position]
              cases scanLines (line + (source :: earlier).length) kept blank later <;> simp

theorem scanRows_line {line : Nat} {levels kept : List Nat} {spaced blank : Bool}
    {earlier : List (List Char)} {tokens : List Token}
    (scanned : scanRows line levels spaced earlier = .ok (tokens, kept, blank)) :
    ∀ token ∈ tokens, token.line < line + earlier.length := by
  induction earlier generalizing line levels spaced tokens with
  | nil =>
      cases scanned
      exact fun token member => absurd member List.not_mem_nil
  | cons source earlier ih =>
      rw [scanRows] at scanned
      cases read : readRow line levels spaced source with
      | error error => rw [read] at scanned; cases scanned
      | ok row =>
          rw [read] at scanned
          dsimp only [Except.bind] at scanned
          cases rest : scanRows (line + 1) row.levels row.left earlier with
          | error error => rw [rest] at scanned; cases scanned
          | ok front =>
              obtain ⟨later, handed⟩ := front
              rw [rest] at scanned
              cases scanned
              intro token member
              rw [List.length_cons]
              rcases List.mem_append.mp member with own | after
              · have here := Row.ended_line (readRow_line read) token own
                omega
              · have below := ih rest token after
                omega

end EventScript.Token
