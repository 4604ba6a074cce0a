import EventScript.Program.Statement
import EventScript.Proofs.Token.Readers
import EventScript.Token.Lexer

/-!
How the tokens of a script lie on its lines. From a token inside a line on, there come the other
tokens of the line, and then either the end of the line with later lines behind it, or nothing but
the marks that close the script.
-/

namespace EventScript.Token

open EventScript.Program (isLineEnd nameOf?)

inductive LineAhead (line : Nat) : List Token → Prop
  | inside {token : Token} {rest : List Token} : token.line = line →
      isLineEnd token.kind = false → LineAhead line rest → LineAhead line (token :: rest)
  | ending {token : Token} {later : List Token} : token.kind = .newline → nameOf? token = none →
      (∀ other ∈ later, line < other.line) → LineAhead line (token :: later)
  | closing {tokens : List Token} :
      (∀ token ∈ tokens, (token.kind = .dedent ∨ token.kind = .finish) ∧ nameOf? token = none) →
      LineAhead line tokens

namespace LineAhead

variable {line : Nat} {tokens : List Token}

theorem tail {token : Token} {rest : List Token} (ahead : LineAhead line (token :: rest))
    (inside : isLineEnd token.kind = false) : LineAhead line rest := by
  cases ahead with
  | inside _ _ rest => exact rest
  | ending newline _ _ => rw [newline] at inside; cases inside
  | closing marks => exact .closing fun other member => marks other (List.mem_cons_of_mem _ member)

theorem named {token : Token} {rest : List Token} {name : String}
    (ahead : LineAhead line (token :: rest)) (named : nameOf? token = some name) :
    isLineEnd token.kind = false := by
  cases ahead with
  | inside _ inner _ => exact inner
  | ending _ unnamed _ => rw [unnamed] at named; cases named
  | closing marks => rw [(marks token List.mem_cons_self).2] at named; cases named

theorem append {body : List Token} (ahead : LineAhead line tokens)
    (inside : ∀ token ∈ body, token.line = line ∧ isLineEnd token.kind = false) :
    LineAhead line (body ++ tokens) := by
  induction body with
  | nil => exact ahead
  | cons token rest ih =>
      obtain ⟨onLine, inner⟩ := inside token List.mem_cons_self
      exact .inside onLine inner
        (ih fun other member => inside other (List.mem_cons_of_mem _ member))

theorem later (ahead : LineAhead line tokens)
    (ended : ∀ token ∈ tokens.head?, isLineEnd token.kind = true) {keyword : Keyword}
    {token : Token} (member : token ∈ tokens) (kind : token.kind = .keyword keyword) :
    line < token.line := by
  cases ahead with
  | inside _ inner _ => rw [ended _ rfl] at inner; cases inner
  | ending newline _ later =>
      rcases List.mem_cons.mp member with rfl | member
      · rw [newline] at kind; cases kind
      · exact later token member
  | closing marks =>
      rcases (marks token member).1 with dedent | finish
      · rw [dedent] at kind; cases kind
      · rw [finish] at kind; cases kind

end LineAhead

theorem wordKind_inside (word : String) : isLineEnd (wordKind word) = false := by
  rcases wordKind_names word with kind | kind | ⟨truth, kind⟩ | ⟨keyword, kind⟩
  all_goals
    rw [kind]
    rfl

theorem pieceAt_inside {operand : Bool} {first : Char} {after : List Char} {piece : Piece}
    (found : pieceAt operand first after = .ok piece) : isLineEnd piece.kind = false := by
  cases reading_of_pieceAt found with
  | @word length more begins single plain whole =>
      have inside := wordKind_inside (String.ofList (first :: after.take more))
      generalize wordKind _ = kind at inside ⊢
      exact inside
  | _ => rfl

theorem scanBody_inside {line : Nat} {operand spaced : Bool} {chars : List Char}
    {tokens : List Token} {trailing : Bool}
    (scanned : scanBody line operand spaced chars = .ok (tokens, trailing)) :
    ∀ token ∈ tokens, token.line = line ∧ isLineEnd token.kind = false := by
  fun_induction scanBody line operand spaced chars generalizing tokens trailing with
  | case1 =>
      cases scanned
      exact fun _ member => absurd member List.not_mem_nil
  | case2 =>
      cases scanned
      exact fun _ member => absurd member List.not_mem_nil
  | case3 _ _ _ _ _ _ ih => exact ih scanned
  | case4 => cases scanned
  | case5 => cases scanned
  | case6 =>
      rename_i piece found lexeme others later rest ih
      cases scanned
      intro token member
      rcases List.mem_cons.mp member with rfl | member
      · exact ⟨rfl, pieceAt_inside found⟩
      · exact ih rest token member

theorem nameOf?_blank {token : Token} (blank : token.lexeme = "") : nameOf? token = none := by
  unfold nameOf?
  split
  all_goals first
    | rfl
    | rw [blank]; rfl

theorem nameOf?_newline (line : Nat) (spaced : Bool) :
    nameOf? ⟨.newline, "\n", line, spaced⟩ = none := by
  have chars : "\n".toList = ['\n'] := by decide
  have letter : Text.isLetter '\n' = false := by decide +kernel
  simp [nameOf?, chars, letter]

theorem layoutTokens_line {line : Nat} {spaced : Bool} {kinds : List TokenKind} :
    ∀ token ∈ layoutTokens line spaced kinds,
      token.line = line ∧ token.kind ∈ kinds ∧ nameOf? token = none := by
  induction kinds generalizing spaced with
  | nil => exact fun _ member => absurd member List.not_mem_nil
  | cons kind kinds ih =>
      intro token member
      rcases List.mem_cons.mp member with rfl | member
      · exact ⟨rfl, List.mem_cons_self, nameOf?_blank rfl⟩
      · obtain ⟨onLine, found, unnamed⟩ := ih token member
        exact ⟨onLine, List.mem_cons_of_mem _ found, unnamed⟩

theorem closing_marks {line : Nat} {spaced : Bool} {levels : List Nat} :
    ∀ token ∈ closing line spaced levels,
      (token.kind = .dedent ∨ token.kind = .finish) ∧ nameOf? token = none := by
  intro token member
  obtain ⟨_, found, unnamed⟩ := layoutTokens_line token member
  rcases List.mem_append.mp found with dedent | finish
  · exact ⟨.inl (List.eq_of_mem_replicate dedent), unnamed⟩
  · exact ⟨.inr (List.mem_singleton.mp finish), unnamed⟩

theorem indentTo_kinds {width : Nat} {levels kept : List Nat} {kinds : List TokenKind}
    (opened : indentTo width levels = .ok (kinds, kept)) :
    ∀ kind ∈ kinds, isLineEnd kind = true := by
  unfold indentTo at opened
  dsimp only at opened
  split at opened
  · cases opened
    intro kind member
    rw [List.mem_singleton.mp member]
    rfl
  · split at opened
    · cases opened
      intro kind member
      rw [List.eq_of_mem_replicate member]
      rfl
    · cases opened

structure Lined (line : Nat) (tokens : List Token) : Prop where
  from_line : ∀ token ∈ tokens, line ≤ token.line
  ahead : ∀ {token rest}, token :: rest <:+ tokens → isLineEnd token.kind = false →
    LineAhead token.line (token :: rest)

theorem lined_closing (line : Nat) (spaced : Bool) (levels : List Nat) :
    Lined line (closing line spaced levels) where
  from_line token member := Nat.le_of_eq (layoutTokens_line token member).1.symm
  ahead {token rest} suffix inside := by
    have mark := closing_marks token (suffix.subset List.mem_cons_self)
    rcases mark.1 with dedent | finish
    · rw [dedent] at inside; cases inside
    · rw [finish] at inside; cases inside

namespace Lined

variable {line : Nat} {tokens : List Token}

theorem later (lined : Lined (line + 1) tokens) : Lined line tokens where
  from_line token member := Nat.le_of_succ_le (lined.from_line token member)
  ahead := lined.ahead

theorem newline (lined : Lined (line + 1) tokens) (spaced : Bool) :
    Lined line (⟨.newline, "\n", line, spaced⟩ :: tokens) where
  from_line token member := by
    rcases List.mem_cons.mp member with rfl | member
    · exact Nat.le_refl line
    · exact Nat.le_of_succ_le (lined.from_line token member)
  ahead {token rest} suffix inside := by
    rcases List.suffix_cons_iff.mp suffix with same | suffix
    · cases same
      cases inside
    · exact lined.ahead suffix inside

theorem body {inner : List Token} (lined : Lined line tokens) (ahead : LineAhead line tokens)
    (inside : ∀ token ∈ inner, token.line = line ∧ isLineEnd token.kind = false) :
    Lined line (inner ++ tokens) := by
  induction inner with
  | nil => exact lined
  | cons first rest ih =>
      have later := ih fun token member => inside token (List.mem_cons_of_mem _ member)
      obtain ⟨onLine, inner⟩ := inside first List.mem_cons_self
      refine ⟨fun token member => ?_, fun {token after} suffix own => ?_⟩
      · rcases List.mem_cons.mp member with rfl | member
        · exact Nat.le_of_eq onLine.symm
        · exact later.from_line token member
      · rcases List.suffix_cons_iff.mp suffix with same | suffix
        · rw [same, (List.cons.inj same).1, onLine]
          exact ahead.append inside
        · exact later.ahead suffix own

theorem opening {layout : List Token} (lined : Lined line tokens)
    (opens : ∀ token ∈ layout, token.line = line ∧ isLineEnd token.kind = true) :
    Lined line (layout ++ tokens) := by
  induction layout with
  | nil => exact lined
  | cons first rest ih =>
      have later := ih fun token member => opens token (List.mem_cons_of_mem _ member)
      obtain ⟨onLine, outer⟩ := opens first List.mem_cons_self
      refine ⟨fun token member => ?_, fun {token after} suffix own => ?_⟩
      · rcases List.mem_cons.mp member with rfl | member
        · exact Nat.le_of_eq onLine.symm
        · exact later.from_line token member
      · rcases List.suffix_cons_iff.mp suffix with same | suffix
        · cases same
          rw [outer] at own
          cases own
        · exact later.ahead suffix own

theorem row {width : Nat} {levels kept : List Nat} {kinds : List TokenKind} {spaced trailing : Bool}
    {chars : List Char} {inner : List Token} (lined : Lined line tokens)
    (ahead : LineAhead line tokens) (opened : indentTo width levels = .ok (kinds, kept))
    (scanned : scanBody line true true chars = .ok (inner, trailing)) :
    Lined line (layoutTokens line spaced kinds ++ inner ++ tokens) := by
  rw [List.append_assoc]
  refine (lined.body ahead (scanBody_inside scanned)).opening fun token member => ?_
  obtain ⟨onLine, kind, _⟩ := layoutTokens_line token member
  exact ⟨onLine, indentTo_kinds opened _ kind⟩

end Lined

/-- The tokens of lines that can all be read: of each line those that open or close levels, those of
its body and the mark of its end, and behind the last one those that close the script. -/
inductive ScansTo : Nat → List Nat → Bool → List (List Char) → List Token → Prop
  | nothing (line : Nat) (levels : List Nat) (spaced : Bool) :
      ScansTo line levels spaced [] (closing line spaced levels)
  | silent {source : List Char} (line : Nat) (levels : List Nat) (spaced : Bool) :
      ScansTo line levels spaced [source] (closing line spaced levels)
  | passed {line : Nat} {levels : List Nat} {spaced : Bool} {source next : List Char}
      {others : List (List Char)} {tokens : List Token} :
      isSilent (measure source).2 = true →
      ScansTo (line + 1) levels spaced (next :: others) tokens →
      ScansTo line levels spaced (source :: next :: others) tokens
  | last {line : Nat} {levels kept : List Nat} {spaced trailing : Bool} {source : List Char}
      {kinds : List TokenKind} {inner : List Token} : ¬isSilent (measure source).2 = true →
      indentTo (measure source).1 levels = .ok (kinds, kept) →
      scanBody line true true (measure source).2 = .ok (inner, trailing) →
      ScansTo line levels spaced [source]
        (layoutTokens line spaced kinds ++ inner ++ closing line trailing kept)
  | row {line : Nat} {levels kept : List Nat} {spaced trailing : Bool} {source next : List Char}
      {others : List (List Char)} {kinds : List TokenKind} {inner later : List Token} :
      ¬isSilent (measure source).2 = true →
      indentTo (measure source).1 levels = .ok (kinds, kept) →
      scanBody line true true (measure source).2 = .ok (inner, trailing) →
      ScansTo (line + 1) kept false (next :: others) later →
      ScansTo line levels spaced (source :: next :: others)
        (layoutTokens line spaced kinds ++ inner ++ ⟨.newline, "\n", line, trailing⟩ :: later)

theorem scansTo_of_scanLines {line : Nat} {levels : List Nat} {spaced : Bool}
    {lines : List (List Char)} {tokens : List Token}
    (scanned : scanLines line levels spaced lines = .ok tokens) :
    ScansTo line levels spaced lines tokens := by
  fun_induction scanLines line levels spaced lines generalizing tokens with
  | case1 line levels spaced =>
      cases scanned
      exact .nothing line levels spaced
  | case2 line levels spaced =>
      cases scanned
      exact .silent line levels spaced
  | case3 line levels spaced source width body measured silent next others ih =>
      exact .passed (by rwa [measured]) (ih scanned)
  | case4 => cases scanned
  | case5 => cases scanned
  | case6 =>
      rename_i line levels spaced source width body measured loud kinds kept opened inner trailing
        found opening
      cases scanned
      exact .last (by rwa [measured]) (by rwa [measured]) (by rwa [measured])
  | case7 =>
      rename_i line levels spaced source width body measured loud kinds kept opened inner trailing
        found opening next others ih
      cases rest : scanLines (line + 1) kept false (next :: others) with
      | error error => rw [rest] at scanned; cases scanned
      | ok later =>
          rw [rest] at scanned
          cases scanned
          exact .row (by rwa [measured]) (by rwa [measured]) (by rwa [measured]) (ih rest)

theorem ScansTo.lined {line : Nat} {levels : List Nat} {spaced : Bool} {lines : List (List Char)}
    {tokens : List Token} (scans : ScansTo line levels spaced lines tokens) :
    Lined line tokens := by
  induction scans with
  | nothing line levels spaced => exact lined_closing line spaced levels
  | silent line levels spaced => exact lined_closing line spaced levels
  | passed _ _ ih => exact ih.later
  | @last line _ kept _ trailing _ _ _ _ opened found =>
      exact (lined_closing line trailing kept).row (.closing closing_marks) opened found
  | @row line _ _ _ trailing _ _ _ _ _ _ _ opened found _ ih =>
      exact (ih.newline trailing).row (.ending rfl (nameOf?_newline line trailing) ih.from_line)
        opened found

theorem scan_lined {source : String} {tokens : List Token} (scanned : scan source = .ok tokens) :
    Lined 1 tokens := (scansTo_of_scanLines scanned).lined

end EventScript.Token
