import EventScript.Proofs.Token.Stack

/-!
The balance of the marks for indentation. Opened and closed levels pair up as brackets do, and their
marks stand in groups at the starts of lines and at the end of the script. A group opens one level
or closes levels. Only a last line of blanks that is not passed over, since not all of them can be
in a margin, opens a level that is closed at once.
-/

namespace EventScript.Token

open EventScript.Program (isLineEnd)

def marks (kind : TokenKind) (tokens : List Token) : Nat := tokens.countP (·.kind = kind)

def isMark (token : Token) : Bool := token.kind = .indent || token.kind = .dedent

/-- Marks of levels with no more of them before or behind. -/
structure Grouped (before group after : List Token) : Prop where
  some : group ≠ []
  inside : ∀ token ∈ group, isMark token = true
  before : ∀ token ∈ before.getLast?, isMark token = false
  after : ∀ token ∈ after.head?, isMark token = false

def Uniform (group : List Token) : Prop :=
  (∃ token, group = [token] ∧ token.kind = .indent) ∨ ∀ token ∈ group, token.kind = .dedent

def Finished (tokens : List Token) : Prop := ∃ token, tokens = [token] ∧ token.kind = .finish

/-- A line of blanks, and perhaps a remark behind them, with a blank that no margin is made of. -/
def IsHollow (line : List Char) : Prop :=
  ∃ blanks remark, line = blanks ++ remark ∧ (∀ char ∈ blanks, Text.isBlank char = true) ∧
    (∃ char ∈ blanks, isMargin char = false) ∧ ∀ char ∈ remark.head?, char = '#'

section Brackets

variable {heights : Nat → Nat} {row : Option Nat} {around : Nat} {tokens : List Token}

theorem marks_cons (kind : TokenKind) (token : Token) (tokens : List Token) :
    marks kind (token :: tokens) = marks kind tokens + if token.kind = kind then 1 else 0 := by
  simp [marks, List.countP_cons]

/-- In no front part more levels are closed than were open and opened, and in the end all are. -/
structure Nests (around : Nat) (tokens : List Token) : Prop where
  fronts : ∀ front, front <+: tokens → marks .dedent front ≤ around + marks .indent front
  whole : marks .dedent tokens = around + marks .indent tokens

theorem Nests.cons {token : Token} {after : Nat} (nests : Nests after tokens)
    (moves : after + (if token.kind = .dedent then 1 else 0) =
      around + if token.kind = .indent then 1 else 0) : Nests around (token :: tokens) where
  fronts front start := by
    cases front with
    | nil => exact Nat.zero_le _
    | cons first front =>
        obtain ⟨rfl, start'⟩ := List.cons_prefix_cons.mp start
        have later := nests.fronts front start'
        rw [marks_cons, marks_cons]
        omega
  whole := by
    have later := nests.whole
    rw [marks_cons, marks_cons]
    omega

theorem nests_nil : Nests 0 [] := by
  refine ⟨fun front start => ?_, rfl⟩
  rw [List.prefix_nil.mp start]
  exact Nat.le_refl _

theorem Layered.nests (layered : Layered heights row around tokens) : Nests around tokens := by
  induction layered with
  | inside inner same level later next ih =>
      refine ih.cons ?_
      rw [if_neg fun kind => ?_, if_neg fun kind => ?_]
      · rw [kind] at inner
        cases inner
      · rw [kind] at inner
        cases inner
  | newline kind unnamed next ih => exact ih.cons (by simp [kind])
  | indent kind unnamed next ih => exact ih.cons (by simp [kind])
  | dedent kind unnamed next ih => exact ih.cons (by simp [kind])
  | finish kind unnamed => exact nests_nil.cons (by simp [kind])

def EndsOnce (tokens : List Token) : Prop :=
  ∃ front last, tokens = front ++ [last] ∧ last.kind = .finish ∧
    ∀ token ∈ front, token.kind ≠ .finish

theorem EndsOnce.cons {token : Token} (ends : EndsOnce tokens) (other : token.kind ≠ .finish) :
    EndsOnce (token :: tokens) := by
  obtain ⟨front, last, rfl, kind, others⟩ := ends
  exact ⟨token :: front, last, rfl, kind, List.forall_mem_cons.mpr ⟨other, others⟩⟩

theorem Layered.endsOnce (layered : Layered heights row around tokens) : EndsOnce tokens := by
  induction layered with
  | inside inner same level later next ih =>
      refine ih.cons fun kind => ?_
      rw [kind] at inner
      cases inner
  | newline kind unnamed next ih => exact ih.cons (by simp [kind])
  | indent kind unnamed next ih => exact ih.cons (by simp [kind])
  | dedent kind unnamed next ih => exact ih.cons (by simp [kind])
  | @finish row token kind unnamed => exact ⟨[], token, rfl, kind, by simp⟩

end Brackets

/-- Tokens with their marks in groups; `start` says whether a line begins with them, and `hollow`
whether the last line may open a level without holding a token. -/
inductive Laid (hollow : Prop) : Bool → List Token → Prop
  | inner {start : Bool} {token : Token} {rest : List Token} (plain : isMark token = false)
      (other : token.kind ≠ .newline) (next : Laid hollow false rest) :
      Laid hollow start (token :: rest)
  | newline {start : Bool} {token : Token} {rest : List Token} (kind : token.kind = .newline)
      (next : Laid hollow true rest) : Laid hollow start (token :: rest)
  | group {group rest : List Token} (marked : ∀ token ∈ group, isMark token = true)
      (uniform : Uniform group) (solid : ∀ token ∈ rest.head?, isMark token = false)
      (next : Laid hollow false rest) : Laid hollow true (group ++ rest)
  | closing {start : Bool} {group rest : List Token}
      (closed : ∀ token ∈ group, token.kind = .dedent)
      (finished : Finished rest) : Laid hollow start (group ++ rest)
  | hollow {token : Token} {group rest : List Token} (last : hollow) (opened : token.kind = .indent)
      (closed : ∀ token ∈ group, token.kind = .dedent) (finished : Finished rest) :
      Laid hollow true (token :: group ++ rest)

section Groups

variable {before group after : List Token}

theorem head_not_mark {front tokens : List Token} (marked : ∀ token ∈ front, isMark token = true)
    (solid : ∀ token ∈ (front ++ tokens).head?, isMark token = false) : front = [] := by
  cases front with
  | nil => rfl
  | cons first front =>
      have plain := solid first rfl
      rw [marked first List.mem_cons_self] at plain
      cases plain

theorem Grouped.place (grouped : Grouped before group after) {own rest : List Token}
    (marked : ∀ token ∈ own, isMark token = true)
    (solid : ∀ token ∈ rest.head?, isMark token = false)
    (split : own ++ rest = before ++ (group ++ after)) :
    (before = [] ∧ group = own ∧ after = rest) ∨
      ∃ front, front ≠ [] ∧ before = own ++ front ∧ rest = front ++ (group ++ after) ∧
        Grouped front group after := by
  rcases List.append_eq_append_iff.mp split with ⟨front, rfl, rfl⟩ | ⟨back, rfl, whole⟩
  · have some : front ≠ [] := by
      rintro rfl
      exact grouped.some (head_not_mark grouped.inside solid)
    refine .inr ⟨front, some, rfl, rfl, grouped.some, grouped.inside, ?_, grouped.after⟩
    have last := grouped.before
    rwa [List.getLast?_append_of_ne_nil _ some] at last
  · obtain rfl : before = [] := by
      rcases List.eq_nil_or_concat before with none | ⟨front, last, rfl⟩
      · exact none
      · have plain := grouped.before last (by simp)
        rw [marked last (by simp)] at plain
        cases plain
    refine .inl ⟨rfl, ?_⟩
    rcases List.append_eq_append_iff.mp whole with ⟨more, rfl, rfl⟩ | ⟨more, rfl, rfl⟩
    · have inside : ∀ token ∈ more, isMark token = true := fun token member =>
        marked token (List.mem_append_right group member)
      rw [head_not_mark inside grouped.after]
      simp
    · have inside : ∀ token ∈ more, isMark token = true := fun token member =>
        grouped.inside token (List.mem_append_right back member)
      rw [head_not_mark inside solid]
      simp

theorem Grouped.tail (grouped : Grouped before group after) {token : Token} {rest : List Token}
    (plain : isMark token = false) (split : token :: rest = before ++ (group ++ after)) :
    ∃ front, before = token :: front ∧ rest = front ++ (group ++ after) ∧
      Grouped front group after := by
  have solid : ∀ other ∈ (token :: rest).head?, isMark other = false := by simpa using plain
  have unmarked : ∀ other ∈ ([] : List Token), isMark other = true := nofun
  obtain ⟨_, none, _⟩ | ⟨_, some, rfl, whole, own⟩ := grouped.place unmarked solid split
  · exact absurd none grouped.some
  · cases before with
    | nil => exact absurd rfl some
    | cons first front =>
        obtain ⟨rfl, rfl⟩ := List.cons.inj whole
        refine ⟨front, rfl, rfl, own.some, own.inside, ?_, own.after⟩
        intro last member
        refine own.before last ?_
        cases front with
        | nil => cases member
        | cons next front => rwa [List.getLast?_cons_cons]

variable {hollow : Prop} {start : Bool} {tokens : List Token}

structure Sited (hollow : Prop) (start : Bool) (before group after : List Token) : Prop where
  place : before = [] ∧ start = true ∨ (∃ last ∈ before.getLast?, last.kind = .newline) ∨
    Finished after
  uniform : Uniform group ∨ hollow ∧ Finished after ∧ ∃ first rest, group = first :: rest ∧
    first.kind = .indent ∧ ∀ token ∈ rest, token.kind = .dedent

theorem Sited.behind {inner : Bool} {front : List Token}
    (sited : Sited hollow inner front group after) (own : List Token)
    (ended : inner = true → ∃ last ∈ own.getLast?, last.kind = .newline) :
    Sited hollow start (own ++ front) group after where
  place := by
    rcases sited.place with ⟨rfl, begins⟩ | ⟨last, member, kind⟩ | finished
    · rw [List.append_nil]
      exact .inr (.inl (ended begins))
    · refine .inr (.inl ⟨last, ?_, kind⟩)
      rw [List.getLast?_append, member]
      rfl
    · exact .inr (.inr finished)
  uniform := sited.uniform

theorem Finished.behind (finished : Finished tokens) {front : List Token} (some : front ≠ [])
    (split : tokens = front ++ (group ++ after)) : group = [] := by
  obtain ⟨token, rfl, _⟩ := finished
  have length := congrArg List.length split
  have least := List.length_pos_iff.mpr some
  simp only [List.length_append, List.length_singleton] at length
  exact List.length_eq_zero_iff.mp (by omega)

theorem Finished.solid (finished : Finished tokens) :
    ∀ token ∈ tokens.head?, isMark token = false := by
  obtain ⟨last, rfl, kind⟩ := finished
  rintro token ⟨⟩
  simp [isMark, kind]

theorem isMark_dedents (closed : ∀ token ∈ group, token.kind = .dedent) :
    ∀ token ∈ group, isMark token = true := fun token member => by
  simp [isMark, closed token member]

theorem Laid.sited (laid : Laid hollow start tokens) (grouped : Grouped before group after)
    (split : tokens = before ++ (group ++ after)) : Sited hollow start before group after := by
  induction laid generalizing before with
  | @inner start token rest plain other next ih =>
      obtain ⟨front, rfl, whole, own⟩ := grouped.tail plain split
      exact (ih own whole).behind [token] nofun
  | @newline start token rest kind next ih =>
      obtain ⟨front, rfl, whole, own⟩ := grouped.tail (by simp [isMark, kind]) split
      exact (ih own whole).behind [token] fun _ => ⟨token, rfl, kind⟩
  | group marked uniform solid next ih =>
      obtain ⟨rfl, rfl, rfl⟩ | ⟨front, some, rfl, whole, own⟩ := grouped.place marked solid split
      · exact ⟨.inl ⟨rfl, rfl⟩, .inl uniform⟩
      · exact (ih own whole).behind _ nofun
  | closing closed finished =>
      obtain ⟨rfl, rfl, rfl⟩ | ⟨front, some, rfl, whole, own⟩ :=
        grouped.place (isMark_dedents closed) finished.solid split
      · exact ⟨.inr (.inr finished), .inl (.inr closed)⟩
      · exact absurd (finished.behind some whole) own.some
  | @hollow token group rest last opened closed finished =>
      have marked : ∀ other ∈ token :: group, isMark other = true :=
        List.forall_mem_cons.mpr ⟨by simp [isMark, opened], isMark_dedents closed⟩
      obtain ⟨rfl, rfl, rfl⟩ | ⟨front, some, rfl, whole, own⟩ :=
        grouped.place marked finished.solid split
      · exact ⟨.inr (.inr finished), .inr ⟨last, finished, token, group, rfl, opened, closed⟩⟩
      · exact absurd (finished.behind some whole) own.some

end Groups

section Rows

variable {line : Nat} {levels kept : List Nat} {spaced : Bool} {kinds : List TokenKind}

theorem opening_uniform {width : Nat} (opened : indentTo width levels = .ok (kinds, kept)) :
    Uniform (layoutTokens line spaced kinds) := by
  unfold indentTo at opened
  dsimp only at opened
  split at opened
  · cases opened
    exact .inl ⟨_, rfl, rfl⟩
  split at opened
  · cases opened
    refine .inr fun token member => ?_
    exact List.eq_of_mem_replicate (layoutTokens_line token member).2.1
  · cases opened

theorem closing_split (line : Nat) (spaced : Bool) (levels : List Nat) :
    ∃ group rest, closing line spaced levels = group ++ rest ∧
      (∀ token ∈ group, token.kind = .dedent) ∧ Finished rest := by
  obtain ⟨later, split⟩ := Layered.layoutTokens_append line spaced
    (List.replicate (levels.length - 1) .dedent) [.finish]
  refine ⟨_, _, split, fun token member => ?_, _, rfl, rfl⟩
  exact List.eq_of_mem_replicate (layoutTokens_line token member).2.1

theorem closing_laid {hollow : Prop} (line : Nat) (spaced : Bool) (levels : List Nat)
    (start : Bool) : Laid hollow start (closing line spaced levels) := by
  obtain ⟨group, rest, split, closed, finished⟩ := closing_split line spaced levels
  rw [split]
  exact .closing closed finished

theorem isMark_inside {token : Token} (inside : isLineEnd token.kind = false) :
    isMark token = false := by
  refine Bool.eq_false_iff.mpr fun mark => ?_
  simp only [isMark, Bool.or_eq_true, decide_eq_true_eq] at mark
  rcases mark with kind | kind
  all_goals
    rw [kind] at inside
    cases inside

theorem body_laid {hollow : Prop} {inner rest : List Token} {operand trailing : Bool}
    {chars : List Char} (scanned : scanBody line operand spaced chars = .ok (inner, trailing))
    (next : ∀ start, Laid hollow start rest) (start : Bool) :
    Laid hollow start (inner ++ rest) := by
  have inside := scanBody_inside scanned
  clear scanned
  induction inner generalizing start with
  | nil => exact next start
  | cons first inner ih =>
      obtain ⟨⟨_, own⟩, others⟩ := List.forall_mem_cons.mp inside
      refine .inner ?_ ?_ (ih false others)
      · exact isMark_inside own
      · rintro kind
        rw [kind] at own
        cases own

theorem opening_laid {hollow : Prop} {width : Nat} {rest : List Token}
    (opened : indentTo width levels = .ok (kinds, kept))
    (solid : ∀ token ∈ rest.head?, isMark token = false) (next : ∀ start, Laid hollow start rest) :
    Laid hollow true (layoutTokens line spaced kinds ++ rest) := by
  refine .group (fun token member => ?_) (opening_uniform opened) solid (next false)
  rcases opening_uniform opened with ⟨only, same, kind⟩ | closed
  · rw [same, List.mem_singleton] at member
    simp [isMark, member, kind]
  · simp [isMark, closed token member]

theorem body_solid {operand trailing : Bool} {chars : List Char} {inner rest : List Token}
    (scanned : scanBody line operand spaced chars = .ok (inner, trailing))
    (solid : inner = [] → ∀ token ∈ rest.head?, isMark token = false) :
    ∀ token ∈ (inner ++ rest).head?, isMark token = false := by
  cases inner with
  | nil => exact solid rfl
  | cons first inner =>
      have own := (scanBody_inside scanned first List.mem_cons_self).2
      rintro token ⟨⟩
      exact isMark_inside own

theorem scanBody_none {operand trailing : Bool} {chars : List Char}
    (scanned : scanBody line operand spaced chars = .ok ([], trailing)) :
    ∃ blanks remark, chars = blanks ++ remark ∧ (∀ char ∈ blanks, Text.isBlank char = true) ∧
      ∀ char ∈ remark.head?, char = '#' := by
  induction chars generalizing operand spaced with
  | nil => exact ⟨[], [], rfl, nofun, nofun⟩
  | cons first after ih =>
      rw [scanBody] at scanned
      split at scanned
      · next mark => exact ⟨[], first :: after, rfl, nofun, by simpa using mark⟩
      split at scanned
      · next blank =>
        obtain ⟨blanks, remark, rfl, all, marked⟩ := ih scanned
        exact ⟨first :: blanks, remark, rfl, List.forall_mem_cons.mpr ⟨blank, all⟩, marked⟩
      split at scanned
      · cases scanned
      · dsimp only at scanned
        split at scanned <;> cases scanned

theorem isHollow_of_scanBody {source : List Char} {trailing : Bool}
    (loud : ¬isSilent (measure source).2 = true)
    (scanned : scanBody line true true (measure source).2 = .ok ([], trailing)) :
    IsHollow source := by
  obtain ⟨blanks, remark, split, all, marked⟩ := scanBody_none scanned
  have stops := List.head?_dropWhile_not isMargin source
  have whole := List.takeWhile_append_dropWhile (p := isMargin) (l := source)
  rw [measure_eq] at split loud
  change source.dropWhile isMargin = _ at split
  change ¬isSilent (source.dropWhile isMargin) = true at loud
  rw [split] at stops whole loud
  refine ⟨source.takeWhile isMargin ++ blanks, remark, ?_, ?_, ?_, marked⟩
  · rw [List.append_assoc, whole]
  · rw [List.forall_mem_append]
    exact ⟨fun char member => isMargin_blank (List.mem_takeWhile_imp member), all⟩
  · cases blanks with
    | nil =>
        refine absurd ?_ loud
        cases remark with
        | nil => rfl
        | cons first remark => simpa [isSilent] using marked first rfl
    | cons first blanks =>
        exact ⟨first, by simp, by simpa using stops⟩

end Rows

section Lines

variable {line : Nat} {levels : List Nat} {spaced : Bool}

theorem ScansTo.laid {lines : List (List Char)} {tokens : List Token}
    (scans : ScansTo line levels spaced lines tokens) :
    Laid (∃ last ∈ lines.getLast?, IsHollow last) true tokens := by
  induction scans with
  | nothing line levels spaced => exact closing_laid line spaced levels true
  | silent line levels spaced => exact closing_laid line spaced levels true
  | passed _ _ ih =>
      rw [List.getLast?_cons_cons]
      exact ih
  | @last line _ kept spaced trailing source kinds inner loud opened found =>
      rw [List.append_assoc]
      cases inner with
      | cons first inner =>
          have some : first :: inner ≠ [] := List.cons_ne_nil first inner
          exact opening_laid opened (body_solid found fun none => absurd none some)
            (body_laid found (closing_laid line trailing kept))
      | nil =>
          obtain ⟨group, rest, split, closed, finished⟩ := closing_split line trailing kept
          rw [List.nil_append, split]
          have uniform : Uniform (layoutTokens line spaced kinds) := opening_uniform opened
          rcases uniform with ⟨only, same, kind⟩ | dedents
          · rw [same]
            change Laid _ true (only :: group ++ rest)
            exact .hollow ⟨source, rfl, isHollow_of_scanBody loud found⟩ kind closed finished
          · rw [← List.append_assoc]
            exact .closing (List.forall_mem_append.mpr ⟨dedents, closed⟩) finished
  | row _ opened found _ ih =>
      rw [List.getLast?_cons_cons, List.append_assoc]
      exact opening_laid opened (body_solid found fun _ => by simp [isMark])
        (body_laid found fun start => .newline rfl ih)

end Lines

/-- The marks for indentation among the tokens of a script. -/
structure Balanced (lines : List (List Char)) (tokens : List Token) : Prop where
  ends : EndsOnce tokens
  nested : ∀ front, front <+: tokens → marks .dedent front ≤ marks .indent front
  even : marks .dedent tokens = marks .indent tokens
  grouped : ∀ before group after, tokens = before ++ (group ++ after) → Grouped before group after →
    Sited (∃ last ∈ lines.getLast?, IsHollow last) true before group after

/-- The marks for indentation are balanced and stand in groups, and an indentation fault is reported
just for the first line that is out of step. Before each line the widths of the open levels decrease
to the bottom, and they are all that is handed on of the lines above. -/
theorem layout_balanced (source : String) :
    (∀ tokens, scan source = .ok tokens → Balanced (linesOf source) tokens) ∧
      (∀ number, scan source = .error ⟨.indentation, number⟩ ↔
        OutOfStep (linesOf source) number) ∧
      ∀ earlier later, linesOf source = earlier ++ later → ∀ front levels blank,
        scanRows 1 [0] true earlier = .ok (front, levels, blank) →
        Stack (widthsOf earlier) levels ∧ (later ≠ [] →
          scan source = (scanLines (1 + earlier.length) levels blank later).map (front ++ ·)) := by
  refine ⟨fun tokens scanned => ?_, fun number => scan_outOfStep, ?_⟩
  · have layered := scan_layered scanned
    obtain ⟨nested, even⟩ := layered.nests
    refine ⟨layered.endsOnce, by simpa using nested, by simpa using even, ?_⟩
    intro before group after split grouped
    exact (scansTo_of_scanLines scanned).laid.sited grouped split
  · intro earlier later split front levels blank read
    refine ⟨by simpa using scanRows_stack .nil read, fun more => ?_⟩
    change scanLines 1 [0] true (linesOf source) = _
    rw [split, scanLines_append 1 [0] true earlier more, read]
    rfl

theorem nested_rows_balanced :
    let source := "on go:\n  if true:\n    stop\n# done\nlog"
    let earlier := ["on go:".toList, "  if true:".toList, "    stop".toList]
    let later := ["# done".toList, "log".toList]
    let front : List Token := [⟨.keyword .onEvent, "on", 1, true⟩, ⟨.word "go", "go", 1, true⟩,
      ⟨.symbol .colon, ":", 1, false⟩, ⟨.newline, "\n", 1, false⟩, ⟨.indent, "", 2, false⟩,
      ⟨.keyword .ifTrue, "if", 2, true⟩, ⟨.bool true, "true", 2, true⟩,
      ⟨.symbol .colon, ":", 2, false⟩, ⟨.newline, "\n", 2, false⟩, ⟨.indent, "", 3, false⟩,
      ⟨.keyword .breaking, "stop", 3, true⟩, ⟨.newline, "\n", 3, false⟩]
    let tokens := front ++ [⟨.dedent, "", 5, false⟩, ⟨.dedent, "", 5, false⟩,
      ⟨.word "log", "log", 5, true⟩, ⟨.finish, "", 5, false⟩]
    (scan source = .ok tokens ∧ Balanced (linesOf source) tokens) ∧
      linesOf source = earlier ++ later ∧ later ≠ [] ∧
      scanRows 1 [0] true earlier = .ok (front, [4, 2, 0], false) ∧
      Stack (widthsOf earlier) [4, 2, 0] ∧
      scan source = (scanLines 4 [4, 2, 0] false later).map (front ++ ·) := by
  intro source earlier later front tokens
  have scanned : scan source = .ok tokens := by decide +kernel
  have split : linesOf source = earlier ++ later := by decide +kernel
  have more : later ≠ [] := by simp [later]
  have read : scanRows 1 [0] true earlier = .ok (front, [4, 2, 0], false) := by decide +kernel
  obtain ⟨balanced, _, stacked⟩ := layout_balanced source
  obtain ⟨stack, handed⟩ := stacked earlier later split front [4, 2, 0] false read
  exact ⟨⟨scanned, balanced tokens scanned⟩, split, more, read, stack, handed more⟩

/-- Blanks that no margin is made of keep a line of blanks from being passed over: it can be out of
step itself, and at the end of the script its marks run together with those that close it. -/
theorem blank_line_breaks_layout :
    (¬∀ (source : String) (number : Nat) (line : List Char),
        (linesOf source)[number - 1]? = some line →
        (∀ char ∈ line, Text.isBlank char = true) →
        scan source ≠ .error ⟨.indentation, number⟩) ∧
      ¬∀ (source : String) (tokens before group after : List Token), scan source = .ok tokens →
        tokens = before ++ (group ++ after) → Grouped before group after → Uniform group := by
  constructor
  · intro claim
    have failed : scan "if a:\n    b\n  \x0c\n    c\n" = .error ⟨.indentation, 3⟩ := by
      decide +kernel
    exact claim _ 3 [' ', ' ', '\x0c'] (by decide +kernel) (by simp [Text.isBlank]) failed
  · intro claim
    have scanned : scan "  \x0c" =
        .ok [⟨.indent, "", 1, true⟩, ⟨.dedent, "", 1, true⟩, ⟨.finish, "", 1, false⟩] := by
      decide +kernel
    have grouped : Grouped [] [⟨.indent, "", 1, true⟩, ⟨.dedent, "", 1, true⟩]
        [⟨.finish, "", 1, false⟩] := ⟨by simp, by simp [isMark], by simp, by simp [isMark]⟩
    rcases claim _ _ [] _ _ scanned rfl grouped with ⟨only, same, _⟩ | closed
    · simp at same
    · cases closed _ List.mem_cons_self

end EventScript.Token
