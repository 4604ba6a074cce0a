import EventScript.Proofs.Program.Forward
import EventScript.Proofs.Token.Lines

/-!
Which commands may stand on one line. The metadata of a command runs up to the end of its line, so
that no other command begins on the line of one that has aliases. Commands without metadata may
share a line.
-/

namespace EventScript.Program

open EventScript.Program.Parser
open EventScript.Token (LineAhead Lined)

abbrev Along {α : Type} (line : Nat) (parser : Parser α) : Prop :=
  Keeps (fun cursor => LineAhead line cursor.rest) parser

section Along

variable {line : Nat} {cursor : Cursor}

theorem LineAhead.next (ahead : LineAhead line cursor.rest)
    (inside : isLineEnd cursor.peek.kind = false) : LineAhead line cursor.next.rest := by
  obtain ⟨rest, endLine⟩ := cursor
  cases rest with
  | nil => exact ahead
  | cons token rest => exact ahead.tail inside

theorem LineAhead.next_kind {kind : TokenKind} (inside : isLineEnd kind = false)
    (ahead : LineAhead line cursor.rest) (same : cursor.peek.kind = kind) :
    LineAhead line cursor.next.rest :=
  LineAhead.next ahead (same ▸ inside)

theorem LineAhead.inside {name : String} (ahead : LineAhead line cursor.rest)
    (named : nameOf? cursor.peek = some name) : isLineEnd cursor.peek.kind = false := by
  obtain ⟨rest, endLine⟩ := cursor
  cases rest with
  | nil => cases named
  | cons token rest => exact ahead.named named

theorem taking_along (line : Nat) :
    Taking (fun cursor => LineAhead line cursor.rest) (fun cursor => LineAhead line cursor.rest)
      fun _ => True where
  take ahead inside := ⟨LineAhead.next ahead inside, trivial⟩
  name ahead named := LineAhead.next ahead (LineAhead.inside ahead named)
  still := id

theorem expectName_along (what : String) : Along line (expectName what) :=
  (taking_along line).expectName.keeps

theorem parameters_along : Along line parameters := (parameters_take (taking_along line)).keeps

end Along

def AtEnd (cursor : Cursor) : Prop :=
  isLineEnd cursor.peek.kind = true ∨
    cursor.peek.kind = .symbol .colon ∧ isLineEnd cursor.peekSecond.kind = true

def AtStop (cursor : Cursor) : Prop :=
  AtEnd cursor ∨ ∃ metadata, metadataAhead cursor = .ok (some metadata, cursor)

theorem metadataStep_cases {cursor after : Cursor} {content : String} {next : String ⊕ String}
    (reads : metadataStep content cursor = .ok (next, after)) :
    (next.isRight = true ∧ after = cursor ∧ AtStop cursor) ∨
      (next.isLeft = true ∧ isLineEnd cursor.peek.kind = false ∧ after = cursor.next) := by
  obtain ⟨token, between, looked, reads⟩ := bind_ok.mp reads
  cases looked
  obtain ⟨found, between, announced, reads⟩ := bind_ok.mp reads
  obtain ⟨rfl, _⟩ := metadataAhead_cases announced
  split at reads
  · rename_i stops
    cases reads
    refine .inl ⟨rfl, rfl, ?_⟩
    rcases Bool.or_eq_true_iff.mp stops with ended | some
    · exact .inl (.inl ended)
    · obtain ⟨metadata, rfl⟩ := Option.isSome_iff_exists.mp some
      exact .inr ⟨metadata, announced⟩
  · rename_i goes
    obtain ⟨second, between, looked, reads⟩ := bind_ok.mp reads
    cases looked
    split at reads
    · rename_i colon
      cases reads
      simp only [Bool.and_eq_true, Bool.or_eq_true, beq_iff_eq] at colon
      refine .inl ⟨rfl, rfl, .inl (.inr ⟨colon.1, ?_⟩)⟩
      rcases colon.2 with newline | finish
      · rw [newline]; rfl
      · rw [finish]; rfl
    · cases reads
      simp only [Bool.or_eq_true, not_or, Bool.not_eq_true] at goes
      exact .inr ⟨rfl, goes.1, rfl⟩

theorem metadataText_stops {line : Nat} {cursor after : Cursor} {content : String}
    (ahead : LineAhead line cursor.rest) (reads : metadataText cursor = .ok (content, after)) :
    LineAhead line after.rest ∧ AtStop after := by
  refine loop_invariant (fun _ cursor => LineAhead line cursor.rest)
    (fun _ cursor => LineAhead line cursor.rest ∧ AtStop cursor) ?_ ?_ ahead reads
  · intro content cursor next after ahead reads
    rcases metadataStep_cases reads with ⟨stops, _⟩ | ⟨_, inside, rfl⟩
    · cases stops
    · exact LineAhead.next ahead inside
  · intro content cursor result after ahead reads
    rcases metadataStep_cases reads with ⟨_, rfl, stop⟩ | ⟨goes, _⟩
    · exact ⟨ahead, stop⟩
    · cases goes

theorem describeStep_cases {line : Nat} {cursor after : Cursor} {command : Command}
    {next : Command ⊕ Command} (ahead : LineAhead line cursor.rest)
    (reads : describeStep command cursor = .ok (next, after)) :
    (next = .inr command ∧ after = cursor ∧
      ∀ metadata, metadataAhead cursor ≠ .ok (some metadata, cursor)) ∨
    (∃ described, next = .inl described ∧ described.line = command.line ∧
      LineAhead line after.rest ∧ AtStop after) := by
  obtain ⟨found, between, announced, reads⟩ := bind_ok.mp reads
  obtain ⟨rfl, headed⟩ := metadataAhead_cases announced
  cases found with
  | none =>
      cases reads
      exact .inl ⟨rfl, rfl, fun metadata found => by rw [announced] at found; cases found⟩
  | some metadata =>
      obtain ⟨⟨name, named⟩, colon⟩ := headed metadata rfl
      have pastName := LineAhead.next ahead (LineAhead.inside ahead named)
      have pastColon := LineAhead.next_kind rfl pastName colon
      obtain ⟨_, _, taken, reads⟩ := bind_ok.mp reads
      cases taken
      obtain ⟨_, _, taken, reads⟩ := bind_ok.mp reads
      cases taken
      obtain ⟨content, between, spelled, reads⟩ := bind_ok.mp reads
      have stops := metadataText_stops pastColon spelled
      cases metadata <;> cases reads <;> exact .inr ⟨_, rfl, rfl, stops⟩

theorem describe_ends {line : Nat} {cursor after : Cursor} {bare described : Command}
    (plain : bare.aliases = []) (begins : bare.line = line) (ahead : LineAhead line cursor.rest)
    (reads : loop describeStep bare cursor = .ok (described, after)) :
    described.line = line ∧ LineAhead line after.rest ∧
      (described.aliases = [] ∨ AtEnd after) := by
  refine loop_invariant
    (fun command cursor => command.line = line ∧ LineAhead line cursor.rest ∧
      (command.aliases = [] ∨ AtStop cursor))
    (fun command cursor => command.line = line ∧ LineAhead line cursor.rest ∧
      (command.aliases = [] ∨ AtEnd cursor)) ?_ ?_ ⟨begins, ahead, .inl plain⟩ reads
  · rintro command cursor next after ⟨begins, ahead, _⟩ reads
    rcases describeStep_cases ahead reads with ⟨last, _⟩ | ⟨described, same, sameLine, stops⟩
    · cases last
    · cases same
      exact ⟨sameLine.trans begins, stops.1, .inr stops.2⟩
  · rintro command cursor result after ⟨begins, ahead, stopped⟩ reads
    rcases describeStep_cases ahead reads with ⟨last, rfl, unannounced⟩ | ⟨_, goes, _⟩
    · cases last
      refine ⟨begins, ahead, stopped.imp_right fun stop => ?_⟩
      exact stop.resolve_right fun ⟨metadata, found⟩ => unannounced metadata found
    · cases goes

theorem body_later {line : Nat} {cursor after : Cursor} {block : Block}
    (ahead : LineAhead line cursor.rest) (ended : AtEnd cursor)
    (reads : body cursor = .ok (block, after)) {keyword : Keyword} {token : Token}
    (member : token ∈ after.rest) (kind : token.kind = .keyword keyword) : line < token.line := by
  obtain ⟨eaten, between, taken, reads⟩ := bind_ok.mp reads
  have pastColon : LineAhead line between.rest ∧ isLineEnd between.peek.kind = true := by
    rcases eat_cases taken with ⟨colon, rfl⟩ | ⟨other, rfl⟩
    · refine ⟨LineAhead.next_kind rfl ahead colon, ?_⟩
      rcases ended with ended | ⟨_, ended⟩
      · rw [colon] at ended; cases ended
      · exact ended
    · exact ⟨ahead, ended.resolve_right fun colon => other colon.1⟩
  have within : Forward between.rest (blockWithin nestingLimit) := blockWithin_forward nestingLimit
  have found := (within.kept (List.suffix_refl _) reads).subset member
  refine pastColon.1.later (fun first atHead => ?_) found kind
  have head : between.peek = first := by
    rw [Cursor.peek, List.headD_eq_head?_getD, atHead, Option.getD_some]
  exact head ▸ pastColon.2

theorem command_alone {cursor after : Cursor} {found : Command}
    (reads : command cursor = .ok (found, after)) (ahead : LineAhead cursor.peek.line cursor.rest)
    (inside : isLineEnd cursor.peek.kind = false) :
    found.line = cursor.peek.line ∧ (found.aliases ≠ [] → ∀ token ∈ after.rest,
      ∀ keyword, token.kind = .keyword keyword → found.line < token.line) := by
  obtain ⟨token, between, taken, reads⟩ := bind_ok.mp reads
  cases taken
  obtain ⟨name, between, named, reads⟩ := bind_ok.mp reads
  have pastName := (expectName_along _).kept (LineAhead.next ahead inside) named
  obtain ⟨names, between, listed, reads⟩ := bind_ok.mp reads
  have pastNames := parameters_along.kept pastName listed
  obtain ⟨described, between, told, reads⟩ := bind_ok.mp reads
  obtain ⟨sameLine, pastHead, ended⟩ := describe_ends rfl rfl pastNames told
  obtain ⟨block, between, filled, reads⟩ := bind_ok.mp reads
  cases reads
  refine ⟨sameLine, fun aliased token member keyword kind => ?_⟩
  exact sameLine ▸ body_later pastHead (ended.resolve_left aliased) filled member kind

def LinesApart : Item → Item → Prop
  | .command first, .command second => first.aliases ≠ [] → first.line < second.line
  | _, _ => True

/-- A command with aliases stands on a line before those of all commands that are still to come. -/
def LinesBefore (tokens : List Token) : Item → Prop
  | .command command => command.aliases ≠ [] → ∀ token ∈ tokens,
      token.kind = .keyword .command → command.line < token.line
  | _ => True

def BeginsIn (tokens : List Token) : Item → Prop
  | .command command => ∃ token ∈ tokens, token.kind = .keyword .command ∧
      command.line = token.line
  | _ => True

theorem LinesBefore.apart {tokens : List Token} {first second : Item}
    (before : LinesBefore tokens first) (begins : BeginsIn tokens second) :
    LinesApart first second := by
  cases first with
  | command first =>
      cases second with
      | command second =>
          obtain ⟨token, member, kind, sameLine⟩ := begins
          exact fun aliased => sameLine ▸ before aliased token member kind
      | _ => trivial
  | _ => trivial

theorem LinesBefore.mono {tokens rest : List Token} {item : Item} (suffix : rest <:+ tokens)
    (before : LinesBefore tokens item) : LinesBefore rest item := by
  cases item with
  | command command =>
      exact fun aliased token member kind => before aliased token (suffix.subset member) kind
  | _ => trivial

theorem item_lines {tokens : List Token} {cursor after : Cursor} {found : Item}
    (lined : Lined 1 tokens) (within : cursor.rest <:+ tokens)
    (reads : item cursor = .ok (found, after)) :
    BeginsIn cursor.rest found ∧ LinesBefore after.rest found := by
  obtain ⟨token, between, looked, reads⟩ := bind_ok.mp reads
  cases looked
  generalize kind : cursor.peek.kind = first at reads
  split at reads
  · obtain ⟨handler, between, _, reads⟩ := bind_ok.mp reads
    cases reads
    exact ⟨trivial, trivial⟩
  · obtain ⟨command, between, spelled, reads⟩ := bind_ok.mp reads
    cases reads
    obtain ⟨rest, endLine⟩ := cursor
    cases rest with
    | nil => cases kind
    | cons token rest =>
        have inside : isLineEnd (Cursor.peek ⟨token :: rest, endLine⟩).kind = false := by
          rw [kind]
          rfl
        obtain ⟨sameLine, later⟩ := command_alone spelled (lined.ahead within inside) inside
        exact ⟨⟨token, List.mem_cons_self, kind, sameLine⟩,
          fun aliased other member kind => later aliased other member _ kind⟩
  · obtain ⟨function, between, _, reads⟩ := bind_ok.mp reads
    cases reads
    exact ⟨trivial, trivial⟩
  · obtain ⟨statement, between, _, reads⟩ := bind_ok.mp reads
    cases reads
    exact ⟨trivial, trivial⟩

structure ItemsRead (tokens rest : List Token) (found : List Item) : Prop where
  within : rest <:+ tokens
  before : ∀ item ∈ found, LinesBefore rest item
  apart : found.Pairwise fun later earlier => LinesApart earlier later

theorem itemStep_read {tokens : List Token} {cursor after : Cursor} {found : List Item}
    {next : List Item ⊕ Program} (lined : Lined 1 tokens)
    (read : ItemsRead tokens cursor.rest found)
    (reads : itemStep found cursor = .ok (next, after)) :
    next = .inr found.reverse ∨ ∃ more, next = .inl more ∧ ItemsRead tokens after.rest more := by
  obtain ⟨_, start, skipped, reads⟩ := bind_ok.mp reads
  have skips := Forward.skipNewlines.kept (List.suffix_refl _) skipped
  obtain ⟨token, between, looked, reads⟩ := bind_ok.mp reads
  cases looked
  split at reads
  · cases reads
    exact .inl rfl
  · obtain ⟨item, between, spelled, reads⟩ := bind_ok.mp reads
    cases reads
    have forward := item_forward.kept (List.suffix_refl _) spelled
    obtain ⟨begins, before⟩ := item_lines lined (skips.trans read.within) spelled
    refine .inr ⟨_, rfl, (forward.trans skips).trans read.within, ?_, ?_⟩
    · intro other member
      rcases List.mem_cons.mp member with rfl | member
      · exact before
      · exact (read.before other member).mono (forward.trans skips)
    · refine List.pairwise_cons.mpr ⟨fun earlier member => ?_, read.apart⟩
      exact ((read.before earlier member).mono skips).apart begins

theorem items_linesApart {tokens : List Token} {cursor after : Cursor} {program : Program}
    (lined : Lined 1 tokens) (within : cursor.rest <:+ tokens)
    (reads : items cursor = .ok (program, after)) : program.Pairwise LinesApart := by
  refine loop_invariant (fun found cursor => ItemsRead tokens cursor.rest found)
    (fun program _ => program.Pairwise LinesApart) ?_ ?_ ⟨within, by simp, .nil⟩ reads
  · intro found cursor next after read reads
    rcases itemStep_read lined read reads with last | ⟨more, same, read⟩
    · cases last
    · cases same
      exact read
  · intro found cursor result after read reads
    rcases itemStep_read lined read reads with last | ⟨more, goes, _⟩
    · cases last
      exact List.pairwise_reverse.mpr read.apart
    · cases goes

/-- Of two commands on one line the first has no aliases. -/
theorem parse_linesApart {source : String} {program : Program}
    (parsed : parse source = .ok program) : program.Pairwise LinesApart := by
  obtain ⟨tokens, cursor, scanned, reads⟩ := parse_reads parsed
  exact items_linesApart (Token.scan_lined scanned) (List.suffix_refl _) reads

end EventScript.Program
