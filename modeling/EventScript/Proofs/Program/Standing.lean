import EventScript.Proofs.Program.Triple
import EventScript.Proofs.Token.Layers

/-!
Where the parser stands between the levels of indentation. Inside a line it stays on its level;
marks of indentation lead one level in or out. The statements it has begun are marked with the level
and the line on which they begin.
-/

namespace EventScript.Program

open EventScript.Program.Parser
open EventScript.Token (Layered)

/-- The parser stands at a level of indentation, behind the statements that are marked. -/
structure Standing (heights : Nat → Nat) (around : Nat) (behind : List (Nat × Nat))
    (cursor : Cursor) : Prop where
  layered : ∃ row, Layered heights row around cursor.rest
  told : ∀ mark ∈ behind, mark.1 = heights mark.2
  sorted : (behind.map Prod.snd).Pairwise (· ≤ ·)
  ahead : ∀ mark ∈ behind, ∀ token ∈ cursor.rest, mark.2 ≤ token.line

section Cursors

variable {heights : Nat → Nat} {row : Option Nat} {around : Nat} {behind : List (Nat × Nat)}
  {cursor : Cursor}

theorem next_subset {token : Token} (member : token ∈ cursor.next.rest) : token ∈ cursor.rest :=
  List.mem_of_mem_tail member

theorem Standing.move {other : Nat} (standing : Standing heights around behind cursor)
    (layered : ∃ row, Layered heights row other cursor.next.rest) :
    Standing heights other behind cursor.next where
  layered := layered
  told := standing.told
  sorted := standing.sorted
  ahead mark member token later := standing.ahead mark member token (next_subset later)

theorem layered_cases (layered : Layered heights row around cursor.rest) :
    (isLineEnd cursor.peek.kind = false ∧ cursor.peek ∈ cursor.rest ∧
        heights cursor.peek.line = around ∧
        (∀ other ∈ cursor.next.rest, cursor.peek.line ≤ other.line) ∧
        Layered heights (some cursor.peek.line) around cursor.next.rest) ∨
      nameOf? cursor.peek = none ∧
        (cursor.peek.kind = .newline ∧ Layered heights none around cursor.next.rest ∨
          cursor.peek.kind = .indent ∧ row = none ∧
            Layered heights none (around + 1) cursor.next.rest ∨
          (cursor.peek.kind = .dedent ∧
            ∃ outer, around = outer + 1 ∧ Layered heights row outer cursor.next.rest) ∨
          cursor.peek.kind = .finish ∧ around = 0) := by
  obtain ⟨rest, endLine⟩ := cursor
  cases layered with
  | inside inner _ level later next =>
      exact .inl ⟨inner, List.mem_cons_self, level, later, next⟩
  | newline kind unnamed next => exact .inr ⟨unnamed, .inl ⟨kind, next⟩⟩
  | indent kind unnamed next => exact .inr ⟨unnamed, .inr (.inl ⟨kind, rfl, next⟩)⟩
  | dedent kind unnamed next => exact .inr ⟨unnamed, .inr (.inr (.inl ⟨kind, _, rfl, next⟩))⟩
  | finish kind unnamed => exact .inr ⟨unnamed, .inr (.inr (.inr ⟨kind, rfl⟩))⟩

theorem layered_inside (layered : Layered heights row around cursor.rest)
    (inner : isLineEnd cursor.peek.kind = false) :
    cursor.peek ∈ cursor.rest ∧ heights cursor.peek.line = around ∧
      (∀ other ∈ cursor.next.rest, cursor.peek.line ≤ other.line) ∧
      Layered heights (some cursor.peek.line) around cursor.next.rest := by
  rcases layered_cases layered with ⟨_, found⟩ | ⟨_, ⟨kind, _⟩ | ⟨kind, _⟩ | ⟨kind, _⟩ | ⟨kind, _⟩⟩
  · exact found
  all_goals
    rw [kind] at inner
    cases inner

theorem Standing.take (standing : Standing heights around behind cursor)
    (inner : isLineEnd cursor.peek.kind = false) : Standing heights around behind cursor.next := by
  obtain ⟨row, layered⟩ := standing.layered
  exact standing.move ⟨_, (layered_inside layered inner).2.2.2⟩

theorem Standing.begin (standing : Standing heights around behind cursor)
    (inner : isLineEnd cursor.peek.kind = false) :
    Standing heights around (behind ++ [(around, cursor.peek.line)]) cursor.next := by
  obtain ⟨row, layered⟩ := standing.layered
  obtain ⟨here, level, later, next⟩ := layered_inside layered inner
  refine ⟨⟨_, next⟩, ?_, ?_, ?_⟩
  · intro mark member
    rcases List.mem_append.mp member with before | own
    · exact standing.told mark before
    · rw [List.mem_singleton.mp own]
      exact level.symm
  · rw [List.map_append]
    refine List.pairwise_append.mpr ⟨standing.sorted, List.pairwise_singleton _ _, ?_⟩
    intro line before own same
    obtain ⟨mark, member, rfl⟩ := List.mem_map.mp before
    rw [List.mem_singleton.mp same]
    exact standing.ahead mark member _ here
  · intro mark member token ahead
    rcases List.mem_append.mp member with before | own
    · exact standing.ahead mark before token (next_subset ahead)
    · rw [List.mem_singleton.mp own]
      exact later token ahead

theorem Standing.named {name : String} (standing : Standing heights around behind cursor)
    (named : nameOf? cursor.peek = some name) : isLineEnd cursor.peek.kind = false := by
  obtain ⟨row, layered⟩ := standing.layered
  rcases layered_cases layered with ⟨inner, _⟩ | ⟨unnamed, _⟩
  · exact inner
  · rw [unnamed] at named
    cases named

theorem Standing.newline (standing : Standing heights around behind cursor)
    (kind : cursor.peek.kind = .newline) : Standing heights around behind cursor.next := by
  obtain ⟨row, layered⟩ := standing.layered
  have found := layered_cases layered
  simp only [kind, isLineEnd, reduceCtorEq, Bool.true_eq_false, false_and, true_and, false_or,
    or_false] at found
  exact standing.move ⟨none, found.2⟩

theorem Standing.indent (standing : Standing heights around behind cursor)
    (kind : cursor.peek.kind = .indent) : Standing heights (around + 1) behind cursor.next := by
  obtain ⟨row, layered⟩ := standing.layered
  have found := layered_cases layered
  simp only [kind, isLineEnd, reduceCtorEq, Bool.true_eq_false, false_and, true_and, false_or,
    or_false] at found
  exact standing.move ⟨none, found.2.2⟩

theorem Standing.dedent (standing : Standing heights (around + 1) behind cursor)
    (kind : cursor.peek.kind = .dedent) : Standing heights around behind cursor.next := by
  obtain ⟨row, layered⟩ := standing.layered
  have found := layered_cases layered
  simp only [kind, isLineEnd, reduceCtorEq, Bool.true_eq_false, false_and, true_and, false_or,
    or_false] at found
  obtain ⟨_, outer, same, next⟩ := found
  obtain rfl := Nat.succ.inj same
  exact standing.move ⟨row, next⟩

theorem Standing.finish (standing : Standing heights around behind cursor)
    (kind : cursor.peek.kind = .finish) : around = 0 := by
  obtain ⟨row, layered⟩ := standing.layered
  have found := layered_cases layered
  simp only [kind, isLineEnd, reduceCtorEq, Bool.true_eq_false, false_and, true_and,
    false_or] at found
  exact found.2

end Cursors

section Takings

variable (heights : Nat → Nat) (around : Nat) (behind : List (Nat × Nat))

theorem taking_inside :
    Taking (Standing heights around behind) (Standing heights around behind) fun _ => True where
  take standing inner := ⟨standing.take inner, trivial⟩
  name standing named := standing.take (standing.named named)
  still := id

theorem taking_begins (line : Nat) :
    Taking
      (fun cursor => Standing heights around behind cursor ∧ cursor.peek.line = line ∨
        Standing heights around (behind ++ [(around, line)]) cursor)
      (Standing heights around (behind ++ [(around, line)])) fun _ => True where
  take {cursor} holds inner := by
    rcases holds with ⟨standing, rfl⟩ | standing
    · exact ⟨standing.begin inner, trivial⟩
    · exact ⟨standing.take inner, trivial⟩
  name {cursor name} holds named := by
    rcases holds with ⟨standing, rfl⟩ | standing
    · exact standing.begin (standing.named named)
    · exact standing.take (standing.named named)
  still := .inr

end Takings

end EventScript.Program
