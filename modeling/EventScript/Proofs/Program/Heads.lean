import EventScript.Proofs.Program.Indentation

/-!
Where statements begin. What stands in a block lies below the line of its head, and one statement
begins below another one before it, with one exception: behind a head whose blocks are all empty the
rest of the line is read as further statements, outside of these blocks.
-/

namespace EventScript

namespace Program

/-- The line on which something begins, and the blocks below it. -/
structure Head where
  line : Nat
  blocks : List Block

end Program

open Program (Head)

def Statement.head (statement : Statement) : Head := ⟨statement.line, statement.blocks⟩

def Item.head : Item → Head
  | .event handler => ⟨handler.line, [handler.body]⟩
  | .command described => ⟨described.line, [described.body]⟩
  | .function defined => ⟨defined.line, [defined.body]⟩
  | .stray statement => statement.head

namespace Program

open EventScript.Program.Parser
open EventScript.Token (LineAhead Lined)

namespace Head

def IsBare (head : Head) : Prop :=
  head.blocks ≠ [] ∧ ∀ block ∈ head.blocks, block.statements = []

/-- The second begins on a later line than the first; on the same line only if the first is bare. -/
def Precedes (first second : Head) : Prop :=
  first.line < second.line ∨ first.line = second.line ∧ first.IsBare

/-- Statements in the blocks begin below the head and, in each block, one below the other. -/
def Orderly (head : Head) : Prop :=
  ∀ block ∈ head.blocks, (block.statements.map Statement.head).Pairwise Precedes ∧
    ∀ statement ∈ block.statements, head.line < statement.line

end Head

structure Head.Settled (head : Head) : Prop where
  orderly : head.Orderly
  inner : ∀ around, ∀ block ∈ head.blocks, ∀ entry ∈ Statement.blockOutline around block,
    entry.2.head.Orderly

theorem Head.Settled.empty {line : Nat} {blocks : List Block}
    (empty : ∀ block ∈ blocks, block.statements = []) : Head.Settled ⟨line, blocks⟩ where
  orderly block member := by
    rw [empty block member]
    simp
  inner around block member := by
    rw [Statement.blockOutline, empty block member, Statement.rowOutline]
    simp

theorem Head.Settled.outline {statement : Statement} (settled : Head.Settled statement.head)
    (around : Nat) :
    ∀ entry ∈ statement.outline around, entry.2.head.Orderly := by
  intro entry member
  rw [Statement.outline_eq] at member
  rcases List.mem_cons.mp member with rfl | inside
  · exact settled.orderly
  · obtain ⟨block, among, found⟩ := List.mem_flatMap.mp inside
    exact settled.inner _ block among entry found

theorem Head.Settled.itemOutline {item : Item} (settled : Head.Settled item.head) :
    ∀ entry ∈ itemOutline item, entry.2.head.Orderly := by
  cases item with
  | event handler => exact settled.inner 1 handler.body List.mem_cons_self
  | command described => exact settled.inner 1 described.body List.mem_cons_self
  | function defined => exact settled.inner 1 defined.body List.mem_cons_self
  | stray statement => exact settled.outline 0

def Beyond (line : Nat) (tokens : List Token) : Prop :=
  ∀ token ∈ tokens, isLineEnd token.kind = false → line < token.line

structure Here (tokens : List Token) (line : Nat) (cursor : Cursor) : Prop where
  within : cursor.rest <:+ tokens
  ahead : LineAhead line cursor.rest ∨ Beyond line cursor.rest

section Cursors

variable {line : Nat} {tokens rest : List Token} {cursor : Cursor}

theorem Lined.of_suffix (lined : Lined line tokens) (suffix : rest <:+ tokens) :
    Lined line rest where
  from_line token member := lined.from_line token (suffix.subset member)
  ahead own inside := lined.ahead (own.trans suffix) inside

theorem Beyond.of_suffix (beyond : Beyond line tokens) (suffix : rest <:+ tokens) :
    Beyond line rest := fun token member => beyond token (suffix.subset member)

theorem rest_of_inside (inside : isLineEnd cursor.peek.kind = false) :
    cursor.rest = cursor.peek :: cursor.next.rest := by
  obtain ⟨rest, endLine⟩ := cursor
  cases rest with
  | nil => cases inside
  | cons token rest => rfl

theorem LineAhead.head_cases (ahead : LineAhead line cursor.rest) :
    (isLineEnd cursor.peek.kind = false ∧ cursor.peek.line = line ∧
        LineAhead line cursor.next.rest) ∨
      (cursor.peek.kind = .newline ∧ Beyond line cursor.next.rest) ∨
      ((cursor.peek.kind = .dedent ∨ cursor.peek.kind = .finish) ∧ Beyond line cursor.rest ∧
        LineAhead line cursor.next.rest) := by
  obtain ⟨rest, endLine⟩ := cursor
  cases ahead with
  | inside onLine inner next => exact .inl ⟨inner, onLine, next⟩
  | ending kind _ later =>
      exact .inr (.inl ⟨kind, fun token member _ => later token member⟩)
  | closing marks =>
      refine .inr (.inr ⟨?_, ?_, ?_⟩)
      · cases rest with
        | nil => exact .inr rfl
        | cons token rest => exact (marks token List.mem_cons_self).1
      · intro token member inside
        rcases (marks token member).1 with kind | kind
        · rw [kind] at inside
          cases inside
        · rw [kind] at inside
          cases inside
      · exact .closing fun token member => marks token (List.mem_of_mem_tail member)

namespace Here

theorem next (here : Here tokens line cursor) (goes : cursor.peek.kind ≠ .newline) :
    Here tokens line cursor.next where
  within := Parser.Forward.next here.within
  ahead := by
    rcases here.ahead with ahead | beyond
    · rcases LineAhead.head_cases ahead with ⟨_, _, next⟩ | ⟨kind, _⟩ | ⟨_, _, next⟩
      · exact .inl next
      · exact absurd kind goes
      · exact .inl next
    · exact .inr (beyond.of_suffix (List.tail_suffix _))

theorem take (here : Here tokens line cursor) (inside : isLineEnd cursor.peek.kind = false) :
    Here tokens line cursor.next :=
  here.next fun kind => by rw [kind] at inside; cases inside

theorem name {name : String} (here : Here tokens line cursor)
    (named : nameOf? cursor.peek = some name) : Here tokens line cursor.next := by
  rcases here.ahead with ahead | beyond
  · exact here.take (LineAhead.inside ahead named)
  · exact ⟨Parser.Forward.next here.within, .inr (beyond.of_suffix (List.tail_suffix _))⟩

theorem newline (here : Here tokens line cursor) (kind : cursor.peek.kind = .newline) :
    Beyond line cursor.next.rest := by
  rcases here.ahead with ahead | beyond
  · rcases LineAhead.head_cases ahead with ⟨inside, _⟩ | ⟨_, past⟩ | ⟨dedent | finish, _⟩
    · rw [kind] at inside
      cases inside
    · exact past
    · rw [kind] at dedent
      cases dedent
    · rw [kind] at finish
      cases finish
  · exact beyond.of_suffix (List.tail_suffix _)

theorem closed (here : Here tokens line cursor)
    (kind : cursor.peek.kind = .dedent ∨ cursor.peek.kind = .finish) : Beyond line cursor.rest := by
  rcases here.ahead with ahead | beyond
  · rcases LineAhead.head_cases ahead with ⟨inside, _⟩ | ⟨newline, _⟩ | ⟨_, past, _⟩
    · rcases kind with kind | kind
      · rw [kind] at inside
        cases inside
      · rw [kind] at inside
        cases inside
    · rw [newline] at kind
      simp at kind
    · exact past
  · exact beyond

theorem indent (here : Here tokens line cursor) (kind : cursor.peek.kind = .indent) :
    Beyond line cursor.rest := by
  rcases here.ahead with ahead | beyond
  · rcases LineAhead.head_cases ahead with ⟨inside, _⟩ | ⟨newline, _⟩ | ⟨_, past, _⟩
    · rw [kind] at inside
      cases inside
    · rw [kind] at newline
      cases newline
    · exact past
  · exact beyond

end Here

end Cursors

end Program

end EventScript
