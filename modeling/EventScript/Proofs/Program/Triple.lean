import EventScript.Program.Statement

/-!
What parsers do to the tokens ahead, step by step. A condition on the cursor that every step of a
parser keeps is kept by the whole parser. A triple says more: what holds of the result and of the
tokens that are left, when the parser succeeds on tokens for which something holds.
-/

namespace EventScript.Program

namespace Parser

variable {α β σ : Type}

theorem bind_ok {first : Parser α} {next : α → Parser β} {cursor after : Cursor} {result : β} :
    (first >>= next) cursor = .ok (result, after) ↔
      ∃ value between, first cursor = .ok (value, between) ∧
        next value between = .ok (result, after) := by
  change (first cursor >>= fun outcome => next outcome.1 outcome.2) = .ok (result, after) ↔ _
  cases first cursor with
  | error error => exact ⟨nofun, nofun⟩
  | ok outcome =>
      obtain ⟨value, between⟩ := outcome
      constructor
      · intro ends
        exact ⟨value, between, rfl, ends⟩
      · rintro ⟨_, _, same, ends⟩
        cases same
        exact ends

/-- A condition on the state and the cursor that every round of a loop keeps, and that gives what is
asked for in the last round. -/
theorem loop_invariant {step : σ → Parser (σ ⊕ α)} (invariant : σ → Cursor → Prop)
    (goal : α → Cursor → Prop)
    (again : ∀ {state cursor next after}, invariant state cursor →
      step state cursor = .ok (.inl next, after) → invariant next after)
    (stops : ∀ {state cursor result after}, invariant state cursor →
      step state cursor = .ok (.inr result, after) → goal result after)
    {state : σ} {cursor after : Cursor} {result : α} (holds : invariant state cursor)
    (ends : loop step state cursor = .ok (result, after)) : goal result after := by
  fun_induction loop step state cursor with
  | case1 state cursor error failed => cases ends
  | case2 state cursor result between last =>
      cases ends
      exact stops holds last
  | case3 state cursor next between goes shorter ih => exact ih (again holds goes) ends
  | case4 state cursor next between goes stuck => cases ends

theorem eat_cases {kind : TokenKind} {cursor after : Cursor} {eaten : Bool}
    (ends : eat kind cursor = .ok (eaten, after)) :
    (cursor.peek.kind = kind ∧ after = cursor.next) ∨
      (cursor.peek.kind ≠ kind ∧ after = cursor) := by
  obtain ⟨found, between, asked, ends⟩ := bind_ok.mp ends
  cases asked
  split at ends
  · rename_i same
    cases ends
    exact .inl ⟨eq_of_beq same, rfl⟩
  · rename_i other
    cases ends
    exact .inr ⟨fun same => other (beq_iff_eq.mpr same), rfl⟩

structure Keeps (condition : Cursor → Prop) (parser : Parser α) : Prop where
  kept : ∀ {cursor result after}, condition cursor → parser cursor = .ok (result, after) →
    condition after

namespace Keeps

variable {condition : Cursor → Prop}

theorem stay {parser : Parser α}
    (stays : ∀ {cursor result after}, parser cursor = .ok (result, after) → after = cursor) :
    Keeps condition parser := ⟨fun holds ends => stays ends ▸ holds⟩

theorem pure (value : α) : Keeps condition (pure value : Parser α) :=
  stay fun ends => by cases ends; rfl

theorem bind {first : Parser α} {next : α → Parser β} (keeps : Keeps condition first)
    (rest : ∀ value, Keeps condition (next value)) : Keeps condition (first >>= next) where
  kept {cursor result after} holds ends := by
    obtain ⟨value, between, starts, ends⟩ := bind_ok.mp ends
    exact (rest value).kept (keeps.kept holds starts) ends

theorem ite {choice : Prop} [Decidable choice] {yes no : Parser α} (first : Keeps condition yes)
    (second : Keeps condition no) : Keeps condition (if choice then yes else no) := by
  split
  · exact first
  · exact second

theorem loop {step : σ → Parser (σ ⊕ α)} (keeps : ∀ state, Keeps condition (step state))
    (state : σ) : Keeps condition (Parser.loop step state) where
  kept holds ends := loop_invariant (fun _ => condition) (fun _ => condition)
    (fun holds goes => (keeps _).kept holds goes) (fun holds last => (keeps _).kept holds last)
    holds ends

theorem peek : Keeps condition Parser.peek := stay fun ends => by cases ends; rfl

theorem peekSecond : Keeps condition Parser.peekSecond := stay fun ends => by cases ends; rfl

theorem fail (fault : SourceFault) : Keeps condition (Parser.fail fault : Parser α) := ⟨nofun⟩

theorem expected (what : String) : Keeps condition (Parser.expected what : Parser α) := ⟨nofun⟩

end Keeps

end Parser

open EventScript.Program.Parser

/-- If the parser succeeds from a cursor where the first condition holds, the second one holds of
its result and the cursor it leaves. -/
structure Yields {α : Type} (before : Cursor → Prop) (parser : Parser α)
    (after : α → Cursor → Prop) : Prop where
  yields : ∀ {cursor result rest}, before cursor → parser cursor = .ok (result, rest) →
    after result rest

namespace Yields

variable {α β σ : Type} {before middle : Cursor → Prop} {parser : Parser α}
  {after : α → Cursor → Prop} {goal : β → Cursor → Prop}

theorem weaken {stronger : Cursor → Prop} {weaker : α → Cursor → Prop}
    (yields : Yields before parser after) (first : ∀ {cursor}, stronger cursor → before cursor)
    (last : ∀ {result cursor}, after result cursor → weaker result cursor) :
    Yields stronger parser weaker where
  yields holds ends := last (yields.yields (first holds) ends)

theorem of {stronger : Cursor → Prop} (yields : Yields before parser after)
    (first : ∀ {cursor}, stronger cursor → before cursor) : Yields stronger parser after :=
  yields.weaken first id

theorem imp {weaker : α → Cursor → Prop} (yields : Yields before parser after)
    (last : ∀ {result cursor}, after result cursor → weaker result cursor) :
    Yields before parser weaker := yields.weaken id last

theorem assume {fact : Prop} (yields : fact → Yields before parser after) :
    Yields (fun cursor => before cursor ∧ fact) parser after where
  yields holds ends := (yields holds.2).yields holds.1 ends

theorem pure {value : α} (holds : ∀ {cursor}, before cursor → after value cursor) :
    Yields before (pure value : Parser α) after where
  yields start ends := by
    cases ends
    exact holds start

theorem bind {next : α → Parser β} (first : Yields before parser after)
    (second : ∀ value, Yields (after value) (next value) goal) :
    Yields before (parser >>= next) goal where
  yields holds ends := by
    obtain ⟨value, between, starts, ends⟩ := bind_ok.mp ends
    exact (second value).yields (first.yields holds starts) ends

theorem ite {choice : Prop} [Decidable choice] {yes no : Parser α}
    (first : choice → Yields before yes after) (second : ¬choice → Yields before no after) :
    Yields before (if choice then yes else no) after := by
  split
  · exact first ‹_›
  · exact second ‹_›

theorem fails (failing : ∀ cursor result rest, parser cursor ≠ .ok (result, rest)) :
    Yields before parser after where
  yields _ ends := absurd ends (failing _ _ _)

theorem fail (fault : SourceFault) : Yields before (Parser.fail fault : Parser α) after :=
  fails fun _ _ _ ends => by cases ends

theorem expected (what : String) : Yields before (Parser.expected what : Parser α) after :=
  fails fun _ _ _ ends => by cases ends

theorem peek :
    Yields before Parser.peek fun token cursor => before cursor ∧ cursor.peek = token where
  yields holds ends := by
    cases ends
    exact ⟨holds, rfl⟩

theorem peekSecond :
    Yields before Parser.peekSecond fun token cursor =>
      before cursor ∧ cursor.peekSecond = token where
  yields holds ends := by
    cases ends
    exact ⟨holds, rfl⟩

theorem isNext (kind : TokenKind) :
    Yields before (Parser.isNext kind) fun found cursor =>
      before cursor ∧ (cursor.peek.kind == kind) = found where
  yields holds ends := by
    cases ends
    exact ⟨holds, rfl⟩

theorem advance {after : Token → Cursor → Prop}
    (taken : ∀ {cursor}, before cursor → after cursor.peek cursor.next) :
    Yields before Parser.advance after where
  yields holds ends := by
    cases ends
    exact taken holds

theorem eat {kind : TokenKind} {after : Bool → Cursor → Prop}
    (taken : ∀ {cursor}, before cursor → cursor.peek.kind = kind → after true cursor.next)
    (kept : ∀ {cursor}, before cursor → cursor.peek.kind ≠ kind → after false cursor) :
    Yields before (Parser.eat kind) after := by
  refine (isNext kind).bind fun found => ite ?_ ?_
  · rintro rfl
    refine (advance ?_).bind fun _ => pure id
    rintro cursor ⟨holds, same⟩
    exact taken holds (beq_iff_eq.mp same)
  · intro other
    refine pure ?_
    rintro cursor ⟨holds, same⟩
    refine kept holds fun found => other ?_
    rw [← same, found, beq_self_eq_true]

theorem eat_bind {kind : TokenKind} {past still : Cursor → Prop} {yes no : Parser α}
    (taken : ∀ {cursor}, before cursor → cursor.peek.kind = kind → past cursor.next)
    (kept : ∀ {cursor}, before cursor → cursor.peek.kind ≠ kind → still cursor)
    (first : Yields past yes after) (second : Yields still no after) :
    Yields before (Parser.eat kind >>= fun eaten => if eaten = true then yes else no) after := by
  have eaten : Yields before (Parser.eat kind) fun eaten cursor =>
      if eaten = true then past cursor else still cursor := eat taken kept
  refine eaten.bind fun eaten => ?_
  cases eaten with
  | true => exact first
  | false => exact second

theorem expect {kind : TokenKind} {what : String}
    (taken : ∀ {cursor}, before cursor → cursor.peek.kind = kind → middle cursor.next) :
    Yields before (Parser.expect kind what) fun _ => middle := by
  refine (isNext kind).bind fun found => ite ?_ fun _ => expected what
  rintro rfl
  refine (advance ?_).bind fun _ => pure id
  rintro cursor ⟨holds, same⟩
  exact taken holds (beq_iff_eq.mp same)

theorem expectName {what : String}
    (taken : ∀ {cursor name}, before cursor → nameOf? cursor.peek = some name →
      middle cursor.next) :
    Yields before (Parser.expectName what) fun _ => middle := by
  refine peek.bind fun token => ?_
  split
  · rename_i name named
    refine (advance ?_).bind fun _ => pure id
    rintro cursor ⟨holds, rfl⟩
    exact taken holds named
  · exact expected what

theorem loop (invariant : σ → Cursor → Prop) {step : σ → Parser (σ ⊕ α)}
    (round : ∀ state, Yields (invariant state) (step state) (Sum.elim invariant after))
    (state : σ) : Yields (invariant state) (Parser.loop step state) after where
  yields holds ends :=
    loop_invariant invariant after (fun holds goes => (round _).yields holds goes)
    (fun holds last => (round _).yields holds last) holds ends

theorem keeps (yields : Yields before parser fun _ => before) : Keeps before parser :=
  ⟨yields.yields⟩

end Yields

theorem Parser.Keeps.yields {α : Type} {condition : Cursor → Prop} {parser : Parser α}
    (keeps : Keeps condition parser) : Yields condition parser fun _ => condition :=
  ⟨keeps.kept⟩

/-- Taking a token inside a line leads from the first condition to the second, which is the stronger
one; `onLine` holds of the lines of such tokens. -/
structure Taking (before after : Cursor → Prop) (onLine : Nat → Prop) : Prop where
  take : ∀ {cursor}, before cursor → isLineEnd cursor.peek.kind = false →
    after cursor.next ∧ onLine cursor.peek.line
  name : ∀ {cursor name}, before cursor → nameOf? cursor.peek = some name → after cursor.next
  still : ∀ {cursor}, after cursor → before cursor

namespace Taking

variable {α : Type} {before after : Cursor → Prop} {onLine : Nat → Prop} {goal : α → Cursor → Prop}
  {kind : TokenKind} (taking : Taking before after onLine)

include taking

theorem again : Taking after after onLine where
  take holds := taking.take (taking.still holds)
  name holds := taking.name (taking.still holds)
  still := id

theorem advance_peeked {token : Token} (inside : isLineEnd token.kind = false) :
    Yields (fun cursor => before cursor ∧ cursor.peek = token) advance
      fun taken cursor => after cursor ∧ onLine token.line ∧ taken = token := by
  refine .advance ?_
  rintro cursor ⟨holds, rfl⟩
  obtain ⟨later, line⟩ := taking.take holds inside
  exact ⟨later, line, rfl⟩

theorem advance_next (inside : isLineEnd kind = false) :
    Yields (fun cursor => before cursor ∧ (cursor.peek.kind == kind) = true) advance
      fun token cursor => after cursor ∧ onLine token.line := by
  refine .advance ?_
  rintro cursor ⟨holds, same⟩
  refine taking.take holds ?_
  rw [beq_iff_eq.mp same]
  exact inside

theorem advance_bind {next : Token → Parser α}
    (reads : ∀ token, onLine token.line → Yields after (next token) goal)
    (fails : ∀ token, isLineEnd token.kind = true → Yields (fun _ => True) (next token) goal) :
    Yields before (advance >>= next) goal where
  yields {cursor result rest} holds ends := by
    change next cursor.peek cursor.next = .ok (result, rest) at ends
    cases inside : isLineEnd cursor.peek.kind with
    | true => exact (fails _ inside).yields trivial ends
    | false =>
        obtain ⟨later, onLine⟩ := taking.take holds inside
        exact (reads _ onLine).yields later ends

theorem eat (inside : isLineEnd kind = false) :
    Yields before (Parser.eat kind) fun _ => before := by
  refine .eat ?_ fun holds _ => holds
  intro cursor holds same
  exact taking.still (taking.take holds (by rw [same]; exact inside)).1

theorem eat_bind {yes no : Parser α} (inside : isLineEnd kind = false)
    (first : Yields after yes goal) (second : Yields before no goal) :
    Yields before (Parser.eat kind >>= fun eaten => if eaten = true then yes else no) goal := by
  refine .eat_bind ?_ (fun holds _ => holds) first second
  intro cursor holds same
  exact (taking.take holds (by rw [same]; exact inside)).1

theorem expect {what : String} (inside : isLineEnd kind = false) :
    Yields before (Parser.expect kind what) fun _ => after := by
  refine .expect ?_
  intro cursor holds same
  exact (taking.take holds (by rw [same]; exact inside)).1

theorem expectName {what : String} : Yields before (Parser.expectName what) fun _ => after :=
  .expectName taking.name

theorem separated {item : Parser α} {fits : α → Prop} (closing : Symbol) (what : String)
    (items : Yields before item fun value cursor => after cursor ∧ fits value) :
    Yields before (Parser.separated closing what item)
      fun values cursor => after cursor ∧ ∀ value ∈ values, fits value := by
  refine Yields.of (Yields.loop (fun found cursor => before cursor ∧ ∀ value ∈ found, fits value)
    (fun found => .assume fun fitting => ?_) []) fun holds => ⟨holds, by simp⟩
  have ended : ∀ value ∈ found.reverse, fits value := by simpa using fitting
  refine taking.eat_bind rfl (.pure fun holds => ⟨holds, ended⟩) ?_
  refine items.bind fun value => .assume fun fit => ?_
  have longer : ∀ other ∈ value :: found, fits other := by simpa using ⟨fit, fitting⟩
  refine taking.again.eat_bind rfl (.pure fun holds => ⟨taking.still holds, longer⟩) ?_
  refine (taking.again.expect rfl).bind fun _ => .pure fun holds => ⟨holds, ?_⟩
  exact fun other member => longer other (List.mem_reverse.mp member)

end Taking

end EventScript.Program
