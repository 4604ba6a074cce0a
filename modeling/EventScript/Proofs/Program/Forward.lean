import EventScript.Program.Parser
import EventScript.Proofs.Program.Statements

/-!
Parsers only go forward: what a parser leaves are the tokens it was given without some of the first
ones. This holds of every part of the grammar, since all of them take tokens one at a time.
-/

namespace EventScript.Program

namespace Parser

variable {α : Type}

abbrev Forward (tokens : List Token) (parser : Parser α) : Prop :=
  Keeps (fun cursor => cursor.rest <:+ tokens) parser

namespace Forward

variable {tokens : List Token}

theorem next {cursor : Cursor} (within : cursor.rest <:+ tokens) : cursor.next.rest <:+ tokens :=
  (List.tail_suffix cursor.rest).trans within

theorem advance : Forward tokens Parser.advance where
  kept within ends := by
    cases ends
    exact next within

theorem eat (kind : TokenKind) : Forward tokens (Parser.eat kind) :=
  (Yields.eat (fun within _ => next within) fun within _ => within).keeps

theorem expect (kind : TokenKind) (what : String) : Forward tokens (Parser.expect kind what) :=
  (Yields.expect fun within _ => next within).keeps

theorem expectName (what : String) : Forward tokens (Parser.expectName what) :=
  (Yields.expectName fun within _ => next within).keeps

theorem taking (tokens : List Token) :
    Taking (fun cursor => cursor.rest <:+ tokens) (fun cursor => cursor.rest <:+ tokens)
      fun _ => True where
  take within _ := ⟨next within, trivial⟩
  name within _ := next within
  still := id

theorem skipNewlines : Forward tokens Parser.skipNewlines :=
  .loop (fun _ => (eat .newline).bind fun _ => .ite (.pure _) (.pure _)) ()

end Forward

end Parser

open Program.Parser

variable {tokens : List Token}

namespace Grammar

structure Forward tokens (grammar : Grammar) : Prop where
  expression : Parser.Forward tokens grammar.expression
  inverted : Parser.Forward tokens grammar.inverted
  signed : Parser.Forward tokens grammar.signed

theorem within_forward (room : Nat) : (within room).Forward tokens := by
  have builds := @within_builds _ _ _ (fun _ _ => True) (Forward.taking tokens)
    (fun _ => .free _) room
  exact ⟨(builds.expression.imp And.left).keeps, (builds.inverted.imp And.left).keeps,
    (builds.signed.imp And.left).keeps⟩

end Grammar

section Statements

theorem endStatement_forward : Forward tokens endStatement := by
  refine Keeps.peek.bind fun token => ?_
  split
  · exact Forward.advance.bind fun _ => .pure _
  · exact .pure _
  · exact .pure _
  · exact .expected _

variable {expression : Parser Expr} (expressions : Forward tokens expression)

include expressions

theorem simpleStatement_forward (line : Nat) :
    Forward tokens (simpleStatement line expression) := by
  have builds : Yields (fun cursor => cursor.rest <:+ tokens) expression
      fun _ cursor => cursor.rest <:+ tokens ∧ True :=
    ⟨fun within reads => ⟨expressions.kept within reads, trivial⟩⟩
  exact ((simpleStatement_builds (Forward.taking tokens) trivial (.free _)
    builds).imp And.left).keeps

variable {block : Parser Block} (blocks : Forward tokens block)

include blocks

omit expressions in
theorem headedBlock_forward : Forward tokens (headedBlock block) :=
  (Forward.eat _).bind fun _ => blocks

theorem branches_forward : Forward tokens (branches expression block) := by
  have bodies := headedBlock_forward blocks
  refine .loop (fun found => Forward.skipNewlines.bind fun _ => ?_) []
  refine Keeps.peek.bind fun _ => Keeps.peekSecond.bind fun _ => Keeps.peek.bind fun _ => ?_
  refine .ite (Forward.advance.bind fun _ => ?_) ((Forward.eat _).bind fun _ => ?_)
  · have chosen : Forward tokens (do
        let condition ← expression
        let body ← headedBlock block
        return .inl ((condition, body) :: found) :
        Parser (List (Expr × Block) ⊕ List (Expr × Block) × Option Block)) :=
      expressions.bind fun _ => bodies.bind fun _ => .pure _
    exact .ite (Forward.advance.bind fun _ => chosen) chosen
  · exact .ite (bodies.bind fun _ => .pure _) (.pure _)

theorem ifStatement_forward : Forward tokens (ifStatement expression block) := by
  refine Forward.advance.bind fun token => expressions.bind fun condition => ?_
  refine (headedBlock_forward blocks).bind fun yes => ?_
  exact (branches_forward expressions blocks).bind fun _ => .pure _

theorem forStatement_forward : Forward tokens (forStatement expression block) := by
  refine Forward.advance.bind fun token => Keeps.peek.bind fun named => ?_
  have rest : ∀ name, Forward tokens (do
      expect (.keyword .inside) "'in'"
      let subject ← expression
      let body ← headedBlock block
      return .forLoop token.line name subject body : Parser Statement) := by
    intro name
    refine (Forward.expect _ _).bind fun _ => expressions.bind fun subject => ?_
    exact (headedBlock_forward blocks).bind fun _ => .pure _
  split
  · exact Forward.advance.bind fun _ => (Keeps.pure _).bind rest
  · exact (Forward.expectName _).bind rest

theorem whileStatement_forward (line : Nat) :
    Forward tokens (whileStatement line expression block) := by
  refine Forward.advance.bind fun _ => expressions.bind fun condition => ?_
  exact (headedBlock_forward blocks).bind fun _ => .pure _

theorem repeatStatement_forward (line : Nat) :
    Forward tokens (repeatStatement line expression block) := by
  refine Forward.advance.bind fun _ => expressions.bind fun count => ?_
  refine (Forward.eat _).bind fun _ => ?_
  exact (headedBlock_forward blocks).bind fun _ => .pure _

theorem statement_forward : Forward tokens (statement expression block) := by
  refine Keeps.peek.bind fun first => ?_
  have simple : Forward tokens (do
      let result ← simpleStatement first.line expression
      endStatement
      return result : Parser Statement) :=
    (simpleStatement_forward expressions _).bind fun _ => endStatement_forward.bind fun _ => .pure _
  refine Keeps.peek.bind fun token => ?_
  split
  · exact ifStatement_forward expressions blocks
  · exact whileStatement_forward expressions blocks _
  · exact forStatement_forward expressions blocks
  · refine (beginsStatement_stays _).keeps.bind fun _ => ?_
    refine (lineContains_stays _).keeps.bind fun _ => ?_
    exact .ite (repeatStatement_forward expressions blocks _) simple
  · exact simple

end Statements

theorem blockOf_forward {statement : Option (Parser Statement)}
    (statements : ∀ parser ∈ statement, Forward tokens parser) :
    Forward tokens (blockOf statement) := by
  refine Keeps.peek.bind fun token => Forward.skipNewlines.bind fun _ => ?_
  refine (Forward.eat _).bind fun _ => .ite ?_ (.pure _)
  split
  · exact .fail _
  · rename_i parser
    have forward := statements parser rfl
    refine Keeps.bind (.loop (fun found => ?_) []) fun _ => (Forward.eat _).bind fun _ => .pure _
    refine Forward.skipNewlines.bind fun _ => Keeps.peek.bind fun _ => .ite (.pure _) ?_
    exact forward.bind fun _ => .pure _

theorem blockWithin_forward (room : Nat) : Forward tokens (blockWithin room) := by
  induction room with
  | zero => exact blockOf_forward nofun
  | succ room ih =>
      refine blockOf_forward fun parser found => ?_
      cases found
      exact statement_forward (Grammar.within_forward room).expression ih

theorem body_forward : Forward tokens body := headedBlock_forward (blockWithin_forward nestingLimit)

theorem eventHandler_forward : Forward tokens eventHandler := by
  refine Forward.advance.bind fun token => (Keeps.loop (fun words => ?_) []).bind fun words => ?_
  · refine Keeps.peek.bind fun next => ?_
    split
    · exact .pure _
    · exact .pure _
    · exact .pure _
    · exact Forward.advance.bind fun _ => .pure _
  · exact .ite (.fail _) (body_forward.bind fun _ => .pure _)

theorem parameterName_takes {before after : Cursor → Prop} {onLine : Nat → Prop}
    (taking : Taking before after onLine) : Yields before parameterName fun _ => after := by
  refine Yields.peek.bind fun token => ?_
  split
  · rename_i kind
    exact (taking.advance_peeked (by rw [kind]; rfl)).bind fun _ => .pure And.left
  · exact taking.expectName.of And.left

theorem parameters_take {before : Cursor → Prop} {onLine : Nat → Prop}
    (taking : Taking before before onLine) : Yields before parameters fun _ => before := by
  have name : Yields before parameterName fun _ cursor => before cursor ∧ True :=
    (parameterName_takes taking).imp fun holds => ⟨holds, trivial⟩
  exact taking.eat_bind rfl ((taking.separated _ _ name).imp And.left) (.pure id)

theorem parameters_forward : Forward tokens parameters :=
  (parameters_take (Forward.taking tokens)).keeps

theorem function_forward : Forward tokens function := by
  refine Forward.advance.bind fun token => (Forward.expectName _).bind fun name => ?_
  exact parameters_forward.bind fun names => body_forward.bind fun _ => .pure _

theorem metadataAhead_keeps {condition : Cursor → Prop} : Keeps condition metadataAhead := by
  refine Keeps.peek.bind fun token => ?_
  split
  · exact .pure _
  · refine Keeps.peekSecond.bind fun second => .ite ?_ (.pure _)
    split <;> exact .pure _

theorem metadataAhead_cases {cursor after : Cursor} {found : Option Metadata}
    (reads : metadataAhead cursor = .ok (found, after)) :
    after = cursor ∧ ∀ metadata ∈ found,
      (∃ name, nameOf? cursor.peek = some name) ∧ cursor.peekSecond.kind = .symbol .colon := by
  have stays : Keeps (· = cursor) metadataAhead := metadataAhead_keeps
  refine ⟨stays.kept rfl reads, ?_⟩
  obtain ⟨token, between, looked, reads⟩ := bind_ok.mp reads
  cases looked
  cases named : nameOf? cursor.peek with
  | none =>
      simp only [named] at reads
      cases reads
      exact nofun
  | some name =>
      simp only [named] at reads
      obtain ⟨second, between, looked, reads⟩ := bind_ok.mp reads
      cases looked
      by_cases colon : cursor.peekSecond.kind = .symbol .colon
      · exact fun _ _ => ⟨⟨name, rfl⟩, colon⟩
      · rw [if_neg (by simpa using colon)] at reads
        cases reads
        exact nofun

theorem metadataText_forward : Forward tokens metadataText := by
  refine .loop (fun content => Keeps.peek.bind fun token => metadataAhead_keeps.bind fun _ => ?_) ""
  refine .ite (.pure _) (Keeps.peekSecond.bind fun second => .ite (.pure _) ?_)
  exact Forward.advance.bind fun _ => .pure _

theorem describeStep_forward (command : Command) : Forward tokens (describeStep command) := by
  refine metadataAhead_keeps.bind fun found => ?_
  split
  · exact .pure _
  · refine Forward.advance.bind fun _ => Forward.advance.bind fun _ => ?_
    refine metadataText_forward.bind fun content => ?_
    split <;> exact .pure _

theorem command_forward : Forward tokens command := by
  refine Forward.advance.bind fun token => (Forward.expectName _).bind fun name => ?_
  refine parameters_forward.bind fun names => ?_
  exact (Keeps.loop describeStep_forward _).bind fun _ => body_forward.bind fun _ => .pure _

theorem item_forward : Forward tokens item := by
  refine Keeps.peek.bind fun token => ?_
  split
  · exact eventHandler_forward.bind fun _ => .pure _
  · exact command_forward.bind fun _ => .pure _
  · exact function_forward.bind fun _ => .pure _
  · have grammar : Grammar.Forward tokens (Grammar.within nestingLimit) :=
      Grammar.within_forward nestingLimit
    refine Keeps.bind (statement_forward grammar.expression ?_) fun _ => .pure _
    exact blockWithin_forward nestingLimit

theorem parse_reads {source : String} {program : Program} (parsed : parse source = .ok program) :
    ∃ tokens cursor, Token.scan source = .ok tokens ∧
      items (Cursor.ofTokens tokens) = .ok (program, cursor) := by
  rw [parse] at parsed
  cases scanned : Token.scan source with
  | error error =>
      rw [scanned] at parsed
      cases parsed
  | ok tokens =>
      rw [scanned] at parsed
      change (items (Cursor.ofTokens tokens)).map (·.1) = .ok program at parsed
      cases read : items (Cursor.ofTokens tokens) with
      | error error =>
          rw [read] at parsed
          cases parsed
      | ok outcome =>
          rw [read] at parsed
          cases parsed
          exact ⟨tokens, outcome.2, rfl, read⟩

theorem parse_of_view {α : Type} {source : String} {view : Program → α} {seen : α}
    (shape : (parse source).toOption.map view = some seen) :
    ∃ program, parse source = .ok program ∧ view program = seen := by
  cases parsed : parse source with
  | error error =>
      rw [parsed] at shape
      cases shape
  | ok program =>
      rw [parsed] at shape
      exact ⟨program, rfl, Option.some.inj shape⟩

end EventScript.Program
