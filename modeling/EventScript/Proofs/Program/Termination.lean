import Mathlib
import EventScript.Proofs.Program.Counting

/-!
Reading tokens comes to an end, whatever the tokens are.
-/

namespace EventScript.Program

open EventScript.Program.Parser

section Items

theorem Unstuck.parameterName : Unstuck parameterName := by
  refine Unstuck.peek.bind fun token => ?_
  split
  · exact Unstuck.advance.bind fun _ => .pure _
  · exact .expectName _

theorem Unstuck.parameters : Unstuck parameters := by
  rw [parameters_eq]
  refine (Unstuck.eat _).bind fun _ => .ite (.loop ?_ (fun found => ?_) []) (.pure _)
  · exact separatedStep_rounds parameterName_consumes _ _
  · refine (Unstuck.eat _).bind fun _ => .ite (.pure _) (Unstuck.parameterName.bind fun name => ?_)
    refine (Unstuck.eat _).bind fun _ => .ite (.pure _) ?_
    exact (Unstuck.expect _ _).bind fun _ => .pure _

theorem Unstuck.metadataAhead : Unstuck metadataAhead := by
  refine Unstuck.peek.bind fun token => ?_
  split
  · exact .pure _
  · refine Unstuck.peekSecond.bind fun second => .ite ?_ (.pure _)
    split <;> exact .pure _

theorem Unstuck.metadataText : Unstuck metadataText := by
  rw [metadataText_eq]
  refine .loop metadataStep_rounds (fun content => Unstuck.peek.bind fun token => ?_) ""
  refine Unstuck.metadataAhead.bind fun found => .ite (.pure _) ?_
  refine Unstuck.peekSecond.bind fun second => .ite (.pure _) ?_
  exact Unstuck.advance.bind fun _ => .pure _

theorem Unstuck.describeStep (command : Command) : Unstuck (describeStep command) := by
  refine Unstuck.metadataAhead.bind fun found => ?_
  split
  · exact .pure _
  · refine Unstuck.advance.bind fun _ => Unstuck.advance.bind fun _ => ?_
    refine Unstuck.metadataText.bind fun content => ?_
    split <;> exact .pure _

theorem callLimit_enough (depth : Nat) : nestingLimit < Counted.callLimit + depth := by
  unfold Counted.callLimit
  omega

theorem expression_counts (depth : Nat) :
    Counts depth (Counted.Entries.within Counted.callLimit).expression
      (Grammar.within (nestingLimit - depth)).expression :=
  (Grammar.within_counts (Nat.succ_pos _) (callLimit_enough depth)).expression

theorem statementWithin_counts (depth : Nat) :
    Counts depth (Counted.statementWithin Counted.callLimit)
      (statementWithin (nestingLimit - depth)) :=
  statement_counts (expression_counts depth)
    (blockWithin_counts (Nat.succ_pos _) (callLimit_enough depth))

theorem body_counts : Counts 0 Counted.body body :=
  headedBlock_counts (blockWithin_counts (Nat.succ_pos _) (callLimit_enough 0))

theorem eventHandler_counts : Counts 0 Counted.eventHandler eventHandler := by
  rw [eventHandler_eq]
  refine .bind (.lift .advance) fun token => .bind ?_ fun words => ?_
  · refine .loop wordStep_rounds (fun words => .bind (.lift .peek) fun next => ?_) []
    generalize next.kind = kind
    cases kind
    case newline => exact .pure _
    case finish => exact .pure _
    case symbol mark =>
      cases mark
      case colon => exact .pure _
      all_goals exact .bind (.lift .advance) fun _ => .pure _
    all_goals exact .bind (.lift .advance) fun _ => .pure _
  · exact .ite (.lift (.fail nofun)) (body_counts.bind fun found => .pure _)

theorem command_counts : Counts 0 Counted.command command := by
  rw [command_eq]
  refine .bind (.lift .advance) fun token => .bind (.lift (.expectName _)) fun name => ?_
  refine .bind (.lift .parameters) fun names => .bind ?_ fun described => ?_
  · exact .loop describeStep_rounds (fun command => .lift (.describeStep command)) _
  · exact body_counts.bind fun found => .pure _

theorem function_counts : Counts 0 Counted.function function := by
  refine .bind (.lift .advance) fun token => .bind (.lift (.expectName _)) fun name => ?_
  refine .bind (.lift .parameters) fun names => ?_
  exact body_counts.bind fun found => .pure _

theorem item_counts : Counts 0 Counted.item item := by
  refine .bind (.lift .peek) fun token => ?_
  have stray :
      Counts 0 (do return .stray (← Counted.statementWithin Counted.callLimit) : Counted Item)
      (do return .stray (← statementWithin nestingLimit) : Parser Item) :=
    (statementWithin_counts 0).bind fun statement => .pure _
  generalize token.kind = kind
  cases kind
  case keyword keyword =>
    cases keyword
    case onEvent => exact eventHandler_counts.bind fun handler => .pure _
    case command => exact command_counts.bind fun command => .pure _
    case function => exact function_counts.bind fun function => .pure _
    all_goals exact stray
  all_goals exact stray

theorem items_counts : Counts 0 Counted.items items := by
  rw [items_eq]
  refine .loop itemStep_rounds (fun found => .bind (.lift .skipNewlines) fun _ => ?_) []
  refine .bind (.lift .peek) fun token => .ite (.pure _) ?_
  exact item_counts.bind fun item => .pure _

end Items

/-- Every round of every loop takes a token, or else it is the last one. -/
structure Advancing : Prop where
  blankLines : Rounds newlineStep
  topLevel : Rounds itemStep
  block : ∀ room, Rounds (statementStep (statementWithin room))
  eventName : Rounds wordStep
  parameters : Rounds (separatedStep .closeParen "')'" parameterName)
  metadata : Rounds describeStep
  metadataText : Rounds metadataStep
  effect : ∀ room, Rounds (argumentStep (Grammar.within room).expression)
  alternatives : ∀ room, Rounds (branchStep (Grammar.within room).expression (blockWithin room))
  callArguments : ∀ room, Rounds (separatedStep .closeParen "')'" (Grammar.within room).expression)
  listItems : ∀ room, Rounds (separatedStep .closeBracket "']'" (Grammar.within room).expression)
  mapEntries : ∀ room, Rounds (separatedStep .closeBrace "'\x7d'" (Grammar.within room).mapEntry)
  products : ∀ room,
    Rounds (joinStep (Grammar.operator Grammar.productOp) (Grammar.within room).minus)
  sums : ∀ room, Rounds (joinStep (Grammar.operator Grammar.sumOp) (Grammar.within room).product)
  comparisons : ∀ room, Rounds (joinStep Grammar.comparisonOperator (Grammar.within room).sum)
  conjunctions : ∀ room,
    Rounds (joinStep (Grammar.operator Grammar.andOp) (Grammar.within room).invert)
  disjunctions : ∀ room,
    Rounds (joinStep (Grammar.operator Grammar.orOp) (Grammar.within room).conjunction)
  suffixes : ∀ room, Rounds (Grammar.within room).suffix

theorem loops_advance : Advancing where
  blankLines := newlineStep_rounds
  topLevel := itemStep_rounds
  block room := statementStep_rounds (statementWithin_consumes room)
  eventName := wordStep_rounds
  parameters := separatedStep_rounds parameterName_consumes _ _
  metadata := describeStep_rounds
  metadataText := metadataStep_rounds
  effect room := argumentStep_rounds (Grammar.expression_consumes room)
  alternatives room := branchStep_rounds (fun _ => (Grammar.within_forward room).expression)
    fun _ => blockWithin_forward room
  callArguments room := separatedStep_rounds (Grammar.expression_consumes room) _ _
  listItems room := separatedStep_rounds (Grammar.expression_consumes room) _ _
  mapEntries room := separatedStep_rounds (Grammar.mapEntry_consumes room) _ _
  products room := Grammar.joinStep_rounds Grammar.productOp_found (Grammar.minus_consumes room)
  sums room := Grammar.joinStep_rounds Grammar.sumOp_found (Grammar.product_consumes room)
  comparisons room :=
    Grammar.joinStep_rounds Grammar.comparisonOperator_found (Grammar.sum_consumes room)
  conjunctions room := Grammar.joinStep_rounds Grammar.andOp_found (Grammar.invert_consumes room)
  disjunctions room := Grammar.joinStep_rounds Grammar.orOp_found
    (Grammar.conjunction_consumes room)
  suffixes room := Grammar.suffix_rounds room

theorem items_forward {tokens : List Token} : Forward tokens items := by
  refine .loop (fun found => Forward.skipNewlines.bind fun _ => Keeps.peek.bind fun token => ?_) []
  exact .ite (.pure _) (item_forward.bind fun _ => .pure _)

structure Cursor.At (tokens : List Token) (position : Nat) (cursor : Cursor) : Prop where
  inside : position ≤ tokens.length
  ahead : cursor.rest = tokens.drop position

theorem Cursor.at_start (tokens : List Token) : (Cursor.ofTokens tokens).At tokens 0 :=
  ⟨Nat.zero_le _, rfl⟩

structure StaysInside {α : Type} (parser : Parser α) : Prop where
  inside : ∀ {tokens position cursor result after}, cursor.At tokens position →
    parser cursor = .ok (result, after) → ∃ later, position ≤ later ∧ after.At tokens later

theorem StaysInside.of {α : Type} {parser : Parser α} (forward : ∀ tokens, Forward tokens parser) :
    StaysInside parser where
  inside {tokens position cursor result after} start reads := by
    have suffix := (forward cursor.rest).kept (List.suffix_refl _) reads
    have dropped := List.suffix_iff_eq_drop.mp suffix
    have whole : cursor.rest.length = tokens.length - position := by
      rw [start.ahead, List.length_drop]
    have fewer := suffix.length_le
    have inside := start.inside
    refine ⟨position + (cursor.rest.length - after.rest.length), Nat.le_add_right _ _, by omega, ?_⟩
    rw [← List.drop_drop, ← start.ahead]
    exact dropped

structure Restores {α : Type} (counted : Counted α) : Prop where
  restores : ∀ {depth counter cursor result after},
    counted depth cursor = .ok ((result, counter), after) → counter = depth

theorem Counts.restores {α : Type} {counted : Counted α} {plain : Nat → Parser α}
    (counts : ∀ depth, Counts depth counted (plain depth)) : Restores counted where
  restores {depth counter cursor result after} reads := by
    rw [(counts depth).same, ← bind_pure_comp] at reads
    obtain ⟨value, between, _, reads⟩ := bind_ok.mp reads
    cases reads
    rfl

theorem ofTokens_counts (tokens : List Token) : Counted.ofTokens tokens = ofTokens tokens := by
  rw [Counted.ofTokens, items_counts.same, ofTokens]
  change ((items (Cursor.ofTokens tokens)).bind _).map _ = _
  cases items (Cursor.ofTokens tokens) <;> rfl

theorem ofTokens_ends (tokens : List Token) : (∃ program, ofTokens tokens = .ok program) ∨
    ∃ fault line, fault ≠ .noProgress ∧ ofTokens tokens = .error ⟨fault, line⟩ := by
  unfold ofTokens
  cases reads : items (Cursor.ofTokens tokens) with
  | ok outcome => exact .inl ⟨outcome.1, rfl⟩
  | error error =>
      refine .inr ⟨error.fault, error.line, fun stuck => ?_, rfl⟩
      refine items_counts.unstuck.moves (Cursor.ofTokens tokens) error.line ?_
      rw [reads, ← stuck]

/-- What the parser does on every row of tokens, whether they come from a text or not. -/
structure Terminating : Prop where
  ends : ∀ tokens, (∃ program, ofTokens tokens = .ok program) ∨
    ∃ fault line, fault ≠ .noProgress ∧ ofTokens tokens = .error ⟨fault, line⟩
  loops : Advancing
  eventHandler : Consumes eventHandler
  command : Consumes command
  function : Consumes function
  statement : ∀ room, Consumes (statementWithin room)
  expression : ∀ room, Consumes (Grammar.within room).expression
  start : ∀ tokens, (Cursor.ofTokens tokens).At tokens 0
  advanceInside : StaysInside advance
  itemsInside : StaysInside items
  itemInside : StaysInside item
  blockInside : ∀ room, StaysInside (blockWithin room)
  statementInside : ∀ room, StaysInside (statementWithin room)
  expressionInside : ∀ room, StaysInside (Grammar.within room).expression
  counted : ∀ tokens, Counted.ofTokens tokens = ofTokens tokens
  statementCounter : Restores (Counted.statementWithin Counted.callLimit)
  expressionCounter : Restores (Counted.Entries.within Counted.callLimit).expression

theorem parser_terminates : Terminating where
  ends := ofTokens_ends
  loops := loops_advance
  eventHandler := eventHandler_consumes
  command := command_consumes
  function := function_consumes
  statement := statementWithin_consumes
  expression := Grammar.expression_consumes
  start := Cursor.at_start
  advanceInside := .of fun _ => Forward.advance
  itemsInside := .of fun _ => items_forward
  itemInside := .of fun _ => item_forward
  blockInside room := .of fun _ => blockWithin_forward room
  statementInside room := .of fun _ => statementWithin_forward room
  expressionInside room := .of fun _ => (Grammar.within_forward room).expression
  counted := ofTokens_counts
  statementCounter := Counts.restores statementWithin_counts
  expressionCounter := Counts.restores expression_counts

end EventScript.Program
