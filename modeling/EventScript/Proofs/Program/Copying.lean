import EventScript.Proofs.Program.Renumbering

/-!
The whole grammar copies the numbers of lines from the tokens into the program and never looks at
them. So tokens with other numbers give the same program with these numbers, or the same fault on
the line that took the place of the old one.
-/

namespace EventScript.Program

open EventScript.Program.Parser

variable {place : Nat → Nat}

section Templates

theorem collapse_renumber (line : Nat) (parts : List TemplatePart) :
    collapse (place line) (Expr.renumberParts place parts) =
      (collapse line parts).renumber place := by
  match parts with
  | [] => rfl
  | [.text content] => rfl
  | [.expr value] => rfl
  | .text content :: part :: parts => cases part <;> rfl
  | .expr value :: part :: parts => cases part <;> rfl

theorem flushText_renumber (pending : List Char) (parts : List TemplatePart) :
    flushText pending (Expr.renumberParts place parts) =
      Expr.renumberParts place (flushText pending parts) := by
  unfold flushText
  split <;> rfl

theorem templateParts_renumber (line : Nat) (withStored : Bool) (pending chars : List Char) :
    templateParts (place line) withStored pending chars =
      Expr.renumberParts place (templateParts line withStored pending chars) := by
  fun_induction templateParts line withStored pending chars with
  | case1 withStored pending =>
      rw [templateParts]
      exact flushText_renumber pending []
  | case2 withStored pending char rest key found keyExpr inner outer =>
      rw [dite_eq_ite] at found
      have own : (if key.contains '%' = true then
          collapse (place line) (templateParts (place line) false [] (rest.tail.take key.length))
          else textLiteral (place line) key) = keyExpr.renumber place := by
        by_cases filled : key.contains '%' = true
        · rw [if_pos filled, inner, collapse_renumber]
          simp only [keyExpr, dif_pos filled]
        · rw [if_neg filled]
          simp only [keyExpr, dif_neg filled]
          rfl
      rw [templateParts, found]
      dsimp only
      rw [own, outer, ← flushText_renumber]
      rfl
  | case3 withStored pending char rest unstored name found ih =>
      rw [dite_eq_ite] at unstored
      rw [templateParts, unstored]
      dsimp only
      rw [found]
      dsimp only
      rw [ih, ← flushText_renumber]
      rfl
  | case4 withStored pending char rest unstored unnamed ih =>
      rw [dite_eq_ite] at unstored
      rw [templateParts, unstored]
      dsimp only
      rw [unnamed]
      exact ih

theorem templateExpr_renumber (line : Nat) (content : String) :
    templateExpr (place line) content = (templateExpr line content).renumber place := by
  rw [templateExpr, templateParts_renumber, collapse_renumber, templateExpr]

theorem keyExpr_renumber (place : Nat → Nat) (line : Nat) (key : String) :
    keyExpr (place line) key = (keyExpr line key).renumber place := by
  unfold keyExpr
  split
  · rw [templateParts_renumber, collapse_renumber]
  · rfl

end Templates

namespace Grammar

structure Copies (place : Nat → Nat) (grammar : Grammar) : Prop where
  expression : Follows place (Expr.renumber place) grammar.expression grammar.expression
  inverted : Follows place (Expr.renumber place) grammar.inverted grammar.inverted
  signed : Follows place (Expr.renumber place) grammar.signed grammar.signed

section Levels

variable {inner : Grammar} (copies : inner.Copies place)

include copies

theorem callArguments_follows :
    Follows place (List.map (Expr.renumber place)) inner.callArguments inner.callArguments :=
  .bind (.expect _ _) fun _ => .separated _ _ copies.expression

theorem mapEntry_follows :
    Follows place (Prod.map (Expr.renumber place) (Expr.renumber place)) inner.mapEntry
      inner.mapEntry := by
  refine copies.expression.bind fun key => .bind (.expect _ _) fun _ => ?_
  exact copies.expression.bind fun value => .pure rfl

theorem primary_follows : Follows place (Expr.renumber place) inner.primary inner.primary := by
  refine .bind .advance fun token => ?_
  obtain ⟨kind, lexeme, line, spaced⟩ := token
  have unexpected : Follows place (Expr.renumber place)
      (fun _ => .error ⟨.unexpected (describe ⟨kind, lexeme, line, spaced⟩), line⟩)
      (fun _ => .error ⟨.unexpected (describe ⟨kind, lexeme, line, spaced⟩), place line⟩) :=
    ⟨fun _ => rfl⟩
  have called (name : String) : Follows place (Expr.renumber place)
      (do return .call line name (← inner.callArguments))
      (do return .call (place line) name (← inner.callArguments)) := by
    exact .bind (callArguments_follows copies) fun arguments => .pure (Expr.renumber_call _ _ _)
  cases kind
  case number value => exact .pure rfl
  case bool truth => exact .pure rfl
  case null => exact .pure rfl
  case text content => exact .pure (templateExpr_renumber line content).symm
  case reference name => exact .pure rfl
  case stored key =>
    exact .pure (congrArg (Expr.stored (place line)) (keyExpr_renumber place line key).symm)
  case word name =>
    exact .bind (.isNext _) fun _ => .ite (fun _ => called _) fun _ => .pure rfl
  case keyword keyword =>
    refine .ite (fun _ => ?_) fun _ => unexpected
    exact .bind (.isNext _) fun _ => .ite (fun _ => called _) fun _ => unexpected
  case symbol mark =>
    cases mark
    case openParen =>
      refine copies.expression.bind fun value => .bind (.expect _ _) fun _ => ?_
      exact .pure rfl
    case openBracket =>
      exact .bind (.separated _ _ copies.expression) fun items => .pure (Expr.renumber_list _ _)
    case openBrace =>
      refine .bind (.separated _ _ (mapEntry_follows copies)) fun entries => ?_
      exact .pure (Expr.renumber_map _ _)
    all_goals exact unexpected
  all_goals exact unexpected

theorem suffix_follows (target : Expr) :
    Follows place (Sum.map (Expr.renumber place) (Expr.renumber place)) (inner.suffix target)
      (inner.suffix (target.renumber place)) := by
  refine .bind .peek fun token => ?_
  obtain ⟨kind, lexeme, line, spaced⟩ := token
  cases kind
  case symbol mark =>
    cases mark
    case openBracket =>
      refine .ite (fun _ => .pure rfl) fun _ => .bind .advance fun _ => ?_
      refine copies.expression.bind fun position => .bind (.expect _ _) fun _ => ?_
      exact .pure rfl
    case dot =>
      refine .bind .advance fun _ => .bind (.expectName _) fun name => ?_
      refine .bind (.isNext _) fun _ => .ite (fun _ => ?_) fun _ => .pure rfl
      refine .bind (callArguments_follows copies) fun arguments => ?_
      exact .pure (congrArg Sum.inl (Expr.renumber_call _ _ _))
    all_goals exact .pure rfl
  all_goals exact .pure rfl

theorem suffixed_follows : Follows place (Expr.renumber place) inner.suffixed inner.suffixed :=
  .bind (primary_follows copies) fun target => .loop _ (suffix_follows copies) target

theorem power_follows : Follows place (Expr.renumber place) inner.power inner.power := by
  refine .bind (suffixed_follows copies) fun base => ?_
  refine .bind (.isNext _) fun _ => .ite (fun _ => ?_) fun _ => .pure rfl
  exact .bind .advance fun token => copies.signed.bind fun exponent => .pure rfl

theorem minus_follows : Follows place (Expr.renumber place) inner.minus inner.minus := by
  refine .bind (.isNext _) fun _ => .ite (fun _ => ?_) fun _ => power_follows copies
  exact .bind .advance fun token => copies.signed.bind fun operand => .pure rfl

omit copies in
theorem operator_follows (meaning : TokenKind → Option BinaryOp) :
    Follows place (Option.map (Prod.map id place)) (operator meaning) (operator meaning) := by
  refine .bind .peek fun token => ?_
  rw [Token.renumber_kind]
  cases meaning token.kind with
  | some op => exact .bind .advance fun _ => .pure rfl
  | none => exact .pure rfl

omit copies in
theorem comparisonOperator_follows :
    Follows place (Option.map (Prod.map id place)) comparisonOperator comparisonOperator := by
  refine .bind .peek fun token => .bind .peekSecond fun second => ?_
  refine .ite (fun _ => ?_) fun _ => operator_follows comparisonOp
  exact .bind .advance fun _ => .bind .advance fun _ => .pure rfl

omit copies in
theorem chain_follows {operator : OperatorParser} {operand : Parser Expr}
    (operators : Follows place (Option.map (Prod.map id place)) operator operator)
    (operands : Follows place (Expr.renumber place) operand operand) :
    Follows place (Expr.renumber place) (chain operator operand) (chain operator operand) := by
  refine operands.bind fun first => .loop _ (fun left => operators.bind fun found => ?_) first
  cases found with
  | some found => exact operands.bind fun right => .pure rfl
  | none => exact .pure rfl

theorem comparison_follows :
    Follows place (Expr.renumber place) inner.comparison inner.comparison := by
  have products := chain_follows (operator_follows productOp) (minus_follows copies)
  exact chain_follows comparisonOperator_follows (chain_follows (operator_follows sumOp) products)

theorem invert_follows : Follows place (Expr.renumber place) inner.invert inner.invert := by
  refine .bind .peek fun token => .ite (fun _ => ?_) fun _ => comparison_follows copies
  exact .bind .advance fun token => copies.inverted.bind fun operand => .pure rfl

theorem conditional_follows :
    Follows place (Expr.renumber place) inner.conditional inner.conditional := by
  have conjunctions := chain_follows (operator_follows andOp) (invert_follows copies)
  refine .bind (chain_follows (operator_follows orOp) conjunctions) fun condition => ?_
  refine .bind (.isNext _) fun _ => .ite (fun _ => ?_) fun _ => .pure rfl
  refine .bind .advance fun token => copies.expression.bind fun yes => ?_
  exact .bind (.expect _ _) fun _ => copies.expression.bind fun no => .pure rfl

end Levels

theorem within_copies (room : Nat) : (within room).Copies place := by
  induction room with
  | zero => exact ⟨.fail _, .fail _, .fail _⟩
  | succ room ih => exact ⟨conditional_follows ih, invert_follows ih, minus_follows ih⟩

end Grammar

section Statements

theorem lineContains_follows (kind : TokenKind) :
    Follows place (fun found => found) (lineContains kind) (lineContains kind) where
  follows cursor := by
    have same : ((cursor.renumber place).rest.takeWhile fun token =>
        token.kind != .newline && token.kind != .finish).any (·.kind == kind) =
        (cursor.rest.takeWhile fun token =>
          token.kind != .newline && token.kind != .finish).any (·.kind == kind) := by
      rw [Cursor.renumber, List.takeWhile_map, List.any_map]
      rfl
    exact congrArg (fun found => Except.ok (found, cursor.renumber place)) same

theorem beginsStatement_follows (joiner : TokenKind) :
    Follows place (fun found => found) (beginsStatement joiner) (beginsStatement joiner) :=
  .bind .peekSecond fun _ => .ite (fun _ => lineContains_follows joiner) fun _ => .pure rfl

theorem endStatement_follows : Follows place (fun done => done) endStatement endStatement := by
  refine .bind .peek fun token => ?_
  obtain ⟨kind, lexeme, line, spaced⟩ := token
  cases kind
  case newline => exact .bind .advance fun _ => .pure rfl
  case dedent => exact .pure rfl
  case finish => exact .pure rfl
  all_goals exact .expected _

theorem target_follows : Follows place (fun goal => goal) target target := by
  refine .bind .peek fun token => ?_
  obtain ⟨kind, lexeme, line, spaced⟩ := token
  cases kind
  case reference name => exact .bind .advance fun _ => .pure rfl
  case stored key => exact .bind .advance fun _ => .pure rfl
  all_goals exact .bind (.expectName _) fun name => .pure rfl

variable {expression : Parser Expr}
  (expressions : Follows place (Expr.renumber place) expression expression)

include expressions

theorem setStatement_follows (line : Nat) :
    Follows place (Statement.renumber place) (setStatement line expression)
      (setStatement (place line) expression) := by
  refine .bind .advance fun _ => .bind target_follows fun goal => ?_
  refine .bind (.expect _ _) fun _ => expressions.bind fun value => ?_
  cases goal with
  | named name => exact .pure rfl
  | stored key =>
      refine .pure ?_
      rw [Expr.line_renumber, keyExpr_renumber]
      rfl

theorem adjustStatement_follows (line : Nat) (op : BinaryOp) (joiner : Keyword) (what : String) :
    Follows place (Statement.renumber place) (adjustStatement line op joiner what expression)
      (adjustStatement (place line) op joiner what expression) := by
  refine .bind .advance fun token => expressions.bind fun amount => ?_
  refine .bind (.expect _ _) fun _ => .bind target_follows fun goal => ?_
  cases goal with
  | named name => exact .pure rfl
  | stored key =>
      refine .pure ?_
      rw [Token.renumber_line, keyExpr_renumber]
      rfl

theorem assignmentStatement_follows (line : Nat) (goal : Target) :
    Follows place (Statement.renumber place) (assignmentStatement line goal expression)
      (assignmentStatement (place line) goal expression) := by
  refine .bind .peekSecond fun second => ?_
  rw [Token.renumber_kind]
  cases assignmentOp? second.kind with
  | none => exact expressions.bind fun value => .pure rfl
  | some op =>
      refine .bind .advance fun token => .bind .advance fun _ => ?_
      refine expressions.bind fun value => ?_
      cases goal with
      | named name => cases op <;> exact .pure rfl
      | stored key =>
          cases op <;>
          · refine .pure ?_
            rw [Token.renumber_line, keyExpr_renumber]
            rfl

theorem waitStatement_follows (line : Nat) :
    Follows place (Statement.renumber place) (waitStatement line expression)
      (waitStatement (place line) expression) := by
  refine .bind .advance fun _ => expressions.bind fun amount => ?_
  refine .bind (.eat _) fun _ => .ite (fun _ => .pure rfl) fun _ => ?_
  exact .bind (.eat _) fun _ => .pure rfl

theorem returnStatement_follows (line : Nat) :
    Follows place (Statement.renumber place) (returnStatement line expression)
      (returnStatement (place line) expression) := by
  refine .bind .advance fun _ => .bind .peek fun token => ?_
  exact .ite (fun _ => .pure rfl) fun _ => expressions.bind fun value => .pure rfl

theorem effectStatement_follows (line : Nat) (name : String) :
    Follows place (Statement.renumber place) (effectStatement line name expression)
      (effectStatement (place line) name expression) := by
  refine .bind .advance fun _ => ?_
  refine Follows.bind (show Follows place (List.map (Expr.renumber place)) _ _ from ?_)
    fun arguments => .pure rfl
  refine .loop (List.map (Expr.renumber place)) (fun found => ?_) []
  refine .bind .peek fun token => .ite (fun _ => .pure ?_) fun _ => ?_
  · simp
  · exact expressions.bind fun value => .pure rfl

theorem simpleStatement_follows (line : Nat) :
    Follows place (Statement.renumber place) (simpleStatement line expression)
      (simpleStatement (place line) expression) := by
  have evaluate : Follows place (Statement.renumber place)
      (do return .evaluate line (← expression)) (do return .evaluate (place line) (← expression)) :=
    expressions.bind fun value => .pure rfl
  refine .bind .peek fun token => ?_
  obtain ⟨kind, lexeme, here, spaced⟩ := token
  cases kind
  case keyword keyword =>
    cases keyword
    case wait => exact waitStatement_follows expressions line
    case returned => exact returnStatement_follows expressions line
    case breaking => exact .bind .advance fun _ => .pure rfl
    case continuing => exact .bind .advance fun _ => .pure rfl
    case assign => exact setStatement_follows expressions line
    case add =>
      refine .bind (beginsStatement_follows _) fun _ => .ite (fun _ => ?_) fun _ => evaluate
      exact adjustStatement_follows expressions line _ _ _
    case remove =>
      refine .bind (beginsStatement_follows _) fun _ => .ite (fun _ => ?_) fun _ => evaluate
      exact adjustStatement_follows expressions line _ _ _
    all_goals exact evaluate
  case reference name => exact assignmentStatement_follows expressions line _
  case stored key => exact assignmentStatement_follows expressions line _
  case word name =>
    refine .bind .peekSecond fun _ => .ite (fun _ => evaluate) fun _ => ?_
    exact effectStatement_follows expressions line name
  all_goals exact evaluate

variable {block : Parser Block}
  (blocks : Follows place (Statement.renumberBlock place) block block)

include blocks

omit expressions in
theorem headedBlock_follows :
    Follows place (Statement.renumberBlock place) (headedBlock block) (headedBlock block) :=
  .bind (.eat _) fun _ => blocks

theorem branches_follows :
    Follows place (Prod.map (List.map (Prod.map (Expr.renumber place)
      (Statement.renumberBlock place))) (Option.map (Statement.renumberBlock place)))
      (branches expression block) (branches expression block) := by
  refine .loop (List.map (Prod.map (Expr.renumber place) (Statement.renumberBlock place)))
    (fun found => ?_) []
  refine .bind .skipNewlines fun _ => .bind .peek fun first => ?_
  refine .bind .peekSecond fun second => .bind .peek fun again => ?_
  refine .ite (fun _ => .bind .advance fun _ => ?_) fun _ => ?_
  · have chosen : Follows place (Sum.map
        (List.map (Prod.map (Expr.renumber place) (Statement.renumberBlock place)))
        (Prod.map (List.map (Prod.map (Expr.renumber place) (Statement.renumberBlock place)))
          (Option.map (Statement.renumberBlock place))))
        (do
          let condition ← expression
          let body ← headedBlock block
          return .inl ((condition, body) :: found))
        (do
          let condition ← expression
          let body ← headedBlock block
          return .inl ((condition, body) ::
            found.map (Prod.map (Expr.renumber place) (Statement.renumberBlock place)))) :=
      expressions.bind fun condition => .bind (headedBlock_follows blocks) fun body => .pure rfl
    exact .ite (fun _ => .bind .advance fun _ => chosen) fun _ => chosen
  · refine .bind (.eat _) fun _ => .ite (fun _ => ?_) fun _ => .pure ?_
    · refine .bind (headedBlock_follows blocks) fun body => .pure ?_
      simp
    · simp

theorem ifStatement_follows :
    Follows place (Statement.renumber place) (ifStatement expression block)
      (ifStatement expression block) := by
  refine .bind .advance fun token => expressions.bind fun condition => ?_
  refine .bind (headedBlock_follows blocks) fun yes => ?_
  refine .bind (branches_follows expressions blocks) fun others => ?_
  exact .pure (Statement.renumber_branch _ _ _ _ _)

theorem forStatement_follows :
    Follows place (Statement.renumber place) (forStatement expression block)
      (forStatement expression block) := by
  refine .bind .advance fun token => .bind .peek fun named => ?_
  have rest (name : String) : Follows place (Statement.renumber place)
      (do
        expect (.keyword .inside) "'in'"
        let subject ← expression
        let body ← headedBlock block
        return .forLoop token.line name subject body)
      (do
        expect (.keyword .inside) "'in'"
        let subject ← expression
        let body ← headedBlock block
        return .forLoop (place token.line) name subject body) := by
    refine .bind (.expect _ _) fun _ => expressions.bind fun subject => ?_
    exact .bind (headedBlock_follows blocks) fun body => .pure rfl
  obtain ⟨kind, lexeme, line, spaced⟩ := named
  cases kind
  case reference name => exact .bind .advance fun _ => .bind (.pure rfl) rest
  all_goals exact .bind (.expectName _) rest

theorem whileStatement_follows (line : Nat) :
    Follows place (Statement.renumber place) (whileStatement line expression block)
      (whileStatement (place line) expression block) := by
  refine .bind .advance fun _ => expressions.bind fun condition => ?_
  exact .bind (headedBlock_follows blocks) fun body => .pure rfl

theorem repeatStatement_follows (line : Nat) :
    Follows place (Statement.renumber place) (repeatStatement line expression block)
      (repeatStatement (place line) expression block) := by
  refine .bind .advance fun _ => expressions.bind fun count => ?_
  refine .bind (.eat _) fun _ => ?_
  exact .bind (headedBlock_follows blocks) fun body => .pure rfl

theorem statement_follows :
    Follows place (Statement.renumber place) (statement expression block)
      (statement expression block) := by
  refine .bind .peek fun first => .bind .peek fun token => ?_
  have simple : Follows place (Statement.renumber place)
      (do
        let result ← simpleStatement first.line expression
        endStatement
        return result)
      (do
        let result ← simpleStatement (place first.line) expression
        endStatement
        return result) := by
    refine .bind (simpleStatement_follows expressions first.line) fun result => ?_
    exact .bind endStatement_follows fun _ => .pure rfl
  obtain ⟨kind, lexeme, line, spaced⟩ := token
  cases kind
  case keyword keyword =>
    cases keyword
    case ifTrue => exact ifStatement_follows expressions blocks
    case whileTrue => exact whileStatement_follows expressions blocks _
    case forEach => exact forStatement_follows expressions blocks
    case repeated =>
      refine .bind (beginsStatement_follows _) fun _ => .bind (lineContains_follows _) fun _ => ?_
      exact .ite (fun _ => repeatStatement_follows expressions blocks _) fun _ => simple
    all_goals exact simple
  all_goals exact simple

end Statements

section Blocks

theorem blockOf_follows {statement : Option (Parser Statement)}
    (statements : ∀ parser ∈ statement, Follows place (Statement.renumber place) parser parser) :
    Follows place (Statement.renumberBlock place) (blockOf statement) (blockOf statement) := by
  refine .bind .peek fun token => .bind .skipNewlines fun _ => ?_
  refine .bind (.eat _) fun _ => .ite (fun _ => ?_) fun _ => .pure rfl
  cases statement with
  | none => exact .fail _
  | some parser =>
      have one := statements parser rfl
      refine Follows.bind (show Follows place (List.map (Statement.renumber place)) _ _ from ?_)
        fun found => ?_
      · refine .loop (List.map (Statement.renumber place)) (fun found => ?_) []
        refine .bind .skipNewlines fun _ => .bind .peek fun next => ?_
        exact .ite (fun _ => .pure (by simp)) fun _ => one.bind fun _ => .pure rfl
      · exact .bind (.eat _) fun _ => .pure (Statement.renumberBlock_mk _ _)

theorem blockWithin_follows (room : Nat) :
    Follows place (Statement.renumberBlock place) (blockWithin room) (blockWithin room) := by
  induction room with
  | zero => exact blockOf_follows nofun
  | succ room ih =>
      refine blockOf_follows fun parser found => ?_
      cases found
      exact statement_follows (Grammar.within_copies room).expression ih

theorem body_follows : Follows place (Statement.renumberBlock place) body body :=
  headedBlock_follows (blockWithin_follows nestingLimit)

end Blocks

section Items

theorem eventHandler_follows :
    Follows place (fun handler => ⟨handler.event, Statement.renumberBlock place handler.body,
      place handler.line⟩) eventHandler eventHandler := by
  refine .bind .advance fun token => ?_
  refine Follows.bind (show Follows place (fun words => words) _ _ from ?_) fun words => ?_
  · refine .loop (fun words => words) (fun words => ?_) []
    refine .bind .peek fun next => ?_
    obtain ⟨kind, lexeme, line, spaced⟩ := next
    cases kind
    case newline => exact .pure rfl
    case finish => exact .pure rfl
    case symbol mark =>
      cases mark
      case colon => exact .pure rfl
      all_goals exact .bind .advance fun _ => .pure rfl
    all_goals exact .bind .advance fun _ => .pure rfl
  · exact .ite (fun _ => .fail _) fun _ => .bind body_follows fun found => .pure rfl

theorem parameterName_follows : Follows place (fun name => name) parameterName parameterName := by
  refine .bind .peek fun token => ?_
  obtain ⟨kind, lexeme, line, spaced⟩ := token
  cases kind
  case reference name => exact .bind .advance fun _ => .pure rfl
  all_goals exact Follows.expectName _

theorem parameters_follows : Follows place (fun names => names) parameters parameters := by
  refine .bind (.eat _) fun _ => .ite (fun _ => ?_) fun _ => .pure rfl
  have names : Follows place (List.map fun name => name)
      (separated .closeParen "')'" parameterName) (separated .closeParen "')'" parameterName) :=
    Follows.separated _ _ parameterName_follows
  have same : List.map (fun name : String => name) = fun names => names := funext List.map_id'
  rwa [same] at names

theorem metadataAhead_follows : Follows place (fun found => found) metadataAhead metadataAhead := by
  refine .bind .peek fun token => ?_
  rw [Token.nameOf?_renumber]
  cases nameOf? token with
  | none => exact .pure rfl
  | some name =>
      refine .bind .peekSecond fun second => .ite (fun _ => ?_) fun _ => .pure rfl
      split <;> exact .pure rfl

theorem metadataText_follows : Follows place (fun text => text) metadataText metadataText := by
  refine .loop (fun text => text) (fun text => ?_) ""
  refine .bind .peek fun token => .bind metadataAhead_follows fun found => ?_
  refine .ite (fun _ => .pure rfl) fun _ => .bind .peekSecond fun second => ?_
  exact .ite (fun _ => .pure rfl) fun _ => .bind .advance fun _ => .pure rfl

def renumberHead (place : Nat → Nat) (command : Command) : Command :=
  { command with line := place command.line }

theorem describeStep_follows (command : Command) :
    Follows place (Sum.map (renumberHead place) (renumberHead place)) (describeStep command)
      (describeStep (renumberHead place command)) := by
  refine .bind metadataAhead_follows fun found => ?_
  cases found with
  | none => exact .pure rfl
  | some metadata =>
      refine .bind .advance fun _ => .bind .advance fun _ => ?_
      refine .bind metadataText_follows fun content => ?_
      cases metadata <;> exact .pure rfl

theorem command_follows :
    Follows place (fun command => { command with
      body := Statement.renumberBlock place command.body, line := place command.line })
      command command := by
  refine .bind .advance fun token => .bind (.expectName _) fun name => ?_
  refine .bind parameters_follows fun names => ?_
  refine .bind (Follows.loop (renumberHead place) describeStep_follows _) fun head => ?_
  exact .bind body_follows fun found => .pure rfl

theorem function_follows :
    Follows place (fun function => { function with
      body := Statement.renumberBlock place function.body, line := place function.line })
      function function := by
  refine .bind .advance fun token => .bind (.expectName _) fun name => ?_
  exact .bind parameters_follows fun names => .bind body_follows fun found => .pure rfl

theorem item_follows : Follows place (Item.renumber place) item item := by
  have copies : (Grammar.within nestingLimit).Copies place := Grammar.within_copies nestingLimit
  have statements := statement_follows copies.expression (blockWithin_follows nestingLimit)
  refine .bind .peek fun token => ?_
  obtain ⟨kind, lexeme, line, spaced⟩ := token
  cases kind
  case keyword keyword =>
    cases keyword
    case onEvent => exact .bind eventHandler_follows fun handler => .pure rfl
    case command => exact .bind command_follows fun command => .pure rfl
    case function => exact .bind function_follows fun function => .pure rfl
    all_goals exact statements.bind fun found => .pure rfl
  all_goals exact statements.bind fun found => .pure rfl

theorem items_follows : Follows place (renumber place) items items := by
  refine .loop (List.map (Item.renumber place)) (fun found => ?_) []
  refine .bind .skipNewlines fun _ => .bind .peek fun token => ?_
  refine .ite (fun _ => .pure ?_) fun _ => .bind item_follows fun item => .pure rfl
  simp [renumber]

end Items

/-- Tokens on other lines give the program on these lines. -/
theorem ofTokens_renumber {tokens : List Token} (some : tokens ≠ []) :
    ofTokens (tokens.map (Token.renumber place)) =
      replaced place (renumber place) (ofTokens tokens) := by
  have start : Cursor.ofTokens (tokens.map (Token.renumber place)) =
      (Cursor.ofTokens tokens).renumber place := by
    obtain ⟨last, found⟩ := Option.ne_none_iff_exists'.mp
      (mt List.getLast?_eq_none_iff.mp some)
    simp [Cursor.ofTokens, Cursor.renumber, found, Token.renumber]
  rw [ofTokens, ofTokens, start, items_follows.follows]
  cases items (Cursor.ofTokens tokens) <;> rfl

end EventScript.Program
