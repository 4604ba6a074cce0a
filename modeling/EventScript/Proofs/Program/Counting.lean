import Mathlib
import EventScript.Proofs.Program.Counted

/-!
The parsers that count read what the grammar reads, and never stand still.
-/

namespace EventScript.Program

open EventScript.Program.Parser

structure Unstuck {α : Type} (parser : Parser α) : Prop where
  moves : ∀ cursor line, parser cursor ≠ .error ⟨.noProgress, line⟩

namespace Unstuck

variable {α β σ : Type}

theorem pure (value : α) : Unstuck (pure value : Parser α) := ⟨nofun⟩

theorem bind {first : Parser α} {next : α → Parser β} (starts : Unstuck first)
    (goes : ∀ value, Unstuck (next value)) : Unstuck (first >>= next) where
  moves cursor line stuck := by
    change (first cursor >>= fun outcome => next outcome.1 outcome.2) = _ at stuck
    cases found : first cursor with
    | error error =>
        rw [found] at stuck
        cases stuck
        exact starts.moves cursor line found
    | ok outcome =>
        rw [found] at stuck
        exact (goes outcome.1).moves outcome.2 line stuck

theorem ite {choice : Prop} [Decidable choice] {yes no : Parser α} (first : Unstuck yes)
    (second : Unstuck no) : Unstuck (if choice then yes else no) := by
  split
  · exact first
  · exact second

theorem peek : Unstuck Parser.peek := ⟨nofun⟩

theorem peekSecond : Unstuck Parser.peekSecond := ⟨nofun⟩

theorem advance : Unstuck Parser.advance := ⟨nofun⟩

theorem fail {fault : SourceFault} (other : fault ≠ .noProgress) :
    Unstuck (Parser.fail fault : Parser α) where
  moves _ _ stuck := by
    cases stuck
    exact other rfl

theorem expected (what : String) : Unstuck (Parser.expected what : Parser α) := ⟨nofun⟩

theorem isNext (kind : TokenKind) : Unstuck (Parser.isNext kind) := ⟨nofun⟩

theorem eat (kind : TokenKind) : Unstuck (Parser.eat kind) :=
  (isNext kind).bind fun _ => ite (advance.bind fun _ => pure true) (pure false)

theorem expect (kind : TokenKind) (what : String) : Unstuck (Parser.expect kind what) :=
  (isNext kind).bind fun _ => ite (advance.bind fun _ => pure ()) (expected what)

theorem expectName (what : String) : Unstuck (Parser.expectName what) := by
  refine peek.bind fun token => ?_
  cases nameOf? token with
  | some name => exact advance.bind fun _ => pure name
  | none => exact expected what

theorem loop {step : σ → Parser (σ ⊕ α)} (rounds : Rounds step)
    (steps : ∀ state, Unstuck (step state)) (state : σ) : Unstuck (Parser.loop step state) where
  moves cursor line := by
    fun_induction Parser.loop step state cursor with
    | case1 state cursor error failed =>
        intro stuck
        cases stuck
        exact (steps state).moves cursor line failed
    | case2 state cursor result rest last =>
        intro stuck
        cases stuck
    | case3 state cursor next rest goes shorter ih => exact ih
    | case4 state cursor next rest goes stuck => exact absurd (rounds.shorter goes) stuck

theorem skipNewlines : Unstuck Parser.skipNewlines := by
  rw [skipNewlines_eq]
  exact loop newlineStep_rounds (fun _ => (eat .newline).bind fun _ => ite (pure _) (pure _)) ()

theorem operator (meaning : TokenKind → Option BinaryOp) : Unstuck (Grammar.operator meaning) := by
  refine peek.bind fun token => ?_
  cases meaning token.kind with
  | some op => exact advance.bind fun _ => pure _
  | none => exact pure _

theorem comparisonOperator : Unstuck Grammar.comparisonOperator := by
  refine peek.bind fun token => peekSecond.bind fun second => ite ?_ (operator _)
  exact advance.bind fun _ => advance.bind fun _ => pure _

theorem lineContains (kind : TokenKind) : Unstuck (lineContains kind) := ⟨nofun⟩

theorem beginsStatement (joiner : TokenKind) : Unstuck (beginsStatement joiner) :=
  peekSecond.bind fun _ => ite (lineContains joiner) (pure true)

theorem endStatement : Unstuck endStatement := by
  refine peek.bind fun token => ?_
  split
  · exact advance.bind fun _ => pure ()
  · exact pure ()
  · exact pure ()
  · exact expected _

theorem target : Unstuck target := by
  refine peek.bind fun token => ?_
  split
  · exact advance.bind fun _ => pure _
  · exact advance.bind fun _ => pure _
  · exact (expectName _).bind fun _ => pure _

end Unstuck

structure Counts {α : Type} (depth : Nat) (counted : Counted α) (plain : Parser α) : Prop where
  unstuck : Unstuck plain
  same : counted depth = (·, depth) <$> plain

namespace Counts

open Counted

variable {α β σ : Type} {depth : Nat} {counted : Counted α} {plain : Parser α}

theorem lift (unstuck : Unstuck plain) : Counts depth (liftM plain) plain := ⟨unstuck, rfl⟩

theorem pure (value : α) : Counts depth (pure value) (pure value) := ⟨.pure value, rfl⟩

theorem bind {next : α → Counted β} {plainNext : α → Parser β}
    (starts : Counts depth counted plain)
    (goes : ∀ value, Counts depth (next value) (plainNext value)) :
    Counts depth (counted >>= next) (plain >>= plainNext) where
  unstuck := starts.unstuck.bind fun value => (goes value).unstuck
  same := by
    change (counted depth >>= fun outcome => next outcome.1 outcome.2) = _
    rw [starts.same, bind_map_left, map_bind]
    exact congrArg _ (funext fun value => (goes value).same)

theorem ite {choice : Prop} [Decidable choice] {no : Counted α} {plainNo : Parser α}
    (first : Counts depth counted plain) (second : Counts depth no plainNo) :
    Counts depth (if choice then counted else no) (if choice then plain else plainNo) := by
  split
  · exact first
  · exact second

theorem loop {step : σ → Counted (σ ⊕ α)} {plainStep : σ → Parser (σ ⊕ α)}
    (rounds : Rounds plainStep) (steps : ∀ state, Counts depth (step state) (plainStep state))
    (state : σ) : Counts depth (Counted.loop step state) (Parser.loop plainStep state) where
  unstuck := .loop rounds (fun state => (steps state).unstuck) state
  same := by
    have turn (state : σ) (cursor : Cursor) : (withDepth <$> step state depth) cursor =
        (plainStep state cursor).map fun (outcome, rest) => (withDepth (outcome, depth), rest) := by
      rw [(steps state).same, Functor.map_map]
      change (plainStep state cursor >>= fun outcome => _) = _
      cases plainStep state cursor <;> rfl
    funext cursor
    change Parser.loop _ (state, depth) cursor =
      (Parser.loop plainStep state cursor >>= fun outcome => .ok ((outcome.1, depth), outcome.2))
    fun_induction Parser.loop plainStep state cursor with
    | case1 state cursor error failed =>
        rw [Parser.loop, turn, failed]
        rfl
    | case2 state cursor result rest last =>
        rw [Parser.loop, turn, last]
        rfl
    | case3 state cursor next rest goes shorter ih =>
        rw [Parser.loop, turn, goes]
        dsimp only [Except.map, withDepth]
        rw [if_pos shorter]
        exact ih
    | case4 state cursor next rest goes stuck => exact absurd (rounds.shorter goes) stuck

theorem separated {closing : Symbol} {what : String} {item : Counted α} {plainItem : Parser α}
    (consumes : Consumes plainItem) (items : Counts depth item plainItem) :
    Counts depth (Counted.separated closing what item)
      (Parser.separated closing what plainItem) := by
  rw [separated_eq]
  refine loop (separatedStep_rounds consumes closing what) (fun found => ?_) []
  refine (lift (.eat _)).bind fun _ => .ite (.pure _) (items.bind fun value => ?_)
  refine (lift (.eat _)).bind fun _ => .ite (.pure _) ?_
  exact (lift (.expect _ _)).bind fun _ => .pure _

theorem enter_eq (depth : Nat) :
    enter depth = if nestingLimit < depth + 1 then tooDeep else Pure.pure ((), depth + 1) := by
  change (if nestingLimit < depth + 1 then (liftM tooDeep : Counted Unit) else Pure.pure ())
    (depth + 1) = _
  split <;> rfl

theorem deeper_eq (counted : Counted α) (depth : Nat) :
    Counted.deeper counted depth = enter depth >>= fun entered =>
      counted entered.2 >>= fun outcome => Pure.pure (outcome.1, outcome.2 - 1) := rfl

theorem deeper (room : depth < nestingLimit) (inside : Counts (depth + 1) counted plain) :
    Counts depth (Counted.deeper counted) plain where
  unstuck := inside.unstuck
  same := by
    rw [deeper_eq, enter_eq, if_neg (by omega), pure_bind, inside.same, bind_map_left,
      ← bind_pure_comp]
    rfl

theorem full (full : nestingLimit ≤ depth) : Counts depth (Counted.deeper counted) tooDeep where
  unstuck := .fail nofun
  same := by
    rw [deeper_eq, enter_eq, if_pos (by omega)]
    rfl

theorem rewind {missed : Counted α} {plainMissed : Parser α}
    {taken : Token → Option CompoundOp → Counted α}
    {plainTaken : Token → Option CompoundOp → Parser α}
    (misses : Counts depth missed plainMissed)
    (takes : ∀ token found, Counts depth (taken token found) (plainTaken token found)) :
    Counts depth
      (do
        let start ← here
        let token ← advance
        match assignmentOp? (← peek).kind with
        | none =>
          Counted.rewind start
          missed
        | some found => taken token found)
      (do
        match assignmentOp? (← peekSecond).kind with
        | none => plainMissed
        | some found =>
          let token ← advance
          plainTaken token found) where
  unstuck := by
    refine Unstuck.peekSecond.bind fun second => ?_
    cases assignmentOp? second.kind with
    | none => exact misses.unstuck
    | some found => exact Unstuck.advance.bind fun token => (takes token found).unstuck
  same := by
    funext cursor
    change (match assignmentOp? cursor.peekSecond.kind with
      | none => liftM (Counted.rewind cursor) >>= fun _ => missed
      | some found => taken cursor.peek found : Counted α) depth cursor.next =
      ((·, depth) <$> (match assignmentOp? cursor.peekSecond.kind with
        | none => plainMissed
        | some found => advance >>= fun token => plainTaken token found : Parser α)) cursor
    cases assignmentOp? cursor.peekSecond.kind with
    | none => exact congrFun misses.same cursor
    | some found => exact congrFun (takes cursor.peek found).same cursor.next

end Counts

open Counted

namespace Grammar

structure Counts (depth : Nat) (entries : Entries) (grammar : Grammar) : Prop where
  expression : Program.Counts depth entries.expression grammar.expression
  inverted : Program.Counts depth entries.inverted grammar.inverted
  signed : Program.Counts depth entries.signed grammar.signed

section Levels

variable {depth room : Nat} {inner : Entries} (counts : Counts depth inner (within room))

include counts

theorem callArguments_counts :
    Program.Counts depth inner.callArguments (within room).callArguments :=
  .bind (.lift (.expect _ _)) fun _ => .separated (expression_consumes room) counts.expression

theorem mapEntry_counts : Program.Counts depth inner.mapEntry (within room).mapEntry := by
  refine counts.expression.bind fun key => .bind (.lift (.expect _ _)) fun _ => ?_
  exact counts.expression.bind fun value => .pure _

theorem primary_counts : Program.Counts depth inner.primary (within room).primary := by
  refine .bind (.lift .advance) fun token => ?_
  have unexpected : Unstuck
      (fun _ => .error ⟨.unexpected (describe token), token.line⟩ : Parser Expr) := ⟨nofun⟩
  have called (name : String) : Program.Counts depth
      (do return .call token.line name (← inner.callArguments) : Counted Expr)
      (do return .call token.line name (← (within room).callArguments) : Parser Expr) :=
    (callArguments_counts counts).bind fun arguments => .pure _
  dsimp only
  generalize token.kind = kind
  cases kind
  case word name => exact .bind (.lift (.isNext _)) fun _ => .ite (called _) (.pure _)
  case keyword keyword =>
    refine .ite ?_ (.lift unexpected)
    exact .bind (.lift (.isNext _)) fun _ => .ite (called _) (.lift unexpected)
  case symbol mark =>
    cases mark
    case openParen =>
      exact counts.expression.bind fun value => .bind (.lift (.expect _ _)) fun _ => .pure _
    case openBracket =>
      exact .bind (.separated (expression_consumes room) counts.expression) fun items => .pure _
    case openBrace =>
      refine .bind (.separated (mapEntry_consumes room) (mapEntry_counts counts)) fun entries => ?_
      exact .pure _
    all_goals exact .lift unexpected
  case newline => exact .lift unexpected
  case indent => exact .lift unexpected
  case dedent => exact .lift unexpected
  case finish => exact .lift unexpected
  all_goals exact .pure _

theorem suffix_counts (target : Expr) :
    Program.Counts depth (inner.suffix target) ((within room).suffix target) := by
  refine .bind (.lift .peek) fun token => ?_
  generalize token.kind = kind
  cases kind
  case symbol mark =>
    cases mark
    case openBracket =>
      refine .ite (.pure _) (.bind (.lift .advance) fun _ => ?_)
      exact counts.expression.bind fun position => .bind (.lift (.expect _ _)) fun _ => .pure _
    case dot =>
      refine .bind (.lift .advance) fun _ => .bind (.lift (.expectName _)) fun name => ?_
      refine .bind (.lift (.isNext _)) fun _ => .ite ?_ (.pure _)
      exact (callArguments_counts counts).bind fun arguments => .pure _
    all_goals exact .pure _
  all_goals exact .pure _

theorem suffixed_counts : Program.Counts depth inner.suffixed (within room).suffixed :=
  (primary_counts counts).bind fun target =>
    .loop (suffix_rounds room) (suffix_counts counts) target

theorem power_counts : Program.Counts depth inner.power (within room).power := by
  refine (suffixed_counts counts).bind fun base => ?_
  refine .bind (.lift (.isNext _)) fun _ => .ite (.bind (.lift .advance) fun token => ?_) (.pure _)
  exact counts.signed.bind fun exponent => .pure _

theorem minus_counts : Program.Counts depth inner.minus (within room).minus := by
  refine .bind (.lift (.isNext _)) fun _ => .ite ?_ (power_counts counts)
  exact .bind (.lift .advance) fun token => counts.signed.bind fun operand => .pure _

omit counts in
theorem chain_counts {operator : OperatorParser} {operand : Counted Expr}
    {plainOperand : Parser Expr} (unstuck : Unstuck operator) (found : Found operator)
    (consumes : Consumes plainOperand) (operands : Program.Counts depth operand plainOperand) :
    Program.Counts depth (Entries.chain operator operand) (chain operator plainOperand) := by
  rw [chain_eq]
  refine operands.bind fun first => .loop (joinStep_rounds found consumes) (fun left => ?_) first
  refine .bind (.lift unstuck) fun found => ?_
  cases found with
  | some found => exact operands.bind fun right => .pure _
  | none => exact .pure _

theorem comparison_counts : Program.Counts depth inner.comparison (within room).comparison := by
  have products := chain_counts (.operator _) productOp_found (minus_consumes room)
    (minus_counts counts)
  have sums := chain_counts (.operator _) sumOp_found (product_consumes room) products
  exact chain_counts .comparisonOperator comparisonOperator_found (sum_consumes room) sums

theorem invert_counts : Program.Counts depth inner.invert (within room).invert := by
  refine .bind (.lift .peek) fun token => .ite ?_ (comparison_counts counts)
  exact .bind (.lift .advance) fun token => counts.inverted.bind fun operand => .pure _

theorem conditional_counts : Program.Counts depth inner.conditional (within room).conditional := by
  have conjunctions := chain_counts (.operator _) andOp_found (invert_consumes room)
    (invert_counts counts)
  have disjunctions :=
    chain_counts (.operator _) orOp_found (conjunction_consumes room) conjunctions
  refine disjunctions.bind fun condition => ?_
  refine .bind (.lift (.isNext _)) fun _ => .ite (.bind (.lift .advance) fun token => ?_) (.pure _)
  refine counts.expression.bind fun yes => .bind (.lift (.expect _ _)) fun _ => ?_
  exact counts.expression.bind fun no => .pure _

end Levels

theorem within_counts {depth calls : Nat} (some : 0 < calls)
    (enough : nestingLimit < calls + depth) :
    Counts depth (Entries.within calls) (within (nestingLimit - depth)) := by
  generalize left : nestingLimit - depth = room
  induction room generalizing depth calls with
  | zero =>
      cases calls with
      | zero => cases some
      | succ calls =>
          have full : nestingLimit ≤ depth := by omega
          exact ⟨.full full, .full full, .full full⟩
  | succ room ih =>
      cases calls with
      | zero => cases some
      | succ calls =>
          have inside : Counts (depth + 1) (Entries.within calls) (within room) :=
            ih (by omega) (by omega) (by omega)
          have below : depth < nestingLimit := by omega
          exact ⟨.deeper below (conditional_counts inside), .deeper below (invert_counts inside),
            .deeper below (minus_counts inside)⟩

end Grammar

section Statements

variable {depth : Nat} {expression : Counted Expr} {plainExpression : Parser Expr}
  (expressions : Counts depth expression plainExpression)

include expressions

theorem setStatement_counts (line : Nat) :
    Counts depth (Counted.setStatement line expression) (setStatement line plainExpression) := by
  refine .bind (.lift .advance) fun _ => .bind (.lift .target) fun goal => ?_
  refine .bind (.lift (.expect _ _)) fun _ => expressions.bind fun value => ?_
  cases goal <;> exact .pure _

theorem adjustStatement_counts (line : Nat) (op : BinaryOp) (joiner : Keyword) (what : String) :
    Counts depth (Counted.adjustStatement line op joiner what expression)
      (adjustStatement line op joiner what plainExpression) := by
  refine .bind (.lift .advance) fun token => expressions.bind fun amount => ?_
  refine .bind (.lift (.expect _ _)) fun _ => .bind (.lift .target) fun goal => ?_
  cases goal <;> exact .pure _

theorem waitStatement_counts (line : Nat) :
    Counts depth (Counted.waitStatement line expression) (waitStatement line plainExpression) := by
  refine .bind (.lift .advance) fun _ => expressions.bind fun amount => ?_
  refine .bind (.lift (.eat _)) fun _ => .ite (.pure _) ?_
  exact .bind (.lift (.eat _)) fun _ => .pure _

theorem returnStatement_counts (line : Nat) :
    Counts depth (Counted.returnStatement line expression)
      (returnStatement line plainExpression) := by
  refine .bind (.lift .advance) fun _ => .bind (.lift .peek) fun token => ?_
  exact .ite (.pure _) (expressions.bind fun value => .pure _)

omit expressions in
theorem assignmentStatement_eq (line : Nat) (goal : Target) :
    assignmentStatement line goal plainExpression = (do
      match assignmentOp? (← peekSecond).kind with
      | none => return .evaluate line (← plainExpression)
      | some op =>
        let token ← advance
        let _ ← advance
        return assigned line token (← plainExpression) goal op) := by
  refine bind_congr fun second => ?_
  cases assignmentOp? second.kind with
  | none => rfl
  | some op => cases goal <;> cases op <;> rfl

theorem assignmentStatement_counts (line : Nat) (goal : Target) :
    Counts depth (Counted.assignmentStatement line goal expression)
      (assignmentStatement line goal plainExpression) := by
  have evaluated : Counts depth (do return .evaluate line (← expression) : Counted Statement)
      (do return .evaluate line (← plainExpression) : Parser Statement) :=
    expressions.bind fun value => .pure _
  have assigns (token : Token) (op : Option CompoundOp) : Counts depth
      (do
        let _ ← advance
        return assigned line token (← expression) goal op : Counted Statement)
      (do
        let _ ← advance
        return assigned line token (← plainExpression) goal op : Parser Statement) :=
    .bind (.lift .advance) fun _ => expressions.bind fun value => .pure _
  rw [assignmentStatement_eq]
  exact .rewind evaluated assigns

variable (consumes : Consumes plainExpression)

include consumes

theorem effectStatement_counts (line : Nat) (name : String) :
    Counts depth (Counted.effectStatement line name expression)
      (effectStatement line name plainExpression) := by
  rw [effectStatement_eq]
  refine .bind (.lift .advance) fun _ => .bind ?_ fun arguments => .pure _
  refine .loop (argumentStep_rounds consumes) (fun found => .bind (.lift .peek) fun next => ?_) []
  exact .ite (.pure _) (expressions.bind fun value => .pure _)

theorem simpleStatement_counts (line : Nat) :
    Counts depth (Counted.simpleStatement line expression)
      (simpleStatement line plainExpression) := by
  have evaluate : Counts depth (do return .evaluate line (← expression) : Counted Statement)
      (do return .evaluate line (← plainExpression) : Parser Statement) :=
    expressions.bind fun value => .pure _
  refine .bind (.lift .peek) fun token => ?_
  generalize token.kind = kind
  cases kind
  case keyword keyword =>
    cases keyword
    case wait => exact waitStatement_counts expressions line
    case returned => exact returnStatement_counts expressions line
    case breaking => exact .bind (.lift .advance) fun _ => .pure _
    case continuing => exact .bind (.lift .advance) fun _ => .pure _
    case assign => exact setStatement_counts expressions line
    case add =>
      refine .bind (.lift (.beginsStatement _)) fun _ => .ite ?_ evaluate
      exact adjustStatement_counts expressions line _ _ _
    case remove =>
      refine .bind (.lift (.beginsStatement _)) fun _ => .ite ?_ evaluate
      exact adjustStatement_counts expressions line _ _ _
    all_goals exact evaluate
  case reference name => exact assignmentStatement_counts expressions line _
  case stored key => exact assignmentStatement_counts expressions line _
  case word name =>
    refine .bind (.lift .peekSecond) fun _ => .ite evaluate ?_
    exact effectStatement_counts expressions consumes line name
  all_goals exact evaluate

end Statements

section Blocks

variable {depth room : Nat} {expression : Counted Expr} {block : Counted Block}
  (expressions : Counts depth expression (Grammar.within room).expression)
  (blocks : Counts depth block (blockWithin room))

include blocks

theorem headedBlock_counts :
    Counts depth (Counted.headedBlock block) (headedBlock (blockWithin room)) :=
  .bind (.lift (.eat _)) fun _ => blocks

include expressions

theorem branches_counts :
    Counts depth (Counted.branches expression block)
      (branches (Grammar.within room).expression (blockWithin room)) := by
  rw [branches_eq]
  refine .loop (branchStep_rounds (fun _ => (Grammar.within_forward room).expression)
    fun _ => blockWithin_forward room) (fun found => ?_) []
  refine .bind (.lift .skipNewlines) fun _ => .bind (.lift .peek) fun first => ?_
  refine .bind (.lift .peekSecond) fun second => .bind (.lift .peek) fun again => ?_
  have bodies := headedBlock_counts blocks
  refine .ite (.bind (.lift .advance) fun _ => ?_) (.bind (.lift (.eat _)) fun _ => ?_)
  · have chosen : Counts depth
        (do
          let condition ← expression
          let body ← Counted.headedBlock block
          return .inl ((condition, body) :: found) :
          Counted (List (Expr × Block) ⊕ List (Expr × Block) × Option Block))
        (do
          let condition ← (Grammar.within room).expression
          let body ← headedBlock (blockWithin room)
          return .inl ((condition, body) :: found) :
          Parser (List (Expr × Block) ⊕ List (Expr × Block) × Option Block)) :=
      expressions.bind fun condition => bodies.bind fun body => .pure _
    exact .ite (.bind (.lift .advance) fun _ => chosen) chosen
  · exact .ite (bodies.bind fun body => .pure _) (.pure _)

theorem ifStatement_counts :
    Counts depth (Counted.ifStatement expression block)
      (ifStatement (Grammar.within room).expression (blockWithin room)) := by
  refine .bind (.lift .advance) fun token => expressions.bind fun condition => ?_
  refine (headedBlock_counts blocks).bind fun yes => ?_
  exact (branches_counts expressions blocks).bind fun others => .pure _

theorem forStatement_counts :
    Counts depth (Counted.forStatement expression block)
      (forStatement (Grammar.within room).expression (blockWithin room)) := by
  refine .bind (.lift .advance) fun token => .bind (.lift .peek) fun named => ?_
  have rest (name : String) : Counts depth
      (do
        expect (.keyword .inside) "'in'"
        let subject ← expression
        let body ← Counted.headedBlock block
        return .forLoop token.line name subject body : Counted Statement)
      (do
        expect (.keyword .inside) "'in'"
        let subject ← (Grammar.within room).expression
        let body ← headedBlock (blockWithin room)
        return .forLoop token.line name subject body : Parser Statement) := by
    refine .bind (.lift (.expect _ _)) fun _ => expressions.bind fun subject => ?_
    exact (headedBlock_counts blocks).bind fun body => .pure _
  generalize named.kind = kind
  cases kind
  case reference name => exact .bind (.lift .advance) fun _ => .bind (.pure _) rest
  all_goals exact .bind (.lift (.expectName _)) rest

theorem whileStatement_counts (line : Nat) :
    Counts depth (Counted.whileStatement line expression block)
      (whileStatement line (Grammar.within room).expression (blockWithin room)) := by
  refine .bind (.lift .advance) fun _ => expressions.bind fun condition => ?_
  exact (headedBlock_counts blocks).bind fun body => .pure _

theorem repeatStatement_counts (line : Nat) :
    Counts depth (Counted.repeatStatement line expression block)
      (repeatStatement line (Grammar.within room).expression (blockWithin room)) := by
  refine .bind (.lift .advance) fun _ => expressions.bind fun count => ?_
  refine .bind (.lift (.eat _)) fun _ => ?_
  exact (headedBlock_counts blocks).bind fun body => .pure _

theorem statement_counts :
    Counts depth (Counted.statement expression block) (statementWithin room) := by
  refine .bind (.lift .peek) fun first => .bind (.lift .peek) fun token => ?_
  have consumes := Grammar.expression_consumes room
  have simple : Counts depth
      (do
        let result ← Counted.simpleStatement first.line expression
        endStatement
        return result : Counted Statement)
      (do
        let result ← simpleStatement first.line (Grammar.within room).expression
        endStatement
        return result : Parser Statement) := by
    refine (simpleStatement_counts expressions consumes _).bind fun result => ?_
    exact .bind (.lift .endStatement) fun _ => .pure _
  generalize token.kind = kind
  cases kind
  case keyword keyword =>
    cases keyword
    case ifTrue => exact ifStatement_counts expressions blocks
    case whileTrue => exact whileStatement_counts expressions blocks _
    case forEach => exact forStatement_counts expressions blocks
    case repeated =>
      refine .bind (.lift (.beginsStatement _)) fun _ => .bind (.lift (.lineContains _)) fun _ => ?_
      exact .ite (repeatStatement_counts expressions blocks _) simple
    all_goals exact simple
  all_goals exact simple

omit expressions blocks in
theorem blockOf_counts {statement : Counted Statement}
    (statements : Counts (depth + 1) statement (statementWithin room))
    (below : depth < nestingLimit) :
    Counts depth (Counted.blockOf statement) (blockWithin (room + 1)) := by
  rw [blockWithin_succ]
  refine .bind (.lift .peek) fun token => .bind (.lift .skipNewlines) fun _ => ?_
  refine .bind (.lift (.eat _)) fun _ => .ite (.deeper below ?_) (.pure _)
  refine .bind ?_ fun found => .bind (.lift (.eat _)) fun _ => .pure _
  rw [blockStatements_eq]
  refine .loop (statementStep_rounds (statementWithin_consumes room)) (fun found => ?_) []
  refine .bind (.lift .skipNewlines) fun _ => .bind (.lift .peek) fun next => ?_
  exact .ite (.pure _) (statements.bind fun one => .pure _)

end Blocks

theorem blockWithin_counts {depth calls : Nat} (some : 0 < calls)
    (enough : nestingLimit < calls + depth) :
    Counts depth (Counted.blockWithin calls) (blockWithin (nestingLimit - depth)) := by
  generalize left : nestingLimit - depth = room
  induction room generalizing depth calls with
  | zero =>
      cases calls with
      | zero => cases some
      | succ calls =>
          refine .bind (.lift .peek) fun token => .bind (.lift .skipNewlines) fun _ => ?_
          refine .bind (.lift (.eat _)) fun _ => .ite (.full ?_) (.pure _)
          omega
  | succ room ih =>
      cases calls with
      | zero => cases some
      | succ calls =>
          have grammar : Grammar.Counts (depth + 1) (Entries.within calls)
              (Grammar.within (nestingLimit - (depth + 1))) :=
            Grammar.within_counts (by omega) (by omega)
          have same : nestingLimit - (depth + 1) = room := by omega
          rw [same] at grammar
          refine blockOf_counts (statement_counts grammar.expression ?_) (by omega)
          exact ih (by omega) (by omega) same

end EventScript.Program
