import Mathlib
import EventScript.Proofs.Program.CommandLines
import EventScript.Proofs.Program.Levels

/-!
Every part of the grammar takes tokens, on any tokens whatever. What is read successfully takes at
least one token, and so does every round of a loop but the last one, so that a loop over the tokens
is over when they are.
-/

namespace EventScript.Program

open EventScript.Program.Parser

structure Consumes {α : Type} (parser : Parser α) : Prop where
  shorter : ∀ {cursor result after}, parser cursor = .ok (result, after) →
    after.length < cursor.length

structure Rounds {σ α : Type} (step : σ → Parser (σ ⊕ α)) : Prop where
  shorter : ∀ {state cursor next after}, step state cursor = .ok (.inl next, after) →
    after.length < cursor.length

def AtMost (count : Nat) (cursor : Cursor) : Prop := cursor.length ≤ count

def Below (count : Nat) (cursor : Cursor) : Prop := cursor.length < count

theorem next_shorter {cursor : Cursor} (more : cursor.peek.kind ≠ .finish) :
    cursor.next.length < cursor.length := by
  obtain ⟨rest, endLine⟩ := cursor
  cases rest with
  | nil => exact absurd rfl more
  | cons token rest => exact Nat.lt_succ_self rest.length

theorem next_atMost {cursor : Cursor} {count : Nat} (atMost : AtMost count cursor) :
    AtMost count cursor.next :=
  Nat.le_trans (List.tail_sublist cursor.rest).length_le atMost

theorem next_below {cursor : Cursor} {count : Nat} (more : cursor.peek.kind ≠ .finish)
    (atMost : AtMost count cursor) : Below count cursor.next :=
  Nat.lt_of_lt_of_le (next_shorter more) atMost

theorem taking_shorter (count : Nat) : Taking (AtMost count) (Below count) fun _ => True where
  take {cursor} atMost inside := by
    refine ⟨next_below ?_ atMost, trivial⟩
    intro finish
    rw [finish] at inside
    cases inside
  name {cursor name} atMost named := by
    obtain ⟨rest, endLine⟩ := cursor
    cases rest with
    | nil => cases named
    | cons token rest => exact Nat.lt_of_lt_of_le (Nat.lt_succ_self rest.length) atMost
  still := Nat.le_of_lt

section Conditions

variable {α σ : Type} {parser : Parser α} {step : σ → Parser (σ ⊕ α)} {count : Nat}

theorem Consumes.of (yields : ∀ count, Yields (AtMost count) parser fun _ => Below count) :
    Consumes parser where
  shorter reads := (yields _).yields (Nat.le_refl _) reads

theorem Consumes.below (consumes : Consumes parser) :
    Yields (AtMost count) parser fun _ => Below count where
  yields atMost reads := Nat.lt_of_lt_of_le (consumes.shorter reads) atMost

theorem Rounds.of (yields : ∀ count state, Yields (AtMost count) (step state)
    (Sum.elim (fun _ => Below count) fun _ _ => True)) : Rounds step where
  shorter reads := (yields _ _).yields (Nat.le_refl _) reads

variable (forward : ∀ tokens, Forward tokens parser)

include forward

theorem Forward.length_le {cursor after : Cursor} {result : α}
    (reads : parser cursor = .ok (result, after)) : after.length ≤ cursor.length :=
  ((forward cursor.rest).kept (List.suffix_refl _) reads).length_le

theorem Forward.atMost : Yields (AtMost count) parser fun _ => AtMost count where
  yields atMost reads := Nat.le_trans (Forward.length_le forward reads) atMost

theorem Forward.below : Yields (Below count) parser fun _ => Below count where
  yields below reads := Nat.lt_of_le_of_lt (Forward.length_le forward reads) below

end Conditions

theorem advance_atMost {count : Nat} :
    Yields (AtMost count) advance fun _ => AtMost count := .advance next_atMost

theorem skipNewlines_atMost {count : Nat} :
    Yields (AtMost count) skipNewlines fun _ => AtMost count :=
  Forward.atMost fun _ => Forward.skipNewlines

def newlineStep (_ : Unit) : Parser (Unit ⊕ Unit) := do
  if ← eat .newline then return .inl () else return .inr ()

theorem skipNewlines_eq : skipNewlines = loop newlineStep () := rfl

theorem newlineStep_rounds : Rounds newlineStep := by
  refine .of fun count _ => ?_
  have taken {cursor : Cursor} (atMost : AtMost count cursor)
      (kind : cursor.peek.kind = .newline) : Below count cursor.next :=
    next_below (by rw [kind]; exact nofun) atMost
  exact .eat_bind taken (fun atMost _ => atMost) (.pure id) (.pure fun _ => trivial)

section Rows

variable {α : Type} {item : Parser α}

theorem separated_eq (closing : Symbol) (what : String) :
    separated closing what item = loop (separatedStep closing what item) [] := rfl

theorem separatedStep_rounds (consumes : Consumes item) (closing : Symbol) (what : String) :
    Rounds (separatedStep closing what item) := by
  refine .of fun count found => ?_
  have taking := taking_shorter count
  refine taking.eat_bind rfl (.pure fun _ => trivial) ?_
  refine consumes.below.bind fun value => taking.again.eat_bind rfl (.pure id) ?_
  exact (taking.again.expect rfl).bind fun _ => .pure fun _ => trivial

end Rows

namespace Grammar

theorem within_shorter (room count : Nat) :
    (within room).Builds (AtMost count) (Below count) fun _ => True :=
  @within_builds _ _ _ (fun _ _ => True) (taking_shorter count) (fun _ => .free _) room

theorem expression_consumes (room : Nat) : Consumes (within room).expression :=
  .of fun count => (within_shorter room count).expression.imp And.left

theorem mapEntry_consumes (room : Nat) : Consumes (within room).mapEntry :=
  .of fun count =>
    (mapEntry_builds (taking_shorter count) (within_shorter room count)).imp And.left

theorem minus_consumes (room : Nat) : Consumes (within room).minus :=
  .of fun count => (minus_builds (taking_shorter count) (within_shorter room count)
    (.free _)).imp And.left

theorem invert_consumes (room : Nat) : Consumes (within room).invert :=
  .of fun count => (invert_builds (taking_shorter count) (within_shorter room count)
    (.free _)).imp And.left

structure Found (operator : OperatorParser) : Prop where
  taken : ∀ count, Yields (AtMost count) operator fun found cursor =>
    (found.isSome = true → Below count cursor) ∧ AtMost count cursor

theorem Found.below {operator : OperatorParser} (found : Found operator) (count : Nat) :
    Yields (Below count) operator fun _ => Below count where
  yields below reads :=
    Nat.lt_of_le_of_lt ((found.taken _).yields (Nat.le_refl _) reads).2 below

theorem operator_found {meaning : TokenKind → Option BinaryOp} (ends : meaning .finish = none) :
    Found (operator meaning) := by
  refine ⟨fun count => Yields.peek.bind fun token => ?_⟩
  split
  · rename_i op known
    have taken : Yields (fun cursor => AtMost count cursor ∧ cursor.peek = token) advance
        fun _ => Below count := by
      refine .advance ?_
      rintro cursor ⟨atMost, rfl⟩
      refine next_below ?_ atMost
      intro finish
      rw [finish, ends] at known
      cases known
    exact taken.bind fun token => .pure fun below => ⟨fun _ => below, Nat.le_of_lt below⟩
  · exact .pure fun holds => ⟨nofun, holds.1⟩

theorem comparisonOperator_found : Found comparisonOperator := by
  refine ⟨fun count => Yields.peek.bind fun token => Yields.peekSecond.bind fun second => ?_⟩
  refine .ite (fun both => ?_) fun _ => ?_
  · simp only [Bool.and_eq_true, beq_iff_eq] at both
    have taken : Yields
        (fun cursor => (AtMost count cursor ∧ cursor.peek = token) ∧ cursor.peekSecond = second)
        advance fun _ => Below count := by
      refine .advance ?_
      rintro cursor ⟨⟨atMost, rfl⟩, -⟩
      exact next_below (by rw [both.1]; exact nofun) atMost
    refine taken.bind fun _ => (Forward.below fun _ => Forward.advance).bind fun token => ?_
    exact .pure fun below => ⟨fun _ => below, Nat.le_of_lt below⟩
  · exact ((operator_found rfl).taken count).of fun holds => holds.1.1

theorem chain_consumes {operator : OperatorParser} {operand : Parser Expr} (found : Found operator)
    (operands : Consumes operand) : Consumes (chain operator operand) := by
  refine .of fun count => operands.below.bind fun first => .loop (fun _ => Below count) ?_ first
  intro left
  refine (found.below count).bind fun joined => ?_
  split
  · exact (operands.below.of (taking_shorter count).still).bind fun right => .pure id
  · exact .pure id

theorem productOp_found : Found (operator productOp) := operator_found rfl

theorem sumOp_found : Found (operator sumOp) := operator_found rfl

theorem andOp_found : Found (operator andOp) := operator_found rfl

theorem orOp_found : Found (operator orOp) := operator_found rfl

theorem product_consumes (room : Nat) : Consumes (within room).product :=
  chain_consumes productOp_found (minus_consumes room)

theorem sum_consumes (room : Nat) : Consumes (within room).sum :=
  chain_consumes sumOp_found (product_consumes room)

theorem conjunction_consumes (room : Nat) : Consumes (within room).conjunction :=
  chain_consumes andOp_found (invert_consumes room)

theorem chain_eq (operator : OperatorParser) (operand : Parser Expr) :
    chain operator operand = operand >>= loop (joinStep operator operand) := rfl

theorem joinStep_rounds {operator : OperatorParser} {operand : Parser Expr}
    (found : Found operator) (operands : Consumes operand) :
    Rounds (joinStep operator operand) := by
  refine .of fun count left => (found.taken count).bind fun taken => ?_
  cases taken with
  | none => exact .pure fun _ => trivial
  | some pair =>
      refine (operands.below.of ?_).bind fun right => .pure id
      intro cursor holds
      exact holds.2

theorem suffix_rounds (room : Nat) : Rounds (within room).suffix := by
  refine .of fun count target => ?_
  have taking := taking_shorter count
  have later := (within_shorter room count).again taking
  refine Yields.peek.bind fun token => ?_
  split
  · rename_i kind
    refine .ite (fun _ => .pure fun _ => trivial) fun _ => ?_
    refine (taking.advance_peeked (by rw [kind]; rfl)).bind fun _ => ?_
    refine (later.expression.of And.left).bind fun position => ?_
    exact ((taking.again.expect rfl).of And.left).bind fun _ => .pure id
  · rename_i kind
    refine (taking.advance_peeked (by rw [kind]; rfl)).bind fun _ => ?_
    refine (taking.again.expectName.of And.left).bind fun name => ?_
    refine (Yields.isNext _).bind fun found => .ite (fun _ => ?_) fun _ => .pure And.left
    have arguments := callArguments_builds taking.again later
    exact (arguments.of And.left).bind fun arguments => .pure And.left
  · exact .pure fun _ => trivial

end Grammar

theorem advance_below {α : Type} {next : Token → Parser α} {token : Token} {count : Nat}
    (inside : isLineEnd token.kind = false)
    (forward : ∀ taken tokens, Forward tokens (next taken)) :
    Yields (fun cursor => AtMost count cursor ∧ cursor.peek = token) (advance >>= next)
      fun _ => Below count :=
  ((taking_shorter count).advance_peeked inside).bind fun taken =>
    (Forward.below (forward taken)).of And.left

section Statements

variable {expression : Parser Expr} {block : Parser Block}

def argumentStep (expression : Parser Expr) (arguments : List Expr) :
    Parser (List Expr ⊕ List Expr) := do
  if isLineEnd (← peek).kind then return .inr arguments.reverse
  else return .inl ((← expression) :: arguments)

theorem effectStatement_eq (line : Nat) (name : String) :
    effectStatement line name expression = (do
      let _ ← advance
      let arguments ← loop (argumentStep expression) []
      return .effect line (Text.lower name) arguments) := rfl

def branchStep (expression : Parser Expr) (block : Parser Block) (found : List (Expr × Block)) :
    Parser (List (Expr × Block) ⊕ List (Expr × Block) × Option Block) := do
  skipNewlines
  let chained := (← peek).kind == .keyword .otherwise && (← peekSecond).kind == .keyword .ifTrue
  if chained || (← peek).kind == .keyword .elseIf then
    let _ ← advance
    if chained then
      let _ ← advance
    let condition ← expression
    let body ← headedBlock block
    return .inl ((condition, body) :: found)
  else if ← eat (.keyword .otherwise) then
    let body ← headedBlock block
    return .inr (found.reverse, some body)
  else return .inr (found.reverse, none)

theorem branches_eq : branches expression block = loop (branchStep expression block) [] := rfl

def statementStep (statement : Parser Statement) (found : List Statement) :
    Parser (List Statement ⊕ List Statement) := do
  skipNewlines
  let kind := (← peek).kind
  if kind == .dedent || kind == .finish then return .inr found.reverse
  else return .inl ((← statement) :: found)

theorem blockStatements_eq (statement : Parser Statement) :
    blockStatements statement = loop (statementStep statement) [] := rfl

theorem argumentStep_rounds (expressions : Consumes expression) :
    Rounds (argumentStep expression) := by
  refine .of fun count found => Yields.peek.bind fun token => ?_
  refine .ite (fun _ => .pure fun _ => trivial) fun _ => ?_
  exact (expressions.below.of And.left).bind fun value => .pure id

theorem statementStep_rounds {statement : Parser Statement} (statements : Consumes statement) :
    Rounds (statementStep statement) := by
  refine .of fun count found => skipNewlines_atMost.bind fun _ => Yields.peek.bind fun token => ?_
  refine .ite (fun _ => .pure fun _ => trivial) fun _ => ?_
  exact (statements.below.of And.left).bind fun value => .pure id

variable (expressions : ∀ tokens, Forward tokens expression)
  (blocks : ∀ tokens, Forward tokens block)

include blocks

theorem headedBlock_below {count : Nat} :
    Yields (Below count) (headedBlock block) fun _ => Below count :=
  Forward.below fun tokens => headedBlock_forward (blocks tokens)

include expressions

theorem branchStep_rounds : Rounds (branchStep expression block) := by
  refine .of fun count found => skipNewlines_atMost.bind fun _ => ?_
  have chosen : Yields (Below count) (do
      let condition ← expression
      let body ← headedBlock block
      return .inl ((condition, body) :: found) :
        Parser (List (Expr × Block) ⊕ List (Expr × Block) × Option Block))
      (Sum.elim (fun _ => Below count) fun _ _ => True) := by
    refine (Forward.below expressions).bind fun condition => ?_
    exact (headedBlock_below blocks).bind fun body => .pure id
  refine Yields.peek.bind fun first => Yields.peekSecond.bind fun second => ?_
  refine Yields.peek.bind fun again => .ite (fun goes => ?_) fun _ => ?_
  · have taken : Yields (fun cursor => ((AtMost count cursor ∧ cursor.peek = first) ∧
        cursor.peekSecond = second) ∧ cursor.peek = again) advance fun _ => Below count := by
      refine .advance ?_
      rintro cursor ⟨⟨⟨atMost, rfl⟩, -⟩, rfl⟩
      refine next_below ?_ atMost
      intro finish
      simp [finish] at goes
    refine taken.bind fun _ => .ite (fun _ => ?_) fun _ => chosen
    exact (Forward.below fun _ => Forward.advance).bind fun _ => chosen
  · -- No round follows this one, so it is of no interest what it takes.
    refine ⟨fun _ reads => ?_⟩
    obtain ⟨eaten, between, _, reads⟩ := bind_ok.mp reads
    cases eaten with
    | true =>
        obtain ⟨body, between, _, reads⟩ := bind_ok.mp reads
        cases reads
        trivial
    | false =>
        cases reads
        trivial

variable {token : Token} {count : Nat} (inside : isLineEnd token.kind = false)

include inside

theorem ifStatement_below :
    Yields (fun cursor => AtMost count cursor ∧ cursor.peek = token)
      (ifStatement expression block) fun _ => Below count := by
  refine advance_below inside fun taken tokens => (expressions tokens).bind fun condition => ?_
  refine (headedBlock_forward (blocks tokens)).bind fun yes => ?_
  exact (branches_forward (expressions tokens) (blocks tokens)).bind fun _ => .pure _

theorem forStatement_below :
    Yields (fun cursor => AtMost count cursor ∧ cursor.peek = token)
      (forStatement expression block) fun _ => Below count := by
  refine advance_below inside fun taken tokens => Keeps.peek.bind fun named => ?_
  have rest (name : String) : Forward tokens (do
      expect (.keyword .inside) "'in'"
      let subject ← expression
      let body ← headedBlock block
      return .forLoop taken.line name subject body : Parser Statement) := by
    refine (Forward.expect _ _).bind fun _ => (expressions tokens).bind fun subject => ?_
    exact (headedBlock_forward (blocks tokens)).bind fun _ => .pure _
  split
  · exact Forward.advance.bind fun _ => (Keeps.pure _).bind rest
  · exact (Forward.expectName _).bind rest

theorem whileStatement_below (line : Nat) :
    Yields (fun cursor => AtMost count cursor ∧ cursor.peek = token)
      (whileStatement line expression block) fun _ => Below count := by
  refine advance_below inside fun taken tokens => (expressions tokens).bind fun condition => ?_
  exact (headedBlock_forward (blocks tokens)).bind fun _ => .pure _

theorem repeatStatement_below (line : Nat) :
    Yields (fun cursor => AtMost count cursor ∧ cursor.peek = token)
      (repeatStatement line expression block) fun _ => Below count := by
  refine advance_below inside fun taken tokens => (expressions tokens).bind fun times => ?_
  refine (Forward.eat _).bind fun _ => ?_
  exact (headedBlock_forward (blocks tokens)).bind fun _ => .pure _

variable (shorter : Consumes expression)

omit inside
include shorter

theorem statement_consumes : Consumes (statement expression block) := by
  refine .of fun count => Yields.peek.bind fun first => Yields.peek.bind fun token => ?_
  have taking := taking_shorter count
  have builds : Yields (AtMost count) expression fun _ cursor => Below count cursor ∧ True :=
    shorter.below.imp fun below => ⟨below, trivial⟩
  have simple : Yields (AtMost count) (do
      let result ← simpleStatement first.line expression
      endStatement
      return result : Parser Statement) fun _ => Below count := by
    refine (simpleStatement_builds taking trivial (.free _) builds).bind fun result => ?_
    refine ((Forward.below fun _ => endStatement_forward).of And.left).bind fun _ => ?_
    exact .pure id
  split
  · rename_i kind
    exact (ifStatement_below expressions blocks (by rw [kind]; rfl)).of fun holds =>
      ⟨holds.1.1, holds.2⟩
  · rename_i kind
    exact (whileStatement_below expressions blocks (by rw [kind]; rfl) _).of fun holds =>
      ⟨holds.1.1, holds.2⟩
  · rename_i kind
    exact (forStatement_below expressions blocks (by rw [kind]; rfl)).of fun holds =>
      ⟨holds.1.1, holds.2⟩
  · rename_i kind
    refine (beginsStatement_stays _).bind fun _ => (lineContains_stays _).bind fun _ => ?_
    refine .ite (fun _ => ?_) fun _ => simple.of fun holds => holds.1.1
    exact (repeatStatement_below expressions blocks (by rw [kind]; rfl) _).of fun holds =>
      ⟨holds.1.1, holds.2⟩
  · exact simple.of fun holds => holds.1.1

end Statements

section Items

def statementWithin (room : Nat) : Parser Statement :=
  statement (Grammar.within room).expression (blockWithin room)

theorem blockWithin_succ (room : Nat) :
    blockWithin (room + 1) = blockOf (some (statementWithin room)) := rfl

theorem statementWithin_forward {tokens : List Token} (room : Nat) :
    Forward tokens (statementWithin room) :=
  statement_forward (Grammar.within_forward room).expression (blockWithin_forward room)

theorem statementWithin_consumes (room : Nat) : Consumes (statementWithin room) :=
  statement_consumes (fun _ => (Grammar.within_forward room).expression)
    (fun _ => blockWithin_forward room) (Grammar.expression_consumes room)

def wordStep (words : List String) : Parser (List String ⊕ List String) := do
  match (← peek).kind with
  | .symbol .colon | .newline | .finish => return .inr words.reverse
  | _ => return .inl ((← advance).lexeme :: words)

theorem eventHandler_eq : eventHandler = (do
    let token ← advance
    let words ← loop wordStep []
    if words.isEmpty then fail .missingEventName
    else return ⟨String.intercalate " " words, ← body, token.line⟩) := rfl

theorem wordStep_cases {cursor after : Cursor} {words : List String}
    {next : List String ⊕ List String} (reads : wordStep words cursor = .ok (next, after)) :
    (next = .inr words.reverse ∧ after = cursor) ∨
      (∃ more, next = .inl more) ∧ after.length < cursor.length := by
  obtain ⟨token, between, looked, reads⟩ := bind_ok.mp reads
  cases looked
  generalize kind : cursor.peek.kind = first at reads
  split at reads
  · cases reads
    exact .inl ⟨rfl, rfl⟩
  · cases reads
    exact .inl ⟨rfl, rfl⟩
  · cases reads
    exact .inl ⟨rfl, rfl⟩
  · rename_i word
    cases reads
    exact .inr ⟨⟨_, rfl⟩, next_shorter (kind ▸ word)⟩

theorem wordStep_rounds : Rounds wordStep where
  shorter reads := by
    rcases wordStep_cases reads with ⟨stops, _⟩ | ⟨_, shorter⟩
    · cases stops
    · exact shorter

theorem eventHandler_consumes : Consumes eventHandler := by
  refine .of fun count => ?_
  rw [eventHandler_eq]
  refine advance_atMost.bind fun token => ?_
  have named : Yields (AtMost count) (loop wordStep []) fun words cursor =>
      words ≠ [] → Below count cursor := by
    refine Yields.of (Yields.loop (fun words cursor => AtMost count cursor ∧
      (words ≠ [] → Below count cursor)) (fun words => ⟨fun holds reads => ?_⟩) [])
      fun atMost => ⟨atMost, fun some => absurd rfl some⟩
    rcases wordStep_cases reads with ⟨rfl, rfl⟩ | ⟨⟨more, rfl⟩, shorter⟩
    · exact fun some => holds.2 fun none => some (by rw [none]; rfl)
    · have below := Nat.lt_of_lt_of_le shorter holds.1
      exact ⟨Nat.le_of_lt below, fun _ => below⟩
  refine named.bind fun words => .ite (fun _ => .fail _) fun some => ?_
  refine ((Forward.below fun _ => body_forward).of fun holds => ?_).bind fun found => .pure id
  exact holds fun none => some (by rw [none]; rfl)

theorem parameters_eq : parameters = (do
    if ← eat (.symbol .openParen) then loop (separatedStep .closeParen "')'" parameterName) []
    else return []) := rfl

theorem parameterName_consumes : Consumes parameterName :=
  .of fun count => parameterName_takes (taking_shorter count)

theorem metadataStep_rounds : Rounds metadataStep where
  shorter reads := by
    rcases metadataStep_cases reads with ⟨stops, _⟩ | ⟨_, inside, rfl⟩
    · cases stops
    · refine next_shorter fun finish => ?_
      rw [finish] at inside
      cases inside

theorem metadataText_eq : metadataText = loop metadataStep "" := rfl

theorem describeStep_rounds : Rounds describeStep where
  shorter {command cursor next after} reads := by
    obtain ⟨found, between, announced, reads⟩ := bind_ok.mp reads
    obtain ⟨rfl, headed⟩ := metadataAhead_cases announced
    cases found with
    | none => cases reads
    | some metadata =>
        obtain ⟨⟨name, named⟩, _⟩ := headed metadata rfl
        obtain ⟨_, _, taken, reads⟩ := bind_ok.mp reads
        cases taken
        have pastName : Below between.length between.next :=
          (taking_shorter between.length).name (Nat.le_refl _) named
        refine Nat.lt_of_le_of_lt (Forward.length_le (fun tokens => ?_) reads) pastName
        refine Forward.advance.bind fun _ => metadataText_forward.bind fun content => ?_
        cases metadata <;> exact .pure _

theorem command_eq : command = (do
    let token ← advance
    let name := Text.lower (← expectName "command name")
    let names ← parameters
    let described ← loop describeStep ⟨name, names, none, none, [], ⟨0, []⟩, token.line⟩
    return { described with body := ← body }) := rfl

theorem command_consumes : Consumes command := by
  refine .of fun count => advance_atMost.bind fun token => ?_
  refine (taking_shorter count).expectName.bind fun name => ?_
  refine (Forward.below fun _ => parameters_forward).bind fun names => ?_
  refine (Forward.below fun _ => Keeps.loop describeStep_forward _).bind fun described => ?_
  exact (Forward.below fun _ => body_forward).bind fun found => .pure id

theorem function_consumes : Consumes function := by
  refine .of fun count => advance_atMost.bind fun token => ?_
  refine (taking_shorter count).expectName.bind fun name => ?_
  refine (Forward.below fun _ => parameters_forward).bind fun names => ?_
  exact (Forward.below fun _ => body_forward).bind fun found => .pure id

theorem item_consumes : Consumes item := by
  refine .of fun count => Yields.peek.bind fun token => ?_
  split
  · exact (eventHandler_consumes.below.of And.left).bind fun handler => .pure id
  · exact (command_consumes.below.of And.left).bind fun command => .pure id
  · exact (function_consumes.below.of And.left).bind fun function => .pure id
  · have stray : Consumes (statementWithin nestingLimit) := statementWithin_consumes nestingLimit
    exact (stray.below.of And.left).bind fun statement => .pure id

theorem items_eq : items = loop itemStep [] := rfl

theorem itemStep_rounds : Rounds itemStep := by
  refine .of fun count found => skipNewlines_atMost.bind fun _ => Yields.peek.bind fun token => ?_
  refine .ite (fun _ => .pure fun _ => trivial) fun _ => ?_
  exact (item_consumes.below.of And.left).bind fun value => .pure id

end Items

end EventScript.Program
