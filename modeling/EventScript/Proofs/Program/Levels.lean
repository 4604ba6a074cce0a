import EventScript.Proofs.Program.Rendering

/-!
What the levels of the grammar take from the tokens ahead. A level reads what is written for it,
whatever follows, unless the next token would go on with the expression there; then so do all looser
levels. What can go wrong is only that more levels of nesting are needed than there are.
-/

namespace EventScript.Program

open EventScript.Program.Parser

section Outcomes

variable {α β σ : Type} {enough : Prop}

/-- The outcome is the expected one, or else the levels of nesting ran out, as they only do when
there are not enough of them. -/
def Agrees (enough : Prop) (outcome expected : Except SourceError α) : Prop :=
  outcome = expected ∨ ¬enough ∧ ∃ line, outcome = .error ⟨.nestingTooDeep, line⟩

namespace Agrees

theorem refl (outcome : Except SourceError α) : Agrees enough outcome outcome := .inl rfl

theorem trans {first second third : Except SourceError α} (one : Agrees enough first second)
    (two : Agrees enough second third) : Agrees enough first third := by
  rcases one with rfl | failed
  · exact two
  · exact .inr failed

theorem weaken {more : Prop} {first second : Except SourceError α}
    (agrees : Agrees enough first second) (fewer : more → enough) : Agrees more first second := by
  rcases agrees with same | ⟨few, failed⟩
  · exact .inl same
  · exact .inr ⟨fun holds => few (fewer holds), failed⟩

theorem bind {first : Parser α} {next : α → Parser β} {cursor between : Cursor} {value : α}
    (agrees : Agrees enough (first cursor) (.ok (value, between))) :
    Agrees enough ((first >>= next) cursor) (next value between) := by
  change Agrees enough (first cursor >>= fun outcome => next outcome.1 outcome.2) _
  rcases agrees with same | ⟨few, line, failed⟩
  · rw [same]
    exact refl _
  · rw [failed]
    exact .inr ⟨few, line, rfl⟩

theorem loop_again {step : σ → Parser (σ ⊕ α)} {state next : σ} {cursor after : Cursor}
    (agrees : Agrees enough (step state cursor) (.ok (.inl next, after)))
    (shorter : after.length < cursor.length) :
    Agrees enough (loop step state cursor) (loop step next after) := by
  rcases agrees with same | ⟨few, line, failed⟩
  · rw [loop, same]
    simp only [shorter, if_true]
    exact refl _
  · rw [loop, failed]
    exact .inr ⟨few, line, rfl⟩

theorem loop_last {step : σ → Parser (σ ⊕ α)} {state : σ} {cursor after : Cursor} {result : α}
    (agrees : Agrees enough (step state cursor) (.ok (.inr result, after))) :
    Agrees enough (loop step state cursor) (.ok (result, after)) := by
  rcases agrees with same | ⟨few, line, failed⟩
  · rw [loop, same]
    exact refl _
  · rw [loop, failed]
    exact .inr ⟨few, line, rfl⟩

end Agrees

end Outcomes

section Steps

variable {α : Type} {kind : TokenKind} {token : Token} {more : List Token} {endLine : Nat}

theorem peek_bind {next : Token → Parser α} {cursor : Cursor} :
    (peek >>= next) cursor = next cursor.peek cursor := rfl

theorem expect_bind {what : String} {next : Unit → Parser α} (found : token.kind = kind) :
    (expect kind what >>= next) ⟨token :: more, endLine⟩ = next () ⟨more, endLine⟩ := by
  have taken : expect kind what ⟨token :: more, endLine⟩ = .ok ((), ⟨more, endLine⟩) := by
    change (if (token.kind == kind) = true then _ else _ : Parser Unit) _ = _
    rw [if_pos (beq_iff_eq.mpr found)]
    rfl
  change (expect kind what _ >>= fun outcome => next outcome.1 outcome.2) = _
  rw [taken]
  rfl

theorem eat_bind_taken {next : Bool → Parser α} (found : token.kind = kind) :
    (eat kind >>= next) ⟨token :: more, endLine⟩ = next true ⟨more, endLine⟩ := by
  have taken : eat kind ⟨token :: more, endLine⟩ = .ok (true, ⟨more, endLine⟩) := by
    change (if (token.kind == kind) = true then _ else _ : Parser Bool) _ = _
    rw [if_pos (beq_iff_eq.mpr found)]
    rfl
  change (eat kind _ >>= fun outcome => next outcome.1 outcome.2) = _
  rw [taken]
  rfl

theorem eat_bind_kept {next : Bool → Parser α} {cursor : Cursor}
    (other : (cursor.peek.kind == kind) = false) :
    (eat kind >>= next) cursor = next false cursor := by
  have kept : eat kind cursor = .ok (false, cursor) := by
    change (if (cursor.peek.kind == kind) = true then _ else _ : Parser Bool) cursor = _
    rw [other]
    rfl
  change (eat kind cursor >>= fun outcome => next outcome.1 outcome.2) = _
  rw [kept]
  rfl

theorem skipNewlines_bind {next : Unit → Parser α} {cursor : Cursor}
    (other : (cursor.peek.kind == .newline) = false) :
    (skipNewlines >>= next) cursor = next () cursor := by
  have skipped : skipNewlines cursor = .ok ((), cursor) := by
    rw [skipNewlines, loop, eat_bind_kept other]
    rfl
  change (skipNewlines cursor >>= fun outcome => next outcome.1 outcome.2) = _
  rw [skipped]
  rfl

theorem expectName_bind {what name : String} {next : String → Parser α}
    (found : nameOf? token = some name) :
    (expectName what >>= next) ⟨token :: more, endLine⟩ = next name ⟨more, endLine⟩ := by
  have taken : expectName what ⟨token :: more, endLine⟩ = .ok (name, ⟨more, endLine⟩) := by
    have ahead : nameOf? (Cursor.peek ⟨token :: more, endLine⟩) = some name := found
    rw [expectName, peek_bind, ahead]
    rfl
  change (expectName what _ >>= fun outcome => next outcome.1 outcome.2) = _
  rw [taken]
  rfl

end Steps

section Ends

def joins (token : Token) : Option Nat :=
  match token.kind with
  | .symbol .question => some 0
  | .keyword .either => some 1
  | .keyword .also => some 2
  | .symbol .equal | .symbol .notEqual | .symbol .less | .symbol .lessEqual | .symbol .greater
  | .symbol .greaterEqual | .keyword .equals | .keyword .differs | .keyword .contains => some 4
  | .symbol .plus | .symbol .minus => some 5
  | .symbol .star | .symbol .slash | .symbol .percent => some 6
  | .symbol .caret => some 8
  | .symbol .dot => some 9
  | .symbol .openBracket => if token.spaced then none else some 9
  | .symbol .openParen => some 10
  | _ => none

def opens : TokenKind → Option Nat
  | .symbol .bang | .keyword .negation => some 3
  | .symbol .minus => some 7
  | .symbol .openParen | .symbol .openBracket | .symbol .openBrace => some 10
  | .symbol _ | .newline | .indent | .dedent | .finish => none
  | _ => some 10

def Stops (level : Nat) (rest : List Token) : Prop :=
  ∃ token more, rest = token :: more ∧ ∀ joined ∈ joins token, joined < level

def Opens (level : Nat) (tokens : List Token) : Prop :=
  ∃ token more opened, tokens = token :: more ∧ opens token.kind = some opened ∧ level ≤ opened

theorem Stops.mono {level other : Nat} {rest : List Token} (stops : Stops level rest)
    (looser : level ≤ other) : Stops other rest := by
  obtain ⟨token, more, rfl, below⟩ := stops
  refine ⟨token, more, rfl, ?_⟩
  intro joined found
  have bound := below joined found
  omega

theorem Opens.mono {level other : Nat} {tokens : List Token} (begins : Opens level tokens)
    (looser : other ≤ level) : Opens other tokens := by
  obtain ⟨token, more, opened, rfl, found, bound⟩ := begins
  exact ⟨token, more, opened, rfl, found, by omega⟩

theorem Opens.append {level : Nat} {tokens : List Token} (begins : Opens level tokens)
    (later : List Token) : Opens level (tokens ++ later) := by
  obtain ⟨token, more, opened, rfl, found, bound⟩ := begins
  exact ⟨token, more ++ later, opened, rfl, found, bound⟩

theorem Opens.placed {level : Nat} {expr : Expr} {written : List Token}
    (begins : Opens (exprLevel expr) written) (style : Style) (tightest : level ≤ 10) :
    Opens level (placed style level expr written) := by
  unfold Program.placed
  split
  · exact ⟨_, _, 10, rfl, rfl, tightest⟩
  · exact begins.mono (by omega)

theorem Stops.head_ne {level : Nat} {rest : List Token} (stops : Stops level rest)
    (kind : TokenKind) (joined : Nat)
    (joining : ∀ lexeme line spaced, joins ⟨kind, lexeme, line, spaced⟩ = some joined)
    (reaches : level ≤ joined) (endLine : Nat) :
    ((Cursor.mk rest endLine).peek.kind == kind) = false := by
  obtain ⟨token, more, rfl, below⟩ := stops
  rw [beq_eq_false_iff_ne]
  rintro rfl
  have bound := below joined (joining _ _ _)
  omega

theorem Opens.head_ne {level : Nat} {tokens : List Token} (begins : Opens level tokens)
    (kind : TokenKind)
    (opening : ∀ opened, opens kind = some opened → opened < level) (rest : List Token)
    (endLine : Nat) : ((Cursor.mk (tokens ++ rest) endLine).peek.kind == kind) = false := by
  obtain ⟨token, more, opened, rfl, found, bound⟩ := begins
  rw [beq_eq_false_iff_ne]
  rintro rfl
  have looser := opening opened found
  omega

end Ends

section Operators

def operatorAt : Nat → Grammar.OperatorParser
  | 1 => Grammar.operator Grammar.orOp
  | 2 => Grammar.operator Grammar.andOp
  | 4 => Grammar.comparisonOperator
  | 5 => Grammar.operator Grammar.sumOp
  | _ => Grammar.operator Grammar.productOp

def isChainLevel (level : Nat) : Bool :=
  level = 1 || level = 2 || level = 4 || level = 5 || level = 6

theorem chain_opLevel {op : BinaryOp} (other : op ≠ .power) : isChainLevel (opLevel op) = true := by
  cases op <;> first | rfl | exact absurd rfl other

theorem operator_takes {style : Style} {op : BinaryOp} (other : op ≠ .power) (line : Nat)
    {next : List Token} (begins : Opens (rightLevel op) next) (endLine : Nat) :
    operatorAt (opLevel op)
        ⟨(operatorKinds style.wording op).map (style.token line) ++ next, endLine⟩ =
      .ok (some (op, line), ⟨next, endLine⟩) := by
  obtain ⟨token, more, opened, rfl, found, bound⟩ := begins
  cases op with
  | equal =>
      have single : (token.kind == .keyword .negation) = false := by
        rw [beq_eq_false_iff_ne]
        intro same
        rw [same] at found
        cases found
        exact absurd bound (by decide)
      have word : operatorAt 4 ⟨style.token line (.keyword .equals) :: token :: more, endLine⟩ =
          .ok (some (.equal, line), ⟨token :: more, endLine⟩) := by
        change (if (true && token.kind == .keyword .negation) = true then _ else _ :
          Grammar.OperatorParser) _ = _
        rw [single]
        rfl
      cases wording : style.wording with
      | symbols => rfl
      | words => exact word
      | contracted => exact word
  | notEqual => cases wording : style.wording <;> rfl
  | power => exact absurd rfl other
  | _ => rfl

theorem operator_none {meaning : TokenKind → Option BinaryOp} {token : Token} {more : List Token}
    (unknown : meaning token.kind = none) (endLine : Nat) :
    Grammar.operator meaning ⟨token :: more, endLine⟩ = .ok (none, ⟨token :: more, endLine⟩) := by
  have ahead : meaning (Cursor.peek ⟨token :: more, endLine⟩).kind = none := unknown
  rw [Grammar.operator, peek_bind, ahead]
  rfl

theorem operator_stops {level : Nat} (chain : isChainLevel level = true) {rest : List Token}
    (stops : Stops level rest) (endLine : Nat) :
    operatorAt level ⟨rest, endLine⟩ = .ok (none, ⟨rest, endLine⟩) := by
  obtain ⟨token, more, rfl, below⟩ := stops
  have unknown {meaning : TokenKind → Option BinaryOp}
      (known : meaning token.kind ≠ none → joins token = some level) :
      meaning token.kind = none := by
    by_contra found
    have bound := below level (known found)
    omega
  simp only [isChainLevel, Bool.or_eq_true, decide_eq_true_eq] at chain
  -- Level by level: an operator that is found there would join at a level the rest stops.
  rcases chain with (((rfl | rfl) | rfl) | rfl) | rfl
  · refine operator_none (unknown ?_) endLine
    unfold Grammar.orOp joins
    split <;> simp_all
  · refine operator_none (unknown ?_) endLine
    unfold Grammar.andOp joins
    split <;> simp_all
  · have plain : Grammar.comparisonOp token.kind = none := by
      refine unknown ?_
      unfold Grammar.comparisonOp joins
      split <;> simp_all
    have first : (token.kind == .keyword .equals) = false := by
      rw [beq_eq_false_iff_ne]
      intro same
      rw [same] at plain
      cases plain
    change (if (token.kind == .keyword .equals && _) = true then _ else _ :
      Grammar.OperatorParser) _ = _
    rw [first]
    exact operator_none plain endLine
  · refine operator_none (unknown ?_) endLine
    unfold Grammar.sumOp joins
    split <;> simp_all
  · refine operator_none (unknown ?_) endLine
    unfold Grammar.productOp joins
    split <;> simp_all

end Operators

/-- Before a rest that does not go on at the level, the parser takes the tokens and gives the
value. -/
def Takes {α : Type} (parser : Parser α) (level : Nat) (tokens : List Token) (value : α)
    (enough : Prop) : Prop :=
  ∀ rest endLine, Stops level rest →
    Agrees enough (parser ⟨tokens ++ rest, endLine⟩) (.ok (value, ⟨rest, endLine⟩))

section Separated

variable {α : Type} {closing : Symbol} {what : String} {item : Parser α} {enough : Prop}

def isCloser (closing : Symbol) : Bool :=
  closing = .closeParen || closing = .closeBracket || closing = .closeBrace

def separatedStep (closing : Symbol) (what : String) (item : Parser α) (items : List α) :
    Parser (List α ⊕ List α) := do
  if ← eat (.symbol closing) then return .inr items.reverse
  else
    let value ← item
    if ← eat (.symbol .comma) then return .inl (value :: items)
    else
      expect (.symbol closing) what
      return .inr (value :: items).reverse

theorem closer_stops (closes : isCloser closing = true) {closer : Token}
    (kind : closer.kind = .symbol closing) (level : Nat) (rest : List Token) :
    Stops level (closer :: rest) := by
  refine ⟨_, _, rfl, ?_⟩
  intro joined found
  unfold joins at found
  rw [kind] at found
  simp only [isCloser, Bool.or_eq_true, decide_eq_true_eq] at closes
  rcases closes with (rfl | rfl) | rfl <;> cases found

variable {row : List Token} {value : α} {found : List α} {comma closer : Token} {rest : List Token}
  {endLine : Nat}

theorem separatedStep_item (closes : isCloser closing = true) (begins : Opens 0 row)
    (takes : Takes item 0 row value enough) (stops : Stops 0 rest) :
    Agrees enough (separatedStep closing what item found ⟨row ++ rest, endLine⟩)
      ((eat (.symbol .comma) >>= fun more =>
          if more = true then pure (.inl (value :: found))
          else expect (.symbol closing) what >>= fun _ => pure (.inr (value :: found).reverse))
        ⟨rest, endLine⟩) := by
  have other := begins.head_ne (.symbol closing) (by cases closing <;> simp_all [opens, isCloser])
    rest endLine
  rw [separatedStep, eat_bind_kept other]
  exact Agrees.bind (takes rest endLine stops)

theorem separatedStep_more (closes : isCloser closing = true)
    (commaKind : comma.kind = .symbol .comma) (begins : Opens 0 row)
    (takes : Takes item 0 row value enough) :
    Agrees enough (separatedStep closing what item found ⟨row ++ comma :: rest, endLine⟩)
      (.ok (.inl (value :: found), ⟨rest, endLine⟩)) := by
  have stops : Stops 0 (comma :: rest) := by
    refine ⟨_, _, rfl, ?_⟩
    intro joined found
    rw [joins, commaKind] at found
    cases found
  refine (separatedStep_item closes begins takes stops).trans ?_
  rw [eat_bind_taken commaKind]
  exact .refl _

theorem separatedStep_last (closes : isCloser closing = true)
    (closerKind : closer.kind = .symbol closing) (begins : Opens 0 row)
    (takes : Takes item 0 row value enough) :
    Agrees enough (separatedStep closing what item found ⟨row ++ closer :: rest, endLine⟩)
      (.ok (.inr (found.reverse ++ [value]), ⟨rest, endLine⟩)) := by
  refine (separatedStep_item closes begins takes (closer_stops closes closerKind 0 rest)).trans ?_
  have other : (closer.kind == .symbol .comma) = false := by
    rw [closerKind, beq_eq_false_iff_ne]
    rintro same
    cases same
    cases closes
  rw [eat_bind_kept other, if_neg (by decide), expect_bind closerKind, List.reverse_cons]
  exact .refl _

theorem loop_separated (closes : isCloser closing = true) (commaKind : comma.kind = .symbol .comma)
    (closerKind : closer.kind = .symbol closing) {rows : List (List Token)} {values : List α}
    (items : List.Forall₂ (fun row value => Opens 0 row ∧ Takes item 0 row value enough)
      rows values)
    (nonempty : rows ≠ []) :
    Agrees enough
      (loop (separatedStep closing what item) found
        ⟨commaSeparated comma rows ++ closer :: rest, endLine⟩)
      (.ok (found.reverse ++ values, ⟨rest, endLine⟩)) := by
  induction items generalizing found with
  | nil => exact absurd rfl nonempty
  | @cons row value rows values head items ih =>
      cases rows with
      | nil =>
          cases items
          exact Agrees.loop_last (separatedStep_last closes closerKind head.1 head.2)
      | cons next rows =>
          rw [commaSeparated, List.append_assoc, List.cons_append]
          refine Agrees.trans
            (Agrees.loop_again (separatedStep_more closes commaKind head.1 head.2) ?_) ?_
          · simp only [Cursor.length, List.length_append, List.length_cons]
            omega
          · have later := @ih (value :: found) (List.cons_ne_nil next rows)
            rwa [List.reverse_cons, List.append_assoc, List.singleton_append] at later

theorem separated_takes (what : String) (closes : isCloser closing = true)
    (commaKind : comma.kind = .symbol .comma)
    (closerKind : closer.kind = .symbol closing) {rows : List (List Token)} {values : List α}
    (items : List.Forall₂ (fun row value => Opens 0 row ∧ Takes item 0 row value enough)
      rows values)
    (rest : List Token) (endLine : Nat) :
    Agrees enough
      (separated closing what item ⟨commaSeparated comma rows ++ closer :: rest, endLine⟩)
      (.ok (values, ⟨rest, endLine⟩)) := by
  change Agrees enough (loop (separatedStep closing what item) [] _) _
  cases items with
  | nil =>
      refine Agrees.loop_last ?_
      rw [separatedStep, commaSeparated, List.nil_append, eat_bind_taken closerKind]
      exact .refl _
  | cons head items =>
      exact loop_separated closes commaKind closerKind (.cons head items) (List.cons_ne_nil _ _)

end Separated

section Levels

open Grammar (suffix chain)

variable {inner : Grammar} {level : Nat} {tokens : List Token} {expr : Expr} {enough : Prop}

def levelParser (inner : Grammar) : Nat → Parser Expr
  | 0 => inner.conditional
  | 1 => inner.disjunction
  | 2 => inner.conjunction
  | 3 => inner.invert
  | 4 => inner.comparison
  | 5 => inner.sum
  | 6 => inner.product
  | 7 => inner.minus
  | 8 => inner.power
  | 9 => inner.suffixed
  | _ => inner.primary

def joinStep (operator : Grammar.OperatorParser) (operand : Parser Expr) (left : Expr) :
    Parser (Expr ⊕ Expr) := do
  match ← operator with
  | some (op, line) =>
    let right ← operand
    return .inl (.binary line op left right)
  | none => return .inr left

def goesOn (inner : Grammar) (level : Nat) : Expr → Parser (Expr ⊕ Expr) :=
  if level = 9 then inner.suffix
  else joinStep (operatorAt level) (levelParser inner (level + 1))

def isLoopLevel (level : Nat) : Bool := isChainLevel level || level = 9

theorem levelParser_loop (loops : isLoopLevel level = true) :
    levelParser inner level = levelParser inner (level + 1) >>= loop (goesOn inner level) := by
  simp only [isLoopLevel, isChainLevel, Bool.or_eq_true, decide_eq_true_eq] at loops
  rcases loops with ((((rfl | rfl) | rfl) | rfl) | rfl) | rfl <;> rfl

theorem suffix_stops {rest : List Token} (stops : Stops 9 rest) (endLine : Nat) :
    inner.suffix expr ⟨rest, endLine⟩ = .ok (.inr expr, ⟨rest, endLine⟩) := by
  obtain ⟨⟨kind, lexeme, line, spaced⟩, more, rfl, below⟩ := stops
  cases kind with
  | symbol mark =>
      cases mark with
      | openBracket =>
          cases spaced with
          | true => rfl
          | false => exact absurd (below 9 rfl) (Nat.lt_irrefl 9)
      | dot => exact absurd (below 9 rfl) (Nat.lt_irrefl 9)
      | _ => rfl
  | _ => rfl

theorem goesOn_stops (loops : isLoopLevel level = true) {rest : List Token}
    (stops : Stops level rest) (endLine : Nat) :
    goesOn inner level expr ⟨rest, endLine⟩ = .ok (.inr expr, ⟨rest, endLine⟩) := by
  by_cases suffixes : level = 9
  · subst suffixes
    exact suffix_stops stops endLine
  · have chain : isChainLevel level = true := by
      simpa [isLoopLevel, suffixes] using loops
    have none := operator_stops chain stops endLine
    rw [goesOn, if_neg suffixes]
    change (operatorAt level ⟨rest, endLine⟩ >>= _) = _
    rw [none]
    rfl

/-- At a level that groups to the left, the parser comes from the tokens to where it has the
expression and looks for more. -/
def Leads (inner : Grammar) (level : Nat) (tokens : List Token) (expr : Expr) (enough : Prop) :
    Prop :=
  ∀ rest endLine, Stops (level + 1) rest →
    Agrees enough (levelParser inner level ⟨tokens ++ rest, endLine⟩)
      (loop (goesOn inner level) expr ⟨rest, endLine⟩)

theorem Takes.leads (loops : isLoopLevel level = true)
    (takes : Takes (levelParser inner (level + 1)) (level + 1) tokens expr enough) :
    Leads inner level tokens expr enough := by
  intro rest endLine stops
  rw [levelParser_loop loops]
  exact (takes rest endLine stops).bind

theorem Leads.takes (loops : isLoopLevel level = true)
    (leads : Leads inner level tokens expr enough) :
    Takes (levelParser inner level) level tokens expr enough := by
  intro rest endLine stops
  refine (leads rest endLine (stops.mono (by omega))).trans (Agrees.loop_last ?_)
  rw [goesOn_stops loops stops]
  exact .refl _

theorem Takes.looser (inside : level ≤ 9) (begins : Opens (level + 1) tokens)
    (takes : Takes (levelParser inner (level + 1)) (level + 1) tokens expr enough) :
    Takes (levelParser inner level) level tokens expr enough := by
  by_cases loops : isLoopLevel level = true
  · exact (takes.leads loops).takes loops
  intro rest endLine stops
  have taken := takes rest endLine (stops.mono (by omega))
  have others : level = 0 ∨ level = 3 ∨ level = 7 ∨ level = 8 := by
    simp only [isLoopLevel, isChainLevel, Bool.or_eq_true, decide_eq_true_eq] at loops
    omega
  rcases others with rfl | rfl | rfl | rfl
  · refine Agrees.trans (Agrees.bind taken) ?_
    have other := stops.head_ne (.symbol .question) 0 (fun _ _ _ => rfl) (Nat.le_refl 0)
      endLine
    change Agrees enough ((if _ = true then _ else _ : Parser Expr) _) _
    rw [other]
    exact .refl _
  · have word := begins.head_ne (.keyword .negation) (by simp [opens]) rest endLine
    have sign := begins.head_ne (.symbol .bang) (by simp [opens]) rest endLine
    change Agrees enough ((if (_ || _) = true then _ else _ : Parser Expr) _) _
    rw [word, sign]
    exact taken
  · have other := begins.head_ne (.symbol .minus) (by simp [opens]) rest endLine
    change Agrees enough ((if _ = true then _ else _ : Parser Expr) _) _
    rw [other]
    exact taken
  · refine Agrees.trans (Agrees.bind taken) ?_
    have other := stops.head_ne (.symbol .caret) 8 (fun _ _ _ => rfl) (Nat.le_refl 8) endLine
    change Agrees enough ((if _ = true then _ else _ : Parser Expr) _) _
    rw [other]
    exact .refl _

theorem Takes.climb {other : Nat} (inside : level ≤ 10) (looser : other ≤ level)
    (begins : Opens level tokens)
    (takes : Takes (levelParser inner level) level tokens expr enough) :
    Takes (levelParser inner other) other tokens expr enough := by
  induction level with
  | zero =>
      obtain rfl : other = 0 := by omega
      exact takes
  | succ level ih =>
      by_cases same : other = level + 1
      · subst same
        exact takes
      · exact ih (by omega) (by omega) (begins.mono (by omega)) (takes.looser (by omega) begins)

end Levels

end EventScript.Program
