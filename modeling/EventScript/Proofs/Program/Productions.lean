import EventScript.Proofs.Program.Triple

/-!
What the grammar of expressions takes and builds. Its parsers take only tokens inside a line, and at
least one of them. A property of expressions that every production of the grammar passes on holds of
all that is read.
-/

namespace EventScript.Program

open EventScript.Program.Parser

/-- The productions pass on a property of the expressions of one level of nesting, when those of the
next level have theirs. -/
structure Productions (onLine : Nat → Prop) (good deep : Expr → Prop) : Prop where
  literal : ∀ {line value}, onLine line → good (.literal line value)
  text : ∀ {line content}, onLine line → good (templateExpr line content)
  reference : ∀ {line name}, onLine line → good (.reference line name)
  stored : ∀ {line key}, onLine line → good (.stored line (keyExpr line key))
  group : ∀ {inside}, deep inside → good inside
  call : ∀ {line name arguments}, onLine line → (∀ argument ∈ arguments, deep argument) →
    good (.call line name arguments)
  method : ∀ {line name target arguments}, onLine line → good target →
    (∀ argument ∈ arguments, deep argument) → good (.call line name (target :: arguments))
  list : ∀ {line items}, onLine line → (∀ item ∈ items, deep item) → good (.list line items)
  map : ∀ {line entries}, onLine line → (∀ entry ∈ entries, deep entry.1 ∧ deep entry.2) →
    good (.map line entries)
  index : ∀ {line target position}, onLine line → good target → deep position →
    good (.index line target position)
  property : ∀ {line target name}, onLine line → good target → good (.property line target name)
  unary : ∀ {line op operand}, onLine line → deep operand → good (.unary line op operand)
  power : ∀ {line base exponent}, onLine line → good base → deep exponent →
    good (.binary line .power base exponent)
  binary : ∀ {line op left right}, onLine line → op ≠ .power → good left → good right →
    good (.binary line op left right)
  conditional : ∀ {line condition yes no}, onLine line → good condition → deep yes → deep no →
    good (.conditional line condition yes no)

theorem Productions.free (onLine : Nat → Prop) :
    Productions onLine (fun _ => True) (fun _ => True) := by
  constructor <;> intros <;> trivial

theorem known_inside {β : Type} {meaning : TokenKind → Option β}
    (ends : ∀ kind ∈ [.newline, .indent, .dedent, .finish], meaning kind = none)
    {kind : TokenKind} {op : β} (known : meaning kind = some op) :
    isLineEnd kind = false := by
  cases inside : isLineEnd kind with
  | false => rfl
  | true =>
      have none : meaning kind = none := by
        cases kind with
        | newline => exact ends _ (by simp)
        | indent => exact ends _ (by simp)
        | dedent => exact ends _ (by simp)
        | finish => exact ends _ (by simp)
        | _ => cases inside
      rw [none] at known
      cases known

namespace Grammar

def Joining (onLine : Nat → Prop) (found : Option (BinaryOp × Nat)) : Prop :=
  ∀ pair ∈ found, onLine pair.2 ∧ pair.1 ≠ .power

structure Builds (before after : Cursor → Prop) (deep : Expr → Prop) (grammar : Grammar) :
    Prop where
  expression : Yields before grammar.expression fun expr cursor => after cursor ∧ deep expr
  inverted : Yields before grammar.inverted fun expr cursor => after cursor ∧ deep expr
  signed : Yields before grammar.signed fun expr cursor => after cursor ∧ deep expr

section Levels

variable {before after : Cursor → Prop} {onLine : Nat → Prop} {good deep : Expr → Prop}
  {inner : Grammar}

theorem Builds.again (builds : inner.Builds before after deep)
    (taking : Taking before after onLine) : inner.Builds after after deep where
  expression := builds.expression.of taking.still
  inverted := builds.inverted.of taking.still
  signed := builds.signed.of taking.still

variable (taking : Taking before after onLine) (builds : inner.Builds before after deep)

include taking builds

theorem callArguments_builds :
    Yields before inner.callArguments
      fun arguments cursor => after cursor ∧ ∀ argument ∈ arguments, deep argument :=
  (taking.expect rfl).bind fun _ => taking.again.separated _ _ (builds.again taking).expression

theorem mapEntry_builds :
    Yields before inner.mapEntry
      fun entry cursor => after cursor ∧ deep entry.1 ∧ deep entry.2 := by
  have later := builds.again taking
  refine builds.expression.bind fun key => .assume fun keyDeep => ?_
  refine (taking.again.expect rfl).bind fun _ => later.expression.bind fun value => ?_
  exact .pure fun holds => ⟨holds.1, keyDeep, holds.2⟩

variable (productions : Productions onLine good deep)

include productions

theorem primary_builds :
    Yields before inner.primary fun expr cursor => after cursor ∧ good expr := by
  have later := builds.again taking
  have arguments := callArguments_builds taking.again later
  refine taking.advance_bind (fun token onLine => ?_) fun token ends => ?_
  · have unexpected : Yields after (fun _ => .error ⟨.unexpected (describe token), token.line⟩ :
        Parser Expr) fun expr cursor => after cursor ∧ good expr :=
      .fails fun _ _ _ ends => by cases ends
    have called {name : String} : Yields (fun cursor => after cursor) (do
        return .call token.line name (← inner.callArguments))
        fun expr cursor => after cursor ∧ good expr :=
      arguments.bind fun arguments => .pure fun holds =>
        ⟨holds.1, productions.call onLine holds.2⟩
    dsimp only
    split
    · exact .pure fun holds => ⟨holds, productions.literal onLine⟩
    · exact .pure fun holds => ⟨holds, productions.literal onLine⟩
    · exact .pure fun holds => ⟨holds, productions.literal onLine⟩
    · exact .pure fun holds => ⟨holds, productions.text onLine⟩
    · exact .pure fun holds => ⟨holds, productions.reference onLine⟩
    · exact .pure fun holds => ⟨holds, productions.stored onLine⟩
    · refine (Yields.isNext _).bind fun found => .ite (fun _ => called.of And.left) fun _ => ?_
      exact .pure fun holds => ⟨holds.1, productions.literal onLine⟩
    · refine .ite (fun _ => ?_) fun _ => unexpected
      refine (Yields.isNext _).bind fun found => .ite (fun _ => called.of And.left) fun _ => ?_
      exact unexpected.of And.left
    · refine later.expression.bind fun value => .assume fun valueDeep => ?_
      refine (taking.again.expect rfl).bind fun _ => ?_
      exact .pure fun holds => ⟨holds, productions.group valueDeep⟩
    · refine (taking.again.separated _ _ later.expression).bind fun items => ?_
      exact .pure fun holds => ⟨holds.1, productions.list onLine holds.2⟩
    · have entries := mapEntry_builds taking.again later
      refine (taking.again.separated _ _ entries).bind fun entries => ?_
      exact .pure fun holds => ⟨holds.1, productions.map onLine holds.2⟩
    · exact unexpected
  · refine .fails fun cursor result rest reads => ?_
    obtain ⟨kind, lexeme, line, spaced⟩ := token
    cases kind <;> cases ends <;> cases reads

theorem suffix_builds {target : Expr} (targetGood : good target) :
    Yields after (inner.suffix target) (Sum.elim (fun expr cursor => after cursor ∧ good expr)
      fun expr cursor => after cursor ∧ good expr) := by
  have later := builds.again taking
  refine Yields.peek.bind fun token => ?_
  split
  · rename_i kind
    refine .ite (fun _ => .pure fun holds => ⟨holds.1, targetGood⟩) fun _ => ?_
    refine (taking.again.advance_peeked (by rw [kind]; rfl)).bind fun _ => .assume fun known => ?_
    refine later.expression.bind fun position => .assume fun positionDeep => ?_
    refine (taking.again.expect rfl).bind fun _ => .pure fun holds => ?_
    exact ⟨holds, productions.index known.1 targetGood positionDeep⟩
  · rename_i kind
    refine (taking.again.advance_peeked (by rw [kind]; rfl)).bind fun _ => .assume fun known => ?_
    refine taking.again.expectName.bind fun name => (Yields.isNext _).bind fun found => ?_
    refine .ite (fun _ => ?_) fun _ => .pure fun holds =>
      ⟨holds.1, productions.property known.1 targetGood⟩
    have arguments := callArguments_builds taking.again later
    refine (arguments.of And.left).bind fun arguments => .pure fun holds => ?_
    exact ⟨holds.1, productions.method known.1 targetGood holds.2⟩
  · exact .pure fun holds => ⟨holds.1, targetGood⟩

theorem suffixed_builds :
    Yields before inner.suffixed fun expr cursor => after cursor ∧ good expr :=
  (primary_builds taking builds productions).bind fun target =>
    .loop _ (fun _ => .assume fun targetGood => suffix_builds taking builds productions targetGood)
      target

theorem power_builds : Yields before inner.power fun expr cursor => after cursor ∧ good expr := by
  refine (suffixed_builds taking builds productions).bind fun base => .assume fun baseGood => ?_
  refine (Yields.isNext _).bind fun found => .ite ?_ fun _ => .pure fun holds => ⟨holds.1, baseGood⟩
  rintro rfl
  refine (taking.again.advance_next rfl).bind fun token => .assume fun onLine => ?_
  refine (builds.again taking).signed.bind fun exponent => .pure fun holds => ?_
  exact ⟨holds.1, productions.power onLine baseGood holds.2⟩

theorem minus_builds : Yields before inner.minus fun expr cursor => after cursor ∧ good expr := by
  refine (Yields.isNext _).bind fun found => .ite ?_ fun _ =>
    (power_builds taking builds productions).of And.left
  rintro rfl
  refine (taking.advance_next rfl).bind fun token => .assume fun onLine => ?_
  refine (builds.again taking).signed.bind fun operand => .pure fun holds => ?_
  exact ⟨holds.1, productions.unary onLine holds.2⟩

omit builds productions in
theorem operator_builds (meaning : TokenKind → Option BinaryOp)
    (ends : ∀ kind ∈ [.newline, .indent, .dedent, .finish], meaning kind = none)
    (other : ∀ kind, meaning kind ≠ some .power) :
    Yields after (operator meaning) fun found cursor =>
      after cursor ∧ Joining onLine found := by
  refine Yields.peek.bind fun token => ?_
  split
  · rename_i op known
    refine (taking.again.advance_peeked (known_inside ends known)).bind fun taken => .assume ?_
    rintro ⟨line, rfl⟩
    refine .pure fun holds => ⟨holds, ?_⟩
    rintro pair ⟨⟩
    refine ⟨line, ?_⟩
    rintro rfl
    exact other _ known
  · exact .pure fun holds => ⟨holds.1, by simp [Joining]⟩

omit builds productions in
theorem comparisonOperator_builds :
    Yields after comparisonOperator fun found cursor =>
      after cursor ∧ Joining onLine found := by
  refine Yields.peek.bind fun token => Yields.peekSecond.bind fun second => .ite (fun both => ?_) ?_
  · simp only [Bool.and_eq_true, beq_iff_eq] at both
    have first : Yields
        (fun cursor => (after cursor ∧ cursor.peek = token) ∧ cursor.peekSecond = second) advance
        fun _ cursor => after cursor ∧ cursor.peek = second := by
      refine .advance ?_
      rintro cursor ⟨⟨holds, rfl⟩, rfl⟩
      exact ⟨(taking.again.take holds (by rw [both.1]; rfl)).1, rfl⟩
    refine first.bind fun _ => ?_
    refine (taking.again.advance_peeked (by rw [both.2]; rfl)).bind fun taken => .assume ?_
    rintro ⟨line, rfl⟩
    refine .pure fun holds => ⟨holds, ?_⟩
    rintro pair ⟨⟩
    exact ⟨line, by simp⟩
  · intro _
    have single := operator_builds taking comparisonOp (by simp [comparisonOp]) fun kind => by
      unfold comparisonOp
      split <;> simp
    exact single.of fun holds => holds.1.1

omit builds in
theorem chain_builds {operator : OperatorParser} {operand : Parser Expr}
    (operators : Yields after operator fun found cursor =>
      after cursor ∧ Joining onLine found)
    (operands : Yields before operand fun expr cursor => after cursor ∧ good expr) :
    Yields before (chain operator operand) fun expr cursor => after cursor ∧ good expr := by
  refine operands.bind fun first => .loop _ (fun left => .assume fun leftGood => ?_) first
  refine operators.bind fun found => .assume fun known => ?_
  split
  · rename_i op line
    refine (operands.of taking.still).bind fun right => .pure fun holds => ?_
    obtain ⟨onLine, other⟩ := known (op, line) rfl
    exact ⟨holds.1, productions.binary onLine other leftGood holds.2⟩
  · exact .pure fun holds => ⟨holds, leftGood⟩

theorem comparison_builds :
    Yields before inner.comparison fun expr cursor => after cursor ∧ good expr := by
  have productOps := operator_builds taking productOp (by simp [productOp]) fun kind => by
    unfold productOp
    split <;> simp
  have sumOps := operator_builds taking sumOp (by simp [sumOp]) fun kind => by
    unfold sumOp
    split <;> simp
  have products := chain_builds taking productions productOps
    (minus_builds taking builds productions)
  have sums := chain_builds taking productions sumOps products
  exact chain_builds taking productions (comparisonOperator_builds taking) sums

theorem invert_builds : Yields before inner.invert fun expr cursor => after cursor ∧ good expr := by
  refine Yields.peek.bind fun token => .ite (fun sign => ?_) fun _ =>
    (comparison_builds taking builds productions).of And.left
  have inside : isLineEnd token.kind = false := by
    simp only [Bool.or_eq_true, beq_iff_eq] at sign
    rcases sign with word | symbol
    · rw [word]; rfl
    · rw [symbol]; rfl
  refine (taking.advance_peeked inside).bind fun taken => .assume ?_
  rintro ⟨line, rfl⟩
  refine (builds.again taking).inverted.bind fun operand => .pure fun holds => ?_
  exact ⟨holds.1, productions.unary line holds.2⟩

theorem conditional_builds :
    Yields before inner.conditional fun expr cursor => after cursor ∧ good expr := by
  have andOps := operator_builds taking andOp (by simp [andOp]) fun kind => by
    unfold andOp
    split <;> simp
  have orOps := operator_builds taking orOp (by simp [orOp]) fun kind => by
    unfold orOp
    split <;> simp
  have conjunctions := chain_builds taking productions andOps
    (invert_builds taking builds productions)
  have disjunctions := chain_builds taking productions orOps conjunctions
  have later := builds.again taking
  refine disjunctions.bind fun condition => .assume fun conditionGood => ?_
  refine (Yields.isNext _).bind fun found => .ite ?_ fun _ =>
    .pure fun holds => ⟨holds.1, conditionGood⟩
  rintro rfl
  refine (taking.again.advance_next rfl).bind fun token => .assume fun line => ?_
  refine later.expression.bind fun yes => .assume fun yesDeep => ?_
  refine (taking.again.expect rfl).bind fun _ => later.expression.bind fun no => ?_
  refine .pure fun holds => ⟨holds.1, ?_⟩
  exact productions.conditional line conditionGood yesDeep holds.2

end Levels

theorem within_builds {before after : Cursor → Prop} {onLine : Nat → Prop}
    {good : Nat → Expr → Prop} (taking : Taking before after onLine)
    (productions : ∀ room, Productions onLine (good (room + 1)) (good room)) (room : Nat) :
    (within room).Builds before after (good room) := by
  induction room with
  | zero => exact ⟨.fail _, .fail _, .fail _⟩
  | succ room ih =>
      exact ⟨conditional_builds taking ih (productions room),
        invert_builds taking ih (productions room), minus_builds taking ih (productions room)⟩

end Grammar

end EventScript.Program
