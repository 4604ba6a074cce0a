import EventScript.Proofs.Program.Outline
import EventScript.Proofs.Program.Productions

/-!
What statements on one line take and build. Like expressions they take only tokens inside the line,
and at least one of them.
-/

namespace EventScript.Program

open EventScript.Program.Parser

structure Heads (onLine : Nat → Prop) (deep : Expr → Prop) : Prop where
  adjusted : ∀ {line op name amount}, onLine line → op ≠ .power → deep amount →
    deep (.binary line op (.reference line name) amount)
  adjustedStored : ∀ {line op key amount}, onLine line → op ≠ .power → deep amount →
    deep (.binary line op (.stored line (keyExpr line key)) amount)
  inSeconds : ∀ {line amount value}, onLine line → deep amount →
    deep (.binary line .multiply amount (.literal line value))
  key : ∀ {line key value}, onLine line → deep value → deep (keyExpr line key)
  keyOf : ∀ {key value}, deep value → deep (keyExpr value.line key)

theorem Heads.free (onLine : Nat → Prop) : Heads onLine fun _ => True := by
  constructor <;> intros <;> trivial

structure Simple (line : Nat) (deep : Expr → Prop) (statement : Statement) : Prop where
  line : statement.line = line
  bare : statement.blocks = []
  heads : ∀ expr ∈ statement.expressions, deep expr

theorem Simple.alone {line : Nat} {deep : Expr → Prop} {statement : Statement}
    (simple : Simple line deep statement) (around : Nat) :
    statement.outline around = [(around, statement)] := by
  rw [Statement.outline_eq, simple.bare, List.flatMap_nil]

theorem Yields.stays {α : Type} {before : Cursor → Prop} {parser : Parser α}
    (stays : ∀ {cursor result after}, parser cursor = .ok (result, after) → after = cursor) :
    Yields before parser fun _ => before where
  yields holds ends := stays ends ▸ holds

section Statements

variable {before after : Cursor → Prop} {onLine : Nat → Prop} {deep : Expr → Prop} {line : Nat}
  {token : Token} {expression : Parser Expr}

theorem lineContains_stays {condition : Cursor → Prop} (kind : TokenKind) :
    Yields condition (lineContains kind) fun _ => condition := by
  refine .stays ?_
  intro cursor result after ends
  cases ends
  rfl

theorem beginsStatement_stays {condition : Cursor → Prop} (joiner : TokenKind) :
    Yields condition (beginsStatement joiner) fun _ => condition := by
  refine Yields.peekSecond.bind fun second => .ite (fun _ => ?_) fun _ => .pure And.left
  exact (lineContains_stays joiner).of And.left

variable (taking : Taking before after onLine) (onHere : onLine line)

include taking

theorem target_takes : Yields before target fun _ => after := by
  refine Yields.peek.bind fun token => ?_
  split
  · rename_i kind
    exact (taking.advance_peeked (by rw [kind]; rfl)).bind fun _ => .pure And.left
  · rename_i kind
    exact (taking.advance_peeked (by rw [kind]; rfl)).bind fun _ => .pure And.left
  · exact (taking.expectName.of And.left).bind fun _ => .pure id

variable (heads : Heads onLine deep)
  (expressions : Yields before expression fun expr cursor => after cursor ∧ deep expr)

include heads expressions

theorem setStatement_builds (inside : isLineEnd token.kind = false) :
    Yields (fun cursor => before cursor ∧ cursor.peek = token) (setStatement line expression)
      fun statement cursor => after cursor ∧ Simple line deep statement := by
  refine (taking.advance_peeked inside).bind fun _ => .assume fun _ => ?_
  refine (target_takes taking.again).bind fun goal => (taking.again.expect rfl).bind fun _ => ?_
  refine (expressions.of taking.still).bind fun value => .assume fun valueDeep => ?_
  split
  · exact .pure fun holds => ⟨holds, rfl, rfl, by simpa [Statement.expressions]⟩
  · refine .pure fun holds => ⟨holds, rfl, rfl, ?_⟩
    simpa [Statement.expressions] using ⟨heads.keyOf valueDeep, valueDeep⟩

theorem adjustStatement_builds (inside : isLineEnd token.kind = false) {op : BinaryOp}
    (other : op ≠ .power) (joiner : Keyword) (what : String) :
    Yields (fun cursor => before cursor ∧ cursor.peek = token)
      (adjustStatement line op joiner what expression)
      fun statement cursor => after cursor ∧ Simple line deep statement := by
  refine (taking.advance_peeked inside).bind fun taken => .assume ?_
  rintro ⟨here, rfl⟩
  refine (expressions.of taking.still).bind fun amount => .assume fun amountDeep => ?_
  refine (taking.again.expect rfl).bind fun _ => (target_takes taking.again).bind fun goal => ?_
  split
  · refine .pure fun holds => ⟨holds, rfl, rfl, ?_⟩
    simpa [Statement.expressions] using heads.adjusted here other amountDeep
  · refine .pure fun holds => ⟨holds, rfl, rfl, ?_⟩
    simpa [Statement.expressions] using
      ⟨heads.key here amountDeep, heads.adjustedStored here other amountDeep⟩

theorem assignmentStatement_builds (inside : isLineEnd token.kind = false) (goal : Target) :
    Yields (fun cursor => before cursor ∧ cursor.peek = token)
      (assignmentStatement line goal expression)
      fun statement cursor => after cursor ∧ Simple line deep statement := by
  refine Yields.peekSecond.bind fun second => ?_
  split
  · refine (expressions.of fun holds => holds.1.1).bind fun value => .pure fun holds => ?_
    exact ⟨holds.1, rfl, rfl, by simpa [Statement.expressions] using holds.2⟩
  · rename_i op known
    have operator := known_inside (by simp [assignmentOp?]) known
    have first : Yields (fun cursor => (before cursor ∧ cursor.peek = token) ∧
        cursor.peekSecond = second) advance
        fun taken cursor => (after cursor ∧ cursor.peek = second) ∧ onLine taken.line := by
      refine .advance ?_
      rintro cursor ⟨⟨holds, rfl⟩, rfl⟩
      obtain ⟨later, here⟩ := taking.take holds inside
      exact ⟨⟨later, rfl⟩, here⟩
    refine first.bind fun taken => .assume fun here => ?_
    refine (taking.again.advance_peeked operator).bind fun _ => .assume fun _ => ?_
    refine (expressions.of taking.still).bind fun value => .assume fun valueDeep => ?_
    have keyDeep (key : String) : deep (keyExpr taken.line key) := heads.key here valueDeep
    split
    · exact .pure fun holds => ⟨holds, rfl, rfl, by simpa [Statement.expressions]⟩
    · exact .pure fun holds => ⟨holds, rfl, rfl, by simpa [Statement.expressions]⟩
    · refine .pure fun holds => ⟨holds, rfl, rfl, ?_⟩
      simpa [Statement.expressions] using ⟨keyDeep _, valueDeep⟩
    · refine .pure fun holds => ⟨holds, rfl, rfl, ?_⟩
      simpa [Statement.expressions] using ⟨keyDeep _, valueDeep⟩

include onHere in
theorem waitStatement_builds (inside : isLineEnd token.kind = false) :
    Yields (fun cursor => before cursor ∧ cursor.peek = token) (waitStatement line expression)
      fun statement cursor => after cursor ∧ Simple line deep statement := by
  refine (taking.advance_peeked inside).bind fun _ => .assume fun _ => ?_
  refine (expressions.of taking.still).bind fun amount => .assume fun amountDeep => ?_
  refine taking.again.eat_bind rfl ?_ ?_
  · refine .pure fun holds => ⟨holds, rfl, rfl, ?_⟩
    simpa [Statement.expressions] using heads.inSeconds onHere amountDeep
  · refine (taking.again.eat rfl).bind fun _ => .pure fun holds => ?_
    exact ⟨holds, rfl, rfl, by simpa [Statement.expressions] using amountDeep⟩

omit heads in
theorem returnStatement_builds (inside : isLineEnd token.kind = false) :
    Yields (fun cursor => before cursor ∧ cursor.peek = token) (returnStatement line expression)
      fun statement cursor => after cursor ∧ Simple line deep statement := by
  refine (taking.advance_peeked inside).bind fun _ => .assume fun _ => ?_
  refine Yields.peek.bind fun next => .ite (fun _ => ?_) fun _ => ?_
  · exact .pure fun holds => ⟨holds.1, rfl, rfl, by simp [Statement.expressions]⟩
  · refine (expressions.of fun holds => taking.still holds.1).bind fun value => ?_
    refine .pure fun holds => ?_
    exact ⟨holds.1, rfl, rfl, by simpa [Statement.expressions] using holds.2⟩

omit heads in
theorem effectStatement_builds (inside : isLineEnd token.kind = false) (name : String) :
    Yields (fun cursor => before cursor ∧ cursor.peek = token)
      (effectStatement line name expression)
      fun statement cursor => after cursor ∧ Simple line deep statement := by
  refine (taking.advance_peeked inside).bind fun _ => .assume fun _ => ?_
  have arguments : Yields after (loop (fun arguments : List Expr => do
      if isLineEnd (← peek).kind then return .inr arguments.reverse
      else return .inl ((← expression) :: arguments)) [])
      fun arguments cursor => after cursor ∧ ∀ argument ∈ arguments, deep argument := by
    refine Yields.of (Yields.loop (fun found cursor => after cursor ∧ ∀ argument ∈ found,
      deep argument) (fun found => .assume fun foundDeep => ?_) []) fun holds => ⟨holds, by simp⟩
    refine Yields.peek.bind fun next => .ite (fun _ => ?_) fun _ => ?_
    · exact .pure fun holds => ⟨holds.1, by simpa using foundDeep⟩
    · refine (expressions.of fun holds => taking.still holds.1).bind fun value => ?_
      exact .pure fun holds => ⟨holds.1, by simpa using ⟨holds.2, foundDeep⟩⟩
  refine arguments.bind fun arguments => .pure fun holds => ?_
  exact ⟨holds.1, rfl, rfl, by simpa [Statement.expressions] using holds.2⟩

include onHere in
theorem simpleStatement_builds :
    Yields before (simpleStatement line expression)
      fun statement cursor => after cursor ∧ Simple line deep statement := by
  have evaluate : Yields before (return .evaluate line (← expression) : Parser Statement)
      fun statement cursor => after cursor ∧ Simple line deep statement := by
    refine expressions.bind fun value => .pure fun holds => ⟨holds.1, rfl, rfl, ?_⟩
    simpa [Statement.expressions] using holds.2
  refine Yields.peek.bind fun token => ?_
  split
  · rename_i kind
    exact waitStatement_builds taking onHere heads expressions (by rw [kind]; rfl)
  · rename_i kind
    exact returnStatement_builds taking expressions (by rw [kind]; rfl)
  · rename_i kind
    refine (taking.advance_peeked (by rw [kind]; rfl)).bind fun _ => .pure fun holds => ?_
    exact ⟨holds.1, rfl, rfl, by simp [Statement.expressions]⟩
  · rename_i kind
    refine (taking.advance_peeked (by rw [kind]; rfl)).bind fun _ => .pure fun holds => ?_
    exact ⟨holds.1, rfl, rfl, by simp [Statement.expressions]⟩
  · rename_i kind
    exact setStatement_builds taking heads expressions (by rw [kind]; rfl)
  · rename_i kind
    refine (beginsStatement_stays _).bind fun begins => .ite (fun _ => ?_) fun _ =>
      evaluate.of And.left
    exact adjustStatement_builds taking heads expressions (by rw [kind]; rfl) (by simp) _ _
  · rename_i kind
    refine (beginsStatement_stays _).bind fun begins => .ite (fun _ => ?_) fun _ =>
      evaluate.of And.left
    exact adjustStatement_builds taking heads expressions (by rw [kind]; rfl) (by simp) _ _
  · rename_i kind
    exact assignmentStatement_builds taking heads expressions (by rw [kind]; rfl) _
  · rename_i kind
    exact assignmentStatement_builds taking heads expressions (by rw [kind]; rfl) _
  · rename_i kind
    refine Yields.peekSecond.bind fun second => .ite (fun _ => evaluate.of fun holds => holds.1.1)
      fun _ => ?_
    exact (effectStatement_builds taking expressions (by rw [kind]; rfl) _).of And.left
  · exact evaluate.of And.left

end Statements

theorem branches_yield (found behind : List (Expr × Block) → Cursor → Prop)
    (judged : List (Expr × Block) → Expr → Cursor → Prop)
    {goal : List (Expr × Block) × Option Block → Cursor → Prop} {expression : Parser Expr}
    {block : Parser Block}
    (skips : ∀ others, Yields (found others) skipNewlines fun _ => found others)
    (joined : ∀ {others cursor}, found others cursor → cursor.peek.kind = .keyword .elseIf →
      behind others cursor.next)
    (apart : ∀ {others cursor}, found others cursor → cursor.peek.kind = .keyword .otherwise →
      cursor.peekSecond.kind = .keyword .ifTrue → behind others cursor.next.next)
    (conditions : ∀ others, Yields (behind others) expression (judged others))
    (chosen : ∀ others condition, Yields (judged others condition) (headedBlock block)
      fun body => found ((condition, body) :: others))
    (remains : ∀ {others cursor}, found others cursor → cursor.peek.kind = .keyword .otherwise →
      found others cursor.next)
    (otherwise : ∀ others, Yields (found others) (headedBlock block)
      fun body => goal (others.reverse, some body))
    (ends : ∀ {others cursor}, found others cursor → goal (others.reverse, none) cursor) :
    Yields (found []) (branches expression block) goal := by
  refine Yields.loop found (fun others => ?_) []
  have one : Yields (behind others) (do
      let condition ← expression
      let body ← headedBlock block
      return .inl ((condition, body) :: others)) (Sum.elim found goal) :=
    (conditions others).bind fun condition => (chosen others condition).bind fun body => .pure id
  refine (skips others).bind fun _ => Yields.peek.bind fun first => ?_
  refine Yields.peekSecond.bind fun second => Yields.peek.bind fun again => .ite (fun goes => ?_)
    fun _ => ?_
  · simp only [Bool.or_eq_true, Bool.and_eq_true, beq_iff_eq] at goes
    have word : Yields (fun cursor => ((found others cursor ∧ cursor.peek = first) ∧
        cursor.peekSecond = second) ∧ cursor.peek = again) advance fun _ cursor =>
          ∃ mark : Cursor, found others mark ∧ mark.peek = first ∧ mark.peekSecond = second ∧
            mark.peek = again ∧ cursor = mark.next :=
      .advance fun {cursor} holds => ⟨cursor, holds.1.1.1, holds.1.1.2, holds.1.2, holds.2, rfl⟩
    refine word.bind fun _ => .ite (fun chained => ?_) fun single => one.of ?_
    · simp only [Bool.and_eq_true, beq_iff_eq] at chained
      refine Yields.bind (.advance ?_) fun _ => one
      rintro _ ⟨mark, holds, rfl, rfl, _, rfl⟩
      exact apart holds chained.1 chained.2
    · simp only [Bool.and_eq_true, beq_iff_eq] at single
      rintro _ ⟨mark, holds, rfl, rfl, rfl, rfl⟩
      exact joined holds (goes.resolve_left single)
  · refine Yields.of (.eat_bind remains (fun holds _ => holds) ?_ (.pure ends))
      fun holds => holds.1.1.1
    exact (otherwise others).bind fun body => .pure id

theorem branches_take (found : List (Expr × Block) → Cursor → Prop) {onLine : Nat → Prop}
    {judged : List (Expr × Block) → Expr → Cursor → Prop}
    {goal : List (Expr × Block) × Option Block → Cursor → Prop} {expression : Parser Expr}
    {block : Parser Block} (taking : ∀ others, Taking (found others) (found others) onLine)
    (skips : ∀ others, Yields (found others) skipNewlines fun _ => found others)
    (conditions : ∀ others, Yields (found others) expression (judged others))
    (chosen : ∀ others condition, Yields (judged others condition) (headedBlock block)
      fun body => found ((condition, body) :: others))
    (otherwise : ∀ others, Yields (found others) (headedBlock block)
      fun body => goal (others.reverse, some body))
    (ends : ∀ {others cursor}, found others cursor → goal (others.reverse, none) cursor) :
    Yields (found []) (branches expression block) goal := by
  have taken {others : List (Expr × Block)} {cursor : Cursor} (holds : found others cursor)
      (inside : isLineEnd cursor.peek.kind = false) : found others cursor.next :=
    ((taking others).take holds inside).1
  refine branches_yield found found judged skips (fun holds kind => taken holds (by rw [kind]; rfl))
    (fun {_ cursor} holds first second => ?_) conditions chosen
    (fun holds kind => taken holds (by rw [kind]; rfl)) otherwise ends
  have inside : isLineEnd cursor.next.peek.kind = false := by
    rw [show cursor.next.peek.kind = .keyword .ifTrue from second]
    rfl
  exact taken (taken holds (by rw [first]; rfl)) inside

end EventScript.Program
