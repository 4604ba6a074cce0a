import EventScript.Proofs.Program.CommandLines
import EventScript.Proofs.Program.Standing

/-!
Indentation is nesting. The parser passes from one level of indentation to another only where it
goes into a block or out of one, so that a statement lies in as many blocks as levels are open on
the line on which it begins.
-/

namespace EventScript.Program

open EventScript.Program.Parser
open EventScript.Token (Layered)

def marks (entries : List (Nat × Statement)) : List (Nat × Nat) :=
  entries.map fun entry => (entry.1, entry.2.line)

structure Passed (heights : Nat → Nat) (fits : Nat → Statement → Prop) (around : Nat)
    (behind : List (Nat × Nat)) (entries : List (Nat × Statement)) (cursor : Cursor) : Prop where
  standing : Standing heights around (behind ++ marks entries) cursor
  fitting : ∀ entry ∈ entries, fits entry.1 entry.2

def Outlined {α : Type} (heights : Nat → Nat) (fits : Nat → Statement → Prop) (around : Nat)
    (parser : Parser α) (entries : α → List (Nat × Statement)) : Prop :=
  ∀ behind, Yields (Standing heights around behind) parser
    fun result => Passed heights fits around behind (entries result)

section Blocks

variable {α : Type} {heights : Nat → Nat} {fits : Nat → Statement → Prop} {around : Nat}
  {behind : List (Nat × Nat)} {cursor : Cursor} {entries before : List (Nat × Statement)}

theorem Passed.none (standing : Standing heights around behind cursor) :
    Passed heights fits around behind [] cursor :=
  ⟨by rwa [marks, List.map_nil, List.append_nil], by simp⟩

theorem Passed.join (first : Passed heights fits around behind before cursor)
    {later : Cursor} (second : Passed heights fits around (behind ++ marks before) entries later) :
    Passed heights fits around behind (before ++ entries) later where
  standing := by
    rw [marks, List.map_append, ← List.append_assoc]
    exact second.standing
  fitting entry member := by
    rcases List.mem_append.mp member with early | late
    · exact first.fitting entry early
    · exact second.fitting entry late

theorem Passed.head {statement : Statement} (fit : fits around statement)
    (inside : Passed heights fits around (behind ++ [(around, statement.line)]) entries cursor) :
    Passed heights fits around behind ((around, statement) :: entries) cursor where
  standing := by
    have standing := inside.standing
    rwa [List.append_assoc] at standing
  fitting entry member := by
    rcases List.mem_cons.mp member with rfl | inner
    · exact fit
    · exact inside.fitting entry inner

theorem Outlined.later {parser : Parser α} {built : α → List (Nat × Statement)}
    (outlined : Outlined heights fits around parser built) :
    Yields (Passed heights fits around behind before) parser
      fun result => Passed heights fits around behind (before ++ built result) where
  yields passed ends := passed.join ((outlined _).yields passed.standing ends)

theorem skipNewlines_stands :
    Yields (Standing heights around behind) skipNewlines
      fun _ => Standing heights around behind := by
  refine .loop (fun _ => Standing heights around behind) (fun _ => ?_) ()
  exact .eat_bind (fun standing kind => standing.newline kind) (fun standing _ => standing)
    (.pure id) (.pure id)

theorem endStatement_stands :
    Yields (Standing heights around behind) endStatement
      fun _ => Standing heights around behind := by
  refine Yields.peek.bind fun token => ?_
  split
  · rename_i kind
    refine Yields.bind (.advance ?_) fun _ => .pure id
    rintro cursor ⟨standing, rfl⟩
    exact standing.newline kind
  · exact .pure And.left
  · exact .pure And.left
  · exact .expected _

theorem Passed.stays {parser : Parser α}
    (stands : ∀ behind, Yields (Standing heights around behind) parser
      fun _ => Standing heights around behind) :
    Yields (Passed heights fits around behind entries) parser
      fun _ => Passed heights fits around behind entries where
  yields passed ends := ⟨(stands _).yields passed.standing ends, passed.fitting⟩

theorem blockStatements_outlined {statement : Parser Statement}
    (statements : Outlined heights fits around statement (Statement.outline around)) :
    Yields (Standing heights around behind) (blockStatements statement) fun found cursor =>
      Passed heights fits around behind (Statement.rowOutline around found) cursor ∧
        (cursor.peek.kind = .dedent ∨ cursor.peek.kind = .finish) := by
  refine Yields.of (Yields.loop (fun found => Passed heights fits around behind
    (Statement.rowOutline around found.reverse)) (fun found => ?_) []) .none
  refine (Passed.stays fun _ => skipNewlines_stands).bind fun _ => Yields.peek.bind fun token =>
    .ite (fun ends => ?_) fun _ => ?_
  · simp only [Bool.or_eq_true, beq_iff_eq] at ends
    refine .pure ?_
    rintro cursor ⟨passed, rfl⟩
    exact ⟨passed, ends⟩
  · have grown (statement : Statement) : Statement.rowOutline around (statement :: found).reverse =
        Statement.rowOutline around found.reverse ++ Statement.outline around statement := by
      rw [List.reverse_cons, Statement.rowOutline_append, Statement.rowOutline,
        Statement.rowOutline, List.append_nil]
    refine (statements.later.of And.left).bind fun statement => .pure fun passed => ?_
    rwa [Sum.elim_inl, grown]

theorem blockOf_outlined {statement : Option (Parser Statement)}
    (statements : ∀ parser ∈ statement,
      Outlined heights fits (around + 1) parser (Statement.outline (around + 1))) :
    Outlined heights fits around (blockOf statement) (Statement.blockOutline (around + 1)) := by
  intro behind
  refine Yields.peek.bind fun first => (skipNewlines_stands.of And.left).bind fun _ => ?_
  refine .eat_bind (fun standing kind => standing.indent kind) (fun standing _ => standing) ?_
    (.pure .none)
  cases statement with
  | none => exact .fail _
  | some parser =>
      refine (blockStatements_outlined (statements parser rfl)).bind fun found => ?_
      have closed : Yields (fun cursor => Passed heights fits (around + 1) behind
          (Statement.rowOutline (around + 1) found) cursor ∧
            (cursor.peek.kind = .dedent ∨ cursor.peek.kind = .finish)) (eat .dedent)
          fun _ => Passed heights fits around behind (Statement.rowOutline (around + 1) found) := by
        refine .eat (fun holds kind => ⟨holds.1.standing.dedent kind, holds.1.fitting⟩) ?_
        intro cursor holds other
        have finished := holds.1.standing.finish (holds.2.resolve_left other)
        exact absurd finished (Nat.succ_ne_zero around)
      exact closed.bind fun _ => .pure id

end Blocks

section Compound

variable {heights : Nat → Nat} {fits : Nat → Statement → Prop} {around : Nat}
  {behind : List (Nat × Nat)} {before : List (Nat × Statement)} {deep : Expr → Prop}
  {expression : Parser Expr} {block : Parser Block} {first : Token}

theorem advance_begins (inner : isLineEnd first.kind = false) :
    Yields (fun cursor => Standing heights around behind cursor ∧ cursor.peek = first) advance
      fun token cursor => Standing heights around (behind ++ [(around, first.line)]) cursor ∧
        token = first := by
  refine .advance ?_
  rintro cursor ⟨standing, rfl⟩
  exact ⟨standing.begin inner, rfl⟩

theorem taking_passed :
    Taking (Passed heights fits around behind before) (Passed heights fits around behind before)
      fun _ => True where
  take passed inner := ⟨⟨passed.standing.take inner, passed.fitting⟩, trivial⟩
  name passed named := ⟨passed.standing.take (passed.standing.named named), passed.fitting⟩
  still := id

theorem headedBlock_outlined
    (blocks : Outlined heights fits around block (Statement.blockOutline (around + 1))) :
    Outlined heights fits around (headedBlock block) (Statement.blockOutline (around + 1)) :=
  fun behind => ((taking_inside heights around behind).eat rfl).bind fun _ => blocks behind

def branchesOutline (around : Nat) (found : List (Expr × Block) × Option Block) :
    List (Nat × Statement) :=
  Statement.alternativesOutline around found.1 ++ Statement.otherwiseOutline around found.2

structure BranchesRead (heights : Nat → Nat) (fits : Nat → Statement → Prop) (deep : Expr → Prop)
    (around : Nat) (behind : List (Nat × Nat)) (found : List (Expr × Block) × Option Block)
    (cursor : Cursor) : Prop where
  passed : Passed heights fits around behind (branchesOutline (around + 1) found) cursor
  conditions : ∀ alternative ∈ found.1, deep alternative.1

abbrev BranchesFound (heights : Nat → Nat) (fits : Nat → Statement → Prop) (deep : Expr → Prop)
    (around : Nat) (behind : List (Nat × Nat)) (found : List (Expr × Block)) : Cursor → Prop :=
  BranchesRead heights fits deep around behind (found.reverse, none)

theorem BranchesRead.stays {parser : Parser α} {found : List (Expr × Block) × Option Block}
    (stands : ∀ behind, Yields (Standing heights around behind) parser
      fun _ => Standing heights around behind) :
    Yields (BranchesRead heights fits deep around behind found) parser
      fun _ => BranchesRead heights fits deep around behind found where
  yields read ends := ⟨(Passed.stays stands).yields read.passed ends, read.conditions⟩

theorem taking_branches {found : List (Expr × Block) × Option Block} :
    Taking (BranchesRead heights fits deep around behind found)
      (BranchesRead heights fits deep around behind found) fun _ => True where
  take read inner := ⟨⟨(taking_passed.take read.passed inner).1, read.conditions⟩, trivial⟩
  name read named := ⟨taking_passed.name read.passed named, read.conditions⟩
  still := id

variable
  (expressions : ∀ {before after}, Taking before after (fun _ => True) →
    Yields before expression fun expr cursor => after cursor ∧ deep expr)
  (blocks : Outlined heights fits around block (Statement.blockOutline (around + 1)))

include blocks

theorem otherwise_outlined (found : List (Expr × Block)) :
    Yields (BranchesFound heights fits deep around behind found) (headedBlock block)
      fun body => BranchesRead heights fits deep around behind (found.reverse, some body) where
  yields read ends := by
    refine ⟨?_, read.conditions⟩
    have passed := (headedBlock_outlined blocks).later.yields read.passed ends
    rwa [branchesOutline, Statement.otherwiseOutline, List.append_nil] at passed

theorem alternative_outlined (found : List (Expr × Block)) (condition : Expr) :
    Yields (fun cursor => BranchesFound heights fits deep around behind found cursor ∧
      deep condition)
      (headedBlock block)
      fun body => BranchesFound heights fits deep around behind ((condition, body) :: found) := by
  refine .assume fun conditionDeep => ?_
  refine (otherwise_outlined blocks found).imp fun read => ⟨?_, ?_⟩
  · have passed := read.passed
    rwa [branchesOutline, List.reverse_cons, Statement.alternativesOutline_append,
      Statement.alternativesOutline, Statement.alternativesOutline, Statement.otherwiseOutline,
      List.append_nil, List.append_nil]
  · intro alternative member
    rw [List.reverse_cons] at member
    rcases List.mem_append.mp member with before | own
    · exact read.conditions alternative before
    · rw [List.mem_singleton.mp own]
      exact conditionDeep

include expressions

theorem branches_outlined :
    Yields (Standing heights around behind) (branches expression block)
      (BranchesRead heights fits deep around behind) := by
  have all : Yields (BranchesFound heights fits deep around behind []) (branches expression block)
      (BranchesRead heights fits deep around behind) :=
    branches_take (BranchesFound heights fits deep around behind) (fun _ => taking_branches)
      (fun _ => BranchesRead.stays fun _ => skipNewlines_stands)
      (fun _ => expressions taking_branches) (alternative_outlined blocks)
      (otherwise_outlined blocks) id
  exact all.of fun standing => ⟨.none standing, by simp⟩

variable (fit : ∀ statement : Statement, (∀ expr ∈ statement.expressions, deep expr) →
    fits around statement)

include fit

theorem ifStatement_outlined (inner : isLineEnd first.kind = false) :
    Yields (fun cursor => Standing heights around behind cursor ∧ cursor.peek = first)
      (ifStatement expression block)
      fun statement => Passed heights fits around behind (statement.outline around) := by
  refine (advance_begins inner).bind fun token => .assume ?_
  rintro rfl
  refine (expressions (taking_inside _ _ _)).bind fun condition => .assume fun conditionDeep => ?_
  refine (headedBlock_outlined blocks _).bind fun yes => ?_
  have others : Yields (Passed heights fits around (behind ++ [(around, token.line)])
      (Statement.blockOutline (around + 1) yes)) (branches expression block)
      fun found cursor => Passed heights fits around (behind ++ [(around, token.line)])
        (Statement.blockOutline (around + 1) yes ++ branchesOutline (around + 1) found) cursor ∧
          ∀ alternative ∈ found.1, deep alternative.1 := by
    constructor
    intro cursor found rest passed ends
    have read := (branches_outlined expressions blocks).yields passed.standing ends
    exact ⟨passed.join read.passed, read.conditions⟩
  refine others.bind fun found => .assume fun conditions => .pure fun passed => ?_
  refine Passed.head (fit _ ?_) passed
  intro expr member
  rcases List.mem_cons.mp member with rfl | later
  · exact conditionDeep
  · obtain ⟨alternative, among, rfl⟩ := List.mem_map.mp later
    exact conditions alternative among

theorem whileStatement_outlined (inner : isLineEnd first.kind = false) :
    Yields (fun cursor => Standing heights around behind cursor ∧ cursor.peek = first)
      (whileStatement first.line expression block)
      fun statement => Passed heights fits around behind (statement.outline around) := by
  refine (advance_begins inner).bind fun token => .assume fun _ => ?_
  refine (expressions (taking_inside _ _ _)).bind fun condition => .assume fun conditionDeep => ?_
  refine (headedBlock_outlined blocks _).bind fun body => .pure fun passed => ?_
  exact passed.head (fit _ (by simpa [Statement.expressions] using conditionDeep))

theorem repeatStatement_outlined (inner : isLineEnd first.kind = false) :
    Yields (fun cursor => Standing heights around behind cursor ∧ cursor.peek = first)
      (repeatStatement first.line expression block)
      fun statement => Passed heights fits around behind (statement.outline around) := by
  refine (advance_begins inner).bind fun token => .assume fun _ => ?_
  refine (expressions (taking_inside _ _ _)).bind fun count => .assume fun countDeep => ?_
  refine ((taking_inside _ _ _).eat rfl).bind fun _ => ?_
  refine (headedBlock_outlined blocks _).bind fun body => .pure fun passed => ?_
  exact passed.head (fit _ (by simpa [Statement.expressions] using countDeep))

theorem forStatement_outlined (inner : isLineEnd first.kind = false) :
    Yields (fun cursor => Standing heights around behind cursor ∧ cursor.peek = first)
      (forStatement expression block)
      fun statement => Passed heights fits around behind (statement.outline around) := by
  refine (advance_begins inner).bind fun token => .assume ?_
  rintro rfl
  have inside := taking_inside heights around (behind ++ [(around, token.line)])
  have rest (name : String) : Yields (Standing heights around (behind ++ [(around, token.line)]))
      (do
      expect (.keyword .inside) "'in'"
      let subject ← expression
      let body ← headedBlock block
      return .forLoop token.line name subject body : Parser Statement)
      fun statement => Passed heights fits around behind (statement.outline around) := by
    refine (inside.expect rfl).bind fun _ => ?_
    refine (expressions inside).bind fun subject => .assume fun subjectDeep => ?_
    refine (headedBlock_outlined blocks _).bind fun body => .pure fun passed => ?_
    exact passed.head (fit _ (by simpa [Statement.expressions] using subjectDeep))
  refine Yields.peek.bind fun named => ?_
  split
  · rename_i kind
    refine (inside.advance_peeked (by rw [kind]; rfl)).bind fun _ => ?_
    exact Yields.bind (.pure And.left) rest
  · exact (inside.expectName.of And.left).bind rest

variable (heads : Heads (fun _ => True) deep)

include heads

theorem statement_outlined :
    Outlined heights fits around (statement expression block) (Statement.outline around) := by
  intro behind
  refine Yields.peek.bind fun first => ?_
  have simple : Yields
      (fun cursor => Standing heights around behind cursor ∧ cursor.peek = first) (do
        let result ← simpleStatement first.line expression
        endStatement
        return result)
      fun statement => Passed heights fits around behind (statement.outline around) := by
    have begins := taking_begins heights around behind first.line
    refine Yields.of (Yields.bind (simpleStatement_builds begins trivial heads (expressions begins))
      fun statement => .assume fun built => ?_) fun holds => .inl ⟨holds.1, by rw [holds.2]⟩
    refine endStatement_stands.bind fun _ => .pure fun standing => ?_
    rw [built.alone]
    refine Passed.head (fit _ built.heads) (.none ?_)
    rwa [built.line]
  refine Yields.peek.bind fun again => ?_
  refine Yields.of (.assume fun same => ?_) fun holds => ⟨holds.1, holds.1.2.symm.trans holds.2⟩
  subst same
  split
  · rename_i kind
    exact ifStatement_outlined expressions blocks fit (by rw [kind]; rfl)
  · rename_i kind
    exact whileStatement_outlined expressions blocks fit (by rw [kind]; rfl)
  · rename_i kind
    exact forStatement_outlined expressions blocks fit (by rw [kind]; rfl)
  · rename_i kind
    refine (beginsStatement_stays _).bind fun begins => (lineContains_stays _).bind fun colon => ?_
    exact .ite (fun _ => repeatStatement_outlined expressions blocks fit (by rw [kind]; rfl))
      fun _ => simple
  · exact simple

end Compound

section Items

variable {heights : Nat → Nat} {fits : Nat → Statement → Prop} {behind : List (Nat × Nat)}
  {good : Nat → Expr → Prop} {limit : Nat}

theorem blockWithin_outlined
    (productions : ∀ room, Productions (fun _ => True) (good (room + 1)) (good room))
    (heads : ∀ room, Heads (fun _ => True) (good room))
    (fit : ∀ {around room}, around + room = limit → ∀ statement : Statement,
      (∀ expr ∈ statement.expressions, good room expr) → fits around statement)
    {around room : Nat} (total : around + room = limit) :
    Outlined heights fits around (blockWithin room) (Statement.blockOutline (around + 1)) := by
  induction room generalizing around with
  | zero => exact blockOf_outlined (by simp)
  | succ room ih =>
      have deeper : around + 1 + room = limit := by omega
      refine blockOf_outlined ?_
      rintro parser ⟨⟩
      exact statement_outlined
        (fun taking => (Grammar.within_builds taking productions room).expression) (ih deeper)
        (fit deeper) (heads room)

theorem metadataText_takes {before : Cursor → Prop} {onLine : Nat → Prop}
    (taking : Taking before before onLine) : Yields before metadataText fun _ => before := by
  refine .loop (fun _ => before) (fun content => ⟨?_⟩) ""
  intro cursor next rest holds ends
  rcases metadataStep_cases ends with ⟨stops, rfl, _⟩ | ⟨goes, inner, rfl⟩
  · cases next with
    | inl _ => cases stops
    | inr _ => exact holds
  · cases next with
    | inl _ => exact (taking.take holds inner).1
    | inr _ => cases goes

theorem describeStep_takes {before : Cursor → Prop} {onLine : Nat → Prop}
    (taking : Taking before before onLine) (command : Command) :
    Yields before (describeStep command) (Sum.elim (fun _ => before) fun _ => before) := by
  constructor
  intro cursor next rest holds ends
  obtain ⟨found, between, announced, ends⟩ := bind_ok.mp ends
  obtain ⟨rfl, headed⟩ := metadataAhead_cases announced
  cases found with
  | none =>
      cases ends
      exact holds
  | some metadata =>
      obtain ⟨⟨name, named⟩, colon⟩ := headed metadata rfl
      have pastName := taking.name holds named
      have inner : isLineEnd between.peekSecond.kind = false := by
        rw [colon]
        rfl
      have pastColon := (taking.take pastName inner).1
      obtain ⟨_, _, taken, ends⟩ := bind_ok.mp ends
      cases taken
      obtain ⟨_, _, taken, ends⟩ := bind_ok.mp ends
      cases taken
      obtain ⟨content, between, spelled, ends⟩ := bind_ok.mp ends
      have told := (metadataText_takes taking).yields pastColon spelled
      cases metadata <;> cases ends <;> exact told

theorem begun_inside {cursor : Cursor} {line : Nat}
    (layered : Layered heights (some line) 0 cursor.rest) (noNewline : cursor.peek.kind ≠ .newline)
    (noFinish : cursor.peek.kind ≠ .finish) : isLineEnd cursor.peek.kind = false := by
  rcases layered_cases layered with ⟨inner, _⟩ | ⟨_, ⟨kind, _⟩ | ⟨_, fresh, _⟩ |
    ⟨_, outer, same, _⟩ | ⟨kind, _⟩⟩
  · exact inner
  · exact absurd kind noNewline
  · cases fresh
  · cases same
  · exact absurd kind noFinish

theorem eventWords_stand :
    Yields (fun cursor => Standing heights 0 behind cursor ∧
        ∃ line, Layered heights (some line) 0 cursor.rest)
      (loop (fun words : List String => do
        match (← peek).kind with
        | .symbol .colon | .newline | .finish => return .inr words.reverse
        | _ => return .inl ((← advance).lexeme :: words)) [])
      fun _ => Standing heights 0 behind := by
  refine .loop (fun _ cursor => Standing heights 0 behind cursor ∧
    ∃ line, Layered heights (some line) 0 cursor.rest) (fun words => ?_) []
  refine Yields.peek.bind fun token => ?_
  split
  · exact .pure fun holds => holds.1.1
  · exact .pure fun holds => holds.1.1
  · exact .pure fun holds => holds.1.1
  · rename_i _ noNewline noFinish
    refine Yields.bind (.advance ?_) fun _ => .pure id
    rintro cursor ⟨⟨standing, line, layered⟩, rfl⟩
    have inner := begun_inside layered noNewline noFinish
    exact ⟨standing.take inner, _, (layered_inside layered inner).2.2.2⟩

variable (bodies : Outlined heights fits 0 body (Statement.blockOutline 1)) {first : Token}

include bodies

theorem eventHandler_outlined (inner : isLineEnd first.kind = false) :
    Yields (fun cursor => Standing heights 0 behind cursor ∧ cursor.peek = first) eventHandler
      fun handler => Passed heights fits 0 behind (Statement.blockOutline 1 handler.body) := by
  have begun : Yields (fun cursor => Standing heights 0 behind cursor ∧ cursor.peek = first) advance
      fun _ cursor => Standing heights 0 behind cursor ∧
        ∃ line, Layered heights (some line) 0 cursor.rest := by
    refine .advance ?_
    rintro cursor ⟨standing, rfl⟩
    obtain ⟨row, layered⟩ := standing.layered
    exact ⟨standing.take inner, _, (layered_inside layered inner).2.2.2⟩
  refine begun.bind fun token => eventWords_stand.bind fun words => ?_
  refine .ite (fun _ => .fail _) fun _ => ?_
  exact (bodies behind).bind fun body => .pure id

theorem command_outlined (inner : isLineEnd first.kind = false) :
    Yields (fun cursor => Standing heights 0 behind cursor ∧ cursor.peek = first) command
      fun command => Passed heights fits 0 behind (Statement.blockOutline 1 command.body) := by
  have inside := taking_inside heights 0 behind
  refine (inside.advance_peeked inner).bind fun token => Yields.of ?_ And.left
  refine inside.expectName.bind fun name => (parameters_take inside).bind fun names => ?_
  refine (Yields.loop _ (describeStep_takes inside) _).bind fun described => ?_
  exact (bodies behind).bind fun body => .pure id

theorem function_outlined (inner : isLineEnd first.kind = false) :
    Yields (fun cursor => Standing heights 0 behind cursor ∧ cursor.peek = first) function
      fun function => Passed heights fits 0 behind (Statement.blockOutline 1 function.body) := by
  have inside := taking_inside heights 0 behind
  refine (inside.advance_peeked inner).bind fun token => Yields.of ?_ And.left
  refine inside.expectName.bind fun name => (parameters_take inside).bind fun names => ?_
  exact (bodies behind).bind fun body => .pure id

theorem item_outlined
    (strays : Outlined heights fits 0
      (statement (Grammar.within nestingLimit).expression (blockWithin nestingLimit))
      (Statement.outline 0)) : Outlined heights fits 0 item itemOutline := by
  intro behind
  refine Yields.peek.bind fun first => ?_
  split
  · rename_i kind
    exact (eventHandler_outlined bodies (by rw [kind]; rfl)).bind fun handler => .pure id
  · rename_i kind
    exact (command_outlined bodies (by rw [kind]; rfl)).bind fun command => .pure id
  · rename_i kind
    exact (function_outlined bodies (by rw [kind]; rfl)).bind fun function => .pure id
  · exact ((strays behind).of And.left).bind fun statement => .pure id

omit bodies in
theorem items_outlined (each : Outlined heights fits 0 item itemOutline) :
    Outlined heights fits 0 items outline := by
  intro behind
  refine Yields.of (Yields.loop (fun found => Passed heights fits 0 behind (outline found.reverse))
    (fun found => ?_) []) .none
  refine (Passed.stays fun _ => skipNewlines_stands).bind fun _ => Yields.peek.bind fun token =>
    .ite (fun _ => .pure And.left) fun _ => ?_
  have grown (item : Item) :
      outline (item :: found).reverse = outline found.reverse ++ itemOutline item := by
    rw [List.reverse_cons, outline, List.flatMap_append, List.flatMap_singleton]
    rfl
  refine (each.later.of And.left).bind fun item => .pure fun passed => ?_
  rwa [Sum.elim_inl, grown]

end Items

/-- The outline of every program that is read. -/
theorem parse_passed (fits : Nat → Statement → Prop) {good : Nat → Expr → Prop}
    (productions : ∀ room, Productions (fun _ => True) (good (room + 1)) (good room))
    (heads : ∀ room, Heads (fun _ => True) (good room))
    (fit : ∀ {around room}, around + room = nestingLimit → ∀ statement : Statement,
      (∀ expr ∈ statement.expressions, good room expr) → fits around statement)
    {source : String} {program : Program} (parsed : parse source = .ok program) :
    ∃ cursor, Passed (Token.openLevels source) fits 0 [] (outline program) cursor := by
  obtain ⟨tokens, cursor, scanned, reads⟩ := parse_reads parsed
  have start : Standing (Token.openLevels source) 0 [] (Cursor.ofTokens tokens) :=
    ⟨⟨none, Token.scan_layered scanned⟩, by simp, .nil, by simp⟩
  have total : 0 + nestingLimit = nestingLimit := Nat.zero_add _
  have blocks : Outlined (Token.openLevels source) fits 0 _ _ :=
    blockWithin_outlined productions heads fit total
  have strays := statement_outlined
    (fun taking => (Grammar.within_builds taking productions nestingLimit).expression) blocks
    (fit total) (heads nestingLimit)
  have all := items_outlined (item_outlined (headedBlock_outlined blocks) strays)
  exact ⟨cursor, (all []).yields start reads⟩

/-- A statement lies in as many blocks as levels of indentation are open on the line on which it
begins, and the statements of a program are in the order of their lines. -/
theorem indentation_is_nesting {source : String} {program : Program}
    (parsed : parse source = .ok program) :
    (∀ entry ∈ outline program, entry.1 = Token.openLevels source entry.2.line) ∧
      ((outline program).map fun entry => entry.2.line).Pairwise (· ≤ ·) := by
  obtain ⟨cursor, passed⟩ := parse_passed (fun _ _ => True) (fun _ => .free _)
    (fun _ => .free _) (fun _ _ _ => trivial) parsed
  have told := passed.standing.told
  have sorted := passed.standing.sorted
  rw [List.nil_append] at told sorted
  constructor
  · intro entry member
    exact told _ (List.mem_map_of_mem member)
  · rwa [marks, List.map_map] at sorted

theorem branches_lie_in_two_blocks :
    let source := "on go:\n  if true:\n    stop\n\n  else:\n      wait 1 tick\n  log\n"
    ∃ program, parse source = .ok program ∧
      (outline program).map (fun entry => (entry.1, entry.2.line)) =
        [(1, 2), (2, 3), (2, 6), (1, 7)] ∧
      (∀ entry ∈ outline program, entry.1 = Token.openLevels source entry.2.line) ∧
      ((outline program).map fun entry => entry.2.line).Pairwise (· ≤ ·) := by
  intro source
  have shape : ((parse source).toOption.map fun program =>
      (outline program).map fun entry => (entry.1, entry.2.line)) =
        some [(1, 2), (2, 3), (2, 6), (1, 7)] := by decide +kernel
  obtain ⟨program, parsed, seen⟩ := parse_of_view shape
  exact ⟨program, parsed, seen, indentation_is_nesting parsed⟩

end EventScript.Program
