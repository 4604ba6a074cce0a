import EventScript.Proofs.Program.Depth
import EventScript.Proofs.Program.Extent
import EventScript.Proofs.Program.SharedLines

/-!
The lines that programs name. A header is the line on which a statement begins, and each `else if`
is one of its own. What the parser makes of a header, texts and made-up parts included, all says
that it stands on the line of the header.
-/

namespace EventScript

namespace Statement

def ownExpressions : Statement → List Expr
  | .branch _ condition _ _ _ => [condition]
  | statement => statement.expressions

def alternatives : Statement → List (Expr × Block)
  | .branch _ _ _ alternatives _ => alternatives
  | _ => []

theorem expressions_eq (statement : Statement) :
    statement.expressions = statement.ownExpressions ++ statement.alternatives.map Prod.fst := by
  cases statement <;> simp [expressions, ownExpressions, alternatives]

theorem alternatives_of_bare {statement : Statement} (bare : statement.blocks = []) :
    statement.alternatives = [] := by
  cases statement with
  | branch => cases bare
  | _ => rfl

end Statement

namespace Program

open EventScript.Program.Parser
open EventScript.Token (LineAhead Lined)

/-- The nodes of an expression: the expression itself and those of the ones right inside it. -/
inductive Node : Expr → Expr → Prop where
  | here {expr : Expr} : Node expr expr
  | into {expr child node : Expr} {counted : Bool} (member : (counted, child) ∈ children expr)
      (next : Node child node) : Node expr node

def NodesOn (onLine : Nat → Prop) (expr : Expr) : Prop := ∀ node, Node expr node → onLine node.line

section Nodes

variable {onLine : Nat → Prop} {expr : Expr}

theorem nodesOn_iff : NodesOn onLine expr ↔
    onLine expr.line ∧ ∀ child ∈ children expr, NodesOn onLine child.2 := by
  constructor
  · intro all
    exact ⟨all expr .here, fun child member node next => all node (.into member next)⟩
  · rintro ⟨own, inside⟩ node path
    cases path with
    | here => exact own
    | into member next => exact inside _ member node next

theorem fillings_on {line : Nat} (here : onLine line) : Fillings line (NodesOn onLine) where
  text := nodesOn_iff.mpr ⟨here, by simp [children]⟩
  reference := nodesOn_iff.mpr ⟨here, by simp [children]⟩
  stored key := nodesOn_iff.mpr ⟨here, by simpa [children] using key⟩
  template inside := nodesOn_iff.mpr ⟨here, forall_children_template.mpr inside⟩

theorem productions_on (onLine : Nat → Prop) :
    Productions onLine (NodesOn onLine) (NodesOn onLine) where
  literal here := nodesOn_iff.mpr ⟨here, by simp [children]⟩
  text here := (fillings_on here).templateExpr _
  reference here := nodesOn_iff.mpr ⟨here, by simp [children]⟩
  stored here := (fillings_on here).stored ((fillings_on here).keyExpr _)
  group inside := inside
  call {line name arguments} here inside := by
    refine nodesOn_iff.mpr ⟨here, ?_⟩
    cases arguments with
    | nil => simp [children]
    | cons first arguments => simpa [children] using inside
  method here target inside := nodesOn_iff.mpr ⟨here, by simpa [children] using ⟨target, inside⟩⟩
  list here inside := nodesOn_iff.mpr ⟨here, by simpa [children] using inside⟩
  map here inside := nodesOn_iff.mpr ⟨here, forall_children_map.mpr inside⟩
  index here target inside := nodesOn_iff.mpr ⟨here, by simpa [children] using ⟨target, inside⟩⟩
  property here target := nodesOn_iff.mpr ⟨here, by simpa [children] using target⟩
  unary here inside := nodesOn_iff.mpr ⟨here, by simpa [children] using inside⟩
  power here base inside := nodesOn_iff.mpr ⟨here, by simpa [children] using ⟨base, inside⟩⟩
  binary here _ left right := nodesOn_iff.mpr ⟨here, by simpa [children] using ⟨left, right⟩⟩
  conditional here condition yes no :=
    nodesOn_iff.mpr ⟨here, by simpa [children] using ⟨condition, yes, no⟩⟩

theorem heads_on (onLine : Nat → Prop) : Heads onLine (NodesOn onLine) where
  adjusted here _ amount :=
    (productions_on onLine).binary here ‹_› ((productions_on onLine).reference here) amount
  adjustedStored here _ amount :=
    (productions_on onLine).binary here ‹_› ((productions_on onLine).stored here) amount
  inSeconds here amount :=
    (productions_on onLine).binary here (by simp) amount ((productions_on onLine).literal here)
  key here _ := (fillings_on here).keyExpr _
  keyOf value := (fillings_on (value _ .here)).keyExpr _

end Nodes

structure On (tokens : List Token) (line : Nat) (cursor : Cursor) : Prop where
  within : cursor.rest <:+ tokens
  ahead : LineAhead line cursor.rest

inductive BehindElseIf (tokens : List Token) : Nat → Cursor → Prop where
  | joined {cursor : Cursor} : cursor.rest <:+ tokens → cursor.peek.kind = .keyword .elseIf →
      BehindElseIf tokens cursor.peek.line cursor.next
  | apart {cursor : Cursor} : cursor.rest <:+ tokens → cursor.peek.kind = .keyword .otherwise →
      cursor.peekSecond.kind = .keyword .ifTrue →
      BehindElseIf tokens cursor.peek.line cursor.next.next

/-- The condition of an `else if` on a line is the expression that is read right behind it. -/
def ElseIf (tokens : List Token) (line : Nat) (condition : Expr) : Prop :=
  ∃ room cursor after, BehindElseIf tokens line cursor ∧
    (Grammar.within room).expression cursor = .ok (condition, after)

/-- The statement is what is read from one of the tokens on, which stands on the line of the
statement. -/
def Begins (tokens : List Token) (found : Statement) : Prop :=
  ∃ room cursor after, cursor.rest <:+ tokens ∧ isLineEnd cursor.peek.kind = false ∧
    cursor.peek.line = found.line ∧
    statement (Grammar.within room).expression (blockWithin room) cursor = .ok (found, after)

/-- What is known of a statement that has been read and that began with this token; `fits` is known
of its blocks. -/
structure Headed (tokens : List Token) (fits : Block → Prop) (first : Token)
    (found : Statement) : Prop where
  inside : isLineEnd first.kind = false
  line : found.line = first.line
  own : ∀ expr ∈ found.ownExpressions, NodesOn (· = first.line) expr
  elseIfs : ∀ alternative ∈ found.alternatives, ∃ line, ElseIf tokens line alternative.1
  blocks : ∀ block ∈ found.blocks, fits block

def Alternatives (tokens : List Token) (fits : Block → Prop)
    (found : List (Expr × Block)) : Prop :=
  ∀ alternative ∈ found, (∃ line, ElseIf tokens line alternative.1) ∧ fits alternative.2

section Lines

variable {tokens : List Token} {line room : Nat} {cursor : Cursor}

theorem taking_on : Taking (On tokens line) (On tokens line) (· = line) where
  take on inside := by
    rcases LineAhead.head_cases on.ahead with ⟨_, same, next⟩ | ⟨kind, _⟩ | ⟨kind | kind, _⟩
    · exact ⟨⟨Forward.next on.within, next⟩, same⟩
    all_goals
      rw [kind] at inside
      cases inside
  name on named :=
    ⟨Forward.next on.within, LineAhead.next on.ahead (LineAhead.inside on.ahead named)⟩
  still := id

theorem on_next (laid : Laid tokens) (within : cursor.rest <:+ tokens)
    (inside : isLineEnd cursor.peek.kind = false) : On tokens cursor.peek.line cursor.next := by
  have rest := rest_of_inside inside
  have ahead := laid.lined.ahead (rest ▸ within) inside
  rw [← rest] at ahead
  exact ⟨Forward.next within, LineAhead.next ahead inside⟩

theorem BehindElseIf.on (laid : Laid tokens) (behind : BehindElseIf tokens line cursor) :
    On tokens line cursor := by
  cases behind with
  | joined within kind => exact on_next laid within (by rw [kind]; rfl)
  | @apart cursor within first second =>
      have between := on_next laid within (by rw [first]; rfl)
      have inside : isLineEnd cursor.next.peek.kind = false := by
        rw [show cursor.next.peek.kind = .keyword .ifTrue from second]
        rfl
      exact (taking_on.take between inside).1

theorem expression_on {before after : Cursor → Prop} (taking : Taking before after (· = line))
    (room : Nat) : Yields before (Grammar.within room).expression fun expr cursor =>
      after cursor ∧ NodesOn (· = line) expr :=
  (@Grammar.within_builds _ _ _ (fun _ => NodesOn (· = line)) taking
    (fun _ => productions_on _) room).expression

theorem ElseIf.nodesOn (laid : Laid tokens) {condition : Expr}
    (elseIf : ElseIf tokens line condition) : NodesOn (· = line) condition := by
  obtain ⟨room, cursor, after, behind, reads⟩ := elseIf
  exact ((expression_on taking_on room).yields (behind.on laid) reads).2

end Lines

section Headers

variable {tokens : List Token} {room : Nat} {first : Token} {fits : Block → Prop}
  {block : Parser Block} (laid : Laid tokens)
  (blocks : Yields (fun cursor => cursor.rest <:+ tokens) block fun body cursor =>
    cursor.rest <:+ tokens ∧ fits body)

include blocks in
theorem headedBlock_fits : Yields (fun cursor => cursor.rest <:+ tokens) (headedBlock block)
    fun body cursor => cursor.rest <:+ tokens ∧ fits body :=
  (Forward.eat _).yields.bind fun _ => blocks

include laid

theorem advance_on (inside : isLineEnd first.kind = false) :
    Yields (Start tokens first) advance fun token cursor =>
      On tokens first.line cursor ∧ token = first := by
  refine .advance fun {cursor} start => ?_
  obtain ⟨within, rfl⟩ := start
  exact ⟨on_next laid within inside, rfl⟩

theorem condition_elseIf :
    Yields (fun cursor => ∃ line, BehindElseIf tokens line cursor) (Grammar.within room).expression
      fun condition cursor => cursor.rest <:+ tokens ∧ ∃ line, ElseIf tokens line condition where
  yields {cursor condition after} behind reads := by
    obtain ⟨line, behind⟩ := behind
    have on := ((expression_on taking_on room).yields (behind.on laid) reads).1
    exact ⟨on.within, line, room, cursor, after, behind, reads⟩

include blocks

theorem branches_fit : Yields (fun cursor => cursor.rest <:+ tokens)
    (branches (Grammar.within room).expression block) fun others cursor =>
      cursor.rest <:+ tokens ∧ Alternatives tokens fits others.1 ∧
        ∀ body ∈ others.2, fits body := by
  have bodies := headedBlock_fits blocks
  have ended {others : List (Expr × Block)} (each : Alternatives tokens fits others) :
      Alternatives tokens fits others.reverse :=
    fun alternative member => each alternative (List.mem_reverse.mp member)
  have all : Yields (fun cursor => cursor.rest <:+ tokens ∧ Alternatives tokens fits [])
      (branches (Grammar.within room).expression block) fun others cursor =>
        cursor.rest <:+ tokens ∧ Alternatives tokens fits others.1 ∧
          ∀ body ∈ others.2, fits body := by
    refine branches_yield
      (fun others cursor => cursor.rest <:+ tokens ∧ Alternatives tokens fits others)
      (fun others cursor =>
        (∃ line, BehindElseIf tokens line cursor) ∧ Alternatives tokens fits others)
      (fun others condition cursor => (cursor.rest <:+ tokens ∧
        ∃ line, ElseIf tokens line condition) ∧ Alternatives tokens fits others)
      (fun others => .assume fun each => ?_)
      (fun holds kind => ⟨⟨_, .joined holds.1 kind⟩, holds.2⟩)
      (fun holds first second => ⟨⟨_, .apart holds.1 first second⟩, holds.2⟩)
      (fun others => .assume fun each => ?_) (fun others condition => .assume fun each => ?_)
      (fun holds _ => ⟨Forward.next holds.1, holds.2⟩) (fun others => .assume fun each => ?_)
      fun holds => ⟨holds.1, ended holds.2, nofun⟩
    · exact Forward.skipNewlines.yields.imp fun within => ⟨within, each⟩
    · exact (condition_elseIf laid).imp fun behind => ⟨behind, each⟩
    · refine .assume fun elseIf => bodies.imp fun holds => ⟨holds.1, ?_⟩
      exact List.forall_mem_cons.mpr ⟨⟨elseIf, holds.2⟩, each⟩
    · exact bodies.imp fun holds => ⟨holds.1, ended each, by simpa using holds.2⟩
  exact all.of fun within => ⟨within, nofun⟩

theorem ifStatement_headed (inside : isLineEnd first.kind = false) :
    Yields (Start tokens first) (ifStatement (Grammar.within room).expression block)
      fun found cursor => cursor.rest <:+ tokens ∧ Headed tokens fits first found := by
  refine (advance_on laid inside).bind fun token => .assume ?_
  rintro rfl
  refine (expression_on taking_on room).bind fun condition => .assume fun own => ?_
  refine ((headedBlock_fits blocks).of On.within).bind fun yes => .assume fun fit => ?_
  refine (branches_fit laid blocks).bind fun others => .pure fun holds => ⟨holds.1, ?_⟩
  obtain ⟨_, alternatives, otherwise⟩ := holds
  refine ⟨inside, rfl, ?_, fun alternative member => (alternatives alternative member).1, ?_⟩
  · simpa [Statement.ownExpressions] using own
  · intro body member
    rcases List.mem_cons.mp member with rfl | member
    · exact fit
    · rcases List.mem_append.mp member with later | last
      · obtain ⟨alternative, among, rfl⟩ := List.mem_map.mp later
        exact (alternatives alternative among).2
      · exact otherwise body (Option.mem_toList.mp last)

theorem whileStatement_headed (inside : isLineEnd first.kind = false) :
    Yields (Start tokens first)
      (whileStatement first.line (Grammar.within room).expression block)
      fun found cursor => cursor.rest <:+ tokens ∧ Headed tokens fits first found := by
  refine (advance_on laid inside).bind fun _ => .assume fun _ => ?_
  refine (expression_on taking_on room).bind fun condition => .assume fun own => ?_
  refine ((headedBlock_fits blocks).of On.within).bind fun body => .pure fun holds => ⟨holds.1, ?_⟩
  exact ⟨inside, rfl, List.forall_mem_singleton.mpr own, nofun,
    List.forall_mem_singleton.mpr holds.2⟩

theorem repeatStatement_headed (inside : isLineEnd first.kind = false) :
    Yields (Start tokens first)
      (repeatStatement first.line (Grammar.within room).expression block)
      fun found cursor => cursor.rest <:+ tokens ∧ Headed tokens fits first found := by
  refine (advance_on laid inside).bind fun _ => .assume fun _ => ?_
  refine (expression_on taking_on room).bind fun count => .assume fun own => ?_
  refine (taking_on.eat rfl).bind fun _ => ?_
  refine ((headedBlock_fits blocks).of On.within).bind fun body => .pure fun holds => ⟨holds.1, ?_⟩
  exact ⟨inside, rfl, List.forall_mem_singleton.mpr own, nofun,
    List.forall_mem_singleton.mpr holds.2⟩

theorem forStatement_headed (inside : isLineEnd first.kind = false) :
    Yields (Start tokens first) (forStatement (Grammar.within room).expression block)
      fun found cursor => cursor.rest <:+ tokens ∧ Headed tokens fits first found := by
  refine (advance_on laid inside).bind fun token => .assume ?_
  rintro rfl
  have rest (name : String) : Yields (On tokens token.line) (do
      expect (.keyword .inside) "'in'"
      let subject ← (Grammar.within room).expression
      let body ← headedBlock block
      return .forLoop token.line name subject body : Parser Statement)
      fun found cursor => cursor.rest <:+ tokens ∧ Headed tokens fits token found := by
    refine (taking_on.expect rfl).bind fun _ => ?_
    refine (expression_on taking_on room).bind fun subject => .assume fun own => ?_
    refine ((headedBlock_fits blocks).of On.within).bind fun body => .pure fun holds =>
      ⟨holds.1, ?_⟩
    exact ⟨inside, rfl, List.forall_mem_singleton.mpr own, nofun,
      List.forall_mem_singleton.mpr holds.2⟩
  refine Yields.peek.bind fun named => ?_
  split
  · rename_i kind
    refine (taking_on.advance_peeked (by rw [kind]; rfl)).bind fun _ => ?_
    exact Yields.bind (.pure And.left) rest
  · exact (taking_on.expectName.of And.left).bind rest

omit blocks in
theorem simple_headed : Yields (Start tokens first) (do
    let result ← simpleStatement first.line (Grammar.within room).expression
    endStatement
    return result) fun found cursor => cursor.rest <:+ tokens ∧ Headed tokens fits first found := by
  -- as the first token may be taken anywhere in the statement, it is not known to be inside a line
  -- before the statement has been read
  have begins : Taking
      (fun cursor => Start tokens first cursor ∨
        isLineEnd first.kind = false ∧ On tokens first.line cursor)
      (fun cursor => isLineEnd first.kind = false ∧ On tokens first.line cursor)
      (· = first.line) := by
    refine ⟨?_, ?_, .inr⟩
    · rintro cursor (⟨within, rfl⟩ | ⟨inside, on⟩) inner
      · exact ⟨⟨inner, on_next laid within inner⟩, rfl⟩
      · obtain ⟨next, same⟩ := taking_on.take on inner
        exact ⟨⟨inside, next⟩, same⟩
    · rintro cursor name (start | ⟨inside, on⟩) named
      · have inner := start.inside laid named
        obtain ⟨within, rfl⟩ := start
        exact ⟨inner, on_next laid within inner⟩
      · exact ⟨inside, taking_on.name on named⟩
  have simple := simpleStatement_builds begins rfl (heads_on _) (expression_on begins room)
  refine Yields.of (simple.bind fun found => .assume fun built => ?_) .inl
  refine Yields.of (.assume fun inside => ?_) fun holds => ⟨holds.2.within, holds.1⟩
  refine endStatement_forward.yields.bind fun _ => .pure fun within => ⟨within, ?_⟩
  have none := Statement.alternatives_of_bare built.bare
  refine ⟨inside, built.line, fun expr member => built.heads expr ?_, by simp [none],
    by simp [built.bare]⟩
  rw [Statement.expressions_eq]
  exact List.mem_append_left _ member

theorem statement_headed :
    Yields (Start tokens first) (statement (Grammar.within room).expression block)
      fun found cursor => cursor.rest <:+ tokens ∧ Headed tokens fits first found := by
  refine Yields.peek.bind fun own => Yields.of (.assume fun same => ?_)
    fun holds => ⟨holds.1, holds.1.peek.symm.trans holds.2⟩
  subst same
  have simple := @simple_headed tokens room first fits laid
  refine Yields.peek.bind fun again => Yields.of (.assume fun same => ?_)
    fun holds => ⟨holds.1, holds.1.peek.symm.trans holds.2⟩
  subst same
  split
  · rename_i kind
    exact ifStatement_headed laid blocks (by rw [kind]; rfl)
  · rename_i kind
    exact whileStatement_headed laid blocks (by rw [kind]; rfl)
  · rename_i kind
    exact forStatement_headed laid blocks (by rw [kind]; rfl)
  · rename_i kind
    refine (beginsStatement_stays _).bind fun begins => (lineContains_stays _).bind fun colon => ?_
    exact .ite (fun _ => repeatStatement_headed laid blocks (by rw [kind]; rfl)) fun _ => simple
  · exact simple

end Headers

/-- The headers of a statement stand where they were read, on lines up to the last one, and so does
all that is in them. -/
structure Located (tokens : List Token) (last : Nat) (found : Statement) : Prop where
  begins : Begins tokens found
  range : 1 ≤ found.line ∧ found.line ≤ last
  own : ∀ expr ∈ found.ownExpressions, NodesOn (· = found.line) expr
  elseIfs : ∀ alternative ∈ found.alternatives, ∃ line, ElseIf tokens line alternative.1 ∧
    (1 ≤ line ∧ line ≤ last) ∧ NodesOn (· = line) alternative.1

def BlockLocated (tokens : List Token) (last : Nat) (body : Block) : Prop :=
  ∀ around, ∀ entry ∈ Statement.blockOutline around body, Located tokens last entry.2

section Rows

variable {tokens : List Token} {last : Nat} (laid : Laid tokens)
  (spans : ∀ token ∈ tokens, 1 ≤ token.line ∧ token.line ≤ last)

include spans in
theorem peek_range {cursor : Cursor} (within : cursor.rest <:+ tokens)
    (inside : isLineEnd cursor.peek.kind = false) :
    1 ≤ cursor.peek.line ∧ cursor.peek.line ≤ last := by
  refine spans _ (within.subset ?_)
  rw [rest_of_inside inside]
  exact List.mem_cons_self

include spans in
theorem ElseIf.range {line : Nat} {condition : Expr} (elseIf : ElseIf tokens line condition) :
    1 ≤ line ∧ line ≤ last := by
  obtain ⟨room, cursor, after, behind, _⟩ := elseIf
  cases behind with
  | joined within kind => exact peek_range spans within (by rw [kind]; rfl)
  | apart within first _ => exact peek_range spans within (by rw [first]; rfl)

include laid spans

theorem statement_located {room : Nat}
    (blocks : Yields (fun cursor => cursor.rest <:+ tokens) (blockWithin room) fun body cursor =>
      cursor.rest <:+ tokens ∧ BlockLocated tokens last body) :
    Yields (fun cursor => cursor.rest <:+ tokens)
      (statement (Grammar.within room).expression (blockWithin room)) fun found cursor =>
        cursor.rest <:+ tokens ∧
          ∀ around, ∀ entry ∈ found.outline around, Located tokens last entry.2 where
  yields {cursor found after} within reads := by
    obtain ⟨later, headed⟩ := (statement_headed laid blocks).yields ⟨within, rfl⟩ reads
    refine ⟨later, fun around entry member => ?_⟩
    rw [Statement.outline_eq] at member
    rcases List.mem_cons.mp member with rfl | inside
    · have line := headed.line
      refine ⟨⟨room, cursor, after, within, headed.inside, line.symm, reads⟩, ?_, ?_, ?_⟩
      · exact line ▸ peek_range spans within headed.inside
      · exact line ▸ headed.own
      · intro alternative among
        obtain ⟨mark, elseIf⟩ := headed.elseIfs alternative among
        exact ⟨mark, elseIf, elseIf.range spans, elseIf.nodesOn laid⟩
    · obtain ⟨block, among, inner⟩ := List.mem_flatMap.mp inside
      exact headed.blocks block among _ entry inner

omit laid spans in
theorem blockStatements_located {parser : Parser Statement}
    (reads : Yields (fun cursor => cursor.rest <:+ tokens) parser fun found cursor =>
      cursor.rest <:+ tokens ∧
        ∀ around, ∀ entry ∈ found.outline around, Located tokens last entry.2) :
    Yields (fun cursor => cursor.rest <:+ tokens) (blockStatements parser) fun found cursor =>
      cursor.rest <:+ tokens ∧ ∀ one ∈ found, ∀ around, ∀ entry ∈ one.outline around,
        Located tokens last entry.2 := by
  refine Yields.of (Yields.loop (fun found cursor => cursor.rest <:+ tokens ∧
    ∀ one ∈ found, ∀ around, ∀ entry ∈ one.outline around, Located tokens last entry.2)
    (fun found => .assume fun each => ?_) []) fun within => ⟨within, nofun⟩
  refine Forward.skipNewlines.yields.bind fun _ => Yields.peek.bind fun token => .ite ?_ ?_
  · exact fun _ => .pure fun holds =>
      ⟨holds.1, fun one member => each one (List.mem_reverse.mp member)⟩
  · intro _
    refine (reads.of And.left).bind fun one => .pure fun holds => ⟨holds.1, ?_⟩
    exact List.forall_mem_cons.mpr ⟨holds.2, each⟩

omit laid spans in
theorem blockOf_located {parser : Option (Parser Statement)}
    (reads : ∀ one ∈ parser, Yields (fun cursor => cursor.rest <:+ tokens) one fun found cursor =>
      cursor.rest <:+ tokens ∧
        ∀ around, ∀ entry ∈ found.outline around, Located tokens last entry.2) :
    Yields (fun cursor => cursor.rest <:+ tokens) (blockOf parser) fun body cursor =>
      cursor.rest <:+ tokens ∧ BlockLocated tokens last body := by
  refine Yields.peek.bind fun token => Yields.of ?_ And.left
  refine Forward.skipNewlines.yields.bind fun _ => ?_
  refine (Forward.eat .indent).yields.bind fun eaten => .ite (fun _ => ?_) fun _ =>
    .pure fun within => ⟨within, ?_⟩
  · cases parser with
    | none => exact .fail _
    | some one =>
        refine (blockStatements_located (reads one rfl)).bind fun found => .assume fun each => ?_
        refine (Forward.eat .dedent).yields.bind fun _ => .pure fun within => ⟨within, ?_⟩
        intro around entry member
        rw [Statement.blockOutline, Statement.rowOutline_eq] at member
        obtain ⟨own, among, inner⟩ := List.mem_flatMap.mp member
        exact each own among around entry inner
  · intro around entry member
    rw [Statement.blockOutline, Statement.rowOutline] at member
    exact absurd member List.not_mem_nil

theorem blockWithin_located (room : Nat) :
    Yields (fun cursor => cursor.rest <:+ tokens) (blockWithin room) fun body cursor =>
      cursor.rest <:+ tokens ∧ BlockLocated tokens last body := by
  induction room with
  | zero => exact blockOf_located nofun
  | succ room ih =>
      refine blockOf_located ?_
      rintro parser ⟨⟩
      exact statement_located laid spans ih

theorem item_located : Yields (fun cursor => cursor.rest <:+ tokens) item fun found cursor =>
    cursor.rest <:+ tokens ∧ ∀ entry ∈ itemOutline found, Located tokens last entry.2 := by
  have bodies : Yields (fun cursor => cursor.rest <:+ tokens) body fun body cursor =>
      cursor.rest <:+ tokens ∧ BlockLocated tokens last body :=
    headedBlock_fits (blockWithin_located laid spans nestingLimit)
  refine Yields.peek.bind fun token => Yields.of ?_ And.left
  split
  · refine Yields.bind ?_ fun handler => .pure id
    refine Forward.advance.yields.bind fun token => ?_
    refine (Keeps.loop (fun words => ?_) []).yields.bind fun words => .ite (fun _ => .fail _) ?_
    · refine Keeps.peek.bind fun next => ?_
      split
      · exact .pure _
      · exact .pure _
      · exact .pure _
      · exact Forward.advance.bind fun _ => .pure _
    · exact fun _ => bodies.bind fun block => .pure fun holds => ⟨holds.1, holds.2 1⟩
  · refine Yields.bind ?_ fun described => .pure id
    refine Forward.advance.yields.bind fun token => ?_
    refine (Forward.expectName _).yields.bind fun name => ?_
    refine parameters_forward.yields.bind fun names => ?_
    refine (Keeps.loop describeStep_forward _).yields.bind fun head => ?_
    exact bodies.bind fun block => .pure fun holds => ⟨holds.1, holds.2 1⟩
  · refine Yields.bind ?_ fun defined => .pure id
    refine Forward.advance.yields.bind fun token => ?_
    refine (Forward.expectName _).yields.bind fun name => ?_
    refine parameters_forward.yields.bind fun names => ?_
    exact bodies.bind fun block => .pure fun holds => ⟨holds.1, holds.2 1⟩
  · refine (statement_located laid spans (blockWithin_located laid spans nestingLimit)).bind ?_
    exact fun found => .pure fun holds => ⟨holds.1, holds.2 0⟩

theorem items_located : Yields (fun cursor => cursor.rest <:+ tokens) items fun found cursor =>
    cursor.rest <:+ tokens ∧ ∀ one ∈ found, ∀ entry ∈ itemOutline one,
      Located tokens last entry.2 := by
  refine Yields.of (Yields.loop (fun found cursor => cursor.rest <:+ tokens ∧
    ∀ one ∈ found, ∀ entry ∈ itemOutline one, Located tokens last entry.2)
    (fun found => .assume fun each => ?_) []) fun within => ⟨within, nofun⟩
  refine Forward.skipNewlines.yields.bind fun _ => Yields.peek.bind fun token => .ite ?_ ?_
  · exact fun _ => .pure fun holds =>
      ⟨holds.1, fun one member => each one (List.mem_reverse.mp member)⟩
  · intro _
    refine ((item_located laid spans).of And.left).bind fun one => .pure fun holds => ⟨holds.1, ?_⟩
    exact List.forall_mem_cons.mpr ⟨holds.2, each⟩

end Rows

/-- Each header of a program stands where it was read, and so does all that is in it. -/
theorem parse_located {source : String} {program : Program} (parsed : parse source = .ok program) :
    ∃ tokens, Token.scan source = .ok tokens ∧
      ∀ entry ∈ outline program, Located tokens (Token.lastLine source) entry.2 := by
  obtain ⟨tokens, cursor, scanned, reads⟩ := parse_reads parsed
  have spans := Token.scan_spans source
  rw [scanned] at spans
  refine ⟨tokens, scanned, fun entry member => ?_⟩
  obtain ⟨item, among, inner⟩ := List.mem_flatMap.mp member
  have each := (items_located (laid_of_scan scanned) spans).yields (List.suffix_refl tokens) reads
  exact each.2 item among entry inner

end Program

end EventScript
