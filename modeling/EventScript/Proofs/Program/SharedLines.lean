import EventScript.Proofs.Program.Heads

/-!
Which statements may begin on one line. A statement without blocks ends with its line, and a block
that is not empty ends on a later line than its head. Only behind empty blocks the parser is still
on the line of the head.
-/

namespace EventScript.Program

open EventScript.Program.Parser
open EventScript.Token (LineAhead Lined)

structure Laid (tokens : List Token) : Prop where
  lined : Lined 1 tokens
  unnamed : ∀ token ∈ tokens, isLineEnd token.kind = true → nameOf? token = none

theorem Laid.of_suffix {tokens rest : List Token} (laid : Laid tokens) (suffix : rest <:+ tokens) :
    Laid rest :=
  ⟨Lined.of_suffix laid.lined suffix, fun token member => laid.unnamed token (suffix.subset member)⟩

def Head.Left (head : Head) (tokens : List Token) : Prop :=
  Beyond head.line tokens ∨ head.IsBare ∧ LineAhead head.line tokens

/-- The parser has read blocks that belong to a head on the line. -/
structure BlocksRead (tokens : List Token) (line : Nat) (blocks : List Block) (cursor : Cursor) :
    Prop where
  here : Here tokens line cursor
  beyond : (∃ block ∈ blocks, block.statements ≠ []) → Beyond line cursor.rest
  settled : Head.Settled ⟨line, blocks⟩

structure Begun (tokens : List Token) (first : Token) (head : Head) (cursor : Cursor) : Prop where
  inside : isLineEnd first.kind = false
  line : head.line = first.line
  within : cursor.rest <:+ tokens
  left : head.Left cursor.rest
  settled : head.Settled

structure Start (tokens : List Token) (first : Token) (cursor : Cursor) : Prop where
  within : cursor.rest <:+ tokens
  peek : cursor.peek = first

section Steps

variable {tokens : List Token} {line : Nat} {first : Token} {cursor : Cursor} {found : List Block}
  {head : Head}

theorem Start.begin (laid : Laid tokens) (start : Start tokens first cursor)
    (inside : isLineEnd first.kind = false) : Here tokens first.line cursor.next := by
  have inner : isLineEnd cursor.peek.kind = false := by rwa [start.peek]
  have rest := rest_of_inside inner
  rw [start.peek] at rest
  have ahead := laid.lined.ahead (rest ▸ start.within) inside
  rw [← rest] at ahead
  exact ⟨Forward.next start.within, .inl (LineAhead.next ahead inner)⟩

theorem Start.inside {name : String} (laid : Laid tokens) (start : Start tokens first cursor)
    (named : nameOf? cursor.peek = some name) : isLineEnd first.kind = false := by
  rw [← start.peek]
  obtain ⟨rest, endLine⟩ := cursor
  cases rest with
  | nil => cases named
  | cons token rest =>
      cases ends : isLineEnd token.kind with
      | false => exact ends
      | true =>
          have unnamed := laid.unnamed token (start.within.subset List.mem_cons_self) ends
          rw [show nameOf? token = some name from named] at unnamed
          cases unnamed

theorem BlocksRead.none (here : Here tokens line cursor) : BlocksRead tokens line [] cursor where
  here := here
  beyond filled := by
    obtain ⟨block, member, _⟩ := filled
    cases member
  settled := .empty (by simp)

theorem BlocksRead.move {later : Cursor} (read : BlocksRead tokens line found cursor)
    (here : Here tokens line later) (suffix : later.rest <:+ cursor.rest) :
    BlocksRead tokens line found later :=
  ⟨here, fun filled => (read.beyond filled).of_suffix suffix, read.settled⟩

theorem taking_blocks : Taking (BlocksRead tokens line found) (BlocksRead tokens line found)
    fun _ => True where
  take read inside := ⟨read.move (read.here.take inside) (List.tail_suffix _), trivial⟩
  name read named := read.move (read.here.name named) (List.tail_suffix _)
  still := id

theorem skipNewlines_here : Yields (Here tokens line) skipNewlines fun _ => Here tokens line := by
  refine .loop (fun _ => Here tokens line) (fun _ => ?_) ()
  refine .eat_bind (fun here kind => ?_) (fun here _ => here) (.pure id) (.pure id)
  exact ⟨Forward.next here.within, .inr (here.newline kind)⟩

theorem skipNewlines_blocks :
    Yields (BlocksRead tokens line found) skipNewlines fun _ => BlocksRead tokens line found where
  yields read ends := read.move (skipNewlines_here.yields read.here ends)
    (Forward.skipNewlines.kept (List.suffix_refl _) ends)

theorem BlocksRead.begun (read : BlocksRead tokens first.line found cursor) (some : found ≠ [])
    (inside : isLineEnd first.kind = false) : Begun tokens first ⟨first.line, found⟩ cursor where
  inside := inside
  line := rfl
  within := read.here.within
  left := by
    by_cases filled : ∃ block ∈ found, block.statements ≠ []
    · exact .inl (read.beyond filled)
    · rcases read.here.ahead with ahead | beyond
      · refine .inr ⟨⟨some, fun block member => ?_⟩, ahead⟩
        by_contra content
        exact filled ⟨block, member, content⟩
      · exact .inl beyond
  settled := read.settled

end Steps

def ReadsBlock (block : Parser Block) : Prop :=
  ∀ {tokens line}, Laid tokens →
    Yields (Here tokens line) block fun body => BlocksRead tokens line [body]

def ReadsStatement (statement : Parser Statement) : Prop :=
  ∀ {tokens first}, Laid tokens →
    Yields (Start tokens first) statement fun result => Begun tokens first result.head

section Compound

variable {tokens : List Token} {line : Nat} {first : Token} {found : List Block}
  {expression : Parser Expr} {block : Parser Block} (laid : Laid tokens)
  (expressions : ∀ {before after : Cursor → Prop}, Taking before after (fun _ => True) →
    Yields before expression fun _ => after)
  (blocks : ReadsBlock block)

include laid

theorem advance_begun (inside : isLineEnd first.kind = false) :
    Yields (Start tokens first) advance fun token cursor =>
      BlocksRead tokens first.line [] cursor ∧ token = first := by
  refine .advance fun {cursor} start => ⟨.none (start.begin laid inside), start.peek⟩

include blocks

theorem block_reads : Yields (BlocksRead tokens line found) block
    fun body => BlocksRead tokens line (found ++ [body]) where
  yields {cursor body after} read ends := by
    have start : Here cursor.rest line cursor := ⟨List.suffix_refl _, read.here.ahead⟩
    have own := (blocks (laid.of_suffix read.here.within)).yields start ends
    refine ⟨⟨own.here.within.trans read.here.within, own.here.ahead⟩, ?_, ?_, ?_⟩
    · rintro ⟨one, member, filled⟩
      rcases List.mem_append.mp member with before | last
      · exact (read.beyond ⟨one, before, filled⟩).of_suffix own.here.within
      · exact own.beyond ⟨one, last, filled⟩
    · intro one member
      exact (List.mem_append.mp member).elim (read.settled.orderly one) (own.settled.orderly one)
    · intro around one member
      exact (List.mem_append.mp member).elim (read.settled.inner around one)
        (own.settled.inner around one)

theorem headedBlock_reads : Yields (BlocksRead tokens line found) (headedBlock block)
    fun body => BlocksRead tokens line (found ++ [body]) :=
  (taking_blocks.eat rfl).bind fun _ => block_reads laid blocks

include expressions

theorem branches_read : Yields (BlocksRead tokens line found) (branches expression block)
    fun others => BlocksRead tokens line
      (found ++ (others.1.map Prod.snd ++ others.2.toList)) := by
  have one (others : List (Expr × Block)) := @headedBlock_reads _ line
    (found ++ others.reverse.map Prod.snd) _ laid blocks
  have all :
      Yields (BlocksRead tokens line (found ++ ([] : List (Expr × Block)).reverse.map Prod.snd))
      (branches expression block) fun others => BlocksRead tokens line
        (found ++ (others.1.map Prod.snd ++ others.2.toList)) := by
    refine branches_take (fun others => BlocksRead tokens line
      (found ++ others.reverse.map Prod.snd)) (fun _ => taking_blocks)
      (fun _ => skipNewlines_blocks) (fun _ => expressions taking_blocks)
      (fun others condition => ?_)
      (fun others => ?_) fun read => by simpa using read
    · exact (one others).imp fun read => by simpa using read
    · exact (one others).imp fun read => by simpa using read
  exact all.of fun read => by simpa using read

theorem ifStatement_begins (inside : isLineEnd first.kind = false) :
    Yields (Start tokens first) (ifStatement expression block)
      fun statement => Begun tokens first statement.head := by
  refine (advance_begun laid inside).bind fun token => .assume ?_
  rintro rfl
  refine (expressions taking_blocks).bind fun condition => ?_
  refine (headedBlock_reads laid blocks).bind fun yes => ?_
  refine (branches_read laid expressions blocks).bind fun others => .pure fun read => ?_
  exact read.begun (by simp) inside

theorem whileStatement_begins (inside : isLineEnd first.kind = false) :
    Yields (Start tokens first) (whileStatement first.line expression block)
      fun statement => Begun tokens first statement.head := by
  refine (advance_begun laid inside).bind fun _ => .assume fun _ => ?_
  refine (expressions taking_blocks).bind fun condition => ?_
  refine (headedBlock_reads laid blocks).bind fun body => .pure fun read => ?_
  exact read.begun (by simp) inside

theorem repeatStatement_begins (inside : isLineEnd first.kind = false) :
    Yields (Start tokens first) (repeatStatement first.line expression block)
      fun statement => Begun tokens first statement.head := by
  refine (advance_begun laid inside).bind fun _ => .assume fun _ => ?_
  refine (expressions taking_blocks).bind fun count => (taking_blocks.eat rfl).bind fun _ => ?_
  refine (headedBlock_reads laid blocks).bind fun body => .pure fun read => ?_
  exact read.begun (by simp) inside

theorem forStatement_begins (inside : isLineEnd first.kind = false) :
    Yields (Start tokens first) (forStatement expression block)
      fun statement => Begun tokens first statement.head := by
  refine (advance_begun laid inside).bind fun token => .assume ?_
  rintro rfl
  have rest (name : String) : Yields (BlocksRead tokens token.line []) (do
      expect (.keyword .inside) "'in'"
      let subject ← expression
      let body ← headedBlock block
      return .forLoop token.line name subject body : Parser Statement)
      fun statement => Begun tokens token statement.head := by
    refine (taking_blocks.expect rfl).bind fun _ => (expressions taking_blocks).bind fun _ => ?_
    refine (headedBlock_reads laid blocks).bind fun body => .pure fun read => ?_
    exact read.begun (by simp) inside
  refine Yields.peek.bind fun named => ?_
  split
  · rename_i kind
    refine (taking_blocks.advance_peeked (by rw [kind]; rfl)).bind fun _ => ?_
    exact Yields.bind (.pure And.left) rest
  · exact (taking_blocks.expectName.of And.left).bind rest

omit blocks in
theorem simple_begins (first : Token) : Yields (Start tokens first) (do
    let result ← simpleStatement first.line expression
    endStatement
    return result) fun statement => Begun tokens first statement.head := by
  have begins : Taking
      (fun cursor => Start tokens first cursor ∨
        isLineEnd first.kind = false ∧ Here tokens first.line cursor)
      (fun cursor => isLineEnd first.kind = false ∧ Here tokens first.line cursor)
      fun _ => True := by
    refine ⟨?_, ?_, .inr⟩
    · rintro cursor (start | ⟨inside, here⟩) inner
      · rw [start.peek] at inner
        exact ⟨⟨inner, start.begin laid inner⟩, trivial⟩
      · exact ⟨⟨inside, here.take inner⟩, trivial⟩
    · rintro cursor name (start | ⟨inside, here⟩) named
      · have inner := start.inside laid named
        exact ⟨inner, start.begin laid inner⟩
      · exact ⟨inside, here.name named⟩
  have values : Yields _ expression fun _ cursor =>
      (isLineEnd first.kind = false ∧ Here tokens first.line cursor) ∧ True :=
    (expressions begins).imp fun holds => ⟨holds, trivial⟩
  refine Yields.of (Yields.bind (simpleStatement_builds begins trivial (.free _) values)
    fun statement => .assume fun built => ?_) .inl
  have ended : Yields (fun cursor => isLineEnd first.kind = false ∧ Here tokens first.line cursor)
      endStatement fun _ cursor => isLineEnd first.kind = false ∧ cursor.rest <:+ tokens ∧
        Beyond first.line cursor.rest := by
    refine Yields.peek.bind fun token => ?_
    split
    · rename_i kind
      refine Yields.bind (.advance ?_) fun _ => .pure id
      rintro cursor ⟨⟨inside, here⟩, rfl⟩
      exact ⟨inside, Forward.next here.within, here.newline kind⟩
    · rename_i kind
      refine .pure ?_
      rintro cursor ⟨⟨inside, here⟩, rfl⟩
      exact ⟨inside, here.within, here.closed (.inl kind)⟩
    · rename_i kind
      refine .pure ?_
      rintro cursor ⟨⟨inside, here⟩, rfl⟩
      exact ⟨inside, here.within, here.closed (.inr kind)⟩
    · exact .expected _
  refine ended.bind fun _ => .pure fun {cursor} holds => ?_
  have empty : ∀ block ∈ statement.blocks, block.statements = [] := by simp [built.bare]
  refine ⟨holds.1, built.line, holds.2.1, .inl ?_, .empty empty⟩
  rw [Statement.head, built.line]
  exact holds.2.2

theorem statement_begins : Yields (Start tokens first) (statement expression block)
    fun statement => Begun tokens first statement.head := by
  refine Yields.peek.bind fun own => Yields.of (.assume fun same => ?_)
    fun holds => ⟨holds.1, holds.1.peek.symm.trans holds.2⟩
  subst same
  have simple := simple_begins laid expressions first
  refine Yields.peek.bind fun again => Yields.of (.assume fun same => ?_)
    fun holds => ⟨holds.1, holds.1.peek.symm.trans holds.2⟩
  subst same
  split
  · rename_i kind
    exact ifStatement_begins laid expressions blocks (by rw [kind]; rfl)
  · rename_i kind
    exact whileStatement_begins laid expressions blocks (by rw [kind]; rfl)
  · rename_i kind
    exact forStatement_begins laid expressions blocks (by rw [kind]; rfl)
  · rename_i kind
    refine (beginsStatement_stays _).bind fun begins => (lineContains_stays _).bind fun colon => ?_
    exact .ite (fun _ => repeatStatement_begins laid expressions blocks (by rw [kind]; rfl))
      fun _ => simple
  · exact simple

end Compound

structure Ordered (tokens : List Token) (found : List Head) (cursor : Cursor) : Prop where
  within : cursor.rest <:+ tokens
  left : ∀ head ∈ found, head.Left cursor.rest
  ordered : found.Pairwise Head.Precedes

section Rows

variable {tokens : List Token} {line : Nat} {head : Head} {found : List Head} {cursor : Cursor}

theorem Ordered.none (within : cursor.rest <:+ tokens) : Ordered tokens [] cursor :=
  ⟨within, nofun, .nil⟩

theorem Head.Left.newline (left : head.Left cursor.rest) (kind : cursor.peek.kind = .newline) :
    Beyond head.line cursor.next.rest := by
  have here : Here cursor.rest head.line cursor := by
    refine ⟨List.suffix_refl _, ?_⟩
    rcases left with beyond | ⟨_, ahead⟩
    · exact .inr beyond
    · exact .inl ahead
  exact here.newline kind

theorem Head.Left.precedes {next : Head} (left : head.Left cursor.rest)
    (inside : isLineEnd cursor.peek.kind = false) (begins : next.line = cursor.peek.line) :
    head.Precedes next := by
  rcases left with beyond | ⟨bare, ahead⟩
  · left
    rw [begins]
    refine beyond _ ?_ inside
    rw [rest_of_inside inside]
    exact List.mem_cons_self
  · rcases LineAhead.head_cases ahead with ⟨_, same, _⟩ | ⟨kind, _⟩ | ⟨kind | kind, _⟩
    · exact .inr ⟨same.symm.trans begins.symm, bare⟩
    all_goals
      rw [kind] at inside
      cases inside

theorem skipNewlines_ordered :
    Yields (Ordered tokens found) skipNewlines fun _ => Ordered tokens found := by
  refine .loop (fun _ => Ordered tokens found) (fun _ => ?_) ()
  refine .eat_bind (fun {cursor} row kind => ?_) (fun row _ => row) (.pure id) (.pure id)
  exact ⟨Forward.next row.within, fun head member => .inl ((row.left head member).newline kind),
    row.ordered⟩

theorem Ordered.snoc {later : Cursor} (row : Ordered tokens found cursor)
    (begun : Begun cursor.rest cursor.peek head later) :
    Ordered tokens (found ++ [head]) later where
  within := begun.within.trans row.within
  ordered := by
    refine List.pairwise_append.mpr ⟨row.ordered, List.pairwise_singleton _ _, ?_⟩
    intro earlier member last own
    rw [List.mem_singleton.mp own]
    exact (row.left earlier member).precedes begun.inside begun.line
  left earlier member := by
    rcases List.mem_append.mp member with before | own
    · rcases row.left earlier before with beyond | ⟨bare, ahead⟩
      · exact .inl (beyond.of_suffix begun.within)
      · -- both stand on one line, so what is left of it is the same for both
        have same : head.line = earlier.line := by
          rcases LineAhead.head_cases ahead with ⟨_, same, _⟩ | ⟨kind, _⟩ | ⟨kind | kind, _⟩
          · exact begun.line.trans same
          all_goals
            have inside := begun.inside
            rw [kind] at inside
            cases inside
        rcases begun.left with beyond | ⟨_, still⟩
        · exact .inl (same ▸ beyond)
        · exact .inr ⟨bare, same ▸ still⟩
    · rw [List.mem_singleton.mp own]
      exact begun.left

theorem blockStatements_ordered {statement : Parser Statement} (laid : Laid tokens)
    (below : Beyond line tokens) (reads : ReadsStatement statement) :
    Yields (fun cursor => cursor.rest <:+ tokens) (blockStatements statement) fun found cursor =>
      Ordered tokens (found.map Statement.head) cursor ∧
        ∀ one ∈ found, line < one.line ∧ one.head.Settled := by
  refine Yields.of (Yields.loop (fun found cursor =>
    Ordered tokens (found.reverse.map Statement.head) cursor ∧
      ∀ one ∈ found, line < one.line ∧ one.head.Settled) (fun found => .assume fun each => ?_) [])
    fun within => ⟨.none within, nofun⟩
  refine skipNewlines_ordered.bind fun _ => Yields.peek.bind fun token => .ite (fun _ => ?_) ?_
  · refine .pure fun holds => ⟨holds.1, fun one member => ?_⟩
    exact each one (List.mem_reverse.mp member)
  · intro _
    have next : Yields (fun cursor => Ordered tokens (found.reverse.map Statement.head) cursor ∧
        cursor.peek = token) statement fun one cursor =>
          Ordered tokens ((one :: found).reverse.map Statement.head) cursor ∧
            line < one.line ∧ one.head.Settled := by
      constructor
      rintro cursor one after ⟨row, rfl⟩ ends
      have begun := (reads (laid.of_suffix row.within)).yields
        ⟨List.suffix_refl _, rfl⟩ ends
      have here : cursor.peek ∈ tokens := by
        refine row.within.subset ?_
        rw [rest_of_inside begun.inside]
        exact List.mem_cons_self
      refine ⟨?_, ?_, begun.settled⟩
      · rw [List.reverse_cons, List.map_append, List.map_singleton]
        exact row.snoc begun
      · rw [show one.line = cursor.peek.line from begun.line]
        exact below _ here begun.inside
    refine next.bind fun one => .pure fun holds => ⟨holds.1, ?_⟩
    exact List.forall_mem_cons.mpr ⟨holds.2, each⟩

theorem blockOf_reads {statement : Option (Parser Statement)}
    (statements : ∀ parser ∈ statement, ReadsStatement parser) :
    ReadsBlock (blockOf statement) := by
  intro tokens line laid
  refine Yields.peek.bind fun token => (skipNewlines_here.of And.left).bind fun _ => ?_
  refine .eat_bind (fun here kind => ?_) (fun here _ => here)
    (show Yields (fun cursor => cursor.rest <:+ tokens ∧ Beyond line cursor.rest) _ _ from ?_)
    (.pure fun here => ?_)
  · exact ⟨Forward.next here.within, (here.indent kind).of_suffix (List.tail_suffix _)⟩
  · cases statement with
    | none => exact .fail _
    | some parser =>
        constructor
        intro cursor body after start ends
        obtain ⟨found, between, listed, ends⟩ := bind_ok.mp ends
        have read := (blockStatements_ordered (laid.of_suffix start.1) start.2
          (statements parser rfl)).yields (List.suffix_refl _) listed
        obtain ⟨closed, last, taken, ends⟩ := bind_ok.mp ends
        cases ends
        have past := (Forward.eat .dedent).kept read.1.within taken
        have beyond := start.2.of_suffix past
        refine ⟨⟨past.trans start.1, .inr beyond⟩, fun _ => beyond, ?_, ?_⟩
        · intro block member
          rw [List.mem_singleton.mp member]
          exact ⟨read.1.ordered, fun one among => (read.2 one among).1⟩
        · intro around block member entry among
          rw [List.mem_singleton.mp member, Statement.blockOutline,
            Statement.rowOutline_eq] at among
          obtain ⟨one, own, inner⟩ := List.mem_flatMap.mp among
          exact (read.2 one own).2.outline around entry inner
  · have empty : ∀ block ∈ [(⟨token.line, []⟩ : Block)], block.statements = [] := by simp
    refine ⟨here, fun filled => ?_, .empty empty⟩
    obtain ⟨block, member, content⟩ := filled
    exact absurd (empty block member) content

theorem within_reads (room : Nat) {before after : Cursor → Prop}
    (taking : Taking before after fun _ => True) :
    Yields before (Grammar.within room).expression fun _ => after :=
  (@Grammar.within_builds _ _ _ (fun _ _ => True) taking (fun _ => .free _) room).expression.imp
    And.left

theorem blockWithin_reads (room : Nat) : ReadsBlock (blockWithin room) := by
  induction room with
  | zero => exact blockOf_reads (by simp)
  | succ room ih =>
      refine blockOf_reads ?_
      rintro parser ⟨⟩ tokens first laid
      exact statement_begins laid (within_reads room) ih

end Rows

theorem describeStep_line {command : Command} {cursor after : Cursor} {next : Command ⊕ Command}
    (reads : describeStep command cursor = .ok (next, after)) :
    (Sum.elim id id next).line = command.line := by
  obtain ⟨found, between, announced, reads⟩ := bind_ok.mp reads
  cases found with
  | none =>
      cases reads
      rfl
  | some metadata =>
      obtain ⟨_, _, _, reads⟩ := bind_ok.mp reads
      obtain ⟨_, _, _, reads⟩ := bind_ok.mp reads
      obtain ⟨content, _, _, reads⟩ := bind_ok.mp reads
      cases metadata <;> cases reads <;> rfl

section Items

variable {tokens : List Token} {first : Token} (laid : Laid tokens)

include laid

theorem body_read {line : Nat} {found : List Block} :
    Yields (BlocksRead tokens line found) body
      fun block => BlocksRead tokens line (found ++ [block]) :=
  headedBlock_reads laid (blockWithin_reads nestingLimit)

theorem eventHandler_begins (inside : isLineEnd first.kind = false) :
    Yields (Start tokens first) eventHandler
      fun handler => Begun tokens first ⟨handler.line, [handler.body]⟩ := by
  refine (advance_begun laid inside).bind fun token => .assume ?_
  rintro rfl
  refine Yields.bind (show Yields _ _ fun _ => BlocksRead tokens token.line [] from ?_)
    fun words => .ite (fun _ => .fail _) fun _ => ?_
  · refine .loop (fun _ => BlocksRead tokens token.line []) (fun words => ?_) []
    refine Yields.peek.bind fun next => ?_
    split
    · exact .pure And.left
    · exact .pure And.left
    · exact .pure And.left
    · rename_i _ noNewline _
      refine Yields.bind (.advance ?_) fun _ => .pure id
      rintro cursor ⟨read, rfl⟩
      exact read.move (read.here.next noNewline) (List.tail_suffix _)
  · exact (body_read laid).bind fun block => .pure fun read => read.begun (by simp) inside

theorem function_begins (inside : isLineEnd first.kind = false) :
    Yields (Start tokens first) function
      fun defined => Begun tokens first ⟨defined.line, [defined.body]⟩ := by
  refine (advance_begun laid inside).bind fun token => .assume ?_
  rintro rfl
  refine taking_blocks.expectName.bind fun name => (parameters_take taking_blocks).bind fun _ => ?_
  exact (body_read laid).bind fun block => .pure fun read => read.begun (by simp) inside

theorem command_begins (inside : isLineEnd first.kind = false) :
    Yields (Start tokens first) command
      fun described => Begun tokens first ⟨described.line, [described.body]⟩ := by
  refine (advance_begun laid inside).bind fun token => .assume ?_
  rintro rfl
  refine taking_blocks.expectName.bind fun name => (parameters_take taking_blocks).bind fun _ => ?_
  have described (head : Command) (here : head.line = token.line) :
      Yields (BlocksRead tokens token.line []) (loop describeStep head)
        fun command cursor =>
          BlocksRead tokens token.line [] cursor ∧ command.line = token.line := by
    refine Yields.of (Yields.loop (fun command cursor => BlocksRead tokens token.line [] cursor ∧
      command.line = token.line) (fun command => ⟨?_⟩) head) fun read => ⟨read, here⟩
    rintro cursor next after ⟨read, same⟩ ends
    have kept := (describeStep_takes taking_blocks command).yields read ends
    have line := describeStep_line ends
    cases next with
    | inl command => exact ⟨kept, line.trans same⟩
    | inr command => exact ⟨kept, line.trans same⟩
  refine (described _ rfl).bind fun command => .assume fun same => ?_
  refine (body_read laid).bind fun block => .pure fun read => ?_
  rw [same]
  exact read.begun (by simp) inside

theorem item_begins :
    Yields (Start tokens first) item fun item => Begun tokens first item.head := by
  refine Yields.peek.bind fun own => Yields.of (.assume fun same => ?_)
    fun holds => ⟨holds.1, holds.1.peek.symm.trans holds.2⟩
  subst same
  split
  · rename_i kind
    exact (eventHandler_begins laid (by rw [kind]; rfl)).bind fun handler => .pure id
  · rename_i kind
    exact (command_begins laid (by rw [kind]; rfl)).bind fun described => .pure id
  · rename_i kind
    exact (function_begins laid (by rw [kind]; rfl)).bind fun defined => .pure id
  · exact (statement_begins laid (within_reads nestingLimit)
      (blockWithin_reads nestingLimit)).bind fun one => .pure id

theorem items_ordered :
    Yields (fun cursor => cursor.rest <:+ tokens) items fun found cursor =>
      Ordered tokens (found.map Item.head) cursor ∧ ∀ one ∈ found, one.head.Settled := by
  refine Yields.of (Yields.loop (fun found cursor =>
    Ordered tokens (found.reverse.map Item.head) cursor ∧ ∀ one ∈ found, one.head.Settled)
    (fun found => .assume fun each => ?_) []) fun within => ⟨.none within, nofun⟩
  refine skipNewlines_ordered.bind fun _ => Yields.peek.bind fun token => .ite (fun _ => ?_) ?_
  · refine .pure fun holds => ⟨holds.1, fun one member => ?_⟩
    exact each one (List.mem_reverse.mp member)
  · intro _
    have next : Yields (fun cursor => Ordered tokens (found.reverse.map Item.head) cursor ∧
        cursor.peek = token) item fun one cursor =>
          Ordered tokens ((one :: found).reverse.map Item.head) cursor ∧ one.head.Settled := by
      constructor
      rintro cursor one after ⟨row, rfl⟩ ends
      have begun := (item_begins (laid.of_suffix row.within)).yields
        ⟨List.suffix_refl _, rfl⟩ ends
      refine ⟨?_, begun.settled⟩
      rw [List.reverse_cons, List.map_append, List.map_singleton]
      exact row.snoc begun
    refine next.bind fun one => .pure fun holds => ⟨holds.1, ?_⟩
    exact List.forall_mem_cons.mpr ⟨holds.2, each⟩

end Items

theorem layered_unnamed {heights : Nat → Nat} {row : Option Nat} {around : Nat}
    {tokens : List Token} (layered : Token.Layered heights row around tokens) :
    ∀ token ∈ tokens, isLineEnd token.kind = true → nameOf? token = none := by
  induction layered with
  | inside inner _ _ _ _ ih =>
      refine List.forall_mem_cons.mpr ⟨fun ends => ?_, ih⟩
      rw [inner] at ends
      cases ends
  | newline _ unnamed _ ih => exact List.forall_mem_cons.mpr ⟨fun _ => unnamed, ih⟩
  | indent _ unnamed _ ih => exact List.forall_mem_cons.mpr ⟨fun _ => unnamed, ih⟩
  | dedent _ unnamed _ ih => exact List.forall_mem_cons.mpr ⟨fun _ => unnamed, ih⟩
  | finish _ unnamed => exact List.forall_mem_cons.mpr ⟨fun _ => unnamed, nofun⟩

theorem laid_of_scan {source : String} {tokens : List Token}
    (scanned : Token.scan source = .ok tokens) : Laid tokens :=
  ⟨Token.scan_lined scanned, layered_unnamed (Token.scan_layered scanned)⟩

/-- What lies in a block begins below its head. Statements in a block and items of a script begin
one below the other, except behind one whose blocks are all empty: that one may share its line with
what follows it. -/
theorem heads_precede {source : String} {program : Program}
    (parsed : parse source = .ok program) :
    (program.map Item.head).Pairwise Head.Precedes ∧
      (∀ item ∈ program, item.head.Orderly) ∧
      ∀ entry ∈ outline program, entry.2.head.Orderly := by
  obtain ⟨tokens, cursor, scanned, reads⟩ := parse_reads parsed
  obtain ⟨row, each⟩ :=
    (items_ordered (laid_of_scan scanned)).yields (List.suffix_refl tokens) reads
  refine ⟨row.ordered, fun item member => (each item member).orderly, ?_⟩
  intro entry member
  obtain ⟨item, among, inner⟩ := List.mem_flatMap.mp member
  exact (each item among).itemOutline entry inner

theorem loop_shares_line :
    let source := "on go:\n    log\n    while false: log\n    if true:\n        log\n" ++
      "function f(): log\n"
    ∃ program, parse source = .ok program ∧
      program.map (fun item => (item.head.line, item.head.blocks.map fun block =>
        block.statements.map Statement.line)) =
          [(1, [[2, 3, 3, 4]]), (6, [[]]), (6, [])] ∧
      (program.map Item.head).Pairwise Head.Precedes ∧
      (∀ item ∈ program, item.head.Orderly) ∧
      ∀ entry ∈ outline program, entry.2.head.Orderly := by
  intro source
  have shape : ((parse source).toOption.map fun program =>
      program.map fun item => (item.head.line, item.head.blocks.map fun block =>
        block.statements.map Statement.line)) =
          some [(1, [[2, 3, 3, 4]]), (6, [[]]), (6, [])] := by decide +kernel
  obtain ⟨program, parsed, seen⟩ := parse_of_view shape
  exact ⟨program, parsed, seen, heads_precede parsed⟩

/-- What is guarded on its own line is read as a statement of its own behind an empty block. -/
theorem guarded_shares_line :
    ¬∀ (source : String) (program : Program), parse source = .ok program →
      (program.map fun item => item.head.line).Pairwise (· < ·) ∧
        ∀ item ∈ program, ∀ block ∈ item.head.blocks,
          (block.statements.map Statement.line).Pairwise (· < ·) := by
  intro claim
  have shape : ((parse "on t:\n    if false: send \"x\"\n").toOption.map fun program =>
      program.map fun item => item.head.blocks.map fun block =>
        block.statements.map Statement.line) = some [[[2, 2]]] := by decide +kernel
  obtain ⟨program, parsed, lines⟩ := parse_of_view shape
  have apart := (claim _ program parsed).2
  cases program with
  | nil => cases lines
  | cons item rest =>
      have own : (item.head.blocks.map fun block => block.statements.map Statement.line) =
          [[2, 2]] := (List.cons.inj lines).1
      have among : [2, 2] ∈ item.head.blocks.map fun block =>
          block.statements.map Statement.line := by
        rw [own]
        exact List.mem_cons_self
      obtain ⟨block, member, same⟩ := List.mem_map.mp among
      have increasing := apart item List.mem_cons_self block member
      rw [same] at increasing
      simp at increasing

end EventScript.Program
