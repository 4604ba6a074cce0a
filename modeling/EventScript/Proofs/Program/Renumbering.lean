import EventScript.Program.Parser
import EventScript.Proofs.Token.Silence

/-!
Programs with other numbers for their lines, and parsers that only copy these numbers. Such a parser
does on renumbered tokens what it does on the tokens as they are, and the rules below build it from
its parts.
-/

namespace EventScript

variable {place : Nat → Nat}

namespace Expr

mutual

def renumber (place : Nat → Nat) : Expr → Expr
  | .literal line value => .literal (place line) value
  | .reference line name => .reference (place line) name
  | .stored line key => .stored (place line) (renumber place key)
  | .binary line op left right =>
    .binary (place line) op (renumber place left) (renumber place right)
  | .unary line op operand => .unary (place line) op (renumber place operand)
  | .call line name arguments => .call (place line) name (renumberAll place arguments)
  | .index line target position =>
    .index (place line) (renumber place target) (renumber place position)
  | .property line target name => .property (place line) (renumber place target) name
  | .list line items => .list (place line) (renumberAll place items)
  | .map line entries => .map (place line) (renumberEntries place entries)
  | .template line parts => .template (place line) (renumberParts place parts)
  | .conditional line condition yes no =>
    .conditional (place line) (renumber place condition) (renumber place yes) (renumber place no)

def renumberAll (place : Nat → Nat) : List Expr → List Expr
  | [] => []
  | item :: items => renumber place item :: renumberAll place items

def renumberEntries (place : Nat → Nat) : List (Expr × Expr) → List (Expr × Expr)
  | [] => []
  | (key, value) :: entries =>
    (renumber place key, renumber place value) :: renumberEntries place entries

def renumberParts (place : Nat → Nat) : List TemplatePart → List TemplatePart
  | [] => []
  | .text content :: parts => .text content :: renumberParts place parts
  | .expr value :: parts => .expr (renumber place value) :: renumberParts place parts

end

theorem renumberAll_eq (items : List Expr) :
    renumberAll place items = items.map (renumber place) := by
  induction items with
  | nil => rfl
  | cons item items ih => exact congrArg (renumber place item :: ·) ih

theorem renumberEntries_eq (entries : List (Expr × Expr)) :
    renumberEntries place entries = entries.map (Prod.map (renumber place) (renumber place)) := by
  induction entries with
  | nil => rfl
  | cons entry entries ih => exact congrArg (entry.map (renumber place) (renumber place) :: ·) ih

theorem line_renumber (expr : Expr) : (expr.renumber place).line = place expr.line := by
  cases expr <;> rfl

theorem renumber_call (line : Nat) (name : String) (arguments : List Expr) :
    (call line name arguments).renumber place =
      call (place line) name (arguments.map (renumber place)) :=
  congrArg (call (place line) name) (renumberAll_eq arguments)

theorem renumber_list (line : Nat) (items : List Expr) :
    (list line items).renumber place = list (place line) (items.map (renumber place)) :=
  congrArg (list (place line)) (renumberAll_eq items)

theorem renumber_map (line : Nat) (entries : List (Expr × Expr)) :
    (map line entries).renumber place =
      map (place line) (entries.map (Prod.map (renumber place) (renumber place))) :=
  congrArg (map (place line)) (renumberEntries_eq entries)

end Expr

namespace Statement

mutual

def renumber (place : Nat → Nat) : Statement → Statement
  | .branch line condition yes alternatives otherwise =>
    .branch (place line) (condition.renumber place) (renumberBlock place yes)
      (renumberAlternatives place alternatives) (renumberOtherwise place otherwise)
  | .whileLoop line condition body =>
    .whileLoop (place line) (condition.renumber place) (renumberBlock place body)
  | .forLoop line name subject body =>
    .forLoop (place line) name (subject.renumber place) (renumberBlock place body)
  | .repeatLoop line count body =>
    .repeatLoop (place line) (count.renumber place) (renumberBlock place body)
  | .giveBack line value => .giveBack (place line) (value.map (Expr.renumber place))
  | .breakOut line => .breakOut (place line)
  | .continueOn line => .continueOn (place line)
  | .assign line name value => .assign (place line) name (value.renumber place)
  | .compound line name op value => .compound (place line) name op (value.renumber place)
  | .store line key value => .store (place line) (key.renumber place) (value.renumber place)
  | .storeCompound line key op value =>
    .storeCompound (place line) (key.renumber place) op (value.renumber place)
  | .effect line name arguments =>
    .effect (place line) name (arguments.map (Expr.renumber place))
  | .evaluate line value => .evaluate (place line) (value.renumber place)
  | .wait line delay => .wait (place line) (delay.renumber place)

def renumberBlock (place : Nat → Nat) : BlockOf Statement → BlockOf Statement
  | ⟨line, statements⟩ => ⟨place line, renumberRow place statements⟩

def renumberRow (place : Nat → Nat) : List Statement → List Statement
  | [] => []
  | statement :: statements => renumber place statement :: renumberRow place statements

def renumberAlternatives (place : Nat → Nat) :
    List (Expr × BlockOf Statement) → List (Expr × BlockOf Statement)
  | [] => []
  | (condition, block) :: alternatives =>
    (condition.renumber place, renumberBlock place block) :: renumberAlternatives place alternatives

def renumberOtherwise (place : Nat → Nat) :
    Option (BlockOf Statement) → Option (BlockOf Statement)
  | none => none
  | some block => some (renumberBlock place block)

end

theorem renumberRow_eq (statements : List Statement) :
    renumberRow place statements = statements.map (renumber place) := by
  induction statements with
  | nil => rfl
  | cons statement statements ih => exact congrArg (renumber place statement :: ·) ih

theorem renumberAlternatives_eq (alternatives : List (Expr × Block)) :
    renumberAlternatives place alternatives =
      alternatives.map (Prod.map (Expr.renumber place) (renumberBlock place)) := by
  induction alternatives with
  | nil => rfl
  | cons alternative alternatives ih =>
      exact congrArg (alternative.map (Expr.renumber place) (renumberBlock place) :: ·) ih

theorem renumberOtherwise_eq (otherwise : Option Block) :
    renumberOtherwise place otherwise = otherwise.map (renumberBlock place) := by
  cases otherwise <;> rfl

theorem renumber_branch (line : Nat) (condition : Expr) (yes : Block)
    (alternatives : List (Expr × Block)) (otherwise : Option Block) :
    (branch line condition yes alternatives otherwise).renumber place =
      branch (place line) (condition.renumber place) (renumberBlock place yes)
        (alternatives.map (Prod.map (Expr.renumber place) (renumberBlock place)))
        (otherwise.map (renumberBlock place)) := by
  rw [← renumberAlternatives_eq, ← renumberOtherwise_eq]
  rfl

theorem renumberBlock_mk (line : Nat) (statements : List Statement) :
    renumberBlock place ⟨line, statements⟩ = ⟨place line, statements.map (renumber place)⟩ :=
  congrArg (BlockOf.mk (place line)) (renumberRow_eq statements)

end Statement

def Item.renumber (place : Nat → Nat) : Item → Item
  | .event handler => .event ⟨handler.event, Statement.renumberBlock place handler.body,
      place handler.line⟩
  | .command described => .command { described with
      body := Statement.renumberBlock place described.body, line := place described.line }
  | .function defined => .function { defined with
      body := Statement.renumberBlock place defined.body, line := place defined.line }
  | .stray statement => .stray (statement.renumber place)

def Program.renumber (place : Nat → Nat) (program : Program) : Program :=
  program.map (Item.renumber place)

namespace Program

open EventScript.Program.Parser

def Cursor.renumber (place : Nat → Nat) (cursor : Cursor) : Cursor :=
  ⟨cursor.rest.map (Token.renumber place), place cursor.endLine⟩

theorem peek_renumber (cursor : Cursor) :
    (cursor.renumber place).peek = cursor.peek.renumber place := by
  obtain ⟨_ | ⟨token, rest⟩, endLine⟩ := cursor <;> rfl

theorem peekSecond_renumber (cursor : Cursor) :
    (cursor.renumber place).peekSecond = cursor.peekSecond.renumber place := by
  obtain ⟨_ | ⟨token, _ | ⟨second, rest⟩⟩, endLine⟩ := cursor <;> rfl

theorem next_renumber (cursor : Cursor) :
    (cursor.renumber place).next = cursor.next.renumber place := by
  obtain ⟨_ | ⟨token, rest⟩, endLine⟩ := cursor <;> rfl

theorem length_renumber (cursor : Cursor) : (cursor.renumber place).length = cursor.length :=
  List.length_map (Token.renumber place)

/-- On tokens with other numbers the second parser does what the first one does on the tokens as
they are, with the result changed accordingly. -/
structure Follows {α β : Type} (place : Nat → Nat) (change : α → β) (first : Parser α)
    (second : Parser β) : Prop where
  follows : ∀ cursor, second (cursor.renumber place) =
    replaced place (fun (result, rest) => (change result, rest.renumber place)) (first cursor)

namespace Follows

variable {α β γ δ σ τ : Type} {change : α → β} {first : Parser α} {second : Parser β}

theorem pure {value : α} {other : β} (same : change value = other) :
    Follows place change (pure value) (pure other) where
  follows _ := same ▸ rfl

theorem bind {next : α → Parser γ} {after : β → Parser δ} {later : γ → δ}
    (starts : Follows place change first second)
    (goes : ∀ value, Follows place later (next value) (after (change value))) :
    Follows place later (first >>= next) (second >>= after) where
  follows cursor := by
    change (second (cursor.renumber place) >>= fun outcome => after outcome.1 outcome.2) =
      replaced place _ (first cursor >>= fun outcome => next outcome.1 outcome.2)
    rw [starts.follows]
    cases first cursor with
    | error error => rfl
    | ok outcome => exact (goes outcome.1).follows outcome.2

theorem ite {choice : Prop} [Decidable choice] {yes no : Parser α} {yes' no' : Parser β}
    (holds : choice → Follows place change yes yes')
    (fails : ¬choice → Follows place change no no') :
    Follows place change (if choice then yes else no) (if choice then yes' else no') := by
  by_cases chosen : choice
  · rw [if_pos chosen, if_pos chosen]
    exact holds chosen
  · rw [if_neg chosen, if_neg chosen]
    exact fails chosen

theorem peek : Follows place (Token.renumber place) Parser.peek Parser.peek where
  follows cursor := congrArg (fun token => Except.ok (token, cursor.renumber place))
    (peek_renumber cursor)

theorem peekSecond : Follows place (Token.renumber place) Parser.peekSecond Parser.peekSecond where
  follows cursor := congrArg (fun token => Except.ok (token, cursor.renumber place))
    (peekSecond_renumber cursor)

theorem advance : Follows place (Token.renumber place) Parser.advance Parser.advance where
  follows cursor := by
    rw [Parser.advance, peek_renumber, next_renumber]
    rfl

theorem fail (fault : SourceFault) :
    Follows place change (Parser.fail fault) (Parser.fail fault) where
  follows cursor := by
    rw [Parser.fail, peek_renumber]
    rfl

theorem expected (what : String) :
    Follows place change (Parser.expected what) (Parser.expected what) where
  follows cursor := by
    rw [Parser.expected, peek_renumber]
    rfl

theorem isNext (kind : TokenKind) :
    Follows place (fun found => found) (Parser.isNext kind) (Parser.isNext kind) :=
  .bind peek fun _ => .pure rfl

theorem eat (kind : TokenKind) :
    Follows place (fun eaten => eaten) (Parser.eat kind) (Parser.eat kind) :=
  .bind (isNext kind) fun _ => .ite (fun _ => .bind advance fun _ => .pure rfl) fun _ => .pure rfl

theorem expect (kind : TokenKind) (what : String) :
    Follows place (fun done => done) (Parser.expect kind what) (Parser.expect kind what) :=
  .bind (isNext kind) fun _ =>
    .ite (fun _ => .bind advance fun _ => .pure rfl) fun _ => .expected what

theorem expectName (what : String) :
    Follows place (fun name => name) (Parser.expectName what) (Parser.expectName what) := by
  refine .bind peek fun token => ?_
  rw [Token.nameOf?_renumber]
  cases nameOf? token with
  | some name => exact .bind advance fun _ => .pure rfl
  | none => exact .expected what

theorem loop {step : σ → Parser (σ ⊕ α)} {step' : τ → Parser (τ ⊕ β)} (turn : σ → τ)
    (rounds : ∀ state, Follows place (Sum.map turn change) (step state) (step' (turn state)))
    (state : σ) :
    Follows place change (Parser.loop step state) (Parser.loop step' (turn state)) where
  follows cursor := by
    fun_induction Parser.loop step state cursor with
    | case1 state cursor error failed =>
        have round := (rounds state).follows cursor
        rw [failed] at round
        rw [Parser.loop, round]
        rfl
    | case2 state cursor result rest last =>
        have round := (rounds state).follows cursor
        rw [last] at round
        rw [Parser.loop, round]
        rfl
    | case3 state cursor next rest goes shorter ih =>
        have round := (rounds state).follows cursor
        rw [goes] at round
        rw [Parser.loop, round]
        dsimp only [replaced, Sum.map_inl]
        rw [length_renumber, length_renumber, if_pos shorter]
        exact ih
    | case4 state cursor next rest goes stuck =>
        have round := (rounds state).follows cursor
        rw [goes] at round
        rw [Parser.loop, round]
        dsimp only [replaced, Sum.map_inl]
        rw [length_renumber, length_renumber, if_neg stuck, peek_renumber]
        rfl

theorem skipNewlines : Follows place (fun done => done) Parser.skipNewlines Parser.skipNewlines :=
  loop (fun state => state) (fun _ => .bind (eat .newline) fun _ =>
    .ite (fun _ => .pure rfl) fun _ => .pure rfl) ()

theorem separated {item : Parser α} {item' : Parser β} (closing : Symbol) (what : String)
    (items : Follows place change item item') :
    Follows place (List.map change) (Parser.separated closing what item)
      (Parser.separated closing what item') := by
  refine loop (List.map change) (fun found => ?_) []
  refine .bind (eat (.symbol closing)) fun _ => .ite (fun _ => .pure ?_) fun _ => ?_
  · simp
  · refine items.bind fun value => .bind (eat (.symbol .comma)) fun _ =>
      .ite (fun _ => .pure rfl) ?_
    exact fun _ => .bind (expect _ what) fun _ => .pure (by simp)

end Follows

end Program

end EventScript
