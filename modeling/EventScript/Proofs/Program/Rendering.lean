import Mathlib.Data.List.Infix
import EventScript.Program.Expression
import EventScript.Token.Piece

/-!
Expressions written back as tokens. Parentheses stand only where the grammar needs them: around an
operand that is looser than its place asks for. From loosest to tightest the levels are: conditional
(0), or (1), and (2), not (3), comparison (4), sum (5), product (6), minus sign (7), power (8),
index and property (9), and the forms that begin with a token of their own (10).
-/

namespace EventScript.Program

inductive Wording where
  | symbols
  | words
  /-- With `isnt` for `is not`. -/
  | contracted

/-- What the parser does not look at in a token that it knows by its kind, and how operators with
several spellings are written. -/
structure Style where
  wording : Wording
  lexeme : TokenKind → String
  spaced : TokenKind → Bool

namespace Style

variable (style : Style)

def token (line : Nat) (kind : TokenKind) : Token :=
  ⟨kind, style.lexeme kind, line, style.spaced kind⟩

theorem token_kind (line : Nat) (kind : TokenKind) : (style.token line kind).kind = kind := rfl

def named (line : Nat) (kind : TokenKind) (name : String) : Token :=
  ⟨kind, name, line, style.spaced kind⟩

def indexBracket (line : Nat) : Token :=
  ⟨.symbol .openBracket, style.lexeme (.symbol .openBracket), line, false⟩

def inverting : TokenKind :=
  match style.wording with
  | .symbols => .symbol .bang
  | _ => .keyword .negation

end Style

def literalKind : Literal → TokenKind
  | .null => .null
  | .bool truth => .bool truth
  | .number value => .number value
  | .text content => .text content

def callKind (name : String) : TokenKind :=
  match Token.wordKind name with
  | .keyword keyword => if Grammar.isCallable keyword then .keyword keyword else .word name
  | _ => .word name

def operatorKinds (wording : Wording) : BinaryOp → List TokenKind
  | .add => [.symbol .plus]
  | .subtract => [.symbol .minus]
  | .multiply => [.symbol .star]
  | .divide => [.symbol .slash]
  | .remainder => [.symbol .percent]
  | .power => [.symbol .caret]
  | .equal =>
    match wording with
    | .symbols => [.symbol .equal]
    | _ => [.keyword .equals]
  | .notEqual =>
    match wording with
    | .symbols => [.symbol .notEqual]
    | .words => [.keyword .equals, .keyword .negation]
    | .contracted => [.keyword .differs]
  | .less => [.symbol .less]
  | .lessEqual => [.symbol .lessEqual]
  | .greater => [.symbol .greater]
  | .greaterEqual => [.symbol .greaterEqual]
  | .both => [.keyword .also]
  | .either => [.keyword .either]
  | .contains => [.keyword .contains]

def opLevel : BinaryOp → Nat
  | .either => 1
  | .both => 2
  | .equal | .notEqual | .less | .lessEqual | .greater | .greaterEqual | .contains => 4
  | .add | .subtract => 5
  | .multiply | .divide | .remainder => 6
  | .power => 8

def leftLevel (op : BinaryOp) : Nat := if op = .power then 9 else opLevel op

def rightLevel (op : BinaryOp) : Nat := if op = .power then 7 else opLevel op + 1

def unaryLevel : UnaryOp → Nat
  | .negate => 7
  | .invert => 3

def unaryKind (style : Style) : UnaryOp → TokenKind
  | .negate => .symbol .minus
  | .invert => style.inverting

def exprLevel : Expr → Nat
  | .conditional .. => 0
  | .binary _ op _ _ => opLevel op
  | .unary _ op _ => unaryLevel op
  | .index .. | .property .. => 9
  | _ => 10

def parenthesized (style : Style) (line : Nat) (inner : List Token) : List Token :=
  style.token line (.symbol .openParen) :: inner ++ [style.token line (.symbol .closeParen)]

/-- An expression in a place that asks for a level, when it is written like this by itself. -/
def placed (style : Style) (level : Nat) (expr : Expr) (written : List Token) : List Token :=
  if exprLevel expr < level then parenthesized style expr.line written else written

def commaSeparated (comma : Token) : List (List Token) → List Token
  | [] => []
  | [row] => row
  | row :: next :: rows => row ++ comma :: commaSeparated comma (next :: rows)

def plainKey : Expr → String
  | .literal _ (.text content) => content
  | _ => ""

mutual

/-- The tokens of an expression, each on the line of the part that it belongs to. -/
def render (style : Style) : Expr → List Token
  | .literal line value => [style.token line (literalKind value)]
  | .reference line name => [style.token line (.reference name)]
  | .stored line key => [style.token line (.stored (plainKey key))]
  | .binary line op left right =>
    placed style (leftLevel op) left (render style left) ++
      ((operatorKinds style.wording op).map (style.token line) ++
        placed style (rightLevel op) right (render style right))
  | .unary line op operand =>
    style.token line (unaryKind style op) ::
      placed style (unaryLevel op) operand (render style operand)
  | .call line name arguments =>
    style.named line (callKind name) name :: style.token line (.symbol .openParen) ::
      (commaSeparated (style.token line (.symbol .comma)) (renderItems style arguments) ++
        [style.token line (.symbol .closeParen)])
  | .index line target position =>
    placed style 9 target (render style target) ++
      style.indexBracket line :: (render style position ++
        [style.token line (.symbol .closeBracket)])
  | .property line target name =>
    placed style 9 target (render style target) ++
      [style.token line (.symbol .dot), style.named line (Token.wordKind name) name]
  | .list line items =>
    style.token line (.symbol .openBracket) ::
      (commaSeparated (style.token line (.symbol .comma)) (renderItems style items) ++
        [style.token line (.symbol .closeBracket)])
  | .map line entries =>
    style.token line (.symbol .openBrace) ::
      (commaSeparated (style.token line (.symbol .comma)) (renderEntries style line entries) ++
        [style.token line (.symbol .closeBrace)])
  | .template _ _ => []
  | .conditional line condition yes no =>
    placed style 1 condition (render style condition) ++
      style.token line (.symbol .question) :: (render style yes ++
        style.token line (.symbol .colon) :: render style no)

def renderItems (style : Style) : List Expr → List (List Token)
  | [] => []
  | item :: items => render style item :: renderItems style items

def renderEntries (style : Style) (line : Nat) : List (Expr × Expr) → List (List Token)
  | [] => []
  | (key, value) :: entries =>
    (render style key ++ style.token line (.symbol .colon) :: render style value) ::
      renderEntries style line entries

end

def placedDepth (level : Nat) (expr : Expr) (depth : Nat) : Nat :=
  if exprLevel expr < level then depth + 1 else depth

mutual

def depth : Expr → Nat
  | .binary _ op left right =>
    max (placedDepth (leftLevel op) left (depth left))
      (placedDepth (rightLevel op) right (depth right) + if op = .power then 1 else 0)
  | .unary _ op operand => placedDepth (unaryLevel op) operand (depth operand) + 1
  | .call _ _ arguments => depthItems arguments
  | .index _ target position => max (placedDepth 9 target (depth target)) (depth position + 1)
  | .property _ target _ => placedDepth 9 target (depth target)
  | .list _ items => depthItems items
  | .map _ entries => depthEntries entries
  | .conditional _ condition yes no =>
    max (placedDepth 1 condition (depth condition)) (max (depth yes + 1) (depth no + 1))
  | _ => 0

def depthItems : List Expr → Nat
  | [] => 0
  | item :: items => max (depth item + 1) (depthItems items)

def depthEntries : List (Expr × Expr) → Nat
  | [] => 0
  | (key, value) :: entries => max (max (depth key + 1) (depth value + 1)) (depthEntries entries)

end

mutual

def height : Expr → Nat
  | .binary _ _ left right => max (height left) (height right) + 1
  | .unary _ _ operand => height operand + 1
  | .call _ _ arguments => heightItems arguments
  | .index _ target position => max (height target) (height position) + 1
  | .property _ target _ => height target + 1
  | .list _ items => heightItems items
  | .map _ entries => heightEntries entries
  | .conditional _ condition yes no => max (height condition) (max (height yes) (height no)) + 1
  | _ => 0

def heightItems : List Expr → Nat
  | [] => 0
  | item :: items => max (height item + 1) (heightItems items)

def heightEntries : List (Expr × Expr) → Nat
  | [] => 0
  | (key, value) :: entries => max (max (height key) (height value) + 1) (heightEntries entries)

end

def isPlain (withStored : Bool) (content : List Char) : Bool :=
  content.tails.all fun rest =>
    (!withStored || (storedKey? rest).isNone) && (referenceName? rest).isNone

def startsLikeName (name : String) : Bool :=
  match name.toList with
  | first :: _ => Text.isLetter first || first == '_'
  | [] => false

mutual

/-- Whether the expression has a written form: texts and keys stand for themselves, and names are in
small letters. -/
def isWritable : Expr → Bool
  | .literal _ (.text content) => isPlain true content.toList
  | .literal _ _ => true
  | .reference _ _ => true
  | .stored line (.literal keyLine (.text key)) => keyLine == line && isPlain false key.toList
  | .stored _ _ => false
  | .binary _ _ left right => isWritable left && isWritable right
  | .unary _ _ operand => isWritable operand
  | .call _ name arguments => Text.lower name == name && areWritable arguments
  | .index _ target position => isWritable target && isWritable position
  | .property _ target name =>
    Text.lower name == name && startsLikeName name && isWritable target
  | .list _ items => areWritable items
  | .map _ entries => entriesWritable entries
  | .template _ _ => false
  | .conditional _ condition yes no => isWritable condition && (isWritable yes && isWritable no)

def areWritable : List Expr → Bool
  | [] => true
  | item :: items => isWritable item && areWritable items

def entriesWritable : List (Expr × Expr) → Bool
  | [] => true
  | (key, value) :: entries => isWritable key && isWritable value && entriesWritable entries

end

section Trees

variable {style : Style} {line : Nat} {items : List Expr} {entries : List (Expr × Expr)}

attribute [local simp] render renderItems renderEntries height heightItems heightEntries depth
  depthItems depthEntries

theorem renderItems_eq : renderItems style items = items.map (render style) := by
  induction items with
  | nil => rfl
  | cons item items ih => simp [ih]

def renderEntry (style : Style) (line : Nat) (entry : Expr × Expr) : List Token :=
  render style entry.1 ++ style.token line (.symbol .colon) :: render style entry.2

theorem renderEntries_eq :
    renderEntries style line entries = entries.map (renderEntry style line) := by
  induction entries with
  | nil => rfl
  | cons entry entries ih => simp [renderEntry, ih]

theorem lt_of_member {α : Type} (own : α → Nat) (total : List α → Nat) {part : α} {row : List α}
    (grows : ∀ first rest, own first < total (first :: rest) ∧ total rest ≤ total (first :: rest))
    (member : part ∈ row) : own part < total row := by
  induction row with
  | nil => cases member
  | cons first rest ih =>
      obtain ⟨above, more⟩ := grows first rest
      rcases List.mem_cons.mp member with rfl | later
      · exact above
      · exact Nat.lt_of_lt_of_le (ih later) more

theorem height_lt_items {item : Expr} (member : item ∈ items) :
    height item < heightItems items :=
  lt_of_member height heightItems (fun _ _ => by rw [heightItems]; omega) member

theorem depth_lt_items {item : Expr} (member : item ∈ items) :
    depth item < depthItems items :=
  lt_of_member depth depthItems (fun _ _ => by rw [depthItems]; omega) member

theorem isWritable_item {item : Expr} (writable : areWritable items = true)
    (member : item ∈ items) : isWritable item = true := by
  induction items with
  | nil => cases member
  | cons head items ih =>
      rw [areWritable, Bool.and_eq_true] at writable
      rcases List.mem_cons.mp member with rfl | later
      · exact writable.1
      · exact ih writable.2 later

theorem height_lt_entries {entry : Expr × Expr} (member : entry ∈ entries) :
    height entry.1 < heightEntries entries ∧ height entry.2 < heightEntries entries := by
  have below := lt_of_member (fun entry => max (height entry.1) (height entry.2)) heightEntries
    (fun _ _ => by rw [heightEntries]; omega) member
  exact Nat.max_lt.mp below

theorem depth_lt_entries {entry : Expr × Expr} (member : entry ∈ entries) :
    depth entry.1 < depthEntries entries ∧ depth entry.2 < depthEntries entries := by
  have below := lt_of_member (fun entry => max (depth entry.1) (depth entry.2)) depthEntries
    (fun _ _ => by rw [depthEntries]; omega) member
  exact Nat.max_lt.mp below

theorem isWritable_entry {entry : Expr × Expr} (writable : entriesWritable entries = true)
    (member : entry ∈ entries) : isWritable entry.1 = true ∧ isWritable entry.2 = true := by
  induction entries with
  | nil => cases member
  | cons head entries ih =>
      cases head
      rw [entriesWritable, Bool.and_eq_true, Bool.and_eq_true] at writable
      rcases List.mem_cons.mp member with rfl | later
      · exact writable.1
      · exact ih writable.2 later

theorem height_induction {motive : Expr → Prop}
    (step : ∀ expr, (∀ smaller, height smaller < height expr → motive smaller) → motive expr)
    (expr : Expr) : motive expr :=
  (InvImage.wf height Nat.lt_wfRel.wf).induction expr step

theorem placedDepth_le (level : Nat) (expr : Expr) (levels : Nat) :
    placedDepth level expr levels ≤ levels + 1 := by
  unfold placedDepth
  split <;> omega

theorem depthItems_le {items : List Expr}
    (bounds : ∀ item ∈ items, depth item ≤ 2 * height item) :
    depthItems items ≤ 2 * heightItems items := by
  induction items with
  | nil => exact Nat.zero_le _
  | cons item items ih =>
      have first := bounds item List.mem_cons_self
      have later := ih fun item member => bounds item (List.mem_cons_of_mem _ member)
      rw [depthItems, heightItems]
      omega

theorem depthEntries_le {entries : List (Expr × Expr)}
    (bounds : ∀ entry ∈ entries, depth entry.1 ≤ 2 * height entry.1 ∧
      depth entry.2 ≤ 2 * height entry.2) :
    depthEntries entries ≤ 2 * heightEntries entries := by
  induction entries with
  | nil => exact Nat.zero_le _
  | cons entry entries ih =>
      obtain ⟨key, value⟩ := entry
      have first := bounds (key, value) List.mem_cons_self
      have later := ih fun entry member => bounds entry (List.mem_cons_of_mem _ member)
      rw [depthEntries, heightEntries]
      dsimp only at first
      omega

theorem depth_le (expr : Expr) : depth expr ≤ 2 * height expr := by
  induction expr using height_induction with
  | _ expr ih =>
  cases expr with
  | binary line op left right =>
      have boundLeft := ih left (by rw [height]; omega)
      have boundRight := ih right (by rw [height]; omega)
      have placedLeft := placedDepth_le (leftLevel op) left (depth left)
      have placedRight := placedDepth_le (rightLevel op) right (depth right)
      rw [depth, height]
      split <;> omega
  | unary line op operand =>
      have bound := ih operand (by rw [height]; omega)
      have placed := placedDepth_le (unaryLevel op) operand (depth operand)
      rw [depth, height]
      omega
  | call line name arguments =>
      rw [depth, height]
      exact depthItems_le fun argument member => ih argument (by
        rw [height]
        exact height_lt_items member)
  | index line target position =>
      have boundTarget := ih target (by rw [height]; omega)
      have boundPosition := ih position (by rw [height]; omega)
      have placed := placedDepth_le 9 target (depth target)
      rw [depth, height]
      omega
  | property line target name =>
      have bound := ih target (by rw [height]; omega)
      have placed := placedDepth_le 9 target (depth target)
      rw [depth, height]
      omega
  | list line items =>
      rw [depth, height]
      exact depthItems_le fun item member => ih item (by
        rw [height]
        exact height_lt_items member)
  | map line entries =>
      rw [depth, height]
      refine depthEntries_le fun entry member => ?_
      have shorter := height_lt_entries member
      exact ⟨ih entry.1 (by rw [height]; exact shorter.1),
        ih entry.2 (by rw [height]; exact shorter.2)⟩
  | conditional line condition yes no =>
      have boundCondition := ih condition (by rw [height]; omega)
      have boundYes := ih yes (by rw [height]; omega)
      have boundNo := ih no (by rw [height]; omega)
      have placed := placedDepth_le 1 condition (depth condition)
      rw [depth, height]
      omega
  | _ => simp

end Trees

section PlainTexts

theorem templateParts_plain {withStored : Bool} (line : Nat) {content : List Char}
    (plain : isPlain withStored content = true) (pending : List Char) :
    templateParts line withStored pending content = flushText (content.reverse ++ pending) [] := by
  induction content generalizing pending with
  | nil => rw [templateParts, List.reverse_nil, List.nil_append]
  | cons char rest ih =>
      simp only [isPlain, List.tails_cons, List.all_cons, Bool.and_eq_true] at plain
      obtain ⟨⟨noStored, noName⟩, later⟩ := plain
      have first : (if withStored = true then storedKey? (char :: rest) else none) = none := by
        cases withStored with
        | true => simpa using noStored
        | false => rfl
      have second : referenceName? (char :: rest) = none := by simpa using noName
      rw [templateParts, first]
      simp only [second]
      rw [ih later, List.reverse_cons, List.append_assoc, List.singleton_append]

theorem collapse_plain {withStored : Bool} (line : Nat) {content : String}
    (plain : isPlain withStored content.toList = true) :
    collapse line (templateParts line withStored [] content.toList) =
      .literal line (.text content) := by
  rw [templateParts_plain line plain, List.append_nil, flushText, List.reverse_reverse,
    String.ofList_toList]
  split
  · rename_i empty
    have blank : content = "" := by simpa using empty
    rw [blank]
    rfl
  · rfl

theorem templateExpr_plain (line : Nat) {content : String}
    (plain : isPlain true content.toList = true) :
    templateExpr line content = .literal line (.text content) :=
  collapse_plain line plain

theorem keyExpr_plain (line : Nat) {key : String} (plain : isPlain false key.toList = true) :
    keyExpr line key = .literal line (.text key) := by
  unfold keyExpr
  split
  · exact collapse_plain line plain
  · rfl

end PlainTexts

end EventScript.Program
