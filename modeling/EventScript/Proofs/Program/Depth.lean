import EventScript.Proofs.Program.Indentation
import EventScript.Proofs.Program.Precedence
import EventScript.Proofs.Program.Template
import EventScript.Proofs.Text.Pieces

/-!
How deep programs are. The limit on nesting counts the blocks around an expression and, inside it,
the places that the grammar opens with a token of their own: operands of `not` and of minus signs,
exponents, arguments, positions, items and entries, and the two outcomes of a conditional. It does
not count the operands of the other operators, nor what an index, a property or a method is taken
of, so that rows of these make trees of any height.
-/

namespace EventScript.Program

open EventScript.Program.Parser

def children : Expr → List (Bool × Expr)
  | .literal _ _ | .reference _ _ => []
  | .stored _ key => [(false, key)]
  | .binary _ op left right => [(false, left), (op = .power, right)]
  | .unary _ _ operand => [(true, operand)]
  | .call _ _ [] => []
  | .call _ _ (first :: arguments) =>
    (false, first) :: arguments.map fun argument => (true, argument)
  | .index _ target position => [(false, target), (true, position)]
  | .property _ target _ => [(false, target)]
  | .list _ items => items.map fun item => (true, item)
  | .map _ entries => entries.flatMap fun entry => [(true, entry.1), (true, entry.2)]
  | .template _ parts => parts.filterMap fun part =>
    match part with
    | .text _ => none
    | .expr value => some (false, value)
  | .conditional _ condition yes no => [(false, condition), (true, yes), (true, no)]

theorem forall_children_map {line : Nat} {entries : List (Expr × Expr)}
    {fits : Bool × Expr → Prop} :
    (∀ child ∈ children (.map line entries), fits child) ↔
      ∀ entry ∈ entries, fits (true, entry.1) ∧ fits (true, entry.2) := by
  simp only [children, List.forall_mem_flatMap, List.forall_mem_cons, List.not_mem_nil,
    false_implies, implies_true, and_true]

theorem forall_children_template {line : Nat} {parts : List TemplatePart}
    {fits : Bool × Expr → Prop} :
    (∀ child ∈ children (.template line parts), fits child) ↔
      ∀ value, .expr value ∈ parts → fits (false, value) := by
  constructor
  · intro all value member
    exact all _ (List.mem_filterMap.mpr ⟨_, member, rfl⟩)
  · intro all child member
    obtain ⟨part, among, same⟩ := List.mem_filterMap.mp member
    cases part with
    | text content => cases same
    | expr value =>
        cases same
        exact all value among

/-- A way down the tree of an expression; each step tells whether it is counted. -/
inductive Path : Expr → List Bool → Prop where
  | here {expr : Expr} : Path expr []
  | into {expr child : Expr} {counted : Bool} {steps : List Bool}
      (member : (counted, child) ∈ children expr) (next : Path child steps) :
      Path expr (counted :: steps)

structure CountsBelow (room : Nat) (expr : Expr) : Prop where
  below : ∀ {steps}, Path expr steps → steps.count true < room

section Counting

variable {room : Nat} {expr : Expr}

theorem countsBelow_of_children
    (below : ∀ child ∈ children expr, CountsBelow (if child.1 then room else room + 1) child.2) :
    CountsBelow (room + 1) expr := by
  constructor
  intro steps path
  cases path with
  | here => exact Nat.succ_pos room
  | @into _ child counted steps member next =>
      have bound := (below _ member).below next
      cases counted with
      | true =>
          rw [List.count_cons_self]
          exact Nat.succ_lt_succ bound
      | false =>
          rw [List.count_cons_of_ne (by decide)]
          exact bound

theorem CountsBelow.mono {more : Nat} (below : CountsBelow room expr) (fewer : room ≤ more) :
    CountsBelow more expr := ⟨fun path => Nat.lt_of_lt_of_le (below.below path) fewer⟩

theorem CountsBelow.positive (below : CountsBelow room expr) : 0 < room := below.below .here

theorem fillings_countBelow (line : Nat) : Fillings line (CountsBelow 1) where
  text := countsBelow_of_children (by simp [children])
  reference := countsBelow_of_children (by simp [children])
  stored key := countsBelow_of_children (by simpa [children] using key)
  template inside := countsBelow_of_children (forall_children_template.mpr inside)

end Counting

section Limits

theorem productions_countBelow (room : Nat) :
    Productions (fun _ => True) (CountsBelow (room + 1)) (CountsBelow room) where
  literal _ := countsBelow_of_children (by simp [children])
  text _ := ((fillings_countBelow _).templateExpr _).mono (by omega)
  reference _ := countsBelow_of_children (by simp [children])
  stored _ := countsBelow_of_children (by
    simpa [children] using ((fillings_countBelow _).keyExpr _).mono (by omega))
  group deep := deep.mono (by omega)
  call {line name arguments} _ deep := by
    refine countsBelow_of_children ?_
    cases arguments with
    | nil => simp [children]
    | cons first arguments =>
        have own := deep first List.mem_cons_self
        have others := fun other member => deep other (List.mem_cons_of_mem first member)
        simpa [children] using ⟨own.mono (by omega : room ≤ room + 1), others⟩
  method _ target deep := countsBelow_of_children (by simpa [children] using ⟨target, deep⟩)
  list _ deep := countsBelow_of_children (by simpa [children] using deep)
  map _ deep := countsBelow_of_children (forall_children_map.mpr deep)
  index _ target deep := countsBelow_of_children (by simpa [children] using ⟨target, deep⟩)
  property _ target := countsBelow_of_children (by simpa [children] using target)
  unary _ deep := countsBelow_of_children (by simpa [children] using deep)
  power _ base deep := countsBelow_of_children (by simpa [children] using ⟨base, deep⟩)
  binary _ other left right :=
    countsBelow_of_children (by simpa [children, other] using ⟨left, right⟩)
  conditional _ condition yes no :=
    countsBelow_of_children (by simpa [children] using ⟨condition, yes, no⟩)

theorem heads_countBelow (room : Nat) : Heads (fun _ => True) (CountsBelow room) := by
  have keys (line : Nat) (key : String) {amount : Expr} (deep : CountsBelow room amount) :
      CountsBelow room (keyExpr line key) :=
    ((fillings_countBelow line).keyExpr key).mono deep.positive
  cases room with
  | zero => constructor <;> intros <;> exact absurd (CountsBelow.positive ‹_›) (Nat.lt_irrefl 0)
  | succ room =>
      have reference (line : Nat) (name : String) : CountsBelow (room + 1) (.reference line name) :=
        countsBelow_of_children (by simp [children])
      have literal (line : Nat) (value : Literal) : CountsBelow (room + 1) (.literal line value) :=
        countsBelow_of_children (by simp [children])
      have stored (line : Nat) (key : String) {amount : Expr}
          (deep : CountsBelow (room + 1) amount) :
          CountsBelow (room + 1) (.stored line (keyExpr line key)) :=
        countsBelow_of_children (by simpa [children] using keys line key deep)
      exact {
        adjusted := fun _ other deep =>
          countsBelow_of_children (by simpa [children, other] using ⟨reference _ _, deep⟩)
        adjustedStored := fun _ other deep =>
          countsBelow_of_children (by simpa [children, other] using ⟨stored _ _ deep, deep⟩)
        inSeconds := fun _ deep =>
          countsBelow_of_children (by simpa [children] using ⟨deep, literal _ _⟩)
        key := fun _ deep => keys _ _ deep
        keyOf := fun deep => keys _ _ deep }

/-- In a program that is read, the blocks around an expression and the counted steps on a way down
the expression stay together below the limit. -/
theorem nesting_limited {source : String} {program : Program}
    (parsed : parse source = .ok program) :
    ∀ entry ∈ outline program, entry.1 ≤ nestingLimit ∧
      ∀ expr ∈ entry.2.expressions, ∀ steps, Path expr steps →
        entry.1 + steps.count true < nestingLimit := by
  have fit {around room : Nat} (total : around + room = nestingLimit) (statement : Statement)
      (below : ∀ expr ∈ statement.expressions, CountsBelow room expr) : around ≤ nestingLimit ∧
        ∀ expr ∈ statement.expressions, ∀ steps, Path expr steps →
          around + steps.count true < nestingLimit := by
    refine ⟨by omega, ?_⟩
    intro expr member steps path
    have bound := (below expr member).below path
    omega
  obtain ⟨cursor, passed⟩ := parse_passed _ productions_countBelow heads_countBelow fit parsed
  exact passed.fitting

theorem loop_in_handler_is_limited :
    let source := "on go:\n  repeat 2 times:\n    log -(1 + %a%[0])\n"
    ∃ program, parse source = .ok program ∧ (outline program).map Prod.fst = [1, 2] ∧
      ∀ entry ∈ outline program, entry.1 ≤ nestingLimit ∧
        ∀ expr ∈ entry.2.expressions, ∀ steps, Path expr steps →
          entry.1 + steps.count true < nestingLimit := by
  intro source
  have shape : ((parse source).toOption.map fun program => (outline program).map Prod.fst) =
      some [1, 2] := by decide +kernel
  obtain ⟨program, parsed, seen⟩ := parse_of_view shape
  exact ⟨program, parsed, seen, nesting_limited parsed⟩

end Limits

section Sums

open EventScript.Token (scanBody scanLines pieceAt measure isSilent)

def oneValue : Double := (Number.readDecimal? false ['1']).getD (Number.zero false)

def sumOfOnes : Nat → Expr
  | 0 => .literal 1 (.number oneValue)
  | count + 1 => .binary 1 .add (sumOfOnes count) (.literal 1 (.number oneValue))

def sumChars (count : Nat) : List Char :=
  '1' :: (List.replicate count [' ', '+', ' ', '1']).flatten

def oneToken : Token := ⟨.number oneValue, "1", 1, true⟩

def plusToken : Token := ⟨.symbol .plus, "+", 1, true⟩

def sumTokens (count : Nat) : List Token :=
  oneToken :: (List.replicate count [plusToken, oneToken]).flatten

theorem sumChars_succ (count : Nat) :
    sumChars (count + 1) = '1' :: ' ' :: '+' :: ' ' :: sumChars count := by
  simp [sumChars, List.replicate_succ]

theorem sumTokens_succ (count : Nat) :
    sumTokens (count + 1) = oneToken :: plusToken :: sumTokens count := by
  simp [sumTokens, List.replicate_succ]

theorem scanBody_blank (line : Nat) (operand spaced : Bool) (after : List Char) :
    scanBody line operand spaced (' ' :: after) = scanBody line operand true after := by
  rw [scanBody]
  rfl

theorem scanBody_single {line : Nat} {operand spaced trailing : Bool} {first : Char}
    {after : List Char} {kind : TokenKind} {tokens : List Token} (plain : (first == '#') = false)
    (shown : Text.isBlank first = false) (found : pieceAt operand first after = .ok ⟨kind, 0, none⟩)
    (later : scanBody line kind.startsOperand false after = .ok (tokens, trailing)) :
    scanBody line operand spaced (first :: after) =
      .ok (⟨kind, String.ofList [first], line, spaced⟩ :: tokens, trailing) := by
  rw [scanBody, plain, shown, found]
  simp only [Bool.false_eq_true, if_false, List.drop_zero, later, List.take_zero, Option.getD_none]

theorem pieceAt_one (operand : Bool) (after : List Char) :
    pieceAt operand '1' (' ' :: after) = .ok ⟨.number oneValue, 0, none⟩ := by
  rfl

theorem pieceAt_plus (operand : Bool) (after : List Char) :
    pieceAt operand '+' (' ' :: after) = .ok ⟨.symbol .plus, 0, none⟩ := by
  rfl

theorem scanBody_sum (operand : Bool) (count : Nat) :
    scanBody 1 operand true (sumChars count) = .ok (sumTokens count, false) := by
  induction count generalizing operand with
  | zero =>
      have ended : scanBody 1 false false [] = .ok ([], false) := by simp [scanBody]
      cases operand <;> exact scanBody_single rfl rfl rfl ended
  | succ count ih =>
      have ones : scanBody 1 true false (' ' :: sumChars count) = .ok (sumTokens count, false) := by
        rw [scanBody_blank]
        exact ih true
      have plus : scanBody 1 false false (' ' :: '+' :: ' ' :: sumChars count) =
          .ok (plusToken :: sumTokens count, false) := by
        rw [scanBody_blank]
        exact scanBody_single rfl rfl (pieceAt_plus _ _) ones
      rw [sumChars_succ, sumTokens_succ]
      exact scanBody_single rfl rfl (pieceAt_one _ _) plus

theorem scan_sum (count : Nat) :
    Token.scan (String.ofList (sumChars count)) =
      .ok (sumTokens count ++ [⟨.finish, "", 1, false⟩]) := by
  have oneLine : ∀ char ∈ sumChars count, (char == '\n') = false := by
    intro char member
    simp only [sumChars, List.mem_cons, List.mem_flatten, List.mem_replicate] at member
    rcases member with rfl | ⟨_, ⟨_, rfl⟩, found⟩
    · rfl
    · have each : ∀ char ∈ [' ', '+', ' ', '1'], (char == '\n') = false := by simp
      exact each char found
  have measured : measure (sumChars count) = (0, sumChars count) := rfl
  have shown : isSilent (sumChars count) = false := rfl
  rw [Token.scan, String.toList_ofList, Text.piecesBy_single oneLine, scanLines, measured]
  simp only [shown, Bool.false_eq_true, if_false, scanBody_sum]
  rfl

def sumStyle : Style where
  wording := .symbols
  lexeme kind :=
    match kind with
    | .symbol .plus => "+"
    | _ => "1"
  spaced _ := true

theorem render_sum (count : Nat) : render sumStyle (sumOfOnes count) = sumTokens count := by
  induction count with
  | zero => rfl
  | succ count ih =>
      have bare : placed sumStyle (leftLevel .add) (sumOfOnes count) (sumTokens count) =
          sumTokens count := by cases count <;> rfl
      rw [sumOfOnes, render, ih, bare, sumTokens, sumTokens, List.replicate_succ',
        List.flatten_append]
      rfl

theorem isWritable_sum (count : Nat) : isWritable (sumOfOnes count) = true := by
  induction count with
  | zero => rfl
  | succ count ih => rw [sumOfOnes, isWritable, ih]; rfl

theorem depth_sum (count : Nat) : depth (sumOfOnes count) = 0 := by
  induction count with
  | zero => rfl
  | succ count ih =>
      have bare : placedDepth (leftLevel .add) (sumOfOnes count) 0 = 0 := by cases count <;> rfl
      rw [sumOfOnes, depth, ih, bare]
      rfl

theorem path_sum (count : Nat) : Path (sumOfOnes count) (List.replicate count false) := by
  induction count with
  | zero => exact .here
  | succ count ih => exact .into (List.mem_cons_self ..) ih

def sumEnd : Cursor := ⟨[⟨.finish, "", 1, false⟩], 1⟩

theorem item_sum (count : Nat) :
    item ⟨sumTokens count ++ sumEnd.rest, 1⟩ =
      .ok (.stray (.evaluate 1 (sumOfOnes count)), sumEnd) := by
  have stops : Stops 0 sumEnd.rest := ⟨_, _, rfl, by rintro _ ⟨⟩⟩
  have read : (Grammar.within nestingLimit).expression ⟨sumTokens count ++ sumEnd.rest, 1⟩ =
      .ok (sumOfOnes count, sumEnd) := by
    have agrees := (isWritable.readable sumStyle (sumOfOnes count)
      (isWritable_sum count)).expression nestingLimit _ 1 stops
    rw [render_sum, depth_sum] at agrees
    rcases agrees with same | ⟨few, _⟩
    · exact same
    · exact absurd (by decide) few
  have evaluated : simpleStatement 1 (Grammar.within nestingLimit).expression
      ⟨sumTokens count ++ sumEnd.rest, 1⟩ = .ok (.evaluate 1 (sumOfOnes count), sumEnd) := by
    change ((Grammar.within nestingLimit).expression _ >>= fun outcome =>
      .ok (Statement.evaluate 1 outcome.1, outcome.2)) = _
    rw [read]
    rfl
  have stated : statement (Grammar.within nestingLimit).expression (blockWithin nestingLimit)
      ⟨sumTokens count ++ sumEnd.rest, 1⟩ = .ok (.evaluate 1 (sumOfOnes count), sumEnd) := by
    change (simpleStatement 1 (Grammar.within nestingLimit).expression _ >>= fun outcome =>
      (endStatement >>= fun _ => pure outcome.1) outcome.2) = _
    rw [evaluated]
    rfl
  change (statement (Grammar.within nestingLimit).expression (blockWithin nestingLimit) _ >>=
    fun outcome => .ok (Item.stray outcome.1, outcome.2)) = _
  rw [stated]
  rfl

theorem items_sum (count : Nat) :
    items ⟨sumTokens count ++ sumEnd.rest, 1⟩ =
      .ok ([.stray (.evaluate 1 (sumOfOnes count))], sumEnd) := by
  have first : itemStep [] ⟨sumTokens count ++ sumEnd.rest, 1⟩ =
      .ok (.inl [.stray (.evaluate 1 (sumOfOnes count))], sumEnd) := by
    rw [itemStep, skipNewlines_bind rfl]
    change (item _ >>= fun outcome => .ok (Sum.inl [outcome.1], outcome.2)) = _
    rw [item_sum]
    rfl
  have last (found : List Item) : itemStep found sumEnd = .ok (.inr found.reverse, sumEnd) := by
    rw [itemStep, skipNewlines_bind rfl]
    rfl
  have shorter : sumEnd.length < Cursor.length ⟨sumTokens count ++ sumEnd.rest, 1⟩ := by
    simp [Cursor.length, sumTokens, sumEnd]
  rw [items, loop, first]
  simp only [shorter, if_true]
  rw [loop, last]
  rfl

theorem parse_sum (count : Nat) :
    parse (String.ofList (sumChars count)) = .ok [.stray (.evaluate 1 (sumOfOnes count))] := by
  have start : Cursor.ofTokens (sumTokens count ++ sumEnd.rest) =
      ⟨sumTokens count ++ sumEnd.rest, 1⟩ := by simp [Cursor.ofTokens, sumEnd]
  rw [parse, scan_sum]
  change ofTokens (sumTokens count ++ sumEnd.rest) = _
  rw [ofTokens, start, items_sum]
  rfl

/-- No height is enough for the expressions of all programs: sums take no room under the limit. -/
theorem heights_unbounded : ¬∃ bound, ∀ source program, parse source = .ok program →
    ∀ entry ∈ outline program, entry.1 ≤ bound ∧
      ∀ expr ∈ entry.2.expressions, ∀ steps, Path expr steps → steps.length ≤ bound := by
  rintro ⟨bound, limits⟩
  have entries := limits _ _ (parse_sum (bound + 1)) (0, .evaluate 1 (sumOfOnes (bound + 1)))
    (List.mem_singleton_self _)
  have short := entries.2 _ (List.mem_singleton_self _) _ (path_sum (bound + 1))
  rw [List.length_replicate] at short
  omega

end Sums

end EventScript.Program
