import Mathlib.Data.List.Forall2
import EventScript.Proofs.Program.Levels
import EventScript.Proofs.Token.Lines
import EventScript.Program.Parser

/-!
The parser reads a written expression back: the same tree, with all of its tokens taken. The one
other outcome is that its parentheses, operands and brackets need more levels of nesting than there
are, which no tree of moderate height does.
-/

namespace EventScript.Program

open EventScript.Program.Parser
open EventScript.Program.Grammar (within)

section Nested

variable {style : Style} {level : Nat} {tokens : List Token} {expr : Expr}

def deeper (inner : Grammar) : Nat → Parser Expr
  | 3 => inner.inverted
  | 7 => inner.signed
  | _ => inner.expression

theorem deeper_takes {needed : Nat} (place : level = 0 ∨ level = 3 ∨ level = 7)
    (takes : ∀ room, Takes (levelParser (within room) level) level tokens expr (needed ≤ room))
    (room : Nat) :
    Takes (deeper (within room) level) level tokens expr (needed + 1 ≤ room) := by
  intro rest endLine stops
  cases room with
  | zero =>
      refine .inr ⟨Nat.not_succ_le_zero _, ?_⟩
      rcases place with rfl | rfl | rfl <;> exact ⟨_, rfl⟩
  | succ room =>
      have fits : needed + 1 ≤ room + 1 → needed ≤ room := by omega
      have agrees := (takes room rest endLine stops).weaken fits
      rcases place with rfl | rfl | rfl <;> exact agrees

/-- The parser reads what is written for the expression. Where its level groups to the left, it also
reads it as the first part of a longer expression. -/
structure Readable (style : Style) (expr : Expr) : Prop where
  opens : Opens (exprLevel expr) (render style expr)
  takes : ∀ room, Takes (levelParser (within room) (exprLevel expr)) (exprLevel expr)
    (render style expr) expr (depth expr ≤ room)
  leads : isLoopLevel (exprLevel expr) = true → ∀ room,
    Leads (within room) (exprLevel expr) (render style expr) expr (depth expr ≤ room)

theorem exprLevel_le (expr : Expr) : exprLevel expr ≤ 10 := by
  cases expr with
  | binary line op left right => cases op <;> simp [exprLevel, opLevel]
  | unary line op operand => cases op <;> simp [exprLevel, unaryLevel]
  | _ => simp [exprLevel]

namespace Readable

theorem ofLeads (opens : Opens (exprLevel expr) (render style expr))
    (loops : isLoopLevel (exprLevel expr) = true)
    (leads : ∀ room, Leads (within room) (exprLevel expr) (render style expr) expr
      (depth expr ≤ room)) : Readable style expr where
  opens := opens
  takes := fun room => (leads room).takes loops
  leads := fun _ => leads

theorem ofTakes (opens : Opens (exprLevel expr) (render style expr))
    (single : isLoopLevel (exprLevel expr) = false)
    (takes : ∀ room, Takes (levelParser (within room) (exprLevel expr)) (exprLevel expr)
      (render style expr) expr (depth expr ≤ room)) : Readable style expr where
  opens := opens
  takes := takes
  leads := fun loops => absurd loops (by rw [single]; decide)

variable (readable : Readable style expr) (room : Nat)

include readable

theorem expression :
    Takes (within room).expression 0 (render style expr) expr (depth expr + 1 ≤ room) :=
  deeper_takes (.inl rfl)
    (fun room => (readable.takes room).climb (exprLevel_le expr) (Nat.zero_le _) readable.opens)
    room

theorem parentheses (line : Nat) :
    Takes (within room).primary 10 (parenthesized style line (render style expr)) expr
      (depth expr + 1 ≤ room) := by
  intro rest endLine stops
  have spread : parenthesized style line (render style expr) ++ rest =
      style.token line (.symbol .openParen) ::
        (render style expr ++ style.token line (.symbol .closeParen) :: rest) := by
    simp [parenthesized]
  rw [spread]
  change Agrees _ (((within room).expression >>= fun value =>
    expect (.symbol .closeParen) "')'" >>= fun _ => pure value) ⟨_, endLine⟩) _
  refine (Agrees.bind (readable.expression room _ endLine (closer_stops rfl rfl 0 rest))).trans ?_
  rw [expect_bind (style.token_kind _ _)]
  exact .refl _

theorem placed (inside : level ≤ 10) :
    Takes (levelParser (within room) level) level (placed style level expr (render style expr)) expr
      (placedDepth level expr (depth expr) ≤ room) := by
  unfold Program.placed placedDepth
  split
  · exact Takes.climb (Nat.le_refl 10) inside ⟨_, _, 10, rfl, rfl, Nat.le_refl 10⟩
      (readable.parentheses room expr.line)
  · exact (readable.takes room).climb (exprLevel_le expr) (by omega) readable.opens

theorem leads_placed (loops : isLoopLevel level = true) (inside : level ≤ 9) :
    Leads (within room) level (Program.placed style level expr (render style expr)) expr
      (placedDepth level expr (depth expr) ≤ room) := by
  by_cases own : exprLevel expr = level
  · subst own
    rw [Program.placed, placedDepth, if_neg (Nat.lt_irrefl _), if_neg (Nat.lt_irrefl _)]
    exact readable.leads loops room
  · have tighter := readable.placed room (by omega : level + 1 ≤ 10)
    rw [Program.placed, placedDepth] at tighter ⊢
    by_cases looser : exprLevel expr < level
    · rw [if_pos (by omega), if_pos (by omega)] at tighter
      rw [if_pos looser, if_pos looser]
      exact tighter.leads loops
    · rw [if_neg (by omega), if_neg (by omega)] at tighter
      rw [if_neg looser, if_neg looser]
      exact tighter.leads loops

theorem nested (place : level = 0 ∨ level = 3 ∨ level = 7) :
    Takes (deeper (within room) level) level
      (Program.placed style level expr (render style expr)) expr
      (placedDepth level expr (depth expr) + 1 ≤ room) :=
  deeper_takes place (fun room => readable.placed room (by omega)) room

end Readable

end Nested

section Forms

variable {style : Style} {line : Nat} {left right operand target position condition yes no : Expr}

theorem Stops.skip {rest : List Token} (stops : Stops 8 rest) : Stops 7 rest := by
  obtain ⟨token, more, rfl, below⟩ := stops
  refine ⟨token, more, rfl, ?_⟩
  intro joined found
  have bound := below joined found
  have none : joined ≠ 7 := by
    rintro rfl
    unfold joins at found
    split at found <;> simp at found
  omega

theorem operator_begins (style : Style) (op : BinaryOp) (line : Nat) :
    ∃ token more, (operatorKinds style.wording op).map (style.token line) = token :: more ∧
      joins token = some (opLevel op) := by
  cases op with
  | equal => cases style.wording <;> exact ⟨_, _, rfl, rfl⟩
  | notEqual => cases style.wording <;> exact ⟨_, _, rfl, rfl⟩
  | _ => exact ⟨_, _, rfl, rfl⟩

theorem Readable.chain {op : BinaryOp} (other : op ≠ .power) (line : Nat)
    (readLeft : Readable style left) (readRight : Readable style right) :
    Readable style (.binary line op left right) := by
  have chained := chain_opLevel other
  have loops : isLoopLevel (opLevel op) = true := by
    rw [isLoopLevel, chained, Bool.true_or]
  have bounds : opLevel op ≤ 6 := by cases op <;> simp [opLevel] at other ⊢
  have sameLeft : leftLevel op = opLevel op := if_neg other
  have sameRight : rightLevel op = opLevel op + 1 := if_neg other
  refine .ofLeads ?_ loops ?_
  · rw [render, sameLeft]
    exact (readLeft.opens.placed style (by omega : opLevel op ≤ 10)).append _
  intro room rest endLine stops
  have fits : depth (.binary line op left right) =
      max (placedDepth (opLevel op) left (depth left))
        (placedDepth (opLevel op + 1) right (depth right)) := by
    rw [depth, sameLeft, sameRight, if_neg other, Nat.add_zero]
  rw [fits, render, sameLeft, sameRight, List.append_assoc, List.append_assoc]
  obtain ⟨token, more, begins, joined⟩ := operator_begins style op line
  have separates :
      Stops (opLevel op + 1) ((operatorKinds style.wording op).map (style.token line) ++
      (Program.placed style (opLevel op + 1) right (render style right) ++ rest)) := by
    rw [begins]
    refine ⟨token, _, rfl, ?_⟩
    intro other found
    rw [joined] at found
    cases found
    omega
  have first := readLeft.leads_placed room loops (by omega) _ endLine separates
  refine (first.weaken (by omega)).trans (Agrees.loop_again ?_ ?_)
  · have opened : Opens (rightLevel op) (Program.placed style (opLevel op + 1) right
        (render style right) ++ rest) := by
      rw [sameRight]
      exact (readRight.opens.placed style (by omega)).append rest
    rw [goesOn, if_neg (by omega)]
    refine (Agrees.bind (.inl (operator_takes other line opened endLine))).trans ?_
    have second := readRight.placed room (by omega : opLevel op + 1 ≤ 10) rest endLine stops
    exact (second.weaken (by omega)).bind
  · rw [begins]
    simp only [Cursor.length, List.length_append, List.length_cons]
    omega

theorem Readable.power (line : Nat) (readLeft : Readable style left)
    (readRight : Readable style right) : Readable style (.binary line .power left right) := by
  refine .ofTakes ?_ rfl ?_
  · have base := readLeft.opens.placed style (by decide : 9 ≤ 10)
    rw [render]
    exact (base.append _).mono (by decide : 8 ≤ 9)
  intro room rest endLine stops
  rw [render, List.append_assoc, List.append_assoc]
  have fits : depth (.binary line .power left right) =
      max (placedDepth 9 left (depth left)) (placedDepth 7 right (depth right) + 1) := rfl
  have fitsLeft : depth (.binary line .power left right) ≤ room →
      placedDepth 9 left (depth left) ≤ room := by omega
  have fitsRight : depth (.binary line .power left right) ≤ room →
      placedDepth 7 right (depth right) + 1 ≤ room := by omega
  have caret : Stops 9 (style.token line (.symbol .caret) ::
      (Program.placed style 7 right (render style right) ++ rest)) :=
    ⟨_, _, rfl, by rintro _ ⟨⟩; decide⟩
  have first := readLeft.placed room (by decide : 9 ≤ 10) _ endLine caret
  refine (Agrees.bind (first.weaken fitsLeft)).trans ?_
  have second := readRight.nested room (.inr (.inr rfl)) rest endLine stops.skip
  change Agrees _ (((within room).signed >>= fun exponent =>
    pure (Expr.binary line .power left exponent)) ⟨_, endLine⟩) _
  exact (second.weaken fitsRight).bind

theorem Readable.negate (line : Nat) (read : Readable style operand) :
    Readable style (.unary line .negate operand) := by
  refine .ofTakes ⟨_, _, 7, rfl, rfl, Nat.le_refl 7⟩ rfl ?_
  intro room rest endLine stops
  have inside := read.nested room (.inr (.inr rfl)) rest endLine stops
  change Agrees _ (((within room).signed >>= fun value =>
    pure (Expr.unary line .negate value)) ⟨_, endLine⟩) _
  exact inside.bind

theorem Readable.invert (line : Nat) (read : Readable style operand) :
    Readable style (.unary line .invert operand) := by
  have kinds : style.inverting = .symbol .bang ∨ style.inverting = .keyword .negation := by
    unfold Style.inverting
    split
    · exact .inl rfl
    · exact .inr rfl
  have spelled : render style (.unary line .invert operand) = style.token line style.inverting ::
      Program.placed style 3 operand (render style operand) := rfl
  refine .ofTakes ?_ rfl ?_
  · refine ⟨_, _, 3, spelled, ?_, Nat.le_refl 3⟩
    rcases kinds with kind | kind <;> rw [style.token_kind, kind] <;> rfl
  intro room rest endLine stops
  have inside := read.nested room (.inr (.inl rfl)) rest endLine stops
  rw [spelled, List.cons_append]
  rcases kinds with kind | kind
  all_goals
    rw [kind]
    change Agrees _ (((within room).inverted >>= fun value =>
      pure (Expr.unary line .invert value)) ⟨_, endLine⟩) _
    exact inside.bind

theorem Readable.conditional (line : Nat) (readCondition : Readable style condition)
    (readYes : Readable style yes) (readNo : Readable style no) :
    Readable style (.conditional line condition yes no) := by
  refine .ofTakes ?_ rfl ?_
  · have first := readCondition.opens.placed style (by decide : 1 ≤ 10)
    rw [render]
    exact (first.append _).mono (by decide : 0 ≤ 1)
  intro room rest endLine stops
  rw [render, List.append_assoc, List.cons_append, List.append_assoc, List.cons_append]
  have fits : depth (.conditional line condition yes no) =
      max (placedDepth 1 condition (depth condition)) (max (depth yes + 1) (depth no + 1)) := by
    rw [depth]
  have fitsCondition : depth (.conditional line condition yes no) ≤ room →
      placedDepth 1 condition (depth condition) ≤ room := by omega
  have fitsYes : depth (.conditional line condition yes no) ≤ room → depth yes + 1 ≤ room := by
    omega
  have fitsNo : depth (.conditional line condition yes no) ≤ room → depth no + 1 ≤ room := by omega
  have question : Stops 1 (style.token line (.symbol .question) :: (render style yes ++
      style.token line (.symbol .colon) :: (render style no ++ rest))) :=
    ⟨_, _, rfl, by rintro _ ⟨⟩; decide⟩
  have colon : Stops 0 (style.token line (.symbol .colon) :: (render style no ++ rest)) :=
    ⟨_, _, rfl, by rintro _ ⟨⟩⟩
  have first := readCondition.placed room (by decide : 1 ≤ 10) _ endLine question
  refine (Agrees.bind (first.weaken fitsCondition)).trans ?_
  have second := readYes.expression room _ endLine colon
  change Agrees _ (((within room).expression >>= fun yes =>
    expect (.symbol .colon) "':' in conditional expression" >>= fun _ =>
      (within room).expression >>= fun no =>
        pure (Expr.conditional line condition yes no)) ⟨_, endLine⟩) _
  refine (Agrees.bind (second.weaken fitsYes)).trans ?_
  rw [expect_bind (style.token_kind _ _)]
  have third := readNo.expression room rest endLine stops
  exact (third.weaken fitsNo).bind

theorem Readable.index (line : Nat) (readTarget : Readable style target)
    (readPosition : Readable style position) : Readable style (.index line target position) := by
  refine .ofLeads ?_ rfl ?_
  · rw [render]
    exact (readTarget.opens.placed style (by decide : 9 ≤ 10)).append _
  intro room rest endLine stops
  rw [render, List.append_assoc, List.cons_append, List.append_assoc, List.singleton_append]
  have fits : depth (.index line target position) =
      max (placedDepth 9 target (depth target)) (depth position + 1) := by rw [depth]
  have fitsTarget : depth (.index line target position) ≤ room →
      placedDepth 9 target (depth target) ≤ room := by omega
  have fitsPosition : depth (.index line target position) ≤ room →
      depth position + 1 ≤ room := by omega
  have bracket : Stops 10 (style.indexBracket line :: (render style position ++
      style.token line (.symbol .closeBracket) :: rest)) :=
    ⟨_, _, rfl, by rintro _ ⟨⟩; decide⟩
  have first := readTarget.leads_placed room rfl (by decide : 9 ≤ 9) _ endLine bracket
  refine (first.weaken fitsTarget).trans (Agrees.loop_again ?_ ?_)
  · have second := readPosition.expression room _ endLine
      (closer_stops rfl (style.token_kind line (.symbol .closeBracket)) 0 rest)
    change Agrees _ (((within room).expression >>= fun position =>
      expect (.symbol .closeBracket) "']'" >>= fun _ =>
        pure (Sum.inl (Expr.index line target position))) ⟨_, endLine⟩) _
    refine (Agrees.bind (second.weaken fitsPosition)).trans ?_
    rw [expect_bind (style.token_kind _ _)]
    exact .refl _
  · simp only [Cursor.length, List.length_append, List.length_cons]
    omega

theorem nameOf_named {name : String} (starts : startsLikeName name = true) (style : Style)
    (line : Nat) : nameOf? (style.named line (Token.wordKind name) name) = some name := by
  cases letters : name.toList with
  | nil => simp [startsLikeName, letters] at starts
  | cons first more =>
      rw [startsLikeName, letters] at starts
      have begins : (Text.isLetter first || first == '_') = true := starts
      rcases Token.wordKind_names name with kind | kind | ⟨truth, kind⟩ | ⟨keyword, kind⟩ <;>
        simp only [nameOf?, Style.named, kind, letters, begins, if_true]

theorem Readable.property {name : String} (line : Nat) (small : Text.lower name = name)
    (starts : startsLikeName name = true) (readTarget : Readable style target) :
    Readable style (.property line target name) := by
  refine .ofLeads ?_ rfl ?_
  · rw [render]
    exact (readTarget.opens.placed style (by decide : 9 ≤ 10)).append _
  intro room rest endLine stops
  rw [render, depth, List.append_assoc, List.cons_append, List.singleton_append]
  have dot : Stops 10 (style.token line (.symbol .dot) ::
      style.named line (Token.wordKind name) name :: rest) :=
    ⟨_, _, rfl, by rintro _ ⟨⟩; decide⟩
  have first := readTarget.leads_placed room rfl (by decide : 9 ≤ 9) _ endLine dot
  refine first.trans (Agrees.loop_again ?_ ?_)
  · have single := stops.head_ne (.symbol .openParen) 10 (fun _ _ _ => rfl) (Nat.le_refl 10) endLine
    change Agrees _ ((expectName "property name" >>= fun spelled =>
      isNext (.symbol .openParen) >>= fun called =>
        if called = true then (within room).callArguments >>= fun arguments =>
          pure (Sum.inl (Expr.call line (Text.lower spelled) (target :: arguments)))
        else pure (Sum.inl (Expr.property line target (Text.lower spelled))))
      ⟨style.named line (Token.wordKind name) name :: rest, endLine⟩) _
    rw [expectName_bind (nameOf_named starts style line)]
    change Agrees _ ((if _ = true then _ else _ : Parser (Expr ⊕ Expr)) _) _
    rw [single, small]
    exact .refl _
  · simp only [Cursor.length, List.length_cons]
    omega

theorem Readable.primary {expr : Expr} (own : exprLevel expr = 10)
    (opens : Opens 10 (render style expr))
    (reads : ∀ room rest endLine, Stops 10 rest → Agrees (depth expr ≤ room)
      ((within room).primary ⟨render style expr ++ rest, endLine⟩) (.ok (expr, ⟨rest, endLine⟩))) :
    Readable style expr := by
  refine .ofTakes ?_ ?_ ?_
  · rw [own]
    exact opens
  · rw [own]
    rfl
  · rw [own]
    exact reads

theorem Readable.literal (line : Nat) {value : Literal}
    (writable : isWritable (.literal line value) = true) :
    Readable style (.literal line value) := by
  refine .primary rfl ?_ ?_
  · cases value <;> exact ⟨_, _, 10, rfl, rfl, Nat.le_refl 10⟩
  intro room rest endLine stops
  refine .inl ?_
  cases value with
  | text content =>
      change Except.ok (templateExpr line content, _) = _
      rw [templateExpr_plain line writable]
      rfl
  | _ => rfl

theorem Readable.stored (line : Nat) {key : Expr}
    (writable : isWritable (.stored line key) = true) :
    Readable style (.stored line key) := by
  refine .primary rfl ⟨_, _, 10, rfl, rfl, Nat.le_refl 10⟩ ?_
  intro room rest endLine stops
  refine .inl ?_
  obtain ⟨content, plain, rfl⟩ : ∃ content : String, isPlain false content.toList = true ∧
      key = .literal line (.text content) := by
    unfold isWritable at writable
    split at writable <;> simp_all
  change Except.ok (Expr.stored line (keyExpr line content), _) = _
  rw [keyExpr_plain line plain]
  rfl

theorem reads_items {items : List Expr} (room : Nat)
    (readable : ∀ item ∈ items, Readable style item) :
    List.Forall₂ (fun row value => Opens 0 row ∧
      Takes (within room).expression 0 row value (depthItems items ≤ room))
      (renderItems style items) items := by
  rw [renderItems_eq, List.forall₂_map_left_iff, List.forall₂_same]
  intro item member
  have below := depth_lt_items member
  have fits : depthItems items ≤ room → depth item + 1 ≤ room := by omega
  refine ⟨(readable item member).opens.mono (Nat.zero_le _), ?_⟩
  intro rest endLine stops
  exact ((readable item member).expression room rest endLine stops).weaken fits

theorem callKind_callable (name : String) :
    callKind name = .word name ∨
      ∃ keyword, callKind name = .keyword keyword ∧ Grammar.isCallable keyword = true := by
  unfold callKind
  split
  · split
    · rename_i keyword _ callable
      exact .inr ⟨keyword, rfl, callable⟩
    · exact .inl rfl
  · exact .inl rfl

theorem primary_call (inner : Grammar) (style : Style) (line : Nat) (name : String)
    (rest : List Token) (endLine : Nat) :
    inner.primary ⟨style.named line (callKind name) name ::
        style.token line (.symbol .openParen) :: rest, endLine⟩ =
      (inner.callArguments >>= fun arguments =>
        pure (Expr.call line (Text.lower name) arguments))
          ⟨style.token line (.symbol .openParen) :: rest, endLine⟩ := by
  rcases callKind_callable name with kind | ⟨keyword, kind, callable⟩
  · rw [Style.named, kind]
    rfl
  · rw [Style.named, kind]
    cases keyword <;> first | rfl | cases callable

theorem Readable.call {name : String} {arguments : List Expr} (line : Nat)
    (small : Text.lower name = name) (readable : ∀ argument ∈ arguments, Readable style argument) :
    Readable style (.call line name arguments) := by
  refine .primary rfl ?_ ?_
  · rw [render]
    refine ⟨_, _, 10, rfl, ?_, Nat.le_refl 10⟩
    rcases callKind_callable name with kind | ⟨keyword, kind, callable⟩
    · rw [Style.named, kind]
      rfl
    · rw [Style.named, kind]
      cases keyword <;> first | rfl | cases callable
  intro room rest endLine stops
  have read := separated_takes "')'" rfl (style.token_kind line (.symbol .comma))
    (style.token_kind line (.symbol .closeParen)) (reads_items room readable) rest endLine
  rw [render, depth, List.cons_append, List.cons_append, List.append_assoc, List.singleton_append,
    primary_call, small]
  have called : Agrees (depthItems arguments ≤ room)
      ((within room).callArguments ⟨style.token line (.symbol .openParen) ::
        (commaSeparated (style.token line (.symbol .comma)) (renderItems style arguments) ++
          style.token line (.symbol .closeParen) :: rest), endLine⟩)
      (.ok (arguments, ⟨rest, endLine⟩)) := by
    rw [Grammar.callArguments, expect_bind (style.token_kind _ _)]
    exact read
  exact called.bind

theorem Readable.list {items : List Expr} (line : Nat)
    (readable : ∀ item ∈ items, Readable style item) : Readable style (.list line items) := by
  refine .primary rfl ⟨_, _, 10, rfl, rfl, Nat.le_refl 10⟩ ?_
  intro room rest endLine stops
  rw [render, depth, List.cons_append, List.append_assoc, List.singleton_append]
  have read := separated_takes "']'" rfl (style.token_kind line (.symbol .comma))
    (style.token_kind line (.symbol .closeBracket)) (reads_items room readable) rest endLine
  change Agrees _ ((separated .closeBracket "']'" (within room).expression >>= fun items =>
    pure (Expr.list line items)) ⟨_, endLine⟩) _
  exact read.bind

theorem reads_entries (line : Nat) {entries : List (Expr × Expr)} (room : Nat)
    (readable : ∀ entry ∈ entries, Readable style entry.1 ∧ Readable style entry.2) :
    List.Forall₂ (fun row value => Opens 0 row ∧
      Takes (within room).mapEntry 0 row value (depthEntries entries ≤ room))
      (renderEntries style line entries) entries := by
  rw [renderEntries_eq, List.forall₂_map_left_iff, List.forall₂_same]
  intro entry member
  obtain ⟨readKey, readValue⟩ := readable entry member
  have below := depth_lt_entries member
  have fitsKey : depthEntries entries ≤ room → depth entry.1 + 1 ≤ room := by omega
  have fitsValue : depthEntries entries ≤ room → depth entry.2 + 1 ≤ room := by omega
  refine ⟨(readKey.opens.mono (Nat.zero_le _)).append _, ?_⟩
  intro rest endLine stops
  have colon : Stops 0 (style.token line (.symbol .colon) :: (render style entry.2 ++ rest)) :=
    ⟨_, _, rfl, by rintro _ ⟨⟩⟩
  have first := readKey.expression room _ endLine colon
  have second := readValue.expression room rest endLine stops
  rw [renderEntry, List.append_assoc, List.cons_append, Grammar.mapEntry]
  refine (Agrees.bind (first.weaken fitsKey)).trans ?_
  rw [expect_bind (style.token_kind _ _)]
  exact (second.weaken fitsValue).bind

theorem Readable.map {entries : List (Expr × Expr)} (line : Nat)
    (readable : ∀ entry ∈ entries, Readable style entry.1 ∧ Readable style entry.2) :
    Readable style (.map line entries) := by
  refine .primary rfl ⟨_, _, 10, rfl, rfl, Nat.le_refl 10⟩ ?_
  intro room rest endLine stops
  rw [render, depth, List.cons_append, List.append_assoc, List.singleton_append]
  have read := separated_takes "'\x7d'" rfl (style.token_kind line (.symbol .comma))
    (style.token_kind line (.symbol .closeBrace)) (reads_entries line room readable) rest endLine
  change Agrees _ ((separated .closeBrace "'\x7d'" (within room).mapEntry >>= fun entries =>
    pure (Expr.map line entries)) ⟨_, endLine⟩) _
  exact read.bind

end Forms

section Whole

/-- Every expression that can be written is read back, at every level. -/
theorem isWritable.readable (style : Style) (expr : Expr) (writable : isWritable expr = true) :
    Readable style expr := by
  induction expr using height_induction with
  | _ expr ih =>
  cases expr with
  | literal line value => exact .literal line writable
  | reference line name =>
      refine .primary rfl ⟨_, _, 10, rfl, rfl, Nat.le_refl 10⟩ ?_
      intro room rest endLine stops
      exact .refl _
  | stored line key => exact .stored line writable
  | binary line op left right =>
      rw [isWritable, Bool.and_eq_true] at writable
      have readLeft := ih left (by rw [height]; omega) writable.1
      have readRight := ih right (by rw [height]; omega) writable.2
      by_cases raises : op = .power
      · subst raises
        exact .power line readLeft readRight
      · exact .chain raises line readLeft readRight
  | unary line op operand =>
      rw [isWritable] at writable
      have read := ih operand (by rw [height]; omega) writable
      cases op with
      | negate => exact .negate line read
      | invert => exact .invert line read
  | call line name arguments =>
      rw [isWritable, Bool.and_eq_true, beq_iff_eq] at writable
      refine .call line writable.1 ?_
      intro argument member
      have shorter := height_lt_items member
      exact ih argument (by rwa [height]) (isWritable_item writable.2 member)
  | index line target position =>
      rw [isWritable, Bool.and_eq_true] at writable
      have readTarget := ih target (by rw [height]; omega) writable.1
      have readPosition := ih position (by rw [height]; omega) writable.2
      exact .index line readTarget readPosition
  | property line target name =>
      rw [isWritable, Bool.and_eq_true, Bool.and_eq_true, beq_iff_eq] at writable
      have readTarget := ih target (by rw [height]; omega) writable.2
      exact .property line writable.1.1 writable.1.2 readTarget
  | list line items =>
      rw [isWritable] at writable
      refine .list line ?_
      intro item member
      have shorter := height_lt_items member
      exact ih item (by rwa [height]) (isWritable_item writable member)
  | map line entries =>
      rw [isWritable] at writable
      refine .map line ?_
      intro entry member
      have shorter := height_lt_entries member
      have both := isWritable_entry writable member
      exact ⟨ih entry.1 (by rw [height]; exact shorter.1) both.1,
        ih entry.2 (by rw [height]; exact shorter.2) both.2⟩
  | template line parts => cases writable
  | conditional line condition yes no =>
      rw [isWritable, Bool.and_eq_true, Bool.and_eq_true] at writable
      have readCondition := ih condition (by rw [height]; omega) writable.1
      have readYes := ih yes (by rw [height]; omega) writable.2.1
      have readNo := ih no (by rw [height]; omega) writable.2.2
      exact .conditional line readCondition readYes readNo

/-- The line after the expression is where the parser stands then. The limit on nesting is the one
thing that may get in the way, and does not for a tree of moderate height. -/
theorem expression_reads_back (style : Style) {expr : Expr} (writable : isWritable expr = true)
    {lineEnd : Token} (ends : lineEnd.kind = .newline) (rest : List Token) (endLine : Nat) :
    let outcome := (within nestingLimit).expression ⟨render style expr ++ lineEnd :: rest, endLine⟩
    (outcome = .ok (expr, ⟨lineEnd :: rest, endLine⟩) ∨
        ∃ line, outcome = .error ⟨.nestingTooDeep, line⟩) ∧
      (height expr ≤ 30 → outcome = .ok (expr, ⟨lineEnd :: rest, endLine⟩)) := by
  have stops : Stops 0 (lineEnd :: rest) := by
    refine ⟨_, _, rfl, ?_⟩
    intro joined found
    rw [joins, ends] at found
    cases found
  have agrees := (isWritable.readable style expr writable).expression nestingLimit _ endLine stops
  constructor
  · exact agrees.imp_right And.right
  · intro moderate
    have bound := depth_le expr
    rcases agrees with same | ⟨few, _⟩
    · exact same
    · exact absurd (show depth expr + 1 ≤ 64 by omega) few

def mixture : Expr :=
  .unary 1 .invert (.binary 1 .equal
    (.binary 1 .subtract (.binary 1 .subtract (.reference 1 "a") (.reference 1 "b"))
      (.unary 1 .negate
        (.binary 1 .power (.reference 1 "c") (.unary 1 .negate (.reference 1 "d")))))
    (.property 1 (.list 1 [.reference 1 "a", .reference 1 "b"]) "size"))

theorem mixture_reads_back : isWritable mixture = true ∧ height mixture ≤ 30 ∧
    (within nestingLimit).expression
        ⟨render ⟨.words, fun _ => "", fun _ => true⟩ mixture ++ [⟨.newline, "\n", 1, false⟩], 1⟩ =
      .ok (mixture, ⟨[⟨.newline, "\n", 1, false⟩], 1⟩) := by
  have writable : isWritable mixture = true := by decide +kernel
  have moderate : height mixture ≤ 30 := by decide
  exact ⟨writable, moderate,
    (expression_reads_back ⟨.words, fun _ => "", fun _ => true⟩ writable rfl
    [] 1).2 moderate⟩

end Whole

end EventScript.Program
