import EventScript.Proofs.Program.Forward
import EventScript.Proofs.Program.Room
import EventScript.Proofs.Token.Signs

/-!
What a minus sign is bound to. A sign that is a token of its own takes in the whole power behind it,
with its indices, properties and calls. A sign that was read as part of a literal is inside of all
that: the power is then one of the negative number.
-/

namespace EventScript.Program

open EventScript.Program.Parser
open Token (IsLiteral Reached joined scan)

def beginsSuffix (token : Token) : Bool :=
  match token.kind with
  | .symbol .dot => true
  | .symbol .openBracket => !token.spaced
  | _ => false

/-- What binds an operand tighter than a minus sign before it does. -/
def bindsTighter (token : Token) : Bool :=
  token.kind == .symbol .caret || beginsSuffix token

/-- Trees that are alike but for the leftmost operand, which is `first` in the one and `second` in
the other. -/
inductive Alike (first second : Expr) : Expr → Expr → Prop
  | operand : Alike first second first second
  | index {target other : Expr} (line : Nat) (position : Expr)
      (same : Alike first second target other) :
      Alike first second (.index line target position) (.index line other position)
  | property {target other : Expr} (line : Nat) (name : String)
      (same : Alike first second target other) :
      Alike first second (.property line target name) (.property line other name)
  | call {target other : Expr} (line : Nat) (name : String) (arguments : List Expr)
      (same : Alike first second target other) :
      Alike first second (.call line name (target :: arguments))
        (.call line name (other :: arguments))
  | power {base other : Expr} (line : Nat) (exponent : Expr)
      (same : Alike first second base other) :
      Alike first second (.binary line .power base exponent) (.binary line .power other exponent)

namespace Grammar

def raise (inner : Grammar) (base : Expr) : Parser Expr := do
  if ← isNext (.symbol .caret) then
    let token ← advance
    let exponent ← inner.signed
    return .binary token.line .power base exponent
  else return base

def bound (inner : Grammar) (operand : Expr) : Parser Expr := do
  inner.raise (← loop inner.suffix operand)

theorem keptBehind_alike (first second : Expr) : KeptBehind (Alike first second) where
  index line position _ _ := .index line position
  property line name _ _ := .property line name
  call line name arguments _ _ := .call line name arguments

section Operands

variable {inner narrower wider : Grammar} {token : Token} {value : Double} {rest : List Token}
  {endLine : Nat}

theorem bound_mirrors (widens : Widens narrower wider) (first second : Expr) :
    Mirrors (Alike first second) (narrower.bound first) (wider.bound second) := by
  refine (suffixes_mirror widens (keptBehind_alike first second) .operand).bind ?_
  intro base other same
  refine .next _ fun _ => .ite (.next _ fun token => ?_) (.pure same)
  exact widens.signed.andThen fun exponent => .pure (.power token.line exponent same)

theorem minus_literal (number : token.kind = .number value) :
    inner.minus ⟨token :: rest, endLine⟩ =
      inner.bound (.literal token.line (.number value)) ⟨rest, endLine⟩ := by
  obtain ⟨kind, lexeme, line, spaced⟩ := token
  cases number
  rfl

theorem minus_sign (sign : token.kind = .symbol .minus) {tree : Expr} {after : Cursor}
    (read : inner.signed ⟨rest, endLine⟩ = .ok (tree, after)) :
    inner.minus ⟨token :: rest, endLine⟩ = .ok (.unary token.line .negate tree, after) := by
  obtain ⟨kind, lexeme, line, spaced⟩ := token
  cases sign
  change (inner.signed ⟨rest, endLine⟩ >>= fun found => _) = _
  rw [read]
  rfl

theorem suffixes_apart (apart : ∀ next ∈ rest.head?, beginsSuffix next = false) (target : Expr) :
    loop inner.suffix target ⟨rest, endLine⟩ = .ok (target, ⟨rest, endLine⟩) := by
  have ended : inner.suffix target ⟨rest, endLine⟩ = .ok (.inr target, ⟨rest, endLine⟩) := by
    cases rest with
    | nil => rfl
    | cons next rest =>
        obtain ⟨kind, lexeme, line, spaced⟩ := next
        have none := apart _ rfl
        cases kind with
        | symbol mark =>
            cases mark with
            | openBracket =>
                cases spaced with
                | true => rfl
                | false => cases none
            | dot => cases none
            | _ => rfl
        | _ => rfl
  rw [loop, ended]

theorem bound_apart (apart : ∀ next ∈ rest.head?, bindsTighter next = false) (operand : Expr) :
    inner.bound operand ⟨rest, endLine⟩ = .ok (operand, ⟨rest, endLine⟩) := by
  have apart (next : Token) (head : next ∈ rest.head?) :
      (next.kind == .symbol .caret) = false ∧ beginsSuffix next = false := by
    simpa [bindsTighter] using apart next head
  change
    (loop inner.suffix operand ⟨rest, endLine⟩ >>= fun found => inner.raise found.1 found.2) = _
  rw [suffixes_apart fun next head => (apart next head).2]
  have unraised : ((Cursor.mk rest endLine).peek.kind == .symbol .caret) = false := by
    cases rest with
    | nil => rfl
    | cons next rest => exact (apart next rfl).1
  change (if ((Cursor.mk rest endLine).peek.kind == .symbol .caret) = true then _ else _ :
    Parser Expr) _ = _
  rw [unraised]
  rfl

theorem bound_raised {caret : Token} (raises : caret.kind = .symbol .caret) {exponent : Expr}
    {after : Cursor} (read : inner.signed ⟨rest, endLine⟩ = .ok (exponent, after))
    (operand : Expr) : inner.bound operand ⟨caret :: rest, endLine⟩ =
      .ok (.binary caret.line .power operand exponent, after) := by
  have apart : ∀ next ∈ (caret :: rest).head?, beginsSuffix next = false := by
    rintro _ ⟨⟩
    rw [beginsSuffix, raises]
  change (loop inner.suffix operand ⟨caret :: rest, endLine⟩ >>= fun found =>
    inner.raise found.1 found.2) = _
  rw [suffixes_apart apart]
  change (if (caret.kind == .symbol .caret) = true then _ else _ : Parser Expr) _ = _
  rw [raises]
  change (inner.signed ⟨rest, endLine⟩ >>= fun found => _) = _
  rw [read]
  rfl

end Operands

end Grammar

section Signs

def signToken (line : Nat) (spaced : Bool) : Token := ⟨.symbol .minus, "-", line, spaced⟩

def numberToken (value : Double) (literal : String) (line : Nat) (spaced : Bool) : Token :=
  ⟨.number value, literal, line, spaced⟩

/-- A sign that is part of a literal and a sign that stands by itself before the literal, as they
are read with `room` levels left where an operand is due. They come to the same if nothing behind
the literal binds tighter than a minus sign. If something does, the one is inside of it and the
other one outside. -/
structure SignReading (value : Double) (literal : String) (line : Nat) (spaced : Bool)
    (back : List Token) : Prop where
  alone : (∀ next ∈ back.head?, bindsTighter next = false) → ∀ room endLine blank,
    (Grammar.within (room + 1)).minus
        ⟨numberToken (-value) ("-" ++ literal) line spaced :: back, endLine⟩ =
      .ok (.literal line (.number (-value)), ⟨back, endLine⟩) ∧
    (Grammar.within (room + 1)).minus
        ⟨signToken line spaced :: numberToken value literal line blank :: back, endLine⟩ =
      .ok (.unary line .negate (.literal line (.number value)), ⟨back, endLine⟩)
  raised : ∀ caret more, back = caret :: more → caret.kind = .symbol .caret →
    ∀ room endLine exponent after,
      (Grammar.within room).signed ⟨more, endLine⟩ = .ok (exponent, after) → ∀ blank,
        (Grammar.within (room + 1)).minus
            ⟨numberToken (-value) ("-" ++ literal) line spaced :: back, endLine⟩ =
          .ok (.binary caret.line .power (.literal line (.number (-value))) exponent, after) ∧
        (Grammar.within (room + 1)).minus
            ⟨signToken line spaced :: numberToken value literal line blank :: back, endLine⟩ =
          .ok (.unary line .negate
            (.binary caret.line .power (.literal line (.number value)) exponent), after)
  apart : ∀ room endLine blank tree after,
    (Grammar.within room).minus ⟨numberToken value literal line blank :: back, endLine⟩ =
        .ok (tree, after) →
      (∃ other,
        Alike (.literal line (.number value)) (.literal line (.number (-value))) tree other ∧
        (Grammar.within (room + 1)).minus
            ⟨numberToken (-value) ("-" ++ literal) line spaced :: back, endLine⟩ =
          .ok (other, after)) ∧
      (Grammar.within (room + 1)).minus
          ⟨signToken line spaced :: numberToken value literal line blank :: back, endLine⟩ =
        .ok (.unary line .negate tree, after)

theorem signReading (value : Double) (literal : String) (line : Nat) (spaced : Bool)
    (back : List Token) : SignReading value literal line spaced back where
  alone := by
    intro apart room endLine blank
    constructor
    · exact (Grammar.minus_literal rfl).trans (Grammar.bound_apart apart _)
    · exact Grammar.minus_sign rfl
        ((Grammar.minus_literal rfl).trans (Grammar.bound_apart apart _))
  raised := by
    rintro caret more rfl raises room endLine exponent after read blank
    obtain ⟨other, wider, same⟩ :=
      (Grammar.within_widens room).signed ⟨more, endLine⟩ exponent after read
    subst same
    constructor
    · exact (Grammar.minus_literal rfl).trans (Grammar.bound_raised raises wider _)
    · exact Grammar.minus_sign rfl
        ((Grammar.minus_literal rfl).trans (Grammar.bound_raised raises read _))
  apart := by
    intro room endLine blank tree after read
    refine ⟨?_, Grammar.minus_sign rfl read⟩
    rw [Grammar.minus_literal rfl] at read
    obtain ⟨other, wider, alike⟩ := Grammar.bound_mirrors (Grammar.within_widens room)
      (.literal line (.number value)) (.literal line (.number (-value))) ⟨back, endLine⟩ tree after
      read
    exact ⟨other, alike, (Grammar.minus_literal rfl).trans wider⟩

/-- A literal behind a minus sign, with and without a blank between, at any place of any script.
What is read before and behind is the same; only where an operand is due are the two read
differently. -/
theorem minus_before_literal (above start literal behind below : String) {due : Bool}
    (boundary : ∀ char ∈ above.toList.getLast?, char = '\n')
    (single : ∀ char ∈ (start ++ literal ++ behind).toList, char ≠ '\n')
    (ends : ∀ char ∈ below.toList.head?, char = '\n')
    (whole : IsLiteral literal.toList behind.toList)
    (reached : Reached start.toList ('-' :: (literal.toList ++ behind.toList)) due) :
    ∃ (value : Double) (line : Nat) (spaced : Bool)
      (parts : Except SourceError (List Token × List Token)),
      Number.readDecimal? false literal.toList = some value ∧
      scan (above ++ (start ++ ("-" ++ literal ++ behind)) ++ below) = parts.map (joined
        (if due then [numberToken (-value) ("-" ++ literal) line spaced]
          else [signToken line spaced, numberToken value literal line false])) ∧
      scan (above ++ (start ++ ("- " ++ literal ++ behind)) ++ below) = parts.map (joined
        [signToken line spaced, numberToken value literal line true]) ∧
      ∀ back, SignReading value literal line spaced back := by
  obtain ⟨value, read⟩ := whole.value
  obtain ⟨spaced, reached⟩ := reached
  have inStart : ∀ char ∈ start.toList, char ≠ '\n' := by
    intro char member
    exact single char (by simp [member])
  have inRest : ∀ char ∈ literal.toList ++ behind.toList, char ≠ '\n' := by
    intro char member
    refine single char ?_
    simp only [String.toList_append, List.mem_append] at member ⊢
    tauto
  obtain ⟨line, places⟩ := Token.scan_reached above start behind below boundary ends inStart
  obtain ⟨front, reads⟩ := reached line
  obtain ⟨parts, scanned⟩ := places front
  refine ⟨value, line, spaced, parts, read, ?_, ?_, signReading value literal line spaced⟩
  · refine scanned due spaced _ (literal.toList ++ behind.toList) _ (by simp) inRest reads ?_
    cases due with
    | true =>
        rw [Token.scanBody_signed whole read]
        simp [numberToken]
    | false =>
        have found := Token.scanBody_apart line false spaced whole read false (.inr rfl)
        simpa [signToken, numberToken] using found
  · have again : Token.Reads line
        ⟨true, true,
          (Token.measure (start.toList ++ '-' :: ' ' :: (literal.toList ++ behind.toList))).2⟩
        front ⟨due, spaced, '-' :: ' ' :: (literal.toList ++ behind.toList)⟩ := by
      rw [Token.measure_stop rfl] at reads ⊢
      exact reads.minus (by simp) (by rintro _ ⟨⟩; decide +kernel)
    refine scanned due spaced _ (' ' :: (literal.toList ++ behind.toList)) _ (by simp) ?_ again ?_
    · intro char member
      rcases List.mem_cons.mp member with rfl | inner
      · decide
      · exact inRest char inner
    · have found := Token.scanBody_apart line due spaced whole read true (.inl rfl)
      simpa [signToken, numberToken] using found

theorem negative_two_squared :
    let above := "on t:\n"
    let start := "    %x% = "
    let literal := "2"
    let behind := " ^ 2"
    let below := "\n"
    (∀ char ∈ above.toList.getLast?, char = '\n') ∧
      (∀ char ∈ (start ++ literal ++ behind).toList, char ≠ '\n') ∧
      (∀ char ∈ below.toList.head?, char = '\n') ∧ IsLiteral literal.toList behind.toList ∧
      Reached start.toList ('-' :: (literal.toList ++ behind.toList)) true ∧
      ∃ (value : Double) (line : Nat) (spaced : Bool)
        (parts : Except SourceError (List Token × List Token)),
        Number.readDecimal? false literal.toList = some value ∧
        scan (above ++ (start ++ ("-" ++ literal ++ behind)) ++ below) = parts.map (joined
          [numberToken (-value) ("-" ++ literal) line spaced]) ∧
        scan (above ++ (start ++ ("- " ++ literal ++ behind)) ++ below) = parts.map (joined
          [signToken line spaced, numberToken value literal line true]) ∧
        ∀ back, SignReading value literal line spaced back := by
  intro above start literal behind below
  have boundary : ∀ char ∈ above.toList.getLast?, char = '\n' := by simp [above]
  have single : ∀ char ∈ (start ++ literal ++ behind).toList, char ≠ '\n' := by
    simp [start, literal, behind]
  have ends : ∀ char ∈ below.toList.head?, char = '\n' := by simp [below]
  have whole : IsLiteral literal.toList behind.toList := ⟨by decide +kernel, by decide +kernel⟩
  have reached : Reached start.toList ('-' :: (literal.toList ++ behind.toList)) true := by
    have body : (Token.measure (start.toList ++ '-' :: (literal.toList ++ behind.toList))).2 =
        ['%', 'x', '%', ' ', '=', ' ', '-', '2', ' ', '^', ' ', '2'] := by decide +kernel
    have rest : '-' :: (literal.toList ++ behind.toList) = ['-', '2', ' ', '^', ' ', '2'] := by
      decide +kernel
    refine ⟨true, fun line => ⟨[⟨.reference "x", "%x%", line, true⟩,
      ⟨.symbol .assign, "=", line, true⟩], ?_⟩⟩
    rw [body, rest]
    have name : Token.pieceAt true '%' ['x', '%', ' ', '=', ' ', '-', '2', ' ', '^', ' ', '2'] =
        .ok ⟨.reference "x", 2, none⟩ := by rfl
    have mark : Token.pieceAt false '=' [' ', '-', '2', ' ', '^', ' ', '2'] =
        .ok ⟨.symbol .assign, 0, none⟩ := by rfl
    have assignment : Token.Reads line ⟨false, true, ['=', ' ', '-', '2', ' ', '^', ' ', '2']⟩
        [⟨.symbol .assign, "=", line, true⟩] ⟨true, true, ['-', '2', ' ', '^', ' ', '2']⟩ :=
      .piece (by decide) (by decide) mark (.blank (by decide) (by decide) (.here _))
    exact .piece (by decide) (by decide) name (.blank (by decide) (by decide) assignment)
  exact ⟨boundary, single, ends, whole, reached,
    minus_before_literal above start literal behind below boundary single ends whole reached⟩

def assigned (program : Program) : List Expr :=
  program.flatMap fun
    | .event handler => handler.body.statements.filterMap fun
      | .assign _ _ value => some value
      | _ => none
    | _ => []

def isNegation : Expr → Bool
  | .unary _ .negate _ => true
  | _ => false

def isVariablePower : Expr → Bool
  | .binary _ .power (.reference ..) _ => true
  | _ => false

/-- Behind a variable the text makes a power, and nothing else. -/
def IsExponent (exponent : String) : Prop :=
  ((parse ("on t:\n    %x% = %y% ^ " ++ exponent ++ "\n")).toOption.map fun program =>
    (assigned program).map isVariablePower) = some [true]

/-- The power of a negative literal is no negation of a power. -/
theorem negative_power_unnegated :
    ¬∀ (literal exponent : String) (program : Program),
      IsLiteral literal.toList (" ^ " ++ exponent).toList → IsExponent exponent →
      parse ("on t:\n    %x% = -" ++ literal ++ " ^ " ++ exponent ++ "\n") = .ok program →
      ∀ value ∈ assigned program, isNegation value = true := by
  intro claim
  have shape : ((parse ("on t:\n    %x% = -" ++ "2" ++ " ^ " ++ "2" ++ "\n")).toOption.map
      fun program => (assigned program).map isNegation) = some [false] := by decide +kernel
  obtain ⟨program, parsed, values⟩ := parse_of_view shape
  have exponent : IsExponent "2" := by rw [IsExponent]; decide +kernel
  have all := claim "2" "2" program ⟨by decide +kernel, by decide +kernel⟩ exponent parsed
  have negations : ∀ truth ∈ (assigned program).map isNegation, truth = true := by
    simpa using all
  rw [values] at negations
  exact absurd (negations false List.mem_cons_self) Bool.false_ne_true

end Signs

end EventScript.Program
