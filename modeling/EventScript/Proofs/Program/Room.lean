import Mathlib.Data.Sum.Basic
import EventScript.Program.Expression

/-!
More room for nesting makes no difference but that more is read. What is read with the levels that
are left is read to the same tree, and to the same place, with one level more.
-/

namespace EventScript.Program

open EventScript.Program.Parser

/-- What the first parser reads, the second one reads to the same place, with a related result. -/
def Mirrors {α β : Type} (related : α → β → Prop) (first : Parser α) (second : Parser β) : Prop :=
  ∀ cursor value after, first cursor = .ok (value, after) →
    ∃ other, second cursor = .ok (other, after) ∧ related value other

namespace Mirrors

variable {α β γ δ σ τ : Type} {related : α → β → Prop} {later : γ → δ → Prop}

theorem refl (parser : Parser α) : Mirrors Eq parser parser :=
  fun _ value _ read => ⟨value, read, rfl⟩

theorem pure {value : α} {other : β} (same : related value other) :
    Mirrors related (Pure.pure value) (Pure.pure other) := by
  intro cursor result after read
  cases read
  exact ⟨other, rfl, same⟩

theorem bind {first : Parser α} {second : Parser β} {next : α → Parser γ} {next' : β → Parser δ}
    (starts : Mirrors related first second)
    (goes : ∀ value other, related value other → Mirrors later (next value) (next' other)) :
    Mirrors later (first >>= next) (second >>= next') := by
  intro cursor result after read
  change (first cursor >>= fun found => next found.1 found.2) = _ at read
  cases found : first cursor with
  | error error =>
      rw [found] at read
      cases read
  | ok middle =>
      obtain ⟨value, place⟩ := middle
      rw [found] at read
      obtain ⟨other, same, holds⟩ := starts cursor value place found
      obtain ⟨last, ends, final⟩ := goes value other holds place result after read
      refine ⟨last, ?_, final⟩
      change (second cursor >>= fun found => next' found.1 found.2) = _
      rw [same]
      exact ends

theorem andThen {first second : Parser α} {next : α → Parser γ} {next' : α → Parser δ}
    (starts : Mirrors Eq first second)
    (goes : ∀ value, Mirrors later (next value) (next' value)) :
    Mirrors later (first >>= next) (second >>= next') :=
  starts.bind fun value _ same => same ▸ goes value

theorem next (first : Parser α) {next : α → Parser γ} {next' : α → Parser δ}
    (goes : ∀ value, Mirrors later (next value) (next' value)) :
    Mirrors later (first >>= next) (first >>= next') :=
  (refl first).andThen goes

theorem ite {choice : Prop} [Decidable choice] {yes no : Parser α} {yes' no' : Parser β}
    (holds : Mirrors related yes yes') (fails : Mirrors related no no') :
    Mirrors related (if choice then yes else no) (if choice then yes' else no') := by
  split
  · exact holds
  · exact fails

theorem loop {step : σ → Parser (σ ⊕ α)} {step' : τ → Parser (τ ⊕ β)} (turn : σ → τ → Prop)
    (rounds : ∀ state other, turn state other →
      Mirrors (Sum.LiftRel turn related) (step state) (step' other))
    {state : σ} {other : τ} (starts : turn state other) :
    Mirrors related (Parser.loop step state) (Parser.loop step' other) := by
  intro cursor value after read
  fun_induction Parser.loop step state cursor generalizing other with
  | case1 => cases read
  | case2 state cursor result rest last =>
      cases read
      obtain ⟨found, same, holds⟩ := rounds state other starts cursor _ _ last
      cases holds with
      | inr holds =>
          rw [Parser.loop, same]
          exact ⟨_, rfl, holds⟩
  | case3 state cursor next rest goes shorter ih =>
      obtain ⟨found, same, holds⟩ := rounds state other starts cursor _ _ goes
      cases holds with
      | inl holds =>
          rw [Parser.loop, same]
          dsimp only
          rw [if_pos shorter]
          exact ih holds read
  | case4 => cases read

theorem loop_eq {first second : σ → Parser (σ ⊕ α)}
    (rounds : ∀ state, Mirrors Eq (first state) (second state)) (state : σ) :
    Mirrors Eq (Parser.loop first state) (Parser.loop second state) := by
  refine loop Eq (fun state _ same cursor value after read => ?_) rfl
  subst same
  obtain ⟨other, found, rfl⟩ := rounds state cursor value after read
  refine ⟨value, found, ?_⟩
  cases value with
  | inl value => exact .inl rfl
  | inr value => exact .inr rfl

theorem separated {first second : Parser α} (closing : Symbol) (what : String)
    (items : Mirrors Eq first second) :
    Mirrors Eq (Parser.separated closing what first) (Parser.separated closing what second) := by
  refine loop_eq (fun found => ?_) []
  exact .next _ fun _ => .ite (.refl _) (items.andThen fun _ => .refl _)

end Mirrors

namespace Grammar

structure Widens (narrower wider : Grammar) : Prop where
  expression : Mirrors Eq narrower.expression wider.expression
  inverted : Mirrors Eq narrower.inverted wider.inverted
  signed : Mirrors Eq narrower.signed wider.signed

/-- Operands that are related stay so with the same index, property or call behind both. -/
structure KeptBehind (related : Expr → Expr → Prop) : Prop where
  index : ∀ (line : Nat) (position : Expr) {target other : Expr}, related target other →
    related (.index line target position) (.index line other position)
  property : ∀ (line : Nat) (name : String) {target other : Expr}, related target other →
    related (.property line target name) (.property line other name)
  call : ∀ (line : Nat) (name : String) (arguments : List Expr) {target other : Expr},
    related target other →
      related (.call line name (target :: arguments)) (.call line name (other :: arguments))

theorem KeptBehind.eq : KeptBehind Eq where
  index _ _ _ _ := by rintro rfl; rfl
  property _ _ _ _ := by rintro rfl; rfl
  call _ _ _ _ _ := by rintro rfl; rfl

section Productions

variable {narrower wider : Grammar} (widens : Widens narrower wider)

include widens

theorem callArguments_mirrors : Mirrors Eq narrower.callArguments wider.callArguments :=
  .next _ fun _ => .separated _ _ widens.expression

theorem mapEntry_mirrors : Mirrors Eq narrower.mapEntry wider.mapEntry :=
  widens.expression.andThen fun _ => .next _ fun _ => widens.expression.andThen fun _ => .refl _

theorem primary_mirrors : Mirrors Eq narrower.primary wider.primary := by
  refine .next _ fun token => ?_
  obtain ⟨kind, lexeme, line, spaced⟩ := token
  have called (name : String) : Mirrors Eq
      (do return .call line name (← narrower.callArguments) : Parser Expr)
      (do return .call line name (← wider.callArguments)) :=
    (callArguments_mirrors widens).andThen fun _ => .refl _
  cases kind
  case word name => exact .next _ fun _ => .ite (called _) (.refl _)
  case keyword keyword => exact .ite (.next _ fun _ => .ite (called _) (.refl _)) (.refl _)
  case symbol mark =>
    cases mark
    case openParen => exact widens.expression.andThen fun _ => .refl _
    case openBracket => exact (Mirrors.separated _ _ widens.expression).andThen fun _ => .refl _
    case openBrace =>
      exact (Mirrors.separated _ _ (mapEntry_mirrors widens)).andThen fun _ => .refl _
    all_goals exact .refl _
  all_goals exact .refl _

theorem suffix_mirrors {related : Expr → Expr → Prop} (kept : KeptBehind related)
    {target other : Expr} (same : related target other) :
    Mirrors (Sum.LiftRel related related) (narrower.suffix target) (wider.suffix other) := by
  refine .next _ fun token => ?_
  obtain ⟨kind, lexeme, line, spaced⟩ := token
  cases kind
  case symbol mark =>
    cases mark
    case openBracket =>
      refine .ite (.pure (.inr same)) (.next _ fun _ => ?_)
      refine widens.expression.andThen fun position => .next _ fun _ => ?_
      exact .pure (.inl (kept.index line position same))
    case dot =>
      refine .next _ fun _ => .next _ fun name => .next _ fun _ => .ite ?_ ?_
      · refine (callArguments_mirrors widens).andThen fun arguments => ?_
        exact .pure (.inl (kept.call line _ arguments same))
      · exact .pure (.inl (kept.property line _ same))
    all_goals exact .pure (.inr same)
  all_goals exact .pure (.inr same)

theorem suffixes_mirror {related : Expr → Expr → Prop} (kept : KeptBehind related)
    {target other : Expr} (same : related target other) :
    Mirrors related (loop narrower.suffix target) (loop wider.suffix other) :=
  .loop related (fun _ _ => suffix_mirrors widens kept) same

theorem power_mirrors : Mirrors Eq narrower.power wider.power := by
  have suffixed : Mirrors Eq narrower.suffixed wider.suffixed :=
    (primary_mirrors widens).andThen fun _ => suffixes_mirror widens .eq rfl
  refine suffixed.andThen fun _ => .next _ fun _ => .ite ?_ (.refl _)
  exact .next _ fun _ => widens.signed.andThen fun _ => .refl _

theorem minus_mirrors : Mirrors Eq narrower.minus wider.minus := by
  refine .next _ fun _ => .ite ?_ (power_mirrors widens)
  exact .next _ fun _ => widens.signed.andThen fun _ => .refl _

omit widens in
theorem chain_mirrors (operator : OperatorParser) {first second : Parser Expr}
    (operands : Mirrors Eq first second) :
    Mirrors Eq (chain operator first) (chain operator second) := by
  refine operands.andThen fun left => .loop_eq (fun left => .next _ fun found => ?_) left
  cases found with
  | some found => exact operands.andThen fun _ => .refl _
  | none => exact .refl _

theorem invert_mirrors : Mirrors Eq narrower.invert wider.invert := by
  refine .next _ fun _ => .ite (.next _ fun _ => widens.inverted.andThen fun _ => .refl _) ?_
  exact chain_mirrors _ (chain_mirrors _ (chain_mirrors _ (minus_mirrors widens)))

theorem conditional_mirrors : Mirrors Eq narrower.conditional wider.conditional := by
  have condition := chain_mirrors (operator orOp)
    (chain_mirrors (operator andOp) (invert_mirrors widens))
  refine condition.andThen fun _ => .next _ fun _ => .ite (.next _ fun _ => ?_) (.refl _)
  exact widens.expression.andThen fun _ => .next _ fun _ =>
    widens.expression.andThen fun _ => .refl _

end Productions

theorem within_widens (room : Nat) : Widens (within room) (within (room + 1)) := by
  induction room with
  | zero => exact ⟨nofun, nofun, nofun⟩
  | succ room ih => exact ⟨conditional_mirrors ih, invert_mirrors ih, minus_mirrors ih⟩

end Grammar

end EventScript.Program
