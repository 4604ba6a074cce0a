import EventScript.Proofs.Frame
import EventScript.Proofs.Interpreter.Resumable

/-!
Expressions do not disturb the frame that they are evaluated in. Functions have frames of their own,
and what a function or a handler of the host does to such a frame is lost when the function is left;
only the budget that it spent is spent for the caller too. The one other trace an expression leaves
are the attributes of the actor, which come in as variables beside those that are there.
-/

namespace EventScript

structure Frame.Undisturbed (prefixText : String) (before after : Frame) : Prop where
  bare : before.SameBare after
  budget : after.budget ≤ before.budget
  locals : after.injected = before.injected ∧ after.locals = before.locals ∨
    before.injected = false ∧ after.injected = true ∧
      after.locals = (before.inject prefixText).locals

namespace Frame.Undisturbed

variable {prefixText : String}

theorem spent {frame : Frame} {budget : Nat} (bound : budget ≤ frame.budget) :
    frame.Undisturbed prefixText { frame with budget } :=
  ⟨rfl, bound, .inl ⟨rfl, rfl⟩⟩

theorem inject {frame : Frame} (fresh : frame.injected = false) :
    frame.Undisturbed prefixText (frame.inject prefixText) :=
  ⟨rfl, Nat.le_refl _, .inr ⟨fresh, rfl, rfl⟩⟩

theorem inject_locals {frame other : Frame} (bare : frame.SameBare other)
    (locals : other.locals = frame.locals) :
    (other.inject prefixText).locals = (frame.inject prefixText).locals := by
  have actor : other.bare.actor = frame.bare.actor := congrArg Frame.actor bare
  change other.actor = frame.actor at actor
  simp only [Frame.inject, actor, locals]

instance : IsPreorder Frame (Frame.Undisturbed prefixText) where
  refl frame := spent (Nat.le_refl frame.budget)
  trans before middle after earlier later := by
    refine ⟨trans_of SameBare earlier.bare later.bare, Nat.le_trans later.budget earlier.budget, ?_⟩
    rcases earlier.locals with ⟨sameFlag, same⟩ | ⟨fresh, injected, extended⟩
    · rcases later.locals with ⟨sameLater, kept⟩ | ⟨fresh, injected, extended⟩
      · exact .inl ⟨sameLater.trans sameFlag, kept.trans same⟩
      · exact .inr ⟨sameFlag ▸ fresh, injected, extended.trans (inject_locals earlier.bare same)⟩
    · rcases later.locals with ⟨sameLater, kept⟩ | ⟨again, _⟩
      · exact .inr ⟨fresh, sameLater.trans injected, kept.trans extended⟩
      · -- The attributes come in only once.
        rw [injected] at again
        cases again

end Frame.Undisturbed

namespace Run

variable {σ α : Type} {prefixText : String}

theorem charge_undisturbing (limits : Limits) :
    Tame (Frame.Undisturbed prefixText) (charge limits : Run σ Unit) := by
  refine ⟨fun state => ?_, (charge_tame limits).error⟩
  simp only [charge]
  split <;> exact .spent (Nat.sub_le _ _)

theorem variableValue_undisturbing (limits : Limits) (name : String) :
    Tame (Frame.Undisturbed limits.actorPrefix) (variableValue limits name : Run σ Value) := by
  refine ⟨fun state => ?_, (variableValue_tame limits name).error⟩
  simp only [variableValue]
  split
  · exact refl_of _ state.frame
  · split
    · rename_i asked
      rw [Bool.and_eq_true, Bool.not_eq_true'] at asked
      exact .inject asked.1
    · exact refl_of _ state.frame

end Run

namespace Interpreter

open Run

variable {σ : Type} {prefixText : String}

theorem callBuiltin_undisturbing (machine : Machine) (name : String) (arguments : List Value)
    (line : Nat) :
    Tame (Frame.Undisturbed prefixText)
      (callBuiltin machine name arguments line : Run σ Value) := by
  refine ⟨fun state => ?_, (callBuiltin_tame machine name arguments line).error⟩
  simp only [callBuiltin]
  split
  · exact refl_of _ state.frame
  · split <;> exact refl_of _ state.frame

theorem callFunction_undisturbing (limits : Limits) (enter : Frame → Frame)
    {runBody : Block → Run σ Flow}
    (bodies : ∀ block state error,
      (runBody block state).1 = .error (.failed error) → error.Ordinary)
    (function : Function) (arguments : List Value) (line : Nat) :
    Tame (Frame.Undisturbed prefixText)
      (callFunction limits enter runBody function arguments line) := by
  refine ⟨fun state => ?_, (callFunction_tame limits enter bodies function arguments line).error⟩
  rw [callFunction_apply]
  split
  · exact refl_of _ state.frame
  · rw [leaveFunction_state]
    exact .spent (Nat.min_le_left _ _)

end Interpreter

namespace Manner

open Interpreter Run

variable {σ : Type}

theorem call_undisturbing (setting : Setting σ) (room : Nat) (name : String)
    (arguments : List Value) (line : Nat) :
    Tame (Frame.Undisturbed setting.limits.actorPrefix) (call setting setting.manner.enter
      (fun block => inOrder (setting.manner.execWithin room block.statements) block.statements 0
        block.statements) name arguments line) := by
  have bodies (block : Block) (state : RunState σ) :=
    ((soundWithin setting room).block (.whole : block.Inside block.statements) state).error
  unfold call
  split
  · exact callFunction_undisturbing _ _ bodies _ _ _
  · exact callBuiltin_undisturbing _ name arguments line

theorem evalWithin_undisturbing (setting : Setting σ) (room : Nat) (expr : Expr) :
    Tame (Frame.Undisturbed setting.limits.actorPrefix)
      (setting.manner.evalWithin room expr) := by
  induction room generalizing expr with
  | zero => exact ⟨fun state => refl_of _ state.frame, stop_tame.error⟩
  | succ room ih =>
      refine (charge_undisturbing _).bind fun _ => ?_
      apply evalParts_tame (variableValue_undisturbing setting.limits) ih
      exact call_undisturbing setting room

end Manner

namespace Interpreter

variable {σ : Type}

/-- Whether an expression gives a value or fails, it keeps the frame but for the budget, which it
does not raise, and for the attributes of the actor, which it may add behind the variables that are
there, each under a name that was free. -/
theorem eval_undisturbing (setting : Setting σ) (expr : Expr) (state : RunState σ) :
    let before := state.frame
    let after := (eval setting expr state).2.frame
    (after.actor = before.actor ∧ after.cancellation = before.cancellation ∧
      after.depth = before.depth ∧ after.returning = before.returning ∧
      after.breaking = before.breaking ∧ after.continuing = before.continuing ∧
      after.returnValue = before.returnValue) ∧
    after.budget ≤ before.budget ∧
    (after.injected = before.injected ∧ after.locals = before.locals ∨
      before.injected = false ∧ after.injected = true ∧
        before.locals.entries <+: after.locals.entries ∧
        ∀ name, after.get? name = (before.get? name).or
          ((Actor.bindings setting.limits.actorPrefix before.actor).get? name)) := by
  intro before after
  have undisturbed : before.Undisturbed setting.limits.actorPrefix after :=
    (Manner.evalWithin_undisturbing setting _ expr).frame state
  have bare := undisturbed.bare
  simp only [Frame.SameBare, Frame.bare, Frame.mk.injEq, true_and, and_true] at bare
  refine ⟨bare, undisturbed.budget, undisturbed.locals.imp_right ?_⟩
  rintro ⟨fresh, injected, extended⟩
  refine ⟨fresh, injected, extended ▸ before.prefix_inject _, fun name => ?_⟩
  rw [← before.get?_inject, Frame.get?, Frame.get?, extended]

end Interpreter

end EventScript
