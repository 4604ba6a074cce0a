import Mathlib.Order.Defs.Unbundled
import EventScript.Proofs.Interpreter.Lockstep

/-!
What evaluating an expression leaves alone. Functions run in frames of their own, so an expression
changes at most the variables of the frame and the budget, however it ends. The errors that scripts
end with are listed here too.
-/

namespace EventScript

inductive RunError.Ordinary : RunError → Prop
  | operationLimit (limit : Nat) : Ordinary (.operationLimit limit)
  | callDepth (limit : Nat) : Ordinary (.callDepth limit)
  | unknownFunction (name : String) (line : Nat) :
      Ordinary (.script ("Unknown function: " ++ name ++ "()") line)
  | builtin (error : Builtin.CallError) (line : Nat) : Ordinary (.script error.message line)
  | pausedInFunction (line : Nat) :
      Ordinary (.script "wait is not supported inside functions" line)
  | unknownEffect (name : String) (line : Nat) :
      Ordinary (.script ("Unknown effect: " ++ name) line)
  | effectFailed (effect reason : String) (line : Nat) :
      Ordinary (.script ("Effect '" ++ effect ++ "' failed: " ++ reason) line)

theorem getLast?_message (error : Builtin.CallError) :
    error.message.toList.getLast? ≠ some 'p' := by
  cases error with
  | textTooLong name =>
      rw [Builtin.CallError.message, String.toList_append, List.getLast?_append]
      simp
  | tooManyItems => simp [Builtin.CallError.message]
  | invalidPattern => simp [Builtin.CallError.message]

theorem RunError.Ordinary.ne_cannotResume {error : RunError} (ordinary : error.Ordinary)
    (statement : Statement) (line : Nat) :
    error ≠ .script ("cannot resume " ++ statement.describe ++ " as a loop") line := by
  have first :
      ("cannot resume " ++ statement.describe ++ " as a loop").toList.head? = some 'c' := by
    simp [String.toList_append]
  have last : ("cannot resume " ++ statement.describe ++ " as a loop").toList.getLast? =
      some 'p' := by
    rw [String.toList_append, List.getLast?_append]
    rfl
  rintro rfl
  generalize "cannot resume " ++ statement.describe ++ " as a loop" = message at *
  cases ordinary with
  | unknownFunction name => simp [String.toList_append] at first
  | builtin error => exact getLast?_message error last
  | pausedInFunction => simp at first
  | unknownEffect name => simp [String.toList_append] at first
  | effectFailed effect reason => simp [String.toList_append] at first

def Frame.bare (frame : Frame) : Frame :=
  { frame with locals := {}, budget := 0, injected := false }

def Frame.SameBare (before after : Frame) : Prop := after.bare = before.bare

instance : IsPreorder Frame Frame.SameBare where
  refl _ := rfl
  trans _ _ _ earlier later := later.trans earlier

namespace Run

variable {σ α β : Type}

theorem bind_eq_ok {run : Run σ α} {next : α → Run σ β} {state after : RunState σ} {result : β}
    (ends : (run >>= next) state = (.ok result, after)) :
    ∃ first middle, run state = (.ok first, middle) ∧ next first middle = (.ok result, after) := by
  revert ends
  refine bind_cases (motive := fun outcome => outcome = (.ok result, after) → _) ?_ ?_
  · exact fun first middle began ends => ⟨first, middle, began, ends⟩
  · exact fun error middle failed ends => by cases ends

/-- From every state, a run changes the frame only as is allowed and ends with no other than an
ordinary error. -/
structure Tame (allowed : Frame → Frame → Prop) (run : Run σ α) : Prop where
  frame : ∀ state, allowed state.frame (run state).2.frame
  error : ∀ state error, (run state).1 = .error (.failed error) → error.Ordinary

namespace Tame

variable {allowed : Frame → Frame → Prop}

theorem weaken {other : Frame → Frame → Prop} {run : Run σ α} (tame : Tame allowed run)
    (weaker : ∀ {before after}, allowed before after → other before after) : Tame other run :=
  ⟨fun state => weaker (tame.frame state), tame.error⟩

variable [IsPreorder Frame allowed]

theorem read (view : RunState σ → α) : Tame allowed (Run.read view) :=
  ⟨fun state => refl_of allowed state.frame, fun _ _ same => by cases same⟩

theorem pure (result : α) : Tame allowed (pure result : Run σ α) :=
  ⟨fun state => refl_of allowed state.frame, fun _ _ same => by cases same⟩

theorem onHeap (compute : Heap → α × Heap) : Tame allowed (Run.onHeap compute : Run σ α) :=
  ⟨fun state => refl_of allowed state.frame, fun _ _ same => by cases same⟩

theorem await (outcome : Option α) : Tame allowed (Run.await outcome : Run σ α) := by
  cases outcome with
  | some result => exact pure result
  | none =>
      refine ⟨fun state => refl_of allowed state.frame, fun state error same => ?_⟩
      have lost :
          (.error (.lost .blocked) : Except (Stop RunError) α) = .error (.failed error) := same
      cases lost

theorem bind {run : Run σ α} {next : α → Run σ β} (tame : Tame allowed run)
    (rest : ∀ result, Tame allowed (next result)) : Tame allowed (run >>= next) where
  frame state := by
    have first := tame.frame state
    refine bind_cases (motive := fun outcome => allowed state.frame outcome.2.frame)
      (fun result after ends => ?_) fun failure after ends => ?_
    all_goals rw [ends] at first
    · exact trans_of allowed first ((rest result).frame after)
    · exact first
  error state error := by
    refine bind_cases (motive := fun outcome => outcome.1 = .error (.failed error) → error.Ordinary)
      (fun result after ends same => ?_) fun failure after ends same => ?_
    · exact (rest result).error after error same
    · cases same
      exact tame.error state error (by rw [ends])

theorem forEach {run : α → Run σ β} (each : ∀ item, Tame allowed (run item)) (items : List α) :
    Tame allowed (Run.forEach run items) := by
  induction items with
  | nil => exact pure []
  | cons item rest ih => exact (each item).bind fun result => ih.bind fun results => pure _

end Tame

theorem charge_tame (limits : Limits) : Tame Frame.SameBare (charge limits : Run σ Unit) where
  frame state := by
    simp only [charge]
    split <;> rfl
  error state error same := by
    simp only [charge] at same
    split at same
    · cases same
      exact .operationLimit _
    · cases same

theorem variableValue_tame (limits : Limits) (name : String) :
    Tame Frame.SameBare (variableValue limits name : Run σ Value) := by
  constructor
  · intro state
    simp only [variableValue]
    split
    · rfl
    · split <;> rfl
  · intro state error same
    simp only [variableValue] at same
    split at same
    · cases same
    · split at same <;> cases same

end Run

namespace Interpreter

open Run

variable {σ : Type}

theorem callBuiltin_tame (machine : Machine) (name : String) (arguments : List Value)
    (line : Nat) :
    Tame Frame.SameBare (callBuiltin machine name arguments line : Run σ Value) := by
  constructor
  · intro state
    simp only [callBuiltin]
    split
    · rfl
    · split <;> rfl
  · intro state error same
    simp only [callBuiltin] at same
    split at same
    · cases same
      exact .unknownFunction name line
    · split at same
      · cases same
      · cases same
        exact .builtin _ line
      · cases same

theorem callFunction_tame (limits : Limits) (enter : Frame → Frame) {runBody : Block → Run σ Flow}
    (bodies : ∀ block state error,
      (runBody block state).1 = .error (.failed error) → error.Ordinary)
    (function : Function) (arguments : List Value) (line : Nat) :
    Tame Frame.SameBare (callFunction limits enter runBody function arguments line) where
  frame state := by
    rw [callFunction_apply]
    split
    · rfl
    · rw [leaveFunction_state]
      rfl
  error state error same := by
    rw [callFunction_apply] at same
    split at same
    · cases same
      exact .callDepth _
    · have ordinary := bodies function.body
        { state with frame := (enter state.frame).bindAll function.parameters arguments }
      generalize runBody function.body _ = outcome at same ordinary
      obtain ⟨result, callee⟩ := outcome
      cases result with
      | error failure =>
          cases same
          exact ordinary _ rfl
      | ok flow =>
          cases flow with
          | completed => cases same
          | suspended delay pending =>
              cases same
              exact .pausedInFunction line

theorem evalParts_tame {allowed : Frame → Frame → Prop} [IsPreorder Frame allowed]
    {readVariable : String → Run σ Value} {eval : Expr → Run σ Value}
    {call : String → List Value → Nat → Run σ Value}
    (reads : ∀ name, Tame allowed (readVariable name))
    (evals : ∀ expr, Tame allowed (eval expr))
    (calls : ∀ name arguments line, Tame allowed (call name arguments line)) (expr : Expr) :
    Tame allowed (evalParts readVariable eval call expr) := by
  cases expr with
  | literal _ value => exact .pure _
  | reference _ name => exact reads name
  | stored _ key => exact (evals key).bind fun _ => (Tame.read _).bind fun _ => .read _
  | binary _ op left right =>
      refine (evals left).bind fun _ => (Tame.read _).bind fun _ => ?_
      split
      · exact .pure _
      · exact (evals right).bind fun _ => (Tame.onHeap _).bind .await
  | unary _ op operand => exact (evals operand).bind fun _ => .read _
  | call line name arguments =>
      exact (Tame.forEach evals arguments).bind fun values => calls name values line
  | index _ target position =>
      refine (evals target).bind fun _ => (evals position).bind fun _ => ?_
      exact (Tame.read _).bind .await
  | property _ target name => exact (evals target).bind fun _ => .read _
  | list _ items => exact (Tame.forEach evals items).bind fun _ => .onHeap _
  | map _ entries =>
      refine (Tame.forEach (fun entry => ?_) entries).bind fun _ => .onHeap _
      refine (evals entry.1).bind fun _ => (Tame.read _).bind fun _ => ?_
      exact (evals entry.2).bind fun _ => .pure _
  | template _ parts =>
      refine (Tame.forEach (fun part => ?_) parts).bind fun _ => .pure _
      cases part with
      | text content => exact .pure _
      | expr value => exact (evals value).bind fun _ => .read _
  | conditional _ condition yes no =>
      refine (evals condition).bind fun _ => (Tame.read _).bind fun _ => ?_
      split
      · exact evals yes
      · exact evals no

end Interpreter

end EventScript
