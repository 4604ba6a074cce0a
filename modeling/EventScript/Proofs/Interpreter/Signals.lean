import Mathlib
import EventScript.Proofs.Interpreter.Probed
import EventScript.Proofs.Interpreter.Resumable
import EventScript.Proofs.Interpreter.Structured

/-!
The signals of a frame implement structured control flow. In a frame with no signal up, a run of
statements does what the reference does, and then the one signal is up that tells the outcome; loops
and calls take signals away as the reference catches outcomes.
-/

namespace EventScript

open Structured (Outcome)

def Handler.RaisesNothing {σ : Type} (handler : Handler σ) : Prop :=
  ∀ actor arguments frame world, frame.interrupted = false →
    (handler actor arguments frame world).2.1.interrupted = false

namespace Structured.Outcome

/-- The frame with the signal up that stands for an outcome. -/
def raise : Outcome → Frame → Frame
  | .normal, frame => frame
  | .broke, frame => { frame with breaking := true }
  | .continued, frame => { frame with continuing := true }
  | .returned value, frame => { frame with returning := true, returnValue := value }
  | .paused _, frame => frame

def Settled : Outcome → Prop
  | .paused _ => False
  | _ => True

def Interrupts : Outcome → Prop
  | .broke | .continued | .returned _ => True
  | .normal | .paused _ => False

def goesOn : Outcome → Bool
  | .normal | .continued | .paused _ => true
  | .broke | .returned _ => false

def caught : Outcome → Outcome
  | .broke | .continued => .normal
  | outcome => outcome

theorem Interrupts.interrupted {outcome : Outcome} (interrupts : outcome.Interrupts)
    (frame : Frame) : (outcome.raise frame).interrupted = true := by
  cases outcome with
  | normal => cases interrupts
  | paused delay => cases interrupts
  | broke => simp [raise, Frame.interrupted]
  | continued => simp [raise, Frame.interrupted]
  | returned value => simp [raise, Frame.interrupted]

end Structured.Outcome

variable {σ α : Type}

namespace RunState

def raise (state : RunState σ) (outcome : Outcome) : RunState σ :=
  { state with frame := outcome.raise state.frame }

def withSignals (state : RunState σ) (signals : Signals) : RunState σ :=
  { state with frame := state.frame.withSignals signals }

/-- No control signal is up. -/
def Quiet (state : RunState σ) : Prop := state.frame.interrupted = false

theorem Quiet.signals {state : RunState σ} (quiet : state.Quiet) :
    state.frame.returning = false ∧ state.frame.breaking = false ∧
      state.frame.continuing = false := by
  simp only [Quiet, Frame.interrupted, Bool.or_eq_false_iff, and_assoc] at quiet
  exact quiet

end RunState

/-- How a run ends in which signals tell the outcome, and how one ends that gives the outcome. -/
inductive Encodes :
    Except (Stop RunError) Flow × RunState σ → Except (Stop RunError) Outcome × RunState σ → Prop
  | settled (outcome : Outcome) {state : RunState σ} : state.Quiet → outcome.Settled →
      Encodes (.ok .completed, state.raise outcome) (.ok outcome, state)
  | paused {delay : Nat} {pending : List Pending} {state : RunState σ} : state.Quiet →
      Encodes (.ok (.suspended delay pending), state) (.ok (.paused delay), state)
  | stopped {stop : Stop RunError} {state : RunState σ} : state.Quiet →
      Encodes (.error stop, state) (.error stop, state)

/-- From each state with no signal up, the first run does what the second one does, and tells the
outcome by signals. -/
def Implements (first : Run σ Flow) (second : Run σ Outcome) : Prop :=
  ∀ state, state.Quiet → Encodes (first state) (second state)

namespace Run

theorem inFrame_ok {frame : Frame} {body : Run σ α} {state after : RunState σ} {result : α}
    (ends : body { state with frame } = (.ok result, after)) :
    Run.inFrame frame body state = (.ok (result, after.frame), state.afterCall after) := by
  rw [Run.inFrame, ends]
  rfl

theorem inFrame_error {frame : Frame} {body : Run σ α} {state after : RunState σ}
    {error : Stop RunError} (ends : body { state with frame } = (.error error, after)) :
    Run.inFrame frame body state = (.error error, state.afterCall after) := by
  rw [Run.inFrame, ends]
  rfl

def Calm (run : Run σ α) : Prop := ∀ state, state.Quiet → (run state).2.Quiet

theorem Tame.calm {run : Run σ α} (tame : Tame Frame.SameBare run) : Calm run :=
  fun state quiet => (tame.frame state).interrupted.trans quiet

theorem Calm.setLocal (name : String) (value : Value) :
    Calm (modifyFrame (·.set name value) : Run σ Unit) := fun _ quiet => quiet

theorem Calm.modify {change : RunState σ → RunState σ}
    (kept : ∀ state, (change state).frame = state.frame) : Calm (modify change) :=
  fun state quiet => (congrArg Frame.interrupted (kept state)).trans quiet

theorem Calm.bind {β : Type} {run : Run σ α} {next : α → Run σ β} (calm : Calm run)
    (rest : ∀ result, Calm (next result)) : Calm (run >>= next) := by
  intro state quiet
  have kept := calm state quiet
  refine bind_cases (motive := fun outcome => outcome.2.Quiet) (fun result after ends => ?_)
    fun error after ends => ?_
  · rw [ends] at kept
    exact rest result after kept
  · rw [ends] at kept
    exact kept

theorem Calm.perform {handler : Handler σ} (raisesNothing : handler.RaisesNothing) (effect : String)
    (arguments : List Value) (line : Nat) : Calm (Run.perform handler effect arguments line) := by
  intro state quiet
  have kept := raisesNothing state.frame.actor arguments state.frame state.world quiet
  simp only [Run.perform]
  split <;> exact kept

end Run

namespace Implements

open Interpreter Run

theorem normal : Implements (pure .completed : Run σ Flow) (pure .normal) :=
  fun _ quiet => .settled .normal quiet trivial

theorem bind {run : Run σ α} {first : α → Run σ Flow} {second : α → Run σ Outcome} (calm : Calm run)
    (rest : ∀ result, Implements (first result) (second result)) :
    Implements (run >>= first) (run >>= second) := by
  intro state quiet
  have kept := calm state quiet
  generalize ends : run state = outcome at kept
  obtain ⟨result, after⟩ := outcome
  cases result with
  | ok result =>
      rw [bind_ok ends, bind_ok ends]
      exact rest result after kept
  | error error =>
      rw [bind_error ends, bind_error ends]
      exact .stopped kept

end Implements

namespace Interpreter

open Run

def Plain (run : Run σ Flow) : Prop :=
  ∀ state, state.Quiet → (run state).2.Quiet ∧ ∀ flow, (run state).1 = .ok flow → flow = .completed

namespace Plain

theorem completed : Plain (pure .completed : Run σ Flow) :=
  fun _ quiet => ⟨quiet, fun _ same => (Except.ok.inj same).symm⟩

theorem fail (error : RunError) : Plain (Run.fail error : Run σ Flow) :=
  fun _ quiet => ⟨quiet, nofun⟩

theorem bind {run : Run σ α} {next : α → Run σ Flow} (calm : Calm run)
    (rest : ∀ result, Plain (next result)) : Plain (run >>= next) := by
  intro state quiet
  have kept := calm state quiet
  refine bind_cases (motive := fun outcome =>
    outcome.2.Quiet ∧ ∀ flow, outcome.1 = .ok flow → flow = Flow.completed)
    (fun result after ends => ?_) fun error after ends => ?_
  · rw [ends] at kept
    exact rest result after kept
  · rw [ends] at kept
    exact ⟨kept, nofun⟩

theorem implements {run : Run σ Flow} (plain : Plain run) :
    Implements run (run >>= fun _ => pure .normal) := by
  intro state quiet
  obtain ⟨kept, completes⟩ := plain state quiet
  generalize ends : run state = outcome at kept completes
  obtain ⟨result, after⟩ := outcome
  cases result with
  | ok flow =>
      rw [bind_ok ends, completes flow rfl]
      exact .settled .normal kept trivial
  | error error =>
      rw [bind_error ends]
      exact .stopped kept

end Plain

theorem inOrder_interrupted (exec : Nat → Statement → Run σ Flow) (statements : List Statement)
    (index : Nat) (rest : List Statement) {state : RunState σ}
    (interrupted : state.frame.interrupted = true) :
    inOrder exec statements index rest state = (.ok .completed, state) := by
  cases rest with
  | nil => rfl
  | cons statement rest => rw [inOrder_cons, if_pos interrupted]

theorem inOrder_implements {first : Nat → Statement → Run σ Flow}
    {second : Statement → Run σ Outcome}
    (execs : ∀ index statement, Implements (first index statement) (second statement))
    (statements : List Statement) (index : Nat) (rest : List Statement) :
    Implements (inOrder first statements index rest) (Structured.inOrder second rest) := by
  induction rest generalizing index with
  | nil => exact .normal
  | cons statement rest ih =>
      intro state quiet
      have one := execs index statement state quiet
      rw [inOrder_cons, if_neg (Bool.eq_false_iff.mp quiet), Structured.inOrder]
      generalize first index statement state = left at one
      generalize ends : second statement state = right at one
      cases one with
      | @settled outcome after kept settled =>
          have stops (interrupts : outcome.Interrupts) :
              Encodes (inOrder first statements (index + 1) rest (after.raise outcome))
                (.ok outcome, after) := by
            rw [inOrder_interrupted _ _ _ _ (interrupts.interrupted after.frame)]
            exact .settled outcome kept settled
          rw [bind_ok ends]
          cases outcome with
          | normal => exact ih (index + 1) after kept
          | paused delay => cases settled
          | broke => exact stops trivial
          | continued => exact stops trivial
          | returned value => exact stops trivial
      | paused kept =>
          rw [bind_ok ends]
          exact .paused kept
      | stopped kept =>
          rw [bind_error ends]
          exact .stopped kept

theorem chooseBranch_implements {eval : Expr → Run σ Value} {first : Block → Run σ Flow}
    {second : Block → Run σ Outcome} (evals : ∀ expr, Calm (eval expr))
    (blocks : ∀ block, Implements (first block) (second block)) (otherwise : Option Block)
    (alternatives : List (Expr × Block)) :
    Implements (chooseBranch eval first otherwise alternatives)
      (Structured.chooseBranch eval second otherwise alternatives) := by
  induction alternatives with
  | nil =>
      cases otherwise with
      | none => exact .normal
      | some body => exact blocks body
  | cons alternative rest ih =>
      refine .bind (evals alternative.1) fun value => .bind (fun _ quiet => quiet) fun truth => ?_
      split
      · exact blocks alternative.2
      · exact ih

theorem bindAll_interrupted (frame : Frame) (parameters : List String) (arguments : List Value) :
    (frame.bindAll parameters arguments).interrupted = frame.interrupted := by
  induction parameters generalizing frame arguments with
  | nil => rfl
  | cons parameter parameters ih =>
      exact ih (frame.set parameter (arguments.head?.getD .null)) arguments.tail

/-- A call catches the outcome of the body: the body starts with no signal up, and the signal that
it ends with stays in its own frame. -/
theorem callFunction_structured {first : Block → Run σ Flow} {second : Block → Run σ Outcome}
    (bodies : ∀ block, Implements (first block) (second block)) (limits : Limits)
    (function : Function) (arguments : List Value) (line : Nat) :
    Structured.callFunction limits second function arguments line =
      callFunction limits Frame.child first function arguments line := by
  funext state
  have asked : Run.read (·.frame) state = (.ok state.frame, state) := rfl
  rw [callFunction_apply, Structured.callFunction, bind_ok asked]
  split
  · rfl
  · have body := bodies function.body
      { state with frame := state.frame.child.bindAll function.parameters arguments }
      (bindAll_interrupted state.frame.child function.parameters arguments)
    generalize first function.body _ = left at body
    generalize ends : second function.body _ = right at body
    cases body with
    | @settled outcome callee kept settled =>
        have null : callee.frame.result = .null := if_neg (by simp [kept.signals.1])
        have dropped :
            ((.ok .null, state.afterCall callee) : Except (Stop RunError) Value × RunState σ) =
              (.ok callee.frame.result, state.afterCall callee) := by rw [null]
        rw [bind_ok (inFrame_ok ends)]
        cases outcome with
        | normal => exact dropped
        | broke => exact dropped
        | continued => exact dropped
        | returned value => rfl
        | paused delay => cases settled
    | paused _ =>
        rw [bind_ok (inFrame_ok ends)]
        rfl
    | stopped _ =>
        rw [bind_error (inFrame_error ends)]
        rfl

theorem afterRound_raise {state : RunState σ} (quiet : state.Quiet) (outcome : Outcome) :
    afterRound (state.raise outcome) = (.ok outcome.goesOn, state.raise outcome.caught) := by
  obtain ⟨⟨locals, actor, cancellation, budget, depth, returning, breaking, continuing, value,
    injected⟩, store, world, deeds⟩ := state
  obtain ⟨silent, unbroken, uncontinued⟩ := quiet.signals
  cases silent
  cases unbroken
  cases uncontinued
  cases outcome <;> rfl

theorem round_implements {first again : Run σ Flow} {second repeated : Run σ Outcome}
    (round : Implements first second) (goesOn : Implements again repeated) (behind : List Pending) :
    Implements
      (first >>= fun flow =>
        match flow with
        | .suspended delay pending => pure (.suspended delay (pending ++ behind))
        | .completed => afterRound >>= fun more => if more then again else pure .completed)
      (second >>= fun outcome =>
        match outcome with
        | .normal | .continued => repeated
        | .broke => pure .normal
        | .returned value => pure (.returned value)
        | .paused delay => pure (.paused delay)) := by
  intro state quiet
  have one := round state quiet
  refine (congrArg (Encodes · _) (bind_followedBy _ _ _ state)).mpr ?_
  generalize first state = left at one
  generalize ends : second state = right at one
  cases one with
  | @settled outcome after kept settled =>
      rw [bind_ok ends, followedBy, bind_ok (afterRound_raise kept outcome)]
      cases outcome with
      | normal => exact goesOn after kept
      | continued => exact goesOn after kept
      | broke => exact .settled .normal kept trivial
      | returned value => exact .settled (.returned value) kept trivial
      | paused delay => cases settled
  | paused kept =>
      rw [bind_ok ends]
      exact .paused kept
  | stopped kept =>
      rw [bind_error ends]
      exact .stopped kept

theorem nextRound_calm {eval : Expr → Run σ Value} (evals : ∀ expr, Calm (eval expr))
    (statement : Statement) (loop : LoopState) : Calm (nextRound eval statement loop) := by
  unfold nextRound
  split
  · refine (evals _).bind fun value => Calm.bind (fun _ quiet => quiet) fun truth => ?_
    split <;> exact fun _ quiet => quiet
  · exact fun _ quiet => quiet
  · split
    · exact fun _ quiet => quiet
    · exact (Calm.setLocal _ _).bind fun _ _ quiet => quiet
  · exact fun _ quiet => quiet

theorem execParts_implements {setting : Setting σ} {eval : Expr → Run σ Value}
    {firstBlock : Block → Run σ Flow} {secondBlock : Block → Run σ Outcome}
    {firstLoop : LoopState → Run σ Flow} {secondLoop : LoopState → Run σ Outcome}
    (raiseNothing : setting.effects.All Handler.RaisesNothing)
    (evals : ∀ expr, Tame Frame.SameBare (eval expr))
    (blocks : ∀ block, Implements (firstBlock block) (secondBlock block))
    (loops : ∀ loop, Implements (firstLoop loop) (secondLoop loop)) (statement : Statement) :
    Implements (execParts setting.manner eval firstBlock firstLoop statement)
      (Structured.execParts setting eval secondBlock secondLoop statement) := by
  have calm (expr : Expr) : Calm (eval expr) := (evals expr).calm
  have silent {α : Type} (view : RunState σ → α) : Calm (Run.read view) := fun _ quiet => quiet
  cases statement with
  | branch _ condition yes alternatives otherwise =>
      exact chooseBranch_implements calm blocks otherwise ((condition, yes) :: alternatives)
  | whileLoop _ condition body => exact loops .whileTrue
  | repeatLoop _ count body => exact .bind (calm count) fun value => loops _
  | forLoop _ name subject body =>
      exact .bind (calm subject) fun value => .bind (silent _) fun items => loops _
  | giveBack _ value =>
      cases value with
      | none => exact fun _ quiet => .settled (.returned .null) quiet trivial
      | some value =>
          exact .bind (calm value) fun result _ quiet => .settled (.returned result) quiet trivial
  | breakOut _ => exact fun _ quiet => .settled .broke quiet trivial
  | continueOn _ => exact fun _ quiet => .settled .continued quiet trivial
  | wait _ delay => exact .bind (calm delay) fun value _ quiet => .paused quiet
  | assign _ name value =>
      refine Plain.implements (.bind (calm value) fun value => ?_)
      exact .bind (Calm.setLocal name value) fun _ => .completed
  | compound _ name op value =>
      have read : Calm (setting.manner.readVariable name) :=
        (variableValue_tame setting.limits name).calm
      refine Plain.implements (.bind read fun current => .bind (calm value) fun change => ?_)
      refine .bind (fun _ quiet => quiet) fun result => ?_
      exact .bind (Calm.setLocal name result) fun _ => .completed
  | store _ key value =>
      refine Plain.implements (.bind (calm key) fun key => .bind (silent _) fun key => ?_)
      refine .bind (calm value) fun value => ?_
      exact .bind (Calm.modify fun _ => rfl) fun _ => .completed
  | storeCompound _ key op value =>
      refine Plain.implements (.bind (calm key) fun key => .bind (silent _) fun key => ?_)
      refine .bind (calm value) fun change => ?_
      simp only
      split
      · exact .bind (Calm.modify fun _ => rfl) fun _ => .completed
      · refine .bind (silent _) fun current => .bind (fun _ quiet => quiet) fun result => ?_
        exact .bind (Calm.modify fun _ => rfl) fun _ => .completed
  | effect line name arguments =>
      refine Plain.implements ?_
      simp only [execParts]
      cases known : setting.manner.effects.get? name with
      | none => exact .fail _
      | some handler =>
          refine .bind (Tame.forEach evals arguments).calm fun values => ?_
          exact .bind (Calm.perform (raiseNothing name handler known) name values line)
            fun _ => .completed
  | evaluate _ value => exact Plain.implements (.bind (calm value) fun _ => .completed)

/-- With the given room, expressions are what they are under structured control, and statements and
loops implement it. -/
structure ImplementsWithin (setting : Setting σ) (room : Nat) : Prop where
  eval : ∀ expr, Structured.evalWithin setting room expr = setting.manner.evalWithin room expr
  exec : ∀ statements index statement,
    Implements (setting.manner.execWithin room statements index statement)
      (Structured.execWithin setting room statement)
  loop : ∀ statements index statement loop,
    Implements (setting.manner.loopWithin room statements index statement loop)
      (Structured.loopWithin setting room statement loop)

variable {setting : Setting σ}

theorem call_structured {first : Block → Run σ Flow} {second : Block → Run σ Outcome}
    (bodies : ∀ block, Implements (first block) (second block)) :
    Structured.call setting second = call setting Frame.child first := by
  funext name arguments line
  simp only [Structured.call, call]
  cases setting.functions.get? name with
  | none => rfl
  | some function => exact callFunction_structured bodies setting.limits function arguments line

theorem ImplementsWithin.block {room : Nat} (within : ImplementsWithin setting room)
    (block : Block) :
    Implements
      (inOrder (setting.manner.execWithin room block.statements) block.statements 0
        block.statements)
      (Structured.inOrder (Structured.execWithin setting room) block.statements) :=
  inOrder_implements (within.exec block.statements) block.statements 0 block.statements

theorem implementsWithin (raiseNothing : setting.effects.All Handler.RaisesNothing) (room : Nat) :
    ImplementsWithin setting room := by
  have charged : Calm (Run.charge setting.limits : Run σ Unit) := (charge_tame _).calm
  -- Expressions come out equal, not only related, so that the relation need not be kept through
  -- them; they can only interfere by calls, which catch every signal.
  induction room with
  | zero =>
      have stops : Implements (Run.stop setting.manner.beyond : Run σ Flow)
          (Run.stop setting.manner.beyond) := fun _ quiet => .stopped quiet
      exact ⟨fun _ => rfl, fun _ _ _ => stops, fun _ _ _ _ => stops⟩
  | succ room ih =>
      have evals := (Manner.soundWithin setting room).eval
      have same : Structured.evalWithin setting room = setting.manner.evalWithin room :=
        funext ih.eval
      constructor
      · intro expr
        rw [Structured.evalWithin, same, call_structured ih.block]
        rfl
      · intro statements index statement
        rw [Manner.execWithin_succ, Structured.execWithin, same]
        exact .bind charged fun _ => execParts_implements raiseNothing evals ih.block
          (ih.loop statements index statement) statement
      · intro statements index statement loop
        rw [Manner.loopWithin_succ, Structured.loopWithin, same]
        refine .bind charged fun _ => ?_
        refine .bind (nextRound_calm (fun expr => (evals expr).calm) statement loop) fun round => ?_
        cases round with
        | none => exact .normal
        | some round =>
            exact round_implements (ih.block round.1) (ih.loop statements index statement round.2)
              [.loop statements index round.2]

theorem eval_structured (raiseNothing : setting.effects.All Handler.RaisesNothing) (expr : Expr) :
    Structured.eval setting expr = eval setting expr := by
  funext state
  exact congrFun ((implementsWithin raiseNothing _).eval expr) state

theorem execBlock_implements (raiseNothing : setting.effects.All Handler.RaisesNothing)
    (block : Block) : Implements (execBlock setting block) (Structured.execBlock setting block) :=
  fun state quiet => (implementsWithin raiseNothing _).block block state quiet

end Interpreter

def Frame.signalsUp (frame : Frame) : Nat :=
  [frame.returning, frame.breaking, frame.continuing].count true

theorem RunState.Quiet.signalsUp_raise {state : RunState σ} (quiet : state.Quiet)
    (outcome : Outcome) : (state.raise outcome).frame.signalsUp ≤ 1 := by
  obtain ⟨silent, unbroken, uncontinued⟩ := quiet.signals
  cases outcome <;>
    simp [Frame.signalsUp, RunState.raise, Outcome.raise, silent, unbroken, uncontinued]

theorem Encodes.signalsUp {left : Except (Stop RunError) Flow × RunState σ}
    {right : Except (Stop RunError) Outcome × RunState σ} (encodes : Encodes left right) :
    left.2.frame.signalsUp ≤ 1 := by
  cases encodes with
  | settled outcome quiet _ => exact quiet.signalsUp_raise outcome
  | paused quiet => exact quiet.signalsUp_raise .normal
  | stopped quiet => exact quiet.signalsUp_raise .normal

namespace Structured

open Interpreter Run

def Catches (run : Run σ Outcome) : Prop :=
  ∀ state outcome, (run state).1 = .ok outcome → outcome.caught = outcome

theorem Catches.pure {outcome : Outcome} (caught : outcome.caught = outcome) :
    Catches (pure outcome : Run σ Outcome) := by
  rintro state _ ⟨⟩
  exact caught

theorem Catches.bind {run : Run σ α} {next : α → Run σ Outcome}
    (rest : ∀ result, Catches (next result)) : Catches (run >>= next) := by
  intro state outcome
  exact bind_cases (motive := fun ending => ending.1 = .ok outcome → outcome.caught = outcome)
    (fun result after _ => rest result after outcome) fun _ _ _ => nofun

theorem loopWithin_catches (setting : Setting σ) (room : Nat) (statement : Statement)
    (loop : LoopState) : Catches (loopWithin setting room statement loop) := by
  induction room generalizing loop with
  | zero => exact fun _ _ => nofun
  | succ room ih =>
      rw [loopWithin]
      refine .bind fun _ => .bind fun round => ?_
      cases round with
      | none => exact .pure rfl
      | some round =>
          refine .bind fun outcome => ?_
          cases outcome with
          | normal => exact ih round.2
          | continued => exact ih round.2
          | broke => exact .pure rfl
          | returned value => exact .pure rfl
          | paused delay => exact .pure rfl

end Structured

namespace Interpreter

variable {setting : Setting σ}

theorem loopWithin_catches (raiseNothing : setting.effects.All Handler.RaisesNothing) (room : Nat)
    (statements : List Statement) (index : Nat) (statement : Statement) (loop : LoopState)
    {state : RunState σ} (quiet : state.Quiet) :
    let after := (setting.manner.loopWithin room statements index statement loop state).2
    after.frame.breaking = false ∧ after.frame.continuing = false := by
  have encodes :=
    (implementsWithin raiseNothing room).loop statements index statement loop state quiet
  have catches := Structured.loopWithin_catches setting room statement loop state
  generalize setting.manner.loopWithin room statements index statement loop state = left at encodes
  generalize Structured.loopWithin setting room statement loop state = right at encodes catches
  cases encodes with
  | settled outcome kept _ =>
      have caught := catches outcome rfl
      obtain ⟨_, unbroken, uncontinued⟩ := kept.signals
      cases outcome with
      | broke => cases caught
      | continued => cases caught
      | _ => exact ⟨unbroken, uncontinued⟩
  | paused kept => exact kept.signals.2
  | stopped kept => exact kept.signals.2

theorem callFunction_withSignals (limits : Limits) (runBody : Block → Run σ Flow)
    (function : Function) (arguments : List Value) (line : Nat) (state : RunState σ)
    (signals : Signals) :
    callFunction limits Frame.child runBody function arguments line (state.withSignals signals) =
      (callFunction limits Frame.child runBody function arguments line state).map id
        (·.withSignals signals) := by
  rw [callFunction_apply, callFunction_apply]
  by_cases deep : limits.depth ≤ state.frame.depth
  · rw [if_pos deep, if_pos (by exact deep)]
    rfl
  · have sameStart : ({ state.withSignals signals with
        frame := (state.withSignals signals).frame.child.bindAll function.parameters arguments } :
          RunState σ) =
        { state with frame := state.frame.child.bindAll function.parameters arguments } := rfl
    rw [if_neg deep, if_neg (by exact deep), sameStart]
    generalize runBody function.body _ = outcome
    obtain ⟨result, callee⟩ := outcome
    rcases result with error | ⟨_ | ⟨delay, pending⟩⟩ <;> rfl

/-- Runs agree with those of the semantics in which statements have outcomes in place of signals. -/
structure SignalsAgree (setting : Setting σ) : Prop where
  blocks : ∀ block, Implements (execBlock setting block) (Structured.execBlock setting block)
  statements : ∀ room statements index statement,
    Implements (setting.manner.execWithin room statements index statement)
      (Structured.execWithin setting room statement)
  expressions : ∀ expr, eval setting expr = Structured.eval setting expr
  /-- A call catches every outcome of the body. -/
  calls : ∀ function arguments line,
    callFunction setting.limits Frame.child (execBlock setting) function arguments line =
      Structured.callFunction setting.limits (Structured.execBlock setting) function arguments line
  oneSignal : ∀ room statements index statement state, state.Quiet →
    (setting.manner.execWithin room statements index statement state).2.frame.signalsUp ≤ 1
  loops : ∀ room statements index statement loop state, state.Quiet →
    let after := (setting.manner.loopWithin room statements index statement loop state).2
    after.frame.breaking = false ∧ after.frame.continuing = false

structure StructuredControl (setting : Setting σ) : Prop where
  agree : setting.effects.All Handler.RaisesNothing → SignalsAgree setting
  /-- No statement is reached while a signal is up: what would be done before it goes unnoticed. -/
  stopped : ∀ probe : Nat → Run σ Unit,
    (∀ opened state, state.Quiet → probe opened state = (.ok (), state)) →
    (Probes.mk probe fun _ => guardDepth setting.limits).Unnoticed setting fun _ => True
  /-- Bodies of functions start with no signal up, whatever is up in the frame of the caller. -/
  enters : ∀ (caller : Frame) parameters arguments,
    (caller.child.bindAll parameters arguments).interrupted = false
  /-- The signals of the caller make no difference to a call, and are up after it as before. -/
  leaves : ∀ runBody function arguments line (state : RunState σ) signals,
    callFunction setting.limits Frame.child runBody function arguments line
        (state.withSignals signals) =
      (callFunction setting.limits Frame.child runBody function arguments line state).map id
        (·.withSignals signals)

theorem signalsAgree (raiseNothing : setting.effects.All Handler.RaisesNothing) :
    SignalsAgree setting where
  blocks := execBlock_implements raiseNothing
  statements room := (implementsWithin raiseNothing room).exec
  expressions expr := (eval_structured raiseNothing expr).symm
  calls function arguments line :=
    (callFunction_structured (execBlock_implements raiseNothing) _ function arguments line).symm
  oneSignal room statements index statement state quiet :=
    ((implementsWithin raiseNothing room).exec statements index statement state quiet).signalsUp
  loops room statements index statement loop _ :=
    loopWithin_catches raiseNothing room statements index statement loop

/-- The signals implement structured control flow. Handlers of the host may put signals up too; runs
agree with the reference semantics if none does. -/
theorem structured_control (setting : Setting σ) : StructuredControl setting where
  agree := signalsAgree
  stopped _ silent := Probes.unnoticed_of_quiet silent
  enters caller := bindAll_interrupted caller.child
  leaves := callFunction_withSignals setting.limits

/-- A handler that puts two signals up leaves both of them up at the end. -/
theorem clashing_signals :
    let clash : Handler Unit := fun _ _ frame world =>
      (.ok (), { frame with breaking := true, returning := true }, world)
    let setting : Setting Unit := { effects := ({} : Effects Unit).register "clash" clash }
    let start : RunState Unit := ⟨.withBudget 20, {}, { host := () }, []⟩
    let ended := execBlock setting ⟨1, [.effect 1 "clash" []]⟩ start
    start.Quiet ∧ ended.1 = .ok .completed ∧ ended.2.frame.signalsUp = 2 :=
  ⟨rfl, rfl, rfl⟩

theorem core_raisesNothing : (Effects.core : Effects σ).All Handler.RaisesNothing := by
  refine Effects.core_all (fun _ _ _ _ _ quiet => quiet) (fun _ _ _ _ quiet => quiet) ?_
  intro actor arguments frame world quiet
  simp only [Handler.settingLocal]
  split <;> exact quiet

theorem breaking_structured :
    let setting : Setting Unit := { effects := Effects.core }
    let round : Block := ⟨1, [.breakOut 2, .continueOn 3]⟩
    let handler : Block :=
      ⟨1, [.whileLoop 1 (.literal 1 (.bool true)) round,
        .giveBack 4 (some (.literal 4 (.bool false))), .breakOut 5]⟩
    let after (spent : Nat) : RunState Unit :=
      ⟨.withBudget (20 - spent), {}, { host := () }, List.replicate spent .charged⟩
    setting.effects.All Handler.RaisesNothing ∧ (after 0).Quiet ∧
      Structured.execBlock setting handler (after 0) = (.ok (.returned (.bool false)), after 6) ∧
      execBlock setting handler (after 0) =
        (.ok .completed, (after 6).raise (.returned (.bool false))) ∧
      SignalsAgree setting ∧ StructuredControl setting := by
  refine ⟨core_raisesNothing, rfl, ?_, ?_, (structured_control _).agree core_raisesNothing,
    structured_control _⟩
  · cbv
  · cbv

end Interpreter

end EventScript
