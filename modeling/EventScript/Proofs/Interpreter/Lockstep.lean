import EventScript.Interpreter.Statement
import EventScript.Proofs.Run.Lockstep

/-!
Scripts side by side. Where two manners of running scripts differ, they have to keep to a bond; then
every expression, statement, loop and resumption keeps to it.
-/

namespace EventScript

namespace Builtin

theorem newItems?_followed {machine : Machine} {builtin : Builtin} {arguments : Arguments} :
    newItems? machine builtin arguments ≠ some (.error (.lost .unfollowed)) := by
  unfold newItems?
  split
  · dsimp only
    split <;> nofun
  · cases splitText (arguments.text 0) (arguments.text 1) <;> nofun
  · split <;> nofun
  · nofun
  · nofun

theorem pureValue_followed {builtin : Builtin} {arguments : Arguments} :
    pureValue builtin arguments ≠ .error (.lost .unfollowed) := by
  unfold pureValue
  split
  all_goals try dsimp only
  all_goals repeat' split
  all_goals nofun

theorem run_followed (machine : Machine) (builtin : Builtin) (values : List Value) (heap : Heap)
    (dice : Dice) : (run machine builtin values heap dice).1 ≠ .error (.lost .unfollowed) := by
  unfold run
  dsimp only
  split
  · nofun
  · next stop refused =>
    rintro ⟨⟩
    exact newItems?_followed refused
  · split
    · nofun
    · repeat' split
      all_goals nofun
    · nofun
    · split <;> nofun
    · split <;> nofun
    · repeat' split
      all_goals nofun
    · exact pureValue_followed

end Builtin

namespace Interpreter

open Run

variable {σ : Type} {bond : Bond σ}

theorem callBuiltin_agree (machine : Machine) (name : String) (arguments : List Value)
    (line : Nat) :
    Agree bond (callBuiltin machine name arguments line)
      (callBuiltin machine name arguments line) where
  lockstep {left right} running := by
    simp only [callBuiltin, bond.sameWorld running]
    split
    · exact .failed (bond.fail running _ rfl)
    · rename_i outcome heap dice called
      have moved := bond.setWorld running { right.world with heap, dice }
      obtain ⟨builtin, _, ran⟩ := Option.map_eq_some_iff.mp called
      have followed := Builtin.run_followed machine builtin arguments right.world.heap
        right.world.dice
      rw [ran] at followed
      split
      · exact .finished moved
      · exact .failed (bond.fail moved _ rfl)
      · next loss =>
        refine .failed (bond.fail moved _ ?_)
        cases loss with
        | blocked => rfl
        | panicked => rfl
        | unfollowed => exact absurd rfl followed
  alone cut := by
    simp only [callBuiltin]
    split
    · exact cut
    · split <;> exact bond.late cut (List.suffix_refl _)

theorem evalParts_agree {readFirst readSecond : String → Run σ Value}
    {first second : Expr → Run σ Value}
    {callFirst callSecond : String → List Value → Nat → Run σ Value}
    (reads : ∀ name, Agree bond (readFirst name) (readSecond name))
    (evals : ∀ expr, Agree bond (first expr) (second expr))
    (calls : ∀ name arguments line,
      Agree bond (callFirst name arguments line) (callSecond name arguments line)) (expr : Expr) :
    Agree bond (evalParts readFirst first callFirst expr)
      (evalParts readSecond second callSecond expr) := by
  cases expr with
  | literal _ value => exact .pure _
  | reference _ name => exact reads name
  | stored _ key =>
      refine (evals key).bind fun value => ?_
      exact (Agree.render value).bind fun key => Agree.stored key
  | binary _ op left right =>
      refine (evals left).bind fun leftValue => (Agree.isTrue leftValue).bind fun truth => ?_
      split
      · exact .pure _
      · exact (evals right).bind fun rightValue => (Agree.onHeap _).bind .await
  | unary _ op operand =>
      refine (evals operand).bind fun value => ?_
      exact Agree.readWorld fun world => op.apply value world.heap
  | call line name arguments =>
      refine (Agree.forEach fun argument _ => evals argument).bind fun values => ?_
      exact calls name values line
  | index _ target position =>
      refine (evals target).bind fun targetValue => (evals position).bind fun value => ?_
      exact (Agree.readWorld fun world => targetValue.at world.heap value).bind .await
  | property _ target name =>
      refine (evals target).bind fun value => ?_
      exact Agree.readWorld fun world => value.property world.heap name
  | list _ items =>
      exact (Agree.forEach fun item _ => evals item).bind fun values => Agree.onHeap _
  | map _ entries =>
      refine (Agree.forEach fun entry _ => ?_).bind fun values => Agree.onHeap _
      refine (evals entry.1).bind fun key => (Agree.render key).bind fun key => ?_
      exact (evals entry.2).bind fun value => .pure (key, value)
  | template _ parts =>
      refine (Agree.forEach fun part _ => ?_).bind fun texts => .pure _
      cases part with
      | text content => exact .pure content
      | expr value => exact (evals value).bind fun value => Agree.render value
  | conditional _ condition yes no =>
      refine (evals condition).bind fun value => (Agree.isTrue value).bind fun truth => ?_
      split
      · exact evals yes
      · exact evals no

theorem bindAll_running {left right : RunState σ} {first second : Frame}
    (running : bond.running { left with frame := first } { right with frame := second })
    (parameters : List String) (arguments : List Value) :
    bond.running { left with frame := first.bindAll parameters arguments }
      { right with frame := second.bindAll parameters arguments } := by
  induction parameters generalizing first second arguments with
  | nil => exact running
  | cons parameter parameters ih =>
      exact ih (bond.setLocal running parameter (arguments.head?.getD .null)) arguments.tail

def leaveFunction (line : Nat) (caller : RunState σ) :
    Except (Stop RunError) Flow × RunState σ → Except (Stop RunError) Value × RunState σ
  | (.ok .completed, callee) => (.ok callee.frame.result, caller.afterCall callee)
  | (.ok (.suspended ..), callee) =>
    (.error (.failed (.script "wait is not supported inside functions" line)),
      caller.afterCall callee)
  | (.error error, callee) => (.error error, caller.afterCall callee)

theorem leaveFunction_state (line : Nat) (caller : RunState σ)
    (outcome : Except (Stop RunError) Flow × RunState σ) :
    (leaveFunction line caller outcome).2 = caller.afterCall outcome.2 := by
  unfold leaveFunction
  split <;> rfl

theorem callFunction_apply (limits : Limits) (enter : Frame → Frame)
    (runBody : Block → Run σ Flow) (function : Function) (arguments : List Value) (line : Nat)
    (state : RunState σ) :
    callFunction limits enter runBody function arguments line state =
      if limits.depth ≤ state.frame.depth then (.error (.failed (.callDepth limits.depth)), state)
      else leaveFunction line state (runBody function.body
        { state with frame := (enter state.frame).bindAll function.parameters arguments }) := by
  have asked : Run.read (·.frame) state = (.ok state.frame, state) := rfl
  rw [callFunction, bind_ok asked]
  split
  · rfl
  · generalize ends : runBody function.body _ = outcome
    obtain ⟨result, callee⟩ := outcome
    cases result with
    | ok flow =>
        have back : Run.inFrame ((enter state.frame).bindAll function.parameters arguments)
            (runBody function.body) state = (.ok (flow, callee.frame), state.afterCall callee) := by
          simp only [Run.inFrame, ends, RunState.afterCall]
        rw [bind_ok back]
        cases flow <;> rfl
    | error error =>
        have back : Run.inFrame ((enter state.frame).bindAll function.parameters arguments)
            (runBody function.body) state = (.error error, state.afterCall callee) := by
          simp only [Run.inFrame, ends, RunState.afterCall]
        rw [bind_error back]
        rfl

theorem leaveFunction_ending {inner : Bond σ} {enterFirst enterSecond : Frame → Frame}
    {left right : RunState σ} (nest : bond.Nests inner enterFirst enterSecond left right)
    (line : Nat) {first second : Except (Stop RunError) Flow × RunState σ}
    (ending : inner.Ending first second) :
    bond.Ending (leaveFunction line left first) (leaveFunction line right second) := by
  cases ending with
  | @finished flow leftAfter rightAfter running =>
      have back := nest.leave running
      cases flow with
      | completed =>
          have same := inner.sameSignals running
          simp only [Frame.signals, Signals.mk.injEq] at same
          simp only [leaveFunction, Frame.result, same]
          exact .finished back
      | suspended delay pending => exact .failed (bond.fail back _ rfl)
  | failed failed => exact .failed (nest.leaveFailed failed)
  | @cut error leftAfter outcome rightAfter cut =>
      have back := nest.leaveCut cut
      generalize ends : leaveFunction line right (outcome, rightAfter) = rightEnd
      obtain ⟨result, after⟩ := rightEnd
      have same : after = right.afterCall rightAfter := by
        rw [← leaveFunction_state line right (outcome, rightAfter), ends]
      rw [same]
      exact .cut back

theorem callFunction_agree {limits other : Limits} {enterFirst enterSecond : Frame → Frame}
    {runFirst runSecond : Block → Run σ Flow}
    (sameDepth : limits.depth = other.depth)
    (bodies : ∀ block, Agree bond (runFirst block) (runSecond block))
    (nests : ∀ {left right}, bond.running left right → ∃ inner : Bond σ,
      (∀ block, Agree inner (runFirst block) (runSecond block)) ∧
        bond.Nests inner enterFirst enterSecond left right)
    (function : Function) (arguments : List Value) (line : Nat) :
    Agree bond (callFunction limits enterFirst runFirst function arguments line)
      (callFunction other enterSecond runSecond function arguments line) where
  lockstep {left right} running := by
    obtain ⟨inner, agree, nest⟩ := nests running
    rw [callFunction_apply, callFunction_apply, nest.sameDepth, sameDepth]
    split
    · exact .failed (bond.fail running _ rfl)
    · have entered := bindAll_running nest.enter function.parameters arguments
      exact leaveFunction_ending nest line ((agree function.body).lockstep entered)
  alone {error left right} cut := by
    rw [callFunction_apply]
    split
    · exact cut
    · rw [leaveFunction_state]
      have entered : bond.cut error left { right with
          frame := (enterSecond right.frame).bindAll function.parameters arguments } :=
        bond.late cut (List.suffix_refl _)
      exact bond.late ((bodies function.body).alone entered) (List.suffix_refl _)

/-- How a run ends that is followed by another one: if it pauses, `rest` is left over as well. -/
def followedBy (rest : List Pending) (next : Run σ Flow) :
    Except (Stop RunError) Flow × RunState σ → Except (Stop RunError) Flow × RunState σ
  | (.ok .completed, state) => next state
  | (.ok (.suspended delay pending), state) => (.ok (.suspended delay (pending ++ rest)), state)
  | (.error error, state) => (.error error, state)

theorem bind_followedBy (run next : Run σ Flow) (rest : List Pending) (state : RunState σ) :
    (run >>= fun flow =>
      match flow with
      | .suspended delay pending => pure (.suspended delay (pending ++ rest))
      | .completed => next) state = followedBy rest next (run state) := by
  generalize ends : run state = outcome
  obtain ⟨result, after⟩ := outcome
  cases result with
  | error error => rw [bind_error ends, followedBy]
  | ok flow =>
      rw [bind_ok ends]
      cases flow <;> rfl

theorem inOrder_cons (exec : Nat → Statement → Run σ Flow) (statements : List Statement)
    (index : Nat) (statement : Statement) (rest : List Statement) (state : RunState σ) :
    inOrder exec statements index (statement :: rest) state =
      if state.frame.interrupted then (.ok .completed, state)
      else followedBy (if rest.isEmpty then [] else [.block statements (index + 1)])
        (inOrder exec statements (index + 1) rest) (exec index statement state) := by
  have asked : Run.read (·.frame.interrupted) state = (.ok state.frame.interrupted, state) := rfl
  rw [inOrder, bind_ok asked]
  split
  · rfl
  · generalize ends : exec index statement state = outcome
    obtain ⟨result, after⟩ := outcome
    cases result with
    | error error => rw [bind_error ends, followedBy]
    | ok flow =>
        rw [bind_ok ends]
        cases flow with
        | completed => rfl
        | suspended delay pending =>
            cases rest with
            | nil => simp only [List.isEmpty_nil, ↓reduceIte, followedBy, List.append_nil]; rfl
            | cons _ _ => rfl

theorem inOrder_agree {first second : Nat → Statement → Run σ Flow}
    (execs : ∀ index statement, Agree bond (first index statement) (second index statement))
    (statements : List Statement) (index : Nat) (rest : List Statement) :
    Agree bond (inOrder first statements index rest) (inOrder second statements index rest) := by
  induction rest generalizing index with
  | nil => exact .pure _
  | cons statement rest ih =>
      have interrupted : Agree bond (Run.read (·.frame.interrupted))
          (Run.read (·.frame.interrupted)) := by
        refine Agree.read fun {left right} running => ?_
        have same := bond.sameSignals running
        simp only [Frame.signals, Signals.mk.injEq] at same
        simp only [Frame.interrupted, same]
      refine interrupted.bind fun stopped => ?_
      split
      · exact .pure _
      · refine (execs index statement).bind fun flow => ?_
        cases flow with
        | completed => exact ih (index + 1)
        | suspended delay pending =>
            simp only
            split <;> exact .pure _

def closeRound (signals : Signals) : Signals :=
  if signals.breaking then { signals with breaking := false }
  else { signals with continuing := false }

theorem afterRound_eq (state : RunState σ) :
    afterRound state = (.ok (!state.frame.breaking && !state.frame.returning),
      { state with frame := state.frame.withSignals (closeRound state.frame.signals) }) := by
  by_cases breaking : state.frame.breaking = true
  · simp [afterRound, closeRound, Frame.signals, Frame.withSignals, breaking]
  · simp [afterRound, closeRound, Frame.signals, Frame.withSignals, breaking]

theorem afterRound_agree : Agree bond (afterRound : Run σ Bool) afterRound where
  lockstep {left right} running := by
    have same := bond.sameSignals running
    have moved := bond.setSignals running (closeRound right.frame.signals)
    rw [afterRound_eq, afterRound_eq, same]
    simp only [Frame.signals, Signals.mk.injEq] at same
    rw [same.1, same.2.1]
    exact .finished moved
  alone cut := by
    rw [afterRound_eq]
    exact bond.late cut (List.suffix_refl _)

theorem nextRound_agree {first second : Expr → Run σ Value}
    (evals : ∀ expr, Agree bond (first expr) (second expr)) (statement : Statement)
    (loop : LoopState) :
    Agree bond (nextRound first statement loop) (nextRound second statement loop) := by
  unfold nextRound
  split
  · refine (evals _).bind fun value => (Agree.isTrue value).bind fun truth => ?_
    split <;> exact .pure _
  · exact .pure _
  · split
    · exact .pure _
    · exact (Agree.setLocal _ _).bind fun _ => .pure _
  · exact .fail _ rfl

theorem chooseBranch_agree {first second : Expr → Run σ Value}
    {runFirst runSecond : Block → Run σ Flow}
    (evals : ∀ expr, Agree bond (first expr) (second expr))
    (blocks : ∀ block, Agree bond (runFirst block) (runSecond block)) (otherwise : Option Block)
    (alternatives : List (Expr × Block)) :
    Agree bond (chooseBranch first runFirst otherwise alternatives)
      (chooseBranch second runSecond otherwise alternatives) := by
  induction alternatives with
  | nil =>
      cases otherwise with
      | none => exact .pure _
      | some body => exact blocks body
  | cons alternative rest ih =>
      refine (evals alternative.1).bind fun value => (Agree.isTrue value).bind fun truth => ?_
      split
      · exact blocks alternative.2
      · exact ih

theorem execParts_agree (manner other : Manner σ) {first second : Expr → Run σ Value}
    {runFirst runSecond : Block → Run σ Flow} {loopFirst loopSecond : LoopState → Run σ Flow}
    (sameEffects : manner.effects = other.effects) (samePause : manner.pause = other.pause)
    (reads : ∀ name, Agree bond (manner.readVariable name) (other.readVariable name))
    (performs : ∀ name handler, manner.effects.get? name = some handler → ∀ arguments line,
      Agree bond (Run.perform handler name arguments line)
        (Run.perform handler name arguments line))
    (evals : ∀ expr, Agree bond (first expr) (second expr))
    (blocks : ∀ block, Agree bond (runFirst block) (runSecond block))
    (loops : ∀ loop, Agree bond (loopFirst loop) (loopSecond loop)) (statement : Statement) :
    Agree bond (execParts manner first runFirst loopFirst statement)
      (execParts other second runSecond loopSecond statement) := by
  cases statement with
  | branch _ condition yes alternatives otherwise =>
      exact chooseBranch_agree evals blocks otherwise ((condition, yes) :: alternatives)
  | whileLoop _ condition body => exact loops .whileTrue
  | forLoop _ name subject body =>
      refine (evals subject).bind fun value => ?_
      exact (Agree.readWorld fun world => value.visited world.heap).bind fun items => loops _
  | repeatLoop _ count body => exact (evals count).bind fun value => loops _
  | giveBack _ value =>
      have returned (result : Value) : Agree bond
          (Run.modifyFrame fun frame => { frame with returnValue := result, returning := true })
          (Run.modifyFrame fun frame => { frame with returnValue := result, returning := true }) :=
        Agree.signal fun signals => { signals with returnValue := result, returning := true }
      cases value with
      | none => exact (Agree.pure Value.null).bind fun _ => (returned _).bind fun _ => .pure _
      | some value => exact (evals value).bind fun _ => (returned _).bind fun _ => .pure _
  | breakOut _ =>
      exact Agree.bind (Agree.signal fun signals => { signals with breaking := true })
        fun _ => .pure _
  | continueOn _ =>
      exact Agree.bind (Agree.signal fun signals => { signals with continuing := true })
        fun _ => .pure _
  | assign _ name value =>
      exact (evals value).bind fun value => (Agree.setLocal name value).bind fun _ => .pure _
  | compound _ name op value =>
      refine (reads name).bind fun current => (evals value).bind fun change => ?_
      refine (Agree.onHeap (op.apply current change)).bind fun result => ?_
      exact (Agree.setLocal name result).bind fun _ => .pure _
  | store _ key value =>
      refine (evals key).bind fun key => (Agree.render key).bind fun key => ?_
      exact (evals value).bind fun value => (Agree.writeStore key value).bind fun _ => .pure _
  | storeCompound _ key op value =>
      refine (evals key).bind fun key => (Agree.render key).bind fun key => ?_
      refine (evals value).bind fun change => ?_
      simp only
      split
      · exact (Agree.incrementStore key _).bind fun _ => .pure _
      · refine (Agree.stored key).bind fun current => ?_
        refine (Agree.onHeap (op.apply current change)).bind fun result => ?_
        exact (Agree.writeStore key result).bind fun _ => .pure _
  | effect line name arguments =>
      simp only [execParts, ← sameEffects]
      split
      · exact .fail _ rfl
      · rename_i handler found
        refine (Agree.forEach fun argument _ => evals argument).bind fun values => ?_
        exact (performs name handler found values line).bind fun _ => .pure _
  | evaluate _ value => exact (evals value).bind fun _ => .pure _
  | wait _ delay =>
      refine (evals delay).bind fun value => ?_
      rw [samePause]
      exact .pure _

end Interpreter

namespace Manner

open Interpreter Run

variable {σ : Type} {bond : Bond σ} {manner other : Manner σ}

/-- Two manners keep to a bond with the room given to each, whatever a `wait` comes to. -/
structure AgreeWithin (bond : Bond σ) (manner other : Manner σ) (room otherRoom : Nat) :
    Prop where
  eval : ∀ pause expr, Agree bond ({ manner with pause }.evalWithin room expr)
    ({ other with pause }.evalWithin otherRoom expr)
  exec : ∀ pause statements index statement,
    Agree bond ({ manner with pause }.execWithin room statements index statement)
      ({ other with pause }.execWithin otherRoom statements index statement)
  loop : ∀ pause statements index statement state,
    Agree bond ({ manner with pause }.loopWithin room statements index statement state)
      ({ other with pause }.loopWithin otherRoom statements index statement state)

/-- What two manners need to keep to all the bonds of a family. Which bonds are in the family may
depend on the room that is left. -/
structure Accord (manner other : Manner σ) (family : Nat → Nat → Bond σ → Prop) : Prop where
  sameFunctions : manner.functions = other.functions
  sameEffects : manner.effects = other.effects
  sameDepth : manner.limits.depth = other.limits.depth
  sameMachine : manner.machine = other.machine
  base : ∀ {room otherRoom bond}, family room otherRoom bond → room = 0 ∨ otherRoom = 0 →
    AgreeWithin bond manner other room otherRoom
  pays : ∀ {room otherRoom bond}, family (room + 1) (otherRoom + 1) bond →
    ∃ inner, family room otherRoom inner ∧ inner.Tighter bond ∧
      bond.Pays inner manner.limits other.limits
  reads : ∀ {room otherRoom bond}, family room otherRoom bond →
    ∀ name, Agree bond (manner.readVariable name) (other.readVariable name)
  performs : ∀ {room otherRoom bond}, family room otherRoom bond →
    ∀ name handler, manner.effects.get? name = some handler → ∀ arguments line,
      Agree bond (Run.perform handler name arguments line)
        (Run.perform handler name arguments line)
  calls : ∀ {room otherRoom bond}, family room otherRoom bond →
    ∀ {left right}, bond.running left right →
      ∃ inner, family room otherRoom inner ∧ bond.Nests inner manner.enter other.enter left right

namespace Accord

variable {family : Nat → Nat → Bond σ → Prop}

theorem single (sameFunctions : manner.functions = other.functions)
    (sameEffects : manner.effects = other.effects)
    (sameDepth : manner.limits.depth = other.limits.depth)
    (sameMachine : manner.machine = other.machine)
    (stops : ∀ {β : Type}, Agree bond (Run.stop manner.beyond : Run σ β) (Run.stop other.beyond))
    (pays : bond.Pays bond manner.limits other.limits)
    (reads : ∀ name, Agree bond (manner.readVariable name) (other.readVariable name))
    (performs : ∀ name handler, manner.effects.get? name = some handler → ∀ arguments line,
      Agree bond (Run.perform handler name arguments line)
        (Run.perform handler name arguments line))
    (nests : ∀ {left right}, bond.running left right →
      bond.Nests bond manner.enter other.enter left right) :
    Accord manner other fun room otherRoom member => room = otherRoom ∧ member = bond where
  sameFunctions := sameFunctions
  sameEffects := sameEffects
  sameDepth := sameDepth
  sameMachine := sameMachine
  base := by
    rintro room _ _ ⟨rfl, rfl⟩ full
    have none : room = 0 := full.elim id id
    subst none
    exact ⟨fun _ _ => stops, fun _ _ _ _ => stops, fun _ _ _ _ _ => stops⟩
  pays := by
    rintro room otherRoom _ ⟨same, rfl⟩
    exact ⟨_, ⟨Nat.succ.inj same, rfl⟩, .refl _, pays⟩
  reads := by
    rintro room otherRoom _ ⟨_, rfl⟩
    exact reads
  performs := by
    rintro room otherRoom _ ⟨_, rfl⟩
    exact performs
  calls := by
    rintro room otherRoom _ ⟨same, rfl⟩ left right running
    exact ⟨_, ⟨same, rfl⟩, nests running⟩

theorem call_agree (accord : Accord manner other family) {room otherRoom : Nat}
    (member : family room otherRoom bond)
    (within : ∀ {bond}, family room otherRoom bond → AgreeWithin bond manner other room otherRoom)
    (name : String) (arguments : List Value) (line : Nat) :
    Agree bond
      (call manner.toSetting manner.enter (fun block =>
        inOrder ({ manner with pause := .pause }.execWithin room block.statements)
          block.statements 0 block.statements) name arguments line)
      (call other.toSetting other.enter (fun block =>
        inOrder ({ other with pause := .pause }.execWithin otherRoom block.statements)
          block.statements 0 block.statements) name arguments line) := by
  have bodies {bond : Bond σ} (member : family room otherRoom bond) (block : Block) :
      Agree bond
        (inOrder ({ manner with pause := .pause }.execWithin room block.statements)
          block.statements 0 block.statements)
        (inOrder ({ other with pause := .pause }.execWithin otherRoom block.statements)
          block.statements 0 block.statements) :=
    inOrder_agree ((within member).exec .pause block.statements) block.statements 0 block.statements
  simp only [call, ← accord.sameFunctions, ← accord.sameMachine]
  split
  · rename_i function _
    refine callFunction_agree accord.sameDepth (bodies member) (fun running => ?_) function
      arguments line
    obtain ⟨inner, innerMember, nest⟩ := accord.calls member running
    exact ⟨inner, bodies innerMember, nest⟩
  · exact callBuiltin_agree manner.machine name arguments line

theorem blocks_agree {room otherRoom : Nat} (agree : AgreeWithin bond manner other room otherRoom)
    (pause : Nat → Flow) (block : Block) :
    Agree bond
      (inOrder ({ manner with pause }.execWithin room block.statements) block.statements 0
        block.statements)
      (inOrder ({ other with pause }.execWithin otherRoom block.statements) block.statements 0
        block.statements) :=
  inOrder_agree (agree.exec pause block.statements) block.statements 0 block.statements

end Accord

def execCharged (manner : Manner σ) (room : Nat) (statements : List Statement) (index : Nat)
    (statement : Statement) : Run σ Flow :=
  execParts manner (manner.evalWithin room)
    (fun block => inOrder (manner.execWithin room block.statements) block.statements 0
      block.statements)
    (fun loop => manner.loopWithin room statements index statement loop) statement

theorem execWithin_succ (manner : Manner σ) (room : Nat) (statements : List Statement) (index : Nat)
    (statement : Statement) :
    manner.execWithin (room + 1) statements index statement =
      Run.charge manner.limits >>= fun _ =>
        manner.execCharged room statements index statement := rfl

def loopCharged (manner : Manner σ) (room : Nat) (statements : List Statement) (index : Nat)
    (statement : Statement) (state : LoopState) : Run σ Flow := do
  match ← nextRound (manner.evalWithin room) statement state with
  | none => pure .completed
  | some (body, state) =>
    match ← inOrder (manner.execWithin room body.statements) body.statements 0
        body.statements with
    | .suspended delay pending =>
      pure (.suspended delay (pending ++ [.loop statements index state]))
    | .completed =>
      if ← afterRound then manner.loopWithin room statements index statement state
      else pure .completed

theorem loopWithin_succ (manner : Manner σ) (room : Nat) (statements : List Statement) (index : Nat)
    (statement : Statement) (state : LoopState) :
    manner.loopWithin (room + 1) statements index statement state =
      Run.charge manner.limits >>= fun _ =>
        manner.loopCharged room statements index statement state := rfl

namespace Accord

variable {family : Nat → Nat → Bond σ → Prop}

theorem execCharged_agree (accord : Accord manner other family) {room otherRoom : Nat}
    (member : family room otherRoom bond) (agree : AgreeWithin bond manner other room otherRoom)
    (pause : Nat → Flow) (statements : List Statement) (index : Nat) (statement : Statement) :
    Agree bond ({ manner with pause }.execCharged room statements index statement)
      ({ other with pause }.execCharged otherRoom statements index statement) :=
  execParts_agree { manner with pause } { other with pause } accord.sameEffects rfl
    (accord.reads member) (accord.performs member) (agree.eval pause) (blocks_agree agree pause)
    (agree.loop pause statements index statement) statement

theorem loopCharged_agree {room otherRoom : Nat}
    (agree : AgreeWithin bond manner other room otherRoom) (pause : Nat → Flow)
    (statements : List Statement) (index : Nat) (statement : Statement) (state : LoopState) :
    Agree bond ({ manner with pause }.loopCharged room statements index statement state)
      ({ other with pause }.loopCharged otherRoom statements index statement state) := by
  refine (nextRound_agree (agree.eval pause) statement state).bind fun round => ?_
  cases round with
  | none => exact .pure _
  | some round =>
      refine (blocks_agree agree pause round.1).bind fun flow => ?_
      cases flow with
      | suspended delay pending => exact .pure _
      | completed =>
          refine afterRound_agree.bind fun more => ?_
          split
          · exact agree.loop pause statements index statement round.2
          · exact .pure _

theorem step (accord : Accord manner other family) {room otherRoom : Nat}
    (within : ∀ {bond}, family room otherRoom bond → AgreeWithin bond manner other room otherRoom)
    (member : family (room + 1) (otherRoom + 1) bond) :
    AgreeWithin bond manner other (room + 1) (otherRoom + 1) := by
  obtain ⟨inner, innerMember, tighter, pays⟩ := accord.pays member
  have agree := within innerMember
  constructor
  · intro pause expr
    refine Agree.charged tighter pays ?_
    exact evalParts_agree (accord.reads innerMember) (agree.eval pause)
      (accord.call_agree innerMember within) expr
  · intro pause statements index statement
    rw [execWithin_succ, execWithin_succ]
    exact Agree.charged tighter pays
      (accord.execCharged_agree innerMember agree pause statements index statement)
  · intro pause statements index statement state
    rw [loopWithin_succ, loopWithin_succ]
    exact Agree.charged tighter pays
      (loopCharged_agree agree pause statements index statement state)

theorem within (accord : Accord manner other family) {room otherRoom : Nat}
    (member : family room otherRoom bond) : AgreeWithin bond manner other room otherRoom := by
  induction room generalizing otherRoom bond with
  | zero => exact accord.base member (.inl rfl)
  | succ room ih =>
      cases otherRoom with
      | zero => exact accord.base member (.inr rfl)
      | succ otherRoom => exact accord.step ih member

end Accord

theorem resume_cons (manner : Manner σ) (entry : Pending) (rest : List Pending)
    (state : RunState σ) :
    manner.resume (entry :: rest) state =
      followedBy rest (manner.resume rest) (manner.resumeOne entry state) := by
  rw [resume]
  exact bind_followedBy _ _ _ state

section Resume

variable
  (execs : ∀ statements next,
    Agree bond (manner.execFrom statements next) (other.execFrom statements next))
  (loops : ∀ statements index statement state,
    Agree bond
      (withRoom manner.machine fun room => manner.loopWithin room statements index statement state)
      (withRoom other.machine fun room => other.loopWithin room statements index statement state))

include execs loops

theorem resumeOne_agree (entry : Pending) :
    Agree bond (manner.resumeOne entry) (other.resumeOne entry) := by
  cases entry with
  | block statements next => exact execs statements next
  | loop statements index state =>
      refine afterRound_agree.bind fun more => ?_
      split
      · split
        · exact loops statements index _ state
        · exact .pure _
      · exact .pure _

theorem resume_agree (pending : List Pending) :
    Agree bond (manner.resume pending) (other.resume pending) := by
  induction pending with
  | nil => exact .pure _
  | cons entry rest ih =>
      refine (resumeOne_agree execs loops entry).bind fun flow => ?_
      cases flow with
      | suspended delay pending => exact .pure _
      | completed => exact ih

end Resume

end Manner

end EventScript
