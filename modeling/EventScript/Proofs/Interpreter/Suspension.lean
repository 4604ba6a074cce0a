import EventScript.Proofs.Interpreter.Budget

/-!
Pauses cannot be noticed. A handler that pauses, and is resumed until nothing is left of it, comes
to the same as in a manner in which a `wait` outside functions is over at once.
-/

namespace EventScript

variable {σ α : Type}

/-- The manner that differs from the engine's in that a `wait` outside functions just completes. -/
def Setting.unpaused (setting : Setting σ) : Manner σ :=
  { setting.manner with pause := fun _ => .completed }

namespace Manner

open Interpreter Run

def finish (manner : Manner σ) :
    Except (Stop RunError) Flow × RunState σ → Except (Stop RunError) Flow × RunState σ
  | (.ok (.suspended _ pending), state) => manner.resume pending state
  | outcome => outcome

theorem finish_settled (manner : Manner σ) {outcome : Except (Stop RunError) Flow × RunState σ}
    (settled : Settled outcome) : manner.finish outcome = outcome := by
  unfold finish
  split
  · rename_i delay pending state
    exact absurd rfl (settled delay pending)
  · rfl

theorem settled_bind {run : Run σ α} {next : α → Run σ Flow}
    (settled : ∀ result state, Settled (next result state)) (state : RunState σ) :
    Settled ((run >>= next) state) :=
  bind_cases (fun result after _ => settled result after) fun _ _ _ => nofun

theorem settled_completed (state : RunState σ) :
    Settled ((pure .completed : Run σ Flow) state) := nofun

theorem settled_fail (error : RunError) (state : RunState σ) :
    Settled ((Run.fail error : Run σ Flow) state) := nofun

theorem resume_singleton (manner : Manner σ) (entry : Pending) (state : RunState σ) :
    manner.resume [entry] state = manner.resumeOne entry state := by
  rw [resume_cons]
  generalize manner.resumeOne entry state = outcome
  obtain ⟨result, after⟩ := outcome
  cases result with
  | error error => rfl
  | ok flow =>
      cases flow with
      | completed => rfl
      | suspended delay pending => rw [followedBy, List.append_nil]

theorem resume_append (manner : Manner σ) (entries rest : List Pending) (state : RunState σ) :
    manner.resume (entries ++ rest) state =
      followedBy rest (manner.resume rest) (manner.resume entries state) := by
  induction entries generalizing state with
  | nil => rfl
  | cons entry entries ih =>
      rw [List.cons_append, resume_cons, resume_cons]
      generalize manner.resumeOne entry state = outcome
      obtain ⟨result, after⟩ := outcome
      cases result with
      | error error => rfl
      | ok flow =>
          cases flow with
          | completed => exact ih after
          | suspended delay pending => simp only [followedBy, List.append_assoc]

theorem evalWithin_pause (manner : Manner σ) (pause : Nat → Flow) (room : Nat) :
    { manner with pause }.evalWithin room = manner.evalWithin room := by
  induction room with
  | zero => rfl
  | succ room ih =>
      funext expr
      simp only [evalWithin, ih]

def KeepsBelow (bound : Nat) (run : Run σ α) : Prop :=
  ∀ state, state.frame.budget < bound → (run state).2.frame.budget < bound

theorem keepsBelow_of_metered {bound : Nat} {run : Run σ α}
    (metered : ∀ state, state.frame.budget < bound → MeteredAt state run run) :
    KeepsBelow bound run :=
  fun state fits => Nat.lt_of_le_of_lt (metered state fits).accounted.lowers fits

/-- From every state with less than a budget, the second run does what comes of the first one if
nothing is left over. -/
def CatchesUp (setting : Setting σ) (bound : Nat) (paused unpaused : Run σ Flow) : Prop :=
  ∀ state, state.frame.budget < bound → unpaused state = setting.unpaused.finish (paused state)

namespace CatchesUp

variable {setting : Setting σ} {bound : Nat} {paused unpaused : Run σ Flow}

theorem of_settled {run : Run σ Flow} (settled : ∀ state, Settled (run state)) :
    CatchesUp setting bound run run :=
  fun state _ => (finish_settled setting.unpaused (settled state)).symm

theorem bind {run : Run σ α} {next following : α → Run σ Flow} (below : KeepsBelow bound run)
    (rest : ∀ result, CatchesUp setting bound (next result) (following result)) :
    CatchesUp setting bound (run >>= next) (run >>= following) := by
  intro state fits
  have low := below state fits
  generalize ends : run state = outcome at low
  obtain ⟨result, after⟩ := outcome
  cases result with
  | ok result =>
      rw [bind_ok ends, bind_ok ends]
      exact rest result after low
  | error error =>
      rw [bind_error ends, bind_error ends]
      rfl

theorem charged {limits : Limits} (caughtUp : CatchesUp setting bound paused unpaused) :
    CatchesUp setting (bound + 1) (Run.charge limits >>= fun _ => paused)
      (Run.charge limits >>= fun _ => unpaused) := by
  intro state fits
  by_cases empty : state.frame.budget = 0
  · rw [bind_error (charge_refused limits empty), bind_error (charge_refused limits empty)]
    rfl
  · have charge := charge_paid limits empty
    have lower : state.paid.frame.budget < bound := by
      simp only [RunState.paid]
      omega
    by_cases last : state.frame.budget = 1
    · rw [if_pos last] at charge
      rw [bind_error charge, bind_error charge]
      rfl
    · rw [if_neg last] at charge
      rw [bind_ok charge, bind_ok charge]
      exact caughtUp state.paid lower

theorem chooseBranch {eval : Expr → Run σ Value} {paused unpaused : Block → Run σ Flow}
    (evals : ∀ expr, KeepsBelow bound (eval expr))
    (blocks : ∀ block, CatchesUp setting bound (paused block) (unpaused block))
    (otherwise : Option Block) (alternatives : List (Expr × Block)) :
    CatchesUp setting bound (Interpreter.chooseBranch eval paused otherwise alternatives)
      (Interpreter.chooseBranch eval unpaused otherwise alternatives) := by
  induction alternatives with
  | nil =>
      cases otherwise with
      | none => exact of_settled settled_completed
      | some body => exact blocks body
  | cons alternative rest ih =>
      refine bind (evals alternative.1) fun value => bind (fun _ fits => fits) fun truth => ?_
      split
      · exact blocks alternative.2
      · exact ih

end CatchesUp

section Transparency

variable {setting : Setting σ} (leave : setting.effects.All Handler.LeavesBudget) {room : Nat}

include leave

theorem keepsBelow_of_agree {run : Run σ α}
    (agree : ∀ {bond}, AgreeWithin bond setting.manner setting.manner room room →
      Agree bond run run) : KeepsBelow room run :=
  keepsBelow_of_metered fun state fits =>
    (agree (within_meteredAt leave setting.manner.beyond fits fits)).lockstep (ledger_running state)

theorem evalWithin_keepsBelow (expr : Expr) :
    KeepsBelow room (setting.manner.evalWithin room expr) :=
  keepsBelow_of_agree leave fun agree => agree.eval .pause expr

theorem nextRound_keepsBelow (statement : Statement) (loop : LoopState) :
    KeepsBelow room (nextRound (setting.manner.evalWithin room) statement loop) :=
  keepsBelow_of_agree leave fun agree => nextRound_agree (agree.eval .pause) statement loop

theorem execWithin_keepsBelow (statements : List Statement) (index : Nat) (statement : Statement) :
    KeepsBelow room (setting.manner.execWithin room statements index statement) :=
  keepsBelow_of_agree leave fun agree => agree.exec .pause statements index statement

theorem inOrder_keepsBelow (statements : List Statement) (index : Nat) (rest : List Statement) :
    KeepsBelow room (inOrder (setting.manner.execWithin room statements) statements index rest) :=
  keepsBelow_of_agree leave fun agree =>
    inOrder_agree (agree.exec .pause statements) statements index rest

theorem resumeOne_keepsBelow (entry : Pending) : KeepsBelow room (setting.manner.resumeOne entry) :=
  keepsBelow_of_metered fun state _ =>
    (resumeOne_metered leave .pause setting.manner.beyond entry).at state

theorem unpaused_resume_keepsBelow (pending : List Pending) :
    KeepsBelow room (setting.unpaused.resume pending) :=
  keepsBelow_of_metered fun state _ =>
    (resume_metered leave (fun _ => .completed) setting.manner.beyond pending).at state

theorem followedBy_finish {bound : Nat} {rest : List Pending} {next following : Run σ Flow}
    (caughtUp : CatchesUp setting bound next following)
    (resumes : ∀ state, state.frame.budget < bound →
      following state = setting.unpaused.resume rest state)
    {outcome : Except (Stop RunError) Flow × RunState σ} (low : outcome.2.frame.budget < bound) :
    followedBy rest following (setting.unpaused.finish outcome) =
      setting.unpaused.finish (followedBy rest next outcome) := by
  obtain ⟨result, state⟩ := outcome
  cases result with
  | error error => rfl
  | ok flow =>
      cases flow with
      | completed => exact caughtUp state low
      | suspended delay pending =>
          have below := unpaused_resume_keepsBelow leave pending state low
          simp only [finish, followedBy]
          rw [resume_append]
          generalize setting.unpaused.resume pending state = outcome at below
          obtain ⟨result, after⟩ := outcome
          cases result with
          | error error => rfl
          | ok flow =>
              cases flow with
              | completed => exact resumes after below
              | suspended later more => rfl

structure CatchesUpWithin (setting : Setting σ) (room : Nat) : Prop where
  exec : ∀ {statements index statement}, statements[index]? = some statement →
    CatchesUp setting room (setting.manner.execWithin room statements index statement)
      (setting.unpaused.execWithin room statements index statement)
  loop : ∀ {statements index statement}, statements[index]? = some statement → ∀ state,
    CatchesUp setting room (setting.manner.loopWithin room statements index statement state)
      (setting.unpaused.loopWithin room statements index statement state)

omit leave in
theorem at_drop {statements rest : List Statement} {index : Nat} {statement : Statement}
    (here : statement :: rest = statements.drop index) :
    statements[index]? = some statement ∧ rest = statements.drop (index + 1) := by
  constructor
  · rw [← List.head?_drop, ← here, List.head?_cons]
  · rw [← List.tail_drop, ← here, List.tail_cons]

theorem inOrder_catchesUp (within : CatchesUpWithin setting room) (statements : List Statement)
    {index : Nat} {rest : List Statement} (here : rest = statements.drop index) :
    CatchesUp setting room
      (inOrder (setting.manner.execWithin room statements) statements index rest)
      (inOrder (setting.unpaused.execWithin room statements) statements index rest) := by
  induction rest generalizing index with
  | nil => exact fun _ _ => rfl
  | cons statement rest ih =>
      obtain ⟨found, behind⟩ := at_drop here
      intro state fits
      rw [inOrder_cons, inOrder_cons]
      split
      · rfl
      · have low := execWithin_keepsBelow leave statements index statement state fits
        rw [within.exec found state fits]
        refine followedBy_finish leave (ih behind) (fun after lower => ?_) low
        cases rest with
        | nil => rfl
        | cons _ _ =>
            simp only [List.isEmpty_cons, Bool.false_eq_true, ↓reduceIte]
            rw [resume_singleton, behind]
            exact inOrder_room leave (fun _ => .completed) lower (budget_lt_room _ _) statements
              (index + 1) _

theorem block_catchesUp (within : CatchesUpWithin setting room) (block : Block) :
    CatchesUp setting room
      (inOrder (setting.manner.execWithin room block.statements) block.statements 0
        block.statements)
      (inOrder (setting.unpaused.execWithin room block.statements) block.statements 0
        block.statements) :=
  inOrder_catchesUp leave within block.statements rfl

theorem execCharged_catchesUp (within : CatchesUpWithin setting room)
    {statements : List Statement} {index : Nat} {statement : Statement}
    (found : statements[index]? = some statement) :
    CatchesUp setting room (setting.manner.execCharged room statements index statement)
      (setting.unpaused.execCharged room statements index statement) := by
  have same : setting.unpaused.evalWithin room = setting.manner.evalWithin room :=
    evalWithin_pause setting.manner _ room
  have evals (expr : Expr) : KeepsBelow room (setting.manner.evalWithin room expr) :=
    evalWithin_keepsBelow leave expr
  have blocks := block_catchesUp leave within
  have loops := within.loop found
  simp only [execCharged, same]
  cases statement with
  | branch _ condition yes alternatives otherwise =>
      exact CatchesUp.chooseBranch evals blocks otherwise ((condition, yes) :: alternatives)
  | whileLoop _ condition body => exact loops .whileTrue
  | forLoop _ name subject body =>
      refine CatchesUp.bind (evals subject) fun value => ?_
      exact CatchesUp.bind (fun _ fits => fits) fun items => loops _
  | repeatLoop _ count body => exact CatchesUp.bind (evals count) fun value => loops _
  | wait _ delay => exact CatchesUp.bind (evals delay) fun value state _ => rfl
  | giveBack _ value =>
      refine .of_settled ?_
      cases value <;> exact settled_bind fun _ => settled_bind fun _ => settled_completed
  | breakOut _ => exact .of_settled (settled_bind fun _ => settled_completed)
  | continueOn _ => exact .of_settled (settled_bind fun _ => settled_completed)
  | assign _ name value =>
      exact .of_settled (settled_bind fun _ => settled_bind fun _ => settled_completed)
  | compound _ name op value =>
      refine .of_settled (settled_bind fun _ => settled_bind fun _ => ?_)
      exact settled_bind fun _ => settled_bind fun _ => settled_completed
  | store _ key value =>
      refine .of_settled (settled_bind fun _ => settled_bind fun _ => ?_)
      exact settled_bind fun _ => settled_bind fun _ => settled_completed
  | storeCompound _ key op value =>
      refine .of_settled (settled_bind fun _ => settled_bind fun _ => settled_bind fun _ => ?_)
      simp only
      split
      · exact settled_bind fun _ => settled_completed
      · refine settled_bind fun _ => settled_bind fun _ => ?_
        exact settled_bind fun _ => settled_completed
  | effect line name arguments =>
      refine .of_settled ?_
      simp only [execParts]
      cases setting.manner.effects.get? name with
      | none => exact settled_fail _
      | some handler => exact settled_bind fun _ => settled_bind fun _ => settled_completed
  | evaluate _ value => exact .of_settled (settled_bind fun _ => settled_completed)

theorem loopCharged_catchesUp (within : CatchesUpWithin setting room)
    {statements : List Statement} {index : Nat} {statement : Statement}
    (found : statements[index]? = some statement) (state : LoopState) :
    CatchesUp setting room (setting.manner.loopCharged room statements index statement state)
      (setting.unpaused.loopCharged room statements index statement state) := by
  have same : setting.unpaused.evalWithin room = setting.manner.evalWithin room :=
    evalWithin_pause setting.manner _ room
  simp only [loopCharged, same]
  refine CatchesUp.bind (nextRound_keepsBelow leave statement state) fun round => ?_
  cases round with
  | none => exact .of_settled settled_completed
  | some round =>
      obtain ⟨body, next⟩ := round
      intro before fits
      have low := inOrder_keepsBelow leave body.statements 0 body.statements before fits
      have caughtUp : CatchesUp setting room
          (afterRound >>= fun more =>
            if more then setting.manner.loopWithin room statements index statement next
            else pure .completed)
          (afterRound >>= fun more =>
            if more then setting.unpaused.loopWithin room statements index statement next
            else pure .completed) := by
        refine CatchesUp.bind (fun state fits => ?_) fun more => ?_
        · rw [afterRound_eq]
          exact fits
        · split
          · exact within.loop found next
          · exact .of_settled settled_completed
      refine (bind_followedBy _ _ _ before).trans ?_
      rw [block_catchesUp leave within body before fits]
      refine (followedBy_finish leave caughtUp (fun after lower => ?_) low).trans
        (congrArg _ (bind_followedBy _ _ _ before).symm)
      -- Work left over of a loop closes the round before it goes on, with the room of a later
      -- resumption, which does not matter below the budget.
      rw [resume_singleton, resumeOne, found, bind_ok (afterRound_eq after),
        bind_ok (afterRound_eq after)]
      split
      · refine loopWithin_room leave (fun _ => .completed) ?_ ?_ statements index statement next
        · exact lower
        · exact budget_lt_room _ _
      · rfl

theorem catchesUpWithin (room : Nat) : CatchesUpWithin setting room := by
  induction room with
  | zero => exact ⟨fun _ _ fits => absurd fits (Nat.not_lt_zero _),
      fun _ _ _ fits => absurd fits (Nat.not_lt_zero _)⟩
  | succ room ih =>
      constructor
      · intro statements index statement found
        rw [execWithin_succ, execWithin_succ]
        exact (execCharged_catchesUp leave ih found).charged
      · intro statements index statement found state
        rw [loopWithin_succ, loopWithin_succ]
        exact (loopCharged_catchesUp leave ih found state).charged

theorem execFrom_finish (statements : List Statement) (next : Nat) (state : RunState σ) :
    setting.unpaused.execFrom statements next state =
      setting.unpaused.finish (setting.manner.execFrom statements next state) :=
  inOrder_catchesUp leave (catchesUpWithin leave _) statements rfl state (budget_lt_room _ _)

theorem resumeOne_finish (entry : Pending) (state : RunState σ) :
    setting.unpaused.resumeOne entry state =
      setting.unpaused.finish (setting.manner.resumeOne entry state) := by
  cases entry with
  | block statements next => exact execFrom_finish leave statements next state
  | loop statements index loop =>
      rw [resumeOne, resumeOne, bind_ok (afterRound_eq state), bind_ok (afterRound_eq state)]
      split
      · cases found : statements[index]? with
        | none => rfl
        | some statement =>
            exact (catchesUpWithin leave _).loop found loop _ (budget_lt_room _ _)
      · rfl

theorem resume_finish (pending : List Pending) (state : RunState σ) :
    setting.unpaused.resume pending state =
      setting.unpaused.finish (setting.manner.resume pending state) := by
  induction pending generalizing state with
  | nil => rfl
  | cons entry rest ih =>
      rw [resume_cons, resume_cons, resumeOne_finish leave]
      have low := resumeOne_keepsBelow leave entry state (Nat.lt_succ_self _)
      exact followedBy_finish leave (fun state _ => ih state) (fun _ _ => rfl) low

theorem afterResumptions_finish {outcome unpaused : Except (Stop RunError) Flow × RunState σ}
    (first : unpaused = setting.unpaused.finish outcome) (rounds : Nat) :
    unpaused = setting.unpaused.finish (setting.manner.afterResumptions outcome rounds) := by
  induction rounds with
  | zero => exact first
  | succ rounds ih =>
      rcases settled_or_paused (setting.manner.afterResumptions outcome rounds) with
        settled | ⟨delay, pending, state, paused⟩
      · rw [afterResumptions_settled settled]
        exact ih
      · rw [afterResumptions_paused paused, ih, paused]
        exact resume_finish leave pending state

end Transparency

end Manner

namespace Interpreter

open Manner Run

/-- Suspension is transparent. A handler is resumed only so many times, and once nothing is left to
resume, it has come to the same result and state as in the manner in which `wait` just completes. -/
theorem suspension_transparent (setting : Setting σ)
    (leave : setting.effects.All Handler.LeavesBudget) (block : Block) (state : RunState σ) :
    (∃ rounds, Settled
      (setting.manner.afterResumptions (execBlock setting block state) rounds)) ∧
    ∀ rounds, Settled (setting.manner.afterResumptions (execBlock setting block state) rounds) →
      setting.manner.afterResumptions (execBlock setting block state) rounds =
        setting.unpaused.execBlock block state := by
  refine ⟨(Begins.block block).settles leave state, fun rounds settled => ?_⟩
  have first : setting.unpaused.execBlock block state =
      setting.unpaused.finish (execBlock setting block state) :=
    execFrom_finish leave block.statements 0 state
  have whole := afterResumptions_finish leave first rounds
  rw [finish_settled setting.unpaused settled] at whole
  exact whole.symm

theorem core_suspension_transparent :
    (Effects.core : Effects Unit).All Handler.LeavesBudget ∧
    ∃ (block : Block) (state : RunState Unit),
      (∃ delay pending, (execBlock { effects := Effects.core } block state).1 =
        .ok (.suspended delay pending)) ∧
      (∃ rounds, Settled (({ effects := Effects.core } : Setting Unit).manner.afterResumptions
        (execBlock { effects := Effects.core } block state) rounds)) ∧
      ∀ rounds, Settled (({ effects := Effects.core } : Setting Unit).manner.afterResumptions
          (execBlock { effects := Effects.core } block state) rounds) →
        ({ effects := Effects.core } : Setting Unit).manner.afterResumptions
            (execBlock { effects := Effects.core } block state) rounds =
          ({ effects := Effects.core } : Setting Unit).unpaused.execBlock block state :=
  ⟨core_leavesBudget,
    ⟨1, [.whileLoop 1 (.literal 1 (.bool true)) ⟨1, [.wait 2 (.literal 2 .null)]⟩]⟩,
    ⟨.withBudget 9, {}, { host := () }, []⟩, ⟨_, _, rfl⟩,
    suspension_transparent { effects := Effects.core } core_leavesBudget _ _⟩

end Interpreter

end EventScript
