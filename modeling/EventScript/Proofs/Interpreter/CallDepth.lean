import Mathlib
import EventScript.Proofs.Interpreter.Budget
import EventScript.Proofs.Interpreter.Recast
import EventScript.Proofs.Interpreter.Resumable

/-!
The limit to the depth of calls. The depth of a frame is the number of function bodies that are open
around it, however a run ends; so a run is stopped just when a function of the script is called with
as many bodies open as the limit says. A higher limit makes no difference to a run that is not
stopped.
-/

namespace EventScript

variable {σ α : Type} {setting : Setting σ}

def Run.refusing (limit : Nat) (error : RunError) (opened : Nat) : Run σ Unit :=
  if opened = limit then Run.fail error else pure ()

namespace Probes

open Interpreter Run

def refusing (limit : Nat) (error : RunError) : Probes σ where
  statement _ := pure ()
  call := Run.refusing limit error

theorem recast_refusing (limit other : Nat) (cast : Nat → RunError) :
    (refusing limit (.callDepth other) : Probes σ).recast cast = refusing limit (cast other) := by
  simp only [recast, refusing, recast_pure, mk.injEq, true_and]
  funext opened
  simp only [Run.refusing, recast_ite, recast_fail, recast_pure]
  rfl

theorem recast_plain (limits : Limits) :
    (plain limits : Probes σ).recast (fun _ => .callDepth limits.depth) = plain limits := by
  simp only [recast, plain, recast_pure, mk.injEq, true_and]
  funext _ state
  simp only [Run.recast, guardDepth]
  split <;> rfl

/-- The depth of a frame is the number of open bodies, so calls are refused by the one as they are
by the other, and no statement is reached in a frame that is deeper than the limit. -/
theorem unnoticed_of_shallow (leave : setting.effects.All Handler.LeavesDepth)
    {probe : Nat → Run σ Unit}
    (silent : ∀ opened state, state.frame.depth = opened → opened ≤ setting.limits.depth →
      probe opened state = (.ok (), state)) :
    (Probes.mk probe
      (Run.refusing setting.limits.depth (.callDepth setting.limits.depth))).Unnoticed setting
      fun state => state.frame.depth = 0 := by
  -- The invariant: a frame is exactly as deep as bodies are open, and not deeper than the limit.
  have hidden : (Probes.mk probe
      (Run.refusing setting.limits.depth (.callDepth setting.limits.depth))).Silent setting
      setting.limits.depth (fun opened depth => depth = opened ∧ opened ≤ setting.limits.depth)
      fun _ => False := by
    constructor
    · rintro name handler found actor arguments frame world opened ⟨same, shallow⟩
      exact ⟨(leave name handler found actor arguments frame world).trans same, shallow⟩
    · rintro opened state ⟨same, shallow⟩ _
      exact silent opened state same shallow
    · rintro opened state ⟨rfl, shallow⟩ deep
      have full : state.frame.depth = setting.limits.depth := Nat.le_antisymm shallow deep
      exact .inr (congrFun (if_pos full) state)
    · rintro opened state ⟨rfl, _⟩ below
      exact ⟨congrFun (if_neg (Nat.ne_of_lt below)) state, rfl, below⟩
  have unnoticed := hidden.unnoticed
  exact ⟨fun expr state outermost => unnoticed.eval expr state ⟨outermost, Nat.zero_le _⟩,
    fun block state outermost => unnoticed.block block state ⟨outermost, Nat.zero_le _⟩,
    fun pending state outermost => unnoticed.resume pending state ⟨outermost, Nat.zero_le _⟩⟩

theorem refusing_unnoticed (leave : setting.effects.All Handler.LeavesDepth) :
    (refusing setting.limits.depth (.callDepth setting.limits.depth)).Unnoticed setting
      fun state => state.frame.depth = 0 :=
  unnoticed_of_shallow leave fun _ _ _ _ => rfl

theorem silent_of_le {depth : Nat} (higher : setting.limits.depth ≤ depth) :
    (plain (setting.withDepth depth).limits).Silent (setting.withDepth depth) setting.limits.depth
      (fun _ _ => True) (· = .failed (.callDepth setting.limits.depth)) where
  performs _ _ _ _ _ _ _ _ _ := trivial
  statements _ _ := rfl
  refuses _ _ := .inl rfl
  passes _ below := ⟨if_neg (Nat.not_le_of_lt (Nat.lt_of_lt_of_le below higher)), trivial⟩

end Probes

namespace Interpreter

open Manner Run

/-- If the calls with as many bodies open as the limit says are refused with this error, then runs
end as they do under the setting, with this error in place of that for calls too deep. -/
structure RefusedWith (setting : Setting σ) (error : RunError) : Prop where
  eval : ∀ expr state, state.frame.depth = 0 →
    (Probes.refusing setting.limits.depth error).eval setting expr state =
      (eval setting expr).recast (fun _ => error) state
  block : ∀ block state, state.frame.depth = 0 →
    (Probes.refusing setting.limits.depth error).execBlock setting block state =
      (execBlock setting block).recast (fun _ => error) state
  resume : ∀ pending state, state.frame.depth = 0 →
    (Probes.refusing setting.limits.depth error).resume setting pending state =
      (resume setting pending).recast (fun _ => error) state

/-- Whatever ends under the setting with another error than that for calls too deep, or with none,
ends in the same way under this limit. -/
structure SameUnder (setting : Setting σ) (depth : Nat) : Prop where
  eval : ∀ expr state,
    (eval setting expr state).1 ≠ .error (.failed (.callDepth setting.limits.depth)) →
    Interpreter.eval (setting.withDepth depth) expr state = Interpreter.eval setting expr state
  handler : ∀ block state rounds,
    (setting.manner.afterResumptions (execBlock setting block state) rounds).1 ≠
      .error (.failed (.callDepth setting.limits.depth)) →
    (setting.withDepth depth).manner.afterResumptions
        (execBlock (setting.withDepth depth) block state) rounds =
      setting.manner.afterResumptions (execBlock setting block state) rounds
  paused : ∀ pending state rounds,
    (setting.manner.afterResumptions (Interpreter.resume setting pending state) rounds).1 ≠
      .error (.failed (.callDepth setting.limits.depth)) →
    (setting.withDepth depth).manner.afterResumptions
        (Interpreter.resume (setting.withDepth depth) pending state) rounds =
      setting.manner.afterResumptions (Interpreter.resume setting pending state) rounds

structure DepthCounts (setting : Setting σ) : Prop where
  /-- In a handler, statements run only in frames that are as deep as there are function bodies
  open, and not deeper than the limit: what is done before a statement in another frame goes
  unnoticed. -/
  shallow : ∀ probe : Nat → Run σ Unit,
    (∀ opened state, state.frame.depth = opened → opened ≤ setting.limits.depth →
      probe opened state = (.ok (), state)) →
    (Probes.mk probe
      (Run.refusing setting.limits.depth (.callDepth setting.limits.depth))).Unnoticed setting
      fun state => state.frame.depth = 0
  /-- A run is stopped just by the calls with as many bodies open as the limit says. -/
  exact : ∀ error, RefusedWith setting error
  statements : ∀ room statements index statement state, statements[index]? = some statement →
    state.frame.interrupted = false →
    (setting.manner.execWithin room statements index statement state).2.frame.depth =
      state.frame.depth
  blocks : ∀ block state, (execBlock setting block state).2.frame.depth = state.frame.depth

/-- What the limit to the depth of calls does to runs. -/
structure DepthLimited (setting : Setting σ) : Prop where
  counts : setting.effects.All Handler.LeavesDepth → DepthCounts setting
  carries : ∀ {run}, Begins setting run → ∀ state limit,
    (run state).1 = .error (.failed (.callDepth limit)) → limit = setting.limits.depth
  evalCarries : ∀ expr state limit,
    (eval setting expr state).1 = .error (.failed (.callDepth limit)) → limit = setting.limits.depth
  expressions : ∀ room expr state,
    (setting.manner.evalWithin room expr state).2.frame.depth = state.frame.depth
  higher : ∀ depth, setting.limits.depth ≤ depth → SameUnder setting depth

theorem refusedWith (leave : setting.effects.All Handler.LeavesDepth) (error : RunError) :
    RefusedWith setting error := by
  have unnoticed := Probes.refusing_unnoticed leave
  have recast : (Probes.refusing setting.limits.depth (.callDepth setting.limits.depth)).recast
      (fun _ => error) = (Probes.refusing setting.limits.depth error : Probes σ) :=
    Probes.recast_refusing _ _ _
  constructor
  · intro expr state outermost
    rw [← recast, ← Probes.recast_eval, Run.recast, Run.recast, unnoticed.eval expr state outermost]
  · intro block state outermost
    rw [← recast, Probes.execBlock, ← Probes.recast_execFrom, Run.recast, Run.recast,
      ← Probes.execBlock, unnoticed.block block state outermost]
  · intro pending state outermost
    rw [← recast, ← Probes.recast_resume, Run.recast, Run.recast,
      unnoticed.resume pending state outermost]

theorem limit_of_recast {run : Run σ α} {state : RunState σ} {limit other : Nat}
    (same : run.recast (fun _ => .callDepth limit) state = run state)
    (stopped : (run state).1 = .error (.failed (.callDepth other))) : other = limit := by
  have results := congrArg Prod.fst same
  simp only [Run.recast, stopped, Except.mapError, Stop.recast, Except.error.injEq,
    Stop.failed.injEq, RunError.callDepth.injEq] at results
  exact results.symm

theorem eval_limit (setting : Setting σ) (expr : Expr) :
    (eval setting expr).recast (fun _ => .callDepth setting.limits.depth) = eval setting expr := by
  rw [← Probes.plain_eval, Probes.recast_eval, Probes.recast_plain]

theorem Begins.limit {run : Run σ Flow} (begins : Begins setting run) :
    run.recast (fun _ => .callDepth setting.limits.depth) = run := by
  cases begins with
  | block block =>
      rw [← Probes.plain_execBlock, Probes.execBlock, Probes.recast_execFrom, Probes.recast_plain]
  | pending pending =>
      rw [← Probes.plain_resume, Probes.recast_resume, Probes.recast_plain]

section Higher

variable {depth : Nat} (higher : setting.limits.depth ≤ depth)

include higher

theorem eval_higher (expr : Expr) :
    Agree (.leveled (fun _ => True)
      (· = .failed (.callDepth setting.limits.depth)))
      (eval setting expr) (eval (setting.withDepth depth) expr) := by
  have beside := (Probes.silent_of_le higher).eval expr
  rwa [Probes.plain_eval] at beside

theorem block_higher (block : Block) :
    Agree (.leveled (fun _ => True)
      (· = .failed (.callDepth setting.limits.depth)))
      (execBlock setting block) (execBlock (setting.withDepth depth) block) := by
  have beside := (Probes.silent_of_le higher).execFrom block.statements 0
  rwa [← Probes.execBlock, Probes.plain_execBlock] at beside

theorem resume_higher (pending : List Pending) :
    Agree (.leveled (fun _ => True)
      (· = .failed (.callDepth setting.limits.depth)))
      (Interpreter.resume setting pending)
      (Interpreter.resume (setting.withDepth depth) pending) := by
  have beside := (Probes.silent_of_le higher).resume pending
  rwa [Probes.plain_resume] at beside

omit higher in
theorem eq_of_unstopped {first second : Except (Stop RunError) α × RunState σ}
    {stop : Stop RunError}
    (ending : (Bond.leveled (fun _ => True) (· = stop)).Ending first second)
    (unstopped : first.1 ≠ .error stop) : second = first := by
  cases ending with
  | finished running => rw [running.1]
  | failed same => exact congrArg (Prod.mk _) same.symm
  | cut stopped => exact absurd (congrArg Except.error stopped) unstopped

theorem sameUnder : SameUnder setting depth where
  eval expr _ := eq_of_unstopped ((eval_higher higher expr).lockstep ⟨rfl, trivial⟩)
  handler block _ rounds := eq_of_unstopped
    (afterResumptions_ending (resume_higher higher)
      ((block_higher higher block).lockstep ⟨rfl, trivial⟩) rounds)
  paused pending _ rounds := eq_of_unstopped
    (afterResumptions_ending (resume_higher higher)
      ((resume_higher higher pending).lockstep ⟨rfl, trivial⟩) rounds)

end Higher

theorem depthCounts (leave : setting.effects.All Handler.LeavesDepth) : DepthCounts setting where
  shallow _ := Probes.unnoticed_of_shallow leave
  exact := refusedWith leave
  statements room statements index statement state found quiet := by
    have inside : BlockOf.Inside ⟨0, statements⟩ statements := .whole
    exact ((soundWithin setting room).exec inside found state quiet).depth leave
  blocks block state := (execFrom_sound .whole 0 state).depth leave

/-- The limit to the depth of calls truncates and does nothing else. It is exact if the handlers of
the host, which may do what they like with a frame, do not touch its depth. -/
theorem depth_limited (setting : Setting σ) : DepthLimited setting where
  counts := depthCounts
  carries begins state _ := limit_of_recast (congrFun begins.limit state)
  evalCarries expr state _ := limit_of_recast (congrFun (eval_limit setting expr) state)
  expressions room expr state :=
    Frame.SameBare.depth (((soundWithin setting room).eval expr).frame state)
  higher _ := sameUnder

/-- A handler that writes the depth of the frame lets the next statement run too deep. -/
theorem dug_depth_stays :
    let dig : Handler Unit := fun _ _ frame world => (.ok (), { frame with depth := 1 }, world)
    let setting : Setting Unit :=
      { effects := ({} : Effects Unit).register "dig" dig, limits := { depth := 0 } }
    let start : RunState Unit := ⟨.withBudget 20, {}, { host := () }, []⟩
    start.frame.depth = 0 ∧
      (execBlock setting ⟨1, [.effect 1 "dig" []]⟩ start).2.frame.depth = 1 := by
  refine ⟨rfl, ?_⟩
  cbv

theorem diving_depth_limited :
    let dive : Function := ⟨"dive", [], ⟨1, [.evaluate 2 (.call 2 "dive" [])]⟩, 1⟩
    let setting : Setting Unit :=
      { functions := .ofList [("dive", dive)], effects := Effects.core, limits := { depth := 2 } }
    let handler : Block := ⟨4, [.evaluate 5 (.call 5 "dive" [])]⟩
    let start : RunState Unit := ⟨.withBudget 20, {}, { host := () }, []⟩
    setting.effects.All Handler.LeavesDepth ∧
      execBlock setting handler start =
        (.error (.failed (.callDepth 2)),
          ⟨.withBudget 14, {}, { host := () }, .replicate 6 .charged⟩) ∧
      DepthCounts setting ∧ DepthLimited setting := by
  refine ⟨core_leavesDepth, ?_, (depth_limited _).counts core_leavesDepth, depth_limited _⟩
  cbv

end Interpreter

end EventScript
