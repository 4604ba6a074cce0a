import EventScript.Proofs.Engine.Isolation
import EventScript.Proofs.Interpreter.Budget

/-!
What an engine hands to its scheduler while handlers run: one paused handler for each that the
report counts, and each has less left to pay with than it had when its run began. Loading hands over
nothing.
-/

namespace EventScript

theorem Interpreter.Begins.poorer {σ : Type} {setting : Setting σ}
    (leave : setting.effects.All Handler.LeavesBudget) {run : Run σ Flow}
    (begins : Begins setting run) {state after : RunState σ} {delay : Nat} {pending : List Pending}
    (paused : run state = (.ok (.suspended delay pending), after)) :
    after.frame.budget < state.frame.budget := by
  have charged := begins.charges leave paused
  have balance := (begins.accounted leave state).balance
  rw [paused] at balance
  simp only at balance
  omega

namespace Engine

variable {σ : Type}

/-- The paused handlers that an engine handed to its scheduler while it made a report. Nothing else
that matters to later runs has changed. -/
structure HandsOver (engine : Engine σ) (budget : Nat) (outcome : Except Loss Report × Engine σ)
    (paused : List Continuation) : Prop where
  scheduler : outcome.2.scheduler = handOver engine.scheduler paused
  suspended : ∀ report, outcome.1 = .ok report → report.suspended = paused.length
  limits : outcome.2.limits = engine.limits
  effects : outcome.2.effects = engine.effects
  closed : outcome.2.closed = engine.closed
  poorer : engine.effects.All Handler.LeavesBudget →
    ∀ continuation ∈ paused, continuation.frame.budget < budget

theorem RunAfresh.poorer {engine : Engine σ} {occasion : Occasion} {visit : Visit σ}
    (fresh : RunAfresh engine occasion visit) (leave : engine.effects.All Handler.LeavesBudget)
    {continuation : Continuation} (paused : visit.paused? = some continuation) :
    continuation.frame.budget < engine.limits.operations := by
  obtain ⟨listener, before, result, after⟩ := visit
  have frame := fresh.frame
  have run := fresh.run
  rcases result with error | ⟨⟩ | ⟨delay, pending⟩
  · cases paused
  · cases paused
  · cases paused
    have poorer := (Interpreter.Begins.block listener.body).poorer leave run
    rwa [frame] at poorer

theorem HandsOver.under {engine other : Engine σ} {budget : Nat}
    {outcome : Except Loss Report × Engine σ}
    {paused : List Continuation} (hands : HandsOver other budget outcome paused)
    (scheduler : other.scheduler = engine.scheduler) (limits : other.limits = engine.limits)
    (effects : other.effects = engine.effects) (closed : other.closed = engine.closed) :
    HandsOver engine budget outcome paused where
  scheduler := scheduler ▸ hands.scheduler
  suspended := hands.suspended
  limits := hands.limits.trans limits
  effects := hands.effects.trans effects
  closed := hands.closed.trans closed
  poorer := effects ▸ hands.poorer

theorem resume_handsOver {engine : Engine σ} (opened : engine.closed = false)
    (continuation : Continuation) :
    ∃ paused, HandsOver engine continuation.frame.budget (engine.resume continuation) paused ∧
      paused.length ≤ 1 := by
  have begins : Interpreter.Begins (engine.settingOf continuation.script) _ :=
    .pending continuation.pending
  rw [resume, if_neg (Bool.eq_false_iff.mp opened)]
  simp only [runIn]
  generalize ran : Interpreter.resume (engine.settingOf continuation.script) continuation.pending
    ⟨continuation.frame, engine.store, engine.world, []⟩ = outcome
  obtain ⟨result, after⟩ := outcome
  rcases result with (error | loss) | ⟨⟩ | ⟨delay, pending⟩
  · exact ⟨[], ⟨rfl, by rintro _ ⟨⟩; rfl, rfl, rfl, rfl, by simp⟩, Nat.zero_le 1⟩
  · exact ⟨[], ⟨rfl, by rintro _ ⟨⟩, rfl, rfl, rfl, by simp⟩, Nat.zero_le 1⟩
  · exact ⟨[], ⟨rfl, by rintro _ ⟨⟩; rfl, rfl, rfl, rfl, by simp⟩, Nat.zero_le 1⟩
  · have left := suspend_goesOn { engine with store := after.store, world := after.world }
      ⟨continuation.script, pending, after.frame, delay⟩
    refine ⟨_, ⟨left.scheduler, by rintro _ ⟨⟩; rfl, left.limits, left.effects, ?_,
      fun leave again member => ?_⟩, Nat.le_refl 1⟩
    · exact (suspend_sameLoaded _ _).closed
    · rw [List.mem_singleton.mp member]
      exact begins.poorer leave ran

structure SameRules (before after : Engine σ) : Prop where
  scheduler : after.scheduler = before.scheduler
  limits : after.limits = before.limits
  effects : after.effects = before.effects

namespace SameRules

theorem refl (engine : Engine σ) : SameRules engine engine := ⟨rfl, rfl, rfl⟩

theorem trans {first second third : Engine σ} (earlier : SameRules first second)
    (later : SameRules second third) : SameRules first third where
  scheduler := later.scheduler.trans earlier.scheduler
  limits := later.limits.trans earlier.limits
  effects := later.effects.trans earlier.effects

end SameRules

end Engine

end EventScript
