import EventScript.Proofs.Interpreter.Budget

/-!
Runs with a smaller and a larger budget. As long as the smaller budget lasts, both runs do the same;
when it is used up, what was done so far is the beginning of what the other run does.
-/

namespace EventScript

variable {σ α : Type}

def RunState.withBudget (state : RunState σ) (budget : Nat) : RunState σ :=
  { state with frame := { state.frame with budget } }

def RunState.withMore (state : RunState σ) (extra : Nat) : RunState σ :=
  state.withBudget (state.frame.budget + extra)

def RunState.visibleDeeds (state : RunState σ) : List Deed :=
  state.deeds.reverse.filter (· ≠ .charged)

def Handler.IgnoresBudget (handler : Handler σ) : Prop :=
  ∀ actor arguments frame world budget,
    handler actor arguments { frame with budget } world =
      ((handler actor arguments frame world).1,
        { (handler actor arguments frame world).2.1 with budget },
        (handler actor arguments frame world).2.2)

theorem Handler.IgnoresBudget.leaves {handler : Handler σ} (ignores : handler.IgnoresBudget) :
    handler.LeavesBudget := by
  intro actor arguments frame world
  rw [show handler actor arguments frame world = _ from
    ignores actor arguments frame world frame.budget]

def Stop.isLimit : Stop RunError → Bool
  | .failed (.operationLimit _) => true
  | _ => false

theorem Stop.isLimit_of_keeps (stop : Stop RunError) (keeps : stop.exhausts = false) :
    stop.isLimit = false := by
  unfold isLimit
  split
  · cases keeps
  · rfl

namespace Bond

def surplus (extra : Nat) : Bond σ where
  running left right := right = left.withMore extra
  failed stop left right := stop.isLimit = false ∧ right = left.withMore extra
  cut stop left right := stop.isLimit = true ∧ left.deeds <:+ right.deeds
  sameStore := by rintro left _ rfl; rfl
  sameWorld := by rintro left _ rfl; rfl
  sameSignals := by rintro left _ rfl; rfl
  setWorld := by rintro left _ rfl world; rfl
  record := by rintro left _ rfl store deed other _; rfl
  setLocal := by rintro left _ rfl name value; rfl
  setSignals := by rintro left _ rfl signals; rfl
  fail := by rintro left _ rfl stop other; exact ⟨stop.isLimit_of_keeps other, rfl⟩
  late := by
    rintro stop left right later ⟨limited, earlier⟩ grown
    exact ⟨limited, earlier.trans grown⟩

variable {extra : Nat}

theorem surplus_pays (limits : Limits) :
    (surplus extra : Bond σ).Pays (surplus extra) limits limits := by
  rintro state _ rfl
  by_cases empty : state.frame.budget = 0
  · rw [Run.charge_refused limits empty]
    have grown := Run.charge_deeds limits (state.withMore extra)
    generalize Run.charge limits (state.withMore extra) = outcome at grown
    obtain ⟨result, after⟩ := outcome
    exact .cut ⟨rfl, grown⟩
  · have funded : (state.withMore extra).frame.budget ≠ 0 := by
      simp only [RunState.withMore, RunState.withBudget]
      omega
    have same : (state.withMore extra).paid = state.paid.withMore extra := by
      simp only [RunState.withMore, RunState.withBudget, RunState.paid, RunState.mk.injEq,
        Frame.mk.injEq, true_and, and_true]
      omega
    rw [Run.charge_paid limits empty, Run.charge_paid limits funded, same]
    by_cases last : state.frame.budget = 1
    · rw [if_pos last]
      split <;> exact .cut ⟨rfl, List.suffix_refl _⟩
    · have more : (state.withMore extra).frame.budget ≠ 1 := by
        simp only [RunState.withMore, RunState.withBudget]
        omega
      rw [if_neg last, if_neg more]
      exact .finished rfl

theorem surplus_nests {left right : RunState σ} (running : (surplus extra).running left right) :
    (surplus extra).Nests (surplus extra) Frame.child Frame.child left right := by
  cases running
  have back (callee : RunState σ) : (left.withMore extra).afterCall (callee.withMore extra) =
      (left.afterCall callee).withMore extra := by
    simp only [RunState.afterCall, RunState.withMore, RunState.withBudget, Nat.add_min_add_right]
  constructor
  · rfl
  · rfl
  · rintro after _ rfl
    exact back after
  · rintro error after _ ⟨other, rfl⟩
    exact ⟨other, back after⟩
  · rintro error after later ⟨limited, grown⟩
    exact ⟨limited, grown⟩

theorem variableValue_surplus (limits : Limits) (name : String) :
    Run.Agree (surplus extra : Bond σ) (Run.variableValue limits name)
      (Run.variableValue limits name) where
  lockstep := by
    rintro state _ rfl
    have same : (state.withMore extra).frame.get? name = state.frame.get? name := rfl
    have injected : (state.withMore extra).frame.injected = state.frame.injected := rfl
    simp only [Run.variableValue, same, injected]
    split
    · exact .finished rfl
    · split
      · exact .finished rfl
      · exact .finished rfl
  alone {error left right} cut := by
    simp only [Run.variableValue]
    split
    · exact cut
    · split
      · exact cut
      · exact cut

theorem perform_surplus {handler : Handler σ} (ignores : handler.IgnoresBudget)
    (effect : String) (arguments : List Value) (line : Nat) :
    Run.Agree (surplus extra) (Run.perform handler effect arguments line)
      (Run.perform handler effect arguments line) where
  lockstep := by
    rintro state _ rfl
    have kept := ignores.leaves state.frame.actor arguments state.frame state.world
    have same := ignores state.frame.actor arguments state.frame state.world
      (state.frame.budget + extra)
    have frame : (state.withMore extra).frame =
      { state.frame with budget := state.frame.budget + extra } := rfl
    have world : (state.withMore extra).world = state.world := rfl
    simp only [Run.perform, frame, world, same]
    generalize handler state.frame.actor arguments state.frame state.world = answer at kept
    obtain ⟨result, after, moved⟩ := answer
    simp only at kept
    cases result with
    | ok _ => exact .finished (by rw [← kept]; rfl)
    | error reason => exact .failed ⟨rfl, by rw [← kept]; rfl⟩
  alone {error left right} cut := by
    simp only [Run.perform]
    split <;> exact (surplus extra).late cut (List.suffix_cons _ _)

end Bond

namespace Manner

open Interpreter Run

variable {setting : Setting σ} {extra : Nat}

theorem surplus_accord (ignore : setting.effects.All Handler.IgnoresBudget) :
    Accord setting.manner setting.manner fun room otherRoom bond =>
      room = otherRoom ∧ bond = .surplus extra := by
  refine .single rfl rfl rfl rfl ?_ (Bond.surplus_pays setting.limits)
    (Bond.variableValue_surplus setting.limits) ?_ Bond.surplus_nests
  · intro β
    constructor
    · rintro state _ rfl
      exact .failed ⟨rfl, rfl⟩
    · intro stop left right cut
      exact cut
  · intro name handler found
    exact Bond.perform_surplus (ignore name handler found) name

theorem withRoom_surplus {run : Nat → Run σ α}
    (anyRoom : ∀ {state room otherRoom}, state.frame.budget < room →
      state.frame.budget < otherRoom → run room state = run otherRoom state)
    (agree : ∀ room, Agree (.surplus extra) (run room) (run room)) :
    Agree (.surplus extra) (withRoom setting.machine run) (withRoom setting.machine run) where
  lockstep := by
    rintro state _ rfl
    have larger : state.frame.budget < roomFor setting.machine (state.withMore extra) := by
      simp only [roomFor, RunState.withMore, RunState.withBudget]
      omega
    simp only [withRoom]
    rw [anyRoom (budget_lt_room setting.machine state) larger]
    exact (agree _).lockstep rfl
  alone cut := (agree _).alone cut

section Surplus

variable (ignore : setting.effects.All Handler.IgnoresBudget)

include ignore

theorem eval_surplus (expr : Expr) :
    Agree (.surplus extra) (setting.manner.eval expr) (setting.manner.eval expr) := by
  have leave := ignore.mono fun _ => Handler.IgnoresBudget.leaves
  refine withRoom_surplus (fun fits otherFits => ?_) fun room => ?_
  · exact evalWithin_room leave .pause fits otherFits expr
  · exact ((surplus_accord ignore).within ⟨rfl, rfl⟩).eval .pause expr

theorem execFrom_surplus (statements : List Statement) (next : Nat) :
    Agree (.surplus extra) (setting.manner.execFrom statements next)
      (setting.manner.execFrom statements next) := by
  have leave := ignore.mono fun _ => Handler.IgnoresBudget.leaves
  refine withRoom_surplus (fun fits otherFits => ?_) fun room => ?_
  · exact inOrder_room leave .pause fits otherFits statements next _
  · exact inOrder_agree (((surplus_accord ignore).within ⟨rfl, rfl⟩).exec .pause statements)
      statements next _

theorem loopFrom_surplus (statements : List Statement) (index : Nat) (statement : Statement)
    (loop : LoopState) :
    Agree (.surplus extra)
      (withRoom setting.machine fun room =>
        setting.manner.loopWithin room statements index statement loop)
      (withRoom setting.machine fun room =>
        setting.manner.loopWithin room statements index statement loop) := by
  have leave := ignore.mono fun _ => Handler.IgnoresBudget.leaves
  refine withRoom_surplus (fun fits otherFits => ?_) fun room => ?_
  · exact loopWithin_room leave .pause fits otherFits statements index statement loop
  · exact ((surplus_accord ignore).within ⟨rfl, rfl⟩).loop .pause statements index statement loop

theorem resume_surplus (pending : List Pending) :
    Agree (.surplus extra) (setting.manner.resume pending) (setting.manner.resume pending) :=
  resume_agree (execFrom_surplus ignore) (loopFrom_surplus ignore) pending

end Surplus

end Manner

namespace Interpreter

open Manner Run

variable {setting : Setting σ}

theorem Begins.surplus (ignore : setting.effects.All Handler.IgnoresBudget) {run : Run σ Flow}
    (begins : Begins setting run) (extra : Nat) : Agree (.surplus extra) run run := by
  cases begins with
  | block block => exact execFrom_surplus ignore block.statements 0
  | pending pending => exact resume_surplus ignore pending

/-- How a run ends beside one whose budget is larger by `extra`: the same, or too early. -/
structure Truncates (extra : Nat) (short long : Except (Stop RunError) α × RunState σ) : Prop where
  same : (∀ limit, short.1 ≠ .error (.failed (.operationLimit limit))) →
    long.1 = short.1 ∧ long.2 = short.2.withMore extra
  early : ∀ limit, short.1 = .error (.failed (.operationLimit limit)) →
    short.2.visibleDeeds <+: long.2.visibleDeeds

theorem truncates_of_surplus {extra : Nat} {short long : Except (Stop RunError) α × RunState σ}
    (ending : (Bond.surplus extra).Ending short long) : Truncates extra short long := by
  cases ending with
  | finished running => exact ⟨fun _ => ⟨rfl, running⟩, nofun⟩
  | failed failed =>
      obtain ⟨other, moved⟩ := failed
      refine ⟨fun _ => ⟨rfl, moved⟩, ?_⟩
      rintro limit ⟨⟩
      cases other
  | @cut stop left outcome right cut =>
      obtain ⟨limited, earlier⟩ := cut
      constructor
      · intro other
        unfold Stop.isLimit at limited
        split at limited
        · next limit => exact absurd rfl (other limit)
        · cases limited
      · intro limit stopped
        exact (List.reverse_prefix.mpr earlier).filter _

/-- The budget only truncates. If the smaller budget lasts, then a run, an invocation or an
expression comes to the same with a larger budget, of which it leaves that much more. If it is used
up, then what has become visible is the beginning of what becomes visible with the larger budget. -/
theorem budget_truncates (setting : Setting σ)
    (ignore : setting.effects.All Handler.IgnoresBudget) (state : RunState σ) {small large : Nat}
    (ordered : small ≤ large) :
    (∀ expr, Truncates (large - small) (eval setting expr (state.withBudget small))
      (eval setting expr (state.withBudget large))) ∧
    ∀ run, Begins setting run → ∀ rounds, Truncates (large - small)
      (setting.manner.afterResumptions (run (state.withBudget small)) rounds)
      (setting.manner.afterResumptions (run (state.withBudget large)) rounds) := by
  have running : (Bond.surplus (large - small)).running (state.withBudget small)
      (state.withBudget large) := by
    simp only [Bond.surplus, RunState.withMore, RunState.withBudget, Nat.add_sub_cancel' ordered]
  constructor
  · intro expr
    exact truncates_of_surplus ((eval_surplus ignore expr).lockstep running)
  · intro run begins rounds
    have first := (begins.surplus ignore (large - small)).lockstep running
    exact truncates_of_surplus (afterResumptions_ending (resume_surplus ignore) first rounds)

theorem core_ignoresBudget : (Effects.core : Effects σ).All Handler.IgnoresBudget := by
  refine Effects.core_all (fun _ _ _ _ _ _ => rfl) (fun _ _ _ _ _ => rfl) ?_
  intro actor arguments frame world budget
  simp only [Handler.settingLocal]
  split <;> rfl

theorem core_budget_truncates :
    (Effects.core : Effects Unit).All Handler.IgnoresBudget ∧ 3 ≤ 20 ∧
      (∀ expr, Truncates 17
        (eval ({ effects := Effects.core } : Setting Unit) expr
          ⟨.withBudget 3, {}, { host := () }, []⟩)
        (eval { effects := Effects.core } expr ⟨.withBudget 20, {}, { host := () }, []⟩)) ∧
      ∀ run, Begins ({ effects := Effects.core } : Setting Unit) run → ∀ rounds, Truncates 17
        (({ effects := Effects.core } : Setting Unit).manner.afterResumptions
          (run ⟨.withBudget 3, {}, { host := () }, []⟩) rounds)
        (({ effects := Effects.core } : Setting Unit).manner.afterResumptions
          (run ⟨.withBudget 20, {}, { host := () }, []⟩) rounds) :=
  ⟨core_ignoresBudget, by decide,
    budget_truncates { effects := Effects.core } core_ignoresBudget
      ⟨.withBudget 3, {}, { host := () }, []⟩ (show 3 ≤ 20 by decide)⟩

end Interpreter

end EventScript
