import EventScript.Proofs.Effect
import EventScript.Proofs.Interpreter.Invocation

/-!
The budget of an invocation. What a run pays for and what is left of its budget always add up to the
same, so no run is cut off by anything but its budget, an invocation is charged at most its budget,
and it pauses fewer times than that.
-/

namespace EventScript

variable {σ α : Type}

def RunState.charges (state : RunState σ) : Nat := state.deeds.count .charged

def Handler.LeavesBudget (handler : Handler σ) : Prop :=
  ∀ actor arguments frame world, (handler actor arguments frame world).2.1.budget = frame.budget

namespace RunState

theorem charges_paid (state : RunState σ) : state.paid.charges = state.charges + 1 :=
  List.count_cons_self

theorem charges_cons_of_ne {deed : Deed} (other : deed ≠ .charged) (deeds : List Deed) :
    (deed :: deeds).count .charged = deeds.count .charged :=
  List.count_cons_of_ne other

/-- The accounts of a state are in order: charges and budget add up to `total`, at least `spent`
operations have been paid for, and something is left as soon as more than `base` have been. -/
structure Balanced (total base spent : Nat) (state : RunState σ) : Prop where
  balance : state.charges + state.frame.budget = total
  spent : spent ≤ state.charges
  solvent : state.charges = base ∨ 0 < state.frame.budget

structure Closed (total base spent : Nat) (stop : Stop RunError) (state : RunState σ) : Prop where
  balance : state.charges + state.frame.budget = total
  spent : state.frame.budget ≤ total - spent
  limit : stop.exhausts = true → state.frame.budget = 0
  followed : stop ≠ .lost .unfollowed
  solvent : stop.exhausts = false → state.charges = base ∨ 0 < state.frame.budget

theorem Balanced.close {total base spent : Nat} {state : RunState σ}
    (balanced : state.Balanced total base spent) {stop : Stop RunError}
    (other : stop.exhausts = false) : state.Closed total base spent stop where
  balance := balanced.balance
  spent := by
    have balance := balanced.balance
    have paid := balanced.spent
    omega
  limit limited := by simp [other] at limited
  followed := by
    rintro rfl
    cases other
  solvent _ := balanced.solvent

theorem Balanced.of_same {total base spent : Nat} {state after : RunState σ}
    (balanced : state.Balanced total base spent) (charges : after.charges = state.charges)
    (budget : after.frame.budget = state.frame.budget) : after.Balanced total base spent where
  balance := by rw [charges, budget]; exact balanced.balance
  spent := by rw [charges]; exact balanced.spent
  solvent := by rw [charges, budget]; exact balanced.solvent

end RunState

/-- A run beside itself, with its accounts in order. -/
def Bond.ledger (total base spent : Nat) : Bond σ where
  running left right := left = right ∧ left.Balanced total base spent
  failed error left right := left = right ∧ left.Closed total base spent error
  cut _ _ _ := False
  sameStore := by rintro left _ ⟨rfl, _⟩; rfl
  sameWorld := by rintro left _ ⟨rfl, _⟩; rfl
  sameSignals := by rintro left _ ⟨rfl, _⟩; rfl
  setWorld := by rintro left _ ⟨rfl, balanced⟩ world; exact ⟨rfl, balanced.of_same rfl rfl⟩
  record := by
    rintro left _ ⟨rfl, balanced⟩ store deed other _
    exact ⟨rfl, balanced.of_same (RunState.charges_cons_of_ne other _) rfl⟩
  setLocal := by rintro left _ ⟨rfl, balanced⟩ name value; exact ⟨rfl, balanced.of_same rfl rfl⟩
  setSignals := by rintro left _ ⟨rfl, balanced⟩ signals; exact ⟨rfl, balanced.of_same rfl rfl⟩
  fail := by rintro left _ ⟨rfl, balanced⟩ error other; exact ⟨rfl, balanced.close other⟩
  late := @never_late σ

namespace Bond

variable {total base spent : Nat}

theorem ledger_ending_eq {first second : Except (Stop RunError) α × RunState σ}
    (ending : (ledger total base spent).Ending first second) : first = second := by
  cases ending with
  | finished running => rw [running.1]
  | failed failed => rw [failed.1]
  | cut impossible => exact impossible.elim

theorem ledger_tighter {earlier : Nat} (later : earlier ≤ spent) :
    (ledger total base spent : Bond σ).Tighter (ledger total base earlier) where
  running := by
    rintro left _ ⟨rfl, balanced⟩
    exact ⟨rfl, balanced.balance, Nat.le_trans later balanced.spent, balanced.solvent⟩
  failed := by
    rintro error left _ ⟨rfl, closed⟩
    have bounded := closed.spent
    exact ⟨rfl, closed.balance, by omega, closed.limit, closed.followed, closed.solvent⟩
  cut := Iff.rfl

theorem ledger_pays (limits : Limits) :
    (ledger total base spent : Bond σ).Pays (ledger total base (spent + 1)) limits limits := by
  rintro state _ ⟨rfl, balanced⟩
  obtain ⟨balance, paid, solvent⟩ := balanced
  by_cases empty : state.frame.budget = 0
  · rw [Run.charge_refused limits empty]
    exact .failed ⟨rfl, balance, by omega, fun _ => empty, nofun, nofun⟩
  · have counted := state.charges_paid
    have lowered : state.paid.frame.budget = state.frame.budget - 1 := rfl
    rw [Run.charge_paid limits empty]
    split
    · exact .failed ⟨rfl, by omega, by omega, fun _ => by omega, nofun, nofun⟩
    · exact .finished ⟨rfl, by omega, by omega, .inr (by omega)⟩

theorem ledger_nests {left right : RunState σ}
    (running : (ledger total base spent).running left right) :
    (ledger total base spent).Nests (ledger total base left.charges) Frame.child Frame.child
      left right := by
  obtain ⟨rfl, balance, paid, solvent⟩ := running
  constructor
  · rfl
  · exact ⟨rfl, balance, Nat.le_refl _, solvent⟩
  · rintro after _ ⟨rfl, inside⟩
    have returned : (left.afterCall after).frame.budget = after.frame.budget := by
      have innerBalance := inside.balance
      have innerPaid := inside.spent
      exact Nat.min_eq_right (by omega)
    refine ⟨rfl, ?_, Nat.le_trans paid inside.spent, ?_⟩
    · rw [returned]
      exact inside.balance
    · rw [returned]
      exact inside.solvent
  · rintro error after _ ⟨rfl, inside⟩
    have bounded := inside.spent
    have returned : (left.afterCall after).frame.budget = after.frame.budget :=
      Nat.min_eq_right (by omega)
    refine ⟨rfl, ?_, by omega, ?_, inside.followed, ?_⟩
    · rw [returned]
      exact inside.balance
    · rw [returned]
      exact inside.limit
    · rw [returned]
      exact inside.solvent
  · intro error after other impossible
    exact impossible

theorem variableValue_ledger (limits : Limits) (name : String) :
    Run.Agree (ledger total base spent : Bond σ) (Run.variableValue limits name)
      (Run.variableValue limits name) where
  lockstep := by
    rintro state _ ⟨rfl, balanced⟩
    simp only [Run.variableValue]
    split
    · exact .finished ⟨rfl, balanced⟩
    · split
      · exact .finished ⟨rfl, balanced.of_same rfl rfl⟩
      · exact .finished ⟨rfl, balanced⟩
  alone impossible := impossible.elim

theorem perform_ledger {handler : Handler σ} (leaves : handler.LeavesBudget)
    (effect : String) (arguments : List Value) (line : Nat) :
    Run.Agree (ledger total base spent) (Run.perform handler effect arguments line)
      (Run.perform handler effect arguments line) where
  lockstep := by
    rintro state _ ⟨rfl, balanced⟩
    have kept := leaves state.frame.actor arguments state.frame state.world
    simp only [Run.perform]
    generalize handler state.frame.actor arguments state.frame state.world = answer at kept
    obtain ⟨result, frame, world⟩ := answer
    have recorded : (Deed.performed effect arguments :: state.deeds).count .charged =
        state.deeds.count .charged := RunState.charges_cons_of_ne (by simp) _
    have after : RunState.Balanced total base spent { state with
        frame, world, deeds := .performed effect arguments :: state.deeds } :=
      balanced.of_same recorded kept
    cases result with
    | ok _ => exact .finished ⟨rfl, after⟩
    | error reason => exact .failed ⟨rfl, after.close rfl⟩
  alone impossible := impossible.elim

end Bond

namespace Manner

open Interpreter Run

variable {setting : Setting σ}

def ledgers (room otherRoom : Nat) (bond : Bond σ) : Prop :=
  ∃ total base spent, bond = Bond.ledger total base spent ∧ total < room + spent ∧
    total < otherRoom + spent

theorem ledgers_accord (leave : setting.effects.All Handler.LeavesBudget)
    (beyond : RunState σ → Stop RunError × RunState σ) :
    Accord { setting.manner with beyond } setting.manner ledgers where
  sameFunctions := rfl
  sameEffects := rfl
  sameDepth := rfl
  sameMachine := rfl
  base := by
    rintro room otherRoom bond ⟨total, base, spent, rfl, fits, otherFits⟩ full
    have apart (left right : RunState σ) :
        ¬(Bond.ledger total base spent).running left right := by
      rintro ⟨rfl, balance, paid, _⟩
      omega
    constructor
    all_goals intros; exact .vacuous apart (fun _ _ _ => id) _ _
  pays := by
    rintro room otherRoom bond ⟨total, base, spent, rfl, fits, otherFits⟩
    exact ⟨.ledger total base (spent + 1), ⟨total, base, spent + 1, rfl, by omega, by omega⟩,
      Bond.ledger_tighter (Nat.le_succ spent), Bond.ledger_pays setting.limits⟩
  reads := by
    rintro room otherRoom bond ⟨total, base, spent, rfl, _, _⟩ name
    exact Bond.variableValue_ledger setting.limits name
  performs := by
    rintro room otherRoom bond ⟨total, base, spent, rfl, _, _⟩ name handler found arguments line
    exact Bond.perform_ledger (leave name handler found) name arguments line
  calls := by
    rintro room otherRoom bond ⟨total, base, spent, rfl, fits, otherFits⟩ left right running
    have paid := running.2.spent
    exact ⟨.ledger total base left.charges,
      ⟨total, base, left.charges, rfl, by omega, by omega⟩, Bond.ledger_nests running⟩

end Manner

namespace Run

def Metered (first second : Run σ α) : Prop :=
  ∀ total base spent, Agree (Bond.ledger total base spent) first second

def MeteredAt (state : RunState σ) (first second : Run σ α) : Prop :=
  (Bond.ledger (state.charges + state.frame.budget) state.charges state.charges).Ending
    (first state) (second state)

theorem ledger_running (state : RunState σ) :
    (Bond.ledger (state.charges + state.frame.budget) state.charges state.charges).running
      state state :=
  ⟨rfl, rfl, Nat.le_refl _, .inl rfl⟩

theorem Metered.at {first second : Run σ α} (metered : Metered first second)
    (state : RunState σ) : MeteredAt state first second :=
  (metered _ _ _).lockstep (ledger_running state)

theorem Metered.eq {first second : Run σ α} (metered : Metered first second) : first = second :=
  funext fun state => Bond.ledger_ending_eq (metered.at state)

/-- The accounts of a run: nothing leaves the budget but what is paid for, and a run that paid for
something has used the budget up if and only if it failed for that reason. -/
structure Accounted (state : RunState σ) (outcome : Except (Stop RunError) α × RunState σ) :
    Prop where
  balance : outcome.2.charges + outcome.2.frame.budget = state.charges + state.frame.budget
  lowers : outcome.2.frame.budget ≤ state.frame.budget
  limit : ∀ limit, outcome.1 = .error (.failed (.operationLimit limit)) → outcome.2.frame.budget = 0
  followed : outcome.1 ≠ .error (.lost .unfollowed)
  solvent : (∀ limit, outcome.1 ≠ .error (.failed (.operationLimit limit))) →
    state.charges < outcome.2.charges → 1 ≤ outcome.2.frame.budget

theorem Accounted.charges_le {state : RunState σ} {outcome : Except (Stop RunError) α × RunState σ}
    (accounted : Accounted state outcome) : state.charges ≤ outcome.2.charges := by
  have balance := accounted.balance
  have lower := accounted.lowers
  omega

theorem Accounted.trans {β : Type} {state middle : RunState σ} {result : α}
    {outcome : Except (Stop RunError) β × RunState σ}
    (accounted : Accounted state (.ok result, middle))
    (next : Accounted middle outcome) : Accounted state outcome where
  balance := next.balance.trans accounted.balance
  lowers := Nat.le_trans next.lowers accounted.lowers
  limit := next.limit
  followed := next.followed
  solvent other charged := by
    by_cases more : middle.charges < outcome.2.charges
    · exact next.solvent other more
    · have balance := next.balance
      have later := next.charges_le
      have kept := accounted.solvent nofun (by simp only; omega)
      simp only at kept
      omega

theorem stop_keeps {stop : Stop RunError} (other : ∀ limit, stop ≠ .failed (.operationLimit limit))
    (followed : stop ≠ .lost .unfollowed) : stop.exhausts = false := by
  unfold Stop.exhausts
  split
  · next limit => exact absurd rfl (other limit)
  · exact absurd rfl followed
  · rfl

theorem MeteredAt.accounted {state : RunState σ} {first second : Run σ α}
    (metered : MeteredAt state first second) : Accounted state (first state) := by
  rw [MeteredAt] at metered
  generalize first state = outcome at metered
  generalize second state = other at metered
  cases metered with
  | finished running =>
      obtain ⟨balance, spent, solvent⟩ := running.2
      refine ⟨balance, by simp only; omega, nofun, nofun, fun _ charged => ?_⟩
      simp only at charged ⊢
      omega
  | @failed error left right failed =>
      obtain ⟨balance, spent, limit, followed, solvent⟩ := failed.2
      refine ⟨balance, by simp only; omega, ?_, ?_, ?_⟩
      · rintro _ ⟨⟩
        exact limit rfl
      · rintro ⟨⟩
        exact followed rfl
      · intro other charged
        have kept := solvent (stop_keeps (fun limit same => other limit (by rw [same])) followed)
        simp only at charged ⊢
        omega
  | cut impossible => exact impossible.elim

end Run

namespace Manner

open Interpreter Run

variable {setting : Setting σ}

theorem budget_lt_room (machine : Machine) (state : RunState σ) :
    state.frame.budget < roomFor machine state := by
  unfold roomFor
  omega

theorem withRoom_metered {first second : Nat → Run σ α}
    (agree : ∀ {room bond}, ledgers room room bond → Agree bond (first room) (second room)) :
    Metered (withRoom setting.machine first) (withRoom setting.machine second) := by
  intro total base spent
  constructor
  · rintro state _ ⟨rfl, balance, paid, solvent⟩
    have fits := budget_lt_room setting.machine state
    have member : ledgers (roomFor setting.machine state) (roomFor setting.machine state)
        (Bond.ledger total base state.charges : Bond σ) :=
      ⟨total, base, state.charges, rfl, by omega, by omega⟩
    have ending := (agree member).lockstep ⟨rfl, balance, Nat.le_refl _, solvent⟩
    exact ending.weaken (Bond.ledger_tighter paid)
  · intro _ _ _ impossible
    exact impossible.elim

section Metered

variable (leave : setting.effects.All Handler.LeavesBudget) (pause : Nat → Flow)
  (beyond : RunState σ → Stop RunError × RunState σ)

include leave

theorem within_meteredAt {state : RunState σ} {room otherRoom : Nat}
    (fits : state.frame.budget < room) (otherFits : state.frame.budget < otherRoom) :
    AgreeWithin (Bond.ledger (state.charges + state.frame.budget) state.charges state.charges)
      { setting.manner with beyond } setting.manner room otherRoom :=
  (ledgers_accord leave beyond).within ⟨_, _, _, rfl, by omega, by omega⟩

theorem evalWithin_room {state : RunState σ} {room otherRoom : Nat}
    (fits : state.frame.budget < room) (otherFits : state.frame.budget < otherRoom) (expr : Expr) :
    { setting.manner with pause }.evalWithin room expr state =
      { setting.manner with pause }.evalWithin otherRoom expr state :=
  Bond.ledger_ending_eq (((within_meteredAt leave setting.manner.beyond fits otherFits).eval pause
    expr).lockstep (ledger_running state))

theorem inOrder_room {state : RunState σ} {room otherRoom : Nat}
    (fits : state.frame.budget < room) (otherFits : state.frame.budget < otherRoom)
    (statements : List Statement) (index : Nat) (rest : List Statement) :
    inOrder ({ setting.manner with pause }.execWithin room statements) statements index rest state =
      inOrder ({ setting.manner with pause }.execWithin otherRoom statements) statements index rest
        state :=
  Bond.ledger_ending_eq ((inOrder_agree ((within_meteredAt leave setting.manner.beyond fits
    otherFits).exec pause statements) statements index rest).lockstep (ledger_running state))

theorem loopWithin_room {state : RunState σ} {room otherRoom : Nat}
    (fits : state.frame.budget < room) (otherFits : state.frame.budget < otherRoom)
    (statements : List Statement) (index : Nat) (statement : Statement) (loop : LoopState) :
    { setting.manner with pause }.loopWithin room statements index statement loop state =
      { setting.manner with pause }.loopWithin otherRoom statements index statement loop state :=
  Bond.ledger_ending_eq (((within_meteredAt leave setting.manner.beyond fits otherFits).loop pause
    statements index statement loop).lockstep (ledger_running state))

theorem eval_metered (expr : Expr) :
    Metered ({ setting.manner with pause, beyond }.eval expr)
      ({ setting.manner with pause }.eval expr) :=
  withRoom_metered fun member => ((ledgers_accord leave beyond).within member).eval pause expr

theorem execFrom_metered (statements : List Statement) (next : Nat) :
    Metered ({ setting.manner with pause, beyond }.execFrom statements next)
      ({ setting.manner with pause }.execFrom statements next) :=
  withRoom_metered fun member => inOrder_agree
    (((ledgers_accord leave beyond).within member).exec pause statements) statements next _

theorem loopFrom_metered (statements : List Statement) (index : Nat) (statement : Statement)
    (state : LoopState) :
    Metered
      (withRoom setting.machine fun room =>
        { setting.manner with pause, beyond }.loopWithin room statements index statement state)
      (withRoom setting.machine fun room =>
        { setting.manner with pause }.loopWithin room statements index statement state) :=
  withRoom_metered fun member =>
    ((ledgers_accord leave beyond).within member).loop pause statements index statement state

theorem resumeOne_metered (entry : Pending) :
    Metered ({ setting.manner with pause, beyond }.resumeOne entry)
      ({ setting.manner with pause }.resumeOne entry) := fun total base spent =>
  resumeOne_agree
    (fun statements next => execFrom_metered leave pause beyond statements next total base spent)
    (fun statements index statement state =>
      loopFrom_metered leave pause beyond statements index statement state total base spent)
    entry

theorem resume_metered (pending : List Pending) :
    Metered ({ setting.manner with pause, beyond }.resume pending)
      ({ setting.manner with pause }.resume pending) := fun total base spent =>
  resume_agree
    (fun statements next => execFrom_metered leave pause beyond statements next total base spent)
    (fun statements index statement state =>
      loopFrom_metered leave pause beyond statements index statement state total base spent)
    pending

end Metered

theorem charges_lt_of_charged {rest : Run σ α} {limits : Limits} {state after : RunState σ}
    {result : α}
    (agree : Agree (Bond.ledger (state.charges + state.frame.budget) state.charges
      (state.charges + 1)) rest rest)
    (ends : (Run.charge limits >>= fun _ => rest) state = (.ok result, after)) :
    state.charges < after.charges := by
  have ending := Agree.charged_lockstep (Bond.ledger_pays limits) agree (ledger_running state)
  rw [ends] at ending
  cases ending with
  | finished running => exact running.2.spent

theorem ledgers_charged {room : Nat} {state : RunState σ} (fits : state.frame.budget < room + 1) :
    ledgers room room (Bond.ledger (state.charges + state.frame.budget) state.charges
      (state.charges + 1) : Bond σ) :=
  ⟨_, _, _, rfl, by omega, by omega⟩

section Pauses

variable (leave : setting.effects.All Handler.LeavesBudget) {room : Nat}
  {statements : List Statement} {index : Nat} {statement : Statement} {state after : RunState σ}

include leave

theorem execWithin_charges {flow : Flow} (fits : state.frame.budget < room)
    (ends : setting.manner.execWithin room statements index statement state = (.ok flow, after)) :
    state.charges < after.charges := by
  cases room with
  | zero => omega
  | succ room =>
      have accord := ledgers_accord leave setting.manner.beyond
      have member := ledgers_charged fits
      exact charges_lt_of_charged (accord.execCharged_agree member (accord.within member) .pause
        statements index statement) ends

theorem loopWithin_charges {loop : LoopState} {flow : Flow} (fits : state.frame.budget < room)
    (ends : setting.manner.loopWithin room statements index statement loop state =
      (.ok flow, after)) :
    state.charges < after.charges := by
  cases room with
  | zero => omega
  | succ room =>
      have accord := ledgers_accord leave setting.manner.beyond
      have member := ledgers_charged fits
      exact charges_lt_of_charged (Accord.loopCharged_agree (accord.within member) .pause statements
        index statement loop) ends

theorem inOrder_charges {rest : List Statement} {delay : Nat} {pending : List Pending}
    (fits : state.frame.budget < room)
    (paused : inOrder (setting.manner.execWithin room statements) statements index rest state =
      (.ok (.suspended delay pending), after)) :
    state.charges < after.charges := by
  -- The pause is in the first statement, which charges, or in those behind it, which start with
  -- no larger budget.
  induction rest generalizing index state with
  | nil => cases paused
  | cons statement rest ih =>
      rw [inOrder_cons] at paused
      split at paused
      · cases paused
      · generalize ends : setting.manner.execWithin room statements index statement state = outcome
          at paused
        obtain ⟨result, middle⟩ := outcome
        cases result with
        | error error => cases paused
        | ok flow =>
            have charged := execWithin_charges leave fits ends
            cases flow with
            | completed =>
                have agree := within_meteredAt leave setting.manner.beyond fits fits
                have metered : MeteredAt state
                    (setting.manner.execWithin room statements index statement)
                    (setting.manner.execWithin room statements index statement) :=
                  (agree.exec .pause statements index statement).lockstep (ledger_running state)
                have lower := metered.accounted.lowers
                rw [ends] at lower
                exact Nat.lt_trans charged (ih (Nat.lt_of_le_of_lt lower fits) paused)
            | suspended delay pending =>
                cases paused
                exact charged

theorem resumeOne_charges {entry : Pending} {delay : Nat} {pending : List Pending}
    (paused : setting.manner.resumeOne entry state = (.ok (.suspended delay pending), after)) :
    state.charges < after.charges := by
  cases entry with
  | block statements next => exact inOrder_charges leave (budget_lt_room _ _) paused
  | loop statements index loop =>
      rw [resumeOne, bind_ok (afterRound_eq state)] at paused
      split at paused
      · cases found : statements[index]? with
        | none =>
            rw [found] at paused
            cases paused
        | some statement =>
            rw [found] at paused
            have charged := loopWithin_charges leave (budget_lt_room _ _) paused
            exact charged
      · cases paused

theorem resume_charges {entries : List Pending} {delay : Nat} {pending : List Pending}
    (paused : setting.manner.resume entries state = (.ok (.suspended delay pending), after)) :
    state.charges < after.charges := by
  induction entries generalizing state with
  | nil => cases paused
  | cons entry rest ih =>
      have accounted := ((resumeOne_metered leave .pause setting.manner.beyond entry).at
        state).accounted
      change Accounted state (setting.manner.resumeOne entry state) at accounted
      rw [resume_cons] at paused
      generalize ends : setting.manner.resumeOne entry state = outcome at paused accounted
      obtain ⟨result, middle⟩ := outcome
      cases result with
      | error error => cases paused
      | ok flow =>
          cases flow with
          | completed => exact Nat.lt_of_le_of_lt accounted.charges_le (ih paused)
          | suspended delay pending =>
              cases paused
              exact resumeOne_charges leave ends

end Pauses

end Manner

namespace Interpreter

open Manner Run

variable {setting : Setting σ}

/-- The runs with which an invocation can begin: a block from the top, or work left over. -/
inductive Begins (setting : Setting σ) : Run σ Flow → Prop
  | block (block : Block) : Begins setting (execBlock setting block)
  | pending (pending : List Pending) : Begins setting (resume setting pending)

theorem Begins.accounted (leave : setting.effects.All Handler.LeavesBudget) {run : Run σ Flow}
    (begins : Begins setting run) (state : RunState σ) : Accounted state (run state) := by
  cases begins with
  | block block =>
      exact ((execFrom_metered leave .pause setting.manner.beyond block.statements 0).at
        state).accounted
  | pending pending =>
      exact ((resume_metered leave .pause setting.manner.beyond pending).at state).accounted

theorem Begins.charges (leave : setting.effects.All Handler.LeavesBudget) {run : Run σ Flow}
    (begins : Begins setting run) {state after : RunState σ} {delay : Nat}
    {pending : List Pending} (paused : run state = (.ok (.suspended delay pending), after)) :
    state.charges < after.charges := by
  cases begins with
  | block block => exact inOrder_charges leave (budget_lt_room _ _) paused
  | pending pending => exact resume_charges leave paused

theorem afterResumptions_accounted (leave : setting.effects.All Handler.LeavesBudget)
    {run : Run σ Flow}
    (begins : Begins setting run) (state : RunState σ) (rounds : Nat) :
    Accounted state (setting.manner.afterResumptions (run state) rounds) := by
  induction rounds with
  | zero => exact begins.accounted leave state
  | succ rounds ih =>
      rcases settled_or_paused (setting.manner.afterResumptions (run state) rounds) with
        settled | ⟨delay, pending, middle, paused⟩
      · rw [afterResumptions_settled settled]
        exact ih
      · rw [paused] at ih
        rw [afterResumptions_paused paused]
        exact ih.trans ((Begins.pending pending).accounted leave middle)

theorem afterResumptions_charges (leave : setting.effects.All Handler.LeavesBudget)
    {run : Run σ Flow}
    (begins : Begins setting run) {state after : RunState σ} {rounds delay : Nat}
    {pending : List Pending}
    (paused : setting.manner.afterResumptions (run state) rounds =
      (.ok (.suspended delay pending), after)) :
    state.charges + rounds < after.charges := by
  induction rounds generalizing delay pending after with
  | zero => exact begins.charges leave paused
  | succ rounds ih =>
      rcases settled_or_paused (setting.manner.afterResumptions (run state) rounds) with
        settled | ⟨_, earlier, middle, before⟩
      · rw [afterResumptions_settled settled] at paused
        rw [paused] at settled
        exact absurd rfl (settled delay pending)
      · rw [afterResumptions_paused before] at paused
        have charged := ih before
        have more := (Begins.pending earlier).charges leave paused
        omega

theorem pauses_lt_budget (leave : setting.effects.All Handler.LeavesBudget) {run : Run σ Flow}
    (begins : Begins setting run) {state : RunState σ} {rounds : Nat}
    (unsettled : ¬Settled (setting.manner.afterResumptions (run state) rounds)) :
    rounds + 1 < state.frame.budget := by
  rcases settled_or_paused (setting.manner.afterResumptions (run state) rounds) with
    settled | ⟨delay, pending, after, paused⟩
  · exact absurd settled unsettled
  · have charged := afterResumptions_charges leave begins paused
    have accounted := afterResumptions_accounted leave begins state rounds
    rw [paused] at accounted
    have funded := accounted.solvent nofun (by simp only; omega)
    have balance := accounted.balance
    simp only at funded balance
    omega

theorem Begins.settles (leave : setting.effects.All Handler.LeavesBudget) {run : Run σ Flow}
    (begins : Begins setting run) (state : RunState σ) :
    ∃ rounds, Settled (setting.manner.afterResumptions (run state) rounds) := by
  refine ⟨state.frame.budget, Classical.byContradiction fun unsettled => ?_⟩
  have pauses := pauses_lt_budget leave begins unsettled
  omega

/-- What the budget does for the runs of a setting. -/
structure WithinBudget (setting : Setting σ) : Prop where
  /-- Nothing is ever nested deeper than the budget, whatever would become of it. -/
  nesting : ∀ beyond : RunState σ → Stop RunError × RunState σ,
    (∀ expr, { setting.manner with beyond }.eval expr = eval setting expr) ∧
    (∀ block, { setting.manner with beyond }.execBlock block = execBlock setting block) ∧
    ∀ pending, { setting.manner with beyond }.resume pending = resume setting pending
  evals : ∀ expr state, Accounted state (eval setting expr state)
  calls : ∀ function arguments line state, Accounted state
    (callFunction setting.limits Frame.child (execBlock setting) function arguments line state)
  /-- The accounts hold over the first run and all resumptions together. -/
  invocations : ∀ {run}, Begins setting run → ∀ state rounds,
    Accounted state (setting.manner.afterResumptions (run state) rounds)
  charged : ∀ {run}, Begins setting run → ∀ state rounds,
    (setting.manner.afterResumptions (run state) rounds).2.charges - state.charges ≤
      state.frame.budget
  /-- After each number of resumptions, an invocation that pauses again has paused once more than it
  was resumed. -/
  pauses : ∀ {run}, Begins setting run → ∀ state rounds,
    ¬Settled (setting.manner.afterResumptions (run state) rounds) →
      rounds + 1 < state.frame.budget
  ends : ∀ {run}, Begins setting run → ∀ state,
    ∃ rounds, Settled (setting.manner.afterResumptions (run state) rounds)

theorem callFunction_accounted (leave : setting.effects.All Handler.LeavesBudget)
    (function : Function) (arguments : List Value) (line : Nat) (state : RunState σ) :
    Accounted state
      (callFunction setting.limits Frame.child (execBlock setting) function arguments line
        state) := by
  have bodies (block : Block) : Metered (execBlock setting block) (execBlock setting block) :=
    execFrom_metered leave .pause setting.manner.beyond block.statements 0
  have metered : Metered
      (callFunction setting.limits Frame.child (execBlock setting) function arguments line)
      (callFunction setting.limits Frame.child (execBlock setting) function arguments line) := by
    intro total base spent
    refine callFunction_agree rfl (fun block => bodies block total base spent) ?_ function arguments
      line
    intro left right running
    exact ⟨.ledger total base left.charges, fun block => bodies block total base left.charges,
      Bond.ledger_nests running⟩
  exact (metered.at state).accounted

/-- Every run and every invocation ends within its budget, if the handlers of the host leave the
budget alone. -/
theorem within_budget (setting : Setting σ) (leave : setting.effects.All Handler.LeavesBudget) :
    WithinBudget setting where
  nesting beyond :=
    ⟨fun expr => (eval_metered leave .pause beyond expr).eq,
      fun block => (execFrom_metered leave .pause beyond block.statements 0).eq,
      fun pending => (resume_metered leave .pause beyond pending).eq⟩
  evals expr state := ((eval_metered leave .pause setting.manner.beyond expr).at state).accounted
  calls := callFunction_accounted leave
  invocations begins state rounds := afterResumptions_accounted leave begins state rounds
  charged begins state rounds := by
    have balance := (afterResumptions_accounted leave begins state rounds).balance
    omega
  pauses begins _ _ unsettled := pauses_lt_budget leave begins unsettled
  ends begins state := begins.settles leave state

/-- A map that is looked up under its own text: the text is never written, and the run waits for it
for ever with most of its budget left. -/
theorem own_text_blocks :
    let start : RunState Unit := ⟨.withBudget 20, {}, { host := () }, []⟩
    let last := execBlock { effects := Effects.core } ⟨1, [.assign 2 "m" (.map 2 []),
      .assign 3 "x" (.index 3 (.reference 3 "m") (.reference 3 "m"))]⟩ start
    last.1.toOption.isNone ∧ last.2.frame.budget = 14 ∧
      (match last.1 with
        | .error (.lost loss) => some loss
        | _ => none) = some .blocked := by
  decide +kernel

theorem core_leavesBudget : (Effects.core : Effects σ).All Handler.LeavesBudget := by
  refine Effects.core_all (fun _ _ _ _ _ => rfl) (fun _ _ _ _ => rfl) ?_
  intro actor arguments frame world
  simp only [Handler.settingLocal]
  split <;> rfl

theorem core_within_budget :
    (Effects.core : Effects Unit).All Handler.LeavesBudget ∧
      WithinBudget ({ effects := Effects.core } : Setting Unit) :=
  ⟨core_leavesBudget, within_budget _ core_leavesBudget⟩

end Interpreter

end EventScript
