import EventScript.Interpreter.Basic
import EventScript.Proofs.Store.Marked

/-!
Runs side by side. A bond says how the states of two runs hang together while both go on, after both
have failed, and after the first one alone was cut short. Two computations agree under a bond if
from states that hang together they come to the same result and to states that hang together again.
-/

namespace EventScript

def Stop.exhausts : Stop RunError → Bool
  | .failed (.operationLimit _) => true
  | .lost .unfollowed => true
  | _ => false

structure Signals where
  returning : Bool
  breaking : Bool
  continuing : Bool
  returnValue : Value

def Frame.signals (frame : Frame) : Signals :=
  ⟨frame.returning, frame.breaking, frame.continuing, frame.returnValue⟩

def Frame.withSignals (frame : Frame) (signals : Signals) : Frame :=
  { frame with
    returning := signals.returning, breaking := signals.breaking, continuing := signals.continuing,
    returnValue := signals.returnValue }

/-- How the states of two runs hang together. What a script does to both states in the same way,
short of charging and calling, does not part them. -/
structure Bond (σ : Type) where
  running : RunState σ → RunState σ → Prop
  /-- After both stopped in the same way. -/
  failed : Stop RunError → RunState σ → RunState σ → Prop
  /-- After the first one stopped, wherever the second one is. -/
  cut : Stop RunError → RunState σ → RunState σ → Prop
  sameStore : ∀ {left right}, running left right → left.store = right.store
  sameWorld : ∀ {left right}, running left right → left.world = right.world
  sameSignals : ∀ {left right}, running left right → left.frame.signals = right.frame.signals
  setWorld : ∀ {left right}, running left right →
    ∀ world, running { left with world } { right with world }
  record : ∀ {left right}, running left right → ∀ store deed, deed ≠ .charged →
    left.store.Marked store → running { left with store, deeds := deed :: left.deeds }
      { right with store, deeds := deed :: right.deeds }
  setLocal : ∀ {left right}, running left right → ∀ name value,
    running { left with frame := left.frame.set name value }
      { right with frame := right.frame.set name value }
  setSignals : ∀ {left right}, running left right → ∀ signals,
    running { left with frame := left.frame.withSignals signals }
      { right with frame := right.frame.withSignals signals }
  fail : ∀ {left right}, running left right →
    ∀ stop, stop.exhausts = false → failed stop left right
  late : ∀ {error left right later}, cut error left right →
    right.deeds <:+ later.deeds → cut error left later

namespace Bond

variable {σ α : Type}

theorem never_late {_stop : Stop RunError} {_left right later : RunState σ} (impossible : False)
    (_ : right.deeds <:+ later.deeds) : False := impossible

inductive Ending (bond : Bond σ) :
    Except (Stop RunError) α × RunState σ → Except (Stop RunError) α × RunState σ → Prop
  | finished {result left right} : bond.running left right →
      Ending bond (.ok result, left) (.ok result, right)
  | failed {error left right} : bond.failed error left right →
      Ending bond (.error error, left) (.error error, right)
  | cut {error left outcome right} : bond.cut error left right →
      Ending bond (.error error, left) (outcome, right)

structure Tighter (inner outer : Bond σ) : Prop where
  running : ∀ {left right}, inner.running left right → outer.running left right
  failed : ∀ {error left right}, inner.failed error left right → outer.failed error left right
  cut : ∀ {error left right}, inner.cut error left right ↔ outer.cut error left right

theorem Tighter.refl (bond : Bond σ) : Tighter bond bond :=
  ⟨id, id, Iff.rfl⟩

theorem Ending.weaken {inner outer : Bond σ} (tighter : Tighter inner outer)
    {first second : Except (Stop RunError) α × RunState σ} (ending : inner.Ending first second) :
    outer.Ending first second := by
  cases ending with
  | finished running => exact .finished (tighter.running running)
  | failed failed => exact .failed (tighter.failed failed)
  | cut cut => exact .cut (tighter.cut.mp cut)

def Pays (outer inner : Bond σ) (first second : Limits) : Prop :=
  ∀ {left right}, outer.running left right →
    inner.Ending (Run.charge first left) (Run.charge second right)

end Bond

def RunState.paid {σ : Type} (state : RunState σ) : RunState σ :=
  { state with
    frame := { state.frame with budget := state.frame.budget - 1 },
    deeds := .charged :: state.deeds }

def RunState.afterCall {σ : Type} (caller callee : RunState σ) : RunState σ :=
  { callee with
    frame := { caller.frame with budget := min caller.frame.budget callee.frame.budget } }

structure Bond.Nests {σ : Type} (outer inner : Bond σ) (enterFirst enterSecond : Frame → Frame)
    (left right : RunState σ) : Prop where
  sameDepth : left.frame.depth = right.frame.depth
  enter : inner.running { left with frame := enterFirst left.frame }
    { right with frame := enterSecond right.frame }
  leave : ∀ {leftAfter rightAfter}, inner.running leftAfter rightAfter →
    outer.running (left.afterCall leftAfter) (right.afterCall rightAfter)
  leaveFailed : ∀ {error leftAfter rightAfter}, inner.failed error leftAfter rightAfter →
    outer.failed error (left.afterCall leftAfter) (right.afterCall rightAfter)
  leaveCut : ∀ {error leftAfter rightAfter}, inner.cut error leftAfter rightAfter →
    outer.cut error (left.afterCall leftAfter) (right.afterCall rightAfter)

namespace Run

variable {σ α β : Type} {bond : Bond σ}

theorem bind_ok {run : Run σ α} {next : α → Run σ β} {state after : RunState σ} {result : α}
    (ends : run state = (.ok result, after)) : (run >>= next) state = next result after := by
  change Run.bind run next state = next result after
  rw [Run.bind, ends]

theorem bind_error {run : Run σ α} {next : α → Run σ β} {state after : RunState σ}
    {error : Stop RunError} (ends : run state = (.error error, after)) :
    (run >>= next) state = (.error error, after) := by
  change Run.bind run next state = (.error error, after)
  rw [Run.bind, ends]

theorem bind_cases {motive : Except (Stop RunError) β × RunState σ → Prop} {run : Run σ α}
    {next : α → Run σ β} {state : RunState σ}
    (goesOn : ∀ result after, run state = (.ok result, after) → motive (next result after))
    (fails : ∀ error after, run state = (.error error, after) → motive (.error error, after)) :
    motive ((run >>= next) state) := by
  generalize ends : run state = outcome at goesOn fails
  obtain ⟨result, after⟩ := outcome
  cases result with
  | ok result =>
      rw [bind_ok ends]
      exact goesOn result after rfl
  | error error =>
      rw [bind_error ends]
      exact fails error after rfl

theorem charge_refused (limits : Limits) {state : RunState σ} (empty : state.frame.budget = 0) :
    charge limits state = (.error (.failed (.operationLimit limits.operations)), state) := by
  have same : ({ state.frame with budget := 0 } : Frame) = state.frame := by rw [← empty]
  simp only [charge, empty, ↓reduceIte, Nat.zero_sub, same]

theorem charge_paid (limits : Limits) {state : RunState σ} (funded : state.frame.budget ≠ 0) :
    charge limits state =
      if state.frame.budget = 1 then
        (.error (.failed (.operationLimit limits.operations)), state.paid)
      else (.ok (), state.paid) := by
  have last : state.frame.budget - 1 = 0 ↔ state.frame.budget = 1 := by omega
  simp only [charge, if_neg funded, last, RunState.paid]

theorem charge_deeds (limits : Limits) (state : RunState σ) :
    state.deeds <:+ (charge limits state).2.deeds := by
  by_cases empty : state.frame.budget = 0
  · simp only [charge_refused limits empty, List.suffix_refl]
  · rw [charge_paid limits empty]
    split <;> exact List.suffix_cons _ _

/-- Two computations that keep to a bond. After the first one was cut short, the second one goes on
alone. -/
structure Agree (bond : Bond σ) (first second : Run σ α) : Prop where
  lockstep : ∀ {left right}, bond.running left right → bond.Ending (first left) (second right)
  alone : ∀ {error left right}, bond.cut error left right → bond.cut error left (second right).2

namespace Agree

theorem pure (result : α) : Agree bond (pure result) (pure result) where
  lockstep running := .finished running
  alone cut := bond.late cut (List.suffix_refl _)

theorem bind_ending {first second : Run σ α} {next following : α → Run σ β}
    {left right : RunState σ}
    (ending : bond.Ending (first left) (second right))
    (rest : ∀ result, Agree bond (next result) (following result)) :
    bond.Ending ((first >>= next) left) ((second >>= following) right) := by
  generalize leftEnds : first left = leftEnd at ending
  generalize rightEnds : second right = rightEnd at ending
  cases ending with
  | finished running =>
      rw [bind_ok leftEnds, bind_ok rightEnds]
      exact (rest _).lockstep running
  | failed failed =>
      rw [bind_error leftEnds, bind_error rightEnds]
      exact .failed failed
  | @cut error _ outcome right cut =>
      rw [bind_error leftEnds]
      cases outcome with
      | ok result =>
          rw [bind_ok rightEnds]
          exact .cut ((rest result).alone cut)
      | error _ =>
          rw [bind_error rightEnds]
          exact .cut cut

theorem bind {first second : Run σ α} {next following : α → Run σ β}
    (agree : Agree bond first second)
    (rest : ∀ result, Agree bond (next result) (following result)) :
    Agree bond (first >>= next) (second >>= following) where
  lockstep running := bind_ending (agree.lockstep running) rest
  alone {error left right} cut := by
    have later := agree.alone cut
    refine bind_cases (motive := fun outcome => bond.cut error left outcome.2)
      (fun result after ends => ?_) fun failure after ends => ?_
    all_goals rw [ends] at later
    · exact (rest result).alone later
    · exact later

theorem vacuous (apart : ∀ left right, ¬bond.running left right)
    (uncut : ∀ error left right, ¬bond.cut error left right) (first second : Run σ α) :
    Agree bond first second where
  lockstep running := absurd running (apart _ _)
  alone cut := absurd cut (uncut _ _ _)

theorem fail (error : RunError) (other : (Stop.failed error).exhausts = false) :
    Agree bond (Run.fail error : Run σ α) (Run.fail error) where
  lockstep running := .failed (bond.fail running _ other)
  alone cut := bond.late cut (List.suffix_refl _)

theorem await (outcome : Option α) : Agree bond (Run.await outcome) (Run.await outcome) := by
  cases outcome with
  | some result => exact pure result
  | none =>
      exact ⟨fun running => .failed (bond.fail running _ rfl),
        fun cut => bond.late cut (List.suffix_refl _)⟩

theorem read {view : RunState σ → α}
    (same : ∀ {left right}, bond.running left right → view left = view right) :
    Agree bond (Run.read view) (Run.read view) where
  lockstep {left right} running := by
    change bond.Ending (.ok (view left), left) (.ok (view right), right)
    rw [same running]
    exact .finished running
  alone cut := bond.late cut (List.suffix_refl _)

theorem readWorld (view : World σ → α) :
    Agree bond (Run.read fun state => view state.world) (Run.read fun state => view state.world) :=
  read fun running => by rw [bond.sameWorld running]

theorem render (value : Value) : Agree bond (Run.render value) (Run.render value) :=
  readWorld fun world => value.render world.heap

theorem isTrue (value : Value) : Agree bond (Run.isTrue value) (Run.isTrue value) :=
  readWorld fun world => value.isTrue world.heap

theorem stored (key : String) : Agree bond (Run.stored key) (Run.stored key) :=
  read fun running => by rw [bond.sameStore running]

theorem onHeap (compute : Heap → α × Heap) :
    Agree bond (Run.onHeap compute) (Run.onHeap compute) where
  lockstep {left right} running := by
    simp only [Run.onHeap, bond.sameWorld running]
    exact .finished (bond.setWorld running _)
  alone cut := bond.late cut (List.suffix_refl _)

theorem writeStore (key : String) (value : Value) :
    Agree bond (Run.writeStore key value) (Run.writeStore key value) where
  lockstep {left right} running := by
    simp only [Run.writeStore, Run.modify, ← bond.sameStore running]
    exact .finished (bond.record running _ _ nofun (left.store.set_marked key value))
  alone cut := bond.late cut (List.suffix_cons _ _)

theorem incrementStore (key : String) (amount : Double) :
    Agree bond (Run.incrementStore key amount) (Run.incrementStore key amount) where
  lockstep {left right} running := by
    simp only [Run.incrementStore, Run.modify, ← bond.sameStore running]
    exact .finished (bond.record running _ _ nofun (left.store.increment_marked key amount))
  alone cut := bond.late cut (List.suffix_cons _ _)

theorem setLocal (name : String) (value : Value) :
    Agree bond (Run.modifyFrame (·.set name value)) (Run.modifyFrame (·.set name value)) where
  lockstep running := .finished (bond.setLocal running name value)
  alone cut := bond.late cut (List.suffix_refl _)

theorem signal (change : Signals → Signals) :
    Agree bond (Run.modifyFrame fun frame => frame.withSignals (change frame.signals))
      (Run.modifyFrame fun frame => frame.withSignals (change frame.signals)) where
  lockstep {left right} running := by
    simp only [Run.modifyFrame, Run.modify, bond.sameSignals running]
    exact .finished (bond.setSignals running _)
  alone cut := bond.late cut (List.suffix_refl _)

theorem forEach {first second : α → Run σ β} {items : List α}
    (each : ∀ item ∈ items, Agree bond (first item) (second item)) :
    Agree bond (Run.forEach first items) (Run.forEach second items) := by
  induction items with
  | nil => exact pure []
  | cons item rest ih =>
      refine (each item (by simp)).bind fun result => ?_
      refine (ih fun item member => each item (by simp [member])).bind fun results => ?_
      exact pure (result :: results)

theorem charged_lockstep {outer inner : Bond σ} {limits other : Limits} {first second : Run σ α}
    (pays : outer.Pays inner limits other) (agree : Agree inner first second)
    {left right : RunState σ} (running : outer.running left right) :
    inner.Ending ((Run.charge limits >>= fun _ => first) left)
      ((Run.charge other >>= fun _ => second) right) :=
  bind_ending (pays running) fun _ => agree

theorem charged {outer inner : Bond σ} {limits other : Limits} {first second : Run σ α}
    (tighter : inner.Tighter outer) (pays : outer.Pays inner limits other)
    (agree : Agree inner first second) :
    Agree outer (Run.charge limits >>= fun _ => first) (Run.charge other >>= fun _ => second) where
  lockstep running := (charged_lockstep pays agree running).weaken tighter
  alone {error left right} cut := by
    have later := outer.late cut (charge_deeds other right)
    refine bind_cases (motive := fun outcome => outer.cut error left outcome.2)
      (fun _ after ends => ?_) fun failure after ends => ?_
    all_goals rw [ends] at later
    · exact tighter.cut.mp (agree.alone (tighter.cut.mpr later))
    · exact later

end Agree

end Run

end EventScript
