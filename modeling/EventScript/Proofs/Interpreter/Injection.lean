import EventScript.Engine.Dispatch
import EventScript.Proofs.Effect
import EventScript.Proofs.Frame
import EventScript.Proofs.Interpreter.Invocation

/-!
The attributes of the actor. They become variables only when a script reads an unset name under
their prefix, but no script can tell: all goes as if each frame had them from the beginning.
-/

namespace EventScript

variable {σ α : Type}

def Frame.withAttributes (frame : Frame) (prefixText : String) : Frame :=
  { frame with locals := Actor.bindings prefixText frame.actor }

def Occasion.prepareEagerly (occasion : Occasion) (prefixText : String) (frame : Frame) : Frame :=
  let frame := { frame with actor := occasion.actor, cancellation := occasion.cancellation }
  occasion.parameters.foldl (fun frame entry => frame.set entry.1 entry.2)
    (frame.withAttributes prefixText)

/-- The manner in which each frame has the attributes from the beginning, and a variable is only
looked up. -/
def Setting.eager (setting : Setting σ) : Manner σ :=
  { setting.manner with
    readVariable := fun name => Run.read fun state => (state.frame.get? name).getD .null
    enter := fun frame => frame.child.withAttributes setting.limits.actorPrefix }

/-- The handler asks neither for the variables nor whether the attributes are among them. It may set
variables, and leaves the actor as he is. -/
def Handler.Unaware (handler : Handler σ) : Prop :=
  ∀ actor arguments (frame : Frame) world, ∃ result, ∃ after : Frame, ∃ moved,
    ∃ written : String → Option Value, after.actor = frame.actor ∧
    ∀ (locals : Dictionary Value) injected, ∃ bindings : Dictionary Value,
      handler actor arguments { frame with locals, injected } world =
        (result, { after with locals := bindings, injected }, moved) ∧
      ∀ name, bindings.get? name = (written name).or (locals.get? name)

theorem Value.eq_null_of_isNull {value : Value} (null : value.isNull = true) : value = .null := by
  cases value with
  | null => rfl
  | _ => cases null

/-- The states differ in their variables only, and those of the second one are those of the first
one together with the attributes. -/
structure RunState.Seeded (prefixText : String) (state eager : RunState σ) : Prop where
  sameRest : ∃ locals injected,
    eager = { state with frame := { state.frame with locals, injected } }
  sees : ∀ name, eager.frame.get? name = (state.frame.get? name).or
    (if state.frame.injected then none
    else (Actor.bindings prefixText state.frame.actor).get? name)

namespace RunState.Seeded

variable {prefixText : String} {state eager : RunState σ}

theorem set (seeded : state.Seeded prefixText eager) (name : String) (value : Value) :
    RunState.Seeded prefixText { state with frame := state.frame.set name value }
      { eager with frame := eager.frame.set name value } := by
  obtain ⟨⟨locals, injected, rfl⟩, sees⟩ := seeded
  refine ⟨⟨_, _, rfl⟩, fun other => ?_⟩
  rw [Frame.get?_set, Frame.get?_set, sees]
  split
  · rfl
  · rfl

theorem setAll (seeded : state.Seeded prefixText eager) (entries : List (String × Value)) :
    RunState.Seeded prefixText
      { state with frame :=
        entries.foldl (fun frame entry => frame.set entry.1 entry.2) state.frame }
      { eager with frame :=
        entries.foldl (fun frame entry => frame.set entry.1 entry.2) eager.frame } := by
  induction entries generalizing state eager with
  | nil => exact seeded
  | cons entry rest ih => exact ih (seeded.set entry.1 entry.2)

theorem value (seeded : state.Seeded prefixText eager) {name : String}
    (known : state.frame.injected = true ∨ Text.beginsWith name prefixText = false) :
    eager.frame.get? name = state.frame.get? name := by
  rw [seeded.sees name]
  rcases known with injected | other
  · rw [if_pos injected, Option.or_none]
  · rw [Actor.get?_bindings state.frame.actor other, ite_self, Option.or_none]

theorem inject (seeded : state.Seeded prefixText eager) (fresh : state.frame.injected = false) :
    RunState.Seeded prefixText { state with frame := state.frame.inject prefixText } eager := by
  obtain ⟨⟨locals, injected, rfl⟩, sees⟩ := seeded
  refine ⟨⟨locals, injected, rfl⟩, fun name => ?_⟩
  rw [sees name, fresh, Frame.get?_inject]
  exact Option.or_none.symm

end RunState.Seeded

namespace Bond

def seeded (prefixText : String) : Bond σ where
  running := RunState.Seeded prefixText
  failed _ := RunState.Seeded prefixText
  cut _ _ _ := False
  sameStore := by rintro left _ ⟨⟨locals, injected, rfl⟩, _⟩; rfl
  sameWorld := by rintro left _ ⟨⟨locals, injected, rfl⟩, _⟩; rfl
  sameSignals := by rintro left _ ⟨⟨locals, injected, rfl⟩, _⟩; rfl
  setWorld := by
    rintro left _ ⟨⟨locals, injected, rfl⟩, sees⟩ world
    exact ⟨⟨locals, injected, rfl⟩, sees⟩
  record := by
    rintro left _ ⟨⟨locals, injected, rfl⟩, sees⟩ store deed other _
    exact ⟨⟨locals, injected, rfl⟩, sees⟩
  setLocal running name value := running.set name value
  setSignals := by
    rintro left _ ⟨⟨locals, injected, rfl⟩, sees⟩ signals
    exact ⟨⟨locals, injected, rfl⟩, sees⟩
  fail running error other := running
  late := @never_late σ

variable {prefixText : String}

theorem seeded_pays (limits : Limits) :
    (seeded prefixText : Bond σ).Pays (seeded prefixText) limits limits := by
  rintro state _ ⟨⟨locals, injected, rfl⟩, sees⟩
  by_cases empty : state.frame.budget = 0
  · rw [Run.charge_refused limits empty, Run.charge_refused limits (by exact empty)]
    exact .failed ⟨⟨locals, injected, rfl⟩, sees⟩
  · rw [Run.charge_paid limits empty, Run.charge_paid limits (by exact empty)]
    split
    · exact .failed ⟨⟨locals, injected, rfl⟩, sees⟩
    · exact .finished ⟨⟨locals, injected, rfl⟩, sees⟩

theorem seeded_nests {left right : RunState σ} (running : (seeded prefixText).running left right) :
    (seeded prefixText).Nests (seeded prefixText) Frame.child
      (fun frame => frame.child.withAttributes prefixText) left right := by
  obtain ⟨⟨locals, injected, rfl⟩, sees⟩ := running
  constructor
  · rfl
  · exact ⟨⟨Actor.bindings prefixText left.frame.actor, false, rfl⟩, fun name => rfl⟩
  · rintro after _ ⟨⟨_, _, rfl⟩, _⟩
    exact ⟨⟨locals, injected, rfl⟩, sees⟩
  · rintro error after _ ⟨⟨_, _, rfl⟩, _⟩
    exact ⟨⟨locals, injected, rfl⟩, sees⟩
  · intro error after other impossible
    exact impossible

theorem variableValue_seeded (limits : Limits) (name : String) :
    Run.Agree (seeded limits.actorPrefix : Bond σ) (Run.variableValue limits name)
      (Run.read fun state => (state.frame.get? name).getD .null) where
  lockstep {left right} running := by
    change (seeded limits.actorPrefix).Ending _ (.ok ((right.frame.get? name).getD .null), right)
    simp only [Run.variableValue]
    split
    · rename_i set
      have same : right.frame.get? name = left.frame.get? name := by
        rw [running.sees name]
        cases found : left.frame.get? name with
        | some value => rfl
        | none =>
            rw [found] at set
            cases set
      rw [same]
      exact .finished running
    · rename_i unset
      split
      · rename_i fresh
        simp only [Bool.and_eq_true, Bool.not_eq_true'] at fresh
        have injected := running.inject fresh.1
        rw [injected.value (.inl rfl)]
        exact .finished injected
      · rename_i known
        have same : right.frame.get? name = left.frame.get? name := by
          refine running.value ?_
          cases injected : left.frame.injected with
          | true => exact .inl rfl
          | false => exact .inr (by simpa [injected] using known)
        have null : (left.frame.get? name).getD .null = .null :=
          Value.eq_null_of_isNull (by simpa using unset)
        rw [same, null]
        exact .finished running
  alone impossible := impossible.elim

theorem perform_seeded {handler : Handler σ} (unaware : handler.Unaware) (effect : String)
    (arguments : List Value) (line : Nat) :
    Run.Agree (seeded prefixText) (Run.perform handler effect arguments line)
      (Run.perform handler effect arguments line) where
  lockstep := by
    rintro state _ ⟨⟨locals, injected, rfl⟩, sees⟩
    obtain ⟨result, after, moved, written, sameActor, acts⟩ :=
      unaware state.frame.actor arguments state.frame state.world
    obtain ⟨bindings, acted, known⟩ := acts state.frame.locals state.frame.injected
    obtain ⟨others, actedToo, otherwise⟩ := acts locals injected
    simp only [Run.perform, acted, actedToo]
    have again : RunState.Seeded prefixText
        { state with
          frame := { after with locals := bindings, injected := state.frame.injected },
          world := moved, deeds := .performed effect arguments :: state.deeds }
        { state with
          frame := { after with locals := others, injected }, world := moved,
          deeds := .performed effect arguments :: state.deeds } := by
      refine ⟨⟨others, injected, rfl⟩, fun name => ?_⟩
      have earlier := sees name
      simp only [Frame.get?] at earlier ⊢
      rw [otherwise name, known name, earlier, sameActor, Option.or_assoc]
    cases result with
    | ok _ => exact .finished again
    | error reason => exact .failed again
  alone impossible := impossible.elim

end Bond

namespace Manner

open Interpreter Run

variable {setting : Setting σ}

theorem seeded_accord (unaware : setting.effects.All Handler.Unaware) :
    Accord setting.manner setting.eager fun room otherRoom bond =>
      room = otherRoom ∧ bond = .seeded setting.limits.actorPrefix := by
  refine .single rfl rfl rfl rfl ?_ (Bond.seeded_pays setting.limits)
    (Bond.variableValue_seeded setting.limits) ?_ Bond.seeded_nests
  · intro β
    constructor
    · rintro state _ ⟨⟨locals, injected, rfl⟩, sees⟩
      exact .failed ⟨⟨locals, injected, rfl⟩, sees⟩
    · intro _ _ _ impossible
      exact impossible.elim
  · intro name handler found
    exact Bond.perform_seeded (unaware name handler found) name

theorem withRoom_seeded {prefixText : String} {machine : Machine} {first second : Nat → Run σ α}
    (agree : ∀ room, Agree (.seeded prefixText) (first room) (second room)) :
    Agree (.seeded prefixText) (withRoom machine first) (withRoom machine second) where
  lockstep {left right} running := by
    have budget : right.frame.budget = left.frame.budget := by
      obtain ⟨⟨locals, injected, rfl⟩, _⟩ := running
      rfl
    simp only [withRoom, roomFor, budget]
    exact (agree _).lockstep running
  alone impossible := impossible.elim

section Seeded

variable (unaware : setting.effects.All Handler.Unaware)

include unaware

theorem execFrom_seeded (statements : List Statement) (next : Nat) :
    Agree (.seeded setting.limits.actorPrefix) (setting.manner.execFrom statements next)
      (setting.eager.execFrom statements next) :=
  withRoom_seeded fun _ => inOrder_agree
    (((seeded_accord unaware).within ⟨rfl, rfl⟩).exec .pause statements) statements next _

theorem loopFrom_seeded (statements : List Statement) (index : Nat) (statement : Statement)
    (loop : LoopState) :
    Agree (.seeded setting.limits.actorPrefix)
      (withRoom setting.machine fun room =>
        setting.manner.loopWithin room statements index statement loop)
      (withRoom setting.machine fun room =>
        setting.eager.loopWithin room statements index statement loop) :=
  withRoom_seeded fun _ =>
    ((seeded_accord unaware).within ⟨rfl, rfl⟩).loop .pause statements index statement loop

theorem resume_seeded (pending : List Pending) :
    Agree (.seeded setting.limits.actorPrefix) (setting.manner.resume pending)
      (setting.eager.resume pending) :=
  resume_agree (execFrom_seeded unaware) (loopFrom_seeded unaware) pending

end Seeded

end Manner

namespace Interpreter

open Manner

/-- Two outcomes of which nothing but the variables can differ. -/
structure Indistinguishable (outcome other : Except (Stop RunError) Flow × RunState σ) : Prop where
  result : outcome.1 = other.1
  store : outcome.2.store = other.2.store
  world : outcome.2.world = other.2.world
  deeds : outcome.2.deeds = other.2.deeds
  budget : outcome.2.frame.budget = other.2.frame.budget
  signals : outcome.2.frame.signals = other.2.frame.signals

theorem indistinguishable_of_seeded {prefixText : String}
    {outcome other : Except (Stop RunError) Flow × RunState σ}
    (ending : (Bond.seeded prefixText).Ending outcome other) : Indistinguishable outcome other := by
  cases ending with
  | finished running =>
      obtain ⟨⟨locals, injected, rfl⟩, _⟩ := running
      exact ⟨rfl, rfl, rfl, rfl, rfl, rfl⟩
  | failed failed =>
      obtain ⟨⟨locals, injected, rfl⟩, _⟩ := failed
      exact ⟨rfl, rfl, rfl, rfl, rfl, rfl⟩
  | cut impossible => exact impossible.elim

theorem prepare_seeded (occasion : Occasion) (prefixText : String) (budget : Nat) (store : Store)
    (world : World σ) :
    RunState.Seeded prefixText ⟨occasion.prepare (.withBudget budget), store, world, []⟩
      ⟨occasion.prepareEagerly prefixText (.withBudget budget), store, world, []⟩ := by
  let fresh : Frame :=
    { Frame.withBudget budget with
      actor := occasion.actor, cancellation := occasion.cancellation }
  have first : RunState.Seeded prefixText ⟨fresh, store, world, []⟩
      ⟨fresh.withAttributes prefixText, store, world, []⟩ :=
    ⟨⟨Actor.bindings prefixText occasion.actor, false, rfl⟩, fun name => rfl⟩
  exact first.setAll occasion.parameters

/-- Lazy injection is invisible. However often a handler is resumed, it comes to the same as in the
manner in which each frame has the attributes of the actor before the parameters are bound. -/
theorem injection_invisible (setting : Setting σ) (unaware : setting.effects.All Handler.Unaware)
    (block : Block) (occasion : Occasion) (budget : Nat) (store : Store) (world : World σ)
    (rounds : Nat) :
    Indistinguishable
      (setting.manner.afterResumptions
        (execBlock setting block ⟨occasion.prepare (.withBudget budget), store, world, []⟩) rounds)
      (setting.eager.afterResumptions
        (setting.eager.execBlock block
          ⟨occasion.prepareEagerly setting.limits.actorPrefix (.withBudget budget), store, world,
            []⟩)
        rounds) := by
  have prepared := prepare_seeded occasion setting.limits.actorPrefix budget store world
  have first := (execFrom_seeded unaware block.statements 0).lockstep prepared
  exact indistinguishable_of_seeded
    (afterResumptions_ending (resume_seeded unaware) first rounds)

/-- A handler that forgets all variables asks for none of them, and yet it tells whether the
attributes were among them. -/
theorem forgotten_attributes_return :
    let forget : Handler Unit := fun _ _ frame world => (.ok (), { frame with locals := {} }, world)
    let setting : Setting Unit := { effects := ({} : Effects Unit).register "forget" forget }
    let block : Block := ⟨1, [.effect 1 "forget" [],
      .store 2 (.literal 2 (.text "name")) (.reference 2 "player-name")]⟩
    let occasion : Occasion := { actor := some ⟨"u1", [("name", .text "Ann")]⟩ }
    (∀ actor values (frame : Frame) world locals injected,
      forget actor values { frame with locals, injected } world =
        (.ok (), { frame with locals := {}, injected }, world)) ∧
      (execBlock setting block
        ⟨occasion.prepare (.withBudget 9), {}, { host := () }, []⟩).2.store.get "name" =
          .text "Ann" ∧
      (setting.eager.execBlock block
        ⟨occasion.prepareEagerly "player-" (.withBudget 9), {}, { host := () }, []⟩).2.store.get
          "name" = .null :=
  ⟨fun _ _ _ _ _ _ => rfl, by decide +kernel, by decide +kernel⟩

theorem core_unaware : (Effects.core : Effects σ).All Handler.Unaware := by
  refine Effects.core_all ?_ ?_ ?_
  · intro cancelled actor arguments frame world
    exact ⟨.ok (), frame, { world with heap := frame.cancelEvent world.heap cancelled },
      fun _ => none, rfl, fun locals injected => ⟨locals, rfl, fun _ => rfl⟩⟩
  · intro actor arguments frame world
    exact ⟨_, frame, _, fun _ => none, rfl, fun locals injected => ⟨locals, rfl, fun _ => rfl⟩⟩
  · intro actor arguments frame world
    simp only [Handler.settingLocal]
    generalize (arguments.head?.getD .null).render world.heap = target
    split
    · exact ⟨_, frame, _, fun _ => none, rfl, fun locals injected => ⟨locals, rfl, fun _ => rfl⟩⟩
    · refine ⟨.ok (), frame, world,
        fun name => if name = target then some (arguments.getD 1 .null) else none, rfl,
        fun locals injected => ⟨locals.put target (arguments.getD 1 .null), rfl, fun name => ?_⟩⟩
      rw [Dictionary.get?_put]
      by_cases same : name = target
      · simp [same]
      · simp [same]

theorem core_injection_invisible :
    (Effects.core : Effects Unit).All Handler.Unaware ∧ ∃ (block : Block) (occasion : Occasion),
      (execBlock ({ effects := Effects.core } : Setting Unit) block
        ⟨occasion.prepare (.withBudget 9), {}, { host := () }, []⟩).2.frame.injected = true ∧
      ∀ rounds, Indistinguishable
        (({ effects := Effects.core } : Setting Unit).manner.afterResumptions
          (execBlock { effects := Effects.core } block
            ⟨occasion.prepare (.withBudget 9), {}, { host := () }, []⟩) rounds)
        (({ effects := Effects.core } : Setting Unit).eager.afterResumptions
          (({ effects := Effects.core } : Setting Unit).eager.execBlock block
            ⟨occasion.prepareEagerly "player-" (.withBudget 9), {}, { host := () }, []⟩) rounds) :=
  ⟨core_unaware, ⟨1, [.assign 2 "greeted" (.reference 2 "player-name")]⟩,
    { actor := some ⟨"u1", [("name", .text "Steve")]⟩ }, rfl,
    injection_invisible { effects := Effects.core } core_unaware _ _ 9 {} { host := () }⟩

end Interpreter

end EventScript
