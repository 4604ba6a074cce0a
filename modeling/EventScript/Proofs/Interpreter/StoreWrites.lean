import EventScript.Proofs.Interpreter.Lockstep

/-!
Scripts and the store. However a run ends, the store is as it was or marked as changed: scripts set
and increment entries, and have no other way to the store itself.
-/

namespace EventScript

variable {σ α : Type}

def Bond.marked (before : Store) : Bond σ where
  running left right := left = right ∧ before.Marked left.store
  failed _ left right := left = right ∧ before.Marked left.store
  cut _ _ _ := False
  sameStore := by rintro left _ ⟨rfl, _⟩; rfl
  sameWorld := by rintro left _ ⟨rfl, _⟩; rfl
  sameSignals := by rintro left _ ⟨rfl, _⟩; rfl
  setWorld := by rintro left _ ⟨rfl, marked⟩ world; exact ⟨rfl, marked⟩
  record := by
    rintro left _ ⟨rfl, marked⟩ store deed other changed
    exact ⟨rfl, marked.trans changed⟩
  setLocal := by rintro left _ ⟨rfl, marked⟩ name value; exact ⟨rfl, marked⟩
  setSignals := by rintro left _ ⟨rfl, marked⟩ signals; exact ⟨rfl, marked⟩
  fail := by rintro left _ ⟨rfl, marked⟩ error other; exact ⟨rfl, marked⟩
  late := @never_late σ

namespace Bond

variable {before : Store}

theorem marked_pays (limits : Limits) :
    (marked before : Bond σ).Pays (marked before) limits limits := by
  rintro state _ ⟨rfl, marked⟩
  by_cases empty : state.frame.budget = 0
  · rw [Run.charge_refused limits empty]
    exact .failed ⟨rfl, marked⟩
  · rw [Run.charge_paid limits empty]
    split
    · exact .failed ⟨rfl, marked⟩
    · exact .finished ⟨rfl, marked⟩

theorem marked_nests {left right : RunState σ} (running : (marked before).running left right) :
    (marked before).Nests (marked before) Frame.child Frame.child left right := by
  obtain ⟨rfl, marked⟩ := running
  constructor
  · rfl
  · exact ⟨rfl, marked⟩
  · rintro after _ ⟨rfl, inside⟩
    exact ⟨rfl, inside⟩
  · rintro error after _ ⟨rfl, inside⟩
    exact ⟨rfl, inside⟩
  · intro error after other impossible
    exact impossible

theorem variableValue_marked (limits : Limits) (name : String) :
    Run.Agree (marked before : Bond σ) (Run.variableValue limits name)
      (Run.variableValue limits name) where
  lockstep := by
    rintro state _ ⟨rfl, marked⟩
    simp only [Run.variableValue]
    split
    · exact .finished ⟨rfl, marked⟩
    · split <;> exact .finished ⟨rfl, marked⟩
  alone impossible := impossible.elim

theorem perform_marked (handler : Handler σ) (effect : String) (arguments : List Value)
    (line : Nat) :
    Run.Agree (marked before) (Run.perform handler effect arguments line)
      (Run.perform handler effect arguments line) where
  lockstep := by
    rintro state _ ⟨rfl, marked⟩
    simp only [Run.perform]
    generalize handler state.frame.actor arguments state.frame state.world = answer
    obtain ⟨result, frame, world⟩ := answer
    cases result with
    | ok _ => exact .finished ⟨rfl, marked⟩
    | error reason => exact .failed ⟨rfl, marked⟩
  alone impossible := impossible.elim

theorem marked_ending {first second : Except (Stop RunError) α × RunState σ}
    (ending : (marked before).Ending first second) : before.Marked first.2.store := by
  cases ending with
  | finished running => exact running.2
  | failed failed => exact failed.2
  | cut impossible => exact impossible.elim

end Bond

namespace Manner

open Interpreter Run

variable {setting : Setting σ} {before : Store}

theorem marked_accord : Accord setting.manner setting.manner fun room otherRoom bond =>
    room = otherRoom ∧ bond = .marked before := by
  refine .single rfl rfl rfl rfl ?_ (Bond.marked_pays setting.limits)
    (Bond.variableValue_marked setting.limits) ?_ Bond.marked_nests
  · intro β
    constructor
    · rintro state _ ⟨rfl, marked⟩
      exact .failed ⟨rfl, marked⟩
    · intro _ _ _ impossible
      exact impossible.elim
  · intro name handler found
    exact Bond.perform_marked handler name

theorem withRoom_marked {machine : Machine} {first second : Nat → Run σ α}
    (agree : ∀ room, Agree (.marked before) (first room) (second room)) :
    Agree (.marked before) (withRoom machine first) (withRoom machine second) where
  lockstep := by
    rintro state _ ⟨rfl, marked⟩
    exact (agree _).lockstep ⟨rfl, marked⟩
  alone impossible := impossible.elim

theorem execFrom_marked (statements : List Statement) (next : Nat) :
    Agree (.marked before) (setting.manner.execFrom statements next)
      (setting.manner.execFrom statements next) :=
  withRoom_marked fun _ => inOrder_agree
    ((marked_accord.within ⟨rfl, rfl⟩).exec .pause statements) statements next _

theorem loopFrom_marked (statements : List Statement) (index : Nat) (statement : Statement)
    (loop : LoopState) :
    Agree (.marked before)
      (withRoom setting.machine fun room =>
        setting.manner.loopWithin room statements index statement loop)
      (withRoom setting.machine fun room =>
        setting.manner.loopWithin room statements index statement loop) :=
  withRoom_marked fun _ =>
    (marked_accord.within ⟨rfl, rfl⟩).loop .pause statements index statement loop

end Manner

namespace Interpreter

open Manner

theorem execBlock_marked (setting : Setting σ) (block : Block) (state : RunState σ) :
    state.store.Marked (execBlock setting block state).2.store :=
  Bond.marked_ending ((execFrom_marked block.statements 0).lockstep ⟨rfl, .refl _⟩)

theorem resume_marked (setting : Setting σ) (pending : List Pending) (state : RunState σ) :
    state.store.Marked (resume setting pending state).2.store :=
  Bond.marked_ending ((resume_agree execFrom_marked loopFrom_marked pending).lockstep
    ⟨rfl, .refl _⟩)

end Interpreter

end EventScript
