import EventScript.Proofs.Engine.Request

/-!
What becomes of handlers that are paused when the engine is shut down. An engine that is shut down
lets them go when they come back, and stays so until scripts are loaded: any load that gets as far
as making the indices anew opens the engine again, even one that loads nothing.
-/

namespace EventScript.Engine

variable {σ : Type}

/-- The engine gives an empty report for a paused handler, and changes nothing but the log. -/
def LetsGo (engine : Engine σ) (continuation : Continuation) : Prop :=
  (engine.resume continuation).1 = .ok {} ∧
    ∃ log, (engine.resume continuation).2 = { engine with world := { engine.world with log } }

theorem count_entered (report : Report) (script : Script) (ending : Ending) :
    (report.count script ending).entered = report.entered + 1 := by
  cases ending <;> rfl

theorem resume_entered {engine : Engine σ} {continuation : Continuation} {report : Report}
    (opened : engine.closed = false) (reported : (engine.resume continuation).1 = .ok report) :
    report.entered = 1 := by
  simp only [resume, opened, Bool.false_eq_true, ↓reduceIte] at reported
  split at reported <;> cases reported <;> exact count_entered {} _ _

theorem letsGo_iff (engine : Engine σ) (continuation : Continuation) :
    engine.LetsGo continuation ↔ engine.closed = true := by
  constructor
  · rintro ⟨nothing, _⟩
    cases closed : engine.closed with
    | true => rfl
    | false =>
        have entered := resume_entered closed nothing
        cases entered
  · intro closed
    rw [LetsGo, resume, if_pos closed]
    exact ⟨rfl, _, rfl⟩

theorem serve_extension (engine : Engine σ) (request : Request) :
    (engine.serve request).extension = engine.extension := by
  rcases serve_cases engine request with ⟨_, shut⟩ | ⟨_, reloaded⟩ | ⟨_, _, same⟩
  · exact shut.extension
  · exact reloaded.extension
  · exact same.extension

theorem reopens_congr {engine other : Engine σ} (same : engine.extension = other.extension)
    (request : Request) : engine.reopens request = other.reopens request := by
  cases request with
  | loadSingle files folder name => simp only [reopens, fileName, same]
  | _ => rfl

theorem reopens_of_isShutdown (engine : Engine σ) {request : Request}
    (shuts : request.isShutdown = true) : engine.reopens request = false := by
  cases request with
  | shutdown files => rfl
  | _ => cases shuts

theorem serve_closed (engine : Engine σ) (request : Request) :
    (engine.serve request).closed = true ↔
      request.isShutdown = true ∨ engine.closed = true ∧ engine.reopens request = false := by
  rcases serve_cases engine request with ⟨shuts, shut⟩ | ⟨opens, reloaded⟩ | ⟨stays, kept, same⟩
  · simp [shut.closed, shuts]
  · have other : request.isShutdown ≠ true := by
      intro shuts
      rw [reopens_of_isShutdown engine shuts] at opens
      cases opens
    simp [reloaded.closed, opens, other]
  · simp [same.closed, stays, kept]

/-- Each of the requests that opens the engine is followed by one that shuts it down. -/
def EndsShut (engine : Engine σ) (requests : List Request) : Prop :=
  ∀ earlier request later, requests = earlier ++ request :: later →
    engine.reopens request = true → ∃ closing ∈ later, closing.isShutdown = true

theorem endsShut_congr {engine other : Engine σ} (same : engine.extension = other.extension)
    (requests : List Request) : engine.EndsShut requests ↔ other.EndsShut requests := by
  simp only [EndsShut, reopens_congr same]

theorem endsShut_cons (engine : Engine σ) (request : Request) (rest : List Request) :
    engine.EndsShut (request :: rest) ↔
      (engine.reopens request = true → ∃ closing ∈ rest, closing.isShutdown = true) ∧
        engine.EndsShut rest := by
  constructor
  · intro ends
    refine ⟨ends [] request rest rfl, fun earlier opening later split => ?_⟩
    exact ends (request :: earlier) opening later (congrArg (request :: ·) split)
  · rintro ⟨first, others⟩ earlier opening later split opens
    cases earlier with
    | nil =>
        obtain ⟨rfl, rfl⟩ := List.cons.inj split
        exact first opens
    | cons _ earlier => exact others earlier opening later (List.cons.inj split).2 opens

theorem serveAll_closed (engine : Engine σ) (requests : List Request) :
    (engine.serveAll requests).closed = true ↔
      (engine.closed = true ∨ ∃ closing ∈ requests, closing.isShutdown = true) ∧
        engine.EndsShut requests := by
  induction requests generalizing engine with
  | nil =>
      have ends : engine.EndsShut [] := fun earlier _ _ split => by cases earlier <;> cases split
      simp [serveAll, ends]
  | cons request rest ih =>
      have same := endsShut_congr (serve_extension engine request) rest
      have apart : request.isShutdown = true → engine.reopens request = false :=
        reopens_of_isShutdown engine
      rw [serveAll, List.foldl_cons, ← serveAll, ih, serve_closed, same, endsShut_cons]
      simp only [List.mem_cons, exists_eq_or_imp]
      cases opens : engine.reopens request <;> grind

/-- A paused handler that comes back after the engine was shut down is let go, with an empty report
and nothing changed but the log, exactly if each request since then that opened the engine again was
itself followed by a shutdown. -/
theorem late_resumption_dropped (engine : Engine σ) (files : Files) (requests : List Request)
    (continuation : Continuation) :
    ((engine.serve (.shutdown files)).serveAll requests).LetsGo continuation ↔
      engine.EndsShut requests := by
  have closed := (serve_closed engine (.shutdown files)).mpr (.inl rfl)
  have same := serve_extension engine (.shutdown files)
  rw [letsGo_iff, serveAll_closed, endsShut_congr same]
  exact and_iff_right (.inl closed)

/-- The handler paused before the shutdown, and yet it runs to its end after another script was
loaded. -/
theorem reload_revives_paused :
    let engine : Engine Unit := { world := { host := () } }
    let running := engine.serveAll
      [.loadSource "a.fk" "on go:\n    wait 1 tick\n    __late__ = 1\n", .dispatch "go" {} 0]
    let late := (running.serve (.shutdown {})).serveAll [.loadSource "b.fk" ""]
    (running.advance 1).1.map (fun continuation =>
      ((late.resume continuation).1.toOption.map Report.entered,
        (late.resume continuation).2.store.get "late")) = [(some 1, .ofNat 1)] := by
  decide +kernel

end EventScript.Engine
