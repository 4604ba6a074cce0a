import EventScript.Engine.Dispatch
import EventScript.Engine.Loading
import EventScript.Proofs.Dictionary

/-!
What a host asks of an engine, in any order and any number of times. Whatever the files hold when a
request reads or writes them comes with the request. Running handlers never touches the scripts, the
indices or whether the engine is shut down; only loading and shutting down do.
-/

namespace EventScript.Engine

variable {σ : Type}

inductive Request where
  | loadSource (name source : String)
  | loadSingle (files : Files) (folder name : String)
  | loadAll (files : Files) (folder : String)
  | dispatch (event : String) (occasion : Occasion) (now : Nat)
  | command (name : String) (actor : Option Actor) (words : List String)
  | resume (continuation : Continuation)
  | advance (ticks : Nat)
  | shutdown (files : Files)

def serve (engine : Engine σ) : Request → Engine σ
  | .loadSource name source => (engine.loadSource name source).2
  | .loadSingle files folder name => (engine.loadSingle files folder name).2
  | .loadAll files folder => (engine.loadAll files folder).2
  | .dispatch event occasion now => (engine.dispatch event occasion now).2
  | .command name actor words =>
    ((engine.dispatchCommand? name actor words).map (·.2)).getD engine
  | .resume continuation => (engine.resume continuation).2
  | .advance ticks => (engine.advance ticks).2
  | .shutdown files => (engine.shutdown files).2.1

def serveAll (engine : Engine σ) (requests : List Request) : Engine σ :=
  requests.foldl serve engine

structure SameLoaded (before after : Engine σ) : Prop where
  scripts : after.scripts = before.scripts
  listeners : after.listeners = before.listeners
  commands : after.commands = before.commands
  extension : after.extension = before.extension
  closed : after.closed = before.closed

namespace SameLoaded

theorem refl (engine : Engine σ) : SameLoaded engine engine := ⟨rfl, rfl, rfl, rfl, rfl⟩

theorem trans {first second third : Engine σ} (earlier : SameLoaded first second)
    (later : SameLoaded second third) : SameLoaded first third where
  scripts := later.scripts.trans earlier.scripts
  listeners := later.listeners.trans earlier.listeners
  commands := later.commands.trans earlier.commands
  extension := later.extension.trans earlier.extension
  closed := later.closed.trans earlier.closed

end SameLoaded

theorem report_sameLoaded (engine : Engine σ) (level : Level) (message : String) :
    SameLoaded engine (engine.report level message) := ⟨rfl, rfl, rfl, rfl, rfl⟩

theorem reportAll_sameLoaded (engine : Engine σ) (entries : List LogEntry) :
    SameLoaded engine (engine.reportAll entries) := by
  induction entries generalizing engine with
  | nil => exact .refl engine
  | cons entry rest ih => exact (report_sameLoaded engine entry.level entry.message).trans (ih _)

theorem suspend_sameLoaded (engine : Engine σ) (continuation : Continuation) :
    SameLoaded engine (engine.suspend continuation) := by
  have told := reportAll_sameLoaded (engine.report .trace ("[" ++ continuation.script.name ++
    "] waiting " ++ Nat.repr continuation.delay ++ " tick(s)"))
    (engine.scheduler.accept continuation).1
  exact ⟨told.scripts, told.listeners, told.commands, told.extension, told.closed⟩

theorem start_sameLoaded (engine : Engine σ) (script : Script) (body : Block)
    (occasion : Occasion) : SameLoaded engine (engine.start script body occasion).2 := by
  simp only [start]
  generalize ran : runIn _ (occasion.prepare _) _ = outcome
  have kept : SameLoaded engine outcome.2.2 := by
    rw [← ran]
    exact ⟨rfl, rfl, rfl, rfl, rfl⟩
  obtain ⟨result, frame, after⟩ := outcome
  cases result with
  | error stop =>
      cases stop with
      | failed error => exact kept.trans ⟨rfl, rfl, rfl, rfl, rfl⟩
      | lost loss => exact kept
  | ok flow =>
      cases flow with
      | completed => exact kept.trans ⟨rfl, rfl, rfl, rfl, rfl⟩
      | suspended delay pending =>
          refine SameLoaded.trans ?_ (suspend_sameLoaded _ _)
          exact kept.trans ⟨rfl, rfl, rfl, rfl, rfl⟩

/-- A relation that nothing breaks which is done when handlers are run from their beginning. -/
structure Carried (relation : Engine σ → Engine σ → Prop) : Prop where
  trans {first second third : Engine σ} :
    relation first second → relation second third → relation first third
  start (engine : Engine σ) (script : Script) (body : Block) (occasion : Occasion) :
    relation engine (engine.start script body occasion).2
  aside (engine : Engine σ) (throttle : Event.Throttle) (world : World σ) :
    relation engine { engine with throttle, world }

namespace Carried

variable {relation : Engine σ → Engine σ → Prop} (carried : Carried relation)

include carried

theorem startAll (occasion : Occasion) (listeners : List Listener) (report : Report)
    (engine : Engine σ) : relation engine (Engine.startAll occasion listeners report engine).2 := by
  induction listeners generalizing report engine with
  | nil => exact carried.aside engine engine.throttle engine.world
  | cons listener rest ih =>
      have started := carried.start engine listener.script listener.body occasion
      rw [Engine.startAll]
      generalize engine.start listener.script listener.body occasion = outcome at started
      obtain ⟨ending, middle⟩ := outcome
      cases ending with
      | ok ending => exact carried.trans started (ih _ _)
      | error loss => exact started

theorem dispatch (engine : Engine σ) (event : String) (occasion : Occasion) (now : Nat) :
    relation engine (engine.dispatch event occasion now).2 := by
  simp only [Engine.dispatch]
  cases occasion.actor with
  | none => exact carried.startAll occasion _ _ engine
  | some actor =>
      simp only
      split
      · exact carried.aside engine _ _
      · exact carried.trans (carried.aside engine _ engine.world) (carried.startAll _ _ _ _)

theorem dispatchCommand (engine : Engine σ) (name : String) (actor : Option Actor)
    (words : List String) :
    relation engine (((engine.dispatchCommand? name actor words).map (·.2)).getD engine) := by
  unfold dispatchCommand?
  cases engine.command? name with
  | none => exact carried.aside engine engine.throttle engine.world
  | some entry =>
      simp only [Option.map_some, Option.getD_some]
      exact carried.trans (carried.aside engine engine.throttle _) (carried.start _ _ _ _)

end Carried

theorem carried_sameLoaded : Carried (@SameLoaded σ) where
  trans := SameLoaded.trans
  start := start_sameLoaded
  aside _ _ _ := ⟨rfl, rfl, rfl, rfl, rfl⟩

theorem resume_sameLoaded (engine : Engine σ) (continuation : Continuation) :
    SameLoaded engine (engine.resume continuation).2 := by
  simp only [resume]
  split
  · exact ⟨rfl, rfl, rfl, rfl, rfl⟩
  · generalize ran : engine.runIn continuation.frame _ = outcome
    have kept : SameLoaded engine outcome.2.2 := by
      rw [← ran]
      exact ⟨rfl, rfl, rfl, rfl, rfl⟩
    obtain ⟨result, frame, after⟩ := outcome
    cases result with
    | error stop =>
        cases stop with
        | failed error => exact kept.trans ⟨rfl, rfl, rfl, rfl, rfl⟩
        | lost loss => exact kept
    | ok flow =>
        cases flow with
        | completed => exact kept
        | suspended delay pending => exact kept.trans (suspend_sameLoaded _ _)

structure Compiled (scripts : Dictionary Script) : Prop where
  fromSource : ∀ entry ∈ scripts.entries, ∃ source, Script.compile entry.1 source = .ok entry.2

theorem compiled_empty : Compiled {} := ⟨nofun⟩

theorem Compiled.put {scripts : Dictionary Script} (compiled : Compiled scripts)
    {name source : String} {script : Script} (reads : Script.compile name source = .ok script) :
    Compiled (scripts.put name script) where
  fromSource entry member := by
    rcases Dictionary.mem_putIn member with rfl | earlier
    · exact ⟨source, reads⟩
    · exact compiled.fromSource entry earlier

structure Installed (before after : Engine σ) : Prop where
  scripts : Compiled before.scripts → Compiled after.scripts
  listeners : after.listeners = before.listeners
  commands : after.commands = before.commands
  extension : after.extension = before.extension

theorem Installed.trans {first second third : Engine σ} (earlier : Installed first second)
    (later : Installed second third) : Installed first third where
  scripts := later.scripts ∘ earlier.scripts
  listeners := later.listeners.trans earlier.listeners
  commands := later.commands.trans earlier.commands
  extension := later.extension.trans earlier.extension

theorem SameLoaded.installed {before after : Engine σ} (same : SameLoaded before after) :
    Installed before after where
  scripts compiled := same.scripts ▸ compiled
  listeners := same.listeners
  commands := same.commands
  extension := same.extension

theorem install_installed (engine : Engine σ) (name source : String) :
    Installed engine (engine.install name source).2 := by
  unfold install
  split
  · exact (SameLoaded.refl engine).installed
  · rename_i script reads
    split <;> exact ⟨fun compiled => compiled.put reads, rfl, rfl, rfl⟩

theorem installFile_installed (engine : Engine σ) (files : Files) (path : String) :
    Installed engine (engine.installFile files path).2 := by
  unfold installFile
  split
  · exact (SameLoaded.refl engine).installed
  · exact (SameLoaded.refl engine).installed
  · exact install_installed engine _ _

theorem installAll_installed (files : Files) (paths : List String) (engine : Engine σ) :
    Installed engine (installAll files paths engine).2 := by
  induction paths generalizing engine with
  | nil => exact (SameLoaded.refl engine).installed
  | cons path paths ih => exact (installFile_installed engine files path).trans (ih _)

theorem warnUnlessOk_sameLoaded (engine : Engine σ) (result : LoadResult) :
    SameLoaded engine (engine.warnUnlessOk result) := by
  unfold warnUnlessOk
  split
  · exact .refl engine
  · exact report_sameLoaded engine _ _

theorem reportResults_sameLoaded (results : List LoadResult) (engine : Engine σ) :
    SameLoaded engine (results.foldl (fun engine result =>
      if result.isOk then engine.report .debug ("loaded " ++ result.file)
      else engine.report .warn result.text) engine) := by
  induction results generalizing engine with
  | nil => exact .refl engine
  | cons result rest ih =>
      refine SameLoaded.trans ?_ (ih _)
      dsimp only
      split <;> exact report_sameLoaded engine _ _

structure Indexed (engine : Engine σ) : Prop where
  listeners : engine.listeners = engine.orderedScripts.foldl indexListeners {}
  commands : engine.commands = engine.orderedScripts.foldl indexCommands {}

theorem SameLoaded.indexed {before after : Engine σ} (same : SameLoaded before after)
    (indexed : Indexed before) : Indexed after := by
  have ordered : after.orderedScripts = before.orderedScripts := by
    rw [orderedScripts, same.scripts, orderedScripts]
  constructor
  · rw [same.listeners, ordered, indexed.listeners]
  · rw [same.commands, ordered, indexed.commands]

theorem rebuild_indexed (engine : Engine σ) : Indexed engine.rebuild := ⟨rfl, rfl⟩

structure Reloaded (before after : Engine σ) : Prop where
  scripts : Compiled before.scripts → Compiled after.scripts
  indexed : Indexed after
  extension : after.extension = before.extension
  closed : after.closed = false

theorem Installed.rebuild {before after : Engine σ} (installed : Installed before after) :
    Reloaded before after.rebuild where
  scripts := installed.scripts
  indexed := rebuild_indexed after
  extension := installed.extension
  closed := rfl

theorem loadSource_reloaded (engine : Engine σ) (name source : String) :
    Reloaded engine (engine.loadSource name source).2 :=
  ((install_installed engine name source).trans
    (warnUnlessOk_sameLoaded _ _).installed).rebuild

/-- Whether a request makes the indices anew, and so opens an engine that was shut down. -/
def reopens (engine : Engine σ) : Request → Bool
  | .loadSource .. => true
  | .loadSingle files folder name => files.isFile (Path.join folder (engine.fileName name))
  | .loadAll files folder => (files.list folder).isOk
  | _ => false

theorem loadSingle_reloaded (engine : Engine σ) {files : Files} {folder name : String}
    (found : files.isFile (Path.join folder (engine.fileName name)) = true) :
    Reloaded engine (engine.loadSingle files folder name).2 := by
  rw [loadSingle, if_pos found]
  exact ((installFile_installed engine files _).trans
    (warnUnlessOk_sameLoaded _ _).installed).rebuild

theorem loadSingle_missing (engine : Engine σ) {files : Files} {folder name : String}
    (missing : files.isFile (Path.join folder (engine.fileName name)) = false) :
    (engine.loadSingle files folder name).2 = engine := by
  rw [loadSingle, if_neg (Bool.eq_false_iff.mp missing)]

theorem loadAll_reloaded (engine : Engine σ) {files : Files} {folder : String}
    {names : List String} (listed : files.list folder = .ok names) :
    Reloaded engine (engine.loadAll files folder).2 := by
  simp only [loadAll, listed]
  have cleared : Installed engine { engine with scripts := {} } :=
    ⟨fun _ => compiled_empty, rfl, rfl, rfl⟩
  generalize engine.scriptFiles files folder names = paths
  have installed := cleared.trans (installAll_installed files paths _)
  generalize installAll files paths { engine with scripts := {} } = outcome at installed ⊢
  obtain ⟨results, after⟩ := outcome
  have rebuilt := (installed.trans (reportResults_sameLoaded results after).installed).rebuild
  exact ⟨rebuilt.scripts, (report_sameLoaded _ _ _).indexed rebuilt.indexed, rebuilt.extension, rfl⟩

theorem loadAll_unreadable (engine : Engine σ) {files : Files} {folder : String}
    {cause : FileError} (refused : files.list folder = .error cause) :
    SameLoaded engine (engine.loadAll files folder).2 := by
  simp only [loadAll, refused]
  exact report_sameLoaded engine _ _

structure ShutDown (before after : Engine σ) : Prop where
  scripts : after.scripts = {}
  listeners : after.listeners = {}
  commands : after.commands = {}
  extension : after.extension = before.extension
  closed : after.closed = true

theorem shutdown_shutDown (engine : Engine σ) (files : Files) :
    ShutDown engine (engine.shutdown files).2.1 := by
  simp only [shutdown]
  generalize engine.store.forceSave files engine.world.heap = outcome
  obtain ⟨saving, store, files⟩ := outcome
  have told := reportAll_sameLoaded { engine with
    store, scripts := {}, listeners := {}, commands := {}, throttle := .clear, closed := true }
    saving.entries
  exact ⟨told.scripts, told.listeners, told.commands, told.extension, told.closed⟩

def Request.isShutdown : Request → Bool
  | .shutdown _ => true
  | _ => false

/-- All that one request can do to what is loaded. -/
theorem serve_cases (engine : Engine σ) (request : Request) :
    (request.isShutdown = true ∧ ShutDown engine (engine.serve request)) ∨
    (engine.reopens request = true ∧ Reloaded engine (engine.serve request)) ∨
    (request.isShutdown = false ∧ engine.reopens request = false ∧
      SameLoaded engine (engine.serve request)) := by
  cases request with
  | loadSource name source => exact .inr (.inl ⟨rfl, loadSource_reloaded engine name source⟩)
  | loadSingle files folder name =>
      cases found : files.isFile (Path.join folder (engine.fileName name)) with
      | true => exact .inr (.inl ⟨found, loadSingle_reloaded engine found⟩)
      | false =>
          have same : SameLoaded engine (engine.loadSingle files folder name).2 := by
            rw [loadSingle_missing engine found]
            exact .refl engine
          exact .inr (.inr ⟨rfl, found, same⟩)
  | loadAll files folder =>
      cases listed : files.list folder with
      | ok names =>
          exact .inr (.inl ⟨by rw [reopens, listed]; rfl, loadAll_reloaded engine listed⟩)
      | error cause =>
          exact .inr (.inr ⟨rfl, by rw [reopens, listed]; rfl, loadAll_unreadable engine listed⟩)
  | dispatch event occasion now =>
      exact .inr (.inr ⟨rfl, rfl, carried_sameLoaded.dispatch engine event occasion now⟩)
  | command name actor words =>
      exact .inr (.inr ⟨rfl, rfl, carried_sameLoaded.dispatchCommand engine name actor words⟩)
  | resume continuation =>
      exact .inr (.inr ⟨rfl, rfl, resume_sameLoaded engine continuation⟩)
  | advance ticks =>
      refine .inr (.inr ⟨rfl, rfl, ?_⟩)
      simp only [serve, advance]
      split <;> exact ⟨rfl, rfl, rfl, rfl, rfl⟩
  | shutdown files => exact .inl ⟨rfl, shutdown_shutDown engine files⟩

end EventScript.Engine
