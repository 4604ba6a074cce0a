import Mathlib.Data.List.Induction
import EventScript.Proofs.Engine.Request
import EventScript.Proofs.Interpreter.StoreWrites
import EventScript.Proofs.Store.Contents

/-!
A store with a data file while scripts run and the host works on the store, in any order. Whenever
the store is not marked as changed, its entries are those of the last moment at which the store and
the file were made the same, and loading the file gives what the entries held at that moment. What a
script has done since then to a container that is stored does not mark the store.
-/

namespace EventScript

namespace Engine

variable {σ : Type}

theorem report_store (engine : Engine σ) (level : Level) (message : String) :
    (engine.report level message).store = engine.store := rfl

theorem reportAll_store (engine : Engine σ) (entries : List LogEntry) :
    (engine.reportAll entries).store = engine.store := by
  induction entries generalizing engine with
  | nil => rfl
  | cons entry rest ih => exact ih (engine.report entry.level entry.message)

theorem suspend_store (engine : Engine σ) (continuation : Continuation) :
    (engine.suspend continuation).store = engine.store :=
  reportAll_store _ _

theorem runIn_marked (engine : Engine σ) (frame : Frame) {run : Run σ Flow}
    (marks : ∀ state : RunState σ, state.store.Marked (run state).2.store) :
    engine.store.Marked (engine.runIn frame run).2.2.store :=
  marks ⟨frame, engine.store, engine.world, []⟩

theorem start_marked (engine : Engine σ) (script : Script) (body : Block) (occasion : Occasion) :
    engine.store.Marked (engine.start script body occasion).2.store := by
  have marked := runIn_marked
    { engine with pool := (engine.pool.acquire engine.limits.operations).2 }
    (occasion.prepare (engine.pool.acquire engine.limits.operations).1)
    (Interpreter.execBlock_marked (engine.settingOf script) body)
  simp only [start]
  generalize runIn _ (occasion.prepare _) _ = outcome at marked ⊢
  obtain ⟨result, frame, after⟩ := outcome
  cases result with
  | error stop => cases stop <;> exact marked
  | ok flow =>
      cases flow with
      | completed => exact marked
      | suspended delay pending =>
          simp only [suspend_store]
          exact marked

theorem carried_marked :
    Carried fun engine after : Engine σ => engine.store.Marked after.store where
  trans := Store.Marked.trans
  start := start_marked
  aside engine _ _ := .refl engine.store

theorem resume_marked (engine : Engine σ) (continuation : Continuation) :
    engine.store.Marked (engine.resume continuation).2.store := by
  simp only [resume]
  split
  · exact .refl engine.store
  · have marked := runIn_marked engine continuation.frame
      (Interpreter.resume_marked (engine.settingOf continuation.script) continuation.pending)
    generalize engine.runIn continuation.frame _ = outcome at marked ⊢
    obtain ⟨result, frame, after⟩ := outcome
    cases result with
    | error stop => cases stop <;> exact marked
    | ok flow =>
        cases flow with
        | completed => exact marked
        | suspended delay pending =>
            simp only [suspend_store]
            exact marked

end Engine

structure Session (σ : Type) where
  engine : Engine σ
  files : Files

namespace Session

variable {σ : Type}

inductive Operation where
  | get (key : String)
  | set (key : String) (value : Value)
  | increment (key : String) (amount : Double)
  | delete (key : String)
  | reset
  | load
  | save
  | forceSave
  | dispatch (event : String) (occasion : Occasion) (now : Nat)
  | command (name : String) (actor : Option Actor) (words : List String)
  | resume (continuation : Continuation)

def store (session : Session σ) : Store := session.engine.store

def heap (session : Session σ) : Heap := session.engine.world.heap

def withStore (session : Session σ) (store : Store) : Session σ :=
  { session with engine := { session.engine with store } }

def afterLoading (session : Session σ) : Store.Loading × Store × Heap → Session σ
  | (_, store, heap) =>
    { session with
      engine := { session.engine with store, world := { session.engine.world with heap } } }

def afterSaving? (session : Session σ) : Store.Saving × Store × Files → Option (Session σ)
  | (.endless, _, _) => none
  | (_, store, files) => some { session.withStore store with files }

def step? (session : Session σ) : Operation → Option (Session σ)
  | .get _ => some session
  | .set key value => some (session.withStore (session.store.set key value))
  | .increment key amount => some (session.withStore (session.store.increment key amount).2)
  | .delete key => some (session.withStore (session.store.delete key))
  | .reset => some (session.withStore session.store.reset)
  | .load => some (session.afterLoading (session.store.load session.files session.heap))
  | .save => session.afterSaving? (session.store.save session.files session.heap)
  | .forceSave => session.afterSaving? (session.store.forceSave session.files session.heap)
  | .dispatch event occasion now =>
    some { session with engine := (session.engine.dispatch event occasion now).2 }
  | .command name actor words =>
    let engine := ((session.engine.dispatchCommand? name actor words).map (·.2)).getD session.engine
    some { session with engine }
  | .resume continuation =>
    some { session with engine := (session.engine.resume continuation).2 }

def run? (session : Session σ) (operations : List Operation) : Option (Session σ) :=
  operations.foldlM step? session

/-- The session that begins with opening the store; none if the file is refused. -/
def open? (engine : Engine σ) (path : String) (files : Files) : Option (Session σ) :=
  match Store.openAt path files engine.world.heap with
  | (.failed _, _, _) => none
  | opened => some (afterLoading ⟨engine, files⟩ opened)

def contents (session : Session σ) : Option Document := session.store.document? session.heap

/-- What the store would hold if it were opened from its file now. -/
def reloaded (session : Session σ) : Option Document :=
  session.store.path.bind fun path =>
    let (loading, opened, heap) := Store.openAt path session.files session.heap
    if loading.outcome.isOk then opened.document? heap else none

/-- The store and its file say the same: what the store holds has a document, and loading gives that
document if it reads back as itself. -/
def Synced (session : Session σ) (path : String) : Prop :=
  ∃ document, session.contents = some document ∧
    (Document.read? document.indented = some document → Store.Reloads path session.files document)

/-- What a step does to a store with a file: it leaves the store and the file alone, marks the
store, or makes the two say the same. -/
structure Stepped (session after : Session σ) (path : String) : Prop where
  backed : after.store.path = some path
  refusal : after.files.refusal = session.files.refusal
  effect : (after.store = session.store ∧ after.files = session.files) ∨
    after.store.dirty = true ∨ after.Synced path

theorem stepped_of_marked {session after : Session σ} {path : String}
    (backed : session.store.path = some path) (marked : session.store.Marked after.store)
    (files : after.files = session.files) : Stepped session after path where
  backed := marked.path.trans backed
  refusal := congrArg Files.refusal files
  effect := marked.marked.elim (fun same => .inl ⟨same, files⟩) fun dirty => .inr (.inl dirty)

theorem load_stepped {session : Session σ} {path : String}
    (backed : session.store.path = some path) :
    Stepped session (session.afterLoading (session.store.load session.files session.heap))
      path := by
  simp only [Store.load, backed]
  cases there : session.files.has path with
  | false => exact ⟨backed, rfl, .inl ⟨rfl, rfl⟩⟩
  | true =>
      cases read : Store.readDocument session.files path with
      | error error => exact ⟨backed, rfl, .inl ⟨rfl, rfl⟩⟩
      | ok document =>
          refine ⟨rfl, rfl, .inr (.inr ⟨Store.restored document, ?_, fun _ => ?_⟩)⟩
          · exact Store.document?_entriesOf document session.heap _ rfl
          · exact Store.reloads_of_readDocument there read

theorem forceSave_stepped {session after : Session σ} {path : String}
    (backed : session.store.path = some path)
    (readable : session.files.refusal (.read path) = none)
    (saved : session.afterSaving? (session.store.forceSave session.files session.heap) =
      some after) :
    Stepped session after path := by
  have same : session.store = { session.store with path := some path } := by rw [← backed]
  rcases Store.forceSave_cases session.store path session.files session.heap with
    ⟨_, ends⟩ | ⟨document, there, ⟨files, written, ends⟩ | ⟨cause, files, refused, ends⟩⟩
  · rw [same, ends] at saved
    exact nomatch saved
  · rw [same, ends] at saved
    cases saved
    refine ⟨rfl, Store.refusal_written written, .inr (.inr ⟨document, there, fun exact => ?_⟩)⟩
    exact Store.reloads_saved there written readable exact
  · rw [same, ends] at saved
    cases saved
    exact ⟨rfl, Store.refusal_written refused, .inr (.inl rfl)⟩

theorem step_stepped {session after : Session σ} {path : String}
    (backed : session.store.path = some path)
    (readable : session.files.refusal (.read path) = none) {operation : Operation}
    (stepped : session.step? operation = some after) : Stepped session after path := by
  cases operation with
  | get key =>
      cases stepped
      exact stepped_of_marked backed (.refl _) rfl
  | set key value =>
      cases stepped
      exact stepped_of_marked backed (session.store.set_marked key value) rfl
  | increment key amount =>
      cases stepped
      exact stepped_of_marked backed (session.store.increment_marked key amount) rfl
  | delete key =>
      cases stepped
      exact stepped_of_marked backed (session.store.delete_marked key) rfl
  | reset =>
      cases stepped
      exact stepped_of_marked backed session.store.reset_marked rfl
  | load =>
      cases stepped
      exact load_stepped backed
  | save =>
      simp only [step?, Store.save] at stepped
      split at stepped
      · exact forceSave_stepped backed readable stepped
      · cases stepped
        exact stepped_of_marked backed (.refl _) rfl
  | forceSave => exact forceSave_stepped backed readable stepped
  | dispatch event occasion now =>
      cases stepped
      have marked := Engine.carried_marked.dispatch session.engine event occasion now
      exact stepped_of_marked backed marked rfl
  | command name actor words =>
      cases stepped
      have marked := Engine.carried_marked.dispatchCommand session.engine name actor words
      exact stepped_of_marked backed marked rfl
  | resume continuation =>
      cases stepped
      exact stepped_of_marked backed (session.engine.resume_marked continuation) rfl

theorem open?_synced {engine : Engine σ} {path : String} {files : Files} {session : Session σ}
    (opened : open? engine path files = some session) :
    session.store.path = some path ∧ session.files = files ∧ session.Synced path := by
  simp only [open?, Store.openAt, Store.load] at opened
  cases there : files.has path with
  | false =>
      simp only [there, Bool.false_eq_true, if_false] at opened
      cases opened
      refine ⟨rfl, rfl, .object [], Store.document?_empty rfl _, fun _ => ?_⟩
      exact Store.reloads_of_missing there
  | true =>
      simp only [there, if_true] at opened
      cases read : Store.readDocument files path with
      | error error =>
          simp only [read] at opened
          cases opened
      | ok document =>
          simp only [read] at opened
          cases opened
          refine ⟨rfl, rfl, Store.restored document, ?_, fun _ => ?_⟩
          · exact Store.document?_entriesOf document engine.world.heap _ rfl
          · exact Store.reloads_of_readDocument there read

structure History (start now : Session σ) (path : String) (operations : List Operation) : Prop where
  backed : now.store.path = some path
  refusal : now.files.refusal = start.files.refusal
  clean : now.store.dirty = false → ∃ earlier later past, operations = earlier ++ later ∧
    start.run? earlier = some past ∧ now.store.entries = past.store.entries ∧
    now.files = past.files ∧ past.Synced path

theorem run?_append (session : Session σ) (operations : List Operation) (operation : Operation) :
    session.run? (operations ++ [operation]) =
      (session.run? operations).bind fun middle => middle.step? operation := by
  simp [run?, List.foldlM_append]

theorem run?_history {start : Session σ} {path : String} (backed : start.store.path = some path)
    (readable : start.files.refusal (.read path) = none) (synced : start.Synced path)
    (operations : List Operation) {now : Session σ} (reached : start.run? operations = some now) :
    History start now path operations := by
  -- The induction is from the end, as the last step decides which moment counts: an earlier one
  -- if it leaves store and file alone, or the end itself if it makes the two say the same.
  induction operations using List.reverseRecOn generalizing now with
  | nil =>
      cases reached
      exact ⟨backed, rfl, fun _ => ⟨[], [], start, rfl, rfl, rfl, rfl, synced⟩⟩
  | append_singleton operations operation ih =>
      have whole := reached
      rw [run?_append] at reached
      obtain ⟨middle, before, stepped⟩ := Option.bind_eq_some_iff.mp reached
      have history := ih before
      have step := step_stepped history.backed (history.refusal ▸ readable) stepped
      refine ⟨step.backed, step.refusal.trans history.refusal, fun clean => ?_⟩
      rcases step.effect with ⟨sameStore, sameFiles⟩ | dirty | synced
      · rw [sameStore] at clean
        obtain ⟨earlier, later, past, split, ran, entries, files, held⟩ := history.clean clean
        refine ⟨earlier, later ++ [operation], past, ?_, ran, ?_, sameFiles.trans files, held⟩
        · rw [split, List.append_assoc]
        · rw [sameStore, entries]
      · rw [dirty] at clean
        exact nomatch clean
      · exact ⟨operations ++ [operation], [], now,
          (List.append_nil _).symm, whole, rfl, rfl, synced⟩

theorem reloaded_eq {session : Session σ} {path : String} {document : Document}
    (backed : session.store.path = some path)
    (reloads : Store.Reloads path session.files document) : session.reloaded = some document := by
  obtain ⟨accepted, held⟩ := reloads session.heap
  simp only [reloaded, backed, Option.bind_some, accepted, held]
  rfl

/-- Whenever the store is not marked as changed, there was a moment since which no entry was set,
incremented, deleted or reset. What the entries held at that moment is what loading the file gives
now, provided that its document reads back as itself. It is what the store holds now as well, unless
a stored container was changed in place since then. -/
theorem clean_since_saved {engine : Engine σ} {path : String} {files : Files}
    (readable : files.refusal (.read path) = none) (operations : List Operation) {now : Session σ}
    (reached : ((open? engine path files).bind fun start => start.run? operations) = some now)
    (clean : now.store.dirty = false) :
    ∃ earlier later past document, operations = earlier ++ later ∧
      ((open? engine path files).bind fun start => start.run? earlier) = some past ∧
      now.store.entries = past.store.entries ∧ past.contents = some document ∧
      (Document.read? document.indented = some document →
        now.reloaded = some document ∧
          (now.contents = past.contents → now.reloaded = now.contents)) := by
  obtain ⟨start, opened, ran⟩ := Option.bind_eq_some_iff.mp reached
  obtain ⟨backed, sameFiles, synced⟩ := open?_synced opened
  have history := run?_history backed (sameFiles ▸ readable) synced operations ran
  obtain ⟨earlier, later, past, split, before, entries, files, document, held, reloads⟩ :=
    history.clean clean
  refine ⟨earlier, later, past, document, split, ?_, entries, held, fun exact => ?_⟩
  · rw [opened]
    exact before
  · have loaded := reloaded_eq history.backed (files ▸ reloads exact)
    exact ⟨loaded, fun same => by rw [loaded, same, held]⟩

def growingScript : String :=
  "on start:\n    __list__ = [1]\non grow:\n    push(__list__, 2)\n"

def afterGrowing? (operations : List Operation) : Option (Session Unit) :=
  (open? (({ world := { host := () } } : Engine Unit).serveAll
    [.loadSource "a.fk" growingScript]) "d.json" {}).bind fun start => start.run? operations

theorem afterGrowing?_saved :
    (afterGrowing? [.dispatch "start" {} 0, .save]).map (·.store.dirty) = some false := by
  decide +kernel

theorem growing_clean_since_saved :
    ∃ now, afterGrowing? [.dispatch "start" {} 0, .save] = some now ∧ now.store.dirty = false ∧
      ∃ earlier later past document, [.dispatch "start" {} 0, .save] = earlier ++ later ∧
        afterGrowing? earlier = some past ∧ now.store.entries = past.store.entries ∧
        past.contents = some document ∧
        (Document.read? document.indented = some document → now.reloaded = some document ∧
          (now.contents = past.contents → now.reloaded = now.contents)) := by
  obtain ⟨now, reached, clean⟩ := Option.map_eq_some_iff.mp afterGrowing?_saved
  exact ⟨now, reached, clean, clean_since_saved rfl _ reached clean⟩

/-- The pushed item is neither seen by the mark nor by the next save, and a number is not read back
exactly. -/
theorem changes_unsaved :
    (afterGrowing? [.dispatch "start" {} 0, .save, .dispatch "grow" {} 0, .save]).map
        (fun now => (now.store.dirty, now.contents.map Document.compact,
          now.reloaded.map Document.compact)) =
      some (false, some "\x7b\"list\":[1.0,2.0]\x7d", some "\x7b\"list\":[1.0]\x7d") ∧
    (afterGrowing? [.set "n" (.number 935792.6558382951), .save]).map
        (fun now => (now.store.dirty, now.contents.map Document.compact,
          now.reloaded.map Document.compact)) =
      some (false, some "\x7b\"n\":935792.6558382951\x7d",
        some "\x7b\"n\":935792.6558382952\x7d") := by
  decide +kernel

end Session

end EventScript
