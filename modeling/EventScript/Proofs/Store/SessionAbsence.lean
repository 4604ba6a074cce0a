import EventScript.Proofs.Store.Absence
import EventScript.Proofs.Store.Session

/-!
The keys of a store that are there without a value, while the host works on the store. They come
from the data file alone: a key has no value if a reading of the file gave null for it, at the
beginning or later, and nothing was done to the key since then.
-/

namespace EventScript

namespace Session

variable {σ : Type} {start session now : Session σ} {key : String}

def Operation.onStore : Operation → Bool
  | .dispatch .. | .command .. | .resume _ => false
  | _ => true

def Begun (session : Session σ) : Prop :=
  session.store = {} ∨ ∃ engine path files, open? engine path files = some session

def LoadsNull (session : Session σ) (key : String) : Prop :=
  ∃ path, session.store.path = some path ∧ Store.GivesNull session.files path key

def Leaves (session : Session σ) (key : String) : Operation → Prop
  | .set other _ | .increment other _ | .delete other => other ≠ key
  | .reset => False
  | .load => ∀ count, (session.store.load session.files session.heap).1 ≠ .loaded count
  | _ => True

def Spares (key : String) : Session σ → List Operation → Prop
  | _, [] => True
  | session, operation :: rest =>
    session.Leaves key operation ∧
      ∀ after, session.step? operation = some after → after.Spares key rest

/-- One of the operations loaded null for the key, and those after it did nothing to the key. -/
def NullSinceLoad (start : Session σ) (operations : List Operation) (key : String) : Prop :=
  ∃ earlier later past, operations = earlier ++ .load :: later ∧
    start.run? (earlier ++ [.load]) = some past ∧ past.LoadsNull key ∧ past.Spares key later

/-- The key was null in the data file when the store was read from it, at the beginning or later,
and nothing was done to it since then. -/
def NullSinceRead (start : Session σ) (operations : List Operation) (key : String) : Prop :=
  (start.LoadsNull key ∧ start.Spares key operations) ∨ start.NullSinceLoad operations key

section Steps

variable {after : Session σ} {operation : Operation}

@[simp]
theorem withStore_store (session : Session σ) (store : Store) :
    (session.withStore store).store = store := rfl

theorem afterSaving?_eq_some {outcome : Store.Saving × Store × Files}
    (saved : session.afterSaving? outcome = some after) :
    after = { session.withStore outcome.2.1 with files := outcome.2.2 } := by
  obtain ⟨saving, store, files⟩ := outcome
  cases saving with
  | endless => cases saved
  | _ => exact (Option.some.inj saved).symm

theorem afterSaving?_entries {outcome : Store.Saving × Store × Files}
    (saved : session.afterSaving? outcome = some after)
    (kept : outcome.2.1.entries = session.store.entries) :
    after.store.entries = session.store.entries := by
  rw [afterSaving?_eq_some saved]
  exact kept

theorem save_entries (store : Store) (files : Files) (heap : Heap) :
    (store.save files heap).2.1.entries = store.entries := by
  unfold Store.save
  split
  · exact (store.forceSave_kept files heap).1
  · rfl

theorem loadsNull_iff {path : String} (backed : session.store.path = some path) :
    session.LoadsNull key ↔ Store.GivesNull session.files path key := by
  simp [LoadsNull, backed]

theorem load_hollow :
    (session.afterLoading (session.store.load session.files session.heap)).store.Hollow key ↔
      (session.afterLoading (session.store.load session.files session.heap)).LoadsNull key ∨
        session.Leaves key .load ∧ session.store.Hollow key := by
  rcases session.store.load_cases session.files session.heap with
    ⟨unread, same, givesNone⟩ | ⟨path, document, backed, read, loaded⟩
  · have none : ¬(session.afterLoading
        (session.store.load session.files session.heap)).LoadsNull key := by
      rintro ⟨path, backed, gives⟩
      exact givesNone path key (same ▸ backed) gives
    have kept : (session.afterLoading
        (session.store.load session.files session.heap)).store = session.store := same
    rw [kept]
    simp [none, Leaves, unread]
  · have touched : ¬session.Leaves key .load := fun leaves => leaves _ (by rw [loaded])
    have filled : Store.Hollow { session.store with
        entries := (Store.entriesOf document session.heap).1, dirty := false } key ↔
          Store.GivesNull session.files path key := Store.hollow_loaded read rfl
    rw [loaded]
    simp only [touched, false_and, or_false]
    exact filled.trans (loadsNull_iff backed).symm

theorem step_hollow (onStore : operation.onStore = true)
    (stepped : session.step? operation = some after) :
    after.store.Hollow key ↔ (operation = .load ∧ after.LoadsNull key) ∨
      session.Leaves key operation ∧ session.store.Hollow key := by
  cases operation with
  | get other =>
      cases stepped
      simp [Leaves]
  | set other value =>
      cases stepped
      simpa [Leaves] using Store.hollow_set value
  | increment other amount =>
      cases stepped
      simpa [Leaves] using Store.hollow_increment amount
  | delete other =>
      cases stepped
      simpa [Leaves] using Store.hollow_delete
  | reset =>
      cases stepped
      simpa [Leaves] using Store.not_hollow_reset
  | load =>
      cases stepped
      simpa using load_hollow
  | save =>
      have kept := afterSaving?_entries stepped (save_entries _ _ _)
      simpa [Leaves] using Store.hollow_congr kept key
  | forceSave =>
      have kept := afterSaving?_entries stepped (session.store.forceSave_kept _ _).1
      simpa [Leaves] using Store.hollow_congr kept key
  | dispatch | command | resume => cases onStore

end Steps

section Runs

theorem run?_cons (session : Session σ) (operation : Operation) (rest : List Operation) :
    session.run? (operation :: rest) =
      (session.step? operation).bind fun after => after.run? rest := rfl

theorem spares_cons {after : Session σ} {operation : Operation}
    (stepped : start.step? operation = some after) (rest : List Operation) :
    start.Spares key (operation :: rest) ↔ start.Leaves key operation ∧ after.Spares key rest := by
  simp [Spares, stepped]

theorem nullSinceLoad_cons {after : Session σ} {operation : Operation}
    (stepped : start.step? operation = some after) (rest : List Operation) :
    start.NullSinceLoad (operation :: rest) key ↔
      (operation = .load ∧ after.LoadsNull key ∧ after.Spares key rest) ∨
        after.NullSinceLoad rest key := by
  have goesOn (operations : List Operation) :
      start.run? (operation :: operations) = after.run? operations := by
    rw [run?_cons, stepped]
    rfl
  constructor
  · rintro ⟨earlier, later, past, split, reached, null, spared⟩
    cases earlier with
    | nil =>
        obtain ⟨rfl, rfl⟩ := List.cons.inj split
        obtain rfl : after = past := Option.some.inj ((goesOn []).symm.trans reached)
        exact .inl ⟨rfl, null, spared⟩
    | cons first earlier =>
        obtain ⟨rfl, rfl⟩ := List.cons.inj split
        exact .inr ⟨earlier, later, past, rfl, (goesOn _).symm.trans reached, null, spared⟩
  · rintro (⟨rfl, null, spared⟩ | ⟨earlier, later, past, rfl, reached, loaded⟩)
    · exact ⟨[], rest, after, rfl, goesOn [], null, spared⟩
    · exact ⟨operation :: earlier, later, past, rfl, (goesOn _).trans reached, loaded⟩

theorem run_hollow (operations : List Operation)
    (onStore : ∀ operation ∈ operations, operation.onStore = true)
    (reached : start.run? operations = some now) :
    now.store.Hollow key ↔ (start.store.Hollow key ∧ start.Spares key operations) ∨
      start.NullSinceLoad operations key := by
  induction operations generalizing start with
  | nil =>
      cases reached
      simp [Spares, NullSinceLoad]
  | cons operation rest ih =>
      rw [run?_cons] at reached
      obtain ⟨after, stepped, ran⟩ := Option.bind_eq_some_iff.mp reached
      rw [ih (fun later member => onStore later (List.mem_cons_of_mem _ member)) ran,
        step_hollow (onStore operation List.mem_cons_self) stepped, spares_cons stepped,
        nullSinceLoad_cons stepped]
      tauto

end Runs

section Beginning

theorem open?_eq_some {engine : Engine σ} {path : String} {files : Files}
    (opened : open? engine path files = some session) :
    session = afterLoading ⟨engine, files⟩ (Store.openAt path files engine.world.heap) := by
  unfold open? at opened
  split at opened
  · cases opened
  · exact (Option.some.inj opened).symm

theorem begun_hollow (begun : session.Begun) :
    session.store.Hollow key ↔ session.LoadsNull key := by
  rcases begun with empty | ⟨engine, path, files, opened⟩
  · rw [LoadsNull, empty, Store.hollow_iff]
    simp
  · rw [open?_eq_some opened]
    let before : Session σ := ⟨{ engine with store := { path := some path } }, files⟩
    have absent : ¬before.store.Hollow key := by
      rw [Store.hollow_iff]
      simp [before, Session.store]
    have loaded : (before.afterLoading _).store.Hollow key ↔ _ := load_hollow
    rw [or_iff_left fun both => absent both.2] at loaded
    exact loaded

end Beginning

theorem saved_cases {saved : Session σ} {path : String}
    (wrote : (session.store.forceSave session.files session.heap).1 = .saved path)
    (saving : session.step? .forceSave = some saved) :
    ∃ document, session.store.document? session.heap = some document ∧
      ∃ files, Store.writeText session.files path document.indented = (.ok (), files) ∧
        saved = { session.withStore { session.store with path := some path, dirty := false }
          with files } := by
  have whole := afterSaving?_eq_some saving
  cases backed : session.store.path with
  | none =>
      rw [Store.forceSave, backed] at wrote
      cases wrote
  | some other =>
      have same : session.store = { session.store with path := some other } := by rw [← backed]
      rcases Store.forceSave_cases session.store other session.files session.heap with
        ⟨_, ends⟩ | ⟨document, held, ⟨files, written, ends⟩ | ⟨cause, files, _, ends⟩⟩
      · rw [same, ends] at wrote
        cases wrote
      · rw [same, ends] at wrote whole
        cases wrote
        exact ⟨document, held, files, written, whole⟩
      · rw [same, ends] at wrote
        cases wrote

theorem saved_hollow {saved later : Session σ} {path : String} {count : Nat}
    (wrote : (session.store.forceSave session.files session.heap).1 = .saved path)
    (saving : session.step? .forceSave = some saved)
    (read : (saved.store.load saved.files saved.heap).1 = .loaded count)
    (loading : saved.step? .load = some later) (key : String) :
    later.store.Hollow key ↔
      (session.store.entries.get? key).map Value.writesNull = some true := by
  obtain ⟨document, held, files, written, rfl⟩ := saved_cases wrote saving
  cases loading
  rcases Store.load_cases _ _ _ with ⟨unread, _⟩ | ⟨other, back, backed, reread, loaded⟩
  · exact absurd read (unread count)
  · cases backed
    have text := Store.read?_of_readDocument (Store.find_written written) reread
    rw [← Store.givesNull_saved held text reread]
    exact Store.hollow_loaded reread (congrArg (·.2.1.entries) loaded)

/-- A key is there exactly when it has a value, unless a reading of the data file gave null for it
and nothing was done to it since then. So the size counts the keys with a value exactly when there
is no such key. Storing null is deleting. After saving and reading back, the keys without a value
are those that held null or a number that is not finite. -/
theorem null_since_read_iff {operations : List Operation} (begun : start.Begun)
    (onStore : ∀ operation ∈ operations, operation.onStore = true)
    (reached : start.run? operations = some now) :
    (∀ key, (now.store.has key = true ↔ now.store.get key ≠ .null) ↔
      ¬start.NullSinceRead operations key) ∧
    ((now.store.keys.filter fun key => !(now.store.get key).isNull).length = now.store.size ↔
      ∀ key, ¬start.NullSinceRead operations key) ∧
    (∀ key, now.store.set key .null = now.store.delete key ∧
      (now.store.set key .null).has key = false) ∧
    ∀ path count saved later,
      (now.store.forceSave now.files now.heap).1 = .saved path →
      now.step? .forceSave = some saved →
      (saved.store.load saved.files saved.heap).1 = .loaded count →
      saved.step? .load = some later →
      ∀ key, (later.store.has key = true ↔ later.store.get key ≠ .null) ↔
        ¬∃ value, now.store.entries.get? key = some value ∧
          (value = .null ∨
            ∃ double : Double, value = .number double ∧ Number.isFinite double = false) := by
  have hollow (key : String) : now.store.Hollow key ↔ start.NullSinceRead operations key := by
    rw [run_hollow operations onStore reached, begun_hollow begun]
    rfl
  refine ⟨fun key => ?_, ?_, fun key => ⟨rfl, Store.has_delete key⟩, ?_⟩
  · rw [Store.has_iff_valued, hollow]
  · rw [Store.valued_keys_iff]
    exact forall_congr' fun key => not_congr (hollow key)
  · intro path count saved later wrote saving read loading key
    rw [Store.has_iff_valued, saved_hollow wrote saving read loading key]
    simp only [Option.map_eq_some_iff, Value.writesNull_iff]

section Phantoms

def onFile? (text : String) (operations : List Operation) : Option (Session Unit) :=
  (open? { world := { host := () } } "d.json" { nodes := [(["d.json"], .file (.text text))] }).bind
    fun start => start.run? operations

def looks (session : Session σ) (key : String) : Bool × Bool :=
  (session.store.has key, (session.store.get key).isNull)

theorem get_of_looks {there null : Bool} (seen : session.looks key = (there, null)) :
    (session.store.has key = true ↔ session.store.get key ≠ .null) ↔ there = !null := by
  obtain ⟨rfl, rfl⟩ := Prod.mk.inj seen
  cases session.store.has key <;> cases session.store.get key <;> simp [Value.isNull]

def twoNulls : String := "\x7b\"a\": null, \"b\": null\x7d"

theorem twoNulls_looks :
    (onFile? twoNulls [.set "b" .null, .forceSave]).map
      (fun now => (now.looks "a", now.looks "b")) = some ((true, true), (false, true)) := by
  decide +kernel

/-- Of two keys that the file gives null for, one stays there without a value and one is deleted. -/
theorem twoNulls_since_read :
    ∃ start now : Session Unit, onFile? twoNulls [] = some start ∧
      start.run? [.set "b" .null, .forceSave] = some now ∧
      start.NullSinceRead [.set "b" .null, .forceSave] "a" ∧
      ¬start.NullSinceRead [.set "b" .null, .forceSave] "b" := by
  obtain ⟨now, reached, seen⟩ := Option.map_eq_some_iff.mp twoNulls_looks
  obtain ⟨start, opened, ran⟩ := Option.bind_eq_some_iff.mp reached
  have exact := (null_since_read_iff (.inr ⟨_, _, _, opened⟩) (by decide) ran).1
  obtain ⟨first, second⟩ := Prod.mk.inj seen
  refine ⟨start, now, ?_, ran, ?_, ?_⟩
  · rw [onFile?, opened]
    rfl
  · have phantom := exact "a"
    rw [get_of_looks first] at phantom
    simpa using phantom
  · have gone := exact "b"
    rw [get_of_looks second] at gone
    simpa using gone

/-- A key is there without a value after opening a file that gives null for it, and after saving and
reading back a number that is not finite. -/
theorem loaded_null_is_there :
    (onFile? "\x7b\"a\": null\x7d" []).map (looks · "a") = some (true, true) ∧
    (onFile? "\x7b\x7d" [.set "a" (.number Number.notANumber)]).map (looks · "a") =
      some (true, false) ∧
    (onFile? "\x7b\x7d" [.set "a" (.number Number.notANumber), .save, .load]).map (looks · "a") =
      some (true, true) := by
  decide +kernel

end Phantoms

end Session

end EventScript
