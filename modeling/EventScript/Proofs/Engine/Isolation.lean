import EventScript.Proofs.Engine.Request

/-!
The handlers of one event. Whatever the pool holds, each of them runs at most once and in order, in
a frame that nobody has used, and meets only what those before it did to the store and the world. A
handler that fails or pauses is counted and reported, and the next one runs. One that is lost takes
the report and all the handlers behind it with it.
-/

namespace EventScript

def Occasion.newFrame (occasion : Occasion) (budget : Nat) : Frame :=
  { locals := Dictionary.ofList occasion.parameters, actor := occasion.actor,
    cancellation := occasion.cancellation, budget }

theorem Frame.foldl_set (entries : List (String × Value)) (frame : Frame) :
    entries.foldl (fun frame entry => frame.set entry.1 entry.2) frame =
      { frame with locals :=
          entries.foldl (fun locals entry => locals.put entry.1 entry.2) frame.locals } := by
  induction entries generalizing frame with
  | nil => rfl
  | cons entry rest ih => exact ih (frame.set entry.1 entry.2)

/-- The pool gives out frames that nobody can tell from new ones. -/
theorem FramePool.acquire_fresh (pool : FramePool) (budget : Nat) :
    (pool.acquire budget).1 = Frame.withBudget budget := by
  unfold acquire
  cases pool.slot <;> rfl

theorem Occasion.prepare_acquired (occasion : Occasion) (pool : FramePool) (budget : Nat) :
    occasion.prepare (pool.acquire budget).1 = occasion.newFrame budget := by
  rw [pool.acquire_fresh budget, prepare, Frame.foldl_set]
  rfl

namespace Engine

variable {σ : Type}

/-- One run of a handler, from its beginning to its end or its first pause. -/
structure Visit (σ : Type) where
  listener : Listener
  before : RunState σ
  result : Except (Stop RunError) Flow
  after : RunState σ

namespace Visit

def completed (visit : Visit σ) : Bool :=
  match visit.result with
  | .ok .completed => true
  | _ => false

def paused? (visit : Visit σ) : Option Continuation :=
  match visit.result with
  | .ok (.suspended delay pending) =>
    some ⟨visit.listener.script, pending, visit.after.frame, delay⟩
  | _ => none

def failure? (visit : Visit σ) : Option Failure :=
  match visit.result with
  | .error (.failed error) => some ⟨visit.listener.script.name, error⟩
  | _ => none

def ending (visit : Visit σ) : Except Loss Ending :=
  match visit.result with
  | .ok .completed => .ok .completed
  | .ok (.suspended ..) => .ok .suspended
  | .error (.failed error) => .ok (.failed error)
  | .error (.lost loss) => .error loss

end Visit

def handOver (scheduler : Scheduler) (continuations : List Continuation) : Scheduler :=
  continuations.foldl (fun scheduler continuation => (scheduler.accept continuation).2) scheduler

/-- The handler was run from its beginning in a new frame, under the rules of the engine. -/
structure RunAfresh (engine : Engine σ) (occasion : Occasion) (visit : Visit σ) : Prop where
  frame : visit.before.frame = occasion.newFrame engine.limits.operations
  run : Interpreter.execBlock (engine.settingOf visit.listener.script) visit.listener.body
    visit.before = (visit.result, visit.after)

structure GoesOn (engine : Engine σ) (store : Store) (world : World σ)
    (paused : List Continuation) (after : Engine σ) : Prop where
  store : after.store = store
  world : ∃ log, after.world = { world with log }
  scheduler : after.scheduler = handOver engine.scheduler paused
  limits : after.limits = engine.limits
  effects : after.effects = engine.effects
  machine : after.machine = engine.machine

theorem reportAll_goesOn (engine : Engine σ) (entries : List LogEntry) :
    GoesOn engine engine.store engine.world [] (engine.reportAll entries) := by
  induction entries generalizing engine with
  | nil => exact ⟨rfl, ⟨engine.world.log, rfl⟩, rfl, rfl, rfl, rfl⟩
  | cons entry rest ih =>
      have told := ih (engine.report entry.level entry.message)
      exact ⟨told.store, told.world, told.scheduler, told.limits, told.effects, told.machine⟩

theorem suspend_goesOn (engine : Engine σ) (continuation : Continuation) :
    GoesOn engine engine.store engine.world [continuation] (engine.suspend continuation) := by
  have told := reportAll_goesOn (engine.report .trace ("[" ++ continuation.script.name ++
    "] waiting " ++ Nat.repr continuation.delay ++ " tick(s)"))
    (engine.scheduler.accept continuation).1
  exact ⟨told.store, told.world, rfl, told.limits, told.effects, told.machine⟩

theorem start_visit (engine : Engine σ) (listener : Listener) (occasion : Occasion) :
    ∃ visit : Visit σ, visit.listener = listener ∧ RunAfresh engine occasion visit ∧
      visit.before.store = engine.store ∧ visit.before.world = engine.world ∧
      (engine.start listener.script listener.body occasion).1 = visit.ending ∧
      GoesOn engine visit.after.store visit.after.world visit.paused?.toList
        (engine.start listener.script listener.body occasion).2 := by
  generalize initial : (⟨occasion.newFrame engine.limits.operations, engine.store, engine.world,
    []⟩ : RunState σ) = before
  generalize ran : Interpreter.execBlock (engine.settingOf listener.script) listener.body before =
    outcome
  obtain ⟨result, after⟩ := outcome
  refine ⟨⟨listener, before, result, after⟩, rfl, ⟨initial ▸ rfl, ran⟩, initial ▸ rfl,
    initial ▸ rfl, ?_⟩
  simp only [start, occasion.prepare_acquired, runIn, initial, ran]
  cases result with
  | error stop =>
      cases stop with
      | failed error => exact ⟨rfl, rfl, ⟨_, rfl⟩, rfl, rfl, rfl, rfl⟩
      | lost loss => exact ⟨rfl, rfl, ⟨after.world.log, rfl⟩, rfl, rfl, rfl, rfl⟩
  | ok flow =>
      cases flow with
      | completed => exact ⟨rfl, rfl, ⟨after.world.log, rfl⟩, rfl, rfl, rfl, rfl⟩
      | suspended delay pending =>
          have left := suspend_goesOn { engine with
            pool := engine.pool.release after.frame, store := after.store, world := after.world }
            ⟨listener.script, pending, after.frame, delay⟩
          exact ⟨rfl, left.store, left.world, left.scheduler, left.limits, left.effects,
            left.machine⟩

theorem RunAfresh.under {engine other : Engine σ} {occasion : Occasion} {visit : Visit σ}
    (fresh : RunAfresh other occasion visit) (limits : other.limits = engine.limits)
    (effects : other.effects = engine.effects) (machine : other.machine = engine.machine) :
    RunAfresh engine occasion visit where
  frame := limits ▸ fresh.frame
  run := by
    have run := fresh.run
    rw [settingOf, limits, effects, machine] at run
    exact run

theorem filterMap_cons_toList {α β : Type} (f : α → Option β) (first : α) (rest : List α) :
    (first :: rest).filterMap f = (f first).toList ++ rest.filterMap f := by
  cases found : f first <;> simp [found]

/-- Each run finds the store and the world as the one before it has left them, but for the log, and
the last one leaves these. -/
def PassedOn (store : Store) (world : World σ) : List (Visit σ) → Store → World σ → Prop
  | [], lastStore, lastWorld => lastStore = store ∧ lastWorld = world
  | visit :: rest, lastStore, lastWorld =>
    visit.before.store = store ∧ visit.before.world = world ∧
      ∃ log, PassedOn visit.after.store { visit.after.world with log } rest lastStore lastWorld

/-- What comes of handlers that are to run one after the other: they are counted as they end, up to
one that is lost. -/
inductive Tallied : List Listener → Report → List (Visit σ) → Except Loss Report → Prop
  | done {report : Report} : Tallied [] report [] (.ok report)
  | next {visit : Visit σ} {rest : List Listener} {report : Report} {ending : Ending}
      {visits : List (Visit σ)} {outcome : Except Loss Report} (ends : visit.ending = .ok ending)
      (later : Tallied rest (report.count visit.listener.script ending) visits outcome) :
      Tallied (visit.listener :: rest) report (visit :: visits) outcome
  | lost {visit : Visit σ} {rest : List Listener} {report : Report} {loss : Loss}
      (ends : visit.ending = .error loss) :
      Tallied (visit.listener :: rest) report [visit] (.error loss)

theorem startAll_visits (occasion : Occasion) (listeners : List Listener) (report : Report)
    (engine : Engine σ) :
    ∃ visits : List (Visit σ),
      Tallied listeners report visits (startAll occasion listeners report engine).1 ∧
      (∀ visit ∈ visits, RunAfresh engine occasion visit) ∧
      PassedOn engine.store engine.world visits
        (startAll occasion listeners report engine).2.store
        (startAll occasion listeners report engine).2.world ∧
      (startAll occasion listeners report engine).2.scheduler =
        handOver engine.scheduler (visits.filterMap Visit.paused?) := by
  induction listeners generalizing report engine with
  | nil => exact ⟨[], .done, by simp, ⟨rfl, rfl⟩, rfl⟩
  | cons listener rest ih =>
      obtain ⟨visit, rfl, fresh, store, world, ending, goesOn⟩ :=
        start_visit engine listener occasion
      rw [startAll]
      generalize engine.start visit.listener.script visit.listener.body occasion = outcome
        at ending goesOn
      obtain ⟨ended, middle⟩ := outcome
      obtain ⟨log, told⟩ := goesOn.world
      simp only at ending
      cases ended with
      | error loss =>
          refine ⟨[visit], .lost ending.symm, by simpa using fresh, ⟨store, world, log, ?_⟩, ?_⟩
          · exact ⟨goesOn.store, told⟩
          · rw [goesOn.scheduler, filterMap_cons_toList, List.filterMap_nil, List.append_nil]
      | ok ended =>
          obtain ⟨visits, tallied, afresh, passedOn, scheduled⟩ :=
            ih (report.count visit.listener.script ended) middle
          refine ⟨visit :: visits, .next ending.symm tallied, ?_, ⟨store, world, log, ?_⟩, ?_⟩
          · intro other member
            rcases List.mem_cons.mp member with rfl | later
            · exact fresh
            · exact (afresh other later).under goesOn.limits goesOn.effects goesOn.machine
          · rw [goesOn.store, told] at passedOn
            exact passedOn
          · rw [scheduled, goesOn.scheduler, filterMap_cons_toList, handOver, handOver, handOver,
              List.foldl_append]

theorem Visit.count_ending (visit : Visit σ) {ending : Ending} (ends : visit.ending = .ok ending)
    (report : Report) : report.count visit.listener.script ending = { report with
      entered := report.entered + 1
      suspended := report.suspended + visit.paused?.toList.length
      failures := report.failures ++ visit.failure?.toList } := by
  obtain ⟨listener, before, (error | loss) | (_ | _), after⟩ := visit <;> cases ends
  · rfl
  · simp [Report.count, paused?, failure?]
  · simp [Report.count, paused?, failure?]

theorem Visit.ends_once (visit : Visit σ) {ending : Ending} (ends : visit.ending = .ok ending) :
    (if visit.completed then 1 else 0) + visit.paused?.toList.length +
      visit.failure?.toList.length = 1 := by
  obtain ⟨listener, before, (error | loss) | (_ | _), after⟩ := visit <;> cases ends <;> rfl

namespace Tallied

variable {listeners : List Listener} {report total : Report} {visits : List (Visit σ)}
  {loss : Loss}

theorem counts (tallied : Tallied listeners report visits (.ok total)) :
    visits.map Visit.listener = listeners ∧
      total = { report with
        entered := report.entered + visits.length
        suspended := report.suspended + (visits.filterMap Visit.paused?).length
        failures := report.failures ++ visits.filterMap Visit.failure? } ∧
      visits.countP Visit.completed + (visits.filterMap Visit.paused?).length +
        (visits.filterMap Visit.failure?).length = visits.length := by
  generalize same : (.ok total : Except Loss Report) = outcome at tallied
  induction tallied with
  | done =>
      cases same
      exact ⟨rfl, by simp, rfl⟩
  | @next visit rest report ending visits outcome ends later ih =>
      obtain ⟨listed, counted, parted⟩ := ih same
      have one := visit.ends_once ends
      rw [List.map_cons, listed, counted, visit.count_ending ends, filterMap_cons_toList,
        filterMap_cons_toList, List.countP_cons, List.length_append, List.length_append,
        List.length_cons, List.append_assoc, Nat.add_assoc, Nat.add_assoc, Nat.add_comm 1]
      exact ⟨rfl, rfl, by omega⟩
  | lost ends => cases same

theorem breaksOff (tallied : Tallied listeners report visits (.error loss)) :
    visits.map Visit.listener <+: listeners ∧ ∃ earlier last, visits = earlier ++ [last] ∧
      last.ending = .error loss ∧ ∀ visit ∈ earlier, ∃ ending, visit.ending = .ok ending := by
  generalize same : (.error loss : Except Loss Report) = outcome at tallied
  induction tallied with
  | done => cases same
  | @next visit rest report ending visits outcome ends later ih =>
      obtain ⟨prefixed, earlier, last, rfl, isLost, others⟩ := ih same
      refine ⟨(List.prefix_cons_inj _).mpr prefixed, visit :: earlier, last, rfl, isLost, ?_⟩
      intro other member
      rcases List.mem_cons.mp member with rfl | later
      · exact ⟨ending, ends⟩
      · exact others other later
  | @lost visit rest report loss ends =>
      cases same
      exact ⟨(List.prefix_cons_inj _).mpr List.nil_prefix, [], visit, rfl, ends, by simp⟩

end Tallied

def isThrottled : Except Loss Report → Bool
  | .ok report => report.throttled
  | .error _ => false

theorem dispatch_through {engine : Engine σ} {event : String} {occasion : Occasion} {now : Nat}
    (through : isThrottled (engine.dispatch event occasion now).1 = false) :
    ∃ throttle, engine.dispatch event occasion now =
      startAll occasion (engine.listenersOf event) {} { engine with throttle } := by
  obtain ⟨actor, cancellation, parameters⟩ := occasion
  cases actor with
  | none => exact ⟨engine.throttle, rfl⟩
  | some actor =>
      simp only [dispatch] at through ⊢
      generalize engine.throttle.allow (Event.normalize event) actor.id now = decision at through ⊢
      obtain ⟨allowed, throttle⟩ := decision
      cases allowed with
      | false => cases through
      | true => exact ⟨throttle, rfl⟩

/-- What is reported of the runs of all handlers of an event. -/
structure Reported (listeners : List Listener) (visits : List (Visit σ)) (report : Report) :
    Prop where
  listed : visits.map Visit.listener = listeners
  entered : report.entered = listeners.length
  failures : report.failures = visits.filterMap Visit.failure?
  suspended : report.suspended = (visits.filterMap Visit.paused?).length
  partition : visits.countP Visit.completed + report.suspended + report.failures.length =
    report.entered

/-- The handlers up to one that is lost, and which leaves no report. -/
structure BrokenOff (listeners : List Listener) (visits : List (Visit σ)) (loss : Loss) :
    Prop where
  listed : visits.map Visit.listener <+: listeners
  last : ∃ earlier last, visits = earlier ++ [last] ∧ last.result = .error (.lost loss) ∧
    ∀ visit ∈ earlier, ∀ other, visit.result ≠ .error (.lost other)

theorem Visit.ending_eq_error {visit : Visit σ} {loss : Loss} (ends : visit.ending = .error loss) :
    visit.result = .error (.lost loss) := by
  obtain ⟨listener, before, (error | loss) | (_ | _), after⟩ := visit <;> cases ends
  rfl

theorem Visit.ending_eq_ok {visit : Visit σ} {ending : Ending} (ends : visit.ending = .ok ending)
    (loss : Loss) : visit.result ≠ .error (.lost loss) := by
  obtain ⟨listener, before, (error | loss) | (_ | _), after⟩ := visit <;> cases ends <;> nofun

/-- Unless an event is held back, its handlers run in the order of the index, each of them once and
in a new frame. It meets what those before it have left, whether they completed, paused or failed,
and those that paused are handed to the scheduler. If none of them is lost, all of them run, and the
report counts them and names the failures. -/
theorem handlers_isolated (engine : Engine σ) (event : String) (occasion : Occasion) (now : Nat)
    (through : isThrottled (engine.dispatch event occasion now).1 = false) :
    let after := (engine.dispatch event occasion now).2
    ∃ visits : List (Visit σ), (∀ visit ∈ visits, RunAfresh engine occasion visit) ∧
      PassedOn engine.store engine.world visits after.store after.world ∧
      after.scheduler = handOver engine.scheduler (visits.filterMap Visit.paused?) ∧
      match (engine.dispatch event occasion now).1 with
      | .ok report => Reported (engine.listenersOf event) visits report
      | .error loss => BrokenOff (engine.listenersOf event) visits loss := by
  obtain ⟨throttle, dispatched⟩ := dispatch_through through
  rw [dispatched]
  obtain ⟨visits, tallied, afresh, passedOn, scheduled⟩ :=
    startAll_visits occasion (engine.listenersOf event) {} { engine with throttle }
  refine ⟨visits, fun visit member => (afresh visit member).under rfl rfl rfl, passedOn, scheduled,
    ?_⟩
  generalize (startAll occasion (engine.listenersOf event) {} { engine with throttle }).1 = outcome
    at tallied
  cases outcome with
  | ok report =>
      obtain ⟨listed, rfl, parted⟩ := tallied.counts
      have entered : visits.length = (engine.listenersOf event).length := by
        rw [← listed, List.length_map]
      refine ⟨listed, ?_, List.nil_append _, Nat.zero_add _, ?_⟩
      · exact (Nat.zero_add _).trans entered
      · simpa only [Nat.zero_add, List.nil_append] using parted
  | error loss =>
      obtain ⟨listed, earlier, last, split, ends, others⟩ := tallied.breaksOff
      refine ⟨listed, earlier, last, split, Visit.ending_eq_error ends, fun visit member => ?_⟩
      obtain ⟨ending, ended⟩ := others visit member
      exact Visit.ending_eq_ok ended

/-- Four handlers of one event: the second fails, the third pauses, and the last one sees no
variable of theirs. -/
theorem four_handlers_isolated :
    let engine : Engine Unit := ({ world := { host := () } } : Engine Unit).serveAll
      [.loadSource "a.fk" ("on go:\n    %x% = 1\n\non go:\n    %x% = 2\n    missing(%x%)\n\n" ++
        "on go:\n    %x% = 3\n    wait 2 ticks\n\non go:\n    __seen__ = %x% + 1\n"),
        .dispatch "go" {} 0]
    let after := (engine.dispatch "GO" {} 0).2
    isThrottled (engine.dispatch "GO" {} 0).1 = false ∧
      ((engine.dispatch "GO" {} 0).1.toOption.map fun report =>
        (report.entered, report.suspended, report.failures.length)) = some (4, 1, 1) ∧
      after.store.get "seen" = .ofNat 1 ∧
      ∃ visits : List (Visit Unit), (∀ visit ∈ visits, RunAfresh engine {} visit) ∧
        PassedOn engine.store engine.world visits after.store after.world := by
  intro engine after
  have ran : isThrottled (engine.dispatch "GO" {} 0).1 = false ∧
      ((engine.dispatch "GO" {} 0).1.toOption.map fun report =>
        (report.entered, report.suspended, report.failures.length)) = some (4, 1, 1) ∧
      after.store.get "seen" = .ofNat 1 := by decide +kernel
  obtain ⟨visits, afresh, passedOn, -⟩ := handlers_isolated engine "GO" {} 0 ran.1
  exact ⟨ran.1, ran.2.1, ran.2.2, visits, afresh, passedOn⟩

/-- A handler that looks up a map under its own text waits for ever, and the one behind it never
runs. -/
theorem blocked_handler_silences :
    let engine : Engine Unit := ({ world := { host := () } } : Engine Unit).serve
      (.loadSource "a.fk" ("on go:\n    %m% = \x7b\"a\": 1\x7d\n    %x% = %m%[%m%]\n\n" ++
        "on go:\n    __seen__ = 1\n"))
    (engine.listenersOf "go").length = 2 ∧
      (match (engine.dispatch "go" {} 0).1 with
        | .ok _ => none
        | .error loss => some loss) = some .blocked ∧
      (engine.dispatch "go" {} 0).2.store.get "seen" = .null := by
  decide +kernel

end Engine

end EventScript
