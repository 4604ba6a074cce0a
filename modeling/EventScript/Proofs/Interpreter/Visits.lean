import Mathlib
import EventScript.Proofs.Frame
import EventScript.Proofs.Interpreter.Suspension

/-!
What a `for` loop visits. The loop is watched from the outside: for each round the value that its
variable has when the body starts is noted, and at last how the loop came to a halt. A loop that
pauses is watched further when it is resumed, from whatever state there is by then. The rounds that
are watched are those that the interpreter runs, and the values noted are the items that the value
had when the loop was entered, one after the other and from the first one on.
-/

namespace EventScript

variable {σ : Type}

/-- The items that a value has for a loop: those of a list, the keys of a map in the order in which
they came in, and the characters of the text of anything else. -/
inductive Value.Offers (heap : Heap) : Value → List Value → Prop
  | list (place : Nat) : Offers heap (.list place) (heap.list place).toList
  | map (place : Nat) :
      Offers heap (.map place) ((heap.map place).entries.map fun entry => .text entry.1)
  | text {value : Value} (plain : value.isContainer = false) :
      Offers heap value
        ((value.render heap).toList.map fun char => .text (String.singleton char))

theorem Value.offers_iff {heap : Heap} {value : Value} {items : List Value} :
    value.Offers heap items ↔ items = value.visited heap := by
  constructor
  · intro offers
    cases offers with
    | list place => rfl
    | map place => simp [visited, Dictionary.keys]
    | text plain =>
        cases value with
        | list place => cases plain
        | map place => cases plain
        | _ => rfl
  · rintro rfl
    cases value with
    | list place => exact .list place
    | map place =>
        rw [visited, Dictionary.keys, List.map_map]
        exact .map place
    | _ => exact .text rfl

inductive Halt where
  | exhausted
  | broken
  | returned
  | stopped (stop : Stop RunError)
  /-- Some work is left of the round, and then the loop is to go on from a state of its own. -/
  | paused (delay : Nat) (work : List Pending) (progress : LoopState)

def Halt.isExhausted : Halt → Bool
  | .exhausted => true
  | _ => false

theorem Halt.eq_exhausted {halt : Halt} (exhausted : halt.isExhausted = true) :
    halt = .exhausted := by
  cases halt with
  | exhausted => rfl
  | _ => cases exhausted

/-- What was seen of a loop: its variable at the start of each round, and its halt. -/
structure Watched (σ : Type) where
  seen : List (Option Value) := []
  halt : Halt
  state : RunState σ

namespace Watched

def after (earlier : List (Option Value)) (watched : Watched σ) : Watched σ :=
  { watched with seen := earlier ++ watched.seen }

/-- What the loop comes to for whoever runs it at its place. -/
def outcome (statements : List Statement) (index : Nat) (watched : Watched σ) :
    Except (Stop RunError) Flow × RunState σ :=
  match watched.halt with
  | .exhausted | .broken | .returned => (.ok .completed, watched.state)
  | .stopped stop => (.error stop, watched.state)
  | .paused delay work progress =>
    (.ok (.suspended delay (work ++ [.loop statements index progress])), watched.state)

theorem outcome_after (earlier : List (Option Value)) (watched : Watched σ)
    (statements : List Statement) (index : Nat) :
    (watched.after earlier).outcome statements index = watched.outcome statements index := rfl

theorem after_after (earlier later : List (Option Value)) (watched : Watched σ) :
    (watched.after later).after earlier = watched.after (earlier ++ later) := by
  simp [after]

/-- The loop has visited the first `count` of the items and knows how to go on. -/
structure Visited (items : List Value) (count : Nat) (watched : Watched σ) : Prop where
  inside : count ≤ items.length
  seen : watched.seen = (items.take count).map some
  exhausted : watched.halt = .exhausted → count = items.length
  paused : ∀ delay work progress, watched.halt = .paused delay work progress →
    progress = .visiting items count

end Watched

namespace Manner

open Interpreter Run

def watchRound (progress : LoopState) (goOn : RunState σ → Watched σ) :
    Except (Stop RunError) Flow × RunState σ → Watched σ
  | (.error stop, state) => { halt := .stopped stop, state }
  | (.ok (.suspended delay work), state) => { halt := .paused delay work progress, state }
  | (.ok .completed, state) =>
    let closed := (afterRound state).2
    if state.frame.breaking then { halt := .broken, state := closed }
    else if state.frame.returning then { halt := .returned, state := closed }
    else goOn closed

def watchLoop (manner : Manner σ) (statement : Statement) (name : String) :
    Nat → LoopState → RunState σ → Watched σ
  | 0, _, state =>
    let (stop, state) := manner.beyond state
    { halt := .stopped stop, state }
  | room + 1, progress, state =>
    match (Run.charge manner.limits >>= fun _ =>
        nextRound (manner.evalWithin room) statement progress) state with
    | (.error stop, state) => { halt := .stopped stop, state }
    | (.ok none, state) => { halt := .exhausted, state }
    | (.ok (some (body, progress)), state) =>
      let start := state.frame.get? name
      let ended := inOrder (manner.execWithin room body.statements) body.statements 0
        body.statements state
      (watchRound progress (watchLoop manner statement name room progress) ended).after [start]

def subjectWithin (manner : Manner σ) (subject : Expr) : Nat → Run σ Value
  | 0 => Run.stop manner.beyond
  | room + 1 => do
    Run.charge manner.limits
    manner.evalWithin room subject

def watchFor (manner : Manner σ) (statement : Statement) (name : String) (subject : Expr)
    (room : Nat) (state : RunState σ) : Watched σ :=
  match manner.subjectWithin subject room state with
  | (.error stop, state) => { halt := .stopped stop, state }
  | (.ok value, state) =>
    manner.watchLoop statement name (room - 1) (.visiting (value.visited state.world.heap) 0) state

def watchResumed (manner : Manner σ) (statement : Statement) (name : String)
    (work : List Pending) (progress : LoopState) (state : RunState σ) : Watched σ :=
  watchRound progress
    (fun state => manner.watchLoop statement name (roomFor manner.machine state) progress state)
    (manner.resume work state)

/-- Watches a loop over pauses. It is resumed from each of the states in turn as long as it pauses;
the states hold whatever has happened in the meantime. -/
def watchOn (manner : Manner σ) (statement : Statement) (name : String) (watched : Watched σ) :
    List (RunState σ) → Watched σ
  | [] => watched
  | state :: later =>
    match watched.halt with
    | .paused _ work progress =>
      let resumed := manner.watchResumed statement name work progress state
      watchOn manner statement name (resumed.after watched.seen) later
    | _ => watched

/-- Goes on with a run from each of the states in turn as long as it pauses. -/
def resumedFrom (manner : Manner σ) (outcome : Except (Stop RunError) Flow × RunState σ) :
    List (RunState σ) → Except (Stop RunError) Flow × RunState σ
  | [] => outcome
  | state :: later =>
    match outcome with
    | (.ok (.suspended _ pending), _) => resumedFrom manner (manner.resume pending state) later
    | outcome => outcome

section Faithful

variable {manner : Manner σ} {statements : List Statement} {index : Nat} {statement : Statement}
  {name : String}

theorem watchRound_outcome {progress : LoopState} {goOn : RunState σ → Watched σ}
    {next : Run σ Flow}
    (goesOn : ∀ state, (goOn state).outcome statements index = next state)
    (ended : Except (Stop RunError) Flow × RunState σ) :
    (watchRound progress goOn ended).outcome statements index =
      followedBy [.loop statements index progress]
        (afterRound >>= fun more => if more then next else pure .completed) ended := by
  obtain ⟨result, state⟩ := ended
  cases result with
  | error error => rfl
  | ok flow =>
      cases flow with
      | suspended delay work => rfl
      | completed =>
          rw [followedBy, bind_ok (afterRound_eq state)]
          simp only [watchRound]
          rw [afterRound_eq]
          by_cases breaking : state.frame.breaking = true
          · simp only [breaking]
            rfl
          · by_cases returning : state.frame.returning = true
            · simp only [breaking, returning]
              rfl
            · simp only [breaking, returning]
              exact goesOn _

/-- Watching a loop tells what running it comes to. -/
theorem watchLoop_outcome (room : Nat) (progress : LoopState) (state : RunState σ) :
    (manner.watchLoop statement name room progress state).outcome statements index =
      manner.loopWithin room statements index statement progress state := by
  induction room generalizing progress state with
  | zero => rfl
  | succ room ih =>
      rw [loopWithin_succ, watchLoop]
      generalize charges : Run.charge manner.limits state = charged
      obtain ⟨paid, funded⟩ := charged
      cases paid with
      | error error =>
          rw [bind_error charges, bind_error charges]
          rfl
      | ok _ =>
          rw [bind_ok charges, bind_ok charges, loopCharged]
          generalize opens : nextRound (manner.evalWithin room) statement progress funded = opened
          obtain ⟨round, started⟩ := opened
          cases round with
          | error error =>
              rw [bind_error opens]
              rfl
          | ok round =>
              rw [bind_ok opens]
              cases round with
              | none => rfl
              | some round =>
                  simp only [Watched.outcome_after, watchRound_outcome (ih round.2)]
                  exact (bind_followedBy _ _ _ started).symm

theorem watchFor_outcome {line : Nat} {subject : Expr} {body : Block} (room : Nat)
    (state : RunState σ) :
    (manner.watchFor (.forLoop line name subject body) name subject room state).outcome
        statements index =
      manner.execWithin room statements index (.forLoop line name subject body) state := by
  cases room with
  | zero => rfl
  | succ room =>
      rw [execWithin_succ, watchFor, subjectWithin]
      generalize charges : Run.charge manner.limits state = charged
      obtain ⟨paid, funded⟩ := charged
      cases paid with
      | error error =>
          rw [bind_error charges, bind_error charges]
          rfl
      | ok _ =>
          rw [bind_ok charges, bind_ok charges]
          simp only [execCharged, execParts]
          generalize evaluates : manner.evalWithin room subject funded = evaluated
          obtain ⟨value, entered⟩ := evaluated
          cases value with
          | error error =>
              rw [bind_error evaluates]
              rfl
          | ok value =>
              rw [bind_ok evaluates]
              exact watchLoop_outcome room _ entered

theorem watchResumed_outcome (found : statements[index]? = some statement) (work : List Pending)
    (progress : LoopState) (state : RunState σ) :
    (manner.watchResumed statement name work progress state).outcome statements index =
      manner.resume (work ++ [.loop statements index progress]) state := by
  have rounds (state : RunState σ) :
      (manner.watchLoop statement name (roomFor manner.machine state) progress
          state).outcome statements index =
        withRoom manner.machine
          (fun room => manner.loopWithin room statements index statement progress) state :=
    watchLoop_outcome _ progress state
  rw [resume_append, watchResumed, watchRound_outcome rounds]
  congr 1
  funext state
  rw [resume_singleton, resumeOne]
  simp only [found]

theorem watchOn_outcome (found : statements[index]? = some statement) (watched : Watched σ)
    (later : List (RunState σ)) :
    (manner.watchOn statement name watched later).outcome statements index =
      manner.resumedFrom (watched.outcome statements index) later := by
  induction later generalizing watched with
  | nil => rfl
  | cons state later ih =>
      obtain ⟨seen, halt, halted⟩ := watched
      cases halt with
      | paused delay work progress =>
          simp only [watchOn, ih, Watched.outcome_after, watchResumed_outcome found]
          rfl
      | _ => rfl

end Faithful

section Visits

variable {items : List Value} {count : Nat}

theorem watchRound_visited {seen : List (Option Value)} {goOn : RunState σ → Watched σ}
    (inside : count ≤ items.length) (before : seen = (items.take count).map some)
    (goesOn : ∀ state, ∃ more, ((goOn state).after seen).Visited items more)
    (ended : Except (Stop RunError) Flow × RunState σ) :
    ∃ more, ((watchRound (.visiting items count) goOn ended).after seen).Visited items more := by
  have stays : seen ++ [] = (items.take count).map some := by rw [List.append_nil, before]
  obtain ⟨result, state⟩ := ended
  cases result with
  | error error => exact ⟨count, inside, stays, nofun, nofun⟩
  | ok flow =>
      cases flow with
      | suspended delay work =>
          refine ⟨count, inside, stays, nofun, ?_⟩
          intro _ _ _ same
          cases same
          rfl
      | completed =>
          simp only [watchRound]
          split
          · exact ⟨count, inside, stays, nofun, nofun⟩
          · split
            · exact ⟨count, inside, stays, nofun, nofun⟩
            · exact goesOn _

variable (manner : Manner σ) (line : Nat) (name : String) (subject : Expr) (body : Block)

theorem watchLoop_visited (room : Nat) (inside : count ≤ items.length)
    {seen : List (Option Value)} (before : seen = (items.take count).map some)
    (state : RunState σ) :
    ∃ more, ((manner.watchLoop (.forLoop line name subject body) name room
      (.visiting items count) state).after seen).Visited items more := by
  have stays : seen ++ [] = (items.take count).map some := by rw [List.append_nil, before]
  -- The loop goes by its own copy of the items, so nothing needs to be known of what the bodies
  -- do. The invariant: the first `count` items have been seen.
  induction room generalizing count seen state with
  | zero => exact ⟨count, inside, stays, nofun, nofun⟩
  | succ room ih =>
      rw [watchLoop]
      generalize charges : Run.charge manner.limits state = charged
      obtain ⟨paid, funded⟩ := charged
      cases paid with
      | error error =>
          rw [bind_error charges]
          exact ⟨count, inside, stays, nofun, nofun⟩
      | ok _ =>
          rw [bind_ok charges, nextRound]
          cases next : items[count]? with
          | none =>
              have last : items.length ≤ count := List.getElem?_eq_none_iff.mp next
              exact ⟨count, inside, stays, fun _ => Nat.le_antisymm inside last, nofun⟩
          | some item =>
              have more : count + 1 ≤ items.length := (List.getElem?_eq_some_iff.mp next).1
              have taken : seen ++ [some item] = (items.take (count + 1)).map some := by
                rw [List.take_add_one, next, before]
                simp
              have rounds (state : RunState σ) := ih more taken state (by simp [taken])
              obtain ⟨reached, visited⟩ := watchRound_visited more taken rounds
                (inOrder (manner.execWithin room body.statements) body.statements 0
                  body.statements { funded with frame := funded.frame.set name item })
              have started : (funded.frame.set name item).get? name = some item := by simp
              rw [← started, ← Watched.after_after] at visited
              exact ⟨reached, visited⟩

theorem watchFor_visited {room : Nat} {state entered : RunState σ} {value : Value}
    (enters : manner.subjectWithin subject room state = (.ok value, entered)) :
    ∃ count, (manner.watchFor (.forLoop line name subject body) name subject room state).Visited
      (value.visited entered.world.heap) count := by
  obtain ⟨count, visited⟩ := watchLoop_visited manner line name subject body (room - 1)
    (Nat.zero_le (value.visited entered.world.heap).length) rfl entered
  refine ⟨count, ?_⟩
  rw [watchFor, enters]
  exact visited

theorem watchOn_visited {watched : Watched σ} (visited : watched.Visited items count)
    (later : List (RunState σ)) :
    ∃ more, (manner.watchOn (.forLoop line name subject body) name watched later).Visited items
      more := by
  induction later generalizing watched count with
  | nil => exact ⟨count, visited⟩
  | cons state later ih =>
      obtain ⟨seen, halt, halted⟩ := watched
      cases halt with
      | paused delay work progress =>
          obtain rfl := visited.paused delay work progress rfl
          have rounds (state : RunState σ) := watchLoop_visited manner line name subject body
            (roomFor manner.machine state) visited.inside visited.seen state
          obtain ⟨reached, resumed⟩ := watchRound_visited visited.inside visited.seen rounds
            (manner.resume work state)
          exact ih resumed
      | _ => exact ⟨count, visited⟩

end Visits

/-- A `for` loop visits what was there when it was entered. Over its first run and resumptions from
any states, its variable takes the items of its subject in order at the starts of the rounds, all of
them unless a round broke off or the loop was left paused. -/
theorem forLoop_visits (manner : Manner σ) {statements : List Statement} {index line : Nat}
    {name : String} {subject : Expr} {body : Block}
    (found : statements[index]? = some (.forLoop line name subject body)) (room : Nat)
    (state : RunState σ) (later : List (RunState σ)) :
    let loop := Statement.forLoop line name subject body
    let life := manner.watchOn loop name (manner.watchFor loop name subject room state) later
    manner.resumedFrom (manner.execWithin room statements index loop state) later =
      life.outcome statements index ∧
    (∀ work progress rest state,
      manner.resume (work ++ .loop statements index progress :: rest) state =
        followedBy rest (manner.resume rest)
          ((manner.watchResumed loop name work progress state).outcome statements index)) ∧
    match manner.subjectWithin subject room state with
    | (.error stop, _) => life.seen = [] ∧ life.halt = .stopped stop
    | (.ok value, entered) => ∃ items, value.Offers entered.world.heap items ∧
        ∃ count ≤ items.length, life.seen = (items.take count).map some ∧
          (life.halt = .exhausted → count = items.length) := by
  intro loop life
  refine ⟨?_, ?_, ?_⟩
  · rw [watchOn_outcome found, watchFor_outcome]
  · intro work progress rest state
    rw [watchResumed_outcome found, List.append_cons, resume_append]
  · cases enters : manner.subjectWithin subject room state with
    | mk entered middle =>
      cases entered with
      | error error =>
          have never : life = { halt := .stopped error, state := middle } := by
            simp only [life, watchFor, enters]
            cases later <;> rfl
          exact ⟨congrArg Watched.seen never, congrArg Watched.halt never⟩
      | ok value =>
          obtain ⟨first, entered⟩ := watchFor_visited manner line name subject body enters
          obtain ⟨count, visited⟩ := watchOn_visited manner line name subject body entered later
          exact ⟨_, Value.offers_iff.mpr rfl, count, visited.inside, visited.seen,
            visited.exhausted⟩

/-- The body forgets what is visited, and everything is emptied while the loop is paused. A list, a
map and a text are visited to the end all the same. -/
theorem forgotten_subjects_visited :
    let loop : Statement := .forLoop 1 "item" (.reference 1 "subject")
      ⟨1, [.assign 2 "subject" (.literal 2 .null), .wait 3 (.literal 3 .null)]⟩
    let manner : Manner Unit := ({} : Setting Unit).manner
    let state (value : Value) (heap : Heap) : RunState Unit :=
      ⟨(Frame.withBudget 50).set "subject" value, {}, { heap, host := () }, []⟩
    let heap : Heap :=
      { lists := #[#[.bool true, .null]], maps := #[.ofList [("b", .null), ("a", .null)]] }
    let life (value : Value) := manner.watchOn loop "item"
      (manner.watchFor loop "item" (.reference 1 "subject") 9 (state value heap))
      [state .null {}, state .null {}]
    [loop][0]? = some loop ∧
      (life (.list 0)).seen = [some (.bool true), some .null] ∧
      (life (.map 0)).seen = [some (.text "b"), some (.text "a")] ∧
      (life (.text "no")).seen = [some (.text "n"), some (.text "o")] := by
  intro loop manner state heap life
  have visited (value : Value) (halted : (life value).halt.isExhausted = true)
      (enters : (manner.subjectWithin (.reference 1 "subject") 9 (state value heap)).1 = .ok value)
      (same : (manner.subjectWithin (.reference 1 "subject") 9 (state value heap)).2.world.heap =
        heap) : (life value).seen = (value.visited heap).map some := by
    have visits := (forLoop_visits manner (rfl : [loop][0]? = some loop) 9 (state value heap)
      [state .null {}, state .null {}]).2.2
    generalize manner.subjectWithin (.reference 1 "subject") 9 (state value heap) = entered
      at visits enters same
    obtain ⟨entered, middle⟩ := entered
    obtain rfl : entered = .ok value := enters
    replace same : middle.world.heap = heap := same
    obtain ⟨items, offers, count, _, seen, all⟩ := visits
    rw [same] at offers
    obtain rfl := Value.offers_iff.mp offers
    obtain rfl := all (Halt.eq_exhausted halted)
    rwa [List.take_length] at seen
  refine ⟨rfl, (visited (.list 0) ?_ ?_ ?_).trans ?_, (visited (.map 0) ?_ ?_ ?_).trans ?_,
    (visited (.text "no") ?_ ?_ ?_).trans ?_⟩
  all_goals first | decide +kernel | cbv

end Manner

end EventScript
