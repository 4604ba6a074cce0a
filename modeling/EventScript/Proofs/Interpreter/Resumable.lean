import EventScript.Proofs.Effect
import EventScript.Proofs.Interpreter.Steady
import EventScript.Proofs.Program.Outline

/-!
What a pause leaves behind can be gone on with. The pending work of a handler consists of positions
in its own body or in blocks nested in it, each loop comes with a state of its own kind, and no
control signal is up. That holds for each pause of a handler, however often it was resumed before.
-/

namespace EventScript

inductive BlockOf.Inside (body : Block) : List Statement → Prop
  | whole : Inside body body.statements
  | nested {statements : List Statement} {statement : Statement} {block : Block} :
      Inside body statements → statement ∈ statements → block ∈ statement.blocks →
      Inside body block.statements

/-- The state is one that the loop can go on from. -/
inductive LoopState.Fits : LoopState → Statement → Prop
  | whileTrue {line : Nat} {condition : Expr} {body : Block} :
      Fits .whileTrue (.whileLoop line condition body)
  | counting {remaining line : Nat} {count : Expr} {body : Block} :
      Fits (.counting remaining) (.repeatLoop line count body)
  | visiting {items : List Value} {next line : Nat} {name : String} {subject : Expr}
      {body : Block} :
      next ≤ items.length → Fits (.visiting items next) (.forLoop line name subject body)

def Pending.Sound (body : Block) : Pending → Prop
  | .block statements next => body.Inside statements ∧ 0 < next ∧ next < statements.length
  | .loop statements index state => body.Inside statements ∧
    ∃ statement, statements[index]? = some statement ∧ state.Fits statement

def Handler.LeavesDepth {σ : Type} (handler : Handler σ) : Prop :=
  ∀ actor arguments frame world, (handler actor arguments frame world).2.1.depth = frame.depth

variable {σ α : Type}

def Setting.KeepsDepth (setting : Setting σ) (before after : Frame) : Prop :=
  setting.effects.All Handler.LeavesDepth → after.depth = before.depth

instance (setting : Setting σ) : IsPreorder Frame setting.KeepsDepth where
  refl _ _ := rfl
  trans _ _ _ earlier later leave := (later leave).trans (earlier leave)

theorem Frame.SameBare.depth {before after : Frame} (same : before.SameBare after) :
    after.depth = before.depth := by
  have depth : after.bare.depth = before.bare.depth := congrArg Frame.depth same
  exact depth

theorem Frame.SameBare.keepsDepth {before after : Frame} (same : before.SameBare after)
    (setting : Setting σ) : setting.KeepsDepth before after := fun _ => same.depth

theorem Frame.SameBare.interrupted {before after : Frame} (same : before.SameBare after) :
    after.interrupted = before.interrupted := by
  have signals : after.bare.interrupted = before.bare.interrupted := congrArg Frame.interrupted same
  exact signals

structure Sound (setting : Setting σ) (body : Block) (start : Frame)
    (outcome : Except (Stop RunError) Flow × RunState σ) : Prop where
  depth : setting.KeepsDepth start outcome.2.frame
  error : ∀ error, outcome.1 = .error (.failed error) → error.Ordinary
  pause : ∀ delay pending, outcome.1 = .ok (.suspended delay pending) →
    1 ≤ delay ∧ (∀ entry ∈ pending, entry.Sound body) ∧ outcome.2.frame.interrupted = false

namespace Sound

open Interpreter Run

variable {setting : Setting σ} {body : Block} {start : Frame}

theorem completed (state : RunState σ) :
    Sound setting body state.frame ((pure .completed : Run σ Flow) state) where
  depth _ := rfl
  error _ same := by cases same
  pause _ _ same := by cases same

theorem fail {error : RunError} (ordinary : error.Ordinary) (state : RunState σ) :
    Sound setting body state.frame ((Run.fail error : Run σ Flow) state) where
  depth _ := rfl
  error _ same := by
    cases same
    exact ordinary
  pause _ _ same := by cases same

theorem after {middle : Frame} {outcome : Except (Stop RunError) Flow × RunState σ}
    (kept : setting.KeepsDepth start middle) (sound : Sound setting body middle outcome) :
    Sound setting body start outcome :=
  ⟨trans_of setting.KeepsDepth kept sound.depth, sound.error, sound.pause⟩

theorem bind {run : Run σ α} {next : α → Run σ Flow} {state : RunState σ}
    (tame : Tame setting.KeepsDepth run)
    (rest : ∀ result after, run state = (.ok result, after) →
      Sound setting body after.frame (next result after)) :
    Sound setting body state.frame ((run >>= next) state) := by
  have kept := tame.frame state
  have ordinary := tame.error state
  refine bind_cases (motive := Sound setting body state.frame)
    (fun result middle ends => ?_) fun failure middle ends => ?_
  all_goals rw [ends] at kept ordinary
  · exact (rest result middle ends).after kept
  · refine ⟨kept, fun error same => ?_, fun _ _ same => by cases same⟩
    cases same
    exact ordinary error rfl

theorem followedBy {rest : List Pending} {next : Run σ Flow}
    {outcome : Except (Stop RunError) Flow × RunState σ} (sound : Sound setting body start outcome)
    (left : ∀ entry ∈ rest, entry.Sound body)
    (later : ∀ state, Sound setting body state.frame (next state)) :
    Sound setting body start (Interpreter.followedBy rest next outcome) := by
  obtain ⟨result, state⟩ := outcome
  cases result with
  | error failure => exact sound
  | ok flow =>
      cases flow with
      | completed => exact (later state).after sound.depth
      | suspended delay pending =>
          obtain ⟨positive, own, quiet⟩ := sound.pause delay pending rfl
          refine ⟨sound.depth, fun _ same => (by cases same), fun _ _ same => ?_⟩
          cases same
          refine ⟨positive, fun entry member => ?_, quiet⟩
          exact (List.mem_append.mp member).elim (own entry) (left entry)

end Sound

namespace Manner

open Interpreter Run

variable {setting : Setting σ} {body : Block}

theorem modifyFrame_tame {change : Frame → Frame}
    (kept : ∀ frame, (change frame).depth = frame.depth) :
    Tame setting.KeepsDepth (modifyFrame change : Run σ Unit) :=
  ⟨fun state _ => kept state.frame, fun _ _ same => by cases same⟩

theorem modify_tame {change : RunState σ → RunState σ}
    (kept : ∀ state, (change state).frame = state.frame) :
    Tame setting.KeepsDepth (modify change) :=
  ⟨fun state _ => congrArg Frame.depth (kept state), fun _ _ same => by cases same⟩

theorem perform_tame {name : String} {handler : Handler σ}
    (found : setting.effects.get? name = some handler) (arguments : List Value) (line : Nat) :
    Tame setting.KeepsDepth (perform handler name arguments line) := by
  constructor
  · intro state leave
    have kept := leave name handler found state.frame.actor arguments state.frame state.world
    simp only [perform]
    split <;> exact kept
  · intro state error same
    simp only [perform] at same
    split at same
    · cases same
    · cases same
      exact .effectFailed name _ line

theorem afterRound_tame : Tame setting.KeepsDepth (afterRound : Run σ Bool) := by
  constructor
  · intro state _
    rw [afterRound_eq]
    rfl
  · intro state error same
    rw [afterRound_eq] at same
    cases same

theorem nextRound_tame {eval : Expr → Run σ Value} (evals : ∀ expr, Tame Frame.SameBare (eval expr))
    {statement : Statement} {loop : LoopState} (fits : loop.Fits statement) :
    Tame setting.KeepsDepth (nextRound eval statement loop) := by
  cases fits with
  | whileTrue =>
      refine ((evals _).weaken (·.keepsDepth setting)).bind fun _ => (Tame.read _).bind fun _ => ?_
      split <;> exact .pure _
  | counting => exact .pure _
  | visiting _ =>
      simp only [nextRound]
      split
      · exact .pure _
      · exact Tame.bind (modifyFrame_tame fun _ => rfl) fun _ => .pure _

theorem nextRound_fits {eval : Expr → Run σ Value} {statement : Statement} {loop next : LoopState}
    {round : Block} {state after : RunState σ} (fits : loop.Fits statement)
    (opens : nextRound eval statement loop state = (.ok (some (round, next)), after)) :
    round ∈ statement.blocks ∧ next.Fits statement := by
  cases fits with
  | @whileTrue line condition body =>
      obtain ⟨value, middle, _, asked⟩ := bind_eq_ok opens
      obtain ⟨truth, later, _, chosen⟩ := bind_eq_ok asked
      split at chosen
      · cases chosen
        exact ⟨List.mem_singleton_self round, .whileTrue⟩
      · cases chosen
  | @counting remaining line count body =>
      simp only [nextRound] at opens
      by_cases finished : remaining = 0
      · rw [if_pos finished] at opens
        cases opens
      · rw [if_neg finished] at opens
        cases opens
        exact ⟨List.mem_singleton_self round, .counting⟩
  | @visiting items index line name subject body bound =>
      simp only [nextRound] at opens
      cases found : items[index]? with
      | none =>
          rw [found] at opens
          cases opens
      | some item =>
          rw [found] at opens
          cases opens
          obtain ⟨inside, _⟩ := List.getElem?_eq_some_iff.mp found
          exact ⟨List.mem_singleton_self round, .visiting inside⟩

theorem chooseBranch_sound {eval : Expr → Run σ Value} {runBlock : Block → Run σ Flow}
    (evals : ∀ expr, Tame Frame.SameBare (eval expr)) (otherwise : Option Block)
    (alternatives : List (Expr × Block))
    (blocks : ∀ block ∈ alternatives.map (·.2) ++ otherwise.toList, ∀ state,
      Sound setting body state.frame (runBlock block state)) (state : RunState σ) :
    Sound setting body state.frame (chooseBranch eval runBlock otherwise alternatives state) := by
  induction alternatives generalizing state with
  | nil =>
      cases otherwise with
      | none => exact .completed state
      | some block => exact blocks block (List.mem_singleton_self block) state
  | cons alternative rest ih =>
      refine .bind ((evals _).weaken (·.keepsDepth setting)) fun value middle _ => ?_
      refine .bind (Tame.read _) fun truth later _ => ?_
      split
      · exact blocks alternative.2 List.mem_cons_self later
      · exact ih (fun block member => blocks block (List.mem_cons_of_mem _ member)) later

theorem inOrder_sound {exec : Nat → Statement → Run σ Flow} {statements : List Statement}
    (inside : body.Inside statements)
    (execs : ∀ index statement, statements[index]? = some statement → ∀ state,
      state.frame.interrupted = false → Sound setting body state.frame (exec index statement state))
    {index : Nat} {rest : List Statement} (here : rest = statements.drop index)
    (state : RunState σ) :
    Sound setting body state.frame (inOrder exec statements index rest state) := by
  -- The row is what is left of the block from its index on, so what a pause leaves over resumes
  -- right behind the statement.
  induction rest generalizing index state with
  | nil => exact .completed state
  | cons statement rest ih =>
      have found : statements[index]? = some statement := by
        rw [← List.head?_drop, ← here, List.head?_cons]
      have behind : rest = statements.drop (index + 1) := by
        rw [← List.tail_drop, ← here, List.tail_cons]
      rw [inOrder_cons]
      split
      · exact .completed state
      · rename_i quiet
        refine (execs index statement found state (Bool.eq_false_iff.mpr quiet)).followedBy ?_
          (ih behind)
        intro entry member
        split at member
        · cases member
        · rename_i more
          obtain rfl := List.mem_singleton.mp member
          refine ⟨inside, Nat.succ_pos index, Nat.lt_of_not_le fun beyond => more ?_⟩
          rw [behind, List.drop_eq_nil_of_le beyond]
          rfl

/-- With the given room, expressions are tame, and statements and loops of a handler end soundly. -/
structure SoundWithin (setting : Setting σ) (room : Nat) : Prop where
  eval : ∀ expr, Tame Frame.SameBare (setting.manner.evalWithin room expr)
  exec : ∀ {body : Block} {statements index statement}, body.Inside statements →
    statements[index]? = some statement → ∀ state, state.frame.interrupted = false →
      Sound setting body state.frame
        (setting.manner.execWithin room statements index statement state)
  loop : ∀ {body : Block} {statements index statement loop}, body.Inside statements →
    statements[index]? = some statement → LoopState.Fits loop statement → ∀ state,
      Sound setting body state.frame
        (setting.manner.loopWithin room statements index statement loop state)

theorem SoundWithin.block {room : Nat} (within : SoundWithin setting room) {block : Block}
    (inside : body.Inside block.statements) (state : RunState σ) :
    Sound setting body state.frame (inOrder (setting.manner.execWithin room block.statements)
      block.statements 0 block.statements state) :=
  inOrder_sound inside (fun _ _ found => within.exec inside found) rfl state

theorem call_tame {room : Nat} (within : SoundWithin setting room) (name : String)
    (arguments : List Value) (line : Nat) :
    Tame Frame.SameBare (call setting setting.manner.enter (fun block =>
      inOrder (setting.manner.execWithin room block.statements) block.statements 0
        block.statements) name arguments line) := by
  unfold call
  split
  · -- The body of a function is sound as the body of a handler would be, and so are its errors.
    exact callFunction_tame _ _ (fun block state => (within.block .whole state).error) _ _ _
  · exact callBuiltin_tame _ name arguments line

theorem execCharged_sound {room : Nat} (within : SoundWithin setting room)
    {statements : List Statement} {index : Nat} {statement : Statement}
    (inside : body.Inside statements) (found : statements[index]? = some statement)
    (state : RunState σ) (quiet : state.frame.interrupted = false) :
    Sound setting body state.frame
      (setting.manner.execCharged room statements index statement state) := by
  have evals (expr : Expr) : Tame setting.KeepsDepth (setting.manner.evalWithin room expr) :=
    (within.eval expr).weaken (·.keepsDepth setting)
  have loops {loop : LoopState} (fits : loop.Fits statement) (state : RunState σ) :=
    within.loop inside found fits state
  have blocks (block : Block) (member : block ∈ statement.blocks) (state : RunState σ) :=
    within.block (inside.nested (List.mem_of_getElem? found) member) state
  simp only [execCharged]
  cases statement with
  | branch _ condition yes alternatives otherwise =>
      exact chooseBranch_sound within.eval otherwise ((condition, yes) :: alternatives) blocks state
  | whileLoop _ condition body => exact loops .whileTrue state
  | forLoop _ name subject body =>
      refine .bind (evals subject) fun value middle _ => .bind (Tame.read _) fun items later _ => ?_
      exact loops (.visiting (Nat.zero_le _)) later
  | repeatLoop _ count body =>
      exact .bind (evals count) fun value middle _ => loops .counting middle
  | wait _ delay =>
      refine .bind (evals delay) fun value middle evaluated => ⟨fun _ => rfl, ?_, ?_⟩
      · intro error same
        cases same
      · intro ticks pending same
        have bare := (within.eval delay).frame state
        rw [evaluated] at bare
        cases same
        exact ⟨Nat.le_max_left 1 _, by simp, bare.interrupted.trans quiet⟩
  | giveBack _ value =>
      cases value with
      | none =>
          refine .bind (Tame.pure _) fun _ middle _ => ?_
          exact .bind (modifyFrame_tame fun _ => rfl) fun _ later _ => .completed later
      | some value =>
          refine .bind (evals value) fun _ middle _ => ?_
          exact .bind (modifyFrame_tame fun _ => rfl) fun _ later _ => .completed later
  | breakOut _ => exact .bind (modifyFrame_tame fun _ => rfl) fun _ later _ => .completed later
  | continueOn _ => exact .bind (modifyFrame_tame fun _ => rfl) fun _ later _ => .completed later
  | assign _ name value =>
      refine .bind (evals value) fun _ middle _ => ?_
      exact .bind (modifyFrame_tame fun _ => rfl) fun _ later _ => .completed later
  | compound _ name op value =>
      have reads := (variableValue_tame setting.limits name : Tame _ (_ : Run σ Value))
      refine .bind (reads.weaken (·.keepsDepth setting)) fun current first _ => ?_
      refine .bind (evals value) fun change second _ => .bind (Tame.onHeap _) fun _ third _ => ?_
      exact .bind (modifyFrame_tame fun _ => rfl) fun _ later _ => .completed later
  | store _ key value =>
      refine .bind (evals key) fun key first _ => .bind (Tame.read _) fun key second _ => ?_
      refine .bind (evals value) fun value third _ => ?_
      exact .bind (modify_tame fun _ => rfl) fun _ later _ => .completed later
  | storeCompound _ key op value =>
      refine .bind (evals key) fun key first _ => .bind (Tame.read _) fun key second _ => ?_
      refine .bind (evals value) fun change third _ => ?_
      simp only
      split
      · exact .bind (modify_tame fun _ => rfl) fun _ later _ => .completed later
      · refine .bind (Tame.read _) fun current fourth _ => .bind (Tame.onHeap _) fun _ fifth _ => ?_
        exact .bind (modify_tame fun _ => rfl) fun _ later _ => .completed later
  | effect line name arguments =>
      simp only [execParts]
      cases known : setting.manner.effects.get? name with
      | none => exact .fail (.unknownEffect name line) state
      | some handler =>
          refine .bind (Tame.forEach evals arguments) fun values middle _ => ?_
          exact .bind (perform_tame known values line) fun _ later _ => .completed later
  | evaluate _ value => exact .bind (evals value) fun _ middle _ => .completed middle

theorem loopCharged_sound {room : Nat} (within : SoundWithin setting room)
    {statements : List Statement} {index : Nat} {statement : Statement} {loop : LoopState}
    (inside : body.Inside statements) (found : statements[index]? = some statement)
    (fits : loop.Fits statement) (state : RunState σ) :
    Sound setting body state.frame
      (setting.manner.loopCharged room statements index statement loop state) := by
  refine .bind (nextRound_tame within.eval fits) fun opened middle opens => ?_
  cases opened with
  | none => exact .completed middle
  | some opened =>
      obtain ⟨round, next⟩ := opened
      obtain ⟨member, again⟩ := nextRound_fits fits opens
      have blockInside := inside.nested (List.mem_of_getElem? found) member
      refine (congrArg _ (bind_followedBy _ _ _ middle)).mpr ?_
      refine (within.block blockInside middle).followedBy ?_ fun after => ?_
      · intro entry entryMember
        obtain rfl := List.mem_singleton.mp entryMember
        exact ⟨inside, statement, found, again⟩
      · refine .bind afterRound_tame fun more later _ => ?_
        split
        · exact within.loop inside found again later
        · exact .completed later

theorem stop_tame : Tame Frame.SameBare (Run.stop setting.manner.beyond : Run σ α) :=
  ⟨fun _ => rfl, fun _ _ same => by cases same⟩

theorem soundWithin (setting : Setting σ) (room : Nat) : SoundWithin setting room := by
  induction room with
  | zero =>
      have stops (body : Block) (state : RunState σ) : Sound setting body state.frame
          ((Run.stop setting.manner.beyond : Run σ Flow) state) :=
        ⟨(stop_tame.frame state).keepsDepth setting, stop_tame.error state,
          fun _ _ same => by cases same⟩
      exact ⟨fun expr => stop_tame, fun _ _ state _ => stops _ state,
        fun _ _ _ state => stops _ state⟩
  | succ room ih =>
      constructor
      · intro expr
        refine (charge_tame _).bind fun _ => ?_
        exact evalParts_tame (variableValue_tame setting.limits) ih.eval (call_tame ih) expr
      · intro body statements index statement inside found state quiet
        rw [execWithin_succ]
        refine .bind ((charge_tame _).weaken (·.keepsDepth setting)) fun _ middle charged => ?_
        have bare := (charge_tame setting.manner.limits).frame state
        rw [charged] at bare
        exact execCharged_sound ih inside found middle (bare.interrupted.trans quiet)
      · intro body statements index statement loop inside found fits state
        rw [loopWithin_succ]
        refine .bind ((charge_tame _).weaken (·.keepsDepth setting)) fun _ middle _ => ?_
        exact loopCharged_sound ih inside found fits middle

theorem execFrom_sound {statements : List Statement} (inside : body.Inside statements) (next : Nat)
    (state : RunState σ) :
    Sound setting body state.frame (setting.manner.execFrom statements next state) :=
  inOrder_sound inside (fun _ _ found => (soundWithin setting _).exec inside found) rfl state

theorem resumeOne_sound {entry : Pending} (sound : entry.Sound body) (state : RunState σ) :
    Sound setting body state.frame (setting.manner.resumeOne entry state) := by
  cases entry with
  | block statements next => exact execFrom_sound sound.1 next state
  | loop statements index loop =>
      obtain ⟨inside, statement, found, fits⟩ := sound
      refine .bind afterRound_tame fun more middle _ => ?_
      split
      · simp only [found]
        exact (soundWithin setting _).loop inside found fits middle
      · exact .completed middle

theorem resume_sound {pending : List Pending} (sound : ∀ entry ∈ pending, entry.Sound body)
    (state : RunState σ) :
    Sound setting body state.frame (setting.manner.resume pending state) := by
  induction pending generalizing state with
  | nil => exact .completed state
  | cons entry rest ih =>
      rw [resume_cons]
      have left : ∀ entry ∈ rest, entry.Sound body := fun other member =>
        sound other (List.mem_cons_of_mem _ member)
      exact (resumeOne_sound (sound entry List.mem_cons_self) state).followedBy left (ih left)

end Manner

namespace Interpreter

/-- How the runs of a handler end: the first one, in a frame with no call open, and each resumption
of what an earlier run left behind, in the frame that it left. What else there is may have changed
in between. -/
inductive Runs (setting : Setting σ) (body : Block) :
    Except (Stop RunError) Flow × RunState σ → Prop
  | first {state : RunState σ} : state.frame.depth = 0 →
      Runs setting body (execBlock setting body state)
  | again {delay : Nat} {pending : List Pending} {paused state : RunState σ} :
      Runs setting body (.ok (.suspended delay pending), paused) → state.frame = paused.frame →
      Runs setting body (resume setting pending state)

theorem Runs.sound {setting : Setting σ} {body : Block}
    {outcome : Except (Stop RunError) Flow × RunState σ} (runs : Runs setting body outcome) :
    ∃ start : Frame, (setting.effects.All Handler.LeavesDepth → start.depth = 0) ∧
      Sound setting body start outcome := by
  induction runs with
  | @first state outermost =>
      exact ⟨state.frame, fun _ => outermost, Manner.execFrom_sound .whole 0 state⟩
  | @again delay pending paused state runs same ih =>
      obtain ⟨start, outermost, sound⟩ := ih
      obtain ⟨_, own, _⟩ := sound.pause delay pending rfl
      refine ⟨state.frame, fun leave => ?_, Manner.resume_sound own state⟩
      rw [same, sound.depth leave, outermost leave]

/-- However often a handler has paused, it can be resumed. -/
theorem pauses_resumable {setting : Setting σ} {body : Block}
    {outcome : Except (Stop RunError) Flow × RunState σ} (runs : Runs setting body outcome) :
    (∀ delay pending, outcome.1 = .ok (.suspended delay pending) →
      1 ≤ delay ∧ (∀ entry ∈ pending, entry.Sound body) ∧ outcome.2.frame.interrupted = false ∧
        (setting.effects.All Handler.LeavesDepth → outcome.2.frame.depth = 0)) ∧
    ∀ (statement : Statement) (line : Nat),
      outcome.1 ≠
        .error (.failed
          (.script ("cannot resume " ++ statement.describe ++ " as a loop") line)) := by
  obtain ⟨start, outermost, sound⟩ := runs.sound
  constructor
  · intro delay pending paused
    obtain ⟨positive, own, quiet⟩ := sound.pause delay pending paused
    refine ⟨positive, own, quiet, fun leave => ?_⟩
    rw [sound.depth leave, outermost leave]
  · intro statement line failed
    exact (sound.error _ failed).ne_cannotResume statement line rfl

theorem core_leavesDepth : (Effects.core : Effects σ).All Handler.LeavesDepth := by
  refine Effects.core_all (fun _ _ _ _ _ => rfl) (fun _ _ _ _ => rfl) ?_
  intro actor arguments frame world
  simp only [Handler.settingLocal]
  split <;> rfl

/-- A handler that writes the depth of the frame makes a pause in a frame that is not outermost. -/
theorem dug_pause_deep :
    let dig : Handler Unit := fun _ _ frame world => (.ok (), { frame with depth := 1 }, world)
    let setting : Setting Unit := { effects := ({} : Effects Unit).register "dig" dig }
    let body : Block := ⟨1, [.effect 1 "dig" [], .wait 2 (.literal 2 .null)]⟩
    let start : RunState Unit := ⟨.withBudget 20, {}, { host := () }, []⟩
    start.frame.depth = 0 ∧
      (execBlock setting body start).1 = .ok (.suspended 1 []) ∧
      (execBlock setting body start).2.frame.depth = 1 := by
  exact ⟨rfl, rfl, rfl⟩

/-- A loop that waits in the midst of its body pauses, and pauses again when it is resumed. -/
theorem waiting_loop_resumable :
    let setting : Setting Unit := { effects := Effects.core }
    let round : Block := ⟨1, [.wait 2 (.literal 2 .null), .evaluate 3 (.literal 3 .null)]⟩
    let body : Block := ⟨1, [.whileLoop 1 (.literal 1 (.bool true)) round]⟩
    let after (spent : Nat) : RunState Unit :=
      ⟨.withBudget (20 - spent), {}, { host := () }, List.replicate spent .charged⟩
    let pending : List Pending := [.block round.statements 1, .loop body.statements 0 .whileTrue]
    execBlock setting body (after 0) = (.ok (.suspended 1 pending), after 5) ∧
      resume setting pending (after 5) = (.ok (.suspended 1 pending), after 11) ∧
      (∀ entry ∈ pending, entry.Sound body) ∧ (after 11).frame.depth = 0 := by
  intro setting round body after pending
  have pauses : execBlock setting body (after 0) = (.ok (.suspended 1 pending), after 5) := rfl
  have pausesAgain :
      resume setting pending (after 5) = (.ok (.suspended 1 pending), after 11) := rfl
  have first : Runs setting body (.ok (.suspended 1 pending), after 5) := pauses ▸ .first rfl
  have second : Runs setting body (.ok (.suspended 1 pending), after 11) :=
    pausesAgain ▸ .again first rfl
  obtain ⟨_, own, _, depth⟩ := (pauses_resumable second).1 1 pending rfl
  exact ⟨pauses, pausesAgain, own, depth core_leavesDepth⟩

end Interpreter

end EventScript
