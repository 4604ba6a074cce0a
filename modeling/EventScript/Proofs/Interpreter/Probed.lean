import EventScript.Proofs.Interpreter.Invocation
import EventScript.Proofs.Interpreter.Steady

/-!
Scripts under observation. Probes are computations that come before each statement and before each
call of a function of the script, and that are told how many bodies of functions are open around it.
Under observation nothing else than a probe limits the depth of calls, so a probe can show when a
limit is reached; and probes that act in certain frames only, and yet change nothing, show that no
statement is reached in such a frame.
-/

namespace EventScript

/-- What is done before each statement and each call, given how many function bodies are open. -/
structure Probes (σ : Type) where
  statement : Nat → Run σ Unit
  call : Nat → Run σ Unit

variable {σ α β : Type}

namespace Interpreter

open Run

def guardDepth (limits : Limits) : Run σ Unit := fun state =>
  if limits.depth ≤ state.frame.depth then (.error (.failed (.callDepth limits.depth)), state)
  else (.ok (), state)

def enterFunction (runBody : Block → Run σ Flow) (function : Function) (arguments : List Value)
    (line : Nat) : Run σ Value := fun state =>
  leaveFunction line state (runBody function.body
    { state with frame := state.frame.child.bindAll function.parameters arguments })

def callProbed (setting : Setting σ) (probe : Run σ Unit) (runBody : Block → Run σ Flow)
    (name : String) (arguments : List Value) (line : Nat) : Run σ Value :=
  match setting.functions.get? name with
  | some function => probe >>= fun _ => enterFunction runBody function arguments line
  | none => callBuiltin setting.machine name arguments line

def probing (probe : Run σ Unit) (exec : Nat → Statement → Run σ Flow) (index : Nat)
    (statement : Statement) : Run σ Flow :=
  probe >>= fun _ => exec index statement

def blockProbed (probe : Run σ Unit) (exec : List Statement → Nat → Statement → Run σ Flow)
    (block : Block) : Run σ Flow :=
  inOrder (probing probe (exec block.statements)) block.statements 0 block.statements

end Interpreter

namespace Probes

open Interpreter

mutual

def evalWithin (probes : Probes σ) (setting : Setting σ) : Nat → Nat → Expr → Run σ Value
  | 0, _, _ => Run.stop setting.manner.beyond
  | room + 1, opened, expr => do
    Run.charge setting.limits
    evalParts (Run.variableValue setting.limits) (probes.evalWithin setting room opened)
      (callProbed setting (probes.call opened) (blockProbed (probes.statement (opened + 1))
        (probes.execWithin setting room (opened + 1)))) expr
termination_by structural room => room

def execWithin (probes : Probes σ) (setting : Setting σ) :
    Nat → Nat → List Statement → Nat → Statement → Run σ Flow
  | 0, _, _, _, _ => Run.stop setting.manner.beyond
  | room + 1, opened, statements, index, statement => do
    Run.charge setting.limits
    execParts setting.manner (probes.evalWithin setting room opened)
      (blockProbed (probes.statement opened) (probes.execWithin setting room opened))
      (probes.loopWithin setting room opened statements index statement) statement
termination_by structural room => room

def loopWithin (probes : Probes σ) (setting : Setting σ) :
    Nat → Nat → List Statement → Nat → Statement → LoopState → Run σ Flow
  | 0, _, _, _, _, _ => Run.stop setting.manner.beyond
  | room + 1, opened, statements, index, statement, loop => do
    Run.charge setting.limits
    match ← nextRound (probes.evalWithin setting room opened) statement loop with
    | none => pure .completed
    | some (body, loop) =>
      match ← blockProbed (probes.statement opened) (probes.execWithin setting room opened)
          body with
      | .suspended delay pending =>
        pure (.suspended delay (pending ++ [.loop statements index loop]))
      | .completed =>
        if ← afterRound then probes.loopWithin setting room opened statements index statement loop
        else pure .completed
termination_by structural room => room

end

def eval (probes : Probes σ) (setting : Setting σ) (expr : Expr) : Run σ Value :=
  Manner.withRoom setting.machine fun room => probes.evalWithin setting room 0 expr

def execFrom (probes : Probes σ) (setting : Setting σ) (statements : List Statement) (next : Nat) :
    Run σ Flow :=
  Manner.withRoom setting.machine fun room =>
    inOrder (probing (probes.statement 0) (probes.execWithin setting room 0 statements)) statements
      next (statements.drop next)

def execBlock (probes : Probes σ) (setting : Setting σ) (block : Block) : Run σ Flow :=
  probes.execFrom setting block.statements 0

def resumeOne (probes : Probes σ) (setting : Setting σ) : Pending → Run σ Flow
  | .block statements next => probes.execFrom setting statements next
  | .loop statements index loop => do
    if ← afterRound then
      match statements[index]? with
      | some statement =>
        Manner.withRoom setting.machine fun room =>
          probes.loopWithin setting room 0 statements index statement loop
      | none => pure .completed
    else pure .completed

def resume (probes : Probes σ) (setting : Setting σ) : List Pending → Run σ Flow
  | [] => pure .completed
  | entry :: rest => do
    match ← probes.resumeOne setting entry with
    | .suspended delay pending => pure (.suspended delay (pending ++ rest))
    | .completed => probes.resume setting rest

end Probes

/-- From certain states on, nothing that is run under the setting comes out different with the
probes than without them. -/
structure Probes.Unnoticed (probes : Probes σ) (setting : Setting σ) (start : RunState σ → Prop) :
    Prop where
  eval : ∀ expr state, start state →
    probes.eval setting expr state = Interpreter.eval setting expr state
  block : ∀ block state, start state →
    probes.execBlock setting block state = Interpreter.execBlock setting block state
  resume : ∀ pending state, start state →
    probes.resume setting pending state = Interpreter.resume setting pending state

namespace Run

variable {bond : Bond σ}

def KeepsCut (bond : Bond σ) (run : Run σ α) : Prop :=
  ∀ {error left right}, bond.cut error left right → bond.cut error left (run right).2

theorem KeepsCut.bind {run : Run σ α} {next : α → Run σ β} (first : KeepsCut bond run)
    (rest : ∀ result, KeepsCut bond (next result)) : KeepsCut bond (run >>= next) := by
  intro error left right cut
  have later := first cut
  refine bind_cases (motive := fun outcome => bond.cut error left outcome.2)
    (fun result after ends => ?_) fun failure after ends => ?_
  · rw [ends] at later
    exact rest result later
  · rw [ends] at later
    exact later

end Run

namespace Bond

/-- A run beside itself, in frames of certain depths. The first one may be stopped by certain errors
while the second one goes on. -/
def leveled (allowed : Nat → Prop) (stopped : Stop RunError → Prop) : Bond σ where
  running left right := left = right ∧ allowed left.frame.depth
  failed _ left right := left = right
  cut error _ _ := stopped error
  sameStore := by rintro left _ ⟨rfl, _⟩; rfl
  sameWorld := by rintro left _ ⟨rfl, _⟩; rfl
  sameSignals := by rintro left _ ⟨rfl, _⟩; rfl
  setWorld := by rintro left _ ⟨rfl, fits⟩ world; exact ⟨rfl, fits⟩
  record := by rintro left _ ⟨rfl, fits⟩ store deed _ _; exact ⟨rfl, fits⟩
  setLocal := by rintro left _ ⟨rfl, fits⟩ name value; exact ⟨rfl, fits⟩
  setSignals := by rintro left _ ⟨rfl, fits⟩ signals; exact ⟨rfl, fits⟩
  fail := by rintro left _ ⟨rfl, _⟩ error _; rfl
  late stopped _ := stopped

variable {allowed : Nat → Prop} {stopped : Stop RunError → Prop}

theorem leveled_self {run : Run σ α}
    (keeps : ∀ state, allowed state.frame.depth → allowed (run state).2.frame.depth) :
    Run.Agree (leveled allowed stopped) run run where
  lockstep := by
    rintro state _ ⟨rfl, fits⟩
    have kept := keeps state fits
    generalize run state = outcome at kept ⊢
    obtain ⟨result, after⟩ := outcome
    cases result with
    | ok result => exact .finished ⟨rfl, kept⟩
    | error error => exact .failed rfl
  alone stopped := stopped

theorem leveled_eq {first second : Run σ α}
    (agree : Run.Agree (leveled allowed fun _ => False) first second) {state : RunState σ}
    (fits : allowed state.frame.depth) : first state = second state := by
  have ending := agree.lockstep ⟨rfl, fits⟩
  generalize first state = outcome at ending
  generalize second state = other at ending
  cases ending with
  | finished running => rw [running.1]
  | failed same => exact congrArg (Prod.mk _) same
  | cut impossible => exact impossible.elim

theorem leveled_withRoom {machine : Machine} {first second : Nat → Run σ α}
    (agree : ∀ room, Run.Agree (leveled allowed stopped) (first room) (second room)) :
    Run.Agree (leveled allowed stopped) (Manner.withRoom machine first)
      (Manner.withRoom machine second) where
  lockstep := by rintro state _ ⟨rfl, fits⟩; exact (agree _).lockstep ⟨rfl, fits⟩
  alone stopped := stopped

theorem leveled_tame {run : Run σ α} (tame : Run.Tame Frame.SameBare run) :
    Run.Agree (leveled allowed stopped) run run := by
  refine leveled_self fun state fits => ?_
  have same : (run state).2.frame.bare.depth = state.frame.bare.depth :=
    congrArg Frame.depth (tame.frame state)
  exact same ▸ fits

theorem leveled_nests {inner : Nat → Prop} {state : RunState σ} (fits : allowed state.frame.depth)
    (deeper : inner (state.frame.depth + 1)) :
    (leveled allowed stopped).Nests (leveled inner stopped) Frame.child Frame.child state
      state where
  sameDepth := rfl
  enter := ⟨rfl, deeper⟩
  leave := by rintro after _ ⟨rfl, _⟩; exact ⟨rfl, fits⟩
  leaveFailed := by rintro error after _ rfl; rfl
  leaveCut stopped := stopped

end Bond

namespace Interpreter

open Run

variable {bond : Bond σ}

theorem followedBy_ending {first second : Run σ Flow} (agree : Agree bond first second)
    (rest : List Pending) {outcome other : Except (Stop RunError) Flow × RunState σ}
    (ending : bond.Ending outcome other) :
    bond.Ending (followedBy rest first outcome) (followedBy rest second other) := by
  cases ending with
  | @finished flow left right running =>
      cases flow with
      | completed => exact agree.lockstep running
      | suspended delay pending => exact .finished running
  | failed failed => exact .failed failed
  | @cut error left result right cut =>
      rcases result with failure | ⟨_ | ⟨delay, pending⟩⟩
      · exact .cut cut
      · exact .cut (agree.alone cut)
      · exact .cut cut

theorem inOrder_probing {first second : Nat → Statement → Run σ Flow} {probe : Run σ Unit}
    (silent : ∀ {left right}, bond.running left right → right.frame.interrupted = false →
      probe right = (.ok (), right))
    (keepsCut : KeepsCut bond probe)
    (execs : ∀ index statement, Agree bond (first index statement) (second index statement))
    (statements : List Statement) (index : Nat) (rest : List Statement) :
    Agree bond (inOrder first statements index rest)
      (inOrder (probing probe second) statements index rest) := by
  induction rest generalizing index with
  | nil => exact .pure _
  | cons statement rest ih =>
      constructor
      · intro left right running
        have same := bond.sameSignals running
        simp only [Frame.signals, Signals.mk.injEq] at same
        have interrupted : left.frame.interrupted = right.frame.interrupted := by
          simp only [Frame.interrupted, same]
        rw [inOrder_cons, inOrder_cons, interrupted]
        split
        · exact .finished running
        · rename_i quiet
          have passed := silent running (Bool.eq_false_iff.mpr quiet)
          rw [probing, bind_ok passed]
          exact followedBy_ending (ih (index + 1)) _ ((execs index statement).lockstep running)
      · refine KeepsCut.bind (fun cut => cut) fun stopped => ?_
        split
        · exact fun cut => cut
        · refine KeepsCut.bind (keepsCut.bind fun _ => (execs index statement).alone) fun flow => ?_
          cases flow with
          | completed => exact (ih (index + 1)).alone
          | suspended delay pending =>
              simp only
              split <;> exact fun cut => cut

end Interpreter

def Setting.withDepth (setting : Setting σ) (depth : Nat) : Setting σ :=
  { setting with limits := { setting.limits with depth } }

/-- The probes go unnoticed in a plain run with a limit to the depth of calls, as long as that run
is not stopped. Which depths a frame can have depends on how many bodies are open. -/
structure Probes.Silent (probes : Probes σ) (setting : Setting σ) (depth : Nat)
    (allowed : Nat → Nat → Prop) (stopped : Stop RunError → Prop) : Prop where
  performs : ∀ name handler, setting.effects.get? name = some handler →
    ∀ actor arguments frame world opened, allowed opened frame.depth →
      allowed opened (handler actor arguments frame world).2.1.depth
  statements : ∀ {opened} {state : RunState σ}, allowed opened state.frame.depth →
    state.frame.interrupted = false → probes.statement opened state = (.ok (), state)
  refuses : ∀ {opened} {state : RunState σ}, allowed opened state.frame.depth →
    depth ≤ state.frame.depth →
      stopped (.failed (.callDepth depth)) ∨
        probes.call opened state = (.error (.failed (.callDepth depth)), state)
  passes : ∀ {opened} {state : RunState σ}, allowed opened state.frame.depth →
    state.frame.depth < depth →
      probes.call opened state = (.ok (), state) ∧ allowed (opened + 1) (state.frame.depth + 1)

namespace Probes.Silent

open Interpreter Run

variable {probes : Probes σ} {setting : Setting σ} {depth : Nat} {allowed : Nat → Nat → Prop}
  {stopped : Stop RunError → Prop}

structure Within (probes : Probes σ) (setting : Setting σ) (depth : Nat)
    (allowed : Nat → Nat → Prop) (stopped : Stop RunError → Prop) (room : Nat) : Prop where
  eval : ∀ opened expr, Agree (.leveled (allowed opened) stopped)
    ((setting.withDepth depth).manner.evalWithin room expr)
    (probes.evalWithin setting room opened expr)
  exec : ∀ opened statements index statement, Agree (.leveled (allowed opened) stopped)
    ((setting.withDepth depth).manner.execWithin room statements index statement)
    (probes.execWithin setting room opened statements index statement)
  loop : ∀ opened statements index statement loop, Agree (.leveled (allowed opened) stopped)
    ((setting.withDepth depth).manner.loopWithin room statements index statement loop)
    (probes.loopWithin setting room opened statements index statement loop)

variable (silent : probes.Silent setting depth allowed stopped)

include silent

theorem inOrder {first second : Nat → Statement → Run σ Flow} {opened : Nat}
    (execs : ∀ index statement,
      Agree (.leveled (allowed opened) stopped) (first index statement) (second index statement))
    (statements : List Statement) (index : Nat) (rest : List Statement) :
    Agree (.leveled (allowed opened) stopped) (Interpreter.inOrder first statements index rest)
      (Interpreter.inOrder (probing (probes.statement opened) second) statements index rest) := by
  refine inOrder_probing ?_ (fun stopped => stopped) execs statements index rest
  rintro state _ ⟨rfl, fits⟩ quiet
  exact silent.statements fits quiet

theorem blocks {room : Nat} (within : Within probes setting depth allowed stopped room)
    (opened : Nat) (block : Block) :
    Agree (.leveled (allowed opened) stopped)
      (Interpreter.inOrder ((setting.withDepth depth).manner.execWithin room block.statements)
        block.statements 0 block.statements)
      (blockProbed (probes.statement opened) (probes.execWithin setting room opened) block) :=
  silent.inOrder (within.exec opened block.statements) block.statements 0 block.statements

theorem enters {first second : Block → Run σ Flow} {opened : Nat}
    (bodies : ∀ block, Agree (.leveled (allowed (opened + 1)) stopped) (first block) (second block))
    (function : Function) (arguments : List Value) (line : Nat) :
    Agree (.leveled (allowed opened) stopped)
      (callFunction (setting.withDepth depth).limits Frame.child first function arguments line)
      (probes.call opened >>= fun _ => enterFunction second function arguments line) where
  lockstep := by
    rintro state _ ⟨rfl, fits⟩
    rw [callFunction_apply]
    split
    · rename_i deep
      rcases silent.refuses fits deep with stopped | refused
      · exact .cut stopped
      · rw [bind_error refused]
        exact .failed rfl
    · rename_i shallow
      obtain ⟨passed, deeper⟩ := silent.passes fits (Nat.lt_of_not_le shallow)
      have nest : (Bond.leveled (allowed opened) stopped).Nests
          (.leveled (allowed (opened + 1)) stopped) Frame.child Frame.child state state :=
        Bond.leveled_nests fits deeper
      have entered := bindAll_running nest.enter function.parameters arguments
      rw [bind_ok passed]
      exact leaveFunction_ending nest line ((bodies function.body).lockstep entered)
  alone stopped := stopped

theorem calls {room : Nat} (within : Within probes setting depth allowed stopped room)
    (opened : Nat) (name : String) (arguments : List Value) (line : Nat) :
    Agree (.leveled (allowed opened) stopped)
      (Interpreter.call (setting.withDepth depth) Frame.child (fun block =>
        Interpreter.inOrder ((setting.withDepth depth).manner.execWithin room block.statements)
          block.statements 0 block.statements) name arguments line)
      (callProbed setting (probes.call opened) (blockProbed (probes.statement (opened + 1))
        (probes.execWithin setting room (opened + 1))) name arguments line) := by
  have sameFunctions : (setting.withDepth depth).functions = setting.functions := rfl
  simp only [Interpreter.call, callProbed, sameFunctions]
  cases setting.functions.get? name with
  | none => exact callBuiltin_agree _ name arguments line
  | some function =>
      exact silent.enters (silent.blocks within (opened + 1)) function arguments line

theorem within (room : Nat) : Within probes setting depth allowed stopped room := by
  have reads (opened : Nat) (name : String) : Agree (.leveled (allowed opened) stopped)
      (Run.variableValue setting.limits name : Run σ Value)
      (Run.variableValue setting.limits name) :=
    Bond.leveled_tame (variableValue_tame setting.limits name)
  have pays (opened : Nat) : (Bond.leveled (allowed opened) stopped : Bond σ).Pays
      (Bond.leveled (allowed opened) stopped) setting.limits setting.limits :=
    (Bond.leveled_tame (charge_tame setting.limits)).lockstep
  -- The induction is on the room, for all numbers of open bodies at once: a call opens one more.
  induction room with
  | zero =>
      have stops {β : Type} (opened : Nat) : Agree (.leveled (allowed opened) stopped)
          (Run.stop setting.manner.beyond : Run σ β) (Run.stop setting.manner.beyond) :=
        Bond.leveled_self fun _ fits => fits
      exact ⟨fun opened _ => stops opened, fun opened _ _ _ => stops opened,
        fun opened _ _ _ _ => stops opened⟩
  | succ room ih =>
      constructor
      · intro opened expr
        exact .charged (.refl _) (pays opened)
          (evalParts_agree (reads opened) (ih.eval opened) (silent.calls ih opened) expr)
      · intro opened statements index statement
        refine .charged (.refl _) (pays opened) ?_
        refine execParts_agree (setting.withDepth depth).manner setting.manner rfl rfl
          (reads opened) (fun name handler found arguments line => ?_) (ih.eval opened)
          (silent.blocks ih opened) (ih.loop opened statements index statement) statement
        refine Bond.leveled_self fun state fits => ?_
        have kept := silent.performs name handler found state.frame.actor arguments state.frame
          state.world opened fits
        simp only [perform]
        split <;> exact kept
      · intro opened statements index statement loop
        refine .charged (.refl _) (pays opened) ?_
        refine (nextRound_agree (ih.eval opened) statement loop).bind fun round => ?_
        cases round with
        | none => exact .pure _
        | some round =>
            refine (silent.blocks ih opened round.1).bind fun flow => ?_
            cases flow with
            | suspended delay pending => exact .pure _
            | completed =>
                refine afterRound_agree.bind fun more => ?_
                split
                · exact ih.loop opened statements index statement round.2
                · exact .pure _

theorem eval (expr : Expr) : Agree (.leveled (allowed 0) stopped)
    ((setting.withDepth depth).manner.eval expr) (probes.eval setting expr) :=
  Bond.leveled_withRoom fun room => (silent.within room).eval 0 expr

theorem execFrom (statements : List Statement) (next : Nat) :
    Agree (.leveled (allowed 0) stopped) ((setting.withDepth depth).manner.execFrom statements next)
      (probes.execFrom setting statements next) :=
  Bond.leveled_withRoom fun room =>
    silent.inOrder ((silent.within room).exec 0 statements) statements next _

theorem resumeOne (entry : Pending) : Agree (.leveled (allowed 0) stopped)
    ((setting.withDepth depth).manner.resumeOne entry) (probes.resumeOne setting entry) := by
  cases entry with
  | block statements next => exact silent.execFrom statements next
  | loop statements index loop =>
      refine afterRound_agree.bind fun more => ?_
      split
      · cases statements[index]? with
        | none => exact .pure _
        | some statement =>
            exact Bond.leveled_withRoom fun room =>
              (silent.within room).loop 0 statements index statement loop
      · exact .pure _

theorem resume (pending : List Pending) : Agree (.leveled (allowed 0) stopped)
    ((setting.withDepth depth).manner.resume pending) (probes.resume setting pending) := by
  induction pending with
  | nil => exact .pure _
  | cons entry rest ih =>
      refine (silent.resumeOne entry).bind fun flow => ?_
      cases flow with
      | suspended delay pending => exact .pure _
      | completed => exact ih

end Probes.Silent

namespace Probes

open Interpreter

variable {setting : Setting σ}

theorem Silent.unnoticed {probes : Probes σ} {allowed : Nat → Nat → Prop}
    (silent : probes.Silent setting setting.limits.depth allowed fun _ => False) :
    probes.Unnoticed setting fun state => allowed 0 state.frame.depth where
  eval expr _ fits := (Bond.leveled_eq (silent.eval expr) fits).symm
  block block _ fits := (Bond.leveled_eq (silent.execFrom block.statements 0) fits).symm
  resume pending _ fits := (Bond.leveled_eq (silent.resume pending) fits).symm

theorem unnoticed_of_quiet {probe : Nat → Run σ Unit}
    (silent : ∀ opened state, state.frame.interrupted = false →
      probe opened state = (.ok (), state)) :
    (Probes.mk probe fun _ => guardDepth setting.limits).Unnoticed setting fun _ => True := by
  have hidden : (Probes.mk probe fun _ => guardDepth setting.limits).Silent setting
      setting.limits.depth (fun _ _ => True) fun _ => False :=
    { performs _ _ _ _ _ _ _ _ _ := trivial
      statements _ quiet := silent _ _ quiet
      refuses _ deep := .inr (if_pos deep)
      passes _ shallow := ⟨if_neg (Nat.not_le_of_lt shallow), trivial⟩ }
  exact hidden.unnoticed

def plain (limits : Limits) : Probes σ where
  statement _ := pure ()
  call _ := guardDepth limits

theorem plain_unnoticed (setting : Setting σ) :
    (plain setting.limits).Unnoticed setting fun _ => True :=
  unnoticed_of_quiet fun _ _ _ => rfl

theorem plain_eval (setting : Setting σ) (expr : Expr) :
    (plain setting.limits).eval setting expr = Interpreter.eval setting expr :=
  funext fun state => (plain_unnoticed setting).eval expr state trivial

theorem plain_execBlock (setting : Setting σ) (block : Block) :
    (plain setting.limits).execBlock setting block = Interpreter.execBlock setting block :=
  funext fun state => (plain_unnoticed setting).block block state trivial

theorem plain_resume (setting : Setting σ) (pending : List Pending) :
    (plain setting.limits).resume setting pending = Interpreter.resume setting pending :=
  funext fun state => (plain_unnoticed setting).resume pending state trivial

end Probes

end EventScript
