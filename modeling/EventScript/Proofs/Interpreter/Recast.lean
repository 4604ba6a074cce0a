import EventScript.Proofs.Interpreter.Probed

/-!
Runs with another error in place of that for calls too deep. Nothing in a script looks at an error,
so if the probes of a run fail with another error, then the run ends with that one, in the same
state.
-/

namespace EventScript

variable {σ α β : Type}

def Stop.recast (cast : Nat → RunError) : Stop RunError → Stop RunError
  | .failed (.callDepth limit) => .failed (cast limit)
  | stop => stop

namespace Run

def recast (cast : Nat → RunError) (run : Run σ α) : Run σ α := fun state =>
  ((run state).1.mapError (Stop.recast cast), (run state).2)

variable {cast : Nat → RunError}

theorem recast_eq_self {run : Run σ α}
    (others : ∀ state limit, (run state).1 ≠ .error (.failed (.callDepth limit))) :
    run.recast cast = run := by
  funext state
  have other := others state
  simp only [recast]
  generalize run state = outcome at other ⊢
  obtain ⟨result, after⟩ := outcome
  rcases result with ((⟨_, _⟩ | _ | limit) | _) | _
  · rfl
  · rfl
  · exact absurd rfl (other limit)
  · rfl
  · rfl

@[simp] theorem recast_bind (run : Run σ α) (next : α → Run σ β) :
    (run >>= next).recast cast = run.recast cast >>= fun result => (next result).recast cast := by
  funext state
  generalize ends : run state = outcome
  obtain ⟨result, after⟩ := outcome
  cases result with
  | ok result =>
      have same : run.recast cast state = (.ok result, after) := by rw [recast, ends]; rfl
      rw [bind_ok same, recast, bind_ok ends, recast]
  | error error =>
      have same : run.recast cast state = (.error (error.recast cast), after) := by
        rw [recast, ends]; rfl
      rw [bind_error same, recast, bind_error ends]
      rfl

@[simp] theorem recast_pure (result : α) : (pure result : Run σ α).recast cast = pure result := rfl

@[simp] theorem recast_read (view : RunState σ → α) : (read view).recast cast = read view := rfl

@[simp] theorem recast_render (value : Value) :
    (render value : Run σ String).recast cast = render value := rfl

@[simp] theorem recast_isTrue (value : Value) :
    (isTrue value : Run σ Bool).recast cast = isTrue value := rfl

@[simp] theorem recast_stored (key : String) :
    (stored key : Run σ Value).recast cast = stored key := rfl

@[simp] theorem recast_ite (condition : Prop) [Decidable condition] (first second : Run σ α) :
    (if condition then first else second).recast cast =
      if condition then first.recast cast else second.recast cast :=
  apply_ite (recast cast) condition first second

@[simp] theorem recast_onHeap (compute : Heap → α × Heap) :
    (onHeap compute : Run σ α).recast cast = onHeap compute := rfl

@[simp] theorem recast_modify (change : RunState σ → RunState σ) :
    (modify change).recast cast = modify change := rfl

@[simp] theorem recast_fail (error : RunError) :
    (fail error : Run σ α).recast cast =
      fun state => (.error ((Stop.failed error).recast cast), state) := rfl

@[simp] theorem recast_await (outcome : Option α) :
    (await outcome : Run σ α).recast cast = await outcome := by
  cases outcome <;> rfl

@[simp] theorem recast_charge (limits : Limits) :
    (charge limits : Run σ Unit).recast cast = charge limits := by
  refine recast_eq_self fun state limit => ?_
  simp only [charge]
  split <;> simp

@[simp] theorem recast_variableValue (limits : Limits) (name : String) :
    (variableValue limits name : Run σ Value).recast cast = variableValue limits name := by
  refine recast_eq_self fun state limit => ?_
  simp only [variableValue]
  split
  · simp
  · split <;> simp

@[simp] theorem recast_perform (handler : Handler σ) (effect : String) (arguments : List Value)
    (line : Nat) :
    (perform handler effect arguments line).recast cast =
      perform handler effect arguments line := by
  refine recast_eq_self fun state limit => ?_
  simp only [perform]
  split <;> simp

@[simp] theorem recast_forEach (run : α → Run σ β) (items : List α) :
    (forEach run items).recast cast = forEach (fun item => (run item).recast cast) items := by
  induction items with
  | nil => rfl
  | cons item rest ih => simp only [forEach, recast_bind, recast_pure, ih]

end Run

namespace Interpreter

open Run

variable {cast : Nat → RunError}

@[simp] theorem recast_callBuiltin (machine : Machine) (name : String) (arguments : List Value)
    (line : Nat) : (callBuiltin machine name arguments line : Run σ Value).recast cast =
      callBuiltin machine name arguments line := by
  refine recast_eq_self fun state limit => ?_
  simp only [callBuiltin]
  split
  · simp
  · split <;> simp

theorem recast_evalParts (readVariable : String → Run σ Value) (eval : Expr → Run σ Value)
    (call : String → List Value → Nat → Run σ Value) (expr : Expr) :
    (evalParts readVariable eval call expr).recast cast =
      evalParts (fun name => (readVariable name).recast cast) (fun expr => (eval expr).recast cast)
        (fun name arguments line => (call name arguments line).recast cast) expr := by
  cases expr with
  | template _ parts =>
      simp only [evalParts, recast_bind, recast_pure, recast_forEach]
      congr 2
      funext part
      cases part <;> simp
  | _ => simp [evalParts]

theorem recast_enterFunction (runBody : Block → Run σ Flow) (function : Function)
    (arguments : List Value) (line : Nat) :
    (enterFunction runBody function arguments line).recast cast =
      enterFunction (fun block => (runBody block).recast cast) function arguments line := by
  funext state
  simp only [Run.recast, enterFunction]
  generalize runBody function.body _ = outcome
  obtain ⟨result, callee⟩ := outcome
  rcases result with error | ⟨_ | ⟨delay, pending⟩⟩ <;> rfl

theorem recast_callProbed (setting : Setting σ) (probe : Run σ Unit) (runBody : Block → Run σ Flow)
    (name : String) (arguments : List Value) (line : Nat) :
    (callProbed setting probe runBody name arguments line).recast cast =
      callProbed setting (probe.recast cast) (fun block => (runBody block).recast cast) name
        arguments line := by
  simp only [callProbed]
  split
  · rw [recast_bind, recast_enterFunction]
  · rw [recast_callBuiltin]

theorem recast_inOrder (exec : Nat → Statement → Run σ Flow) (statements : List Statement)
    (index : Nat) (rest : List Statement) :
    (inOrder exec statements index rest).recast cast =
      inOrder (fun index statement => (exec index statement).recast cast) statements index
        rest := by
  induction rest generalizing index with
  | nil => rfl
  | cons statement rest ih =>
      simp only [inOrder, recast_bind, recast_read, recast_ite, recast_pure]
      congr 1
      funext stopped
      split
      · rfl
      · congr 1
        funext flow
        cases flow with
        | completed => exact ih (index + 1)
        | suspended delay pending => simp

theorem recast_blockProbed (probe : Run σ Unit)
    (exec : List Statement → Nat → Statement → Run σ Flow) (block : Block) :
    (blockProbed probe exec block).recast cast =
      blockProbed (probe.recast cast)
        (fun statements index statement => (exec statements index statement).recast cast)
        block := by
  simp only [blockProbed, recast_inOrder, probing, recast_bind]
  rfl

@[simp] theorem recast_afterRound : (afterRound : Run σ Bool).recast cast = afterRound :=
  recast_eq_self fun state limit => by rw [afterRound_eq]; nofun

theorem recast_nextRound (eval : Expr → Run σ Value) (statement : Statement) (loop : LoopState) :
    (nextRound eval statement loop).recast cast =
      nextRound (fun expr => (eval expr).recast cast) statement loop := by
  unfold nextRound
  split
  · simp
  · rfl
  · split
    · rfl
    · rfl
  · rfl

theorem recast_chooseBranch (eval : Expr → Run σ Value) (runBlock : Block → Run σ Flow)
    (otherwise : Option Block) (alternatives : List (Expr × Block)) :
    (chooseBranch eval runBlock otherwise alternatives).recast cast =
      chooseBranch (fun expr => (eval expr).recast cast) (fun block => (runBlock block).recast cast)
        otherwise alternatives := by
  induction alternatives with
  | nil => cases otherwise <;> rfl
  | cons alternative rest ih => simp [chooseBranch, ih]

theorem recast_execParts (manner : Manner σ) (eval : Expr → Run σ Value)
    (runBlock : Block → Run σ Flow) (runLoop : LoopState → Run σ Flow)
    (reads : ∀ name, (manner.readVariable name).recast cast = manner.readVariable name)
    (statement : Statement) :
    (execParts manner eval runBlock runLoop statement).recast cast =
      execParts manner (fun expr => (eval expr).recast cast)
        (fun block => (runBlock block).recast cast) (fun loop => (runLoop loop).recast cast)
        statement := by
  cases statement with
  | branch _ condition yes alternatives otherwise => exact recast_chooseBranch _ _ _ _
  | giveBack _ value => cases value <;> simp [execParts, modifyFrame]
  | effect line name arguments =>
      simp only [execParts]
      split
      · rfl
      · simp
  | _ => simp [execParts, modifyFrame, writeStore, incrementStore, reads]

end Interpreter

namespace Probes

open Interpreter Run

variable {cast : Nat → RunError}

def recast (cast : Nat → RunError) (probes : Probes σ) : Probes σ where
  statement opened := (probes.statement opened).recast cast
  call opened := (probes.call opened).recast cast

@[simp] theorem recast_stop (setting : Setting σ) :
    (Run.stop setting.manner.beyond : Run σ α).recast cast = Run.stop setting.manner.beyond := rfl

structure RecastWithin (probes : Probes σ) (setting : Setting σ) (cast : Nat → RunError)
    (room : Nat) : Prop where
  eval : ∀ opened expr, (probes.evalWithin setting room opened expr).recast cast =
    (probes.recast cast).evalWithin setting room opened expr
  exec : ∀ opened statements index statement,
    (probes.execWithin setting room opened statements index statement).recast cast =
      (probes.recast cast).execWithin setting room opened statements index statement
  loop : ∀ opened statements index statement loop,
    (probes.loopWithin setting room opened statements index statement loop).recast cast =
      (probes.recast cast).loopWithin setting room opened statements index statement loop

theorem recastWithin (probes : Probes σ) (setting : Setting σ) (cast : Nat → RunError)
    (room : Nat) : RecastWithin probes setting cast room := by
  induction room with
  | zero => exact ⟨fun _ _ => rfl, fun _ _ _ _ => rfl, fun _ _ _ _ _ => rfl⟩
  | succ room ih =>
      constructor
      · intro opened expr
        simp only [evalWithin, recast_bind, recast_charge, recast_evalParts, recast_variableValue,
          recast_callProbed, recast_blockProbed, ih.eval, ih.exec]
        rfl
      · intro opened statements index statement
        simp only [execWithin, recast_bind, recast_charge]
        rw [recast_execParts _ _ _ _ (recast_variableValue setting.limits)]
        simp only [recast_blockProbed, ih.eval, ih.exec, ih.loop]
        rfl
      · intro opened statements index statement loop
        simp only [loopWithin, recast_bind, recast_charge, recast_nextRound, ih.eval]
        congr 2
        funext _
        congr 1
        funext round
        cases round with
        | none => rfl
        | some round =>
            simp only [recast_bind, recast_blockProbed, ih.exec]
            congr 1
            funext flow
            cases flow with
            | suspended delay pending => rfl
            | completed => simp [ih.loop]

theorem recast_withRoom (machine : Machine) (run : Nat → Run σ α) :
    (Manner.withRoom machine run).recast cast =
      Manner.withRoom machine fun room => (run room).recast cast := rfl

variable (probes : Probes σ) (setting : Setting σ)

theorem recast_eval (expr : Expr) :
    (probes.eval setting expr).recast cast = (probes.recast cast).eval setting expr := by
  simp only [eval, recast_withRoom, (recastWithin probes setting cast _).eval]

theorem recast_execFrom (statements : List Statement) (next : Nat) :
    (probes.execFrom setting statements next).recast cast =
      (probes.recast cast).execFrom setting statements next := by
  simp only [execFrom, recast_withRoom, recast_inOrder, probing, recast_bind,
    (recastWithin probes setting cast _).exec]
  rfl

theorem recast_resumeOne (entry : Pending) :
    (probes.resumeOne setting entry).recast cast =
      (probes.recast cast).resumeOne setting entry := by
  cases entry with
  | block statements next => exact recast_execFrom probes setting statements next
  | loop statements index loop =>
      simp only [resumeOne, recast_bind, recast_afterRound, recast_ite, recast_pure]
      cases statements[index]? with
      | none => rfl
      | some statement => simp only [recast_withRoom, (recastWithin probes setting cast _).loop]

theorem recast_resume (pending : List Pending) :
    (probes.resume setting pending).recast cast = (probes.recast cast).resume setting pending := by
  induction pending with
  | nil => rfl
  | cons entry rest ih =>
      simp only [resume, recast_bind, recast_resumeOne]
      congr 1
      funext flow
      cases flow with
      | suspended delay pending => rfl
      | completed => exact ih

end Probes

end EventScript
