import EventScript.Proofs.Interpreter.Steady
import EventScript.Proofs.Program.HeaderLines

/-!
Where scripts fail. Whatever a run does, the line of its error is that of a statement which it
executes or of an expression in one; and these, also behind pauses and in functions, belong to the
script. So what holds of the lines in a script holds of the lines on which it fails.
-/

namespace EventScript

open EventScript.Program (NodesOn children forall_children_map forall_children_template nodesOn_iff)

/-- A kind of statements that stand on lines of a kind, as do the expressions in them, and that hold
no other statements in their blocks. -/
structure Territory (inside : Statement → Prop) (onLine : Nat → Prop) : Prop where
  line : ∀ {statement}, inside statement → onLine statement.line
  nodes : ∀ {statement}, inside statement → ∀ expr ∈ statement.expressions, NodesOn onLine expr
  blocks : ∀ {statement}, inside statement → ∀ block ∈ statement.blocks,
    ∀ inner ∈ block.statements, inside inner

def Pending.Inside (inside : Statement → Prop) : Pending → Prop
  | .block statements _ | .loop statements _ _ => ∀ statement ∈ statements, inside statement

def Flow.Inside (inside : Statement → Prop) : Flow → Prop
  | .completed => True
  | .suspended _ pending => ∀ entry ∈ pending, entry.Inside inside

def RunError.On (onLine : Nat → Prop) : RunError → Prop
  | .script _ line => onLine line
  | .operationLimit _ | .callDepth _ => True

namespace Run

variable {σ α β : Type} {onLine : Nat → Prop} {fits : α → Prop} {other : β → Prop}

/-- From every state, the run fails on lines of the kind only, and its results fit. -/
structure FailsOn (onLine : Nat → Prop) (fits : α → Prop) (run : Run σ α) : Prop where
  error : ∀ {state error after}, run state = (.error (.failed error), after) → error.On onLine
  result : ∀ {state result after}, run state = (.ok result, after) → fits result

abbrev Fails (onLine : Nat → Prop) (run : Run σ α) : Prop := FailsOn onLine (fun _ => True) run

namespace FailsOn

theorem pure {result : α} (fit : fits result) : FailsOn onLine fits (pure result : Run σ α) where
  error same := by cases same
  result same := by cases same; exact fit

theorem read (view : RunState σ → α) : Fails onLine (Run.read view) where
  error same := by cases same
  result _ := trivial

theorem modify (change : RunState σ → RunState σ) : Fails onLine (Run.modify change) where
  error same := by cases same
  result _ := trivial

theorem onHeap (compute : Heap → α × Heap) : Fails onLine (Run.onHeap compute : Run σ α) where
  error same := by cases same
  result _ := trivial

theorem await (outcome : Option α) : Fails onLine (Run.await outcome : Run σ α) where
  error same := by cases outcome <;> cases same
  result _ := trivial

theorem fail {error : RunError} (on : error.On onLine) :
    FailsOn onLine fits (Run.fail error : Run σ α) where
  error same := by cases same; exact on
  result same := by cases same

theorem bind {run : Run σ α} {next : α → Run σ β} (first : FailsOn onLine fits run)
    (rest : ∀ result, fits result → FailsOn onLine other (next result)) :
    FailsOn onLine other (run >>= next) where
  error {state error after} := by
    refine bind_cases (motive := fun outcome => outcome = (.error (.failed error), after) → _) ?_ ?_
    · exact fun result middle ends => (rest result (first.result ends)).error
    · intro failure middle ends same
      cases same
      exact first.error ends
  result {state result after} := by
    refine bind_cases (motive := fun outcome => outcome = (.ok result, after) → _) ?_ ?_
    · exact fun between middle ends => (rest between (first.result ends)).result
    · intro failure middle ends same
      cases same

theorem fails {run : Run σ α} (failsOn : FailsOn onLine fits run) : Fails onLine run :=
  ⟨failsOn.error, fun _ => trivial⟩

theorem forEach {run : α → Run σ β} {items : List α}
    (each : ∀ item ∈ items, Fails onLine (run item)) : Fails onLine (Run.forEach run items) := by
  induction items with
  | nil => exact pure trivial
  | cons item rest ih =>
      refine (each item List.mem_cons_self).bind fun result _ => ?_
      exact (ih fun later member => each later (List.mem_cons_of_mem _ member)).bind fun _ _ =>
        pure trivial

end FailsOn

theorem charge_fails (limits : Limits) : Fails onLine (charge limits : Run σ Unit) where
  error {state error after} same := by
    rw [charge] at same
    dsimp only at same
    split at same
    · cases same
      trivial
    · cases same
  result _ := trivial

theorem variableValue_fails (limits : Limits) (name : String) :
    Fails onLine (variableValue limits name : Run σ Value) where
  error {state error after} same := by
    rw [variableValue] at same
    dsimp only at same
    split at same
    · cases same
    · split at same <;> cases same
  result _ := trivial

theorem perform_fails (handler : Handler σ) (effect : String) (arguments : List Value) {line : Nat}
    (here : onLine line) : Fails onLine (perform handler effect arguments line) where
  error {state error after} same := by
    rw [perform] at same
    dsimp only at same
    split at same
    · cases same
    · cases same
      exact here
  result _ := trivial

end Run

namespace Interpreter

open Run

variable {σ : Type} {inside : Statement → Prop} {onLine : Nat → Prop}

theorem callBuiltin_fails (machine : Machine) (name : String) (arguments : List Value) {line : Nat}
    (here : onLine line) :
    Fails onLine (callBuiltin machine name arguments line : Run σ Value) where
  error {state error after} same := by
    rw [callBuiltin] at same
    split at same
    · cases same
      exact here
    · dsimp only at same
      split at same
      · cases same
      · cases same
        exact here
      · cases same
  result _ := trivial

theorem inFrame_fails {α : Type} (frame : Frame) {body : Run σ α}
    (fails : Fails onLine body) : Fails onLine (inFrame frame body) where
  error {state error after} same := by
    rw [inFrame] at same
    dsimp only at same
    generalize ends : body { state with frame } = outcome at same
    obtain ⟨result, left⟩ := outcome
    cases result with
    | ok result => cases same
    | error failure =>
        cases same
        exact fails.error ends
  result _ := trivial

theorem callFunction_fails (limits : Limits) (enter : Frame → Frame)
    {runBody : Block → Run σ Flow} {function : Function}
    (body : Fails onLine (runBody function.body)) (arguments : List Value) {line : Nat}
    (here : onLine line) :
    Fails onLine (callFunction limits enter runBody function arguments line) := by
  refine (FailsOn.read _).bind fun frame _ => ?_
  split
  · exact .fail trivial
  · refine (inFrame_fails _ body).bind fun outcome _ => ?_
    obtain ⟨flow, left⟩ := outcome
    cases flow with
    | completed => exact .pure trivial
    | suspended => exact .fail here

theorem evalParts_fails {readVariable : String → Run σ Value} {eval : Expr → Run σ Value}
    {call : String → List Value → Nat → Run σ Value}
    (reads : ∀ name, Fails onLine (readVariable name))
    (evals : ∀ expr, NodesOn onLine expr → Fails onLine (eval expr))
    (calls : ∀ name arguments line, onLine line → Fails onLine (call name arguments line))
    {expr : Expr} (on : NodesOn onLine expr) :
    Fails onLine (evalParts readVariable eval call expr) := by
  obtain ⟨here, inner⟩ := nodesOn_iff.mp on
  have parts : ∀ step ∈ children expr, Fails onLine (eval step.2) :=
    fun step member => evals step.2 (inner step member)
  have part (child : Expr) (member : child ∈ (children expr).map Prod.snd) :
      Fails onLine (eval child) := by
    obtain ⟨step, among, rfl⟩ := List.mem_map.mp member
    exact parts step among
  cases expr with
  | literal _ value => exact .pure trivial
  | reference _ name => exact reads name
  | stored _ key =>
      refine (part key (by simp [children])).bind fun _ _ => ?_
      exact (FailsOn.read _).bind fun _ _ => .read _
  | binary _ op left right =>
      refine (part left (by simp [children])).bind fun _ _ => (FailsOn.read _).bind fun _ _ => ?_
      split
      · exact .pure trivial
      · exact (part right (by simp [children])).bind fun _ _ =>
          (FailsOn.onHeap _).bind fun _ _ => .await _
  | unary _ op operand => exact (part operand (by simp [children])).bind fun _ _ => .read _
  | call line name arguments =>
      refine (FailsOn.forEach fun argument member => part argument ?_).bind fun values _ =>
        calls name values line here
      cases arguments with
      | nil => cases member
      | cons first rest => simpa [children] using member
  | index _ target position =>
      refine (part target (by simp [children])).bind fun _ _ => ?_
      exact (part position (by simp [children])).bind fun _ _ =>
        (FailsOn.read _).bind fun _ _ => .await _
  | property _ target name => exact (part target (by simp [children])).bind fun _ _ => .read _
  | list _ items =>
      refine (FailsOn.forEach fun item member => part item ?_).bind fun values _ => .onHeap _
      simpa [children] using member
  | map _ entries =>
      refine (FailsOn.forEach fun entry member => ?_).bind fun _ _ => .onHeap _
      obtain ⟨key, value⟩ := forall_children_map.mp parts entry member
      refine key.bind fun _ _ => (FailsOn.read _).bind fun _ _ => ?_
      exact value.bind fun _ _ => .pure trivial
  | template _ pieces =>
      refine (FailsOn.forEach fun piece member => ?_).bind fun _ _ => .pure trivial
      cases piece with
      | text content => exact .pure trivial
      | expr value => exact (forall_children_template.mp parts value member).bind fun _ _ => .read _
  | conditional _ condition yes no =>
      refine (part condition (by simp [children])).bind fun _ _ => ?_
      refine (FailsOn.read _).bind fun _ _ => ?_
      split
      · exact part yes (by simp [children])
      · exact part no (by simp [children])

theorem inOrder_fails {exec : Nat → Statement → Run σ Flow} {statements : List Statement}
    (own : ∀ statement ∈ statements, inside statement)
    (execs : ∀ index, ∀ statement ∈ statements,
      FailsOn onLine (Flow.Inside inside) (exec index statement))
    {rest : List Statement} (part : ∀ statement ∈ rest, statement ∈ statements) (index : Nat) :
    FailsOn onLine (Flow.Inside inside) (inOrder exec statements index rest) := by
  induction rest generalizing index with
  | nil => exact .pure trivial
  | cons statement rest ih =>
      refine (FailsOn.read _).bind fun _ _ => ?_
      split
      · exact .pure trivial
      refine (execs index statement (part statement List.mem_cons_self)).bind fun flow left => ?_
      cases flow with
      | completed => exact ih (fun later member => part later (List.mem_cons_of_mem _ member)) _
      | suspended delay pending =>
          dsimp only
          split
          · exact .pure left
          · refine .pure fun entry member => ?_
            rcases List.mem_append.mp member with inner | last
            · exact left entry inner
            · rw [List.mem_singleton.mp last]
              exact own

theorem chooseBranch_fails {eval : Expr → Run σ Value} {runBlock : Block → Run σ Flow}
    (otherwise : Option Block) {alternatives : List (Expr × Block)}
    (conditions : ∀ alternative ∈ alternatives, Fails onLine (eval alternative.1))
    (blocks : ∀ block ∈ alternatives.map (·.2) ++ otherwise.toList,
      FailsOn onLine (Flow.Inside inside) (runBlock block)) :
    FailsOn onLine (Flow.Inside inside) (chooseBranch eval runBlock otherwise alternatives) := by
  induction alternatives with
  | nil =>
      cases otherwise with
      | none => exact .pure trivial
      | some block => exact blocks block (List.mem_singleton_self block)
  | cons alternative rest ih =>
      refine (conditions alternative List.mem_cons_self).bind fun _ _ => ?_
      refine (FailsOn.read _).bind fun _ _ => ?_
      split
      · exact blocks alternative.2 List.mem_cons_self
      · exact ih (fun other member => conditions other (List.mem_cons_of_mem _ member))
          fun block member => blocks block (List.mem_cons_of_mem _ member)

theorem nextRound_fails {eval : Expr → Run σ Value} {statement : Statement}
    (here : onLine statement.line)
    (evals : ∀ expr ∈ statement.expressions, Fails onLine (eval expr))
    (loop : LoopState) :
    FailsOn onLine (fun opened => ∀ round ∈ opened, round.1 ∈ statement.blocks)
      (nextRound eval statement loop) := by
  unfold nextRound
  split
  · refine (evals _ List.mem_cons_self).bind fun _ _ => (FailsOn.read _).bind fun _ _ => ?_
    split
    · exact .pure (by simp [Statement.blocks])
    · exact .pure (by simp)
  · refine .pure ?_
    split <;> simp [Statement.blocks]
  · split
    · exact .pure (by simp)
    · exact (FailsOn.modify _).bind fun _ _ => .pure (by simp [Statement.blocks])
  · exact .fail here

theorem afterRound_fails : Fails onLine (afterRound : Run σ Bool) where
  error {state error after} same := by
    rw [afterRound_eq] at same
    cases same
  result _ := trivial

theorem execParts_fails (setting : Setting σ) {eval : Expr → Run σ Value}
    {runBlock : Block → Run σ Flow} {runLoop : LoopState → Run σ Flow} {statement : Statement}
    (here : onLine statement.line)
    (evals : ∀ expr ∈ statement.expressions, Fails onLine (eval expr))
    (blocks : ∀ block ∈ statement.blocks, FailsOn onLine (Flow.Inside inside) (runBlock block))
    (loops : ∀ loop, FailsOn onLine (Flow.Inside inside) (runLoop loop)) :
    FailsOn onLine (Flow.Inside inside)
      (execParts setting.manner eval runBlock runLoop statement) := by
  cases statement with
  | branch line condition yes alternatives otherwise =>
      refine chooseBranch_fails otherwise (fun alternative member => evals _ ?_) blocks
      exact List.mem_map_of_mem (f := Prod.fst) member
  | whileLoop line condition body => exact loops _
  | forLoop line name subject body =>
      refine (evals subject List.mem_cons_self).bind fun _ _ => (FailsOn.read _).bind fun _ _ => ?_
      exact loops _
  | repeatLoop line count body =>
      exact (evals count List.mem_cons_self).bind fun _ _ => loops _
  | wait line delay =>
      exact (evals delay List.mem_cons_self).bind fun _ _ => .pure nofun
  | giveBack line value =>
      cases value with
      | none =>
          have given : Fails onLine (pure .null : Run σ Value) := .pure trivial
          exact given.bind fun _ _ => (FailsOn.modify _).bind fun _ _ => .pure trivial
      | some value =>
          refine (evals value List.mem_cons_self).bind fun _ _ => ?_
          exact (FailsOn.modify _).bind fun _ _ => .pure trivial
  | breakOut line => exact (FailsOn.modify _).bind fun _ _ => .pure trivial
  | continueOn line => exact (FailsOn.modify _).bind fun _ _ => .pure trivial
  | assign line name value =>
      refine (evals value List.mem_cons_self).bind fun _ _ => ?_
      exact (FailsOn.modify _).bind fun _ _ => .pure trivial
  | compound line name op value =>
      refine (variableValue_fails _ name).bind fun _ _ => ?_
      refine (evals value List.mem_cons_self).bind fun _ _ => (FailsOn.onHeap _).bind fun _ _ => ?_
      exact (FailsOn.modify _).bind fun _ _ => .pure trivial
  | store line key value =>
      refine (evals key List.mem_cons_self).bind fun _ _ => (FailsOn.read _).bind fun _ _ => ?_
      refine (evals value (by simp [Statement.expressions])).bind fun _ _ => ?_
      exact (FailsOn.modify _).bind fun _ _ => .pure trivial
  | storeCompound line key op value =>
      refine (evals key List.mem_cons_self).bind fun _ _ => (FailsOn.read _).bind fun _ _ => ?_
      refine (evals value (by simp [Statement.expressions])).bind fun _ _ => ?_
      split
      · exact (FailsOn.modify _).bind fun _ _ => .pure trivial
      · refine (FailsOn.read _).bind fun _ _ => (FailsOn.onHeap _).bind fun _ _ => ?_
        exact (FailsOn.modify _).bind fun _ _ => .pure trivial
  | effect line name arguments =>
      simp only [execParts]
      split
      · exact .fail here
      · refine (FailsOn.forEach evals).bind fun _ _ => ?_
        exact (perform_fails _ name _ here).bind fun _ _ => .pure trivial
  | evaluate line value => exact (evals value List.mem_cons_self).bind fun _ _ => .pure trivial

end Interpreter

namespace Manner

open Interpreter Run

variable {σ : Type} {setting : Setting σ} {inside : Statement → Prop} {onLine : Nat → Prop}

structure FailsWithin (setting : Setting σ) (inside : Statement → Prop) (onLine : Nat → Prop)
    (room : Nat) : Prop where
  eval : ∀ {expr}, NodesOn onLine expr → Fails onLine (setting.manner.evalWithin room expr)
  exec : ∀ {statements} index, (∀ statement ∈ statements, inside statement) →
    ∀ statement ∈ statements, FailsOn onLine (Flow.Inside inside)
      (setting.manner.execWithin room statements index statement)
  loop : ∀ {statements} index, (∀ statement ∈ statements, inside statement) →
    ∀ statement ∈ statements, ∀ loop, FailsOn onLine (Flow.Inside inside)
      (setting.manner.loopWithin room statements index statement loop)

theorem FailsWithin.block {room : Nat} (within : FailsWithin setting inside onLine room)
    {block : Block} (own : ∀ statement ∈ block.statements, inside statement) :
    FailsOn onLine (Flow.Inside inside)
      (inOrder (setting.manner.execWithin room block.statements) block.statements 0
        block.statements) :=
  inOrder_fails own (fun index => within.exec index own) (fun _ member => member) 0

theorem FailsWithin.call {room : Nat} (within : FailsWithin setting inside onLine room)
    (functions : ∀ name function, setting.functions.get? name = some function →
      ∀ statement ∈ function.body.statements, inside statement)
    (name : String) (arguments : List Value) (line : Nat) (here : onLine line) :
    Fails onLine (call setting setting.manner.enter (fun block =>
      inOrder (setting.manner.execWithin room block.statements) block.statements 0
        block.statements) name arguments line) := by
  unfold Interpreter.call
  cases found : setting.functions.get? name with
  | none => exact callBuiltin_fails _ name arguments here
  | some function =>
      exact callFunction_fails _ _ (within.block (functions name function found)).fails _ here

theorem failsWithin (territory : Territory inside onLine)
    (functions : ∀ name function, setting.functions.get? name = some function →
      ∀ statement ∈ function.body.statements, inside statement) (room : Nat) :
    FailsWithin setting inside onLine room := by
  induction room with
  | zero =>
      have stops {α : Type} {fits : α → Prop} :
          FailsOn onLine fits (Run.stop setting.manner.beyond : Run σ α) :=
        ⟨nofun, nofun⟩
      exact ⟨fun _ => stops, fun _ _ _ _ => stops, fun _ _ _ _ _ => stops⟩
  | succ room ih =>
      constructor
      · intro expr on
        refine (charge_fails _).bind fun _ _ => ?_
        exact evalParts_fails (variableValue_fails setting.limits) (fun _ => ih.eval)
          (ih.call functions) on
      · intro statements index own statement member
        have mine := own statement member
        refine (charge_fails _).bind fun _ _ => ?_
        exact execParts_fails setting (territory.line mine)
          (fun expr among => ih.eval (territory.nodes mine expr among))
          (fun block among => ih.block (territory.blocks mine block among))
          (ih.loop index own statement member)
      · intro statements index own statement member loop
        have mine := own statement member
        refine (charge_fails _).bind fun _ _ => ?_
        refine (nextRound_fails (territory.line mine)
          (fun expr among => ih.eval (territory.nodes mine expr among)) loop).bind ?_
        intro opened fits
        cases opened with
        | none => exact .pure trivial
        | some round =>
            refine (ih.block (territory.blocks mine _ (fits round rfl))).bind fun flow left => ?_
            cases flow with
            | suspended delay pending =>
                refine .pure fun entry among => ?_
                rcases List.mem_append.mp among with inner | last
                · exact left entry inner
                · rw [List.mem_singleton.mp last]
                  exact own
            | completed =>
                refine afterRound_fails.bind fun more _ => ?_
                split
                · exact ih.loop index own statement member _
                · exact .pure trivial

section Handlers

variable (territory : Territory inside onLine)
  (functions : ∀ name function, setting.functions.get? name = some function →
    ∀ statement ∈ function.body.statements, inside statement)

theorem withRoom_fails {α : Type} {fits : α → Prop} (machine : Machine) {run : Nat → Run σ α}
    (each : ∀ room, FailsOn onLine fits (run room)) :
    FailsOn onLine fits (withRoom machine run) :=
  ⟨fun same => (each _).error same, fun same => (each _).result same⟩

include territory functions

theorem execFrom_fails {statements : List Statement}
    (own : ∀ statement ∈ statements, inside statement) (next : Nat) :
    FailsOn onLine (Flow.Inside inside) (setting.manner.execFrom statements next) :=
  withRoom_fails _ fun room =>
    inOrder_fails own (fun index => (failsWithin territory functions room).exec index own)
      (fun _ member => List.mem_of_mem_drop member) next

theorem resumeOne_fails {entry : Pending} (own : entry.Inside inside) :
    FailsOn onLine (Flow.Inside inside) (setting.manner.resumeOne entry) := by
  cases entry with
  | block statements next => exact execFrom_fails territory functions own next
  | loop statements index loop =>
      refine afterRound_fails.bind fun more _ => ?_
      split
      · split
        · rename_i statement found
          refine withRoom_fails _ fun room => ?_
          exact (failsWithin territory functions room).loop index own statement
            (List.mem_of_getElem? found) loop
        · exact .pure trivial
      · exact .pure trivial

theorem resume_fails {pending : List Pending} (own : ∀ entry ∈ pending, entry.Inside inside) :
    FailsOn onLine (Flow.Inside inside) (setting.manner.resume pending) := by
  induction pending with
  | nil => exact .pure trivial
  | cons entry rest ih =>
      have later : ∀ other ∈ rest, other.Inside inside := fun other member =>
        own other (List.mem_cons_of_mem _ member)
      refine (resumeOne_fails territory functions (own entry List.mem_cons_self)).bind ?_
      intro flow left
      cases flow with
      | completed => exact ih later
      | suspended delay pending =>
          refine .pure fun other member => ?_
          exact (List.mem_append.mp member).elim (left other) (later other)

end Handlers

end Manner

end EventScript
