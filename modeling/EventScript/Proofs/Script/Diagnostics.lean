import EventScript.Proofs.Interpreter.FaultLines
import EventScript.Proofs.Script

/-!
Diagnostics point at the right line: what is wrong with a source text stands on one of its lines,
all that is in a header of a program stands on the line of the header, and the handlers and commands
of a script fail on lines of its headers.
-/

namespace EventScript

namespace Program

open EventScript.Statement (blockOutline)

/-- A statement of the program begins on the line, or an `else if`. -/
def HeaderLine (tokens : List Token) (program : Program) (line : Nat) : Prop :=
  ∃ entry ∈ outline program, entry.2.line = line ∨
    ∃ alternative ∈ entry.2.alternatives, ElseIf tokens line alternative.1

def Holds (program : Program) (held : Statement) : Prop :=
  ∃ around, ∀ entry ∈ held.outline around, entry ∈ outline program

variable {tokens : List Token} {last : Nat} {program : Program}

theorem Holds.mem {held : Statement} (holds : program.Holds held) :
    ∃ around, (around, held) ∈ outline program := by
  obtain ⟨around, inside⟩ := holds
  refine ⟨around, inside _ ?_⟩
  rw [Statement.outline_eq]
  exact List.mem_cons_self

theorem holds_of_block {around : Nat} {block : Block}
    (inside : ∀ entry ∈ blockOutline around block, entry ∈ outline program) :
    ∀ held ∈ block.statements, program.Holds held := by
  intro held member
  refine ⟨around, fun entry own => inside entry ?_⟩
  rw [blockOutline, Statement.rowOutline_eq]
  exact List.mem_flatMap.mpr ⟨held, member, own⟩

theorem holds_of_item {item : Item} (member : item ∈ program) {block : Block}
    (body : itemOutline item = blockOutline 1 block) :
    ∀ held ∈ block.statements, program.Holds held :=
  holds_of_block fun _ own => List.mem_flatMap.mpr ⟨item, member, body ▸ own⟩

theorem Located.territory
    (located : ∀ entry ∈ outline program, Located tokens last entry.2) :
    Territory program.Holds (HeaderLine tokens program) where
  line holds := by
    obtain ⟨around, member⟩ := holds.mem
    exact ⟨_, member, .inl rfl⟩
  nodes {held} holds expr among node path := by
    obtain ⟨around, member⟩ := holds.mem
    have site := located _ member
    rw [Statement.expressions_eq] at among
    rcases List.mem_append.mp among with own | later
    · exact ⟨_, member, .inl (site.own expr own node path).symm⟩
    · obtain ⟨alternative, other, rfl⟩ := List.mem_map.mp later
      obtain ⟨line, elseIf, _, nodes⟩ := site.elseIfs alternative other
      exact ⟨_, member, .inr ⟨alternative, other, nodes node path ▸ elseIf⟩⟩
  blocks {held} holds block among := by
    obtain ⟨around, inside⟩ := holds
    have within : ∀ entry ∈ blockOutline (around + 1) block, entry ∈ outline program := by
      refine fun entry own => inside entry ?_
      rw [Statement.outline_eq]
      exact List.mem_cons_of_mem _ (List.mem_flatMap.mpr ⟨block, among, own⟩)
    exact holds_of_block within

end Program

namespace Script

open EventScript.Program (HeaderLine Located outline parse parse_of_view)

variable {σ : Type} {name : String} {program : Program}

def functionFor (key : String) : Item → Option Function
  | .function function => if key = Text.lower function.name then some function else none
  | _ => none

theorem functions_addItem (script : Script) (item : Item) (key : String) :
    (script.addItem item).functions.get? key =
      (functionFor key item).or (script.functions.get? key) := by
  cases item with
  | function function =>
      simp only [addItem, functionFor, Dictionary.get?_put]
      split <;> rfl
  | event handler => rfl
  | command command => rfl
  | stray statement => rfl

theorem function_mem {key : String} {function : Function}
    (found : (ofProgram name program).functions.get? key = some function) :
    Item.function function ∈ program := by
  rw [ofProgram, Dictionary.lookup_foldl (fun script : Script => script.functions.get? key)
    fun script item => functions_addItem script item key] at found
  rw [show (Script.functions { name, program }).get? key = none from rfl, Option.or_none] at found
  obtain ⟨item, member, own⟩ := List.exists_of_findSome?_eq_some found
  cases item with
  | function other =>
      rw [functionFor] at own
      split at own
      · cases own
        exact List.mem_reverse.mp member
      · cases own
  | _ => cases own

theorem command_mem {key : String} {command : Command}
    (found : (ofProgram name program).commands.get? key = some command) :
    Item.command command ∈ program := by
  rw [ofProgram, Dictionary.lookup_foldl (fun script : Script => script.commands.get? key)
    fun script item => commands_addItem script item key] at found
  rw [show (Script.commands { name, program }).get? key = none from rfl, Option.or_none] at found
  obtain ⟨item, member, own⟩ := List.exists_of_findSome?_eq_some found
  rw [← (commandFor_eq_some_iff.mp own).1]
  exact List.mem_reverse.mp member

theorem handler_mem {event : String} {handler : EventHandler}
    (member : handler ∈ (ofProgram name program).handlersOf event) :
    Item.event handler ∈ program := by
  rw [ofProgram, handlersOf_foldl] at member
  obtain ⟨item, among, own⟩ :=
    List.mem_filterMap.mp ((List.mem_append.mp member).resolve_left List.not_mem_nil)
  cases item with
  | event other =>
      rw [handlerFor] at own
      split at own
      · cases own
        exact among
      · cases own
  | _ => cases own

/-- How the runs of the handlers and commands of a script end, in whatever state they begin or are
gone on with, on whatever machine and with whatever limits and effects there are then. -/
inductive Ends (script : Script) : Except (Stop RunError) Flow × RunState σ → Prop
  | handled {event : String} {handler : EventHandler} {effects : Effects σ} {limits : Limits}
      {machine : Machine} {state : RunState σ} : handler ∈ script.handlersOf event →
      Ends script
        (Interpreter.execBlock ⟨script.functions, effects, limits, machine⟩ handler.body state)
  | commanded {key : String} {command : Command} {effects : Effects σ} {limits : Limits}
      {machine : Machine} {state : RunState σ} : script.commands.get? key = some command →
      Ends script
        (Interpreter.execBlock ⟨script.functions, effects, limits, machine⟩ command.body state)
  | resumed {delay : Nat} {pending : List Pending} {effects : Effects σ} {limits : Limits}
      {machine : Machine} {paused state : RunState σ} :
      Ends script (.ok (.suspended delay pending), paused) →
      Ends script
        (Interpreter.resume ⟨script.functions, effects, limits, machine⟩ pending state)

/-- A run fails on the line of a header of the script, and a pause leaves work in the script. -/
theorem Ends.confined {tokens : List Token} {last : Nat}
    (located : ∀ entry ∈ outline program, Located tokens last entry.2)
    {outcome : Except (Stop RunError) Flow × RunState σ}
    (ends : (ofProgram name program).Ends outcome) :
    (∀ error, outcome.1 = .error (.failed error) → error.On (HeaderLine tokens program)) ∧
      ∀ flow, outcome.1 = .ok flow → flow.Inside program.Holds := by
  have territory := Located.territory located
  have functions (key : String) (function : Function)
      (found : (ofProgram name program).functions.get? key = some function) :
      ∀ statement ∈ function.body.statements, program.Holds statement :=
    Program.holds_of_item (function_mem found) rfl
  have told {run : Run σ Flow} (fails : run.FailsOn (HeaderLine tokens program)
      (Flow.Inside program.Holds)) (state : RunState σ) :
      (∀ error, (run state).1 = .error (.failed error) → error.On (HeaderLine tokens program)) ∧
        ∀ flow, (run state).1 = .ok flow → flow.Inside program.Holds :=
    ⟨fun _ same => fails.error (Prod.ext same rfl), fun _ same => fails.result (Prod.ext same rfl)⟩
  induction ends with
  | handled member =>
      have own := Program.holds_of_item (handler_mem member) rfl
      exact told (Manner.execFrom_fails territory functions own 0) _
  | commanded found =>
      have own := Program.holds_of_item (command_mem found) rfl
      exact told (Manner.execFrom_fails territory functions own 0) _
  | resumed _ ih => exact told (Manner.resume_fails territory functions (ih.2 _ rfl)) _

/-- What is wrong with a source text stands on one of its lines. In a program that is read, what is
in a header of a statement or of an `else if` says that it stands on the line of the header; and
when a run of a handler or a command fails with a line, that is the line of a header. -/
theorem diagnostics_located (source : String) :
    match parse source with
    | .error error => 1 ≤ error.line ∧ error.line ≤ 1 + source.toList.count '\n'
    | .ok program => ∃ tokens, Token.scan source = .ok tokens ∧
      (∀ entry ∈ outline program, Located tokens (1 + source.toList.count '\n') entry.2) ∧
      ∀ (name : String) (σ : Type) (outcome : Except (Stop RunError) Flow × RunState σ),
        (ofProgram name program).Ends outcome → ∀ message line,
          outcome.1 = .error (.failed (.script message line)) → HeaderLine tokens program line := by
  cases parsed : parse source with
  | error error => exact Program.parse_error_line parsed
  | ok program =>
      obtain ⟨tokens, scanned, located⟩ := Program.parse_located parsed
      refine ⟨tokens, scanned, located, fun name σ outcome ends message line failed => ?_⟩
      exact (ends.confined located).1 _ failed

theorem elseIf_blamed :
    let source := "on go:\n  if false:\n    log\n  else if nope():\n    log\n"
    let begun : RunState Unit := ⟨.withBudget 20, {}, { host := () }, []⟩
    ∃ program, parse source = .ok program ∧
      ∃ handler ∈ (ofProgram "a" program).handlersOf "go",
        let setting : Setting Unit := { functions := (ofProgram "a" program).functions }
        (Interpreter.execBlock setting handler.body begun).1 =
            .error (.failed (.script "Unknown function: nope()" 4)) ∧
          ∃ tokens, Token.scan source = .ok tokens ∧ HeaderLine tokens program 4 := by
  intro source begun
  have shape : ((parse source).toOption.map fun program =>
      ((ofProgram "a" program).handlersOf "go").head?.map fun handler =>
        let setting : Setting Unit := { functions := (ofProgram "a" program).functions }
        match (Interpreter.execBlock setting handler.body begun).1 with
        | .ok _ => none
        | .error error => some error) =
      some (some (some (.failed (.script "Unknown function: nope()" 4)))) := by decide +kernel
  obtain ⟨program, parsed, seen⟩ := parse_of_view shape
  obtain ⟨handler, first, fault⟩ := Option.map_eq_some_iff.mp seen
  have member := List.mem_of_mem_head? first
  refine ⟨program, parsed, handler, member, ?_⟩
  intro setting
  have failed : (Interpreter.execBlock setting handler.body begun).1 =
      .error (.failed (.script "Unknown function: nope()" 4)) := by
    dsimp only at fault
    split at fault
    · cases fault
    · rename_i error same
      rw [same, Option.some.inj fault]
  have known := diagnostics_located source
  rw [parsed] at known
  obtain ⟨tokens, scanned, _, blamed⟩ := known
  exact ⟨failed, tokens, scanned, blamed "a" Unit _ (.handled member) _ _ failed⟩

end Script

end EventScript
