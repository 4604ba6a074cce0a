import EventScript.Proofs.Dictionary
import EventScript.Proofs.Program.CommandLines
import EventScript.Script

/-!
What the tables of a loaded script hold, told from its program alone: the handlers of an event are
its event blocks in the order of the source, and the commands are those that no later command of the
same name replaces.
-/

namespace EventScript.Script

open EventScript.Program (LinesApart)

def handlerFor (event : String) : Item → Option EventHandler
  | .event handler => if Event.normalize handler.event = event then some handler else none
  | _ => none

def commandFor (name : String) : Item → Option Command
  | .command command => if name = Text.lower command.name then some command else none
  | _ => none

/-- A command of the program that no later command of the same name replaces. -/
def Survives (program : Program) (command : Command) : Prop :=
  ∃ earlier later, program = earlier ++ .command command :: later ∧
    ∀ other, .command other ∈ later → Text.lower other.name ≠ Text.lower command.name

/-- The tables of a script are the ones its program defines, in whatever order they hold them. -/
structure Tabled (script : Script) : Prop where
  handlers : ∀ event, script.handlersOf event = script.program.filterMap (handlerFor event)
  commands : ∀ name command, script.commands.get? name = some command ↔
    name = Text.lower command.name ∧ Survives script.program command
  linesApart : script.program.Pairwise LinesApart

theorem handlersOf_addItem (script : Script) (item : Item) (event : String) :
    (script.addItem item).handlersOf event =
      script.handlersOf event ++ (handlerFor event item).toList := by
  cases item with
  | event handler =>
      simp only [addItem, handlersOf, handlerFor, Dictionary.get?_put]
      by_cases same : Event.normalize handler.event = event
      · simp [same]
      · simp [same, Ne.symm same]
  | command command => simp [addItem, handlersOf, handlerFor]
  | function function => simp [addItem, handlersOf, handlerFor]
  | stray statement => simp [addItem, handlersOf, handlerFor]

theorem handlersOf_foldl (script : Script) (items : List Item) (event : String) :
    (items.foldl addItem script).handlersOf event =
      script.handlersOf event ++ items.filterMap (handlerFor event) := by
  induction items generalizing script with
  | nil => simp
  | cons item rest ih =>
      rw [List.foldl_cons, ih, handlersOf_addItem, List.append_assoc]
      cases found : handlerFor event item <;> simp [found]

theorem commands_addItem (script : Script) (item : Item) (name : String) :
    (script.addItem item).commands.get? name =
      (commandFor name item).or (script.commands.get? name) := by
  cases item with
  | command command =>
      simp only [addItem, commandFor, Dictionary.get?_put]
      split <;> rfl
  | event handler => rfl
  | function function => rfl
  | stray statement => rfl

theorem commandFor_eq_some_iff {name : String} {item : Item} {command : Command} :
    commandFor name item = some command ↔
      item = .command command ∧ name = Text.lower command.name := by
  cases item with
  | command found =>
      simp only [commandFor, Item.command.injEq]
      by_cases same : name = Text.lower found.name
      · simp only [if_pos same, Option.some.injEq]
        exact ⟨fun found => ⟨found, found ▸ same⟩, And.left⟩
      · simp only [if_neg same, reduceCtorEq, false_iff, not_and]
        rintro rfl
        exact same
  | event handler => simp [commandFor]
  | function function => simp [commandFor]
  | stray statement => simp [commandFor]

theorem commandFor_eq_none_iff {name : String} {item : Item} :
    commandFor name item = none ↔
      ∀ command, item = .command command → Text.lower command.name ≠ name := by
  rw [Option.eq_none_iff_forall_ne_some]
  simp only [ne_eq, commandFor_eq_some_iff, not_and]
  exact ⟨fun other command same name => other command same name.symm,
    fun other command same name => other command same name.symm⟩

theorem findSome?_commandFor {program : Program} {name : String} {command : Command} :
    program.reverse.findSome? (commandFor name) = some command ↔
      name = Text.lower command.name ∧ Survives program command := by
  rw [List.findSome?_eq_some_iff]
  constructor
  · rintro ⟨later, item, earlier, split, found, none⟩
    obtain ⟨rfl, named⟩ := commandFor_eq_some_iff.mp found
    refine ⟨named, earlier.reverse, later.reverse, ?_, fun other member => ?_⟩
    · rw [← program.reverse_reverse, split]
      simp
    · exact named ▸ commandFor_eq_none_iff.mp (none _ (List.mem_reverse.mp member)) other rfl
  · rintro ⟨rfl, earlier, later, rfl, last⟩
    refine ⟨later.reverse, .command command, earlier.reverse, by simp,
      commandFor_eq_some_iff.mpr ⟨rfl, rfl⟩, fun item member => ?_⟩
    refine commandFor_eq_none_iff.mpr fun other same => ?_
    exact last other (same ▸ List.mem_reverse.mp member)

theorem ofProgram_program (name : String) (program : Program) :
    (ofProgram name program).name = name ∧ (ofProgram name program).program = program := by
  suffices kept : ∀ (items : List Item) (script : Script),
      (items.foldl addItem script).name = script.name ∧
        (items.foldl addItem script).program = script.program from kept program _
  intro items
  induction items with
  | nil => exact fun _ => ⟨rfl, rfl⟩
  | cons item rest ih =>
      intro script
      obtain ⟨name, program⟩ := ih (script.addItem item)
      cases item <;> exact ⟨name, program⟩

theorem ofProgram_tabled (name : String) {program : Program}
    (apart : program.Pairwise LinesApart) : (ofProgram name program).Tabled := by
  obtain ⟨_, same⟩ := ofProgram_program name program
  refine ⟨fun event => ?_, fun key command => ?_, ?_⟩
  · rw [same]
    exact handlersOf_foldl { name, program } program event
  · rw [same, ← findSome?_commandFor, ofProgram,
      Dictionary.lookup_foldl (fun script : Script => script.commands.get? key)
        fun script item => commands_addItem script item key]
    simp
  · rw [same]
    exact apart

theorem compile_tabled {name source : String} {script : Script}
    (reads : compile name source = .ok script) : script.name = name ∧ script.Tabled := by
  unfold compile at reads
  cases parsed : Program.parse source with
  | error error => rw [parsed] at reads; cases reads
  | ok program =>
      rw [parsed] at reads
      cases reads
      exact ⟨(ofProgram_program name program).1,
        ofProgram_tabled name (Program.parse_linesApart parsed)⟩

end EventScript.Script
