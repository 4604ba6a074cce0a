import EventScript.Dictionary
import EventScript.Event
import EventScript.Program.Parser

/-!
A loaded script: its program, and its handlers, commands and functions by name. Several handlers of
one event are kept in the order of the source; of several commands or functions of one name only the
last counts.
-/

namespace EventScript

structure Script where
  name : String
  program : Program
  handlers : Dictionary (List EventHandler) := {}
  commands : Dictionary Command := {}
  functions : Dictionary Function := {}

namespace Script

def addItem (script : Script) : Item → Script
  | .event handler =>
    let event := Event.normalize handler.event
    let earlier := (script.handlers.get? event).getD []
    { script with handlers := script.handlers.put event (earlier ++ [handler]) }
  | .command command =>
    { script with commands := script.commands.put (Text.lower command.name) command }
  | .function function =>
    { script with functions := script.functions.put (Text.lower function.name) function }
  | .stray _ => script

def ofProgram (name : String) (program : Program) : Script :=
  program.foldl addItem { name, program }

def compile (name source : String) : Except SourceError Script :=
  (Program.parse source).map (ofProgram name)

def handlersOf (script : Script) (event : String) : List EventHandler :=
  (script.handlers.get? event).getD []

def strayCount (script : Script) : Nat :=
  (script.program.filter fun
    | .stray _ => true
    | _ => false).length

end Script

end EventScript
