import EventScript.CommandLine
import EventScript.Proofs.CommandLine.Ledger

/-!
Watches that begin with an event or a command. Their books are in order from the beginning, and they
come to an end by themselves: every handler that comes back has less left to pay with, and saves
happen at fixed times.
-/

namespace EventScript.CommandLine

def prepared (machine : Machine) (settings : Settings) (files : Files) (folder : String) :
    Engine Output :=
  let (_, store, heap) := Store.openAt settings.dataFile files {}
  loadScripts (engineFor machine settings store heap consoleEffects) files folder

namespace Watch

section Ending

end Ending

section Opening

structure Ready (settings : Settings) (engine : Engine Output) : Prop where
  scheduler : engine.scheduler = .timers []
  opened : engine.closed = false
  limits : engine.limits = settings.limits
  effects : engine.effects = consoleEffects

theorem Ready.handed {settings : Settings} {engine : Engine Output} (ready : Ready settings engine)
    {budget : Nat} {outcome : Except Loss Report × Engine Output} {paused : List Continuation}
    (hands : engine.HandsOver budget outcome paused) : outcome.2.scheduler = .timers paused := by
  rw [hands.scheduler, ready.scheduler, handOver_timers, List.nil_append]

def opened (settings : Settings) (files : Files) (ticks : Nat) (report : Report)
    (served : Engine Output) : Watch :=
  let watch : Watch := { engine := served, files, settings }
  { watch with
    deadline := watch.timeOf ticks
    nextSave := settings.autosaveInterval?.map fun seconds => 1000 * seconds }.absorb report

def opening (watch : Watch) (report : Report) (served : Engine Output) : Ledger :=
  { watch, scheduled := handed served, reports := [report] }

end Opening

end Watch

end EventScript.CommandLine
