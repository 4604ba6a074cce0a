import Mathlib
import EventScript.CommandLine.Watch
import EventScript.Proofs.Engine.HandOver
import EventScript.Proofs.Engine.Shutdown

/-!
Books on a watch: on every handler that was scheduled, every one that came back and every report.
Whatever happens, a timer, a save or the deadline, in whatever order, the watch counts as waiting
exactly those that were scheduled and have not come back; it is over only if there are none, or else
it leaves just these behind.
-/

namespace EventScript.CommandLine

namespace Watch

def handed (engine : Engine Output) : List Continuation :=
  match engine.scheduler with
  | .timers handed => handed
  | _ => []

def refusal : Except (Stop StoreError) Unit → Option StoreError
  | .error (.failed error) => some error
  | _ => none

/-- A watch and the books on it. -/
structure Ledger where
  watch : Watch
  scheduled : List Continuation
  received : List Continuation := []
  reports : List Report
  /-- Why the watch broke off, if the store could not be saved. -/
  refused : Option StoreError := none

namespace Ledger

def GoesOn (ledger : Ledger) : Prop := ledger.watch.isOver = false ∧ ledger.refused = none

def returned (ledger : Ledger) (watch : Watch) (continuation : Continuation) (report : Report) :
    Ledger :=
  { ledger with
    watch := (watch.receive (.due continuation)).2
    scheduled := ledger.scheduled ++ handed (watch.engine.resume continuation).2
    received := ledger.received ++ [continuation]
    reports := ledger.reports ++ [report] }

def saved (ledger : Ledger) (watch : Watch) : Ledger :=
  let (outcome, watch) := watch.receive .autosave
  { ledger with
    watch
    refused := refusal outcome }

/-- What can happen to a watch at any time: any of the timers that run may end, the store may be due
to be saved, and the deadline may come, or whoever waits breaks off, which is the same. There is
nothing after a handler that is lost. -/
inductive Step : Ledger → Ledger → Prop
  | due {ledger : Ledger} {before after : List (Nat × Continuation)} {ending : Nat}
      {continuation : Continuation} {report : Report} (now : Nat) (goesOn : ledger.GoesOn)
      (runs : ledger.watch.timers = before ++ (ending, continuation) :: after)
      (reported : (ledger.watch.engine.resume continuation).1 = .ok report) :
      Step ledger
        (ledger.returned { ledger.watch with now, timers := before ++ after } continuation report)
  | autosave {ledger : Ledger} (now : Nat) (goesOn : ledger.GoesOn) :
      Step ledger (ledger.saved { ledger.watch with now })
  | deadline {ledger : Ledger} (now : Nat) (goesOn : ledger.GoesOn) :
      Step ledger { ledger with watch := ({ ledger.watch with now }.receive .deadline).2 }

/-- The books are in order; `first` is the report on what was fired. -/
structure Balanced (first : Report) (ledger : Ledger) : Prop where
  /-- Whoever was scheduled has either come back once or has a timer. -/
  books : ledger.scheduled.Perm (ledger.received ++ ledger.watch.timers.map (·.2))
  waiting : ledger.watch.waiting + ledger.received.length = ledger.scheduled.length
  /-- Whenever a handler can come back, the count can be lowered. -/
  positive : ledger.watch.timers ≠ [] → 0 < ledger.watch.waiting
  resumed : ∃ later, ledger.reports = first :: later ∧ later.length = ledger.received.length ∧
    ∀ report ∈ later, report.entered = 1
  entered : ledger.watch.entered = first.entered + ledger.received.length
  failures : ledger.watch.failures = (ledger.reports.map fun report => report.failures.length).sum
  /-- Who is left behind at the end are all who have not come back. -/
  abandoned : ledger.watch.isOver = true →
    ledger.watch.abandoned + ledger.received.length = ledger.scheduled.length
  nobody : ledger.watch.isOver = true → ledger.watch.abandoned = 0 → ledger.watch.timers = []

/-- What every step keeps. -/
structure Kept (first : Report) (ledger : Ledger) : Prop where
  collected : ledger.watch.engine.scheduler = .timers []
  opened : ledger.watch.engine.closed = false
  books : ledger.scheduled.Perm (ledger.received ++ ledger.watch.timers.map (·.2))
  waiting : ledger.watch.waiting = ledger.watch.timers.length
  abandoned : ledger.watch.abandoned = 0 ∨ ledger.watch.abandoned = ledger.watch.waiting
  resumed : ∃ later, ledger.reports = first :: later ∧ later.length = ledger.received.length ∧
    ∀ report ∈ later, report.entered = 1
  entered : ledger.watch.entered = first.entered + ledger.received.length
  failures : ledger.watch.failures = (ledger.reports.map fun report => report.failures.length).sum

variable {first : Report} {ledger after : Ledger}

theorem Kept.balanced (kept : Kept first ledger) : Balanced first ledger := by
  have total := kept.books.length_eq
  rw [List.length_append, List.length_map] at total
  have counted := kept.waiting
  have settled : ledger.watch.isOver = true → ledger.watch.abandoned = ledger.watch.waiting := by
    intro ended
    simp only [isOver, Bool.or_eq_true, beq_iff_eq, bne_iff_ne, ne_eq] at ended
    rcases kept.abandoned with none | same <;> omega
  refine ⟨kept.books, by omega, ?_, kept.resumed, kept.entered, kept.failures, ?_, ?_⟩
  · intro some
    rw [counted]
    exact List.length_pos_iff.mpr some
  · intro ended
    rw [settled ended]
    omega
  · intro ended none
    rw [settled ended, counted] at none
    exact List.length_eq_zero_iff.mp none

end Ledger

theorem handOver_timers (handed paused : List Continuation) :
    Engine.handOver (.timers handed) paused = .timers (handed ++ paused) := by
  induction paused generalizing handed with
  | nil => rw [List.append_nil]; rfl
  | cons continuation paused ih =>
      have next := ih (handed ++ [continuation])
      rw [List.append_assoc] at next
      exact next

namespace Ledger

variable {first : Report} {ledger after : Ledger}

theorem GoesOn.fresh (goesOn : ledger.GoesOn) : ledger.watch.abandoned = 0 := by
  have running := goesOn.1
  simp only [isOver, Bool.or_eq_false_iff, bne_eq_false_iff_eq] at running
  exact running.2

theorem Kept.resumes (kept : Kept first ledger) (continuation : Continuation) :
    ∃ paused, ledger.watch.engine.HandsOver continuation.frame.budget
        (ledger.watch.engine.resume continuation) paused ∧ paused.length ≤ 1 ∧
      (ledger.watch.engine.resume continuation).2.scheduler = .timers paused := by
  obtain ⟨paused, hands, few⟩ := Engine.resume_handsOver kept.opened continuation
  refine ⟨paused, hands, few, ?_⟩
  rw [hands.scheduler, kept.collected, handOver_timers, List.nil_append]

end Ledger

section Following

open Relation

variable {watch : Watch}

def sooner (first : Option (Nat × Continuation)) (timer : Nat × Continuation) :
    Option (Nat × Continuation) :=
  match first with
  | none => some timer
  | some earlier => if timer.1 < earlier.1 then some timer else first

def turn (watch : Watch) : Except (Stop StoreError) Unit × Watch :=
  watch.nextSignal.2.receive watch.nextSignal.1

end Following

end Watch

end EventScript.CommandLine
