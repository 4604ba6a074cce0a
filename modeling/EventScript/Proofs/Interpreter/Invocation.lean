import EventScript.Proofs.Interpreter.Lockstep

/-!
Invocations: a handler that is run, and that is resumed in the frame it left each time it pauses.
-/

namespace EventScript

namespace Manner

variable {σ : Type}

/-- How an invocation stands after some resumptions, given how its first run ended. Once it does not
pause any more, it stays as it is. -/
def afterResumptions (manner : Manner σ) (first : Except (Stop RunError) Flow × RunState σ) :
    Nat → Except (Stop RunError) Flow × RunState σ
  | 0 => first
  | rounds + 1 =>
    match manner.afterResumptions first rounds with
    | (.ok (.suspended _ pending), state) => manner.resume pending state
    | outcome => outcome

def Settled (outcome : Except (Stop RunError) Flow × RunState σ) : Prop :=
  ∀ delay pending, outcome.1 ≠ .ok (.suspended delay pending)

theorem settled_or_paused (outcome : Except (Stop RunError) Flow × RunState σ) :
    Settled outcome ∨ ∃ delay pending state, outcome = (.ok (.suspended delay pending), state) := by
  obtain ⟨result, state⟩ := outcome
  cases result with
  | error error => exact .inl nofun
  | ok flow =>
      cases flow with
      | completed => exact .inl nofun
      | suspended delay pending => exact .inr ⟨delay, pending, state, rfl⟩

variable {manner other : Manner σ} {first second : Except (Stop RunError) Flow × RunState σ}
  {rounds : Nat}

theorem afterResumptions_paused {delay : Nat} {pending : List Pending} {state : RunState σ}
    (paused : manner.afterResumptions first rounds = (.ok (.suspended delay pending), state)) :
    manner.afterResumptions first (rounds + 1) = manner.resume pending state := by
  rw [afterResumptions, paused]

theorem afterResumptions_settled (settled : Settled (manner.afterResumptions first rounds)) :
    manner.afterResumptions first (rounds + 1) = manner.afterResumptions first rounds := by
  rw [afterResumptions]
  split
  · rename_i delay pending state paused
    rw [paused] at settled
    exact absurd rfl (settled delay pending)
  · rfl

theorem afterResumptions_ending {bond : Bond σ}
    (resumes : ∀ pending, Run.Agree bond (manner.resume pending) (other.resume pending))
    (ending : bond.Ending first second) (rounds : Nat) :
    bond.Ending (manner.afterResumptions first rounds) (other.afterResumptions second rounds) := by
  induction rounds with
  | zero => exact ending
  | succ rounds ih =>
      rw [afterResumptions, afterResumptions]
      generalize manner.afterResumptions first rounds = left at ih
      generalize other.afterResumptions second rounds = right at ih
      -- A run that was cut short is not resumed, while the other one may be: that is where the
      -- agreement of the second run alone is needed.
      cases ih with
      | @finished flow left right running =>
          cases flow with
          | completed => exact .finished running
          | suspended delay pending => exact (resumes pending).lockstep running
      | failed failed => exact .failed failed
      | @cut error left outcome right cut =>
          rcases settled_or_paused (outcome, right) with settled | ⟨delay, pending, _, paused⟩
          · simp only
            split
            · rename_i delay pending _ paused
              simp only [Prod.mk.injEq] at paused
              exact absurd paused.1 (settled delay pending)
            · exact .cut cut
          · simp only [Prod.mk.injEq] at paused
            simp only [paused.1]
            exact .cut ((resumes pending).alone cut)

end Manner

end EventScript
