import EventScript.Effect
import EventScript.Proofs.Dictionary

/-! What holds of every handler of a host. -/

namespace EventScript.Effects

variable {σ : Type}

def All (kind : Handler σ → Prop) (effects : Effects σ) : Prop :=
  ∀ name handler, effects.get? name = some handler → kind handler

variable {kind : Handler σ → Prop} {effects : Effects σ}

theorem All.mono {other : Handler σ → Prop} (all : All kind effects)
    (weaker : ∀ handler, kind handler → other handler) : All other effects :=
  fun name handler found => weaker handler (all name handler found)

theorem all_empty : All kind ({} : Effects σ) := by
  intro name handler found
  simp [get?] at found

theorem get?_register {name verb : String} {handler found : Handler σ}
    (reached : (effects.register name handler).get? verb = some found) :
    found = handler ∨ effects.get? verb = some found := by
  simp only [get?, register, Dictionary.get?_put, Option.or_eq_some_iff] at reached ⊢
  rcases reached with direct | ⟨missed, lower⟩
  · split at direct
    · exact .inl (Option.some.inj direct).symm
    · exact .inr (.inl direct)
  · split at missed
    · cases missed
    · split at lower
      · exact .inl (Option.some.inj lower).symm
      · exact .inr (.inr ⟨missed, lower⟩)

theorem All.register (all : All kind effects) (name : String) {handler : Handler σ}
    (ofKind : kind handler) : All kind (effects.register name handler) := by
  intro verb found reached
  rcases get?_register reached with same | earlier
  · rw [same]
    exact ofKind
  · exact all verb found earlier

theorem core_all (cancelling : ∀ cancelled, kind (Handler.cancelling cancelled))
    (logging : kind Handler.logging) (settingLocal : kind Handler.settingLocal) :
    All kind (core : Effects σ) := by
  refine All.register ?_ "set-local" settingLocal
  refine All.register ?_ "log" logging
  refine All.register ?_ "uncancel" (cancelling false)
  exact all_empty.register "cancel" (cancelling true)

end EventScript.Effects
