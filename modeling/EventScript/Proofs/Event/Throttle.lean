import Mathlib.Data.List.Induction
import EventScript.Event.Throttle

/-!
What the throttle forgets does not matter. It is compared with a memory that keeps, until it is
cleared, the time at which each event last went through for each actor. As long as the clock does
not go back, both let the same firings through.
-/

namespace EventScript.Event.Throttle

inductive Request where
  | allow (event actor : String) (now : Nat)
  | clear

def Request.time? : Request → Option Nat
  | .allow _ _ now => some now
  | .clear => none

def serve (throttle : Throttle) : Request → Throttle
  | .allow event actor now => (throttle.allow event actor now).2
  | .clear => .clear

def after (history : List Request) : Throttle := history.foldl serve {}

def admits (history : List Request) (event actor : String) (now : Nat) : Bool :=
  ((after history).allow event actor now).1

def times (history : List Request) : List Nat := history.filterMap Request.time?

def Ordered (history : List Request) : Prop := (times history).Pairwise (· ≤ ·)

instance (history : List Request) : Decidable (Ordered history) :=
  inferInstanceAs (Decidable (List.Pairwise _ _))

def Memory : Type := HighFrequency → String → Option Nat

namespace Memory

def empty : Memory := fun _ _ => none

/-- Whether a firing goes through: always if the event is no continuous one, and else unless the
last one of the same event and actor was less than the interval ago. -/
def admits (memory : Memory) (event actor : String) (now : Nat) : Bool :=
  match HighFrequency.ofName? event with
  | none => true
  | some event =>
    match memory event actor with
    | none => true
    | some last => decide (last + throttleInterval ≤ now)

def note (memory : Memory) (event : HighFrequency) (actor : String) (now : Nat) : Memory :=
  fun other who => if other = event ∧ who = actor then some now else memory other who

def serve (memory : Memory) : Request → Memory
  | .clear => empty
  | .allow event actor now =>
    match HighFrequency.ofName? event with
    | none => memory
    | some kind => if memory.admits event actor now then memory.note kind actor now else memory

def after (history : List Request) : Memory := history.foldl serve empty

end Memory

section Steps

variable {throttle : Throttle} {memory : Memory} {event actor : String} {kind : HighFrequency}
  {now : Nat}

theorem after_append (history : List Request) (request : Request) :
    after (history ++ [request]) = (after history).serve request := by
  rw [after, List.foldl_append]
  rfl

theorem Memory.after_append (history : List Request) (request : Request) :
    Memory.after (history ++ [request]) = (Memory.after history).serve request := by
  rw [Memory.after, List.foldl_append]
  rfl

theorem isRecent_iff (firing : Firing) :
    isRecent now firing = true ↔ now < firing.time + throttleInterval := by
  rw [isRecent, decide_eq_true_iff, throttleInterval]
  omega

theorem allow_free (other : HighFrequency.ofName? event = none) :
    throttle.allow event actor now = (true, throttle) := by
  simp only [allow, other]

theorem allow_held (named : HighFrequency.ofName? event = some kind)
    (held : (throttle.allow event actor now).1 = false) :
    (throttle.allow event actor now).2 = throttle := by
  simp only [allow, named] at held ⊢
  split at held
  · rename_i recent
    rw [if_pos recent]
  · cases held

theorem allow_through (named : HighFrequency.ofName? event = some kind)
    (through : (throttle.allow event actor now).1 = true) :
    (throttle.allow event actor now).2.firings =
      ⟨kind, actor, now⟩ :: throttle.firings.filter (isRecent now) := by
  simp only [allow, named] at through ⊢
  split at through
  · cases through
  · rename_i old
    rw [if_neg old]

end Steps

/-- The throttle holds only what the memory holds, and all of it that can still hold back a firing
when the clock shows this time. -/
structure Recalls (throttle : Throttle) (memory : Memory) (clock : Nat) : Prop where
  held : ∀ firing ∈ throttle.firings, memory firing.event firing.actor = some firing.time
  recent : ∀ firing : Firing, memory firing.event firing.actor = some firing.time →
    clock < firing.time + throttleInterval → firing ∈ throttle.firings
  past : ∀ event actor time, memory event actor = some time → time ≤ clock

namespace Recalls

variable {throttle : Throttle} {memory : Memory} {clock now : Nat}

theorem new (clock : Nat) : Recalls {} Memory.empty clock := ⟨nofun, nofun, nofun⟩

theorem later (recalls : Recalls throttle memory clock) (forward : clock ≤ now) :
    Recalls throttle memory now where
  held := recalls.held
  recent firing noted young := recalls.recent firing noted (by omega)
  past event actor time noted := Nat.le_trans (recalls.past event actor time noted) forward

theorem holdsBack_iff (recalls : Recalls throttle memory now) (event : HighFrequency)
    (actor : String) :
    (throttle.last? event actor).any (isRecent now) = true ↔
      ∃ time, memory event actor = some time ∧ now < time + throttleInterval := by
  simp only [Option.any_eq_true_iff_get, Option.isSome_iff_exists]
  constructor
  · rintro ⟨⟨firing, found⟩, recent⟩
    simp only [found, Option.get_some, isRecent_iff] at recent
    have same := List.find?_some found
    simp only [Bool.and_eq_true, beq_iff_eq] at same
    have noted := recalls.held firing (List.mem_of_find?_eq_some found)
    rw [same.1, same.2] at noted
    exact ⟨firing.time, noted, recent⟩
  · rintro ⟨time, noted, young⟩
    have there := recalls.recent ⟨event, actor, time⟩ noted young
    cases found : throttle.last? event actor with
    | none =>
        have missed := List.find?_eq_none.mp found _ there
        simp at missed
    | some firing =>
        have same := List.find?_some found
        simp only [Bool.and_eq_true, beq_iff_eq] at same
        have other := recalls.held firing (List.mem_of_find?_eq_some found)
        rw [same.1, same.2, noted] at other
        refine ⟨⟨firing, rfl⟩, ?_⟩
        rw [Option.get_some, isRecent_iff, ← Option.some.inj other]
        exact young

theorem admits_eq (recalls : Recalls throttle memory now) (event actor : String) :
    (throttle.allow event actor now).1 = memory.admits event actor now := by
  simp only [allow, Memory.admits]
  cases HighFrequency.ofName? event with
  | none => rfl
  | some kind =>
      have holdsBack := recalls.holdsBack_iff kind actor
      simp only
      cases noted : memory kind actor with
      | none =>
          have free : ¬(throttle.last? kind actor).any (isRecent now) = true := by
            simp [holdsBack, noted]
          rw [if_neg free]
      | some last =>
          simp only [noted, Option.some.injEq, exists_eq_left'] at holdsBack
          by_cases young : now < last + throttleInterval
          · rw [if_pos (holdsBack.mpr young)]
            simp only [Bool.false_eq, decide_eq_false_iff_not]
            omega
          · rw [if_neg (fun held => young (holdsBack.mp held))]
            simp only [Bool.true_eq, decide_eq_true_eq]
            omega

theorem note (recalls : Recalls throttle memory now) {event : HighFrequency} {actor : String}
    (free : ∀ last, memory event actor = some last → last + throttleInterval ≤ now) :
    Recalls ⟨⟨event, actor, now⟩ :: throttle.firings.filter (isRecent now)⟩
      (memory.note event actor now) now := by
  -- The new firing takes the place of an older one of the same event and actor, which is too old
  -- to be kept beside it.
  constructor
  · intro firing member
    rcases List.mem_cons.mp member with rfl | kept
    · exact if_pos ⟨rfl, rfl⟩
    · obtain ⟨there, recent⟩ := List.mem_filter.mp kept
      have young := (isRecent_iff firing).mp recent
      have noted := recalls.held firing there
      rw [Memory.note, if_neg]
      · exact noted
      · rintro ⟨rfl, rfl⟩
        have old := free firing.time noted
        omega
  · intro firing noted young
    simp only [Memory.note] at noted
    split at noted
    · rename_i same
      obtain ⟨kind, who, time⟩ := firing
      obtain ⟨rfl, rfl⟩ := same
      cases noted
      exact List.mem_cons_self
    · refine List.mem_cons_of_mem _ (List.mem_filter.mpr ⟨?_, (isRecent_iff firing).mpr young⟩)
      exact recalls.recent firing noted young
  · intro other who time noted
    simp only [Memory.note] at noted
    split at noted
    · exact Nat.le_of_eq (Option.some.inj noted).symm
    · exact recalls.past other who time noted

theorem serve_allow (recalls : Recalls throttle memory now) (event actor : String) :
    Recalls (throttle.serve (.allow event actor now)) (memory.serve (.allow event actor now))
      now := by
  have same := recalls.admits_eq event actor
  simp only [serve, Memory.serve]
  cases named : HighFrequency.ofName? event with
  | none =>
      rw [allow_free named]
      exact recalls
  | some kind =>
      simp only
      cases through : memory.admits event actor now with
      | false =>
          rw [allow_held named (same.trans through)]
          exact recalls
      | true =>
          have firings := allow_through named (same.trans through)
          have free : ∀ last, memory kind actor = some last → last + throttleInterval ≤ now := by
            intro last noted
            simp only [Memory.admits, named, noted, decide_eq_true_eq] at through
            exact through
          have next := recalls.note free
          rw [← firings] at next
          exact next

theorem mem_iff (recalls : Recalls throttle memory now) {event actor : String}
    (through : (throttle.allow event actor now).1 = true)
    (continuous : (HighFrequency.ofName? event).isSome = true) (firing : Firing) :
    firing ∈ (throttle.serve (.allow event actor now)).firings ↔
      memory.serve (.allow event actor now) firing.event firing.actor = some firing.time ∧
        now < firing.time + throttleInterval := by
  have next := recalls.serve_allow event actor
  refine ⟨fun member => ⟨next.held firing member, ?_⟩, fun ⟨noted, young⟩ =>
    next.recent firing noted young⟩
  obtain ⟨kind, named⟩ := Option.isSome_iff_exists.mp continuous
  rw [serve, allow_through named through] at member
  rcases List.mem_cons.mp member with rfl | kept
  · exact Nat.lt_add_of_pos_right (by decide)
  · exact (isRecent_iff firing).mp (List.mem_filter.mp kept).2

end Recalls

section Runs

theorem held_unchanged {history : List Request} {event actor : String} {now : Nat}
    (held : admits history event actor now = false) :
    after (history ++ [.allow event actor now]) = after history := by
  rw [after_append, serve]
  cases named : HighFrequency.ofName? event with
  | none => rw [allow_free named]
  | some kind => exact allow_held named held

theorem Ordered.before {earlier later : List Request} {event actor : String} {now : Nat}
    (ordered : Ordered (earlier ++ .allow event actor now :: later)) :
    Ordered earlier ∧ ∀ time ∈ times earlier, time ≤ now := by
  rw [Ordered, times, List.filterMap_append, List.pairwise_append] at ordered
  refine ⟨ordered.1, fun time member => ordered.2.2 time member now ?_⟩
  exact List.mem_filterMap.mpr ⟨_, List.mem_cons_self, rfl⟩

/-- Whatever the clock shows after the last request, the throttle recalls what matters from then
on. -/
theorem recalls_after {history : List Request} (ordered : Ordered history) {now : Nat}
    (latest : ∀ time ∈ times history, time ≤ now) :
    Recalls (after history) (Memory.after history) now := by
  induction history using List.reverseRecOn generalizing now with
  | nil => exact .new now
  | append_singleton earlier request ih =>
      rw [after_append, Memory.after_append]
      cases request with
      | clear => exact .new now
      | allow event actor time =>
          obtain ⟨inOrder, sooner⟩ := ordered.before
          refine ((ih inOrder sooner).serve_allow event actor).later (latest time ?_)
          simp [times, Request.time?]

theorem Memory.serve_forward (memory : Memory) (event who : String) (now : Nat)
    {kind : HighFrequency} {actor : String} {first : Nat} (noted : memory kind actor = some first) :
    ∃ last, first ≤ last ∧ memory.serve (.allow event who now) kind actor = some last := by
  have still : ∃ last, first ≤ last ∧ memory kind actor = some last :=
    ⟨first, Nat.le_refl first, noted⟩
  simp only [Memory.serve]
  cases named : HighFrequency.ofName? event with
  | none => exact still
  | some other =>
      simp only
      split
      · rename_i through
        simp only [Memory.note]
        split
        · rename_i same
          obtain ⟨rfl, rfl⟩ := same
          simp only [Memory.admits, named, noted, decide_eq_true_eq] at through
          exact ⟨now, by omega, rfl⟩
        · exact still
      · exact still

theorem Memory.forward {between : List Request} (kept : Request.clear ∉ between) {memory : Memory}
    {kind : HighFrequency} {actor : String} {first : Nat} (noted : memory kind actor = some first) :
    ∃ last, first ≤ last ∧ between.foldl serve memory kind actor = some last := by
  induction between generalizing memory first with
  | nil => exact ⟨first, Nat.le_refl first, noted⟩
  | cons request between ih =>
      rw [List.mem_cons, not_or] at kept
      have step : ∃ last, first ≤ last ∧ memory.serve request kind actor = some last := by
        cases request with
        | clear => exact absurd rfl kept.1
        | allow event who now => exact memory.serve_forward event who now noted
      obtain ⟨middle, later, there⟩ := step
      obtain ⟨last, more, held⟩ := ih kept.2 there
      exact ⟨last, Nat.le_trans later more, held⟩

end Runs

/-- Pruning neither weakens nor strengthens the throttle. Every firing is let through or held back
as by a memory that forgets nothing. A firing that is held back leaves the throttle as it was, and
after one of a continuous event that goes through the throttle holds exactly what went through
within the last interval. Two firings of one event for one actor that go through are at least the
interval apart, unless the throttle was cleared in between. -/
theorem pruning_invisible {history : List Request} (ordered : Ordered history) :
    (∀ earlier event actor now later, history = earlier ++ .allow event actor now :: later →
      admits earlier event actor now = (Memory.after earlier).admits event actor now ∧
      (admits earlier event actor now = false →
        after (earlier ++ [.allow event actor now]) = after earlier) ∧
      (admits earlier event actor now = true → (HighFrequency.ofName? event).isSome = true →
        ∀ firing, firing ∈ (after (earlier ++ [.allow event actor now])).firings ↔
          Memory.after (earlier ++ [.allow event actor now]) firing.event firing.actor =
            some firing.time ∧ now < firing.time + throttleInterval)) ∧
    ∀ earlier event actor first between name second later kind,
      history =
        earlier ++ .allow event actor first :: between ++ .allow name actor second :: later →
      HighFrequency.ofName? event = some kind → HighFrequency.ofName? name = some kind →
      Request.clear ∉ between → admits earlier event actor first = true →
      admits (earlier ++ .allow event actor first :: between) name actor second = true →
      first + throttleInterval ≤ second := by
  constructor
  · rintro earlier event actor now later rfl
    obtain ⟨inOrder, sooner⟩ := ordered.before
    have recalls := recalls_after inOrder sooner
    refine ⟨recalls.admits_eq event actor, held_unchanged, fun through continuous firing => ?_⟩
    rw [after_append, Memory.after_append]
    exact recalls.mem_iff through continuous firing
  · rintro earlier event actor first between name second later kind rfl named alike kept one two
    obtain ⟨inOrder, sooner⟩ := ordered.before
    obtain ⟨before, earliest⟩ := inOrder.before
    have noted : (Memory.after earlier).serve (.allow event actor first) kind actor =
        some first := by
      have through := (recalls_after before earliest).admits_eq event actor
      rw [← admits, one] at through
      simp only [Memory.serve, named, ← through, ↓reduceIte, Memory.note, and_self]
    obtain ⟨last, forward, held⟩ := Memory.forward kept noted
    have through := (recalls_after inOrder sooner).admits_eq name actor
    have whole : Memory.after (earlier ++ .allow event actor first :: between) kind actor =
        some last := by
      rw [Memory.after, List.foldl_append]
      exact held
    rw [← admits, two] at through
    simp only [Memory.admits, alike, whole, Bool.true_eq, decide_eq_true_eq] at through
    omega

/-- The firing of another actor makes the throttle forget the first one, and yet the next firing of
that actor is let through as by the memory, and later than the interval. -/
theorem pruned_goes_through :
    let history : List Request := [.allow "player-move" "a" 0,
      .allow "Player Move" "b" 1500000000, .allow "player-move" "a" 1600000000]
    Ordered history ∧ (after (history.take 2)).size = 1 ∧
      admits (history.take 2) "player-move" "a" 1600000000 =
        (Memory.after (history.take 2)).admits "player-move" "a" 1600000000 ∧
      0 + throttleInterval ≤ 1600000000 := by
  have ordered : Ordered [.allow "player-move" "a" 0, .allow "Player Move" "b" 1500000000,
      .allow "player-move" "a" 1600000000] := by decide
  obtain ⟨answers, apart⟩ := pruning_invisible ordered
  refine ⟨ordered, by decide +kernel, (answers _ _ _ _ [] rfl).1, ?_⟩
  exact apart [] "player-move" "a" 0 [.allow "Player Move" "b" 1500000000] "player-move" 1600000000
    [] .move rfl (by decide +kernel) (by decide +kernel) (by simp) (by decide +kernel)
    (by decide +kernel)

end EventScript.Event.Throttle
