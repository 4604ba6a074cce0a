import Mathlib
import EventScript.TickQueue
import EventScript.Proofs.KeyedSort

/-!
What a queue delivers over a whole history of requests. Work is told apart by the place of the
request that scheduled it. It waits from there until the first advance that brings the clock to its
due tick, which releases it, or until the queue is cleared.
-/

namespace EventScript.TickQueue

variable {α : Type}

inductive Request (α : Type) where
  | schedule (delay : Nat) (work : α)
  | advance (ticks : Nat)
  | clear

namespace Request

def ticks : Request α → Nat
  | .advance ticks => ticks
  | _ => 0

def isSchedule : Request α → Bool
  | .schedule .. => true
  | _ => false

end Request

def serve (queue : TickQueue α) : Request α → List α × TickQueue α
  | .schedule delay work => ([], queue.schedule delay work)
  | .advance ticks => queue.advance ticks
  | .clear => ([], queue.clear)

def after (history : List (Request α)) : TickQueue α :=
  history.foldl (fun queue request => (queue.serve request).2) {}

def releasedAt (history : List (Request α)) (place : Nat) : List α :=
  match history[place]? with
  | some request => ((after (history.take place)).serve request).1
  | none => []

def clearedAt (history : List (Request α)) (place : Nat) : Nat :=
  match history[place]? with
  | some .clear => (after (history.take place)).size
  | _ => 0

/-- What the clock shows before the request at this place: all ticks so far, up to the last one. -/
def clockAt (history : List (Request α)) (place : Nat) : Nat :=
  min ((history.take place).map Request.ticks).sum lastTick

structure Ticket (α : Type) where
  place : Nat
  due : Nat
  work : α

namespace Ticket

/-- The request at the ticket's place scheduled its work, to be due after a delay from then on. -/
def Issued (history : List (Request α)) (ticket : Ticket α) : Prop :=
  ∃ delay, history[ticket.place]? = some (.schedule delay ticket.work) ∧
    ticket.due = min (clockAt history ticket.place + delay) lastTick

/-- Nothing between the ticket and this place has cleared the queue or reached the due tick. -/
def Waits (history : List (Request α)) (ticket : Ticket α) (place : Nat) : Prop :=
  ticket.place < place ∧ ∀ between, ticket.place < between → between < place →
    history[between]? ≠ some .clear ∧
    ∀ ticks, history[between]? = some (.advance ticks) → clockAt history (between + 1) < ticket.due

/-- The request at this place is the first advance after which the clock has reached the due tick,
and the queue was not cleared in between. -/
def FallsDue (history : List (Request α)) (ticket : Ticket α) (place : Nat) : Prop :=
  ticket.Waits history place ∧ (∃ ticks, history[place]? = some (.advance ticks)) ∧
    ticket.due ≤ clockAt history (place + 1)

def Before (first second : Ticket α) : Prop :=
  first.due < second.due ∨ first.due = second.due ∧ first.place < second.place

def entry (ticket : Ticket α) : Nat × α := (ticket.due, ticket.work)

def isDueBy (first second : Ticket α) : Bool := decide (first.due ≤ second.due)

theorem waits_succ {history : List (Request α)} {ticket : Ticket α} {place : Nat} :
    ticket.Waits history (place + 1) ↔ ticket.place = place ∨ ticket.Waits history place ∧
      history[place]? ≠ some .clear ∧
      ∀ ticks, history[place]? = some (.advance ticks) →
        clockAt history (place + 1) < ticket.due := by
  constructor
  · rintro ⟨earlier, unbroken⟩
    by_cases same : ticket.place = place
    · exact .inl same
    · refine .inr ⟨⟨by omega, ?_⟩, unbroken place (by omega) (by omega)⟩
      intro between lower upper
      exact unbroken between lower (by omega)
  · rintro (rfl | ⟨⟨earlier, unbroken⟩, last⟩)
    · refine ⟨by omega, ?_⟩
      intro between lower upper
      omega
    · refine ⟨by omega, ?_⟩
      intro between lower upper
      by_cases same : between = place
      · subst between
        exact last
      · exact unbroken between lower (by omega)

theorem FallsDue.unique {history : List (Request α)} {ticket : Ticket α} {first second : Nat}
    (one : ticket.FallsDue history first) (two : ticket.FallsDue history second) :
    first = second := by
  obtain ⟨⟨firstLater, firstWaits⟩, ⟨firstTicks, firstAdvance⟩, firstDue⟩ := one
  obtain ⟨⟨secondLater, secondWaits⟩, ⟨secondTicks, secondAdvance⟩, secondDue⟩ := two
  rcases Nat.lt_trichotomy first second with less | same | more
  · have waiting := (secondWaits first firstLater less).2 firstTicks firstAdvance
    omega
  · exact same
  · have waiting := (firstWaits second secondLater more).2 secondTicks secondAdvance
    omega

end Ticket

section Order

variable {tickets : List (Ticket α)}

theorem filter_mergeSort_due (tickets : List (Ticket α)) (due : Nat) :
    (tickets.mergeSort Ticket.isDueBy).filter (fun ticket => decide (ticket.due = due)) =
      tickets.filter fun ticket => decide (ticket.due = due) :=
  KeyedSort.filter_mergeSort tickets due

theorem pairwise_before
    (ordered : tickets.Pairwise fun first second => first.place < second.place) :
    (tickets.mergeSort Ticket.isDueBy).Pairwise Ticket.Before := by
  have sorted : (tickets.mergeSort Ticket.isDueBy).Pairwise fun first second =>
      first.due ≤ second.due := KeyedSort.ascending_mergeSort tickets
  rw [List.pairwise_iff_forall_sublist] at sorted ordered ⊢
  intro first second found
  have inOrder := sorted found
  by_cases same : first.due = second.due
  · have alike := found.filter fun ticket => decide (ticket.due = second.due)
    rw [filter_mergeSort_due] at alike
    simp only [List.filter_cons, same, decide_true, if_true, List.filter_nil] at alike
    exact .inr ⟨same, ordered (alike.trans List.filter_sublist)⟩
  · left
    omega

end Order

/-- The queue before the request at this place holds these tickets, in the order of their places. -/
structure Holding (history : List (Request α)) (place : Nat) (queue : TickQueue α)
    (tickets : List (Ticket α)) : Prop where
  now : queue.now = clockAt history place
  entries : queue.entries = tickets.map Ticket.entry
  mem_iff : ∀ ticket, ticket ∈ tickets ↔ ticket.Issued history ∧ ticket.Waits history place
  ordered : tickets.Pairwise fun first second => first.place < second.place

section Steps

variable {history : List (Request α)} {place : Nat}

theorem clockAt_succ {request : Request α} (found : history[place]? = some request) :
    clockAt history (place + 1) = laterTick (clockAt history place) request.ticks := by
  simp only [clockAt, laterTick, List.take_add_one, found, Option.toList_some, List.map_append,
    List.sum_append, List.map_cons, List.map_nil, List.sum_singleton]
  omega

theorem after_succ {request : Request α} (found : history[place]? = some request) :
    after (history.take (place + 1)) = ((after (history.take place)).serve request).2 := by
  simp [after, List.take_add_one, found]

theorem Holding.schedule {queue : TickQueue α} {tickets : List (Ticket α)} {delay : Nat} {work : α}
    (holding : Holding history place queue tickets)
    (found : history[place]? = some (.schedule delay work)) :
    Holding history (place + 1) (queue.schedule delay work)
      (tickets ++ [⟨place, queue.dueAfter delay, work⟩]) := by
  have still : clockAt history (place + 1) = clockAt history place := by
    rw [clockAt_succ found]
    simp only [clockAt, laterTick, Request.ticks]
    omega
  refine ⟨?_, ?_, ?_, ?_⟩
  · rw [still]
    exact holding.now
  · simp [TickQueue.schedule, holding.entries, Ticket.entry]
  · intro ticket
    rw [List.mem_append, List.mem_singleton, holding.mem_iff, Ticket.waits_succ, found]
    constructor
    · rintro (⟨issued, waits⟩ | rfl)
      · exact ⟨issued, .inr ⟨waits, by simp, by simp⟩⟩
      · refine ⟨⟨delay, found, ?_⟩, .inl rfl⟩
        simp [dueAfter, laterTick, holding.now]
    · rintro ⟨issued, same | ⟨waits, _⟩⟩
      · right
        obtain ⟨other, scheduled, due⟩ := issued
        obtain ⟨ticketPlace, ticketDue, ticketWork⟩ := ticket
        simp only at same scheduled due
        subst ticketPlace
        rw [found] at scheduled
        simp only [Option.some.injEq, Request.schedule.injEq] at scheduled
        obtain ⟨rfl, rfl⟩ := scheduled
        simp [dueAfter, laterTick, holding.now, due]
      · exact .inl ⟨issued, waits⟩
  · rw [List.pairwise_append]
    refine ⟨holding.ordered, List.pairwise_singleton _ _, ?_⟩
    intro first member second last
    rw [List.mem_singleton.mp last]
    exact ((holding.mem_iff first).mp member).2.1

theorem Holding.filter {queue next : TickQueue α} {tickets : List (Ticket α)}
    {request : Request α} {waiting : Ticket α → Bool}
    (holding : Holding history place queue tickets) (found : history[place]? = some request)
    (idle : request.isSchedule = false) (now : next.now = laterTick queue.now request.ticks)
    (entries : next.entries = (tickets.filter waiting).map Ticket.entry)
    (waits : ∀ ticket, waiting ticket = true ↔ history[place]? ≠ some .clear ∧
      ∀ ticks, history[place]? = some (.advance ticks) →
        clockAt history (place + 1) < ticket.due) :
    Holding history (place + 1) next (tickets.filter waiting) := by
  refine ⟨?_, entries, ?_, holding.ordered.filter _⟩
  · rw [now, clockAt_succ found, holding.now]
  · intro ticket
    rw [List.mem_filter, holding.mem_iff, waits, Ticket.waits_succ]
    constructor
    · rintro ⟨⟨issued, before⟩, on⟩
      exact ⟨issued, .inr ⟨before, on⟩⟩
    · rintro ⟨issued, same | ⟨before, on⟩⟩
      · obtain ⟨delay, scheduled, _⟩ := issued
        rw [same, found] at scheduled
        cases scheduled
        cases idle
      · exact ⟨⟨issued, before⟩, on⟩

theorem Holding.advance {queue : TickQueue α} {tickets : List (Ticket α)} {ticks : Nat}
    (holding : Holding history place queue tickets)
    (found : history[place]? = some (.advance ticks)) :
    Holding history (place + 1) (queue.advance ticks).2
      (tickets.filter fun ticket => !decide (ticket.due ≤ clockAt history (place + 1))) := by
  have now : laterTick queue.now ticks = clockAt history (place + 1) := by
    rw [clockAt_succ found, holding.now]
    rfl
  refine holding.filter found rfl rfl ?_ ?_
  · simp only [TickQueue.advance, now, holding.entries, List.filter_map]
    rfl
  · intro ticket
    simp [found]

theorem Holding.clear {queue : TickQueue α} {tickets : List (Ticket α)}
    (holding : Holding history place queue tickets) (found : history[place]? = some .clear) :
    Holding history (place + 1) queue.clear (tickets.filter fun _ => false) := by
  refine holding.filter found rfl ?_ (by simp [TickQueue.clear]) (by simp [found])
  have within : queue.now ≤ lastTick := by
    rw [holding.now, clockAt]
    omega
  simp only [TickQueue.clear, laterTick, Request.ticks]
  omega

theorem holding_after (history : List (Request α)) (place : Nat) (within : place ≤ history.length) :
    ∃ tickets, Holding history place (after (history.take place)) tickets := by
  induction place with
  | zero =>
      refine ⟨[], by simp [after, clockAt], by simp [after], ?_, .nil⟩
      intro ticket
      simp [Ticket.Waits]
  | succ place ih =>
      obtain ⟨tickets, holding⟩ := ih (by omega)
      have found : history[place]? = some history[place] := List.getElem?_eq_getElem _
      rw [after_succ found]
      cases request : history[place] with
      | schedule delay work =>
          rw [request] at found
          exact ⟨_, holding.schedule found⟩
      | advance ticks =>
          rw [request] at found
          exact ⟨_, holding.advance found⟩
      | clear =>
          rw [request] at found
          exact ⟨_, holding.clear found⟩

theorem Holding.released {queue : TickQueue α} {tickets : List (Ticket α)} {ticks : Nat}
    (holding : Holding history place queue tickets)
    (found : history[place]? = some (.advance ticks)) :
    (queue.advance ticks).1 = ((tickets.filter fun ticket =>
      decide (ticket.due ≤ clockAt history (place + 1))).mergeSort Ticket.isDueBy).map
        Ticket.work := by
  have now : laterTick queue.now ticks = clockAt history (place + 1) := by
    rw [clockAt_succ found, holding.now]
    rfl
  simp only [TickQueue.advance, now, holding.entries, List.filter_map]
  rw [← List.map_mergeSort (f := Ticket.entry) (r := Ticket.isDueBy) fun _ _ _ _ => rfl,
    List.map_map]
  rfl

theorem released_tickets (history : List (Request α)) (place : Nat) :
    ∃ tickets : List (Ticket α), releasedAt history place = tickets.map Ticket.work ∧
      (∀ ticket, ticket ∈ tickets ↔ ticket.Issued history ∧ ticket.FallsDue history place) ∧
      tickets.Pairwise Ticket.Before := by
  have idle : (∀ ticks, history[place]? ≠ some (.advance ticks)) → ∀ ticket : Ticket α,
      ticket ∈ [] ↔ ticket.Issued history ∧ ticket.FallsDue history place := by
    intro other ticket
    simp [Ticket.FallsDue, other]
  cases found : history[place]? with
  | none => exact ⟨[], by simp [releasedAt, found], idle (by simp [found]), .nil⟩
  | some request =>
      cases request with
      | schedule delay work =>
          exact ⟨[], by simp [releasedAt, found, serve], idle (by simp [found]), .nil⟩
      | clear => exact ⟨[], by simp [releasedAt, found, serve], idle (by simp [found]), .nil⟩
      | advance ticks =>
          have within : place < history.length := (List.getElem?_eq_some_iff.mp found).1
          obtain ⟨tickets, holding⟩ := holding_after history place (by omega)
          have released := holding.released found
          refine ⟨_, ?_, ?_, pairwise_before (holding.ordered.filter fun ticket =>
            decide (ticket.due ≤ clockAt history (place + 1)))⟩
          · simp only [releasedAt, found, serve, released]
          · intro ticket
            rw [List.mem_mergeSort, List.mem_filter, holding.mem_iff, decide_eq_true_eq]
            simp [Ticket.FallsDue, found, and_assoc]

end Steps

section Counting

theorem serve_size (queue : TickQueue α) (request : Request α) :
    (queue.serve request).2.size + (queue.serve request).1.length +
        (match request with | .clear => queue.size | _ => 0) =
      queue.size + if request.isSchedule then 1 else 0 := by
  cases request with
  | schedule delay work => simp [serve, schedule, size, Request.isSchedule]
  | clear => simp [serve, clear, size, Request.isSchedule]
  | advance ticks =>
      have parts := List.length_eq_length_filter_add (l := queue.entries)
        fun entry => decide (entry.1 ≤ laterTick queue.now ticks)
      simp only [serve, TickQueue.advance, size, List.length_map, List.length_mergeSort,
        Request.isSchedule]
      simp only [Bool.false_eq_true, if_false]
      omega

theorem size_after (history : List (Request α)) (place : Nat) (within : place ≤ history.length) :
    (after (history.take place)).size +
        ∑ earlier ∈ Finset.range place, (releasedAt history earlier).length +
        ∑ earlier ∈ Finset.range place, clearedAt history earlier =
      (history.take place).countP Request.isSchedule := by
  induction place with
  | zero => simp [after, size]
  | succ place ih =>
      have found : history[place]? = some history[place] := List.getElem?_eq_getElem _
      have before := ih (by omega)
      have step := serve_size (after (history.take place)) history[place]
      have released : releasedAt history place =
          ((after (history.take place)).serve history[place]).1 := by
        rw [releasedAt, found]
      have cleared : clearedAt history place = (match history[place] with
          | .clear => (after (history.take place)).size
          | _ => 0) := by
        rw [clearedAt, found]
        cases history[place] <;> rfl
      rw [after_succ found, Finset.sum_range_succ, Finset.sum_range_succ, released, cleared,
        List.take_add_one, found, List.countP_append, Option.toList_some, List.countP_singleton]
      omega

end Counting

/-- Over every history of requests to a new queue, each request releases, sorted by due tick and
then by the order of scheduling, exactly the work that falls due at it; no work falls due twice; and
what waits at the end is what was scheduled less what was released and what was cleared. -/
theorem delivers_once (history : List (Request α)) :
    (∀ place, ∃ tickets : List (Ticket α), releasedAt history place = tickets.map Ticket.work ∧
      (∀ ticket, ticket ∈ tickets ↔ ticket.Issued history ∧ ticket.FallsDue history place) ∧
      tickets.Pairwise Ticket.Before) ∧
    (∀ (ticket : Ticket α) first second, ticket.FallsDue history first →
      ticket.FallsDue history second → first = second) ∧
    (after history).size +
        ∑ place ∈ Finset.range history.length, (releasedAt history place).length +
        ∑ place ∈ Finset.range history.length, clearedAt history place =
      history.countP Request.isSchedule := by
  refine ⟨released_tickets history, fun ticket first second one two => one.unique two, ?_⟩
  have counted := size_after history history.length (Nat.le_refl _)
  rwa [List.take_length] at counted

end EventScript.TickQueue
