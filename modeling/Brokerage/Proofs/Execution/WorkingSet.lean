import Brokerage.Proofs.Execution.Matching
import Brokerage.Proofs.Execution.Registration

namespace Brokerage
namespace Engine

/-!
What the working set keeps in order.

Orders stand in it in the order of their numbers, each shows the number under
which it stands, and its life has begun.  Cancels are over as soon as they are
registered.  Registering an order adds its number at the end, and an event
changes lives only.
-/

variable {α : Type}

/-- The orders stand in the order of their numbers, and every number is one that was given. -/
structure Ordered (engine : Engine α) : Prop where
  ascending : engine.executors.keys.Pairwise (· < ·)
  below : forall number, number ∈ engine.executors.keys ++ engine.cancels.keys ->
    number < engine.nextId

theorem ordered_clear (engine : Engine α) : engine.clear.Ordered :=
  ⟨List.Pairwise.nil, fun _ listed => nomatch listed⟩

namespace Ordered

variable {engine : Engine α}

/-- The next number is free. -/
theorem absent (ordered : engine.Ordered) :
    engine.nextId ∉ engine.executors.keys ++ engine.cancels.keys :=
  fun listed => Int.lt_irrefl _ (ordered.below _ listed)

/-- An order takes the place that it has, or one behind all others. -/
theorem put_executor (ordered : engine.Ordered) {number : OrderId} {executor : Executor α}
    (place : number ∈ engine.executors.keys ∨ forall other, other ∈ engine.executors.keys ->
      other < number) (below : number < engine.nextId) :
    Ordered { engine with executors := engine.executors.put number executor } := by
  constructor
  · dsimp only
    rw [Table.keys_put]
    split
    · exact ordered.ascending
    · rename_i absent
      refine List.pairwise_append.mpr ⟨ordered.ascending, List.pairwise_singleton _ _, ?_⟩
      intro other listed last same
      rw [List.mem_singleton.mp same]
      exact (place.resolve_left absent) other listed
  · intro other listed
    rcases List.mem_append.mp listed with worked | cancelled
    · rcases Table.mem_keys_put.mp worked with old | same
      · exact ordered.below other (List.mem_append_left _ old)
      · exact same ▸ below
    · exact ordered.below other (List.mem_append_right _ cancelled)

theorem put_cancel (ordered : engine.Ordered) {number : OrderId} {state : OrderState α}
    (below : number < engine.nextId) :
    Ordered { engine with cancels := engine.cancels.put number state } := by
  refine ⟨ordered.ascending, ?_⟩
  intro other listed
  rcases List.mem_append.mp listed with worked | cancelled
  · exact ordered.below other (List.mem_append_left _ worked)
  · rcases Table.mem_keys_put.mp cancelled with old | same
    · exact ordered.below other (List.mem_append_right _ old)
    · exact same ▸ below

theorem numbering (ordered : engine.Ordered) (order : Order α) :
    (engine.numbering order).Ordered := by
  constructor
  · rw [keys_executors_numbering]
    exact ordered.ascending
  · rw [keys_executors_numbering, keys_cancels_numbering, nextId_numbering]
    exact fun number listed => Int.lt_trans (ordered.below number listed) (Int.lt_succ _)

theorem execute [Quantity α] (ordered : engine.Ordered) (pricing : Pricing α)
    (event : Event α) : (engine.execute pricing event).1.Ordered := by
  constructor
  · rw [keys_executors_execute]
    exact ordered.ascending
  · rw [keys_executors_execute]
    exact ordered.below

theorem removeClosed (ordered : engine.Ordered) : engine.removeClosed.Ordered := by
  have part := engine.executors.keys_filter_sublist fun _ executor => executor.isOpen
  refine ⟨ordered.ascending.sublist part, fun number listed => ?_⟩
  refine ordered.below number (List.mem_append_left _ (part.subset ?_))
  simpa only [Engine.removeClosed, Table.keys_empty, List.append_nil] using listed

end Ordered

/-- A working set in order at an instant. -/
structure Running (engine : Engine α) (now : Instant) : Prop extends Ordered engine where
  shown : forall entry, entry ∈ engine.executors.entries ->
    entry.2.order.Shows engine.numbers entry.1
  told : forall entry, entry ∈ engine.cancels.entries ->
    entry.2.order.Shows engine.numbers entry.1
  begun : forall entry, entry ∈ engine.executors.entries -> entry.2.life.Begun now
  finished : forall entry, entry ∈ engine.cancels.entries ->
    entry.2.toLifecycle.Begun now ∧ entry.2.toLifecycle.isOpen = false

namespace Running

variable {engine : Engine α} {now later : Instant}

theorem mono (running : engine.Running now) (passes : now ≤ later) : engine.Running later where
  toOrdered := running.toOrdered
  shown := running.shown
  told := running.told
  begun entry listed := (running.begun entry listed).mono passes
  finished entry listed :=
    ⟨(running.finished entry listed).1.mono passes, (running.finished entry listed).2⟩

/-- Replace an order by itself at a later stage, or put one behind all others. -/
theorem put_executor (running : engine.Running now) {number : OrderId} {executor : Executor α}
    (place : number ∈ engine.executors.keys ∨ forall other, other ∈ engine.executors.keys ->
      other < number)
    (below : number < engine.nextId) (shows : executor.order.Shows engine.numbers number)
    (begun : executor.life.Begun now) :
    Running { engine with executors := engine.executors.put number executor } now := by
  refine { running with
    toOrdered := running.toOrdered.put_executor place below, shown := ?_, begun := ?_ }
  · intro entry listed
    rcases Table.mem_entries_put.mp listed with same | old
    · exact same ▸ shows
    · exact running.shown entry old.2
  · intro entry listed
    rcases Table.mem_entries_put.mp listed with same | old
    · exact same ▸ begun
    · exact running.begun entry old.2

theorem put_cancel (running : engine.Running now) {number : OrderId} {state : OrderState α}
    (below : number < engine.nextId) (shows : state.order.Shows engine.numbers number)
    (begun : state.toLifecycle.Begun now) (finished : state.toLifecycle.isOpen = false) :
    Running { engine with cancels := engine.cancels.put number state } now := by
  refine { running with
    toOrdered := running.toOrdered.put_cancel below, told := ?_, finished := ?_ }
  · intro entry listed
    rcases Table.mem_entries_put.mp listed with same | old
    · exact same ▸ shows
    · exact running.told entry old.2
  · intro entry listed
    rcases Table.mem_entries_put.mp listed with same | old
    · exact same ▸ ⟨begun, finished⟩
    · exact running.finished entry old.2

/-- A target keeps its place and its slip, and its life ends if it had not ended before. -/
theorem close_target (running : engine.Running now) {target : OrderId} {executor : Executor α}
    (found : engine.executors.get? target = some executor) :
    Running { engine with
      executors := engine.executors.put target (executor.close now .cancelled) } now := by
  have listed := Table.get?_eq_some_iff.mp found
  have key := Table.mem_keys_of_get? found
  apply running.put_executor (Or.inl key) (running.below target (List.mem_append_left _ key))
  · exact Executor.shows_of_slip (executor.slip_close now .cancelled) (running.shown _ listed)
  · rw [Executor.life_close]
    exact (running.begun _ listed).move now.le_refl rfl

end Running

/-! ## Registering an order -/

section Registering

variable {engine : Engine α} {order : Order α} {now : Instant}

/-- The ticket of an order has no number yet. -/
def Unseen (engine : Engine α) (order : Order α) : Prop :=
  forall ticket, order.ticket? = some ticket -> engine.numbers.get? ticket = none

theorem Unseen.get?_numbering (unseen : engine.Unseen order) {ticket : Ticket} {number : OrderId}
    (noted : engine.numbers.get? ticket = some number) :
    (engine.numbering order).numbers.get? ticket = some number := by
  cases borne : order.ticket? with
  | none =>
      rw [engine.numbering_of_ticketless borne]
      exact noted
  | some own =>
      have other : own ≠ ticket := by
        intro same
        have blank := unseen own borne
        rw [same, noted] at blank
        cases blank
      rw [engine.numbers_numbering_of_ticket borne, Table.get?_put, if_neg other]
      exact noted

theorem Running.numbering (running : engine.Running now) (unseen : engine.Unseen order) :
    (engine.numbering order).Running now := by
  have ordered := running.toOrdered.numbering order
  cases borne : order.ticket? with
  | none =>
      rw [engine.numbering_of_ticketless borne] at ordered ⊢
      exact { running with toOrdered := ordered }
  | some ticket =>
      have kept : forall {number other}, engine.numbers.get? other = some number ->
          (engine.numbering order).numbers.get? other = some number := unseen.get?_numbering
      refine ⟨ordered, ?_, ?_, ?_, ?_⟩
      · intro entry listed
        rw [engine.executors_numbering_of_ticket borne] at listed
        rcases List.mem_map.mp listed with ⟨old, member, same⟩
        subst same
        dsimp only
        rw [Executor.order_numbered]
        exact (running.shown old member).numbered fun _ _ => kept
      · intro entry listed
        rw [engine.cancels_numbering_of_ticket borne] at listed
        rcases List.mem_map.mp listed with ⟨old, member, same⟩
        subst same
        exact (running.told old member).numbered fun _ _ => kept
      · intro entry listed
        rcases engine.mem_executors_numbering order listed with ⟨old, member, same, -⟩
        rw [same]
        exact running.begun (entry.1, old) member
      · intro entry listed
        rw [engine.cancels_numbering_of_ticket borne] at listed
        rcases List.mem_map.mp listed with ⟨old, member, same⟩
        subst same
        exact running.finished old member

/-- An order goes into the working set with the number that it has been given. -/
theorem shows_written (engine : Engine α) {order : Order α} (real : order.isOrder = true) :
    (engine.written order).Shows (engine.numbering order).numbers engine.nextId := by
  constructor
  · exact engine.number?_written real
  · intro ticket borne
    rw [ticket?_written] at borne
    rw [engine.numbers_numbering_of_ticket borne, Table.get?_put, if_pos rfl]

variable [Quantity α] {next : Engine α} {reason : Option (Rejection α)}
  {answer : Except NotWorkable (OrderState α)}

theorem Registered.nextId_eq (registered : Registered engine order now reason next answer) :
    next.nextId = engine.nextId + 1 := by
  cases registered <;> rfl

theorem Registered.numbers_eq (registered : Registered engine order now reason next answer) :
    next.numbers = (engine.numbering order).numbers := by
  cases registered <;> rfl

theorem Registered.ordered (registered : Registered engine order now reason next answer)
    (ordered : engine.Ordered) : next.Ordered := by
  have numbered := ordered.numbering order
  have below : engine.nextId < (engine.numbering order).nextId := Int.lt_succ engine.nextId
  have last : forall other, other ∈ (engine.numbering order).executors.keys ->
      other < engine.nextId := by
    rw [keys_executors_numbering]
    exact fun other listed => ordered.below other (List.mem_append_left _ listed)
  have closes : forall {target : OrderId} {executor other : Executor α},
      (engine.numbering order).executors.get? target = some executor ->
        Ordered { engine.numbering order with
          executors := (engine.numbering order).executors.put target other } := by
    intro target executor other found
    have key := Table.mem_keys_of_get? found
    exact numbered.put_executor (Or.inl key) (numbered.below target (List.mem_append_left _ key))
  cases registered with
  | missed _ _ => exact numbered.put_cancel below
  | cancelled _ found _ => exact (closes found).put_cancel below
  | late _ found _ => exact (closes found).put_cancel below
  | refused _ _ _ => exact numbered.put_executor (Or.inr last) below
  | accepted _ _ _ => exact numbered.put_executor (Or.inr last) below
  | unworkable _ _ => exact numbered

theorem Registered.running (registered : Registered engine order now reason next answer)
    (running : engine.Running now) (real : order.isOrder = true) (unseen : engine.Unseen order) :
    next.Running now := by
  have numbered := running.numbering unseen
  have shows := engine.shows_written real
  have last : forall other, other ∈ (engine.numbering order).executors.keys ->
      other < engine.nextId := by
    rw [keys_executors_numbering]
    exact fun other listed => running.below other (List.mem_append_left _ listed)
  have below : engine.nextId < (engine.numbering order).nextId := Int.lt_succ engine.nextId
  have worked : forall {executor : Executor α},
      Executor.create? (engine.written order) = .ok executor ->
        executor.order.Shows (engine.numbering order).numbers engine.nextId ∧
          executor.life = {} := by
    intro executor work
    have same := Executor.create?_ok work
    rw [same.1]
    exact ⟨shows, same.2.1⟩
  cases registered with
  | missed _ _ => exact numbered.put_cancel below shows (Lifecycle.begun_rejected now) rfl
  | cancelled _ found _ =>
      exact (numbered.close_target found).put_cancel below shows
        ((Lifecycle.begun_accepted now).move now.le_refl
          (show OrderStatus.isClosed .completed = true from rfl)) rfl
  | late _ found _ =>
      exact (numbered.close_target found).put_cancel below shows (Lifecycle.begun_rejected now) rfl
  | refused _ work _ =>
      have fresh := worked work
      apply numbered.put_executor (Or.inr last) below
      · exact Executor.shows_of_slip (Executor.slip_reject now _) fresh.1
      · rw [Executor.life_reject, fresh.2]
        exact Lifecycle.begun_rejected now
  | accepted _ work _ =>
      have fresh := worked work
      apply numbered.put_executor (Or.inr last) below
      · exact Executor.shows_of_slip (Executor.slip_accept now _) fresh.1
      · rw [Executor.life_accept, fresh.2]
        exact Lifecycle.begun_accepted now
  | unworkable _ _ => exact numbered

/-- Registering an order adds its number at the end of the orders or of the cancels. -/
theorem Registered.keys_eq {state : OrderState α}
    (registered : Registered engine order now reason next (.ok state))
    (ordered : engine.Ordered) :
    (next.executors.keys = engine.executors.keys ∧
        next.cancels.keys = engine.cancels.keys ++ [engine.nextId]) ∨
      (next.executors.keys = engine.executors.keys ++ [engine.nextId] ∧
        next.cancels.keys = engine.cancels.keys) := by
  have worked : engine.nextId ∉ engine.executors.keys :=
    fun listed => ordered.absent (List.mem_append_left _ listed)
  have cancelled : engine.nextId ∉ engine.cancels.keys :=
    fun listed => ordered.absent (List.mem_append_right _ listed)
  have target : forall {number : OrderId} {executor other : Executor α},
      (engine.numbering order).executors.get? number = some executor ->
        ((engine.numbering order).executors.put number other).keys = engine.executors.keys := by
    intro number executor other found
    rw [Table.keys_put, if_pos (Table.mem_keys_of_get? found), keys_executors_numbering]
  cases registered with
  | missed _ _ =>
      refine Or.inl ⟨keys_executors_numbering engine order, ?_⟩
      rw [Table.keys_put, keys_cancels_numbering, if_neg cancelled]
  | cancelled _ found _ =>
      refine Or.inl ⟨target found, ?_⟩
      rw [Table.keys_put, keys_cancels_numbering, if_neg cancelled]
  | late _ found _ =>
      refine Or.inl ⟨target found, ?_⟩
      rw [Table.keys_put, keys_cancels_numbering, if_neg cancelled]
  | refused _ _ _ =>
      refine Or.inr ⟨?_, keys_cancels_numbering engine order⟩
      rw [Table.keys_put, keys_executors_numbering, if_neg worked]
  | accepted _ _ _ =>
      refine Or.inr ⟨?_, keys_cancels_numbering engine order⟩
      rw [Table.keys_put, keys_executors_numbering, if_neg worked]

end Registering

/-! ## Showing an event -/

theorem Running.execute [Quantity α] {engine : Engine α} {now : Instant}
    (running : engine.Running now) (pricing : Pricing α) {event : Event α}
    (passes : now ≤ event.time) : (engine.execute pricing event).1.Running event.time := by
  refine ⟨running.toOrdered.execute pricing event, ?_, ?_, ?_, ?_⟩
  · intro entry listed
    rcases engine.mem_executors_execute pricing event listed with ⟨old, member, _, turn⟩
    exact Executor.shows_of_slip turn.slip_eq (running.shown _ member)
  · exact running.told
  · intro entry listed
    rcases engine.mem_executors_execute pricing event listed with ⟨old, member, _, turn⟩
    have before := running.begun _ member
    rcases turn.life_eq with same | ⟨status, expired | completed, moved⟩
    · rw [same]
      exact before.mono passes
    · rw [moved]
      exact before.move passes (expired ▸ rfl)
    · rw [moved]
      exact before.move passes (completed ▸ rfl)
  · intro entry listed
    exact ⟨(running.finished entry listed).1.mono passes, (running.finished entry listed).2⟩

theorem Running.removeClosed {engine : Engine α} {now : Instant} (running : engine.Running now) :
    engine.removeClosed.Running now := by
  refine ⟨running.toOrdered.removeClosed, ?_, ?_, ?_, ?_⟩
  · exact fun entry listed => running.shown entry (List.mem_filter.mp listed).1
  · exact fun entry listed => nomatch listed
  · exact fun entry listed => running.begun entry (List.mem_filter.mp listed).1
  · exact fun entry listed => nomatch listed

end Engine
end Brokerage
