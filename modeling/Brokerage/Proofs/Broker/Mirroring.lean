import Brokerage.Proofs.Broker.Renumbering
import Brokerage.Proofs.Execution.Anonymity

namespace Brokerage

/-!
Two working sets, one of which has been spared some orders.

The orders that were refused when they were registered are closed from the
start, so they take no part in anything.  A working set that has never seen
them stays a likeness of the other one, under numbers that have moved up and
with all numbers on the slips rubbed out.
-/

variable {α : Type}

/-- One working set is another one without some orders that are closed in that one. -/
structure Engine.Mirrors (removed : List OrderId) (full reduced : Engine α) : Prop where
  next : reduced.nextId = renumber removed full.nextId
  work : Table.Mirrors removed Executor.anonymous full.executors reduced.executors
  told : Table.Mirrors removed OrderState.anonymous full.cancels reduced.cancels
  closed : forall number, number ∈ removed -> forall executor,
    full.executors.get? number = some executor -> executor.isOpen = false

namespace Engine

/-! ## Numbers on the slips -/

/-- Registering an order does no more to the other orders than to write numbers on them. -/
theorem executors_numbering (engine : Engine α) (order : Order α) :
    Exists fun change => (engine.numbering order).executors =
        engine.executors.map (fun _ => change) ∧
      forall executor : Executor α, (change executor).anonymous = executor.anonymous := by
  cases borne : order.ticket? with
  | none =>
      refine ⟨id, ?_, fun _ => rfl⟩
      rw [engine.numbering_of_ticketless borne]
      exact Table.ext (List.map_id _).symm
  | some ticket =>
      exact ⟨_, engine.executors_numbering_of_ticket borne, fun executor =>
        executor.anonymous_numbered _⟩

theorem cancels_numbering (engine : Engine α) (order : Order α) :
    Exists fun change => (engine.numbering order).cancels =
        engine.cancels.map (fun _ => change) ∧
      forall state : OrderState α, (change state).anonymous = state.anonymous := by
  cases borne : order.ticket? with
  | none =>
      refine ⟨id, ?_, fun _ => rfl⟩
      rw [engine.numbering_of_ticketless borne]
      exact Table.ext (List.map_id _).symm
  | some ticket =>
      refine ⟨_, engine.cancels_numbering_of_ticket borne, fun state => ?_⟩
      simp only [OrderState.anonymous, Order.anonymous_numbered]

@[simp] theorem anonymous_written (engine : Engine α) (order : Order α) :
    (engine.written order).anonymous = order.anonymous := by
  rw [written, Order.anonymous_withNumber, Order.anonymous_numbered]

namespace Mirrors

variable {removed : List OrderId} {full reduced : Engine α}

theorem work_left (mirrors : Mirrors removed full reduced) (order : Order α) :
    Table.Mirrors removed Executor.anonymous (full.numbering order).executors
      reduced.executors := by
  rcases full.executors_numbering order with ⟨change, same, keeps⟩
  rw [same]
  exact mirrors.work.map_left keeps

theorem told_left (mirrors : Mirrors removed full reduced) (order : Order α) :
    Table.Mirrors removed OrderState.anonymous (full.numbering order).cancels
      reduced.cancels := by
  rcases full.cancels_numbering order with ⟨change, same, keeps⟩
  rw [same]
  exact mirrors.told.map_left keeps

theorem work_both (mirrors : Mirrors removed full reduced) (order : Order α) :
    Table.Mirrors removed Executor.anonymous (full.numbering order).executors
      (reduced.numbering order).executors := by
  rcases reduced.executors_numbering order with ⟨change, same, keeps⟩
  rw [same]
  exact (mirrors.work_left order).map_right keeps

theorem told_both (mirrors : Mirrors removed full reduced) (order : Order α) :
    Table.Mirrors removed OrderState.anonymous (full.numbering order).cancels
      (reduced.numbering order).cancels := by
  rcases reduced.cancels_numbering order with ⟨change, same, keeps⟩
  rw [same]
  exact (mirrors.told_left order).map_right keeps

theorem closed_numbering (mirrors : Mirrors removed full reduced) (order : Order α)
    {number : OrderId} (leaves : number ∈ removed) {executor : Executor α}
    (found : (full.numbering order).executors.get? number = some executor) :
    executor.isOpen = false := by
  rcases full.mem_executors_numbering order (Table.get?_eq_some_iff.mp found) with
    ⟨old, member, same, -⟩
  unfold Executor.isOpen
  rw [same]
  exact mirrors.closed number leaves old (Table.get?_eq_some_iff.mpr member)

end Mirrors

/-! ## Closing the target of a cancel -/

section Closing

variable {now : Instant}

/-- The life of a cancel, which is over at once. -/
def cancelLife (target : Option (Executor α)) (now : Instant) : Lifecycle :=
  if (target.map Executor.isOpen).getD false then
    (Lifecycle.move {} now .accepted).move now .completed
  else Lifecycle.move {} now .rejected

/-- The orders after a cancel, whether or not the target was open. -/
def closeTarget (executors : Table OrderId (Executor α)) (target : OrderId) (now : Instant) :
    Table OrderId (Executor α) :=
  match executors.get? target with
  | some executor => executors.put target (executor.close now .cancelled)
  | none => executors

theorem get?_closeTarget {executors : Table OrderId (Executor α)} {target number : OrderId}
    (different : target ≠ number) :
    (closeTarget executors target now).get? number = executors.get? number := by
  unfold closeTarget
  split
  · rw [Table.get?_put, if_neg different]
  · rfl

theorem get?_closeTarget_self {executors : Table OrderId (Executor α)} (target : OrderId) :
    (closeTarget executors target now).get? target =
      (executors.get? target).map fun executor => executor.close now .cancelled := by
  unfold closeTarget
  cases found : executors.get? target with
  | none => exact found
  | some executor => exact (Table.get?_put _ _ _ _).trans (if_pos rfl)

/-- Closing an order that stays where it is keeps a likeness. -/
theorem closeTarget_mirrored {removed : List OrderId}
    {executors likeness : Table OrderId (Executor α)} {target : OrderId}
    (work : Table.Mirrors removed Executor.anonymous executors likeness)
    (distinct : removed.Nodup) (aimed : target ∉ removed)
    (fixed : renumber removed target = target) :
    Table.Mirrors removed Executor.anonymous (closeTarget executors target now)
      (closeTarget likeness target now) := by
  have found := work.alike target aimed
  rw [fixed] at found
  unfold closeTarget
  cases one : executors.get? target with
  | none =>
      rw [one, Option.map_none, Option.map_eq_none_iff] at found
      rw [found]
      exact work
  | some executor =>
      rw [one, Option.map_some, Option.map_eq_some_iff] at found
      rcases found with ⟨copy, there, alike⟩
      have closed : (copy.close now .cancelled).anonymous =
          (executor.close now .cancelled).anonymous := by
        rw [Executor.anonymous_close, Executor.anonymous_close, alike]
      have put := work.put distinct aimed closed
      rw [fixed] at put
      rw [there]
      exact put

/-- Likenesses of one target give a cancel the same life. -/
theorem cancelLife_of_alike {one other : Option (Executor α)}
    (alike : other.map Executor.anonymous = one.map Executor.anonymous) :
    cancelLife other now = cancelLife one now := by
  have read : forall target : Option (Executor α),
      target.map Executor.isOpen =
        (target.map Executor.anonymous).map Executor.isOpen := by
    intro target
    cases target with
    | none => rfl
    | some executor => exact congrArg some executor.isOpen_anonymous.symm
  unfold cancelLife
  rw [read, alike, ← read]

end Closing

/-! ## Registering -/

section Registering

variable [Quantity α] {engine next : Engine α} {order : Order α} {now : Instant}
  {reason : Option (Rejection α)}

theorem Registered.of_cancel {slip : Slip} {target : OrderId}
    {answer : Except NotWorkable (OrderState α)}
    (registered : Registered engine (.cancel slip target) now reason next answer) :
    next.executors =
        closeTarget (engine.numbering (.cancel slip target)).executors target now ∧
      next.cancels = (engine.numbering (.cancel slip target)).cancels.put engine.nextId
        { cancelLife ((engine.numbering (.cancel slip target)).executors.get? target) now with
          order := engine.written (.cancel slip target) } := by
  unfold closeTarget cancelLife
  cases registered with
  | missed form missing =>
      cases form
      rw [missing]
      exact ⟨rfl, rfl⟩
  | cancelled form found live =>
      cases form
      rw [found, Option.map_some, live]
      exact ⟨rfl, rfl⟩
  | late form found finished =>
      cases form
      rw [found, Option.map_some, finished]
      exact ⟨rfl, rfl⟩
  | refused trades _ _ => cases trades
  | accepted trades _ _ => cases trades
  | unworkable trades _ => cases trades

theorem Registered.of_create {state : OrderState α}
    (registered : Registered engine order now reason next (.ok state))
    (trades : order.isCancel = false) :
    Exists fun executor => Executor.create? (engine.written order) = .ok executor ∧
      next.cancels = (engine.numbering order).cancels ∧
      next.executors = (engine.numbering order).executors.put engine.nextId
        (if (cause? order reason).isSome then executor.reject now else executor.accept now) := by
  rcases registered.of_trades trades with ⟨_, -, -, failed⟩ | ⟨executor, work, rfl, -⟩
  · cases failed
  · exact ⟨executor, work, rfl, rfl⟩

omit [Quantity α] in
/-- Likenesses of one order are worked alike. -/
theorem alike_of_create {first second : Engine α} {one other : Executor α}
    (work : Executor.create? (first.written order) = .ok one)
    (likewise : Executor.create? (second.written order) = .ok other) :
    other.anonymous = one.anonymous := by
  have here := Executor.create?_anonymous (first.written order)
  have there := Executor.create?_anonymous (second.written order)
  rw [anonymous_written, work] at here
  rw [anonymous_written, likewise] at there
  exact Except.ok.inj (there.symm.trans here)

end Registering

namespace Mirrors

section Steps

variable [Quantity α] {removed : List OrderId} {full reduced next spared : Engine α}
  {order : Order α} {now : Instant} {reason : Option (Rejection α)}

/-- An order that is refused on one side only leaves the likeness alone. -/
theorem registered_refused {state : OrderState α} (mirrors : Mirrors removed full reduced)
    (distinct : removed.Nodup) (leaves : full.nextId ∈ removed)
    (trades : order.isCancel = false) (against : (cause? order reason).isSome = true)
    (registered : Registered full order now reason next (.ok state)) :
    Mirrors removed next reduced := by
  rcases registered.of_create trades with ⟨executor, work, cancels, executors⟩
  rw [if_pos against] at executors
  constructor
  · rw [registered.nextId_eq, mirrors.next, renumber_succ_of_mem distinct leaves]
  · rw [executors]
    exact (mirrors.work_left order).put_removed leaves _
  · rw [cancels]
    exact mirrors.told_left order
  · intro number among other found
    rw [executors, Table.get?_put] at found
    split at found
    · cases found
      unfold Executor.isOpen
      rw [Executor.life_reject, (Executor.create?_ok work).2.1]
      rfl
    · exact mirrors.closed_numbering order among found

/-- An order that is accepted on both sides gets the place that its number moves up to. -/
theorem registered_accepted {state likeness : OrderState α} {other : Option (Rejection α)}
    (mirrors : Mirrors removed full reduced) (distinct : removed.Nodup)
    (stays : full.nextId ∉ removed) (trades : order.isCancel = false)
    (sound : cause? order reason = none) (likewise : cause? order other = none)
    (registered : Registered full order now reason next (.ok state))
    (repeated : Registered reduced order now other spared (.ok likeness)) :
    Mirrors removed next spared := by
  rcases registered.of_create trades with ⟨executor, work, cancels, executors⟩
  rcases repeated.of_create trades with ⟨copy, again, cancelled, executed⟩
  rw [sound] at executors
  rw [likewise] at executed
  have alike : (copy.accept now).anonymous = (executor.accept now).anonymous := by
    rw [Executor.anonymous_accept, Executor.anonymous_accept, alike_of_create work again]
  constructor
  · rw [registered.nextId_eq, repeated.nextId_eq, mirrors.next, renumber_succ_of_not_mem stays]
  · rw [executors, executed, mirrors.next]
    exact (mirrors.work_both order).put distinct stays alike
  · rw [cancels, cancelled]
    exact mirrors.told_both order
  · intro number among found_executor found
    have different : full.nextId ≠ number := fun same => stays (same ▸ among)
    rw [executors, Table.get?_put, if_neg different] at found
    exact mirrors.closed_numbering order among found

/-- A cancel of an order that stays where it is does the same on both sides. -/
theorem registered_cancel {answer likeness : Except NotWorkable (OrderState α)}
    {other : Option (Rejection α)} {slip : Slip} {target : OrderId}
    (mirrors : Mirrors removed full reduced) (distinct : removed.Nodup)
    (stays : full.nextId ∉ removed) (aimed : target ∉ removed)
    (fixed : renumber removed target = target)
    (registered : Registered full (.cancel slip target) now reason next answer)
    (repeated : Registered reduced (.cancel slip target) now other spared likeness) :
    Mirrors removed next spared := by
  have work := mirrors.work_both (.cancel slip target)
  rcases registered.of_cancel with ⟨executors, cancels⟩
  rcases repeated.of_cancel with ⟨executed, cancelled⟩
  have found := work.alike target aimed
  rw [fixed] at found
  constructor
  · rw [registered.nextId_eq, repeated.nextId_eq, mirrors.next, renumber_succ_of_not_mem stays]
  · rw [executors, executed]
    exact closeTarget_mirrored work distinct aimed fixed
  · rw [cancels, cancelled, mirrors.next]
    apply (mirrors.told_both _).put distinct stays
    simp only [OrderState.anonymous, anonymous_written, cancelLife_of_alike found]
  · intro number among executor there
    have different : target ≠ number := fun same => aimed (same ▸ among)
    rw [executors, get?_closeTarget different] at there
    exact mirrors.closed_numbering _ among there

end Steps
end Mirrors
end Engine

/-! ## A batch -/

namespace Broker

variable [Quantity α]

/-- Whether an order that could trade is refused when it is registered. -/
def refuses (entry : Order α × Option (Rejection α)) : Bool :=
  !entry.1.isCancel && (Engine.cause? entry.1 entry.2).isSome

/-- The orders of a batch that are not refused when they are registered. -/
def unrefused (orders : List (Order α × Option (Rejection α))) :
    List (Order α × Option (Rejection α)) :=
  orders.filter fun entry => !refuses entry

/-- Taking in a batch, and taking it in without the orders that are refused. -/
theorem Enlisted.mirrors {removed : List OrderId} {now : Instant} {full last : Engine α}
    {orders : List (Order α × Option (Rejection α))} {numbers : List OrderId}
    (enlisted : Enlisted now full orders last numbers) {reduced spared : Engine α}
    {others : List OrderId} (skips : Skips removed refuses full.nextId orders)
    (aims : forall entry, entry ∈ orders -> forall slip target,
      entry.1 = .cancel slip target -> target ∉ removed ∧ renumber removed target = target)
    (mirrors : Engine.Mirrors removed full reduced)
    (repeated : Enlisted now reduced (unrefused orders) spared others) :
    Engine.Mirrors removed last spared := by
  induction enlisted generalizing reduced others with
  | nil =>
      cases repeated
      exact mirrors
  | @cons full next last order reason rest state numbers first _ ih =>
      rcases List.forall_mem_cons.mp aims with ⟨aimed, later⟩
      have tail := skips.tail
      rw [← first.nextId_eq] at tail
      unfold unrefused at repeated
      rw [List.filter_cons] at repeated
      cases refused : refuses (order, reason) with
      | true =>
          rw [refused] at repeated
          have leaves := skips.mem_iff.mpr refused
          rcases Bool.and_eq_true_iff.mp refused with ⟨trades, against⟩
          exact ih tail later (mirrors.registered_refused skips.distinct leaves
            (by simpa using trades) against first) repeated
      | false =>
          rw [refused] at repeated
          have stays : full.nextId ∉ removed := by
            rw [skips.mem_iff, refused]
            exact Bool.false_ne_true
          cases repeated with
          | @cons _ middle _ _ _ _ likeness _ again others =>
              cases cancels : order.isCancel with
              | true =>
                  rcases Order.exists_of_isCancel cancels with ⟨slip, target, form⟩
                  subst form
                  have fixed := aimed slip target rfl
                  exact ih tail later (mirrors.registered_cancel skips.distinct stays fixed.1
                    fixed.2 first again) others
              | false =>
                  have sound : Engine.cause? order reason = none := by
                    unfold refuses at refused
                    rw [cancels] at refused
                    simpa using refused
                  exact ih tail later (mirrors.registered_accepted skips.distinct stays cancels
                    sound sound first again) others

end Broker
end Brokerage
