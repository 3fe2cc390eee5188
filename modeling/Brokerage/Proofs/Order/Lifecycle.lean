import Brokerage.Order.Lifecycle

namespace Brokerage

/-!
Lives that have begun.

A registered order is accepted or closed, and its two instants lie in order and
not after the present one.  That stays so when time passes, and when the order
is closed at a later instant.
-/

namespace Instant

theorem le_refl (time : Instant) : time ≤ time :=
  Int.le_refl time.nanoseconds

theorem le_trans {first second third : Instant} (earlier : first ≤ second)
    (later : second ≤ third) : first ≤ third :=
  Int.le_trans (a := first.nanoseconds) earlier later

theorem not_lt {first second : Instant} : ¬ first < second <-> second ≤ first :=
  Int.not_lt (a := first.nanoseconds)

end Instant

namespace Lifecycle

theorem move_of_not_allowed {life : Lifecycle} {status : OrderStatus}
    (denied : ¬ life.allows status = true) (time : Instant) : life.move time status = life := by
  unfold move
  rw [if_neg denied]

theorem isOpen_of_ends {life : Lifecycle} (ends : life.status.isClosed = true) :
    life.isOpen = false := by
  simpa [isOpen, OrderStatus.isClosed] using ends

/-- A life that allows a move is not over. -/
theorem isOpen_of_allows {life : Lifecycle} {status : OrderStatus}
    (allowed : life.allows status = true) : life.isOpen = true := by
  cases status with
  | initial => cases allowed
  | accepted =>
      have initial : life.status = .initial := of_decide_eq_true allowed
      rw [isOpen, initial]
      rfl
  | _ => exact allowed

/-- A closed life stays as it is. -/
theorem move_of_closed {life : Lifecycle} (closed : life.isOpen = false) (time : Instant)
    (status : OrderStatus) : life.move time status = life := by
  refine move_of_not_allowed ?_ time
  intro allowed
  rw [isOpen_of_allows allowed] at closed
  cases closed

/-- A move that is allowed leads to the status asked for. -/
theorem status_move {life : Lifecycle} {status : OrderStatus}
    (allowed : life.allows status = true) (time : Instant) :
    (life.move time status).status = status := by
  unfold move
  rw [if_pos allowed]
  split
  · rfl
  · rfl

/-- A life that ends now began before, or begins and ends now. -/
theorem move_of_open {life : Lifecycle} (live : life.isOpen = true) (time : Instant)
    {status : OrderStatus} (ends : status.isClosed = true) :
    life.move time status =
      { status, openedAt := some (life.openedAt.getD time), closedAt := some time } := by
  cases status with
  | initial => cases ends
  | accepted => cases ends
  | _ =>
      unfold move allows
      simp only [live, if_true, reduceCtorEq, if_false]

/-- A life that is moved to its end is over, whether or not it was over before. -/
theorem isOpen_move {status : OrderStatus} (life : Lifecycle) (time : Instant)
    (ends : status.isClosed = true) : (life.move time status).isOpen = false := by
  cases live : life.isOpen with
  | true =>
      rw [move_of_open live time ends]
      exact isOpen_of_ends ends
  | false =>
      rw [move_of_closed live]
      exact live

/-- Only a move to that status makes an order rejected, and none takes the status back. -/
theorem status_move_rejected_iff (life : Lifecycle) (time : Instant) {status : OrderStatus}
    (other : status ≠ .rejected) :
    (life.move time status).status = .rejected <-> life.status = .rejected := by
  by_cases allowed : life.allows status = true
  · have live : life.status ≠ .rejected := by
      intro finished
      have still := isOpen_of_allows allowed
      rw [isOpen, finished] at still
      cases still
    rw [status_move allowed]
    exact ⟨fun same => absurd same other, fun same => absurd same live⟩
  · rw [move_of_not_allowed allowed]

/-- An accepted life, or one that is over; its instants lie in order and not after the present. -/
inductive Begun (now : Instant) : Lifecycle -> Prop where
  | accepted {opened : Instant} (before : opened ≤ now) :
      Begun now { status := .accepted, openedAt := some opened, closedAt := none }
  | finished {status : OrderStatus} {opened closed : Instant} (ends : status.isClosed = true)
      (ordered : opened ≤ closed) (before : closed ≤ now) :
      Begun now { status, openedAt := some opened, closedAt := some closed }

namespace Begun

variable {now later : Instant} {life : Lifecycle}

theorem mono (begun : life.Begun now) (passes : now ≤ later) : life.Begun later := by
  cases begun with
  | accepted before => exact .accepted (Instant.le_trans before passes)
  | finished ends ordered before => exact .finished ends ordered (Instant.le_trans before passes)

/-- Closing a life that has begun keeps its instants in order. -/
theorem move (begun : life.Begun now) (passes : now ≤ later) {status : OrderStatus}
    (ends : status.isClosed = true) : (life.move later status).Begun later := by
  cases begun with
  | accepted before =>
      rw [move_of_open rfl later ends]
      exact .finished ends (Instant.le_trans before passes) later.le_refl
  | finished ended ordered before =>
      rw [move_of_closed (isOpen_of_ends ended)]
      exact .finished ended ordered (Instant.le_trans before passes)

/-- A life that has begun was opened by now. -/
theorem opened_le (begun : life.Begun now) {opened : Instant}
    (begins : life.openedAt = some opened) : opened ≤ now := by
  cases begun with
  | accepted before =>
      cases begins
      exact before
  | finished _ ordered before =>
      cases begins
      exact Instant.le_trans ordered before

/-- A life that has begun is accepted as long as it is open. -/
theorem status_of_isOpen (begun : life.Begun now) (live : life.isOpen = true) :
    life.status = .accepted := by
  cases begun with
  | accepted _ => rfl
  | finished ended _ _ =>
      rw [isOpen_of_ends ended] at live
      cases live

/-- A life that has begun keeps the instant of its opening when it is closed. -/
theorem move_eq (begun : life.Begun now) (live : life.isOpen = true) (later : Instant)
    {status : OrderStatus} (ends : status.isClosed = true) :
    life.move later status =
      { status, openedAt := life.openedAt, closedAt := some later } := by
  rw [move_of_open live later ends]
  cases begun with
  | accepted _ => rfl
  | finished ended _ _ =>
      rw [isOpen_of_ends ended] at live
      cases live

end Begun

theorem begun_accepted (time : Instant) : (move {} time .accepted).Begun time :=
  .accepted time.le_refl

theorem begun_rejected (time : Instant) : (move {} time .rejected).Begun time :=
  .finished rfl time.le_refl time.le_refl

end Lifecycle
end Brokerage
