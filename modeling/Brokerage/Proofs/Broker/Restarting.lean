import Brokerage.Proofs.Broker.Answer
import Brokerage.Proofs.Execution.Forgetting

namespace Brokerage

/-!
A fresh start is like a new broker.

The books of a fresh start are those of a broker that has just been opened, and
its working set is empty.  All that is left of the past are the numbers on the
tickets that were handed in before, and these are read only when such a ticket
comes again.  On orders with other tickets both brokers do the same.
-/

variable {α : Type} [Quantity α]

namespace Broker

/-! ## Forgetting old tickets -/

section Forgetting

/-- The broker that does not remember what was written on some tickets. -/
def forget (old : List Ticket) (broker : Broker α) : Broker α :=
  { broker with engine := broker.engine.forget old }

variable {old : List Ticket} {broker : Broker α}

theorem registerAll_forget {engine : Engine α} (avoids : engine.Avoids old) (time : Instant)
    {orders : List (Order α × Option (Rejection α))}
    (apart : forall entry, entry ∈ orders -> entry.1.Avoids old) :
    registerAll (engine.forget old) time orders =
        { registerAll engine time orders with
          state := (registerAll engine time orders).state.forget old } ∧
      (registerAll engine time orders).state.Avoids old := by
  induction orders generalizing engine with
  | nil => exact ⟨rfl, avoids⟩
  | cons entry rest ih =>
      rcases entry with ⟨order, reason⟩
      rcases List.forall_mem_cons.mp apart with ⟨head, tail⟩
      have next : (engine.register order time reason).state.Avoids old := avoids.register head
      rcases ih next tail with ⟨others, kept⟩
      unfold registerAll
      rw [avoids.register_forget head]
      dsimp only
      cases (engine.register order time reason).result with
      | error _ => exact ⟨rfl, next⟩
      | ok _ =>
          dsimp only
          rw [others]
          exact ⟨rfl, kept⟩

theorem refreshBuyingPower_forget (old : List Ticket) (broker : Broker α) :
    (broker.forget old).refreshBuyingPower =
      broker.refreshBuyingPower.map (Broker.forget old) := by
  have same : (broker.forget old).house.model.buyingPower? (broker.forget old).account =
      broker.house.model.buyingPower? broker.account := rfl
  rw [refreshBuyingPower_eq, refreshBuyingPower_eq, same]
  cases broker.house.model.buyingPower? broker.account <;> rfl

theorem placedNumber?_forget {order : Order α} (apart : order.Avoids old) :
    (broker.forget old).placedNumber? order = broker.placedNumber? order := by
  unfold placedNumber?
  cases borne : order.ticket? with
  | none => rfl
  | some ticket =>
      have same : (broker.forget old).engine.numbers.get? ticket =
          broker.engine.numbers.get? ticket :=
        broker.engine.numbers.get?_without (apart.ticket borne)
      rw [Option.bind_some, Option.bind_some, same]

theorem instructionsRefusal?_forget {batch : List (Order α)}
    (apart : forall order, order ∈ batch -> order.Avoids old) (seen : List Ticket) :
    (broker.forget old).instructionsRefusal? seen batch =
      broker.instructionsRefusal? seen batch := by
  induction batch generalizing seen with
  | nil => rfl
  | cons order rest ih =>
      rcases List.forall_mem_cons.mp apart with ⟨head, tail⟩
      have same : (broker.forget old).instructionRefusal? seen order =
          broker.instructionRefusal? seen order := by
        unfold instructionRefusal?
        rw [placedNumber?_forget head]
        rfl
      unfold instructionsRefusal?
      rw [same, ih tail]

theorem refusal?_forget (broker : Broker α) {batch : List (Order α)}
    (apart : forall order, order ∈ batch -> order.Avoids old) (event : Event α) :
    (broker.forget old).refusal? batch event = broker.refusal? batch event := by
  unfold refusal?
  rw [instructionsRefusal?_forget apart]
  rfl

theorem rulings?_forget (old : List Ticket) (broker : Broker α) (event : Event α)
    (projection : Projection α) (batch : List (Order α)) :
    (broker.forget old).rulings? event projection batch =
      broker.rulings? event projection batch := by
  have same : forall projection terms, (broker.forget old).ruling? event projection terms =
      broker.ruling? event projection terms := fun _ _ => rfl
  exact rulings?_congr same projection batch

theorem admission?_forget (old : List Ticket) (broker : Broker α) (batch : List (Order α))
    (event : Event α) :
    (broker.forget old).admission? batch event = broker.admission? batch event := by
  unfold admission?
  rw [broker.rulings?_forget old]
  rfl

theorem avoids_of_admission? {batch : List (Order α)} {event : Event α}
    {orders : List (Order α × Option (Rejection α))}
    (apart : forall order, order ∈ batch -> order.Avoids old)
    (decided : broker.admission? batch event = .ok orders) :
    forall entry, entry ∈ orders -> entry.1.Avoids old :=
  fun _ listed => apart _ (orders_of_admission? decided ▸ List.mem_map_of_mem listed)

/-- Placing orders and forgetting what stands on other tickets commute. -/
theorem place_forget (avoids : broker.engine.Avoids old) {batch : List (Order α)}
    (apart : forall order, order ∈ batch -> order.Avoids old) (event : Event α) :
    (broker.forget old).place batch event =
      { broker.place batch event with state := (broker.place batch event).state.forget old } := by
  unfold place
  rw [broker.refusal?_forget apart, broker.admission?_forget old]
  cases broker.refusal? batch event with
  | some _ => rfl
  | none =>
      cases decided : broker.admission? batch event with
      | error _ => rfl
      | ok orders =>
          have enlisted := (registerAll_forget avoids event.time
            (avoids_of_admission? apart decided)).1
          have left : (broker.forget old).engine = broker.engine.forget old := rfl
          dsimp only
          rw [left, enlisted]
          dsimp only
          cases (registerAll broker.engine event.time orders).result with
          | error _ => rfl
          | ok numbers =>
              let engine := (registerAll broker.engine event.time orders).state
              have powered : (settle { broker.forget old with engine := engine.forget old }
                    event).1.refreshBuyingPower =
                  (settle { broker with engine } event).1.refreshBuyingPower.map
                    (Broker.forget old) :=
                refreshBuyingPower_forget old (settle { broker with engine } event).1
              dsimp only
              rw [powered]
              cases (settle { broker with engine } event).1.refreshBuyingPower <;> rfl

/-- Placing orders brings no other tickets to work than theirs. -/
theorem avoids_place (avoids : broker.engine.Avoids old) {batch : List (Order α)}
    (apart : forall order, order ∈ batch -> order.Avoids old) (event : Event α) :
    (broker.place batch event).state.engine.Avoids old := by
  have enlisted : forall {orders : List (Order α × Option (Rejection α))},
      broker.admission? batch event = .ok orders ->
        (registerAll broker.engine event.time orders).state.Avoids old :=
    fun decided => (registerAll_forget avoids event.time (avoids_of_admission? apart decided)).2
  have settled : forall {orders : List (Order α × Option (Rejection α))},
      broker.admission? batch event = .ok orders ->
        (broker.settled orders event).engine.Avoids old :=
    fun decided => ((enlisted decided).execute broker.house.pricing event).removeClosed
  have ended := broker.placed batch event
  generalize (broker.place batch event).state = state at ended ⊢
  generalize (broker.place batch event).result = answer at ended
  cases ended with
  | refused _ => exact avoids
  | unvalued _ _ => exact avoids
  | unworkable _ decided _ => exact enlisted decided
  | unpowered _ decided _ _ => exact settled decided
  | done _ decided _ _ => exact settled decided

/-- Winding up needs no tickets. -/
theorem avoids_closingOrders (old : List Ticket) (broker : Broker α) :
    forall order, order ∈ broker.closingOrders -> order.Avoids old := by
  intro order listed
  rcases List.mem_append.mp listed with cancels | closes
  · rcases List.mem_map.mp cancels with ⟨target, -, rfl⟩
    exact fun _ borne => nomatch borne
  · rcases List.mem_map.mp closes with ⟨position, -, rfl⟩
    exact fun _ borne => nomatch borne

theorem liquidate_forget (avoids : broker.engine.Avoids old) (time : Option Instant) :
    (broker.forget old).liquidate time =
      { broker.liquidate time with state := (broker.liquidate time).state.forget old } := by
  have openIds : (broker.forget old).engine.openIds = broker.engine.openIds := rfl
  have ledger : (broker.forget old).ledger = broker.ledger := rfl
  have orders : (broker.forget old).closingOrders = broker.closingOrders := rfl
  have event : forall instant, (broker.forget old).closingEvent instant =
      broker.closingEvent instant := fun _ => rfl
  unfold liquidate
  rw [openIds, ledger, orders]
  cases time <|> broker.ledger.lastUpdate with
  | none => rfl
  | some instant =>
      dsimp only
      rw [event, place_forget avoids (broker.avoids_closingOrders old)]
      split <;> rfl

end Forgetting

/-! ## Starting afresh -/

section Restarting

variable {house : House α} {fresh used : Broker α} {opening : List (Notice α)}

/-- The books are always kept in the base currency and at the rates of the house. -/
theorem Reachable.kept_in_house (reached : Reachable house used) :
    used.ledger.base = house.base ∧ used.ledger.rates = house.rates := by
  refine Reachable.induction (motive := fun broker =>
    broker.ledger.base = house.base ∧ broker.ledger.rates = house.rates) ?_ ?_ ?_ ?_ reached
  · rw [emptied_ledger]
    exact ⟨rfl, rfl⟩
  · intro broker _ same
    rw [emptied_ledger]
    exact same
  · intro broker _ same
    exact same
  · intro broker batch event state result _ same ended
    cases ended with
    | refused _ => exact same
    | unvalued _ _ => exact same
    | unworkable _ _ _ => exact same
    | unpowered _ _ _ _ => exact ⟨(settled_base ..).trans same.1, (settled_rates ..).trans same.2⟩
    | done _ _ _ _ => exact ⟨(settled_base ..).trans same.1, (settled_rates ..).trans same.2⟩

/-- Only the numbers on old tickets tell an emptied broker from one that was never used. -/
theorem Reachable.emptied_eq (reached : Reachable house used) :
    used.emptied = { (idle house).emptied with engine := used.engine.clear } := by
  have books : used.emptied.ledger = (idle house).emptied.ledger := by
    rw [emptied_ledger, emptied_ledger, reached.house_eq]
    unfold Ledger.clear
    rw [reached.kept_in_house.1, reached.kept_in_house.2]
    rfl
  have settings : used.emptied.house = (idle house).emptied.house := reached.house_eq
  calc used.emptied
      = ⟨used.emptied.house, used.engine.clear, used.emptied.ledger⟩ := rfl
    _ = ⟨(idle house).emptied.house, used.engine.clear, (idle house).emptied.ledger⟩ := by
        rw [books, settings]

/-- A broker that has just been opened is what the first start leaves. -/
theorem opened_reset (opened : open? house = .ok (fresh, opening)) :
    (idle house).reset = { state := fresh, notices := opening, result := .ok () } := by
  unfold open? at opened
  dsimp only at opened
  split at opened
  · cases opened
  · split at opened
    · rename_i started
      cases opened
      rw [← started]
    · cases opened

/-- A fresh start always succeeds, and it leaves the broker as it was when it had just been opened,
with the numbers that are written on tickets. -/
theorem Reachable.reset_eq (reached : Reachable house used)
    (opened : open? house = .ok (fresh, opening)) :
    used.reset =
      { state := { fresh with engine := { fresh.engine with numbers := used.engine.numbers } }
        notices := opening
        result := .ok () } := by
  have started := opened_reset opened
  unfold reset at started ⊢
  dsimp only at started ⊢
  rw [refreshBuyingPower_eq] at started ⊢
  rw [reached.emptied_eq, reached.house_eq]
  have same : Broker.account { (idle house).emptied with engine := used.engine.clear } =
      (idle house).emptied.account := rfl
  rw [same]
  dsimp only
  cases powered : (idle house).emptied.house.model.buyingPower? (idle house).emptied.account with
  | error _ =>
      rw [powered] at started
      cases started
  | ok amount =>
      rw [powered] at started
      cases started
      rfl

/-- Without the numbers on old tickets a fresh start leaves the broker that has just been opened. -/
theorem Reachable.forget_reset (reached : Reachable house used)
    (opened : open? house = .ok (fresh, opening)) :
    used.reset.state.forget used.engine.numbers.keys = fresh := by
  have blank : fresh.engine = {} := by
    rcases opened_repriced opened with ⟨amount, rfl⟩
    rfl
  rw [reached.reset_eq opened]
  unfold forget Engine.forget
  dsimp only
  rw [Table.without_keys, blank, ← blank]

theorem avoids_reset (used : Broker α) (old : List Ticket) :
    used.reset.state.engine.Avoids old := by
  rcases used.reset_repriced with ⟨amount, same⟩
  rw [same]
  exact ⟨(fun _ listed => nomatch listed), fun _ listed => nomatch listed⟩

end Restarting

end Broker
end Brokerage
