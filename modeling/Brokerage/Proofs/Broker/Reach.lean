import Brokerage.Broker.Placing

namespace Brokerage

/-!
The brokers that commands lead to.

A broker is opened and then placed on, wound up and reset any number of times.
A command that fails leaves a broker too, and the next command goes to that
one, so what holds of every reachable broker holds after failures as well.

Winding up is a placing of its own orders at its own event.  What a placing
can do is therefore said once, in `Placed`, and every invariant is an induction
whose step has its five cases.
-/

/-- Something that a broker is asked to do. -/
inductive Command (α : Type) where
  | place (batch : List (Order α)) (event : Event α)
  | liquidate (time : Option Instant)
  | reset

namespace Broker

variable {α : Type} [Quantity α]

/-- The broker that a command leaves, whether or not the command succeeds. -/
def after (broker : Broker α) : Command α -> Broker α
  | .place batch event => (broker.place batch event).state
  | .liquidate time => (broker.liquidate time).state
  | .reset => broker.reset.state

/-- The broker that a list of commands leaves. -/
def run (broker : Broker α) (commands : List (Command α)) : Broker α :=
  commands.foldl after broker

/-- The brokers that any finite sequence of commands leads to in a house. -/
inductive Reachable (house : House α) : Broker α -> Prop where
  | opened {broker : Broker α} {notices : List (Notice α)}
      (start : open? house = .ok (broker, notices)) : Reachable house broker
  | after {broker : Broker α} (reached : Reachable house broker) (command : Command α) :
      Reachable house (broker.after command)

theorem Reachable.run {house : House α} {broker : Broker α} (reached : Reachable house broker)
    (commands : List (Command α)) : Reachable house (broker.run commands) := by
  induction commands generalizing broker with
  | nil => exact reached
  | cons command rest ih => exact ih (reached.after command)

/-! ## Winding up as a placing -/

/-- The orders and the event that winding up places; none when it leaves the account alone. -/
def windingUp? (broker : Broker α) (time : Option Instant) :
    Option (List (Order α) × Event α) :=
  match time <|> broker.ledger.lastUpdate with
  | none => none
  | some time =>
      if broker.engine.openIds.length = 0 && broker.ledger.positions.size = 0 then none
      else some (broker.closingOrders, broker.closingEvent time)

/-- The batch and the event that a command places, if it places any. -/
def placing? (broker : Broker α) : Command α -> Option (List (Order α) × Event α)
  | .place batch event => some (batch, event)
  | .liquidate time => broker.windingUp? time
  | .reset => none

theorem liquidate_of_idle {broker : Broker α} {time : Option Instant}
    (idle : broker.windingUp? time = none) : (broker.liquidate time).state = broker := by
  unfold windingUp? at idle
  unfold liquidate
  cases known : time <|> broker.ledger.lastUpdate with
  | none => rfl
  | some instant =>
      simp only [known] at idle ⊢
      split at idle
      · rename_i nothing
        rw [if_pos nothing]
      · cases idle

theorem liquidate_of_windingUp {broker : Broker α} {time : Option Instant}
    {batch : List (Order α)} {event : Event α}
    (winding : broker.windingUp? time = some (batch, event)) :
    (broker.liquidate time).state = (broker.place batch event).state := by
  unfold windingUp? at winding
  unfold liquidate
  cases known : time <|> broker.ledger.lastUpdate with
  | none => simp only [known, reduceCtorEq] at winding
  | some instant =>
      simp only [known] at winding ⊢
      split at winding
      · cases winding
      · rename_i something
        cases winding
        rw [if_neg something]

theorem after_of_placing {broker : Broker α} {command : Command α} {batch : List (Order α)}
    {event : Event α} (placing : broker.placing? command = some (batch, event)) :
    broker.after command = (broker.place batch event).state := by
  cases command with
  | place _ _ =>
      cases placing
      rfl
  | liquidate _ => exact liquidate_of_windingUp placing
  | reset => cases placing

theorem after_of_idle {broker : Broker α} {command : Command α}
    (idle : broker.placing? command = none) (kept : command ≠ .reset) :
    broker.after command = broker := by
  cases command with
  | place _ _ => cases idle
  | liquidate _ => exact liquidate_of_idle idle
  | reset => exact absurd rfl kept

/-! ## What a placing does -/

/-- The broker with another figure of its buying power. -/
def withBuyingPower (broker : Broker α) (amount : Amount α) : Broker α :=
  { broker with ledger := { broker.ledger with buyingPower := amount } }

/-- The broker that has settled a batch whose orders are decided on, before its buying power. -/
def settled (broker : Broker α) (orders : List (Order α × Option (Rejection α)))
    (event : Event α) : Broker α :=
  (settle { broker with engine := (registerAll broker.engine event.time orders).state } event).1

/-- The ways in which a placing ends: the broker that it leaves and its answer. -/
inductive Placed (broker : Broker α) (batch : List (Order α)) (event : Event α) :
    Broker α -> Except (BrokerError α) (List OrderId) -> Prop where
  /-- The batch is refused as a whole. -/
  | refused {refusal : Refusal} (fault : broker.refusal? batch event = some refusal) :
      Placed broker batch event broker (.error (.refused refusal))
  /-- An order cannot be valued in the base currency. -/
  | unvalued {error : MoneyError α} (taken : broker.refusal? batch event = none)
      (failed : broker.admission? batch event = .error error) :
      Placed broker batch event broker (.error (.money error))
  /-- An instruction is no work. -/
  | unworkable {orders : List (Order α × Option (Rejection α))} {error : NotWorkable}
      (taken : broker.refusal? batch event = none)
      (decided : broker.admission? batch event = .ok orders)
      (failed : (registerAll broker.engine event.time orders).result = .error error) :
      Placed broker batch event
        { broker with engine := (registerAll broker.engine event.time orders).state }
        (.error (.notWorkable error))
  /-- The batch is settled, but the account model gives no buying power. -/
  | unpowered {orders : List (Order α × Option (Rejection α))} {numbers : List OrderId}
      {error : MoneyError α} (taken : broker.refusal? batch event = none)
      (decided : broker.admission? batch event = .ok orders)
      (listed : (registerAll broker.engine event.time orders).result = .ok numbers)
      (failed : (broker.settled orders event).refreshBuyingPower = .error error) :
      Placed broker batch event (broker.settled orders event) (.error (.money error))
  | done {orders : List (Order α × Option (Rejection α))} {numbers : List OrderId}
      {amount : Amount α} (taken : broker.refusal? batch event = none)
      (decided : broker.admission? batch event = .ok orders)
      (listed : (registerAll broker.engine event.time orders).result = .ok numbers)
      (powered : (broker.settled orders event).house.model.buyingPower?
        (broker.settled orders event).account = .ok amount) :
      Placed broker batch event ((broker.settled orders event).withBuyingPower amount)
        (.ok numbers)

theorem refreshBuyingPower_eq (broker : Broker α) :
    broker.refreshBuyingPower =
      (broker.house.model.buyingPower? broker.account).map broker.withBuyingPower := by
  unfold refreshBuyingPower
  cases broker.house.model.buyingPower? broker.account <;> rfl

theorem placed (broker : Broker α) (batch : List (Order α)) (event : Event α) :
    Placed broker batch event (broker.place batch event).state
      (broker.place batch event).result := by
  cases fault : broker.refusal? batch event with
  | some refusal =>
      simp only [place, fault]
      exact .refused fault
  | none =>
      cases decided : broker.admission? batch event with
      | error error =>
          simp only [place, fault, decided]
          exact .unvalued fault decided
      | ok orders =>
          cases listed : (registerAll broker.engine event.time orders).result with
          | error error =>
              simp only [place, fault, decided, listed]
              exact .unworkable fault decided listed
          | ok numbers =>
              cases powered : (broker.settled orders event).house.model.buyingPower?
                  (broker.settled orders event).account with
              | error error =>
                  have failed :
                      (broker.settled orders event).refreshBuyingPower = .error error := by
                    rw [refreshBuyingPower_eq, powered]
                    rfl
                  have unfolded := failed
                  rw [settled] at unfolded
                  simp only [place, fault, decided, listed, unfolded]
                  exact .unpowered fault decided listed failed
              | ok amount =>
                  have refreshed : (broker.settled orders event).refreshBuyingPower =
                      .ok ((broker.settled orders event).withBuyingPower amount) := by
                    rw [refreshBuyingPower_eq, powered]
                    rfl
                  have unfolded := refreshed
                  rw [settled] at unfolded
                  simp only [place, fault, decided, listed, unfolded]
                  exact .done fault decided listed powered

/-- A placing that succeeds takes its batch, decides on it and registers it, and answers with the
numbers of the registration. -/
theorem settled_of_placed {broker : Broker α} {batch : List (Order α)} {event : Event α}
    {numbers : List OrderId} (placed : (broker.place batch event).result = .ok numbers) :
    Exists fun orders => broker.refusal? batch event = none ∧
      broker.admission? batch event = .ok orders ∧
      (registerAll broker.engine event.time orders).result = .ok numbers ∧
      Exists fun amount =>
        (broker.place batch event).state = (broker.settled orders event).withBuyingPower amount := by
  have ended := broker.placed batch event
  rw [placed] at ended
  generalize (broker.place batch event).state = state at ended ⊢
  cases ended with
  | done taken decided listed _ => exact ⟨_, taken, decided, listed, _, rfl⟩

/-! ## Induction over runs -/

/-- A fresh start takes the buying power that its model tells. -/
theorem reset_of_powered {broker : Broker α} {amount : Amount α}
    (powered : broker.emptied.house.model.buyingPower? broker.emptied.account = .ok amount) :
    broker.reset =
      { state := broker.emptied.withBuyingPower amount
        notices := [.brokerReset broker.house.deposit]
        result := .ok () } := by
  have refreshed := broker.emptied.refreshBuyingPower_eq
  rw [powered] at refreshed
  simp only [reset, refreshed, Except.map]

theorem reset_state (broker : Broker α) :
    broker.reset.state = broker.emptied ∨
      Exists fun amount => broker.reset.state = broker.emptied.withBuyingPower amount := by
  cases powered : broker.emptied.house.model.buyingPower? broker.emptied.account with
  | error error =>
      have refreshed := broker.emptied.refreshBuyingPower_eq
      rw [powered] at refreshed
      simp only [reset, refreshed, Except.map, true_or]
  | ok amount =>
      rw [reset_of_powered powered]
      exact Or.inr ⟨amount, rfl⟩

theorem opened_state {house : House α} {broker : Broker α} {notices : List (Notice α)}
    (start : open? house = .ok (broker, notices)) : broker = (idle house).reset.state := by
  simp only [open?] at start
  split at start
  · cases start
  · split at start
    · cases start
      rfl
    · cases start

/--
What a fresh start has, what another figure of the buying power leaves alone,
and what every placing keeps, holds of every reachable broker.
-/
theorem Reachable.induction {house : House α} {motive : Broker α -> Prop}
    (opened : motive (idle house).emptied)
    (emptied : forall broker, Reachable house broker -> motive broker -> motive broker.emptied)
    (repriced : forall broker amount, motive broker -> motive (broker.withBuyingPower amount))
    (placed : forall broker batch event state result, Reachable house broker -> motive broker ->
      Placed broker batch event state result -> motive state)
    {broker : Broker α} (reached : Reachable house broker) : motive broker := by
  have restarted : forall broker : Broker α,
      motive broker.emptied -> motive broker.reset.state := by
    intro broker fresh
    rcases broker.reset_state with same | ⟨amount, same⟩
    · exact same ▸ fresh
    · exact same ▸ repriced _ amount fresh
  induction reached with
  | opened start => exact opened_state start ▸ restarted _ opened
  | after reached command kept =>
      rename_i broker
      cases placing : broker.placing? command with
      | some placing =>
          rw [after_of_placing placing]
          exact placed broker _ _ _ _ reached kept (broker.placed _ _)
      | none =>
          by_cases again : command = .reset
          · subst again
            exact restarted broker (emptied broker reached kept)
          · rw [after_of_idle placing again]
            exact kept

/-- A broker never leaves its house. -/
theorem Reachable.house_eq {house : House α} {broker : Broker α}
    (reached : Reachable house broker) : broker.house = house := by
  refine Reachable.induction (motive := fun broker => broker.house = house) rfl ?_ ?_ ?_ reached
  · intro broker _ same
    exact same
  · intro broker _ same
    exact same
  · intro broker batch event state result _ same ended
    cases ended <;> exact same

theorem Reachable.base_supported {house : House α} {broker : Broker α}
    (reached : Reachable house broker) (base : house.rates.supports house.base = true) :
    broker.house.rates.supports broker.house.base = true := by
  rw [reached.house_eq]
  exact base

end Broker
end Brokerage
