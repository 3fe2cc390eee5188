import Brokerage.Proofs.Broker.Restarting
import Brokerage.Proofs.Broker.TurningAway

namespace Brokerage

/-!
Brokers of a house with other rules for admission.

A house says how old an event may be, and whether the buying power is checked.
The first of these is never read without a clock, and the second one is read by
the admission of a batch alone.  A broker of a house that answers them in
another way therefore does the same with every batch in which nothing is turned
away: what is not covered there is rejected for its own defect.
-/

variable {α : Type} [Quantity α]

/-- The house with another age limit, which checks the buying power or does not. -/
def House.revised (house : House α) (age : Duration) (checks : Bool) : House α :=
  { house with maxEventAge := age, checksBuyingPower := checks }

/-! ## Registering -/

namespace Engine

/-- An order that has a defect is refused with or without a further reason, to the same effect. -/
theorem register_reasonless (engine : Engine α) {order : Order α} {reason : Option (Rejection α)}
    (moot : reason.isSome = true -> order.defect? ≠ none) (time : Instant) :
    (engine.register order time none).state = (engine.register order time reason).state ∧
      (engine.register order time none).result = (engine.register order time reason).result := by
  cases reason with
  | none => exact ⟨rfl, rfl⟩
  | some given =>
      cases trades : order.isCancel with
      | true =>
          rcases Order.exists_of_isCancel trades with ⟨slip, target, form⟩
          subst form
          exact ⟨rfl, rfl⟩
      | false =>
          rw [engine.register_of_trades trades, engine.register_of_trades trades]
          unfold registerWork
          cases Executor.create? (engine.written order) with
          | error _ => exact ⟨rfl, rfl⟩
          | ok executor =>
              rcases Option.ne_none_iff_exists'.mp (moot rfl) with ⟨defect, found⟩
              unfold cause?
              rw [found]
              exact ⟨rfl, rfl⟩

end Engine

namespace Broker

/-- The broker in the house with another age limit, which checks the buying power or does not. -/
def revised (age : Duration) (checks : Bool) (broker : Broker α) : Broker α :=
  { broker with house := broker.house.revised age checks }

theorem registerAll_reasonless {orders : List (Order α × Option (Rejection α))}
    (moot : Moot orders) (engine : Engine α) (time : Instant) :
    (registerAll engine time (orders.map fun entry => (entry.1, none))).state =
        (registerAll engine time orders).state ∧
      (registerAll engine time (orders.map fun entry => (entry.1, none))).result =
        (registerAll engine time orders).result := by
  induction orders generalizing engine with
  | nil => exact ⟨rfl, rfl⟩
  | cons entry rest ih =>
      rcases entry with ⟨order, reason⟩
      rcases List.forall_mem_cons.mp moot with ⟨head, tail⟩
      rcases engine.register_reasonless head time with ⟨state, result⟩
      rcases ih tail (engine.register order time reason).state with ⟨states, results⟩
      rw [List.map_cons]
      unfold registerAll
      dsimp only
      rw [result, state]
      cases (engine.register order time reason).result with
      | error _ => exact ⟨rfl, rfl⟩
      | ok _ =>
          dsimp only
          rw [states, results]
          exact ⟨rfl, rfl⟩

section Revising

variable {age : Duration} {checks : Bool} {broker : Broker α}

theorem refusal?_revised (age : Duration) (checks : Bool)
    (unclocked : broker.house.clock = none) (batch : List (Order α)) (event : Event α) :
    (broker.revised age checks).refusal? batch event = broker.refusal? batch event := by
  have timely : (broker.revised age checks).eventRefusal? event = broker.eventRefusal? event := by
    have ours : (broker.revised age checks).house.clock = none := unclocked
    unfold eventRefusal?
    rw [ours, unclocked]
    rfl
  have acceptable : forall seen, (broker.revised age checks).instructionsRefusal? seen batch =
      broker.instructionsRefusal? seen batch := by
    induction batch with
    | nil => exact fun _ => rfl
    | cons order rest ih =>
        intro seen
        have same : (broker.revised age checks).instructionRefusal? seen order =
          broker.instructionRefusal? seen order := rfl
        unfold instructionsRefusal?
        rw [same, ih]
  unfold refusal?
  rw [timely, acceptable]

theorem rulings?_revised (broker : Broker α) (event : Event α) (projection : Projection α)
    (batch : List (Order α)) :
    (broker.revised age checks).rulings? event projection batch =
      broker.rulings? event projection batch := by
  have same : forall projection terms,
      (broker.revised age checks).ruling? event projection terms =
        broker.ruling? event projection terms := fun _ _ => rfl
  exact rulings?_congr same projection batch

/-- Whether the buying power is checked as told or as before makes no difference to a batch. -/
def Indifferent (broker : Broker α) (checks : Bool) (batch : List (Order α)) (event : Event α) :
    Prop :=
  checks = broker.house.checksBuyingPower ∨
    checks = false ∧ Exists fun orders => broker.admission? batch event = .ok orders ∧ Moot orders

/-- Both brokers decide alike, or else all that the decisions differ in is moot. -/
theorem admission?_revised (age : Duration) {batch : List (Order α)} {event : Event α}
    (indifferent : broker.Indifferent checks batch event) :
    (broker.revised age checks).admission? batch event = broker.admission? batch event ∨
      Exists fun orders => broker.admission? batch event = .ok orders ∧ Moot orders ∧
        (broker.revised age checks).admission? batch event =
          .ok (orders.map fun entry => (entry.1, none)) := by
  rcases indifferent with same | ⟨unchecked, orders, decided, moot⟩
  · left
    have told : (broker.revised age checks).house.checksBuyingPower =
        broker.house.checksBuyingPower := same
    unfold admission?
    rw [told, broker.rulings?_revised]
    rfl
  · right
    have told : (broker.revised age checks).house.checksBuyingPower = false := unchecked
    refine ⟨orders, decided, moot, ?_⟩
    unfold admission?
    rw [told, if_neg Bool.false_ne_true, ← orders_of_admission? decided, List.map_map]
    rfl

/-- A settlement reads of its orders only what their registration leaves. -/
theorem settled_revised {orders others : List (Order α × Option (Rejection α))} {event : Event α}
    (registered : (registerAll broker.engine event.time others).state =
      (registerAll broker.engine event.time orders).state) :
    (broker.revised age checks).settled others event =
      (broker.settled orders event).revised age checks := by
  have working : (broker.revised age checks).engine = broker.engine := rfl
  unfold settled
  rw [working, registered]
  rfl

/-- Both brokers come to the same with a batch; what they report may differ. -/
structure PlacesAlike (age : Duration) (checks : Bool) (broker : Broker α) (batch : List (Order α))
    (event : Event α) : Prop where
  state : ((broker.revised age checks).place batch event).state =
    (broker.place batch event).state.revised age checks
  result : ((broker.revised age checks).place batch event).result =
    (broker.place batch event).result

/-- Orders that are registered alike are placed alike. -/
theorem placesAlike_of_registered (unclocked : broker.house.clock = none)
    {batch : List (Order α)} {event : Event α} (taken : broker.refusal? batch event = none)
    {orders others : List (Order α × Option (Rejection α))}
    (decided : broker.admission? batch event = .ok orders)
    (likewise : (broker.revised age checks).admission? batch event = .ok others)
    (state : (registerAll broker.engine event.time others).state =
      (registerAll broker.engine event.time orders).state)
    (result : (registerAll broker.engine event.time others).result =
      (registerAll broker.engine event.time orders).result) :
    PlacesAlike age checks broker batch event := by
  have working : (broker.revised age checks).engine = broker.engine := rfl
  rcases placed_of_decided taken decided with ⟨numbers, listed, ended⟩
  have welcome := (refusal?_revised age checks unclocked batch event).trans taken
  rcases placed_of_decided welcome likewise with ⟨others, again, finished⟩
  rw [working, result, listed] at again
  cases again
  rw [settled_revised state] at finished
  have powers : ((broker.settled orders event).revised age checks).account =
    (broker.settled orders event).account := rfl
  have model : (broker.revised age checks).house.model = broker.house.model := rfl
  rw [powers, model] at finished
  cases powered : broker.house.model.buyingPower? (broker.settled orders event).account with
  | ok amount =>
      rw [powered] at ended finished
      exact ⟨by rw [finished.1, ended.1]; rfl, finished.2.trans ended.2.symm⟩
  | error error =>
      rw [powered] at ended finished
      exact ⟨by rw [finished.1, ended.1], finished.2.trans ended.2.symm⟩

/-- A batch to which the check makes no difference is placed alike in both houses. -/
theorem placesAlike_of_indifferent (unclocked : broker.house.clock = none)
    {batch : List (Order α)} {event : Event α}
    (indifferent : broker.refusal? batch event = none ->
      broker.Indifferent checks batch event) :
    PlacesAlike age checks broker batch event := by
  have refused := refusal?_revised age checks unclocked batch event
  cases taken : broker.refusal? batch event with
  | some refusal =>
      rw [taken] at refused
      constructor <;> simp only [place, taken, refused]
  | none =>
      rw [taken] at refused
      rcases admission?_revised age (indifferent taken) with
        same | ⟨orders, decided, moot, likewise⟩
      · cases decided : broker.admission? batch event with
        | error error =>
            have failed := same.trans decided
            constructor <;> simp only [place, taken, decided, refused, failed]
        | ok orders =>
            exact placesAlike_of_registered unclocked taken decided (same.trans decided) rfl rfl
      · rcases registerAll_reasonless moot broker.engine event.time with ⟨state, result⟩
        exact placesAlike_of_registered unclocked taken decided likewise state result

theorem placing?_revised (age : Duration) (checks : Bool) (broker : Broker α)
    (command : Command α) :
    (broker.revised age checks).placing? command = broker.placing? command := by
  cases command <;> rfl

/-- A command comes to the same in both houses when the batch that it places does. -/
theorem after_revised {command : Command α} (going : command ≠ .reset)
    (alike : forall batch event, broker.placing? command = some (batch, event) ->
      PlacesAlike age checks broker batch event) :
    (broker.revised age checks).after command = (broker.after command).revised age checks ∧
      (broker.revised age checks).answer command = broker.answer command := by
  have same := broker.placing?_revised age checks command
  cases placing : broker.placing? command with
  | none =>
      rw [placing] at same
      rw [after_of_idle same going, after_of_idle placing going, answer_of_idle same going,
        answer_of_idle placing going]
      exact ⟨rfl, rfl⟩
  | some placed =>
      rw [placing] at same
      rw [after_of_placing same, after_of_placing placing, answer_of_placing same,
        answer_of_placing placing]
      exact ⟨(alike _ _ placing).state, (alike _ _ placing).result⟩

end Revising

/-! ## Opening -/

theorem reset_revised (age : Duration) (checks : Bool) (broker : Broker α) :
    (broker.revised age checks).reset =
      { broker.reset with state := broker.reset.state.revised age checks } := by
  have emptied : (broker.revised age checks).emptied = broker.emptied.revised age checks := rfl
  have powers : (broker.emptied.revised age checks).house.model.buyingPower?
      (broker.emptied.revised age checks).account =
        broker.emptied.house.model.buyingPower? broker.emptied.account := rfl
  unfold reset
  dsimp only
  rw [emptied, refreshBuyingPower_eq, refreshBuyingPower_eq, powers]
  cases broker.emptied.house.model.buyingPower? broker.emptied.account <;> rfl

/-- A broker is opened alike in both houses. -/
theorem open?_revised (house : House α) (age : Duration) (checks : Bool) :
    open? (house.revised age checks) =
      (open? house).map fun opened => (opened.1.revised age checks, opened.2) := by
  have deposits : (house.revised age checks).deposit.currencies.find?
      (fun currency => !(house.revised age checks).rates.supports currency) =
        house.deposit.currencies.find? fun currency => !house.rates.supports currency := rfl
  have idles : idle (house.revised age checks) = (idle house).revised age checks := rfl
  unfold open?
  rw [deposits, idles, reset_revised]
  cases house.deposit.currencies.find? fun currency => !house.rates.supports currency with
  | some _ => rfl
  | none => cases started : (idle house).reset.result <;> simp only [started, Except.map]

end Broker
end Brokerage
