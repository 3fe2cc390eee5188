import Brokerage.Proofs.Account.Convertible
import Brokerage.Proofs.Broker.Batch
import Brokerage.Proofs.Broker.Settlement
import Brokerage.Proofs.Execution.Registration

namespace Brokerage
namespace Broker

/-!
How a batch enters the working set.

The buying power decides on the orders of a batch first, and all of them are
registered afterwards in their order.  A batch that passed the checks goes
through both: no order of it fails to be valued, and none is no work.
-/

variable {α : Type} [Quantity α]

/-! ## Deciding on the orders -/

section Deciding

variable {broker : Broker α}

/-- An order whose currency has a rate can be valued in a base currency that has one. -/
theorem ruling?_ok {terms : Terms α}
    (listed : broker.house.rates.supports terms.asset.currency = true)
    (base : broker.house.rates.supports broker.house.base = true) (event : Event α)
    (projection : Projection α) :
    Exists fun ruling => broker.ruling? event projection terms = .ok ruling := by
  unfold ruling?
  dsimp only
  split
  · exact ⟨_, rfl⟩
  · cases broker.referencePrice? event terms with
    | none => exact ⟨_, rfl⟩
    | some price =>
        let units := addedUnits ((projection.sizes.get? terms.asset).getD 0) terms.size
        rcases Rates.convert?_ok ⟨terms.asset.currency, units * price⟩ listed base with
          ⟨amount, converted⟩
        simp only [cost?, units, converted]
        split <;> exact ⟨_, rfl⟩

theorem rulings?_ok {batch : List (Order α)}
    (taken : forall order, order ∈ batch -> broker.Takes order)
    (base : broker.house.rates.supports broker.house.base = true) (event : Event α)
    (projection : Projection α) :
    Exists fun reasons => broker.rulings? event projection batch = .ok reasons := by
  induction batch generalizing projection with
  | nil => exact ⟨[], rfl⟩
  | cons order rest ih =>
      rcases List.forall_mem_cons.mp taken with ⟨head, tail⟩
      unfold rulings?
      cases leading : order.leadingTerms? with
      | none =>
          rcases ih tail projection with ⟨more, decided⟩
          refine ⟨none :: more, ?_⟩
          simp only [decided]
      | some terms =>
          have traded := Order.currency?_of_leading leading
          rcases ruling?_ok (head.priced _ traded) base event projection with
            ⟨⟨reason, next⟩, ruled⟩
          rcases ih tail next with ⟨more, decided⟩
          refine ⟨reason :: more, ?_⟩
          simp only [ruled, decided]

/-- All orders of a batch that passed the checks are decided on. -/
theorem admission?_ok {batch : List (Order α)}
    (taken : forall order, order ∈ batch -> broker.Takes order)
    (base : broker.house.rates.supports broker.house.base = true) (event : Event α) :
    Exists fun orders => broker.admission? batch event = .ok orders := by
  unfold admission?
  cases broker.house.checksBuyingPower with
  | false => exact ⟨_, rfl⟩
  | true =>
      rcases rulings?_ok taken base event broker.projection with ⟨reasons, decided⟩
      refine ⟨batch.zip reasons, ?_⟩
      simp only [decided, if_true]

/-- What the decision on one order is, and how the decision on the others goes on from there. -/
theorem rulings?_cons {event : Event α} {projection : Projection α} {order : Order α}
    {rest : List (Order α)} {reasons : List (Option (Rejection α))}
    (decided : broker.rulings? event projection (order :: rest) = .ok reasons) :
    Exists fun reason => Exists fun next => Exists fun more => reasons = reason :: more ∧
      broker.rulings? event next rest = .ok more ∧
      (order.leadingTerms? = none ∧ reason = none ∧ next = projection ∨
        Exists fun terms => order.leadingTerms? = some terms ∧
          broker.ruling? event projection terms = .ok (reason, next)) := by
  unfold rulings? at decided
  cases leading : order.leadingTerms? with
  | none =>
      rw [leading] at decided
      cases others : broker.rulings? event projection rest with
      | error error =>
          simp only [others, reduceCtorEq] at decided
      | ok more =>
          simp only [others, Except.ok.injEq] at decided
          exact ⟨none, projection, more, decided.symm, others, Or.inl ⟨rfl, rfl, rfl⟩⟩
  | some terms =>
      rw [leading] at decided
      cases ruled : broker.ruling? event projection terms with
      | error error =>
          simp only [ruled, reduceCtorEq] at decided
      | ok ruling =>
          rcases ruling with ⟨reason, next⟩
          cases others : broker.rulings? event next rest with
          | error error =>
              simp only [ruled, others, reduceCtorEq] at decided
          | ok more =>
              simp only [ruled, others, Except.ok.injEq] at decided
              exact ⟨reason, next, more, decided.symm, others, Or.inr ⟨terms, rfl, ruled⟩⟩

/-- Brokers that rule alike on single orders rule alike on a batch. -/
theorem rulings?_congr {other : Broker α} {event : Event α}
    (same : forall projection terms,
      other.ruling? event projection terms = broker.ruling? event projection terms)
    (projection : Projection α) (batch : List (Order α)) :
    other.rulings? event projection batch = broker.rulings? event projection batch := by
  induction batch generalizing projection with
  | nil => rfl
  | cons order rest ih =>
      unfold rulings?
      simp only [same, ih]

theorem length_rulings? {event : Event α} {projection : Projection α} {batch : List (Order α)}
    {reasons : List (Option (Rejection α))}
    (decided : broker.rulings? event projection batch = .ok reasons) :
    reasons.length = batch.length := by
  induction batch generalizing projection reasons with
  | nil =>
      cases decided
      rfl
  | cons order rest ih =>
      rcases rulings?_cons decided with ⟨reason, next, more, same, others, -⟩
      rw [same, List.length_cons, List.length_cons, ih others]

/-- The decision on a batch lists its orders as they stand in it. -/
theorem orders_of_admission? {batch : List (Order α)} {event : Event α}
    {orders : List (Order α × Option (Rejection α))}
    (decided : broker.admission? batch event = .ok orders) : orders.map Prod.fst = batch := by
  unfold admission? at decided
  split at decided
  · split at decided
    · rename_i reasons ruled
      cases decided
      exact List.map_fst_zip (Nat.le_of_eq (length_rulings? ruled).symm)
    · cases decided
  · cases decided
    simp only [List.map_map, Function.comp_def, List.map_id']

end Deciding

/-! ## Registering the orders -/

/-- What registering orders one after the other does, and the numbers that it gives. -/
inductive Enlisted (time : Instant) :
    Engine α -> List (Order α × Option (Rejection α)) -> Engine α -> List OrderId -> Prop where
  | nil {engine : Engine α} : Enlisted time engine [] engine []
  | cons {engine next last : Engine α} {order : Order α} {reason : Option (Rejection α)}
      {rest : List (Order α × Option (Rejection α))} {state : OrderState α}
      {numbers : List OrderId}
      (first : Engine.Registered engine order time reason next (.ok state))
      (others : Enlisted time next rest last numbers) :
      Enlisted time engine ((order, reason) :: rest) last (engine.nextId :: numbers)

/-- An instruction that is registered leaves the others of a batch to be registered behind it. -/
theorem registerAll_cons {engine : Engine α} {time : Instant} {order : Order α}
    {reason : Option (Rejection α)} {state : OrderState α}
    (answer : (engine.register order time reason).result = .ok state)
    (rest : List (Order α × Option (Rejection α))) :
    (registerAll engine time ((order, reason) :: rest)).state =
        (registerAll (engine.register order time reason).state time rest).state ∧
      (registerAll engine time ((order, reason) :: rest)).result =
        (registerAll (engine.register order time reason).state time rest).result.map
          (engine.nextId :: ·) := by
  simp only [registerAll, answer, and_self]

/-- Where a batch is registered its first instruction is, and then the others are. -/
theorem registerAll_cons_ok {engine : Engine α} {time : Instant} {order : Order α}
    {reason : Option (Rejection α)} {rest : List (Order α × Option (Rejection α))}
    {numbers : List OrderId}
    (listed : (registerAll engine time ((order, reason) :: rest)).result = .ok numbers) :
    Exists fun state => Exists fun more =>
      (engine.register order time reason).result = .ok state ∧
        (registerAll (engine.register order time reason).state time rest).result = .ok more ∧
        numbers = engine.nextId :: more := by
  cases answer : (engine.register order time reason).result with
  | error error =>
      unfold registerAll at listed
      simp only [answer, reduceCtorEq] at listed
  | ok state =>
      rw [(registerAll_cons answer rest).2] at listed
      cases others : (registerAll (engine.register order time reason).state time rest).result with
      | error error =>
          rw [others] at listed
          cases listed
      | ok more =>
          rw [others] at listed
          cases listed
          exact ⟨state, more, rfl, rfl, rfl⟩

theorem registerAll_enlisted {engine : Engine α} {time : Instant}
    {orders : List (Order α × Option (Rejection α))} {numbers : List OrderId}
    (listed : (registerAll engine time orders).result = .ok numbers) :
    Enlisted time engine orders (registerAll engine time orders).state numbers := by
  induction orders generalizing engine numbers with
  | nil =>
      cases listed
      exact .nil
  | cons entry rest ih =>
      rcases entry with ⟨order, reason⟩
      rcases registerAll_cons_ok listed with ⟨state, more, answer, others, rfl⟩
      have first := engine.registered order time reason
      rw [answer] at first
      rw [(registerAll_cons answer rest).1]
      exact .cons first (ih others)

/-- A batch that is registered has registered the instructions before any one of them, then that
one, and then those behind it. -/
theorem registerAll_split {engine : Engine α} {time : Instant}
    {front rest : List (Order α × Option (Rejection α))} {entry : Order α × Option (Rejection α)}
    {numbers : List OrderId}
    (listed : (registerAll engine time (front ++ entry :: rest)).result = .ok numbers) :
    Exists fun ahead => Exists fun behind => Exists fun state =>
      ahead.length = front.length ∧
      numbers = ahead ++ (registerAll engine time front).state.nextId :: behind ∧
      Enlisted time engine front (registerAll engine time front).state ahead ∧
      Engine.Registered (registerAll engine time front).state entry.1 time entry.2
        (registerAll engine time (front ++ [entry])).state (.ok state) ∧
      Enlisted time (registerAll engine time (front ++ [entry])).state rest
        (registerAll engine time (front ++ entry :: rest)).state behind := by
  induction front generalizing engine numbers with
  | nil =>
      rcases registerAll_cons_ok listed with ⟨state, more, answer, others, rfl⟩
      have first := engine.registered entry.1 time entry.2
      rw [answer] at first
      refine ⟨[], more, state, rfl, rfl, .nil, ?_, ?_⟩
      · rw [List.nil_append, (registerAll_cons answer []).1]
        exact first
      · rw [List.nil_append, List.nil_append, (registerAll_cons answer []).1,
          (registerAll_cons answer rest).1]
        exact registerAll_enlisted others
  | cons other front ih =>
      rcases registerAll_cons_ok listed with ⟨opening, more, answer, others, rfl⟩
      rcases ih others with ⟨ahead, behind, state, long, rfl, before, own, after⟩
      have first := engine.registered other.1 time other.2
      rw [answer] at first
      refine ⟨engine.nextId :: ahead, behind, state, congrArg Nat.succ long, ?_, ?_, ?_, ?_⟩
      · rw [(registerAll_cons answer front).1]
        rfl
      · rw [(registerAll_cons answer front).1]
        exact .cons first before
      · rw [(registerAll_cons answer front).1, List.cons_append, (registerAll_cons answer _).1]
        exact own
      · rw [List.cons_append, List.cons_append, (registerAll_cons answer _).1,
          (registerAll_cons answer _).1]
        exact after

/-- Instructions that passed the checks are all registered. -/
theorem registerAll_ok {orders : List (Order α × Option (Rejection α))}
    (sound : forall entry, entry ∈ orders -> entry.1.isOrder = true ∧ entry.1.HasSingleLegs)
    (engine : Engine α) (time : Instant) :
    Exists fun numbers => (registerAll engine time orders).result = .ok numbers := by
  induction orders generalizing engine with
  | nil => exact ⟨[], rfl⟩
  | cons entry rest ih =>
      rcases entry with ⟨order, reason⟩
      rcases List.forall_mem_cons.mp sound with ⟨head, tail⟩
      rcases engine.register_ok head.1 head.2 time reason with ⟨state, answer⟩
      rcases ih tail (engine.register order time reason).state with ⟨numbers, listed⟩
      refine ⟨engine.nextId :: numbers, ?_⟩
      simp only [registerAll, answer, listed, Except.map]

/-- The orders of a batch that passed the checks are all registered once they are decided on. -/
theorem registerAll_of_decided {broker : Broker α} {batch : List (Order α)} {event : Event α}
    {orders : List (Order α × Option (Rejection α))}
    (taken : broker.refusal? batch event = none)
    (decided : broker.admission? batch event = .ok orders) :
    Exists fun numbers => (registerAll broker.engine event.time orders).result = .ok numbers := by
  refine registerAll_ok (fun entry listed => ?_) broker.engine event.time
  have member : entry.1 ∈ batch := orders_of_admission? decided ▸ List.mem_map_of_mem listed
  have takes := (refusal?_eq_none_iff.mp taken).2.1 entry.1 member
  exact ⟨takes.real, takes.plain⟩

/-- A placing that gets through the checks and the decision ends with a settlement. -/
theorem placed_of_decided {broker : Broker α} {batch : List (Order α)} {event : Event α}
    {orders : List (Order α × Option (Rejection α))}
    (taken : broker.refusal? batch event = none)
    (decided : broker.admission? batch event = .ok orders) :
    Exists fun numbers => (registerAll broker.engine event.time orders).result = .ok numbers ∧
      match broker.house.model.buyingPower? (broker.settled orders event).account with
      | .ok amount =>
          (broker.place batch event).state = (broker.settled orders event).withBuyingPower amount ∧
            (broker.place batch event).result = .ok numbers
      | .error error =>
          (broker.place batch event).state = broker.settled orders event ∧
            (broker.place batch event).result = .error (.money error) := by
  rcases registerAll_of_decided taken decided with ⟨numbers, listed⟩
  refine ⟨numbers, listed, ?_⟩
  have ended := broker.placed batch event
  generalize (broker.place batch event).state = state at ended ⊢
  generalize (broker.place batch event).result = result at ended ⊢
  cases ended with
  | refused fault => cases taken.symm.trans fault
  | unvalued _ failed => cases decided.symm.trans failed
  | unworkable _ again failed =>
      cases decided.symm.trans again
      cases listed.symm.trans failed
  | unpowered _ again _ failed =>
      cases decided.symm.trans again
      rw [refreshBuyingPower_eq] at failed
      rw [settled_house] at failed
      cases powered : broker.house.model.buyingPower? (broker.settled orders event).account with
      | ok amount =>
          rw [powered] at failed
          cases failed
      | error error =>
          rw [powered] at failed
          cases failed
          exact ⟨rfl, rfl⟩
  | done _ again repeated powered =>
      cases decided.symm.trans again
      cases listed.symm.trans repeated
      rw [settled_house] at powered
      rw [powered]
      exact ⟨rfl, rfl⟩

/-- A batch that is decided on is settled, with some figure of the buying power. -/
theorem place_repriced {broker : Broker α} {batch : List (Order α)} {event : Event α}
    {orders : List (Order α × Option (Rejection α))}
    (taken : broker.refusal? batch event = none)
    (decided : broker.admission? batch event = .ok orders) :
    Exists fun amount =>
      (broker.place batch event).state = (broker.settled orders event).withBuyingPower amount := by
  rcases placed_of_decided taken decided with ⟨_, -, ended⟩
  split at ended
  · exact ⟨_, ended.1⟩
  · exact ⟨(broker.settled orders event).ledger.buyingPower, ended.1⟩

/-- The orders that the books have after a placing are those that the settlement has put there. -/
theorem place_orders {broker : Broker α} {batch : List (Order α)} {event : Event α}
    {orders : List (Order α × Option (Rejection α))}
    (taken : broker.refusal? batch event = none)
    (decided : broker.admission? batch event = .ok orders) :
    (broker.place batch event).state.ledger.orders =
      (broker.settled orders event).ledger.orders := by
  rcases place_repriced taken decided with ⟨amount, same⟩
  rw [same]
  rfl

/-- A batch that passed the checks is decided on, and all its orders are registered. -/
theorem enlisted_of_taken {broker : Broker α} {batch : List (Order α)} {event : Event α}
    (base : broker.house.rates.supports broker.house.base = true)
    (taken : broker.refusal? batch event = none) :
    Exists fun orders => broker.admission? batch event = .ok orders ∧
      orders.map Prod.fst = batch ∧ Exists fun numbers =>
        (registerAll broker.engine event.time orders).result = .ok numbers := by
  rcases admission?_ok (refusal?_eq_none_iff.mp taken).2.1 base event with ⟨orders, decided⟩
  exact ⟨orders, decided, orders_of_admission? decided, registerAll_of_decided taken decided⟩

/-! ## What a command does in a house with a rate for its base currency -/

/-- How many instructions a command registers: those of the batch that it places, if any. -/
def intake (broker : Broker α) (command : Command α) : Nat :=
  match broker.placing? command with
  | some (batch, event) => if (broker.refusal? batch event).isNone then batch.length else 0
  | none => 0

/--
What a command other than a reset makes of a broker, and how many instructions
it registers: nothing, or a settlement, with another buying power or without.
-/
inductive Advanced (broker : Broker α) : Broker α -> Nat -> Prop where
  | idle : Advanced broker broker 0
  | settled {orders : List (Order α × Option (Rejection α))} {event : Event α}
      {numbers : List OrderId} (taken : broker.refusal? (orders.map Prod.fst) event = none)
      (listed : (registerAll broker.engine event.time orders).result = .ok numbers) :
      Advanced broker (broker.settled orders event) orders.length
  | powered {orders : List (Order α × Option (Rejection α))} {event : Event α}
      {numbers : List OrderId} (taken : broker.refusal? (orders.map Prod.fst) event = none)
      (listed : (registerAll broker.engine event.time orders).result = .ok numbers)
      (amount : Amount α) :
      Advanced broker ((broker.settled orders event).withBuyingPower amount) orders.length

/-- The checks of a batch settle both the decision on it and its registration. -/
theorem Placed.advanced {broker : Broker α} {batch : List (Order α)} {event : Event α}
    {state : Broker α} {result : Except (BrokerError α) (List OrderId)}
    (base : broker.house.rates.supports broker.house.base = true)
    (ended : Placed broker batch event state result) :
    Advanced broker state
      (if (broker.refusal? batch event).isNone then batch.length else 0) := by
  cases ended with
  | refused fault =>
      rw [fault]
      exact .idle
  | unvalued taken failed =>
      rcases enlisted_of_taken base taken with ⟨orders, decided, -⟩
      cases decided.symm.trans failed
  | unworkable taken decided failed =>
      rcases registerAll_of_decided taken decided with ⟨numbers, listed⟩
      cases listed.symm.trans failed
  | unpowered taken decided listed _ =>
      have same := orders_of_admission? decided
      subst same
      rw [taken, List.length_map]
      exact .settled taken listed
  | done taken decided listed _ =>
      have same := orders_of_admission? decided
      subst same
      rw [taken, List.length_map]
      exact .powered taken listed _

theorem Reachable.advanced {house : House α} {broker : Broker α}
    (reached : Reachable house broker) (base : house.rates.supports house.base = true)
    {command : Command α} (going : command ≠ .reset) :
    Advanced broker (broker.after command) (broker.intake command) := by
  unfold intake
  cases placing : broker.placing? command with
  | none =>
      rw [after_of_idle placing going]
      exact .idle
  | some placing =>
      rw [after_of_placing placing]
      exact (broker.placed _ _).advanced (reached.base_supported base)

/-! ## What a command does in any house -/

/-- What a command other than a reset makes of a broker: nothing, or a settlement, with another
buying power or without. -/
inductive Stepped (broker : Broker α) : Broker α -> Prop where
  | idle : Stepped broker broker
  | settled {orders : List (Order α × Option (Rejection α))} {event : Event α}
      {numbers : List OrderId} (taken : broker.refusal? (orders.map Prod.fst) event = none)
      (listed : (registerAll broker.engine event.time orders).result = .ok numbers) :
      Stepped broker (broker.settled orders event)
  | powered {orders : List (Order α × Option (Rejection α))} {event : Event α}
      {numbers : List OrderId} (taken : broker.refusal? (orders.map Prod.fst) event = none)
      (listed : (registerAll broker.engine event.time orders).result = .ok numbers)
      (amount : Amount α) :
      Stepped broker ((broker.settled orders event).withBuyingPower amount)

/-- A batch that cannot be valued leaves the broker alone, like one that is refused. -/
theorem Placed.stepped {broker : Broker α} {batch : List (Order α)} {event : Event α}
    {state : Broker α} {result : Except (BrokerError α) (List OrderId)}
    (ended : Placed broker batch event state result) : Stepped broker state := by
  cases ended with
  | refused _ => exact .idle
  | unvalued _ _ => exact .idle
  | unworkable taken decided failed =>
      rcases registerAll_of_decided taken decided with ⟨numbers, listed⟩
      cases listed.symm.trans failed
  | unpowered taken decided listed _ =>
      have same := orders_of_admission? decided
      subst same
      exact .settled taken listed
  | done taken decided listed _ =>
      have same := orders_of_admission? decided
      subst same
      exact .powered taken listed _

theorem stepped_after (broker : Broker α) {command : Command α} (going : command ≠ .reset) :
    Stepped broker (broker.after command) := by
  cases placing : broker.placing? command with
  | none =>
      rw [after_of_idle placing going]
      exact .idle
  | some placing =>
      rw [after_of_placing placing]
      exact (broker.placed _ _).stepped

/--
What a fresh start has, what another figure of the buying power leaves alone,
and what every settlement keeps, holds of every reachable broker.
-/
theorem Reachable.induction_of_settled {house : House α} {motive : Broker α -> Prop}
    (opened : motive (idle house).emptied)
    (emptied : forall broker, Reachable house broker -> motive broker -> motive broker.emptied)
    (repriced : forall broker amount, motive broker -> motive (broker.withBuyingPower amount))
    (settled : forall broker event orders numbers, Reachable house broker -> motive broker ->
      broker.refusal? (orders.map Prod.fst) event = none ->
      (registerAll broker.engine event.time orders).result = .ok numbers ->
      motive (broker.settled orders event))
    {broker : Broker α} (reached : Reachable house broker) : motive broker := by
  apply reached.induction opened emptied repriced
  intro broker batch event state result reached kept ended
  cases ended.stepped with
  | idle => exact kept
  | settled taken listed => exact settled broker _ _ _ reached kept taken listed
  | powered taken listed amount =>
      exact repriced _ amount (settled broker _ _ _ reached kept taken listed)

end Broker
end Brokerage
