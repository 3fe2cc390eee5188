import Brokerage.Proofs.Broker.Atomicity
import Brokerage.Proofs.Broker.Standing

namespace Brokerage

/-!
What a refused order does to the rest of its batch.

The buying power is shared out before the orders are looked at one by one.  An
order that the buying power does not cover takes nothing of it, so the others
go on as if it had not been handed in.  An order with a defect of its own is
found out later, when it is registered, and by then it may have used up buying
power and changed the holding that the others are measured against.  The rest
of the batch goes on as without the refused orders exactly when the buying
power covers that rest by itself.
-/

variable {α : Type} [Quantity α]

namespace Broker

/-! ## The decision without the orders that are not covered -/

/-- The buying power covers every order of a batch. -/
def Covers (broker : Broker α) (batch : List (Order α)) (event : Event α) : Prop :=
  broker.admission? batch event = .ok (batch.map fun order => (order, none))

section Deciding

variable {broker : Broker α} {event : Event α}

/-- An order that the buying power does not cover leaves the projection alone. -/
theorem projection_of_unaffordable {projection next : Projection α} {terms : Terms α}
    {reason : Rejection α}
    (ruled : broker.ruling? event projection terms = .ok (some reason, next)) :
    next = projection := by
  unfold ruling? at ruled
  dsimp only at ruled
  split at ruled
  · cases ruled
  · split at ruled
    · cases ruled
    · split at ruled
      · cases ruled
      · split at ruled
        · cases ruled
          rfl
        · cases ruled

/-- Orders that are not covered can be left out without a trace in the decision. -/
theorem rulings?_covered {projection : Projection α} {batch : List (Order α)}
    {reasons : List (Option (Rejection α))}
    (decided : broker.rulings? event projection batch = .ok reasons) :
    broker.rulings? event projection
        (((batch.zip reasons).filter fun entry => entry.2.isNone).map Prod.fst) =
      .ok (reasons.filter Option.isNone) := by
  induction batch generalizing projection reasons with
  | nil =>
      cases decided
      rfl
  | cons order rest ih =>
      rcases rulings?_cons decided with ⟨reason, next, more, same, others, ways⟩
      have later := ih others
      subst same
      rw [List.zip_cons_cons, List.filter_cons, List.filter_cons]
      rcases ways with ⟨leading, none, kept⟩ | ⟨terms, leading, ruled⟩
      · subst none kept
        simp only [Option.isNone_none, if_true, List.map_cons, rulings?, leading, later]
      · cases reason with
        | none => simp only [Option.isNone_none, if_true, List.map_cons, rulings?, leading, ruled,
            later]
        | some reason =>
            have kept := projection_of_unaffordable ruled
            subst kept
            simpa using later

/-- Only orders that trade can go without cover. -/
theorem leadingTerms?_of_uncovered {projection : Projection α} {batch : List (Order α)}
    {reasons : List (Option (Rejection α))}
    (decided : broker.rulings? event projection batch = .ok reasons)
    {entry : Order α × Option (Rejection α)} (listed : entry ∈ batch.zip reasons)
    (against : entry.2.isSome = true) : entry.1.leadingTerms?.isSome = true := by
  induction batch generalizing projection reasons with
  | nil => cases listed
  | cons order rest ih =>
      rcases rulings?_cons decided with ⟨reason, next, more, same, others, ways⟩
      subst same
      rw [List.zip_cons_cons] at listed
      rcases List.mem_cons.mp listed with head | tail
      · subst head
        rcases ways with ⟨-, none, -⟩ | ⟨terms, leading, -⟩
        · rw [none] at against
          cases against
        · rw [leading]
          rfl
      · exact ih others tail

variable {batch : List (Order α)} {orders : List (Order α × Option (Rejection α))}

theorem trades_of_uncovered (decided : broker.admission? batch event = .ok orders)
    {entry : Order α × Option (Rejection α)} (listed : entry ∈ orders)
    (against : entry.2.isSome = true) : entry.1.isCancel = false := by
  unfold admission? at decided
  split at decided
  · split at decided
    · rename_i reasons ruled
      cases decided
      have leading := leadingTerms?_of_uncovered ruled listed against
      cases form : entry.1 with
      | cancel _ _ =>
          rw [form] at leading
          cases leading
      | _ => rfl
    · cases decided
  · cases decided
    rcases List.mem_map.mp listed with ⟨order, -, same⟩
    rw [← same] at against
    cases against

omit [Quantity α] in
/-- Orders none of which is refused for a reason are their batch, without any reasons. -/
theorem eq_map_of_reasonless
    (sound : forall entry, entry ∈ orders -> entry.2 = none) :
    orders = (orders.map Prod.fst).map fun order => (order, none) := by
  rw [List.map_map]
  refine ((List.map_congr_left fun entry listed => ?_).trans (List.map_id _)).symm
  exact Prod.ext rfl (sound entry listed).symm

theorem refuses_of_uncovered {entry : Order α × Option (Rejection α)}
    (trades : entry.1.isCancel = false) (uncovered : entry.2.isSome = true) :
    refuses entry = true := by
  rcases Option.isSome_iff_exists.mp uncovered with ⟨cause, reason⟩
  simp [refuses, trades, Engine.cause?, reason]

/-- Orders that registration does not refuse were covered. -/
theorem reason_of_unrefused (decided : broker.admission? batch event = .ok orders)
    {entry : Order α × Option (Rejection α)} (listed : entry ∈ unrefused orders) :
    entry.2 = none := by
  rcases List.mem_filter.mp listed with ⟨among, kept⟩
  by_contra against
  have uncovered : entry.2.isSome = true := Option.isSome_iff_ne_none.mpr against
  rw [refuses_of_uncovered (trades_of_uncovered decided among uncovered) uncovered] at kept
  cases kept

theorem covers_unrefused_iff (decided : broker.admission? batch event = .ok orders) :
    broker.Covers ((unrefused orders).map Prod.fst) event <->
      broker.admission? ((unrefused orders).map Prod.fst) event = .ok (unrefused orders) := by
  unfold Covers
  rw [← eq_map_of_reasonless fun entry listed => reason_of_unrefused decided listed]

/-- If nothing but a missing cover is against an order, the covered ones are all that is left. -/
theorem unrefused_of_uncovered (decided : broker.admission? batch event = .ok orders)
    (uncovered : forall entry, entry ∈ orders -> refuses entry = true -> entry.2.isSome = true) :
    unrefused orders = orders.filter fun entry => entry.2.isNone := by
  apply List.filter_congr
  intro entry listed
  cases reason : entry.2 with
  | none =>
      have kept : refuses entry = false := by
        by_contra refused
        have against := uncovered entry listed (Bool.not_eq_false _ ▸ refused)
        rw [reason] at against
        cases against
      rw [kept]
      rfl
  | some cause =>
      have against : entry.2.isSome = true := by
        rw [reason]
        rfl
      rw [refuses_of_uncovered (trades_of_uncovered decided listed against) against]
      rfl

/-- Without the orders that are not covered the others are covered as before. -/
theorem covers_of_uncovered (decided : broker.admission? batch event = .ok orders)
    (uncovered : forall entry, entry ∈ orders -> refuses entry = true -> entry.2.isSome = true) :
    broker.Covers ((unrefused orders).map Prod.fst) event := by
  rw [unrefused_of_uncovered decided uncovered]
  unfold Covers
  unfold admission? at decided ⊢
  split at decided
  · rename_i checks
    rw [if_pos checks]
    split at decided
    · rename_i reasons ruled
      cases decided
      let covered := ((batch.zip reasons).filter fun entry => entry.2.isNone).map Prod.fst
      have again : broker.rulings? event broker.projection covered =
          .ok (reasons.filter Option.isNone) := rulings?_covered ruled
      have reasonless : forall entry, entry ∈ covered.zip (reasons.filter Option.isNone) ->
          entry.2 = none := fun entry listed =>
        Option.isNone_iff_eq_none.mp (List.mem_filter.mp (List.of_mem_zip listed).2).2
      have listed := eq_map_of_reasonless reasonless
      rw [List.map_fst_zip (Nat.le_of_eq (length_rulings? again).symm)] at listed
      rw [again]
      exact congrArg Except.ok listed
    · cases decided
  · rename_i checks
    rw [if_neg checks]

end Deciding
end Broker

/-! ## Another figure of the buying power -/

/-- What an account shows when orders and their numbers are covered up. -/
def Account.anonymous (account : Account α) : Account α :=
  { account with
    orders := []
    trades := account.trades.map fun trade => { trade with orderId := none } }

/-- A model that somebody else supplies does not look at orders and their numbers. -/
def AccountModel.Blind : AccountModel α -> Prop
  | custom rule => forall account, rule (Account.anonymous account) = rule account
  | _ => True

theorem AccountModel.Blind.buyingPower?_anonymous {model : AccountModel α} (blind : model.Blind)
    (account : Account α) :
    model.buyingPower? account.anonymous = model.buyingPower? account := by
  cases model with
  | custom rule => exact blind account
  | cash _ => rfl
  | margin _ => rfl

namespace Broker

namespace SameUpTo

variable {removed : List OrderId} {before full reduced : Broker α}

theorem withBuyingPower (same : SameUpTo removed before full reduced) (amount : Amount α) :
    SameUpTo removed before (full.withBuyingPower amount) (reduced.withBuyingPower amount) :=
  { same with buyingPower := rfl }

theorem account_eq (same : SameUpTo removed before full reduced)
    (base : reduced.ledger.base = full.ledger.base)
    (rates : reduced.ledger.rates = full.ledger.rates) :
    reduced.account.anonymous = full.account.anonymous := by
  rcases same.trades with ⟨booked, all, moved⟩
  unfold Account.anonymous account Ledger.account
  rw [same.cash, same.positions, same.buyingPower, same.lastUpdate, base, rates, all, moved]
  simp only [List.map_append, List.map_map]
  rfl

end SameUpTo

/-! ## The rest of a batch -/

namespace Recorded

variable {broker : Broker α} {count : Nat} {batch : List (Order α)} {event : Event α}
  {orders : List (Order α × Option (Rejection α))}

/-- A placing records exactly those orders of its batch as rejected that were refused. -/
theorem status_placed (recorded : broker.Recorded count)
    (taken : broker.refusal? batch event = none)
    (decided : broker.admission? batch event = .ok orders)
    {entry : OrderId × Order α × Option (Rejection α)}
    (among : entry ∈ Brokerage.labelled broker.engine.nextId orders)
    (trades : entry.2.1.isCancel = false) :
    Exists fun state =>
      (broker.place batch event).state.ledger.orders.get? (some entry.1) = some state ∧
        (state.status = .rejected <-> refuses entry.2 = true) := by
  rw [place_orders taken decided]
  have same := orders_of_admission? decided
  subst same
  rcases registerAll_of_decided taken decided with ⟨numbers, listed⟩
  exact recorded.status_settled taken listed among trades

/-- If the buying power covers the rest of a batch, the rest goes on as before. -/
theorem sameUpTo_of_covers (recorded : broker.Recorded count)
    (prices : broker.house.pricing.Blind) (fees : broker.house.feeModel.Blind)
    (powers : broker.house.model.Blind)
    (taken : broker.refusal? batch event = none)
    (decided : broker.admission? batch event = .ok orders)
    (covers : broker.Covers ((unrefused orders).map Prod.fst) event) :
    SameUpTo (refusedNumbers broker orders) broker (broker.place batch event).state
      (broker.place ((unrefused orders).map Prod.fst) event).state := by
  have same := orders_of_admission? decided
  subst same
  rcases placed_of_decided taken decided with ⟨numbers, listed, full⟩
  rcases placed_of_decided (taken_unrefused taken) ((covers_unrefused_iff decided).mp covers) with
    ⟨others, spared, reduced⟩
  have settled := recorded.settled_sameUpTo prices fees taken listed spared
  have accounts : (broker.settled (unrefused orders) event).account.anonymous =
      (broker.settled orders event).account.anonymous := by
    apply settled.account_eq
    · rw [settled_base, settled_base]
    · rw [settled_rates, settled_rates]
  rw [← powers.buyingPower?_anonymous] at full reduced
  rw [accounts] at reduced
  cases powered : broker.house.model.buyingPower?
      (broker.settled orders event).account.anonymous with
  | ok amount =>
      rw [powered] at full reduced
      rw [full.1, reduced.1]
      exact settled.withBuyingPower amount
  | error _ =>
      rw [powered] at full reduced
      rw [full.1, reduced.1]
      exact settled

/-- What is left of a batch stands in the whole batch too, under a number that stays. -/
theorem exists_twin {others : List (Order α × Option (Rejection α))}
    (rest : others.map Prod.fst = (unrefused orders).map Prod.fst)
    {entry : OrderId × Order α × Option (Rejection α)}
    (among : entry ∈ Brokerage.labelled broker.engine.nextId others) :
    Exists fun number => Exists fun twin =>
      (number, twin) ∈ Brokerage.labelled broker.engine.nextId orders ∧ refuses twin = false ∧
        number ∉ refusedNumbers broker orders ∧ twin.1 = entry.2.1 ∧
          renumber (refusedNumbers broker orders) number = entry.1 := by
  have shown : (entry.1, entry.2.1) ∈
      Brokerage.labelled broker.engine.nextId ((unrefused orders).map Prod.fst) := by
    rw [← rest, labelled_map]
    exact List.mem_map_of_mem among
  rw [labelled_map, labelled_unrefused, List.map_map] at shown
  rcases List.mem_map.mp shown with ⟨⟨number, twin⟩, member, label⟩
  rcases List.mem_filter.mp member with ⟨before, kept⟩
  rcases Prod.mk.inj label with ⟨moved, form⟩
  have sound : refuses twin = false := by simpa using kept
  refine ⟨number, twin, before, sound, ?_, form, moved⟩
  rw [refusedNumbers, mem_droppedNumbers_iff before, sound]
  exact Bool.false_ne_true

/-- A batch that cannot be decided on leaves fewer orders in the books than the rest has. -/
theorem decided_of_sameUpTo (recorded : broker.Recorded count)
    (taken : broker.refusal? batch event = none)
    (decided : broker.admission? batch event = .ok orders)
    (same : SameUpTo (refusedNumbers broker orders) broker (broker.place batch event).state
      (broker.place ((unrefused orders).map Prod.fst) event).state) :
    Exists fun others =>
      broker.admission? ((unrefused orders).map Prod.fst) event = .ok others := by
  have equal := orders_of_admission? decided
  subst equal
  cases again : broker.admission? ((unrefused orders).map Prod.fst) event with
  | ok others => exact ⟨others, rfl⟩
  | error error =>
      have idle : (broker.place ((unrefused orders).map Prod.fst) event).state = broker := by
        simp only [place, taken_unrefused taken, again]
      rcases registerAll_of_decided taken decided with ⟨numbers, listed⟩
      rcases same.numbers with ⟨all, full, rest⟩
      have injective := List.map_injective_iff.mpr (Option.some_injective OrderId)
      rw [place_orders taken decided, recorded.settled_numbers taken listed] at full
      rw [idle, recorded.numbers, ← injective full, ← recorded.numbers_spared] at rest
      have lengths := congrArg List.length (injective rest)
      rw [length_numbersFrom, length_numbersFrom] at lengths
      have nothing : unrefused orders = [] := List.length_eq_zero_iff.mp (by omega)
      rw [nothing] at again
      unfold admission? at again
      split at again <;> cases again

/-- If the rest of a batch goes on as before, the buying power covers it: an order rejected in the
rest has a twin in the whole batch, which is not. -/
theorem covers_of_sameUpTo (recorded : broker.Recorded count)
    (taken : broker.refusal? batch event = none)
    (decided : broker.admission? batch event = .ok orders)
    (same : SameUpTo (refusedNumbers broker orders) broker (broker.place batch event).state
      (broker.place ((unrefused orders).map Prod.fst) event).state) :
    broker.Covers ((unrefused orders).map Prod.fst) event := by
  rcases recorded.decided_of_sameUpTo taken decided same with ⟨others, again⟩
  have equal := orders_of_admission? decided
  subst equal
  have rest := orders_of_admission? again
  have reasonless : forall entry, entry ∈ others -> entry.2 = none := by
    intro entry listed
    by_contra against
    have uncovered : entry.2.isSome = true := Option.isSome_iff_ne_none.mpr against
    have trades := trades_of_uncovered again listed uncovered
    rcases exists_labelled listed broker.engine.nextId with ⟨moved, among⟩
    rcases exists_twin rest among with ⟨number, twin, before, kept, stays, form, label⟩
    rcases recorded.status_placed (taken_unrefused taken) again among trades with
      ⟨state, found, rejected⟩
    rcases recorded.status_placed taken decided before (form ▸ trades) with
      ⟨other, there, accepted⟩
    have alike := same.states number stays
    rw [label, found, there, Option.map_some, Option.map_some, Option.some.injEq] at alike
    have status : state.status = other.status := congrArg (fun state => state.status) alike
    rw [status, accepted, kept] at rejected
    exact Bool.false_ne_true (rejected.mpr (refuses_of_uncovered trades uncovered))
  rw [← rest] at again ⊢
  unfold Covers
  rw [← eq_map_of_reasonless reasonless]
  exact again

end Recorded

/--
A batch that passes the checks fails as a whole only if the base currency has
no rate.  Otherwise the books have exactly its refused orders as rejected, and
placing the batch without them gives the same books, up to the numbers of the
orders, exactly when the buying power covers the rest of the batch by itself.
It does so whenever every refused order was one that it did not cover.
-/
theorem refused_orders_spare_the_rest_iff {house : House α} {broker : Broker α}
    (reached : Reachable house broker) (prices : house.pricing.Blind)
    (fees : house.feeModel.Blind) (powers : house.model.Blind) {batch : List (Order α)} {event : Event α}
    (taken : broker.refusal? batch event = none) :
    (house.rates.supports house.base = false ∧ (broker.place batch event).state = broker ∧
        Exists fun error => (broker.place batch event).result = .error (.money error)) ∨
      Exists fun orders => broker.admission? batch event = .ok orders ∧
        orders.map Prod.fst = batch ∧
        (forall entry, entry ∈ labelled broker.engine.nextId orders ->
          entry.2.1.isCancel = false -> Exists fun state =>
            (broker.place batch event).state.ledger.orders.get? (some entry.1) = some state ∧
              (state.status = .rejected <-> refuses entry.2 = true)) ∧
        (SameUpTo (refusedNumbers broker orders) broker (broker.place batch event).state
            (broker.place ((unrefused orders).map Prod.fst) event).state <->
          broker.Covers ((unrefused orders).map Prod.fst) event) ∧
        ((forall entry, entry ∈ orders -> refuses entry = true -> entry.2.isSome = true) ->
          broker.Covers ((unrefused orders).map Prod.fst) event) := by
  rcases reached.recorded with ⟨count, recorded⟩
  have same := reached.house_eq
  subst same
  cases decided : broker.admission? batch event with
  | error error =>
      refine Or.inl ⟨?_, ?_, error, ?_⟩
      · by_contra supported
        have base := Bool.not_eq_false _ ▸ supported
        rcases admission?_ok (refusal?_eq_none_iff.mp taken).2.1 base event with ⟨orders, again⟩
        cases decided.symm.trans again
      · simp only [place, taken, decided]
      · simp only [place, taken, decided]
  | ok orders =>
      refine Or.inr ⟨orders, rfl, orders_of_admission? decided, ?_, ⟨?_, ?_⟩, ?_⟩
      · exact fun entry among trades => recorded.status_placed taken decided among trades
      · exact recorded.covers_of_sameUpTo taken decided
      · exact recorded.sameUpTo_of_covers prices fees powers taken decided
      · exact covers_of_uncovered decided

/-- A house whose accounts start with a thousand. -/
def thriftyHouse : House Rat :=
  { deposit := Wallet.ofAmounts [⟨"USD", 1000⟩] }

/-- A broker that has just been opened in the thrifty house. -/
def thriftyBroker : Broker Rat :=
  (idle thriftyHouse).reset.state

/-- Buy at the market. -/
def purchase (size : Rat) : Order Rat :=
  .single {} { asset := { symbol := "QQQ" }, size, kind := .market }

/-- A sale whose limit is below nothing, which no registration lets through. -/
def worthlessSale : Order Rat :=
  .single {} { asset := { symbol := "QQQ" }, size := -10, kind := .limit (-1) }

/-- In a batch of two of which the first is refused, only the first number is left out. -/
theorem refused_first {first second : Order Rat}
    {orders : List (Order Rat × Option (Rejection Rat))}
    (same : orders.map Prod.fst = [first, second]) (ruled : orders.map refuses = [true, false]) :
    Exists fun one => Exists fun other => orders = [(first, one), (second, other)] ∧
      refusedNumbers thriftyBroker orders = [1] ∧ unrefused orders = [(second, other)] := by
  have two : orders.length = 2 := by
    rw [← List.length_map Prod.fst, same]
    rfl
  rcases List.length_eq_two.mp two with ⟨⟨left, one⟩, ⟨right, other⟩, rfl⟩
  cases same
  simp only [List.map_cons, List.map_nil, List.cons.injEq, and_true] at ruled
  refine ⟨one, other, rfl, ?_, ?_⟩
  · simp [refusedNumbers, droppedNumbers, labelled, ruled.1, ruled.2]
    rfl
  · simp [unrefused, ruled.1, ruled.2]

theorem unaffordablePurchase_spares_the_rest :
    Reachable thriftyHouse thriftyBroker ∧
      thriftyBroker.refusal? [purchase 20, purchase 5] quietEvent = none ∧
      SameUpTo [1] thriftyBroker
        (thriftyBroker.place [purchase 20, purchase 5] quietEvent).state
        (thriftyBroker.place [purchase 5] quietEvent).state ∧
      (thriftyBroker.place [purchase 5] quietEvent).state.ledger.cash.balance "USD" = 500 := by
  have reached : Reachable thriftyHouse thriftyBroker :=
    .opened (show open? thriftyHouse = .ok (_, _) from rfl)
  have taken : thriftyBroker.refusal? [purchase 20, purchase 5] quietEvent = none := by
    decide +kernel
  have computed : ((thriftyBroker.admission? [purchase 20, purchase 5] quietEvent).toOption.map
      fun orders => (orders.map refuses, orders.map fun entry => entry.2.isSome)) =
        some ([true, false], [true, false]) := by
    decide +kernel
  refine ⟨reached, taken, ?_, by decide +kernel⟩
  rcases refused_orders_spare_the_rest_iff reached trivial trivial trivial taken with
    ⟨unsupported, -⟩ | ⟨orders, decided, same, -, spares, covers⟩
  · cases unsupported
  · rw [decided] at computed
    rcases Prod.mk.inj (Option.some.inj computed) with ⟨ruled, uncovered⟩
    rcases refused_first same ruled with ⟨one, other, rfl, numbers, rest⟩
    simp only [List.map_cons, List.map_nil, List.cons.injEq, and_true] at ruled uncovered
    have both := spares.mpr (covers fun entry listed refused => by
      rcases List.mem_cons.mp listed with first | second
      · rw [first]
        exact uncovered.1
      · rw [List.mem_singleton.mp second, ruled.2] at refused
        cases refused)
    rw [numbers, rest] at both
    exact both

/--
A sale that cannot be worked is still taken for granted when the buying power
is shared out, so a purchase twice as large as the account can carry goes
through.  Without the sale the same purchase is rejected.
-/
theorem worthlessSale_pays_for_a_purchase :
    Reachable thriftyHouse thriftyBroker ∧ thriftyHouse.checksBuyingPower = true ∧
      thriftyBroker.refusal? [worthlessSale, purchase 20] quietEvent = none ∧
      (Exists fun state =>
        (thriftyBroker.place [worthlessSale, purchase 20] quietEvent).state.ledger.orders.get?
          (some 1) = some state ∧ state.status = .rejected) ∧
      ((thriftyBroker.place [worthlessSale, purchase 20] quietEvent).state.ledger.trades.map
        fun trade => (trade.orderId, trade.size)) = [(some 2, 20)] ∧
      (thriftyBroker.place [purchase 20] quietEvent).state.ledger.trades = [] ∧
      ¬ SameUpTo [1] thriftyBroker
        (thriftyBroker.place [worthlessSale, purchase 20] quietEvent).state
        (thriftyBroker.place [purchase 20] quietEvent).state := by
  have reached : Reachable thriftyHouse thriftyBroker :=
    .opened (show open? thriftyHouse = .ok (_, _) from rfl)
  have taken : thriftyBroker.refusal? [worthlessSale, purchase 20] quietEvent = none := by
    decide +kernel
  have computed : ((thriftyBroker.admission? [worthlessSale, purchase 20] quietEvent).toOption.map
      fun orders => orders.map refuses) = some [true, false] := by
    decide +kernel
  refine ⟨reached, rfl, taken, ?_, by decide +kernel, by decide +kernel, fun same => ?_⟩
  · rcases reached.recorded with ⟨count, recorded⟩
    cases decided : thriftyBroker.admission? [worthlessSale, purchase 20] quietEvent with
    | error error =>
        rw [decided] at computed
        cases computed
    | ok orders =>
        rw [decided] at computed
        have ruled := Option.some.inj computed
        rcases refused_first (orders_of_admission? decided) ruled with ⟨one, other, rfl, -, -⟩
        have first : (1, worthlessSale, one) ∈ labelled thriftyBroker.engine.nextId
            [(worthlessSale, one), (purchase 20, other)] := List.mem_cons_self
        rcases recorded.status_placed taken decided first rfl with ⟨state, found, rejected⟩
        exact ⟨state, found, rejected.mpr (List.cons.inj ruled).1⟩
  · have cash := congrArg (fun cash => cash.balance "USD") same.cash
    revert cash
    decide +kernel

end Broker
end Brokerage
