import Brokerage.Proofs.Execution.Promises

namespace Brokerage

/-!
Trailing stops.

A trailing stop follows the best price that was observed since the order was
accepted, or since the entry of its bracket was filled: the highest one for a
sale, the lowest one for a purchase.  Its level never moves away from the
market, and the first observation that reaches the level left by the
observations before it fills the order.
-/

variable {α : Type} [Quantity α]

open Quantity (isUndefined)

/-! ## The best price -/

/-- An observation whose prices are numbers. -/
structure Observation.Known (observation : Observation α) : Prop where
  price : isUndefined observation.price = false
  low : isUndefined observation.low = false
  high : isUndefined observation.high = false

namespace Terms

/-- The end of the range that is best for an order which waits: a purchase waits for low prices. -/
def favourable (terms : Terms α) (observation : Observation α) : α :=
  if terms.buys then observation.low else observation.high

/-- The prices that a trailing order goes by: the first reference price, and the best ends of all
the ranges. -/
def marks (terms : Terms α) : List (Observation α) -> List α
  | [] => []
  | first :: rest => first.price :: (first :: rest).map terms.favourable

/-- A price that is at least as good for the order as another one. -/
def AsGood (terms : Terms α) (price other : α) : Prop :=
  if terms.buys then price ≤ other else other ≤ price

/-- The best of the prices that a trailing order goes by. -/
structure Best (terms : Terms α) (seen : List (Observation α)) (best : α) : Prop where
  listed : best ∈ terms.marks seen
  bound : forall mark, mark ∈ terms.marks seen -> terms.AsGood best mark

section Order

variable [Quantity.Ordered α] {terms : Terms α} {price other third : α}

theorem AsGood.trans (first : terms.AsGood price other) (second : terms.AsGood other third) :
    terms.AsGood price third := by
  unfold AsGood at first second ⊢
  split
  · rename_i buys
    rw [if_pos buys] at first second
    exact Quantity.Ordered.le_trans first second
  · rename_i sells
    rw [if_neg sells] at first second
    exact Quantity.Ordered.le_trans second first

/-- The better of two prices, as a waiting order keeps it. -/
def better (terms : Terms α) (price other : α) : α :=
  if terms.buys then Quantity.least price other else Quantity.greatest price other

omit [Quantity.Ordered α] in
theorem better_eq (terms : Terms α) (price other : α) :
    terms.better price other = price ∨ terms.better price other = other := by
  unfold better Quantity.least Quantity.greatest
  split
  · split
    · exact Or.inr rfl
    · exact Or.inl rfl
  · split
    · exact Or.inr rfl
    · exact Or.inl rfl

omit [Quantity.Ordered α] in
/-- Keeping the better of two prices adds none. -/
theorem better_subset (terms : Terms α) (first next : α) (rest : List α) :
    terms.better first next :: rest ⊆ first :: next :: rest := by
  apply List.cons_subset.mpr
  refine ⟨?_, List.subset_cons_of_subset _ (List.subset_cons_self _ _)⟩
  rcases terms.better_eq first next with same | same
  · rw [same]
    exact List.mem_cons_self
  · rw [same]
    exact List.mem_cons_of_mem _ List.mem_cons_self

theorem better_asGood (terms : Terms α) (left : isUndefined price = false)
    (right : isUndefined other = false) :
    terms.AsGood (terms.better price other) price ∧
      terms.AsGood (terms.better price other) other := by
  unfold AsGood better
  cases terms.buys with
  | true => exact ⟨Quantity.Ordered.least_le_left left, Quantity.Ordered.least_le_right left right⟩
  | false =>
      exact ⟨Quantity.Ordered.le_greatest_left left, Quantity.Ordered.le_greatest_right left right⟩

end Order

/-- The better one of each mark and those before it is the best one, by induction on the marks. -/
theorem best_of_better [Quantity.Ordered α] (terms : Terms α) {first : α} {rest : List α}
    (known : forall mark, mark ∈ first :: rest -> isUndefined mark = false) :
    let best := rest.foldl terms.better first
    best ∈ first :: rest ∧ forall mark, mark ∈ first :: rest -> terms.AsGood best mark := by
  induction rest generalizing first with
  | nil =>
      have self := Quantity.Ordered.le_self (known first List.mem_cons_self)
      refine ⟨List.mem_cons_self, ?_⟩
      intro mark listed
      rw [List.mem_singleton.mp listed]
      unfold AsGood
      split <;> exact self
  | cons next rest ih =>
      have within := terms.better_subset first next rest
      rcases ih fun mark listed => known mark (within listed) with ⟨listed, bound⟩
      rcases terms.better_asGood (known first List.mem_cons_self)
        (known next (List.mem_cons_of_mem _ List.mem_cons_self)) with ⟨goodFirst, goodNext⟩
      have reached := bound (terms.better first next) List.mem_cons_self
      refine ⟨within listed, ?_⟩
      intro mark among
      rcases List.mem_cons.mp among with same | among
      · rw [same]
        exact reached.trans goodFirst
      · rcases List.mem_cons.mp among with same | later
        · rw [same]
          exact reached.trans goodNext
        · exact bound mark (List.mem_cons_of_mem _ later)

section Seen

variable {terms : Terms α} {seen : List (Observation α)} {observation : Observation α}

theorem bestSeen?_cons (terms : Terms α) (first : Observation α) (rest : List (Observation α)) :
    terms.bestSeen? (first :: rest) =
      some (((first :: rest).map terms.favourable).foldl terms.better first.price) := by
  have step : forall (best : α) (others : List (Observation α)),
      others.foldl (fun best observation =>
        let known := best.getD observation.price
        some (if terms.buys then Quantity.least known observation.low
          else Quantity.greatest known observation.high)) (some best) =
        some ((others.map terms.favourable).foldl terms.better best) := by
    intro best others
    induction others generalizing best with
    | nil => rfl
    | cons next others ih =>
        rw [List.foldl_cons, List.map_cons, List.foldl_cons, ← ih]
        unfold better favourable
        cases terms.buys <;> rfl
  rw [List.map_cons, List.foldl_cons, ← step]
  unfold bestSeen? better favourable
  cases terms.buys <;> rfl

theorem known_of_mem_marks (terms : Terms α)
    (known : forall observation, observation ∈ seen -> observation.Known) {mark : α}
    (listed : mark ∈ terms.marks seen) : isUndefined mark = false := by
  cases seen with
  | nil => cases listed
  | cons first rest =>
      rcases List.mem_cons.mp listed with same | later
      · rw [same]
        exact (known first List.mem_cons_self).price
      · rcases List.mem_map.mp later with ⟨observation, among, same⟩
        subst same
        unfold favourable
        split
        · exact (known observation among).low
        · exact (known observation among).high

/-- What a trailing order remembers is the best price. -/
theorem exists_best [Quantity.Ordered α] (terms : Terms α) (some : seen ≠ [])
    (known : forall observation, observation ∈ seen -> observation.Known) :
    Exists fun best => terms.bestSeen? seen = Option.some best ∧ terms.Best seen best := by
  cases seen with
  | nil => exact absurd rfl some
  | cons first rest =>
      have all : forall mark, mark ∈ terms.marks (first :: rest) -> isUndefined mark = false :=
        fun mark listed => terms.known_of_mem_marks known listed
      rcases terms.best_of_better all with ⟨listed, bound⟩
      exact ⟨_, terms.bestSeen?_cons first rest, listed, bound⟩

theorem marks_append (terms : Terms α) (seen more : List (Observation α)) {mark : α}
    (listed : mark ∈ terms.marks seen) : mark ∈ terms.marks (seen ++ more) := by
  cases seen with
  | nil => cases listed
  | cons first rest =>
      have longer : terms.marks ((first :: rest) ++ more) =
          terms.marks (first :: rest) ++ more.map terms.favourable := by
        simp only [List.cons_append, marks, List.map_cons, List.map_append]
      rw [longer]
      exact List.mem_append_left _ listed

/-! ## The level of a trailing stop -/

/-- The level that trails a reference price. -/
def levelAt (terms : Terms α) (distance reference : α) : α :=
  if terms.buys then reference * (1 + distance) else reference * (1 - distance)

/-- The distance of sound terms is a share that is more than nothing and less than the whole. -/
theorem distance_bounds {distance : α} (sound : terms.defect? = none)
    (trails : terms.kind = .trail distance) : 0 < distance ∧ distance < 1 := by
  unfold defect? at sound
  split at sound
  · cases sound
  · rw [trails] at sound
    dsimp only at sound
    split at sound
    · rename_i within
      exact Bool.and_eq_true_iff.mp within |>.imp of_decide_eq_true of_decide_eq_true
    · cases sound

/-- A better price moves the level with it. -/
theorem asGood_levelAt [Quantity.Trails α] {distance price other : α} (positive : 0 < distance)
    (part : distance < 1) (good : terms.AsGood price other) :
    terms.AsGood (terms.levelAt distance price) (terms.levelAt distance other) := by
  unfold AsGood at good ⊢
  unfold levelAt
  split
  · rename_i buys
    rw [if_pos buys] at good
    exact Quantity.Trails.trail_above positive part good
  · rename_i sells
    rw [if_neg sells] at good
    exact Quantity.Trails.trail_below positive part good

/-- How a trailing order with a distance goes by the best price. -/
structure FollowsBest (terms : Terms α) (distance : α) : Prop where
  /-- The first observation fills nothing. -/
  first : forall observation, terms.meets [] observation = false
  best : forall {seen : List (Observation α)}, seen ≠ [] ->
    (forall observation, observation ∈ seen -> observation.Known) ->
    Exists fun best => terms.bestSeen? seen = some best ∧ terms.Best seen best
  /-- A later one fills the order when it reaches the level of the best price before it. -/
  next : forall {seen : List (Observation α)} {best : α} (observation : Observation α),
    terms.bestSeen? seen = some best ->
    terms.meets seen observation = terms.reaches (terms.levelAt distance best) observation
  /-- The level never moves away from the market. -/
  level : forall {seen more : List (Observation α)} {earlier later : α},
    (forall observation, observation ∈ seen ++ more -> observation.Known) ->
    terms.bestSeen? seen = some earlier -> terms.bestSeen? (seen ++ more) = some later ->
    terms.AsGood (terms.levelAt distance later) (terms.levelAt distance earlier)
  price : forall (pricing : Pricing α) (slip : Slip) (observation : Observation α),
    terms.fillPrice pricing slip observation = pricing.price slip terms observation

theorem followsBest [Quantity.Trails α] {terms : Terms α} {distance : α}
    (sound : terms.defect? = none) (trails : terms.kind = .trail distance) :
    terms.FollowsBest distance where
  first observation := by
    unfold meets meetsStop stopLevel?
    rw [trails]
    rfl
  best some known := terms.exists_best some known
  next {seen best} observation remembered := by
    unfold meets meetsStop stopLevel?
    rw [trails, remembered]
    rfl
  level {seen more earlier later} known remembered continued := by
    rcases distance_bounds sound trails with ⟨positive, part⟩
    have some : seen ≠ [] := by
      intro nothing
      rw [nothing] at remembered
      cases remembered
    have longer : seen ++ more ≠ [] := List.append_ne_nil_of_left_ne_nil some more
    have before : forall observation, observation ∈ seen -> observation.Known :=
      fun observation listed => known observation (List.mem_append_left more listed)
    rcases terms.exists_best some before with ⟨first, firstSeen, isFirst⟩
    rcases terms.exists_best longer known with ⟨last, lastSeen, isLast⟩
    cases firstSeen.symm.trans remembered
    cases lastSeen.symm.trans continued
    apply asGood_levelAt positive part
    exact isLast.bound _ (terms.marks_append seen more isFirst.listed)
  price pricing slip observation := by
    unfold fillPrice
    rw [trails]
    rfl

end Seen

end Terms

/-! ## What a working set remembers -/

/-- The price that a trailing order goes by, or the trailing stop of a bracket. -/
def Executor.reference? : Executor α -> Option α
  | .single worker => worker.reference
  | .bracket _ _ _ _ stopLoss => stopLoss.reference?

omit [Quantity α] in
@[simp] theorem Executor.reference?_anonymous (executor : Executor α) :
    executor.anonymous.reference? = executor.reference? := by
  induction executor with
  | single _ => rfl
  | bracket _ _ _ _ _ _ _ stopLoss => exact stopLoss

namespace Engine

/-- The price that the order with a number goes by. -/
def referenceAt? (engine : Engine α) (number : OrderId) : Option α :=
  (engine.executors.get? number).bind Executor.reference?

omit [Quantity α] in
theorem referenceAt?_of_executor {engine : Engine α} {number : OrderId} {executor : Executor α}
    (found : (engine.executors.get? number).map Executor.anonymous = some executor) :
    engine.referenceAt? number = executor.reference? := by
  rcases Option.map_eq_some_iff.mp found with ⟨own, present, same⟩
  subst same
  unfold referenceAt?
  rw [present, Executor.reference?_anonymous]
  rfl

/-- An event that leaves the order with a number as it was, and fills nothing of it. -/
def Unmoved (engine : Engine α) (pricing : Pricing α) (number : OrderId) (event : Event α) :
    Prop :=
  ((engine.act pricing (.observe event)).executors.get? number).map Executor.anonymous =
      (engine.executors.get? number).map Executor.anonymous ∧
    engine.fillsUnder pricing event number = []

/-- A waiting trailing order in a working set: what it goes by, and what it does with an event that
does not observe its asset. -/
structure TrailsSingle (start : Engine α) (slip : Slip) (terms : Terms α) (number : OrderId)
    (opened : Instant) : Prop where
  course : forall pricing, terms.Course slip pricing number opened start
  remembers : forall {pricing : Pricing α} {actions : List (Action α)},
    terms.KeepsWaiting number opened actions ->
    (start.run pricing actions).referenceAt? number =
      terms.bestSeen? (observations terms.asset actions)
  unseen : forall {pricing : Pricing α} {actions : List (Action α)} {event : Event α},
    terms.KeepsWaiting number opened actions -> terms.tif.isExpired opened event.time = false ->
    event.observation? terms.asset = none ->
    (start.run pricing actions).Unmoved pricing number event

/-- The trailing stop of a bracket inside, which sees what comes after the event of the entry. -/
structure TrailsInside (start : Engine α) (number : OrderId) (plan : BracketPlan α) : Prop where
  remembers : forall {pricing : Pricing α} {earlier later : List (Action α)} {event : Event α},
    plan.KeepsInside pricing number start earlier event later ->
    (start.run pricing (earlier ++ .observe event :: later)).referenceAt? number =
        plan.stopLoss.bestSeen? (observations plan.entry.asset later) ∧
      (start.run pricing (earlier ++ [.observe event])).fillsAlong pricing number later = []
  stops : forall {pricing : Pricing α} {earlier later : List (Action α)} {event next : Event α}
    {observation : Observation α}, plan.KeepsInside pricing number start earlier event later ->
    next.observation? plan.entry.asset = some observation ->
    plan.stopLoss.meets (observations plan.entry.asset later) observation = true ->
    Exists fun shown : BracketPlan α => shown.anonymous = plan.anonymous ∧
      (start.run pricing (earlier ++ .observe event :: later)).fillsUnder pricing next number =
        [shown.fill plan.stopLoss.size
          (pricing.price shown.stopLossSlip plan.stopLoss observation)]
  /-- An observation that does not reach the level may still take the profit, and then nothing else
  fills. -/
  profits : forall {pricing : Pricing α} {earlier later : List (Action α)} {event next : Event α}
    {observation : Observation α}, plan.KeepsInside pricing number start earlier event later ->
    next.observation? plan.entry.asset = some observation ->
    plan.stopLoss.meets (observations plan.entry.asset later) observation = false ->
    plan.takeProfit.meetsLimit observation = true ->
    Exists fun shown : BracketPlan α => shown.anonymous = plan.anonymous ∧
      (start.run pricing (earlier ++ .observe event :: later)).fillsUnder pricing next number =
        [shown.fill plan.takeProfit.size
          (plan.takeProfit.limitPrice pricing shown.takeProfitSlip observation)]
  /-- An observation that meets neither condition leaves the bracket inside. -/
  passes : forall {pricing : Pricing α} {earlier later : List (Action α)} {event next : Event α}
    {observation : Observation α}, plan.KeepsInside pricing number start earlier event later ->
    next.observation? plan.entry.asset = some observation ->
    plan.stopLoss.meets (observations plan.entry.asset later) observation = false ->
    plan.takeProfit.meetsLimit observation = false ->
    plan.KeepsInside pricing number start earlier event (later ++ [.observe next])
  unseen : forall {pricing : Pricing α} {earlier later : List (Action α)} {event next : Event α},
    plan.KeepsInside pricing number start earlier event later ->
    next.observation? plan.entry.asset = none ->
    (start.run pricing (earlier ++ .observe event :: later)).Unmoved pricing number next

theorem trailsSingle {start : Engine α} {slip : Slip} {terms : Terms α} {number : OrderId}
    {opened : Instant} {distance : α} (trails : terms.kind = .trail distance)
    (accepted : terms.AcceptedAt slip number opened start) :
    start.TrailsSingle slip terms number opened where
  course := accepted.course
  remembers {pricing actions} keeps := by
    rw [referenceAt?_of_executor (accepted.run_waiting pricing keeps).1]
    have remembered : terms.remembered? (observations terms.asset actions) =
        terms.bestSeen? (observations terms.asset actions) := by
      unfold Terms.remembered?
      rw [trails]
    exact remembered
  unseen {pricing actions event} keeps inForce unseen := by
    have working := (accepted.run_waiting pricing keeps).1
    rcases Option.map_eq_some_iff.mp working with ⟨executor, present, form⟩
    rcases Terms.exists_working form with ⟨shown, -, rfl⟩
    rcases observe_eq present pricing event with ⟨after, fills⟩
    rw [Terms.turn_unseen pricing inForce unseen] at after fills
    exact ⟨congrArg (Option.map Executor.anonymous) (after.trans present.symm), fills⟩

theorem trailsInside {start : Engine α} {number : OrderId} {plan : BracketPlan α} {distance : α}
    (trails : plan.stopLoss.kind = .trail distance) (accepts : plan.Accepts number start) :
    start.TrailsInside number plan := by
  have meets_eq : forall seen observation,
      plan.stopLoss.meets seen observation = plan.stopLoss.meetsStop seen observation := by
    intro seen observation
    unfold Terms.meets
    rw [trails]
  have remembered : forall seen, plan.stopLoss.remembered? seen = plan.stopLoss.bestSeen? seen := by
    intro seen
    unfold Terms.remembered?
    rw [trails]
  constructor
  · intro pricing earlier later event keeps
    rcases accepts.inside keeps with ⟨⟨opened, inside⟩, unfilled⟩
    refine ⟨?_, unfilled⟩
    rw [referenceAt?_of_executor inside, ← remembered]
    rfl
  · intro pricing earlier later event next observation keeps shows met
    rw [meets_eq] at met
    exact (accepts.stops keeps shows met).2
  · intro pricing earlier later event next observation keeps shows passed taken
    rw [meets_eq] at passed
    exact (accepts.profits keeps shows passed taken).2
  · intro pricing earlier later event next observation keeps shows passed untaken
    refine ⟨keeps.unfilled, keeps.enters, ?_, ?_⟩
    · intro action listed
      rcases List.mem_append.mp listed with old | new
      · exact keeps.uncancelled action old
      · rw [List.mem_singleton.mp new]
        rfl
    · rw [meets_eq] at passed
      have shown : (Action.observe next).observation? plan.entry.asset = some observation := shows
      rw [observations_append, Terms.observations_singleton, shown, BracketPlan.quiet_append,
        keeps.quiet, List.nil_append, Option.toList_some, BracketPlan.quiet, BracketPlan.quiet,
        passed, untaken]
      rfl
  · intro pricing earlier later event next keeps unseen
    rcases (accepts.inside keeps).1 with ⟨opened, inside⟩
    rcases Option.map_eq_some_iff.mp inside with ⟨executor, present, form⟩
    rcases BracketPlan.exists_work form with ⟨shown, alike, rfl⟩
    rcases observe_eq present pricing next with ⟨after, fills⟩
    rw [← (BracketPlan.terms_of_alike alike).1] at unseen
    rw [BracketPlan.turn_inside (accepts.sound.alike alike) rfl rfl, unseen] at after fills
    exact ⟨congrArg (Option.map Executor.anonymous) (after.trans present.symm), fills⟩

/-- Trailing orders, and trailing stops of brackets, follow the best price since they were
accepted: they never fill on the first observation, and they fill at the price of the pricing model
on the first later one that reaches the level which the best price before it has left. -/
theorem trailing_stops_follow_the_best_price [Quantity.Trails α] (engine : Engine α) :
    (forall (slip : Slip) {terms : Terms α} (time : Instant) {distance : α},
      terms.defect? = none -> terms.kind = .trail distance ->
      let answer := engine.register (.single slip terms) time none
      (Exists fun state => answer.result = .ok state ∧ state.status = .accepted ∧
        state.number? = some engine.nextId) ∧
      terms.FollowsBest distance ∧ answer.state.TrailsSingle slip terms engine.nextId time) ∧
    (forall {slip : Slip} {entry takeProfit stopLoss : Order α} {time : Instant}
      {reason : Option (Rejection α)} {state : OrderState α},
      let answer := engine.register (.bracket slip entry takeProfit stopLoss) time reason
      answer.result = .ok state -> state.status = .accepted ->
        Exists fun plan : BracketPlan α => plan.order = .bracket slip entry takeProfit stopLoss ∧
          forall distance : α, plan.stopLoss.kind = .trail distance ->
            plan.stopLoss.FollowsBest distance ∧ answer.state.TrailsInside engine.nextId plan) := by
  constructor
  · intro slip terms time distance sound trails answer
    rcases engine.register_sound slip sound time with ⟨state, answered, accepted⟩
    rcases acceptedAt_of_registered answered accepted with ⟨_, number, acceptedAt⟩
    exact ⟨⟨state, answered, accepted, number⟩, Terms.followsBest sound trails,
      trailsSingle trails acceptedAt⟩
  · intro slip entry takeProfit stopLoss time reason state answer answered accepted
    rcases BracketPlan.accepts_of_registered answered accepted with ⟨_, plan, form, accepts⟩
    refine ⟨plan, form, ?_⟩
    intro distance trails
    have clean : plan.order.defect? = none := by
      rw [form]
      exact defect?_of_accepted answered accepted
    have sound : plan.stopLoss.defect? = none := by
      apply BracketPlan.defect?_of_leg clean
      exact List.mem_cons_of_mem _ (List.mem_cons_of_mem _ List.mem_cons_self)
    exact ⟨Terms.followsBest sound trails, trailsInside trails accepts⟩

end Engine

/-- A sale of ten with a stop that trails by a tenth. -/
def trailedSale : Terms Rat :=
  { asset := { symbol := "QQQ" }, size := -10, kind := .trail (1 / 10) }

/-- After prices of 100 and 120 it goes by 120, so that the level is 108 and a price of 107 fills
it; the stop of a bracket that is registered beside it follows the best price too. -/
theorem trailedSale_fills :
    let answer := ({} : Engine Rat).register (.single {} trailedSale) ⟨0⟩ none
    let earlier : List (Engine.Action Rat) :=
      [.observe (trailedEvent 1 100), .purge, .observe (trailedEvent 2 120)]
    let engine := answer.state.run .reference earlier
    let bracketed := answer.state.register trailedPlan.order ⟨0⟩ none
    trailedSale.defect? = none ∧ trailedSale.kind = .trail (1 / 10) ∧
      engine.referenceAt? 1 = some 120 ∧
      (engine.fillsUnder .reference (trailedEvent 3 107) 1).map Execution.anonymous =
        [trailedSale.fill {} 107] ∧
      (Exists fun state => bracketed.result = .ok state ∧ state.status = .accepted) ∧
      bracketed.state.TrailsInside 2 trailedPlan := by
  intro answer earlier engine bracketed
  have sound : trailedSale.defect? = none := by decide +kernel
  rcases (Engine.trailing_stops_follow_the_best_price ({} : Engine Rat)).1 {} ⟨0⟩ sound rfl with
    ⟨_, follows, trails⟩
  have fills : trailedSale.Fills 1 ⟨0⟩ earlier (trailedEvent 3 107)
      (.trade trailedSale.asset 107 none) := by
    refine ⟨⟨by decide, ?_, ?_⟩, rfl, rfl, by decide +kernel⟩
    · intro event _
      rfl
    · intro before observation after split
      have shown : Engine.observations trailedSale.asset earlier =
          [.trade trailedSale.asset 100 none, .trade trailedSale.asset 120 none] := rfl
      rw [shown] at split
      rcases before with _ | ⟨first, _ | ⟨second, rest⟩⟩
      · exact follows.first observation
      · cases split
        decide +kernel
      · simp at split
  have status : (bracketed.result.toOption.map fun state => state.status) = some .accepted := by
    decide +kernel
  cases answered : bracketed.result with
  | error _ =>
      rw [answered] at status
      cases status
  | ok state =>
      rw [answered] at status
      have accepted : state.status = .accepted := Option.some.inj status
      rcases (Engine.trailing_stops_follow_the_best_price answer.state).2 answered accepted with
        ⟨plan, form, inside⟩
      have same : plan = trailedPlan := BracketPlan.eq_of_order_eq form
      subst same
      have best : trailedSale.bestSeen? (Engine.observations trailedSale.asset earlier) =
          some 120 := by decide +kernel
      have number : answer.state.nextId = 2 := by decide +kernel
      have trailsToo := (inside (1 / 10) rfl).2
      rw [number] at trailsToo
      rcases ((trails.course .reference).fills fills).2 with ⟨shown, alike, filled⟩
      have sold := congrArg (List.map Execution.anonymous) filled
      rw [List.map_singleton, Terms.fill_anonymous, alike, follows.price] at sold
      exact ⟨sound, rfl, (trails.remembers fills.waited).trans best, sold,
        ⟨state, rfl, accepted⟩, trailsToo⟩

end Brokerage
