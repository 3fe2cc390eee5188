import Brokerage.Proofs.Execution.Anonymity
import Brokerage.Proofs.Order.BracketPlan

namespace Brokerage

/-!
The turns of a bracket.

A bracket at work is told by its plan, by the lives of the bracket and of its
legs, and by what its stop remembers.  What the stop remembers after some
observations is what the conditions of the orders say of them, so the turn of a
bracket is read off these conditions: the entry is matched alone, the exits are
matched from the next event on, and the stop goes before the limit.
-/

variable {α : Type} [Quantity α]

/-! ## The conditions of the exits -/

namespace Terms

/-- A level is reached from below by a buy, from above by a sell. -/
def reaches (terms : Terms α) (level : α) (observation : Observation α) : Bool :=
  if terms.buys then decide (level ≤ observation.high) else decide (observation.low ≤ level)

/-- The best price of some observations, the oldest first: the lowest for a buy, else the highest. -/
def bestSeen? (terms : Terms α) (seen : List (Observation α)) : Option α :=
  seen.foldl
    (fun best observation =>
      let known := best.getD observation.price
      some (if terms.buys then Quantity.least known observation.low
        else Quantity.greatest known observation.high))
    none

/-- The level of a stop that has seen some observations: a trailing stop has none at first. -/
def stopLevel? (terms : Terms α) (seen : List (Observation α)) : Option α :=
  match terms.kind with
  | .stop level => some level
  | .trail distance => (terms.bestSeen? seen).map fun best =>
      if terms.buys then best * (1 + distance) else best * (1 - distance)
  | _ => none

/-- Whether an observation meets the condition of a stop that has seen others before. -/
def meetsStop (terms : Terms α) (seen : List (Observation α)) (observation : Observation α) :
    Bool :=
  match terms.stopLevel? seen with
  | some level => terms.reaches level observation
  | none => false

/-- Whether an observation meets the condition of a limit order. -/
def meetsLimit (terms : Terms α) (observation : Observation α) : Bool :=
  match terms.kind with
  | .limit limit =>
      if terms.buys then decide (observation.low ≤ limit) else decide (limit ≤ observation.high)
  | _ => false

/-- The price of a limit order, never worse than its limit. -/
def limitPrice (pricing : Pricing α) (slip : Slip) (terms : Terms α)
    (observation : Observation α) : α :=
  match terms.kind with
  | .limit limit =>
      if terms.buys then Quantity.least limit (pricing.price slip terms observation)
      else Quantity.greatest limit (pricing.price slip terms observation)
  | _ => pricing.price slip terms observation

/-- What a stop remembers of some observations. -/
def remembered? (terms : Terms α) (seen : List (Observation α)) : Option α :=
  match terms.kind with
  | .trail _ => terms.bestSeen? seen
  | _ => none

theorem bestSeen?_append (terms : Terms α) (seen : List (Observation α))
    (observation : Observation α) :
    terms.bestSeen? (seen ++ [observation]) =
      let known := (terms.bestSeen? seen).getD observation.price
      some (if terms.buys then Quantity.least known observation.low
        else Quantity.greatest known observation.high) := by
  unfold bestSeen?
  rw [List.foldl_append]
  rfl

end Terms

namespace Worker

variable {worker : Worker α} {pricing : Pricing α} {observation : Observation α}

/-- An entry remembers nothing. -/
theorem match?_entry (kind : worker.terms.kind = .market ∨
    Exists fun limit => worker.terms.kind = .limit limit) :
    (worker.match? pricing observation).1 = worker := by
  unfold match?
  rcases kind with market | ⟨limit, limited⟩
  · rw [market]
  · rw [limited]

theorem match?_takeProfit (kind : Exists fun limit => worker.terms.kind = .limit limit) :
    worker.match? pricing observation =
      (worker, if worker.terms.meetsLimit observation then
        some (worker.terms.limitPrice pricing worker.slip observation) else none) := by
  rcases kind with ⟨limit, limited⟩
  unfold match? limitFill? buys priced Terms.meetsLimit Terms.limitPrice
  rw [limited]
  cases worker.terms.buys <;> simp

/-- A stop goes by what it remembers of the observations so far. -/
theorem match?_stopLoss {seen : List (Observation α)}
    (kind : (Exists fun level => worker.terms.kind = .stop level) ∨
      Exists fun distance => worker.terms.kind = .trail distance)
    (remembers : worker.reference = worker.terms.remembered? seen) :
    worker.match? pricing observation =
      if worker.terms.meetsStop seen observation then
        (worker, some (worker.priced pricing observation))
      else
        ({ worker with reference := worker.terms.remembered? (seen ++ [observation]) }, none) := by
  rcases kind with ⟨level, fixed⟩ | ⟨distance, trails⟩
  · have nothing : worker.reference = none := by
      rw [remembers, Terms.remembered?, fixed]
    have reaches : worker.reachesStop level observation =
        worker.terms.meetsStop seen observation := by
      unfold Terms.meetsStop Terms.stopLevel?
      rw [fixed]
      rfl
    have same : { worker with reference := worker.terms.remembered? (seen ++ [observation]) } =
        worker := by
      have still : worker.terms.remembered? (seen ++ [observation]) = worker.reference := by
        rw [nothing, Terms.remembered?, fixed]
      rw [still]
    unfold match?
    rw [fixed]
    dsimp only
    rw [reaches, same]
    split <;> rfl
  · have best : worker.reference = worker.terms.bestSeen? seen := by
      rw [remembers, Terms.remembered?, trails]
    have later : worker.terms.remembered? (seen ++ [observation]) =
        worker.terms.bestSeen? (seen ++ [observation]) := by
      rw [Terms.remembered?, trails]
    rw [later, Terms.bestSeen?_append, ← best]
    unfold match? Terms.meetsStop Terms.stopLevel?
    rw [trails]
    dsimp only
    rw [← best]
    cases worker.reference with
    | none => rfl
    | some reference => rfl

end Worker

/-! ## A bracket at work -/

/-- Where a bracket and its legs stand. -/
structure BracketLives where
  whole : Lifecycle
  entry : Lifecycle
  takeProfit : Lifecycle
  stopLoss : Lifecycle

/-- The statuses of a bracket and of its legs. -/
structure BracketStatuses where
  whole : OrderStatus
  entry : OrderStatus
  takeProfit : OrderStatus
  stopLoss : OrderStatus
  deriving DecidableEq

namespace BracketLives

/-- A bracket that is closed with all its legs. -/
def close (lives : BracketLives) (time : Instant) (status : OrderStatus) : BracketLives where
  whole := lives.whole.move time status
  entry := lives.entry.move time status
  takeProfit := lives.takeProfit.move time status
  stopLoss := lives.stopLoss.move time status

/-- A bracket whose entry fills. -/
def enter (lives : BracketLives) (time : Instant) : BracketLives where
  whole := lives.whole
  entry := lives.entry.move time .completed
  takeProfit := lives.takeProfit.move time .accepted
  stopLoss := lives.stopLoss.move time .accepted

/-- A bracket whose stop fills. -/
def stop (lives : BracketLives) (time : Instant) : BracketLives where
  whole := lives.whole.move time .completed
  entry := lives.entry
  takeProfit := lives.takeProfit.move time .cancelled
  stopLoss := lives.stopLoss.move time .completed

/-- A bracket whose profit is taken. -/
def profit (lives : BracketLives) (time : Instant) : BracketLives where
  whole := lives.whole.move time .completed
  entry := lives.entry
  takeProfit := lives.takeProfit.move time .completed
  stopLoss := lives.stopLoss.move time .cancelled

end BracketLives

namespace BracketPlan

def entryWorker (plan : BracketPlan α) (life : Lifecycle) : Worker α where
  slip := plan.entrySlip
  terms := plan.entry
  life

def takeProfitWorker (plan : BracketPlan α) (life : Lifecycle) : Worker α where
  slip := plan.takeProfitSlip
  terms := plan.takeProfit
  life

/-- The stop of a bracket, which remembers what it has seen so far. -/
def stopLossWorker (plan : BracketPlan α) (life : Lifecycle) (seen : List (Observation α)) :
    Worker α where
  slip := plan.stopLossSlip
  terms := plan.stopLoss
  life
  reference := plan.stopLoss.remembered? seen

/-- A bracket at work whose stop has seen some observations. -/
def work (plan : BracketPlan α) (lives : BracketLives) (seen : List (Observation α)) : Executor α :=
  .bracket plan.slip lives.whole (.single (plan.entryWorker lives.entry))
    (.single (plan.takeProfitWorker lives.takeProfit))
    (.single (plan.stopLossWorker lives.stopLoss seen))

def fill (plan : BracketPlan α) (quantity price : α) : Execution α where
  order := plan.order
  asset := plan.entry.asset
  quantity
  price

/-- A plan whose slips show no numbers. -/
def anonymous (plan : BracketPlan α) : BracketPlan α :=
  { plan with
    slip := plan.slip.anonymous
    entrySlip := plan.entrySlip.anonymous
    takeProfitSlip := plan.takeProfitSlip.anonymous
    stopLossSlip := plan.stopLossSlip.anonymous }

@[simp] theorem work_anonymous (plan : BracketPlan α) (lives : BracketLives)
    (seen : List (Observation α)) :
    (plan.work lives seen).anonymous = plan.anonymous.work lives seen := rfl

omit [Quantity α] in
@[simp] theorem fill_anonymous (plan : BracketPlan α) (quantity price : α) :
    (plan.fill quantity price).anonymous = plan.anonymous.fill quantity price := rfl

variable {plan shown : BracketPlan α} {lives : BracketLives} {pricing : Pricing α}
  {event : Event α} {seen : List (Observation α)} {observation : Observation α}

omit [Quantity α] in
/-- The terms of a plan are there without the numbers. -/
theorem terms_of_alike (alike : shown.anonymous = plan.anonymous) :
    shown.entry = plan.entry ∧ shown.takeProfit = plan.takeProfit ∧
      shown.stopLoss = plan.stopLoss := by
  have entry := congrArg BracketPlan.entry alike
  have takeProfit := congrArg BracketPlan.takeProfit alike
  have stopLoss := congrArg BracketPlan.stopLoss alike
  exact ⟨entry, takeProfit, stopLoss⟩

theorem Sound.alike (sound : plan.Sound) (alike : shown.anonymous = plan.anonymous) :
    shown.Sound := by
  rcases terms_of_alike alike with ⟨entry, takeProfit, stopLoss⟩
  constructor
  · rw [entry]
    exact sound.entry
  · rw [takeProfit]
    exact sound.takeProfit
  · rw [stopLoss]
    exact sound.stopLoss
  · constructor
    · rw [takeProfit, entry]
      exact sound.profits.asset
    · rw [takeProfit, entry]
      exact sound.profits.size
  · constructor
    · rw [stopLoss, entry]
      exact sound.stops.asset
    · rw [stopLoss, entry]
      exact sound.stops.size

/-- What looks like a bracket at work without its numbers is one under the numbers that it shows. -/
theorem exists_work {executor : Executor α}
    (form : executor.anonymous = plan.anonymous.work lives seen) :
    Exists fun shown : BracketPlan α => shown.anonymous = plan.anonymous ∧
      executor = shown.work lives seen := by
  rcases executor with worker | ⟨slip, life, entry, takeProfit, stopLoss⟩
  · cases form
  · unfold work at form
    rcases Executor.bracket.inj form with ⟨whole, lived, first, second, third⟩
    rcases entry with entry | _
    · rcases takeProfit with takeProfit | _
      · rcases stopLoss with stopLoss | _
        · rcases Worker.eq_of_anonymous (Executor.single.inj first) with ⟨one, entrySlip⟩
          rcases Worker.eq_of_anonymous (Executor.single.inj second) with ⟨two, takeProfitSlip⟩
          rcases Worker.eq_of_anonymous (Executor.single.inj third) with ⟨three, stopLossSlip⟩
          refine ⟨⟨slip, entry.slip, takeProfit.slip, stopLoss.slip, plan.entry, plan.takeProfit,
            plan.stopLoss⟩, ?_, ?_⟩
          · unfold BracketPlan.anonymous
            rw [whole, entrySlip, takeProfitSlip, stopLossSlip]
            rfl
          · rw [one, two, three, lived]
            rfl
        · cases third
      · cases second
    · cases first

theorem matchLeg?_entry (sound : plan.Sound) (life : Lifecycle) :
    Exists fun price => (Executor.single (plan.entryWorker life)).matchLeg? pricing observation =
      (.single (plan.entryWorker life), price) := by
  have same : ((plan.entryWorker life).match? pricing observation).1 = plan.entryWorker life :=
    Worker.match?_entry sound.entry
  exact ⟨_, Prod.ext (congrArg Executor.single same) rfl⟩

theorem matchLeg?_takeProfit (sound : plan.Sound) (life : Lifecycle) :
    (Executor.single (plan.takeProfitWorker life)).matchLeg? pricing observation =
      (.single (plan.takeProfitWorker life), if plan.takeProfit.meetsLimit observation then
        some (plan.takeProfit.limitPrice pricing plan.takeProfitSlip observation)
        else none) := by
  have shown : (plan.takeProfitWorker life).match? pricing observation = _ :=
    Worker.match?_takeProfit sound.takeProfit
  simp only [Executor.matchLeg?, shown]
  rfl

theorem matchLeg?_stopLoss (sound : plan.Sound) (life : Lifecycle) :
    (Executor.single (plan.stopLossWorker life seen)).matchLeg? pricing observation =
      if plan.stopLoss.meetsStop seen observation then
        (.single (plan.stopLossWorker life seen),
          some (pricing.price plan.stopLossSlip plan.stopLoss observation))
      else (.single (plan.stopLossWorker life (seen ++ [observation])), none) := by
  have shown : (plan.stopLossWorker life seen).match? pricing observation = _ :=
    Worker.match?_stopLoss sound.stopLoss rfl
  have terms : (plan.stopLossWorker life seen).terms = plan.stopLoss := rfl
  simp only [Executor.matchLeg?, shown, terms]
  split <;> rfl

/-- Until its entry fills, a bracket expires, waits or is entered. -/
theorem turn_entering (sound : plan.Sound) (live : lives.whole.isOpen = true)
    (entering : lives.entry.isOpen = true) :
    (Exists fun notices => Engine.turn pricing event (plan.work lives seen) =
        (plan.work (lives.close event.time .expired) seen, [], notices)) ∨
      Engine.turn pricing event (plan.work lives seen) = (plan.work lives seen, [], []) ∨
      Exists fun price => Engine.turn pricing event (plan.work lives seen) =
        (plan.work (lives.enter event.time) seen, [plan.fill plan.entry.size price], []) := by
  have lively : (plan.work lives seen).isOpen = true := live
  cases late : (plan.work lives seen).isExpired event.time with
  | true => exact Or.inl ⟨_, Engine.turn_of_expired lively late⟩
  | false =>
      apply Or.inr
      rw [Engine.turn_of_inForce pricing lively late]
      cases shows : event.observation? plan.entry.asset with
      | none =>
          have waits : (plan.work lives seen).execute pricing event = _ :=
            (Executor.Worked.unseen shows).execute_eq
          exact Or.inl (by rw [waits])
      | some observation =>
          have entryOpen : (Executor.single (plan.entryWorker lives.entry)).isOpen = true := entering
          rcases matchLeg?_entry sound lives.entry with ⟨_ | price, shown⟩
          · have waits : (plan.work lives seen).execute pricing event = _ :=
              (Executor.Worked.entryWaiting shows entryOpen shown).execute_eq
            exact Or.inl (by rw [waits]; rfl)
          · have enters : (plan.work lives seen).execute pricing event = _ :=
              (Executor.Worked.entered shows entryOpen shown).execute_eq
            exact Or.inr ⟨price, by rw [enters]; rfl⟩

/-- What the exits of an entered bracket make of an observation: the stop goes first. -/
def leaving (plan : BracketPlan α) (pricing : Pricing α) (time : Instant) (lives : BracketLives)
    (seen : List (Observation α)) (observation : Observation α) :
    Executor α × List (Execution α) :=
  if plan.stopLoss.meetsStop seen observation then
    (plan.work (lives.stop time) seen,
      [plan.fill plan.stopLoss.size
        (pricing.price plan.stopLossSlip plan.stopLoss observation)])
  else if plan.takeProfit.meetsLimit observation then
    (plan.work (lives.profit time) (seen ++ [observation]),
      [plan.fill plan.takeProfit.size
        (plan.takeProfit.limitPrice pricing plan.takeProfitSlip observation)])
  else (plan.work lives (seen ++ [observation]), [])

/-- The exits are matched alone once the entry has filled, the stop before the other. -/
theorem execute_inside (sound : plan.Sound) (inside : lives.entry.isOpen = false)
    (shows : event.observation? plan.entry.asset = some observation) :
    (plan.work lives seen).execute pricing event =
      plan.leaving pricing event.time lives seen observation := by
  have entered : (Executor.single (plan.entryWorker lives.entry)).isOpen = false := inside
  have stop : (Executor.single (plan.stopLossWorker lives.stopLoss seen)).matchLeg? pricing
      observation = _ := matchLeg?_stopLoss sound lives.stopLoss
  have profit : (Executor.single (plan.takeProfitWorker lives.takeProfit)).matchLeg? pricing
      observation = _ := matchLeg?_takeProfit sound lives.takeProfit
  unfold leaving
  by_cases met : plan.stopLoss.meetsStop seen observation = true
  · rw [if_pos met] at stop
    have stops : (plan.work lives seen).execute pricing event = _ :=
      (Executor.Worked.stopped shows entered stop).execute_eq
    rw [stops, if_pos met]
    rfl
  · rw [if_neg met] at stop
    by_cases taken : plan.takeProfit.meetsLimit observation = true
    · rw [if_pos taken] at profit
      have profits : (plan.work lives seen).execute pricing event = _ :=
        (Executor.Worked.profited shows entered stop profit).execute_eq
      rw [profits, if_neg met, if_pos taken]
      rfl
    · rw [if_neg taken] at profit
      have waits : (plan.work lives seen).execute pricing event = _ :=
        (Executor.Worked.exitsWaiting shows entered stop profit).execute_eq
      rw [waits, if_neg met, if_neg taken]
      rfl

/-- An entered bracket is not out of force any more, and nothing happens unless it is observed. -/
theorem turn_inside (sound : plan.Sound) (live : lives.whole.isOpen = true)
    (inside : lives.entry.isOpen = false) :
    Engine.turn pricing event (plan.work lives seen) =
      match event.observation? plan.entry.asset with
      | none => (plan.work lives seen, [], [])
      | some observation =>
          ((plan.leaving pricing event.time lives seen observation).1,
            (plan.leaving pricing event.time lives seen observation).2, []) := by
  have lively : (plan.work lives seen).isOpen = true := live
  have untimed : (plan.work lives seen).isTimed = false := inside
  have inForce : (plan.work lives seen).isExpired event.time = false := by
    unfold Executor.isExpired
    rw [untimed]
    rfl
  rw [Engine.turn_of_inForce pricing lively inForce]
  cases shows : event.observation? plan.entry.asset with
  | none =>
      have waits : (plan.work lives seen).execute pricing event = _ :=
        (Executor.Worked.unseen shows).execute_eq
      rw [waits]
  | some observation => rw [execute_inside sound inside shows]

theorem turn_inside_of_seen (sound : plan.Sound) (live : lives.whole.isOpen = true)
    (inside : lives.entry.isOpen = false)
    (shows : event.observation? plan.entry.asset = some observation) :
    Engine.turn pricing event (plan.work lives seen) =
      ((plan.leaving pricing event.time lives seen observation).1,
        (plan.leaving pricing event.time lives seen observation).2, []) := by
  rw [turn_inside sound live inside, shows]

end BracketPlan
end Brokerage
