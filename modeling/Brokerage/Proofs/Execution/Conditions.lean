import Brokerage.Proofs.Execution.Bracket
import Brokerage.Proofs.Quantity.Ordered

namespace Brokerage

/-!
When an order fills, and at which price.

An order goes by the observations of its asset since it was accepted.  Whether
one of them fills it is told by a condition on that one and on those before it;
what the worker remembers from one event to the next is enough to decide the
condition, and nothing more.
-/

variable {α : Type} [Quantity α]

namespace Terms

/-- A limit is reached by a buy when something trades at or below it, by a sell when something
trades at or above it. -/
def affords (terms : Terms α) (limit : α) (observation : Observation α) : Bool :=
  if terms.buys then decide (observation.low ≤ limit) else decide (limit ≤ observation.high)

/-- Whether an observation meets the condition of an order that has seen others since it was
accepted. -/
def meets (terms : Terms α) (seen : List (Observation α)) (observation : Observation α) : Bool :=
  match terms.kind with
  | .market => true
  | .limit limit => terms.affords limit observation
  | .stop stop => terms.reaches stop observation
  | .stopLimit stop limit =>
      (seen ++ [observation]).any (terms.reaches stop) && terms.affords limit observation
  | .trail _ => terms.meetsStop seen observation

/-- A price that is improved to a limit where it is worse. -/
def capped (terms : Terms α) (limit price : α) : α :=
  if terms.buys then Quantity.least limit price else Quantity.greatest limit price

/-- The price at which an observation fills an order: the kinds with a limit keep to it. -/
def fillPrice (pricing : Pricing α) (slip : Slip) (terms : Terms α)
    (observation : Observation α) : α :=
  match terms.kind.limit? with
  | some limit => terms.capped limit (pricing.price slip terms observation)
  | none => pricing.price slip terms observation

/-- A price that is not worse than a limit. -/
structure Honours (terms : Terms α) (limit price : α) : Prop where
  bought : terms.buys = true -> price ≤ limit
  sold : terms.buys = false -> limit ≤ price

/-- Whatever a price is, capping it makes it honour the limit. -/
theorem honours_capped [Quantity.Ordered α] (terms : Terms α) {limit : α}
    (known : Quantity.isUndefined limit = false) (price : α) :
    terms.Honours limit (terms.capped limit price) := by
  unfold capped
  constructor
  · intro buys
    rw [if_pos buys]
    exact Quantity.Ordered.least_le_left known
  · intro sells
    rw [if_neg (Bool.eq_false_iff.mp sells)]
    exact Quantity.Ordered.le_greatest_left known

/-- The limit of sound terms is positive. -/
theorem limit_pos {terms : Terms α} {limit : α} (sound : terms.defect? = none)
    (limited : terms.kind.limit? = some limit) : 0 < limit := by
  unfold defect? at sound
  split at sound
  · cases sound
  · by_cases positive : 0 < limit
    · exact positive
    · cases form : terms.kind with
      | limit _ =>
          rw [form] at sound limited
          cases limited
          cases (if_neg positive).symm.trans sound
      | stopLimit _ _ =>
          rw [form] at sound limited
          cases limited
          cases (if_neg positive).symm.trans sound
      | market | stop _ | trail _ =>
          rw [form] at limited
          cases limited

/-- An order with a limit never fills at a worse price, whatever the pricing model answers. -/
theorem honours_fillPrice [Quantity.Ordered α] {terms : Terms α} {limit : α}
    (sound : terms.defect? = none) (limited : terms.kind.limit? = some limit)
    (pricing : Pricing α) (slip : Slip) (observation : Observation α) :
    terms.Honours limit (terms.fillPrice pricing slip observation) := by
  have above := Quantity.Ordered.le_of_lt (limit_pos sound limited)
  have known := (Quantity.Ordered.defined above).2
  unfold fillPrice
  rw [limited]
  exact terms.honours_capped known _

/-- Whether a stop-limit order has been triggered by some observations. -/
def triggered (terms : Terms α) (seen : List (Observation α)) : Bool :=
  match terms.kind with
  | .stopLimit stop _ => seen.any (terms.reaches stop)
  | _ => false

/-- An order at work that has seen some observations. -/
def worker (terms : Terms α) (slip : Slip) (life : Lifecycle) (seen : List (Observation α)) :
    Worker α where
  slip
  terms
  life
  triggered := terms.triggered seen
  reference := terms.remembered? seen

section Matching

variable {terms : Terms α} {slip : Slip} {life : Lifecycle} {seen : List (Observation α)}
  {pricing : Pricing α} {observation : Observation α}

theorem limitFill?_worker (limit : α) :
    (terms.worker slip life seen).limitFill? limit pricing observation =
      if terms.affords limit observation then
        some (terms.capped limit (pricing.price slip terms observation))
      else none := by
  have price : (terms.worker slip life seen).priced pricing observation =
      pricing.price slip terms observation := rfl
  unfold Worker.limitFill? Worker.buys affords capped
  rw [price]
  have own : (terms.worker slip life seen).terms = terms := rfl
  rw [own]
  cases terms.buys <;> simp only [Bool.false_eq_true, if_false, if_true, decide_eq_true_eq]

/-- What a worker makes of an observation: it fills, or it goes on and has seen it. -/
structure Matches (terms : Terms α) (pricing : Pricing α) (slip : Slip) (life : Lifecycle)
    (seen : List (Observation α)) (observation : Observation α) : Prop where
  price : ((terms.worker slip life seen).match? pricing observation).2 =
    if terms.meets seen observation then some (terms.fillPrice pricing slip observation) else none
  goesOn : terms.meets seen observation = false ->
    ((terms.worker slip life seen).match? pricing observation).1 =
      terms.worker slip life (seen ++ [observation])

theorem worker_of_forgets (forgets : forall seen, terms.triggered seen = false ∧
      terms.remembered? seen = none) (first second : List (Observation α)) :
    terms.worker slip life first = terms.worker slip life second := by
  unfold worker
  rw [(forgets first).1, (forgets first).2, (forgets second).1, (forgets second).2]

theorem matches_of_stop (kind : (Exists fun level => terms.kind = .stop level) ∨
      Exists fun distance => terms.kind = .trail distance) :
    terms.Matches pricing slip life seen observation := by
  have shown : (terms.worker slip life seen).match? pricing observation = _ :=
    Worker.match?_stopLoss kind rfl
  have own : (terms.worker slip life seen).terms = terms := rfl
  have met : terms.meetsStop seen observation = terms.meets seen observation := by
    rcases kind with ⟨level, fixed⟩ | ⟨distance, trails⟩
    · simp only [meetsStop, stopLevel?, meets, fixed]
    · simp only [meets, trails]
  have price : (terms.worker slip life seen).priced pricing observation =
      terms.fillPrice pricing slip observation := by
    rcases kind with ⟨level, fixed⟩ | ⟨distance, trails⟩
    · simp only [Worker.priced, worker, fillPrice, fixed, OrderKind.limit?]
    · simp only [Worker.priced, worker, fillPrice, trails, OrderKind.limit?]
  have untriggered : terms.triggered seen = terms.triggered (seen ++ [observation]) := by
    rcases kind with ⟨level, fixed⟩ | ⟨distance, trails⟩
    · simp only [triggered, fixed]
    · simp only [triggered, trails]
  rw [own, met] at shown
  constructor
  · rw [shown, price]
    split <;> rfl
  · intro unmet
    rw [shown, unmet, if_neg Bool.false_ne_true]
    unfold worker
    rw [untriggered]

theorem match_worker (terms : Terms α) (pricing : Pricing α) (slip : Slip) (life : Lifecycle)
    (seen : List (Observation α)) (observation : Observation α) :
    terms.Matches pricing slip life seen observation := by
  have own : (terms.worker slip life seen).terms = terms := rfl
  cases form : terms.kind with
  | stop level => exact matches_of_stop (Or.inl ⟨level, form⟩)
  | trail distance => exact matches_of_stop (Or.inr ⟨distance, form⟩)
  | market =>
      constructor
      · simp only [Worker.match?, own, form, meets, fillPrice, OrderKind.limit?, if_true]
        rfl
      · intro unmet
        simp only [meets, form, Bool.true_eq_false] at unmet
  | limit limit =>
      constructor
      · simp only [Worker.match?, own, form, limitFill?_worker, meets, fillPrice,
          OrderKind.limit?]
      · intro _
        simp only [Worker.match?, own, form]
        apply worker_of_forgets
        intro seen
        simp only [triggered, remembered?, form, and_self]
  | stopLimit stop limit =>
      have memory : (terms.worker slip life seen).triggered = seen.any (terms.reaches stop) := by
        simp only [worker, triggered, form]
      have reaches : (terms.worker slip life seen).reachesStop stop observation =
          terms.reaches stop observation := rfl
      have both : (seen ++ [observation]).any (terms.reaches stop) =
          (seen.any (terms.reaches stop) || terms.reaches stop observation) := by
        simp only [List.any_append, List.any_cons, List.any_nil, Bool.or_false]
      constructor
      · simp only [Worker.match?, own, form, memory, reaches, meets, fillPrice,
          OrderKind.limit?, both]
        cases seen.any (terms.reaches stop) || terms.reaches stop observation with
        | false => rfl
        | true =>
            rw [Bool.true_and, if_pos rfl]
            exact limitFill?_worker limit
      · intro _
        simp only [Worker.match?, own, form, memory, reaches, ← both]
        simp only [worker, triggered, remembered?, form]

end Matching
end Terms
end Brokerage
