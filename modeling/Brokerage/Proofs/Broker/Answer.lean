import Brokerage.Proofs.Broker.Atomicity

namespace Brokerage

/-!
What a command answers, and the broker that it leaves.

Every command answers with the numbers of the orders that it places or with
what went wrong.  A new buying power is the last thing that a command works
out, and the old figure stays when that fails.  Up to this figure a command
therefore leaves the same broker whether or not it fails in the end.
-/

variable {α : Type}

/-- The family of what went wrong. -/
def BrokerError.family : BrokerError α -> String
  | .refused reason => reason.kind
  | .money _ => "ValueError"
  | .notWorkable _ => "TypeError"

/-- An answer that has a value is no error. -/
theorem ok_of_toOption {ε σ : Type} {answer : Except ε σ} {value : σ}
    (computed : answer.toOption = some value) : answer = .ok value := by
  cases answer with
  | error _ => cases computed
  | ok _ => exact congrArg Except.ok (Option.some.inj computed)

variable [Quantity α]

namespace Broker

/-- What a command answers: the numbers of the orders that it places, or what went wrong. -/
def answer (broker : Broker α) : Command α -> Except (BrokerError α) (List OrderId)
  | .place batch event => (broker.place batch event).result
  | .liquidate time => (broker.liquidate time).result
  | .reset => (broker.reset.result.map fun _ => []).mapError .money

theorem answer_of_placing {broker : Broker α} {command : Command α} {batch : List (Order α)}
    {event : Event α} (placing : broker.placing? command = some (batch, event)) :
    broker.answer command = (broker.place batch event).result := by
  cases command with
  | place _ _ =>
      cases placing
      rfl
  | reset => cases placing
  | liquidate time =>
      unfold placing? windingUp? at placing
      unfold answer liquidate
      cases known : time <|> broker.ledger.lastUpdate with
      | none => simp only [known, reduceCtorEq] at placing
      | some instant =>
          simp only [known] at placing ⊢
          split at placing
          · cases placing
          · rename_i something
            cases placing
            rw [if_neg something]

/-- A command that places nothing gives no numbers and cannot fail. -/
theorem answer_of_idle {broker : Broker α} {command : Command α}
    (idle : broker.placing? command = none) (kept : command ≠ .reset) :
    broker.answer command = .ok [] := by
  cases command with
  | place _ _ => cases idle
  | reset => exact absurd rfl kept
  | liquidate time =>
      unfold placing? windingUp? at idle
      unfold answer liquidate
      cases known : time <|> broker.ledger.lastUpdate with
      | none => simp only [known]
      | some instant =>
          simp only [known] at idle ⊢
          split at idle
          · rename_i nothing
            rw [if_pos nothing]
          · cases idle

/-! ## Up to the buying power -/

theorem reset_repriced (broker : Broker α) :
    Exists fun amount => broker.reset.state = broker.emptied.withBuyingPower amount := by
  rcases broker.reset_state with same | repriced
  · exact ⟨broker.emptied.ledger.buyingPower, same⟩
  · exact repriced

/-- A broker that was just opened is an emptied one with a figure of its buying power. -/
theorem opened_repriced {house : House α} {broker : Broker α} {notices : List (Notice α)}
    (opened : open? house = .ok (broker, notices)) :
    Exists fun amount => broker = (idle house).emptied.withBuyingPower amount := by
  rcases (idle house).reset_repriced with ⟨amount, fresh⟩
  exact ⟨amount, (opened_state opened).trans fresh⟩

/-- A placing that succeeds answers with the numbers that registering its orders gives. -/
theorem listed_of_placed {broker : Broker α} {batch : List (Order α)} {event : Event α}
    {orders : List (Order α × Option (Rejection α))} {numbers : List OrderId}
    (decided : broker.admission? batch event = .ok orders)
    (placed : (broker.place batch event).result = .ok numbers) :
    (registerAll broker.engine event.time orders).result = .ok numbers := by
  rcases settled_of_placed placed with ⟨orders, -, again, listed, -⟩
  cases decided.symm.trans again
  exact listed

/-! ## Starting afresh -/

section Restarting

variable {house : House α} {broker : Broker α}

/-- The deposit of a house can be valued, and a fresh start holds nothing else. -/
theorem Reachable.emptied_convertible (reached : Reachable house broker)
    (base : house.rates.supports house.base = true) : broker.emptied.account.Convertible := by
  have priced := reached.priced
  have books := broker.emptied_ledger
  have rates : broker.emptied.account.rates = house.rates := by
    rw [account, books, ← reached.house_eq]
    exact priced.rates
  have own : broker.emptied.account.base = house.base := by
    rw [account, books, ← reached.house_eq]
    exact priced.base
  constructor
  · rw [rates, own]
    exact base
  · intro currency listed
    rw [account, books, reached.house_eq] at listed
    rw [rates]
    exact reached.deposit_supported (Wallet.mem_currencies_copy.mp listed)
  · intro position listed
    rw [account, books] at listed
    cases listed

theorem Reachable.reset_ok (reached : Reachable house broker)
    (base : house.rates.supports house.base = true) (dependable : house.model.Dependable) :
    broker.reset.result = .ok () := by
  have convertible := reached.emptied_convertible base
  have answers : broker.emptied.house.model.Dependable := by
    rw [show broker.emptied.house = house from reached.house_eq]
    exact dependable
  rcases answers.buyingPower?_ok convertible with ⟨amount, powered⟩
  rw [reset_of_powered powered]

end Restarting

end Broker
end Brokerage
