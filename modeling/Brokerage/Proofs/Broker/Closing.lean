import Brokerage.Proofs.Broker.Mirroring
import Brokerage.Proofs.Execution.MarketOrder
import Mathlib.Data.List.Forall2

namespace Brokerage

/-!
Cancels and market orders in one batch.

Cancels close their targets and touch nothing else, and new orders go to the
end of the working set.  When the event comes, closed orders take no turn, and
a market order whose asset the event observes fills for its whole size.  If all
orders at work were cancelled, the fills of the event are therefore those of
the new orders alone, and no order stays open.
-/

variable {α : Type}

namespace Engine

/-! ## Closing orders one after the other -/

section Closing

variable {executors : Table OrderId (Executor α)} {now : Instant}

def closeTargets (executors : Table OrderId (Executor α)) (targets : List OrderId)
    (now : Instant) : Table OrderId (Executor α) :=
  targets.foldl (fun executors target => closeTarget executors target now) executors

theorem closeTargets_cons (target : OrderId) (rest : List OrderId) :
    closeTargets executors (target :: rest) now =
      closeTargets (closeTarget executors target now) rest now := rfl

theorem keys_closeTarget (target : OrderId) :
    (closeTarget executors target now).keys = executors.keys := by
  unfold closeTarget
  split
  · rename_i executor found
    rw [Table.keys_put, if_pos (Table.mem_keys_of_get? found)]
  · rfl

theorem keys_closeTargets (targets : List OrderId) :
    (closeTargets executors targets now).keys = executors.keys := by
  induction targets generalizing executors with
  | nil => rfl
  | cons target rest ih => rw [closeTargets_cons, ih, keys_closeTarget]

theorem get?_closeTargets {targets : List OrderId} (distinct : targets.Nodup)
    (number : OrderId) :
    (closeTargets executors targets now).get? number =
      if number ∈ targets then
        (executors.get? number).map fun executor => executor.close now .cancelled
      else executors.get? number := by
  induction targets generalizing executors with
  | nil => exact (if_neg List.not_mem_nil).symm
  | cons target rest ih =>
      rcases List.nodup_cons.mp distinct with ⟨once, others⟩
      rw [closeTargets_cons, ih others]
      by_cases same : target = number
      · subst same
        rw [if_neg once, if_pos List.mem_cons_self, get?_closeTarget_self]
      · have member : number ∈ target :: rest <-> number ∈ rest :=
          List.mem_cons.trans (or_iff_right (Ne.symm same))
        simp only [member, get?_closeTarget same]

/-- Closing all orders leaves none of them open. -/
theorem isOpen_of_closeTargets {targets : List OrderId} (distinct : targets.Nodup)
    (all : forall number, number ∈ executors.keys -> number ∈ targets)
    {entry : OrderId × Executor α}
    (listed : entry ∈ (closeTargets executors targets now).entries) :
    entry.2.isOpen = false := by
  have found := Table.get?_eq_some_iff.mpr listed
  have key := Table.mem_keys_of_get? found
  rw [keys_closeTargets] at key
  rw [get?_closeTargets distinct, if_pos (all _ key)] at found
  rcases Option.map_eq_some_iff.mp found with ⟨executor, -, closed⟩
  rw [← closed]
  exact Executor.isOpen_close executor now rfl

end Closing

/-! ## The turns of the new orders -/

section Turns

variable [Quantity α]

/-- A sound market order without a limit of time, in an asset that an event observes. -/
structure Marketable (event : Event α) (terms : Terms α) : Prop where
  sound : terms.defect? = none
  market : terms.kind = .market
  untimed : terms.tif = .goodTillCancelled
  seen : Exists fun observation => event.observation? terms.asset = some observation

/-- A fill of an order with some terms for its whole size, under a number from a first one on that
the pricing model sees on its slip. -/
structure Fills (pricing : Pricing α) (event : Event α) (slip : Slip) (first : OrderId)
    (terms : Terms α) (execution : Execution α) : Prop where
  asset : execution.asset = terms.asset
  quantity : execution.quantity = terms.size
  price : Exists fun observation => event.observation? terms.asset = some observation ∧
    execution.price =
      pricing.price { slip with number := execution.order.number? } terms observation
  number : Exists fun number => first ≤ number ∧ execution.order.number? = some number

/-- The orders that are accepted under the numbers from a first one on. -/
def acceptedEntries (slip : Slip) (time : Instant) (first : OrderId) :
    List (Terms α) -> List (OrderId × Executor α)
  | [] => []
  | terms :: rest =>
      (first, .single (acceptedWorker slip terms first time)) ::
        acceptedEntries slip time (first + 1) rest

variable {slip : Slip} {event : Event α} {pricing : Pricing α}

theorem Marketable.turn {terms : Terms α} (marketable : Marketable event terms)
    (pricing : Pricing α) (slip : Slip) (first : OrderId) :
    Exists fun execution =>
      (turn pricing event (.single (acceptedWorker slip terms first event.time))).2.1 =
          [execution] ∧
        (turn pricing event (.single (acceptedWorker slip terms first event.time))).1.isOpen =
          false ∧
        Fills pricing event slip first terms execution := by
  rcases marketable.seen with ⟨observation, seen⟩
  have turned := turn_market pricing (acceptedWorker slip terms first event.time)
    marketable.market marketable.untimed rfl seen
  refine ⟨_, congrArg (fun turn => turn.2.1) turned, ?_, rfl, rfl, ⟨observation, seen, rfl⟩,
    first, Int.le_refl first, rfl⟩
  rw [turned]
  rfl

/-- Every new market order fills once and is over then. -/
theorem turns_of_marketable {orders : List (Terms α)} {first low : OrderId} (lower : low ≤ first)
    (marketable : forall terms, terms ∈ orders -> Marketable event terms) (pricing : Pricing α)
    (slip : Slip) :
    List.Forall₂ (Fills pricing event slip low) orders
        ((acceptedEntries slip event.time first orders).flatMap fun entry =>
          (turn pricing event entry.2).2.1) ∧
      forall entry, entry ∈ acceptedEntries slip event.time first orders ->
        (turn pricing event entry.2).1.isOpen = false := by
  induction orders generalizing first with
  | nil => exact ⟨.nil, fun _ listed => nomatch listed⟩
  | cons terms rest ih =>
      rcases List.forall_mem_cons.mp marketable with ⟨head, tail⟩
      rcases head.turn pricing slip first with ⟨execution, one, ended, fills⟩
      have higher : low ≤ first + 1 := Int.le_of_lt (Int.lt_add_one_of_le lower)
      rcases ih higher tail with ⟨others, later⟩
      constructor
      · rw [acceptedEntries, List.flatMap_cons, one]
        refine .cons ⟨fills.asset, fills.quantity, fills.price, ?_⟩ others
        rcases fills.number with ⟨number, above, shown⟩
        exact ⟨number, Int.le_trans lower above, shown⟩
      · rw [acceptedEntries]
        exact List.forall_mem_cons.mpr ⟨ended, later⟩

/-- Closed orders in front of the new ones add no fills, and all stay closed. -/
theorem execute_of_closed {engine : Engine α} {closed fresh : List (OrderId × Executor α)}
    (entries : engine.executors.entries = closed ++ fresh)
    (finished : forall entry, entry ∈ closed -> entry.2.isOpen = false)
    (ends : forall entry, entry ∈ fresh -> (turn pricing event entry.2).1.isOpen = false) :
    (engine.execute pricing event).2.1 =
        fresh.flatMap (fun entry => (turn pricing event entry.2).2.1) ∧
      (engine.execute pricing event).1.removeClosed.executors = Table.empty := by
  constructor
  · have nothing : closed.flatMap (fun entry => (turn pricing event entry.2).2.1) = [] := by
      apply List.flatMap_eq_nil_iff.mpr
      intro entry listed
      rw [turn_of_closed (finished entry listed)]
    rw [fills_execute, Table.values, List.flatMap_map, entries, List.flatMap_append, nothing,
      List.nil_append]
  · apply Table.ext
    apply List.filter_eq_nil_iff.mpr
    intro entry listed live
    rw [executors_execute, Table.entries_map, entries] at listed
    rcases List.mem_map.mp listed with ⟨before, member, rfl⟩
    rcases List.mem_append.mp member with old | new
    · dsimp only at live
      rw [turn_of_closed (finished before old), finished before old] at live
      cases live
    · exact Bool.false_ne_true ((ends before new).symm.trans live)

end Turns
end Engine

/-! ## Registering the batch -/

namespace Broker
namespace Enlisted

variable [Quantity α] {engine last : Engine α} {now : Instant} {slip : Slip}
  {numbers : List OrderId}

theorem of_append {first second : List (Order α × Option (Rejection α))}
    (enlisted : Enlisted now engine (first ++ second) last numbers) :
    Exists fun middle => Exists fun one => Exists fun other =>
      Enlisted now engine first middle one ∧ Enlisted now middle second last other := by
  induction first generalizing engine numbers with
  | nil => exact ⟨engine, [], numbers, .nil, enlisted⟩
  | cons entry rest ih =>
      cases enlisted with
      | cons head others =>
          rcases ih others with ⟨middle, one, other, before, after⟩
          exact ⟨middle, _, other, .cons head before, after⟩

/-- Cancels without tickets close their targets and leave the other orders alone. -/
theorem closes (ticketless : slip.ticket = none) {targets : List OrderId}
    (enlisted : Enlisted now engine
      (targets.map fun target => (.cancel slip target, none)) last numbers) :
    last.executors = Engine.closeTargets engine.executors targets now := by
  induction targets generalizing engine numbers with
  | nil =>
      cases enlisted
      rfl
  | cons target rest ih =>
      cases enlisted with
      | cons head others =>
          have bare : (Order.cancel slip target : Order α).ticket? = none := ticketless
          rw [ih others, Engine.closeTargets_cons, head.of_cancel.1,
            engine.numbering_of_ticketless bare]

/-- Sound orders without tickets stand behind the others, accepted, in their order. -/
theorem accepts (ticketless : slip.ticket = none) {orders : List (Terms α)}
    (sound : forall terms, terms ∈ orders -> terms.defect? = none)
    (below : forall number, number ∈ engine.executors.keys -> number < engine.nextId)
    (enlisted : Enlisted now engine
      (orders.map fun terms => (.single slip terms, none)) last numbers) :
    last.executors.entries = engine.executors.entries ++
      Engine.acceptedEntries slip now engine.nextId orders := by
  induction orders generalizing engine numbers with
  | nil =>
      cases enlisted
      exact (List.append_nil _).symm
  | cons terms rest ih =>
      rcases List.forall_mem_cons.mp sound with ⟨head, tail⟩
      cases enlisted with
      | @cons _ next _ _ _ _ _ _ first others =>
          have same := first.accepted_single ticketless head
          have absent : engine.nextId ∉ engine.executors.keys :=
            fun listed => Int.lt_irrefl _ (below _ listed)
          rw [ih tail _ others, same, first.nextId_eq, Table.entries_put_of_absent absent,
            List.append_assoc]
          · rfl
          · intro number listed
            rw [same] at listed
            rw [first.nextId_eq]
            rcases Table.mem_keys_put.mp listed with old | new
            · exact Int.lt_trans (below number old) (Int.lt_succ _)
            · exact new ▸ Int.lt_succ _

end Enlisted
end Broker
end Brokerage
