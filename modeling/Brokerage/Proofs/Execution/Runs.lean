import Brokerage.Proofs.Broker.AtWork
import Brokerage.Proofs.Broker.Bookings

namespace Brokerage

/-!
Runs of the working set.

Between two fresh starts a working set is handed orders, shown events and rid
of closed orders, in any sequence.  None of this mixes two orders: apart from
the numbers on its slips, an order changes by the events and by the cancels
that name it, and it is removed only when it is closed.  What happens to an
order along a run can therefore be told from the order alone.
-/

variable {α : Type} [Quantity α]

/-- Something that is done to a working set between two fresh starts. -/
inductive Engine.Action (α : Type) where
  | register (order : Order α) (time : Instant) (reason : Option (Rejection α))
  | observe (event : Event α)
  | purge

namespace Engine

/-- What an event of a run shows of an asset. -/
def Action.observation? (asset : Asset) : Action α -> Option (Observation α)
  | .observe event => event.observation? asset
  | _ => none

/-- Whether an action of a run cancels the order with a number. -/
def Action.cancels (number : OrderId) : Action α -> Bool
  | .register order _ _ => order.cancels number
  | _ => false

/-- The working set after an action, whether or not the action succeeds. -/
def act (pricing : Pricing α) (engine : Engine α) : Action α -> Engine α
  | .register order time reason => (engine.register order time reason).state
  | .observe event => (engine.execute pricing event).1
  | .purge => engine.removeClosed

/-- The working set after a run. -/
def run (pricing : Pricing α) (engine : Engine α) (actions : List (Action α)) : Engine α :=
  actions.foldl (act pricing) engine

/-- The fills of the order with a number by an action. -/
def fillsBy (pricing : Pricing α) (number : OrderId) (engine : Engine α) :
    Action α -> List (Execution α)
  | .observe event => engine.fillsUnder pricing event number
  | _ => []

/-- The fills of the order with a number along a run, the first one first. -/
def fillsAlong (pricing : Pricing α) (number : OrderId) :
    Engine α -> List (Action α) -> List (Execution α)
  | _, [] => []
  | engine, action :: rest =>
      engine.fillsBy pricing number action ++
        fillsAlong pricing number (engine.act pricing action) rest

end Engine

/-! ## An order by itself -/

namespace Executor

open Engine (Action)

/-- What an action makes of an order with a number; nothing when it removes the order. -/
def act? (pricing : Pricing α) (number : OrderId) (executor : Executor α) :
    Action α -> Option (Executor α)
  | .register order time _ =>
      some (if order.cancels number then executor.close time .cancelled else executor)
  | .observe event => some (Engine.turn pricing event executor).1
  | .purge => if executor.isOpen then some executor else none

/-- The fills of an order by an action. -/
def fillsBy (pricing : Pricing α) (executor : Executor α) : Action α -> List (Execution α)
  | .observe event => (Engine.turn pricing event executor).2.1
  | _ => []

@[simp] theorem fillsBy_register (pricing : Pricing α) (executor : Executor α) (order : Order α)
    (time : Instant) (reason : Option (Rejection α)) :
    executor.fillsBy pricing (.register order time reason) = [] := rfl

@[simp] theorem fillsBy_purge (pricing : Pricing α) (executor : Executor α) :
    executor.fillsBy pricing .purge = [] := rfl

/-- Only a closed order is removed, and only when the closed orders are dropped. -/
theorem of_act?_eq_none {pricing : Pricing α} {number : OrderId} {executor : Executor α}
    {action : Action α} (gone : executor.act? pricing number action = none) :
    action = .purge ∧ executor.isOpen = false := by
  cases action with
  | register _ _ _ => cases gone
  | observe _ => cases gone
  | purge =>
      refine ⟨rfl, Bool.eq_false_iff.mpr fun live => ?_⟩
      rw [act?, if_pos live] at gone
      cases gone

/-- Numbers do not decide what an action makes of an order. -/
theorem act?_anonymous (pricing : Pricing α) (number : OrderId) (executor : Executor α)
    (action : Action α) :
    executor.anonymous.act? pricing number action =
      (executor.act? pricing number action).map anonymous := by
  cases action with
  | register order time reason =>
      simp only [act?, Option.map_some]
      split
      · rw [anonymous_close]
      · rfl
  | observe event => exact congrArg some (Engine.anonymous_turn pricing event executor).symm
  | purge =>
      simp only [act?, isOpen_anonymous]
      split <;> rfl

end Executor

namespace Engine

variable {engine : Engine α} {number : OrderId}

theorem nextId_act (pricing : Pricing α) (engine : Engine α) (action : Action α) :
    engine.nextId ≤ (engine.act pricing action).nextId := by
  cases action with
  | register order time reason =>
      have given := (engine.registered order time reason).nextId_eq
      unfold act
      rw [given]
      exact Int.le_of_lt (Int.lt_succ _)
  | observe _ => exact Int.le_refl _
  | purge => exact Int.le_refl _

/-- A number that has been given out stays behind the next one. -/
theorem lt_nextId_act (old : number < engine.nextId) (pricing : Pricing α) (action : Action α) :
    number < (engine.act pricing action).nextId :=
  Int.lt_of_lt_of_le old (engine.nextId_act pricing action)

omit [Quantity α] in
/-- Writing numbers leaves an order as it was without them. -/
theorem get?_numbering_anonymous (engine : Engine α) (order : Order α) (number : OrderId) :
    ((engine.numbering order).executors.get? number).map Executor.anonymous =
      (engine.executors.get? number).map Executor.anonymous := by
  rcases engine.executors_numbering order with ⟨change, same, keeps⟩
  rw [same, Table.get?_map, Option.map_map]
  apply congrArg (fun forget => (engine.executors.get? number).map forget)
  funext executor
  exact keeps executor

/-- Registering an order that is no cancel puts it behind those at work. -/
theorem Registered.get?_of_trades {next : Engine α} {order : Order α} {time : Instant}
    {reason : Option (Rejection α)} {answer : Except NotWorkable (OrderState α)}
    (registered : Registered engine order time reason next answer)
    (trades : order.isCancel = false) (old : number < engine.nextId) :
    next.executors.get? number = (engine.numbering order).executors.get? number := by
  rcases registered.of_trades trades with ⟨_, -, rfl, -⟩ | ⟨_, -, rfl, -⟩
  · rfl
  · exact (Table.get?_put _ _ _ _).trans (if_neg (Int.ne_of_gt old))

/-- Registering an instruction closes the order that it cancels, and no other one. -/
theorem get?_register_anonymous (old : number < engine.nextId) (order : Order α) (time : Instant)
    (reason : Option (Rejection α)) :
    ((engine.register order time reason).state.executors.get? number).map Executor.anonymous =
      ((engine.executors.get? number).map Executor.anonymous).map fun executor =>
        if order.cancels number then executor.close time .cancelled else executor := by
  rw [← engine.get?_numbering_anonymous order number]
  have registered := engine.registered order time reason
  generalize (engine.register order time reason).result = answer at registered
  generalize (engine.register order time reason).state = next at registered ⊢
  cases trades : order.isCancel with
  | false =>
      simp only [registered.get?_of_trades trades old, Order.cancels_of_trades trades,
        Bool.false_eq_true, if_false, Option.map_id']
  | true =>
      rcases Order.exists_of_isCancel trades with ⟨slip, target, form⟩
      subst form
      have cancels : (Order.cancel slip target : Order α).cancels number =
          decide (target = number) := rfl
      rw [registered.of_cancel.1, cancels]
      by_cases aimed : target = number
      · subst aimed
        rw [get?_closeTarget_self, Option.map_map, Option.map_map]
        apply congrArg (fun change => Option.map change _)
        funext executor
        simp only [Function.comp_apply, decide_true, if_true, Executor.anonymous_close]
      · simp only [get?_closeTarget aimed, aimed, decide_false, Bool.false_eq_true, if_false,
          Option.map_id']

/-- An action does to an order with a number what it does to the order by itself. -/
theorem get?_act_anonymous (pricing : Pricing α) (old : number < engine.nextId)
    (action : Action α) :
    ((engine.act pricing action).executors.get? number).map Executor.anonymous =
      ((engine.executors.get? number).map Executor.anonymous).bind fun executor =>
        executor.act? pricing number action := by
  cases action with
  | register order time reason =>
      rw [act, get?_register_anonymous old]
      cases (engine.executors.get? number).map Executor.anonymous <;> rfl
  | observe event =>
      rw [act, executors_execute, Table.get?_map]
      cases engine.executors.get? number with
      | none => rfl
      | some executor => exact congrArg some (anonymous_turn pricing event executor)
  | purge =>
      have kept : (engine.removeClosed.executors.get? number) =
          (engine.executors.get? number).bind fun executor =>
            if executor.isOpen then some executor else none := by
        apply Option.ext
        intro executor
        have filtered : engine.removeClosed.executors.get? number = some executor <->
            engine.executors.get? number = some executor ∧ executor.isOpen = true :=
          Table.get?_filter_of_keep
        rw [filtered]
        cases engine.executors.get? number with
        | none => simp only [reduceCtorEq, false_and, Option.bind_none]
        | some found =>
            simp only [Option.some.injEq, Option.bind_some, Option.ite_none_right_eq_some]
            constructor
            · rintro ⟨rfl, live⟩
              exact ⟨live, rfl⟩
            · rintro ⟨live, rfl⟩
              exact ⟨rfl, live⟩
      rw [act, kept]
      cases engine.executors.get? number with
      | none => rfl
      | some executor =>
          simp only [Option.bind_some, Option.map_some, Executor.act?, Executor.isOpen_anonymous]
          split <;> rfl

/-- An action makes the same of an order whatever the numbers on its slips. -/
theorem get?_act_alike (pricing : Pricing α) (old : number < engine.nextId) (action : Action α) :
    ((engine.act pricing action).executors.get? number).map Executor.anonymous =
      ((engine.executors.get? number).bind fun executor =>
        executor.act? pricing number action).map Executor.anonymous := by
  rw [engine.get?_act_anonymous pricing old]
  cases engine.executors.get? number with
  | none => rfl
  | some executor => exact executor.act?_anonymous pricing number action

/-- The fills of an order by an action are the fills of the order by itself. -/
theorem fillsBy_eq (pricing : Pricing α) (engine : Engine α) (number : OrderId)
    (action : Action α) :
    engine.fillsBy pricing number action =
      ((engine.executors.get? number).map fun executor =>
        executor.fillsBy pricing action).getD [] := by
  cases action with
  | observe event => rfl
  | _ => cases engine.executors.get? number <;> rfl

/-- An event does to an order in the working set what it does to the order by itself. -/
theorem observe_eq {executor : Executor α} (found : engine.executors.get? number = some executor)
    (pricing : Pricing α) (event : Event α) :
    (engine.act pricing (.observe event)).executors.get? number =
        some (turn pricing event executor).1 ∧
      engine.fillsUnder pricing event number = (turn pricing event executor).2.1 := by
  constructor
  · rw [act, executors_execute, Table.get?_map, found]
    rfl
  · rw [fillsUnder, found]
    rfl

/-- A fill under a number is one of the fills of the event, and it is a fill of the order that the
working set has under the number. -/
theorem fill_of_fillsUnder {pricing : Pricing α} {event : Event α} {fill : Execution α}
    (filled : fill ∈ engine.fillsUnder pricing event number) :
    fill ∈ (engine.execute pricing event).2.1 ∧
      (engine.executors.get? number).map Executor.order = some fill.order := by
  unfold fillsUnder at filled
  cases found : engine.executors.get? number with
  | none =>
      rw [found] at filled
      cases filled
  | some executor =>
      rw [found, Option.map_some, Option.getD_some] at filled
      constructor
      · have listed := List.mem_map_of_mem (f := Prod.snd) (Table.get?_eq_some_iff.mp found)
        rw [fills_execute]
        exact List.mem_flatMap.mpr ⟨executor, listed, filled⟩
      · rcases (turned pricing event executor).fill_eq filled with ⟨quantity, price, same⟩
        rw [same]
        rfl

/-! ## Runs -/

/-- What the events of a run show of an asset. -/
def observations (asset : Asset) (actions : List (Action α)) : List (Observation α) :=
  actions.filterMap (Action.observation? asset)

omit [Quantity α] in
theorem observations_cons (asset : Asset) (action : Action α) (rest : List (Action α)) :
    observations asset (action :: rest) =
      (action.observation? asset).toList ++ observations asset rest := by
  unfold observations
  rw [List.filterMap_cons]
  cases action.observation? asset <;> rfl

theorem run_append (pricing : Pricing α) (engine : Engine α) (first second : List (Action α)) :
    engine.run pricing (first ++ second) = (engine.run pricing first).run pricing second :=
  List.foldl_append

theorem nextId_run (pricing : Pricing α) (engine : Engine α) (actions : List (Action α)) :
    engine.nextId ≤ (engine.run pricing actions).nextId := by
  induction actions generalizing engine with
  | nil => exact Int.le_refl _
  | cons action rest ih =>
      exact Int.le_trans (engine.nextId_act pricing action) (ih (engine.act pricing action))

/-- An order that is missing after a run was closed when the run dropped the closed orders. -/
theorem dropped_of_missing {pricing : Pricing α} {executor : Executor α}
    (old : number < engine.nextId) (found : engine.executors.get? number = some executor)
    {actions : List (Action α)}
    (missing : (engine.run pricing actions).executors.get? number = none) :
    Exists fun earlier => Exists fun later => Exists fun last =>
      actions = earlier ++ .purge :: later ∧
      (engine.run pricing earlier).executors.get? number = some last ∧ last.isOpen = false := by
  induction actions generalizing engine executor with
  | nil => cases found.symm.trans missing
  | cons action rest ih =>
      have becomes := engine.get?_act_anonymous pricing old action
      rw [found, Option.map_some, Option.bind_some] at becomes
      cases stays : (engine.act pricing action).executors.get? number with
      | none =>
          rw [stays] at becomes
          rcases Executor.of_act?_eq_none becomes.symm with ⟨purges, closed⟩
          rw [Executor.isOpen_anonymous] at closed
          exact ⟨[], rest, executor, by rw [purges, List.nil_append], found, closed⟩
      | some next =>
          have older := lt_nextId_act old pricing action
          rcases ih older stays missing with ⟨earlier, later, last, form, shown, closed⟩
          exact ⟨action :: earlier, later, last, by rw [form, List.cons_append], shown, closed⟩

end Engine
end Brokerage
