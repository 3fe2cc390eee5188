import Brokerage.Proofs.Execution.Bracket
import Brokerage.Proofs.Execution.Runs

namespace Brokerage

/-!
The stages of a bracket.

From its acceptance on a bracket is entering, then inside, and then left by one
of its exits.  A cancel closes it in either of the first two stages, and its
time in force may end it in the first.  Every action on the working set takes a
stage to a stage, and a stage tells which fills the bracket has had.
-/

variable {α : Type} [Quantity α]

/-- The lives of a bracket that is accepted. -/
def BracketLives.accepted (time : Instant) : BracketLives where
  whole := Lifecycle.move {} time .accepted
  entry := Lifecycle.move {} time .accepted
  takeProfit := {}
  stopLoss := {}

namespace BracketPlan

open Engine (Action)

/-- The stages of a bracket: where it stands, and the fills that it has had so far. -/
inductive Stage (plan : BracketPlan α) : Executor α -> List (Execution α) -> Prop where
  | entering (opened : Instant) : Stage plan (plan.work (.accepted opened) []) []
  | inside (opened entered : Instant) (seen : List (Observation α)) (price : α) :
      Stage plan (plan.work ((BracketLives.accepted opened).enter entered) seen)
        [plan.fill plan.entry.size price]
  | stopped (opened entered left : Instant) (seen : List (Observation α)) (first second : α) :
      Stage plan (plan.work (((BracketLives.accepted opened).enter entered).stop left) seen)
        [plan.fill plan.entry.size first, plan.fill plan.stopLoss.size second]
  | profited (opened entered left : Instant) (seen : List (Observation α)) (first second : α) :
      Stage plan (plan.work (((BracketLives.accepted opened).enter entered).profit left) seen)
        [plan.fill plan.entry.size first, plan.fill plan.takeProfit.size second]
  | expired (opened closed : Instant) :
      Stage plan (plan.work ((BracketLives.accepted opened).close closed .expired) []) []
  | withdrawn (opened closed : Instant) :
      Stage plan (plan.work ((BracketLives.accepted opened).close closed .cancelled) []) []
  /-- A bracket that is cancelled inside keeps the fill of its entry. -/
  | abandoned (opened entered closed : Instant) (seen : List (Observation α)) (price : α) :
      Stage plan
        (plan.work (((BracketLives.accepted opened).enter entered).close closed .cancelled) seen)
        [plan.fill plan.entry.size price]

namespace Stage

variable {plan : BracketPlan α} {executor next : Executor α} {fills : List (Execution α)}

/-- A cancel closes an open bracket, and leaves a closed one as it is. -/
theorem cancel (stage : plan.Stage executor fills) (time : Instant) :
    plan.Stage (executor.close time .cancelled) fills := by
  cases stage with
  | entering opened => exact .withdrawn opened time
  | inside opened entered seen price => exact .abandoned opened entered time seen price
  | stopped opened entered left seen first second =>
      exact .stopped opened entered left seen first second
  | profited opened entered left seen first second =>
      exact .profited opened entered left seen first second
  | expired opened closed => exact .expired opened closed
  | withdrawn opened closed => exact .withdrawn opened closed
  | abandoned opened entered closed seen price =>
      exact .abandoned opened entered closed seen price

/-- A bracket that observes something inside stays there or is left by one exit. -/
theorem leaving (plan : BracketPlan α) (pricing : Pricing α) (opened entered now : Instant)
    (seen : List (Observation α)) (observation : Observation α) (price : α) :
    plan.Stage
      (plan.leaving pricing now ((BracketLives.accepted opened).enter entered) seen observation).1
      (plan.fill plan.entry.size price ::
        (plan.leaving pricing now ((BracketLives.accepted opened).enter entered) seen
          observation).2) := by
  unfold BracketPlan.leaving
  split
  · exact .stopped opened entered now seen price _
  · split
    · exact .profited opened entered now _ price _
    · exact .inside opened entered _ price

/-- A closed bracket does not take part in an event. -/
theorem rest (stage : plan.Stage executor fills) (closed : executor.isOpen = false)
    (pricing : Pricing α) (event : Event α) :
    plan.Stage (Engine.turn pricing event executor).1
      (fills ++ (Engine.turn pricing event executor).2.1) := by
  rw [Engine.turn_of_closed closed, List.append_nil]
  exact stage

theorem observe (sound : plan.Sound) (stage : plan.Stage executor fills) (pricing : Pricing α)
    (event : Event α) :
    plan.Stage (Engine.turn pricing event executor).1
      (fills ++ (Engine.turn pricing event executor).2.1) := by
  cases finished : executor.isOpen with
  | false => exact stage.rest finished pricing event
  | true =>
      cases stage with
      | entering opened =>
          rcases @turn_entering _ _ plan (.accepted opened) pricing event [] sound rfl rfl with
            ⟨_, expires⟩ | waits | ⟨price, enters⟩
          · rw [expires]
            exact .expired opened event.time
          · rw [waits]
            exact .entering opened
          · rw [enters]
            exact .inside opened event.time [] price
      | inside opened entered seen price =>
          rw [turn_inside sound rfl rfl]
          cases event.observation? plan.entry.asset with
          | none => exact .inside opened entered seen price
          | some observation =>
              exact leaving plan pricing opened entered event.time seen observation price
      | stopped | profited | expired | withdrawn | abandoned => cases finished

/-- Every action takes a stage to a stage, with the fills of the action behind those so far. -/
theorem act (sound : plan.Sound) (stage : plan.Stage executor fills) {pricing : Pricing α}
    {number : OrderId} {action : Action α}
    (becomes : executor.act? pricing number action = some next) :
    plan.Stage next (fills ++ executor.fillsBy pricing action) := by
  cases action with
  | register order time reason =>
      rw [Executor.fillsBy_register, List.append_nil]
      cases becomes
      split
      · exact stage.cancel time
      · exact stage
  | observe event =>
      cases becomes
      exact stage.observe sound pricing event
  | purge =>
      rw [Executor.fillsBy_purge, List.append_nil]
      rcases Option.ite_none_right_eq_some.mp becomes with ⟨_, same⟩
      cases same
      exact stage

/-- A stage stays what it is when the numbers are rubbed out. -/
theorem anonymous (stage : plan.Stage executor fills) :
    plan.anonymous.Stage executor.anonymous (fills.map Execution.anonymous) := by
  cases stage with
  | entering opened => exact .entering opened
  | inside opened entered seen price => exact .inside opened entered seen price
  | stopped opened entered left seen first second =>
      exact .stopped opened entered left seen first second
  | profited opened entered left seen first second =>
      exact .profited opened entered left seen first second
  | expired opened closed => exact .expired opened closed
  | withdrawn opened closed => exact .withdrawn opened closed
  | abandoned opened entered closed seen price =>
      exact .abandoned opened entered closed seen price

/-- What is at a stage without its numbers is at that stage under the numbers that it shows. -/
theorem exists_shown (stage : plan.anonymous.Stage executor.anonymous fills) :
    Exists fun shown : BracketPlan α => Exists fun earlier : List (Execution α) =>
      shown.anonymous = plan.anonymous ∧ earlier.map Execution.anonymous = fills ∧
        shown.Stage executor earlier := by
  generalize form : executor.anonymous = likeness at stage
  cases stage with
  | entering opened =>
      rcases exists_work form with ⟨shown, alike, rfl⟩
      exact ⟨shown, [], alike, rfl, .entering opened⟩
  | inside opened entered seen price =>
      rcases exists_work form with ⟨shown, alike, rfl⟩
      exact ⟨shown, _, alike, by rw [← alike]; rfl, .inside opened entered seen price⟩
  | stopped opened entered left seen first second =>
      rcases exists_work form with ⟨shown, alike, rfl⟩
      exact ⟨shown, _, alike, by rw [← alike]; rfl, .stopped opened entered left seen first second⟩
  | profited opened entered left seen first second =>
      rcases exists_work form with ⟨shown, alike, rfl⟩
      exact ⟨shown, _, alike, by rw [← alike]; rfl, .profited opened entered left seen first second⟩
  | expired opened closed =>
      rcases exists_work form with ⟨shown, alike, rfl⟩
      exact ⟨shown, [], alike, rfl, .expired opened closed⟩
  | withdrawn opened closed =>
      rcases exists_work form with ⟨shown, alike, rfl⟩
      exact ⟨shown, [], alike, rfl, .withdrawn opened closed⟩
  | abandoned opened entered closed seen price =>
      rcases exists_work form with ⟨shown, alike, rfl⟩
      exact ⟨shown, _, alike, by rw [← alike]; rfl, .abandoned opened entered closed seen price⟩

end Stage

/-! ## Runs -/

/-- How a working set has a bracket after some fills: at a stage, or not any more. -/
inductive Stands (plan : BracketPlan α) : Option (Executor α) -> List (Execution α) -> Prop where
  | working {executor : Executor α} {fills : List (Execution α)}
      (stage : plan.Stage executor fills) : Stands plan (some executor) fills
  | removed {executor : Executor α} {fills : List (Execution α)}
      (stage : plan.Stage executor fills) : Stands plan none fills

namespace Stands

variable {plan : BracketPlan α} {pricing : Pricing α} {engine : Engine α} {number : OrderId}
  {fills : List (Execution α)}

theorem act (sound : plan.Sound) {present : Option (Executor α)}
    (stands : plan.Stands present fills) (pricing : Pricing α) (number : OrderId)
    (action : Action α) :
    plan.Stands (present.bind fun executor => executor.act? pricing number action)
      (fills ++ (present.map fun executor => executor.fillsBy pricing action).getD []) := by
  cases stands with
  | removed stage =>
      rw [Option.map_none, Option.getD_none, List.append_nil]
      exact .removed stage
  | @working executor _ stage =>
      rw [Option.bind_some, Option.map_some, Option.getD_some]
      cases becomes : executor.act? pricing number action with
      | some next => exact .working (stage.act sound becomes)
      | none =>
          rcases Executor.of_act?_eq_none becomes with ⟨purges, _⟩
          subst purges
          rw [Executor.fillsBy_purge, List.append_nil]
          exact .removed stage

theorem anonymous {present : Option (Executor α)} (stands : plan.Stands present fills) :
    plan.anonymous.Stands (present.map Executor.anonymous) (fills.map Execution.anonymous) := by
  cases stands with
  | working stage => exact .working stage.anonymous
  | removed stage => exact .removed stage.anonymous

/-- Numbers apart, an action takes a stage to a stage whatever the numbers are. -/
theorem act_alike (sound : plan.Sound) {present : Option (Executor α)}
    (stands : plan.anonymous.Stands (present.map Executor.anonymous) fills) (pricing : Pricing α)
    (number : OrderId) (action : Action α) :
    plan.anonymous.Stands
      ((present.bind fun executor => executor.act? pricing number action).map Executor.anonymous)
      (fills ++ ((present.map fun executor => executor.fillsBy pricing action).getD []).map
        Execution.anonymous) := by
  cases present with
  | none =>
      rw [Option.map_none, Option.getD_none, List.map_nil, List.append_nil]
      exact stands
  | some executor =>
      cases stands with
      | working stage =>
          rcases stage.exists_shown with ⟨shown, earlier, alike, rfl, own⟩
          have next := ((Stands.working own).act (sound.alike alike) pricing number
            action).anonymous
          rw [alike, List.map_append] at next
          exact next

/-- What a run makes of a bracket, by induction on the run. -/
theorem run (sound : plan.Sound) (old : number < engine.nextId)
    (stands : plan.anonymous.Stands ((engine.executors.get? number).map Executor.anonymous) fills)
    (pricing : Pricing α) (actions : List (Action α)) :
    plan.anonymous.Stands
      (((engine.run pricing actions).executors.get? number).map Executor.anonymous)
      (fills ++ (engine.fillsAlong pricing number actions).map Execution.anonymous) := by
  induction actions generalizing engine fills with
  | nil =>
      rw [Engine.fillsAlong, List.map_nil, List.append_nil]
      exact stands
  | cons action rest ih =>
      have older := Engine.lt_nextId_act old pricing action
      have next := stands.act_alike sound pricing number action
      rw [← engine.get?_act_alike pricing old action,
        ← engine.fillsBy_eq pricing number action] at next
      rw [Engine.fillsAlong, List.map_append, ← List.append_assoc]
      exact ih older next

end Stands

/-! ## A bracket inside -/

section Inside

variable {plan : BracketPlan α} {lives : BracketLives} {number : OrderId}
  {seen : List (Observation α)}

/-- None of some observations that come after others meets the condition of an exit. -/
def quiet (plan : BracketPlan α) : List (Observation α) -> List (Observation α) -> Bool
  | _, [] => true
  | seen, observation :: rest =>
      !plan.stopLoss.meetsStop seen observation && !plan.takeProfit.meetsLimit observation &&
        plan.quiet (seen ++ [observation]) rest

theorem quiet_append (plan : BracketPlan α) (seen first second : List (Observation α)) :
    plan.quiet seen (first ++ second) =
      (plan.quiet seen first && plan.quiet (seen ++ first) second) := by
  induction first generalizing seen with
  | nil => rw [List.nil_append, List.append_nil, quiet, Bool.true_and]
  | cons observation rest ih =>
      rw [List.cons_append, quiet, quiet, ih, List.append_assoc, List.singleton_append]
      simp only [Bool.and_assoc]

/-- Numbers do not decide whether an observation meets the condition of an exit. -/
theorem quiet_of_alike {shown : BracketPlan α} (alike : shown.anonymous = plan.anonymous)
    (seen rest : List (Observation α)) : shown.quiet seen rest = plan.quiet seen rest := by
  rcases terms_of_alike alike with ⟨-, takeProfit, stopLoss⟩
  induction rest generalizing seen with
  | nil => rfl
  | cons observation rest ih => rw [quiet, quiet, takeProfit, stopLoss, ih]

/-- An action that neither cancels a bracket inside nor meets the condition of an exit leaves it
inside; its stop has seen what the action shows. -/
theorem act?_inside (sound : plan.Sound) (live : lives.whole.isOpen = true)
    (inside : lives.entry.isOpen = false) (pricing : Pricing α) {action : Action α}
    (uncancelled : action.cancels number = false)
    (quiet : plan.quiet seen (action.observation? plan.entry.asset).toList = true) :
    (plan.work lives seen).act? pricing number action =
        some (plan.work lives (seen ++ (action.observation? plan.entry.asset).toList)) ∧
      (plan.work lives seen).fillsBy pricing action = [] := by
  cases action with
  | register order time reason =>
      have spared : order.cancels number = false := uncancelled
      have nothing : seen ++ ((Action.register order time reason).observation?
          plan.entry.asset).toList = seen := List.append_nil seen
      rw [nothing, Executor.act?, spared]
      exact ⟨rfl, rfl⟩
  | purge =>
      have nothing : seen ++ ((Action.purge).observation? plan.entry.asset).toList = seen :=
        List.append_nil seen
      rw [nothing]
      exact ⟨if_pos live, rfl⟩
  | observe event =>
      have shown : (Action.observe event).observation? plan.entry.asset =
          event.observation? plan.entry.asset := rfl
      rw [shown] at quiet ⊢
      rw [Executor.act?, Executor.fillsBy]
      cases shows : event.observation? plan.entry.asset with
      | none =>
          rw [turn_inside sound live inside, shows, Option.toList_none, List.append_nil]
          exact ⟨rfl, rfl⟩
      | some observation =>
          rw [shows, Option.toList_some, BracketPlan.quiet, BracketPlan.quiet, Bool.and_true,
            Bool.and_eq_true, Bool.not_eq_true', Bool.not_eq_true'] at quiet
          have waits : plan.leaving pricing event.time lives seen observation =
              (plan.work lives (seen ++ [observation]), []) := by
            unfold BracketPlan.leaving
            rw [quiet.1, quiet.2]
            rfl
          rw [turn_inside_of_seen sound live inside shows, waits]
          exact ⟨rfl, rfl⟩

/-- A run of such actions, by induction on the run. -/
theorem run_inside {engine : Engine α} (sound : plan.Sound) (old : number < engine.nextId)
    (live : lives.whole.isOpen = true) (inside : lives.entry.isOpen = false)
    (pricing : Pricing α)
    (found : (engine.executors.get? number).map Executor.anonymous =
      some (plan.anonymous.work lives seen))
    {actions : List (Action α)}
    (uncancelled : forall action, action ∈ actions -> action.cancels number = false)
    (quiet : plan.quiet seen (Engine.observations plan.entry.asset actions) = true) :
    ((engine.run pricing actions).executors.get? number).map Executor.anonymous =
        some (plan.anonymous.work lives
          (seen ++ Engine.observations plan.entry.asset actions)) ∧
      engine.fillsAlong pricing number actions = [] := by
  induction actions generalizing engine seen with
  | nil =>
      have nothing : seen ++ Engine.observations plan.entry.asset [] = seen :=
        List.append_nil seen
      rw [nothing]
      exact ⟨found, rfl⟩
  | cons action rest ih =>
      rcases List.forall_mem_cons.mp uncancelled with ⟨spares, others⟩
      rw [Engine.observations_cons, quiet_append, Bool.and_eq_true] at quiet
      rcases Option.map_eq_some_iff.mp found with ⟨executor, present, form⟩
      rcases exists_work form with ⟨shown, alike, rfl⟩
      rcases terms_of_alike alike with ⟨entry, -, -⟩
      have quietToo := quiet.1
      rw [← quiet_of_alike alike, ← entry] at quietToo
      rcases act?_inside (sound.alike alike) live inside pricing spares quietToo with
        ⟨stays, unfilled⟩
      have next := engine.get?_act_alike pricing old action
      rw [present, Option.bind_some, stays, Option.map_some, work_anonymous, alike, entry] at next
      have fills := engine.fillsBy_eq pricing number action
      rw [present, Option.map_some, Option.getD_some, unfilled] at fills
      rcases ih (Engine.lt_nextId_act old pricing action) next others quiet.2 with ⟨last, without⟩
      rw [Engine.observations_cons, ← List.append_assoc, Engine.fillsAlong, fills, without]
      exact ⟨last, rfl⟩

end Inside

end BracketPlan
end Brokerage
