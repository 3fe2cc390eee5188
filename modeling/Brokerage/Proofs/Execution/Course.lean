import Brokerage.Proofs.Execution.BracketProtocol
import Brokerage.Proofs.Execution.Conditions
import Brokerage.Proofs.Execution.MarketOrder
import Mathlib.Data.List.Induction

namespace Brokerage

/-!
The course of a single-leg order.

From its acceptance on an order waits until an observation of its asset meets
its condition.  That observation fills the whole order, and nothing fills it
afterwards.  The course is told for every run of the working set in which the
order is not cancelled and stays in force.
-/

variable {α : Type} [Quantity α]

/-! ## Closed orders -/

namespace Executor

open Engine (Action)

variable {executor : Executor α}

/-- A closed order that is still there after an action stays closed. -/
theorem isOpen_of_act? (closed : executor.isOpen = false) {pricing : Pricing α} {number : OrderId}
    {action : Action α} {next : Executor α}
    (becomes : executor.act? pricing number action = some next) : next.isOpen = false := by
  cases action with
  | register order time reason =>
      cases becomes
      split
      · rw [isOpen, life_close, Lifecycle.move_of_closed closed]
        exact closed
      · exact closed
  | observe event =>
      cases becomes
      rw [Engine.turn_of_closed closed]
      exact closed
  | purge =>
      rw [act?, if_neg (Bool.eq_false_iff.mp closed)] at becomes
      cases becomes

theorem fillsBy_of_closed (closed : executor.isOpen = false) (pricing : Pricing α)
    (action : Action α) : executor.fillsBy pricing action = [] := by
  cases action with
  | observe event =>
      exact congrArg (fun turn => turn.2.1) (Engine.turn_of_closed closed pricing event)
  | register _ _ _ => rfl
  | purge => rfl

end Executor

namespace Engine

/-- Where the order with a number stands. -/
def statusAt? (engine : Engine α) (number : OrderId) : Option OrderStatus :=
  (engine.state? number).map fun state => state.status

omit [Quantity α] in
theorem statusAt?_of_executor {engine : Engine α} {number : OrderId} {executor : Executor α}
    (found : (engine.executors.get? number).map Executor.anonymous = some executor) :
    engine.statusAt? number = some executor.life.status := by
  rcases Option.map_eq_some_iff.mp found with ⟨own, present, same⟩
  subst same
  unfold statusAt? state?
  rw [present, Executor.life_anonymous]
  rfl

/-- No order is open under a number. -/
def ClosedAt (engine : Engine α) (number : OrderId) : Prop :=
  forall executor, engine.executors.get? number = some executor -> executor.isOpen = false

variable {engine : Engine α} {number : OrderId} {pricing : Pricing α}

/-- A closed order does not fill, and it stays closed. -/
theorem ClosedAt.act (closed : engine.ClosedAt number) (old : number < engine.nextId)
    (pricing : Pricing α) (action : Action α) :
    (engine.act pricing action).ClosedAt number ∧ engine.fillsBy pricing number action = [] := by
  have becomes := engine.get?_act_alike pricing old action
  rw [fillsBy_eq]
  cases present : engine.executors.get? number with
  | none =>
      rw [present] at becomes
      refine ⟨fun next found => ?_, rfl⟩
      rw [found] at becomes
      cases becomes
  | some executor =>
      have finished := closed executor present
      rw [present, Option.bind_some] at becomes
      refine ⟨fun next found => ?_, Executor.fillsBy_of_closed finished pricing action⟩
      rw [found, Option.map_some] at becomes
      rcases Option.map_eq_some_iff.mp becomes.symm with ⟨other, acted, alike⟩
      rw [← Executor.isOpen_anonymous, ← alike, Executor.isOpen_anonymous]
      exact Executor.isOpen_of_act? finished acted

theorem ClosedAt.fillsAlong (closed : engine.ClosedAt number) (old : number < engine.nextId)
    (actions : List (Action α)) : engine.fillsAlong pricing number actions = [] := by
  induction actions generalizing engine with
  | nil => rfl
  | cons action rest ih =>
      rcases closed.act old pricing action with ⟨still, nothing⟩
      rw [Engine.fillsAlong, nothing, ih still (lt_nextId_act old pricing action)]
      rfl

theorem fillsAlong_append (engine : Engine α) (first second : List (Action α)) :
    engine.fillsAlong pricing number (first ++ second) =
      engine.fillsAlong pricing number first ++
        (engine.run pricing first).fillsAlong pricing number second := by
  induction first generalizing engine with
  | nil => rfl
  | cons action rest ih =>
      rw [List.cons_append, Engine.fillsAlong, Engine.fillsAlong, ih, List.append_assoc]
      rfl

omit [Quantity α] in
theorem observations_append (asset : Asset) (first second : List (Action α)) :
    observations asset (first ++ second) = observations asset first ++ observations asset second :=
  List.filterMap_append

end Engine

/-! ## A waiting order -/

namespace Terms

open Engine (Action)

/-- An accepted order at work that has seen some observations. -/
def working (terms : Terms α) (slip : Slip) (opened : Instant) (seen : List (Observation α)) :
    Executor α :=
  .single (terms.worker slip (Lifecycle.move {} opened .accepted) seen)

/-- The fill of the whole order. -/
def fill (terms : Terms α) (slip : Slip) (price : α) : Execution α where
  order := .single slip terms
  asset := terms.asset
  quantity := terms.size
  price

omit [Quantity α] in
@[simp] theorem fill_anonymous (terms : Terms α) (slip : Slip) (price : α) :
    (terms.fill slip price).anonymous = terms.fill slip.anonymous price := rfl

@[simp] theorem working_anonymous (terms : Terms α) (slip : Slip) (opened : Instant)
    (seen : List (Observation α)) :
    (terms.working slip opened seen).anonymous = terms.working slip.anonymous opened seen := rfl

/-- What looks like an order at work without its number is one under the number that it shows. -/
theorem exists_working {terms : Terms α} {slip : Slip} {opened : Instant}
    {seen : List (Observation α)} {executor : Executor α}
    (form : executor.anonymous = terms.working slip.anonymous opened seen) :
    Exists fun shown : Slip => shown.anonymous = slip.anonymous ∧
      executor = terms.working shown opened seen := by
  cases executor with
  | bracket _ _ _ _ _ => cases form
  | single worker =>
      rcases Worker.eq_of_anonymous (Executor.single.inj form) with ⟨same, alike⟩
      exact ⟨worker.slip, alike, congrArg Executor.single same⟩

section Turns

variable {terms : Terms α} {slip : Slip} {opened : Instant} {seen : List (Observation α)}
  {event : Event α} {observation : Observation α}

/-- What the event of a waiting order that is in force does with it. -/
theorem turn_working (pricing : Pricing α)
    (inForce : terms.tif.isExpired opened event.time = false) :
    Engine.turn pricing event (terms.working slip opened seen) =
      (((terms.working slip opened seen).execute pricing event).1,
        ((terms.working slip opened seen).execute pricing event).2, []) :=
  Engine.turn_of_inForce pricing rfl inForce

/-- An event that does not observe the asset changes nothing. -/
theorem turn_unseen (pricing : Pricing α) (inForce : terms.tif.isExpired opened event.time = false)
    (unseen : event.observation? terms.asset = none) :
    Engine.turn pricing event (terms.working slip opened seen) =
      (terms.working slip opened seen, [], []) := by
  have waits : (terms.working slip opened seen).execute pricing event = _ :=
    (Executor.Worked.unseen unseen).execute_eq
  rw [turn_working pricing inForce, waits]

/-- An observation that does not meet the condition is remembered. -/
theorem turn_unmet (pricing : Pricing α) (inForce : terms.tif.isExpired opened event.time = false)
    (shows : event.observation? terms.asset = some observation)
    (unmet : terms.meets seen observation = false) :
    Engine.turn pricing event (terms.working slip opened seen) =
      (terms.working slip opened (seen ++ [observation]), [], []) := by
  have worked := terms.match_worker pricing slip (Lifecycle.move {} opened .accepted) seen
    observation
  have shown : (terms.worker slip (Lifecycle.move {} opened .accepted) seen).match? pricing
      observation =
      (terms.worker slip (Lifecycle.move {} opened .accepted) (seen ++ [observation]), none) := by
    apply Prod.ext (worked.goesOn unmet)
    rw [worked.price, unmet, if_neg Bool.false_ne_true]
  have waits : (terms.working slip opened seen).execute pricing event = _ :=
    (Executor.Worked.waiting shows shown).execute_eq
  rw [turn_working pricing inForce, waits]
  rfl

/-- An observation that meets the condition fills the whole order. -/
theorem turn_met (slip : Slip) (pricing : Pricing α)
    (inForce : terms.tif.isExpired opened event.time = false)
    (shows : event.observation? terms.asset = some observation)
    (met : terms.meets seen observation = true) :
    Exists fun next : Executor α => next.life.status = .completed ∧
      Engine.turn pricing event (terms.working slip opened seen) =
        (next, [terms.fill slip (terms.fillPrice pricing slip observation)], []) := by
  have worked := terms.match_worker pricing slip (Lifecycle.move {} opened .accepted) seen
    observation
  rcases shown : (terms.worker slip (Lifecycle.move {} opened .accepted) seen).match? pricing
    observation with ⟨next, price⟩
  have filled := worked.price
  rw [shown, met, if_pos rfl] at filled
  dsimp only at filled
  subst filled
  have frame := Executor.match?_frame shown
  have fills : (terms.working slip opened seen).execute pricing event = _ :=
    (Executor.Worked.filled shows shown).execute_eq
  refine ⟨.single (next.move event.time .completed), ?_, ?_⟩
  · have life : (Executor.single (next.move event.time .completed)).life =
        next.life.move event.time .completed := rfl
    rw [life, frame.2.2]
    rfl
  · rw [turn_working pricing inForce, fills, frame.2.1]
    rfl

end Turns

/-! ## Runs -/

/-- A run that leaves an order waiting which was accepted at an instant: the order is not cancelled
and stays in force, and no observation meets its condition. -/
structure KeepsWaiting (terms : Terms α) (number : OrderId) (opened : Instant)
    (actions : List (Action α)) : Prop where
  uncancelled : forall action, action ∈ actions -> action.cancels number = false
  inForce : forall event, Action.observe event ∈ actions ->
    terms.tif.isExpired opened event.time = false
  unmet : forall {before : List (Observation α)} {observation : Observation α}
    {after : List (Observation α)},
    Engine.observations terms.asset actions = before ++ observation :: after ->
      terms.meets before observation = false

/-- An event that fills an order which waited so far. -/
structure Fills (terms : Terms α) (number : OrderId) (opened : Instant)
    (earlier : List (Action α)) (event : Event α) (observation : Observation α) : Prop where
  waited : terms.KeepsWaiting number opened earlier
  inForce : terms.tif.isExpired opened event.time = false
  shows : event.observation? terms.asset = some observation
  met : terms.meets (Engine.observations terms.asset earlier) observation = true

/-- How a working set treats an order that it accepted under a number at an instant.  A fill shows
the slip under the number that it bears by then, as the pricing model sees it. -/
structure Course (terms : Terms α) (slip : Slip) (pricing : Pricing α) (number : OrderId)
    (opened : Instant) (start : Engine α) : Prop where
  begins : start.statusAt? number = some .accepted
  /-- Until an observation meets the condition, nothing fills. -/
  waits : forall {actions}, terms.KeepsWaiting number opened actions ->
    (start.run pricing actions).statusAt? number = some .accepted ∧
      start.fillsAlong pricing number actions = []
  /-- The first observation that meets the condition fills the whole order. -/
  fills : forall {earlier event observation}, terms.Fills number opened earlier event observation ->
    (start.run pricing (earlier ++ [.observe event])).statusAt? number = some .completed ∧
      Exists fun shown : Slip => shown.anonymous = slip.anonymous ∧
        (start.run pricing earlier).fillsUnder pricing event number =
          [terms.fill shown (terms.fillPrice pricing shown observation)]
  /-- Nothing fills the order afterwards. -/
  once : forall {earlier event observation} (later : List (Action α)),
    terms.Fills number opened earlier event observation ->
    (start.run pricing (earlier ++ [.observe event])).fillsAlong pricing number later = []
  /-- Every fill goes out with those of its event, as a fill of the order under the number. -/
  refers : forall {actions event fill},
    fill ∈ (start.run pricing actions).fillsUnder pricing event number ->
    fill ∈ ((start.run pricing actions).execute pricing event).2.1 ∧
      ((start.run pricing actions).executors.get? number).map Executor.order = some fill.order

section Runs

variable {terms : Terms α} {slip : Slip} {opened : Instant} {number : OrderId}
  {pricing : Pricing α} {start : Engine α}

omit [Quantity α] in
theorem observations_singleton (asset : Asset) (action : Action α) :
    Engine.observations asset [action] = (action.observation? asset).toList := by
  rw [Engine.observations_cons]
  exact List.append_nil _

theorem KeepsWaiting.of_append {first second : List (Action α)}
    (keeps : terms.KeepsWaiting number opened (first ++ second)) :
    terms.KeepsWaiting number opened first where
  uncancelled action listed := keeps.uncancelled action (List.mem_append_left second listed)
  inForce event listed := keeps.inForce event (List.mem_append_left second listed)
  unmet {before observation after} split := by
    have longer : Engine.observations terms.asset (first ++ second) =
        before ++ observation :: (after ++ Engine.observations terms.asset second) := by
      rw [Engine.observations_append, split, List.append_assoc, List.cons_append]
    exact keeps.unmet longer

/-- An action leaves an order waiting that waited so far, unless it cancels the order, finds it out
of force or shows it what it waits for.  An observation of the longer run is the last one, or it is
one of those before. -/
theorem KeepsWaiting.concat {actions : List (Action α)} {action : Action α}
    (keeps : terms.KeepsWaiting number opened actions)
    (uncancelled : action.cancels number = false)
    (inForce : forall event, action = .observe event ->
      terms.tif.isExpired opened event.time = false)
    (unmet : forall observation, action.observation? terms.asset = some observation ->
      terms.meets (Engine.observations terms.asset actions) observation = false) :
    terms.KeepsWaiting number opened (actions ++ [action]) where
  uncancelled other listed := by
    rcases List.mem_append.mp listed with old | new
    · exact keeps.uncancelled other old
    · rw [List.mem_singleton.mp new]
      exact uncancelled
  inForce event listed := by
    rcases List.mem_append.mp listed with old | new
    · exact keeps.inForce event old
    · exact inForce event (List.mem_singleton.mp new).symm
  unmet {before observation after} split := by
    rw [Engine.observations_append, observations_singleton] at split
    cases shown : action.observation? terms.asset with
    | none =>
        rw [shown, Option.toList_none, List.append_nil] at split
        exact keeps.unmet split
    | some last =>
        rw [shown, Option.toList_some] at split
        rcases List.eq_nil_or_concat after with none | ⟨rest, final, form⟩
        · subst none
          rcases List.append_inj' split rfl with ⟨same, ends⟩
          cases ends
          rw [← same]
          exact unmet _ shown
        · subst form
          rw [List.concat_eq_append, ← List.cons_append, ← List.append_assoc] at split
          exact keeps.unmet (List.append_inj' split rfl).1

/-- A run either leaves an order waiting or has an event that fills it, unless the order is
cancelled or falls out of force. -/
theorem waits_or_fills (actions : List (Action α))
    (uncancelled : forall action, action ∈ actions -> action.cancels number = false)
    (inForce : forall event, Action.observe event ∈ actions ->
      terms.tif.isExpired opened event.time = false) :
    terms.KeepsWaiting number opened actions ∨
      Exists fun earlier => Exists fun event => Exists fun later => Exists fun observation =>
        actions = earlier ++ .observe event :: later ∧
          terms.Fills number opened earlier event observation := by
  induction actions using List.reverseRecOn with
  | nil =>
      refine Or.inl ⟨uncancelled, inForce, ?_⟩
      intro before observation after split
      cases before <;> cases split
  | append_singleton actions action ih =>
      have before := ih (fun other listed => uncancelled other (List.mem_append_left _ listed))
        (fun event listed => inForce event (List.mem_append_left _ listed))
      rcases before with keeps | ⟨earlier, event, later, observation, form, fills⟩
      · have spared := uncancelled action (List.mem_append_right _ (List.mem_singleton_self action))
        have lasts : forall event, action = .observe event ->
            terms.tif.isExpired opened event.time = false := by
          intro event form
          apply inForce event
          rw [form]
          exact List.mem_append_right _ (List.mem_singleton_self _)
        by_cases unmet : forall observation, action.observation? terms.asset = some observation ->
            terms.meets (Engine.observations terms.asset actions) observation = false
        · exact Or.inl (keeps.concat spared lasts unmet)
        · apply Or.inr
          push Not at unmet
          rcases unmet with ⟨observation, shown, met⟩
          cases action with
          | register _ _ _ => cases shown
          | purge => cases shown
          | observe event =>
              exact ⟨actions, event, [], observation, rfl, keeps, lasts event rfl, shown,
                Bool.not_eq_false _ ▸ met⟩
      · refine Or.inr ⟨earlier, event, later ++ [action], observation, ?_, fills⟩
        rw [form, List.append_assoc, List.cons_append]

/-- The last action of such a run leaves the order waiting, and the order has seen what the action
shows. -/
theorem KeepsWaiting.act? {actions : List (Action α)} {action : Action α}
    (keeps : terms.KeepsWaiting number opened (actions ++ [action])) (slip : Slip)
    (pricing : Pricing α) :
    (terms.working slip opened (Engine.observations terms.asset actions)).act? pricing number
        action =
      some (terms.working slip opened (Engine.observations terms.asset (actions ++ [action]))) ∧
    (terms.working slip opened (Engine.observations terms.asset actions)).fillsBy pricing action =
      [] := by
  have listed : action ∈ actions ++ [action] :=
    List.mem_append_right _ (List.mem_singleton_self action)
  have spared := keeps.uncancelled action listed
  rw [Engine.observations_append, observations_singleton]
  cases action with
  | register order time reason =>
      have other : order.cancels number = false := spared
      rw [Executor.act?, other]
      exact ⟨congrArg (fun seen => some (terms.working slip opened seen))
        (List.append_nil _).symm, rfl⟩
  | purge =>
      exact ⟨congrArg (fun seen => some (terms.working slip opened seen))
        (List.append_nil _).symm, rfl⟩
  | observe event =>
      have inForce := keeps.inForce event listed
      have shown : (Action.observe event).observation? terms.asset =
          event.observation? terms.asset := rfl
      rw [Executor.act?, Executor.fillsBy, shown]
      cases shows : event.observation? terms.asset with
      | none =>
          rw [turn_unseen pricing inForce shows, Option.toList_none, List.append_nil]
          exact ⟨rfl, rfl⟩
      | some observation =>
          have unmet : terms.meets (Engine.observations terms.asset actions) observation =
              false := by
            have longer : Engine.observations terms.asset (actions ++ [.observe event]) =
                Engine.observations terms.asset actions ++ observation :: [] := by
              rw [Engine.observations_append, observations_singleton, shown, shows]
              rfl
            exact keeps.unmet longer
          rw [turn_unmet pricing inForce shows unmet]
          exact ⟨rfl, rfl⟩

/-- An order that a working set has accepted under a number at an instant. -/
structure AcceptedAt (terms : Terms α) (slip : Slip) (number : OrderId) (opened : Instant)
    (start : Engine α) : Prop where
  old : number < start.nextId
  found : (start.executors.get? number).map Executor.anonymous =
    some (terms.working slip.anonymous opened [])

namespace AcceptedAt

theorem older (accepted : terms.AcceptedAt slip number opened start) (pricing : Pricing α)
    (actions : List (Action α)) : number < (start.run pricing actions).nextId :=
  Int.lt_of_lt_of_le accepted.old (start.nextId_run pricing actions)

/-- By induction on the run, a waiting order has seen what was observed since its acceptance. -/
theorem run_waiting (accepted : terms.AcceptedAt slip number opened start) (pricing : Pricing α)
    {actions : List (Action α)} (keeps : terms.KeepsWaiting number opened actions) :
    ((start.run pricing actions).executors.get? number).map Executor.anonymous =
        some (terms.working slip.anonymous opened (Engine.observations terms.asset actions)) ∧
      start.fillsAlong pricing number actions = [] := by
  induction actions using List.reverseRecOn with
  | nil => exact ⟨accepted.found, rfl⟩
  | append_singleton actions action ih =>
      rcases ih keeps.of_append with ⟨working, unfilled⟩
      rcases Option.map_eq_some_iff.mp working with ⟨executor, present, form⟩
      rcases exists_working form with ⟨shown, alike, rfl⟩
      rcases keeps.act? shown pricing with ⟨goesOn, nothing⟩
      have becomes := Engine.get?_act_alike pricing (accepted.older pricing actions) action
      have fills := (start.run pricing actions).fillsBy_eq pricing number action
      rw [present, Option.bind_some, goesOn, Option.map_some, working_anonymous, alike] at becomes
      rw [present, Option.map_some, Option.getD_some, nothing] at fills
      rw [Engine.run_append, Engine.fillsAlong_append, unfilled, Engine.fillsAlong, fills]
      exact ⟨becomes, rfl⟩

/-- The event that fills a waiting order completes it. -/
theorem run_filled (accepted : terms.AcceptedAt slip number opened start) (pricing : Pricing α)
    {earlier : List (Action α)} {event : Event α} {observation : Observation α}
    (fills : terms.Fills number opened earlier event observation) :
    (Exists fun next : Executor α => next.life.status = .completed ∧
      (start.run pricing (earlier ++ [.observe event])).executors.get? number = some next) ∧
    Exists fun shown : Slip => shown.anonymous = slip.anonymous ∧
      (start.run pricing earlier).fillsUnder pricing event number =
        [terms.fill shown (terms.fillPrice pricing shown observation)] := by
  rcases accepted.run_waiting pricing fills.waited with ⟨working, _⟩
  rcases Option.map_eq_some_iff.mp working with ⟨executor, present, form⟩
  rcases exists_working form with ⟨shown, alike, rfl⟩
  rcases Engine.observe_eq present pricing event with ⟨after, filled⟩
  rcases turn_met shown pricing fills.inForce fills.shows fills.met with
    ⟨next, completed, turns⟩
  rw [turns] at after filled
  rw [Engine.run_append]
  exact ⟨⟨next, completed, after⟩, shown, alike, filled⟩

/-- What becomes of an accepted order, whatever the prices of the fills. -/
theorem course (accepted : terms.AcceptedAt slip number opened start) (pricing : Pricing α) :
    terms.Course slip pricing number opened start where
  begins := Engine.statusAt?_of_executor accepted.found
  waits keeps := by
    rcases accepted.run_waiting pricing keeps with ⟨working, unfilled⟩
    exact ⟨Engine.statusAt?_of_executor working, unfilled⟩
  fills {earlier event observation} fills := by
    rcases accepted.run_filled pricing fills with ⟨⟨next, completed, after⟩, filled⟩
    refine ⟨?_, filled⟩
    have found := congrArg (Option.map Executor.anonymous) after
    rw [Engine.statusAt?_of_executor found, Executor.life_anonymous, completed]
  once {earlier event observation} later fills := by
    rcases (accepted.run_filled pricing fills).1 with ⟨next, completed, after⟩
    apply Engine.ClosedAt.fillsAlong _ (accepted.older pricing _)
    intro executor found
    cases after.symm.trans found
    rw [Executor.isOpen, Lifecycle.isOpen, completed]
    rfl
  refers := Engine.fill_of_fillsUnder

end AcceptedAt

end Runs

end Terms

/-! ## Acceptance -/

namespace Engine

variable {engine : Engine α} {slip : Slip} {terms : Terms α} {time : Instant}
  {reason : Option (Rejection α)}

/-- A sound order is accepted unless there is a reason against it. -/
theorem register_sound (engine : Engine α) (slip : Slip) (sound : terms.defect? = none)
    (time : Instant) :
    Exists fun state => (engine.register (.single slip terms) time none).result = .ok state ∧
      state.status = .accepted := by
  have plain : (Order.single slip terms).HasSingleLegs := by
    intro leg listed
    cases listed
  rcases engine.register_ok rfl plain time none with ⟨state, answered⟩
  refine ⟨state, answered, ?_⟩
  have registered := engine.registered (.single slip terms) time none
  rw [answered] at registered
  rcases registered.of_fine rfl (cause?_of_sound sound) with ⟨executor, work, rfl, -⟩
  have life := executor.life_accept time
  rw [(Executor.create?_ok work).2.1] at life
  exact congrArg Lifecycle.status life

/-- A single-leg order that begins to be worked and is accepted has seen nothing yet. -/
theorem accept_create_single {order : Order α} {executor : Executor α}
    (alike : order.anonymous = .single slip.anonymous terms)
    (work : Executor.create? order = .ok executor) (time : Instant) :
    (executor.accept time).anonymous = terms.working slip.anonymous time [] := by
  have likeness := Executor.create?_anonymous order
  rw [alike, work] at likeness
  have untriggered : terms.triggered [] = false := by
    unfold Terms.triggered
    cases terms.kind <;> rfl
  rw [Executor.anonymous_accept, ← Except.ok.inj likeness]
  unfold Terms.working Terms.worker
  rw [untriggered, BracketPlan.remembered?_nil]
  rfl

/-- Accepting a single-leg order, the working set takes it up as one that has seen nothing. -/
theorem acceptedAt_of_registered {state : OrderState α}
    (answered : (engine.register (.single slip terms) time reason).result = .ok state)
    (accepted : state.status = .accepted) :
    terms.defect? = none ∧ state.number? = some engine.nextId ∧
      terms.AcceptedAt slip engine.nextId time
        (engine.register (.single slip terms) time reason).state := by
  have registered := engine.registered (.single slip terms) time reason
  rw [answered] at registered
  rcases registered.fine_of_accepted accepted with ⟨trades, fine⟩
  rcases registered.of_fine trades fine with ⟨executor, work, rfl, after⟩
  rw [after]
  refine ⟨defect?_of_cause? fine, number?_accept work rfl time, Int.lt_succ _, ?_⟩
  rw [Table.get?_put, if_pos rfl, Option.map_some]
  exact congrArg some (accept_create_single (engine.anonymous_written _) work time)

end Engine
end Brokerage
