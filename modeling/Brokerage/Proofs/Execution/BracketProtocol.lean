import Brokerage.Proofs.Execution.BracketStages

namespace Brokerage

/-!
The protocol of a bracket.

A bracket that the working set accepts stands in one of a few ways whatever
happens next, is entered once and left once, and goes by its stop before it
takes its profit.  The exits see nothing of the event that fills the entry; what
the stop goes by afterwards are the observations of the events behind it.
-/

variable {α : Type} [Quantity α]

/-! ## Ways to stand -/

namespace BracketStatuses

/-- Only the entry is worked. -/
def entering : BracketStatuses where
  whole := .accepted
  entry := .accepted
  takeProfit := .initial
  stopLoss := .initial

/-- The entry has filled, and both exits are worked. -/
def inside : BracketStatuses where
  whole := .accepted
  entry := .completed
  takeProfit := .accepted
  stopLoss := .accepted

/-- The stop has filled. -/
def stopped : BracketStatuses where
  whole := .completed
  entry := .completed
  takeProfit := .cancelled
  stopLoss := .completed

/-- The profit is taken. -/
def profited : BracketStatuses where
  whole := .completed
  entry := .completed
  takeProfit := .completed
  stopLoss := .cancelled

/-- No leg is open. -/
structure NoLegOpen (statuses : BracketStatuses) : Prop where
  entry : statuses.entry.isOpen = false
  takeProfit : statuses.takeProfit.isOpen = false
  stopLoss : statuses.stopLoss.isOpen = false

/-- The ways in which a bracket and its legs may stand. -/
inductive InOrder : BracketStatuses -> Prop where
  | entering : InOrder entering
  | inside : InOrder inside
  | stopped : InOrder stopped
  | profited : InOrder profited
  | cancelled {statuses : BracketStatuses} (whole : statuses.whole = .cancelled)
      (legs : statuses.NoLegOpen) : InOrder statuses
  | expired {statuses : BracketStatuses} (whole : statuses.whole = .expired)
      (legs : statuses.NoLegOpen) : InOrder statuses

end BracketStatuses

/-- The statuses of a bracket at work and of its legs. -/
def Executor.bracketStatuses? : Executor α -> Option BracketStatuses
  | .bracket _ life entry takeProfit stopLoss => some
      { whole := life.status
        entry := entry.life.status
        takeProfit := takeProfit.life.status
        stopLoss := stopLoss.life.status }
  | .single _ => none

omit [Quantity α] in
theorem Executor.bracketStatuses?_anonymous (executor : Executor α) :
    executor.anonymous.bracketStatuses? = executor.bracketStatuses? := by
  cases executor with
  | single _ => rfl
  | bracket _ _ _ _ _ => simp only [anonymous, bracketStatuses?, life_anonymous]

/-- How the bracket with a number and its legs stand in a working set. -/
def Engine.bracketAt? (engine : Engine α) (number : OrderId) : Option BracketStatuses :=
  (engine.executors.get? number).bind Executor.bracketStatuses?

omit [Quantity α] in
theorem Engine.bracketAt?_anonymous (engine : Engine α) (number : OrderId) :
    ((engine.executors.get? number).map Executor.anonymous).bind Executor.bracketStatuses? =
      engine.bracketAt? number := by
  unfold bracketAt?
  cases engine.executors.get? number with
  | none => rfl
  | some executor => exact executor.bracketStatuses?_anonymous

namespace BracketPlan

open Engine (Action)

/-- The fills that a bracket may have had. -/
inductive Fills (plan : BracketPlan α) : List (Execution α) -> Prop where
  | none : Fills plan []
  | entry (price : α) : Fills plan [plan.fill plan.entry.size price]
  | both {size : α} (closes : (size == -plan.entry.size) = true) (first second : α) :
      Fills plan [plan.fill plan.entry.size first, plan.fill size second]

/-- A run that fills the entry of a bracket by an event, and goes on without a cancel of the
bracket and without an observation that meets the condition of an exit. -/
structure KeepsInside (plan : BracketPlan α) (pricing : Pricing α) (number : OrderId)
    (start : Engine α) (earlier : List (Action α)) (event : Event α) (later : List (Action α)) :
    Prop where
  unfilled : start.fillsAlong pricing number earlier = []
  enters : (start.run pricing earlier).fillsUnder pricing event number ≠ []
  uncancelled : forall action, action ∈ later -> action.cancels number = false
  quiet : plan.quiet [] (Engine.observations plan.entry.asset later) = true

/-- The protocol that a working set keeps with the bracket under a number from a start on.  A fill
shows the plan under the numbers that its slips bear by then, as the pricing model sees it. -/
structure Protocol (plan : BracketPlan α) (pricing : Pricing α) (number : OrderId)
    (start : Engine α) : Prop where
  begins : start.bracketAt? number = some .entering
  /-- The bracket and its legs always stand in one of the ways. -/
  inOrder : forall {actions statuses},
    (start.run pricing actions).bracketAt? number = some statuses -> statuses.InOrder
  /-- A bracket that is missing was closed when the closed orders were dropped. -/
  dropped : forall {actions}, (start.run pricing actions).bracketAt? number = none ->
    Exists fun earlier => Exists fun later => Exists fun statuses =>
      actions = earlier ++ .purge :: later ∧
      (start.run pricing earlier).bracketAt? number = some statuses ∧
      statuses.whole.isOpen = false
  /-- The event that fills the entry makes the exits live at its time, and shows them nothing. -/
  enters : forall {earlier event}, start.fillsAlong pricing number earlier = [] ->
    (start.run pricing earlier).fillsUnder pricing event number ≠ [] ->
    (Exists fun opened =>
      ((start.run pricing (earlier ++ [.observe event])).executors.get? number).map
        Executor.anonymous =
          some (plan.anonymous.work ((BracketLives.accepted opened).enter event.time) [])) ∧
    Exists fun price =>
      ((start.run pricing earlier).fillsUnder pricing event number).map Execution.anonymous =
        [plan.anonymous.fill plan.entry.size price]
  /-- Until an observation meets the condition of an exit, nothing fills. -/
  waits : forall {earlier event later}, plan.KeepsInside pricing number start earlier event later ->
    (start.run pricing (earlier ++ .observe event :: later)).bracketAt? number = some .inside ∧
    (start.run pricing (earlier ++ [.observe event])).fillsAlong pricing number later = []
  /-- The first observation that meets the condition of the stop fills the stop. -/
  stops : forall {earlier event later next observation},
    plan.KeepsInside pricing number start earlier event later ->
    next.observation? plan.entry.asset = some observation ->
    plan.stopLoss.meetsStop (Engine.observations plan.entry.asset later) observation = true ->
    let engine := start.run pricing (earlier ++ .observe event :: later)
    (engine.act pricing (.observe next)).bracketAt? number = some .stopped ∧
    Exists fun shown : BracketPlan α => shown.anonymous = plan.anonymous ∧
      engine.fillsUnder pricing next number = [shown.fill plan.stopLoss.size
        (pricing.price shown.stopLossSlip plan.stopLoss observation)]
  /-- The first observation that meets the condition of the take-profit and not the one of the
  stop takes the profit. -/
  profits : forall {earlier event later next observation},
    plan.KeepsInside pricing number start earlier event later ->
    next.observation? plan.entry.asset = some observation ->
    plan.stopLoss.meetsStop (Engine.observations plan.entry.asset later) observation = false ->
    plan.takeProfit.meetsLimit observation = true ->
    let engine := start.run pricing (earlier ++ .observe event :: later)
    (engine.act pricing (.observe next)).bracketAt? number = some .profited ∧
    Exists fun shown : BracketPlan α => shown.anonymous = plan.anonymous ∧
      engine.fillsUnder pricing next number = [shown.fill plan.takeProfit.size
        (plan.takeProfit.limitPrice pricing shown.takeProfitSlip observation)]
  /-- It fills at most twice: the size of the entry, then its opposite. -/
  fills : forall actions,
    plan.anonymous.Fills ((start.fillsAlong pricing number actions).map Execution.anonymous)
  /-- Every fill goes out with those of its event, as a fill of the order under the number. -/
  refers : forall {actions event fill},
    fill ∈ (start.run pricing actions).fillsUnder pricing event number ->
    fill ∈ ((start.run pricing actions).execute pricing event).2.1 ∧
    ((start.run pricing actions).executors.get? number).map Executor.order = some fill.order
  /-- Only a bracket without fills expires. -/
  expires : forall {actions statuses},
    (start.run pricing actions).bracketAt? number = some statuses -> statuses.whole = .expired ->
    start.fillsAlong pricing number actions = []

/-! ## What the stages tell -/

namespace Stage

variable {plan : BracketPlan α} {executor : Executor α} {fills : List (Execution α)}

theorem inOrder (stage : plan.Stage executor fills) :
    Exists fun statuses => executor.bracketStatuses? = some statuses ∧ statuses.InOrder := by
  cases stage with
  | entering _ => exact ⟨_, rfl, .entering⟩
  | inside _ _ _ _ => exact ⟨_, rfl, .inside⟩
  | stopped _ _ _ _ _ _ => exact ⟨_, rfl, .stopped⟩
  | profited _ _ _ _ _ _ => exact ⟨_, rfl, .profited⟩
  | expired _ _ => exact ⟨_, rfl, .expired rfl ⟨rfl, rfl, rfl⟩⟩
  | withdrawn _ _ => exact ⟨_, rfl, .cancelled rfl ⟨rfl, rfl, rfl⟩⟩
  | abandoned _ _ _ _ _ => exact ⟨_, rfl, .cancelled rfl ⟨rfl, rfl, rfl⟩⟩

theorem toFills (sound : plan.Sound) (stage : plan.Stage executor fills) : plan.Fills fills := by
  cases stage with
  | entering | expired | withdrawn => exact .none
  | inside _ _ _ price => exact .entry price
  | abandoned _ _ _ _ price => exact .entry price
  | stopped _ _ _ _ first second => exact .both sound.stops.size first second
  | profited _ _ _ _ first second => exact .both sound.profits.size first second

theorem unfilled_of_expired (stage : plan.Stage executor fills) {statuses : BracketStatuses}
    (shown : executor.bracketStatuses? = some statuses) (expired : statuses.whole = .expired) :
    fills = [] := by
  cases stage with
  | entering | expired | withdrawn => rfl
  | inside | stopped | profited | abandoned =>
      cases shown
      cases expired

/-- The first fill of a bracket is the one of its entry. -/
theorem enter (sound : plan.Sound) (stage : plan.Stage executor []) {pricing : Pricing α}
    {event : Event α} (filled : (Engine.turn pricing event executor).2.1 ≠ []) :
    Exists fun opened => Exists fun price =>
      (Engine.turn pricing event executor).1 =
        plan.work ((BracketLives.accepted opened).enter event.time) [] ∧
      (Engine.turn pricing event executor).2.1 = [plan.fill plan.entry.size price] := by
  cases stage with
  | entering opened =>
      rcases @turn_entering _ _ plan (.accepted opened) pricing event [] sound rfl rfl with
        ⟨_, expires⟩ | waits | ⟨price, enters⟩
      · rw [expires] at filled
        cases filled rfl
      · rw [waits] at filled
        cases filled rfl
      · rw [enters]
        exact ⟨opened, price, rfl, rfl⟩
  | expired | withdrawn =>
      rw [Engine.turn_of_closed rfl] at filled
      cases filled rfl

end Stage

theorem Stands.toFills {plan : BracketPlan α} {present : Option (Executor α)}
    {fills : List (Execution α)} (sound : plan.Sound) (stands : plan.Stands present fills) :
    plan.Fills fills := by
  cases stands with
  | working stage => exact stage.toFills sound
  | removed stage => exact stage.toFills sound

/-! ## The protocol -/

/-- A working set that has accepted the bracket of a plan under a number. -/
structure Accepts (plan : BracketPlan α) (number : OrderId) (engine : Engine α) : Prop where
  sound : plan.Sound
  old : number < engine.nextId
  work : Exists fun opened => (engine.executors.get? number).map Executor.anonymous =
    some (plan.anonymous.work (.accepted opened) [])

namespace Accepts

variable {plan : BracketPlan α} {number : OrderId} {start : Engine α} {pricing : Pricing α}

theorem older (accepts : plan.Accepts number start) (pricing : Pricing α)
    (actions : List (Action α)) : number < (start.run pricing actions).nextId :=
  Int.lt_of_lt_of_le accepts.old (start.nextId_run pricing actions)

theorem stands (accepts : plan.Accepts number start) (pricing : Pricing α)
    (actions : List (Action α)) :
    plan.anonymous.Stands
      (((start.run pricing actions).executors.get? number).map Executor.anonymous)
      ((start.fillsAlong pricing number actions).map Execution.anonymous) := by
  rcases accepts.work with ⟨opened, work⟩
  have begins : plan.anonymous.Stands ((start.executors.get? number).map Executor.anonymous) [] := by
    rw [work]
    exact .working (.entering opened)
  exact begins.run accepts.sound accepts.old pricing actions

/-- A bracket that is there is at a stage. -/
theorem stage (accepts : plan.Accepts number start) {actions : List (Action α)}
    {statuses : BracketStatuses}
    (shown : (start.run pricing actions).bracketAt? number = some statuses) :
    Exists fun executor => executor.bracketStatuses? = some statuses ∧
      plan.anonymous.Stage executor
        ((start.fillsAlong pricing number actions).map Execution.anonymous) := by
  have stands := accepts.stands pricing actions
  rw [← Engine.bracketAt?_anonymous] at shown
  cases present : ((start.run pricing actions).executors.get? number).map Executor.anonymous with
  | none =>
      rw [present] at shown
      cases shown
  | some executor =>
      rw [present] at stands shown
      cases stands with
      | working stage => exact ⟨executor, shown, stage⟩

/-- What has a number has the statuses of a bracket, or it is not there any more. -/
theorem missing (accepts : plan.Accepts number start) {actions : List (Action α)}
    (gone : (start.run pricing actions).bracketAt? number = none) :
    (start.run pricing actions).executors.get? number = none := by
  have stands := accepts.stands pricing actions
  rw [← Engine.bracketAt?_anonymous] at gone
  cases present : ((start.run pricing actions).executors.get? number).map Executor.anonymous with
  | none => exact Option.map_eq_none_iff.mp present
  | some executor =>
      rw [present] at stands gone
      cases stands with
      | working stage =>
          rcases stage.inOrder with ⟨statuses, shown, _⟩
          cases shown.symm.trans gone

theorem inOrder (accepts : plan.Accepts number start) {actions : List (Action α)}
    {statuses : BracketStatuses}
    (shown : (start.run pricing actions).bracketAt? number = some statuses) :
    statuses.InOrder := by
  rcases accepts.stage shown with ⟨executor, own, stage⟩
  rcases stage.inOrder with ⟨others, known, inOrder⟩
  cases own.symm.trans known
  exact inOrder

theorem dropped (accepts : plan.Accepts number start) {actions : List (Action α)}
    (gone : (start.run pricing actions).bracketAt? number = none) :
    Exists fun earlier => Exists fun later => Exists fun statuses =>
      actions = earlier ++ .purge :: later ∧
      (start.run pricing earlier).bracketAt? number = some statuses ∧
      statuses.whole.isOpen = false := by
  rcases accepts.work with ⟨opened, work⟩
  rcases Option.map_eq_some_iff.mp work with ⟨executor, found, _⟩
  rcases Engine.dropped_of_missing accepts.old found (accepts.missing gone) with
    ⟨earlier, later, last, form, there, closed⟩
  cases shown : (start.run pricing earlier).bracketAt? number with
  | none => cases there.symm.trans (accepts.missing shown)
  | some statuses =>
      have own : last.bracketStatuses? = some statuses := by
        rw [← shown, Engine.bracketAt?, there, Option.bind_some]
      refine ⟨earlier, later, statuses, form, shown, ?_⟩
      cases last with
      | single _ => cases own
      | bracket _ _ _ _ _ =>
          cases own
          exact closed

/-- Without a fill so far a bracket is at the stage before its entry, or it is over. -/
theorem enter (accepts : plan.Accepts number start) {earlier : List (Action α)}
    {event : Event α} (unfilled : start.fillsAlong pricing number earlier = [])
    (filled : (start.run pricing earlier).fillsUnder pricing event number ≠ []) :
    (Exists fun opened =>
      ((start.run pricing (earlier ++ [.observe event])).executors.get? number).map
        Executor.anonymous =
          some (plan.anonymous.work ((BracketLives.accepted opened).enter event.time) [])) ∧
    Exists fun price =>
      ((start.run pricing earlier).fillsUnder pricing event number).map Execution.anonymous =
        [plan.anonymous.fill plan.entry.size price] := by
  have stands := accepts.stands pricing earlier
  rw [unfilled, List.map_nil] at stands
  cases present : (start.run pricing earlier).executors.get? number with
  | none =>
      unfold Engine.fillsUnder at filled
      rw [present] at filled
      cases filled rfl
  | some executor =>
      rw [present] at stands
      cases stands with
      | working stage =>
          rcases stage.exists_shown with ⟨shown, fills, alike, none, own⟩
          cases List.map_eq_nil_iff.mp none
          rcases Engine.observe_eq present pricing event with ⟨after, fires⟩
          rw [fires] at filled ⊢
          rcases own.enter (accepts.sound.alike alike) filled with ⟨opened, price, turns, one⟩
          have last : (start.run pricing earlier).run pricing [.observe event] =
              (start.run pricing earlier).act pricing (.observe event) := rfl
          rw [Engine.run_append, last, after, turns, one, (terms_of_alike alike).1,
            Option.map_some, work_anonymous, List.map_singleton, fill_anonymous, alike]
          exact ⟨⟨opened, rfl⟩, price, rfl⟩

/-- Inside, the stop has seen what was observed since the entry, and nothing has filled. -/
theorem inside (accepts : plan.Accepts number start) {earlier later : List (Action α)}
    {event : Event α} (keeps : plan.KeepsInside pricing number start earlier event later) :
    (Exists fun opened =>
      ((start.run pricing (earlier ++ .observe event :: later)).executors.get? number).map
        Executor.anonymous =
          some (plan.anonymous.work ((BracketLives.accepted opened).enter event.time)
            (Engine.observations plan.entry.asset later))) ∧
      (start.run pricing (earlier ++ [.observe event])).fillsAlong pricing number later = [] := by
  rcases (accepts.enter keeps.unfilled keeps.enters).1 with ⟨opened, entered⟩
  have older := accepts.older pricing (earlier ++ [.observe event])
  rcases run_inside accepts.sound older rfl rfl pricing entered keeps.uncancelled keeps.quiet with
    ⟨after, unfilled⟩
  rw [← Engine.run_append, List.append_assoc, List.singleton_append, List.nil_append] at after
  exact ⟨⟨opened, after⟩, unfilled⟩

/-- What the event after such a run makes of the bracket, under the numbers that it shows. -/
theorem leave (accepts : plan.Accepts number start) {earlier later : List (Action α)}
    {event next : Event α} {observation : Observation α}
    (keeps : plan.KeepsInside pricing number start earlier event later)
    (shows : next.observation? plan.entry.asset = some observation) :
    Exists fun opened => Exists fun shown : BracketPlan α =>
      let engine := start.run pricing (earlier ++ .observe event :: later)
      let left := shown.leaving pricing next.time
        ((BracketLives.accepted opened).enter event.time)
        (Engine.observations plan.entry.asset later) observation
      shown.anonymous = plan.anonymous ∧
        (engine.act pricing (.observe next)).bracketAt? number = left.1.bracketStatuses? ∧
        engine.fillsUnder pricing next number = left.2 := by
  rcases (accepts.inside keeps).1 with ⟨opened, inside⟩
  rcases Option.map_eq_some_iff.mp inside with ⟨executor, present, form⟩
  rcases exists_work form with ⟨shown, alike, rfl⟩
  rcases Engine.observe_eq present pricing next with ⟨after, fills⟩
  rw [← (terms_of_alike alike).1] at shows
  rw [turn_inside_of_seen (accepts.sound.alike alike) rfl rfl shows] at after fills
  refine ⟨opened, shown, alike, ?_, fills⟩
  rw [Engine.bracketAt?, after, Option.bind_some]

theorem stops (accepts : plan.Accepts number start) {earlier later : List (Action α)}
    {event next : Event α} {observation : Observation α}
    (keeps : plan.KeepsInside pricing number start earlier event later)
    (shows : next.observation? plan.entry.asset = some observation)
    (met : plan.stopLoss.meetsStop (Engine.observations plan.entry.asset later) observation = true) :
    let engine := start.run pricing (earlier ++ .observe event :: later)
    (engine.act pricing (.observe next)).bracketAt? number = some .stopped ∧
      Exists fun shown : BracketPlan α => shown.anonymous = plan.anonymous ∧
        engine.fillsUnder pricing next number = [shown.fill plan.stopLoss.size
          (pricing.price shown.stopLossSlip plan.stopLoss observation)] := by
  rcases accepts.leave keeps shows with ⟨opened, shown, alike, after, fills⟩
  rcases terms_of_alike alike with ⟨-, -, stopLoss⟩
  rw [leaving, stopLoss, if_pos met] at after fills
  exact ⟨after, shown, alike, fills⟩

theorem profits (accepts : plan.Accepts number start) {earlier later : List (Action α)}
    {event next : Event α} {observation : Observation α}
    (keeps : plan.KeepsInside pricing number start earlier event later)
    (shows : next.observation? plan.entry.asset = some observation)
    (passed : plan.stopLoss.meetsStop (Engine.observations plan.entry.asset later) observation =
      false)
    (met : plan.takeProfit.meetsLimit observation = true) :
    let engine := start.run pricing (earlier ++ .observe event :: later)
    (engine.act pricing (.observe next)).bracketAt? number = some .profited ∧
      Exists fun shown : BracketPlan α => shown.anonymous = plan.anonymous ∧
        engine.fillsUnder pricing next number = [shown.fill plan.takeProfit.size
          (plan.takeProfit.limitPrice pricing shown.takeProfitSlip observation)] := by
  rcases accepts.leave keeps shows with ⟨opened, shown, alike, after, fills⟩
  rcases terms_of_alike alike with ⟨-, takeProfit, stopLoss⟩
  rw [leaving, takeProfit, stopLoss, if_neg (Bool.eq_false_iff.mp passed), if_pos met]
    at after fills
  exact ⟨after, shown, alike, fills⟩

theorem protocol (accepts : plan.Accepts number start) (pricing : Pricing α) :
    plan.Protocol pricing number start where
  begins := by
    rcases accepts.work with ⟨opened, work⟩
    rw [← Engine.bracketAt?_anonymous, work]
    rfl
  inOrder := accepts.inOrder
  dropped := accepts.dropped
  enters := accepts.enter
  waits := by
    intro earlier event later keeps
    rcases accepts.inside keeps with ⟨⟨opened, inside⟩, unfilled⟩
    refine ⟨?_, unfilled⟩
    rw [← Engine.bracketAt?_anonymous, inside]
    rfl
  stops := accepts.stops
  profits := accepts.profits
  fills := by
    intro actions
    exact (accepts.stands pricing actions).toFills (accepts.sound.alike rfl)
  refers := Engine.fill_of_fillsUnder
  expires := by
    intro actions statuses shown expired
    rcases accepts.stage shown with ⟨executor, own, stage⟩
    exact List.map_eq_nil_iff.mp (stage.unfilled_of_expired own expired)

end Accepts

/-! ## Acceptance -/

/-- Before it sees anything, a stop remembers nothing. -/
theorem remembered?_nil (terms : Terms α) : terms.remembered? [] = none := by
  unfold Terms.remembered?
  cases terms.kind <;> rfl

/-- A bracket that begins to be worked and is accepted waits to be entered. -/
theorem accept_create {plan : BracketPlan α} {order : Order α} {executor : Executor α}
    (alike : order.anonymous = plan.order.anonymous)
    (work : Executor.create? order = .ok executor) (time : Instant) :
    (executor.accept time).anonymous = plan.anonymous.work (.accepted time) [] := by
  have likeness := Executor.create?_anonymous order
  rw [alike, work] at likeness
  rw [Executor.anonymous_accept, ← Except.ok.inj likeness]
  unfold BracketPlan.work stopLossWorker
  rw [remembered?_nil]
  rfl

end BracketPlan

open Engine in
/-- Accepting a bracket, the working set takes up the bracket of a sound plan. -/
theorem BracketPlan.accepts_of_registered {engine : Engine α} {slip : Slip}
    {entry takeProfit stopLoss : Order α} {time : Instant} {reason : Option (Rejection α)}
    {state : OrderState α}
    (answered : (engine.register (.bracket slip entry takeProfit stopLoss) time reason).result =
      .ok state)
    (accepted : state.status = .accepted) :
    state.number? = some engine.nextId ∧
      Exists fun plan : BracketPlan α => plan.order = .bracket slip entry takeProfit stopLoss ∧
        plan.Accepts engine.nextId
          (engine.register (.bracket slip entry takeProfit stopLoss) time reason).state := by
  have registered := engine.registered (.bracket slip entry takeProfit stopLoss) time reason
  rw [answered] at registered
  rcases registered.fine_of_accepted accepted with ⟨trades, fine⟩
  rcases registered.of_fine trades fine with ⟨executor, work, rfl, after⟩
  rcases BracketPlan.of_sound (defect?_of_cause? fine) with ⟨plan, form, sound⟩
  rw [after]
  refine ⟨number?_accept work rfl time, plan, form, sound, Int.lt_succ _, time, ?_⟩
  rw [Table.get?_put, if_pos rfl, Option.map_some]
  apply congrArg some
  apply BracketPlan.accept_create _ work
  rw [Engine.anonymous_written, form]

namespace Engine

/-- The working set keeps the protocol with every bracket that it accepts, whatever the prices of
the fills and whatever is done to the working set afterwards. -/
theorem accepted_bracket_keeps_protocol {engine : Engine α} {slip : Slip}
    {entry takeProfit stopLoss : Order α} {time : Instant} {reason : Option (Rejection α)}
    {state : OrderState α}
    (answered : (engine.register (.bracket slip entry takeProfit stopLoss) time reason).result =
      .ok state)
    (accepted : state.status = .accepted) :
    state.number? = some engine.nextId ∧
      Exists fun plan : BracketPlan α => plan.order = .bracket slip entry takeProfit stopLoss ∧
        plan.Sound ∧ forall pricing, plan.Protocol pricing engine.nextId
          (engine.register (.bracket slip entry takeProfit stopLoss) time reason).state := by
  rcases BracketPlan.accepts_of_registered answered accepted with ⟨number, plan, form, accepts⟩
  exact ⟨number, plan, form, accepts.sound, accepts.protocol⟩

end Engine

/-- A purchase of ten that takes its profit at 130, with a stop that trails by a tenth. -/
def trailedPlan : BracketPlan Rat :=
  let asset : Asset := { symbol := "QQQ" }
  { slip := {}
    entrySlip := {}
    takeProfitSlip := {}
    stopLossSlip := {}
    entry := { asset, size := 10, kind := .market }
    takeProfit := { asset, size := -10, kind := .limit 130 }
    stopLoss := { asset, size := -10, kind := .trail (1 / 10) } }

def trailedEvent (time : Int) (price : Rat) : Event Rat :=
  let asset : Asset := { symbol := "QQQ" }
  { time := ⟨time⟩, prices := Table.empty.put asset (.trade asset price none) }

/-- After prices of 100 and 120 the stop stands at 108, and a price of 107 fills it. -/
theorem trailedPlan_stopped :
    let answer := ({} : Engine Rat).register trailedPlan.order ⟨0⟩ none
    let later : List (Engine.Action Rat) :=
      [.observe (trailedEvent 1 100), .purge, .observe (trailedEvent 2 120)]
    let engine := answer.state.run .reference (.observe (trailedEvent 0 100) :: later)
    (Exists fun state => answer.result = .ok state ∧ state.status = .accepted) ∧
      trailedPlan.KeepsInside .reference 1 answer.state [] (trailedEvent 0 100) later ∧
      engine.bracketAt? 1 = some .inside ∧
      (engine.act .reference (.observe (trailedEvent 3 107))).bracketAt? 1 = some .stopped ∧
      (engine.fillsUnder .reference (trailedEvent 3 107) 1).map Execution.anonymous =
        [trailedPlan.fill (-10) 107] := by
  intro answer later engine
  have status : (answer.result.toOption.map fun state => state.status) = some .accepted := by
    decide +kernel
  cases answered : answer.result with
  | error _ =>
      rw [answered] at status
      cases status
  | ok state =>
      rw [answered] at status
      have accepted : state.status = .accepted := Option.some.inj status
      rcases Engine.accepted_bracket_keeps_protocol answered accepted with
        ⟨-, plan, form, -, protocol⟩
      have same : plan = trailedPlan := BracketPlan.eq_of_order_eq form
      subst same
      have entered : ((answer.state.fillsUnder .reference (trailedEvent 0 100) 1).map
          Execution.quantity) = [10] := by decide +kernel
      have keeps : trailedPlan.KeepsInside .reference 1 answer.state [] (trailedEvent 0 100)
          later := by
        refine ⟨rfl, ?_, by decide, by decide +kernel⟩
        intro nothing
        have none : answer.state.fillsUnder .reference (trailedEvent 0 100) 1 = [] := nothing
        rw [none] at entered
        cases entered
      have shows : (trailedEvent 3 107).observation? trailedPlan.entry.asset =
          some (.trade trailedPlan.entry.asset 107 none) := rfl
      rcases (protocol .reference).stops keeps shows (by decide +kernel) with
        ⟨stopped, shown, alike, fills⟩
      have sold : (engine.fillsUnder .reference (trailedEvent 3 107) 1).map Execution.anonymous =
          [shown.anonymous.fill (-10) 107] := congrArg (List.map Execution.anonymous) fills
      rw [alike] at sold
      exact ⟨⟨state, rfl, accepted⟩, keeps, ((protocol .reference).waits keeps).1, stopped, sold⟩

end Brokerage
