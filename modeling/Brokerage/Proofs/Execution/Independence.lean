import Brokerage.Proofs.Execution.BracketProtocol
import Brokerage.Proofs.Execution.Isolation
import Mathlib.Data.List.Induction

namespace Brokerage
namespace Engine

/-!
Orders do not interact in the working set.

A run with many orders is compared with what is left of it when all orders but
one are left out: the registration of that order, the cancels that name it, and
all events and removals.  Numbers count registrations, so the order has another
number there, and the cancels name it by that one.  Numbers apart, the order
stands alike in both runs at every point, and unless the pricing model reads
the numbers, it fills alike on every event.
-/

variable {α : Type}

/-- No order of a run that is no cancel is registered again. -/
def OrdersDistinct (actions : List (Action α)) : Prop :=
  (registrations actions).Pairwise fun earlier later => earlier.isCancel = true ∨
    forall ticket, earlier.ticket? = some ticket -> later.ticket? ≠ some ticket

/-- A run up to some point, told around the registration of one of its orders. -/
structure Entry (α : Type) where
  before : List (Action α)
  order : Order α
  time : Instant
  reason : Option (Rejection α)
  after : List (Action α)

namespace Entry

/-- The run itself. -/
def actions (entry : Entry α) : List (Action α) :=
  entry.before ++ .register entry.order entry.time entry.reason :: entry.after

/-- The number that the order gets in the run. -/
def number (entry : Entry α) : OrderId :=
  1 + (registrations entry.before).length

/-- The number that the order gets when all other orders are left out: only the cancels that name
it are registered before it. -/
def ownNumber (entry : Entry α) : OrderId :=
  1 + (registrations entry.before).countP (Order.cancels entry.number)

/-- What is left of a part of the run when all other orders are left out. -/
def rest (entry : Entry α) (actions : List (Action α)) : List (Action α) :=
  actions.filterMap (Action.alone? entry.number entry.ownNumber)

/-- The run of the order by itself. -/
def alone (entry : Entry α) : List (Action α) :=
  entry.rest entry.before ++ .register entry.order entry.time entry.reason ::
    entry.rest entry.after

end Entry

theorem registrations_append (first second : List (Action α)) :
    registrations (first ++ second) = registrations first ++ registrations second :=
  List.filterMap_append

theorem OrdersDistinct.of_prefix {earlier actions : List (Action α)}
    (distinct : OrdersDistinct actions) (first : earlier <+: actions) : OrdersDistinct earlier := by
  rcases first with ⟨later, rfl⟩
  rw [OrdersDistinct, registrations_append] at distinct
  exact (List.pairwise_append.mp distinct).1

/-- What is left of a run registers the cancels that name the order. -/
theorem registrations_alone (number own : OrderId) (actions : List (Action α)) :
    registrations (actions.filterMap (Action.alone? number own)) =
      ((registrations actions).filter (Order.cancels number)).map (Order.aimedAt own) := by
  unfold registrations
  induction actions with
  | nil => rfl
  | cons action rest ih =>
      cases action with
      | register order time reason =>
          cases cancels : order.cancels number with
          | true =>
              rw [List.filterMap_cons_some (Action.alone?_of_cancels cancels own time reason),
                List.filterMap_cons, List.filterMap_cons, ih]
              simp only [Action.order?, List.filter_cons, cancels, if_true, List.map_cons]
          | false =>
              rw [List.filterMap_cons_none (Action.alone?_of_spares cancels own time reason), ih,
                List.filterMap_cons]
              simp only [Action.order?, List.filter_cons, cancels, Bool.false_eq_true, if_false]
      | observe _ => exact ih
      | purge => exact ih

section Running

variable [Quantity α]

/-! ## An order in both runs -/

namespace Entry

variable (entry : Entry α) (pricing : Pricing α)

theorem nextId_before : (({} : Engine α).run pricing entry.before).nextId = entry.number :=
  nextId_run_eq pricing {} entry.before

theorem nextId_rest : (({} : Engine α).run pricing (entry.rest entry.before)).nextId =
    entry.ownNumber := by
  rw [nextId_run_eq, rest, registrations_alone, List.length_map, ← List.countP_eq_length_filter]
  rfl

/-- The working set after the run. -/
def whole : Engine α :=
  ({} : Engine α).run pricing entry.actions

/-- The working set after the run of the order by itself. -/
def lone : Engine α :=
  ({} : Engine α).run pricing entry.alone

/-- Numbers apart, the order is at work alike in both runs, because both come down to what becomes
of the order by itself, and no cancel has its number. -/
theorem alike (trades : entry.order.isCancel = false) :
    ((entry.whole pricing).executors.get? entry.number).map Executor.anonymous =
      ((entry.lone pricing).executors.get? entry.ownNumber).map Executor.anonymous ∧
    entry.number ∉ (entry.whole pricing).cancels.keys ∧
    entry.ownNumber ∉ (entry.lone pricing).cancels.keys := by
  have start : ({} : Engine α).Ordered := ordered_clear {}
  have whole := get?_run_of_registered (ordered_run start pricing entry.before) trades entry.time
    entry.reason pricing entry.after
  have lone := get?_run_of_registered (ordered_run start pricing (entry.rest entry.before)) trades
    entry.time entry.reason pricing (entry.rest entry.after)
  rw [entry.nextId_before, ← run_append] at whole
  rw [entry.nextId_rest, ← run_append] at lone
  refine ⟨?_, whole.2, lone.2⟩
  have left := Executor.run?_alone pricing entry.number entry.ownNumber
    (entered entry.order entry.time entry.reason) entry.after
  exact whole.1.trans (left.symm.trans lone.1.symm)

theorem state_alike (trades : entry.order.isCancel = false) :
    ((entry.whole pricing).state? entry.number).map OrderState.anonymous =
      ((entry.lone pricing).state? entry.ownNumber).map OrderState.anonymous := by
  rcases entry.alike pricing trades with ⟨same, absent, missing⟩
  rw [state?_anonymous absent, state?_anonymous missing, same]

end Entry

/-! ## Nothing else is at work in the run of one order -/

section Alone

variable {engine : Engine α} {pricing : Pricing α}

/-- Only the registration of an order that is no cancel brings a number among those at work. -/
theorem mem_keys_act {key : OrderId} {action : Action α}
    (listed : key ∈ (engine.act pricing action).executors.keys) :
    key ∈ engine.executors.keys ∨ key = engine.nextId ∧
      Exists fun order => action.order? = some order ∧ order.isCancel = false := by
  cases action with
  | register order time reason =>
      have registered := engine.registered order time reason
      generalize (engine.register order time reason).result = answer at registered
      change key ∈ (engine.register order time reason).state.executors.keys at listed
      generalize (engine.register order time reason).state = next at registered listed
      have old : key ∈ (engine.numbering order).executors.keys -> key ∈ engine.executors.keys := by
        rw [keys_executors_numbering]
        exact id
      have target : forall {number : OrderId} {executor other : Executor α},
          (engine.numbering order).executors.get? number = some executor ->
            key ∈ ((engine.numbering order).executors.put number other).keys ->
              key ∈ engine.executors.keys := by
        intro number executor other found among
        rcases Table.mem_keys_put.mp among with before | same
        · exact old before
        · exact old (same ▸ Table.mem_keys_of_get? found)
      cases registered with
      | missed _ _ => exact Or.inl (old listed)
      | cancelled _ found _ => exact Or.inl (target found listed)
      | late _ found _ => exact Or.inl (target found listed)
      | refused trades _ _ =>
          exact (Table.mem_keys_put.mp listed).imp old fun same => ⟨same, order, rfl, trades⟩
      | accepted trades _ _ =>
          exact (Table.mem_keys_put.mp listed).imp old fun same => ⟨same, order, rfl, trades⟩
      | unworkable _ _ => exact Or.inl (old listed)
  | observe event =>
      rw [act, keys_executors_execute] at listed
      exact Or.inl listed
  | purge => exact Or.inl ((Table.keys_filter_sublist _ _).subset listed)

/-- A run that registers cancels only brings nothing to work. -/
theorem mem_keys_run_of_cancels {actions : List (Action α)}
    (cancels : forall order, order ∈ registrations actions -> order.isCancel = true)
    {key : OrderId} (listed : key ∈ (engine.run pricing actions).executors.keys) :
    key ∈ engine.executors.keys := by
  induction actions generalizing engine with
  | nil => exact listed
  | cons action rest ih =>
      have later : forall order, order ∈ registrations rest -> order.isCancel = true := by
        intro order among
        apply cancels order
        rw [← List.singleton_append, registrations_append]
        exact List.mem_append_right _ among
      rcases mem_keys_act (ih later listed) with old | ⟨-, order, registers, trades⟩
      · exact old
      · have among : order ∈ registrations (action :: rest) :=
          List.mem_filterMap.mpr ⟨action, List.mem_cons_self, registers⟩
        cases (cancels order among).symm.trans trades

omit [Quantity α] in
theorem Entry.cancels_of_rest (entry : Entry α) (actions : List (Action α)) (order : Order α)
    (listed : order ∈ registrations (entry.rest actions)) : order.isCancel = true := by
  rw [rest, registrations_alone] at listed
  rcases List.mem_map.mp listed with ⟨old, among, same⟩
  rw [← same, Order.isCancel_aimedAt]
  exact Order.isCancel_of_cancels (List.mem_filter.mp among).2

theorem Entry.eq_of_mem_alone (entry : Entry α) {key : OrderId}
    (listed : key ∈ (entry.lone pricing).executors.keys) : key = entry.ownNumber := by
  rw [lone, alone, run_append] at listed
  rcases mem_keys_act (mem_keys_run_of_cancels (entry.cancels_of_rest _) listed) with old | new
  · exact nomatch mem_keys_run_of_cancels (entry.cancels_of_rest _) old
  · exact new.1.trans (entry.nextId_rest pricing)

/-- When nothing else is at work, all fills of an event are those of one order. -/
theorem fills_of_single {own : OrderId}
    (single : forall key, key ∈ engine.executors.keys -> key = own) (pricing : Pricing α)
    (event : Event α) :
    (engine.execute pricing event).2.1 = engine.fillsUnder pricing event own := by
  have distinct := engine.executors.distinct
  unfold Table.keys at single
  unfold fillsUnder Table.get?
  rw [fills_execute, Table.values]
  cases entries : engine.executors.entries with
  | nil => rfl
  | cons first rest =>
      rw [entries] at single distinct
      have one : first.1 = own := single first.1 List.mem_cons_self
      cases rest with
      | nil =>
          simp only [List.map_cons, List.map_nil, List.flatMap_cons, List.flatMap_nil,
            List.append_nil, Table.lookup, if_pos one, Option.map_some, Option.getD_some]
      | cons second others =>
          have other : second.1 = own :=
            single second.1 (List.mem_cons_of_mem _ List.mem_cons_self)
          simp [one, other] at distinct

end Alone
end Running

/-! ## Where the orders at work come from -/

/-- An order at work shows its number, and it was registered along the run. -/
structure Stems (actions : List (Action α)) (numbers : Table Ticket OrderId) (number : OrderId)
    (executor : Executor α) : Prop where
  shows : executor.order.Shows numbers number
  registered : Exists fun entry : Entry α => entry.actions = actions ∧
    entry.order.isCancel = false ∧ entry.number = number ∧
      executor.order.ticket? = entry.order.ticket?

namespace Stems

variable {actions : List (Action α)} {numbers : Table Ticket OrderId} {number : OrderId}
  {executor : Executor α}

theorem of_slip (stems : Stems actions numbers number executor) {next : Executor α}
    (same : next.slip = executor.slip) : Stems actions numbers number next where
  shows := Executor.shows_of_slip same stems.shows
  registered := by
    rw [Executor.ticket?_order, same, ← Executor.ticket?_order]
    exact stems.registered

theorem later (stems : Stems actions numbers number executor) (action : Action α) :
    Stems (actions ++ [action]) numbers number executor where
  shows := stems.shows
  registered := by
    rcases stems.registered with ⟨entry, form, trades, same, ticket⟩
    refine ⟨{ entry with after := entry.after ++ [action] }, ?_, trades, same, ticket⟩
    rw [← form]
    simp only [Entry.actions, List.append_assoc, List.cons_append]

/-- The ticket of an order at work is not given another number. -/
theorem numbered {engine : Engine α} (stems : Stems actions engine.numbers number executor)
    {order : Order α} {time : Instant} {reason : Option (Rejection α)} {ticket : Ticket}
    (distinct : OrdersDistinct (actions ++ [.register order time reason]))
    (borne : order.ticket? = some ticket) :
    Stems actions (engine.numbering order).numbers number
      (executor.numbered (engine.numbering order).numbers) where
  shows := by
    rcases stems.registered with ⟨entry, form, trades, -, same⟩
    rw [Executor.order_numbered]
    refine stems.shows.numbered fun own bears noted => ?_
    have among : entry.order ∈ registrations actions := by
      rw [← form]
      exact List.mem_filterMap.mpr
        ⟨_, List.mem_append_right _ List.mem_cons_self, rfl⟩
    rw [OrdersDistinct, registrations_append] at distinct
    have apart := (List.pairwise_append.mp distinct).2.2 entry.order among order
      (List.mem_singleton.mpr rfl)
    rcases apart with cancel | apart
    · cases trades.symm.trans cancel
    · have other : ticket ≠ own := by
        intro equal
        exact apart own (same ▸ bears) (equal ▸ borne)
      rw [engine.numbers_numbering_of_ticket borne, Table.get?_put, if_neg other]
      exact noted
  registered := by
    rw [Executor.order_numbered, Order.ticket?_numbered]
    exact stems.registered

end Stems

/-- Writing a number leaves the orders at work with theirs. -/
theorem each_stems_numbering {engine : Engine α} {actions : List (Action α)} {order : Order α}
    {time : Instant} {reason : Option (Rejection α)}
    (each : engine.Each (Stems actions engine.numbers))
    (distinct : OrdersDistinct (actions ++ [.register order time reason])) :
    (engine.numbering order).Each
      (Stems (actions ++ [.register order time reason]) (engine.numbering order).numbers) := by
  intro entry listed
  cases borne : order.ticket? with
  | none =>
      rw [engine.numbering_of_ticketless borne] at listed ⊢
      exact (each entry listed).later _
  | some ticket =>
      rw [engine.executors_numbering_of_ticket borne] at listed
      rcases List.mem_map.mp listed with ⟨old, member, same⟩
      subst same
      exact ((each old member).numbered distinct borne).later _

/-- An order that goes to work shows the number that it is given. -/
theorem stems_new {engine : Engine α} {actions : List (Action α)} {order : Order α}
    (given : engine.nextId = 1 + (registrations actions).length) (time : Instant)
    (reason : Option (Rejection α)) (trades : order.isCancel = false) {executor next : Executor α}
    (work : Executor.create? (engine.written order) = .ok executor)
    (slip : next.slip = executor.slip) :
    Stems (actions ++ [.register order time reason]) (engine.numbering order).numbers
      engine.nextId next := by
  have same := (Executor.create?_ok work).1
  have real : order.isOrder = true := by
    cases order with
    | foreign _ => cases work
    | _ => rfl
  have fresh : Stems (actions ++ [.register order time reason]) (engine.numbering order).numbers
      engine.nextId executor := by
    constructor
    · rw [same]
      exact engine.shows_written real
    · refine ⟨⟨actions, order, time, reason, []⟩, rfl, trades, given.symm, ?_⟩
      rw [same, ticket?_written]
  exact fresh.of_slip slip

section Stemming

variable [Quantity α] {engine : Engine α} {actions : List (Action α)}

theorem each_stems_register {order : Order α} {time : Instant} {reason : Option (Rejection α)}
    (each : engine.Each (Stems actions engine.numbers))
    (given : engine.nextId = 1 + (registrations actions).length)
    (distinct : OrdersDistinct (actions ++ [.register order time reason])) :
    (engine.register order time reason).state.Each
      (Stems (actions ++ [.register order time reason])
        (engine.register order time reason).state.numbers) := by
  have numbered := each_stems_numbering each distinct
  have registered := engine.registered order time reason
  rw [registered.numbers_eq]
  generalize (engine.register order time reason).result = answer at registered
  generalize (engine.register order time reason).state = next at registered
  have closes : forall {target : OrderId} {executor : Executor α},
      (engine.numbering order).executors.get? target = some executor ->
        Stems (actions ++ [.register order time reason]) (engine.numbering order).numbers target
          (executor.close time .cancelled) := by
    intro target executor found
    exact (numbered _ (Table.get?_eq_some_iff.mp found)).of_slip
      (executor.slip_close time .cancelled)
  cases registered with
  | missed _ _ => exact numbered
  | cancelled _ found _ => exact numbered.put (closes found)
  | late _ found _ => exact numbered.put (closes found)
  | refused trades work _ =>
      have fresh := stems_new given time reason trades work (Executor.slip_reject time _)
      exact numbered.put fresh
  | accepted trades work _ =>
      have fresh := stems_new given time reason trades work (Executor.slip_accept time _)
      exact numbered.put fresh
  | unworkable _ _ => exact numbered

theorem each_stems_act {action : Action α} (each : engine.Each (Stems actions engine.numbers))
    (given : engine.nextId = 1 + (registrations actions).length)
    (distinct : OrdersDistinct (actions ++ [action])) (pricing : Pricing α) :
    (engine.act pricing action).Each
      (Stems (actions ++ [action]) (engine.act pricing action).numbers) := by
  cases action with
  | register order time reason => exact each_stems_register each given distinct
  | observe event =>
      intro entry listed
      rcases engine.mem_executors_execute pricing event listed with ⟨old, member, _, turn⟩
      exact ((each _ member).of_slip turn.slip_eq).later _
  | purge => exact fun entry listed => (each entry (List.mem_filter.mp listed).1).later _

/-- What is at work after a run was registered along it, and shows its number; by induction from the
end of the run, since what an order stems from is told of the run so far. -/
theorem each_stems_run (distinct : OrdersDistinct actions) (pricing : Pricing α) :
    (({} : Engine α).run pricing actions).Each
      (Stems actions (({} : Engine α).run pricing actions).numbers) := by
  induction actions using List.reverseRecOn with
  | nil => exact fun _ listed => nomatch listed
  | append_singleton actions action ih =>
      have before := distinct.of_prefix (List.prefix_append actions [action])
      rw [run_append]
      exact each_stems_act (ih before) (nextId_run_eq pricing {} actions) distinct pricing

end Stemming

/-! ## The whole working set -/

section Concatenation

variable [Quantity α]

/-- The fills of an event are those of the open orders, in the order of their numbers. -/
theorem fills_eq_flatMap_openIds (engine : Engine α) (pricing : Pricing α) (event : Event α) :
    (engine.execute pricing event).2.1 =
      engine.openIds.flatMap (engine.fillsUnder pricing event) := by
  have silent : forall entry : OrderId × Executor α, entry.2.isOpen = false ->
      (turn pricing event entry.2).2.1 = [] := by
    intro entry closed
    rw [turn_of_closed closed]
  have open_fills : (engine.execute pricing event).2.1 =
      (engine.executors.entries.filter fun entry => entry.2.isOpen).flatMap fun entry =>
        (turn pricing event entry.2).2.1 := by
    rw [fills_execute, Table.values, List.flatMap_map]
    induction engine.executors.entries with
    | nil => rfl
    | cons entry rest ih =>
        rw [List.flatMap_cons, List.filter_cons, ih]
        cases live : entry.2.isOpen with
        | true => rfl
        | false =>
            rw [silent entry live]
            rfl
  rw [open_fills]
  unfold openIds Table.keys
  rw [List.flatMap_map]
  refine List.flatMap_congr fun entry listed => ?_
  have found : engine.executors.get? entry.1 = some entry.2 :=
    Table.get?_eq_some_iff.mpr (List.mem_filter.mp listed).1
  simp only [fillsUnder, found, Option.map_some, Option.getD_some]

end Concatenation

/-- The fills of the order with a number among all fills of an event. -/
def fillsOf (number : OrderId) (fills : List (Execution α)) : List (Execution α) :=
  fills.filter fun fill => decide (fill.order.number? = some number)

section Comparison

variable [Quantity α] {σ : Type} (pricing : Pricing α)

theorem shown_of_distinct {actions : List (Action α)} (distinct : OrdersDistinct actions) :
    forall listed, listed ∈ (({} : Engine α).run pricing actions).executors.entries ->
      listed.2.order.number? = some listed.1 :=
  fun listed among => (each_stems_run distinct pricing listed among).shows.shown

/-- Whatever can be told of the fills of an order without its number, the fills of the order are all
fills of the run of the order by itself. -/
theorem Entry.fillsUnder_alike {view : Execution α -> σ} {event : Event α}
    (numberless : forall executor, (turn pricing event executor).2.1.map view =
      (turn pricing event executor.anonymous).2.1.map view)
    (entry : Entry α) (trades : entry.order.isCancel = false) :
    ((entry.whole pricing).fillsUnder pricing event entry.number).map view =
      ((entry.lone pricing).execute pricing event).2.1.map view := by
  have told : forall (engine : Engine α) (number : OrderId),
      (engine.fillsUnder pricing event number).map view =
        (((engine.executors.get? number).map Executor.anonymous).map fun executor =>
          (turn pricing event executor).2.1.map view).getD [] := by
    intro engine number
    unfold fillsUnder
    cases engine.executors.get? number with
    | none => rfl
    | some executor => exact numberless executor
  have single : forall key, key ∈ (entry.lone pricing).executors.keys -> key = entry.ownNumber :=
    fun _ => entry.eq_of_mem_alone
  rw [fills_of_single single, told, told, (entry.alike pricing trades).1]

/-- The open orders were registered along the run, each as its own number says. -/
theorem exists_entries {actions : List (Action α)} (distinct : OrdersDistinct actions) :
    Exists fun entries : List (Entry α) =>
      entries.map Entry.number = (({} : Engine α).run pricing actions).openIds ∧
        forall entry, entry ∈ entries -> entry.actions = actions ∧ entry.order.isCancel = false := by
  have each := each_stems_run distinct pricing
  unfold openIds Table.keys
  have among : forall listed, listed ∈ ((({} : Engine α).run pricing actions).executors.filter
      fun _ executor => executor.isOpen).entries ->
        listed ∈ (({} : Engine α).run pricing actions).executors.entries :=
    fun listed kept => (List.mem_filter.mp kept).1
  generalize ((({} : Engine α).run pricing actions).executors.filter
    fun _ executor => executor.isOpen).entries = work at among
  induction work with
  | nil => exact ⟨[], rfl, fun _ listed => nomatch listed⟩
  | cons listed rest ih =>
      rcases ih fun other later => among other (List.mem_cons_of_mem _ later) with
        ⟨entries, numbers, registered⟩
      rcases (each listed (among listed List.mem_cons_self)).registered with
        ⟨entry, form, trades, number, -⟩
      refine ⟨entry :: entries, ?_, ?_⟩
      · rw [List.map_cons, List.map_cons, number, numbers]
      · intro other member
        rcases List.mem_cons.mp member with rfl | later
        · exact ⟨form, trades⟩
        · exact registered other later

theorem pairwise_openIds (actions : List (Action α)) :
    (({} : Engine α).run pricing actions).openIds.Pairwise (· < ·) :=
  (ordered_run (ordered_clear {}) pricing actions).ascending.sublist
    (Table.keys_filter_sublist _ _)

/-- An order that stands as it does when all other orders are left out, and trades the same on every
event; under a pricing model that is blind for numbers it also pays the same. -/
structure Entry.Independent (entry : Entry α) : Prop where
  state : ((entry.whole pricing).state? entry.number).map OrderState.anonymous =
    ((entry.lone pricing).state? entry.ownNumber).map OrderState.anonymous
  lots : forall event,
    (fillsOf entry.number ((entry.whole pricing).execute pricing event).2.1).map Execution.lot =
      ((entry.lone pricing).execute pricing event).2.1.map Execution.lot
  fills : pricing.Blind -> forall event,
    (fillsOf entry.number ((entry.whole pricing).execute pricing event).2.1).map
        Execution.anonymous =
      ((entry.lone pricing).execute pricing event).2.1.map Execution.anonymous

/-- After a run an event is answered with the fills that the open orders yield in their own turns,
in the order of their numbers, and each of them yields what it does when all other orders are left
out. -/
structure Concatenates (actions : List (Action α)) : Prop where
  ascending : (({} : Engine α).run pricing actions).openIds.Pairwise (· < ·)
  turns : forall event, ((({} : Engine α).run pricing actions).execute pricing event).2.1 =
    (({} : Engine α).run pricing actions).openIds.flatMap
      ((({} : Engine α).run pricing actions).fillsUnder pricing event)
  alone : Exists fun entries : List (Entry α) =>
    entries.map Entry.number = (({} : Engine α).run pricing actions).openIds ∧
      (forall entry, entry ∈ entries ->
        entry.actions = actions ∧ entry.order.isCancel = false) ∧
      (forall event,
        ((({} : Engine α).run pricing actions).execute pricing event).2.1.map Execution.lot =
          entries.flatMap fun entry =>
            ((entry.lone pricing).execute pricing event).2.1.map Execution.lot) ∧
      (pricing.Blind -> forall event,
        ((({} : Engine α).run pricing actions).execute pricing event).2.1.map
            Execution.anonymous =
          entries.flatMap fun entry =>
            ((entry.lone pricing).execute pricing event).2.1.map Execution.anonymous)

theorem Entry.independent {entry : Entry α} (distinct : OrdersDistinct entry.actions)
    (trades : entry.order.isCancel = false) : entry.Independent pricing := by
  have shown := shown_of_distinct pricing distinct
  refine ⟨entry.state_alike pricing trades, fun event => ?_, fun blind event => ?_⟩
  · rw [fillsOf, Entry.whole, fills_under shown]
    exact entry.fillsUnder_alike pricing (lots_turn pricing event) trades
  · rw [fillsOf, Entry.whole, fills_under shown]
    exact entry.fillsUnder_alike pricing (fills_turn blind event) trades

theorem concatenates {actions : List (Action α)} (distinct : OrdersDistinct actions) :
    Concatenates pricing actions := by
  rcases exists_entries pricing distinct with ⟨entries, numbers, registered⟩
  have turns := fills_eq_flatMap_openIds (({} : Engine α).run pricing actions) pricing
  have together : forall {τ : Type} {view : Execution α -> τ} {event : Event α},
      (forall executor, (turn pricing event executor).2.1.map view =
        (turn pricing event executor.anonymous).2.1.map view) ->
      ((({} : Engine α).run pricing actions).execute pricing event).2.1.map view =
        entries.flatMap fun entry => ((entry.lone pricing).execute pricing event).2.1.map view := by
    intro τ view event numberless
    rw [turns, ← numbers, List.flatMap_map, List.map_flatMap]
    refine List.flatMap_congr fun entry listed => ?_
    rcases registered entry listed with ⟨form, trades⟩
    have same := entry.fillsUnder_alike pricing numberless trades
    rw [Entry.whole, form] at same
    exact same
  exact {
    ascending := pairwise_openIds pricing actions
    turns
    alone := ⟨entries, numbers, registered, fun event => together (lots_turn pricing event),
      fun blind event => together (fills_turn blind event)⟩ }

/-- Orders do not interact: up to any point of a run, every order is independent of the others, and
every event is answered with what the open orders yield, one after the other. -/
theorem orders_do_not_interact {actions : List (Action α)} (distinct : OrdersDistinct actions) :
    (forall entry : Entry α, entry.actions <+: actions -> entry.order.isCancel = false ->
      entry.Independent pricing) ∧
    forall earlier, earlier <+: actions -> Concatenates pricing earlier :=
  ⟨fun _ first trades => Entry.independent pricing (distinct.of_prefix first) trades,
    fun _ first => concatenates pricing (distinct.of_prefix first)⟩

end Comparison

/-- A bracket, registered after a limit order that is cancelled along the run. -/
def crowdedEntry : Entry Rat where
  before := [.register (.single { ticket := some 4 }
    { asset := { symbol := "QQQ" }, size := 10, kind := .limit 90 }) ⟨0⟩ none]
  order := BracketPlan.order { trailedPlan with slip := { ticket := some 5 } }
  time := ⟨0⟩
  reason := none
  after := [.observe (trailedEvent 1 100), .register (.cancel {} 1) ⟨2⟩ none,
    .observe (trailedEvent 3 110), .purge]

/-- Second in the run and first by itself, the bracket sells ten when the price falls to 95. -/
theorem crowdedEntry_independent :
    OrdersDistinct crowdedEntry.actions ∧ crowdedEntry.order.isCancel = false ∧
      (crowdedEntry.number, crowdedEntry.ownNumber) = (2, 1) ∧
      (crowdedEntry.actions.length, crowdedEntry.alone.length) = (6, 4) ∧
      ((crowdedEntry.whole .reference).state? 2).map OrderState.anonymous =
        ((crowdedEntry.lone .reference).state? 1).map OrderState.anonymous ∧
      (fillsOf 2 ((crowdedEntry.whole .reference).execute .reference
          (trailedEvent 4 95)).2.1).map Execution.anonymous =
        ((crowdedEntry.lone .reference).execute .reference (trailedEvent 4 95)).2.1.map
          Execution.anonymous ∧
      ((crowdedEntry.lone .reference).execute .reference (trailedEvent 4 95)).2.1.map
        Execution.quantity = [-10] := by
  have distinct : OrdersDistinct crowdedEntry.actions := by
    refine List.Pairwise.cons ?_ (List.Pairwise.cons ?_ (List.pairwise_singleton _ _))
    · intro later listed
      rcases List.mem_pair.mp listed with rfl | rfl
      · exact Or.inr fun ticket borne => by
          cases borne
          decide
      · exact Or.inr fun ticket borne => nofun
    · intro later listed
      cases List.mem_singleton.mp listed
      exact Or.inr fun ticket borne => nofun
  have alike := (orders_do_not_interact .reference distinct).1 crowdedEntry List.prefix_rfl rfl
  exact ⟨distinct, rfl, by decide, by decide, alike.state, alike.fills trivial _, by decide +kernel⟩

/-- A pricing model that charges the number of an order. -/
def numberPricing : Pricing Rat :=
  .custom fun slip _ _ => ((slip.number.getD 0 : Int) : Rat)

/-- A purchase that waits for 90, registered after one that waits for 80. -/
def secondEntry : Entry Rat where
  before := [.register (.single {}
    { asset := { symbol := "QQQ" }, size := 10, kind := .limit 80 }) ⟨0⟩ none]
  order := .single {} { asset := { symbol := "QQQ" }, size := 10, kind := .limit 90 }
  time := ⟨0⟩
  reason := none
  after := []

/-- A pricing model that reads the numbers tells an order from the same order by itself, and a
cancel that keeps the number which the order has in the whole run misses it where it is by
itself. -/
theorem numberPricing_tells_orders_apart :
    let event := trailedEvent 1 85
    let cancel : Action Rat := .register (.cancel {} 2) ⟨1⟩ none
    OrdersDistinct secondEntry.actions ∧ secondEntry.order.isCancel = false ∧
      (secondEntry.number, secondEntry.ownNumber) = (2, 1) ∧
      (fillsOf 2 ((secondEntry.whole numberPricing).execute numberPricing event).2.1).map
        (fun fill => (fill.quantity, fill.price)) = [(10, 2)] ∧
      ((secondEntry.lone numberPricing).execute numberPricing event).2.1.map
        (fun fill => (fill.quantity, fill.price)) = [(10, 1)] ∧
      ((({} : Engine Rat).run .reference (secondEntry.actions ++ [cancel])).state? 2).map
        (fun state => state.status) = some .cancelled ∧
      ((({} : Engine Rat).run .reference (secondEntry.alone ++ [cancel])).state? 1).map
        (fun state => state.status) = some .accepted := by
  intro event cancel
  have distinct : OrdersDistinct secondEntry.actions :=
    .cons (fun _ _ => Or.inr nofun) (List.pairwise_singleton _ _)
  exact ⟨distinct, rfl, by decide, by decide +kernel, by decide +kernel, by decide +kernel,
    by decide +kernel⟩

end Engine
end Brokerage
