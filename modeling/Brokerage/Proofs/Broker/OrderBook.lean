import Brokerage.Proofs.Broker.BatchNumbers
import Brokerage.Proofs.Broker.Settlement

namespace Brokerage

/-!
What the books record of the orders, and how the working set agrees with it.

An order stands twice: at work, and in the books.  The two are brought into
line at the end of every placing, just before the closed orders leave the
working set.  From there on the books alone know of a closed order, and they
keep its state, its place and all trades until the next fresh start.
-/

variable {α : Type} [Quantity α]

namespace Broker

/-- The last event that a broker was shown is not later than an instant. -/
def NotAfter (broker : Broker α) (time : Instant) : Prop :=
  forall last, broker.ledger.lastUpdate = some last -> last ≤ time

/-- An event that is older than the last one is refused with whatever comes along with it. -/
theorem refusal?_of_late {broker : Broker α} {event : Event α} {last : Instant}
    (known : broker.ledger.lastUpdate = some last) (late : event.time < last)
    (batch : List (Order α)) :
    broker.refusal? batch event = some (.eventOutOfOrder event.time last) := by
  unfold refusal? eventRefusal?
  rw [known]
  simp only [if_pos late]
  rfl

theorem notAfter_of_taken {broker : Broker α} {batch : List (Order α)} {event : Event α}
    (taken : broker.refusal? batch event = none) : broker.NotAfter event.time := by
  intro last known
  by_contra younger
  have late : event.time < last := by
    by_contra later
    exact younger (Instant.not_lt.mp later)
  cases taken.symm.trans (refusal?_of_late known late batch)

/-- Without a clock an event only has to come after the last one. -/
theorem eventRefusal?_of_notAfter {broker : Broker α} {event : Event α}
    (unclocked : broker.house.clock = none) (timely : broker.NotAfter event.time) :
    broker.eventRefusal? event = none := by
  unfold eventRefusal?
  rw [unclocked]
  cases known : broker.ledger.lastUpdate with
  | none => rfl
  | some last =>
      have inOrder : ¬ event.time < last := Instant.not_lt.mpr (timely last known)
      simp only [if_neg inOrder]
      rfl

/-- The books of a broker that has registered so many instructions, and its working set. -/
structure Recorded (broker : Broker α) (count : Nat) : Prop where
  next : broker.engine.nextId = count + 1
  numbers : broker.ledger.orders.keys = (numbersFrom 1 count).map some
  labelled : forall entry, entry ∈ broker.ledger.orders.entries -> entry.2.number? = entry.1
  cancels : broker.engine.cancels = Table.empty
  atWork : (broker.engine.executors.entries.map fun entry => (some entry.1, entry.2.state)) =
    broker.ledger.orders.entries.filter fun entry => entry.2.toLifecycle.isOpen
  running : forall time, broker.NotAfter time -> broker.engine.Running time
  dated : forall entry, entry ∈ broker.ledger.orders.entries -> Exists fun last =>
    broker.ledger.lastUpdate = some last ∧ entry.2.toLifecycle.Begun last
  traded : forall trade, trade ∈ broker.ledger.trades -> Exists fun last =>
    broker.ledger.lastUpdate = some last ∧ trade.time ≤ last
  timely : (broker.ledger.trades.map Trade.time).Pairwise (· ≤ ·)

namespace Recorded

variable {broker : Broker α} {count : Nat}

/-! ## The orders at work -/

theorem mem_orders_of_working (recorded : broker.Recorded count) {number : OrderId}
    {executor : Executor α} (listed : (number, executor) ∈ broker.engine.executors.entries) :
    (some number, executor.state) ∈ broker.ledger.orders.entries ∧ executor.isOpen = true := by
  have member : (some number, executor.state) ∈
      broker.ledger.orders.entries.filter fun entry => entry.2.toLifecycle.isOpen := by
    rw [← recorded.atWork]
    exact List.mem_map.mpr ⟨(number, executor), listed, rfl⟩
  exact List.mem_filter.mp member

theorem working_of_mem_orders (recorded : broker.Recorded count)
    {entry : Option OrderId × OrderState α} (listed : entry ∈ broker.ledger.orders.entries)
    (live : entry.2.toLifecycle.isOpen = true) :
    Exists fun number => number ∈ broker.engine.executors.keys ∧ entry.1 = some number := by
  have member : entry ∈
      broker.ledger.orders.entries.filter fun entry => entry.2.toLifecycle.isOpen :=
    List.mem_filter.mpr ⟨listed, live⟩
  rw [← recorded.atWork] at member
  rcases List.mem_map.mp member with ⟨found, working, same⟩
  exact ⟨found.1, Table.mem_keys_of_mem_entries working, (congrArg Prod.fst same).symm⟩

theorem mem_numbers_of_working (recorded : broker.Recorded count) {number : OrderId}
    (working : number ∈ broker.engine.executors.keys) : number ∈ numbersFrom 1 count := by
  rcases List.mem_map.mp working with ⟨entry, listed, same⟩
  have key := Table.mem_keys_of_mem_entries (recorded.mem_orders_of_working listed).1
  rw [recorded.numbers] at key
  rcases List.mem_map.mp key with ⟨found, member, equal⟩
  cases equal
  exact same ▸ member

/-! ## A settlement -/

section Settling

variable {orders : List (Order α × Option (Rejection α))} {event : Event α}
  {numbers : List OrderId}

theorem enlisted_running (recorded : broker.Recorded count)
    (taken : broker.refusal? (orders.map Prod.fst) event = none)
    (listed : (registerAll broker.engine event.time orders).result = .ok numbers) :
    (broker.enlisted orders event.time).Running event.time :=
  (registerAll_enlisted listed).running (recorded.running event.time (notAfter_of_taken taken))
    (expects_of_taken taken)

theorem matched_running (recorded : broker.Recorded count)
    (taken : broker.refusal? (orders.map Prod.fst) event = none)
    (listed : (registerAll broker.engine event.time orders).result = .ok numbers) :
    (broker.matched orders event).Running event.time :=
  (recorded.enlisted_running taken listed).execute broker.house.pricing event.time.le_refl

/-- The old orders at work, and behind them the new instructions. -/
def involved (broker : Broker α) (count more : Nat) : List OrderId :=
  broker.engine.executors.keys ++ numbersFrom (count + 1) more

theorem involved_ascending (recorded : broker.Recorded count)
    (taken : broker.refusal? (orders.map Prod.fst) event = none) (more : Nat) :
    (involved broker count more).Pairwise (· < ·) := by
  have running := recorded.running event.time (notAfter_of_taken taken)
  refine List.pairwise_append.mpr ⟨running.ascending, pairwise_numbersFrom _ _, ?_⟩
  intro old working fresh new
  exact lt_of_mem_numbersFrom (recorded.mem_numbers_of_working working) new

theorem matched_keys (recorded : broker.Recorded count)
    (taken : broker.refusal? (orders.map Prod.fst) event = none)
    (listed : (registerAll broker.engine event.time orders).result = .ok numbers) :
    ((broker.matched orders event).executors.keys ++
        (broker.matched orders event).cancels.keys).Perm (involved broker count orders.length) := by
  have running := recorded.running event.time (notAfter_of_taken taken)
  have enlisted := registerAll_enlisted listed
  have perm := enlisted.keys_perm running (expects_of_taken taken)
  rw [recorded.cancels, Table.keys_empty, List.append_nil, enlisted.numbers_eq, recorded.next]
    at perm
  unfold matched
  rw [Engine.keys_executors_execute, Engine.cancels_execute]
  exact perm

theorem states_numbers (recorded : broker.Recorded count)
    (taken : broker.refusal? (orders.map Prod.fst) event = none)
    (listed : (registerAll broker.engine event.time orders).result = .ok numbers) :
    (broker.matched orders event).states.map OrderState.number? =
      (involved broker count orders.length).map some :=
  (recorded.matched_running taken listed).states_numbers (recorded.matched_keys taken listed)
    (recorded.involved_ascending taken _)

/-- The books put every state in its old place or behind all others. -/
theorem orders_settled :
    (broker.settled orders event).ledger.orders =
      broker.ledger.orders.putEach OrderState.number? (broker.matched orders event).states :=
  settled_orders broker orders event

theorem states_distinct (recorded : broker.Recorded count)
    (taken : broker.refusal? (orders.map Prod.fst) event = none)
    (listed : (registerAll broker.engine event.time orders).result = .ok numbers) :
    ((broker.matched orders event).states.map OrderState.number?).Nodup := by
  rw [recorded.states_numbers taken listed]
  exact List.Nodup.map (Option.some_injective _)
    ((recorded.involved_ascending taken _).imp Int.ne_of_lt)

/-- The books say of an order what the working set says of it, or else what they said before. -/
theorem order?_settled (recorded : broker.Recorded count)
    (taken : broker.refusal? (orders.map Prod.fst) event = none)
    (listed : (registerAll broker.engine event.time orders).result = .ok numbers)
    (number : OrderId) :
    (broker.settled orders event).ledger.orders.get? (some number) =
      ((broker.matched orders event).state? number).or
        (broker.ledger.orders.get? (some number)) := by
  have running := recorded.matched_running taken listed
  have distinct := recorded.states_distinct taken listed
  rw [orders_settled]
  cases known : (broker.matched orders event).state? number with
  | some state =>
      have among := running.mem_states_of_state? known
      exact Table.get?_eq_some_iff.mpr ((Table.mem_entries_putEach distinct).mpr (Or.inl among))
  | none =>
      have absent : some number ∉ (broker.matched orders event).states.map OrderState.number? := by
        rw [recorded.states_numbers taken listed]
        intro member
        rcases List.mem_map.mp member with ⟨same, involved, equal⟩
        cases equal
        exact Engine.state?_eq_none_iff.mp known
          ((recorded.matched_keys taken listed).mem_iff.mpr involved)
      apply Option.ext
      intro state
      rw [Table.get?_eq_some_iff, Table.mem_entries_putEach distinct, Option.none_or,
        Table.get?_eq_some_iff]
      constructor
      · rintro (⟨member, shown⟩ | ⟨-, old⟩)
        · exact absurd (List.mem_map.mpr ⟨state, member, shown⟩) absent
        · exact old
      · exact fun old => Or.inr ⟨absent, old⟩

/-- A settled broker lists the states of all orders so far, one after the other. -/
theorem settled_numbers (recorded : broker.Recorded count)
    (taken : broker.refusal? (orders.map Prod.fst) event = none)
    (listed : (registerAll broker.engine event.time orders).result = .ok numbers) :
    (broker.settled orders event).ledger.orders.keys =
      (numbersFrom 1 (count + orders.length)).map some := by
  have shown := recorded.states_numbers taken listed
  have distinct := recorded.states_distinct taken listed
  unfold involved at shown
  rw [List.map_append] at shown
  rcases List.map_eq_append_iff.mp shown with ⟨old, fresh, states, before, after⟩
  rw [orders_settled, states, Table.putEach_append]
  have same : (broker.ledger.orders.putEach OrderState.number? old).keys =
      broker.ledger.orders.keys := by
    apply Table.keys_putEach_of_listed
    intro state member
    have key : state.number? ∈ broker.engine.executors.keys.map some :=
      before ▸ List.mem_map_of_mem member
    rcases List.mem_map.mp key with ⟨number, working, equal⟩
    rw [recorded.numbers, ← equal]
    exact List.mem_map_of_mem (recorded.mem_numbers_of_working working)
  rw [Table.keys_putEach_of_absent, same, after, recorded.numbers, ← List.map_append,
    numbersFrom_add, Int.add_comm]
  · rw [states, List.map_append] at distinct
    exact (List.nodup_append.mp distinct).2.1
  · intro state member key
    rw [same, recorded.numbers] at key
    have new : state.number? ∈ (numbersFrom (count + 1) orders.length).map some :=
      after ▸ List.mem_map_of_mem member
    rcases List.mem_map.mp key with ⟨number, old, equal⟩
    rcases List.mem_map.mp new with ⟨other, later, again⟩
    cases equal.trans again.symm
    exact Int.lt_irrefl _ (lt_of_mem_numbersFrom old later)

/-- A closed state is never recorded again. -/
theorem closed_settled (recorded : broker.Recorded count)
    (taken : broker.refusal? (orders.map Prod.fst) event = none)
    (listed : (registerAll broker.engine event.time orders).result = .ok numbers)
    {entry : Option OrderId × OrderState α} (member : entry ∈ broker.ledger.orders.entries)
    (finished : entry.2.toLifecycle.isOpen = false) :
    entry ∈ (broker.settled orders event).ledger.orders.entries := by
  rw [orders_settled]
  refine (Table.mem_entries_putEach (recorded.states_distinct taken listed)).mpr
    (Or.inr ⟨?_, member⟩)
  rw [recorded.states_numbers taken listed]
  intro involved
  rcases List.mem_map.mp involved with ⟨number, among, same⟩
  rcases List.mem_append.mp among with working | new
  · rcases List.mem_map.mp working with ⟨found, at_work, key⟩
    have booked := recorded.mem_orders_of_working at_work
    have one := Table.get?_eq_some_iff.mpr booked.1
    have other := Table.get?_eq_some_iff.mpr member
    rw [← same, ← key, one] at other
    rw [← Option.some.inj other] at finished
    exact Bool.false_ne_true (finished.symm.trans booked.2)
  · have key := Table.mem_keys_of_mem_entries member
    rw [recorded.numbers, ← same] at key
    rcases List.mem_map.mp key with ⟨old, below, equal⟩
    cases equal
    exact Int.lt_irrefl _ (lt_of_mem_numbersFrom below new)

/-- What is recorded as open after a settlement is exactly what stays at work. -/
theorem open_settled (recorded : broker.Recorded count)
    (taken : broker.refusal? (orders.map Prod.fst) event = none)
    (listed : (registerAll broker.engine event.time orders).result = .ok numbers)
    (entry : Option OrderId × OrderState α) :
    (entry ∈ (broker.settled orders event).ledger.orders.entries ∧
        entry.2.toLifecycle.isOpen = true) <->
      Exists fun found => found ∈ (broker.settled orders event).engine.executors.entries ∧
        (some found.1, found.2.state) = entry := by
  have running := recorded.matched_running taken listed
  have distinct := recorded.states_distinct taken listed
  rw [orders_settled, Table.mem_entries_putEach distinct]
  constructor
  · rintro ⟨⟨member, shown⟩ | ⟨absent, old⟩, live⟩
    · rcases Engine.mem_states.mp member with ⟨executor, working, same⟩ | cancelled
      · rcases Table.mem_values_iff.mp working with ⟨number, at_work⟩
        refine ⟨(number, executor), List.mem_filter.mpr ⟨at_work, ?_⟩, ?_⟩
        · rw [← same] at live
          exact live
        · rw [← running.number?_executor at_work, same, shown]
      · rcases Table.mem_values_iff.mp cancelled with ⟨number, told⟩
        exact absurd (live.symm.trans (running.finished _ told).2) (by simp)
    · rcases recorded.working_of_mem_orders old live with ⟨number, working, same⟩
      rw [recorded.states_numbers taken listed, same] at absent
      exact absurd (List.mem_map_of_mem (List.mem_append_left _ working)) absent
  · rintro ⟨found, at_work, rfl⟩
    rcases List.mem_filter.mp at_work with ⟨member, live⟩
    refine ⟨Or.inl ⟨?_, running.number?_executor member⟩, live⟩
    exact Engine.mem_states.mpr (Or.inl ⟨found.2, Table.mem_values_iff.mpr ⟨_, member⟩, rfl⟩)

theorem atWork_settled (recorded : broker.Recorded count)
    (taken : broker.refusal? (orders.map Prod.fst) event = none)
    (listed : (registerAll broker.engine event.time orders).result = .ok numbers) :
    ((broker.settled orders event).engine.executors.entries.map
        fun entry => (some entry.1, entry.2.state)) =
      (broker.settled orders event).ledger.orders.entries.filter
        fun entry => entry.2.toLifecycle.isOpen := by
  refine eq_of_ascending (fun entry => entry.1.getD 0) ?_ ?_ ?_
  · have ascending := (recorded.matched_running taken listed).removeClosed.ascending
    exact List.pairwise_map.mpr (List.pairwise_map.mp ascending)
  · have ascending : (broker.settled orders event).ledger.orders.keys.Pairwise
        fun one other => one.getD 0 < other.getD 0 := by
      rw [recorded.settled_numbers taken listed]
      exact List.pairwise_map.mpr (pairwise_numbersFrom 1 _)
    exact (List.pairwise_map.mp ascending).filter _
  · intro entry
    rw [List.mem_filter, recorded.open_settled taken listed entry, List.mem_map]

/-- The states that a settlement records have begun, and so have the ones that it leaves. -/
theorem dated_settled (recorded : broker.Recorded count)
    (taken : broker.refusal? (orders.map Prod.fst) event = none)
    (listed : (registerAll broker.engine event.time orders).result = .ok numbers)
    {entry : Option OrderId × OrderState α}
    (member : entry ∈ (broker.settled orders event).ledger.orders.entries) :
    entry.2.number? = entry.1 ∧ entry.2.toLifecycle.Begun event.time := by
  have running := recorded.matched_running taken listed
  rw [orders_settled] at member
  rcases (Table.mem_entries_putEach (recorded.states_distinct taken listed)).mp member with
    ⟨state, shown⟩ | ⟨_, old⟩
  · refine ⟨shown, ?_⟩
    rcases Engine.mem_states.mp state with ⟨executor, working, same⟩ | cancelled
    · rcases Table.mem_values_iff.mp working with ⟨number, at_work⟩
      rw [← same]
      exact running.begun _ at_work
    · rcases Table.mem_values_iff.mp cancelled with ⟨number, told⟩
      exact (running.finished _ told).1
  · rcases recorded.dated entry old with ⟨last, known, begun⟩
    exact ⟨recorded.labelled entry old, begun.mono (notAfter_of_taken taken last known)⟩

theorem settled (recorded : broker.Recorded count)
    (taken : broker.refusal? (orders.map Prod.fst) event = none)
    (listed : (registerAll broker.engine event.time orders).result = .ok numbers) :
    (broker.settled orders event).Recorded (count + orders.length) := by
  have known := broker.settled_lastUpdate orders event
  rcases broker.ledger.bookAll_trades broker.house.feeModel event.time
    (broker.fills orders event) with ⟨trades, booked, timed⟩
  have all : (broker.settled orders event).ledger.trades = broker.ledger.trades ++ trades :=
    (broker.settled_trades orders event).trans booked
  have before : forall trade, trade ∈ broker.ledger.trades -> trade.time ≤ event.time := by
    intro trade old
    rcases recorded.traded trade old with ⟨last, told, earlier⟩
    exact Instant.le_trans earlier (notAfter_of_taken taken last told)
  constructor
  · have given := (registerAll_enlisted listed).nextId_eq
    rw [recorded.next] at given
    rw [Int.add_right_comm, ← Int.natCast_add] at given
    exact given
  · exact recorded.settled_numbers taken listed
  · exact fun entry member => (recorded.dated_settled taken listed member).1
  · rfl
  · exact recorded.atWork_settled taken listed
  · intro time passes
    exact (recorded.matched_running taken listed).removeClosed.mono (passes event.time known)
  · exact fun entry member => ⟨event.time, known, (recorded.dated_settled taken listed member).2⟩
  · intro trade member
    refine ⟨event.time, known, ?_⟩
    rw [all] at member
    rcases List.mem_append.mp member with old | new
    · exact before trade old
    · exact (timed trade new) ▸ trade.time.le_refl
  · rw [all, List.map_append]
    refine List.pairwise_append.mpr ⟨recorded.timely, ?_, ?_⟩
    · refine List.pairwise_map.mpr
        (List.pairwise_of_forall_mem_list fun one first other second => ?_)
      rw [timed one first, timed other second]
      exact event.time.le_refl
    · intro one first other second
      rcases List.mem_map.mp first with ⟨old, earlier, same⟩
      rcases List.mem_map.mp second with ⟨new, later, again⟩
      rw [← same, ← again, timed new later]
      exact before old earlier

end Settling

theorem withBuyingPower (recorded : broker.Recorded count) (amount : Amount α) :
    (broker.withBuyingPower amount).Recorded count :=
  { recorded with running := recorded.running }

end Recorded

/-- A fresh start has registered nothing. -/
theorem recorded_emptied (broker : Broker α) : broker.emptied.Recorded 0 := by
  have ledger := broker.emptied_ledger
  constructor
  · rfl
  · rw [ledger]
    rfl
  · rw [ledger]
    exact fun _ listed => nomatch listed
  · rfl
  · rw [ledger]
    rfl
  · intro time _
    constructor
    · exact broker.engine.ordered_clear
    · exact fun _ listed => nomatch listed
    · exact fun _ listed => nomatch listed
    · exact fun _ listed => nomatch listed
    · exact fun _ listed => nomatch listed
  · rw [ledger]
    exact fun _ listed => nomatch listed
  · rw [ledger]
    exact fun _ listed => nomatch listed
  · rw [ledger]
    exact List.Pairwise.nil

/-- Every reachable broker has registered some number of instructions. -/
theorem Reachable.recorded {house : House α} {broker : Broker α}
    (reached : Reachable house broker) : Exists fun count => broker.Recorded count := by
  refine reached.induction_of_settled
    (motive := fun broker => Exists fun count => broker.Recorded count)
    ⟨0, recorded_emptied _⟩ (fun broker _ _ => ⟨0, broker.recorded_emptied⟩) ?_ ?_
  · rintro broker amount ⟨count, recorded⟩
    exact ⟨count, recorded.withBuyingPower amount⟩
  · rintro broker event orders numbers - ⟨count, recorded⟩ taken listed
    exact ⟨_, recorded.settled taken listed⟩

/-! ## Counting the instructions -/

/-- The brokers that are reachable, with the number of instructions since the last fresh start. -/
inductive Counted (house : House α) : Nat -> Broker α -> Prop where
  | opened {broker : Broker α} {notices : List (Notice α)}
      (start : open? house = .ok (broker, notices)) : Counted house 0 broker
  | reset {count : Nat} {broker : Broker α} (counted : Counted house count broker) :
      Counted house 0 (broker.after .reset)
  | after {count : Nat} {broker : Broker α} (counted : Counted house count broker)
      (command : Command α) (going : command ≠ .reset) :
      Counted house (count + broker.intake command) (broker.after command)

theorem Counted.reachable {house : House α} {count : Nat} {broker : Broker α}
    (counted : Counted house count broker) : Reachable house broker := by
  induction counted with
  | opened start => exact .opened start
  | reset _ ih => exact ih.after .reset
  | after _ command _ ih => exact ih.after command

theorem Reachable.counted {house : House α} {broker : Broker α}
    (reached : Reachable house broker) : Exists fun count => Counted house count broker := by
  induction reached with
  | opened start => exact ⟨0, .opened start⟩
  | after _ command ih =>
      rcases ih with ⟨count, counted⟩
      by_cases again : command = .reset
      · exact ⟨0, again ▸ counted.reset⟩
      · exact ⟨_, counted.after command again⟩

theorem Counted.recorded {house : House α} {count : Nat} {broker : Broker α}
    (counted : Counted house count broker) (base : house.rates.supports house.base = true) :
    broker.Recorded count := by
  have restarted : forall broker : Broker α, broker.reset.state.Recorded 0 := by
    intro broker
    rcases broker.reset_state with same | ⟨amount, same⟩
    · exact same ▸ broker.recorded_emptied
    · exact same ▸ broker.recorded_emptied.withBuyingPower amount
  induction counted with
  | opened start => exact opened_state start ▸ restarted _
  | reset _ _ => exact restarted _
  | @after count broker counted command going ih =>
      have advanced := counted.reachable.advanced base going
      generalize broker.after command = later at advanced
      generalize broker.intake command = more at advanced
      cases advanced with
      | idle => exact ih
      | settled taken listed => exact ih.settled taken listed
      | powered taken listed amount => exact (ih.settled taken listed).withBuyingPower amount

/-! ## What later states keep -/

/-- A later state of a broker has all closed states, all orders and all trades of an earlier one. -/
structure Extends (broker later : Broker α) : Prop where
  closed : forall entry, entry ∈ broker.ledger.orders.entries ->
    entry.2.toLifecycle.isClosed = true -> entry ∈ later.ledger.orders.entries
  numbers : broker.ledger.orders.keys <+: later.ledger.orders.keys
  trades : broker.ledger.trades <+: later.ledger.trades

namespace Extends

variable {broker later last : Broker α}

theorem refl (broker : Broker α) : broker.Extends broker :=
  ⟨fun _ listed _ => listed, List.prefix_rfl, List.prefix_rfl⟩

theorem trans (first : broker.Extends later) (second : later.Extends last) :
    broker.Extends last where
  closed entry listed finished := second.closed entry (first.closed entry listed finished) finished
  numbers := first.numbers.trans second.numbers
  trades := first.trades.trans second.trades

end Extends

theorem Recorded.extends_settled {broker : Broker α} {count : Nat}
    (recorded : broker.Recorded count) {orders : List (Order α × Option (Rejection α))}
    {event : Event α} {numbers : List OrderId}
    (taken : broker.refusal? (orders.map Prod.fst) event = none)
    (listed : (registerAll broker.engine event.time orders).result = .ok numbers) :
    broker.Extends (broker.settled orders event) := by
  constructor
  · intro entry member finished
    exact recorded.closed_settled taken listed member (Lifecycle.isOpen_of_ends finished)
  · rw [recorded.settled_numbers taken listed, recorded.numbers, numbersFrom_add, List.map_append]
    exact List.prefix_append _ _
  · rcases broker.ledger.bookAll_trades broker.house.feeModel event.time
      (broker.fills orders event) with ⟨trades, booked, -⟩
    rw [settled_trades]
    exact ⟨trades, booked.symm⟩

/-- Until the next fresh start nothing that is over changes any more, and nothing is lost. -/
theorem Reachable.extends_run {house : House α} {broker : Broker α}
    (reached : Reachable house broker) {commands : List (Command α)}
    (going : forall command, command ∈ commands -> command ≠ .reset) :
    broker.Extends (broker.run commands) := by
  induction commands generalizing broker with
  | nil => exact Extends.refl broker
  | cons command rest ih =>
      rcases List.forall_mem_cons.mp going with ⟨head, tail⟩
      refine Extends.trans ?_ (ih (reached.after command) tail)
      rcases reached.recorded with ⟨count, recorded⟩
      have stepped := broker.stepped_after head
      generalize broker.after command = later at stepped
      cases stepped with
      | idle => exact Extends.refl broker
      | settled taken listed => exact recorded.extends_settled taken listed
      | powered taken listed amount =>
          have settled := recorded.extends_settled taken listed
          exact ⟨settled.closed, settled.numbers, settled.trades⟩

/-! ## The order book -/

/-- A broker knows exactly the numbers that it has given. -/
theorem Recorded.knows_iff {broker : Broker α} {count : Nat} (recorded : broker.Recorded count)
    (target : OrderId) :
    broker.knows target = true <-> (1 : Int) ≤ target ∧ target ≤ (count : Int) := by
  have listed : target ∈ numbersFrom 1 count <-> (1 : Int) ≤ target ∧ target ≤ (count : Int) := by
    rw [mem_numbersFrom, Int.add_comm, Int.lt_add_one_iff]
  unfold knows Engine.state?
  rw [Bool.or_eq_true, Table.contains_iff, recorded.numbers, recorded.cancels, ← listed]
  constructor
  · rintro (present | recorded)
    · cases found : broker.engine.executors.get? target with
      | none =>
          rw [found] at present
          cases present
      | some executor => exact recorded.mem_numbers_of_working (Table.mem_keys_of_get? found)
    · rcases List.mem_map.mp recorded with ⟨number, member, same⟩
      cases same
      exact member
  · exact fun member => Or.inr (List.mem_map_of_mem member)

/-- A fresh cancel is refused exactly when its target is not among the numbers given so far. -/
theorem Recorded.instructionRefusal?_cancel {broker : Broker α} {count : Nat}
    (recorded : broker.Recorded count) {seen : List Ticket} {slip : Slip} {target : OrderId}
    (unplaced : broker.placedNumber? (.cancel slip target) = none)
    (unseen : forall ticket, slip.ticket = some ticket -> ticket ∉ seen) :
    broker.instructionRefusal? seen (.cancel slip target) =
      if (1 : Int) ≤ target ∧ target ≤ (count : Int) then none
      else some (.unknownOrder target) := by
  have known := recorded.knows_iff target
  have once : repeats seen (.cancel slip target : Order α) = false :=
    repeats_eq_false_iff.mpr unseen
  rw [instructionRefusal?_of_isOrder rfl, unplaced, once]
  cases answer : broker.knows target with
  | true => simp [legRefusal?, Order.legs, targetRefusal?, answer, known.mp answer]
  | false =>
      have outside : ¬ ((1 : Int) ≤ target ∧ target ≤ (count : Int)) :=
        fun inside => Bool.false_ne_true (answer.symm.trans (known.mpr inside))
      simp [legRefusal?, Order.legs, targetRefusal?, answer, outside]

/--
The order book of a broker that has registered so many instructions since its
last fresh start, and the working set that goes with it.
-/
structure OrderBook (broker : Broker α) (count : Nat) : Prop where
  /-- The orders are recorded under the numbers from one on, in ascending order. -/
  numbers : broker.ledger.orders.keys = (numbersFrom 1 count).map some
  labelled : forall entry, entry ∈ broker.ledger.orders.entries -> entry.2.number? = entry.1
  next : broker.engine.nextId = count + 1
  cancels : broker.engine.cancels = Table.empty
  /-- What is at work is what the books have as open, under the same numbers and states. -/
  atWork : (broker.engine.executors.entries.map fun entry => (some entry.1, entry.2.state)) =
    broker.ledger.orders.entries.filter fun entry => entry.2.toLifecycle.isOpen
  accepted : forall entry, entry ∈ broker.engine.executors.entries ->
    entry.2.state.status = .accepted
  closed : forall entry, entry ∈ broker.ledger.orders.entries ->
    entry.2.toLifecycle.isClosed = true -> Exists fun opened => Exists fun closed =>
      Exists fun last => entry.2.openedAt = some opened ∧ entry.2.closedAt = some closed ∧
        broker.ledger.lastUpdate = some last ∧ opened ≤ closed ∧ closed ≤ last
  timely : (broker.ledger.trades.map Trade.time).Pairwise (· ≤ ·)

theorem Recorded.orderBook {broker : Broker α} {count : Nat} (recorded : broker.Recorded count) :
    broker.OrderBook count := by
  refine { recorded with accepted := ?_, closed := ?_ }
  · intro entry working
    rcases recorded.mem_orders_of_working working with ⟨listed, live⟩
    rcases recorded.dated _ listed with ⟨last, -, begun⟩
    exact begun.status_of_isOpen live
  · intro entry listed finished
    rcases recorded.dated entry listed with ⟨last, known, begun⟩
    generalize entry.2.toLifecycle = life at begun finished ⊢
    cases begun with
    | accepted _ => cases finished
    | finished _ ordered before => exact ⟨_, _, last, rfl, rfl, known, ordered, before⟩

/--
Every reachable broker has registered some number of instructions since its
last fresh start, and books and working set agree on them: the books record
them under the numbers given, and what they have as open is at work.  What is
over stays as it is until the next fresh start, and a fresh cancel may name
exactly the numbers given.
-/
theorem orderBook_of_reachable {house : House α} {broker : Broker α}
    (reached : Reachable house broker) (base : house.rates.supports house.base = true) :
    (Exists fun count => Counted house count broker) ∧
      forall count, Counted house count broker ->
        broker.OrderBook count ∧
          (forall commands : List (Command α),
            (forall command, command ∈ commands -> command ≠ .reset) ->
              broker.Extends (broker.run commands)) ∧
          forall (seen : List Ticket) (slip : Slip) (target : OrderId),
            broker.placedNumber? (.cancel slip target) = none ->
            (forall ticket, slip.ticket = some ticket -> ticket ∉ seen) ->
              broker.instructionRefusal? seen (.cancel slip target) =
                if (1 : Int) ≤ target ∧ target ≤ (count : Int) then none
                else some (.unknownOrder target) := by
  refine ⟨reached.counted, fun count counted => ?_⟩
  have recorded := counted.recorded base
  refine ⟨recorded.orderBook, fun commands going => reached.extends_run going, ?_⟩
  intro seen slip target unplaced unseen
  exact recorded.instructionRefusal?_cancel unplaced unseen

/-- A limit order that waits and a market order that fills, and then a cancel of the first. -/
def patientCommands : List (Command Rat) :=
  let asset : Asset := { symbol := "QQQ" }
  let event (time : Int) : Event Rat :=
    { time := ⟨time⟩, prices := Table.empty.put asset (.trade asset 100 none) }
  let orders : List (Order Rat) :=
    [.single {} { asset, size := 10, kind := .limit 90 },
      .single {} { asset, size := 5, kind := .market }]
  [.place orders (event 0), .place [.cancel {} 1] (event 1)]

/-- The broker that the patient commands lead to. -/
def patientBroker : Broker Rat :=
  (idle {}).reset.state.run patientCommands

theorem patientBroker_orderBook :
    Counted {} 3 patientBroker ∧ patientBroker.OrderBook 3 ∧
      patientBroker.instructionRefusal? [] (.cancel {} 3) = none ∧
      patientBroker.instructionRefusal? [] (.cancel {} 4) = some (.unknownOrder 4) := by
  have opened : Counted ({} : House Rat) 0 (idle {}).reset.state :=
    .opened (show open? {} = .ok (_, _) from rfl)
  have counted : Counted {} 3 patientBroker := by
    have both := (opened.after patientCommands[0] (by simp [patientCommands])).after
      patientCommands[1] (by simp [patientCommands])
    have three : 0 + (idle {}).reset.state.intake patientCommands[0] +
        ((idle {}).reset.state.after patientCommands[0]).intake patientCommands[1] = 3 := by
      decide +kernel
    rw [three] at both
    exact both
  have base : ({} : House Rat).rates.supports ({} : House Rat).base = true := by decide
  rcases (orderBook_of_reachable counted.reachable base).2 3 counted with ⟨book, -, cancels⟩
  refine ⟨counted, book, ?_, ?_⟩
  · exact cancels [] {} 3 (by decide +kernel) (fun _ borne => nomatch borne)
  · exact cancels [] {} 4 (by decide +kernel) (fun _ borne => nomatch borne)

end Broker
end Brokerage
