import Brokerage.Proofs.Broker.Answer
import Brokerage.Proofs.Broker.BatchNumbers
import Mathlib.Data.List.Perm.Basic

namespace Brokerage

/-!
Handing in a slip again.

A slip is handed in as an instruction or as a leg of a bracket.  A number is
written on the ticket of an instruction only, and the checks of a batch look at
the tickets of the instructions only.  So no slip is placed twice as an
instruction, and a batch that tries it is refused.  A leg is never recognised:
its slip can be handed in again, as a leg or as an instruction, and a slip that
was placed already can be handed in as a leg.
-/

variable {α : Type}

namespace Order

/-- The tickets of the legs. -/
def legTickets (order : Order α) : List Ticket :=
  order.legs.filterMap ticket?

/-- The tickets of all slips that are handed in with an instruction: its own and those of its
legs. -/
def tickets (order : Order α) : List Ticket :=
  order.ticket?.toList ++ order.legTickets

/-- When no instruction is handed in twice, only the legs can repeat a slip. -/
theorem nodup_tickets_iff {orders : List (Order α)} (once : (orders.filterMap ticket?).Nodup) :
    (orders.flatMap tickets).Nodup <-> (orders.flatMap legTickets).Nodup ∧
      (orders.filterMap ticket?).Disjoint (orders.flatMap legTickets) := by
  have split := List.flatMap_append_perm orders (fun order => order.ticket?.toList) legTickets
  rw [← List.filterMap_eq_flatMap_toList] at split
  unfold tickets
  rw [← split.nodup_iff, List.nodup_append', and_iff_right once]

end Order

/-! ## The tickets that bear a number -/

namespace Engine

theorem mem_keys_numbers_numbering (engine : Engine α) (order : Order α) {ticket : Ticket} :
    ticket ∈ (engine.numbering order).numbers.keys <->
      ticket ∈ engine.numbers.keys ∨ order.ticket? = some ticket := by
  cases borne : order.ticket? with
  | none =>
      rw [engine.numbering_of_ticketless borne]
      simp only [reduceCtorEq, or_false]
  | some own =>
      rw [engine.numbers_numbering_of_ticket borne, Table.mem_keys_put, Option.some.injEq]
      exact or_congr_right eq_comm

end Engine

variable [Quantity α]

namespace Broker

/-- Registering a batch writes a number on the tickets of its instructions and on no others. -/
theorem Enlisted.mem_keys_numbers {engine last : Engine α} {time : Instant}
    {orders : List (Order α × Option (Rejection α))} {numbers : List OrderId}
    (enlisted : Enlisted time engine orders last numbers) (ticket : Ticket) :
    ticket ∈ last.numbers.keys <->
      ticket ∈ engine.numbers.keys ∨ ticket ∈ (orders.map Prod.fst).filterMap Order.ticket? := by
  induction enlisted with
  | nil => simp only [List.map_nil, List.filterMap_nil, List.not_mem_nil, or_false]
  | @cons engine next last order reason rest state numbers first _ ih =>
      rw [ih, first.numbers_eq, engine.mem_keys_numbers_numbering, or_assoc, List.map_cons,
        List.filterMap_cons]
      cases order.ticket? with
      | none => simp only [reduceCtorEq, false_or]
      | some own => simp only [Option.some.injEq, List.mem_cons, eq_comm]

section Commands

variable (broker : Broker α)

/-- The instructions that a command registers: those of the batch that it places, once the batch
has passed the checks and the buying power has decided on it. -/
def registers (command : Command α) : List (Order α) :=
  match broker.placing? command with
  | some (batch, event) =>
      match broker.refusal? batch event, broker.admission? batch event with
      | none, .ok _ => batch
      | _, _ => []
  | none => []

/-- The instructions that commands register one after the other, the first one first. -/
def registersAlong (broker : Broker α) : List (Command α) -> List (Order α)
  | [] => []
  | command :: rest => broker.registers command ++ (broker.after command).registersAlong rest

theorem registers_of_taken {command : Command α} {batch : List (Order α)} {event : Event α}
    {orders : List (Order α × Option (Rejection α))}
    (placing : broker.placing? command = some (batch, event))
    (taken : broker.refusal? batch event = none)
    (decided : broker.admission? batch event = .ok orders) :
    broker.registers command = batch := by
  simp only [registers, placing, taken, decided]

/-- A placing that succeeds registers its batch. -/
theorem registers_of_placed {batch : List (Order α)} {event : Event α} {numbers : List OrderId}
    (placed : (broker.place batch event).result = .ok numbers) :
    broker.registers (.place batch event) = batch := by
  rcases settled_of_placed placed with ⟨_, taken, decided, -⟩
  exact broker.registers_of_taken rfl taken decided

end Commands

variable {broker : Broker α}

/-- What a command registers passed the checks of its batch. -/
theorem expects_registers (broker : Broker α) (command : Command α) :
    broker.engine.Expects (broker.registers command) := by
  have nothing : broker.engine.Expects [] :=
    ⟨(fun _ listed => nomatch listed), List.nodup_nil, (fun _ listed => nomatch listed)⟩
  unfold registers
  split
  · split
    · rename_i taken _
      exact expects_of_taken taken
    · exact nothing
  · exact nothing

/-- A number is written on the ticket of every instruction that a command registers, and stays there
when numbering begins anew. -/
theorem mem_keys_numbers_after (broker : Broker α) (command : Command α) {ticket : Ticket} :
    ticket ∈ (broker.after command).engine.numbers.keys <->
      ticket ∈ broker.engine.numbers.keys ∨
        ticket ∈ (broker.registers command).filterMap Order.ticket? := by
  cases placing : broker.placing? command with
  | none =>
      have nothing : broker.registers command = [] := by
        simp only [registers, placing]
      have same : (broker.after command).engine.numbers = broker.engine.numbers := by
        by_cases again : command = .reset
        · subst again
          rcases broker.reset_repriced with ⟨amount, fresh⟩
          rw [after, fresh]
          rfl
        · rw [after_of_idle placing again]
      rw [nothing, same]
      simp only [List.filterMap_nil, List.not_mem_nil, or_false]
  | some placed =>
      rcases placed with ⟨batch, event⟩
      rw [after_of_placing placing]
      cases fault : broker.refusal? batch event with
      | some refusal =>
          simp only [registers, placing, fault, place, List.filterMap_nil, List.not_mem_nil,
            or_false]
      | none =>
          cases decided : broker.admission? batch event with
          | error error =>
              simp only [registers, placing, fault, decided, place, List.filterMap_nil,
                List.not_mem_nil, or_false]
          | ok orders =>
              rcases registerAll_of_decided fault decided with ⟨numbers, listed⟩
              rcases place_repriced fault decided with ⟨amount, settled⟩
              have written := (registerAll_enlisted listed).mem_keys_numbers ticket
              rw [orders_of_admission? decided] at written
              rw [broker.registers_of_taken placing fault decided, settled]
              exact written

/-! ## Slips along a run -/

theorem mem_keys_numbers_run (broker : Broker α) (commands : List (Command α))
    {ticket : Ticket} :
    ticket ∈ (broker.run commands).engine.numbers.keys <->
      ticket ∈ broker.engine.numbers.keys ∨
        ticket ∈ (broker.registersAlong commands).filterMap Order.ticket? := by
  induction commands generalizing broker with
  | nil => simp only [run, List.foldl_nil, registersAlong, List.filterMap_nil, List.not_mem_nil,
      or_false]
  | cons command rest ih =>
      have later : ticket ∈ (broker.run (command :: rest)).engine.numbers.keys <-> _ :=
        ih (broker.after command)
      rw [later, broker.mem_keys_numbers_after command, or_assoc, registersAlong,
        List.filterMap_append, List.mem_append]

/-- No slip is placed twice as an instruction, and none that bore a number before; what is placed
later bore none when the first command was done. -/
theorem nodup_registersAlong (broker : Broker α) (commands : List (Command α)) :
    ((broker.registersAlong commands).filterMap Order.ticket?).Nodup ∧
      forall ticket, ticket ∈ (broker.registersAlong commands).filterMap Order.ticket? ->
        ticket ∉ broker.engine.numbers.keys := by
  induction commands generalizing broker with
  | nil => exact ⟨List.nodup_nil, fun _ listed => nomatch listed⟩
  | cons command rest ih =>
      have expects := broker.expects_registers command
      rcases ih (broker.after command) with ⟨once, fresh⟩
      rw [registersAlong, List.filterMap_append]
      constructor
      · refine List.nodup_append'.mpr ⟨expects.once, once, fun ticket now later => ?_⟩
        exact fresh ticket later ((broker.mem_keys_numbers_after command).mpr (Or.inr now))
      · intro ticket listed
        rcases List.mem_append.mp listed with now | later
        · rcases List.mem_filterMap.mp now with ⟨order, among, borne⟩
          exact Table.get?_eq_none_iff.mp (expects.unseen order among ticket borne)
        · exact fun before => fresh ticket later
            ((broker.mem_keys_numbers_after command).mpr (Or.inl before))

/-! ## Which batches are refused for a slip that is placed again -/

/-- An instruction to which a broker can object only because it was placed before. -/
structure Acceptable (broker : Broker α) (order : Order α) : Prop where
  real : order.isOrder = true
  plain : order.HasSingleLegs
  aimed : forall slip target, order = .cancel slip target -> broker.knows target = true
  priced : forall currency, order.currency? = some currency ->
    broker.house.rates.supports currency = true

theorem Acceptable.takes_iff {order : Order α} (acceptable : broker.Acceptable order) :
    broker.Takes order <-> broker.placedNumber? order = none :=
  ⟨Takes.unplaced, fun unplaced =>
    ⟨acceptable.real, acceptable.plain, unplaced, acceptable.aimed, acceptable.priced⟩⟩

/-- An instruction was not placed before when it bears no number and its ticket has none. -/
theorem placedNumber?_eq_none_iff {order : Order α} :
    broker.placedNumber? order = none <-> order.number? = none ∧
      forall ticket, order.ticket? = some ticket -> ticket ∉ broker.engine.numbers.keys := by
  unfold placedNumber?
  cases borne : order.ticket? with
  | none => simp
  | some ticket =>
      rw [Option.bind_some]
      cases noted : broker.engine.numbers.get? ticket with
      | some number =>
          have listed := Table.mem_keys_of_get? noted
          simp [listed]
      | none =>
          have absent := Table.get?_eq_none_iff.mp noted
          simp [absent]

/-- A placing that is refused because a slip is placed again; nothing changes. -/
def RefusesAgain (broker : Broker α) (batch : List (Order α)) (event : Event α) : Prop :=
  Exists fun name => Exists fun number => broker.place batch event =
    { state := broker, notices := [], result := .error (.refused (.duplicateOrder name number)) }

theorem duplicate_of_instructionsRefusal? {seen : List Ticket} {batch : List (Order α)}
    {refusal : Refusal} (acceptable : forall order, order ∈ batch -> broker.Acceptable order)
    (fault : broker.instructionsRefusal? seen batch = some refusal) :
    Exists fun name => Exists fun number => refusal = .duplicateOrder name number := by
  induction batch generalizing seen with
  | nil => cases fault
  | cons order rest ih =>
      rcases List.forall_mem_cons.mp acceptable with ⟨head, tail⟩
      unfold instructionsRefusal? at fault
      rw [instructionRefusal?_of_isOrder head.real, legRefusal?_eq_none_iff.mpr head.plain,
        targetRefusal?_eq_none_iff.mpr ⟨head.aimed, head.priced⟩] at fault
      split at fault
      · rename_i first
        cases fault
        split at first
        · cases first
          exact ⟨_, _, rfl⟩
        · cases first
      · exact ih tail fault

theorem refusesAgain_iff {batch : List (Order α)} {event : Event α}
    (timely : broker.eventRefusal? event = none)
    (acceptable : forall order, order ∈ batch -> broker.Acceptable order) :
    broker.RefusesAgain batch event <-> broker.refusal? batch event ≠ none := by
  constructor
  · rintro ⟨name, number, refused⟩ taken
    have ended := broker.placed batch event
    rw [congrArg Step.result refused] at ended
    generalize (broker.place batch event).state = state at ended
    cases ended with
    | refused fault => cases taken.symm.trans fault
  · intro refused
    cases fault : broker.refusal? batch event with
    | none => exact absurd fault refused
    | some refusal =>
        have first : broker.instructionsRefusal? [] batch = some refusal := by
          unfold refusal? at fault
          rw [timely] at fault
          exact fault
        rcases duplicate_of_instructionsRefusal? acceptable first with ⟨name, number, rfl⟩
        exact ⟨name, number, by simp only [place, fault]⟩

theorem opened_numbers {house : House α} {notices : List (Notice α)}
    (opened : open? house = .ok (broker, notices)) : broker.engine.numbers.keys = [] := by
  rcases opened_repriced opened with ⟨amount, rfl⟩
  rfl

section Batches

variable {placed batch : List (Order α)}
  (numbered : forall ticket, ticket ∈ broker.engine.numbers.keys <->
    ticket ∈ placed.filterMap Order.ticket?)
include numbered

theorem takes_all_iff (acceptable : forall order, order ∈ batch -> broker.Acceptable order) :
    (forall order, order ∈ batch -> broker.Takes order) <->
      (forall order, order ∈ batch -> order.number? = none) ∧
        (placed.filterMap Order.ticket?).Disjoint (batch.filterMap Order.ticket?) := by
  rw [List.disjoint_comm]
  constructor
  · intro takes
    refine ⟨fun order listed => ?_, fun ticket listed => ?_⟩
    · exact (placedNumber?_eq_none_iff.mp (takes order listed).unplaced).1
    · rcases List.mem_filterMap.mp listed with ⟨order, among, borne⟩
      rw [← numbered]
      exact (placedNumber?_eq_none_iff.mp (takes order among).unplaced).2 ticket borne
  · rintro ⟨blank, apart⟩ order listed
    refine (acceptable order listed).takes_iff.mpr (placedNumber?_eq_none_iff.mpr
      ⟨blank order listed, fun ticket borne => ?_⟩)
    rw [numbered]
    exact apart (List.mem_filterMap.mpr ⟨order, listed, borne⟩)

theorem passes_iff {event : Event α} (once : (placed.filterMap Order.ticket?).Nodup)
    (timely : broker.eventRefusal? event = none)
    (acceptable : forall order, order ∈ batch -> broker.Acceptable order) :
    broker.refusal? batch event = none <->
      ((placed ++ batch).filterMap Order.ticket?).Nodup ∧
        forall order, order ∈ batch -> order.number? = none := by
  rw [refusal?_eq_none_iff, takes_all_iff numbered acceptable, List.filterMap_append,
    List.nodup_append']
  constructor
  · rintro ⟨-, ⟨blank, apart⟩, distinct⟩
    exact ⟨⟨once, distinct, apart⟩, blank⟩
  · rintro ⟨⟨-, distinct, apart⟩, blank⟩
    exact ⟨timely, ⟨blank, apart⟩, distinct⟩

end Batches

/-- In any run, no slip is placed twice as an instruction, and every slip takes part once exactly
when no leg is handed in again.  A batch with no other fault is refused for a slip that is placed
again exactly when one of its instructions is such a slip; its legs do not matter. -/
theorem slips_placed_once_iff {house : House α} {start : Broker α} {notices : List (Notice α)}
    (opened : open? house = .ok (start, notices)) (commands : List (Command α)) :
    let broker := start.run commands
    let placed := start.registersAlong commands
    (placed.filterMap Order.ticket?).Nodup ∧
      ((placed.flatMap Order.tickets).Nodup <->
        (placed.flatMap Order.legTickets).Nodup ∧
          (placed.filterMap Order.ticket?).Disjoint (placed.flatMap Order.legTickets)) ∧
      forall batch event, broker.eventRefusal? event = none ->
        (forall order, order ∈ batch -> broker.Acceptable order) ->
          (broker.refusal? batch event = none ∨ broker.RefusesAgain batch event) ∧
          (broker.RefusesAgain batch event <->
            ¬ ((placed ++ batch).filterMap Order.ticket?).Nodup ∨
              Exists fun order => order ∈ batch ∧ order.number? ≠ none) := by
  intro broker placed
  have once : (placed.filterMap Order.ticket?).Nodup := (start.nodup_registersAlong commands).1
  have numbered : forall ticket, ticket ∈ broker.engine.numbers.keys <->
      ticket ∈ placed.filterMap Order.ticket? := by
    intro ticket
    rw [start.mem_keys_numbers_run commands, opened_numbers opened]
    simp only [List.not_mem_nil, false_or, placed]
  refine ⟨once, Order.nodup_tickets_iff once, fun batch event timely acceptable => ?_⟩
  have refuses := refusesAgain_iff timely acceptable
  constructor
  · by_cases passes : broker.refusal? batch event = none
    · exact Or.inl passes
    · exact Or.inr (refuses.mpr passes)
  · rw [refuses, Ne, passes_iff numbered once timely acceptable, not_and_or, not_forall₂]
    simp only [exists_prop, ne_eq]

def reusedPurchase : Order Rat :=
  .single { ticket := some 7 } { asset := { symbol := "QQQ" }, size := 10, kind := .market }

/-- A bracket that is entered by the purchase. -/
def reusingBracket : Order Rat :=
  let asset : Asset := { symbol := "QQQ" }
  .bracket {} reusedPurchase (.single {} { asset, size := -10, kind := .limit 130 })
    (.single {} { asset, size := -10, kind := .stop 90 })

def firstPurchase : Command Rat :=
  .place [reusedPurchase] quietEvent

theorem registers_firstPurchase : freshBroker.registersAlong [firstPurchase] = [reusedPurchase] := by
  have placed : (freshBroker.place [reusedPurchase] quietEvent).result = .ok [1] :=
    ok_of_toOption (by decide +kernel)
  rw [registersAlong, registersAlong, firstPurchase, freshBroker.registers_of_placed placed,
    List.append_nil]

/-- Once placed, a purchase is refused when it is placed again. -/
theorem reusedPurchase_refused :
    freshBroker.registersAlong [firstPurchase] = [reusedPurchase] ∧
      (freshBroker.run [firstPurchase]).RefusesAgain [reusedPurchase] quietEvent := by
  have opened : open? {} = .ok (freshBroker, _) := rfl
  have batches := (slips_placed_once_iff opened [firstPurchase]).2.2
  rw [registers_firstPurchase] at batches
  refine ⟨registers_firstPurchase, (batches [reusedPurchase] quietEvent (by decide +kernel) ?_).2.mpr
    (Or.inl (by decide))⟩
  intro order listed
  cases List.mem_singleton.mp listed
  exact ⟨rfl, (fun _ leg => nomatch leg), (fun _ _ form => nomatch form), by
    rintro _ ⟨⟩
    decide +kernel⟩

/-- The same purchase is taken as the entry of a bracket and bought a second time. -/
theorem reusedPurchase_placed_twice :
    let second := (freshBroker.run [firstPurchase]).place [reusingBracket] quietEvent
    freshBroker.answer firstPurchase = .ok [1] ∧ second.result = .ok [2] ∧
      (freshBroker.registersAlong
        [firstPurchase, .place [reusingBracket] quietEvent]).flatMap Order.tickets = [7, 7] ∧
      ¬ (freshBroker.run [firstPurchase]).RefusesAgain [reusingBracket] quietEvent ∧
      second.state.ledger.trades.map Trade.size = [10, 10] := by
  intro second
  have first : freshBroker.answer firstPurchase = .ok [1] := ok_of_toOption (by decide +kernel)
  have taken : second.result = .ok [2] := ok_of_toOption (by decide +kernel)
  refine ⟨first, taken, ?_, ?_, by decide +kernel⟩
  · have later : (freshBroker.after firstPurchase).registers
        (.place [reusingBracket] quietEvent) = [reusingBracket] := registers_of_placed _ taken
    rw [registersAlong, registersAlong, registersAlong, later, firstPurchase,
      freshBroker.registers_of_placed first]
    rfl
  · rintro ⟨name, number, refused⟩
    cases taken.symm.trans (congrArg Step.result refused)

end Broker
end Brokerage
