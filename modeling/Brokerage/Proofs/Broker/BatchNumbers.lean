import Brokerage.Proofs.Broker.Enlisting
import Brokerage.Proofs.Execution.WorkingSet
import Mathlib.Data.List.Sort

namespace Brokerage

/-!
Which numbers a batch gets, and in which order its states are recorded.

The orders of a batch get the next numbers in a row.  Work and cancels are
kept apart in the working set, but their states are recorded together and in
the order of the numbers, so the old orders at work come first and the new
ones follow as they were handed in.
-/

variable {α : Type}

/-! ## Numbers in a row -/

/-- So many numbers in a row, from a first one on. -/
def numbersFrom (first : Int) : Nat -> List OrderId
  | 0 => []
  | count + 1 => first :: numbersFrom (first + 1) count

theorem mem_numbersFrom {first number : Int} {count : Nat} :
    number ∈ numbersFrom first count <-> first ≤ number ∧ number < first + count := by
  induction count generalizing first with
  | zero => simp [numbersFrom]
  | succ count ih =>
      rw [numbersFrom, List.mem_cons, ih]
      omega

theorem length_numbersFrom (first : Int) (count : Nat) :
    (numbersFrom first count).length = count := by
  induction count generalizing first with
  | zero => rfl
  | succ count ih => rw [numbersFrom, List.length_cons, ih]

theorem pairwise_numbersFrom (first : Int) (count : Nat) :
    (numbersFrom first count).Pairwise (· < ·) := by
  induction count generalizing first with
  | zero => exact List.Pairwise.nil
  | succ count ih =>
      refine List.pairwise_cons.mpr ⟨fun number listed => ?_, ih (first + 1)⟩
      exact (mem_numbersFrom.mp listed).1

theorem numbersFrom_add (first : Int) (count more : Nat) :
    numbersFrom first (count + more) =
      numbersFrom first count ++ numbersFrom (first + count) more := by
  induction count generalizing first with
  | zero => simp [numbersFrom]
  | succ count ih =>
      rw [Nat.succ_add, numbersFrom, ih (first + 1), numbersFrom, List.cons_append]
      have same : first + 1 + (count : Int) = first + ((count + 1 : Nat) : Int) := by
        omega
      rw [same]

/-- New numbers lie above the ones that have been given. -/
theorem lt_of_mem_numbersFrom {old new : Int} {count more : Nat} (given : old ∈ numbersFrom 1 count)
    (fresh : new ∈ numbersFrom (count + 1) more) : old < new := by
  have below := (mem_numbersFrom.mp given).2
  have above := (mem_numbersFrom.mp fresh).1
  omega

/-- Lists whose members ascend in some mark are told apart by what is among them. -/
theorem eq_of_ascending {σ : Type} (mark : σ -> Int) {left right : List σ}
    (first : left.Pairwise fun one other => mark one < mark other)
    (second : right.Pairwise fun one other => mark one < mark other)
    (same : forall member, member ∈ left <-> member ∈ right) : left = right := by
  have once : forall {members : List σ},
      (members.Pairwise fun one other => mark one < mark other) -> members.Nodup := by
    intro members ascending
    apply ascending.imp
    rintro one other less rfl
    exact Int.lt_irrefl _ less
  refine List.Perm.eq_of_pairwise ?_ first second
    ((List.perm_ext_iff_of_nodup (once first) (once second)).mpr same)
  intro one other _ _ less more
  exact absurd (Int.lt_trans less more) (Int.lt_irrefl _)

/-! ## Taking in a batch -/

namespace Engine

/-- A batch of orders whose tickets are all new and all different. -/
structure Expects (engine : Engine α) (batch : List (Order α)) : Prop where
  real : forall order, order ∈ batch -> order.isOrder = true
  once : (batch.filterMap Order.ticket?).Nodup
  unseen : forall order, order ∈ batch -> engine.Unseen order

theorem Expects.tail {engine next : Engine α} {order : Order α} {rest : List (Order α)}
    (expects : engine.Expects (order :: rest))
    (same : next.numbers = (engine.numbering order).numbers) : next.Expects rest := by
  constructor
  · exact fun other listed => expects.real other (List.mem_cons_of_mem _ listed)
  · exact expects.once.sublist ((List.sublist_cons_self order rest).filterMap _)
  · intro other listed ticket borne
    have blank := expects.unseen other (List.mem_cons_of_mem _ listed) ticket borne
    rw [same]
    cases own : order.ticket? with
    | none =>
        rw [engine.numbering_of_ticketless own]
        exact blank
    | some first =>
        have once := expects.once
        rw [List.filterMap_cons_some own] at once
        have different : first ≠ ticket := by
          rintro rfl
          exact (List.nodup_cons.mp once).1 (List.mem_filterMap.mpr ⟨other, listed, borne⟩)
        rw [engine.numbers_numbering_of_ticket own, Table.get?_put, if_neg different]
        exact blank

end Engine

namespace Broker

variable [Quantity α]

theorem expects_of_taken {broker : Broker α} {batch : List (Order α)} {event : Event α}
    (taken : broker.refusal? batch event = none) : broker.engine.Expects batch := by
  rcases refusal?_eq_none_iff.mp taken with ⟨-, each, once⟩
  refine ⟨fun order listed => (each order listed).real, once, ?_⟩
  intro order listed ticket borne
  have unplaced := (each order listed).unplaced
  unfold placedNumber? at unplaced
  rw [borne, Option.bind_some] at unplaced
  cases noted : broker.engine.numbers.get? ticket with
  | none => rfl
  | some number =>
      rw [noted] at unplaced
      cases unplaced

namespace Enlisted

variable {engine last : Engine α} {now : Instant}
  {orders : List (Order α × Option (Rejection α))} {numbers : List OrderId}

theorem running (enlisted : Enlisted now engine orders last numbers)
    (running : engine.Running now) (expects : engine.Expects (orders.map Prod.fst)) :
    last.Running now := by
  induction enlisted with
  | nil => exact running
  | cons first _ ih =>
      have real := expects.real _ List.mem_cons_self
      have unseen := expects.unseen _ List.mem_cons_self
      exact ih (first.running running real unseen) (expects.tail first.numbers_eq)

theorem nextId_eq (enlisted : Enlisted now engine orders last numbers) :
    last.nextId = engine.nextId + orders.length := by
  induction enlisted with
  | nil => exact (Int.add_zero _).symm
  | cons first _ ih =>
      rw [ih, first.nextId_eq, List.length_cons, Int.natCast_succ, Int.add_assoc, Int.add_comm 1]

theorem numbers_eq (enlisted : Enlisted now engine orders last numbers) :
    numbers = numbersFrom engine.nextId orders.length := by
  induction enlisted with
  | nil => rfl
  | cons first _ ih => rw [ih, first.nextId_eq, List.length_cons, numbersFrom]

/-- The numbers of a batch join those in the working set, and none is lost. -/
theorem keys_perm (enlisted : Enlisted now engine orders last numbers)
    (running : engine.Running now) (expects : engine.Expects (orders.map Prod.fst)) :
    (last.executors.keys ++ last.cancels.keys).Perm
      (engine.executors.keys ++ engine.cancels.keys ++ numbers) := by
  induction enlisted with
  | nil => rw [List.append_nil]
  | @cons engine next last order reason rest state numbers first _ ih =>
      have real := expects.real _ List.mem_cons_self
      have unseen := expects.unseen _ List.mem_cons_self
      apply (ih (first.running running real unseen) (expects.tail first.numbers_eq)).trans
      rw [← List.singleton_append (l := numbers), ← List.append_assoc]
      apply List.Perm.append_right numbers
      rcases first.keys_eq running.toOrdered with ⟨worked, cancelled⟩ | ⟨worked, cancelled⟩
      · rw [worked, cancelled, List.append_assoc]
      · rw [worked, cancelled, List.append_assoc, List.append_assoc]
        exact List.Perm.append_left _ List.perm_append_comm

end Enlisted
end Broker

/-! ## Recording the states -/

namespace Engine

/-- What is recorded of a working set: every state, under its number. -/
theorem mem_states {engine : Engine α} {state : OrderState α} :
    state ∈ engine.states <->
      (Exists fun executor => executor ∈ engine.executors.values ∧ executor.state = state) ∨
        state ∈ engine.cancels.values := by
  unfold states
  rw [List.mem_mergeSort, List.mem_append, List.mem_map]

/-- The number by which the states are sorted. -/
def mark (state : OrderState α) : OrderId :=
  state.number?.getD 0

theorem pairwise_states (engine : Engine α) :
    (engine.states.map mark).Pairwise (· ≤ ·) := by
  have ordered : engine.states.Pairwise fun left right => decide (mark left ≤ mark right) := by
    apply List.pairwise_mergeSort
    · intro first second third earlier later
      exact decide_eq_true (Int.le_trans (of_decide_eq_true earlier) (of_decide_eq_true later))
    · intro first second
      rcases Int.le_total (mark first) (mark second) with less | more
      · simp [less]
      · simp [more]
  exact List.pairwise_map.mpr (ordered.imp of_decide_eq_true)

/-- A number stands for nothing exactly when it is neither at work nor a cancel. -/
theorem state?_eq_none_iff {engine : Engine α} {number : OrderId} :
    engine.state? number = none <-> number ∉ engine.executors.keys ++ engine.cancels.keys := by
  unfold state?
  rw [List.mem_append, not_or, ← Table.get?_eq_none_iff, ← Table.get?_eq_none_iff]
  cases engine.executors.get? number with
  | none => simp
  | some executor => simp

namespace Running

variable {engine : Engine α} {now : Instant}

theorem number?_executor (running : engine.Running now) {number : OrderId} {executor : Executor α}
    (listed : (number, executor) ∈ engine.executors.entries) :
    executor.state.number? = some number :=
  (running.shown _ listed).shown

theorem number?_cancel (running : engine.Running now) {number : OrderId} {state : OrderState α}
    (listed : (number, state) ∈ engine.cancels.entries) : state.number? = some number :=
  (running.told _ listed).shown

/-- What a number stands for is among the states that are recorded, and shows that number. -/
theorem mem_states_of_state? (running : engine.Running now) {number : OrderId}
    {state : OrderState α} (known : engine.state? number = some state) :
    state ∈ engine.states ∧ state.number? = some number := by
  unfold state? at known
  split at known
  · rename_i executor found
    cases known
    have member := Table.get?_eq_some_iff.mp found
    exact ⟨mem_states.mpr (Or.inl ⟨executor, Table.mem_values_iff.mpr ⟨_, member⟩, rfl⟩),
      running.number?_executor member⟩
  · have member := Table.get?_eq_some_iff.mp known
    exact ⟨mem_states.mpr (Or.inr (Table.mem_values_iff.mpr ⟨_, member⟩)),
      running.number?_cancel member⟩

/-- Every state that is recorded shows the number under which it stands. -/
theorem number?_of_mem_states (running : engine.Running now) {state : OrderState α}
    (listed : state ∈ engine.states) : Exists fun number => state.number? = some number := by
  rcases mem_states.mp listed with ⟨executor, member, same⟩ | member
  · rcases Table.mem_values_iff.mp member with ⟨number, entry⟩
    exact ⟨number, same ▸ running.number?_executor entry⟩
  · rcases Table.mem_values_iff.mp member with ⟨number, entry⟩
    exact ⟨number, running.number?_cancel entry⟩

/-- The states are recorded in the order of the numbers in the working set. -/
theorem states_numbers (running : engine.Running now) {numbers : List OrderId}
    (same : (engine.executors.keys ++ engine.cancels.keys).Perm numbers)
    (ascending : numbers.Pairwise (· < ·)) :
    engine.states.map OrderState.number? = numbers.map some := by
  let all := engine.executors.values.map Executor.state ++ engine.cancels.values
  have shown : all.map OrderState.number? =
      (engine.executors.keys ++ engine.cancels.keys).map some := by
    simp only [all, List.map_append, Table.values, Table.keys, List.map_map]
    apply congrArg₂ (· ++ ·)
    · exact List.map_congr_left fun entry listed => running.number?_executor listed
    · exact List.map_congr_left fun entry listed => running.number?_cancel listed
  have read : all.map mark = engine.executors.keys ++ engine.cancels.keys := by
    have marked : all.map mark = (all.map OrderState.number?).map (·.getD 0) := by
      rw [List.map_map]
      rfl
    rw [marked, shown, List.map_map]
    exact List.map_id _
  have perm : (engine.states.map mark).Perm numbers := by
    apply ((List.mergeSort_perm all _).map mark).trans
    rw [read]
    exact same
  have marks : engine.states.map mark = numbers :=
    perm.eq_of_pairwise' engine.pairwise_states (ascending.imp Int.le_of_lt)
  rw [← marks, List.map_map]
  apply List.map_congr_left
  intro state listed
  rcases running.number?_of_mem_states listed with ⟨number, known⟩
  rw [Function.comp_apply, mark, known, Option.getD_some]

end Running
end Engine
end Brokerage
