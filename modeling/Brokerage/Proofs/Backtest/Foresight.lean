import Brokerage.Proofs.Backtest.Playing

namespace Brokerage

/-!
A policy cannot look ahead.

What a policy is asked and what is recorded after an event follow from that
event and the ones before it.  Two runs whose first events agree therefore ask
the same, order the same and record the same for as long as they agree, however
they go on and even if one of them fails later on.  Only winding up at the end
of a run reaches back, and no further than to the last snapshot of that run.
-/

variable {α : Type} [Quantity α]

namespace Backtest

/-- What a policy is shown in its calls, and what the account looks like after each of them. -/
structure Informed (start : Broker α) (events : List (Event α)) (calls : List (Call α))
    (snapshots : List (Account α)) : Prop where
  /-- One call for every event. -/
  asked : calls.map Call.event = events
  /-- The first call shows the account of the start, every other one the snapshot before it. -/
  accounts : calls.map Call.account = (start.account :: snapshots).take events.length
  earlier : forall before call after, calls = before ++ call :: after ->
    call.earlier = (before.map Call.sight).reverse
  /-- The fills of an event are booked after the call about it. -/
  unfilled : List.Forall₂ (fun call snapshot => Exists fun fresh =>
    snapshot.trades = call.account.trades ++ fresh ∧
      forall trade, trade ∈ fresh -> trade.time = call.event.time) calls snapshots

section Common

variable {policy : Policy α} {start : Broker α} {common : List (Event α)} {played : Progress α}

theorem exists_informed (plays : playAll? policy (.start start) common = .ok played) :
    Exists fun snapshots =>
      Records (.start start) (calls policy (.start start) common) snapshots played ∧
        Informed start common (calls policy (.start start) common) snapshots := by
  rcases exists_records plays with ⟨snapshots, records⟩
  refine ⟨snapshots, records, map_event_calls plays, ?_, ?_, records.unfilled⟩
  · have shown := congrArg (List.take common.length) records.accounts
    rw [← length_calls plays, ← List.length_map Call.account, List.take_left] at shown
    rw [shown, List.length_map, length_calls plays]
    rfl
  · intro before call after split
    rw [earlier_calls plays split]
    exact List.append_nil _

/-- The calls about the first events do not depend on how the events go on. -/
theorem take_calls (plays : playAll? policy (.start start) common = .ok played)
    (rest : List (Event α)) :
    (calls policy (.start start) (common ++ rest)).take common.length =
      calls policy (.start start) common := by
  rw [calls_append rest plays, ← length_calls plays, List.take_left]

/-- Every snapshot but the last one of a run that is wound up is recorded as it was taken. -/
theorem snapshot_of_run? [Roots α] {terms : BacktestTerms α} {given : Option (Broker α)}
    {opening : List (Notice α)} (begun : broker? terms given = .ok (start, opening))
    (plays : playAll? policy (.start start) common = .ok played) {snapshots : List (Account α)}
    (records : Records (.start start) (calls policy (.start start) common) snapshots played)
    {rest : List (Event α)} {result : Backtest α} {notices : List (Notice α)}
    (ran : run? (common ++ rest) policy terms given = .ok (result, notices)) {index : Nat}
    (early : index < common.length)
    (inner : terms.liquidates = true -> index + 1 < (common ++ rest).length) :
    result.history[index]? = snapshots[index]? := by
  rcases run?_ok ran with ⟨again, opened, last, started, done, summed⟩
  cases begun.symm.trans started
  rcases progress?_ok done with ⟨whole, wholly, wound⟩
  have later := wholly
  rw [playAll?_append rest plays] at later
  rcases exists_records later with ⟨more, others⟩
  rcases exists_records wholly with ⟨all, whole_records⟩
  have joined : all = snapshots ++ more := by
    have one := whole_records.history
    rw [others.history, records.history] at one
    apply List.reverse_injective
    rw [List.reverse_append]
    simpa only [Progress.start, List.append_nil] using one.symm
  have counted : all.length = (common ++ rest).length := whole_records.length_eq wholly
  have among : index < snapshots.length := (records.length_eq plays).symm ▸ early
  have kept : all[index]? = snapshots[index]? := by
    rw [joined, List.getElem?_append_left among]
  rw [(summary?_ok summed).2.2.1, history_progress? whole_records wound, ← kept]
  cases liquidates : terms.liquidates with
  | false => rfl
  | true =>
      have before : index < all.length - 1 := by
        have bound := inner liquidates
        omega
      rw [if_pos rfl, List.getElem?_append_left (List.length_dropLast ▸ before),
        List.getElem?_dropLast, if_pos before]

end Common

/--
Two runs of a policy whose first events agree, and can be played, ask it the
same about these events and get the same orders for them.  Both record the same
snapshots, apart from the last one of a run that is wound up.  A call shows the
account as it was recorded after the event before, or as it was at the start,
and the fills of its own event come after it.
-/
theorem no_look_ahead [Roots α] {policy : Policy α} {terms : BacktestTerms α}
    {given : Option (Broker α)} {start : Broker α} {opening : List (Notice α)}
    (begun : broker? terms given = .ok (start, opening)) {common : List (Event α)}
    {played : Progress α} (plays : playAll? policy (.start start) common = .ok played)
    (first second : List (Event α)) :
    (calls policy (.start start) (common ++ first)).take common.length =
        (calls policy (.start start) (common ++ second)).take common.length ∧
      Exists fun snapshots =>
        Informed start common
          ((calls policy (.start start) (common ++ first)).take common.length) snapshots ∧
        forall one other : Backtest α, forall notices others : List (Notice α),
          run? (common ++ first) policy terms given = .ok (one, notices) ->
          run? (common ++ second) policy terms given = .ok (other, others) ->
          forall index, index < common.length ->
            (terms.liquidates = true -> index + 1 < (common ++ first).length ∧
              index + 1 < (common ++ second).length) ->
            one.history[index]? = other.history[index]? ∧
              one.history[index]? = snapshots[index]? := by
  rcases exists_informed plays with ⟨snapshots, records, informed⟩
  rw [take_calls plays, take_calls plays]
  refine ⟨rfl, snapshots, informed, ?_⟩
  intro one other notices others ran again index early inner
  have mine := snapshot_of_run? begun plays records ran early fun wound => (inner wound).1
  have its := snapshot_of_run? begun plays records again early fun wound => (inner wound).2
  exact ⟨mine.trans its.symm, mine⟩

section Holding

attribute [local instance] wholeRoots

/-- Holding through two days that rise is the same whether or not a crash follows; only the
second snapshot differs, because the shorter run is wound up after it. -/
theorem holding_foresees_no_crash :
    let start := Broker.freshBroker
    let crash := [dailyEvent 2 10]
    Exists fun short => Exists fun long =>
      ((run? (risingDays ++ []) holding {} (some start)).toOption = some short ∧
        (run? (risingDays ++ crash) holding {} (some start)).toOption = some long) ∧
      ((calls holding (.start start) (risingDays ++ [])).take 2 =
          (calls holding (.start start) (risingDays ++ crash)).take 2 ∧
        short.1.history[0]? = long.1.history[0]?) ∧
      (short.1.history.map fun account => account.positions.size) = [1, 0] ∧
      (long.1.history.map fun account => account.positions.size) = [1, 1, 0] := by
  intro start crash
  have begun : broker? ({} : BacktestTerms Rat) (some start) = .ok (start, _) := rfl
  have playable : (playAll? holding (.start start) risingDays).toOption.isSome = true := by
    decide +kernel
  have sizes : forall rest counts,
      ((run? (risingDays ++ rest) holding {} (some start)).toOption.map fun done =>
        done.1.history.map fun account => account.positions.size) = some counts ->
      Exists fun done => (run? (risingDays ++ rest) holding {} (some start)).toOption = some done ∧
        (done.1.history.map fun account => account.positions.size) = counts :=
    fun _ _ => Option.map_eq_some_iff.mp
  rcases Option.isSome_iff_exists.mp playable with ⟨played, plays⟩
  rcases sizes [] [1, 0] (by decide +kernel) with ⟨short, one, shrinks⟩
  rcases sizes crash [1, 1, 0] (by decide +kernel) with ⟨long, other, stays⟩
  rcases no_look_ahead begun (ok_of_toOption plays) [] crash with ⟨same, _, -, records⟩
  have first := records short.1 long.1 short.2 long.2 (ok_of_toOption one)
    (ok_of_toOption other) 0 (by decide) fun _ => by decide
  exact ⟨short, long, ⟨one, other⟩, ⟨same, first.1⟩, shrinks, stays⟩

end Holding
end Backtest
end Brokerage
