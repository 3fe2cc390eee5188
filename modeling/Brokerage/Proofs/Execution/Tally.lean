import Brokerage.Proofs.Broker.AtWork
import Brokerage.Proofs.Broker.Bookings
import Brokerage.Proofs.Order.BracketPlan

namespace Brokerage

/-!
The trades that go with an order, wherever it stands.

A single-leg order has one trade when it is completed and none before.  A
bracket has one more trade for each of its two steps, the entry and the exit,
and what it remembers of its legs tells which of them lies behind it.  Showing
an event to an order moves both sides along together.
-/

variable {α : Type}

/-- A trade fills the terms of a leg: for their whole size, in their asset. -/
structure Trade.Fills (trade : Trade α) (terms : Terms α) : Prop where
  size : trade.size = terms.size
  asset : trade.asset = terms.asset

variable [Quantity α]

/-- The trades that the books must have of an order, by the status that they record for it. -/
def OrderState.Tallies (state : OrderState α) (trades : List (Trade α)) : Prop :=
  match state.order, state.status with
  | .single _ terms, .completed =>
      Exists fun trade => trades = [trade] ∧ trade.Fills terms ∧
        state.closedAt = some trade.time
  | .bracket _ entry _ _, .completed =>
      Exists fun terms => Exists fun first => Exists fun second =>
        entry.leadingTerms? = some terms ∧ trades = [first, second] ∧ first.Fills terms ∧
          (second.size == -terms.size) = true ∧ second.asset = terms.asset ∧
          state.closedAt = some second.time
  | .bracket _ entry _ _, .accepted | .bracket _ entry _ _, .cancelled =>
      trades = [] ∨ Exists fun terms => Exists fun first =>
        entry.leadingTerms? = some terms ∧ trades = [first] ∧ first.Fills terms
  | _, _ => trades = []

/-- An order that can trade is not completed without a trade. -/
theorem OrderState.Tallies.not_completed {state : OrderState α} (tallies : state.Tallies [])
    {terms : Terms α} (leading : state.order.leadingTerms? = some terms) :
    state.status ≠ .completed := by
  intro completed
  unfold OrderState.Tallies at tallies
  rw [completed] at tallies
  cases form : state.order with
  | single _ _ =>
      rw [form] at tallies
      rcases tallies with ⟨_, wrong, -⟩
      cases wrong
  | bracket _ _ _ _ =>
      rw [form] at tallies
      rcases tallies with ⟨_, _, _, -, wrong, -⟩
      cases wrong
  | _ =>
      rw [form] at leading
      cases leading

theorem Lifecycle.isOpen_of_completed {life : Lifecycle} (done : life.status = .completed) :
    life.isOpen = false := by
  rw [isOpen, done]
  rfl

namespace Executor

/-- The exits of a bracket close what its entry opens. -/
structure Exits (entry takeProfit stopLoss : Executor α) : Prop where
  takeProfit : (takeProfit.terms.size == -entry.terms.size) = true
  stopLoss : (stopLoss.terms.size == -entry.terms.size) = true

/-- The trades that go with what an order at work remembers. -/
inductive Tallies : Executor α -> List (Trade α) -> Prop where
  | unfilled {worker : Worker α} (still : worker.life.status ≠ .completed) :
      Tallies (single worker) []
  | filled {worker : Worker α} {trade : Trade α} (done : worker.life.status = .completed)
      (closed : worker.life.closedAt = some trade.time) (fills : trade.Fills worker.terms) :
      Tallies (single worker) [trade]
  /-- A bracket whose entry has not filled; as long as it is open, its entry is. -/
  | outside {slip : Slip} {life : Lifecycle} {entry takeProfit stopLoss : Executor α}
      (still : life.status ≠ .completed)
      (ready : life.isOpen = true ->
        life.status = .accepted ∧ entry.isOpen = true ∧ Exits entry takeProfit stopLoss) :
      Tallies (bracket slip life entry takeProfit stopLoss) []
  /-- A bracket between entry and exit, which a cancel may have ended there. -/
  | inside {slip : Slip} {life : Lifecycle} {entry takeProfit stopLoss : Executor α}
      {first : Trade α} (stands : life.status = .accepted ∨ life.status = .cancelled)
      (finished : entry.isOpen = false) (exits : Exits entry takeProfit stopLoss)
      (enters : first.Fills entry.terms) :
      Tallies (bracket slip life entry takeProfit stopLoss) [first]
  | through {slip : Slip} {life : Lifecycle} {entry takeProfit stopLoss : Executor α}
      {first second : Trade α} (done : life.status = .completed)
      (closed : life.closedAt = some second.time) (enters : first.Fills entry.terms)
      (leaves : (second.size == -entry.terms.size) = true)
      (same : second.asset = entry.terms.asset) :
      Tallies (bracket slip life entry takeProfit stopLoss) [first, second]

omit [Quantity α] in
@[simp] theorem leadingTerms?_order (executor : Executor α) :
    executor.order.leadingTerms? = some executor.terms := by
  induction executor with
  | single _ => rfl
  | bracket _ _ _ _ _ entry _ _ => exact entry

omit [Quantity α] in
theorem isOpen_of_life {before after : Executor α} (same : after.life = before.life) :
    after.isOpen = before.isOpen :=
  congrArg Lifecycle.isOpen same

namespace Tallies

variable {executor : Executor α} {trades : List (Trade α)}

/-- What goes with an order at work goes with the state that is recorded of it. -/
theorem state (tallies : executor.Tallies trades) : executor.state.Tallies trades := by
  unfold OrderState.Tallies
  cases tallies with
  | @unfilled worker still =>
      cases status : worker.life.status with
      | completed => exact absurd status still
      | _ => simp only [Executor.state, order, life, status]
  | filled done closed fills =>
      simp only [Executor.state, order, life, done]
      exact ⟨_, rfl, fills, closed⟩
  | @outside _ life _ _ _ still _ =>
      cases status : life.status with
      | completed => exact absurd status still
      | _ => simp only [Executor.state, order, Executor.life, status, true_or]
  | @inside _ _ entry _ _ _ stands _ _ enters =>
      rcases stands with status | status <;>
      · simp only [Executor.state, order, life, status]
        exact Or.inr ⟨entry.terms, _, entry.leadingTerms?_order, rfl, enters⟩
  | @through _ _ entry _ _ _ _ done closed enters leaves same =>
      simp only [Executor.state, order, life, done]
      exact ⟨entry.terms, _, _, entry.leadingTerms?_order, rfl, enters, leaves, same, closed⟩

/-! ## Before an event is shown -/

theorem numbered (tallies : executor.Tallies trades) (numbers : Table Ticket OrderId) :
    (executor.numbered numbers).Tallies trades := by
  have kept (leg : Executor α) : (leg.numbered numbers).isOpen = leg.isOpen :=
    isOpen_of_life (leg.life_numbered numbers)
  have closing : forall {entry takeProfit stopLoss : Executor α}, Exits entry takeProfit stopLoss ->
      Exits (entry.numbered numbers) (takeProfit.numbered numbers) (stopLoss.numbered numbers) := by
    intro entry takeProfit stopLoss exits
    constructor
    · simpa only [terms_numbered] using exits.takeProfit
    · simpa only [terms_numbered] using exits.stopLoss
  cases tallies with
  | unfilled still => exact .unfilled still
  | filled done closed fills => exact .filled done closed fills
  | outside still ready =>
      refine .outside still fun live => ?_
      rcases ready live with ⟨stands, entering, exits⟩
      exact ⟨stands, (kept _).trans entering, closing exits⟩
  | @inside _ _ entry _ _ _ stands finished exits enters =>
      exact .inside stands ((kept _).trans finished) (closing exits)
        ((entry.terms_numbered numbers).symm ▸ enters)
  | @through _ _ entry _ _ _ _ done closed enters leaves same =>
      rw [← entry.terms_numbered numbers] at enters leaves same
      exact .through done closed enters leaves same

/-- An order that is closed before it is completed keeps its trades; a bracket between entry and
exit is only ever cancelled. -/
theorem close (tallies : executor.Tallies trades) (now : Instant) {status : OrderStatus}
    (ends : status.isClosed = true) (short : status ≠ .completed)
    (plain : status = .cancelled ∨ executor.isOpen = true ∧ executor.isTimed = true) :
    (executor.close now status).Tallies trades := by
  have kept : forall {life : Lifecycle}, life.status ≠ .completed ->
      (life.move now status).status ≠ .completed ∧ (life.move now status).isOpen = false := by
    intro life still
    cases live : life.isOpen with
    | false =>
        rw [Lifecycle.move_of_closed live]
        exact ⟨still, live⟩
    | true =>
        rw [Lifecycle.move_of_open live now ends]
        exact ⟨short, Lifecycle.isOpen_of_ends ends⟩
  cases tallies with
  | unfilled still => exact .unfilled (kept still).1
  | @filled worker trade done closed fills =>
      have same : worker.life.move now status = worker.life :=
        Lifecycle.move_of_closed (Lifecycle.isOpen_of_completed done) now status
      unfold Executor.close
      rw [same]
      exact .filled done closed fills
  | outside still _ =>
      refine .outside (kept still).1 fun live => ?_
      rw [(kept still).2] at live
      cases live
  | @inside _ life entry takeProfit stopLoss _ stands finished exits enters =>
      have ended : (entry.close now status).isOpen = false := by
        unfold isOpen at finished ⊢
        rw [life_close, Lifecycle.move_of_closed finished]
        exact finished
      rcases plain with cancelled | ⟨-, timed⟩
      · subst cancelled
        refine .inside (Or.inr ?_) ended ⟨?_, ?_⟩ ((entry.terms_close _ _).symm ▸ enters)
        · rcases stands with accepted | cancelled
          · have live : life.isOpen = true := by
              rw [Lifecycle.isOpen, accepted]
              rfl
            rw [Lifecycle.move_of_open live now rfl]
          · have still : life.isOpen = false := by
              rw [Lifecycle.isOpen, cancelled]
              rfl
            rw [Lifecycle.move_of_closed still]
            exact cancelled
        · simpa only [terms_close] using exits.takeProfit
        · simpa only [terms_close] using exits.stopLoss
      · exact absurd (finished.symm.trans timed) Bool.false_ne_true
  | @through _ life entry _ _ _ _ done closed enters leaves same =>
      have still : life.move now status = life :=
        Lifecycle.move_of_closed (Lifecycle.isOpen_of_completed done) now status
      rw [← entry.terms_close now status] at enters leaves same
      unfold Executor.close
      rw [still]
      exact .through done closed enters leaves same

end Tallies

/-! ## When an order is registered -/

/-- A sound bracket has single legs, whose exits close what the entry opens. -/
theorem exits_of_sound {slip : Slip} {entry takeProfit stopLoss : Order α}
    (sound : (Order.bracket slip entry takeProfit stopLoss).defect? = none)
    {executor : Executor α}
    (work : create? (.bracket slip entry takeProfit stopLoss) = .ok executor) :
    Exists fun entry => Exists fun takeProfit => Exists fun stopLoss =>
      executor = bracket slip {} entry takeProfit stopLoss ∧ entry.life = {} ∧
        Exits entry takeProfit stopLoss := by
  rcases BracketPlan.of_sound sound with ⟨plan, form, closes⟩
  cases form
  cases work
  exact ⟨_, _, _, rfl, rfl, closes.profits.size, closes.stops.size⟩

/-- An order goes into the working set without a trade. -/
theorem tallies_begun {order : Order α} {reason : Option (Rejection α)} {engine : Engine α}
    {executor : Executor α} (work : create? (engine.written order) = .ok executor)
    (now : Instant) : (Engine.begun (order, reason) now executor).Tallies [] := by
  rcases create?_ok work with ⟨same, fresh, -⟩
  have accepted : (Lifecycle.move {} now .accepted).status = .accepted := rfl
  have rejected : (Lifecycle.move {} now .rejected).status = .rejected := rfl
  unfold Engine.begun
  cases against : Engine.cause? order reason with
  | some cause =>
      rw [Option.isSome_some, if_pos rfl]
      cases executor with
      | single worker =>
          refine .unfilled ?_
          rw [show worker.life = {} from fresh, rejected]
          exact fun wrong => nomatch wrong
      | bracket slip life entry takeProfit stopLoss =>
          have begins : life = {} := fresh
          subst begins
          exact .outside (fun wrong => nomatch wrong) fun live => nomatch live
  | none =>
      rw [Option.isSome_none, if_neg Bool.false_ne_true]
      cases executor with
      | single worker =>
          refine .unfilled ?_
          rw [show worker.life = {} from fresh, accepted]
          exact fun wrong => nomatch wrong
      | bracket slip life entry takeProfit stopLoss =>
          have sound : (engine.written order).defect? = none := by
            rw [Engine.defect?_written]
            exact Engine.defect?_of_cause? against
          rw [← same] at sound work
          rcases exits_of_sound sound work with ⟨_, _, _, form, begins, exits⟩
          cases form
          refine .outside (fun wrong => nomatch wrong) fun _ => ⟨rfl, ?_, ?_, ?_⟩
          · unfold isOpen
            rw [life_accept, begins]
            rfl
          · rw [terms_accept]
            exact exits.takeProfit
          · rw [terms_accept]
            exact exits.stopLoss

/-! ## When an event is shown -/

namespace Tallies

variable {pricing : Pricing α} {event : Event α} {before after : Executor α}
  {executions : List (Execution α)} {trades fresh : List (Trade α)}

section Bracket

variable {slip : Slip} {life : Lifecycle} {entry takeProfit stopLoss : Executor α}

/-- An open bracket is outside without a trade or inside with one. -/
theorem of_open_bracket (tallies : (bracket slip life entry takeProfit stopLoss).Tallies trades)
    (live : life.isOpen = true) :
    life.status = .accepted ∧ Exits entry takeProfit stopLoss ∧
      (entry.isOpen = true ∧ trades = [] ∨ entry.isOpen = false ∧
        Exists fun first => trades = [first] ∧ first.Fills entry.terms) := by
  cases tallies with
  | outside _ ready =>
      rcases ready live with ⟨accepted, entering, exits⟩
      exact ⟨accepted, exits, Or.inl ⟨entering, rfl⟩⟩
  | inside stands finished exits enters =>
      rcases stands with accepted | cancelled
      · exact ⟨accepted, exits, Or.inr ⟨finished, _, rfl, enters⟩⟩
      · rw [Lifecycle.isOpen, cancelled] at live
        cases live
  | through done _ _ _ _ =>
      rw [Lifecycle.isOpen, done] at live
      cases live

/-- An open bracket whose entry is over is inside, with the trade of the entry. -/
theorem of_entered (tallies : (bracket slip life entry takeProfit stopLoss).Tallies trades)
    (live : life.isOpen = true) (inside : entry.isOpen = false) :
    Exits entry takeProfit stopLoss ∧
      Exists fun first => trades = [first] ∧ first.Fills entry.terms := by
  rcases tallies.of_open_bracket live with ⟨-, exits, ⟨entering, -⟩ | ⟨-, fills⟩⟩
  · cases inside.symm.trans entering
  · exact ⟨exits, fills⟩

/-- The fill of an exit completes the bracket. -/
theorem exit {exit next takeProfit' stopLoss' : Executor α} {first second : Trade α} {price : α}
    (live : life.isOpen = true) (enters : first.Fills entry.terms)
    (closes : (exit.terms.size == -entry.terms.size) = true) (terms : next.terms = exit.terms)
    (book : second.Books event.time
      ((bracket slip life entry takeProfit stopLoss).fillOf next.terms.size price)) :
    (bracket slip (life.move event.time .completed) entry takeProfit' stopLoss').Tallies
      [first, second] := by
  have ended : life.move event.time .completed =
      { status := .completed, openedAt := some (life.openedAt.getD event.time),
        closedAt := some event.time } := Lifecycle.move_of_open live event.time rfl
  refine .through ?_ ?_ enters ?_ book.asset
  · rw [ended]
  · rw [ended, book.time]
  · rw [book.size]
    exact terms.symm ▸ closes

/-- The fill of the entry puts the bracket inside. -/
theorem enter {next : Executor α} {first : Trade α} {price : α}
    (tallies : (bracket slip life entry takeProfit stopLoss).Tallies trades)
    (live : life.isOpen = true) (entering : entry.isOpen = true)
    (terms : next.terms = entry.terms) (same : next.life = entry.life)
    (book : first.Books event.time
      ((bracket slip life entry takeProfit stopLoss).fillOf next.terms.size price)) :
    (bracket slip life (next.moveSelf event.time .completed) (takeProfit.accept event.time)
      (stopLoss.accept event.time)).Tallies (trades ++ [first]) := by
  rcases tallies.of_open_bracket live with ⟨accepted, exits, ⟨-, nothing⟩ | ⟨finished, -⟩⟩
  · subst nothing
    refine .inside (Or.inl accepted) ?_ ⟨?_, ?_⟩ ⟨?_, ?_⟩
    · unfold isOpen at entering ⊢
      rw [life_moveSelf, same, Lifecycle.move_of_open entering event.time rfl]
      rfl
    · rw [terms_accept, terms_moveSelf, terms]
      exact exits.takeProfit
    · rw [terms_accept, terms_moveSelf, terms]
      exact exits.stopLoss
    · rw [terms_moveSelf]
      exact book.size
    · rw [terms_moveSelf, terms]
      exact book.asset
  · cases finished.symm.trans entering

/-- A bracket none of whose legs fills keeps its trades. -/
theorem wait {entry' takeProfit' stopLoss' : Executor α}
    (tallies : (bracket slip life entry takeProfit stopLoss).Tallies trades)
    (live : life.isOpen = true) (same : entry'.life = entry.life)
    (enters : entry'.terms = entry.terms) (takes : takeProfit'.terms = takeProfit.terms)
    (stops : stopLoss'.terms = stopLoss.terms) :
    (bracket slip life entry' takeProfit' stopLoss').Tallies trades := by
  rcases tallies.of_open_bracket live with ⟨accepted, exits, stage⟩
  have closing : Exits entry' takeProfit' stopLoss' := by
    constructor
    · rw [takes, enters]
      exact exits.takeProfit
    · rw [stops, enters]
      exact exits.stopLoss
  rcases stage with ⟨entering, nothing⟩ | ⟨finished, first, only, fills⟩
  · subst nothing
    refine .outside ?_ fun _ => ⟨accepted, (isOpen_of_life same).trans entering, closing⟩
    rw [accepted]
    exact fun wrong => nomatch wrong
  · subst only
    exact .inside (Or.inl accepted) ((isOpen_of_life same).trans finished) closing (enters ▸ fills)

end Bracket

/-- The fill of a single-leg order completes it. -/
theorem fill {worker next : Worker α} {trade : Trade α} {price : α}
    (tallies : (single worker).Tallies trades) (live : worker.life.isOpen = true)
    (terms : next.terms = worker.terms) (same : next.life = worker.life)
    (book : trade.Books event.time ((single worker).fillOf next.terms.size price)) :
    (single (next.move event.time .completed)).Tallies (trades ++ [trade]) := by
  cases tallies with
  | unfilled _ =>
      have ended : next.life.move event.time .completed =
          { status := .completed, openedAt := some (worker.life.openedAt.getD event.time),
            closedAt := some event.time } := by
        rw [same]
        exact Lifecycle.move_of_open live event.time rfl
      refine .filled ?_ ?_ ⟨book.size, ?_⟩
      · exact congrArg Lifecycle.status ended
      · rw [book.time]
        exact congrArg Lifecycle.closedAt ended
      · rw [book.asset]
        exact congrArg Terms.asset terms.symm
  | filled done _ _ => cases (Lifecycle.isOpen_of_completed done).symm.trans live

/-- Matching an open order books exactly the trades that its next stage goes with. -/
theorem worked (tallies : before.Tallies trades) (live : before.isOpen = true)
    (work : Worked pricing event before after executions)
    (books : List.Forall₂ (fun execution trade => trade.Books event.time execution) executions
      fresh) : after.Tallies (trades ++ fresh) := by
  cases work with
  | unseen _ =>
      cases books
      rw [List.append_nil]
      exact tallies
  | waiting _ shown =>
      cases books
      cases tallies with
      | unfilled still => exact .unfilled ((match?_frame shown).2.2 ▸ still)
      | filled done _ _ => cases (Lifecycle.isOpen_of_completed done).symm.trans live
  | filled _ shown =>
      rcases books with _ | ⟨book, ⟨⟩⟩
      rcases match?_frame shown with ⟨-, terms, life⟩
      exact tallies.fill live terms life book
  | entryWaiting _ _ shown =>
      cases books
      rw [List.append_nil]
      rcases matchLeg?_frame shown with ⟨-, terms, life⟩
      exact tallies.wait live life terms rfl rfl
  | entered _ entering shown =>
      rcases books with _ | ⟨book, ⟨⟩⟩
      rcases matchLeg?_frame shown with ⟨-, terms, life⟩
      exact tallies.enter live entering terms life book
  | stopped _ inside shown =>
      rcases books with _ | ⟨book, ⟨⟩⟩
      rcases tallies.of_entered live inside with ⟨exits, first, rfl, enters⟩
      exact exit live enters exits.stopLoss (matchLeg?_frame shown).2.1 book
  | profited _ inside _ shown =>
      rcases books with _ | ⟨book, ⟨⟩⟩
      rcases tallies.of_entered live inside with ⟨exits, first, rfl, enters⟩
      exact exit live enters exits.takeProfit (matchLeg?_frame shown).2.1 book
  | exitsWaiting _ _ passed shown =>
      cases books
      rw [List.append_nil]
      exact tallies.wait live rfl rfl (matchLeg?_frame shown).2.1 (matchLeg?_frame passed).2.1

theorem turned (tallies : before.Tallies trades)
    (turn : Engine.Turned pricing event before after executions)
    (books : List.Forall₂ (fun execution trade => trade.Books event.time execution) executions
      fresh) : after.Tallies (trades ++ fresh) := by
  cases turn with
  | closed _ =>
      cases books
      rw [List.append_nil]
      exact tallies
  | expired live late =>
      cases books
      rw [List.append_nil]
      unfold isExpired at late
      rw [Bool.and_eq_true, Bool.and_eq_true] at late
      exact tallies.close event.time rfl (fun wrong => nomatch wrong) (Or.inr ⟨live, late.1.1⟩)
  | matched live _ work => exact tallies.worked live work books

end Tallies
end Executor
end Brokerage
