import Brokerage.Proofs.Order.Lifecycle

namespace Brokerage

/-!
Lives told by reports.

A report asks for a status at an instant, and a new order is led by the reports
that reach it one after the other.  What it comes to is read off the reports
without following it: the first one that closes says how and when it ended, and
the first one that accepts or closes says when it was opened.  A life only ever
allows less than before, so that what has been reported once may be reported
again.
-/

/-- The status that is asked for at an instant. -/
structure StatusReport where
  time : Instant
  status : OrderStatus
  deriving DecidableEq, Repr

namespace StatusReport

def accepts (report : StatusReport) : Bool :=
  decide (report.status = .accepted)

def closes (report : StatusReport) : Bool :=
  report.status.isClosed

/-- A new order is opened by being accepted, and by being closed without that. -/
def opens (report : StatusReport) : Bool :=
  report.accepts || report.closes

end StatusReport

namespace Lifecycle

/-- The life once the reports have come in, in their order. -/
def reported (life : Lifecycle) (reports : List StatusReport) : Lifecycle :=
  reports.foldl (fun life report => life.move report.time report.status) life

/-- What a new life comes to, read off the reports on it. -/
def ofReports (reports : List StatusReport) : Lifecycle where
  status :=
    match reports.find? StatusReport.closes with
    | some ending => ending.status
    | none => if reports.any StatusReport.accepts then .accepted else .initial
  openedAt := (reports.find? StatusReport.opens).map StatusReport.time
  closedAt := (reports.find? StatusReport.closes).map StatusReport.time

variable {life : Lifecycle} {status : OrderStatus} {report : StatusReport}
  {reports before again : List StatusReport}

theorem reported_cons (life : Lifecycle) (report : StatusReport) (rest : List StatusReport) :
    life.reported (report :: rest) = (life.move report.time report.status).reported rest :=
  rfl

theorem reported_append (life : Lifecycle) (before after : List StatusReport) :
    life.reported (before ++ after) = (life.reported before).reported after :=
  List.foldl_append

/-! ## What a life still allows -/

/-- No status is reached twice. -/
theorem not_allows_move (life : Lifecycle) (time : Instant) (status : OrderStatus) :
    ¬ (life.move time status).allows status = true := by
  intro again
  by_cases allowed : life.allows status = true
  · have reached := status_move allowed time
    cases status with
    | initial => cases again
    | accepted => cases reached.symm.trans (of_decide_eq_true again)
    | _ =>
        have live := isOpen_of_allows again
        rw [isOpen, reached] at live
        cases live
  · rw [move_of_not_allowed allowed] at again
    exact allowed again

/-- A move adds nothing to what a life allows, and nothing leads back to the initial status. -/
theorem allows_of_allows_move {time : Instant} {other : OrderStatus}
    (allowed : (life.move time other).allows status = true) : life.allows status = true := by
  by_cases moves : life.allows other = true
  · cases status with
    | initial => cases allowed
    | accepted =>
        have reached := (status_move moves time).symm.trans (of_decide_eq_true allowed)
        subst reached
        cases moves
    | _ => exact isOpen_of_allows moves
  · rw [move_of_not_allowed moves] at allowed
    exact allowed

theorem allows_of_allows_reported (allowed : (life.reported reports).allows status = true) :
    life.allows status = true := by
  induction reports generalizing life with
  | nil => exact allowed
  | cons report rest ih => exact allows_of_allows_move (ih allowed)

/-- What has been reported is not allowed any more. -/
theorem not_allows_reported (heard : report ∈ reports) :
    ¬ (life.reported reports).allows report.status = true := by
  rcases List.append_of_mem heard with ⟨front, rest, rfl⟩
  rw [reported_append, reported_cons]
  exact fun allowed => not_allows_move _ _ _ (allows_of_allows_reported allowed)

/-- Reports that the life does not allow leave no trace. -/
theorem reported_of_not_allowed
    (denied : forall report, report ∈ reports -> ¬ life.allows report.status = true) :
    life.reported reports = life := by
  induction reports with
  | nil => rfl
  | cons report rest ih =>
      rw [reported_cons, move_of_not_allowed (denied report List.mem_cons_self)]
      exact ih fun other listed => denied other (List.mem_cons_of_mem report listed)

theorem reported_of_closed (closed : life.isOpen = false) (reports : List StatusReport) :
    life.reported reports = life := by
  refine reported_of_not_allowed fun report _ allowed => ?_
  rw [isOpen_of_allows allowed] at closed
  cases closed

/-- Reports may come again, in any order and number. -/
theorem reported_again (known : again ⊆ before) :
    (life.reported before).reported again = life.reported before :=
  reported_of_not_allowed fun _ listed => not_allows_reported (known listed)

/-! ## What the reports come to -/

/-- An accepted life goes on to the first report that closes. -/
theorem reported_accepted (opened : Instant) (reports : List StatusReport) :
    reported { status := .accepted, openedAt := some opened } reports =
      { status := ((reports.find? StatusReport.closes).map StatusReport.status).getD .accepted
        openedAt := some opened
        closedAt := (reports.find? StatusReport.closes).map StatusReport.time } := by
  induction reports with
  | nil => rfl
  | cons report rest ih =>
      rw [reported_cons]
      cases ends : report.closes with
      | true =>
          rw [reported_of_closed (isOpen_move _ report.time ends), move_of_open rfl report.time ends,
            List.find?_cons_of_pos ends]
          rfl
      | false =>
          have denied : ¬ allows { status := .accepted, openedAt := some opened }
              report.status = true := by
            intro allowed
            rcases report with ⟨_, status⟩
            cases status <;> cases ends <;> cases allowed
          rw [move_of_not_allowed denied, ih, List.find?_cons_of_neg (ends ▸ Bool.false_ne_true)]

/-- A new life comes to what is read off its reports: it ignores a report that asks for no more, and
any other report ends this phase. -/
theorem reported_new (reports : List StatusReport) : reported {} reports = ofReports reports := by
  induction reports with
  | nil => rfl
  | cons report rest ih =>
      rcases report with ⟨time, status⟩
      rw [reported_cons]
      cases status with
      | initial => exact ih
      | accepted =>
          have ends : List.find? StatusReport.closes (⟨time, .accepted⟩ :: rest) =
              rest.find? StatusReport.closes := rfl
          refine (reported_accepted time rest).trans ?_
          unfold ofReports
          rw [ends]
          cases rest.find? StatusReport.closes with
          | none => rfl
          | some ending => rfl
      | _ => exact reported_of_closed rfl rest

/-- The first report that closes tells the status. -/
theorem status_ofReports_of_ending {ending : StatusReport}
    (ended : reports.find? StatusReport.closes = some ending) :
    (ofReports reports).status = ending.status := by
  unfold ofReports
  rw [ended]

/-- Without a report that closes, the status tells whether one accepts. -/
theorem status_ofReports_of_endless (endless : reports.find? StatusReport.closes = none) :
    (ofReports reports).status =
      if reports.any StatusReport.accepts then .accepted else .initial := by
  unfold ofReports
  rw [endless]

/-- An end is told of exactly when one of the reports closes. -/
theorem isClosed_ofReports (reports : List StatusReport) :
    (ofReports reports).isClosed = (reports.find? StatusReport.closes).isSome := by
  unfold isClosed
  cases ended : reports.find? StatusReport.closes with
  | none =>
      rw [status_ofReports_of_endless ended]
      cases reports.any StatusReport.accepts with
      | true => rfl
      | false => rfl
  | some ending =>
      have closes : ending.closes = true := List.find?_some ended
      rw [status_ofReports_of_ending ended]
      exact closes

/-- A life stays initial exactly as long as no report opens it. -/
theorem status_ofReports_iff (reports : List StatusReport) :
    (ofReports reports).status = .initial <-> reports.find? StatusReport.opens = none := by
  have unopened : reports.find? StatusReport.opens = none <->
      reports.any StatusReport.accepts = false ∧ reports.find? StatusReport.closes = none := by
    simp only [List.find?_eq_none, List.any_eq_false, StatusReport.opens, Bool.or_eq_true, not_or,
      forall_and]
  rw [unopened]
  cases ended : reports.find? StatusReport.closes with
  | none =>
      rw [status_ofReports_of_endless ended]
      cases reports.any StatusReport.accepts with
      | true => decide
      | false => decide
  | some ending =>
      have closes : ending.closes = true := List.find?_some ended
      rw [status_ofReports_of_ending ended]
      constructor
      · intro initial
        rw [StatusReport.closes, initial] at closes
        cases closes
      · intro neither
        cases neither.2

/-- The opening that the first reports tell of stays. -/
theorem openedAt_ofReports_append {opened : Instant}
    (begins : (ofReports before).openedAt = some opened) (after : List StatusReport) :
    (ofReports (before ++ after)).openedAt = some opened := by
  rcases Option.map_eq_some_iff.mp begins with ⟨first, found, rfl⟩
  have still : (before ++ after).find? StatusReport.opens = some first := by
    rw [List.find?_append, found]
    rfl
  exact congrArg (Option.map StatusReport.time) still

end Lifecycle

namespace OrderState

variable {α : Type}

/-- The order once the reports on it have come in, in their order. -/
def reported (state : OrderState α) (reports : List StatusReport) : OrderState α :=
  reports.foldl (fun state report => state.move report.time report.status) state

theorem reported_append (state : OrderState α) (before after : List StatusReport) :
    state.reported (before ++ after) = (state.reported before).reported after :=
  List.foldl_append

theorem reported_eq (state : OrderState α) (reports : List StatusReport) :
    state.reported reports =
      { state with toLifecycle := state.toLifecycle.reported reports } := by
  induction reports generalizing state with
  | nil => rfl
  | cons report rest ih => exact ih (state.move report.time report.status)

theorem reported_again {before again : List StatusReport} (known : again ⊆ before)
    (state : OrderState α) :
    (state.reported before).reported again = state.reported before := by
  rw [reported_eq _ again, reported_eq state before, Lifecycle.reported_again known]

theorem toLifecycle_reported (order : Order α) (reports : List StatusReport) :
    (reported { order } reports).toLifecycle = .ofReports reports := by
  rw [reported_eq, Lifecycle.reported_new]

/-- Where a new order stands once some reports have come in. -/
structure ToldBy (state : OrderState α) (order : Order α) (reports : List StatusReport) :
    Prop where
  order_eq : state.order = order
  life_eq : state.toLifecycle = .ofReports reports
  closedAt_iff : state.closedAt.isSome = true <-> state.isClosed = true
  openedAt_iff : state.openedAt = none <-> state.status = .initial
  /-- The instant of the opening stays, whatever is reported later. -/
  opened : forall instant, state.openedAt = some instant ->
    forall later, (state.reported later).openedAt = some instant
  /-- After the first report that closes, no move changes anything. -/
  closed : reports.any StatusReport.closes = true ->
    forall time status, state.move time status = state
  /-- What has come in may come in again, all of it or in part and in any order, before the rest. -/
  replayed : forall again later, again ⊆ reports ->
    reported { order } (reports ++ again ++ later) = reported { order } (reports ++ later)

/-- Where an order stands is read off the reports on it, whatever they ask for and whenever. -/
theorem told_by_reports (order : Order α) (reports : List StatusReport) :
    (reported { order } reports).ToldBy order reports := by
  have life := toLifecycle_reported order reports
  have ended := Lifecycle.isClosed_ofReports reports
  refine
    { order_eq := congrArg OrderState.order (reported_eq _ reports), life_eq := life,
      closedAt_iff := ?_, openedAt_iff := ?_, opened := ?_, closed := ?_, replayed := ?_ }
  · rw [life, ended]
    exact iff_of_eq (congrArg (· = true) Option.isSome_map)
  · rw [life, Lifecycle.status_ofReports_iff]
    exact Option.map_eq_none_iff
  · intro instant begins later
    rw [life] at begins
    rw [← reported_append, toLifecycle_reported]
    exact Lifecycle.openedAt_ofReports_append begins later
  · intro closes time status
    have finished : (reported { order } reports).isClosed = true := by
      rw [life, ended, List.find?_isSome]
      exact List.any_eq_true.mp closes
    unfold move
    rw [Lifecycle.move_of_closed (Lifecycle.isOpen_of_ends finished)]
  · intro again later known
    calc
      reported { order } (reports ++ again ++ later) =
          ((reported { order } reports).reported again).reported later := by
        rw [reported_append, reported_append]
      _ = (reported { order } reports).reported later := by rw [reported_again known]
      _ = reported { order } (reports ++ later) := (reported_append _ reports later).symm

/-- Reports on an order that is cancelled; three of them lead nowhere. -/
def restlessReports : List StatusReport :=
  [⟨⟨1⟩, .initial⟩, ⟨⟨2⟩, .accepted⟩, ⟨⟨3⟩, .accepted⟩, ⟨⟨5⟩, .cancelled⟩, ⟨⟨4⟩, .completed⟩]

/-- The second report opened the order and the fourth one closed it, which neither the fifth one
changes nor a sixth one; the first three may come twice. -/
theorem restlessReports_tell :
    restlessReports.any StatusReport.closes = true ∧
      Exists fun state : OrderState Rat =>
        reported { order := .cancel {} 1 } restlessReports = state ∧
        state.toLifecycle =
          { status := .cancelled, openedAt := some ⟨2⟩, closedAt := some ⟨5⟩ } ∧
        state.move ⟨6⟩ .expired = state ∧
        reported { order := .cancel {} 1 } (restlessReports.take 3 ++ restlessReports) = state := by
  have closes : restlessReports.any StatusReport.closes = true := by decide
  have told := told_by_reports (.cancel {} 1 : Order Rat) restlessReports
  have early := told_by_reports (.cancel {} 1 : Order Rat) (restlessReports.take 3)
  have again := early.replayed _ (restlessReports.drop 3) (List.Subset.refl _)
  rw [List.append_assoc, List.take_append_drop] at again
  exact ⟨closes, _, rfl, told.life_eq, told.closed closes _ _, again⟩

end OrderState
end Brokerage
