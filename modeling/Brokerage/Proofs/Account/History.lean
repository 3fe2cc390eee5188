import Brokerage.Proofs.Account.Holdings
import Brokerage.Proofs.Money.Wallet

namespace Brokerage

/-!
The books as their history tells them.

Cash and holdings are kept up to date fill by fill, while the trades are kept
for ever.  Going through the trades again from a fresh start, in the order in
which they were booked and with the very operations of the number type, gives
the same balances and the same sizes.  No law of arithmetic is used, so this
holds for rounded numbers as it does for exact ones; all that a number type has
to know is that its zero equals itself.
-/

variable {α : Type} [Quantity α]

/-- The size of a holding after a fill: a flat holding starts anew with what is filled. -/
def sizeAfter (size filled : α) : α :=
  if size == 0 then filled else size + filled

namespace Position

/-- A fill changes the size as the rule says, and cleans up a holding that it closes. -/
theorem size_merge (position fill : Position α) :
    (position.merge fill).size =
      if position.isFlat then fill.size
      else if position.size + fill.size == 0 then 0 else position.size + fill.size := by
  unfold merge
  dsimp only
  split
  · rfl
  · split
    · rfl
    · split
      · rfl
      · split <;> rfl

/-- What is kept of a holding is listed by its size. -/
theorem map_size_unless_flat (position : Position α) :
    (if position.isFlat then none else some position).map Position.size =
      if position.size == 0 then none else some position.size := by
  unfold isFlat
  split <;> rfl

end Position

namespace Ledger

/-- The trades in a currency, the oldest first. -/
def tradesIn (ledger : Ledger α) (currency : Currency) : List (Trade α) :=
  ledger.trades.filter fun trade => decide (trade.asset.currency = currency)

/-- The trades of an asset, the oldest first. -/
def tradesOf (ledger : Ledger α) (asset : Asset) : List (Trade α) :=
  ledger.trades.filter fun trade => decide (trade.asset = asset)

/-- The size that the trades of an asset add up to. -/
def tradedSize (ledger : Ledger α) (asset : Asset) : α :=
  ((ledger.tradesOf asset).map Trade.size).foldl sizeAfter 0

/-- Cash and holdings are what the trades make of a first wallet and no holdings. -/
structure FollowsHistory (ledger : Ledger α) (opening : Wallet α) : Prop where
  cash : forall currency, ledger.cash.balance currency =
    (ledger.tradesIn currency).foldl (fun balance trade => balance + -trade.totalCost)
      (opening.balance currency)
  listed : forall currency, currency ∈ ledger.cash.currencies <->
    currency ∈ opening.currencies ∨
      Exists fun trade => trade ∈ ledger.trades ∧ trade.asset.currency = currency
  held : forall asset, (ledger.positions.get? asset).map Position.size =
    if ledger.tradedSize asset == 0 then none else some (ledger.tradedSize asset)

section Booking

variable (ledger : Ledger α) (trade : Trade α)

theorem tradesIn_book (currency : Currency) :
    (ledger.book trade).tradesIn currency =
      if trade.asset.currency = currency then ledger.tradesIn currency ++ [trade]
      else ledger.tradesIn currency := by
  simp only [tradesIn, book, List.filter_append, List.filter_cons, List.filter_nil,
    decide_eq_true_eq]
  split
  · rfl
  · exact List.append_nil _

theorem tradedSize_book (asset : Asset) :
    (ledger.book trade).tradedSize asset =
      if trade.asset = asset then sizeAfter (ledger.tradedSize asset) trade.size
      else ledger.tradedSize asset := by
  simp only [tradedSize, tradesOf, book, List.filter_append, List.filter_cons, List.filter_nil,
    decide_eq_true_eq]
  split
  · rw [List.map_append, List.foldl_append]
    rfl
  · rw [List.append_nil]

theorem get?_positions_applyFill (fill : Position α) (asset : Asset) :
    (ledger.applyFill fill).positions.get? asset =
      if fill.asset = asset then
        if ((ledger.position asset).merge fill).isFlat then none
        else some ((ledger.position asset).merge fill)
      else ledger.positions.get? asset := by
  have positions : (ledger.applyFill fill).positions =
      if ((ledger.position fill.asset).merge fill).isFlat then ledger.positions.erase fill.asset
      else ledger.positions.put fill.asset ((ledger.position fill.asset).merge fill) := rfl
  rw [positions]
  by_cases same : fill.asset = asset
  · rw [if_pos same, ← same]
    cases flat : ((ledger.position fill.asset).merge fill).isFlat with
    | true => exact (Table.get?_erase _ _ _).trans (if_pos rfl)
    | false => exact (Table.get?_put _ _ _ _).trans (if_pos rfl)
  · rw [if_neg same]
    cases flat : ((ledger.position fill.asset).merge fill).isFlat with
    | true => exact (Table.get?_erase _ _ _).trans (if_neg same)
    | false => exact (Table.get?_put _ _ _ _).trans (if_neg same)

theorem get?_positions_book (asset : Asset) :
    (ledger.book trade).positions.get? asset =
      if trade.asset = asset then
        if ((ledger.position asset).merge
            (Position.ofFill trade.asset trade.size trade.price trade.time)).isFlat then none
        else some ((ledger.position asset).merge
          (Position.ofFill trade.asset trade.size trade.price trade.time))
      else ledger.positions.get? asset :=
  ledger.get?_positions_applyFill
    (Position.ofFill trade.asset trade.size trade.price trade.time) asset

end Booking

namespace FollowsHistory

variable {ledger : Ledger α} {opening : Wallet α}

/-- The holding of the books is flat exactly when the trades add up to nothing. -/
theorem position_eq (follows : ledger.FollowsHistory opening) (zero : ((0 : α) == 0) = true)
    (asset : Asset) :
    (ledger.position asset).isFlat = (ledger.tradedSize asset == 0) ∧
      ((ledger.tradedSize asset == 0) = false ->
        (ledger.position asset).size = ledger.tradedSize asset) := by
  have held := follows.held asset
  unfold position Position.isFlat
  cases found : ledger.positions.get? asset with
  | none =>
      rw [found, Option.map_none] at held
      split at held
      · rename_i flat
        refine ⟨zero.trans flat.symm, fun open_ => ?_⟩
        rw [flat] at open_
        cases open_
      · cases held
  | some position =>
      rw [found, Option.map_some] at held
      split at held
      · cases held
      · rename_i kept
        have size : position.size = ledger.tradedSize asset := Option.some.inj held
        rw [Option.getD_some, size]
        exact ⟨rfl, fun _ => rfl⟩

/-- Booking a fill keeps the books with their history: a holding that it closes is written down as
zero, whatever the sum looks like. -/
theorem book (follows : ledger.FollowsHistory opening) (zero : ((0 : α) == 0) = true)
    (trade : Trade α) : (ledger.book trade).FollowsHistory opening := by
  constructor
  · intro currency
    have before := follows.cash currency
    have after : (ledger.book trade).cash.balance currency =
        if trade.asset.currency = currency then
          ledger.cash.balance trade.asset.currency + -trade.totalCost
        else ledger.cash.balance currency :=
      Wallet.balance_deposit _ _ _ _
    rw [after, tradesIn_book]
    split
    · rename_i same
      rw [same, before, List.foldl_append]
      rfl
    · exact before
  · intro currency
    have listed : currency ∈ (ledger.book trade).cash.currencies <->
        currency ∈ ledger.cash.currencies ∨ currency = trade.asset.currency :=
      Wallet.mem_currencies_deposit
    have booked : (ledger.book trade).trades = ledger.trades ++ [trade] := rfl
    rw [listed, follows.listed, booked, or_assoc]
    refine or_congr_right ?_
    constructor
    · rintro (⟨other, old, same⟩ | same)
      · exact ⟨other, List.mem_append_left _ old, same⟩
      · exact ⟨trade, List.mem_append_right _ List.mem_cons_self, same.symm⟩
    · rintro ⟨other, among, same⟩
      rcases List.mem_append.mp among with old | new
      · exact Or.inl ⟨other, old, same⟩
      · rw [List.mem_singleton.mp new] at same
        exact Or.inr same.symm
  · intro asset
    rw [get?_positions_book, tradedSize_book]
    split
    · rcases follows.position_eq zero asset with ⟨flat, size⟩
      have filled : (Position.ofFill trade.asset trade.size trade.price trade.time).size =
          trade.size := rfl
      rw [Position.map_size_unless_flat, Position.size_merge, flat, filled]
      unfold sizeAfter
      cases before : ledger.tradedSize asset == 0 with
      | true => rfl
      | false =>
          simp only [size before, Bool.false_eq_true, if_false]
          cases closed : ledger.tradedSize asset + trade.size == 0 with
          | true => simp only [if_true, zero]
          | false => simp only [Bool.false_eq_true, if_false, closed]
    · exact follows.held asset

/-- New market prices change neither cash nor sizes. -/
theorem markToMarket (follows : ledger.FollowsHistory opening) (event : Event α) :
    (ledger.markToMarket event).FollowsHistory opening := by
  refine ⟨follows.cash, follows.listed, fun asset => ?_⟩
  have sizes : ((ledger.markToMarket event).positions.get? asset).map Position.size =
      (ledger.positions.get? asset).map Position.size :=
    map_get?_markToMarket (fun _ _ _ _ => rfl) ledger event asset
  rw [sizes]
  exact follows.held asset

/-- Only cash, holdings and trades matter. -/
theorem congr {other : Ledger α} (follows : ledger.FollowsHistory opening)
    (cash : other.cash = ledger.cash) (positions : other.positions = ledger.positions)
    (trades : other.trades = ledger.trades) : other.FollowsHistory opening := by
  have before := follows
  rcases before with ⟨balances, listed, held⟩
  unfold tradedSize tradesOf at held
  constructor
  · unfold tradesIn
    rw [cash, trades]
    exact balances
  · rw [cash, trades]
    exact listed
  · unfold tradedSize tradesOf
    rw [positions, trades]
    exact held

end FollowsHistory
end Ledger

namespace Broker

theorem followsHistory_emptied (broker : Broker α) (zero : ((0 : α) == 0) = true) :
    broker.emptied.ledger.FollowsHistory broker.house.deposit.copy := by
  rw [emptied_ledger]
  constructor
  · intro currency
    rfl
  · intro currency
    exact (or_iff_left fun traded => nomatch traded.choose_spec.1).symm
  · intro asset
    exact (if_pos zero).symm

theorem followsHistory_settled {broker : Broker α} {opening : Wallet α}
    (follows : broker.ledger.FollowsHistory opening) (zero : ((0 : α) == 0) = true)
    (orders : List (Order α × Option (Rejection α))) (event : Event α) :
    (broker.settled orders event).ledger.FollowsHistory opening := by
  have booked : (broker.booked orders event).FollowsHistory opening :=
    Ledger.bookAll_induction (motive := fun books => books.FollowsHistory opening)
      (fun _ _ _ kept => kept.book zero _) follows
  exact (booked.markToMarket event).congr (broker.settled_cash orders event)
    (broker.settled_positions orders event) (broker.settled_trades orders event)

theorem Reachable.followsHistory {house : House α} {broker : Broker α}
    (reached : Reachable house broker) (zero : ((0 : α) == 0) = true) :
    broker.ledger.FollowsHistory house.deposit.copy := by
  refine Reachable.induction
    (motive := fun broker => broker.ledger.FollowsHistory house.deposit.copy)
    (followsHistory_emptied _ zero) ?_ ?_ ?_ reached
  · intro broker reached _
    exact reached.house_eq ▸ broker.followsHistory_emptied zero
  · intro broker _ follows
    exact follows.congr rfl rfl rfl
  · intro broker batch event state result _ follows ended
    cases ended with
    | refused _ => exact follows
    | unvalued _ _ => exact follows
    | unworkable _ _ _ => exact follows
    | unpowered _ _ _ _ => exact followsHistory_settled follows zero _ _
    | done _ _ _ _ =>
        exact (followsHistory_settled follows zero _ _).congr rfl rfl rfl

/-- The cash of a fresh start is a copy of the deposit of the house. -/
theorem cash_reset (broker : Broker α) :
    (broker.after .reset).ledger.cash = broker.house.deposit.copy := by
  have fresh : broker.emptied.ledger.cash = broker.house.deposit.copy := by
    rw [emptied_ledger]
  unfold after
  rcases broker.reset_state with same | ⟨amount, same⟩
  · rw [same]
    exact fresh
  · rw [same]
    exact fresh

/--
In the arithmetic of the double-precision numbers, operation for operation, a
balance is what the trades in its currency leave of the balance of a fresh
start, and the size of a holding is what the sizes of its trades add up to,
where a flat holding starts anew.  A currency is listed exactly when it was
deposited or traded, a holding exactly when its size is not zero, and every
holding stands under its own asset.
-/
theorem books_follow_history {house : House Float} {broker : Broker Float}
    (reached : Reachable house broker) :
    (forall currency,
      broker.ledger.cash.balance currency =
          (broker.ledger.tradesIn currency).foldl
            (fun balance trade => balance + -(trade.size * trade.price + trade.fee))
            ((broker.after .reset).ledger.cash.balance currency) ∧
        (currency ∉ house.deposit.currencies ->
          (broker.after .reset).ledger.cash.balance currency = 0) ∧
        (currency ∉ broker.ledger.cash.currencies <->
          currency ∉ house.deposit.currencies ∧
            forall trade, trade ∈ broker.ledger.trades -> trade.asset.currency ≠ currency)) ∧
      forall asset,
        ((broker.ledger.positions.get? asset).map Position.size =
          if broker.ledger.tradedSize asset == 0 then none
          else some (broker.ledger.tradedSize asset)) ∧
        forall position, broker.ledger.positions.get? asset = some position ->
          position.asset = asset := by
  have zero : ((0 : Float) == 0) = true := by decide
  have follows := reached.followsHistory zero
  have opening : (broker.after .reset).ledger.cash = house.deposit.copy := by
    rw [broker.cash_reset, reached.house_eq]
  refine ⟨fun currency => ⟨?_, ?_, ?_⟩, fun asset => ⟨follows.held asset, ?_⟩⟩
  · rw [opening]
    exact follows.cash currency
  · intro absent
    rw [opening]
    exact Wallet.balance_of_not_mem (mt Wallet.mem_currencies_copy.mp absent)
  · rw [follows.listed, Wallet.mem_currencies_copy, not_or, not_exists]
    exact and_congr_right fun _ => forall_congr' fun trade => not_and
  · intro position found
    exact reached.filed (asset, position) (Table.get?_eq_some_iff.mp found)

/-- An account in double precision that bought ten shares at 150 and then sold thirty at 160. -/
def reversedAccount : Broker Float :=
  let asset : Asset := { symbol := "QQQ" }
  let order (size : Float) : Order Float := .single {} { asset, size, kind := .market }
  let event (time : Int) (price : Float) : Event Float :=
    { time := ⟨time⟩, prices := Table.empty.put asset (.trade asset price none) }
  (idle {}).reset.state.run [.place [order 10] (event 0 150), .place [order (-30)] (event 1 160)]

theorem reversedAccount_books :
    Reachable {} reversedAccount ∧
      (reversedAccount.ledger.tradesIn "USD").map Trade.size = [10, -30] ∧
      reversedAccount.ledger.cash.balance "USD" =
        (reversedAccount.ledger.tradesIn "USD").foldl
          (fun balance trade => balance + -(trade.size * trade.price + trade.fee)) 1000000 ∧
      (reversedAccount.ledger.positions.get? { symbol := "QQQ" }).map Position.size =
        some (-20) := by
  have reached : Reachable {} reversedAccount :=
    (Reachable.opened (show open? ({} : House Float) = .ok (_, _) from rfl)).run _
  have opening : (reversedAccount.after .reset).ledger.cash.balance "USD" = 1000000 := by
    decide +kernel
  have traded : reversedAccount.ledger.tradedSize { symbol := "QQQ" } = -20 := by
    decide +kernel
  rcases books_follow_history reached with ⟨cash, held⟩
  refine ⟨reached, by decide +kernel, ?_, ?_⟩
  · rw [← opening]
    exact (cash "USD").1
  · rw [(held { symbol := "QQQ" }).1, traded]
    rfl

end Broker
end Brokerage
