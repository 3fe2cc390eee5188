import Brokerage.Proofs.Broker.Rejection
import Brokerage.Proofs.Money.Worth
import Brokerage.Proofs.Quantity.Opposite
import Mathlib.Tactic.Linarith

namespace Brokerage

/-!
What the buying power is promised to cover.

The decision on a batch keeps two running figures, the sizes that the holdings
would have and the buying power that is left.  Both can be told without it: the
projected size of a holding is its size and the sizes of the orders on it that
were let through, and what is left is the buying power less what those orders
cost.  Each order is judged by these figures alone, and what holds of the batch
as a whole follows from the judgements.
-/

namespace Broker

/-! ## The figures by which an order is judged -/

section Figures

variable (broker : Broker Rat) (event : Event Rat)

/-- What a decided order adds to the holding of an asset, if it was let through. -/
def granted (asset : Asset) (entry : Order Rat × Option (Rejection Rat)) : Rat :=
  match entry.2, entry.1.leadingTerms? with
  | none, some terms => if terms.asset = asset then terms.size else 0
  | _, _ => 0

/-- The size that a holding would have after the orders decided so far. -/
def projected (before : List (Order Rat × Option (Rejection Rat))) (asset : Asset) : Rat :=
  (broker.ledger.position asset).size + (before.map (granted asset)).sum

/-- The units by which an order enlarges the projected holding, long or short. -/
def exposure (before : List (Order Rat × Option (Rejection Rat))) (terms : Terms Rat) : Rat :=
  let current := broker.projected before terms.asset
  max 0 (|current + terms.size| - |current|)

/-- The price at which an order is valued; an order without exposure is not valued. -/
def valuation? (before : List (Order Rat × Option (Rejection Rat))) (terms : Terms Rat) :
    Option Rat :=
  if broker.exposure before terms = 0 then none else broker.referencePrice? event terms

/-- What the exposure of an order costs in the base currency, if the order is valued. -/
def needs? (before : List (Order Rat × Option (Rejection Rat))) (order : Order Rat) :
    Option Rat :=
  order.leadingTerms?.bind fun terms =>
    (broker.valuation? event before terms).map fun price =>
      broker.exposure before terms * price *
        broker.house.rates.factor broker.house.base terms.asset.currency

/-- What the orders of a batch that were let through cost, each after those before it. -/
def spentAfter (before : List (Order Rat × Option (Rejection Rat))) :
    List (Order Rat × Option (Rejection Rat)) -> Rat
  | [] => 0
  | entry :: rest =>
      (match entry.2 with
        | none => (broker.needs? event before entry.1).getD 0
        | some _ => 0) +
      spentAfter (before ++ [entry]) rest

/-- What the decided orders that were let through cost together. -/
def spent (orders : List (Order Rat × Option (Rejection Rat))) : Rat :=
  broker.spentAfter event [] orders

/-- The buying power that the decided orders leave. -/
def left (before : List (Order Rat × Option (Rejection Rat))) : Rat :=
  broker.ledger.buyingPower.value - broker.spent event before

/-- An order is rejected when it is valued and costs more than what is left. -/
def verdict (before : List (Order Rat × Option (Rejection Rat))) (order : Order Rat) :
    Option (Rejection Rat) :=
  (broker.needs? event before order).bind fun cost =>
    if broker.left event before < cost then
      some (.unaffordable cost (broker.left event before) broker.house.base)
    else none

end Figures

variable {broker : Broker Rat} {event : Event Rat}
  {before : List (Order Rat × Option (Rejection Rat))}

theorem spentAfter_append (before first second : List (Order Rat × Option (Rejection Rat))) :
    broker.spentAfter event before (first ++ second) =
      broker.spentAfter event before first +
        broker.spentAfter event (before ++ first) second := by
  induction first generalizing before with
  | nil => rw [List.nil_append, List.append_nil, spentAfter, zero_add]
  | cons entry rest ih =>
      rw [List.cons_append, spentAfter, spentAfter, ih, List.append_assoc, List.singleton_append,
        add_assoc]

theorem left_nil : broker.left event [] = broker.ledger.buyingPower.value :=
  sub_zero _

theorem left_append (entry : Order Rat × Option (Rejection Rat)) :
    broker.left event (before ++ [entry]) = broker.left event before -
      match entry.2 with
      | none => (broker.needs? event before entry.1).getD 0
      | some _ => 0 := by
  unfold left spent
  rw [spentAfter_append, List.nil_append, spentAfter, spentAfter, add_zero, sub_add_eq_sub_sub]

theorem projected_append (entry : Order Rat × Option (Rejection Rat)) (asset : Asset) :
    broker.projected (before ++ [entry]) asset =
      broker.projected before asset + granted asset entry := by
  unfold projected
  rw [List.map_append, List.sum_append, List.map_singleton, List.sum_singleton, add_assoc]

/-! ## The decision follows the figures -/

/-- The running figures of the decision after some orders. -/
structure Foresees (broker : Broker Rat) (event : Event Rat)
    (before : List (Order Rat × Option (Rejection Rat))) (projection : Projection Rat) :
    Prop where
  remaining : projection.remaining = broker.left event before
  sizes : forall asset, (projection.sizes.get? asset).getD 0 = broker.projected before asset

theorem foresees_projection : Foresees broker event [] broker.projection where
  remaining := left_nil.symm
  sizes asset := by
    unfold projected projection Ledger.position
    rw [List.map_nil, List.sum_nil, add_zero, Table.get?_map]
    cases broker.ledger.positions.get? asset <;> rfl

theorem addedUnits_eq (current size : Rat) :
    addedUnits current size = max 0 (|current + size| - |current|) := by
  unfold addedUnits Quantity.greatest
  rw [Quantity.abs_eq, Quantity.abs_eq]
  split
  · rename_i more
    exact (max_eq_right more.le).symm
  · rename_i none
    exact (max_eq_left (not_lt.mp none)).symm

theorem needs?_of_unvalued {order : Order Rat} {terms : Terms Rat}
    (leading : order.leadingTerms? = some terms)
    (unvalued : broker.valuation? event before terms = none) :
    broker.needs? event before order = none := by
  simp only [needs?, leading, Option.bind_some, unvalued, Option.map_none]

theorem needs?_of_valued {order : Order Rat} {terms : Terms Rat} {price : Rat}
    (leading : order.leadingTerms? = some terms)
    (valued : broker.valuation? event before terms = some price) :
    broker.needs? event before order =
      some (broker.exposure before terms * price *
        broker.house.rates.factor broker.house.base terms.asset.currency) := by
  simp only [needs?, leading, Option.bind_some, valued, Option.map_some]

/-- Costs are converted at the factor of the two currencies. -/
theorem cost?_eq {asset : Asset} {units price cost : Rat}
    (charged : broker.cost? asset units price = .ok cost) :
    cost = units * price * broker.house.rates.factor broker.house.base asset.currency ∧
      (broker.house.rates.Positive ->
        0 < broker.house.rates.factor broker.house.base asset.currency) := by
  unfold cost? at charged
  split at charged
  · rename_i amount exchanged
    cases charged
    exact ⟨Rates.value_of_convert? exchanged,
      fun positive => Rates.factor_pos_of_convert? positive exchanged⟩
  · cases charged

/-- An order is decided on by its verdict, and it is valued only where it can be converted. -/
structure Judged (broker : Broker Rat) (event : Event Rat)
    (before : List (Order Rat × Option (Rejection Rat)))
    (entry : Order Rat × Option (Rejection Rat)) : Prop where
  reason_eq : entry.2 = broker.verdict event before entry.1
  convertible : broker.house.rates.Positive -> forall terms price,
    entry.1.leadingTerms? = some terms -> broker.valuation? event before terms = some price ->
      0 < broker.house.rates.factor broker.house.base terms.asset.currency

/-- Some decided orders are judged one after the other. -/
inductive JudgedAfter (broker : Broker Rat) (event : Event Rat) :
    List (Order Rat × Option (Rejection Rat)) -> List (Order Rat × Option (Rejection Rat)) ->
      Prop where
  | nil {before : List (Order Rat × Option (Rejection Rat))} : JudgedAfter broker event before []
  | cons {before rest : List (Order Rat × Option (Rejection Rat))}
      {entry : Order Rat × Option (Rejection Rat)} (first : Judged broker event before entry)
      (others : JudgedAfter broker event (before ++ [entry]) rest) :
      JudgedAfter broker event before (entry :: rest)

theorem judged_of_free {order : Order Rat} (free : broker.needs? event before order = none) :
    Judged broker event before (order, none) where
  reason_eq := by
    unfold verdict
    rw [free, Option.bind_none]
  convertible _ terms price leading valued := by
    rw [needs?_of_valued leading valued] at free
    cases free

/-- Each order is judged by what stands before it. -/
theorem JudgedAfter.at_split {orders earlier later : List (Order Rat × Option (Rejection Rat))}
    {entry : Order Rat × Option (Rejection Rat)} (judged : JudgedAfter broker event before orders)
    (split : orders = earlier ++ entry :: later) :
    Judged broker event (before ++ earlier) entry := by
  induction judged generalizing earlier with
  | nil => exact absurd split.symm (List.append_ne_nil_of_right_ne_nil _ (List.cons_ne_nil _ _))
  | cons first _ ih =>
      cases earlier with
      | nil =>
          cases split
          rw [List.append_nil]
          exact first
      | cons _ earlier =>
          rcases List.cons.inj split with ⟨rfl, tail⟩
          have later := ih tail
          rw [List.append_assoc, List.singleton_append] at later
          exact later

/-- Orders that are judged one after the other spend no more than what is left before them. -/
theorem JudgedAfter.spentAfter_le {orders : List (Order Rat × Option (Rejection Rat))}
    (judged : JudgedAfter broker event before orders) :
    broker.spentAfter event before orders ≤ max (broker.left event before) 0 := by
  induction judged with
  | nil => exact le_max_right _ _
  | @cons before rest entry first _ ih =>
      have judgement := first.reason_eq
      rw [left_append] at ih
      unfold spentAfter
      cases reason : entry.2 with
      | some _ =>
          rw [reason, sub_zero] at ih
          simpa only [zero_add] using ih
      | none =>
          rw [reason] at ih judgement
          dsimp only at ih ⊢
          cases needs : broker.needs? event before entry.1 with
          | none =>
              rw [needs, Option.getD_none, sub_zero] at ih
              rwa [Option.getD_none, zero_add]
          | some cost =>
              have covered : cost ≤ broker.left event before := by
                rw [verdict, needs, Option.bind_some] at judgement
                split at judgement
                · cases judgement
                · rename_i enough
                  exact not_lt.mp enough
              rw [needs, Option.getD_some, max_eq_left (sub_nonneg.mpr covered)] at ih
              rw [Option.getD_some]
              exact le_max_of_le_left (by linarith)

/-- Valued orders that cost something only ever take from the buying power. -/
theorem spentAfter_nonneg {orders : List (Order Rat × Option (Rejection Rat))}
    (costs : forall earlier entry later cost, orders = earlier ++ entry :: later ->
      broker.needs? event (before ++ earlier) entry.1 = some cost -> 0 < cost) :
    0 ≤ broker.spentAfter event before orders := by
  induction orders generalizing before with
  | nil => exact le_refl 0
  | cons entry rest ih =>
      unfold spentAfter
      refine add_nonneg ?_ (ih fun earlier other later cost split needs => ?_)
      · cases entry.2 with
        | some _ => exact le_refl 0
        | none =>
            dsimp only
            cases needs : broker.needs? event before entry.1 with
            | none => exact le_refl 0
            | some cost =>
                rw [← List.append_nil before] at needs
                exact (costs [] entry rest cost rfl needs).le
      · rw [List.append_assoc, List.singleton_append] at needs
        exact costs (entry :: earlier) other later cost (congrArg (entry :: ·) split) needs

namespace Foresees

variable {projection next : Projection Rat} {order : Order Rat}

/-- An order that is rejected leaves the running figures as they are. -/
theorem rejected (foresees : Foresees broker event before projection)
    (reason : Rejection Rat) : Foresees broker event (before ++ [(order, some reason)]) projection where
  remaining := by rw [left_append, foresees.remaining, sub_zero]
  sizes asset := by
    have nothing : granted asset (order, some reason) = 0 := rfl
    rw [projected_append, nothing, add_zero, foresees.sizes]

/-- An order without terms of its own leaves the running figures as they are. -/
theorem cancels (foresees : Foresees broker event before projection)
    (leading : order.leadingTerms? = none) :
    Foresees broker event (before ++ [(order, none)]) projection where
  remaining := by
    have free : broker.needs? event before order = none := by
      unfold needs?
      rw [leading, Option.bind_none]
    rw [left_append, foresees.remaining, free, Option.getD_none, sub_zero]
  sizes asset := by
    have nothing : granted asset (order, none) = 0 := by
      unfold granted
      rw [leading]
    rw [projected_append, nothing, add_zero, foresees.sizes]

/-- An order that is let through takes what it costs and moves the holding of its asset. -/
theorem granted (foresees : Foresees broker event before projection) {terms : Terms Rat}
    (leading : order.leadingTerms? = some terms) {remaining : Rat}
    (taken : remaining =
      projection.remaining - (broker.needs? event before order).getD 0) :
    Foresees broker event (before ++ [(order, none)])
      { remaining
        sizes := projection.sizes.put terms.asset
          (broker.projected before terms.asset + terms.size) } where
  remaining := by rw [left_append, taken, foresees.remaining]
  sizes asset := by
    have moved : Broker.granted asset (order, none) =
        if terms.asset = asset then terms.size else 0 := by
      unfold Broker.granted
      rw [leading]
    rw [projected_append, moved, Table.get?_put]
    split
    · rename_i same
      rw [Option.getD_some, same]
    · rw [foresees.sizes, add_zero]

/-- The decision on an order, told by the figures. -/
theorem ruling?_eq (foresees : Foresees broker event before projection) (terms : Terms Rat) :
    broker.ruling? event projection terms =
      let sizes := projection.sizes.put terms.asset
        (broker.projected before terms.asset + terms.size)
      match broker.valuation? event before terms with
      | none => .ok (none, { projection with sizes })
      | some price =>
          match broker.cost? terms.asset (broker.exposure before terms) price with
          | .error error => .error error
          | .ok cost =>
              if projection.remaining < cost then
                .ok (some (.unaffordable cost projection.remaining broker.house.base), projection)
              else .ok (none, { remaining := projection.remaining - cost, sizes }) := by
  have units : addedUnits (broker.projected before terms.asset) terms.size =
      broker.exposure before terms := addedUnits_eq _ _
  unfold ruling? valuation?
  dsimp only
  rw [foresees.sizes, units]
  by_cases nothing : broker.exposure before terms = 0
  · rw [if_pos nothing, if_pos (beq_iff_eq.mpr nothing)]
  · rw [if_neg nothing, if_neg (mt beq_iff_eq.mp nothing)]
    cases broker.referencePrice? event terms with
    | none => rfl
    | some price =>
        dsimp only
        cases broker.cost? terms.asset (broker.exposure before terms) price with
        | error error => rfl
        | ok cost =>
            by_cases short : projection.remaining < cost <;> simp only [short, if_true, if_false]

/-- The decision on an order is its verdict, and the running figures stay right. -/
theorem ruling (foresees : Foresees broker event before projection) {terms : Terms Rat}
    {reason : Option (Rejection Rat)} (leading : order.leadingTerms? = some terms)
    (ruled : broker.ruling? event projection terms = .ok (reason, next)) :
    Judged broker event before (order, reason) ∧
      Foresees broker event (before ++ [(order, reason)]) next := by
  rw [foresees.ruling?_eq terms] at ruled
  dsimp only at ruled
  cases valued : broker.valuation? event before terms with
  | none =>
      have free := needs?_of_unvalued leading valued
      rw [valued] at ruled
      cases ruled
      refine ⟨judged_of_free free, foresees.granted leading ?_⟩
      rw [free, Option.getD_none, sub_zero]
  | some price =>
      have needs := needs?_of_valued leading valued
      cases charged : broker.cost? terms.asset (broker.exposure before terms) price with
      | error error =>
          simp only [valued, charged, reduceCtorEq] at ruled
      | ok cost =>
          rw [← (cost?_eq charged).1] at needs
          simp only [valued, charged, foresees.remaining] at ruled
          have convertible (positive : broker.house.rates.Positive) {other : Terms Rat}
              (same : order.leadingTerms? = some other) :
              0 < broker.house.rates.factor broker.house.base other.asset.currency := by
            cases leading.symm.trans same
            exact (cost?_eq charged).2 positive
          split at ruled
          · rename_i short
            cases ruled
            refine ⟨⟨?_, fun positive _ _ same _ => convertible positive same⟩,
              foresees.rejected _⟩
            rw [verdict, needs, Option.bind_some, if_pos short]
          · rename_i covered
            cases ruled
            refine ⟨⟨?_, fun positive _ _ same _ => convertible positive same⟩,
              foresees.granted leading ?_⟩
            · rw [verdict, needs, Option.bind_some, if_neg covered]
            · rw [foresees.remaining, needs, Option.getD_some]

end Foresees

/-- All orders of a batch are judged when they are decided on. -/
theorem judgedAfter_of_rulings {projection : Projection Rat} {batch : List (Order Rat)}
    {reasons : List (Option (Rejection Rat))}
    (foresees : Foresees broker event before projection)
    (decided : broker.rulings? event projection batch = .ok reasons) :
    JudgedAfter broker event before (batch.zip reasons) := by
  induction batch generalizing before projection reasons with
  | nil =>
      rw [List.zip_nil_left]
      exact .nil
  | cons first rest ih =>
      rcases rulings?_cons decided with ⟨reason, next, more, rfl, others, ways⟩
      rw [List.zip_cons_cons]
      rcases ways with ⟨leading, rfl, rfl⟩ | ⟨terms, leading, ruling⟩
      · have free : broker.needs? event before first = none := by
          unfold needs?
          rw [leading, Option.bind_none]
        exact .cons (judged_of_free free) (ih (foresees.cancels leading) others)
      · have step := foresees.ruling leading ruling
        exact .cons step.1 (ih step.2 others)

/-! ## What the judgements promise -/

/-- A size takes away from a holding without turning it around. -/
def Reduces (held size : Rat) : Prop :=
  0 ≤ held ∧ -held ≤ size ∧ size ≤ 0 ∨ held ≤ 0 ∧ 0 ≤ size ∧ size ≤ -held

theorem abs_add_le_of_reduces {held size : Rat} (reduces : Reduces held size) :
    |held + size| ≤ |held| := by
  rcases reduces with ⟨long, most, sale⟩ | ⟨short, purchase, most⟩
  · rw [abs_of_nonneg long, abs_of_nonneg (by linarith)]
    linarith
  · rw [abs_of_nonpos short, abs_of_nonpos (by linarith)]
    linarith

/-- Every price at which an order of a decided batch is valued is above zero. -/
def PositivelyValued (broker : Broker Rat) (event : Event Rat)
    (orders : List (Order Rat × Option (Rejection Rat))) : Prop :=
  forall before entry after terms price, orders = before ++ entry :: after ->
    entry.1.leadingTerms? = some terms -> broker.valuation? event before terms = some price ->
      0 < price

/-- What is promised of the decision on one order of a batch, given the orders before it. -/
structure SoundRuling (broker : Broker Rat) (event : Event Rat)
    (before : List (Order Rat × Option (Rejection Rat))) (order : Order Rat)
    (reason : Option (Rejection Rat)) : Prop where
  /-- It is rejected exactly when it costs more than the orders before it leave. -/
  rejected_iff : reason.isSome = true <->
    Exists fun cost => broker.needs? event before order = some cost ∧
      broker.ledger.buyingPower.value - broker.spent event before < cost
  /-- It is let through if it does not enlarge the projected holding. -/
  unenlarged : forall terms, order.leadingTerms? = some terms ->
    |broker.projected before terms.asset + terms.size| ≤ |broker.projected before terms.asset| ->
      reason = none
  /-- The first order on an asset is let through if it only takes away from the holding. -/
  reducing : forall terms, order.leadingTerms? = some terms ->
    (forall entry, entry ∈ before -> entry.1.asset? ≠ some terms.asset) ->
      Reduces (broker.ledger.position terms.asset).size terms.size -> reason = none

/-- What is promised of the decision on a batch. -/
structure SoundAdmission (broker : Broker Rat) (event : Event Rat)
    (orders : List (Order Rat × Option (Rejection Rat))) : Prop where
  /-- The orders that are let through cost no more than the buying power. -/
  covered : broker.spent event orders ≤ max broker.ledger.buyingPower.value 0
  each : forall before order reason after, orders = before ++ (order, reason) :: after ->
    SoundRuling broker event before order reason
  /-- An overdrawn account takes on no exposure. -/
  overdrawn : PositivelyValued broker event orders -> broker.ledger.buyingPower.value < 0 ->
    forall before order reason after, orders = before ++ (order, reason) :: after ->
      forall cost, broker.needs? event before order = some cost -> reason.isSome = true

theorem exposure_of_unenlarged {terms : Terms Rat}
    (unenlarged : |broker.projected before terms.asset + terms.size| ≤
      |broker.projected before terms.asset|) :
    broker.exposure before terms = 0 :=
  max_eq_left (sub_nonpos.mpr unenlarged)

/-- Orders on other assets leave the projected holding at its size. -/
theorem projected_of_others {asset : Asset}
    (others : forall entry, entry ∈ before -> entry.1.asset? ≠ some asset) :
    broker.projected before asset = (broker.ledger.position asset).size := by
  have nothing : (before.map (granted asset)).sum = 0 := by
    refine List.sum_eq_zero fun size listed => ?_
    rcases List.mem_map.mp listed with ⟨⟨order, reason⟩, member, rfl⟩
    unfold granted
    cases reason with
    | some _ => rfl
    | none =>
        cases leading : order.leadingTerms? with
        | none => rfl
        | some terms =>
            refine if_neg fun same => others _ member ?_
            simp only [Order.asset?, leading, Option.map_some, same]
  unfold projected
  rw [nothing, add_zero]

theorem Judged.sound {order : Order Rat} {reason : Option (Rejection Rat)}
    (judged : Judged broker event before (order, reason)) :
    SoundRuling broker event before order reason := by
  have reasoned : reason = broker.verdict event before order := judged.reason_eq
  have unenlarged : forall terms, order.leadingTerms? = some terms ->
      |broker.projected before terms.asset + terms.size| ≤
        |broker.projected before terms.asset| -> reason = none := by
    intro terms leading within
    have unvalued : broker.valuation? event before terms = none :=
      if_pos (exposure_of_unenlarged within)
    rw [reasoned, verdict, needs?_of_unvalued leading unvalued, Option.bind_none]
  refine ⟨?_, unenlarged, fun terms leading others reduces => unenlarged terms leading ?_⟩
  · rw [reasoned]
    unfold verdict left
    cases broker.needs? event before order with
    | none => simp
    | some cost =>
        rw [Option.bind_some]
        split
        · rename_i short
          simpa using short
        · rename_i enough
          simpa using enough
  · rw [projected_of_others others]
    exact abs_add_le_of_reduces reduces

/-- Orders that are valued at positive prices cost something. -/
theorem needs?_pos {orders : List (Order Rat × Option (Rejection Rat))}
    (judged : JudgedAfter broker event [] orders) (positive : broker.house.rates.Positive)
    (prices : PositivelyValued broker event orders)
    {before after : List (Order Rat × Option (Rejection Rat))}
    {entry : Order Rat × Option (Rejection Rat)} (split : orders = before ++ entry :: after)
    {cost : Rat} (needs : broker.needs? event before entry.1 = some cost) : 0 < cost := by
  unfold needs? at needs
  rcases Option.bind_eq_some_iff.mp needs with ⟨terms, leading, valued⟩
  rcases Option.map_eq_some_iff.mp valued with ⟨price, used, rfl⟩
  have exposed : 0 < broker.exposure before terms := by
    refine lt_of_le_of_ne (le_max_left _ _) fun nothing => ?_
    unfold valuation? at used
    rw [if_pos nothing.symm] at used
    cases used
  exact mul_pos (mul_pos exposed (prices before entry after terms price split leading used))
    ((judged.at_split split).convertible positive terms price leading used)

/-- Orders judged one after the other are admitted soundly, since none gives anything back to those
after it. -/
theorem JudgedAfter.sound {orders : List (Order Rat × Option (Rejection Rat))}
    (judged : JudgedAfter broker event [] orders) (positive : broker.house.rates.Positive) :
    SoundAdmission broker event orders where
  covered := by
    rw [← left_nil]
    exact judged.spentAfter_le
  each before order reason after split := (judged.at_split split).sound
  overdrawn prices negative before order reason after split cost needs := by
    have sound : SoundRuling broker event before order reason := (judged.at_split split).sound
    refine sound.rejected_iff.mpr ⟨cost, needs, ?_⟩
    have spent : 0 ≤ broker.spentAfter event [] before := by
      refine spentAfter_nonneg fun earlier entry later cost inside needs => ?_
      have whole : orders = earlier ++ entry :: (later ++ (order, reason) :: after) := by
        rw [split, inside, List.append_assoc, List.cons_append]
      exact needs?_pos judged positive prices whole needs
    have costly := needs?_pos judged positive prices split needs
    unfold Broker.spent
    linarith

/--
The buying power that an account shows covers what is taken on against it.  If
the decision on a batch cannot be made for want of a rate for the base currency,
nothing is placed; otherwise every order is judged soundly, and those that the
buying power does not cover are recorded as rejected.
-/
theorem admission_is_sound {house : House Rat} (reached : Reachable house broker)
    (checks : house.checksBuyingPower = true) {root : Currency} {given : Table Currency Rat}
    (read : Rates.of? root given = .ok house.rates) {batch : List (Order Rat)}
    (taken : broker.refusal? batch event = none) :
    (house.rates.supports house.base = false ∧ (broker.place batch event).state = broker ∧
        Exists fun error => (broker.place batch event).result = .error (.money error)) ∨
      Exists fun orders => broker.admission? batch event = .ok orders ∧
        orders.map Prod.fst = batch ∧ SoundAdmission broker event orders ∧
        forall before order reason after, orders = before ++ (order, reason) :: after ->
          order.isCancel = false -> Exists fun state =>
            (broker.place batch event).state.ledger.orders.get?
                (some (broker.engine.nextId + before.length)) = some state ∧
              (state.status = .rejected <-> reason.isSome = true ∨ order.defect?.isSome = true) := by
  have same := reached.house_eq
  subst same
  have positive := Rates.positive_of_of? read
  cases decided : broker.admission? batch event with
  | error error =>
      refine Or.inl ⟨?_, ?_, error, ?_⟩
      · cases base : broker.house.rates.supports broker.house.base with
        | false => rfl
        | true =>
            rcases admission?_ok (refusal?_eq_none_iff.mp taken).2.1 base event with ⟨_, all⟩
            cases decided.symm.trans all
      · simp only [place, taken, decided]
      · simp only [place, taken, decided]
  | ok orders =>
      rcases reached.recorded with ⟨count, recorded⟩
      refine Or.inr ⟨orders, rfl, orders_of_admission? decided, ?_, ?_⟩
      · unfold admission? at decided
        rw [checks, if_pos rfl] at decided
        split at decided
        · rename_i reasons ruled
          cases decided
          exact (judgedAfter_of_rulings foresees_projection ruled).sound positive
        · cases decided
      · intro before order reason after split trades
        have among : (broker.engine.nextId + before.length, order, reason) ∈
            labelled broker.engine.nextId orders :=
          mem_labelled_iff.mpr ⟨before, after, split, rfl⟩
        rcases recorded.status_placed taken decided among trades with ⟨state, found, refused⟩
        refine ⟨state, found, refused.trans ?_⟩
        unfold refuses Engine.cause?
        rw [trades]
        cases reason <;> simp

/-- A house in dollars that also trades in euros. -/
def exchangeHouse : House Rat where
  rates := { base := "USD", table := Table.ofList [("USD", 1), ("EUR", 5 / 4)] }
  deposit := Wallet.ofAmounts [⟨"USD", 1000⟩]

def exchangeEvent (time : Instant) : Event Rat where
  time
  prices := Table.ofList
    [({ symbol := "QQQ" }, .trade { symbol := "QQQ" } 100 none),
      ({ symbol := "SAP", currency := "EUR" },
        .trade { symbol := "SAP", currency := "EUR" } 40 none)]

/-- An account with five shares in dollars and as much cash as they cost. -/
def halfInvested : Broker Rat :=
  ((idle exchangeHouse).reset.state.place [purchase 5] (exchangeEvent ⟨0⟩)).state

/-- Turn the holding around, go further short, and buy eight or six shares in euros. -/
def exchangeBatch : List (Order Rat) :=
  let order (asset : Asset) (size : Rat) : Order Rat :=
    .single {} { asset, size, kind := .market }
  let euros : Asset := { symbol := "SAP", currency := "EUR" }
  [purchase (-8), purchase (-2), order euros 8, order euros 6]

/-- The second order takes 200 of the 500, so 400 for the third one are too much and 300 for the
last one are not. -/
theorem exchangeBatch_admission :
    Reachable exchangeHouse halfInvested ∧
      Exists fun orders => halfInvested.admission? exchangeBatch (exchangeEvent ⟨1⟩) = .ok orders ∧
        SoundAdmission halfInvested (exchangeEvent ⟨1⟩) orders ∧
        orders.map (fun entry => entry.2.isSome) = [false, false, true, false] ∧
        halfInvested.ledger.buyingPower.value = 500 ∧
        halfInvested.spent (exchangeEvent ⟨1⟩) orders = 500 := by
  have opened : open? exchangeHouse = .ok (_, _) := rfl
  have reached : Reachable exchangeHouse halfInvested :=
    (Reachable.opened opened).after (.place [purchase 5] (exchangeEvent ⟨0⟩))
  have read : Rates.of? "USD" (Table.ofList [("EUR", (5 / 4 : Rat))]) =
      .ok exchangeHouse.rates := by with_unfolding_all rfl
  have taken : halfInvested.refusal? exchangeBatch (exchangeEvent ⟨1⟩) = none := by
    decide +kernel
  have computed : (halfInvested.admission? exchangeBatch (exchangeEvent ⟨1⟩)).toOption.map
      (fun orders => (orders.map fun entry => entry.2.isSome,
        halfInvested.spent (exchangeEvent ⟨1⟩) orders)) =
        some ([false, false, true, false], 500) := by
    decide +kernel
  rcases admission_is_sound reached rfl read taken with
    ⟨unlisted, -⟩ | ⟨orders, decided, -, sound, -⟩
  · cases unlisted
  · rw [decided] at computed
    rcases Prod.mk.inj (Option.some.inj computed) with ⟨reasons, spent⟩
    exact ⟨reached, orders, decided, sound, reasons, by decide +kernel, spent⟩

end Broker
end Brokerage
