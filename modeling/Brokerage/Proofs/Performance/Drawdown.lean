import Brokerage.Performance.Curve
import Brokerage.Proofs.Quantity.Ordered
import Mathlib.Algebra.Order.Field.Basic
import Mathlib.Algebra.Order.Field.Rat
import Mathlib.Data.List.Chain
import Mathlib.Order.Bounds.Defs
import Mathlib.Tactic.Linarith

namespace Brokerage
namespace Performance

/-!
The worst loss of an equity curve, in exact arithmetic.

The losses are worked out in one pass, each against the highest point so far.
They are the losses between two points of which the first one is the highest up
to the second.  On a curve that stays above zero no other two points lie further
apart, so the worst loss is the one between any two points in their order.
-/

/-- The loss from a point of a curve to the same or a later one, as a share of the first. -/
def LossBetween (curve : List Rat) (earlier later : Nat) (loss : Rat) : Prop :=
  earlier ≤ later ∧ Exists fun before => Exists fun after => curve[earlier]? = some before ∧
    curve[later]? = some after ∧ loss = after / before - 1

/-- A point of a curve is as high as any up to a later one. -/
def HighestUpTo (curve : List Rat) (earlier later : Nat) : Prop :=
  forall place, place ≤ later -> forall value top, curve[place]? = some value ->
    curve[earlier]? = some top -> value ≤ top

/-- The losses between any two points. -/
def losses (curve : List Rat) : Set Rat :=
  {loss | Exists fun earlier => Exists fun later => LossBetween curve earlier later loss}

/-- The losses against the highest point so far. -/
def peakLosses (curve : List Rat) : Set Rat :=
  {loss | Exists fun earlier => Exists fun later =>
    LossBetween curve earlier later loss ∧ HighestUpTo curve earlier later}

/-! ## The highest point so far -/

theorem greatest_eq_max (x y : Rat) : Quantity.greatest x y = max x y :=
  (max_def_lt x y).symm

theorem least_eq_min (x y : Rat) : Quantity.least x y = min x y := by
  rw [min_comm]
  exact (min_def_lt y x).symm

/-- The highest point up to a place. -/
def peak? (curve : List Rat) (place : Nat) : Option Rat :=
  (curve.take (place + 1)).max?

theorem peak?_eq_some_iff {curve : List Rat} {place : Nat} {top : Rat} :
    peak? curve place = some top <->
      (Exists fun earlier => earlier ≤ place ∧ curve[earlier]? = some top) ∧
        forall earlier, earlier ≤ place -> forall value, curve[earlier]? = some value ->
          value ≤ top := by
  have member : forall value, value ∈ curve.take (place + 1) <->
      Exists fun earlier => earlier ≤ place ∧ curve[earlier]? = some value := by
    intro value
    rw [List.mem_iff_getElem?]
    apply exists_congr
    intro earlier
    rw [List.getElem?_take]
    split
    · rename_i inside
      exact (and_iff_right (Nat.lt_succ_iff.mp inside)).symm
    · rename_i outside
      exact iff_of_false nofun fun found => outside (Nat.lt_succ_iff.mpr found.1)
  unfold peak?
  rw [List.max?_eq_some_iff, member]
  refine and_congr_right fun _ => ?_
  constructor
  · intro bound earlier inside value found
    exact bound value ((member value).mpr ⟨earlier, inside, found⟩)
  · intro bound value listed
    rcases (member value).mp listed with ⟨earlier, inside, found⟩
    exact bound earlier inside value found

/-- Where a curve has a point, it has a highest one so far. -/
theorem exists_peak? {curve : List Rat} {place : Nat} {value : Rat}
    (found : curve[place]? = some value) :
    Exists fun top => peak? curve place = some top ∧ value ≤ top := by
  cases known : peak? curve place with
  | none =>
      have nothing : curve.take (place + 1) = [] := List.max?_eq_none_iff.mp known
      rcases List.take_eq_nil_iff.mp nothing with wrong | empty
      · cases wrong
      · rw [empty] at found
        cases found
  | some top => exact ⟨top, rfl, (peak?_eq_some_iff.mp known).2 place le_rfl value found⟩

/-- The highest point so far does not depend on what follows. -/
theorem peak?_append {curve : List Rat} {place : Nat} (inside : place < curve.length)
    (more : List Rat) : peak? (curve ++ more) place = peak? curve place := by
  unfold peak?
  rw [List.take_append_of_le_length inside]

/-! ## Losses -/

/-- What is found against a peak are the losses against the highest point since that peak. -/
theorem getElem?_drawdownsFrom (peak : Rat) (rest : List Rat) (place : Nat) :
    (drawdownsFrom (some peak) rest)[place]? = rest[place]?.map fun value =>
      value / (rest.take (place + 1)).foldl max peak - 1 := by
  induction rest generalizing peak place with
  | nil => rfl
  | cons value rest ih =>
      rw [drawdownsFrom, Quantity.isUndefined_rat, if_neg Bool.false_ne_true]
      dsimp only
      rw [greatest_eq_max]
      cases place with
      | zero => rfl
      | succ place => exact ih (max peak value) place

theorem getElem?_drawdowns (curve : List Rat) (place : Nat) :
    (drawdowns curve)[place]? = curve[place]?.bind fun value =>
      (peak? curve place).map fun top => value / top - 1 := by
  cases curve with
  | nil => rfl
  | cons first rest =>
      unfold drawdowns peak?
      rw [drawdownsFrom, Quantity.isUndefined_rat, if_neg Bool.false_ne_true, List.take_succ_cons,
        List.max?_cons']
      cases place with
      | zero => rfl
      | succ place =>
          rw [List.getElem?_cons_succ, List.getElem?_cons_succ, getElem?_drawdownsFrom]
          cases rest[place]? <;> rfl

theorem mem_drawdowns_iff {curve : List Rat} {loss : Rat} : loss ∈ drawdowns curve <->
    Exists fun place => Exists fun value => Exists fun top => curve[place]? = some value ∧
      peak? curve place = some top ∧ loss = value / top - 1 := by
  rw [List.mem_iff_getElem?]
  apply exists_congr
  intro place
  rw [getElem?_drawdowns]
  simp only [Option.bind_eq_some_iff, Option.map_eq_some_iff]
  constructor
  · rintro ⟨value, found, top, known, same⟩
    exact ⟨value, top, found, known, same.symm⟩
  · rintro ⟨value, top, found, known, same⟩
    exact ⟨value, found, top, known, same.symm⟩

/-- The losses of the one pass are those against the highest point so far. -/
theorem mem_drawdowns_iff_peakLosses {curve : List Rat} {loss : Rat} :
    loss ∈ drawdowns curve <-> loss ∈ peakLosses curve := by
  rw [mem_drawdowns_iff]
  constructor
  · rintro ⟨later, value, top, found, known, same⟩
    rcases peak?_eq_some_iff.mp known with ⟨⟨earlier, inside, high⟩, bound⟩
    refine ⟨earlier, later, ⟨inside, top, value, high, found, same⟩, ?_⟩
    intro place before other highest shown reached
    rw [Option.some.inj (reached.symm.trans high)]
    exact bound place before other shown
  · rintro ⟨earlier, later, ⟨inside, top, value, high, found, same⟩, highest⟩
    refine ⟨later, value, top, found, peak?_eq_some_iff.mpr ⟨⟨earlier, inside, high⟩, ?_⟩, same⟩
    exact fun place before other shown => highest place before other top shown high

/-! ## The worst loss -/

theorem smallest?_eq (values : List Rat) : smallest? values = values.min? := by
  have all : (values.filter fun value => !Quantity.isUndefined value) = values := by
    apply List.filter_eq_self.mpr
    intro value _
    rw [Quantity.isUndefined_rat]
    rfl
  have least : (Quantity.least : Rat -> Rat -> Rat) = min :=
    funext fun x => funext fun y => least_eq_min x y
  unfold smallest?
  rw [all, least]
  cases values <;> rfl

theorem maxDrawdown?_eq {curve : List Rat} (some_point : curve ≠ []) :
    maxDrawdown? curve = (drawdowns curve).min? := by
  rw [← smallest?_eq]
  cases curve with
  | nil => exact absurd rfl some_point
  | cons first rest => rfl

theorem maxDrawdown?_eq_some_iff {curve : List Rat} (some_point : curve ≠ []) {worst : Rat} :
    maxDrawdown? curve = some worst <-> IsLeast (peakLosses curve) worst := by
  rw [maxDrawdown?_eq some_point, List.min?_eq_some_iff, mem_drawdowns_iff_peakLosses]
  refine and_congr_right fun _ => forall_congr' fun loss => ?_
  rw [mem_drawdowns_iff_peakLosses]

theorem exists_maxDrawdown? {curve : List Rat} (some_point : curve ≠ []) :
    Exists fun worst => maxDrawdown? curve = some worst := by
  rw [maxDrawdown?_eq some_point]
  apply Option.ne_none_iff_exists'.mp
  intro none
  have nothing := congrArg (fun values => values[0]?) (List.min?_eq_none_iff.mp none)
  rcases List.exists_cons_of_ne_nil some_point with ⟨first, rest, rfl⟩
  rw [getElem?_drawdowns] at nothing
  cases nothing

section Positive

variable {curve : List Rat} {first : Rat} (starts : curve.head? = some first)
  (positive : 0 < first)
include starts positive

/-- Every highest point so far is at least as high as the first point. -/
theorem peak?_pos {place : Nat} {top : Rat} (known : peak? curve place = some top) : 0 < top := by
  have begins : curve[0]? = some first := List.head?_eq_getElem?.symm.trans starts
  exact lt_of_lt_of_le positive ((peak?_eq_some_iff.mp known).2 0 (Nat.zero_le place) first begins)

/-- A loss is no gain. -/
theorem nonpos_of_mem_drawdowns {loss : Rat} (listed : loss ∈ drawdowns curve) : loss ≤ 0 := by
  rcases mem_drawdowns_iff.mp listed with ⟨place, value, top, found, known, rfl⟩
  have below := (peak?_eq_some_iff.mp known).2 place le_rfl value found
  have share := (div_le_one (peak?_pos starts positive known)).mpr below
  linarith

/-- There is no loss exactly when the curve never decreases. -/
theorem no_losses_iff : (forall loss, loss ∈ drawdowns curve -> loss = 0) <->
    curve.IsChain (· ≤ ·) := by
  rw [List.isChain_iff_pairwise, List.pairwise_iff_getElem]
  constructor
  · intro none earlier later inside beyond before
    have found := List.getElem?_eq_getElem beyond
    rcases exists_peak? found with ⟨top, known, -⟩
    have level := none _ (mem_drawdowns_iff.mpr ⟨later, curve[later], top, found, known, rfl⟩)
    have whole := peak?_pos starts positive known
    have same : curve[later] = top := (div_eq_one_iff_eq whole.ne').mp (sub_eq_zero.mp level)
    rw [same]
    exact (peak?_eq_some_iff.mp known).2 earlier before.le _ (List.getElem?_eq_getElem inside)
  · intro rises loss listed
    rcases mem_drawdowns_iff.mp listed with ⟨later, value, top, found, known, rfl⟩
    rcases peak?_eq_some_iff.mp known with ⟨⟨earlier, before, high⟩, bound⟩
    rcases List.getElem?_eq_some_iff.mp found with ⟨beyond, rfl⟩
    rcases List.getElem?_eq_some_iff.mp high with ⟨inside, rfl⟩
    have reached : curve[earlier] ≤ curve[later] := by
      rcases before.lt_or_eq with strictly | same
      · exact rises earlier later inside beyond strictly
      · simp only [same, le_refl]
    have level := le_antisymm (bound later le_rfl _ found) reached
    rw [level, div_self (peak?_pos starts positive known).ne', sub_self]

end Positive

/-- Points that follow take no loss away. -/
theorem drawdowns_subset_append (curve more : List Rat) :
    drawdowns curve ⊆ drawdowns (curve ++ more) := by
  intro loss listed
  rcases mem_drawdowns_iff.mp listed with ⟨place, value, top, found, known, same⟩
  have inside := (List.getElem?_eq_some_iff.mp found).1
  refine mem_drawdowns_iff.mpr ⟨place, value, top, ?_, ?_, same⟩
  · rw [List.getElem?_append_left inside, found]
  · rw [peak?_append inside, known]

/-- Of two losses down to one point above zero, the one from the higher point is worse. -/
theorem isLeast_losses {curve : List Rat} (above : forall value, value ∈ curve -> 0 < value)
    {worst : Rat} (least : IsLeast (peakLosses curve) worst) : IsLeast (losses curve) worst := by
  rcases least with ⟨⟨earlier, later, between, -⟩, bound⟩
  refine ⟨⟨earlier, later, between⟩, ?_⟩
  rintro loss ⟨other, place, before, start, value, begins, ends, rfl⟩
  rcases exists_peak? ends with ⟨top, known, -⟩
  have worse := bound (mem_drawdowns_iff_peakLosses.mp
    (mem_drawdowns_iff.mpr ⟨place, value, top, ends, known, rfl⟩))
  have higher := (peak?_eq_some_iff.mp known).2 other before start begins
  have share : value / top ≤ value / start :=
    div_le_div_of_nonneg_left (above value (List.mem_of_getElem? ends)).le
      (above start (List.mem_of_getElem? begins)) higher
  linarith

/-- On a curve that stays above zero not everything is lost. -/
theorem neg_one_lt_of_mem_losses {curve : List Rat}
    (above : forall value, value ∈ curve -> 0 < value) {loss : Rat} (lost : loss ∈ losses curve) :
    -1 < loss := by
  rcases lost with ⟨_, _, _, start, value, begins, ends, rfl⟩
  have share : 0 < value / start :=
    div_pos (above value (List.mem_of_getElem? ends)) (above start (List.mem_of_getElem? begins))
  linarith

/--
In exact arithmetic, on a curve whose first point is positive, no loss is a
gain, and the worst one is the least of the losses from a highest point so far.
It is zero exactly when the curve never decreases, and points that follow make
it no better.  If all points are positive, it is the least of the losses between
any two points in their order, and less than the whole.
-/
theorem maxDrawdown_is_worst_loss {curve : List Rat} {first : Rat}
    (starts : curve.head? = some first) (positive : 0 < first) :
    (forall loss, loss ∈ drawdowns curve -> loss ≤ 0) ∧
      Exists fun worst => maxDrawdown? curve = some worst ∧
        IsLeast (peakLosses curve) worst ∧ worst ≤ 0 ∧
        (worst = 0 <-> curve.IsChain (· ≤ ·)) ∧
        (forall more, Exists fun other =>
          maxDrawdown? (curve ++ more) = some other ∧ other ≤ worst) ∧
        ((forall value, value ∈ curve -> 0 < value) ->
          IsLeast (losses curve) worst ∧ -1 < worst) := by
  have some_point : curve ≠ [] := by
    rintro rfl
    cases starts
  have losing : forall loss, loss ∈ drawdowns curve -> loss ≤ 0 :=
    fun _ => nonpos_of_mem_drawdowns starts positive
  rcases exists_maxDrawdown? some_point with ⟨worst, found⟩
  have least := (maxDrawdown?_eq_some_iff some_point).mp found
  have listed := mem_drawdowns_iff_peakLosses.mpr least.1
  refine ⟨losing, worst, found, least, losing worst listed, ?_, ?_, ?_⟩
  · rw [← no_losses_iff starts positive]
    constructor
    · rintro rfl loss lost
      exact le_antisymm (losing loss lost) (least.2 (mem_drawdowns_iff_peakLosses.mp lost))
    · exact fun none => none worst listed
  · intro more
    have some_more : curve ++ more ≠ [] := List.append_ne_nil_of_left_ne_nil some_point more
    rcases exists_maxDrawdown? some_more with ⟨other, after⟩
    have lower := (maxDrawdown?_eq_some_iff some_more).mp after
    exact ⟨other, after, lower.2 (mem_drawdowns_iff_peakLosses.mp
      (drawdowns_subset_append curve more listed))⟩
  · intro above
    have all := isLeast_losses above least
    exact ⟨all, neg_one_lt_of_mem_losses above all.1⟩

/-- A curve that falls twice, the second time to half of its highest point. -/
def halvedCurve : List Rat :=
  [100, 120, 90, 130, 65]

/-- The second fall is the worst loss; a third one, below zero, loses more than the whole. -/
theorem halvedCurve_losses :
    (halvedCurve.head? = some 100 ∧ (0 : Rat) < 100) ∧
      maxDrawdown? halvedCurve = some (-1 / 2) ∧ IsLeast (losses halvedCurve) (-1 / 2) ∧
      maxDrawdown? (halvedCurve ++ [-13]) = some (-11 / 10) := by
  have starts : halvedCurve.head? = some 100 := rfl
  have positive : (0 : Rat) < 100 := by decide
  have halved : maxDrawdown? halvedCurve = some (-1 / 2) := by decide +kernel
  have above : forall value, value ∈ halvedCurve -> 0 < value := by decide
  rcases (maxDrawdown_is_worst_loss starts positive).2 with ⟨worst, found, -, -, -, -, all⟩
  cases found.symm.trans halved
  exact ⟨⟨starts, positive⟩, halved, (all above).1, by decide +kernel⟩

end Performance
end Brokerage
