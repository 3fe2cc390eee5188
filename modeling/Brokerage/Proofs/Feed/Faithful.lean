import Brokerage.Proofs.Feed.Merging
import Brokerage.Proofs.Feed.Reordering
import Mathlib.Data.List.Forall2

namespace Brokerage
namespace Feed

/-!
Moments that say what the frames say.

The moments of usable frames lose, invent and reorder nothing exactly when every
row has an instant.  A row without one passes the check and is shown in a moment
at no instant, which may stand anywhere between the others.
-/

variable {α : Type} [Quantity α]

/-- Every row of every frame has an instant. -/
def Dated (reading : Reading α) (frames : Table Asset (Frame α)) : Prop :=
  forall asset frame, frames.get? asset = some frame -> frame.Dated reading

/-- A row of the frame of an asset observes it at an instant. -/
def Observes (reading : Reading α) (frames : Table Asset (Frame α)) (asset : Asset)
    (time : Instant) (observation : Observation α) : Prop :=
  Exists fun frame => frames.get? asset = some frame ∧ Exists fun row =>
    frame.instantAt? reading row = some time ∧
      frame.observationAt? reading asset row = some observation

/-- Moments that lose, invent and reorder nothing of what the frames say. -/
structure Faithful (reading : Reading α) (frames : Table Asset (Frame α))
    (moments : List (Moment α)) : Prop where
  ascending : moments.Pairwise fun left right => isBefore left.time right.time = true
  /-- One moment, once, is at the instant of a row, and it shows what the row observes. -/
  rows : forall {asset : Asset} {frame : Frame α} {row : Nat} {time : Instant},
    frames.get? asset = some frame -> frame.instantAt? reading row = some time ->
      Exists fun moment =>
        moments.filter (fun moment => decide (moment.time = some time)) = [moment] ∧
        Exists fun observation => frame.observationAt? reading asset row = some observation ∧
          moment.observation? asset = some observation ∧
          forall price, price ∈ observation.prices -> 0 < price
  nothingElse : forall {moment : Moment α} {asset : Asset} {observation : Observation α},
    moment ∈ moments -> moment.observation? asset = some observation ->
      Exists fun time => moment.time = some time ∧
        Observes reading frames asset time observation
  occupied : forall {moment : Moment α}, moment ∈ moments ->
    Exists fun asset => Exists fun observation => moment.observation? asset = some observation

/-- The same assets have the same frames, up to the order of the rows in each. -/
def Rearranged (reading : Reading α) (frames others : Table Asset (Frame α)) : Prop :=
  forall asset, Option.Rel (fun frame other => Exists fun order =>
    frame.Turned reading order other) (frames.get? asset) (others.get? asset)

/-- Moments that show the same at the same instants, one after the other. -/
def Alike (moments others : List (Moment α)) : Prop :=
  List.Forall₂ (fun moment other => moment.time = other.time ∧
    forall asset, moment.observation? asset = other.observation? asset) moments others

variable {reading : Reading α} {frames others : Table Asset (Frame α)}
  {moments again : List (Moment α)} {asset : Asset} {observation : Observation α}
  {moment : Moment α}

/-! ## The order of instants -/

theorem isBefore_iff {left right : Option Instant} : isBefore left right = true <->
    Exists fun early => Exists fun late => left = some early ∧ right = some late ∧
      early < late := by
  cases left with
  | none => simp [isBefore]
  | some early =>
      cases right with
      | none => simp [isBefore]
      | some late => simp [isBefore]

theorem ne_of_isBefore {left right : Option Instant} (before : isBefore left right = true) :
    left ≠ right := by
  rintro rfl
  rcases isBefore_iff.mp before with ⟨early, late, same, other, earlier⟩
  cases same.symm.trans other
  exact Int.lt_irrefl _ earlier

theorem isBefore_asymm {left right : Option Instant} (before : isBefore left right = true) :
    isBefore right left ≠ true := by
  intro behind
  rcases isBefore_iff.mp before with ⟨early, late, rfl, rfl, earlier⟩
  exact Int.lt_asymm earlier (of_decide_eq_true behind)

/-! ## What moments show -/

section Moments

variable [Quantity.Ordered α] (sound : reading.Sound) (usable : Usable reading frames)
include sound usable

end Moments

/-! ## Faithful moments are determined -/

theorem Faithful.observation?_iff (faithful : Faithful reading frames moments)
    (listed : moment ∈ moments) : moment.observation? asset = some observation <->
      Exists fun time => moment.time = some time ∧
        Observes reading frames asset time observation := by
  constructor
  · exact faithful.nothingElse listed
  · rintro ⟨time, timed, frame, found, row, known, shown⟩
    rcases faithful.rows found known with ⟨other, single, observation, same, shows, _⟩
    have member : moment ∈ moments.filter fun other => decide (other.time = some time) :=
      List.mem_filter.mpr ⟨listed, decide_eq_true timed⟩
    rw [single, List.mem_singleton] at member
    rw [member, shows, ← same, shown]

theorem Faithful.mem_times_iff (faithful : Faithful reading frames moments)
    {told : Option Instant} : told ∈ moments.map Moment.time <->
      Exists fun time => told = some time ∧ Exists fun asset => Exists fun observation =>
        Observes reading frames asset time observation := by
  constructor
  · intro listed
    rcases List.mem_map.mp listed with ⟨moment, member, rfl⟩
    rcases faithful.occupied member with ⟨asset, observation, shows⟩
    rcases faithful.nothingElse member shows with ⟨time, timed, observes⟩
    exact ⟨time, timed, asset, observation, observes⟩
  · rintro ⟨time, rfl, asset, observation, frame, found, row, known, _⟩
    rcases faithful.rows found known with ⟨moment, single, _⟩
    have member : moment ∈ moments.filter fun moment => decide (moment.time = some time) :=
      single ▸ List.mem_singleton_self moment
    rcases List.mem_filter.mp member with ⟨listed, timed⟩
    exact of_decide_eq_true timed ▸ List.mem_map_of_mem listed

theorem Faithful.times_ascend (faithful : Faithful reading frames moments) :
    (moments.map Moment.time).Pairwise fun left right => isBefore left right = true :=
  List.pairwise_map.mpr faithful.ascending

/-- Moments that are faithful to the same observations are alike. -/
theorem Faithful.alike (first : Faithful reading frames moments)
    (second : Faithful reading others again)
    (same : forall asset time observation, Observes reading frames asset time observation <->
      Observes reading others asset time observation) : Alike moments again := by
  have distinct : forall {times : List (Option Instant)},
      (times.Pairwise fun left right => isBefore left right = true) -> times.Nodup :=
    fun ascends => ascends.imp ne_of_isBefore
  have members : forall time, time ∈ moments.map Moment.time <->
      time ∈ again.map Moment.time := by
    intro time
    rw [first.mem_times_iff, second.mem_times_iff]
    simp only [same]
  have times : moments.map Moment.time = again.map Moment.time := by
    apply List.Perm.eq_of_pairwise _ first.times_ascend second.times_ascend
    · exact (List.perm_ext_iff_of_nodup (distinct first.times_ascend)
        (distinct second.times_ascend)).mpr members
    · intro left right _ _ earlier later
      exact absurd later (isBefore_asymm earlier)
  have paired : List.Forall₂ (fun moment other => moment.time = other.time) moments again := by
    have equal := List.forall₂_eq_eq_eq.symm ▸ times
    exact List.forall₂_map_left_iff.mp (List.forall₂_map_right_iff.mp equal)
  apply List.forall₂_iff_zip.mpr
  refine ⟨paired.length_eq, ?_⟩
  intro moment other listed
  have timed := List.forall₂_iff_zip.mp paired |>.2 listed
  refine ⟨timed, ?_⟩
  intro asset
  apply Option.ext
  intro observation
  rcases List.of_mem_zip listed with ⟨one, another⟩
  rw [first.observation?_iff one, second.observation?_iff another, timed]
  simp only [same]

/-! ## The order of rows and frames -/

section Order

omit [Quantity α] in
/-- The frame of an asset after a rearrangement comes from its frame before it. -/
theorem Rearranged.exists_frame (rearranged : Rearranged reading frames others)
    {other : Frame α} (found : others.get? asset = some other) :
    Exists fun frame => frames.get? asset = some frame ∧
      Exists fun order => frame.Turned reading order other := by
  have related := rearranged asset
  rw [found] at related
  cases shown : frames.get? asset with
  | none =>
      rw [shown] at related
      cases related
  | some frame =>
      rw [shown] at related
      cases related with
      | some turned => exact ⟨frame, rfl, turned⟩

variable [Quantity.Ordered α] (rearranged : Rearranged reading frames others)
  (sound : reading.Sound) (usable : Usable reading frames)
include rearranged sound usable

theorem Rearranged.dated (dated : Dated reading frames) : Dated reading others := by
  intro asset other found row inside
  rcases rearranged.exists_frame found with ⟨frame, before, order, turned⟩
  have known := usable asset frame before
  rw [turned.height known, ← List.length_range (n := frame.height), ← turned.rows.length_eq]
    at inside
  have taken := List.getElem?_eq_getElem inside
  have old := turned.rows.subset (List.mem_of_getElem? taken)
  rcases dated asset frame before _ (List.mem_range.mp old) with ⟨time, named⟩
  refine ⟨time, ?_⟩
  rw [Frame.instantAt?, turned.timeAt? sound known, taken]
  exact named

end Order

end Feed
end Brokerage
