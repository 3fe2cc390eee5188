import Brokerage.Proofs.Feed.Grouping
import Brokerage.Proofs.Feed.Rows

namespace Brokerage
namespace Feed

/-!
The moments of several frames.

Each frame observes its own asset at most once at an instant, and no two frames
are of one asset.  So no group observes an asset twice, and usable frames
always make up moments.
-/

variable {α : Type} [Quantity α]

/-- All frames are usable. -/
def Usable (reading : Reading α) (frames : Table Asset (Frame α)) : Prop :=
  forall asset frame, frames.get? asset = some frame -> frame.Usable reading

/-- The observations of the frames, frame by frame. -/
def observed (reading : Reading α) (frames : Table Asset (Frame α)) :
    List (Option Instant × Observation α) :=
  frames.entries.flatMap fun entry => entry.2.taken reading entry.1

variable {reading : Reading α} {frames : Table Asset (Frame α)} {asset : Asset} {frame : Frame α}
  {row : Nat} {time : Option Instant} {observation : Observation α}

omit [Quantity α] in
theorem asset_of_observationAt? (observed : frame.observationAt? reading asset row = some observation) :
    observation.asset = asset := by
  unfold Frame.observationAt? at observed
  split at observed
  · simp only [Option.bind_eq_bind, Option.bind_eq_some_iff, Option.some.injEq] at observed
    rcases observed with ⟨_, _, _, _, _, _, _, _, same⟩
    rw [← same]
    rfl
  · simp only [Option.bind_eq_bind, Option.bind_eq_some_iff, Option.some.injEq] at observed
    rcases observed with ⟨_, _, same⟩
    rw [← same]
    rfl

theorem observations?_eq {entries : List (Asset × Frame α)}
    (usable : forall entry, entry ∈ entries -> entry.2.Usable reading) :
    observations? reading entries =
      .ok (entries.flatMap fun entry => entry.2.taken reading entry.1) := by
  induction entries with
  | nil => rfl
  | cons entry rest ih =>
      rcases List.forall_mem_cons.mp usable with ⟨head, tail⟩
      rw [observations?, head.observations?_ok, ih tail]
      rfl

variable [Quantity.Ordered α]

/-- All that a frame observes is of its own asset. -/
theorem assets_taken (sound : reading.Sound) (usable : frame.Usable reading) :
    (frame.taken reading asset).map (fun shown => (shown.1, shown.2.asset)) =
      ((frame.taken reading asset).map Prod.fst).map fun time => (time, asset) := by
  rw [List.map_map]
  apply List.map_congr_left
  rintro ⟨time, observation⟩ taken
  rcases (usable.mem_taken sound).mp taken with ⟨_, _, shown⟩
  exact congrArg (Prod.mk time) (asset_of_observationAt? shown)

theorem asset_of_mem_taken (sound : reading.Sound) (usable : frame.Usable reading)
    {shown : Option Instant × Asset}
    (listed : shown ∈ (frame.taken reading asset).map fun entry => (entry.1, entry.2.asset)) :
    shown.2 = asset := by
  rw [assets_taken sound usable] at listed
  rcases List.mem_map.mp listed with ⟨_, _, rfl⟩
  rfl

/-- No asset is observed twice at an instant. -/
theorem nodup_observed (sound : reading.Sound) (usable : Usable reading frames) :
    ((observed reading frames).map fun entry => (entry.1, entry.2.asset)).Nodup := by
  have each : forall entry, entry ∈ frames.entries -> entry.2.Usable reading :=
    fun entry listed => usable entry.1 entry.2 (Table.get?_eq_some_iff.mpr listed)
  unfold observed
  rw [List.map_flatMap, List.nodup_flatMap]
  constructor
  · intro entry listed
    rw [assets_taken sound (each entry listed)]
    apply (each entry listed).nodup_taken.map
    intro left right same
    exact (Prod.mk.inj same).1
  · have apart := List.pairwise_map.mp frames.distinct
    apply apart.imp_of_mem
    intro left right first second different shown one other
    exact different ((asset_of_mem_taken sound (each left first) one).symm.trans
      (asset_of_mem_taken sound (each right second) other))

/-- Usable frames make up the moments of their groups. -/
theorem moments?_eq (sound : reading.Sound) (usable : Usable reading frames) :
    moments? reading frames = .ok ((ascending (observed reading frames)).map momentOf) := by
  have each : forall entry, entry ∈ frames.entries -> entry.2.Usable reading :=
    fun entry listed => usable entry.1 entry.2 (Table.get?_eq_some_iff.mpr listed)
  have distinct : forall group, group ∈ ascending (observed reading frames) ->
      (group.2.map Observation.asset).Nodup := by
    intro group listed
    rw [(mem_ascending.mp listed).2]
    exact nodup_gathered (nodup_observed sound usable) group.1
  unfold moments?
  rw [observations?_eq each]
  have made := momentsOf?_eq distinct
  unfold ascending observed at made ⊢
  dsimp only
  rw [made]

end Feed
end Brokerage
