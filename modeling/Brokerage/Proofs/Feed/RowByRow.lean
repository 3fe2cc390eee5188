import Brokerage.Proofs.Feed.Merging

namespace Brokerage

/-!
The moments of one frame whose rows are in order.

Rows that come in ascending order of their instants are grouped one by one, and
the groups are in order already.  So every row makes up a moment of its own, and
the moments come in the order of the rows.
-/

namespace Arrangement

variable {β : Type} {before : β -> β -> Bool}

theorem rising_of_isChain {entries : List β}
    (chain : entries.IsChain fun first second => before second first = false) :
    rising before entries = (entries, []) := by
  induction entries with
  | nil => rfl
  | cons first rest ih =>
      cases rest with
      | nil => rfl
      | cons second rest =>
          rcases List.isChain_cons_cons.mp chain with ⟨apart, later⟩
          rw [rising, if_neg (Bool.eq_false_iff.mp apart), ih later]

/-- Entries that are in order stay where they are. -/
theorem arranged_of_isChain {entries : List β}
    (chain : entries.IsChain fun first second => before second first = false) :
    arranged before entries = entries := by
  have whole : front before entries = (entries, []) := by
    unfold front
    split
    · rename_i first second rest
      rw [if_neg (Bool.eq_false_iff.mp (List.isChain_cons_cons.mp chain).1)]
      exact rising_of_isChain chain
    · rfl
  unfold arranged
  rw [whole]
  rfl

end Arrangement

namespace Feed

section Groups

variable {α : Type} {observed : List (Option Instant × Observation α)}

/-- Observations at different instants make up a group each. -/
theorem entries_grouped (distinct : (observed.map Prod.fst).Nodup) :
    (grouped observed).entries = observed.map fun entry => (entry.1, [entry.2]) := by
  induction observed using List.reverseRecOn with
  | nil => rfl
  | append_singleton earlier entry ih =>
      rw [List.map_append, List.nodup_append'] at distinct
      rcases distinct with ⟨before, -, apart⟩
      have entries := ih before
      have absent : entry.1 ∉ (grouped earlier).keys := by
        intro listed
        rw [Table.keys, entries, List.map_map] at listed
        exact apart listed (List.mem_singleton_self _)
      rw [grouped_append_singleton, Table.get?_eq_none_iff.mpr absent,
        Table.entries_put_of_absent absent, entries, List.map_append]
      rfl

end Groups

variable {α : Type} [Quantity α]

/-- Every row of a frame makes up one moment, in the order of the rows: it is at the instant of the
row, and shows what the row observes and nothing else. -/
structure RowByRow (reading : Reading α) (frame : Frame α) (asset : Asset)
    (moments : List (Moment α)) : Prop where
  count : moments.length = frame.height
  shows {row : Nat} {moment : Moment α} (placed : moments[row]? = some moment) :
    frame.timeAt? reading row = some moment.time ∧ Exists fun observation =>
      frame.observationAt? reading asset row = some observation ∧
        moment.prices.entries = [(asset, observation)]

variable [Quantity.Ordered α] {reading : Reading α} {frame : Frame α}
  {times : List (Option Instant)}

omit [Quantity α] [Quantity.Ordered α] in
theorem filterMap_zip_some (times : List (Option Instant)) (seen : List (Observation α)) :
    ((times.zip (seen.map some)).filterMap fun pair =>
      pair.2.map fun observation => (pair.1, observation)) = times.zip seen := by
  induction times generalizing seen with
  | nil => rfl
  | cons time rest ih =>
      cases seen with
      | nil => rfl
      | cons observation seen => exact congrArg (List.cons _) (ih seen)

/-- A usable frame observes something in every row, at the instant of the row. -/
theorem exists_seen (sound : reading.Sound) (usable : frame.Usable reading)
    (read : frame.times? reading = some times) (asset : Asset) :
    Exists fun seen : List (Observation α) => frame.taken reading asset = times.zip seen ∧
      seen.length = frame.height ∧
        forall row, row < frame.height -> seen[row]? = frame.observationAt? reading asset row := by
  rcases usable.exists_observed asset with ⟨observed, others, again, whole, place⟩
  cases again.symm.trans read
  have each : (List.range frame.height).map (frame.observationAt? reading asset) ∈
      Set.range (List.map some) := by
    rw [Set.range_list_map]
    intro value listed
    rcases List.mem_map.mp listed with ⟨row, among, rfl⟩
    rcases usable.exists_observation (List.mem_range.mp among) asset with ⟨observation, shown, -⟩
    exact ⟨observation, shown.symm⟩
  rcases each with ⟨seen, same⟩
  have counted := congrArg List.length same
  rw [List.length_map, List.length_map, List.length_range] at counted
  have rows : forall row, row < frame.height ->
      (seen.map some)[row]? = some (frame.observationAt? reading asset row) := by
    intro row inside
    rw [same, List.getElem?_map, List.getElem?_range inside, Option.map_some]
  refine ⟨seen, ?_, counted, ?_⟩
  · rw [whole, ← filterMap_zip_some]
    congr 1
    apply List.ext_getElem?
    intro row
    apply Option.ext
    intro entry
    rw [List.getElem?_zip_eq_some, List.getElem?_zip_eq_some]
    apply and_congr_right
    intro told
    have inside : row < frame.height := by
      have counted : times.length = frame.height := sound.counted read
      rw [← counted]
      exact (List.getElem?_eq_some_iff.mp told).1
    rw [place row inside, rows row inside]
  · intro row inside
    have found := rows row inside
    rw [List.getElem?_map] at found
    rcases Option.map_eq_some_iff.mp found with ⟨observation, here, shown⟩
    rw [here, ← shown]

omit [Quantity.Ordered α] in
theorem usable_ofList (usable : frame.Usable reading) (asset : Asset) :
    Usable reading (Table.ofList [(asset, frame)]) := by
  intro other found listed
  have only := List.mem_singleton.mp (Table.get?_eq_some_iff.mp listed)
  rw [(Prod.mk.inj only).2]
  exact usable

/-- The rows of a frame that are in order make up one moment each. -/
theorem moments?_of_ascending (sound : reading.Sound) (usable : frame.Usable reading)
    (read : frame.times? reading = some times)
    (ascends : times.Pairwise fun left right => Frame.comesBefore left right = true)
    (asset : Asset) :
    Exists fun moments => moments? reading (Table.ofList [(asset, frame)]) = .ok moments ∧
      RowByRow reading frame asset moments ∧ moments.map Moment.time = times := by
  rcases exists_seen sound usable read asset with ⟨seen, taken, counted, shown⟩
  rcases usable.exists_times with ⟨others, same, distinct, told⟩
  cases same.symm.trans read
  have high : times.length = seen.length := by
    rw [counted]
    exact sound.counted read
  have all : observed reading (Table.ofList [(asset, frame)]) = times.zip seen := by
    change frame.taken reading asset ++ [] = _
    rw [List.append_nil, taken]
  have instants : (times.zip seen).map Prod.fst = times :=
    List.map_fst_zip (Nat.le_of_eq high)
  have groups : (grouped (times.zip seen)).entries =
      (times.zip seen).map fun entry => (entry.1, [entry.2]) :=
    entries_grouped (by rw [instants]; exact distinct)
  have inOrder : ascending (times.zip seen) = (grouped (times.zip seen)).entries := by
    apply Arrangement.arranged_of_isChain
    apply List.Pairwise.isChain
    rw [groups, List.pairwise_map]
    rw [← instants, List.pairwise_map] at ascends
    apply ascends.imp
    rintro ⟨left, _⟩ ⟨right, _⟩ first
    cases left with
    | none =>
        cases right with
        | none => rfl
        | some _ => cases first
    | some left =>
        cases right with
        | none => rfl
        | some right => exact decide_eq_false (Int.not_lt.mpr (of_decide_eq_true first))
  have made := moments?_eq sound (usable_ofList usable asset)
  rw [all, inOrder, groups, List.map_map] at made
  refine ⟨_, made, ⟨?_, ?_⟩, ?_⟩
  · rw [List.length_map, List.length_zip, high, Nat.min_self, counted]
  · intro row moment placed
    rw [List.getElem?_map] at placed
    rcases Option.map_eq_some_iff.mp placed with ⟨⟨time, observation⟩, pair, rfl⟩
    rcases List.getElem?_zip_eq_some.mp pair with ⟨first, second⟩
    have timed := (told row).symm.trans first
    have here := (shown row (Frame.inside_of_timeAt? sound timed)).symm.trans second
    refine ⟨timed, observation, here, ?_⟩
    have own := asset_of_observationAt? here
    subst own
    rfl
  · rw [List.map_map]
    exact instants

end Feed
end Brokerage
