import Brokerage.Proofs.Feed.Reordering

namespace Brokerage

/-!
Frames whose rows are put in order.

Putting the rows of a frame in order reads its instants and takes the rows in
another order.  A usable frame stays usable, and the rows then come in ascending
order of their instants, with a row that has none at the end.
-/

namespace Frame

/-! ## Instants that are read -/

section Timed

variable {α : Type} {frame : Frame α} {times : List (Option Instant)} {name : String}

/-- The frame with its instants read. -/
def timed (frame : Frame α) (times : List (Option Instant)) : Frame α where
  columns := frame.columns.map fun (name, entries) =>
    if name = "timestamp" then (name, times.map Entry.time) else (name, entries)

theorem columns_timed (frame : Frame α) (times : List (Option Instant)) :
    (frame.timed times).columns = frame.columns.map fun column =>
      (column.1, if column.1 = "timestamp" then times.map Entry.time else column.2) := by
  apply List.map_congr_left
  intro column _
  change (if column.1 = "timestamp" then _ else _ : String × List (Entry α)) = _
  split <;> rfl

theorem names_timed (frame : Frame α) (times : List (Option Instant)) :
    (frame.timed times).names = frame.names := by
  unfold names
  rw [columns_timed, List.map_map]
  rfl

theorem lookup_timed (frame : Frame α) (times : List (Option Instant)) (name : String) :
    (frame.timed times).columns.lookup name = (frame.columns.lookup name).map fun entries =>
      if name = "timestamp" then times.map Entry.time else entries := by
  rw [columns_timed]
  exact lookup_map (fun name entries =>
    if name = "timestamp" then times.map Entry.time else entries) frame.columns name

theorem column_timed_of_ne (other : name ≠ "timestamp") :
    (frame.timed times).column name = frame.column name := by
  unfold column
  rw [lookup_timed]
  simp only [if_neg other, Option.map_id']

theorem column_timed (named : "timestamp" ∈ frame.names) :
    (frame.timed times).column "timestamp" = times.map Entry.time := by
  rcases exists_lookup named with ⟨entries, found⟩
  unfold column
  rw [lookup_timed, found]
  rfl

end Timed

variable {α : Type} [Quantity α] [Quantity.Ordered α] {reading : Reading α} {frame : Frame α}
  {times : List (Option Instant)}

/-- Instants that have been read are read as themselves. -/
theorem Usable.times?_timed (sound : reading.Sound) (usable : frame.Usable reading)
    (read : frame.times? reading = some times) :
    (frame.timed times).times? reading = some times := by
  unfold times?
  rw [column_timed (usable.mem_names (by decide))]
  exact sound.again read fun _ listed => listed

/-- Reading the instants leaves a usable frame. -/
theorem Usable.timed (sound : reading.Sound) (usable : frame.Usable reading)
    (read : frame.times? reading = some times) :
    (frame.timed times).Usable reading ∧ (frame.timed times).height = frame.height := by
  rcases defect?_eq_none_iff.mp usable.checked with ⟨columns, ⟨others, same, distinct⟩, prices⟩
  cases same.symm.trans read
  have named : "timestamp" ∈ frame.names := usable.mem_names (by decide)
  have stamps : (frame.timed times).column "timestamp" = times.map Entry.time :=
    column_timed named
  have high : times.length = frame.height := sound.counted read
  have height : (frame.timed times).height = frame.height := by
    unfold height
    rw [stamps, List.length_map]
    exact high
  refine ⟨⟨?_, ?_, ?_⟩, height⟩
  · apply defect?_eq_none_iff.mpr
    refine ⟨?_, ⟨times, usable.times?_timed sound read, distinct⟩, ?_⟩
    · unfold columnDefect?
      rw [names_timed]
      exact columns
    · have priced : (frame.timed times).priceColumns = frame.priceColumns := by
        unfold priceColumns hasBars
        rw [names_timed]
      intro name among entry listed
      rw [priced] at among
      have other : name ≠ "timestamp" := by
        rintro rfl
        unfold priceColumns at among
        split at among <;> exact absurd among (by decide)
      rw [column_timed_of_ne other] at listed
      exact prices name among entry listed
  · intro column listed
    rw [height]
    rw [columns_timed] at listed
    rcases List.mem_map.mp listed with ⟨old, among, rfl⟩
    dsimp only
    split
    · rw [List.length_map]
      exact high
    · exact usable.level old among
  · intro entry listed
    rw [column_timed_of_ne (by decide)] at listed
    exact usable.volumes entry listed

/-! ## Rows in order -/

/-- Every instant with its row, in ascending order. -/
def stamped (times : List (Option Instant)) : List (Option Instant × Nat) :=
  times.zipIdx.mergeSort fun left right => comesBefore left.1 right.1

omit [Quantity α] [Quantity.Ordered α] in
theorem sorted_eq (read : frame.times? reading = some times) :
    frame.sorted reading = (frame.timed times).reordered ((stamped times).map Prod.snd) := by
  unfold sorted
  rw [read]
  rfl

omit [Quantity α] [Quantity.Ordered α] in
/-- Rows that are in order stay where they are. -/
theorem sorted_of_ascends (read : frame.times? reading = some times)
    (ascends : times.zipIdx.Pairwise fun left right => comesBefore left.1 right.1 = true) :
    frame.sorted reading = (frame.timed times).reordered (List.range times.length) := by
  rw [sorted_eq read, stamped, List.mergeSort_of_pairwise ascends, List.zipIdx_map_snd,
    ← List.range_eq_range']

/-- Every instant stands with the row that it was read from. -/
theorem getElem?_of_stamped {time : Option Instant} {row : Nat}
    (listed : (time, row) ∈ stamped times) : times[row]? = some time :=
  List.mk_mem_zipIdx_iff_getElem?.mp ((List.mergeSort_perm _ _).subset listed)

theorem stamped_rows (times : List (Option Instant)) :
    ((stamped times).map Prod.snd).Perm (List.range times.length) := by
  have rows := (List.mergeSort_perm times.zipIdx
    fun left right => comesBefore left.1 right.1).map Prod.snd
  rw [List.zipIdx_map_snd, ← List.range_eq_range'] at rows
  exact rows

theorem stamped_ascends (times : List (Option Instant)) :
    ((stamped times).map Prod.fst).Pairwise fun left right => comesBefore left right = true := by
  apply List.pairwise_map.mpr
  apply List.pairwise_mergeSort
  · rintro ⟨first, _⟩ ⟨second, _⟩ ⟨third, _⟩ early late
    cases third with
    | none => cases first <;> rfl
    | some third =>
        cases second with
        | none => cases late
        | some second =>
            cases first with
            | none => cases early
            | some first =>
                exact decide_eq_true
                  (Int.le_trans (of_decide_eq_true early) (of_decide_eq_true late))
  · rintro ⟨first, _⟩ ⟨second, _⟩
    cases first with
    | none => cases second <;> rfl
    | some first =>
        cases second with
        | none => rfl
        | some second =>
            rw [Bool.or_eq_true]
            exact (Int.le_total first.nanoseconds second.nanoseconds).imp decide_eq_true
              decide_eq_true

theorem stamped_distinct (distinct : times.Nodup) : ((stamped times).map Prod.fst).Nodup := by
  have same := (List.mergeSort_perm times.zipIdx
    fun left right => comesBefore left.1 right.1).map Prod.fst
  rw [List.zipIdx_map_fst] at same
  exact same.nodup_iff.mpr distinct

/-- Of distinct instants in ascending order only the last one can be missing. -/
theorem dated_before_last (distinct : times.Nodup)
    (ascends : times.Pairwise fun left right => comesBefore left right = true)
    {time : Option Instant} (listed : time ∈ times.dropLast) :
    Exists fun instant => time = some instant := by
  induction times with
  | nil => cases listed
  | cons first rest ih =>
      cases rest with
      | nil => cases listed
      | cons second rest =>
          rw [List.dropLast_cons_cons] at listed
          rcases List.mem_cons.mp listed with rfl | later
          · cases time with
            | some instant => exact ⟨instant, rfl⟩
            | none =>
                have before := (List.pairwise_cons.mp ascends).1 second List.mem_cons_self
                cases second with
                | some _ => cases before
                | none => exact absurd List.mem_cons_self (List.nodup_cons.mp distinct).1
          · exact ih (List.nodup_cons.mp distinct).2 (List.pairwise_cons.mp ascends).2 later

/-- The rows in order say of their instants what was read of them. -/
theorem map_stamped (times : List (Option Instant)) :
    ((stamped times).map Prod.snd).map (fun row => (times[row]?).getD none) =
      (stamped times).map Prod.fst := by
  rw [List.map_map]
  apply List.map_congr_left
  rintro ⟨time, row⟩ listed
  rw [Function.comp_apply, getElem?_of_stamped listed]
  rfl

theorem mem_of_mem_stamped {time : Option Instant}
    (listed : time ∈ (stamped times).map Prod.fst) : time ∈ times := by
  rcases List.mem_map.mp listed with ⟨⟨_, row⟩, among, rfl⟩
  exact List.mem_of_getElem? (getElem?_of_stamped among)

variable (sound : reading.Sound) (usable : frame.Usable reading)
  (read : frame.times? reading = some times)
include sound usable read

/-- The rows come in ascending order of the instants that were read. -/
theorem Usable.times?_sorted :
    (frame.sorted reading).times? reading = some ((stamped times).map Prod.fst) := by
  have named : "timestamp" ∈ frame.names := usable.mem_names (by decide)
  have stamps : ((frame.sorted reading).column "timestamp") =
      ((stamped times).map Prod.fst).map Entry.time := by
    rcases exists_lookup named with ⟨entries, found⟩
    unfold column
    rw [sorted_eq read, lookup_reordered, lookup_timed, found, Option.map_some, Option.map_some,
      Option.getD_some, if_pos rfl, List.map_map, List.map_map]
    apply List.map_congr_left
    rintro ⟨time, row⟩ listed
    rw [Function.comp_apply, Function.comp_apply, List.getElem?_map, getElem?_of_stamped listed]
    rfl
  unfold times?
  rw [stamps]
  exact sound.again read fun _ => mem_of_mem_stamped

/-- The rows of a usable frame can be put in order. -/
theorem Usable.sorted :
    (frame.sorted reading).Usable reading ∧ (frame.sorted reading).height = frame.height := by
  rcases usable.timed sound read with ⟨timed, height⟩
  have turned : (frame.timed times).Turned reading ((stamped times).map Prod.snd)
      (frame.sorted reading) := by
    refine ⟨?_, sorted_eq read, fun {others} again => ?_⟩
    · have rows := stamped_rows times
      rw [sound.counted read] at rows
      rw [height]
      exact rows
    · have same := usable.times?_timed sound read
      cases same.symm.trans again
      rw [map_stamped]
      exact usable.times?_sorted sound read
  exact ⟨turned.usable sound timed, (turned.height timed).trans height⟩

end Frame
end Brokerage
