import Brokerage.Proofs.Feed.Rows
import Mathlib.Data.List.Perm.Basic

namespace Brokerage
namespace Frame

/-!
Frames whose rows stand in another order.

The columns keep their names and their entries, and a row observes what the row
observes that it comes from.  Where the instants are still read as they were,
a frame stays usable, and stays dated, in every order of its rows.
-/

section Columns

variable {α : Type} {frame : Frame α} {name : String} {row : Nat} {order : List Nat}

theorem names_reordered (frame : Frame α) (order : List Nat) :
    (frame.reordered order).names = frame.names := by
  unfold names reordered
  rw [List.map_map]
  rfl

theorem hasBars_reordered (frame : Frame α) (order : List Nat) :
    (frame.reordered order).hasBars = frame.hasBars := by
  unfold hasBars
  rw [names_reordered]

theorem lookup_reordered (frame : Frame α) (order : List Nat) (name : String) :
    (frame.reordered order).columns.lookup name = (frame.columns.lookup name).map fun entries =>
      order.map fun old => (entries[old]?).getD .missing :=
  lookup_map (fun _ entries => order.map fun old => (entries[old]?).getD .missing) frame.columns
    name

/-- Every row of a list, taken once, makes up the list. -/
theorem map_range_getD {β : Type} (entries : List β) (default : β) :
    (List.range entries.length).map (fun old => (entries[old]?).getD default) = entries := by
  apply List.ext_getElem
  · rw [List.length_map, List.length_range]
  · intro place _ inside
    rw [List.getElem_map, List.getElem_range, List.getElem?_eq_getElem inside, Option.getD_some]

theorem columnDefect?_reordered (frame : Frame α) (order : List Nat) :
    (frame.reordered order).columnDefect? = frame.columnDefect? := by
  unfold columnDefect?
  rw [names_reordered]

theorem priceColumns_reordered (frame : Frame α) (order : List Nat) :
    (frame.reordered order).priceColumns = frame.priceColumns := by
  unfold priceColumns
  rw [hasBars_reordered]

end Columns

variable {α : Type} [Quantity α] {reading : Reading α} {frame other : Frame α} {asset : Asset}
  {name : String} {row : Nat} {order : List Nat}

/-- A frame whose rows come in another order and still say the same of their instants. -/
structure Turned (reading : Reading α) (frame : Frame α) (order : List Nat) (other : Frame α) :
    Prop where
  rows : order.Perm (List.range frame.height)
  reordered : other = frame.reordered order
  times {times : List (Option Instant)} (read : frame.times? reading = some times) :
    other.times? reading = some (order.map fun old => (times[old]?).getD none)

/-- A column keeps its entries. -/
theorem Usable.column_reordered_perm (usable : frame.Usable reading)
    (rows : order.Perm (List.range frame.height)) (name : String) :
    ((frame.reordered order).column name).Perm (frame.column name) := by
  unfold column
  rw [lookup_reordered]
  cases found : frame.columns.lookup name with
  | none => exact List.Perm.refl _
  | some entries =>
      have whole := map_range_getD entries Entry.missing
      rw [usable.length_entries found] at whole
      exact (rows.map _).trans (List.Perm.of_eq whole)

theorem Usable.height_reordered (usable : frame.Usable reading)
    (rows : order.Perm (List.range frame.height)) :
    (frame.reordered order).height = frame.height :=
  (usable.column_reordered_perm rows "timestamp").length_eq

theorem Turned.height (turned : Turned reading frame order other)
    (usable : frame.Usable reading) : other.height = frame.height := by
  rw [turned.reordered, usable.height_reordered turned.rows]

variable [Quantity.Ordered α]

theorem Turned.timeAt? (turned : Turned reading frame order other) (sound : reading.Sound)
    (usable : frame.Usable reading) (row : Nat) :
    other.timeAt? reading row = order[row]?.bind (frame.timeAt? reading) := by
  rcases usable.exists_times with ⟨times, read, -, told⟩
  unfold Frame.timeAt?
  rw [turned.times read, read, Option.bind_some, List.getElem?_map]
  cases taken : order[row]? with
  | none => rfl
  | some old =>
      have inside : old < times.length := by
        rw [sound.counted read]
        exact List.mem_range.mp (turned.rows.subset (List.mem_of_getElem? taken))
      rw [Option.map_some, Option.bind_some, Option.bind_some, List.getElem?_eq_getElem inside]
      rfl

/-- A usable frame stays usable when its rows are turned. -/
theorem Turned.usable (turned : Turned reading frame order other) (sound : reading.Sound)
    (usable : frame.Usable reading) : other.Usable reading where
  checked := by
    rcases defect?_eq_none_iff.mp usable.checked with ⟨columns, ⟨times, read, distinct⟩, prices⟩
    apply defect?_eq_none_iff.mpr
    refine ⟨?_, ⟨_, turned.times read, ?_⟩, ?_⟩
    · rw [turned.reordered, columnDefect?_reordered]
      exact columns
    · have counted := sound.counted read
      have whole : (List.range times.length).map (fun old => (times[old]?).getD none) = times :=
        map_range_getD times none
      have moved := turned.rows.map fun old => (times[old]?).getD none
      rw [show frame.height = times.length from counted.symm, whole] at moved
      exact moved.nodup_iff.mpr distinct
    · intro name priced entry listed
      rw [turned.reordered] at priced listed
      rw [priceColumns_reordered] at priced
      exact prices name priced entry ((usable.column_reordered_perm turned.rows name).subset listed)
  level := by
    intro column listed
    rw [turned.height usable]
    rw [turned.reordered] at listed
    rcases List.mem_map.mp listed with ⟨old, _, same⟩
    rw [← same, List.length_map, turned.rows.length_eq, List.length_range]
  volumes := by
    intro entry listed
    rw [turned.reordered] at listed
    exact usable.volumes entry ((usable.column_reordered_perm turned.rows "volume").subset listed)

end Frame
end Brokerage
