import Brokerage.Feed.PriceFile
import Brokerage.Proofs.Feed.RowByRow
import Brokerage.Proofs.Feed.Sorting
import Brokerage.Proofs.Quantity.Places

namespace Brokerage

/-!
What an accepted price file comes to.

A table in a file has columns of one height.  When it passes the check, its
rows are put in order, and every row makes up one moment unless there is a
volume that cannot be read as a number.  The check of a file does not look at
the volumes, while the moments need them as numbers.
-/

/-- What is relied on of a reader of price files: the columns of a table have one height, and
instants are read as they are everywhere. -/
structure PriceReader.Sound (reader : PriceReader) : Prop where
  level {bytes : ByteArray} {table : Frame Float} (read : reader.table? bytes = some table) :
    Exists fun height => forall column, column ∈ table.columns -> column.2.length = height
  reading : reader.reading.Sound

namespace Csv

theorem length_entries (cells : List String) : (entries cells).length = cells.length :=
  List.length_map _

theorem level_of_frame? {text : List Char} {frame : Frame Float}
    (read : frame? text = some frame) :
    Exists fun height => forall column, column ∈ frame.columns -> column.2.length = height := by
  simp only [frame?, Option.bind_eq_bind, Option.bind_eq_some_iff] at read
  rcases read with ⟨records, -, read⟩
  split at read
  · cases read
  · rename_i header records
    rcases Option.bind_eq_some_iff.mp read with ⟨squared, -, same⟩
    cases same
    refine ⟨squared.length, ?_⟩
    intro column listed
    rcases List.mem_map.mp listed with ⟨named, -, rfl⟩
    rw [length_entries, List.length_map, List.length_map]

end Csv

/-- The reader that is run is sound. -/
theorem PriceReader.plain_sound : PriceReader.plain.Sound where
  level {bytes table} read := by
    have read : Csv.ofBytes? bytes = some table := read
    simp only [Csv.ofBytes?, Option.bind_eq_bind, Option.bind_eq_some_iff] at read
    rcases read with ⟨text, -, same⟩
    exact Csv.level_of_frame? same
  reading := Reading.entrywise_sound Decimal.number?

/-- An accepted file holds a table that passes the check, with its rows put in order. -/
theorem readPrices?_ok {reader : PriceReader} {path : String} {name : Option String}
    {content : Option ByteArray} {frame : Frame Float}
    (valid : readPrices? reader path name content = .ok frame) :
    Exists fun bytes => Exists fun table => reader.table? bytes = some table ∧
      table.defect? reader.reading = none ∧ frame = table.sorted reader.reading := by
  unfold readPrices? at valid
  dsimp only at valid
  split at valid
  · cases valid
  · rename_i bytes
    split at valid
    · cases valid
    · rename_i table read
      split at valid
      · cases valid
      · rename_i checked
        cases valid
        exact ⟨bytes, table, read, checked, rfl⟩

/-- Every refusal of a file has a wording, except that of words among its prices. -/
theorem PriceFileError.message?_eq_none_iff {error : PriceFileError} :
    error.message? = none <->
      Exists fun context => Exists fun column => error = .frame context (.notNumeric column) := by
  cases error with
  | notFound path => simp [PriceFileError.message?]
  | unreadable context => simp [PriceFileError.message?]
  | frame context defect =>
      cases defect <;>
        simp [PriceFileError.message?, FrameDefect.messageIn?, FrameDefect.message?]

namespace Frame

/-! ## Volumes -/

section Volumes

variable {α : Type} [Quantity α] {reading : Reading α} {frame : Frame α}

omit [Quantity α] in
/-- A frame with volumes has all columns of price bars. -/
theorem hasBars_of_volume (checked : frame.columnDefect? = none)
    (named : "volume" ∈ frame.names) : frame.hasBars = true := by
  have clean := checked
  have volume : "volume" ∈ barExtras.filter fun name => frame.names.contains name :=
    List.mem_filter.mpr ⟨by decide, List.contains_iff_mem.mpr named⟩
  have some_extra : (barExtras.filter fun name => frame.names.contains name).isEmpty = false :=
    List.isEmpty_eq_false_iff.mpr (List.ne_nil_of_mem volume)
  unfold columnDefect? at clean
  dsimp only at clean
  split at clean
  · cases clean
  · split at clean
    · cases clean
    · rename_i extras
      rw [some_extra, Bool.not_false, Bool.true_and, Bool.not_eq_true, Bool.not_eq_false',
        List.isEmpty_iff, List.filter_eq_nil_iff] at extras
      apply List.all_eq_true.mpr
      intro name listed
      apply List.contains_iff_mem.mpr
      by_cases always : name ∈ requiredColumns
      · exact mem_names_of_required checked always
      · have extra : name ∈ barExtras := List.mem_filter.mpr ⟨listed, by simpa using always⟩
        simpa using extras name extra

/-- A frame that gives no observations makes up no moments. -/
theorem moments?_of_error {asset : Asset} {defect : FrameDefect}
    (refused : frame.observations? reading asset = .error defect) :
    Feed.moments? reading (Table.ofList [(asset, frame)]) = .error (.frame asset defect) := by
  have failed : Feed.observations? reading (Table.ofList [(asset, frame)]).entries =
      .error (.frame asset defect) := by
    change Feed.observations? reading [(asset, frame)] = _
    rw [Feed.observations?, refused]
  unfold Feed.moments?
  rw [failed]

/-- Moments are made of frames whose volumes are numeric alone. -/
theorem numericVolumes_of_moments? (checked : frame.columnDefect? = none) {asset : Asset}
    {moments : List (Moment α)}
    (made : Feed.moments? reading (Table.ofList [(asset, frame)]) = .ok moments) :
    frame.NumericVolumes reading := by
  have taken : Exists fun observed => frame.observations? reading asset = .ok observed := by
    cases shown : frame.observations? reading asset with
    | ok observed => exact ⟨observed, rfl⟩
    | error defect => cases made.symm.trans (moments?_of_error shown)
  rcases taken with ⟨observed, taken⟩
  unfold observations? at taken
  split at taken
  · cases taken
  · split at taken
    · cases taken
    · rename_i volumes read
      intro entry listed
      rcases exists_lookup_of_mem_column listed with ⟨entries, found, -⟩
      have named : "volume" ∈ frame.names := List.mem_map_of_mem (mem_columns_of_lookup found)
      unfold volumes? at read
      rw [if_pos (hasBars_of_volume checked named)] at read
      have told : entry.volume? reading ∈ volumes.map Except.ok := by
        rw [← mapM_eq_ok_iff.mp read]
        exact List.mem_map_of_mem listed
      rcases List.mem_map.mp told with ⟨volume, -, same⟩
      exact ⟨volume, same.symm⟩

end Volumes

/-! ## Accepted tables -/

section Accepted

variable {reader : PriceReader} {bytes : ByteArray} {table : Frame Float}
  (sound : reader.Sound) (written : reader.table? bytes = some table)
  (checked : table.defect? reader.reading = none)
include sound written checked

theorem level_of_table? {column : String × List (Entry Float)} (listed : column ∈ table.columns) :
    column.2.length = table.height := by
  rcases sound.level written with ⟨height, level⟩
  have named : "timestamp" ∈ table.names :=
    mem_names_of_required (defect?_eq_none_iff.mp checked).1 (by decide)
  rcases exists_lookup named with ⟨entries, found⟩
  have stamps : entries.length = height := level _ (mem_columns_of_lookup found)
  unfold Frame.height Frame.column
  rw [level column listed, found]
  exact stamps.symm

/-- The volumes of a table are those of its rows in order. -/
theorem numericVolumes_of_sorted
    (volumes : (table.sorted reader.reading).NumericVolumes reader.reading) :
    table.NumericVolumes reader.reading := by
  rcases (defect?_eq_none_iff.mp checked).2.1 with ⟨times, read, -⟩
  intro entry listed
  apply volumes entry
  rcases exists_lookup_of_mem_column listed with ⟨entries, found, among⟩
  rcases List.mem_iff_getElem?.mp among with ⟨row, place⟩
  have inside : row < entries.length := (List.getElem?_eq_some_iff.mp place).1
  have taken : row ∈ (stamped times).map Prod.snd := by
    apply (stamped_rows times).symm.subset
    have counted : times.length = table.height := sound.reading.counted read
    rw [counted, ← level_of_table? sound written checked (mem_columns_of_lookup found)]
    exact List.mem_range.mpr inside
  rw [sorted_eq read]
  unfold column
  rw [lookup_reordered, lookup_timed, found]
  apply List.mem_map.mpr
  refine ⟨row, taken, ?_⟩
  change (entries[row]?).getD .missing = entry
  rw [place]
  rfl

theorem usable_of_table?
    (volumes : (table.sorted reader.reading).NumericVolumes reader.reading) :
    table.Usable reader.reading where
  checked := checked
  level _ := level_of_table? sound written checked
  volumes := numericVolumes_of_sorted sound written checked volumes

end Accepted
end Frame

section Files

variable {reader : PriceReader} {path : String} {name : Option String}
  {content : Option ByteArray} {frame : Frame Float}

/-- The rows of an accepted file whose volumes are numeric make up one moment each.  The events that
a broker is given for them are in order, and all but the last one have an instant of their own. -/
theorem moments?_of_readPrices? (sound : reader.Sound)
    (valid : readPrices? reader path name content = .ok frame)
    (volumes : frame.NumericVolumes reader.reading) (asset : Asset) :
    Exists fun moments =>
      Feed.moments? reader.reading (Table.ofList [(asset, frame)]) = .ok moments ∧
        Feed.RowByRow reader.reading frame asset moments ∧
        ((moments.map Moment.event).Pairwise fun earlier later => earlier.time ≤ later.time) ∧
        forall moment, moment ∈ moments.dropLast ->
          Exists fun instant => moment.time = some instant := by
  rcases readPrices?_ok valid with ⟨bytes, table, written, checked, rfl⟩
  have usable := Frame.usable_of_table? sound written checked volumes
  rcases usable.exists_times with ⟨times, read, distinct, -⟩
  have ascends := Frame.stamped_ascends times
  rcases Feed.moments?_of_ascending sound.reading (usable.sorted sound.reading read).1
    (usable.times?_sorted sound.reading read) ascends asset with ⟨moments, made, rows, instants⟩
  have dated : forall moment, moment ∈ moments.dropLast ->
      Exists fun instant => moment.time = some instant := by
    intro moment listed
    apply Frame.dated_before_last (Frame.stamped_distinct distinct) ascends
    rw [← instants, ← List.map_dropLast]
    exact List.mem_map_of_mem listed
  refine ⟨moments, made, rows, ?_, dated⟩
  rw [← instants, List.pairwise_map] at ascends
  apply List.pairwise_map.mpr
  apply ascends.imp_of_mem
  intro left right first _ ordered
  have early : left.time ∈ (Frame.stamped times).map Prod.fst :=
    instants ▸ List.mem_map_of_mem first
  change left.time.getD Instant.missing ≤ right.time.getD Instant.missing
  generalize left.time = left at ordered early ⊢
  generalize right.time = right at ordered ⊢
  cases right with
  | some right =>
      cases left with
      | none => cases ordered
      | some left => exact of_decide_eq_true ordered
  | none =>
      cases left with
      | none => exact Int.le_refl _
      | some left =>
          exact Int.le_of_lt (sound.reading.bounded read (Frame.mem_of_mem_stamped early))

/-- An accepted file that makes up moments has numeric volumes. -/
theorem numericVolumes_of_readPrices? (valid : readPrices? reader path name content = .ok frame)
    {asset : Asset} {moments : List (Moment Float)}
    (made : Feed.moments? reader.reading (Table.ofList [(asset, frame)]) = .ok moments) :
    frame.NumericVolumes reader.reading := by
  rcases readPrices?_ok valid with ⟨bytes, table, -, checked, rfl⟩
  rcases Frame.defect?_eq_none_iff.mp checked with ⟨columns, ⟨times, read, -⟩, -⟩
  apply Frame.numericVolumes_of_moments? _ made
  rw [Frame.sorted_eq read, Frame.columnDefect?_reordered]
  unfold Frame.columnDefect?
  rw [Frame.names_timed]
  exact columns

end Files
end Brokerage
