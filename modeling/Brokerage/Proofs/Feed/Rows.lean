import Brokerage.Feed.Events
import Brokerage.Proofs.Feed.Reading
import Brokerage.Proofs.Quantity.Ordered
import Mathlib.Data.List.Nodup

namespace Brokerage

/-!
The rows of frames that pass their check.

What a row says is told from the columns, one entry of each.  A frame that
passes has an instant in every row, no two of which are the same, and positive
prices; whether the instants are there at all it does not ask.
-/

/-- All prices of an observation. -/
def Observation.prices {α : Type} : Observation α -> List α
  | .trade _ price _ => [price]
  | .bar _ opening high low closing _ => [opening, high, low, closing]
  | .quote _ ask bid => [ask, bid]

namespace Frame

/-- The number of rows. -/
def height {α : Type} (frame : Frame α) : Nat :=
  (frame.column "timestamp").length

variable {α : Type} [Quantity α] {reading : Reading α} {frame : Frame α} {asset : Asset}
  {name : String} {row : Nat}

/-- The number that a column has in a row. -/
def numberAt? (frame : Frame α) (name : String) (row : Nat) : Option α :=
  (frame.column name)[row]?.bind Entry.number?

/-- The volume of a row, if it can be read and is not missing. -/
def volumeAt? (reading : Reading α) (frame : Frame α) (row : Nat) : Option α :=
  (frame.column "volume")[row]?.bind fun entry => (entry.volume? reading).toOption.join

/-- What a row says of its instant, which may be that it is missing. -/
def timeAt? (reading : Reading α) (frame : Frame α) (row : Nat) : Option (Option Instant) :=
  (frame.times? reading).bind fun times => times[row]?

/-- The instant of a row that has one. -/
def instantAt? (reading : Reading α) (frame : Frame α) (row : Nat) : Option Instant :=
  (frame.timeAt? reading row).join

/-- What a row observes: a price bar if the frame has bars, and its closing price otherwise. -/
def observationAt? (reading : Reading α) (frame : Frame α) (asset : Asset) (row : Nat) :
    Option (Observation α) :=
  if frame.hasBars then do
    some (.bar asset (<- frame.numberAt? "open_price" row) (<- frame.numberAt? "high_price" row)
      (<- frame.numberAt? "low_price" row) (<- frame.numberAt? "closing_price" row)
      (frame.volumeAt? reading row))
  else do
    some (.trade asset (<- frame.numberAt? "closing_price" row) none)

/-- Every volume is missing, a number, or a text that writes one. -/
def NumericVolumes (reading : Reading α) (frame : Frame α) : Prop :=
  forall entry, entry ∈ frame.column "volume" ->
    Exists fun volume => entry.volume? reading = .ok volume

/-- A frame that passes its check; its columns have one height, and its volumes are numeric. -/
structure Usable (reading : Reading α) (frame : Frame α) : Prop where
  checked : frame.defect? reading = none
  level : forall column, column ∈ frame.columns -> column.2.length = frame.height
  volumes : frame.NumericVolumes reading

/-- What is taken from a frame whose volumes can be read. -/
def taken (reading : Reading α) (frame : Frame α) (asset : Asset) :
    List (Option Instant × Observation α) :=
  frame.observations reading asset ((frame.volumes? reading).toOption.getD [])

/-- Every row has an instant. -/
def Dated (reading : Reading α) (frame : Frame α) : Prop :=
  forall row, row < frame.height -> Exists fun time => frame.instantAt? reading row = some time

/-! ## What the check says -/

theorem repeats_eq_nil_iff {seen times : List (Option Instant)} :
    repeats seen times = [] <-> times.Nodup ∧ forall time, time ∈ times -> time ∉ seen := by
  induction times generalizing seen with
  | nil => simp [repeats]
  | cons time rest ih =>
      rw [repeats, List.nodup_cons, List.forall_mem_cons]
      by_cases known : time ∈ seen
      · simp [known]
      · simp only [List.contains_iff_mem, known, if_false, ih, List.mem_cons, not_or]
        constructor
        · rintro ⟨distinct, others⟩
          exact ⟨⟨fun again => (others time again).1 rfl, distinct⟩, not_false,
            fun other listed => (others other listed).2⟩
        · rintro ⟨⟨once, distinct⟩, _, others⟩
          exact ⟨distinct, fun other listed =>
            ⟨fun same => once (same ▸ listed), others other listed⟩⟩

omit [Quantity α] in
theorem timeDefect?_eq_none_iff : frame.timeDefect? reading = none <->
    Exists fun times : List (Option Instant) =>
      frame.times? reading = some times ∧ times.Nodup := by
  unfold timeDefect?
  constructor
  · intro clean
    split at clean
    · cases clean
    · rename_i times found
      refine ⟨times, found, ?_⟩
      have none : (repeats [] times).isEmpty = true := by
        by_contra some
        simp [some] at clean
      exact (repeats_eq_nil_iff.mp (List.isEmpty_iff.mp none)).1
  · rintro ⟨times, found, distinct⟩
    rw [found]
    have none : repeats [] times = [] :=
      repeats_eq_nil_iff.mpr ⟨distinct, fun _ _ => List.not_mem_nil⟩
    simp [none]

theorem priceDefect?_eq_none_iff [Quantity.Ordered α] : frame.priceDefect? name = none <->
    forall entry, entry ∈ frame.column name ->
      Exists fun price => entry = .number price ∧ 0 < price := by
  have clean : frame.priceDefect? name = none <-> forall entry, entry ∈ frame.column name ->
      entry.isMissing = false ∧ entry.isText = false ∧ entry.isNonPositive = false := by
    have each : frame.priceDefect? name = none <->
        (frame.column name).any Entry.isMissing = false ∧
          (frame.column name).any Entry.isText = false ∧
            (frame.column name).any Entry.isNonPositive = false := by
      unfold priceDefect?
      dsimp only
      cases (frame.column name).any Entry.isMissing <;>
        cases (frame.column name).any Entry.isText <;>
          cases (frame.column name).any Entry.isNonPositive <;> simp
    simp only [each, List.any_eq_false, Bool.not_eq_true, ← forall_and]
  rw [clean]
  apply forall_congr'
  intro entry
  apply imp_congr_right
  intro _
  constructor
  · rintro ⟨present, number, positive⟩
    cases entry with
    | missing => cases present
    | time _ => cases number
    | text _ => cases number
    | number price =>
        refine ⟨price, rfl, ?_⟩
        apply Quantity.Ordered.lt_of_not_le Quantity.Ordered.zero_defined present
        exact of_decide_eq_false positive
  · rintro ⟨price, rfl, positive⟩
    have order := Quantity.Ordered.lt_iff.mp positive
    exact ⟨(Quantity.Ordered.defined order.1).2, rfl, decide_eq_false order.2⟩

theorem defect?_eq_none_iff [Quantity.Ordered α] : frame.defect? reading = none <->
    frame.columnDefect? = none ∧
      (Exists fun times : List (Option Instant) =>
        frame.times? reading = some times ∧ times.Nodup) ∧
      forall name, name ∈ frame.priceColumns -> forall entry, entry ∈ frame.column name ->
        Exists fun price => entry = .number price ∧ 0 < price := by
  unfold defect?
  rw [Option.orElse_eq_none, Option.orElse_eq_none, timeDefect?_eq_none_iff,
    List.findSome?_eq_none_iff]
  simp only [priceDefect?_eq_none_iff]

/-! ## Rows of usable frames -/

omit [Quantity α] in
theorem mem_columns_of_lookup {columns : List (String × List (Entry α))} {entries : List (Entry α)}
    (found : columns.lookup name = some entries) : (name, entries) ∈ columns := by
  induction columns with
  | nil => cases found
  | cons column rest ih =>
      rcases column with ⟨other, others⟩
      rw [List.lookup_cons] at found
      split at found
      · rename_i same
        cases found
        rw [eq_of_beq same]
        exact List.mem_cons_self
      · exact List.mem_cons_of_mem _ (ih found)

omit [Quantity α] in
theorem exists_lookup {columns : List (String × List (Entry α))}
    (named : name ∈ columns.map Prod.fst) :
    Exists fun entries => columns.lookup name = some entries := by
  induction columns with
  | nil => cases named
  | cons column rest ih =>
      rw [List.lookup_cons]
      split
      · exact ⟨column.2, rfl⟩
      · rename_i other
        rcases List.mem_cons.mp named with head | tail
        · exact absurd (beq_iff_eq.mpr head) (Bool.eq_false_iff.mp other)
        · exact ih tail

omit [Quantity α] in
/-- What stands in a column is found under its name. -/
theorem exists_lookup_of_mem_column {entry : Entry α} (listed : entry ∈ frame.column name) :
    Exists fun entries => frame.columns.lookup name = some entries ∧ entry ∈ entries := by
  unfold column at listed
  cases found : frame.columns.lookup name with
  | none =>
      rw [found] at listed
      cases listed
  | some entries =>
      rw [found] at listed
      exact ⟨entries, rfl, listed⟩

omit [Quantity α] in
/-- What is changed column by column is found under the names of before. -/
theorem lookup_map (change : String -> List (Entry α) -> List (Entry α))
    (columns : List (String × List (Entry α))) (name : String) :
    (columns.map fun column => (column.1, change column.1 column.2)).lookup name =
      (columns.lookup name).map (change name) := by
  induction columns with
  | nil => rfl
  | cons column rest ih =>
      rw [List.map_cons, List.lookup_cons, List.lookup_cons, ih]
      cases same : name == column.1 with
      | true =>
          rw [eq_of_beq same]
          rfl
      | false => rfl

omit [Quantity α] in
theorem mem_names_of_required (clean : frame.columnDefect? = none)
    (required : name ∈ requiredColumns) : name ∈ frame.names := by
  by_contra absent
  have missing : name ∈ requiredColumns.filter fun name => !frame.names.contains name := by
    apply List.mem_filter.mpr
    exact ⟨required, by simp [absent]⟩
  have some : (requiredColumns.filter fun name => !frame.names.contains name).isEmpty = false :=
    List.isEmpty_eq_false_iff.mpr (List.ne_nil_of_mem missing)
  unfold columnDefect? at clean
  dsimp only at clean
  rw [some] at clean
  cases clean

omit [Quantity α] in
theorem mem_names_of_hasBars (bars : frame.hasBars = true) (listed : name ∈ barColumns) :
    name ∈ frame.names :=
  List.contains_iff_mem.mp (List.all_eq_true.mp bars name listed)

theorem Usable.length_entries (usable : frame.Usable reading) {entries : List (Entry α)}
    (found : frame.columns.lookup name = some entries) : entries.length = frame.height :=
  usable.level (name, entries) (mem_columns_of_lookup found)

theorem Usable.length_column (usable : frame.Usable reading) (named : name ∈ frame.names) :
    (frame.column name).length = frame.height := by
  rcases exists_lookup named with ⟨entries, found⟩
  unfold column
  rw [found]
  exact usable.length_entries found

/-- A column of a usable frame has an entry in every row. -/
theorem Usable.exists_entry (usable : frame.Usable reading) (named : name ∈ frame.names)
    (inside : row < frame.height) :
    Exists fun entry => (frame.column name)[row]? = some entry ∧ entry ∈ frame.column name := by
  rw [← usable.length_column named] at inside
  exact ⟨_, List.getElem?_eq_getElem inside, List.getElem_mem inside⟩

theorem Usable.getElem?_numbers (usable : frame.Usable reading) (named : name ∈ frame.names)
    (inside : row < frame.height) :
    (frame.numbers name)[row]? = some (frame.numberAt? name row) := by
  rcases usable.exists_entry named inside with ⟨entry, found, _⟩
  unfold numbers numberAt?
  rw [List.getElem?_map, found]
  rfl

section Checked

variable [Quantity.Ordered α]

theorem Usable.mem_names (usable : frame.Usable reading) (required : name ∈ requiredColumns) :
    name ∈ frame.names :=
  mem_names_of_required (defect?_eq_none_iff.mp usable.checked).1 required

theorem Usable.exists_times (usable : frame.Usable reading) :
    Exists fun times : List (Option Instant) => frame.times? reading = some times ∧
      times.Nodup ∧ forall row, times[row]? = frame.timeAt? reading row := by
  rcases (defect?_eq_none_iff.mp usable.checked).2.1 with ⟨times, read, distinct⟩
  refine ⟨times, read, distinct, ?_⟩
  intro row
  unfold timeAt?
  rw [read, Option.bind_some]

omit [Quantity α] [Quantity.Ordered α] in
theorem inside_of_timeAt? (sound : reading.Sound) {time : Option Instant}
    (told : frame.timeAt? reading row = some time) : row < frame.height := by
  unfold timeAt? at told
  rcases Option.bind_eq_some_iff.mp told with ⟨times, read, found⟩
  have inside := (List.getElem?_eq_some_iff.mp found).1
  rw [sound.counted read] at inside
  exact inside

theorem Usable.exists_price (usable : frame.Usable reading) (priced : name ∈ frame.priceColumns)
    (named : name ∈ frame.names) (inside : row < frame.height) :
    Exists fun price => frame.numberAt? name row = some price ∧ 0 < price := by
  rcases usable.exists_entry named inside with ⟨entry, found, listed⟩
  rcases (defect?_eq_none_iff.mp usable.checked).2.2 name priced entry listed with
    ⟨price, number, positive⟩
  refine ⟨price, ?_, positive⟩
  unfold numberAt?
  rw [found, number]
  rfl

/-- Every row of a usable frame observes the asset, at positive prices. -/
theorem Usable.exists_observation (usable : frame.Usable reading) (inside : row < frame.height)
    (asset : Asset) :
    Exists fun observation => frame.observationAt? reading asset row = some observation ∧
      observation.asset = asset ∧ forall price, price ∈ observation.prices -> 0 < price := by
  unfold observationAt?
  cases bars : frame.hasBars with
  | true =>
      have each : forall name, name ∈ frame.priceColumns -> name ∈ barColumns ->
          Exists fun price => frame.numberAt? name row = some price ∧ 0 < price :=
        fun name priced listed =>
          usable.exists_price priced (mem_names_of_hasBars bars listed) inside
      unfold priceColumns at each
      rw [bars, if_pos rfl] at each
      rcases each "open_price" (by decide) (by decide) with ⟨opening, first, _⟩
      rcases each "high_price" (by decide) (by decide) with ⟨high, second, _⟩
      rcases each "low_price" (by decide) (by decide) with ⟨low, third, _⟩
      rcases each "closing_price" (by decide) (by decide) with ⟨closing, fourth, _⟩
      rw [if_pos rfl, first, second, third, fourth]
      refine ⟨.bar asset opening high low closing (frame.volumeAt? reading row), rfl, rfl, ?_⟩
      simp only [Observation.prices, List.forall_mem_cons, List.not_mem_nil, false_implies,
        implies_true, and_true]
      exact ⟨‹_›, ‹_›, ‹_›, ‹_›⟩
  | false =>
      have priced : "closing_price" ∈ frame.priceColumns := by
        unfold priceColumns
        rw [bars]
        exact List.mem_singleton_self _
      rcases usable.exists_price priced (usable.mem_names (by decide)) inside with
        ⟨closing, found, positive⟩
      rw [if_neg Bool.false_ne_true, found]
      refine ⟨.trade asset closing none, rfl, rfl, ?_⟩
      intro price listed
      rw [List.mem_singleton.mp listed]
      exact positive

omit [Quantity.Ordered α] in
/-- The volumes of a usable frame can be read, row by row. -/
theorem Usable.exists_volumes (usable : frame.Usable reading) :
    Exists fun volumes => frame.volumes? reading = .ok volumes ∧
      (frame.hasBars = true -> volumes.length = frame.height ∧
        forall row, row < frame.height -> volumes[row]? = some (frame.volumeAt? reading row)) := by
  unfold volumes?
  cases bars : frame.hasBars with
  | false => exact ⟨[], rfl, fun bars => nomatch bars⟩
  | true =>
      rcases exists_mapM_eq_ok usable.volumes with ⟨volumes, read⟩
      have same := mapM_eq_ok_iff.mp read
      have named : "volume" ∈ frame.names := mem_names_of_hasBars bars (by decide)
      refine ⟨volumes, read, fun _ => ⟨?_, ?_⟩⟩
      · have counted := congrArg List.length same
        rw [List.length_map, List.length_map, usable.length_column named] at counted
        exact counted.symm
      · intro row inside
        rcases usable.exists_entry named inside with ⟨entry, found, -⟩
        have place := congrArg (fun entries => entries[row]?) same
        simp only [List.getElem?_map, found, Option.map_some] at place
        rcases Option.map_eq_some_iff.mp place.symm with ⟨volume, here, told⟩
        unfold volumeAt?
        rw [here, found, Option.bind_some, ← told]
        cases volume <;> rfl

theorem Usable.getElem?_observed (usable : frame.Usable reading) {volumes : List (Option α)}
    (read : frame.volumes? reading = .ok volumes) (inside : row < frame.height) :
    (if frame.hasBars then frame.bars asset volumes else frame.closings asset)[row]? =
      some (frame.observationAt? reading asset row) := by
  unfold observationAt?
  cases bars : frame.hasBars with
  | true =>
      have each : forall name, name ∈ barColumns ->
          (frame.numbers name)[row]? = some (frame.numberAt? name row) :=
        fun name listed => usable.getElem?_numbers (mem_names_of_hasBars bars listed) inside
      rcases usable.exists_volumes with ⟨others, same, told⟩
      cases same.symm.trans read
      rw [if_pos rfl, if_pos rfl]
      have place : ((frame.numbers "open_price").zip ((frame.numbers "high_price").zip
          ((frame.numbers "low_price").zip ((frame.numbers "closing_price").zip volumes))))[row]? =
          some (frame.numberAt? "open_price" row, frame.numberAt? "high_price" row,
            frame.numberAt? "low_price" row, frame.numberAt? "closing_price" row,
            frame.volumeAt? reading row) := by
        simp only [List.getElem?_zip_eq_some]
        exact ⟨each _ (by decide), each _ (by decide), each _ (by decide), each _ (by decide),
          (told bars).2 row inside⟩
      unfold Frame.bars
      rw [List.getElem?_map, place]
      rfl
  | false =>
      rw [if_neg Bool.false_ne_true, if_neg Bool.false_ne_true]
      unfold closings
      rw [List.getElem?_map, usable.getElem?_numbers (usable.mem_names (by decide)) inside]
      rfl

/-- The rows of a usable frame, each with what it observes. -/
theorem Usable.exists_observed (usable : frame.Usable reading) (asset : Asset) :
    Exists fun observed : List (Option (Observation α)) =>
      Exists fun times : List (Option Instant) => frame.times? reading = some times ∧
        frame.taken reading asset = (times.zip observed).filterMap (fun pair =>
          pair.2.map fun observation => (pair.1, observation)) ∧
        forall row, row < frame.height ->
          observed[row]? = some (frame.observationAt? reading asset row) := by
  rcases usable.exists_volumes with ⟨volumes, volumed, -⟩
  rcases usable.exists_times with ⟨times, read, -⟩
  refine ⟨_, times, read, ?_, fun row => usable.getElem?_observed volumed⟩
  unfold taken observations
  rw [volumed, read]
  rfl

/-- What is taken from a frame are the observations of its rows. -/
theorem Usable.mem_taken (sound : reading.Sound) (usable : frame.Usable reading)
    {time : Option Instant} {observation : Observation α} :
    (time, observation) ∈ frame.taken reading asset <->
      Exists fun row => frame.timeAt? reading row = some time ∧
        frame.observationAt? reading asset row = some observation := by
  rcases usable.exists_observed asset with ⟨observed, times, read, whole, place⟩
  have same : forall row, times[row]? = frame.timeAt? reading row := by
    intro row
    unfold timeAt?
    rw [read, Option.bind_some]
  rw [whole, List.mem_filterMap]
  constructor
  · rintro ⟨⟨other, entry⟩, listed, kept⟩
    rcases Option.map_eq_some_iff.mp kept with ⟨found, known, pair⟩
    cases pair
    rcases List.mem_iff_getElem?.mp listed with ⟨row, both⟩
    rcases List.getElem?_zip_eq_some.mp both with ⟨first, second⟩
    have told := (same row).symm.trans first
    rw [place row (inside_of_timeAt? sound told)] at second
    exact ⟨row, told, (Option.some.inj second).trans known⟩
  · rintro ⟨row, told, shown⟩
    refine ⟨(time, some observation), ?_, rfl⟩
    apply List.mem_iff_getElem?.mpr
    refine ⟨row, List.getElem?_zip_eq_some.mpr ⟨(same row).trans told, ?_⟩⟩
    rw [place row (inside_of_timeAt? sound told), shown]

omit [Quantity α] [Quantity.Ordered α] in
theorem map_fst_sublist (times : List (Option Instant))
    (observed : List (Option (Observation α))) :
    (((times.zip observed).filterMap fun pair =>
      pair.2.map fun observation => (pair.1, observation)).map Prod.fst).Sublist times := by
  induction times generalizing observed with
  | nil => exact List.Sublist.slnil
  | cons time rest ih =>
      cases observed with
      | nil => exact List.nil_sublist _
      | cons observation observed =>
          cases observation with
          | none => exact (ih observed).cons time
          | some observation => exact (ih observed).cons_cons time

theorem Usable.nodup_taken (usable : frame.Usable reading) :
    ((frame.taken reading asset).map Prod.fst).Nodup := by
  rcases usable.exists_times with ⟨others, same, distinct, -⟩
  rcases usable.exists_observed asset with ⟨observed, times, read, whole, -⟩
  cases same.symm.trans read
  rw [whole]
  exact List.Nodup.sublist (map_fst_sublist _ observed) distinct

omit [Quantity.Ordered α] in
/-- A usable frame gives its observations. -/
theorem Usable.observations?_ok (usable : frame.Usable reading) :
    frame.observations? reading asset = .ok (frame.taken reading asset) := by
  rcases usable.exists_volumes with ⟨volumes, volumed, -⟩
  unfold observations? taken
  rw [usable.checked, volumed]
  rfl

end Checked

end Frame
end Brokerage
