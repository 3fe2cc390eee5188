import Brokerage.Feed.Frame
import Brokerage.Proofs.Time.Reading
import Mathlib.Data.Set.List

namespace Brokerage

/-!
What is relied on of readings.

How a column of instants is read is left open, and three things are relied on.
Every entry gives one instant, which may be missing; instants that have been
read are read as what they are, in whatever order they come; and no instant is
known that lies as far off as the one that stands for a missing instant.  The
reading that takes each entry by itself is one of this kind.
-/

/-- A reading of which a frame can be checked, put in order, and checked again. -/
structure Reading.Sound {α : Type} (reading : Reading α) : Prop where
  counted {entries : List (Entry α)} {times : List (Option Instant)}
    (read : reading.instants? entries = some times) : times.length = entries.length
  again {entries : List (Entry α)} {times others : List (Option Instant)}
    (read : reading.instants? entries = some times)
    (among : forall time, time ∈ others -> time ∈ times) :
    reading.instants? (others.map Entry.time) = some others
  bounded {entries : List (Entry α)} {times : List (Option Instant)}
    (read : reading.instants? entries = some times) {time : Instant} (listed : some time ∈ times) :
    time < Instant.missing

/-! ## Entries that are read one by one -/

section Lists

variable {β γ ε : Type}

/-- Where answers come of answers alone, a list is read exactly when each of its entries is. -/
theorem mapM_eq_pure_iff {m : Type -> Type} [Monad m] [LawfulMonad m]
    (apart : forall {σ : Type} {one other : σ}, (pure one : m σ) = pure other -> one = other)
    (answers : forall {σ τ : Type} {first : m σ} {next : σ -> m τ} {answer : τ},
      first >>= next = pure answer <->
        Exists fun value => first = pure value ∧ next value = pure answer)
    {read : β -> m γ} {entries : List β} {values : List γ} :
    entries.mapM read = pure values <-> entries.map read = values.map pure := by
  induction entries generalizing values with
  | nil =>
      rw [List.mapM_nil, List.map_nil]
      constructor
      · intro same
        cases apart same
        rfl
      · intro none
        rw [List.map_eq_nil_iff.mp none.symm]
  | cons entry rest ih =>
      rw [List.mapM_cons, List.map_cons, answers]
      constructor
      · rintro ⟨value, head, whole⟩
        rcases answers.mp whole with ⟨others, tail, same⟩
        cases apart same
        rw [head, ih.mp tail, List.map_cons]
      · intro same
        cases values with
        | nil => cases same
        | cons value others =>
            rcases List.cons.inj same with ⟨head, tail⟩
            exact ⟨value, head, answers.mpr ⟨others, ih.mpr tail, rfl⟩⟩

theorem mapM_eq_some_iff {read : β -> Option γ} {entries : List β} {values : List γ} :
    entries.mapM read = some values <-> entries.map read = values.map some :=
  mapM_eq_pure_iff Option.some.inj Option.bind_eq_some_iff

theorem mapM_eq_ok_iff {read : β -> Except ε γ} {entries : List β} {values : List γ} :
    entries.mapM read = .ok values <-> entries.map read = values.map .ok := by
  refine mapM_eq_pure_iff Except.ok.inj ?_
  intro _ _ first next answer
  cases first with
  | error error =>
      constructor
      · intro failed
        cases failed
      · rintro ⟨_, failed, -⟩
        cases failed
  | ok value =>
      constructor
      · exact fun whole => ⟨value, rfl, whole⟩
      · rintro ⟨_, same, whole⟩
        cases same
        exact whole

/-- Entries that can all be read are read. -/
theorem exists_mapM_eq_ok {read : β -> Except ε γ} {entries : List β}
    (readable : forall entry, entry ∈ entries -> Exists fun value => read entry = .ok value) :
    Exists fun values => entries.mapM read = .ok values := by
  have each : entries.map read ∈ Set.range (List.map Except.ok) := by
    rw [Set.range_list_map]
    intro value listed
    rcases List.mem_map.mp listed with ⟨entry, member, rfl⟩
    rcases readable entry member with ⟨value, same⟩
    exact ⟨value, same.symm⟩
  rcases each with ⟨values, same⟩
  exact ⟨values, mapM_eq_ok_iff.mpr same.symm⟩

end Lists

variable {α : Type} [Quantity α]

namespace Entry

/-- An instant that an entry names lies before the one that stands for a missing one. -/
theorem lt_missing_of_instant? {entry : Entry α} {time : Instant}
    (named : entry.instant? = some (some time)) : time < Instant.missing := by
  cases entry with
  | missing => cases named
  | time value =>
      rcases Option.bind_eq_some_iff.mp (Option.some.inj named) with ⟨_, -, known⟩
      exact Instant.lt_missing_of_known? known
  | number value =>
      unfold instant? at named
      dsimp only at named
      split at named
      · cases named
      · rcases Option.map_eq_some_iff.mp named with ⟨count, -, known⟩
        split at known
        · rename_i fits
          cases known
          exact Instant.lt_missing_of_fits fits
        · cases known
  | text value =>
      unfold instant? at named
      dsimp only at named
      split at named
      · cases named
      · rcases Option.map_eq_some_iff.mp named with ⟨instant, written, known⟩
        cases known
        exact Instant.lt_missing_of_ofText? written

/-- An instant that has been read is read as itself. -/
theorem instant?_time {time : Option Instant}
    (bounded : forall instant, time = some instant -> instant < Instant.missing) :
    (Entry.time time : Entry α).instant? = some time := by
  cases time with
  | none => rfl
  | some instant => exact congrArg some (Instant.known?_of_lt_missing (bounded instant rfl))

end Entry

namespace Reading

theorem entrywise_sound (number? : String -> Option α) : (entrywise number?).Sound := by
  have named : forall {entries : List (Entry α)} {times : List (Option Instant)},
      (entrywise number?).instants? entries = some times ->
        forall time, some time ∈ times -> time < Instant.missing := by
    intro entries times read time listed
    have told : some (some time) ∈ times.map some := List.mem_map_of_mem listed
    rw [← mapM_eq_some_iff.mp read] at told
    rcases List.mem_map.mp told with ⟨entry, -, same⟩
    exact Entry.lt_missing_of_instant? same
  constructor
  · intro entries times read
    have counted := congrArg List.length (mapM_eq_some_iff.mp read)
    rw [List.length_map, List.length_map] at counted
    exact counted.symm
  · intro entries times others read among
    apply mapM_eq_some_iff.mpr
    rw [List.map_map]
    apply List.map_congr_left
    intro time listed
    apply Entry.instant?_time
    rintro instant rfl
    exact named read instant (among _ listed)
  · intro entries times read time listed
    exact named read time listed

end Reading
end Brokerage
