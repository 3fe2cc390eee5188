import Brokerage.Table

namespace Brokerage
namespace Table

/-!
What the operations on a table do to its keys, its entries and its look-ups.

The entries of a table are a list with distinct keys, so a look-up finds a
value exactly when the pair is listed.  Every other statement follows from
that one and from what an operation does to the list.
-/

variable {κ ν μ : Type}

theorem ext {left right : Table κ ν} (same : left.entries = right.entries) : left = right := by
  cases left
  cases right
  cases same
  rfl

@[simp] theorem keys_empty : (Table.empty : Table κ ν).keys = [] := rfl

theorem mem_keys_of_mem_entries {table : Table κ ν} {entry : κ × ν}
    (listed : entry ∈ table.entries) : entry.1 ∈ table.keys :=
  List.mem_map_of_mem listed

theorem mem_values_iff {table : Table κ ν} {value : ν} :
    value ∈ table.values <-> Exists fun key => (key, value) ∈ table.entries := by
  constructor
  · intro listed
    rcases List.mem_map.mp listed with ⟨entry, member, same⟩
    exact ⟨entry.1, same ▸ member⟩
  · rintro ⟨key, member⟩
    exact List.mem_map_of_mem member

@[simp] theorem entries_map (table : Table κ ν) (change : κ -> ν -> μ) :
    (table.map change).entries = table.entries.map fun entry => (entry.1, change entry.1 entry.2) :=
  rfl

@[simp] theorem keys_map (table : Table κ ν) (change : κ -> ν -> μ) :
    (table.map change).keys = table.keys := by
  simp only [keys, entries_map, List.map_map]
  rfl

theorem map_map {σ : Type} (table : Table κ ν) (change : κ -> ν -> μ) (again : κ -> μ -> σ) :
    (table.map change).map again = table.map fun key value => again key (change key value) := by
  apply ext
  simp only [entries_map, List.map_map]
  rfl

@[simp] theorem entries_filter (table : Table κ ν) (keep : κ -> ν -> Bool) :
    (table.filter keep).entries = table.entries.filter fun entry => keep entry.1 entry.2 :=
  rfl

theorem keys_filter_sublist (table : Table κ ν) (keep : κ -> ν -> Bool) :
    (table.filter keep).keys.Sublist table.keys :=
  List.filter_sublist.map Prod.fst

section Lookup

variable [DecidableEq κ]

theorem mem_of_lookup {key : κ} {value : ν} {entries : List (κ × ν)}
    (found : lookup key entries = some value) : (key, value) ∈ entries := by
  induction entries with
  | nil => cases found
  | cons entry rest ih =>
      by_cases same : entry.1 = key
      · rw [lookup, if_pos same] at found
        cases found
        exact List.mem_cons.mpr (Or.inl (by rw [← same]))
      · rw [lookup, if_neg same] at found
        exact List.mem_cons_of_mem entry (ih found)

theorem lookup_of_mem {key : κ} {value : ν} {entries : List (κ × ν)}
    (distinct : (entries.map Prod.fst).Nodup) (listed : (key, value) ∈ entries) :
    lookup key entries = some value := by
  induction entries with
  | nil => cases listed
  | cons entry rest ih =>
      have parts := List.nodup_cons.mp distinct
      rcases List.mem_cons.mp listed with head | tail
      · subst head
        exact if_pos rfl
      · have other : entry.1 ≠ key := by
          intro same
          exact parts.1 (same ▸ List.mem_map_of_mem tail)
        rw [lookup, if_neg other]
        exact ih parts.2 tail

/-- A look-up finds exactly the pairs that are listed. -/
theorem get?_eq_some_iff {table : Table κ ν} {key : κ} {value : ν} :
    table.get? key = some value <-> (key, value) ∈ table.entries :=
  ⟨mem_of_lookup, lookup_of_mem table.distinct⟩

theorem get?_eq_none_iff {table : Table κ ν} {key : κ} :
    table.get? key = none <-> key ∉ table.keys := by
  constructor
  · intro missing listed
    rcases List.mem_map.mp listed with ⟨entry, member, same⟩
    have found : table.get? key = some entry.2 := get?_eq_some_iff.mpr (same ▸ member)
    rw [missing] at found
    cases found
  · intro absent
    cases found : table.get? key with
    | none => rfl
    | some value =>
        exact absurd (mem_keys_of_mem_entries (get?_eq_some_iff.mp found)) absent

theorem contains_iff {table : Table κ ν} {key : κ} :
    table.contains key = true <-> key ∈ table.keys := by
  cases found : table.get? key with
  | none =>
      have absent := get?_eq_none_iff.mp found
      simp only [contains, found, Option.isSome_none, Bool.false_eq_true, absent]
  | some value =>
      have listed := mem_keys_of_mem_entries (get?_eq_some_iff.mp found)
      simp only [contains, found, Option.isSome_some, listed]

theorem mem_keys_of_get? {table : Table κ ν} {key : κ} {value : ν}
    (found : table.get? key = some value) : key ∈ table.keys :=
  mem_keys_of_mem_entries (get?_eq_some_iff.mp found)

theorem keys_put (table : Table κ ν) (key : κ) (value : ν) :
    (table.put key value).keys =
      if key ∈ table.keys then table.keys else table.keys ++ [key] :=
  keys_place key value table.entries

theorem mem_keys_put {table : Table κ ν} {key other : κ} {value : ν} :
    other ∈ (table.put key value).keys <-> other ∈ table.keys ∨ other = key := by
  rw [keys_put]
  split
  · rename_i present
    constructor
    · exact Or.inl
    · rintro (member | same)
      · exact member
      · exact same ▸ present
  · rw [List.mem_append, List.mem_singleton]

/-- A key that is not listed yet goes to the end. -/
theorem entries_put_of_absent {table : Table κ ν} {key : κ} (absent : key ∉ table.keys)
    (value : ν) : (table.put key value).entries = table.entries ++ [(key, value)] := by
  have placed : forall entries : List (κ × ν), key ∉ entries.map Prod.fst ->
      place key value entries = entries ++ [(key, value)] := by
    intro entries missing
    induction entries with
    | nil => rfl
    | cons entry rest ih =>
        rw [List.map_cons, List.mem_cons, not_or] at missing
        rw [place, if_neg (Ne.symm missing.1), ih missing.2, List.cons_append]
  exact placed table.entries absent

theorem lookup_place (key other : κ) (value : ν) (entries : List (κ × ν)) :
    lookup other (place key value entries) =
      if key = other then some value else lookup other entries := by
  induction entries with
  | nil => rfl
  | cons entry rest ih =>
      by_cases same : entry.1 = key
      · by_cases asked : key = other
        · simp only [place, if_pos same, lookup, if_pos asked]
        · have elsewhere : ¬ entry.1 = other := fun equal => asked (same.symm.trans equal)
          simp only [place, if_pos same, lookup, if_neg asked, if_neg elsewhere]
      · by_cases asked : entry.1 = other
        · have elsewhere : ¬ key = other := fun equal => same (asked.trans equal.symm)
          simp only [place, if_neg same, lookup, if_pos asked, if_neg elsewhere]
        · simp only [place, if_neg same, lookup, if_neg asked, ih]

theorem get?_put (table : Table κ ν) (key other : κ) (value : ν) :
    (table.put key value).get? other = if key = other then some value else table.get? other :=
  lookup_place key other value table.entries

theorem mem_entries_put {table : Table κ ν} {key : κ} {value : ν} {entry : κ × ν} :
    entry ∈ (table.put key value).entries <->
      entry = (key, value) ∨ (entry.1 ≠ key ∧ entry ∈ table.entries) := by
  rcases entry with ⟨other, found⟩
  rw [← get?_eq_some_iff, ← get?_eq_some_iff, get?_put]
  by_cases same : key = other
  · subst same
    simp only [if_pos, Option.some.injEq, Prod.mk.injEq, true_and, ne_eq, not_true_eq_false,
      false_and, or_false]
    exact eq_comm
  · have different : ¬ other = key := fun equal => same equal.symm
    simp only [if_neg same, Prod.mk.injEq, different, false_and, ne_eq, not_false_eq_true,
      true_and, false_or]

theorem get?_map (table : Table κ ν) (change : κ -> ν -> μ) (key : κ) :
    (table.map change).get? key = (table.get? key).map (change key) := by
  have mapped : forall entries : List (κ × ν),
      lookup key (entries.map fun entry => (entry.1, change entry.1 entry.2)) =
        (lookup key entries).map (change key) := by
    intro entries
    induction entries with
    | nil => rfl
    | cons entry rest ih =>
        by_cases same : entry.1 = key
        · subst same
          simp only [List.map_cons, lookup, if_true, Option.map_some]
        · simp only [List.map_cons, lookup, if_neg same, ih]
  exact mapped table.entries

theorem map_put (table : Table κ ν) (change : κ -> ν -> μ) (key : κ) (value : ν) :
    (table.put key value).map change = (table.map change).put key (change key value) := by
  have mapped : forall entries : List (κ × ν),
      (place key value entries).map (fun entry => (entry.1, change entry.1 entry.2)) =
        place key (change key value)
          (entries.map fun entry => (entry.1, change entry.1 entry.2)) := by
    intro entries
    induction entries with
    | nil => rfl
    | cons entry rest ih =>
        by_cases same : entry.1 = key
        · simp only [place, if_pos same, List.map_cons]
        · simp only [place, if_neg same, List.map_cons, ih]
  exact ext (mapped table.entries)

theorem map_erase (table : Table κ ν) (change : κ -> ν -> μ) (key : κ) :
    (table.erase key).map change = (table.map change).erase key := by
  apply ext
  unfold erase
  rw [entries_map, entries_filter, entries_filter, entries_map, List.filter_map]
  rfl

theorem get?_filter_of_keep {table : Table κ ν} {keep : κ -> ν -> Bool} {key : κ} {value : ν} :
    (table.filter keep).get? key = some value <->
      table.get? key = some value ∧ keep key value = true := by
  rw [get?_eq_some_iff, get?_eq_some_iff, entries_filter, List.mem_filter]

theorem get?_erase (table : Table κ ν) (key other : κ) :
    (table.erase key).get? other = if key = other then none else table.get? other := by
  by_cases same : key = other
  · rw [if_pos same, get?_eq_none_iff]
    intro listed
    rcases List.mem_map.mp listed with ⟨entry, member, asked⟩
    have kept := (List.mem_filter.mp member).2
    simp only [asked.trans same.symm, decide_true, Bool.not_true, Bool.false_eq_true] at kept
  · rw [if_neg same]
    cases found : table.get? other with
    | none =>
        rw [get?_eq_none_iff] at found ⊢
        exact fun listed => found ((keys_filter_sublist table _).subset listed)
    | some value =>
        refine get?_filter_of_keep.mpr ⟨found, ?_⟩
        have different : ¬ other = key := fun equal => same equal.symm
        simp only [different, decide_false, Bool.not_false]

/-- Erasing the first key leaves the other entries. -/
theorem entries_erase_of_cons {table : Table κ ν} {key : κ} {value : ν} {rest : List (κ × ν)}
    (entries : table.entries = (key, value) :: rest) : (table.erase key).entries = rest := by
  have distinct := table.distinct
  rw [entries, List.map_cons, List.nodup_cons] at distinct
  have others : rest.filter (fun entry => !decide (entry.1 = key)) = rest := by
    apply List.filter_eq_self.mpr
    intro entry listed
    have member : entry.1 ∈ rest.map Prod.fst := List.mem_map_of_mem listed
    have other : entry.1 ≠ key := fun same => distinct.1 (same ▸ member)
    simp only [other, decide_false, Bool.not_false]
  unfold erase
  rw [entries_filter, entries, List.filter_cons, others]
  simp only [decide_true, Bool.not_true, Bool.false_eq_true, if_false]

/-! ## Many values at once -/

/-- Put values one after the other, each under a key of its own. -/
def putEach (table : Table κ ν) (key : ν -> κ) (values : List ν) : Table κ ν :=
  values.foldl (fun table value => table.put (key value) value) table

theorem putEach_cons (table : Table κ ν) (key : ν -> κ) (value : ν) (rest : List ν) :
    table.putEach key (value :: rest) = (table.put (key value) value).putEach key rest := rfl

theorem putEach_append (table : Table κ ν) (key : ν -> κ) (first second : List ν) :
    table.putEach key (first ++ second) = (table.putEach key first).putEach key second :=
  List.foldl_append

/-- Values whose keys are listed already take their old places. -/
theorem keys_putEach_of_listed {table : Table κ ν} {key : ν -> κ} {values : List ν}
    (listed : forall value, value ∈ values -> key value ∈ table.keys) :
    (table.putEach key values).keys = table.keys := by
  induction values generalizing table with
  | nil => rfl
  | cons value rest ih =>
      rcases List.forall_mem_cons.mp listed with ⟨head, tail⟩
      have same : (table.put (key value) value).keys = table.keys := by
        rw [keys_put, if_pos head]
      rw [putEach_cons, ih, same]
      intro other member
      rw [same]
      exact tail other member

/-- Values whose keys are new stand at the end in their order. -/
theorem keys_putEach_of_absent {table : Table κ ν} {key : ν -> κ} {values : List ν}
    (distinct : (values.map key).Nodup)
    (absent : forall value, value ∈ values -> key value ∉ table.keys) :
    (table.putEach key values).keys = table.keys ++ values.map key := by
  induction values generalizing table with
  | nil => exact (List.append_nil _).symm
  | cons value rest ih =>
      rcases List.nodup_cons.mp distinct with ⟨once, others⟩
      rcases List.forall_mem_cons.mp absent with ⟨head, tail⟩
      have longer : (table.put (key value) value).keys = table.keys ++ [key value] := by
        rw [keys_put, if_neg head]
      rw [putEach_cons, ih others, longer, List.append_assoc]
      · rfl
      · intro other member
        rw [longer, List.mem_append, List.mem_singleton]
        rintro (old | same)
        · exact tail other member old
        · exact once (same ▸ List.mem_map_of_mem member)

/-- A value that was put is found, and other keys give what they gave. -/
theorem mem_entries_putEach {table : Table κ ν} {key : ν -> κ} {values : List ν}
    (distinct : (values.map key).Nodup) {entry : κ × ν} :
    entry ∈ (table.putEach key values).entries <->
      (entry.2 ∈ values ∧ key entry.2 = entry.1) ∨
        (entry.1 ∉ values.map key ∧ entry ∈ table.entries) := by
  induction values generalizing table with
  | nil => simp [putEach]
  | cons value rest ih =>
      rcases List.nodup_cons.mp distinct with ⟨once, others⟩
      rw [putEach_cons, ih others, mem_entries_put, List.map_cons, List.mem_cons, List.mem_cons]
      constructor
      · rintro (⟨member, same⟩ | ⟨absent, same | ⟨other, old⟩⟩)
        · exact Or.inl ⟨Or.inr member, same⟩
        · exact Or.inl ⟨Or.inl (congrArg Prod.snd same), by rw [same]⟩
        · exact Or.inr ⟨not_or.mpr ⟨other, absent⟩, old⟩
      · rintro (⟨first | member, same⟩ | ⟨absent, old⟩)
        · refine Or.inr ⟨?_, Or.inl (Prod.ext (same ▸ first ▸ rfl) first)⟩
          rw [← same, first]
          exact once
        · exact Or.inl ⟨member, same⟩
        · exact Or.inr ⟨(not_or.mp absent).2, Or.inr ⟨(not_or.mp absent).1, old⟩⟩

end Lookup

end Table
end Brokerage
