namespace Brokerage

/-!
Maps that remember the order in which their keys came.

A key that is put again keeps its first place and takes the new value, a key
that is erased and put again goes to the end.  The order matters twice: sums
over a table are taken in it, and answers list their entries in it.
-/

/-- A finite map whose entries stand in the order of their first insertion. -/
structure Table (κ ν : Type) where
  entries : List (κ × ν)
  distinct : (entries.map Prod.fst).Nodup

namespace Table

variable {κ ν μ : Type}

def empty : Table κ ν where
  entries := []
  distinct := List.nodup_nil

instance : EmptyCollection (Table κ ν) := ⟨empty⟩

instance : Inhabited (Table κ ν) := ⟨empty⟩

/-- The keys in the order of their first insertion. -/
def keys (table : Table κ ν) : List κ :=
  table.entries.map Prod.fst

/-- The values in the order of their keys. -/
def values (table : Table κ ν) : List ν :=
  table.entries.map Prod.snd

def size (table : Table κ ν) : Nat :=
  table.entries.length

def isEmpty (table : Table κ ν) : Bool :=
  table.entries.isEmpty

section Lookup

variable [DecidableEq κ]

/-- The value that a list of entries gives to a key. -/
def lookup (key : κ) : List (κ × ν) -> Option ν
  | [] => none
  | entry :: rest => if entry.1 = key then some entry.2 else lookup key rest

def get? (table : Table κ ν) (key : κ) : Option ν :=
  lookup key table.entries

def contains (table : Table κ ν) (key : κ) : Bool :=
  (table.get? key).isSome

/-- Give `key` the value in its own place, or at the end when it has none. -/
def place (key : κ) (value : ν) : List (κ × ν) -> List (κ × ν)
  | [] => [(key, value)]
  | entry :: rest =>
      if entry.1 = key then (key, value) :: rest else entry :: place key value rest

theorem keys_place (key : κ) (value : ν) (entries : List (κ × ν)) :
    (place key value entries).map Prod.fst =
      if key ∈ entries.map Prod.fst then entries.map Prod.fst
      else entries.map Prod.fst ++ [key] := by
  induction entries with
  | nil => simp [place]
  | cons entry rest ih =>
      by_cases same : entry.1 = key
      · simp [place, same]
      · have other : ¬ key = entry.1 := fun equal => same equal.symm
        simp only [place, if_neg same, List.map_cons, List.mem_cons, other, false_or, ih]
        split <;> rfl

theorem place_distinct (key : κ) (value : ν) {entries : List (κ × ν)}
    (distinct : (entries.map Prod.fst).Nodup) :
    ((place key value entries).map Prod.fst).Nodup := by
  rw [keys_place]
  split
  · exact distinct
  · rename_i absent
    refine List.nodup_append.mpr ⟨distinct, by simp, ?_⟩
    intro first member second single
    rw [List.mem_singleton.mp single]
    exact fun same => absent (same ▸ member)

/-- Set the value of a key. -/
def put (table : Table κ ν) (key : κ) (value : ν) : Table κ ν where
  entries := place key value table.entries
  distinct := place_distinct key value table.distinct

/-- The table that a list of entries leaves when they are put one after the other. -/
def ofList (entries : List (κ × ν)) : Table κ ν :=
  entries.foldl (fun table entry => table.put entry.1 entry.2) empty

end Lookup

/-- The entries that pass a test, in their order. -/
def filter (table : Table κ ν) (keep : κ -> ν -> Bool) : Table κ ν where
  entries := table.entries.filter fun entry => keep entry.1 entry.2
  distinct := List.Nodup.sublist (List.filter_sublist.map Prod.fst) table.distinct

/-- The table without a key. -/
def erase [DecidableEq κ] (table : Table κ ν) (key : κ) : Table κ ν :=
  table.filter fun other _ => !decide (other = key)

/-- Every value is replaced by one that may depend on its key; the order stays. -/
def map (table : Table κ ν) (change : κ -> ν -> μ) : Table κ μ where
  entries := table.entries.map fun entry => (entry.1, change entry.1 entry.2)
  distinct := by
    have keep : (table.entries.map fun entry => (entry.1, change entry.1 entry.2)).map Prod.fst =
        table.entries.map Prod.fst := by
      simp [List.map_map, Function.comp_def]
    rw [keep]
    exact table.distinct

end Table

end Brokerage
