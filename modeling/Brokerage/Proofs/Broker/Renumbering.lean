import Brokerage.Proofs.Broker.BatchNumbers

namespace Brokerage

/-!
Numbers in a row when some are left out.

When some members of a batch are left out, the others move up: a number
becomes smaller by as many as have been left out below it.  On the numbers
that stay, this keeps the order and never joins two of them.
-/

variable {σ τ : Type}

/-! ## A batch under its numbers -/

/-- The members of a list under the numbers that they get from a first one on. -/
def labelled (first : Int) : List σ -> List (OrderId × σ)
  | [] => []
  | member :: rest => (first, member) :: labelled (first + 1) rest

theorem labelled_numbers (first : Int) (members : List σ) :
    (labelled first members).map Prod.fst = numbersFrom first members.length := by
  induction members generalizing first with
  | nil => rfl
  | cons member rest ih => rw [labelled, List.map_cons, ih, List.length_cons, numbersFrom]

theorem labelled_distinct (first : Int) (members : List σ) :
    ((labelled first members).map Prod.fst).Nodup := by
  rw [labelled_numbers]
  exact (pairwise_numbersFrom first members.length).imp Int.ne_of_lt

theorem labelled_members (first : Int) (members : List σ) :
    (labelled first members).map Prod.snd = members := by
  induction members generalizing first with
  | nil => rfl
  | cons member rest ih => rw [labelled, List.map_cons, ih]

theorem labelled_map (first : Int) (members : List σ) (change : σ -> τ) :
    labelled first (members.map change) =
      (labelled first members).map fun entry => (entry.1, change entry.2) := by
  induction members generalizing first with
  | nil => rfl
  | cons member rest ih => rw [List.map_cons, labelled, ih, labelled, List.map_cons]

theorem exists_labelled {members : List σ} {member : σ} (listed : member ∈ members)
    (first : Int) : Exists fun number => (number, member) ∈ labelled first members := by
  induction members generalizing first with
  | nil => cases listed
  | cons other rest ih =>
      rcases List.mem_cons.mp listed with same | later
      · subst same
        exact ⟨first, List.mem_cons_self⟩
      · rcases ih later (first + 1) with ⟨number, among⟩
        exact ⟨number, List.mem_cons_of_mem _ among⟩

theorem mem_labelled_bounds {first : Int} {members : List σ} {entry : OrderId × σ}
    (listed : entry ∈ labelled first members) : first ≤ entry.1 ∧ entry.2 ∈ members := by
  induction members generalizing first with
  | nil => cases listed
  | cons member rest ih =>
      rcases List.mem_cons.mp listed with same | later
      · subst same
        exact ⟨Int.le_refl first, List.mem_cons_self⟩
      · have below := ih later
        exact ⟨Int.le_of_lt below.1, List.mem_cons_of_mem _ below.2⟩

/-- The number of a member counts the members before it. -/
theorem mem_labelled_iff {first number : Int} {members : List σ} {member : σ} :
    (number, member) ∈ labelled first members <->
      Exists fun before => Exists fun after =>
        members = before ++ member :: after ∧ number = first + before.length := by
  induction members generalizing first with
  | nil =>
      constructor
      · exact fun impossible => nomatch impossible
      · rintro ⟨before, after, split, -⟩
        exact absurd split.symm (by simp)
  | cons other rest ih =>
      unfold labelled
      rw [List.mem_cons, ih]
      constructor
      · rintro (same | ⟨before, after, rfl, rfl⟩)
        · cases same
          exact ⟨[], rest, rfl, (Int.add_zero _).symm⟩
        · exact ⟨other :: before, after, rfl, by rw [List.length_cons]; omega⟩
      · rintro ⟨before, after, split, rfl⟩
        cases before with
        | nil =>
            cases split
            exact Or.inl (Prod.ext (Int.add_zero first) rfl)
        | cons _ before =>
            cases split
            exact Or.inr ⟨before, after, rfl, by rw [List.length_cons]; omega⟩

/-- The numbers of the members that are left out. -/
def droppedNumbers (drop : σ -> Bool) (first : Int) (members : List σ) : List OrderId :=
  ((labelled first members).filter fun entry => drop entry.2).map Prod.fst

theorem pairwise_droppedNumbers (drop : σ -> Bool) (first : Int) (members : List σ) :
    (droppedNumbers drop first members).Pairwise (· < ·) := by
  have ascending := pairwise_numbersFrom first members.length
  rw [← labelled_numbers] at ascending
  exact ascending.sublist (List.filter_sublist.map Prod.fst)

theorem le_of_mem_droppedNumbers {drop : σ -> Bool} {first : Int} {members : List σ}
    {number : OrderId} (listed : number ∈ droppedNumbers drop first members) :
    first ≤ number := by
  rcases List.mem_map.mp listed with ⟨entry, member, same⟩
  exact same ▸ (mem_labelled_bounds (List.mem_filter.mp member).1).1

/-- Among the numbers of the members, those of the dropped ones are removed. -/
theorem mem_droppedNumbers_iff {drop : σ -> Bool} {first : Int} {members : List σ}
    {entry : OrderId × σ} (listed : entry ∈ labelled first members) :
    entry.1 ∈ droppedNumbers drop first members <-> drop entry.2 = true := by
  have distinct := labelled_distinct first members
  constructor
  · intro dropped
    rcases List.mem_map.mp dropped with ⟨other, member, same⟩
    rcases List.mem_filter.mp member with ⟨among, leaves⟩
    rw [List.inj_on_of_nodup_map distinct among listed same] at leaves
    exact leaves
  · intro leaves
    exact List.mem_map_of_mem (List.mem_filter.mpr ⟨listed, leaves⟩)

/-! ## Moving up -/

/-- The number that takes the place of another one when some numbers are left out. -/
def renumber (removed : List OrderId) (number : Int) : Int :=
  number - removed.countP fun other => decide (other < number)

section Moving

variable {removed : List Int}

theorem renumber_of_le {number : Int} (above : forall other, other ∈ removed -> number ≤ other) :
    renumber removed number = number := by
  have nothing : (removed.countP fun other => decide (other < number)) = 0 := by
    apply List.countP_eq_zero.mpr
    intro other listed
    simpa using above other listed
  rw [renumber, nothing]
  exact Int.sub_zero number

private theorem countP_succ (number : Int) :
    (removed.countP fun other => decide (other < number + 1)) =
      (removed.countP fun other => decide (other < number)) + removed.count number := by
  induction removed with
  | nil => rfl
  | cons other rest ih =>
      rw [List.countP_cons, List.countP_cons, List.count_cons, ih]
      by_cases same : other = number
      · subst same
        simp only [Int.lt_succ, Int.lt_irrefl, decide_true, decide_false, beq_self_eq_true, if_true,
          Bool.false_eq_true, if_false, Nat.add_zero, Nat.add_assoc]
      · have split : other < number + 1 <-> other < number := by
          omega
        simp [same, split]
        omega

theorem renumber_succ_of_not_mem {number : Int} (stays : number ∉ removed) :
    renumber removed (number + 1) = renumber removed number + 1 := by
  rw [renumber, renumber, countP_succ, List.count_eq_zero.mpr stays]
  omega

theorem renumber_succ_of_mem (distinct : removed.Nodup) {number : Int}
    (leaves : number ∈ removed) :
    renumber removed (number + 1) = renumber removed number := by
  rw [renumber, renumber, countP_succ, List.count_eq_one_of_mem distinct leaves]
  omega

theorem renumber_le (distinct : removed.Nodup) {first second : Int} (ordered : first ≤ second) :
    renumber removed first ≤ renumber removed second := by
  rcases Int.le.dest ordered with ⟨steps, same⟩
  subst same
  induction steps with
  | zero => rw [Int.natCast_zero, Int.add_zero]
  | succ steps ih =>
      have before := ih (Int.le_add_of_nonneg_right (Int.natCast_nonneg steps))
      rw [Int.natCast_succ, ← Int.add_assoc]
      by_cases leaves : first + (steps : Int) ∈ removed
      · rw [renumber_succ_of_mem distinct leaves]
        exact before
      · rw [renumber_succ_of_not_mem leaves]
        exact Int.le_trans before (Int.le_of_lt (Int.lt_succ _))

/-- The numbers that stay keep their order. -/
theorem renumber_lt (distinct : removed.Nodup) {first second : Int} (stays : first ∉ removed)
    (ordered : first < second) : renumber removed first < renumber removed second := by
  have next : renumber removed (first + 1) ≤ renumber removed second :=
    renumber_le distinct ordered
  rw [renumber_succ_of_not_mem stays] at next
  exact next

/-- No two numbers that stay become one. -/
theorem renumber_inj (distinct : removed.Nodup) {first second : Int} (one : first ∉ removed)
    (other : second ∉ removed) :
    renumber removed first = renumber removed second <-> first = second := by
  constructor
  · intro same
    rcases Int.lt_trichotomy first second with less | equal | more
    · exact absurd same (Int.ne_of_lt (renumber_lt distinct one less))
    · exact equal
    · exact absurd same.symm (Int.ne_of_lt (renumber_lt distinct other more))
  · exact congrArg (renumber removed)

end Moving

/-! ## Leaving members out -/

/-- From a number on, exactly the members of a list that are to be dropped are removed. -/
structure Skips (removed : List OrderId) (drop : σ -> Bool) (first : Int) (members : List σ) :
    Prop where
  distinct : removed.Nodup
  exactly : forall number, first ≤ number ->
    (number ∈ removed <-> number ∈ droppedNumbers drop first members)

theorem skips_droppedNumbers (drop : σ -> Bool) (first : Int) (members : List σ) :
    Skips (droppedNumbers drop first members) drop first members :=
  ⟨(pairwise_droppedNumbers drop first members).imp Int.ne_of_lt, fun _ _ => Iff.rfl⟩

namespace Skips

variable {removed : List OrderId} {drop : σ -> Bool} {first : Int} {member : σ} {rest : List σ}

theorem mem_iff (skips : Skips removed drop first (member :: rest)) :
    first ∈ removed <-> drop member = true := by
  rw [skips.exactly first (Int.le_refl first)]
  have later : first ∉ droppedNumbers drop (first + 1) rest :=
    fun listed => Int.lt_irrefl first (le_of_mem_droppedNumbers listed)
  unfold droppedNumbers at later ⊢
  rw [labelled, List.filter_cons]
  cases drop member with
  | true => simp
  | false => simpa using later

theorem tail (skips : Skips removed drop first (member :: rest)) :
    Skips removed drop (first + 1) rest := by
  refine ⟨skips.distinct, fun number above => ?_⟩
  rw [skips.exactly number (Int.le_of_lt above)]
  unfold droppedNumbers
  rw [labelled, List.filter_cons]
  cases drop member with
  | false => rfl
  | true =>
      simp only [if_true, List.map_cons, List.mem_cons]
      have other : number ≠ first := Int.ne_of_gt above
      simp only [other, false_or]

end Skips

/-- The members that stay, under their new numbers. -/
theorem labelled_filter {removed : List OrderId} {drop : σ -> Bool} {first : Int}
    {members : List σ} (skips : Skips removed drop first members) :
    labelled (renumber removed first) (members.filter fun member => !drop member) =
      ((labelled first members).filter fun entry => !drop entry.2).map
        fun entry => (renumber removed entry.1, entry.2) := by
  induction members generalizing first with
  | nil => rfl
  | cons member rest ih =>
      have step := ih skips.tail
      rw [labelled, List.filter_cons, List.filter_cons]
      cases dropped : drop member with
      | true =>
          have leaves := skips.mem_iff.mpr dropped
          rw [renumber_succ_of_mem skips.distinct leaves] at step
          simpa using step
      | false =>
          have stays : first ∉ removed := by
            rw [skips.mem_iff, dropped]
            exact Bool.false_ne_true
          rw [renumber_succ_of_not_mem stays] at step
          simp only [Bool.not_false, if_true, labelled, List.map_cons, step]

/-! ## Tables under new numbers -/

/--
One table is another one without some numbers, with the others moved up.  The
values need to be alike only, in what a function says of them.
-/
structure Table.Mirrors (removed : List OrderId) (like : σ -> τ)
    (full reduced : Table OrderId σ) : Prop where
  alike : forall number, number ∉ removed ->
    (reduced.get? (renumber removed number)).map like = (full.get? number).map like
  onto : forall key, key ∈ reduced.keys ->
    Exists fun number => number ∉ removed ∧ renumber removed number = key

namespace Table.Mirrors

variable {removed : List OrderId} {like : σ -> τ} {full reduced : Table OrderId σ}

/-- A table mirrors itself as long as nothing is removed from among its numbers. -/
theorem refl (removed : List OrderId) (distinct : removed.Nodup) (like : σ -> τ)
    {table : Table OrderId σ} {bound : OrderId}
    (below : forall number, number ∈ table.keys -> number < bound)
    (above : forall number, number ∈ removed -> bound ≤ number) :
    Table.Mirrors removed like table table := by
  have fixed : forall {number : OrderId}, number ≤ bound -> renumber removed number = number :=
    fun within => renumber_of_le fun other listed => Int.le_trans within (above other listed)
  constructor
  · intro number stays
    rcases Int.lt_or_le number bound with low | high
    · rw [fixed (Int.le_of_lt low)]
    · have missing : forall {other : OrderId}, bound ≤ other -> table.get? other = none :=
        fun outside => Table.get?_eq_none_iff.mpr fun listed =>
          Int.lt_irrefl _ (Int.lt_of_lt_of_le (below _ listed) outside)
      have moved := renumber_le distinct high
      rw [fixed (Int.le_refl bound)] at moved
      rw [missing high, missing moved]
  · intro key listed
    have low := below key listed
    exact ⟨key, fun leaves => Int.lt_irrefl _ (Int.lt_of_lt_of_le low (above key leaves)),
      fixed (Int.le_of_lt low)⟩

/-- Replacing values by others of which the function says the same. -/
theorem map (mirrors : Table.Mirrors removed like full reduced) {change : σ -> σ}
    (respects : forall {value likeness}, like value = like likeness ->
      like (change value) = like (change likeness)) :
    Table.Mirrors removed like (full.map fun _ => change) (reduced.map fun _ => change) := by
  constructor
  · intro number stays
    have same := mirrors.alike number stays
    rw [Table.get?_map, Table.get?_map]
    cases one : full.get? number with
    | none =>
        rw [one, Option.map_none, Option.map_eq_none_iff] at same
        rw [same]
    | some value =>
        rw [one, Option.map_some, Option.map_eq_some_iff] at same
        rcases same with ⟨likeness, found, equal⟩
        rw [found, Option.map_some, Option.map_some, Option.map_some, Option.map_some,
          respects equal]
  · rw [Table.keys_map]
    exact mirrors.onto

theorem map_left (mirrors : Table.Mirrors removed like full reduced) {change : σ -> σ}
    (keeps : forall value, like (change value) = like value) :
    Table.Mirrors removed like (full.map fun _ => change) reduced := by
  refine ⟨fun number stays => ?_, mirrors.onto⟩
  rw [Table.get?_map, Option.map_map, mirrors.alike number stays]
  exact congrArg (fun read => (full.get? number).map read) (funext fun value => (keeps value).symm)

theorem map_right (mirrors : Table.Mirrors removed like full reduced) {change : σ -> σ}
    (keeps : forall value, like (change value) = like value) :
    Table.Mirrors removed like full (reduced.map fun _ => change) := by
  constructor
  · intro number stays
    rw [Table.get?_map, Option.map_map, ← mirrors.alike number stays]
    exact congrArg (fun read => (reduced.get? _).map read) (funext keeps)
  · rw [Table.keys_map]
    exact mirrors.onto

theorem put (mirrors : Table.Mirrors removed like full reduced) (distinct : removed.Nodup)
    {number : OrderId} (stays : number ∉ removed) {value likeness : σ}
    (same : like likeness = like value) :
    Table.Mirrors removed like (full.put number value)
      (reduced.put (renumber removed number) likeness) := by
  constructor
  · intro other kept
    have equal := renumber_inj distinct stays kept
    rw [Table.get?_put, Table.get?_put]
    by_cases asked : number = other
    · rw [if_pos asked, if_pos (equal.mpr asked), Option.map_some, Option.map_some, same]
    · rw [if_neg asked, if_neg fun again => asked (equal.mp again)]
      exact mirrors.alike other kept
  · intro key listed
    rcases Table.mem_keys_put.mp listed with old | new
    · exact mirrors.onto key old
    · exact ⟨number, stays, new.symm⟩

theorem put_removed (mirrors : Table.Mirrors removed like full reduced) {number : OrderId}
    (leaves : number ∈ removed) (value : σ) :
    Table.Mirrors removed like (full.put number value) reduced := by
  refine ⟨fun other kept => ?_, mirrors.onto⟩
  have different : number ≠ other := fun same => kept (same ▸ leaves)
  rw [Table.get?_put, if_neg different]
  exact mirrors.alike other kept

/-- Tables in the order of their numbers list the same, one after the other. -/
theorem entries_eq (mirrors : Table.Mirrors removed like full reduced) (distinct : removed.Nodup)
    (first : full.keys.Pairwise (· < ·)) (second : reduced.keys.Pairwise (· < ·)) :
    (reduced.entries.map fun entry => (entry.1, like entry.2)) =
      (full.entries.filter fun entry => decide (entry.1 ∉ removed)).map
        fun entry => (renumber removed entry.1, like entry.2) := by
  apply eq_of_ascending Prod.fst
  · exact List.pairwise_map.mpr (List.pairwise_map.mp second)
  · apply List.pairwise_map.mpr
    apply ((List.pairwise_map.mp first).filter _).imp_of_mem
    intro one other listed _ less
    exact renumber_lt distinct (of_decide_eq_true (List.mem_filter.mp listed).2) less
  · intro entry
    rw [List.mem_map, List.mem_map]
    constructor
    · rintro ⟨found, listed, rfl⟩
      rcases mirrors.onto found.1 (Table.mem_keys_of_mem_entries listed) with
        ⟨number, stays, moved⟩
      have same := mirrors.alike number stays
      rw [moved, Table.get?_eq_some_iff.mpr listed, Option.map_some, eq_comm,
        Option.map_eq_some_iff] at same
      rcases same with ⟨value, there, equal⟩
      refine ⟨(number, value), List.mem_filter.mpr ⟨Table.get?_eq_some_iff.mp there, ?_⟩, ?_⟩
      · exact decide_eq_true stays
      · rw [moved, equal]
    · rintro ⟨found, listed, rfl⟩
      rcases List.mem_filter.mp listed with ⟨there, kept⟩
      have same := mirrors.alike found.1 (of_decide_eq_true kept)
      rw [Table.get?_eq_some_iff.mpr there, Option.map_some, Option.map_eq_some_iff] at same
      rcases same with ⟨value, here, equal⟩
      exact ⟨(_, value), Table.get?_eq_some_iff.mp here, by rw [equal]⟩

end Table.Mirrors
end Brokerage
