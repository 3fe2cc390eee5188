import Brokerage.Feed.Events
import Brokerage.Proofs.Feed.Arranging
import Brokerage.Proofs.Table
import Mathlib.Data.List.Induction
import Mathlib.Data.List.Nodup

namespace Brokerage

/-!
Moments out of observations.

Observations are grouped by their instants, and a group makes up a moment when
no asset is observed twice in it.  The moment then shows the observations of its
group and nothing else.
-/

variable {α : Type}

/-! ## One moment -/

theorem Event.collect?_eq {prices : Table Asset (Observation α)} {observations : List (Observation α)}
    (distinct : (observations.map Observation.asset).Nodup)
    (absent : forall observation, observation ∈ observations ->
      observation.asset ∉ prices.keys) :
    Event.collect? prices observations = .ok (prices.putEach Observation.asset observations) := by
  induction observations generalizing prices with
  | nil => rfl
  | cons observation rest ih =>
      rcases List.nodup_cons.mp distinct with ⟨once, others⟩
      rcases List.forall_mem_cons.mp absent with ⟨head, tail⟩
      have new : ¬ prices.contains observation.asset = true := fun old =>
        head (Table.contains_iff.mp old)
      rw [Event.collect?, if_neg new, ih others, Table.putEach_cons]
      intro other listed
      rw [Table.mem_keys_put, not_or]
      exact ⟨tail other listed, fun same => once (same ▸ List.mem_map_of_mem listed)⟩

namespace Moment

/-- The moment that shows some observations. -/
def showing (time : Option Instant) (observations : List (Observation α)) : Moment α where
  time
  prices := Table.empty.putEach Observation.asset observations

theorem of?_eq {observations : List (Observation α)}
    (distinct : (observations.map Observation.asset).Nodup) (time : Option Instant) :
    Moment.of? time observations = .ok (showing time observations) := by
  unfold Moment.of?
  rw [Event.collect?_eq distinct fun _ _ => List.not_mem_nil]
  rfl

end Moment

namespace Feed

variable {observed : List (Option Instant × Observation α)} {time : Option Instant}

/-! ## Groups -/

/-- What was observed at an instant, in the order in which it came. -/
def gathered (observed : List (Option Instant × Observation α)) (time : Option Instant) :
    List (Observation α) :=
  (observed.filter fun entry => decide (entry.1 = time)).map Prod.snd

theorem mem_gathered {observation : Observation α} :
    observation ∈ gathered observed time <-> (time, observation) ∈ observed := by
  unfold gathered
  constructor
  · intro listed
    rcases List.mem_map.mp listed with ⟨entry, member, same⟩
    rcases List.mem_filter.mp member with ⟨member, timed⟩
    have pair : entry = (time, observation) := Prod.ext (of_decide_eq_true timed) same
    exact pair ▸ member
  · intro listed
    exact List.mem_map.mpr ⟨(time, observation),
      List.mem_filter.mpr ⟨listed, decide_eq_true rfl⟩, rfl⟩

theorem gathered_eq_nil (absent : time ∉ observed.map Prod.fst) : gathered observed time = [] := by
  apply List.eq_nil_iff_forall_not_mem.mpr
  intro observation listed
  exact absent (List.mem_map_of_mem (mem_gathered.mp listed))

theorem gathered_append (first second : List (Option Instant × Observation α))
    (time : Option Instant) :
    gathered (first ++ second) time = gathered first time ++ gathered second time := by
  unfold gathered
  rw [List.filter_append, List.map_append]

/-- Different assets are observed at an instant when no asset is observed twice at one. -/
theorem nodup_gathered
    (distinct : (observed.map fun entry => (entry.1, entry.2.asset)).Nodup)
    (time : Option Instant) : ((gathered observed time).map Observation.asset).Nodup := by
  unfold gathered
  have kept : ((observed.filter fun entry => decide (entry.1 = time)).map fun entry =>
      (entry.1, entry.2.asset)).Nodup :=
    List.Nodup.sublist (List.filter_sublist.map _) distinct
  have same : (observed.filter fun entry => decide (entry.1 = time)).map
      (fun entry => (entry.1, entry.2.asset)) =
      (((observed.filter fun entry => decide (entry.1 = time)).map Prod.snd).map
        Observation.asset).map (Prod.mk time) := by
    rw [List.map_map, List.map_map]
    apply List.map_congr_left
    intro entry listed
    have timed : entry.1 = time := of_decide_eq_true (List.mem_filter.mp listed).2
    rw [timed]
    rfl
  rw [same] at kept
  exact List.Nodup.of_map _ kept

theorem grouped_append_singleton (earlier : List (Option Instant × Observation α))
    (entry : Option Instant × Observation α) :
    grouped (earlier ++ [entry]) = (grouped earlier).put entry.1
      (((grouped earlier).get? entry.1).getD [] ++ [entry.2]) := by
  unfold grouped
  rw [List.foldl_append]
  rfl

/-- The groups hold what was observed at each instant at which something was. -/
theorem get?_grouped (observed : List (Option Instant × Observation α)) (time : Option Instant) :
    (grouped observed).get? time =
      if time ∈ observed.map Prod.fst then some (gathered observed time) else none := by
  induction observed using List.reverseRecOn generalizing time with
  | nil => rfl
  | append_singleton earlier entry ih =>
      have before : ((grouped earlier).get? entry.1).getD [] = gathered earlier entry.1 := by
        rw [ih]
        split
        · rfl
        · rename_i absent
          exact (gathered_eq_nil absent).symm
      rw [grouped_append_singleton, Table.get?_put, before, ih, gathered_append]
      by_cases same : entry.1 = time
      · subst same
        simp [gathered]
      · have nothing : gathered [entry] time = [] := by
          apply gathered_eq_nil
          exact fun listed => same (List.mem_singleton.mp listed).symm
        have earlierOnly : time ∈ (earlier ++ [entry]).map Prod.fst <->
            time ∈ earlier.map Prod.fst := by
          rw [List.map_append, List.mem_append, List.map_singleton, List.mem_singleton]
          exact or_iff_left fun equal => same equal.symm
        simp only [if_neg same, nothing, List.append_nil, earlierOnly]

theorem mem_entries_grouped {group : Option Instant × List (Observation α)} :
    group ∈ (grouped observed).entries <->
      group.1 ∈ observed.map Prod.fst ∧ group.2 = gathered observed group.1 := by
  rw [← Prod.eta group, ← Table.get?_eq_some_iff, get?_grouped]
  split
  · rename_i present
    simp [present, eq_comm]
  · rename_i absent
    simp [absent]

/-! ## Moments of groups -/

/-- The moment of a group. -/
def momentOf (group : Option Instant × List (Observation α)) : Moment α :=
  Moment.showing group.1 group.2

theorem momentsOf?_eq {groups : List (Option Instant × List (Observation α))}
    (distinct : forall group, group ∈ groups -> (group.2.map Observation.asset).Nodup) :
    momentsOf? groups = .ok (groups.map momentOf) := by
  induction groups with
  | nil => rfl
  | cons group rest ih =>
      rcases List.forall_mem_cons.mp distinct with ⟨head, tail⟩
      rw [momentsOf?, Moment.of?_eq head, ih tail]
      rfl

/-- The groups in ascending order of their instants. -/
def ascending (observed : List (Option Instant × Observation α)) :
    List (Option Instant × List (Observation α)) :=
  Arrangement.arranged (fun left right => isBefore left.1 right.1) (grouped observed).entries

theorem ascending_perm (observed : List (Option Instant × Observation α)) :
    (ascending observed).Perm (grouped observed).entries :=
  Arrangement.arranged_perm _ _

theorem mem_ascending {group : Option Instant × List (Observation α)} :
    group ∈ ascending observed <->
      group.1 ∈ observed.map Prod.fst ∧ group.2 = gathered observed group.1 :=
  (ascending_perm observed).mem_iff.trans mem_entries_grouped

end Feed
end Brokerage
