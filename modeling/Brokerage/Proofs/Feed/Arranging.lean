import Brokerage.Feed.Arrangement

namespace Brokerage
namespace Arrangement

/-!
What comes out when entries are put in order.

The same entries come out, whatever the relation relates.  When it goes by a
rank that every entry has, they come out in ascending order of their ranks.
-/

variable {β : Type} {before : β -> β -> Bool} {rank : β -> Int} {entries : List β}

/-! ## The same entries -/

theorem rising_append (before : β -> β -> Bool) (entries : List β) :
    (rising before entries).1 ++ (rising before entries).2 = entries := by
  fun_induction rising before entries with
  | case1 => rfl
  | case2 => rfl
  | case3 => rfl
  | case4 first second rest _ front behind split ih =>
      rw [split] at ih
      exact congrArg (List.cons first) ih

theorem falling_perm (before : β -> β -> Bool) (last : β) (turned entries : List β) :
    ((falling before last turned entries).1 ++ (falling before last turned entries).2).Perm
      (turned ++ entries) := by
  induction entries generalizing last turned with
  | nil => exact List.Perm.refl _
  | cons entry rest ih =>
      rw [falling]
      split
      · exact (ih entry (entry :: turned)).trans List.perm_middle.symm
      · exact List.Perm.refl _

theorem front_perm (before : β -> β -> Bool) (entries : List β) :
    ((front before entries).1 ++ (front before entries).2).Perm entries := by
  unfold front
  split
  · split
    · exact (falling_perm before _ _ _).trans (List.Perm.swap _ _ _)
    · rw [rising_append]
  · rw [List.append_nil]

theorem inserted_perm (before : β -> β -> Bool) (entry : β) (entries : List β) :
    (inserted before entry entries).Perm (entry :: entries) := by
  fun_induction inserted before entry entries with
  | case1 entries rest =>
      have none : entries = [] := by
        have length := congrArg List.length rest
        rw [List.length_drop, List.length_nil] at length
        apply List.eq_nil_of_length_eq_zero
        omega
      rw [none]
  | case2 entries middle behind rest _ ih =>
      have whole := List.take_append_drop (entries.length / 2) entries
      rw [rest] at whole
      refine (ih.append_right (middle :: behind)).trans ?_
      rw [List.cons_append, whole]
  | case3 entries middle behind rest _ ih =>
      have whole := List.take_append_drop (entries.length / 2) entries
      rw [rest] at whole
      refine ((ih.cons middle).append_left _).trans ?_
      refine (((List.Perm.swap entry middle behind).append_left _)).trans ?_
      refine List.perm_middle.trans ?_
      rw [whole]

theorem arranged_perm (before : β -> β -> Bool) (entries : List β) :
    (arranged before entries).Perm entries := by
  have placed : forall rest front : List β,
      (rest.foldl (fun placed entry => inserted before entry placed) front).Perm
        (front ++ rest) := by
    intro rest
    induction rest with
    | nil => simp
    | cons entry rest ih =>
        intro front
        refine (ih _).trans ?_
        exact ((inserted_perm before entry front).append_right rest).trans List.perm_middle.symm
  exact (placed _ _).trans (front_perm before entries)

/-! ## Ascending order -/

/-- No entry stands behind one of a higher rank. -/
def Ascends (rank : β -> Int) (entries : List β) : Prop :=
  entries.Pairwise fun left right => rank left ≤ rank right

theorem Ascends.append {front behind : List β} (first : Ascends rank front)
    (second : Ascends rank behind)
    (across : forall left, left ∈ front -> forall right, right ∈ behind -> rank left ≤ rank right) :
    Ascends rank (front ++ behind) :=
  List.pairwise_append.mpr ⟨first, second, across⟩

/-- An entry that is not above the first of an ascending list can stand ahead of it. -/
theorem Ascends.cons {first second : β} {rest : List β} (ascends : Ascends rank (second :: rest))
    (below : rank first ≤ rank second) : Ascends rank (first :: second :: rest) := by
  apply List.Pairwise.cons
  · intro other listed
    rcases List.mem_cons.mp listed with same | later
    · rw [same]
      exact below
    · exact Int.le_trans below (List.rel_of_pairwise_cons ascends later)
  · exact ascends

end Arrangement
end Brokerage
