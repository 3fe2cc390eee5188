import Brokerage.Backtest.Jobs
import Brokerage.Proofs.Backtest.Playing
import Brokerage.Proofs.Table
import Mathlib.Data.List.Nodup

namespace Brokerage

/-!
Jobs in any order.

A job comes to the same whenever it is done, because it shares nothing with the
others.  Workers that complete the jobs in another order therefore collect the
same results, only in that order, and listing them in the order of the jobs
gives the table that a single worker would have made.
-/

variable {α : Type} [Quantity α]

namespace Job

/-! ## Names -/

/-- Different numbers are written differently. -/
theorem toString_injective {first second : Nat} (same : toString first = toString second) :
    first = second := by
  have digits : Nat.toDigits 10 first = Nat.toDigits 10 second := by
    rw [← Nat.toList_repr, ← Nat.toList_repr]
    exact congrArg String.toList same
  rw [← Nat.ofDigitChars_ten_toDigits (n := first), digits, Nat.ofDigitChars_ten_toDigits]

/-- The jobs of a sweep have names of their own, whatever the sweep is called. -/
theorem nodup_names_sweep (name : String) (events : List (Event α))
    (policy : Except (PolicyError α) (Policy α)) (grid : List (BacktestTerms α)) :
    ((sweep name events policy grid).map Job.name).Nodup := by
  have numbered : (sweep name events policy grid).map Job.name =
      (grid.zipIdx.map Prod.snd).map fun index => name ++ "-" ++ toString index := by
    unfold sweep
    rw [List.map_map, List.map_map]
    rfl
  rw [numbered, List.zipIdx_map_snd]
  refine List.Nodup.map ?_ List.nodup_range'
  intro first second same
  exact toString_injective ((String.append_right_inj _).mp same)

/-- Once a job is listed, the jobs with other names are still unlisted. -/
theorem absent_put {name : String} {rest : List (Job α)} (once : name ∉ rest.map Job.name)
    {table : Table String (Backtest α)}
    (absent : forall job, job ∈ rest -> job.name ∉ table.keys) {result : Backtest α} :
    forall job, job ∈ rest -> job.name ∉ (table.put name result).keys := by
  intro job member listed
  rcases Table.mem_keys_put.mp listed with old | same
  · exact absent job member old
  · exact once (same ▸ List.mem_map_of_mem member)

variable [Roots α]

/-! ## Doing jobs one after the other -/

/-- What a job adds to the results, when it comes to a result. -/
def entry? (job : Job α) : Option (String × Backtest α) :=
  match job.run? with
  | .ok (result, _) => some (job.name, result)
  | .error _ => none

theorem entry?_of_run? {job : Job α} {result : Backtest α} {notices : List (Notice α)}
    (ran : job.run? = .ok (result, notices)) : job.entry? = some (job.name, result) := by
  unfold entry?
  rw [ran]

/-- Jobs that come to a result. -/
def Succeed (jobs : List (Job α)) : Prop :=
  forall job, job ∈ jobs -> Exists fun done => job.run? = .ok done

/-- A job in a list that fails with an error. -/
def FailsIn (jobs : List (Job α)) (error : JobError α) : Prop :=
  Exists fun job => job ∈ jobs ∧ job.run? = .error error

theorem keys_of_succeed {jobs : List (Job α)} (succeed : Succeed jobs) :
    (jobs.filterMap entry?).map Prod.fst = jobs.map Job.name := by
  induction jobs with
  | nil => rfl
  | cons job rest ih =>
      rcases List.forall_mem_cons.mp succeed with ⟨⟨done, ran⟩, others⟩
      rw [List.filterMap_cons, entry?_of_run? ran, List.map_cons, List.map_cons, ih others]

/-- Jobs that succeed under new names add their results in the order in which they are done. -/
theorem collect?_ok (report : Job α -> List (Notice α) -> List (Notice α)) {jobs : List (Job α)}
    (succeed : Succeed jobs) (distinct : (jobs.map Job.name).Nodup) (results : Results α)
    (absent : forall job, job ∈ jobs -> job.name ∉ results.1.keys) :
    Exists fun table => Exists fun notices =>
      collect? report results jobs = .ok (table, notices) ∧
        table.entries = results.1.entries ++ jobs.filterMap entry? := by
  induction jobs generalizing results with
  | nil => exact ⟨results.1, results.2, rfl, (List.append_nil _).symm⟩
  | cons job rest ih =>
      rcases List.forall_mem_cons.mp succeed with ⟨⟨⟨result, notices⟩, ran⟩, others⟩
      rcases List.nodup_cons.mp distinct with ⟨once, later⟩
      rcases List.forall_mem_cons.mp absent with ⟨new, unlisted⟩
      rcases ih others later (results.1.put job.name result, results.2 ++ report job notices)
        (absent_put once unlisted) with ⟨table, reported, collected, entries⟩
      refine ⟨table, reported, ?_, ?_⟩
      · rw [collect?, ran]
        exact collected
      · rw [entries, Table.entries_put_of_absent new, List.append_assoc, List.filterMap_cons,
          entry?_of_run? ran]
        rfl

/-- The first job that fails ends the work with its error. -/
theorem collect?_error (report : Job α -> List (Notice α) -> List (Notice α))
    {jobs : List (Job α)} {failure : JobError α} (fails : FailsIn jobs failure)
    (results : Results α) : Exists fun error => FailsIn jobs error ∧
      collect? report results jobs = .error error := by
  induction jobs generalizing results with
  | nil =>
      rcases fails with ⟨job, listed, -⟩
      cases listed
  | cons job rest ih =>
      unfold collect?
      cases ran : job.run? with
      | error error => exact ⟨error, ⟨job, List.mem_cons_self, ran⟩, rfl⟩
      | ok done =>
          have later : FailsIn rest failure := by
            rcases fails with ⟨failing, listed, failed⟩
            rcases List.mem_cons.mp listed with same | member
            · cases ran.symm.trans (same ▸ failed)
            · exact ⟨failing, member, failed⟩
          rcases ih later (results.1.put job.name done.1, results.2 ++ report job done.2) with
            ⟨error, ⟨failing, member, failed⟩, ended⟩
          exact ⟨error, ⟨failing, List.mem_cons_of_mem job member, failed⟩, ended⟩

/-! ## The order of the jobs -/

/-- Results that are found under the names of the jobs are listed in the order of the jobs. -/
theorem inOrder_eq {results : Table String (Backtest α)} {jobs : List (Job α)}
    (succeed : Succeed jobs) (distinct : (jobs.map Job.name).Nodup)
    (found : forall entry, entry ∈ jobs.filterMap entry? -> entry ∈ results.entries) :
    (inOrder results jobs).entries = jobs.filterMap entry? := by
  suffices building : forall ordered : Table String (Backtest α),
      (forall job, job ∈ jobs -> job.name ∉ ordered.keys) ->
        (jobs.foldl (fun ordered job =>
          (results.get? job.name).elim ordered (ordered.put job.name)) ordered).entries =
            ordered.entries ++ jobs.filterMap entry? by
    have folded : inOrder results jobs = jobs.foldl (fun ordered job =>
        (results.get? job.name).elim ordered (ordered.put job.name)) Table.empty := by
      unfold inOrder
      congr
      funext ordered job
      cases results.get? job.name <;> rfl
    rw [folded]
    refine building Table.empty fun job _ listed => ?_
    cases listed
  induction jobs with
  | nil =>
      intro ordered _
      exact (List.append_nil _).symm
  | cons job rest ih =>
      intro ordered absent
      rcases List.forall_mem_cons.mp succeed with ⟨⟨⟨result, notices⟩, ran⟩, others⟩
      rcases List.nodup_cons.mp distinct with ⟨once, later⟩
      rcases List.forall_mem_cons.mp absent with ⟨new, unlisted⟩
      rw [List.filterMap_cons, entry?_of_run? ran] at found ⊢
      rcases List.forall_mem_cons.mp found with ⟨own, rests⟩
      rw [List.foldl_cons, Table.get?_eq_some_iff.mpr own, Option.elim_some,
        ih others later rests _ (absent_put once unlisted), Table.entries_put_of_absent new,
        List.append_assoc]
      rfl

theorem Succeed.of_perm {jobs done : List (Job α)} (succeed : Succeed jobs)
    (completed : done.Perm jobs) : Succeed done :=
  fun job listed => succeed job (completed.mem_iff.mp listed)

section Runs

variable {jobs : List (Job α)} (limit : Option Int) (processors : Nat)
  {completion : List (Job α) -> List (Job α)}

/-- When all jobs succeed, each is listed with its result, in the order of the jobs. -/
theorem runAll?_ok (distinct : (jobs.map Job.name).Nodup) (succeed : Succeed jobs)
    (completes : (completion jobs).Perm jobs) :
    Exists fun table => Exists fun notices =>
      runAll? jobs limit processors completion = .ok (table, notices) ∧
        table.entries = jobs.filterMap entry? := by
  unfold runAll?
  simp only [distinct, decide_true, Bool.not_true, Bool.false_eq_true, if_false]
  split
  · rename_i none_given
    rw [List.isEmpty_iff.mp none_given]
    exact ⟨Table.empty, _, rfl, rfl⟩
  · split
    · rcases collect?_ok (fun _ notices => notices) succeed distinct
        (Table.empty, [.jobsStarted jobs.length _]) (fun _ _ listed => nomatch listed) with
        ⟨table, notices, collected, entries⟩
      rw [collected]
      exact ⟨table, notices, rfl, entries⟩
    · have other : ((completion jobs).map Job.name).Nodup :=
        (completes.map Job.name).nodup_iff.mpr distinct
      rcases collect?_ok (fun job _ => [.jobFinished job.name]) (succeed.of_perm completes) other
        (Table.empty, [.jobsStarted jobs.length _]) (fun _ _ listed => nomatch listed) with
        ⟨table, notices, collected, entries⟩
      rw [collected]
      refine ⟨_, notices, rfl, inOrder_eq succeed distinct fun entry listed => ?_⟩
      rw [entries]
      exact List.mem_append_right _ ((completes.filterMap entry?).mem_iff.mpr listed)

/-- When a job fails, the error of some job that fails is all that comes out. -/
theorem runAll?_error (distinct : (jobs.map Job.name).Nodup) {failure : JobError α}
    (fails : FailsIn jobs failure) (completes : (completion jobs).Perm jobs) :
    Exists fun error => FailsIn jobs error ∧
      runAll? jobs limit processors completion = .error (.job error) := by
  have given : jobs.isEmpty = false := by
    rcases fails with ⟨job, listed, -⟩
    exact List.isEmpty_eq_false_iff.mpr (List.ne_nil_of_mem listed)
  unfold runAll?
  simp only [distinct, given, decide_true, Bool.not_true, Bool.false_eq_true, if_false]
  split
  · rcases collect?_error (fun _ notices => notices) fails
      (Table.empty, [.jobsStarted jobs.length _]) with ⟨error, failed, ended⟩
    rw [ended]
    exact ⟨error, failed, rfl⟩
  · have among : FailsIn (completion jobs) failure := by
      rcases fails with ⟨job, listed, failed⟩
      exact ⟨job, completes.mem_iff.mpr listed, failed⟩
    rcases collect?_error (fun job _ => [.jobFinished job.name]) among
      (Table.empty, [.jobsStarted jobs.length _]) with ⟨error, ⟨job, listed, failed⟩, ended⟩
    rw [ended]
    exact ⟨error, ⟨job, completes.mem_iff.mp listed, failed⟩, rfl⟩

/-- Jobs that share a name are not done, whatever they are. -/
theorem runAll?_repeated (repeated : ¬ (jobs.map Job.name).Nodup) :
    runAll? jobs limit processors completion = .error (.repeatedName (jobs.map Job.name)) := by
  unfold runAll?
  simp only [repeated, decide_false, Bool.not_false, if_true]

end Runs

theorem runAll?_ne_repeated {jobs : List (Job α)} (distinct : (jobs.map Job.name).Nodup)
    (limit : Option Int) (processors : Nat) (completion : List (Job α) -> List (Job α))
    (names : List String) :
    runAll? jobs limit processors completion ≠ .error (.repeatedName names) := by
  unfold runAll?
  simp only [distinct, decide_true, Bool.not_true, Bool.false_eq_true, if_false]
  intro refused
  repeat' split at refused
  all_goals cases refused

/--
Jobs whose names are distinct and which all succeed give one and the same table
under any number of workers and in any order of completion: the table that
lists, in the order of the jobs, what each job comes to by itself.  When some
job fails, the error of a job that fails is all that comes out.  Jobs that share
a name are refused whatever they would do, and the jobs of a sweep never are.
-/
theorem runs_agree (jobs : List (Job α)) :
    ((jobs.map Job.name).Nodup -> Succeed jobs -> Exists fun table =>
      table.keys = jobs.map Job.name ∧ table.entries = jobs.filterMap entry? ∧
        forall limit processors completion, (completion jobs).Perm jobs ->
          Exists fun notices =>
            runAll? jobs limit processors completion = .ok (table, notices)) ∧
      ((jobs.map Job.name).Nodup -> ¬ Succeed jobs -> forall limit processors completion,
        (completion jobs).Perm jobs -> Exists fun error => FailsIn jobs error ∧
          runAll? jobs limit processors completion = .error (.job error)) ∧
      (¬ (jobs.map Job.name).Nodup -> forall limit processors completion,
        runAll? jobs limit processors completion =
          .error (.repeatedName (jobs.map Job.name))) ∧
      forall name events policy grid limit processors completion names,
        runAll? (sweep name events policy grid : List (Job α)) limit processors completion ≠
          .error (.repeatedName names) := by
  refine ⟨?_, ?_, ?_, ?_⟩
  · intro distinct succeed
    have unchanged : (id jobs).Perm jobs := .refl jobs
    rcases runAll?_ok none 0 distinct succeed unchanged with ⟨table, -, -, entries⟩
    refine ⟨table, ?_, entries, ?_⟩
    · unfold Table.keys
      rw [entries, keys_of_succeed succeed]
    · intro limit processors completion completes
      rcases runAll?_ok limit processors distinct succeed completes with
        ⟨other, notices, done, same⟩
      exact ⟨notices, Table.ext (same.trans entries.symm) ▸ done⟩
  · intro distinct failing limit processors completion completes
    have fails : Exists fun error => FailsIn jobs error := by
      rcases not_forall₂.mp failing with ⟨job, listed, unsuccessful⟩
      cases ran : job.run? with
      | error error => exact ⟨error, job, listed, ran⟩
      | ok done => exact absurd ⟨done, ran⟩ unsuccessful
    rcases fails with ⟨failure, fails⟩
    exact runAll?_error limit processors distinct fails completes
  · intro repeated limit processors completion
    exact runAll?_repeated limit processors repeated
  · intro name events policy grid limit processors completion names
    exact runAll?_ne_repeated (nodup_names_sweep name events policy grid) limit processors
      completion names

section Trials

attribute [local instance] Backtest.wholeRoots

/-- The same holding with and without a fee of one unit of cash for every trade. -/
def trials : List (Job Rat) :=
  sweep "trial" Backtest.risingDays (.ok Backtest.holding) [{}, { feePerTrade := 1 }]

theorem trials_succeed : Succeed trials := by
  intro job listed
  have sound : (trials.all fun job => job.run?.toOption.isSome) = true := by decide +kernel
  rcases Option.isSome_iff_exists.mp (List.all_eq_true.mp sound job listed) with ⟨done, ran⟩
  exact ⟨done, ok_of_toOption ran⟩

/-- One worker and two workers that finish in the other order list the same two results; a job
without events makes both fail. -/
theorem trials_agree :
    let pointless : Job Rat := { name := "pointless", events := [], policy := .ok .idle }
    (Exists fun table => Exists fun notices => Exists fun others =>
      table.keys = ["trial-0", "trial-1"] ∧
        (table.values.map fun result => result.metrics.finalEquity) =
          [some 1000200, some 1000198] ∧
        runAll? trials (some 0) 4 id = .ok (table, notices) ∧
        runAll? trials (some 4) 4 List.reverse = .ok (table, others)) ∧
      Exists fun error => FailsIn (pointless :: trials) error ∧
        runAll? (pointless :: trials) (some 4) 4 List.reverse = .error (.job error) := by
  intro pointless
  have distinct : (trials.map Job.name).Nodup := nodup_names_sweep _ _ _ _
  have failing : ¬ Succeed (pointless :: trials) := by
    intro succeed
    rcases succeed pointless List.mem_cons_self with ⟨done, ran⟩
    cases ran
  constructor
  · rcases (runs_agree trials).1 distinct trials_succeed with ⟨table, keys, entries, agree⟩
    rcases agree (some 0) 4 id (List.Perm.refl _) with ⟨notices, alone⟩
    rcases agree (some 4) 4 List.reverse (List.reverse_perm _) with ⟨others, together⟩
    refine ⟨table, notices, others, keys, ?_, alone, together⟩
    unfold Table.values
    rw [entries]
    decide +kernel
  · exact (runs_agree (pointless :: trials)).2.1 (by decide) failing (some 4) 4 List.reverse
      (List.reverse_perm _)

end Trials

end Job
end Brokerage
