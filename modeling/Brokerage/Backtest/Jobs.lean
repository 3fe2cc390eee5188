import Brokerage.Backtest.Run
import Brokerage.Text.Quoted

namespace Brokerage

/-!
Many backtests side by side.

Jobs share nothing, so that a pool of workers may complete them in any order.
The results are listed in the order of the jobs all the same.
-/

/-- One independent backtest; setting its policy up is a part of the work. -/
structure Job (α : Type) [Quantity α] where
  name : String
  events : List (Event α)
  policy : Except (PolicyError α) (Policy α)
  terms : BacktestTerms α := {}

/-- Why a job comes to no result. -/
inductive JobError (α : Type) where
  | policy (error : PolicyError α)
  | backtest (error : BacktestError α)

/-- Why a list of jobs comes to no results. -/
inductive JobsError (α : Type) where
  | repeatedName (names : List String)
  | job (error : JobError α)

/-- The wording of a name that two jobs share. -/
def JobsError.repeatedNameMessage (names : List String) : String :=
  "Job names must be unique, got " ++ Text.quotedList names

namespace Job

variable {α : Type} [Quantity α]

/-- One job per set of terms; their names are numbered from zero. -/
def sweep (name : String) (events : List (Event α)) (policy : Except (PolicyError α) (Policy α))
    (grid : List (BacktestTerms α)) : List (Job α) :=
  grid.zipIdx.map fun (terms, index) =>
    { name := name ++ "-" ++ toString index, events, policy, terms }

/-- How many workers a number of jobs is given: at least one, and no more than there are jobs. -/
def workers (jobs : Nat) (limit : Option Int) (processors : Nat) : Nat :=
  let limit : Int := limit.getD processors
  (max 1 (min limit jobs)).toNat

variable [Roots α]

/-- Do one job. -/
def run? (job : Job α) : Except (JobError α) (Backtest α × List (Notice α)) :=
  match job.policy with
  | .error error => .error (.policy error)
  | .ok policy =>
      match Backtest.run? job.events policy job.terms none with
      | .error error => .error (.backtest error)
      | .ok done => .ok done

/-- The results by name, and what was reported. -/
abbrev Results (α : Type) := Table String (Backtest α) × List (Notice α)

/-- Do jobs in their order; `report` says what is reported of each. -/
def collect? (report : Job α -> List (Notice α) -> List (Notice α)) (results : Results α) :
    List (Job α) -> Except (JobError α) (Results α)
  | [] => .ok results
  | job :: rest =>
      match job.run? with
      | .error error => .error error
      | .ok (result, notices) =>
          collect? report (results.1.put job.name result, results.2 ++ report job notices) rest

/-- The results that jobs have by their names, in the order of the jobs. -/
def inOrder (results : Table String (Backtest α)) (jobs : List (Job α)) :
    Table String (Backtest α) :=
  jobs.foldl
    (fun ordered job =>
      match results.get? job.name with
      | some result => ordered.put job.name result
      | none => ordered)
    Table.empty

/--
Do all jobs.  A single worker does them in their order and reports what each
one reports; several workers complete them in the order that `completion`
gives, and of each only its end is reported.
-/
def runAll? (jobs : List (Job α)) (limit : Option Int) (processors : Nat)
    (completion : List (Job α) -> List (Job α)) : Except (JobsError α) (Results α) :=
  let names := jobs.map Job.name
  if !decide names.Nodup then .error (.repeatedName names)
  else if jobs.isEmpty then .ok (Table.empty, [.noJobs])
  else
    let workers := workers jobs.length limit processors
    let started : Results α := (Table.empty, [.jobsStarted jobs.length workers])
    if workers = 1 then
      match collect? (fun _ notices => notices) started jobs with
      | .error error => .error (.job error)
      | .ok results => .ok results
    else
      match collect? (fun job _ => [.jobFinished job.name]) started (completion jobs) with
      | .error error => .error (.job error)
      | .ok (results, notices) => .ok (inOrder results jobs, notices)

end Job
end Brokerage
