/-
The brokered execution worker: `submit_job`, `run_job`, `cancel_job` and
`recover_pending_jobs` of `app/services/execution_worker.py`, over the table of execution jobs.

Every worker has a database session of its own.  A session keeps the job it has loaded: a
commit does not expire it, and getting it again gives the same object.  So a run reads the row
of its job once, which may be long before it goes on, a recovery runs every job as it was when
it listed them, and each commit writes the columns that have changed since the last one to the
row as it is then.

The executor belongs to the caller, and whether a commit succeeds to the database.  Both are
in the plan of a run, by the number of the attempt.  A commit that raised may have been
applied or not; either way the session is of no use afterwards, so that whatever the run does
next raises too, and nobody catches that.

`history` lists what workers, by their number, have loaded and committed, and their calls of
the executor.  No worker reads it, and the evidence of a job is only logged.
-/
import ControlPlane.Lib.Concurrent
import ControlPlane.Lib.Table
import ControlPlane.Services.Database

namespace ControlPlane.ExecutionWorker

/-! ### The table -/

/-- The values of the `status` column. -/
inductive JobStatus where
  | pending
  | running
  | succeeded
  | failed
  | timedOut
  | deadLetter
  | cancelled
deriving DecidableEq

/-- The statuses that `run_job` and `cancel_job` return early for. -/
def JobStatus.isTerminal : JobStatus → Bool
  | .succeeded | .failed | .timedOut | .deadLetter | .cancelled => true
  | .pending | .running => false

/-- A row of `execution_jobs`.  `result` is what the text in its column reads back as. -/
structure ExecutionJob where
  jobId : String
  tenantId : String
  intentId : String
  idempotencyKey : String
  actionType : String
  actionParams : Json
  status : JobStatus := .pending
  attemptCount : Int := 0
  maxRetries : Int := 3
  timeoutSeconds : Int := 30
  result : Option Json := none
  error : Json := .null
  createdAt : Time
  updatedAt : Time
  completedAt : Option Time := none
deriving DecidableEq

/-! ### The executor -/

/-- What `json.dumps(result)` gives: text that reads back as a value, or an exception. -/
inductive Encoded where
  | text (value : Json)
  | raised (typeName message : String)
deriving DecidableEq

/-- The members of a result that `run_job` reads. -/
structure ExecutorResult where
  /-- Whether `result.get("ok")` is true. -/
  ok : Bool := false
  /-- `result.get("state")`, where it is text. -/
  state : Option String := none
  /-- `result.get("error")`, where there is one. -/
  error : Option Json := none
  encoded : Encoded
deriving DecidableEq

/-- How a call of the executor ends. -/
inductive ExecutorOutcome where
  | returned (result : ExecutorResult)
  | raised (typeName message : String)
deriving DecidableEq

/-- `result.get("ok") or result.get("state") == "succeeded"`. -/
def ExecutorResult.succeeded (result : ExecutorResult) : Bool :=
  result.ok || result.state = some "succeeded"

/-- Which of its commits a call makes. -/
inductive CommitKind where
  | entered
  | attempted
  | completed
  | deadLettered
  | cancelled
deriving DecidableEq

/-- Something a worker does with a job. -/
inductive JobAct where
  | loaded (worker : Nat) (jobId : String)
  | committed (worker : Nat) (jobId : String) (kind : CommitKind)
  /-- Calls the executor. -/
  | started (worker : Nat) (jobId : String)
  /-- The call ends. -/
  | finished (worker : Nat) (jobId : String) (outcome : ExecutorOutcome)
deriving DecidableEq

/-- The table, and what workers have done so far. -/
structure JobStore where
  jobs : Table String ExecutionJob (·.jobId)
  history : List JobAct

/-- The exceptions that leave a worker: the errors of jobs, and all others. -/
inductive WorkerError where
  | notFound (jobId : String)
  | deadLettered (jobId : String) (reason : Json)
  | unhandled
deriving DecidableEq

/-- Whether `except JobError` catches it. -/
def WorkerError.isJobError : WorkerError → Bool
  | .notFound _ | .deadLettered _ _ => true
  | .unhandled => false

/-- A call of a worker. -/
abbrev Worker (α : Type) := Prog JobStore WorkerError α

/-- What `_job_result` returns. -/
structure JobResult where
  jobId : String
  tenantId : String
  intentId : String
  idempotencyKey : String
  actionType : String
  status : JobStatus
  attemptCount : Int
  maxRetries : Int
  result : Option Json
  error : Json
  createdAt : Time
  completedAt : Option Time
deriving DecidableEq

/-- `_job_result`. -/
def jobResult (job : ExecutionJob) : JobResult where
  jobId := job.jobId
  tenantId := job.tenantId
  intentId := job.intentId
  idempotencyKey := job.idempotencyKey
  actionType := job.actionType
  status := job.status
  attemptCount := job.attemptCount
  maxRetries := job.maxRetries
  result := job.result
  error := job.error
  createdAt := job.createdAt
  completedAt := job.completedAt

/-! ### Submitting -/

/-- A request to submit a job, with the identifier it draws and its time. -/
structure SubmitCall where
  tenantId : String
  intentId : String
  idempotencyKey : String
  actionType : String
  actionParams : Json
  timeoutSeconds : Int := 30
  maxRetries : Int := 3
  jobId : String
  now : Time

/-- The row of a new job. -/
def SubmitCall.job (call : SubmitCall) : ExecutionJob where
  jobId := call.jobId
  tenantId := call.tenantId
  intentId := call.intentId
  idempotencyKey := call.idempotencyKey
  actionType := call.actionType
  actionParams := call.actionParams
  status := .pending
  maxRetries := call.maxRetries
  timeoutSeconds := call.timeoutSeconds
  createdAt := call.now
  updatedAt := call.now

/-- The first row with the tenant and the key of a call. -/
def SubmitCall.existing (call : SubmitCall) (w : JobStore) : Option ExecutionJob :=
  w.jobs.rows.find? fun job =>
    job.idempotencyKey = call.idempotencyKey && job.tenantId = call.tenantId

/-- The commit of a new job. -/
def SubmitCall.insert (call : SubmitCall) (w : JobStore) : Except WorkerError (Unit × JobStore) :=
  match w.jobs.insert? call.job with
  | none => .error .unhandled
  | some jobs => .ok ((), { w with jobs := jobs })

/-- `submit_job`. -/
def submitJob (call : SubmitCall) : Worker ExecutionJob := do
  let existing ← Prog.read call.existing
  match existing with
  | some job => return job
  | none => do
      Prog.transaction call.insert
      let job ← Prog.read fun w => w.jobs.get? call.jobId
      match job with
      | none => Prog.raise .unhandled
      | some job => return job

/-! ### Committing a job -/

/-- How a commit ends.  One that raised may have reached the database or not. -/
inductive CommitOutcome where
  | committed
  | raised (applied : Bool)
deriving DecidableEq

/-- Whether the commit reached the database, raised or not. -/
def CommitOutcome.applied : CommitOutcome → Bool
  | .committed => true
  | .raised applied => applied

/-- The row after a session has changed the job it saved last. -/
def mergeJob (saved job row : ExecutionJob) : ExecutionJob :=
  { row with
    status := netChange saved.status job.status row.status
    attemptCount := netChange saved.attemptCount job.attemptCount row.attemptCount
    result := netChange saved.result job.result row.result
    error := netChange saved.error job.error row.error
    updatedAt := netChange saved.updatedAt job.updatedAt row.updatedAt
    completedAt := netChange saved.completedAt job.completedAt row.completedAt }

/-- The store after the commit. -/
def writeJob (worker : Nat) (kind : CommitKind) (saved job : ExecutionJob) (w : JobStore) :
    JobStore where
  jobs := w.jobs.change saved.jobId (mergeJob saved job)
  history := w.history ++ [.committed worker saved.jobId kind]

/-- `session.commit()`, in a session that has saved a job last as `saved`. -/
def commitJob (worker : Nat) (kind : CommitKind) (outcome : CommitOutcome)
    (saved job : ExecutionJob) : Worker Unit :=
  .window (fun _ => true) (fun w => if outcome.applied then writeJob worker kind saved job w else w)
    fun _ => if outcome = .committed then .ret () else .raise .unhandled

/-! ### Running -/

/-- What a run meets: its clock, the executor and the commits, by the number of the attempt. -/
structure RunPlan where
  entering : CommitOutcome := .committed
  enteredAt : Time
  attempting : Int → CommitOutcome := fun _ => .committed
  attemptedAt : Int → Time
  executor : Int → ExecutorOutcome
  completing : Int → CommitOutcome := fun _ => .committed
  completedAt : Time
  deadLettering : CommitOutcome := .committed

/-- Whether `_backoff` raises: its power of two is no float. -/
def backoffOverflows (attempt : Int) : Bool := 1024 < attempt

/-- The error text of an exception. -/
def errorText (typeName message : String) : Json :=
  .str (typeName ++ ": " ++ String.ofList (message.toList.take 200))

/-- Where an outcome of the executor leads. -/
inductive Verdict where
  /-- To a commit, and out. -/
  | complete (job : ExecutionJob)
  /-- To another attempt, if one is left, with what the session holds by then. -/
  | again (job : ExecutionJob) (lastError : Json)

/-- The body of `try`, after the call and up to a commit. -/
def verdict (completedAt : Time) (job : ExecutionJob) : ExecutorOutcome → Verdict
  | .raised typeName message => .again job (errorText typeName message)
  | .returned result =>
      if result.succeeded then
        match result.encoded with
        | .raised typeName message =>
            .again { job with status := .succeeded } (errorText typeName message)
        | .text value => .complete { job with
            status := .succeeded
            result := some value
            completedAt := some completedAt }
      else if result.state = some "outcome_unknown" then
        let lastError := result.error.getD (.str "outcome unknown")
        if job.attemptCount ≥ job.maxRetries + 1 then
          .complete { job with
            status := .timedOut
            error := lastError
            completedAt := some completedAt }
        else .again job lastError
      else if result.state = some "failed" then
        let error := result.error.getD (.str "execution failed")
        match result.encoded with
        | .raised typeName message =>
            .again { job with status := .failed, error := error } (errorText typeName message)
        | .text value => .complete { job with
            status := .failed
            error := error
            result := some value
            completedAt := some completedAt }
      else .again job (result.error.getD (.str "retryable error"))

/-- `last_error or "retries exhausted"`. -/
def exhaustedReason (lastError : Json) : Json :=
  match lastError with
  | .null | .bool false | .str "" | .arr [] | .obj [] => .str "retries exhausted"
  | .num q => if q = 0 then .str "retries exhausted" else .num q
  | error => error

/-- The end of `run_job`: retries are exhausted. -/
def exhaust (worker : Nat) (plan : RunPlan) (saved job : ExecutionJob) (lastError : Json) :
    Worker JobResult := do
  let dead := { job with
    status := .deadLetter
    error := exhaustedReason lastError
    completedAt := some plan.completedAt }
  commitJob worker .deadLettered plan.deadLettering saved dead
  Prog.raise (.deadLettered job.jobId (exhaustedReason lastError))

/-- A call of the executor. -/
def callExecutor (worker : Nat) (plan : RunPlan) (job : ExecutionJob) :
    Worker ExecutorOutcome := do
  Prog.update fun w => ((), { w with history := w.history ++ [.started worker job.jobId] })
  let outcome := plan.executor job.attemptCount
  Prog.update fun w =>
    (outcome, { w with history := w.history ++ [.finished worker job.jobId outcome] })

/-- The `while` loop, when this many attempts are left: `max_retries + 1 - attempt_count`, or
none if that is negative. -/
def attempts (worker : Nat) (plan : RunPlan) :
    Nat → ExecutionJob → ExecutionJob → Json → Worker JobResult
  | 0, saved, job, lastError => exhaust worker plan saved job lastError
  | left + 1, saved, job, _ => do
      let attempt := job.attemptCount + 1
      let job := { job with attemptCount := attempt, updatedAt := plan.attemptedAt attempt }
      commitJob worker .attempted (plan.attempting attempt) saved job
      let outcome ← callExecutor worker plan job
      match verdict plan.completedAt job outcome with
      | .complete completed => do
          commitJob worker .completed (plan.completing attempt) job completed
          return jobResult completed
      | .again held lastError =>
          if job.attemptCount ≥ job.maxRetries + 1 then exhaust worker plan job held lastError
          else if backoffOverflows job.attemptCount then Prog.raise .unhandled
          else attempts worker plan left job held lastError

/-- How many attempts a job has left. -/
def ExecutionJob.left (job : ExecutionJob) : Nat := (job.maxRetries + 1 - job.attemptCount).toNat

/-- `run_job`, once it has the job. -/
def runLoaded (worker : Nat) (plan : RunPlan) (job : ExecutionJob) : Worker JobResult :=
  if job.status.isTerminal then return jobResult job
  else do
    let running := { job with status := .running, updatedAt := plan.enteredAt }
    commitJob worker .entered plan.entering job running
    attempts worker plan running.left running running .null

/-- `session.get(ExecutionJobRecord, job_id)`. -/
def loadJob (worker : Nat) (jobId : String) : Worker (Option ExecutionJob) :=
  Prog.update fun w =>
    (w.jobs.get? jobId, { w with history := w.history ++ [.loaded worker jobId] })

/-- `run_job`.  The job is loaded once: what others commit later is not seen. -/
def runJob (worker : Nat) (plan : RunPlan) (jobId : String) : Worker JobResult := do
  let job ← loadJob worker jobId
  match job with
  | none => Prog.raise (.notFound jobId)
  | some job => runLoaded worker plan job

/-! ### Cancelling and recovering -/

/-- `cancel_job`, once it has the job. -/
def cancelLoaded (worker : Nat) (outcome : CommitOutcome) (now : Time) (job : ExecutionJob) :
    Worker JobResult :=
  if job.status.isTerminal then return jobResult job
  else do
    let cancelled := { job with status := .cancelled, completedAt := some now }
    commitJob worker .cancelled outcome job cancelled
    return jobResult cancelled

/-- `cancel_job`: only a job that is pending, as it was loaded. -/
def cancelJob (worker : Nat) (outcome : CommitOutcome) (now : Time) (jobId : String) :
    Worker JobResult := do
  let job ← loadJob worker jobId
  match job with
  | none => Prog.raise (.notFound jobId)
  | some job => cancelLoaded worker outcome now job

/-- The loop of `recover_pending_jobs`, which counts the runs that returned. -/
def recoverEach (worker : Nat) (plan : String → RunPlan) : List ExecutionJob → Nat → Worker Nat
  | [], count => return count
  | job :: rest, count => do
      let ran ← Prog.attempt (runLoaded worker (plan job.jobId) job)
      match ran with
      | .ok _ => recoverEach worker plan rest (count + 1)
      | .error e => if e.isJobError then recoverEach worker plan rest count else Prog.raise e

/-- The jobs that are pending or running. -/
def JobStore.openJobs (w : JobStore) : List ExecutionJob :=
  w.jobs.rows.filter fun job => job.status = .pending || job.status = .running

/-- `recover_pending_jobs`: the jobs are listed once and run one after the other. -/
def recoverPendingJobs (worker : Nat) (plan : String → RunPlan) : Worker Nat := do
  let jobs ← Prog.update fun w =>
    (w.openJobs, { w with history := w.history ++ w.openJobs.map fun job => .loaded worker job.jobId })
  recoverEach worker plan jobs 0

/-! ### Calls -/

/-- A call of a worker. -/
inductive WorkerCall where
  | submit (call : SubmitCall)
  | run (plan : RunPlan) (jobId : String)
  | cancel (outcome : CommitOutcome) (now : Time) (jobId : String)
  | recover (plan : String → RunPlan)

/-- What a call returns. -/
inductive WorkerAnswer where
  | job (job : ExecutionJob)
  | result (result : JobResult)
  | count (recovered : Nat)

/-- The method that a call runs. -/
def WorkerCall.body (worker : Nat) : WorkerCall → Worker WorkerAnswer
  | .submit call => do return .job (← submitJob call)
  | .run plan jobId => do return .result (← runJob worker plan jobId)
  | .cancel outcome now jobId => do return .result (← cancelJob worker outcome now jobId)
  | .recover plan => do return .count (← recoverPendingJobs worker plan)

end ControlPlane.ExecutionWorker
