/-
What calls do to one job.

Seen from one job, a call of a worker is idle, or has loaded the job and is on its way through
the loop of `run_job`.  `Move` lists what it may do from each position, to the row of the job
and to what has happened to it so far.  Every call plays these moves and no others, whatever
jobs it works on besides: `plays_body`.
-/
import ControlPlane.Lib.Moves
import ControlPlane.Services.ExecutionWorker

namespace ControlPlane.ExecutionWorker

/-! ### One job -/

/-- The job that an act is about. -/
def JobAct.jobId : JobAct → String
  | .loaded _ jobId => jobId
  | .committed _ jobId _ => jobId
  | .started _ jobId => jobId
  | .finished _ jobId _ => jobId

/-- What a store holds of one job: its row, and what has happened to it. -/
structure JobView where
  row : Option ExecutionJob
  acts : List JobAct

/-- What can be seen of one job: its row and what was done about it. -/
def jobView (jobId : String) (w : JobStore) : JobView where
  row := w.jobs.get? jobId
  acts := w.history.filter fun act => act.jobId = jobId

/-- Where a call is with a job. -/
inductive Position where
  /-- It has nothing to do with the job, or no longer. -/
  | idle
  /-- It has loaded the job, which is not terminal. -/
  | opened (job : ExecutionJob)
  /-- It is at the head of the loop, with what it has saved last and what it holds. -/
  | looping (saved job : ExecutionJob)
  /-- It has committed an attempt. -/
  | starting (job : ExecutionJob)
  /-- It is calling the executor. -/
  | calling (job : ExecutionJob)
  /-- It has a result to commit. -/
  | completing (saved job : ExecutionJob)

/-- The commits of a call: from its position, what it has saved last and what it saves now. -/
inductive Commits : CommitKind → Position → ExecutionJob → ExecutionJob → Position → Prop
  | entered {job running : ExecutionJob} (hstatus : running.status = .running)
      (hcount : running.attemptCount = job.attemptCount)
      (hmax : running.maxRetries = job.maxRetries) :
      Commits .entered (.opened job) job running (.looping running running)
  | cancelled {job cancelled : ExecutionJob} (hstatus : cancelled.status = .cancelled)
      (hcount : cancelled.attemptCount = job.attemptCount) :
      Commits .cancelled (.opened job) job cancelled .idle
  | attempted {saved job next : ExecutionJob} (hleft : job.attemptCount < job.maxRetries + 1)
      (hstatus : next.status = job.status) (hcount : next.attemptCount = job.attemptCount + 1)
      (hmax : next.maxRetries = job.maxRetries) :
      Commits .attempted (.looping saved job) saved next (.starting next)
  | completed {saved job : ExecutionJob} (hstatus : job.status.isTerminal = true)
      (hcount : job.attemptCount = saved.attemptCount) :
      Commits .completed (.completing saved job) saved job .idle
  | deadLettered {saved job dead : ExecutionJob} (hstatus : dead.status = .deadLetter)
      (hcount : dead.attemptCount = job.attemptCount)
      (hexhausted : job.maxRetries + 1 ≤ job.attemptCount) :
      Commits .deadLettered (.looping saved job) saved dead .idle

/-- Where a call of the executor leads. -/
def settled (completedAt : Time) (job : ExecutionJob) (outcome : ExecutorOutcome) : Position :=
  match verdict completedAt job outcome with
  | .complete completed => .completing job completed
  | .again held _ => .looping job held

/-- What a window of a worker's call may do to a job. -/
inductive Move (jobId : String) (worker : Nat) : Position → JobView → Position → JobView → Prop
  | stays (h : Position) (v : JobView) : Move jobId worker h v h v
  /-- A commit raised, and was not applied. -/
  | drops {kind : CommitKind} {h h' : Position} {saved job : ExecutionJob}
      (hcommits : Commits kind h saved job h') (v : JobView) : Move jobId worker h v .idle v
  | created {v : JobView} {job : ExecutionJob} (hrow : v.row = none)
      (hstatus : job.status = .pending) (hcount : job.attemptCount = 0) :
      Move jobId worker .idle v .idle ⟨some job, v.acts⟩
  /-- The job is not there, or is terminal. -/
  | loaded (v : JobView) :
      Move jobId worker .idle v .idle ⟨v.row, v.acts ++ [.loaded worker jobId]⟩
  | opened {v : JobView} {job : ExecutionJob} (hrow : v.row = some job)
      (hopen : job.status.isTerminal = false) :
      Move jobId worker .idle v (.opened job) ⟨v.row, v.acts ++ [.loaded worker jobId]⟩
  | commits {kind : CommitKind} {h h' : Position} {saved job : ExecutionJob}
      (hcommits : Commits kind h saved job h') (v : JobView) :
      Move jobId worker h v h'
        ⟨v.row.map (mergeJob saved job), v.acts ++ [.committed worker jobId kind]⟩
  | starts (job : ExecutionJob) (v : JobView) :
      Move jobId worker (.starting job) v (.calling job)
        ⟨v.row, v.acts ++ [.started worker jobId]⟩
  | finishes (completedAt : Time) (job : ExecutionJob) (outcome : ExecutorOutcome) (v : JobView) :
      Move jobId worker (.calling job) v (settled completedAt job outcome)
        ⟨v.row, v.acts ++ [.finished worker jobId outcome]⟩

/-! ### What an outcome leads to -/

/-- Whether an outcome has to be recorded and cannot be: its result does not encode. -/
def ExecutorOutcome.unencoded : ExecutorOutcome → Bool
  | .raised _ _ => false
  | .returned result =>
      match result.encoded with
      | .text _ => false
      | .raised _ _ => result.succeeded || result.state = some "failed"

/-- What is committed is terminal. -/
theorem verdict_complete {completedAt : Time} {job completed : ExecutionJob}
    {outcome : ExecutorOutcome} (h : verdict completedAt job outcome = .complete completed) :
    completed.status.isTerminal = true ∧ completed.jobId = job.jobId ∧
      completed.attemptCount = job.attemptCount := by
  cases outcome with
  | raised typeName message => cases h
  | returned result =>
      simp only [verdict] at h
      split at h
      · split at h
        · cases h
        · cases h
          exact ⟨rfl, rfl, rfl⟩
      · split at h
        · split at h
          · cases h
            exact ⟨rfl, rfl, rfl⟩
          · cases h
        · split at h
          · split at h
            · cases h
            · cases h
              exact ⟨rfl, rfl, rfl⟩
          · cases h

/-- What is tried again is the job as it was, unless its result does not encode. -/
theorem verdict_again {completedAt : Time} {job held : ExecutionJob} {lastError : Json}
    {outcome : ExecutorOutcome} (h : verdict completedAt job outcome = .again held lastError) :
    held.jobId = job.jobId ∧ held.attemptCount = job.attemptCount ∧
      held.maxRetries = job.maxRetries ∧ (outcome.unencoded = false → held = job) := by
  cases outcome with
  | raised typeName message =>
      cases h
      exact ⟨rfl, rfl, rfl, fun _ => rfl⟩
  | returned result =>
      simp only [verdict] at h
      split at h
      case isTrue hsucceeded =>
        split at h
        case h_1 hencoded =>
          cases h
          refine ⟨rfl, rfl, rfl, fun hfine => ?_⟩
          simp [ExecutorOutcome.unencoded, hencoded, hsucceeded] at hfine
        case h_2 => cases h
      case isFalse =>
        split at h
        · split at h
          · cases h
          · cases h
            exact ⟨rfl, rfl, rfl, fun _ => rfl⟩
        · split at h
          case isTrue hfailed =>
            split at h
            case h_1 hencoded =>
              cases h
              refine ⟨rfl, rfl, rfl, fun hfine => ?_⟩
              simp [ExecutorOutcome.unencoded, hencoded, hfailed] at hfine
            case h_2 => cases h
          case isFalse =>
            cases h
            exact ⟨rfl, rfl, rfl, fun _ => rfl⟩

/-! ### What windows do to the view -/

theorem jobView_act {jobId : String} {act : JobAct} (hid : act.jobId = jobId) (w : JobStore) :
    jobView jobId { w with history := w.history ++ [act] } =
      ⟨(jobView jobId w).row, (jobView jobId w).acts ++ [act]⟩ := by
  simp [jobView, hid]

theorem jobView_act_other {jobId : String} {act : JobAct} (hid : act.jobId ≠ jobId)
    (w : JobStore) : jobView jobId { w with history := w.history ++ [act] } = jobView jobId w := by
  simp [jobView, hid]

theorem jobView_write (jobId : String) (worker : Nat) (kind : CommitKind)
    (saved job : ExecutionJob) (w : JobStore) :
    jobView jobId (writeJob worker kind saved job w) =
      if saved.jobId = jobId then
        ⟨(jobView jobId w).row.map (mergeJob saved job),
          (jobView jobId w).acts ++ [.committed worker jobId kind]⟩
      else jobView jobId w := by
  have hget := Table.get?_change (f := mergeJob saved job) (fun _ => rfl) w.jobs saved.jobId jobId
  by_cases hid : saved.jobId = jobId
  · subst hid
    simp [jobView, writeJob, hget, JobAct.jobId]
  · simp [jobView, writeJob, hget, JobAct.jobId, hid, Ne.symm hid]

section Plays

variable {jobId : String} {worker : Nat} {α β : Type} {Q : Except WorkerError β → Position → Prop}
  {h h' : Position} {saved job : ExecutionJob}

/-- The programs of a worker, seen from one job. -/
abbrev PlaysJob (jobId : String) (worker : Nat) (Q : Except WorkerError α → Position → Prop)
    (h : Position) (p : Worker α) : Prop :=
  Prog.Plays (jobView jobId) (Move jobId worker) Q h p

/-- A commit of the job. -/
theorem plays_commit {kind : CommitKind} {outcome : CommitOutcome} {k : Unit → Worker β}
    (hid : saved.jobId = jobId) (hcommits : Commits kind h saved job h')
    (hraise : ∀ h, Q (.error .unhandled) h) (hk : PlaysJob jobId worker Q h' (k ())) :
    PlaysJob jobId worker Q h (commitJob worker kind outcome saved job >>= k) := by
  intro w _
  cases outcome with
  | committed =>
      refine ⟨h', ?_, hk⟩
      show Move jobId worker h (jobView jobId w) h' (jobView jobId (writeJob worker kind saved job w))
      rw [jobView_write, if_pos hid]
      exact .commits hcommits _
  | raised applied =>
      cases applied with
      | true =>
          refine ⟨h', ?_, hraise h'⟩
          show Move jobId worker h (jobView jobId w) h'
            (jobView jobId (writeJob worker kind saved job w))
          rw [jobView_write, if_pos hid]
          exact .commits hcommits _
      | false => exact ⟨.idle, .drops hcommits _, hraise _⟩

/-- A commit of another job. -/
theorem plays_commit_other {kind : CommitKind} {outcome : CommitOutcome} {k : Unit → Worker β}
    (hid : saved.jobId ≠ jobId) (hraise : Q (.error .unhandled) h)
    (hk : PlaysJob jobId worker Q h (k ())) :
    PlaysJob jobId worker Q h (commitJob worker kind outcome saved job >>= k) := by
  intro w _
  have hview : jobView jobId (writeJob worker kind saved job w) = jobView jobId w := by
    rw [jobView_write, if_neg hid]
  cases outcome with
  | committed =>
      refine ⟨h, ?_, hk⟩
      show Move jobId worker h (jobView jobId w) h (jobView jobId (writeJob worker kind saved job w))
      rw [hview]
      exact .stays _ _
  | raised applied =>
      refine ⟨h, ?_, hraise⟩
      cases applied with
      | true =>
          show Move jobId worker h (jobView jobId w) h
            (jobView jobId (writeJob worker kind saved job w))
          rw [hview]
          exact .stays _ _
      | false => exact .stays _ _

/-- A call of the executor for the job. -/
theorem plays_call {plan : RunPlan} {k : ExecutorOutcome → Worker β} (hid : job.jobId = jobId)
    (hk : PlaysJob jobId worker Q (settled plan.completedAt job (plan.executor job.attemptCount))
      (k (plan.executor job.attemptCount))) :
    PlaysJob jobId worker Q (.starting job) (callExecutor worker plan job >>= k) := by
  subst hid
  intro w _
  have hstarted := jobView_act (show (JobAct.started worker job.jobId).jobId = job.jobId from rfl) w
  refine ⟨.calling job, hstarted ▸ .starts job _, ?_⟩
  intro w' _
  have hfinished := jobView_act (show (JobAct.finished worker job.jobId
    (plan.executor job.attemptCount)).jobId = job.jobId from rfl) w'
  exact ⟨_, hfinished ▸ .finishes plan.completedAt job _ _, hk⟩

/-- A call of the executor for another job. -/
theorem plays_call_other {plan : RunPlan} {k : ExecutorOutcome → Worker β}
    (hid : job.jobId ≠ jobId) (hk : PlaysJob jobId worker Q h (k (plan.executor job.attemptCount))) :
    PlaysJob jobId worker Q h (callExecutor worker plan job >>= k) := by
  intro w _
  have hstarted := jobView_act_other
    (show (JobAct.started worker job.jobId).jobId ≠ jobId from hid) w
  refine ⟨h, hstarted ▸ .stays h _, ?_⟩
  intro w' _
  have hfinished := jobView_act_other (show (JobAct.finished worker job.jobId
    (plan.executor job.attemptCount)).jobId ≠ jobId from hid) w'
  exact ⟨h, hfinished ▸ .stays h _, hk⟩

end Plays

/-! ### Runs -/

section Runs

variable {jobId : String} {worker : Nat} {plan : RunPlan}

/-- A run ends with the job behind it, or with an exception that nobody catches. -/
def Done {α : Type} (r : Except WorkerError α) (h : Position) : Prop :=
  r = .error .unhandled ∨ h = .idle

theorem plays_exhaust {saved job : ExecutionJob} {lastError : Json} (hid : saved.jobId = jobId)
    (hexhausted : job.maxRetries + 1 ≤ job.attemptCount) :
    PlaysJob jobId worker Done (.looping saved job) (exhaust worker plan saved job lastError) :=
  plays_commit hid (.deadLettered rfl rfl hexhausted) (fun _ => .inl rfl) (.inr rfl)

theorem plays_attempts (left : Nat) : ∀ {saved job : ExecutionJob} {lastError : Json},
    saved.jobId = jobId → job.jobId = jobId → left = job.left →
      PlaysJob jobId worker Done (.looping saved job)
        (attempts worker plan left saved job lastError) := by
  induction left with
  | zero =>
      intro saved job lastError hsaved hjob hleft
      unfold ExecutionJob.left at hleft
      exact plays_exhaust hsaved (by omega)
  | succ left ih =>
      intro saved job lastError hsaved hjob hleft
      have hmore : job.attemptCount < job.maxRetries + 1 := by
        unfold ExecutionJob.left at hleft
        omega
      unfold attempts
      refine plays_commit hsaved (.attempted hmore rfl rfl rfl) (fun _ => .inl rfl) ?_
      refine plays_call hjob ?_
      unfold settled
      generalize hattempted : ({ job with
        attemptCount := job.attemptCount + 1
        updatedAt := plan.attemptedAt (job.attemptCount + 1) } : ExecutionJob) = attempted at *
      have hid' : attempted.jobId = jobId := by
        rw [← hattempted]
        exact hjob
      cases hverdict : verdict plan.completedAt attempted (plan.executor attempted.attemptCount) with
      | complete completed =>
          obtain ⟨hterminal, hid, hcount⟩ := verdict_complete hverdict
          exact plays_commit hid' (.completed hterminal hcount) (fun _ => .inl rfl) (.inr rfl)
      | again held lastError' =>
          obtain ⟨hid, hcount, hmax, -⟩ := verdict_again hverdict
          show PlaysJob jobId worker Done (.looping attempted held) (if _ then _ else _)
          by_cases hexhausted : attempted.attemptCount ≥ attempted.maxRetries + 1
          · rw [if_pos hexhausted]
            rw [← hcount, ← hmax] at hexhausted
            exact plays_exhaust hid' hexhausted
          · rw [if_neg hexhausted]
            split
            · exact .inl rfl
            · refine ih hid' (hid.trans hid') ?_
              unfold ExecutionJob.left at hleft ⊢
              rw [hcount, hmax, ← hattempted]
              show left = (job.maxRetries + 1 - (job.attemptCount + 1)).toNat
              omega

/-- Where a call is that has just got this job. -/
def Position.found (job : ExecutionJob) : Position :=
  if job.status.isTerminal then .idle else .opened job

theorem plays_runLoaded {job : ExecutionJob} (hid : job.jobId = jobId) :
    PlaysJob jobId worker Done (.found job) (runLoaded worker plan job) := by
  unfold runLoaded Position.found
  split
  · exact .inr rfl
  · exact plays_commit hid (.entered rfl rfl rfl) (fun _ => .inl rfl)
      (plays_attempts _ hid hid rfl)

/-! ### Runs of another job -/

theorem plays_exhaust_other {h : Position} {saved job : ExecutionJob} {lastError : Json}
    (hid : saved.jobId ≠ jobId) :
    PlaysJob jobId worker (fun _ h' => h' = h) h (exhaust worker plan saved job lastError) :=
  plays_commit_other hid rfl rfl

theorem plays_attempts_other {h : Position} (left : Nat) :
    ∀ {saved job : ExecutionJob} {lastError : Json}, saved.jobId ≠ jobId → job.jobId ≠ jobId →
      PlaysJob jobId worker (fun _ h' => h' = h) h
        (attempts worker plan left saved job lastError) := by
  induction left with
  | zero =>
      intro saved job lastError hsaved hjob
      exact plays_exhaust_other hsaved
  | succ left ih =>
      intro saved job lastError hsaved hjob
      unfold attempts
      refine plays_commit_other hsaved rfl ?_
      refine plays_call_other hjob ?_
      split
      case h_1 completed hverdict => exact plays_commit_other hjob rfl rfl
      case h_2 held lastError' hverdict =>
        obtain ⟨hid, -⟩ := verdict_again hverdict
        split
        · exact plays_exhaust_other hjob
        · split
          · exact rfl
          · exact ih hjob (hid ▸ hjob)

theorem plays_runLoaded_other {h : Position} {job : ExecutionJob} (hid : job.jobId ≠ jobId) :
    PlaysJob jobId worker (fun _ h' => h' = h) h (runLoaded worker plan job) := by
  unfold runLoaded
  split
  · exact rfl
  · exact plays_commit_other hid rfl (plays_attempts_other _ hid hid)

/-! ### Calls -/

/-- Loading a job, before what is done with it: the job that was found is open or terminal. -/
theorem plays_load {β : Type} {id : String} {k : Option ExecutionJob → Worker β}
    (hnone : PlaysJob jobId worker (fun _ _ => True) .idle (k none))
    (hown : ∀ job, job.jobId = jobId →
      PlaysJob jobId worker (fun _ _ => True) (.found job) (k (some job)))
    (hother : ∀ job, job.jobId ≠ jobId →
      PlaysJob jobId worker (fun _ _ => True) .idle (k (some job))) :
    PlaysJob jobId worker (fun _ _ => True) .idle (loadJob worker id >>= k) := by
  refine Prog.Plays.update_bind fun w => ?_
  by_cases hid : id = jobId
  · subst hid
    have hview := jobView_act (show (JobAct.loaded worker id).jobId = id from rfl) w
    cases hrow : w.jobs.get? id with
    | none => exact ⟨.idle, hview ▸ .loaded _, hnone⟩
    | some job =>
        have hplays := hown job (Table.key_of_get? hrow)
        refine ⟨.found job, ?_, hplays⟩
        unfold Position.found
        split
        · exact hview ▸ .loaded _
        case isFalse hopen => exact hview ▸ .opened hrow (by simpa using hopen)
  · have hview := jobView_act_other (show (JobAct.loaded worker id).jobId ≠ jobId from hid) w
    refine ⟨.idle, hview ▸ .stays _ _, ?_⟩
    cases hrow : w.jobs.get? id with
    | none => exact hnone
    | some job => exact hother job (by rwa [Table.key_of_get? hrow])

theorem plays_runJob (id : String) :
    PlaysJob jobId worker (fun _ _ => True) .idle (runJob worker plan id) := by
  refine plays_load trivial ?_ ?_
  · intro job hid
    exact (plays_runLoaded hid).mono fun _ _ _ => trivial
  · intro job hid
    exact (plays_runLoaded_other hid).mono fun _ _ _ => trivial

theorem plays_cancelJob (outcome : CommitOutcome) (now : Time) (id : String) :
    PlaysJob jobId worker (fun _ _ => True) .idle (cancelJob worker outcome now id) := by
  refine plays_load trivial ?_ ?_
  · intro job hid
    show PlaysJob jobId worker _ (.found job) (cancelLoaded worker outcome now job)
    unfold cancelLoaded Position.found
    split
    · trivial
    · exact plays_commit hid (.cancelled rfl rfl) (fun _ => trivial) trivial
  · intro job hid
    show PlaysJob jobId worker _ .idle (cancelLoaded worker outcome now job)
    unfold cancelLoaded
    split
    · trivial
    · exact plays_commit_other hid trivial trivial

/-- The loop of a recovery: the job is the one that was found, as long as its turn has not
come, and the call has done with it afterwards. -/
theorem plays_recoverEach {plan : String → RunPlan} (jobs : List ExecutionJob) :
    ∀ {count : Nat} {h : Position}, (jobs.map (·.jobId)).Nodup →
      (∀ job ∈ jobs, job.jobId = jobId → h = .found job) →
      PlaysJob jobId worker (fun _ _ => True) h (recoverEach worker plan jobs count) := by
  induction jobs with
  | nil =>
      intro count h _ _
      trivial
  | cons job rest ih =>
      intro count h hdistinct hfound
      obtain ⟨hnew, hrest⟩ := List.nodup_cons.mp hdistinct
      unfold recoverEach
      by_cases hid : job.jobId = jobId
      · -- its turn: no other job of the list has its identifier
        have hnone : ∀ h, ∀ other ∈ rest, other.jobId = jobId → h = Position.found other := by
          intro h other hother hsame
          exact absurd (List.mem_map.mpr ⟨other, hother, hsame.trans hid.symm⟩) hnew
        rw [hfound job (List.mem_cons_self ..) hid]
        refine Prog.Plays.bind (Prog.Plays.attempt ((plays_runLoaded hid).mono ?_))
        intro r h' _
        cases r with
        | ok result => exact ih hrest (hnone h')
        | error e =>
            show PlaysJob jobId worker _ h'
              (if e.isJobError then recoverEach worker plan rest count else Prog.raise e)
            split
            · exact ih hrest (hnone h')
            · trivial
      · have hkeeps : ∀ other ∈ rest, other.jobId = jobId → h = Position.found other :=
          fun other hother => hfound other (List.mem_cons_of_mem _ hother)
        refine Prog.Plays.bind (Prog.Plays.attempt ((plays_runLoaded_other hid).mono ?_))
        rintro r h' rfl
        cases r with
        | ok result => exact ih hrest hkeeps
        | error e =>
            show PlaysJob jobId worker _ h'
              (if e.isJobError then recoverEach worker plan rest count else Prog.raise e)
            split
            · exact ih hrest hkeeps
            · trivial

theorem isTerminal_eq_false {status : JobStatus} :
    status.isTerminal = false ↔ status = .pending ∨ status = .running := by
  cases status <;> simp [JobStatus.isTerminal]

/-- The open jobs with one identifier. -/
theorem openJobs_filter (w : JobStore) (id : String) :
    w.openJobs.filter (fun job => job.jobId = id) =
      (w.jobs.get? id).toList.filter fun job =>
        job.status = .pending || job.status = .running := by
  unfold JobStore.openJobs
  rw [← Table.filter_key, List.filter_filter, List.filter_filter]
  refine List.filter_congr fun job _ => ?_
  exact Bool.and_comm ..

/-- What the listing of a recovery puts into the history of the job. -/
theorem jobView_listing (w : JobStore) :
    jobView jobId { w with
        history := w.history ++ w.openJobs.map fun job => .loaded worker job.jobId } =
      ⟨w.jobs.get? jobId, (jobView jobId w).acts ++
        ((w.jobs.get? jobId).toList.filter fun job =>
          job.status = .pending || job.status = .running).map fun _ => .loaded worker jobId⟩ := by
  have hacts : (w.openJobs.map fun job => JobAct.loaded worker job.jobId).filter
      (fun act => act.jobId = jobId) =
        (w.openJobs.filter fun job => job.jobId = jobId).map fun _ => .loaded worker jobId := by
    rw [List.filter_map]
    refine List.map_congr_left fun job hjob => ?_
    have hid : job.jobId = jobId := of_decide_eq_true (List.mem_filter.mp hjob).2
    rw [hid]
  unfold jobView
  rw [List.filter_append, hacts, openJobs_filter]

theorem plays_recoverPendingJobs {plan : String → RunPlan} :
    PlaysJob jobId worker (fun _ _ => True) .idle (recoverPendingJobs worker plan) := by
  refine Prog.Plays.update_bind fun w => ?_
  have hview := @jobView_listing jobId worker w
  have hdistinct : (w.openJobs.map (·.jobId)).Nodup :=
    List.Nodup.sublist (List.Sublist.map _ List.filter_sublist) w.jobs.distinct
  have hfound : ∀ job ∈ w.openJobs, job.jobId = jobId →
      w.jobs.get? jobId = some job ∧ job.status.isTerminal = false := by
    rintro job hjob rfl
    obtain ⟨hrow, hopen⟩ := List.mem_filter.mp hjob
    exact ⟨Table.get?_of_mem hrow, isTerminal_eq_false.mpr (by simpa using hopen)⟩
  by_cases hsome : ∃ job ∈ w.openJobs, job.jobId = jobId
  · obtain ⟨job, hjob, hid⟩ := hsome
    obtain ⟨hrow, hopen⟩ := hfound job hjob hid
    have hstatus := isTerminal_eq_false.mp hopen
    refine ⟨.opened job, ?_, plays_recoverEach w.openJobs hdistinct ?_⟩
    · show Move jobId worker .idle (jobView jobId w) (.opened job) (jobView jobId _)
      rw [hview, hrow]
      have hloaded : ((some job).toList.filter fun job =>
          job.status = .pending || job.status = .running) = [job] := by simp [hstatus]
      rw [hloaded, ← hrow]
      exact .opened hrow hopen
    · intro other hother hsame
      obtain ⟨hrow', hopen'⟩ := hfound other hother hsame
      obtain rfl := Option.some.inj (hrow.symm.trans hrow')
      simp [Position.found, hopen]
  · have hnone : w.openJobs.filter (fun job => job.jobId = jobId) = [] := by
      rw [List.filter_eq_nil_iff]
      intro job hjob hid
      exact hsome ⟨job, hjob, by simpa using hid⟩
    refine ⟨.idle, ?_, plays_recoverEach w.openJobs hdistinct ?_⟩
    · show Move jobId worker .idle (jobView jobId w) .idle (jobView jobId _)
      rw [hview, ← openJobs_filter, hnone, List.map_nil, List.append_nil]
      exact .stays _ _
    · intro other hother hsame
      exact absurd ⟨other, hother, hsame⟩ hsome

theorem plays_submitJob (call : SubmitCall) :
    PlaysJob jobId worker (fun _ _ => True) .idle (submitJob call) := by
  refine Prog.Plays.read_bind (fun v => .stays _ v) fun w => ?_
  cases call.existing w with
  | some job => trivial
  | none =>
      intro w _
      refine ⟨.idle, ?_, ?_⟩
      · show Move jobId worker .idle (jobView jobId w) .idle
          (jobView jobId (Prog.commit call.insert w))
        unfold Prog.commit SubmitCall.insert
        cases hinsert : w.jobs.insert? call.job with
        | none => exact .stays _ _
        | some jobs =>
            have hget := Table.get?_insert hinsert jobId
            by_cases hid : jobId = call.job.jobId
            · have hnone : (jobView jobId w).row = none := by
                rw [hid]
                exact (Table.insert?_eq_some hinsert).1
              have hview : jobView jobId { w with jobs := jobs } =
                  ⟨some call.job, (jobView jobId w).acts⟩ := by
                rw [if_pos hid] at hget
                simp [jobView, hget]
              exact hview ▸ .created hnone rfl rfl
            · have hview : jobView jobId { w with jobs := jobs } = jobView jobId w := by
                rw [if_neg hid] at hget
                simp [jobView, hget]
              exact hview ▸ .stays _ _
      · show PlaysJob jobId worker _ .idle ((Prog.outcome call.insert w).bind _)
        unfold Prog.outcome
        cases call.insert w with
        | error e => trivial
        | ok inserted =>
            refine Prog.Plays.read_bind (fun v => .stays _ v) fun w' => ?_
            cases w'.jobs.get? call.jobId with
            | none => trivial
            | some job => trivial

/-- **Every call of a worker plays the moves of each job.** -/
theorem plays_body (call : WorkerCall) :
    PlaysJob jobId worker (fun _ _ => True) .idle (call.body worker) := by
  cases call with
  | submit call => exact Prog.Plays.map (plays_submitJob call)
  | run plan id => exact Prog.Plays.map (plays_runJob id)
  | cancel outcome now id => exact Prog.Plays.map (plays_cancelJob outcome now id)
  | recover plan => exact Prog.Plays.map plays_recoverPendingJobs

end Runs

end ControlPlane.ExecutionWorker
