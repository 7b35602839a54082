/-
One worker, which may die at any point.

A turn is a call that is cut after some windows.  The executor is called at most once for
every attempt that was committed, so the count of the row bounds its calls whatever dies:
`work_counted`.  A run that comes to its end leaves the job as the last outcome says, and a
recovery that returns leaves no job open.

What the row holds is compared with the history.  As long as results can be encoded, a job that
is completed is as the last outcome says of the run that has entered it, `work_settled`.  That is
shown window by window, so it also holds of the jobs that a recovery had completed when it died or
raised in the middle of the next one.  `Dependable` puts the promises together and
`work_dependable` says that every sequence of turns keeps them.
-/
import ControlPlane.Lib.Runs
import ControlPlane.Proofs.JobSchedules

namespace ControlPlane.ExecutionWorker

/-! ### Turns -/

/-- A call of the worker, and how many windows it runs before it dies, if it is not done. -/
structure Turn where
  call : WorkerCall
  windows : Nat

/-- The store after a turn. -/
def Turn.play (w : JobStore) (turn : Turn) : JobStore := (turn.call.body 0).cut turn.windows w

/-- The store after these turns, from an empty table. -/
def work (turns : List Turn) : JobStore := turns.foldl Turn.play ⟨.empty, []⟩

section Turns

variable {jobId : String}

/-- What a call that has the store to itself knows at its position. -/
structure Alone (h : Position) (v : JobView) : Prop where
  counted : Counted (Function.update (fun _ => .idle) 0 h) v
  fresh : h ≠ .idle → isFresh 0 v.acts = true

theorem Alone.move {h h' : Position} {v v' : JobView} (halone : Alone h v)
    (hmove : Move jobId 0 h v h' v') : Alone h' v' := by
  have hfresh : Fresh v v' := by
    intro act hact
    cases hmove with
    | stays => simp at hact
    | drops => simp at hact
    | created => simp at hact
    | loaded =>
        obtain rfl : JobAct.loaded 0 jobId = act := by simpa using hact
        trivial
    | opened =>
        obtain rfl : JobAct.loaded 0 jobId = act := by simpa using hact
        trivial
    | commits hcommits =>
        obtain rfl := by simpa using hact
        refine halone.fresh ?_
        cases hcommits <;> exact fun hidle => by cases hidle
    | starts job =>
        obtain rfl : JobAct.started 0 jobId = act := by simpa using hact
        exact halone.fresh fun hidle => by cases hidle
    | finishes completedAt job outcome =>
        obtain rfl : JobAct.finished 0 jobId outcome = act := by simpa using hact
        trivial
  have hself : Function.update (fun _ => Position.idle) 0 h 0 = h := Function.update_self ..
  have hcounted := halone.counted.move (hself.symm ▸ hmove) hfresh
  rw [Function.update_idem] at hcounted
  refine ⟨hcounted, fun hbusy => ?_⟩
  cases hmove with
  | stays => exact halone.fresh hbusy
  | drops => exact absurd rfl hbusy
  | created => exact absurd rfl hbusy
  | loaded => exact absurd rfl hbusy
  | opened => simp [freshStep]
  | commits => simp [freshStep]
  | starts job => simpa [freshStep] using halone.fresh fun hidle => by cases hidle
  | finishes => simpa [freshStep] using halone.fresh fun hidle => by cases hidle

/-- A call that has died knows nothing. -/
theorem Alone.dies {h : Position} {v : JobView} (halone : Alone h v) : Alone .idle v := by
  refine ⟨⟨halone.counted.row, fun k => ?_, ?_⟩, fun h => absurd rfl h⟩
  · rw [Function.update_eq_self_iff.mpr rfl]
    trivial
  · intro i k job job' hi
    rw [Function.update_eq_self_iff.mpr rfl] at hi
    cases hi

/-- **What is counted stays counted, wherever the calls die.** -/
theorem work_alone (jobId : String) (turns : List Turn) : Alone .idle (jobView jobId (work turns)) := by
  refine Runs.foldl_keeps (I := fun w => Alone .idle (jobView jobId w)) ?_ turns ?_
  · intro w turn hw
    obtain ⟨h, halone⟩ := Prog.Plays.cut (I := Alone) (fun _ _ _ _ hI hmove => hI.move hmove)
      turn.windows (plays_body turn.call) hw
    exact halone.dies
  · refine ⟨?_, fun h => absurd rfl h⟩
    rw [Function.update_eq_self_iff.mpr rfl]
    exact safe_empty.counted

end Turns

/-! ### Commits of a session that is alone -/

/-- The columns that no commit changes. -/
def ExecutionJob.fixed (job : ExecutionJob) : ExecutionJob :=
  { job with
    status := .pending
    attemptCount := 0
    result := none
    error := .null
    updatedAt := 0
    completedAt := none }

/-- A row that is as the session saved it becomes what the session holds. -/
theorem mergeJob_self {saved job : ExecutionJob} (h : job.fixed = saved.fixed) :
    mergeJob saved job saved = job := by
  unfold ExecutionJob.fixed at h
  unfold mergeJob
  simp only [netChange_self]
  cases saved
  cases job
  simp_all

/-- What a run records is the same job. -/
theorem verdict_fixed {completedAt : Time} {job completed : ExecutionJob}
    {outcome : ExecutorOutcome} (h : verdict completedAt job outcome = .complete completed) :
    completed.fixed = job.fixed := by
  cases outcome with
  | raised typeName message => cases h
  | returned result =>
      simp only [verdict] at h
      repeat' split at h
      all_goals cases h <;> rfl

theorem verdict_again_fixed {completedAt : Time} {job held : ExecutionJob} {lastError : Json}
    {outcome : ExecutorOutcome} (h : verdict completedAt job outcome = .again held lastError) :
    held.fixed = job.fixed := by
  cases outcome with
  | raised typeName message =>
      cases h
      rfl
  | returned result =>
      simp only [verdict] at h
      repeat' split at h
      all_goals cases h <;> rfl

section Ensures

variable {jobId : String} {α β : Type} {Q : Except WorkerError β → JobStore → Prop} {w : JobStore}
  {saved job : ExecutionJob}

/-- A commit of a session that is alone with the job: it writes what the session holds. -/
theorem ensures_commit {worker : Nat} {kind : CommitKind} {outcome : CommitOutcome}
    {k : Unit → Worker β} (hrow : w.jobs.get? saved.jobId = some saved)
    (hfixed : job.fixed = saved.fixed)
    (hk : ∀ t, jobView saved.jobId t =
        ⟨some job, (jobView saved.jobId w).acts ++ [.committed worker saved.jobId kind]⟩ →
      (∀ id, id ≠ saved.jobId → jobView id t = jobView id w) →
      if outcome = .committed then Prog.Ensures Q (k ()) t
      else outcome = .raised true → Q (.error .unhandled) t)
    (hlost : outcome = .raised false → Q (.error .unhandled) w) :
    Prog.Ensures Q (commitJob worker kind outcome saved job >>= k) w := by
  have hview : jobView saved.jobId (writeJob worker kind saved job w) =
      ⟨some job, (jobView saved.jobId w).acts ++ [.committed worker saved.jobId kind]⟩ := by
    rw [jobView_write, if_pos rfl]
    show JobView.mk ((w.jobs.get? saved.jobId).map _) _ = _
    rw [hrow, Option.map_some, mergeJob_self hfixed]
  have hothers : ∀ id, id ≠ saved.jobId →
      jobView id (writeJob worker kind saved job w) = jobView id w := by
    intro id hid
    rw [jobView_write, if_neg (Ne.symm hid)]
  have hdone := hk _ hview hothers
  refine ⟨rfl, ?_⟩
  cases outcome with
  | committed => exact hdone
  | raised applied =>
      cases applied with
      | true => exact hdone rfl
      | false => exact hlost rfl

/-- A call of the executor. -/
theorem ensures_call {worker : Nat} {plan : RunPlan} {k : ExecutorOutcome → Worker β}
    (hk : ∀ t, jobView job.jobId t = ⟨(jobView job.jobId w).row, (jobView job.jobId w).acts ++
        [.started worker job.jobId, .finished worker job.jobId (plan.executor job.attemptCount)]⟩ →
      (∀ id, id ≠ job.jobId → jobView id t = jobView id w) →
      Prog.Ensures Q (k (plan.executor job.attemptCount)) t) :
    Prog.Ensures Q (callExecutor worker plan job >>= k) w := by
  refine ⟨rfl, rfl, hk _ ?_ fun id hid => ?_⟩
  · simp [jobView, JobAct.jobId]
  · simp [jobView, JobAct.jobId, Ne.symm hid]

end Ensures

/-! ### How a run ends -/

/-- The results of an executor serialise to JSON. -/
def RunPlan.Serialises (plan : RunPlan) : Prop :=
  ∀ n result, plan.executor n = .returned result → ∃ value, result.encoded = .text value

theorem RunPlan.Serialises.encoded {plan : RunPlan} (h : plan.Serialises) (n : Int) :
    (plan.executor n).unencoded = false := by
  cases houtcome : plan.executor n with
  | raised typeName message => rfl
  | returned result =>
      obtain ⟨value, hvalue⟩ := h n result houtcome
      simp [ExecutorOutcome.unencoded, hvalue]

/-- The outcome of the last call of the executor. -/
def lastStep (last : Option ExecutorOutcome) : JobAct → Option ExecutorOutcome
  | .finished _ _ outcome => some outcome
  | .loaded _ _ | .committed _ _ _ | .started _ _ => last

/-- The last outcome of the executor. -/
def lastOutcome (acts : List JobAct) : Option ExecutorOutcome := acts.foldl lastStep none

@[simp] theorem lastOutcome_append (acts : List JobAct) (act : JobAct) :
    lastOutcome (acts ++ [act]) = lastStep (lastOutcome acts) act := by
  simp [lastOutcome]

/-- The status of a job after a run whose last outcome this was. -/
def settledStatus : Option ExecutorOutcome → JobStatus
  | some (.returned result) =>
      if result.succeeded then .succeeded
      else if result.state = some "outcome_unknown" then .timedOut
      else if result.state = some "failed" then .failed
      else .deadLetter
  | some (.raised _ _) | none => .deadLetter

/-- **What a run that completes leaves**: the row, after these acts, with this result. -/
structure Completed (row : ExecutionJob) (acts : List JobAct) (r : Except WorkerError JobResult) :
    Prop where
  status : row.status = settledStatus (lastOutcome acts)
  /-- A job times out when its attempts are exhausted. -/
  exhausted : row.status = .timedOut → row.maxRetries + 1 ≤ row.attemptCount
  result : r = .ok (jobResult row) ∧ row.status ≠ .deadLetter ∨
    ∃ reason, r = .error (.deadLettered row.jobId reason) ∧ row.status = .deadLetter

/-- What is committed after an outcome. -/
theorem verdict_settled {completedAt : Time} {job completed : ExecutionJob}
    {outcome : ExecutorOutcome} (h : verdict completedAt job outcome = .complete completed) :
    completed.status = settledStatus (some outcome) ∧ completed.status ≠ .deadLetter ∧
      (completed.status = .timedOut → job.maxRetries + 1 ≤ job.attemptCount) := by
  cases outcome with
  | raised typeName message => cases h
  | returned result =>
      simp only [verdict] at h
      simp only [settledStatus]
      split at h
      case isTrue hsucceeded =>
        rw [if_pos hsucceeded]
        split at h
        · cases h
        · cases h
          exact ⟨rfl, (fun h => by cases h), fun h => by cases h⟩
      case isFalse hsucceeded =>
        rw [if_neg hsucceeded]
        split at h
        case isTrue hunknown =>
          rw [if_pos hunknown]
          split at h
          case isTrue hexhausted =>
            cases h
            exact ⟨rfl, (fun h => by cases h), fun _ => hexhausted⟩
          case isFalse => cases h
        case isFalse hunknown =>
          rw [if_neg hunknown]
          split at h
          case isTrue hfailed =>
            rw [if_pos hfailed]
            split at h
            · cases h
            · cases h
              exact ⟨rfl, (fun h => by cases h), fun h => by cases h⟩
          case isFalse => cases h

/-- What is tried again when no attempt is left. -/
theorem verdict_exhausted {completedAt : Time} {job held : ExecutionJob} {lastError : Json}
    {outcome : ExecutorOutcome} (h : verdict completedAt job outcome = .again held lastError)
    (hencoded : outcome.unencoded = false) (hexhausted : job.maxRetries + 1 ≤ job.attemptCount) :
    settledStatus (some outcome) = .deadLetter := by
  cases outcome with
  | raised typeName message => rfl
  | returned result =>
      simp only [verdict] at h
      simp only [settledStatus]
      simp only [ExecutorOutcome.unencoded] at hencoded
      split at h
      case isTrue hsucceeded =>
        split at h
        case h_1 hraised => simp [hraised, hsucceeded] at hencoded
        case h_2 => cases h
      case isFalse hsucceeded =>
        rw [if_neg hsucceeded]
        split at h
        case isTrue hunknown => cases h
        case isFalse hunknown =>
          rw [if_neg hunknown]
          split at h
          case isTrue hfailed =>
            split at h
            case h_1 hraised => simp [hraised, hfailed] at hencoded
            case h_2 => cases h
          case isFalse hfailed => rw [if_neg hfailed]

/-- How a run that found `old` ends: it raises what nobody catches, or it is completed; and it
does nothing to other jobs. -/
def Ends (id : String) (old : List JobAct) (w : JobStore) (r : Except WorkerError JobResult)
    (t : JobStore) : Prop :=
  (r = .error .unhandled ∨
    ∃ row acts, jobView id t = ⟨some row, old ++ acts⟩ ∧ Completed row acts r) ∧
  ∀ other, other ≠ id → jobView other t = jobView other w

section Runs

variable {worker : Nat} {plan : RunPlan} {old : List JobAct} {w : JobStore}

theorem ensures_exhaust {job : ExecutionJob} {acts : List JobAct} {lastError : Json}
    {w₀ : JobStore} (hview : jobView job.jobId w = ⟨some job, old ++ acts⟩)
    (hothers : ∀ other, other ≠ job.jobId → jobView other w = jobView other w₀)
    (hlast : settledStatus (lastOutcome acts) = .deadLetter) :
    Prog.Ensures (Ends job.jobId old w₀) (exhaust worker plan job job lastError) w := by
  let dead := { job with
    status := .deadLetter
    error := exhaustedReason lastError
    completedAt := some plan.completedAt }
  have hcompleted : Completed dead (acts ++ [.committed worker job.jobId .deadLettered])
      (.error (.deadLettered job.jobId (exhaustedReason lastError))) := by
    refine ⟨?_, nofun, .inr ⟨_, rfl, rfl⟩⟩
    rw [lastOutcome_append]
    exact hlast.symm
  refine ensures_commit (congrArg JobView.row hview) rfl (fun t ht hkept => ?_)
    fun _ => ⟨.inl rfl, hothers⟩
  have hothers' : ∀ other, other ≠ job.jobId → jobView other t = jobView other w₀ :=
    fun other hother => (hkept other hother).trans (hothers other hother)
  split
  · refine ⟨.inr ⟨dead, _, ?_, hcompleted⟩, hothers'⟩
    rw [ht, hview, List.append_assoc]
  · exact fun _ => ⟨.inl rfl, hothers'⟩

theorem ensures_complete {job completed : ExecutionJob} {acts : List JobAct}
    {outcome : CommitOutcome} {w₀ : JobStore}
    (hview : jobView job.jobId w = ⟨some job, old ++ acts⟩)
    (hothers : ∀ other, other ≠ job.jobId → jobView other w = jobView other w₀)
    (hfixed : completed.fixed = job.fixed)
    (hstatus : completed.status = settledStatus (lastOutcome acts))
    (halive : completed.status ≠ .deadLetter)
    (hexhausted : completed.status = .timedOut → completed.maxRetries + 1 ≤ completed.attemptCount) :
    Prog.Ensures (Ends job.jobId old w₀)
      (commitJob worker .completed outcome job completed >>= fun _ => Prog.ret (jobResult completed))
      w := by
  have hcompleted : Completed completed (acts ++ [.committed worker job.jobId .completed])
      (.ok (jobResult completed)) := by
    refine ⟨?_, hexhausted, .inl ⟨rfl, halive⟩⟩
    rw [lastOutcome_append]
    exact hstatus
  refine ensures_commit (congrArg JobView.row hview) hfixed (fun t ht hkept => ?_)
    fun _ => ⟨.inl rfl, hothers⟩
  have hothers' : ∀ other, other ≠ job.jobId → jobView other t = jobView other w₀ :=
    fun other hother => (hkept other hother).trans (hothers other hother)
  split
  · refine ⟨.inr ⟨completed, _, ?_, hcompleted⟩, hothers'⟩
    rw [ht, hview, List.append_assoc]
  · exact fun _ => ⟨.inl rfl, hothers'⟩

/-- **How the loop of a run ends.** -/
theorem ensures_attempts (hserialises : plan.Serialises) {w₀ : JobStore} (left : Nat) :
    ∀ {job : ExecutionJob} {acts : List JobAct} {lastError : Json} {w : JobStore},
      left = job.left → (left = 0 → lastOutcome acts = none) →
      jobView job.jobId w = ⟨some job, old ++ acts⟩ →
      (∀ other, other ≠ job.jobId → jobView other w = jobView other w₀) →
      Prog.Ensures (Ends job.jobId old w₀) (attempts worker plan left job job lastError) w := by
  induction left with
  | zero =>
      intro job acts lastError w hleft hnone hview hothers
      exact ensures_exhaust hview hothers (by rw [hnone rfl]; rfl)
  | succ left ih =>
      intro job acts lastError w hleft _ hview hothers
      unfold attempts
      refine ensures_commit (congrArg JobView.row hview) rfl (fun t ht hkept => ?_)
        fun _ => ⟨.inl rfl, hothers⟩
      have hothers' : ∀ other, other ≠ job.jobId → jobView other t = jobView other w₀ :=
        fun other hother => (hkept other hother).trans (hothers other hother)
      split
      case isFalse => exact fun _ => ⟨.inl rfl, hothers'⟩
      refine ensures_call fun u hu hkept' => ?_
      have hothers'' : ∀ other, other ≠ job.jobId → jobView other u = jobView other w₀ :=
        fun other hother => (hkept' other hother).trans (hothers' other hother)
      generalize hattempted : ({ job with
        attemptCount := job.attemptCount + 1
        updatedAt := plan.attemptedAt (job.attemptCount + 1) } : ExecutionJob) = attempted at *
      have hid : attempted.jobId = job.jobId := by rw [← hattempted]
      generalize houtcome : plan.executor attempted.attemptCount = outcome at *
      have hencoded : outcome.unencoded = false := houtcome ▸ hserialises.encoded _
      have hview' : jobView attempted.jobId u = ⟨some attempted, old ++
          ((acts ++ [.committed worker job.jobId .attempted, .started worker attempted.jobId]) ++
            [.finished worker attempted.jobId outcome])⟩ := by
        rw [hu, hid, ht, hview]
        simp
      split
      case h_1 completed hverdict =>
        obtain ⟨hstatus, halive, hexhausted⟩ := verdict_settled hverdict
        obtain ⟨-, hcompletedId, hcount⟩ := verdict_complete hverdict
        have hfixed := verdict_fixed hverdict
        have hmax : completed.maxRetries = attempted.maxRetries := by
          show completed.fixed.maxRetries = attempted.fixed.maxRetries
          rw [hfixed]
        rw [← hid]
        refine ensures_complete hview' (hid ▸ hothers'') hfixed ?_ halive ?_
        · rw [lastOutcome_append]
          exact hstatus
        · rw [hmax, hcount]
          exact hexhausted
      case h_2 held lastError' hverdict =>
        obtain ⟨-, -, -, hsame⟩ := verdict_again hverdict
        obtain rfl := hsame hencoded
        split
        case isTrue hexhausted =>
          rw [← hid]
          refine ensures_exhaust hview' (hid ▸ hothers'') ?_
          rw [lastOutcome_append]
          exact verdict_exhausted hverdict hencoded hexhausted
        case isFalse hmore =>
          split
          · exact ⟨.inl rfl, hothers''⟩
          · rw [← hid]
            refine ih ?_ ?_ hview' (hid ▸ hothers'')
            · rw [← hattempted]
              unfold ExecutionJob.left at hleft ⊢
              show left = (job.maxRetries + 1 - (job.attemptCount + 1)).toNat
              omega
            · intro hzero
              subst hzero
              rw [← hattempted] at hmore
              unfold ExecutionJob.left at hleft
              change ¬ job.attemptCount + 1 ≥ job.maxRetries + 1 at hmore
              omega

/-- **How a run of an open job ends.** -/
theorem ensures_runLoaded (hserialises : plan.Serialises) {job : ExecutionJob}
    {acts : List JobAct} (hopen : job.status.isTerminal = false)
    (hview : jobView job.jobId w = ⟨some job, old ++ acts⟩) (hlast : lastOutcome acts = none) :
    Prog.Ensures (Ends job.jobId old w) (runLoaded worker plan job) w := by
  unfold runLoaded
  rw [if_neg (by simp [hopen])]
  refine ensures_commit (congrArg JobView.row hview) rfl (fun t ht hkept => ?_)
    fun _ => ⟨.inl rfl, fun _ _ => rfl⟩
  split
  · let running := { job with status := .running, updatedAt := plan.enteredAt }
    have hview' : jobView running.jobId t = ⟨some running, old ++
        (acts ++ [.committed worker job.jobId .entered])⟩ := by
      rw [← List.append_assoc, ht, hview]
    show Prog.Ensures (Ends running.jobId old w) _ t
    refine ensures_attempts hserialises _ rfl (fun _ => ?_) hview' hkept
    rw [lastOutcome_append, hlast]
    rfl
  · exact fun _ => ⟨.inl rfl, hkept⟩

theorem ensures_runJob (hserialises : plan.Serialises) {job : ExecutionJob}
    (hrow : w.jobs.get? job.jobId = some job) (hopen : job.status.isTerminal = false) :
    Prog.Ensures (Ends job.jobId (jobView job.jobId w).acts w) (runJob worker plan job.jobId) w := by
  refine Prog.Ensures.update_bind ?_
  simp only [hrow]
  have hview : jobView job.jobId { w with
      history := w.history ++ [.loaded worker job.jobId] } =
        ⟨some job, (jobView job.jobId w).acts ++ [.loaded worker job.jobId]⟩ := by
    rw [← hrow]
    simp [jobView, JobAct.jobId]
  refine (ensures_runLoaded hserialises hopen hview rfl).mono ?_
  rintro r t ⟨hend, hothers⟩
  refine ⟨hend, fun other hother => ?_⟩
  rw [hothers other hother]
  simp [jobView, JobAct.jobId, Ne.symm hother]

/-! ### Recovery -/

/-- A job that a run has completed since `w₀`. -/
def Recovered (w₀ t : JobStore) (id : String) : Prop :=
  ∃ row acts r, jobView id t = ⟨some row, (jobView id w₀).acts ++ acts⟩ ∧ Completed row acts r

/-- **A recovery that returns has completed a run of every job on its list**, and has done
nothing to the others. -/
theorem ensures_recoverEach {plan : String → RunPlan} (hserialises : ∀ id, (plan id).Serialises)
    (w₀ : JobStore) (jobs : List ExecutionJob) :
    ∀ {count : Nat} {w : JobStore}, (jobs.map (·.jobId)).Nodup →
      (∀ job ∈ jobs, job.status.isTerminal = false ∧ jobView job.jobId w =
        ⟨some job, (jobView job.jobId w₀).acts ++ [.loaded worker job.jobId]⟩) →
      Prog.Ensures (fun r t => (∀ n, r = .ok n → ∀ job ∈ jobs, Recovered w₀ t job.jobId) ∧
        ∀ other, other ∉ jobs.map (·.jobId) → jobView other t = jobView other w)
        (recoverEach worker plan jobs count) w := by
  induction jobs with
  | nil =>
      intro count w _ _
      exact ⟨fun _ _ _ hjob => absurd hjob List.not_mem_nil, fun _ _ => rfl⟩
  | cons job rest ih =>
      intro count w hdistinct hjobs
      obtain ⟨hnew, hrest⟩ := List.nodup_cons.mp hdistinct
      obtain ⟨hopen, hview⟩ := hjobs job (List.mem_cons_self ..)
      -- the rest, once the first job has had its turn
      have hlater : ∀ {count : Nat} {t : JobStore},
          (∀ other, other ≠ job.jobId → jobView other t = jobView other w) →
          (∃ row acts r, jobView job.jobId t = ⟨some row, (jobView job.jobId w₀).acts ++ acts⟩ ∧
            Completed row acts r) →
          Prog.Ensures (fun r u => (∀ n, r = .ok n → ∀ job' ∈ job :: rest,
              Recovered w₀ u job'.jobId) ∧
            ∀ other, other ∉ (job :: rest).map (·.jobId) → jobView other u = jobView other w)
            (recoverEach worker plan rest count) t := by
        intro count t hothers hdone
        refine (ih hrest ?_).mono ?_
        · intro job' hjob'
          obtain ⟨hopen', hview'⟩ := hjobs job' (List.mem_cons_of_mem _ hjob')
          refine ⟨hopen', (hothers job'.jobId ?_).trans hview'⟩
          intro hsame
          exact hnew (List.mem_map.mpr ⟨job', hjob', hsame⟩)
        · rintro r u ⟨hall, hkept⟩
          refine ⟨fun n hn job' hjob' => ?_, fun other hother => ?_⟩
          · rcases List.mem_cons.mp hjob' with rfl | hjob'
            · obtain ⟨row, acts, r', hrow, hcompleted⟩ := hdone
              exact ⟨row, acts, r', (hkept _ hnew).trans hrow, hcompleted⟩
            · exact hall n hn job' hjob'
          · rw [List.map_cons, List.mem_cons, not_or] at hother
            exact (hkept other hother.2).trans (hothers other hother.1)
      unfold recoverEach
      refine Prog.Ensures.bind (Prog.Ensures.attempt
        ((ensures_runLoaded (hserialises _) hopen hview rfl).mono ?_))
      rintro r t ⟨hend, hothers⟩
      have hfailed : (∀ n : Nat, Except.error (ε := WorkerError) WorkerError.unhandled = .ok n →
            ∀ job' ∈ job :: rest, Recovered w₀ t job'.jobId) ∧
          ∀ other, other ∉ (job :: rest).map (·.jobId) → jobView other t = jobView other w := by
        refine ⟨(fun n hn => by cases hn), fun other hother => hothers other ?_⟩
        rw [List.map_cons, List.mem_cons, not_or] at hother
        exact hother.1
      rcases hend with rfl | ⟨row, acts, hrow, hcompleted⟩
      · exact hfailed
      · rcases hcompleted.result with ⟨rfl, -⟩ | ⟨reason, rfl, -⟩
        · exact hlater hothers ⟨row, acts, _, hrow, hcompleted⟩
        · exact hlater hothers ⟨row, acts, _, hrow, hcompleted⟩

theorem settledStatus_terminal (last : Option ExecutorOutcome) :
    (settledStatus last).isTerminal = true := by
  unfold settledStatus
  split
  · repeat' split
    all_goals rfl
  · rfl
  · rfl

/-- **A recovery that returns leaves no job open**, and every job that was open has had a run that
completed. -/
theorem ensures_recover {plan : String → RunPlan} (hserialises : ∀ id, (plan id).Serialises)
    (w : JobStore) :
    Prog.Ensures (fun r t => ∀ n, r = .ok n → (∀ job ∈ w.openJobs, Recovered w t job.jobId) ∧
      ∀ row ∈ t.jobs.rows, row.status.isTerminal = true) (recoverPendingJobs worker plan) w := by
  have hdistinct : (w.openJobs.map (·.jobId)).Nodup :=
    List.Nodup.sublist (List.Sublist.map _ List.filter_sublist) w.jobs.distinct
  have hlisted : ∀ job ∈ w.openJobs, job.status.isTerminal = false ∧
      w.jobs.get? job.jobId = some job := by
    intro job hjob
    obtain ⟨hrow, hopen⟩ := List.mem_filter.mp hjob
    exact ⟨isTerminal_eq_false.mpr (by simpa using hopen), Table.get?_of_mem hrow⟩
  refine Prog.Ensures.update_bind ?_
  refine (ensures_recoverEach hserialises w w.openJobs hdistinct ?_).mono ?_
  · intro job hjob
    obtain ⟨hopen, hrow⟩ := hlisted job hjob
    refine ⟨hopen, ?_⟩
    rw [jobView_listing, hrow]
    have hstatus := isTerminal_eq_false.mp hopen
    simp [hstatus]
  · rintro r t ⟨hall, hothers⟩ n hn
    refine ⟨hall n hn, fun row hrow => ?_⟩
    have hget := Table.get?_of_mem hrow
    by_cases hid : row.jobId ∈ w.openJobs.map (·.jobId)
    · obtain ⟨job, hjob, hsame⟩ := List.mem_map.mp hid
      obtain ⟨row', acts, r', hview, hcompleted⟩ := hall n hn job hjob
      have hrow' : t.jobs.get? row.jobId = some row' := by
        rw [← hsame]
        exact congrArg JobView.row hview
      obtain rfl := Option.some.inj (hget.symm.trans hrow')
      rw [hcompleted.status]
      exact settledStatus_terminal _
    · -- it was not open before, and nothing was done to it
      have hbefore : w.jobs.get? row.jobId = some row := by
        have hview := congrArg JobView.row (hothers row.jobId hid)
        exact hview.symm.trans hget
      by_contra hopen
      refine hid (List.mem_map.mpr ⟨row, List.mem_filter.mpr ⟨Table.mem_of_get? hbefore, ?_⟩, rfl⟩)
      simpa using isTerminal_eq_false.mp (Bool.not_eq_true _ ▸ hopen)

end Runs

/-! ### Completed runs, wherever the calls die -/

/-- The same since a run of the job has begun. -/
def runStep (last : Option ExecutorOutcome) : JobAct → Option ExecutorOutcome
  | .committed _ _ .entered => none
  | .finished _ _ outcome => some outcome
  | .loaded _ _ | .committed _ _ _ | .started _ _ => last

/-- The last outcome of the executor in the run that has entered the job last. -/
def runOutcome (acts : List JobAct) : Option ExecutorOutcome := acts.foldl runStep none

@[simp] theorem runOutcome_append (acts : List JobAct) (act : JobAct) :
    runOutcome (acts ++ [act]) = runStep (runOutcome acts) act := by
  simp [runOutcome]

/-- Every result that had to be recorded serialises. -/
def Serialised (acts : List JobAct) : Prop :=
  ∀ worker jobId outcome, JobAct.finished worker jobId outcome ∈ acts → outcome.unencoded = false

theorem Serialised.of_append {acts : List JobAct} {act : JobAct} (h : Serialised (acts ++ [act])) :
    Serialised acts :=
  fun worker jobId outcome hmem => h worker jobId outcome (List.mem_append_left _ hmem)

/-- A job that a run has completed is as the last outcome of that run says. -/
def Settled (v : JobView) : Prop :=
  ∀ row, v.row = some row → row.status.isTerminal = true → row.status ≠ .cancelled →
    row.status = settledStatus (runOutcome v.acts) ∧
      (row.status = .timedOut → row.maxRetries + 1 ≤ row.attemptCount)

/-- The row is as a session has saved it last. -/
structure SavedAs (v : JobView) (status : JobStatus) (attemptCount maxRetries : Int) : Prop where
  row : ∃ row, v.row = some row ∧ row.status = status ∧ row.attemptCount = attemptCount ∧
    row.maxRetries = maxRetries

theorem SavedAs.acts {v : JobView} {status : JobStatus} {attemptCount maxRetries : Int}
    (h : SavedAs v status attemptCount maxRetries) (acts : List JobAct) :
    SavedAs ⟨v.row, acts⟩ status attemptCount maxRetries := ⟨h.row⟩

theorem netChange_self {α : Type} [DecidableEq α] (a b : α) : netChange a b a = b := by
  unfold netChange
  split
  · next h => exact h.symm
  · rfl

/-- A commit saves what the session holds. -/
theorem SavedAs.commit {v : JobView} {saved : ExecutionJob}
    (h : SavedAs v saved.status saved.attemptCount saved.maxRetries) (job : ExecutionJob)
    (acts : List JobAct) : SavedAs ⟨v.row.map (mergeJob saved job), acts⟩ job.status
      job.attemptCount saved.maxRetries := by
  obtain ⟨row, hrow, hstatus, hcount, hmax⟩ := h.row
  refine ⟨mergeJob saved job row, by rw [hrow]; rfl, ?_, ?_, hmax⟩
  · show netChange saved.status job.status row.status = job.status
    rw [hstatus, netChange_self]
  · show netChange saved.attemptCount job.attemptCount row.attemptCount = job.attemptCount
    rw [hcount, netChange_self]

theorem SavedAs.open {v : JobView} {status : JobStatus} {attemptCount maxRetries : Int}
    (h : SavedAs v status attemptCount maxRetries) (hopen : status.isTerminal = false) :
    Settled v := by
  intro row hrow hterminal
  obtain ⟨row', hrow', rfl, -⟩ := h.row
  rw [Option.some.inj (hrow.symm.trans hrow'), hopen] at hterminal
  cases hterminal

/-- What a call knows of the job at its position. -/
def Settling (v : JobView) : Position → Prop
  | .idle => Settled v
  | .opened job => SavedAs v job.status job.attemptCount job.maxRetries ∧
      job.status.isTerminal = false
  | .looping saved job => job = saved ∧ SavedAs v .running saved.attemptCount saved.maxRetries ∧
      saved.status = .running ∧
      (job.attemptCount < job.maxRetries + 1 ∨ settledStatus (runOutcome v.acts) = .deadLetter)
  | .starting job | .calling job => SavedAs v .running job.attemptCount job.maxRetries ∧
      job.status = .running
  | .completing saved job => SavedAs v .running saved.attemptCount saved.maxRetries ∧
      saved.status = .running ∧ job.status = settledStatus (runOutcome v.acts) ∧
      (job.status = .timedOut → saved.maxRetries + 1 ≤ saved.attemptCount)

/-- A call that dies, at whatever position, leaves nothing unsettled. -/
theorem Settling.dies {v : JobView} {h : Position} (hsettling : Settling v h) : Settled v := by
  cases h with
  | idle => exact hsettling
  | opened job => exact hsettling.1.open hsettling.2
  | looping saved job => exact hsettling.2.1.open rfl
  | starting job | calling job => exact hsettling.1.open rfl
  | completing saved job => exact hsettling.1.open rfl

theorem Settling.commit {v : JobView} {kind : CommitKind} {h h' : Position}
    {saved job : ExecutionJob} (hsettling : Settling v h) (hcommits : Commits kind h saved job h')
    (worker : Nat) (jobId : String) :
    Settling ⟨v.row.map (mergeJob saved job), v.acts ++ [.committed worker jobId kind]⟩ h' := by
  cases hcommits with
  | entered hstatus hcount hmax =>
      have hsaved := hsettling.1.commit job (v.acts ++ [.committed worker jobId .entered])
      rw [hstatus, ← hmax] at hsaved
      refine ⟨rfl, hsaved, hstatus, .inr ?_⟩
      rw [runOutcome_append]
      rfl
  | cancelled hstatus hcount =>
      have hsaved := hsettling.1.commit job (v.acts ++ [.committed worker jobId .cancelled])
      intro row hrow _ hnot
      obtain ⟨row', hrow', hrowStatus, -⟩ := hsaved.row
      rw [Option.some.inj (hrow.symm.trans hrow'), hrowStatus, hstatus] at hnot
      exact absurd rfl hnot
  | attempted hleft hstatus hcount hmax =>
      obtain ⟨rfl, hrow, hrunning, -⟩ := hsettling
      rw [← hrunning] at hrow
      have hsaved := hrow.commit job (v.acts ++ [.committed worker jobId .attempted])
      rw [hstatus, hrunning, ← hmax] at hsaved
      exact ⟨hsaved, hstatus.trans hrunning⟩
  | completed hstatus hcount =>
      obtain ⟨hrow, hrunning, hsettled, htimedOut⟩ := hsettling
      rw [← hrunning] at hrow
      have hsaved := hrow.commit job (v.acts ++ [.committed worker jobId .completed])
      intro row hrow' _ _
      obtain ⟨row', hrow'', hrowStatus, hrowCount, hrowMax⟩ := hsaved.row
      obtain rfl := Option.some.inj (hrow'.symm.trans hrow'')
      rw [runOutcome_append, hrowStatus, hrowCount, hrowMax, hcount]
      exact ⟨hsettled, htimedOut⟩
  | deadLettered hstatus hcount hexhausted =>
      obtain ⟨rfl, hrow, hrunning, hlast⟩ := hsettling
      rw [← hrunning] at hrow
      have hsaved := hrow.commit job (v.acts ++ [.committed worker jobId .deadLettered])
      intro row hrow' _ _
      obtain ⟨row', hrow'', hrowStatus, -⟩ := hsaved.row
      obtain rfl := Option.some.inj (hrow'.symm.trans hrow'')
      rw [runOutcome_append, hrowStatus, hstatus]
      refine ⟨(hlast.resolve_left (by omega)).symm, fun h => by cases h⟩

theorem Settling.move {jobId : String} {h h' : Position} {v v' : JobView}
    (hsettling : Serialised v.acts → Settling v h) (hmove : Move jobId 0 h v h' v')
    (hserialised : Serialised v'.acts) : Settling v' h' := by
  cases hmove with
  | stays => exact hsettling hserialised
  | drops hcommits => exact (hsettling hserialised).dies
  | created hrow hstatus =>
      intro row hnew hterminal
      rw [← Option.some.inj hnew, hstatus] at hterminal
      cases hterminal
  | loaded =>
      intro row hrow hterminal hnot
      rw [runOutcome_append]
      exact hsettling hserialised.of_append row hrow hterminal hnot
  | opened hrow hopen => exact ⟨⟨_, hrow, rfl, rfl, rfl⟩, hopen⟩
  | commits hcommits => exact (hsettling hserialised.of_append).commit hcommits 0 jobId
  | starts job =>
      obtain ⟨hrow, hrunning⟩ := hsettling hserialised.of_append
      exact ⟨hrow.acts _, hrunning⟩
  | finishes completedAt job outcome =>
      obtain ⟨hrow, hrunning⟩ := hsettling hserialised.of_append
      have hencoded : outcome.unencoded = false :=
        hserialised 0 jobId outcome (List.mem_append_right _ (List.mem_singleton_self _))
      have hlast : runOutcome (v.acts ++ [.finished 0 jobId outcome]) = some outcome := by
        rw [runOutcome_append]
        rfl
      unfold settled
      cases hverdict : verdict completedAt job outcome with
      | complete completed =>
          obtain ⟨hstatus, -, htimedOut⟩ := verdict_settled hverdict
          refine ⟨hrow.acts _, hrunning, ?_, htimedOut⟩
          rw [hlast]
          exact hstatus
      | again held lastError =>
          obtain rfl := (verdict_again hverdict).2.2.2 hencoded
          refine ⟨rfl, hrow.acts _, hrunning, ?_⟩
          rw [hlast]
          by_cases hexhausted : held.attemptCount ≥ held.maxRetries + 1
          · exact .inr (verdict_exhausted hverdict hencoded hexhausted)
          · exact .inl (by omega)

/-- **A completed run stands as its last outcome says, wherever the calls die.** -/
theorem work_settled (jobId : String) (turns : List Turn)
    (hserialised : Serialised (jobView jobId (work turns)).acts) :
    Settled (jobView jobId (work turns)) := by
  refine Runs.foldl_keeps (I := fun w =>
    Serialised (jobView jobId w).acts → Settled (jobView jobId w)) ?_ turns ?_ hserialised
  · intro w turn hw
    obtain ⟨h, hsettling⟩ := Prog.Plays.cut
      (I := fun h v => Serialised v.acts → Settling v h)
      (fun _ _ _ _ hI hmove hserialised => Settling.move hI hmove hserialised)
      turn.windows (plays_body turn.call) hw
    exact fun hserialised => (hsettling hserialised).dies
  · intro _ row hrow
    cases hrow

/-! ### Any number of turns -/

/-- No turn changes a terminal job or calls the executor for it. -/
theorem turn_terminal {w : JobStore} {jobId : String} {row : ExecutionJob}
    (hrow : w.jobs.get? jobId = some row) (hterminal : row.status.isTerminal = true)
    (turn : Turn) : (turn.play w).jobs.get? jobId = some row ∧
      starts (jobView jobId (turn.play w)).acts = starts (jobView jobId w).acts := by
  let I (h : Position) (v : JobView) : Prop :=
    h = .idle ∧ v.row = some row ∧ starts v.acts = starts (jobView jobId w).acts
  have hmove : ∀ h v h' v', I h v → Move jobId 0 h v h' v' → I h' v' := by
    rintro h v h' v' ⟨rfl, hsome, hstarts⟩ hmove
    cases hmove with
    | stays => exact ⟨rfl, hsome, hstarts⟩
    | drops hcommits => cases hcommits
    | commits hcommits => cases hcommits
    | loaded => exact ⟨rfl, hsome, by simpa [JobAct.isStart] using hstarts⟩
    | created hnone =>
        rw [hsome] at hnone
        cases hnone
    | opened hsome' hopen =>
        obtain rfl := Option.some.inj (hsome.symm.trans hsome')
        rw [hterminal] at hopen
        cases hopen
  obtain ⟨h, -, hafter, hstarts⟩ := Prog.Plays.cut (I := I) hmove turn.windows
    (plays_body turn.call) ⟨rfl, hrow, rfl⟩
  exact ⟨hafter, hstarts⟩

/-- **What one worker makes of its jobs.** -/
structure Dependable (w : JobStore) : Prop where
  /-- The executor is called at most once more than there are retries. -/
  bounded : ∀ row ∈ w.jobs.rows,
    (starts (jobView row.jobId w).acts : Int) ≤ max 0 (row.maxRetries + 1)
  /-- A run of an open job completes it, or raises what nobody catches. -/
  runs : ∀ plan, plan.Serialises → ∀ job ∈ w.jobs.rows, job.status.isTerminal = false →
    ∃ r t, (runJob 0 plan job.jobId).alone w = some (r, t) ∧
      Ends job.jobId (jobView job.jobId w).acts w r t
  /-- A terminal job is returned as it is. -/
  returned : ∀ plan, ∀ row ∈ w.jobs.rows, row.status.isTerminal = true →
    (runJob 0 plan row.jobId).alone w = some (.ok (jobResult row),
      { w with history := w.history ++ [.loaded 0 row.jobId] })
  /-- Nothing changes a terminal job, or calls the executor for it. -/
  unchanged : ∀ row ∈ w.jobs.rows, row.status.isTerminal = true → ∀ turn : Turn,
    (turn.play w).jobs.get? row.jobId = some row ∧
      starts (jobView row.jobId (turn.play w)).acts = starts (jobView row.jobId w).acts
  /-- A job that a run has completed is as the last outcome of that run says, also where the run was
  part of a recovery that died or raised afterwards. -/
  settled : ∀ row ∈ w.jobs.rows, Serialised (jobView row.jobId w).acts →
    row.status.isTerminal = true → row.status ≠ .cancelled →
    row.status = settledStatus (runOutcome (jobView row.jobId w).acts) ∧
      (row.status = .timedOut → row.maxRetries + 1 ≤ row.attemptCount)
  /-- A recovery that returns has completed a run of every open job, and none is left. -/
  recovers : ∀ plan, (∀ id, (plan id).Serialises) →
    ∃ r t, (recoverPendingJobs 0 plan).alone w = some (r, t) ∧
      ∀ n, r = .ok n → (∀ job ∈ w.openJobs, Recovered w t job.jobId) ∧
        ∀ row ∈ t.jobs.rows, row.status.isTerminal = true

theorem runJob_alone (plan : RunPlan) (id : String) (w : JobStore) : (runJob 0 plan id).alone w
    = ((match w.jobs.get? id with
      | none => Prog.raise (.notFound id)
      | some job => runLoaded 0 plan job) : Worker JobResult).alone
        { w with history := w.history ++ [.loaded 0 id] } :=
  rfl

/-- **After any turns, wherever the calls have died, the worker is dependable.** -/
theorem work_dependable (turns : List Turn) : Dependable (work turns) where
  bounded := by
    intro row hrow
    have hcounted := (work_alone row.jobId turns).counted.row
    have hsome : (jobView row.jobId (work turns)).row = some row := Table.get?_of_mem hrow
    rw [hsome] at hcounted
    exact Int.le_trans hcounted.1 hcounted.2
  runs := by
    intro plan hserialises job hjob hopen
    exact (ensures_runJob hserialises (Table.get?_of_mem hjob) hopen).alone_eq
  returned := by
    intro plan row hrow hterminal
    have hget : (work turns).jobs.get? row.jobId = some row := Table.get?_of_mem hrow
    have hloaded : runLoaded 0 plan row = .ret (jobResult row) := by
      unfold runLoaded
      rw [if_pos hterminal]
      rfl
    rw [runJob_alone, hget]
    show (runLoaded 0 plan row).alone _ = _
    rw [hloaded]
    rfl
  unchanged := by
    intro row hrow hterminal turn
    exact turn_terminal (Table.get?_of_mem hrow) hterminal turn
  settled := by
    intro row hrow hserialised
    exact work_settled row.jobId turns hserialised row (Table.get?_of_mem hrow)
  recovers := by
    intro plan hserialises
    exact (ensures_recover hserialises (work turns)).alone_eq

end ControlPlane.ExecutionWorker
