/-
A success that cannot be recorded.

The call of the executor and the recording of its result are in one `try`: a success whose
result does not encode is taken for a failed attempt, with the status in memory set.  Then the
executor is called again, or the job is dead-lettered, unless the next commit does not get
through.  Nothing else follows a success: `successIsFinal_iff`.
-/
import ControlPlane.Proofs.JobRuns

namespace ControlPlane.ExecutionWorker

/-! ### What should follow a success -/

/-- The executor has reported success. -/
def ExecutorOutcome.isSuccess : ExecutorOutcome → Bool
  | .returned result => result.succeeded
  | .raised _ _ => false

/-- An executor call reports success. -/
def JobAct.isSuccess : JobAct → Bool
  | .finished _ _ outcome => outcome.isSuccess
  | .loaded _ _ | .committed _ _ _ | .started _ _ => false

/-- What a run has done, returned and left as status. -/
structure SuccessIsFinal (acts : List JobAct) (r : Except WorkerError JobResult)
    (status : Option JobStatus) : Prop where
  notAgain : acts.Pairwise fun a b => a.isSuccess = true → b.isStart = false
  notReported : (∃ a ∈ acts, a.isSuccess = true) →
    ∀ id reason, r ≠ .error (.deadLettered id reason)
  notPersisted : (∃ a ∈ acts, a.isSuccess = true) → status ≠ some .deadLetter

/-- The run of `jobId` that has the store to itself, from `w`. -/
def RunKeepsSuccess (plan : RunPlan) (jobId : String) (w : JobStore) : Prop :=
  ∃ r t, (runJob 0 plan jobId).alone w = some (r, t) ∧
    SuccessIsFinal ((jobView jobId t).acts.drop (jobView jobId w).acts.length) r
      ((jobView jobId t).row.map (·.status))

/-! ### When it does -/

/-- A success that cannot be recorded. -/
def ExecutorOutcome.isLost (outcome : ExecutorOutcome) : Bool :=
  outcome.isSuccess && outcome.unencoded

/-- Whether an outcome is followed by another attempt, while there is one left. -/
def ExecutorOutcome.isRetried : ExecutorOutcome → Bool
  | .raised _ _ => true
  | .returned result =>
      (ExecutorOutcome.returned result).unencoded ||
        !(result.succeeded || result.state = some "failed")

section Conditions

variable (plan : RunPlan) (maxRetries : Int)

/-- The run makes attempt `n`, when it has made `first` before. -/
structure Reaches (first n : Int) : Prop where
  later : first < n
  allowed : n ≤ maxRetries + 1
  commits : ∀ k, first < k → k ≤ n → plan.attempting k = .committed
  goesOn : ∀ k, first < k → k < n → (plan.executor k).isRetried = true ∧ backoffOverflows k = false

/-- What keeps a run from doing more after attempt `n`. -/
def StopsAfter (n : Int) : Prop :=
  if n < maxRetries + 1 then backoffOverflows n = true ∨ plan.attempting (n + 1) ≠ .committed
  else plan.deadLettering = .raised false

/-- After every attempt whose success is lost the run stops. -/
def StopsWhenLost (first : Int) : Prop :=
  ∀ n, Reaches plan maxRetries first n → (plan.executor n).isLost = true →
    StopsAfter plan maxRetries n

end Conditions

/-- The condition on a run of a job. -/
def RunPlan.RecordsSuccess (plan : RunPlan) (job : ExecutionJob) : Prop :=
  plan.entering = .committed → StopsWhenLost plan job.maxRetries job.attemptCount

/-! ### Attempts -/

section Attempts

variable {plan : RunPlan} {maxRetries first : Int}

/-- No attempt is left. -/
theorem stopsWhenLost_of_exhausted (h : maxRetries + 1 ≤ first) :
    StopsWhenLost plan maxRetries first := by
  intro n hreaches
  have := hreaches.later
  have := hreaches.allowed
  omega

/-- The next attempt does not get through. -/
theorem stopsWhenLost_of_uncommitted (h : plan.attempting (first + 1) ≠ .committed) :
    StopsWhenLost plan maxRetries first := by
  intro n hreaches
  have hlater := hreaches.later
  exact absurd (hreaches.commits (first + 1) (by omega) (by omega)) h

/-- The next attempt is the last one. -/
theorem stopsWhenLost_of_last (hcommitted : plan.attempting (first + 1) = .committed)
    (hmore : first < maxRetries + 1)
    (hlast : first + 1 < maxRetries + 1 → (plan.executor (first + 1)).isRetried = true →
      backoffOverflows (first + 1) = true) :
    StopsWhenLost plan maxRetries first ↔
      ((plan.executor (first + 1)).isLost = true → StopsAfter plan maxRetries (first + 1)) := by
  constructor
  · intro h hlost
    refine h (first + 1) ⟨by omega, by omega, fun k hk hk' => ?_, fun k hk hk' => ?_⟩ hlost
    · obtain rfl : k = first + 1 := by omega
      exact hcommitted
    · omega
  · intro h n hreaches hlost
    have hlater := hreaches.later
    have hallowed := hreaches.allowed
    by_cases hn : n = first + 1
    · subst hn
      exact h hlost
    · obtain ⟨hretried, hwaits⟩ := hreaches.goesOn (first + 1) (by omega) (by omega)
      rw [hlast (by omega) hretried] at hwaits
      cases hwaits

/-- The next attempt is followed by others. -/
theorem stopsWhenLost_of_more (hcommitted : plan.attempting (first + 1) = .committed)
    (hmore : first + 1 < maxRetries + 1) (hretried : (plan.executor (first + 1)).isRetried = true)
    (hwaits : backoffOverflows (first + 1) = false) :
    StopsWhenLost plan maxRetries first ↔
      ((plan.executor (first + 1)).isLost = true → plan.attempting (first + 1 + 1) ≠ .committed) ∧
        StopsWhenLost plan maxRetries (first + 1) := by
  have hfirst : Reaches plan maxRetries first (first + 1) := by
    refine ⟨by omega, by omega, fun k hk hk' => ?_, fun k hk hk' => by omega⟩
    obtain rfl : k = first + 1 := by omega
    exact hcommitted
  have hstops : StopsAfter plan maxRetries (first + 1) ↔
      plan.attempting (first + 1 + 1) ≠ .committed := by
    unfold StopsAfter
    rw [if_pos hmore, hwaits]
    simp
  constructor
  · intro h
    refine ⟨fun hlost => hstops.mp (h _ hfirst hlost), fun n hreaches hlost => ?_⟩
    have hlater := hreaches.later
    refine h n ⟨by omega, hreaches.allowed, fun k hk hk' => ?_, fun k hk hk' => ?_⟩ hlost
    · by_cases hnext : k = first + 1
      · rw [hnext]
        exact hcommitted
      · exact hreaches.commits k (by omega) hk'
    · by_cases hnext : k = first + 1
      · rw [hnext]
        exact ⟨hretried, hwaits⟩
      · exact hreaches.goesOn k (by omega) hk'
  · rintro ⟨hlostFirst, hrest⟩ n hreaches hlost
    have hlater := hreaches.later
    by_cases hn : n = first + 1
    · subst hn
      exact hstops.mpr (hlostFirst hlost)
    · refine hrest n ⟨by omega, hreaches.allowed, fun k hk hk' => ?_, fun k hk hk' => ?_⟩ hlost
      · exact hreaches.commits k (by omega) hk'
      · exact hreaches.goesOn k (by omega) hk'

end Attempts

/-! ### Outcomes -/

/-- What is recorded was encoded, and is not tried again while there are attempts left. -/
theorem verdict_complete_encoded {completedAt : Time} {job completed : ExecutionJob}
    {outcome : ExecutorOutcome} (h : verdict completedAt job outcome = .complete completed) :
    outcome.unencoded = false ∧
      (job.attemptCount < job.maxRetries + 1 → outcome.isRetried = false) := by
  cases outcome with
  | raised typeName message => cases h
  | returned result =>
      simp only [verdict] at h
      simp only [ExecutorOutcome.unencoded, ExecutorOutcome.isRetried]
      split at h
      case isTrue hsucceeded =>
        split at h
        · cases h
        case h_2 hencoded => simp [hencoded, hsucceeded]
      case isFalse hsucceeded =>
        split at h
        case isTrue hunknown =>
          split at h
          case isTrue hexhausted =>
            refine ⟨?_, fun hmore => by omega⟩
            cases result.encoded <;> simp [hsucceeded, hunknown]
          case isFalse => cases h
        case isFalse hunknown =>
          split at h
          case isTrue hfailed =>
            split at h
            · cases h
            case h_2 hencoded => simp [hencoded, hfailed]
          case isFalse => cases h

theorem verdict_again_retried {completedAt : Time} {job held : ExecutionJob} {lastError : Json}
    {outcome : ExecutorOutcome} (h : verdict completedAt job outcome = .again held lastError) :
    outcome.isRetried = true ∧ (held.status = job.status ∨ held.status = .succeeded ∨
      held.status = .failed) ∧ (outcome.isSuccess = true → outcome.unencoded = true) := by
  cases outcome with
  | raised typeName message =>
      cases h
      exact ⟨rfl, .inl rfl, nofun⟩
  | returned result =>
      simp only [verdict] at h
      simp only [ExecutorOutcome.unencoded, ExecutorOutcome.isRetried, ExecutorOutcome.isSuccess]
      split at h
      case isTrue hsucceeded =>
        split at h
        case h_1 hencoded =>
          cases h
          simp [hencoded, hsucceeded]
        case h_2 => cases h
      case isFalse hsucceeded =>
        split at h
        case isTrue hunknown =>
          split at h
          · cases h
          · cases h
            simp [hsucceeded, hunknown]
        case isFalse hunknown =>
          split at h
          case isTrue hfailed =>
            split at h
            case h_1 hencoded =>
              cases h
              simp [hencoded, hfailed, hsucceeded]
            case h_2 => cases h
          case isFalse hfailed =>
            cases h
            simp [hsucceeded, hfailed]

/-! ### Histories -/

section Histories

variable {acts tail : List JobAct} {r : Except WorkerError JobResult} {status : Option JobStatus}

/-- Nothing has succeeded. -/
theorem successIsFinal_of_none (h : ∀ a ∈ acts, a.isSuccess = false) :
    SuccessIsFinal acts r status := by
  have hnone : ¬ ∃ a ∈ acts, a.isSuccess = true := by
    rintro ⟨a, ha, hsuccess⟩
    rw [h a ha] at hsuccess
    cases hsuccess
  refine ⟨List.pairwise_of_forall_mem_list ?_, fun hsome => absurd hsome hnone,
    fun hsome => absurd hsome hnone⟩
  intro a ha b _ hsuccess
  exact absurd ⟨a, ha, hsuccess⟩ hnone

/-- After the last outcome nothing is called, and the job is not dead. -/
theorem successIsFinal_of_tail (act : JobAct) (h : ∀ a ∈ acts, a.isSuccess = false)
    (htail : ∀ b ∈ tail, b.isStart = false) (hr : ∀ id reason, r ≠ .error (.deadLettered id reason))
    (hstatus : status ≠ some .deadLetter) : SuccessIsFinal (acts ++ act :: tail) r status := by
  refine ⟨?_, fun _ => hr, fun _ => hstatus⟩
  refine List.pairwise_append.mpr ⟨?_, ?_, ?_⟩
  · have hquiet : SuccessIsFinal acts r status := successIsFinal_of_none h
    exact hquiet.notAgain
  · refine List.pairwise_cons.mpr ⟨fun b hb _ => htail b hb, ?_⟩
    exact List.pairwise_of_forall_mem_list fun _ _ b hb _ => htail b hb
  · intro a ha b _ hsuccess
    rw [h a ha] at hsuccess
    cases hsuccess

end Histories

/-! ### The loop -/

section Loop

variable {worker : Nat} {plan : RunPlan} {old : List JobAct}

/-- What a run has done by its end, when it had done `acts` after `first` attempts. -/
structure Judged (id : String) (old acts more : List JobAct) (plan : RunPlan)
    (maxRetries first : Int) (r : Except WorkerError JobResult) (t : JobStore) : Prop where
  history : (jobView id t).acts = old ++ (acts ++ more)
  starts : first < maxRetries + 1 → plan.attempting (first + 1) = .committed →
    ∃ b ∈ more, b.isStart = true
  quiet : first < maxRetries + 1 → plan.attempting (first + 1) ≠ .committed →
    (∀ b ∈ more, b.isStart = false) ∧ (∀ id reason, r ≠ .error (.deadLettered id reason)) ∧
      (jobView id t).row.map (·.status) ≠ some .deadLetter
  final : (∀ a ∈ acts, a.isSuccess = false) →
    (SuccessIsFinal (acts ++ more) r ((jobView id t).row.map (·.status)) ↔
      StopsWhenLost plan maxRetries first)

/-- The end of a run that dead-letters its job. -/
theorem ensures_exhausted {saved job : ExecutionJob} {acts : List JobAct} {lastError : Json}
    {w : JobStore} (hview : jobView saved.jobId w = ⟨some saved, acts⟩)
    (hfixed : job.fixed = saved.fixed) (halive : saved.status ≠ .deadLetter) :
    Prog.Ensures (fun r t => ∃ more, (jobView saved.jobId t).acts = acts ++ more ∧
        (∀ b ∈ more, b.isStart = false ∧ b.isSuccess = false) ∧
        (((∀ id reason, r ≠ .error (.deadLettered id reason)) ∧
            (jobView saved.jobId t).row.map (·.status) ≠ some .deadLetter) ↔
          plan.deadLettering = .raised false))
      (exhaust worker plan saved job lastError) w := by
  refine ensures_commit (congrArg JobView.row hview) hfixed (fun t ht _ => ?_) fun hlost => ?_
  · have hacts : (jobView saved.jobId t).acts =
        acts ++ [.committed worker saved.jobId .deadLettered] := by rw [ht, hview]
    have hstatus : (jobView saved.jobId t).row.map (·.status) = some .deadLetter := by
      rw [ht]
      rfl
    split
    case isTrue hcommitted =>
      refine ⟨_, hacts, by simp [JobAct.isStart, JobAct.isSuccess], iff_of_false ?_ ?_⟩
      · rintro ⟨hr, -⟩
        exact hr _ _ rfl
      · rw [hcommitted]
        exact fun h => by cases h
    case isFalse =>
      intro hraised
      refine ⟨_, hacts, by simp [JobAct.isStart, JobAct.isSuccess], iff_of_false ?_ ?_⟩
      · rintro ⟨-, hrow⟩
        exact hrow hstatus
      · rw [hraised]
        exact fun h => by cases h
  · refine ⟨[], by rw [hview, List.append_nil], by simp, iff_of_true ⟨?_, ?_⟩ hlost⟩
    · exact fun _ _ h => by cases h
    rw [hview]
    simpa using halive

/-- An attempt that does not get through. -/
theorem judged_uncommitted {id : String} {acts more : List JobAct} {maxRetries first : Int}
    {t : JobStore} (hacts : (jobView id t).acts = old ++ (acts ++ more))
    (huncommitted : plan.attempting (first + 1) ≠ .committed)
    (hmore : ∀ b ∈ more, b.isStart = false ∧ b.isSuccess = false)
    (halive : (jobView id t).row.map (·.status) ≠ some .deadLetter) :
    Judged id old acts more plan maxRetries first (.error .unhandled) t where
  history := hacts
  starts := fun _ hcommitted => absurd hcommitted huncommitted
  quiet := fun _ _ => ⟨fun b hb => (hmore b hb).1, nofun, halive⟩
  final := by
    intro hnone
    refine iff_of_true (successIsFinal_of_none fun a ha => ?_)
      (stopsWhenLost_of_uncommitted huncommitted)
    rcases List.mem_append.mp ha with ha | ha
    · exact hnone a ha
    · exact (hmore a ha).2

/-- The acts of an attempt, before what follows its call of the executor. -/
theorem attempt_unsuccessful {acts rest : List JobAct} {act started : JobAct}
    (hnone : ∀ a ∈ acts, a.isSuccess = false)
    (hquiet : act.isSuccess = false ∧ started.isSuccess = false)
    (hrest : ∀ a ∈ rest, a.isSuccess = false) :
    ∀ a ∈ acts ++ act :: started :: rest, a.isSuccess = false :=
  List.forall_mem_append.mpr ⟨hnone, List.forall_mem_cons.mpr
    ⟨hquiet.1, List.forall_mem_cons.mpr ⟨hquiet.2, hrest⟩⟩⟩

/-- An attempt whose outcome is the last of the run, which has not dead-lettered the job. -/
theorem judged_last {id : String} {acts tail : List JobAct} {committed started finished : JobAct}
    {maxRetries first : Int} {r : Except WorkerError JobResult} {t : JobStore}
    (hacts : (jobView id t).acts = old ++ (acts ++ committed :: started :: finished :: tail))
    (hcommitted : plan.attempting (first + 1) = .committed)
    (hstart : started.isStart = true)
    (hquiet : committed.isSuccess = false ∧ started.isSuccess = false)
    (htail : ∀ b ∈ tail, b.isStart = false) (hr : ∀ id reason, r ≠ .error (.deadLettered id reason))
    (halive : (jobView id t).row.map (·.status) ≠ some .deadLetter)
    (hstops : StopsWhenLost plan maxRetries first) :
    Judged id old acts (committed :: started :: finished :: tail) plan maxRetries first r t where
  history := hacts
  starts := fun _ _ => ⟨started, by simp, hstart⟩
  quiet := fun _ huncommitted => absurd hcommitted huncommitted
  final := by
    intro hnone
    refine iff_of_true ?_ hstops
    have hbefore := attempt_unsuccessful hnone hquiet (List.forall_mem_nil _)
    have hfinal := successIsFinal_of_tail finished hbefore htail hr halive
    simpa using hfinal

/-- The commit of a recorded outcome. -/
theorem ensures_recorded {attempted completed : ExecutionJob} {acts : List JobAct}
    {act started finished : JobAct} {outcome : CommitOutcome} {maxRetries first : Int}
    {w : JobStore}
    (hview : jobView attempted.jobId w =
      ⟨some attempted, old ++ (acts ++ [act, started, finished])⟩)
    (hcommitted : plan.attempting (first + 1) = .committed) (hstart : started.isStart = true)
    (hquiet : act.isSuccess = false ∧ started.isSuccess = false)
    (hfixed : completed.fixed = attempted.fixed) (hattempted : attempted.status ≠ .deadLetter)
    (hcompleted : completed.status ≠ .deadLetter) (hstops : StopsWhenLost plan maxRetries first) :
    Prog.Ensures (fun r t => ∃ more,
        Judged attempted.jobId old acts more plan maxRetries first r t)
      (commitJob worker .completed outcome attempted completed >>= fun _ =>
        Prog.ret (jobResult completed)) w := by
  refine ensures_commit (congrArg JobView.row hview) hfixed (fun t ht _ => ?_) fun _ => ?_
  · have hhistory : (jobView attempted.jobId t).acts = old ++ (acts ++ act :: started :: finished ::
        [.committed worker attempted.jobId .completed]) := by
      rw [ht, hview]
      simp
    have halive : (jobView attempted.jobId t).row.map (·.status) ≠ some .deadLetter := by
      rw [ht]
      simpa using hcompleted
    split
    · exact ⟨_, judged_last hhistory hcommitted hstart hquiet (by simp [JobAct.isStart])
        (fun _ _ h => by cases h) halive hstops⟩
    · exact fun _ => ⟨_, judged_last hhistory hcommitted hstart hquiet (by simp [JobAct.isStart])
        (fun _ _ h => by cases h) halive hstops⟩
  · refine ⟨_, judged_last (congrArg JobView.acts hview) hcommitted hstart hquiet (by simp)
      (fun _ _ h => by cases h) ?_ hstops⟩
    rw [hview]
    simpa using hattempted

section Retried

variable {attempted held : ExecutionJob} {acts : List JobAct} {act started : JobAct}
  {outcome : ExecutorOutcome} {maxRetries first : Int} {w : JobStore}

/-- The outcome of the last attempt was not recorded. -/
theorem ensures_unrecorded {id : String} {lastError : Json}
    (hview : jobView attempted.jobId w =
      ⟨some attempted, old ++ (acts ++ [act, started, .finished worker id outcome])⟩)
    (hcommitted : plan.attempting (first + 1) = .committed) (hstart : started.isStart = true)
    (hquiet : act.isSuccess = false ∧ started.isSuccess = false)
    (hfixed : held.fixed = attempted.fixed) (halive : attempted.status ≠ .deadLetter)
    (hmore : first < maxRetries + 1) (hlast : ¬ first + 1 < maxRetries + 1)
    (houtcome : plan.executor (first + 1) = outcome)
    (hlostOf : outcome.isSuccess = true → outcome.unencoded = true) :
    Prog.Ensures (fun r t => ∃ more,
        Judged attempted.jobId old acts more plan maxRetries first r t)
      (exhaust worker plan attempted held lastError) w := by
  refine Prog.Ensures.mono ?_ (ensures_exhausted hview hfixed halive)
  rintro r t ⟨tail, hacts, htail, hdead⟩
  refine ⟨act :: started :: .finished worker id outcome :: tail, ?_, fun _ _ => ⟨started, by simp,
    hstart⟩, fun _ huncommitted => absurd hcommitted huncommitted, fun hnone => ?_⟩
  · rw [hacts]
    simp
  rw [stopsWhenLost_of_last hcommitted hmore fun hnext => absurd hnext hlast, houtcome]
  have hbefore := attempt_unsuccessful hnone hquiet (List.forall_mem_nil _)
  cases hsuccess : outcome.isSuccess with
  | false =>
      refine iff_of_true (successIsFinal_of_none (attempt_unsuccessful hnone hquiet ?_))
        fun hlost => ?_
      · exact List.forall_mem_cons.mpr ⟨hsuccess, fun b hb => (htail b hb).2⟩
      · simp [ExecutorOutcome.isLost, hsuccess] at hlost
  | true =>
      have hlost : outcome.isLost = true := by simp [ExecutorOutcome.isLost, hsuccess, hlostOf hsuccess]
      unfold StopsAfter
      rw [if_neg hlast, ← hdead]
      constructor
      · intro hfinal _
        have hsome : ∃ a ∈ acts ++ act :: started :: .finished worker id outcome :: tail,
            a.isSuccess = true := ⟨.finished worker id outcome, by simp, hsuccess⟩
        exact ⟨hfinal.notReported hsome, hfinal.notPersisted hsome⟩
      · intro hstops
        obtain ⟨hr, hstatus⟩ := hstops hlost
        have hfinal := successIsFinal_of_tail (.finished worker id outcome) hbefore
          (fun b hb => (htail b hb).1) hr hstatus
        simpa using hfinal

/-- An attempt that is followed by what another one leads to. -/
theorem Judged.next {id : String} {more : List JobAct} {r : Except WorkerError JobResult}
    {t : JobStore}
    (hjudged : Judged id old (acts ++ [act, started, .finished worker id outcome]) more plan
      maxRetries (first + 1) r t)
    (hcommitted : plan.attempting (first + 1) = .committed) (hstart : started.isStart = true)
    (hquiet : act.isSuccess = false ∧ started.isSuccess = false)
    (hmore : first + 1 < maxRetries + 1) (houtcome : plan.executor (first + 1) = outcome)
    (hretried : outcome.isRetried = true) (hwaits : backoffOverflows (first + 1) = false)
    (hlostOf : outcome.isSuccess = true → outcome.unencoded = true) :
    Judged id old acts (act :: started :: .finished worker id outcome :: more) plan maxRetries
      first r t := by
  refine ⟨?_, fun _ _ => ⟨started, by simp, hstart⟩, fun _ h => absurd hcommitted h,
    fun hnone => ?_⟩
  · rw [hjudged.history]
    simp
  rw [stopsWhenLost_of_more hcommitted hmore (houtcome ▸ hretried) hwaits, houtcome]
  have hlist : acts ++ act :: started :: .finished worker id outcome :: more =
      acts ++ [act, started, .finished worker id outcome] ++ more := by simp
  have hbefore := attempt_unsuccessful hnone hquiet (List.forall_mem_nil _)
  cases hsuccess : outcome.isSuccess with
  | false =>
      have hfinished : (JobAct.finished worker id outcome).isSuccess = false := hsuccess
      have hall := attempt_unsuccessful hnone hquiet
        (List.forall_mem_cons.mpr ⟨hfinished, List.forall_mem_nil _⟩)
      have hnot : outcome.isLost = false := by simp [ExecutorOutcome.isLost, hsuccess]
      rw [hlist, hjudged.final hall, hnot]
      simp
  | true =>
      have hlost : outcome.isLost = true := by
        simp [ExecutorOutcome.isLost, hsuccess, hlostOf hsuccess]
      by_cases hagain : plan.attempting (first + 1 + 1) = .committed
      · -- the executor is called again
        obtain ⟨b, hb, hbegins⟩ := hjudged.starts hmore hagain
        refine iff_of_false (fun hfinal => ?_) fun hstops => hstops.1 hlost hagain
        have htail := (List.pairwise_append.mp hfinal.notAgain).2.1
        have hnever := (List.pairwise_cons.mp (List.pairwise_cons.mp
          (List.pairwise_cons.mp htail).2).2).1 b hb hsuccess
        rw [hbegins] at hnever
        cases hnever
      · obtain ⟨htail, hr, halive⟩ := hjudged.quiet hmore hagain
        refine iff_of_true ?_ ⟨fun _ => hagain, stopsWhenLost_of_uncommitted hagain⟩
        have hfinal := successIsFinal_of_tail (.finished worker id outcome) hbefore htail hr halive
        simpa using hfinal

/-- What follows an outcome that is not recorded: the job is dead-lettered, the backoff
overflows, or the next attempt is made. -/
theorem ensures_again {left : Nat} {lastError : Json}
    (hview : jobView attempted.jobId w =
      ⟨some attempted, old ++ (acts ++ [act, started, .finished worker attempted.jobId outcome])⟩)
    (hverdict : verdict plan.completedAt attempted outcome = .again held lastError)
    (hcommitted : plan.attempting (first + 1) = .committed) (hstart : started.isStart = true)
    (hquiet : act.isSuccess = false ∧ started.isSuccess = false)
    (halive : attempted.status ≠ .deadLetter) (hcount : attempted.attemptCount = first + 1)
    (hmore : first < maxRetries + 1) (houtcome : plan.executor (first + 1) = outcome)
    (hnext : first + 1 < maxRetries + 1 → Prog.Ensures (fun r t => ∃ more,
        Judged attempted.jobId old
          (acts ++ [act, started, .finished worker attempted.jobId outcome]) more plan maxRetries
          (first + 1) r t)
      (attempts worker plan left attempted held lastError) w) :
    Prog.Ensures (fun r t => ∃ more,
        Judged attempted.jobId old acts more plan maxRetries first r t)
      (if attempted.attemptCount ≥ maxRetries + 1 then exhaust worker plan attempted held lastError
        else if backoffOverflows attempted.attemptCount then Prog.raise .unhandled
        else attempts worker plan left attempted held lastError) w := by
  obtain ⟨hretried, -, hlostOf⟩ := verdict_again_retried hverdict
  rw [hcount]
  split
  case isTrue hexhausted =>
    exact ensures_unrecorded hview hcommitted hstart hquiet (verdict_again_fixed hverdict) halive
      hmore (by omega) houtcome hlostOf
  case isFalse hagain =>
    split
    case isTrue hoverflow =>
      have hstops : StopsWhenLost plan maxRetries first := by
        refine (stopsWhenLost_of_last hcommitted hmore fun _ _ => hoverflow).mpr fun _ => ?_
        unfold StopsAfter
        rw [if_pos (by omega)]
        exact .inl hoverflow
      refine ⟨_, judged_last (congrArg JobView.acts hview) hcommitted hstart hquiet (by simp)
        (fun _ _ h => by cases h) ?_ hstops⟩
      rw [hview]
      simpa using halive
    case isFalse hwaits =>
      refine Prog.Ensures.mono ?_ (hnext (by omega))
      rintro r v ⟨more, hjudged⟩
      exact ⟨_, hjudged.next hcommitted hstart hquiet (by omega) houtcome hretried
        (by simpa using hwaits) hlostOf⟩

end Retried

/-- The loop begins with no attempt left. -/
theorem ensures_spent {saved job : ExecutionJob} {acts : List JobAct} {lastError : Json}
    {w : JobStore} (hspent : job.maxRetries + 1 ≤ job.attemptCount) (hfixed : job.fixed = saved.fixed)
    (hview : jobView saved.jobId w = ⟨some saved, old ++ acts⟩)
    (halive : saved.status ≠ .deadLetter) :
    Prog.Ensures (fun r t => ∃ more,
        Judged saved.jobId old acts more plan job.maxRetries job.attemptCount r t)
      (exhaust worker plan saved job lastError) w := by
  refine Prog.Ensures.mono ?_ (ensures_exhausted hview hfixed halive)
  rintro r t ⟨more, hacts, hquiet, -⟩
  refine ⟨more, by rw [hacts, List.append_assoc], fun hmore => by omega, fun hmore => by omega,
    fun hnone => ?_⟩
  refine iff_of_true (successIsFinal_of_none fun a ha => ?_) (stopsWhenLost_of_exhausted hspent)
  rcases List.mem_append.mp ha with ha | ha
  · exact hnone a ha
  · exact (hquiet a ha).2

/-- The loop stops with an outcome that it records. -/
theorem stopsWhenLost_of_complete {attempted completed : ExecutionJob} {outcome : ExecutorOutcome}
    {first : Int} (hverdict : verdict plan.completedAt attempted outcome = .complete completed)
    (hcommitted : plan.attempting (first + 1) = .committed)
    (hmore : first < attempted.maxRetries + 1) (hcount : attempted.attemptCount = first + 1)
    (houtcome : plan.executor (first + 1) = outcome) :
    StopsWhenLost plan attempted.maxRetries first := by
  obtain ⟨hencoded, hretried⟩ := verdict_complete_encoded hverdict
  refine (stopsWhenLost_of_last hcommitted hmore ?_).mpr ?_
  · intro hnext hagain
    rw [houtcome, hretried (by omega)] at hagain
    cases hagain
  · intro hlost
    simp [houtcome, ExecutorOutcome.isLost, hencoded] at hlost

/-- What an outcome leaves when it is not recorded is not dead. -/
theorem verdict_again_alive {completedAt : Time} {job held : ExecutionJob} {lastError : Json}
    {outcome : ExecutorOutcome} (h : verdict completedAt job outcome = .again held lastError)
    (halive : job.status ≠ .deadLetter) : held.status ≠ .deadLetter := by
  obtain ⟨-, hstatus, -⟩ := verdict_again_retried h
  rcases hstatus with hsame | hsame | hsame
  · rw [hsame]
    exact halive
  · simp [hsame]
  · simp [hsame]

/-- **The loop keeps a success exactly if it stops at one that it cannot record.**  By induction
on the attempts that are left. -/
theorem ensures_judged (left : Nat) : ∀ {saved job : ExecutionJob} {acts : List JobAct}
    {lastError : Json} {w : JobStore}, left = job.left → job.fixed = saved.fixed →
      jobView saved.jobId w = ⟨some saved, old ++ acts⟩ → saved.status ≠ .deadLetter →
      job.status ≠ .deadLetter →
      Prog.Ensures (fun r t => ∃ more,
          Judged saved.jobId old acts more plan job.maxRetries job.attemptCount r t)
        (attempts worker plan left saved job lastError) w := by
  induction left with
  | zero =>
      intro saved job acts lastError w hleft hfixed hview halive _
      unfold ExecutionJob.left at hleft
      exact ensures_spent (by omega) hfixed hview halive
  | succ left ih =>
      intro saved job acts lastError w hleft hfixed hview halive hheld
      have hmore : job.attemptCount < job.maxRetries + 1 := by
        unfold ExecutionJob.left at hleft
        omega
      unfold attempts
      have hlost : plan.attempting (job.attemptCount + 1) = .raised false → ∃ more,
          Judged saved.jobId old acts more plan job.maxRetries job.attemptCount
            (.error .unhandled) w := by
        intro hraised
        refine ⟨[], judged_uncommitted (by rw [hview, List.append_nil]) ?_ (by simp) ?_⟩
        · simp [hraised]
        · rw [hview]
          simpa using halive
      refine ensures_commit (congrArg JobView.row hview) hfixed (fun t ht _ => ?_) hlost
      generalize hattempted : ({ job with
        attemptCount := job.attemptCount + 1
        updatedAt := plan.attemptedAt (job.attemptCount + 1) } : ExecutionJob) = attempted at *
      have hstatus : attempted.status ≠ .deadLetter := by
        rw [← hattempted]
        exact hheld
      split
      case isFalse huncommitted =>
        intro _
        refine ⟨[.committed worker saved.jobId .attempted],
          judged_uncommitted ?_ huncommitted (by simp [JobAct.isStart, JobAct.isSuccess]) ?_⟩
        · rw [ht, hview, List.append_assoc]
        · rw [ht]
          simpa using hstatus
      case isTrue hcommitted =>
      have hid : attempted.jobId = saved.jobId := by
        rw [← hattempted]
        show job.fixed.jobId = saved.fixed.jobId
        rw [hfixed]
      have hcount : attempted.attemptCount = job.attemptCount + 1 := by rw [← hattempted]
      have hmax : attempted.maxRetries = job.maxRetries := by rw [← hattempted]
      refine ensures_call fun u hu _ => ?_
      rw [← hid] at ht hview ⊢
      rw [ht, hview] at hu
      have hview' : jobView attempted.jobId u = ⟨some attempted, old ++ (acts ++
          [.committed worker attempted.jobId .attempted, .started worker attempted.jobId,
            .finished worker attempted.jobId (plan.executor attempted.attemptCount)])⟩ := by
        rw [hu]
        simp
      have houtcome : plan.executor (job.attemptCount + 1) =
          plan.executor attempted.attemptCount := by rw [hcount]
      split
      case h_1 completed hverdict =>
        rw [← hmax]
        exact ensures_recorded hview' hcommitted rfl ⟨rfl, rfl⟩ (verdict_fixed hverdict) hstatus
          (verdict_settled hverdict).2.1
          (stopsWhenLost_of_complete hverdict hcommitted (hmax ▸ hmore) hcount houtcome)
      case h_2 held lastError' hverdict =>
        rw [hmax]
        refine ensures_again hview' hverdict hcommitted rfl ⟨rfl, rfl⟩ hstatus hcount hmore houtcome
          fun _ => ?_
        obtain ⟨-, hheldCount, hheldMax, -⟩ := verdict_again hverdict
        have hleft' : left = held.left := by
          unfold ExecutionJob.left at hleft ⊢
          omega
        have hends := @ih attempted held _ lastError' u hleft' (verdict_again_fixed hverdict)
          hview' hstatus (verdict_again_alive hverdict hstatus)
        rw [hheldCount, hheldMax, hcount, hmax] at hends
        rw [hcount]
        exact hends

end Loop

/-! ### The run -/

/-- **A run of an open job keeps its success exactly if it records it.** -/
theorem ensures_runLoaded_success {plan : RunPlan} {old : List JobAct} {job : ExecutionJob}
    {loaded : JobAct} {w : JobStore} (hopen : job.status.isTerminal = false)
    (hloaded : loaded.isSuccess = false)
    (hview : jobView job.jobId w = ⟨some job, old ++ [loaded]⟩) :
    Prog.Ensures (fun r t => ∃ more, (jobView job.jobId t).acts = old ++ more ∧
        (SuccessIsFinal more r ((jobView job.jobId t).row.map (·.status)) ↔
          plan.RecordsSuccess job))
      (runLoaded 0 plan job) w := by
  have halive : job.status ≠ .deadLetter := by
    intro hdead
    rw [hdead] at hopen
    cases hopen
  have hnone : ∀ (more : List JobAct), (∀ a ∈ more, a.isSuccess = false) →
      ∀ {r t}, plan.entering ≠ .committed →
        (SuccessIsFinal more r ((jobView job.jobId t).row.map (·.status)) ↔
          plan.RecordsSuccess job) :=
    fun more hmore _ _ huncommitted =>
      iff_of_true (successIsFinal_of_none hmore) fun hcommitted => absurd hcommitted huncommitted
  unfold runLoaded
  rw [if_neg (by simp [hopen])]
  refine ensures_commit (congrArg JobView.row hview) rfl (fun t ht _ => ?_) fun hlost => ?_
  · have hacts : [loaded, .committed 0 job.jobId .entered] =
        [loaded] ++ [.committed 0 job.jobId .entered] := rfl
    have hquiet : ∀ a ∈ [loaded, .committed 0 job.jobId .entered], a.isSuccess = false :=
      List.forall_mem_cons.mpr ⟨hloaded, List.forall_mem_cons.mpr ⟨rfl, List.forall_mem_nil _⟩⟩
    split
    case isTrue hcommitted =>
      let running := { job with status := .running, updatedAt := plan.enteredAt }
      have hview' : jobView running.jobId t = ⟨some running, old ++
          [loaded, .committed 0 job.jobId .entered]⟩ := by
        rw [hacts, ← List.append_assoc, ht, hview]
      show Prog.Ensures (fun r t => ∃ more, (jobView running.jobId t).acts = old ++ more ∧ _) _ t
      refine Prog.Ensures.mono ?_ (ensures_judged running.left rfl rfl hview' nofun nofun)
      rintro r u ⟨more, hjudged⟩
      refine ⟨_, hjudged.history, ?_⟩
      rw [hjudged.final hquiet]
      exact ⟨fun h _ => h, fun h => h hcommitted⟩
    case isFalse huncommitted =>
      intro _
      refine ⟨[loaded, .committed 0 job.jobId .entered], ?_, hnone _ hquiet huncommitted⟩
      rw [ht, hview, hacts, List.append_assoc]
  · refine ⟨[loaded], by rw [hview], hnone _ (by simpa using hloaded) ?_⟩
    rw [hlost]
    nofun

theorem ensures_runJob_success (plan : RunPlan) (jobId : String) (w : JobStore) :
    Prog.Ensures (fun r t => ∃ more, (jobView jobId t).acts = (jobView jobId w).acts ++ more ∧
        (SuccessIsFinal more r ((jobView jobId t).row.map (·.status)) ↔
          ∀ job, w.jobs.get? jobId = some job → job.status.isTerminal = false →
            plan.RecordsSuccess job))
      (runJob 0 plan jobId) w := by
  have hloaded : (JobAct.loaded 0 jobId).isSuccess = false := rfl
  have hview : jobView jobId { w with history := w.history ++ [.loaded 0 jobId] } =
      ⟨w.jobs.get? jobId, (jobView jobId w).acts ++ [.loaded 0 jobId]⟩ := jobView_act rfl w
  have hquiet : ∀ {r status}, SuccessIsFinal [.loaded 0 jobId] r status :=
    successIsFinal_of_none (List.forall_mem_cons.mpr ⟨hloaded, List.forall_mem_nil _⟩)
  refine Prog.Ensures.update_bind ?_
  cases hrow : w.jobs.get? jobId with
  | none => exact ⟨_, congrArg JobView.acts hview, iff_of_true hquiet nofun⟩
  | some job =>
      obtain rfl := Table.key_of_get? hrow
      cases hopen : job.status.isTerminal with
      | true =>
          show Prog.Ensures _ (runLoaded 0 plan job) _
          unfold runLoaded
          rw [if_pos hopen]
          refine ⟨_, congrArg JobView.acts hview, iff_of_true hquiet ?_⟩
          rintro job' hsame hopen'
          obtain rfl := Option.some.inj hsame
          rw [hopen] at hopen'
          cases hopen'
      | false =>
          rw [hrow] at hview
          refine Prog.Ensures.mono ?_ (ensures_runLoaded_success hopen hloaded hview)
          rintro r t ⟨more, hacts, hfinal⟩
          refine ⟨more, hacts, hfinal.trans ?_⟩
          constructor
          · intro h job' hsame _
            obtain rfl := Option.some.inj hsame
            exact h
          · intro h
            exact h job rfl hopen

/-- **A run keeps a success, whatever results and commits it meets, exactly if it stops after
every success that does not encode.** -/
theorem successIsFinal_iff (plan : RunPlan) (jobId : String) (w : JobStore) :
    RunKeepsSuccess plan jobId w ↔ ∀ job, w.jobs.get? jobId = some job →
      job.status.isTerminal = false → plan.RecordsSuccess job := by
  obtain ⟨r, t, halone, more, hacts, hfinal⟩ := (ensures_runJob_success plan jobId w).alone_eq
  rw [← hfinal]
  constructor
  · rintro ⟨r', t', halone', hkept⟩
    obtain ⟨rfl, rfl⟩ := Prod.mk.inj (Option.some.inj (halone.symm.trans halone'))
    rwa [hacts, List.drop_left] at hkept
  · intro hkept
    refine ⟨r, t, halone, ?_⟩
    rwa [hacts, List.drop_left]

/-! ### A result that does not encode -/

/-- The executor succeeds with a result that refers to itself. -/
def cyclicPlan : RunPlan where
  enteredAt := 1
  attemptedAt := fun _ => 1
  executor := fun _ => .returned {
    ok := true
    encoded := .raised "ValueError" "Circular reference detected" }
  completedAt := 1

/-- The job has been submitted. -/
def paySubmitted : JobStore := (runWorkers [.start submitPay, .resume 0, .resume 0, .resume 0]).store

/-- The executor is called again, and in the end the job is dead-lettered. -/
theorem success_deadLettered : ¬ RunKeepsSuccess cyclicPlan "job" paySubmitted := by
  rintro ⟨r, t, halone, hfinal⟩
  have hrun : ((runJob 0 cyclicPlan "job").alone paySubmitted).map (fun after =>
      (((jobView "job" after.2).acts.drop (jobView "job" paySubmitted).acts.length).any
        (·.isSuccess), (jobView "job" after.2).row.map (·.status))) =
      some (true, some .deadLetter) := by
    decide
  rw [halone, Option.map_some] at hrun
  obtain ⟨hsuccess, hstatus⟩ := Prod.mk.inj (Option.some.inj hrun)
  exact hfinal.notPersisted (List.any_eq_true.mp hsuccess) hstatus

end ControlPlane.ExecutionWorker
