/-
Several workers on one job.

A session knows the status and the attempt count of a job as it loaded or committed them last.
As long as every commit and every call of the executor is made by a worker that nobody has
overtaken since (`isFresh`), that is what the row holds, so attempts are counted and terminal
jobs stay as they are: `Counted`, `Safe`.  Nothing in the worker sees to it: a cancellation
that comes in the middle of a run is overwritten, `cancelled_overwritten`.

The invariant speaks of every call by its position: whether it has loaded the job, is about to
commit, to call the executor, or to hear from it.  There is one lemma for each kind of move and for
each kind of commit, and `Safe.move` puts them together.
-/
import ControlPlane.Proofs.JobMoves

namespace ControlPlane.ExecutionWorker

/-! ### What has happened to a job -/

/-- A call of the executor begins. -/
def JobAct.isStart : JobAct → Bool
  | .started _ _ => true
  | _ => false

/-- A call of the executor ends. -/
def JobAct.isFinish : JobAct → Bool
  | .finished _ _ _ => true
  | _ => false

/-- The job is cancelled. -/
def JobAct.isCancellation : JobAct → Bool
  | .committed _ _ kind => kind = .cancelled
  | _ => false

/-- The calls of the executor that have begun. -/
def starts (acts : List JobAct) : Nat := acts.countP (·.isStart)

/-- The calls of the executor that have ended. -/
def finishes (acts : List JobAct) : Nat := acts.countP (·.isFinish)

/-- Whether what a worker has loaded is still fresh, which another worker's commit ends. -/
def freshStep (worker : Nat) (fresh : Bool) : JobAct → Bool
  | .loaded other _ => fresh || other = worker
  | .committed other _ _ => other = worker
  | .started _ _ | .finished _ _ _ => fresh

/-- Since this worker loaded or committed the job last, nobody else has committed it. -/
def isFresh (worker : Nat) (acts : List JobAct) : Bool := acts.foldl (freshStep worker) false

/-- Whether the worker's last call of the executor gave what cannot be encoded. -/
def unencodedStep (worker : Nat) (unencoded : Bool) : JobAct → Bool
  | .finished other _ outcome => if other = worker then outcome.unencoded else unencoded
  | .loaded _ _ | .committed _ _ _ | .started _ _ => unencoded

/-- The last result that this worker got for the job does not encode. -/
def isUnencoded (worker : Nat) (acts : List JobAct) : Bool :=
  acts.foldl (unencodedStep worker) false

@[simp] theorem starts_append (acts : List JobAct) (act : JobAct) :
    starts (acts ++ [act]) = starts acts + if act.isStart then 1 else 0 := by
  simp [starts, List.countP_append, List.countP_singleton]

@[simp] theorem finishes_append (acts : List JobAct) (act : JobAct) :
    finishes (acts ++ [act]) = finishes acts + if act.isFinish then 1 else 0 := by
  simp [finishes, List.countP_append, List.countP_singleton]

@[simp] theorem isFresh_append (worker : Nat) (acts : List JobAct) (act : JobAct) :
    isFresh worker (acts ++ [act]) = freshStep worker (isFresh worker acts) act := by
  simp [isFresh]

@[simp] theorem isUnencoded_append (worker : Nat) (acts : List JobAct) (act : JobAct) :
    isUnencoded worker (acts ++ [act]) = unencodedStep worker (isUnencoded worker acts) act := by
  simp [isUnencoded]

/-! ### Counting attempts -/

/-- What the session of a worker has saved last of a job that is there. -/
def Saved (v : JobView) (worker : Nat) (saved : ExecutionJob) : Prop :=
  ∃ row, v.row = some row ∧ saved.maxRetries = row.maxRetries ∧
    (isFresh worker v.acts = true → row.status = saved.status ∧
      row.attemptCount = saved.attemptCount)

/-- What a call knows at its position. -/
def Held (v : JobView) (worker : Nat) : Position → Prop
  | .idle => True
  | .opened job | .calling job => Saved v worker job
  | .completing saved job => Saved v worker saved ∧ job.attemptCount = saved.attemptCount
  | .looping saved job => Saved v worker saved ∧ job.attemptCount = saved.attemptCount ∧
      job.maxRetries = saved.maxRetries
  | .starting job => Saved v worker job ∧
      (isFresh worker v.acts = true → (starts v.acts : Int) + 1 ≤ job.attemptCount)

/-- The row counts at least the calls of the executor, and not too many. -/
def CountedRow : Option ExecutionJob → Nat → Prop
  | none, started => started = 0
  | some row, started =>
      (started : Int) ≤ row.attemptCount ∧ row.attemptCount ≤ max 0 (row.maxRetries + 1)

/-- The calls of the executor are counted by the row and by the positions of the calls. -/
structure Counted (positions : Nat → Position) (v : JobView) : Prop where
  row : CountedRow v.row (starts v.acts)
  held : ∀ k, Held v k (positions k)
  /-- Only one call that is about to call the executor has not been overtaken. -/
  unique : ∀ i k job job', positions i = .starting job → positions k = .starting job' →
    isFresh i v.acts = true → isFresh k v.acts = true → i = k

/-- Commits and calls of the executor are made by workers that nobody has overtaken. -/
def Fresh (v v' : JobView) : Prop :=
  ∀ act, v'.acts = v.acts ++ [act] → match act with
    | .committed worker _ _ | .started worker _ => isFresh worker v.acts = true
    | .loaded _ _ | .finished _ _ _ => True

theorem mergeJob_status {saved job row : ExecutionJob} (h : row.status = saved.status) :
    (mergeJob saved job row).status = job.status := by
  show netChange saved.status job.status row.status = job.status
  unfold netChange
  split
  case isTrue hsame => rw [h, hsame]
  case isFalse => rfl

theorem mergeJob_attemptCount {saved job row : ExecutionJob}
    (h : row.attemptCount = saved.attemptCount) :
    (mergeJob saved job row).attemptCount = job.attemptCount := by
  show netChange saved.attemptCount job.attemptCount row.attemptCount = job.attemptCount
  unfold netChange
  split
  case isTrue hsame => rw [h, hsame]
  case isFalse => rfl

section Steps

variable {jobId : String} {positions : Nat → Position} {v v' : JobView} {worker : Nat}
  {h' : Position}

/-- What another worker knows outlives a move that leaves the row, or overtakes it. -/
theorem Held.frame {k : Nat} {p : Position} (hp : Held v k p)
    (hrow : ∀ row, v.row = some row → ∃ row', v'.row = some row' ∧
      row'.maxRetries = row.maxRetries ∧ (isFresh k v'.acts = true →
        row'.status = row.status ∧ row'.attemptCount = row.attemptCount))
    (hfresh : isFresh k v'.acts = true → isFresh k v.acts = true)
    (hstarts : ∀ job, p = .starting job → isFresh k v'.acts = true →
      starts v'.acts = starts v.acts) : Held v' k p := by
  have hsaved : ∀ {saved}, Saved v k saved → Saved v' k saved := by
    rintro saved ⟨row, hsome, hmax, hsame⟩
    obtain ⟨row', hsome', hmax', hsame'⟩ := hrow row hsome
    refine ⟨row', hsome', hmax.trans hmax'.symm, fun hnow => ?_⟩
    obtain ⟨hstatus, hcount⟩ := hsame (hfresh hnow)
    obtain ⟨hstatus', hcount'⟩ := hsame' hnow
    exact ⟨hstatus'.trans hstatus, hcount'.trans hcount⟩
  cases p with
  | idle => trivial
  | opened job => exact hsaved hp
  | calling job => exact hsaved hp
  | completing saved job => exact ⟨hsaved hp.1, hp.2⟩
  | looping saved job => exact ⟨hsaved hp.1, hp.2⟩
  | starting job =>
      refine ⟨hsaved hp.1, fun hnow => ?_⟩
      rw [hstarts job rfl hnow]
      exact hp.2 (hfresh hnow)

/-- The parts of `Counted` after a move, for the worker that moves and for the others. -/
theorem Counted.of_parts (h : Counted positions v) (hrow : CountedRow v'.row (starts v'.acts))
    (hown : Held v' worker h') (hothers : ∀ k ≠ worker, Held v' k (positions k))
    (hkeeps : ∀ k ≠ worker, isFresh k v'.acts = true → isFresh k v.acts = true)
    (hstarting : ∀ job, h' = .starting job → ∀ k ≠ worker, isFresh k v'.acts = false) :
    Counted (Function.update positions worker h') v' where
  row := hrow
  held := by
    intro k
    rcases eq_or_ne k worker with rfl | hk
    · rw [Function.update_self]
      exact hown
    · rw [Function.update_of_ne hk]
      exact hothers k hk
  unique := by
    intro i k job job' hi hk hfi hfk
    by_cases hiw : i = worker
    · by_cases hkw : k = worker
      · rw [hiw, hkw]
      · rw [hiw, Function.update_self] at hi
        rw [hstarting job hi k hkw] at hfk
        cases hfk
    · by_cases hkw : k = worker
      · rw [hkw, Function.update_self] at hk
        rw [hstarting job' hk i hiw] at hfi
        cases hfi
      · rw [Function.update_of_ne hiw] at hi
        rw [Function.update_of_ne hkw] at hk
        exact h.unique i k job job' hi hk (hkeeps i hiw hfi) (hkeeps k hkw hfk)

/-- What a commit makes of the row, when nobody has overtaken the worker. -/
theorem Saved.merged {saved : ExecutionJob} (h : Saved v worker saved) (job : ExecutionJob)
    (hfresh : isFresh worker v.acts = true) :
    ∃ row, v.row = some row ∧ saved.maxRetries = row.maxRetries ∧
      row.status = saved.status ∧ row.attemptCount = saved.attemptCount ∧
      (mergeJob saved job row).status = job.status ∧
      (mergeJob saved job row).attemptCount = job.attemptCount := by
  obtain ⟨row, hrow, hmax, hsame⟩ := h
  obtain ⟨hstatus, hcount⟩ := hsame hfresh
  exact ⟨row, hrow, hmax, hstatus, hcount, mergeJob_status hstatus, mergeJob_attemptCount hcount⟩

/-- What the session of a worker holds once it has committed. -/
theorem Saved.committed {saved job row : ExecutionJob} {kind : CommitKind}
    (hrow : v.row = some row) (hmax : job.maxRetries = row.maxRetries)
    (hstatus : row.status = saved.status) (hcount : row.attemptCount = saved.attemptCount) :
    Saved ⟨v.row.map (mergeJob saved job), v.acts ++ [.committed worker jobId kind]⟩ worker job := by
  refine ⟨mergeJob saved job row, by rw [hrow]; rfl, hmax, fun _ => ?_⟩
  exact ⟨mergeJob_status hstatus, mergeJob_attemptCount hcount⟩

/-- Nobody else is fresh after a commit. -/
theorem overtaken {k : Nat} {acts : List JobAct} {kind : CommitKind} (hk : k ≠ worker) :
    isFresh k (acts ++ [.committed worker jobId kind]) = false := by
  simp [freshStep, Ne.symm hk]

/-- The others after a commit: they have been overtaken. -/
theorem Counted.others_commit {saved job : ExecutionJob} {kind : CommitKind}
    (h : Counted positions v) {k : Nat} (hk : k ≠ worker) :
    Held ⟨v.row.map (mergeJob saved job), v.acts ++ [.committed worker jobId kind]⟩ k
      (positions k) := by
  refine (h.held k).frame ?_ ?_ ?_
  · intro row hrow
    refine ⟨mergeJob saved job row, by rw [hrow]; rfl, rfl, fun hnow => ?_⟩
    rw [overtaken hk] at hnow
    cases hnow
  · intro hnow
    rw [overtaken hk] at hnow
    cases hnow
  · intro _ _ hnow
    rw [overtaken hk] at hnow
    cases hnow

/-- The others after an act that is no commit and leaves the row. -/
theorem Counted.others_act {act : JobAct} (h : Counted positions v) {k : Nat}
    (hfresh : freshStep k (isFresh k v.acts) act = isFresh k v.acts)
    (hstarts : ∀ job, positions k = .starting job → isFresh k v.acts = true →
      act.isStart = false) :
    Held ⟨v.row, v.acts ++ [act]⟩ k (positions k) := by
  have hsame : isFresh k (v.acts ++ [act]) = isFresh k v.acts := by rw [isFresh_append, hfresh]
  refine (h.held k).frame ?_ ?_ ?_
  · intro row hrow
    exact ⟨row, hrow, rfl, fun _ => ⟨rfl, rfl⟩⟩
  · intro hnow
    rw [← hsame]
    exact hnow
  · intro job hp hnow
    rw [hsame] at hnow
    simp [hstarts job hp hnow]

/-- A commit that changes no count. -/
theorem Saved.sameCount {saved job : ExecutionJob} (h : Saved v worker saved)
    (hnow : isFresh worker v.acts = true) (hcount : job.attemptCount = saved.attemptCount)
    (hcounted : CountedRow v.row (starts v.acts)) :
    CountedRow (v.row.map (mergeJob saved job)) (starts v.acts) := by
  obtain ⟨row, hrow, -, -, hold, -, hmerged⟩ := h.merged job hnow
  rw [hrow] at hcounted ⊢
  show (starts v.acts : Int) ≤ (mergeJob saved job row).attemptCount ∧ _
  rw [hmerged, hcount, ← hold]
  exact hcounted

/-- **What a commit does to the count, when nobody has overtaken the worker.** -/
theorem Held.commits {kind : CommitKind} {p : Position} {saved job : ExecutionJob}
    (hheld : Held v worker p) (hcommits : Commits kind p saved job h')
    (hnow : isFresh worker v.acts = true) (hcounted : CountedRow v.row (starts v.acts)) :
    CountedRow (v.row.map (mergeJob saved job)) (starts v.acts) ∧
      Held ⟨v.row.map (mergeJob saved job), v.acts ++ [.committed worker jobId kind]⟩ worker h' := by
  cases hcommits with
  | entered hstatus hcount hmax =>
      obtain ⟨row, hrow, hrowMax, hrowStatus, hrowCount, -⟩ := hheld.merged job hnow
      refine ⟨hheld.sameCount hnow hcount hcounted, ?_, rfl, rfl⟩
      exact Saved.committed hrow (hmax.trans hrowMax) hrowStatus hrowCount
  | cancelled hstatus hcount => exact ⟨hheld.sameCount hnow hcount hcounted, trivial⟩
  | completed hstatus hcount => exact ⟨hheld.1.sameCount hnow hcount hcounted, trivial⟩
  | deadLettered hstatus hcount =>
      exact ⟨hheld.1.sameCount hnow (hcount.trans hheld.2.1) hcounted, trivial⟩
  | attempted hleft hstatus hcount hmax =>
      obtain ⟨hsaved, hheldCount, hheldMax⟩ := hheld
      obtain ⟨row, hrow, hrowMax, hrowStatus, hrowCount, -, hmerged⟩ :=
        hsaved.merged job hnow
      have hmax' : job.maxRetries = row.maxRetries := hmax.trans (hheldMax.trans hrowMax)
      rw [hrow] at hcounted
      obtain ⟨hstarts, -⟩ := hcounted
      refine ⟨?_, ⟨Saved.committed hrow hmax' hrowStatus hrowCount, fun _ => ?_⟩⟩
      · rw [hrow]
        show (starts v.acts : Int) ≤ (mergeJob saved job row).attemptCount ∧
          (mergeJob saved job row).attemptCount ≤ max 0 (row.maxRetries + 1)
        rw [hmerged]
        omega
      · rw [starts_append]
        show ((starts v.acts + 0 : Nat) : Int) + 1 ≤ job.attemptCount
        omega

/-- **A move keeps the count, if the worker that makes it has not been overtaken.** -/
theorem Counted.move (h : Counted positions v)
    (hmove : Move jobId worker (positions worker) v h' v') (hfresh : Fresh v v') :
    Counted (Function.update positions worker h') v' := by
  generalize hp : positions worker = p at hmove
  have hheld := h.held worker
  rw [hp] at hheld
  cases hmove with
  | stays =>
      rw [← hp, Function.update_eq_self]
      exact h
  | drops hcommits =>
      exact h.of_parts h.row trivial (fun k _ => h.held k) (fun _ _ => id)
        fun _ hcalls => nomatch hcalls
  | created hrow hstatus hcount =>
      have hstarts := h.row
      rw [hrow] at hstarts
      refine h.of_parts ?_ trivial (fun k _ => ?_) (fun _ _ => id) fun _ hcalls => nomatch hcalls
      · show (starts v.acts : Int) ≤ _ ∧ _
        rw [hcount, show starts v.acts = 0 from hstarts]
        exact ⟨Int.le_refl 0, by omega⟩
      · refine (h.held k).frame ?_ id (fun _ _ _ => rfl)
        intro row hsome
        rw [hrow] at hsome
        cases hsome
  | loaded =>
      refine h.of_parts ?_ trivial (fun k hk => ?_) (fun k hk => ?_)
        fun _ hcalls => nomatch hcalls
      · simpa [JobAct.isStart] using h.row
      · exact h.others_act (by simp [freshStep, Ne.symm hk]) fun _ _ _ => rfl
      · simp [freshStep, Ne.symm hk]
  | opened hrow hopen =>
      refine h.of_parts ?_ ?_ (fun k hk => ?_) (fun k hk => ?_)
        fun _ hcalls => nomatch hcalls
      · simpa [JobAct.isStart] using h.row
      · exact ⟨_, hrow, rfl, fun _ => ⟨rfl, rfl⟩⟩
      · exact h.others_act (by simp [freshStep, Ne.symm hk]) fun _ _ _ => rfl
      · simp [freshStep, Ne.symm hk]
  | commits hcommits =>
      have hnow : isFresh worker v.acts = true := hfresh _ rfl
      obtain ⟨hrow, hown⟩ := hheld.commits hcommits hnow h.row
      refine h.of_parts ?_ hown (fun k hk => h.others_commit hk) (fun k hk hk' => ?_)
        (fun _ _ k hk => overtaken hk)
      · simpa [JobAct.isStart] using hrow
      · rw [overtaken hk] at hk'
        cases hk'
  | starts job =>
      have hnow : isFresh worker v.acts = true := hfresh _ rfl
      obtain ⟨hsaved, hstarts⟩ := hheld
      obtain ⟨row, hrow, hmax, hsame⟩ := hsaved
      refine h.of_parts ?_ ?_ (fun k hk => ?_) (fun k hk => ?_)
        fun _ hcalls => nomatch hcalls
      · have hold := h.row
        rw [hrow] at hold
        show CountedRow v.row _
        rw [hrow, starts_append]
        refine ⟨?_, hold.2⟩
        have hmore := hstarts hnow
        rw [← (hsame hnow).2] at hmore
        push_cast
        exact hmore
      · exact ⟨row, hrow, hmax, by simpa [freshStep] using hsame⟩
      · refine h.others_act rfl ?_
        intro job' hother hfresh'
        exact absurd (h.unique k worker job' job hother hp hfresh' hnow) hk
      · simp [freshStep]
  | finishes completedAt job outcome =>
      obtain ⟨row, hrow, hmax, hsame⟩ := hheld
      have hsaved : Saved ⟨v.row, v.acts ++ [.finished worker jobId outcome]⟩ worker job :=
        ⟨row, hrow, hmax, by simpa [freshStep] using hsame⟩
      refine h.of_parts ?_ ?_ (fun k hk => ?_) (fun k hk => ?_) ?_
      · simpa [JobAct.isStart] using h.row
      · unfold settled
        split
        case h_1 completed hverdict => exact ⟨hsaved, (verdict_complete hverdict).2.2⟩
        case h_2 held lastError hverdict =>
          obtain ⟨-, hcount, hmax, -⟩ := verdict_again hverdict
          exact ⟨hsaved, hcount, hmax⟩
      · exact h.others_act rfl fun _ _ _ => rfl
      · simp [freshStep]
      · unfold settled
        split
        · exact fun _ hcalls => nomatch hcalls
        · exact fun _ hcalls => nomatch hcalls

end Steps

/-! ### Terminal jobs -/

/-- What an orderly history allows next: commits and calls of the executor by workers that
nobody has overtaken, and attempts while no other call is under way and after a result that
could be recorded. -/
def Allowed (acts : List JobAct) : JobAct → Prop
  | .committed worker _ kind => isFresh worker acts = true ∧
      (kind = .attempted → starts acts ≤ finishes acts ∧ isUnencoded worker acts = false)
  | .started worker _ => isFresh worker acts = true
  | .loaded _ _ | .finished _ _ _ => True

instance (acts : List JobAct) : (act : JobAct) → Decidable (Allowed acts act)
  | .committed _ _ _ => inferInstanceAs (Decidable (_ ∧ (_ → _)))
  | .started _ _ => inferInstanceAs (Decidable (_ = _))
  | .loaded _ _ | .finished _ _ _ => inferInstanceAs (Decidable True)

/-- What a call knows at its position when the history is orderly. -/
def Clear (v : JobView) (worker : Nat) : Position → Prop
  | .idle => True
  | .opened job | .calling job => job.status.isTerminal = false
  | .completing saved _ => saved.status.isTerminal = false
  | .looping saved job => saved.status.isTerminal = false ∧
      (job.status.isTerminal = false ∨ isUnencoded worker v.acts = true)
  | .starting job => job.status.isTerminal = false ∧
      (isFresh worker v.acts = true → starts v.acts ≤ finishes v.acts)

/-- One call at most is calling the executor. -/
structure Caller (positions : Nat → Position) (acts : List JobAct) (caller : Option Nat) : Prop where
  calling : ∀ k, (∃ job, positions k = .calling job) ↔ caller = some k
  count : starts acts = finishes acts + if caller.isSome then 1 else 0

/-- The invariant of careful schedules: what is counted, what each call may still do, and that a
cancelled job stays so. -/
structure Safe (positions : Nat → Position) (v : JobView) : Prop where
  counted : Counted positions v
  clear : ∀ k, Clear v k (positions k)
  cancelled : (∃ act ∈ v.acts, act.isCancellation = true) →
    ∃ row, v.row = some row ∧ row.status = .cancelled
  ended : v.acts.Pairwise fun a b => a.isCancellation = true → b.isStart = false
  caller : ∃ caller, Caller positions v.acts caller

section SafeSteps

variable {jobId : String} {positions : Nat → Position} {v v' : JobView} {worker : Nat}
  {h' : Position}

theorem Clear.frame {k : Nat} {p : Position} (hp : Clear v k p)
    (hunencoded : isUnencoded k v'.acts = isUnencoded k v.acts)
    (hstarts : ∀ job, p = .starting job → isFresh k v'.acts = true →
      isFresh k v.acts = true ∧ starts v'.acts ≤ starts v.acts ∧
        finishes v.acts ≤ finishes v'.acts) : Clear v' k p := by
  cases p with
  | idle => trivial
  | opened job => exact hp
  | calling job => exact hp
  | completing saved job => exact hp
  | looping saved job =>
      refine ⟨hp.1, ?_⟩
      rw [hunencoded]
      exact hp.2
  | starting job =>
      refine ⟨hp.1, fun hnow => ?_⟩
      obtain ⟨hold, hle, hle'⟩ := hstarts job rfl hnow
      have := hp.2 hold
      omega

/-- While the job is open, nobody has cancelled it. -/
theorem Safe.no_cancellation (h : Safe positions v) {row : ExecutionJob} (hrow : v.row = some row)
    (hopen : row.status.isTerminal = false) :
    ∀ act ∈ v.acts, act.isCancellation = false := by
  intro act hact
  by_contra hcancelled
  obtain ⟨row', hrow', hstatus⟩ := h.cancelled ⟨act, hact, by simpa using hcancelled⟩
  obtain rfl := Option.some.inj (hrow.symm.trans hrow')
  rw [hstatus] at hopen
  cases hopen

/-- Neither before nor after the move is the worker calling the executor. -/
theorem Caller.quiet {caller : Option Nat} {acts acts' : List JobAct}
    (h : Caller positions acts caller) (hbefore : ∀ job, positions worker ≠ .calling job)
    (hafter : ∀ job, h' ≠ .calling job) (hstarts : starts acts' = starts acts)
    (hfinishes : finishes acts' = finishes acts) :
    Caller (Function.update positions worker h') acts' caller := by
  refine ⟨fun k => ?_, ?_⟩
  · rcases eq_or_ne k worker with rfl | hk
    · rw [Function.update_self, ← h.calling k]
      refine iff_of_false ?_ ?_
      · rintro ⟨job, hjob⟩
        exact hafter job hjob
      · rintro ⟨job, hjob⟩
        exact hbefore job hjob
    · rw [Function.update_of_ne hk]
      exact h.calling k
  · rw [hstarts, hfinishes]
    exact h.count

/-- The job that a worker is about to commit is open, if nobody has overtaken it. -/
theorem Safe.open_of_commits (h : Safe positions v) {kind : CommitKind}
    {saved job : ExecutionJob} (hcommits : Commits kind (positions worker) saved job h')
    (hnow : isFresh worker v.acts = true) :
    ∃ row, v.row = some row ∧ row.status.isTerminal = false ∧ row.status = saved.status := by
  have hheld := h.counted.held worker
  have hclear := h.clear worker
  have hboth : Saved v worker saved ∧ saved.status.isTerminal = false := by
    generalize positions worker = p at hcommits hheld hclear
    cases hcommits with
    | entered => exact ⟨hheld, hclear⟩
    | cancelled => exact ⟨hheld, hclear⟩
    | attempted => exact ⟨hheld.1, hclear.1⟩
    | completed => exact ⟨hheld.1, hclear⟩
    | deadLettered => exact ⟨hheld.1, hclear.1⟩
  obtain ⟨⟨row, hrow, -, hsame⟩, hopen⟩ := hboth
  obtain ⟨hstatus, -⟩ := hsame hnow
  exact ⟨row, hrow, hstatus ▸ hopen, hstatus⟩

/-- Positions after a move: of the worker that moves, and of the others. -/
theorem clear_update (hown : Clear v' worker h') (hothers : ∀ k ≠ worker, Clear v' k (positions k))
    (k : Nat) : Clear v' k (Function.update positions worker h' k) := by
  rcases eq_or_ne k worker with rfl | hk
  · rw [Function.update_self]
    exact hown
  · rw [Function.update_of_ne hk]
    exact hothers k hk

/-- An act that is neither a commit nor a call of the executor. -/
theorem Safe.quiet (h : Safe positions v) {act : JobAct}
    (hcounted : Counted (Function.update positions worker h') ⟨v.row, v.acts ++ [act]⟩)
    (hown : Clear ⟨v.row, v.acts ++ [act]⟩ worker h')
    (hothers : ∀ k ≠ worker, Clear ⟨v.row, v.acts ++ [act]⟩ k (positions k))
    (hcancellation : act.isCancellation = false) (hstart : act.isStart = false)
    (hcaller : ∃ caller, Caller (Function.update positions worker h') (v.acts ++ [act]) caller) :
    Safe (Function.update positions worker h') ⟨v.row, v.acts ++ [act]⟩ where
  counted := hcounted
  clear := clear_update hown hothers
  cancelled := by
    rintro ⟨other, hother, hcancelled⟩
    rcases List.mem_append.mp hother with hother | hother
    · exact h.cancelled ⟨other, hother, hcancelled⟩
    · rw [List.mem_singleton.mp hother, hcancellation] at hcancelled
      cases hcancelled
  ended := by
    refine List.pairwise_append.mpr ⟨h.ended, List.pairwise_singleton _ _, ?_⟩
    intro a _ b hb _
    rw [List.mem_singleton.mp hb]
    exact hstart
  caller := hcaller

/-- An act that is neither a commit nor an end of a call of the executor. -/
theorem Safe.others_quiet (h : Safe positions v) {act : JobAct} {k : Nat}
    (hunencoded : unencodedStep k (isUnencoded k v.acts) act = isUnencoded k v.acts)
    (hfresh : freshStep k (isFresh k v.acts) act = isFresh k v.acts)
    (hstart : act.isStart = false) : Clear ⟨v.row, v.acts ++ [act]⟩ k (positions k) := by
  refine (h.clear k).frame ?_ ?_
  · rw [isUnencoded_append, hunencoded]
  · intro job _ hnow
    rw [isFresh_append, hfresh] at hnow
    rw [starts_append, finishes_append, hstart]
    exact ⟨hnow, by simp, by omega⟩

/-- A commit does not begin at a call of the executor. -/
theorem Commits.before_quiet {kind : CommitKind} {p : Position} {saved job : ExecutionJob}
    (h : Commits kind p saved job h') (called : ExecutionJob) : p ≠ .calling called := by
  intro hp
  rw [hp] at h
  cases h

/-- A commit does not lead to a call of the executor. -/
theorem Commits.after_quiet {kind : CommitKind} {p : Position} {saved job : ExecutionJob}
    (h : Commits kind p saved job h') (called : ExecutionJob) : h' ≠ .calling called := by
  intro hp
  rw [hp] at h
  cases h

/-- A load of the job by a worker that is not calling the executor. -/
theorem Safe.loads (h : Safe positions v)
    (hcounted : Counted (Function.update positions worker h')
      ⟨v.row, v.acts ++ [.loaded worker jobId]⟩)
    (hbefore : ∀ job, positions worker ≠ .calling job) (hafter : ∀ job, h' ≠ .calling job)
    (hown : Clear ⟨v.row, v.acts ++ [.loaded worker jobId]⟩ worker h') :
    Safe (Function.update positions worker h') ⟨v.row, v.acts ++ [.loaded worker jobId]⟩ := by
  obtain ⟨caller, hcaller⟩ := h.caller
  refine h.quiet hcounted hown (fun k hk => ?_) rfl rfl
    ⟨caller, hcaller.quiet hbefore hafter (starts_append ..) (finishes_append ..)⟩
  exact h.others_quiet rfl (by simp [freshStep, Ne.symm hk]) rfl

/-- What the worker that commits knows afterwards. -/
theorem Clear.commits {kind : CommitKind} {p : Position} {saved job : ExecutionJob}
    {row : Option ExecutionJob} (hclear : Clear v worker p) (h : Commits kind p saved job h')
    (hallowed : Allowed v.acts (.committed worker jobId kind)) :
    Clear ⟨row, v.acts ++ [.committed worker jobId kind]⟩ worker h' := by
  cases h with
  | entered hrunning =>
      have hopen : JobStatus.running.isTerminal = false := rfl
      rw [← hrunning] at hopen
      exact ⟨hopen, .inl hopen⟩
  | cancelled => trivial
  | completed => trivial
  | deadLettered => trivial
  | attempted hleft hsame hcount hmax =>
      obtain ⟨hquiet, hencoded⟩ := hallowed.2 rfl
      have hopen := hclear.2.resolve_right (by simp [hencoded])
      refine ⟨hsame ▸ hopen, fun _ => ?_⟩
      simpa [JobAct.isStart, JobAct.isFinish] using hquiet

/-- Only `cancel_job` commits a cancellation, and it sets the status. -/
theorem Commits.cancels {kind : CommitKind} {p : Position} {saved job : ExecutionJob}
    (h : Commits kind p saved job h')
    (hcancelled : (JobAct.committed worker jobId kind).isCancellation = true) :
    job.status = .cancelled := by
  cases h with
  | cancelled hset => exact hset
  | entered => cases hcancelled
  | attempted => cases hcancelled
  | completed => cases hcancelled
  | deadLettered => cases hcancelled

/-- A commit of a worker that nobody has overtaken. -/
theorem Safe.commits (h : Safe positions v) {kind : CommitKind} {saved job : ExecutionJob}
    (hcounted : Counted (Function.update positions worker h')
      ⟨v.row.map (mergeJob saved job), v.acts ++ [.committed worker jobId kind]⟩)
    (hcommits : Commits kind (positions worker) saved job h')
    (hallowed : Allowed v.acts (.committed worker jobId kind)) :
    Safe (Function.update positions worker h')
      ⟨v.row.map (mergeJob saved job), v.acts ++ [.committed worker jobId kind]⟩ := by
  obtain ⟨caller, hcaller⟩ := h.caller
  obtain ⟨row, hrow, hopen, hstatus⟩ := h.open_of_commits hcommits hallowed.1
  have hnone := h.no_cancellation hrow hopen
  refine ⟨hcounted, clear_update ((h.clear worker).commits hcommits hallowed) fun k hk => ?_,
    ?_, ?_, caller, hcaller.quiet hcommits.before_quiet hcommits.after_quiet (starts_append ..)
      (finishes_append ..)⟩
  · refine (h.clear k).frame ?_ ?_
    · exact isUnencoded_append ..
    · intro _ _ hother
      rw [overtaken hk] at hother
      cases hother
  · rintro ⟨act, hact, hcancelled⟩
    rcases List.mem_append.mp hact with hact | hact
    · rw [hnone act hact] at hcancelled
      cases hcancelled
    · rw [List.mem_singleton.mp hact] at hcancelled
      refine ⟨mergeJob saved job row, ?_, ?_⟩
      · show v.row.map (mergeJob saved job) = _
        rw [hrow]
        rfl
      · rw [mergeJob_status hstatus]
        exact hcommits.cancels hcancelled
  · refine List.pairwise_append.mpr ⟨h.ended, List.pairwise_singleton _ _, ?_⟩
    intro a ha b _ hcancelled
    rw [hnone a ha] at hcancelled
    cases hcancelled

/-- While a worker that nobody has overtaken is about to call the executor, nobody calls it. -/
theorem Safe.no_caller (h : Safe positions v) {job : ExecutionJob} {caller : Option Nat}
    (hp : positions worker = .starting job) (hnow : isFresh worker v.acts = true)
    (hcaller : Caller positions v.acts caller) : caller = none := by
  have hclear := h.clear worker
  rw [hp] at hclear
  have hle := hclear.2 hnow
  have hcount := hcaller.count
  cases caller with
  | none => rfl
  | some k =>
      simp only [Option.isSome_some, if_true] at hcount
      omega

/-- The worker begins to call the executor, and nobody else is calling it. -/
theorem Caller.starts {acts : List JobAct} (h : Caller positions acts none)
    (job : ExecutionJob) : Caller (Function.update positions worker (.calling job))
      (acts ++ [.started worker jobId]) (some worker) := by
  refine ⟨fun k => ?_, ?_⟩
  · rcases eq_or_ne k worker with rfl | hk
    · rw [Function.update_self]
      exact iff_of_true ⟨job, rfl⟩ rfl
    · rw [Function.update_of_ne hk, h.calling k]
      exact iff_of_false nofun fun hsame => hk (Option.some.inj hsame).symm
  · have hcount := h.count
    simpa [JobAct.isStart, JobAct.isFinish] using hcount

/-- The call of the executor ends. -/
theorem Caller.finishes {acts : List JobAct} {outcome : ExecutorOutcome}
    (h : Caller positions acts (some worker)) (hafter : ∀ job, h' ≠ .calling job) :
    Caller (Function.update positions worker h')
      (acts ++ [.finished worker jobId outcome]) none := by
  refine ⟨fun k => ?_, ?_⟩
  · rcases eq_or_ne k worker with rfl | hk
    · rw [Function.update_self]
      exact iff_of_false (fun ⟨job, hjob⟩ => hafter job hjob) nofun
    · rw [Function.update_of_ne hk, h.calling k]
      exact iff_of_false (fun hsame => hk (Option.some.inj hsame).symm) nofun
  · have hcount := h.count
    simp only [Option.isSome_some, if_true] at hcount
    simp [JobAct.isStart, JobAct.isFinish, hcount]

/-- A call of the executor by a worker that nobody has overtaken. -/
theorem Safe.starts (h : Safe positions v) {job : ExecutionJob}
    (hcounted : Counted (Function.update positions worker (.calling job))
      ⟨v.row, v.acts ++ [.started worker jobId]⟩)
    (hp : positions worker = .starting job) (hnow : isFresh worker v.acts = true) :
    Safe (Function.update positions worker (.calling job))
      ⟨v.row, v.acts ++ [.started worker jobId]⟩ := by
  obtain ⟨caller, hcaller⟩ := h.caller
  obtain rfl := h.no_caller hp hnow hcaller
  have hclear := h.clear worker
  have hheld := h.counted.held worker
  rw [hp] at hclear hheld
  obtain ⟨⟨row, hrow, -, hsame⟩, -⟩ := hheld
  have hnone := h.no_cancellation hrow ((hsame hnow).1 ▸ hclear.1)
  refine ⟨hcounted, clear_update hclear.1 fun k hk => ?_, ?_, ?_, some worker, hcaller.starts job⟩
  · refine (h.clear k).frame (isUnencoded_append ..) ?_
    intro job' hother hfresh'
    rw [isFresh_append] at hfresh'
    exact absurd (h.counted.unique k worker job' job hother hp hfresh' hnow) hk
  · rintro ⟨act, hact, hcancelled⟩
    rcases List.mem_append.mp hact with hact | hact
    · exact h.cancelled ⟨act, hact, hcancelled⟩
    · rw [List.mem_singleton.mp hact] at hcancelled
      cases hcancelled
  · refine List.pairwise_append.mpr ⟨h.ended, List.pairwise_singleton _ _, ?_⟩
    intro a ha b _ hcancelled
    rw [hnone a ha] at hcancelled
    cases hcancelled

/-- After its call of the executor, the worker does not call it. -/
theorem settled_quiet (completedAt : Time) (job : ExecutionJob) (outcome : ExecutorOutcome)
    (called : ExecutionJob) : settled completedAt job outcome ≠ .calling called := by
  unfold settled
  split
  · intro hcalls
    cases hcalls
  · intro hcalls
    cases hcalls

/-- What the worker knows after its call of the executor: the job is still open, unless the
result that it brought cannot be recorded. -/
theorem Clear.finishes {row : Option ExecutionJob} {job : ExecutionJob}
    (hopen : job.status.isTerminal = false) (completedAt : Time) (outcome : ExecutorOutcome) :
    Clear ⟨row, v.acts ++ [.finished worker jobId outcome]⟩ worker
      (settled completedAt job outcome) := by
  unfold settled
  split
  case h_1 completed hverdict => exact hopen
  case h_2 held lastError hverdict =>
    refine ⟨hopen, ?_⟩
    by_cases hencoded : outcome.unencoded = true
    · right
      simp [unencodedStep, hencoded]
    · left
      rw [(verdict_again hverdict).2.2.2 (by simpa using hencoded)]
      exact hopen

/-- **An orderly move keeps jobs safe.** -/
theorem Safe.move (h : Safe positions v) (hmove : Move jobId worker (positions worker) v h' v')
    (hallowed : ∀ act, v'.acts = v.acts ++ [act] → Allowed v.acts act) :
    Safe (Function.update positions worker h') v' := by
  have hfresh : Fresh v v' := by
    intro act hact
    have hnext := hallowed act hact
    cases act with
    | loaded other id => trivial
    | finished other id outcome => trivial
    | committed other id kind => exact hnext.1
    | started other id => exact hnext
  have hcounted := h.counted.move hmove hfresh
  obtain ⟨caller, hcaller⟩ := h.caller
  generalize hp : positions worker = p at hmove
  cases hmove with
  | stays =>
      rw [← hp, Function.update_eq_self]
      exact h
  | drops hcommits =>
      refine ⟨hcounted, clear_update trivial fun k _ => h.clear k, h.cancelled, h.ended, caller,
        hcaller.quiet ?_ ?_ rfl rfl⟩
      · rw [hp]
        exact hcommits.before_quiet
      · exact fun _ hcalls => nomatch hcalls
  | created hrow hstatus hcount =>
      refine ⟨hcounted, clear_update trivial fun k _ => ?_, ?_, h.ended, caller,
        hcaller.quiet (by simp [hp]) (by simp) rfl rfl⟩
      · exact (h.clear k).frame rfl fun _ _ hnow => ⟨hnow, Nat.le_refl _, Nat.le_refl _⟩
      · intro hcancelled
        obtain ⟨row, hsome, -⟩ := h.cancelled hcancelled
        rw [hrow] at hsome
        cases hsome
  | loaded => exact h.loads hcounted (by simp [hp]) (by simp) trivial
  | opened hrow hopen => exact h.loads hcounted (by simp [hp]) (by simp) hopen
  | commits hcommits =>
      rw [← hp] at hcommits
      exact h.commits hcounted hcommits (hallowed _ rfl)
  | starts job => exact h.starts hcounted hp (hallowed _ rfl)
  | finishes completedAt job outcome =>
      have hclear := h.clear worker
      rw [hp] at hclear
      obtain rfl := (hcaller.calling worker).mp ⟨job, hp⟩
      refine h.quiet hcounted (Clear.finishes hclear completedAt outcome) (fun k hk => ?_) rfl rfl
        ⟨none, hcaller.finishes (settled_quiet completedAt job outcome)⟩
      refine h.others_quiet ?_ rfl rfl
      simp [unencodedStep, Ne.symm hk]

end SafeSteps

/-! ### Runs -/

/-- A configuration of worker calls. -/
abbrev WorkerConfig := Config JobStore WorkerError WorkerAnswer WorkerCall

/-- The configuration after these events, from an empty table. -/
def runWorkers (events : List (Event WorkerCall Empty)) : WorkerConfig :=
  Config.runAll (fun worker call => call.body worker) (fun e _ => e.elim)
    (Config.initial ⟨.empty, []⟩) events

/-- What a run has left of one job. -/
def jobAfter (jobId : String) (events : List (Event WorkerCall Empty)) : JobView :=
  jobView jobId (runWorkers events).store

/-- Every act is allowed after those before it. -/
def Orderly (acts : List JobAct) : Prop :=
  ∀ n : Fin acts.length, Allowed (acts.take n) acts[n]

instance (acts : List JobAct) : Decidable (Orderly acts) :=
  inferInstanceAs (Decidable (∀ _, _))

/-- **What the worker owes a job.** -/
structure Exclusive (jobId : String) (events : List (Event WorkerCall Empty)) : Prop where
  /-- Terminal statuses are absorbing. -/
  absorbing : ∀ before after row, events = before ++ after →
    (jobAfter jobId before).row = some row → row.status.isTerminal = true →
    (jobAfter jobId events).row = some row
  /-- No call of the executor begins after a cancellation. -/
  ended : (jobAfter jobId events).acts.Pairwise fun a b =>
    a.isCancellation = true → b.isStart = false
  /-- No two calls of the executor overlap. -/
  apart : ∀ before after, events = before ++ after →
    starts (jobAfter jobId before).acts ≤ finishes (jobAfter jobId before).acts + 1
  /-- They are no more than the attempts. -/
  bounded : ∀ row, (jobAfter jobId events).row = some row →
    (starts (jobAfter jobId events).acts : Int) ≤ max 0 (row.maxRetries + 1)

theorem Orderly.of_prefix {acts acts' : List JobAct} (hgrows : acts <+: acts')
    (h : Orderly acts') : Orderly acts := by
  obtain ⟨rest, rfl⟩ := hgrows
  intro n
  have hn := h ⟨n, by simp; omega⟩
  have htake : (acts ++ rest).take n = acts.take n :=
    List.take_append_of_le_length (Nat.le_of_lt n.isLt)
  simpa [htake] using hn

theorem Orderly.parts {acts : List JobAct} {act : JobAct} (h : Orderly (acts ++ [act])) :
    Orderly acts ∧ Allowed acts act := by
  refine ⟨h.of_prefix (List.prefix_append _ _), ?_⟩
  have hlast := h ⟨acts.length, by simp⟩
  simpa using hlast

section Runs

variable {jobId : String}

/-- A move puts at most one act into the history. -/
theorem Move.acts {worker : Nat} {h h' : Position} {v v' : JobView}
    (hmove : Move jobId worker h v h' v') :
    v'.acts = v.acts ∨ ∃ act, v'.acts = v.acts ++ [act] := by
  cases hmove with
  | stays => exact .inl rfl
  | drops => exact .inl rfl
  | created => exact .inl rfl
  | loaded => exact .inr ⟨_, rfl⟩
  | opened => exact .inr ⟨_, rfl⟩
  | commits => exact .inr ⟨_, rfl⟩
  | starts => exact .inr ⟨_, rfl⟩
  | finishes => exact .inr ⟨_, rfl⟩

/-- What the moves of an orderly history keep. -/
theorem orderly_move {positions : Nat → Position} {v v' : JobView} {worker : Nat} {h' : Position}
    {S : JobView → Prop} (hsafe : Orderly v.acts → Safe positions v ∧ S v)
    (hS : Safe positions v → (∀ act, v'.acts = v.acts ++ [act] → Allowed v.acts act) → S v → S v')
    (hmove : Move jobId worker (positions worker) v h' v') (horderly : Orderly v'.acts) :
    Safe (Function.update positions worker h') v' ∧ S v' := by
  have hparts : Orderly v.acts ∧ ∀ act, v'.acts = v.acts ++ [act] → Allowed v.acts act := by
    rcases hmove.acts with hsame | ⟨act, hact⟩
    · rw [hsame] at horderly
      refine ⟨horderly, fun act hact => ?_⟩
      rw [hsame] at hact
      simp at hact
    · rw [hact] at horderly
      refine ⟨horderly.parts.1, fun act' hact' => ?_⟩
      obtain rfl := by simpa using hact.symm.trans hact'
      exact horderly.parts.2
  obtain ⟨hbefore, hallowed⟩ := hparts
  obtain ⟨hnow, hs⟩ := hsafe hbefore
  exact ⟨hnow.move hmove hallowed, hS hnow hallowed hs⟩

/-- The positions of a configuration. -/
abbrev PlayingJob (jobId : String) (c : WorkerConfig) (positions : Nat → Position) : Prop :=
  Playing (jobView jobId) (Move jobId) .idle c positions

/-- **What every move keeps is kept by the run.** -/
theorem run_keeps {I : (Nat → Position) → JobView → Prop}
    (hmove : ∀ positions v worker h v', I positions v →
      Move jobId worker (positions worker) v h v' → I (Function.update positions worker h) v')
    (before : List (Event WorkerCall Empty)) {positions : Nat → Position}
    (hplaying : PlayingJob jobId (runWorkers before) positions)
    (hI : I positions (jobAfter jobId before)) (after : List (Event WorkerCall Empty)) :
    ∃ positions', PlayingJob jobId (runWorkers (before ++ after)) positions' ∧
      I positions' (jobAfter jobId (before ++ after)) := by
  have happend : runWorkers (before ++ after) =
      (runWorkers before).runAll (fun worker call => call.body worker) (fun e _ => e.elim) after :=
    List.foldl_append ..
  unfold jobAfter
  rw [happend]
  exact Playing.run (fun _ call => plays_body call) (fun e => e.elim) hmove after hplaying hI

theorem playing_nil : PlayingJob jobId (runWorkers []) fun _ => .idle := Playing.initial _

theorem playing_run (jobId : String) (events : List (Event WorkerCall Empty)) :
    ∃ positions, PlayingJob jobId (runWorkers events) positions := by
  obtain ⟨positions, hplaying, -⟩ := run_keeps (I := fun _ _ => True)
    (fun _ _ _ _ _ _ _ => trivial) [] (@playing_nil jobId) trivial events
  exact ⟨positions, hplaying⟩

/-- Nothing that has happened is forgotten. -/
theorem acts_grow (before after : List (Event WorkerCall Empty)) :
    (jobAfter jobId before).acts <+: (jobAfter jobId (before ++ after)).acts := by
  obtain ⟨positions, hplaying⟩ := playing_run jobId before
  obtain ⟨-, -, hacts⟩ := run_keeps
    (I := fun _ v => (jobAfter jobId before).acts <+: v.acts) (fun _ v _ _ v' hv hmove => by
      rcases hmove.acts with hsame | ⟨act, hact⟩
      · rw [hsame]
        exact hv
      · rw [hact]
        exact hv.trans (List.prefix_append _ _)) before hplaying List.prefix_rfl after
  exact hacts

theorem safe_empty : Safe (fun _ => .idle) ⟨none, []⟩ := by
  refine ⟨⟨rfl, fun _ => trivial, ?_⟩, fun _ => trivial, ?_, List.Pairwise.nil, none, ?_, rfl⟩
  · intro i k job job' h
    cases h
  · rintro ⟨act, hact, -⟩
    cases hact
  · intro k
    refine iff_of_false ?_ nofun
    rintro ⟨job, hjob⟩
    cases hjob

/-- **An orderly run is safe at its end.** -/
theorem safe_run (jobId : String) (events : List (Event WorkerCall Empty)) :
    ∃ positions, PlayingJob jobId (runWorkers events) positions ∧
      (Orderly (jobAfter jobId events).acts → Safe positions (jobAfter jobId events)) := by
  have hempty : jobAfter jobId [] = ⟨none, []⟩ := rfl
  refine run_keeps (I := fun positions v => Orderly v.acts → Safe positions v) ?_ [] playing_nil ?_
    events
  · intro positions v worker h v' hsafe hmove horderly
    exact (orderly_move (S := fun _ => True) (fun hv => ⟨hsafe hv, trivial⟩)
      (fun _ _ _ => trivial) hmove horderly).1
  · intro _
    rw [hempty]
    exact safe_empty

/-- In an orderly run a terminal job stays as it is. -/
theorem terminal_move {positions : Nat → Position} {v v' : JobView} {worker : Nat}
    {h' : Position} {row : ExecutionJob} (hsafe : Safe positions v)
    (hallowed : ∀ act, v'.acts = v.acts ++ [act] → Allowed v.acts act)
    (hmove : Move jobId worker (positions worker) v h' v') (hterminal : row.status.isTerminal = true)
    (hrow : v.row = some row) : v'.row = some row := by
  generalize hp : positions worker = p at hmove
  cases hmove with
  | stays => exact hrow
  | drops => exact hrow
  | loaded => exact hrow
  | opened => exact hrow
  | starts => exact hrow
  | finishes => exact hrow
  | created hnone =>
      rw [hrow] at hnone
      cases hnone
  | commits hcommits =>
      obtain ⟨hnow, -⟩ := hallowed _ rfl
      obtain ⟨row', hrow', hopen, -⟩ := hsafe.open_of_commits (hp ▸ hcommits) hnow
      obtain rfl := Option.some.inj (hrow.symm.trans hrow')
      rw [hterminal] at hopen
      cases hopen

/-- **In every run in which the history of a job is orderly, the worker gives it what it
owes.** -/
theorem orderly_exclusive (jobId : String) (events : List (Event WorkerCall Empty))
    (horderly : Orderly (jobAfter jobId events).acts) : Exclusive jobId events := by
  have hgrows : ∀ before after, events = before ++ after →
      Orderly (jobAfter jobId before).acts := by
    rintro before after rfl
    exact horderly.of_prefix (acts_grow before after)
  obtain ⟨positions, -, hsafe⟩ := safe_run jobId events
  have hnow := hsafe horderly
  refine ⟨?_, hnow.ended, ?_, ?_⟩
  · rintro before after row rfl hrow hterminal
    obtain ⟨positions, hplaying, hbefore⟩ := safe_run jobId before
    obtain ⟨positions', -, hafter⟩ := run_keeps
      (I := fun positions v => Orderly v.acts → Safe positions v ∧ v.row = some row)
      (fun _ _ _ _ _ hI hmove => orderly_move (S := fun v => v.row = some row) hI
        (fun hsafe hallowed hrow => terminal_move hsafe hallowed hmove hterminal hrow) hmove)
      before hplaying (fun hv => ⟨hbefore hv, hrow⟩) after
    exact (hafter horderly).2
  · intro before after hsplit
    obtain ⟨positions, -, hbefore⟩ := safe_run jobId before
    obtain ⟨caller, hcaller⟩ := (hbefore (hgrows before after hsplit)).caller
    rw [hcaller.count]
    split <;> omega
  · intro row hrow
    have hcounted := hnow.counted.row
    rw [hrow] at hcounted
    exact Int.le_trans hcounted.1 hcounted.2

end Runs

/-! ### Two schedules -/

/-- The submission of a payment. -/
def submitPay : WorkerCall := .submit {
  tenantId := "tenant"
  intentId := "intent"
  idempotencyKey := "key"
  actionType := "pay"
  actionParams := .obj []
  jobId := "job"
  now := 0 }

/-- The executor succeeds. -/
def payPlan : RunPlan where
  enteredAt := 1
  attemptedAt := fun _ => 1
  executor := fun _ => .returned { ok := true, encoded := .text (.obj []) }
  completedAt := 1

/-- The executor raises, and succeeds when it is called again. -/
def secondTryPlan : RunPlan :=
  { payPlan with executor := fun attempt =>
      if attempt = 1 then .raised "TimeoutError" "no answer" else payPlan.executor attempt }

/-- A run takes two attempts, and then the job is to be cancelled, and run again. -/
def cancelledAfter : List (Event WorkerCall Empty) :=
  [.start submitPay, .resume 0, .resume 0, .resume 0, .start (.run secondTryPlan "job")]
    ++ List.replicate 9 (.resume 1)
    ++ [.start (.cancel .committed 1 "job"), .resume 2, .resume 2,
      .start (.run payPlan "job"), .resume 3]

/-- The executor is called twice, and the job stays succeeded. -/
theorem cancelledAfter_exclusive :
    Exclusive "job" cancelledAfter ∧ starts (jobAfter "job" cancelledAfter).acts = 2 ∧
      (jobAfter "job" cancelledAfter).row.map (·.status) = some .succeeded :=
  ⟨orderly_exclusive "job" cancelledAfter (by decide), by decide,
    by decide⟩

/-- A run has called the executor when the job is cancelled. -/
def cancelledMeanwhile : List (Event WorkerCall Empty) :=
  [.start submitPay, .resume 0, .resume 0, .resume 0,
    .start (.run payPlan "job"), .resume 1, .resume 1, .resume 1, .resume 1,
    .start (.cancel .committed 1 "job"), .resume 2, .resume 2]

/-- It succeeds, and commits that over the cancellation. -/
theorem cancelled_overwritten :
    ¬ Exclusive "job" (cancelledMeanwhile ++ [.resume 1, .resume 1]) := by
  intro h
  have hbefore : (jobAfter "job" cancelledMeanwhile).row.map (·.status) = some .cancelled := by
    decide
  have hafter : (jobAfter "job" (cancelledMeanwhile ++ [.resume 1, .resume 1])).row.map (·.status) =
      some .succeeded := by
    decide
  obtain ⟨row, hrow, hstatus⟩ := Option.map_eq_some_iff.mp hbefore
  rw [h.absorbing _ _ row rfl hrow (by rw [hstatus]; rfl), Option.map_some, hstatus] at hafter
  cases hafter

end ControlPlane.ExecutionWorker
