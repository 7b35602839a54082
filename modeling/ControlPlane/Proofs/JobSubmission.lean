/-
Idempotent submission of jobs.

`submit_job` looks for a job with the tenant and the key it was given, and inserts one if there
is none.  What it finds is always right, and nothing makes the index unique: so all that can go
wrong is an insertion after another one, `submittedOnce_iff`.
-/
import ControlPlane.Lib.CreateOnce
import ControlPlane.Services.ExecutionWorker

namespace ControlPlane.ExecutionWorker

/-- A configuration of submissions that run next to each other. -/
abbrev SubmitConfig := Config JobStore WorkerError ExecutionJob SubmitCall

/-- The configuration after these events, from an empty table. -/
def runSubmissions (events : List (Event SubmitCall Empty)) : SubmitConfig :=
  Config.runAll (fun _ => submitJob) (fun e _ => e.elim) (Config.initial ⟨.empty, []⟩) events

/-- `submit_job`, as a call that creates a row unless it finds one. -/
def jobCreator : Creator JobStore WorkerError ExecutionJob SubmitCall (String × String) where
  rows w := w.jobs.rows
  find := SubmitCall.existing
  create := SubmitCall.job
  insert := SubmitCall.insert
  reload call w := w.jobs.get? call.jobId
  lost := .unhandled
  label job := (job.tenantId, job.idempotencyKey)
  wanted call := (call.tenantId, call.idempotencyKey)
  find_mem := List.mem_of_find?_eq_some
  insert_ok := by
    intro call w w' h
    unfold SubmitCall.insert at h
    cases hinsert : w.jobs.insert? call.job with
    | none =>
        rw [hinsert] at h
        cases h
    | some jobs =>
        rw [hinsert] at h
        cases h
        exact (Table.insert?_eq_some hinsert).2
  reload_eq := by
    intro call w row hrow hreload
    have hown : w.jobs.get? call.jobId = some call.job := Table.get?_of_mem hrow
    exact Option.some.inj (hreload.symm.trans hown)
  create_label := fun _ => rfl

theorem jobCreator_load (call : SubmitCall) : jobCreator.load call
    = Prog.bind (Prog.read fun w => w.jobs.get? call.jobId) (fun job => match job with
      | none => Prog.raise .unhandled
      | some job => return job) := by
  refine congrArg (Prog.window _ _) (funext fun w => ?_)
  show (Prog.ret (w.jobs.get? call.jobId)).bind _ = (Prog.ret (w.jobs.get? call.jobId)).bind _
  cases w.jobs.get? call.jobId <;> rfl

theorem jobCreator_body : jobCreator.body = submitJob := by
  funext call
  refine congrArg (Prog.window _ _) (funext fun w => ?_)
  show (Prog.ret (jobCreator.find call w)).bind _ = (Prog.ret (call.existing w)).bind _
  show (Prog.ret (call.existing w)).bind _ = (Prog.ret (call.existing w)).bind _
  cases call.existing w with
  | some job => rfl
  | none =>
      simp only [Prog.bind_ret]
      unfold Creator.store
      rw [jobCreator_load]
      rfl

/-- What `submit_job` promises. -/
structure SubmittedOnce (c : SubmitConfig) : Prop where
  /-- At most one job has a tenant and a key. -/
  unique : (c.store.jobs.rows.map fun job => (job.tenantId, job.idempotencyKey)).Nodup
  /-- Calls with one tenant and key return one job. -/
  same : ∀ i j call call' job job', c.Returned i call (.ok job) → c.Returned j call' (.ok job') →
    call.tenantId = call'.tenantId → call.idempotencyKey = call'.idempotencyKey →
    job.jobId = job'.jobId
  /-- A call returns a job of its own tenant, with its own key. -/
  own : ∀ i call job, c.Returned i call (.ok job) →
    job.tenantId = call.tenantId ∧ job.idempotencyKey = call.idempotencyKey

theorem submittedOnce_iff_good {c : SubmitConfig} (hstaged : jobCreator.Staged c) :
    SubmittedOnce c ↔ jobCreator.Good c := by
  constructor
  · intro h
    refine ⟨h.unique, ?_⟩
    intro i call job hjob
    obtain ⟨htenant, hkey⟩ := h.own i call job hjob
    exact Prod.ext htenant hkey
  · intro h
    refine ⟨h.unique, ?_, ?_⟩
    · intro i j call call' job job' hi hj htenant hkey
      have hwanted : jobCreator.wanted call = jobCreator.wanted call' := Prod.ext htenant hkey
      rw [h.same hstaged hi hj hwanted]
    · intro i call job hjob
      exact Prod.mk.inj (h.returned i call job hjob)

/-- **All along a run jobs are submitted once, exactly if every call that inserts a job inserts
it where no job has its tenant and key.** -/
theorem submittedOnce_iff (events : List (Event SubmitCall Empty)) :
    (∀ before after, events = before ++ after → SubmittedOnce (runSubmissions before)) ↔
      ∀ before event after, events = before ++ event :: after →
        jobCreator.Fresh (runSubmissions before) event := by
  let noEvent : Empty → JobStore → JobStore := fun e _ => e.elim
  have henv : ∀ e w, jobCreator.rows (noEvent e w) = jobCreator.rows w := fun e => e.elim
  have hempty : jobCreator.rows ⟨.empty, []⟩ = [] := rfl
  have hgood := Creator.good_iff henv hempty events
  have hstaged := fun before => Creator.staged_run henv ⟨.empty, []⟩ before
  rw [jobCreator_body] at hgood hstaged
  have hfind : ∀ {call w row}, jobCreator.find call w = some row →
      jobCreator.label row = jobCreator.wanted call := by
    intro call w row hrow
    have hboth := List.find?_some hrow
    rw [Bool.and_eq_true, decide_eq_true_iff, decide_eq_true_iff] at hboth
    exact Prod.ext hboth.2 hboth.1
  constructor
  · intro h before event after hsplit
    refine (Creator.timely_iff_fresh hfind _ event).mp ?_
    refine hgood.mp ?_ before event after hsplit
    intro before after hsplit
    exact (submittedOnce_iff_good (hstaged before)).mp (h before after hsplit)
  · intro h before after hsplit
    refine (submittedOnce_iff_good (hstaged before)).mpr ?_
    refine hgood.mpr ?_ before after hsplit
    intro before event after hsplit
    exact (Creator.timely_iff_fresh hfind _ event).mpr (h before event after hsplit)

/-! ### Two submissions at once -/

/-- A payment, submitted under a key. -/
def payJob : SubmitCall where
  tenantId := "tenant"
  intentId := "intent"
  idempotencyKey := "key"
  actionType := "pay"
  actionParams := .obj []
  jobId := "first"
  now := 0

/-- Both look before either inserts. -/
def bothSubmit : List (Event SubmitCall Empty) :=
  [.start payJob, .start { payJob with jobId := "second" }, .resume 0, .resume 1, .resume 0,
    .resume 1]

theorem submitted_twice : ¬ SubmittedOnce (runSubmissions bothSubmit) := by
  intro h
  have hrows : ((runSubmissions bothSubmit).store.jobs.rows.map fun job =>
      (job.tenantId, job.idempotencyKey)) = [("tenant", "key"), ("tenant", "key")] := by
    decide
  have hunique := h.unique
  rw [hrows] at hunique
  simp at hunique

end ControlPlane.ExecutionWorker
