/-
Idempotent creation of intents.

`create_intent` looks through the intents of all tenants of its session, and inserts one for
the first of these tenants.  So a request may find an intent of another tenant, and two
requests that both looked before either inserted insert twice.  Nothing else can go wrong:
`createsOnce_iff`.
-/
import ControlPlane.Lib.CreateOnce
import ControlPlane.Services.IntentsSessions

namespace ControlPlane.IntentsApi

/-- A request to create an intent, with the identifiers it draws and its time. -/
structure CreateCall where
  request : CreateIntentRequest
  session : AuthenticatedSession
  intentId : String
  generatedKey : String
  now : Time

/-- `request.idempotency_key or` the generated one. -/
def CreateCall.idemKey (call : CreateCall) : String :=
  match call.request.idempotencyKey with
  | none => call.generatedKey
  | some key => if key = "" then call.generatedKey else key

/-- The tenant that the call's own intent would be created in. -/
def CreateCall.tenantId (call : CreateCall) : Option String := call.session.tenantIds.head?

/-- The program of the request. -/
def CreateCall.body (call : CreateCall) : Endpoint IntentRecord :=
  Session.createIntent call.request call.session call.intentId call.generatedKey call.now

/-- The row of the call's own intent. -/
def CreateCall.record (call : CreateCall) : IntentRecord :=
  newRecord call.request call.session call.intentId call.idemKey call.now

/-- A configuration of such requests. -/
abbrev CreateConfig := Config World HttpError IntentRecord CreateCall

/-- The configuration after these events, from an empty table. -/
def runCreations (events : List (Event CreateCall Empty)) : CreateConfig :=
  Config.runAll (fun _ call => call.body) (fun e _ => e.elim) (Config.initial ⟨.empty, []⟩) events

/-! ### Creating once -/

theorem mem_idempotencyScope {table : IntentTable} {session : AuthenticatedSession}
    {record : IntentRecord} (h : record ∈ idempotencyScope table session) : record ∈ table := by
  unfold idempotencyScope at h
  by_cases hempty : session.tenantIds.isEmpty = false
  · rw [if_pos hempty] at h
    exact List.mem_of_mem_filter h
  · rw [if_neg hempty] at h
    by_cases hadmin : session.isPlatformAdmin = true
    · rw [if_pos hadmin] at h
      exact h
    · rw [if_neg hadmin] at h
      simp at h

/-- `create_intent`, as a call that creates a row unless it finds one. -/
def intentCreator :
    Creator World HttpError IntentRecord CreateCall (Option String × String) where
  rows w := w.intents.rows
  find call w := (idempotencyScope w.intents.rows call.session).find? fun r =>
    r.body.idempotencyKey = call.idemKey
  create := CreateCall.record
  insert call w :=
    if call.request.expires call.now = false then .error overflowError
    else
      match w.intents.insert? call.record with
      | none => .error ⟨500, "integrity error"⟩
      | some intents => .ok ((), { w with intents := intents })
  reload call w := w.intents.get? call.intentId
  lost := ⟨500, "could not refresh instance"⟩
  label record := (record.requesterTenantId, record.body.idempotencyKey)
  wanted call := (call.tenantId, call.idemKey)
  find_mem := fun h => mem_idempotencyScope (List.mem_of_find?_eq_some h)
  insert_ok := by
    intro call w w' h
    split_ifs at h
    cases hinsert : w.intents.insert? call.record with
    | none =>
        rw [hinsert] at h
        cases h
    | some intents =>
        rw [hinsert] at h
        cases h
        exact (Table.insert?_eq_some hinsert).2
  reload_eq := by
    intro call w row hrow hreload
    have hown : w.intents.get? call.intentId = some call.record := Table.get?_of_mem hrow
    exact Option.some.inj (hreload.symm.trans hown)
  create_label := fun _ => rfl

theorem intentCreator_body (call : CreateCall) : intentCreator.body call = call.body := by
  have hload : intentCreator.load call = Session.refresh call.intentId := by
    refine congrArg (Prog.window _ _) (funext fun w => ?_)
    show (Prog.ret (w.intents.get? call.intentId)).bind _ =
      (Prog.ret (w.intents.get? call.intentId)).bind _
    cases w.intents.get? call.intentId <;> rfl
  refine congrArg (Prog.window _ _) (funext fun w => ?_)
  show (Prog.ret (intentCreator.find call w)).bind _ =
    (Prog.ret (idempotencyScope w.intents.rows call.session)).bind _
  simp only [Prog.bind_ret]
  split
  case h_1 found row hfind =>
    have hsame : List.find? _ _ = some row := hfind
    erw [hsame]
  case h_2 found hfind =>
    have hsame : List.find? _ _ = none := hfind
    erw [hsame, ← hload]
    rfl

/-- What `create_intent` promises. -/
structure CreatesOnce (c : CreateConfig) : Prop where
  /-- At most one intent has a tenant and a key. -/
  unique : (c.store.intents.rows.map fun r => (r.requesterTenantId, r.body.idempotencyKey)).Nodup
  /-- A request returns an intent of its own creating tenant and key. -/
  own : ∀ i call record, c.Returned i call (.ok record) →
    record.requesterTenantId = call.tenantId ∧ record.body.idempotencyKey = call.idemKey
  /-- A replay returns the same intent. -/
  replay : ∀ i j call call' record record', c.Returned i call (.ok record) →
    c.Returned j call' (.ok record') → call.session = call'.session →
    call.idemKey = call'.idemKey → record.intentId = record'.intentId

theorem createsOnce_iff_good {c : CreateConfig} (hstaged : intentCreator.Staged c) :
    CreatesOnce c ↔ intentCreator.Good c := by
  constructor
  · intro h
    refine ⟨h.unique, ?_⟩
    intro i call record hrecord
    obtain ⟨htenant, hkey⟩ := h.own i call record hrecord
    exact Prod.ext htenant hkey
  · intro h
    refine ⟨h.unique, ?_, ?_⟩
    · intro i call record hrecord
      exact Prod.mk.inj (h.returned i call record hrecord)
    · intro i j call call' record record' hi hj hsession hkey
      have hwanted : intentCreator.wanted call = intentCreator.wanted call' := by
        show (call.session.tenantIds.head?, call.idemKey) = (call'.session.tenantIds.head?, _)
        rw [hsession, hkey]
      rw [h.same hstaged hi hj hwanted]

/-- **All along a run intents are created once, exactly if every request that looks finds only
what it wants, and every request that inserts inserts where no intent has its tenant and
key.** -/
theorem createsOnce_iff (events : List (Event CreateCall Empty)) :
    (∀ before after, events = before ++ after → CreatesOnce (runCreations before)) ↔
      ∀ before event after, events = before ++ event :: after →
        intentCreator.Timely (runCreations before) event := by
  have hbody : (fun (_ : Nat) (call : CreateCall) => call.body) = fun _ => intentCreator.body := by
    funext _ call
    exact (intentCreator_body call).symm
  unfold runCreations
  rw [hbody]
  let noEvent : Empty → World → World := fun e _ => e.elim
  have henv : ∀ e w, intentCreator.rows (noEvent e w) = intentCreator.rows w := fun e => e.elim
  have hempty : intentCreator.rows ⟨.empty, []⟩ = [] := rfl
  refine Iff.trans ?_ (Creator.good_iff henv hempty events)
  refine forall_congr' fun before => forall_congr' fun after => imp_congr_right fun _ => ?_
  exact createsOnce_iff_good (Creator.staged_run henv _ before)

/-! ### Two requests at once -/

/-- A payment under a key of its own. -/
def payRequest : CreateCall where
  request := { actionType := "pay", actionParams := .obj [], targetId := "bank",
               idempotencyKey := some "key", metadata := .obj [] }
  session := ⟨"user", false, [("tenant", [])]⟩
  intentId := "first"
  generatedKey := "op"
  now := 0

/-- Both look before either inserts. -/
def bothCreate : List (Event CreateCall Empty) :=
  [.start payRequest, .start { payRequest with intentId := "second" }, .resume 0, .resume 1,
    .resume 0, .resume 1]

theorem created_twice : ¬ CreatesOnce (runCreations bothCreate) := by
  intro h
  have hrows : ((runCreations bothCreate).store.intents.rows.map fun r =>
      (r.requesterTenantId, r.body.idempotencyKey)) = [(some "tenant", "key"), (some "tenant", "key")] := by
    decide +kernel
  have hunique := h.unique
  rw [hrows] at hunique
  simp at hunique

end ControlPlane.IntentsApi
